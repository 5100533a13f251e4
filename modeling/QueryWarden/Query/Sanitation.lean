import QueryWarden.Text.Blank
import QueryWarden.Value.Text

/-!
# Sanitation

`sanitize` repairs a query tree.  It drops the unusable pattern clauses below the root, and with
them the containers that they leave empty; a value of `$options` beside a pattern that is no
string becomes its text.  The report lists the paths of the dropped clauses and counts the
repaired options.

A stage `$match` may be empty, so the entry under that key stays.

A mapping with the key `$regex` or `$options` is a pattern clause.  It is usable when its pattern
is a string that is not blank.
-/

namespace QueryWarden.Pattern

/-! ## Pattern clauses -/

def isClauseFields (fs : Fields) : Bool :=
  fs.has "$regex" || fs.has "$options"

/-- Whether the entries hold a pattern that is not blank. -/
def isUsableFields (fs : Fields) : Bool :=
  match fs.get? "$regex" with
  | some (.string s) => !Text.isBlankText s
  | _ => false

def isClause : Value → Bool
  | .map fs => isClauseFields fs
  | _ => false

/-- Whether a value is a mapping with a pattern that is not blank. -/
def isUsable : Value → Bool
  | .map fs => isUsableFields fs
  | _ => false

/-- Whether a value is a pattern clause without a usable pattern. -/
def isUnusableClause (v : Value) : Bool :=
  isClause v && !isUsable v

end QueryWarden.Pattern

namespace QueryWarden

/-! ## Reports -/

structure SanitationReport where
  /-- The paths of the dropped clauses, in the order of the tree. -/
  paths : List String
  /-- The number of options that became texts. -/
  coerced : Nat
  deriving DecidableEq, Repr

namespace SanitationReport

def empty : SanitationReport := ⟨[], 0⟩

def append (r s : SanitationReport) : SanitationReport :=
  ⟨r.paths ++ s.paths, r.coerced + s.coerced⟩

instance : Append SanitationReport := ⟨append⟩

def removed (r : SanitationReport) : Nat :=
  r.paths.length

/-- The counts in one line. -/
def summary (r : SanitationReport) : String :=
  "SanitizationReport(removed=" ++ toString r.removed ++ ", coerced=" ++ toString r.coerced ++ ")"

end SanitationReport

/-! ## Trees -/

namespace Sanitation

/-- The path of the entry `key` of the mapping at `path`. -/
def entryPath (path key : String) : String :=
  if path = "" then key else path ++ "." ++ key

def itemPath (path : String) (i : Nat) : String :=
  path ++ "[" ++ toString i ++ "]"

/-- Whether a container that was not empty became empty by a removal. -/
def isEmptied (before after : Value) (report : SanitationReport) : Bool :=
  report.removed != 0 && !before.isEmptyContainer && after.isEmptyContainer

mutual

/-- The repaired tree at a path, and the report about it. -/
def clean (path : String) : Value → Value × SanitationReport
  | .map es =>
    let r := cleanEntries path (Fields.has es "$regex") es
    (.map r.1, r.2)
  | .list vs =>
    let r := cleanItems path 0 vs
    (.list r.1, r.2)
  | v => (v, .empty)

/-- The repaired entries of the mapping at a path, which holds a pattern or not. -/
def cleanEntries (path : String) (hasPattern : Bool) :
    List (String × Value) → List (String × Value) × SanitationReport
  | [] => ([], .empty)
  | (k, v) :: es =>
    let rest := cleanEntries path hasPattern es
    if Pattern.isUnusableClause v then (rest.1, ⟨[entryPath path k], 0⟩ ++ rest.2)
    else if k == "$options" && hasPattern && !v.isString then
      ((k, .string v.toText) :: rest.1, ⟨[], 1⟩ ++ rest.2)
    else
      let r := clean (entryPath path k) v
      if k != "$match" && isEmptied v r.1 r.2 then (rest.1, r.2 ++ rest.2)
      else ((k, r.1) :: rest.1, r.2 ++ rest.2)

/-- The repaired items from index `i` on of the list at a path.  A list among the items stays even
when it is emptied. -/
def cleanItems (path : String) (i : Nat) : List Value → List Value × SanitationReport
  | [] => ([], .empty)
  | v :: vs =>
    let rest := cleanItems path (i + 1) vs
    if Pattern.isUnusableClause v then (rest.1, ⟨[itemPath path i], 0⟩ ++ rest.2)
    else
      let r := clean (itemPath path i) v
      if v.isMap && isEmptied v r.1 r.2 then (rest.1, r.2 ++ rest.2)
      else (r.1 :: rest.1, r.2 ++ rest.2)

end

end Sanitation

def sanitize (tree : Value) : Value × SanitationReport :=
  Sanitation.clean "" tree

/-! ## Collapse -/

/-- Whether a stage restricts nothing: it is empty or an empty `$match`. -/
def isEmptyStage : Value → Bool
  | .map [] => true
  | .map [(k, .map [])] => k == "$match"
  | _ => false

/-- Whether a tree from which clauses were removed holds no condition any more. -/
def isCollapsed (cleaned : Value) (removed : Nat) : Bool :=
  removed != 0 && match cleaned with
    | .map fs => fs.isEmpty
    | .list stages => stages.all isEmptyStage
    | _ => false

end QueryWarden
