import QueryWarden.Text.Case
import QueryWarden.Value.Basic

/-!
# Re-casing keys

A `CaseMap` gives the known spelling of a field path under its lower-case form.  `CaseMap.recase`
spells the keys of a tree as the map knows them.  When several keys of one mapping stand for the
same path, the one that is spelled right, or else the first, takes the spelling and the others
stay as they are.
-/

namespace QueryWarden

/-- Spellings under lower-case forms. -/
structure CaseMap where
  entries : List (String × String)
  deriving DecidableEq

namespace CaseMap

def get? (m : CaseMap) (folded : String) : Option String :=
  m.entries.lookup folded

/-- Adds a path unless its lower-case form is known. -/
def add (m : CaseMap) (path : String) : CaseMap :=
  if (m.get? (Text.lower path)).isSome then m else ⟨m.entries ++ [(Text.lower path, path)]⟩

/-- The map of the given paths, where the first spelling counts. -/
def ofPaths (paths : List String) : CaseMap :=
  paths.foldl add ⟨[]⟩

def isCanonical (m : CaseMap) (key : String) : Bool :=
  m.get? (Text.lower key) == some key

def spelling (m : CaseMap) (key : String) : String :=
  (m.get? (Text.lower key)).getD key

/-- The new spellings of the keys of one mapping, where the spellings `taken` are no longer free. -/
def respell (m : CaseMap) (taken : List String) : List String → List String
  | [] => []
  | k :: ks =>
    if taken.contains k then k :: respell m taken ks
    else if taken.contains (m.spelling k) then k :: respell m taken ks
    else m.spelling k :: respell m (m.spelling k :: taken) ks

/-- The new spellings of the keys of one mapping. -/
def newKeys (m : CaseMap) (keys : List String) : List String :=
  m.respell (keys.filter m.isCanonical) keys

mutual

/-- Spells the keys of a tree as the map knows them. -/
def recaseTree (m : CaseMap) : Value → Value
  | .map es =>
    .map (Fields.ofEntries ((m.newKeys (es.map (·.1))).zip (recaseEntries m es)))
  | .list vs => .list (recaseItems m vs)
  | v => v

def recaseEntries (m : CaseMap) : List (String × Value) → List Value
  | [] => []
  | (_, v) :: es => recaseTree m v :: recaseEntries m es

def recaseItems (m : CaseMap) : List Value → List Value
  | [] => []
  | v :: vs => recaseTree m v :: recaseItems m vs

end

/-- Spells the keys of a mapping and of its values as the map knows them. -/
def recaseFields (m : CaseMap) (fs : Fields) : Fields :=
  Fields.ofEntries ((m.newKeys (fs.map (·.1))).zip (m.recaseEntries fs))

/-- Spells the keys of a tree as the map knows them; an empty map knows none. -/
def recase (m : CaseMap) (tree : Value) : Value :=
  if m.entries.isEmpty then tree else m.recaseTree tree

theorem recaseTree_map (m : CaseMap) (fs : Fields) :
    m.recaseTree (.map fs) = .map (m.recaseFields fs) := by
  rw [recaseTree, recaseFields]

end CaseMap

end QueryWarden
