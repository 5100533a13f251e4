import QueryWarden.Database.Store
import QueryWarden.Value.Basic

/-!
# Field paths

The paths of a document are the chains of its keys, joined by a separator.  The mappings in a list
share the path of the list, and the key `_id` at the top level is left out.  Paths are listed in
the order in which a walk of the document meets them first.

The field paths of a collection are learned from its first documents.  A collection that cannot be
sampled because of the database or of the connection has no known paths, and the same holds of one
that cannot be opened.
-/

namespace QueryWarden.Schema

/-! ## Paths of documents -/

/-- The path of a key below a parent; at the top level the parent is empty. -/
def joinPath (sep parent key : String) : String :=
  if parent = "" then key else parent ++ sep ++ key

mutual

/-- The paths below a value whose own path is `parent`. -/
def pathsBelow (sep parent : String) : Value → List String
  | .map es => entryPaths sep parent es
  | .list vs => itemPaths sep parent vs
  | _ => []

def entryPaths (sep parent : String) : List (String × Value) → List String
  | [] => []
  | (k, v) :: es =>
    if k == "_id" && parent == "" then entryPaths sep parent es
    else joinPath sep parent k :: pathsBelow sep (joinPath sep parent k) v
      ++ entryPaths sep parent es

def itemPaths (sep parent : String) : List Value → List String
  | [] => []
  | v :: vs =>
    (match v with
      | .map es => entryPaths sep parent es
      | _ => []) ++ itemPaths sep parent vs

end

/-- Appends the paths that are not listed yet. -/
def addPaths (seen paths : List String) : List String :=
  paths.foldl (fun seen p => if seen.contains p then seen else seen ++ [p]) seen

def documentPaths (sep parent : String) : Value → List String
  | .map es => entryPaths sep parent es
  | _ => []

/-- The distinct paths of several documents. -/
def fieldPaths (docs : List Value) : List String :=
  addPaths [] (docs.flatMap (documentPaths "." ""))

/-! ## Samples -/

/-- The number of documents of a sample where none is set. -/
def defaultSampleSize : Int := 50

def sampleDocs (c : Collection) (size : Positive) : Step (List Value) := do
  let cursor ← c.find (.map []) {}
  let cursor ← cursor.cut size.value
  cursor.read

def isExcused (f : Fault) : Bool :=
  f.isDatabase || f.isIo

/-- The field paths in the first documents of a collection. -/
def samplePaths (c : Collection) (size : Positive) : Step (List String) :=
  (sampleDocs c size).mapOutcome fun
    | .ok docs => .ok (fieldPaths docs)
    | .error f => if isExcused f then .ok [] else .error f

/-- Opens a collection to sample it; one that the database or its name keeps closed is none. -/
def openToSample (s : Store) (name : String) (database : Option String) :
    Step (Option Collection) :=
  (s.openCollection name database).mapOutcome fun
    | .ok c => .ok (some c)
    | .error f => if f.isDatabase || f.isValue then .ok none else .error f

def pathsOf (s : Store) (size : Positive) (name : String) (database : Option String) :
    Step (List String) := do
  match ← openToSample s name database with
  | some c => samplePaths c size
  | none => return []

end QueryWarden.Schema
