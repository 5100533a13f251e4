import QueryWarden.Prompt
import QueryWarden.Traced

/-!
# Stores of collections

What the service asks of its collaborators, the store of collections, the collections themselves
and the model, is recorded as a list of calls.

A `Collection` holds documents and may fail: when it is queried, when its cursor is cut, or before
the cursor is read to its end.  A find keeps to its limit; an aggregation gives all documents.

A `Store` opens collections by name and lists them.  `Store.inMemory` holds the given collections
in every database.
-/

namespace QueryWarden

/-! ## Calls to the outside -/

/-- The options of a find.  `ignoreCase` asks for a collation that tells letters apart and not
their case. -/
structure FindOptions where
  limit : Option Int := none
  projection : Option Value := none
  sort : Option Fields := none
  ignoreCase : Bool := false
  deriving DecidableEq

inductive Call where
  | openCollection (name : String) (database : Option String)
  | listCollections (database : Option String)
  | find (filter : Value) (options : FindOptions)
  | cut (limit : Int)
  | aggregate (stages : Value)
  | generate (prompt : Prompt)
  deriving DecidableEq

namespace Call

def isExecution : Call → Bool
  | .find _ _ | .aggregate _ => true
  | _ => false

def isGeneration : Call → Bool
  | .generate _ => true
  | _ => false

end Call

/-- A step of the service with its calls. -/
abbrev Step := Traced Call

/-! ## Collections -/

/-- A collection of documents, with the faults it answers with. -/
structure Collection where
  docs : List Value
  queryFault : Option Fault := none
  cutFault : Option Fault := none
  readFault : Option Fault := none

/-- Documents that are about to be read. -/
structure Cursor where
  docs : List Value
  cutFault : Option Fault
  readFault : Option Fault

/-- The fault, or the result where there is none. -/
def unlessFault {α : Type} (f : Option Fault) (a : α) : Except Fault α :=
  match f with
  | some f => .error f
  | none => .ok a

namespace Collection

def empty : Collection := { docs := [] }

def within (docs : List Value) (limit : Option Int) : List Value :=
  match limit with
  | some n => docs.take n.toNat
  | none => docs

def find (c : Collection) (filter : Value) (options : FindOptions) : Step Cursor :=
  .call (.find filter options)
    (unlessFault c.queryFault ⟨within c.docs options.limit, c.cutFault, c.readFault⟩)

def aggregate (c : Collection) (stages : Value) : Step Cursor :=
  .call (.aggregate stages) (unlessFault c.queryFault ⟨c.docs, c.cutFault, c.readFault⟩)

end Collection

namespace Cursor

def cut (c : Cursor) (limit : Int) : Step Cursor :=
  .call (.cut limit) (unlessFault c.cutFault { c with docs := c.docs.take limit.toNat })

def read (c : Cursor) : Step (List Value) :=
  .ofExcept (unlessFault c.readFault c.docs)

end Cursor

/-! ## Stores -/

/-- The name of a collection and the number of its documents, when that is known. -/
structure Listing where
  name : String
  count : Option Int
  deriving DecidableEq, Repr

def sortListings (ls : List Listing) : List Listing :=
  ls.mergeSort fun a b => decide (a.name ≤ b.name)

def Listing.toValue (l : Listing) : Value :=
  .map [("name", .string l.name), ("count", (l.count.map .int).getD .null)]

/-- What answers for the collections of the databases. -/
structure Store where
  collection : String → Option String → Except Fault Collection
  listings : Option String → Except Fault (List Listing)

/-- A collection in memory, and the fault that opening it ends with, if any. -/
structure StoredCollection where
  collection : Collection
  openFault : Option Fault := none

namespace Store

/-- The store of the given collections, where a name that is not among them stands for an empty
collection. -/
def inMemory (cs : List (String × StoredCollection)) : Store where
  collection name _ :=
    match cs.lookup name with
    | some c => unlessFault c.openFault c.collection
    | none => .ok .empty
  listings _ := .ok (sortListings (cs.map fun c => ⟨c.1, some c.2.collection.docs.length⟩))

def openCollection (s : Store) (name : String) (database : Option String) : Step Collection :=
  .call (.openCollection name database) (s.collection name database)

def list (s : Store) (database : Option String) : Step (List Listing) :=
  .call (.listCollections database) (s.listings database)

end Store

end QueryWarden
