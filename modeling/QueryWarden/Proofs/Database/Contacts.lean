import QueryWarden.Database.Store
import QueryWarden.Proofs.Traced

/-!
# Where a collection may fail

A step meets a collection in up to four contacts: it opens the collection, queries it, cuts the
cursor, and reads the cursor to its end.  Each of them may raise a fault, and the first one that does
ends the step (`Collection.outcome_contact_bind`).  `Store.firstFault?` looks for it.
-/

namespace QueryWarden

/-- The contacts of a step with a collection. -/
inductive Contact where
  | opening
  | querying
  | cutting
  | reading
  deriving DecidableEq, Repr

namespace Collection

variable {c : Collection} {p : Contact} {ps : List Contact} {f : Fault}

/-- The fault that an open collection raises at a contact. -/
def faultAt (c : Collection) : Contact → Option Fault
  | .opening => none
  | .querying => c.queryFault
  | .cutting => c.cutFault
  | .reading => c.readFault

/-- The first of some contacts at which an open collection raises a fault, with this fault. -/
def firstFault? (c : Collection) (ps : List Contact) : Option (Contact × Fault) :=
  ps.findSome? fun p => (c.faultAt p).map fun f => (p, f)

theorem firstFault?_cons_of_some (ps : List Contact) (h : c.faultAt p = some f) :
    c.firstFault? (p :: ps) = some (p, f) := by
  unfold firstFault?
  rw [List.findSome?_cons, h]
  rfl

theorem firstFault?_cons_of_none (ps : List Contact) (h : c.faultAt p = none) :
    c.firstFault? (p :: ps) = c.firstFault? ps := by
  unfold firstFault?
  rw [List.findSome?_cons, h]
  rfl

theorem faultAt_of_firstFault? (h : c.firstFault? ps = some (p, f)) : c.faultAt p = some f := by
  obtain ⟨q, -, hf⟩ := List.exists_of_findSome?_eq_some h
  obtain ⟨e, he, hpair⟩ := Option.map_eq_some_iff.mp hf
  obtain ⟨rfl, rfl⟩ := Prod.mk.inj hpair
  exact he

/-- An open collection raises its faults behind the opening. -/
theorem ne_opening_of_firstFault? (h : c.firstFault? ps = some (p, f)) : p ≠ .opening := by
  rintro rfl
  have hnone : none = some f := faultAt_of_firstFault? h
  exact absurd hnone.symm (Option.some_ne_none f)

/-! ## Steps through contacts -/

variable {α β : Type}

/-- What a step ends with that goes through some contacts and has the result `a` behind them. -/
def ends (c : Collection) (ps : List Contact) (a : α) : Except Fault α :=
  unlessFault ((c.firstFault? ps).map Prod.snd) a

theorem ends_of_none (h : c.firstFault? ps = none) (a : α) : c.ends ps a = .ok a := by
  rw [ends, h]
  rfl

theorem ends_of_some (h : c.firstFault? ps = some (p, f)) (a : α) : c.ends ps a = .error f := by
  rw [ends, h]
  rfl

/-- A call at a contact comes before the contacts of the steps after it. -/
theorem outcome_contact_bind {call : Call} {a : α} {g : α → Step β} {b : β}
    (h : (g a).outcome = c.ends ps b) :
    (Traced.call call (unlessFault (c.faultAt p) a) >>= g).outcome = c.ends (p :: ps) b := by
  cases hp : c.faultAt p with
  | none =>
    rw [ends, firstFault?_cons_of_none ps hp]
    exact h
  | some f =>
    rw [ends_of_some (firstFault?_cons_of_some ps hp)]
    rfl

theorem outcome_read (c : Collection) (docs : List Value) :
    (Cursor.read ⟨docs, c.cutFault, c.readFault⟩).outcome = c.ends [.reading] docs := by
  obtain ⟨_, _, _, readFault⟩ := c
  cases readFault <;> rfl

end Collection

namespace Store

variable {store : Store} {name : String} {database : Option String}

/-- The fault that a store raises at a contact with the collection of a name. -/
def faultAt (store : Store) (name : String) (database : Option String) (p : Contact) :
    Option Fault :=
  match store.collection name database with
  | .ok c => c.faultAt p
  | .error f => if p = .opening then some f else none

/-- The first fault that a store raises when the collection of a name is opened and then goes
through some contacts. -/
def firstFault? (store : Store) (name : String) (database : Option String) (ps : List Contact) :
    Option (Contact × Fault) :=
  match store.collection name database with
  | .ok c => c.firstFault? ps
  | .error f => some (.opening, f)

/-- The fault at the first faulty contact is the one that the store raises there. -/
theorem faultAt_of_firstFault? {ps : List Contact} {p : Contact} {f : Fault}
    (h : store.firstFault? name database ps = some (p, f)) :
    store.faultAt name database p = some f := by
  unfold firstFault? at h
  unfold faultAt
  split at h
  · exact Collection.faultAt_of_firstFault? h
  · obtain ⟨rfl, rfl⟩ := Prod.mk.inj (Option.some.inj h)
    exact if_pos rfl

/-- The store whose collections hold no documents and raise a fault at one contact. -/
def failing (p : Contact) (f : Fault) : Store where
  collection _ _ :=
    match p with
    | .opening => .error f
    | .querying => .ok { docs := [], queryFault := some f }
    | .cutting => .ok { docs := [], cutFault := some f }
    | .reading => .ok { docs := [], readFault := some f }
  listings _ := .ok []

theorem faultAt_failing (p q : Contact) (f : Fault) :
    (failing p f).faultAt name database q = if q = p then some f else none := by
  cases p <;> cases q <;> rfl

end Store

end QueryWarden
