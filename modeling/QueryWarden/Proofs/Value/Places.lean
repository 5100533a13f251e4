import QueryWarden.Value.Basic

/-!
# Places in a tree

`Value.descendants` lists the trees that stand strictly below the root of a tree, at every depth.
The entries of a mapping and the items of a list have their own lists, `entryDescendants` and
`itemDescendants`.

A place strictly below the root of a tree is the chain of steps that leads to it.  `Value.places`
lists the places of a tree in the order in which its text has them: an entry or an item, then what
stands below it, then its neighbours.

A tuple, which no JSON text has, is a scalar here.
-/

namespace QueryWarden.Value

/-! ## Trees below the root -/

mutual

/-- The trees strictly below the root, a tree before those below it. -/
def descendants : Value → List Value
  | .map es => entryDescendants es
  | .list vs => itemDescendants vs
  | _ => []

def entryDescendants : List (String × Value) → List Value
  | [] => []
  | (_, v) :: es => v :: (descendants v ++ entryDescendants es)

def itemDescendants : List Value → List Value
  | [] => []
  | v :: vs => v :: (descendants v ++ itemDescendants vs)

end

theorem mem_entryDescendants {es : List (String × Value)} {w : Value} :
    w ∈ entryDescendants es ↔ ∃ e ∈ es, w ∈ e.2 :: e.2.descendants := by
  induction es with
  | nil => simp [entryDescendants]
  | cons e es ih =>
    obtain ⟨k, v⟩ := e
    simp [entryDescendants, ih, or_assoc]

theorem mem_itemDescendants {vs : List Value} {w : Value} :
    w ∈ itemDescendants vs ↔ ∃ v ∈ vs, w ∈ v :: v.descendants := by
  induction vs with
  | nil => simp [itemDescendants]
  | cons v vs ih => simp [itemDescendants, ih, or_assoc]

theorem mem_descendants_map {es : Fields} {w : Value} :
    w ∈ (map es).descendants ↔ ∃ e ∈ es, w ∈ e.2 :: e.2.descendants := by
  rw [descendants, mem_entryDescendants]

theorem mem_descendants_list {vs : List Value} {w : Value} :
    w ∈ (list vs).descendants ↔ ∃ v ∈ vs, w ∈ v :: v.descendants := by
  rw [descendants, mem_itemDescendants]

end QueryWarden.Value

namespace QueryWarden

/-! ## Places -/

/-- A step from a container to one of its parts: to an entry of a mapping, or to an item of a
list. -/
inductive Edge where
  | entry (siblings : Fields) (key : String) (part : Value)
  | item (index : Nat) (part : Value)

def Edge.part : Edge → Value
  | .entry _ _ v => v
  | .item _ v => v

/-- A place strictly below a root: the steps to its container, and the step to the place itself. -/
structure Place where
  above : List Edge
  last : Edge

namespace Place

/-- The place as it is seen from one step further up. -/
def under (e : Edge) (p : Place) : Place :=
  ⟨e :: p.above, p.last⟩

/-- The place that a step leads to, and then the places below it. -/
def startingAt (e : Edge) (below : List Place) : List Place :=
  ⟨[], e⟩ :: below.map (under e)

end Place

namespace Value

mutual

def places : Value → List Place
  | .map es => entryPlaces es es
  | .list vs => itemPlaces 0 vs
  | _ => []

def entryPlaces (siblings : Fields) : List (String × Value) → List Place
  | [] => []
  | (k, v) :: es =>
    Place.startingAt (.entry siblings k v) (places v) ++ entryPlaces siblings es

def itemPlaces (i : Nat) : List Value → List Place
  | [] => []
  | v :: vs => Place.startingAt (.item i v) (places v) ++ itemPlaces (i + 1) vs

end

end Value

end QueryWarden
