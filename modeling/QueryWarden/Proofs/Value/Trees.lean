import Mathlib.Data.List.Basic
import QueryWarden.Proofs.Value.Fields

/-!
# Trees of JSON and the places in them

A tree of JSON has mappings with distinct keys, lists and plain scalars.  `isTree p` asks the same
of a value, except that native values with the property `p` may be its leaves; no tuple is one of
its parts.

Laws of trees go by induction over mappings, lists and leaves (`tree_induction`).

A path says which part to take at each step from the root on, and `at?` is the value at its end.
What passes to parts passes to all places (`forall_at?`).
-/

namespace QueryWarden.Value

/-! ## Trees -/

section Trees

variable (p : Native → Bool)

mutual

/-- Whether a value is a tree whose native leaves have a property. -/
def isTree : Value → Bool
  | .map es => decide (Fields.keys es).Nodup && entriesAreTrees es
  | .list vs => itemsAreTrees vs
  | .tuple _ => false
  | .native n => p n
  | _ => true

def entriesAreTrees : List (String × Value) → Bool
  | [] => true
  | (_, v) :: es => isTree v && entriesAreTrees es

def itemsAreTrees : List Value → Bool
  | [] => true
  | v :: vs => isTree v && itemsAreTrees vs

end

variable {p}

theorem entriesAreTrees_iff {es : List (String × Value)} :
    entriesAreTrees p es = true ↔ ∀ e ∈ es, e.2.isTree p = true := by
  induction es with
  | nil => simp [entriesAreTrees]
  | cons e es ih =>
    obtain ⟨k, v⟩ := e
    rw [entriesAreTrees, Bool.and_eq_true, ih, List.forall_mem_cons]

theorem isTree_map {fs : Fields} :
    (map fs).isTree p = true ↔ fs.keys.Nodup ∧ ∀ e ∈ fs, e.2.isTree p = true := by
  rw [isTree, Bool.and_eq_true, decide_eq_true_iff, entriesAreTrees_iff]

theorem isTree_list {vs : List Value} :
    (list vs).isTree p = true ↔ ∀ v ∈ vs, v.isTree p = true := by
  rw [isTree]
  induction vs with
  | nil => simp [itemsAreTrees]
  | cons v vs ih => rw [itemsAreTrees, Bool.and_eq_true, ih, List.forall_mem_cons]

/-- Whether a value holds no other values. -/
def isLeaf : Value → Bool
  | .map _ | .list _ | .tuple _ => false
  | _ => true

theorem sizeOf_lt_of_mem_entries {es : List (String × Value)} {e : String × Value} (h : e ∈ es) :
    sizeOf e.2 < sizeOf (map es) := by
  have he := List.sizeOf_lt_of_mem h
  obtain ⟨k, v⟩ := e
  simp only [Prod.mk.sizeOf_spec, map.sizeOf_spec] at he ⊢
  omega

theorem sizeOf_lt_of_mem_items {vs : List Value} {v : Value} (h : v ∈ vs) :
    sizeOf v < sizeOf (list vs) := by
  have hv := List.sizeOf_lt_of_mem h
  simp only [list.sizeOf_spec]
  omega

/-- What holds of a mapping when it holds of its values, of a list when it holds of its items, and
of every leaf, holds of a tree. -/
theorem tree_induction {P : (v : Value) → v.isTree p = true → Prop}
    (map : ∀ (fs : Fields) (h : (map fs).isTree p = true),
      (∀ e (he : e ∈ fs), P e.2 ((isTree_map.mp h).2 e he)) → P (.map fs) h)
    (list : ∀ (vs : List Value) (h : (list vs).isTree p = true),
      (∀ v (hv : v ∈ vs), P v (isTree_list.mp h v hv)) → P (.list vs) h)
    (leaf : ∀ (v : Value) (h : v.isTree p = true), v.isLeaf = true → P v h) :
    (v : Value) → (h : v.isTree p = true) → P v h
  | .map es, h => map es h fun e he => tree_induction map list leaf e.2 ((isTree_map.mp h).2 e he)
  | .list vs, h => list vs h fun v hv => tree_induction map list leaf v (isTree_list.mp h v hv)
  | .tuple _, h => absurd h (by simp [isTree])
  | .null, h | .bool _, h | .int _, h | .float _, h | .string _, h | .native _, h => leaf _ h rfl
termination_by v => sizeOf v
decreasing_by
  · exact sizeOf_lt_of_mem_entries he
  · exact sizeOf_lt_of_mem_items hv

end Trees

/-! ## Places -/

/-- The values right below the root, in their order. -/
def parts : Value → List Value
  | .map es => es.map (·.2)
  | .list vs | .tuple vs => vs
  | _ => []

def at? : Value → List Nat → Option Value
  | v, [] => some v
  | v, i :: path => v.parts[i]?.bind fun part => part.at? path

@[simp] theorem at?_nil (v : Value) : v.at? [] = some v := rfl

theorem at?_cons (v : Value) (i : Nat) (path : List Nat) :
    v.at? (i :: path) = v.parts[i]?.bind (·.at? path) := rfl

theorem at?_cons_eq_some {v w : Value} {i : Nat} {path : List Nat} :
    v.at? (i :: path) = some w ↔ ∃ part, v.parts[i]? = some part ∧ part.at? path = some w :=
  Option.bind_eq_some_iff

theorem at?_append (v : Value) (front behind : List Nat) :
    v.at? (front ++ behind) = (v.at? front).bind (·.at? behind) := by
  induction front generalizing v with
  | nil => rfl
  | cons i front ih =>
    rw [List.cons_append, at?_cons, at?_cons, Option.bind_assoc]
    exact congrArg _ (funext ih)

theorem at?_concat_eq_some {t v : Value} {path : List Nat} {i : Nat} :
    t.at? (path ++ [i]) = some v ↔ ∃ u, t.at? path = some u ∧ u.parts[i]? = some v := by
  rw [at?_append, Option.bind_eq_some_iff]
  refine exists_congr fun u => and_congr_right fun _ => ?_
  rw [at?_cons_eq_some]
  constructor
  · rintro ⟨part, hi, hpart⟩
    exact hi.trans hpart
  · intro hi
    exact ⟨v, hi, rfl⟩

theorem getElem?_parts_map {fs : Fields} {i : Nat} {v : Value} :
    (map fs).parts[i]? = some v ↔ ∃ k, fs[i]? = some (k, v) := by
  show (fs.map (·.2))[i]? = some v ↔ _
  rw [List.getElem?_map, Option.map_eq_some_iff]
  constructor
  · rintro ⟨⟨k, w⟩, hi, rfl⟩
    exact ⟨k, hi⟩
  · rintro ⟨k, hi⟩
    exact ⟨(k, v), hi, rfl⟩

theorem at?_entry {t v : Value} {path : List Nat} {fs : Fields} {i : Nat} {k : String}
    (hpath : t.at? path = some (.map fs)) (h : fs[i]? = some (k, v)) :
    t.at? (path ++ [i]) = some v :=
  at?_concat_eq_some.mpr ⟨_, hpath, getElem?_parts_map.mpr ⟨k, h⟩⟩

theorem at?_item {t v : Value} {path : List Nat} {vs : List Value} {i : Nat}
    (hpath : t.at? path = some (.list vs)) (h : vs[i]? = some v) :
    t.at? (path ++ [i]) = some v :=
  at?_concat_eq_some.mpr ⟨_, hpath, h⟩

theorem forall_at? {P : Value → Prop} (hP : ∀ v, P v → ∀ part ∈ v.parts, P part) {v w : Value}
    {path : List Nat} (hv : P v) (h : v.at? path = some w) : P w := by
  induction path generalizing v with
  | nil =>
    obtain rfl := Option.some.inj h
    exact hv
  | cons i path ih =>
    obtain ⟨part, hi, hpart⟩ := at?_cons_eq_some.mp h
    exact ih (hP v hv part (List.mem_of_getElem? hi)) hpart

/-! ## All places -/

def Everywhere (P : Value → Prop) (v : Value) : Prop :=
  ∀ path w, v.at? path = some w → P w

theorem everywhere_iff {P : Value → Prop} {v : Value} :
    v.Everywhere P ↔ P v ∧ ∀ part ∈ v.parts, part.Everywhere P := by
  constructor
  · intro h
    refine ⟨h [] v rfl, fun part hpart path w hw => ?_⟩
    obtain ⟨i, hi⟩ := List.getElem?_of_mem hpart
    exact h (i :: path) w (at?_cons_eq_some.mpr ⟨part, hi, hw⟩)
  · rintro ⟨hroot, hparts⟩ path w hw
    cases path with
    | nil =>
      obtain rfl := Option.some.inj hw
      exact hroot
    | cons i path =>
      obtain ⟨part, hi, hpart⟩ := at?_cons_eq_some.mp hw
      exact hparts part (List.mem_of_getElem? hi) path w hpart

theorem everywhere_map {P : Value → Prop} {fs : Fields} :
    (map fs).Everywhere P ↔ P (.map fs) ∧ ∀ e ∈ fs, e.2.Everywhere P := by
  rw [everywhere_iff]
  exact and_congr_right fun _ => List.forall_mem_map

theorem everywhere_list {P : Value → Prop} {vs : List Value} :
    (list vs).Everywhere P ↔ P (.list vs) ∧ ∀ v ∈ vs, v.Everywhere P :=
  everywhere_iff

theorem everywhere_of_isLeaf {P : Value → Prop} {v : Value} (hleaf : v.isLeaf = true) :
    v.Everywhere P ↔ P v := by
  rw [everywhere_iff]
  refine and_iff_left fun part hpart => ?_
  cases v with
  | map | list | tuple => exact Bool.noConfusion hleaf
  | _ => exact absurd hpart List.not_mem_nil

theorem sizeOf_lt_of_mem_parts {v part : Value} (h : part ∈ v.parts) : sizeOf part < sizeOf v := by
  cases v with
  | map es =>
    obtain ⟨e, he, rfl⟩ := List.mem_map.mp h
    exact sizeOf_lt_of_mem_entries he
  | list vs => exact sizeOf_lt_of_mem_items h
  | tuple vs => exact sizeOf_lt_of_mem_items h
  | _ => exact absurd h List.not_mem_nil

/-- What holds of a value when it holds of its parts holds of every value. -/
theorem parts_induction {P : Value → Prop} (step : ∀ v, (∀ part ∈ v.parts, P part) → P v)
    (v : Value) : P v :=
  step v fun part _ => parts_induction step part
termination_by sizeOf v
decreasing_by exact sizeOf_lt_of_mem_parts ‹_›

theorem isTree_of_mem_parts {p : Native → Bool} {v part : Value} (hv : v.isTree p = true)
    (h : part ∈ v.parts) : part.isTree p = true := by
  cases v with
  | map es =>
    obtain ⟨e, he, rfl⟩ := List.mem_map.mp h
    exact (isTree_map.mp hv).2 e he
  | list vs => exact isTree_list.mp hv part h
  | tuple vs => simp [isTree] at hv
  | _ => exact absurd h List.not_mem_nil

theorem isTree_of_at? {p : Native → Bool} {v w : Value} {path : List Nat} (hv : v.isTree p = true)
    (h : v.at? path = some w) : w.isTree p = true :=
  forall_at? (fun _ ht _ => isTree_of_mem_parts ht) hv h

end QueryWarden.Value
