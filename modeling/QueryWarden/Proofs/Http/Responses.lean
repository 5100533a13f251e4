import QueryWarden.Http.Message
import QueryWarden.Proofs.Value.Trees

/-!
# What a response can show

A response can show a tree when no double in it is infinite or undefined (`isStrict_iff`).  Dropping
internal entries leaves no other doubles (`isStrict_dropInternal`), so such a tree is answered with a
response (`respond_of_everywhere`).
-/

namespace QueryWarden.Http

open Value

/-- Whether a value, its parts apart, can be written as JSON: only a double that is not finite cannot. -/
def IsWritable (v : Value) : Prop :=
  ∀ x, v = .float x → x.isFinite = true

theorem isWritable_of_ne_float {v : Value} (h : ∀ x, v ≠ .float x) : IsWritable v :=
  fun x hx => absurd hx (h x)

theorem isStrict_items {vs : List Value} :
    isStrictItems vs = true ↔ ∀ v ∈ vs, isStrict v = true := by
  induction vs with
  | nil => simp [isStrictItems]
  | cons v vs ih => rw [isStrictItems, Bool.and_eq_true, ih, List.forall_mem_cons]

theorem isStrict_entries {es : List (String × Value)} :
    isStrictEntries es = true ↔ ∀ v ∈ (map es).parts, isStrict v = true := by
  induction es with
  | nil => simp [isStrictEntries, parts]
  | cons e es ih =>
    obtain ⟨k, v⟩ := e
    have hparts : (map ((k, v) :: es)).parts = v :: (map es).parts := rfl
    rw [isStrictEntries, Bool.and_eq_true, ih, hparts, List.forall_mem_cons]

theorem isStrict_iff_parts {v : Value} :
    isStrict v = true ↔ IsWritable v ∧ ∀ part ∈ v.parts, isStrict part = true := by
  cases v with
  | float x => simp [isStrict, IsWritable, parts]
  | map es =>
    rw [isStrict, isStrict_entries]
    exact (and_iff_right (isWritable_of_ne_float (by simp))).symm
  | list vs =>
    rw [isStrict, isStrict_items]
    exact (and_iff_right (isWritable_of_ne_float (by simp))).symm
  | tuple vs =>
    rw [isStrict, isStrict_items]
    exact (and_iff_right (isWritable_of_ne_float (by simp))).symm
  | _ => simp [isStrict, IsWritable, parts]

theorem isStrict_iff (v : Value) : isStrict v = true ↔ v.Everywhere IsWritable := by
  induction v using parts_induction with
  | step v ih =>
    rw [isStrict_iff_parts, everywhere_iff]
    exact and_congr_right fun _ => forall₂_congr ih

/-! ## Internal entries -/

theorem mem_dropInternalEntries {es : List (String × Value)} {e : String × Value}
    (h : e ∈ dropInternalEntries es) : ∃ d ∈ es, e.2 = dropInternal d.2 := by
  induction es with
  | nil => simp [dropInternalEntries] at h
  | cons d es ih =>
    obtain ⟨k, v⟩ := d
    have hrest (h : e ∈ dropInternalEntries es) : ∃ d ∈ (k, v) :: es, e.2 = dropInternal d.2 := by
      obtain ⟨d, hd, he⟩ := ih h
      exact ⟨d, List.mem_cons_of_mem _ hd, he⟩
    rw [dropInternalEntries] at h
    split at h
    · exact hrest h
    · rcases List.mem_cons.mp h with rfl | h
      · exact ⟨(k, v), List.mem_cons_self, rfl⟩
      · exact hrest h

theorem mem_dropInternalItems {vs : List Value} {v : Value} (h : v ∈ dropInternalItems vs) :
    ∃ u ∈ vs, v = dropInternal u := by
  induction vs with
  | nil => simp [dropInternalItems] at h
  | cons u vs ih =>
    rw [dropInternalItems] at h
    rcases List.mem_cons.mp h with rfl | h
    · exact ⟨u, List.mem_cons_self, rfl⟩
    · obtain ⟨w, hw, hv⟩ := ih h
      exact ⟨w, List.mem_cons_of_mem _ hw, hv⟩

theorem isStrict_dropInternal (v : Value) (h : isStrict v = true) :
    isStrict (dropInternal v) = true := by
  induction v using parts_induction with
  | step v ih =>
    have hparts := (isStrict_iff_parts.mp h).2
    cases v with
    | map es =>
      rw [dropInternal]
      refine isStrict_iff_parts.mpr ⟨isWritable_of_ne_float (by simp), fun part hpart => ?_⟩
      obtain ⟨e, he, rfl⟩ := List.mem_map.mp hpart
      obtain ⟨d, hd, he⟩ := mem_dropInternalEntries he
      rw [he]
      have hd' : d.2 ∈ (map es).parts := List.mem_map_of_mem hd
      exact ih d.2 hd' (hparts d.2 hd')
    | list vs =>
      rw [dropInternal]
      refine isStrict_iff_parts.mpr ⟨isWritable_of_ne_float (by simp), fun part hpart => ?_⟩
      obtain ⟨u, hu, rfl⟩ := mem_dropInternalItems hpart
      exact ih u hu (hparts u hu)
    | _ =>
      rw [dropInternal]
      · exact h
      all_goals simp

theorem respond_of_everywhere {v : Value} (h : v.Everywhere IsWritable) :
    respond v = .ok ⟨200, dropInternal v⟩ := by
  have hstrict := isStrict_dropInternal v ((isStrict_iff v).mpr h)
  exact if_pos hstrict

end QueryWarden.Http
