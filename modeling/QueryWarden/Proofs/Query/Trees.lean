import QueryWarden.Proofs.Query.Clean
import QueryWarden.Proofs.Query.Fuzzy
import QueryWarden.Proofs.Query.Shape
import QueryWarden.Proofs.Value.Trees

/-!
# Trees on the way to the database

Being a tree of JSON passes to the parts of a query (`hereditary_isTree`) and is kept by fuzzy
matching (`Fuzzy.isTree_fuzzify`, `Fuzzy.isTree_fuzzifyStage`) and by sanitation
(`Sanitation.isTree_clean`): the keys of a mapping stay distinct, and no native leaf is added.
-/

namespace QueryWarden

open Value

variable {p : Native → Bool}

theorem hereditary_isTree : Hereditary fun v => v.isTree p = true where
  null := rfl
  int _ := rfl
  empty := rfl
  entry h he := (isTree_map.mp h).2 _ he
  item h hv := by
    rcases h with h | h
    · exact isTree_list.mp h _ hv
    · simp [isTree] at h

namespace Fuzzy

theorem isTree_replaceLiteral {k : String} {v : Value} (h : v.isTree p = true) :
    (replaceLiteral k v).isTree p = true := by
  unfold replaceLiteral
  split
  · split_ifs
    · exact h
    · rfl
  · exact h

mutual

theorem isTree_fuzzify : {v : Value} → v.isTree p = true → (fuzzify v).isTree p = true
  | .map es, h => by
    obtain ⟨hkeys, hes⟩ := isTree_map.mp h
    rw [fuzzify]
    refine isTree_map.mpr ⟨?_, isTree_of_mem_fuzzifyEntries hes⟩
    rw [keys_fuzzifyEntries]
    exact hkeys
  | .list vs, h => by
    rw [fuzzify]
    exact isTree_list.mpr (isTree_of_mem_fuzzifyItems (isTree_list.mp h))
  | .null, h | .bool _, h | .int _, h | .float _, h | .string _, h | .tuple _, h
  | .native _, h => by
    rw [fuzzify]
    · exact h
    all_goals simp

theorem isTree_of_mem_fuzzifyEntries : {es : List (String × Value)} →
    (∀ e ∈ es, e.2.isTree p = true) → ∀ e ∈ fuzzifyEntries es, e.2.isTree p = true
  | [], h => by rwa [fuzzifyEntries_nil]
  | (k, v) :: es, h => by
    obtain ⟨hv, hes⟩ := List.forall_mem_cons.mp h
    rw [fuzzifyEntries]
    refine List.forall_mem_cons.mpr ⟨?_, isTree_of_mem_fuzzifyEntries hes⟩
    dsimp only
    split_ifs
    · exact isTree_fuzzify hv
    · exact isTree_replaceLiteral hv

theorem isTree_of_mem_fuzzifyItems : {vs : List Value} →
    (∀ v ∈ vs, v.isTree p = true) → ∀ v ∈ fuzzifyItems vs, v.isTree p = true
  | [], h => by rwa [fuzzifyItems]
  | v :: vs, h => by
    obtain ⟨hv, hvs⟩ := List.forall_mem_cons.mp h
    rw [fuzzifyItems]
    exact List.forall_mem_cons.mpr ⟨isTree_fuzzify hv, isTree_of_mem_fuzzifyItems hvs⟩

end

theorem isTree_fuzzifyStage {stage : Fields} (h : (map stage).isTree p = true) :
    (map (fuzzifyStage stage)).isTree p = true := by
  obtain ⟨hkeys, hvalues⟩ := isTree_map.mp h
  refine isTree_map.mpr ⟨by rwa [keys_fuzzifyStage], ?_⟩
  unfold fuzzifyStage
  split
  · rename_i es hm
    have hes : (fuzzify (map es)).isTree p = true :=
      isTree_fuzzify (hvalues _ (Fields.mem_of_get? hm))
    rw [fuzzify] at hes
    intro e he
    rcases Fields.mem_set he with rfl | he
    · exact hes
    · exact hvalues e he
  · exact hvalues

end Fuzzy

namespace Sanitation

mutual

theorem isTree_clean (path : String) : {v : Value} → v.isTree p = true →
    (clean path v).1.isTree p = true
  | .map es, h => by
    obtain ⟨hkeys, hes⟩ := isTree_map.mp h
    rw [clean_map]
    exact isTree_map.mpr ⟨hkeys.sublist (keys_cleanEntries_sublist path _ es),
      isTree_of_mem_cleanEntries path _ hes⟩
  | .list vs, h => by
    rw [clean_list]
    exact isTree_list.mpr (isTree_of_mem_cleanItems path 0 (isTree_list.mp h))
  | .null, h | .bool _, h | .int _, h | .float _, h | .string _, h | .tuple _, h
  | .native _, h => by
    rw [clean]
    · exact h
    all_goals simp

theorem isTree_of_mem_cleanEntries (path : String) (hasPattern : Bool) :
    {es : List (String × Value)} → (∀ e ∈ es, e.2.isTree p = true) →
      ∀ e ∈ (cleanEntries path hasPattern es).1, e.2.isTree p = true
  | [], h => by rwa [cleanEntries_nil]
  | (k, v) :: es, h => by
    obtain ⟨hv, hes⟩ := List.forall_mem_cons.mp h
    have hrest := isTree_of_mem_cleanEntries path hasPattern hes
    rcases cleanEntries_cons_cases path hasPattern k v es with
      ⟨-, hc⟩ | ⟨-, -, hc⟩ | ⟨-, -, -, hc⟩ | ⟨-, -, -, hc⟩
    · rwa [hc]
    · rw [hc]
      exact List.forall_mem_cons.mpr ⟨rfl, hrest⟩
    · rwa [hc]
    · rw [hc]
      exact List.forall_mem_cons.mpr ⟨isTree_clean (entryPath path k) hv, hrest⟩

theorem isTree_of_mem_cleanItems (path : String) (i : Nat) :
    {vs : List Value} → (∀ v ∈ vs, v.isTree p = true) →
      ∀ v ∈ (cleanItems path i vs).1, v.isTree p = true
  | [], h => by rwa [cleanItems_nil]
  | v :: vs, h => by
    obtain ⟨hv, hvs⟩ := List.forall_mem_cons.mp h
    have hrest := isTree_of_mem_cleanItems path (i + 1) hvs
    rcases cleanItems_cons_cases path i v vs with ⟨-, hc⟩ | ⟨-, -, -, hc⟩ | ⟨-, -, hc⟩
    · rwa [hc]
    · rwa [hc]
    · rw [hc]
      exact List.forall_mem_cons.mpr ⟨isTree_clean (itemPath path i) hv, hrest⟩

end

theorem mayStay_of_mem_parts {v part : Value} (ht : v.isTree p = true) (hv : IsClean v)
    (h : part ∈ v.parts) : MayStay part := by
  cases v with
  | map es =>
    obtain ⟨e, he, rfl⟩ := List.mem_map.mp h
    exact (isClean_map.mp hv).2 e he
  | list vs => exact isClean_list.mp hv part h
  | tuple vs => simp [isTree] at ht
  | _ => exact absurd h List.not_mem_nil

theorem mayStay_of_at? {v w : Value} {path : List Nat} (ht : v.isTree p = true) (hv : IsClean v)
    (hpath : path ≠ []) (h : v.at? path = some w) : MayStay w := by
  obtain ⟨i, path, rfl⟩ := List.exists_cons_of_ne_nil hpath
  obtain ⟨part, hi, hpart⟩ := at?_cons_eq_some.mp h
  have hmem := List.mem_of_getElem? hi
  have hstep : ∀ u : Value, u.isTree p = true ∧ MayStay u → ∀ x ∈ u.parts,
      x.isTree p = true ∧ MayStay x :=
    fun u hu x hx => ⟨isTree_of_mem_parts hu.1 hx, mayStay_of_mem_parts hu.1 hu.2.2 hx⟩
  exact (forall_at? hstep ⟨isTree_of_mem_parts ht hmem, mayStay_of_mem_parts ht hv hmem⟩ hpart).2

end Sanitation

end QueryWarden
