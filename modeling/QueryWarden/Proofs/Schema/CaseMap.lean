import Mathlib.Data.List.Forall2
import QueryWarden.Proofs.Value.Keys
import QueryWarden.Schema.CaseMap

/-!
# Re-casing and lower case

In a map of field paths every spelling stands under its own lower-case form (`isFolded_ofPaths`),
so re-casing changes a key only to one with the same lower case (`newKeys_forall₂`).  A property of
keys that lower case decides holds of all keys of a re-cased tree if it holds of all keys of the
tree (`forall_allKeys_recaseTree`).
-/

namespace QueryWarden.CaseMap

open Value

/-! ## Lists in step -/

theorem exists_right_of_forall₂ {α β : Type} {R : α → β → Prop} {as : List α} {bs : List β}
    (h : List.Forall₂ R as bs) {a : α} (ha : a ∈ as) : ∃ b ∈ bs, R a b := by
  induction h with
  | nil => exact absurd ha List.not_mem_nil
  | cons hab _ ih =>
    rcases List.mem_cons.mp ha with rfl | ha
    · exact ⟨_, List.mem_cons_self, hab⟩
    · obtain ⟨b, hb, hr⟩ := ih ha
      exact ⟨b, List.mem_cons_of_mem _ hb, hr⟩

/-! ## Spellings -/

/-- Every spelling of the map stands under its lower-case form. -/
def IsFolded (m : CaseMap) : Prop :=
  ∀ k p, m.get? k = some p → Text.lower p = k

theorem isFolded_nil : IsFolded ⟨[]⟩ := by
  intro k p h
  exact absurd h.symm (Option.some_ne_none p)

theorem isFolded_add {m : CaseMap} (hm : m.IsFolded) (path : String) : (m.add path).IsFolded := by
  unfold add
  split
  · exact hm
  · intro k p h
    unfold get? at h
    rw [List.lookup_append, List.lookup_singleton] at h
    rcases Option.or_eq_some_iff.mp h with h | ⟨-, h⟩
    · exact hm k p h
    · split_ifs at h with hk
      rw [← Option.some.inj h, eq_of_beq hk]

theorem isFolded_ofPaths (paths : List String) : (ofPaths paths).IsFolded := by
  unfold ofPaths
  generalize hm : (⟨[]⟩ : CaseMap) = m
  have hfold : m.IsFolded := hm ▸ isFolded_nil
  clear hm
  induction paths generalizing m with
  | nil => exact hfold
  | cons p ps ih => exact ih _ (isFolded_add hfold p)

section Keys

variable {m : CaseMap} (hm : m.IsFolded)

include hm

theorem lower_spelling (k : String) : Text.lower (m.spelling k) = Text.lower k := by
  unfold spelling
  cases h : m.get? (Text.lower k) with
  | none => rfl
  | some p => exact hm _ _ h

theorem respell_forall₂ (taken ks : List String) :
    List.Forall₂ (fun k l => Text.lower l = Text.lower k) ks (m.respell taken ks) := by
  induction ks generalizing taken with
  | nil => exact .nil
  | cons k ks ih =>
    unfold respell
    split_ifs
    · exact .cons rfl (ih _)
    · exact .cons rfl (ih _)
    · exact .cons (lower_spelling hm k) (ih _)

theorem newKeys_forall₂ (ks : List String) :
    List.Forall₂ (fun k l => Text.lower l = Text.lower k) ks (m.newKeys ks) :=
  respell_forall₂ hm _ ks

omit hm in
theorem length_recaseEntries (es : List (String × Value)) :
    (m.recaseEntries es).length = es.length := by
  induction es with
  | nil => rfl
  | cons e es ih =>
    obtain ⟨k, v⟩ := e
    rw [recaseEntries, List.length_cons, List.length_cons, ih]

theorem map_fst_zip_recaseEntries (fs : Fields) :
    ((m.newKeys (fs.map (·.1))).zip (m.recaseEntries fs)).map (·.1)
      = m.newKeys (fs.map (·.1)) := by
  refine List.map_fst_zip (Nat.le_of_eq ?_)
  rw [length_recaseEntries, ← (newKeys_forall₂ hm (fs.map (·.1))).length_eq, List.length_map]

theorem mem_keys_recaseFields {fs : Fields} {k : String} :
    k ∈ (m.recaseFields fs).keys ↔ k ∈ m.newKeys fs.keys := by
  unfold recaseFields
  rw [Fields.mem_keys_ofEntries, map_fst_zip_recaseEntries hm]
  rfl

theorem recaseFields_ne_nil {fs : Fields} (h : fs ≠ []) : m.recaseFields fs ≠ [] := by
  obtain ⟨e, es, rfl⟩ := List.exists_cons_of_ne_nil h
  obtain ⟨l, hl, -⟩ := exists_right_of_forall₂ (newKeys_forall₂ hm (Fields.keys (e :: es)))
    List.mem_cons_self
  intro hnil
  have hmem := (mem_keys_recaseFields hm).mpr hl
  rw [hnil] at hmem
  exact List.not_mem_nil hmem

theorem exists_lower_eq_of_mem_newKeys {ks : List String} {l : String} (h : l ∈ m.newKeys ks) :
    ∃ k ∈ ks, Text.lower l = Text.lower k :=
  exists_right_of_forall₂ (newKeys_forall₂ hm ks).flip h

/-- No key of a mapping gets lost, up to its case of letters. -/
theorem exists_mem_keys_recaseFields {fs : Fields} {k : String} (h : k ∈ fs.keys) :
    ∃ l ∈ (m.recaseFields fs).keys, Text.lower l = Text.lower k := by
  obtain ⟨l, hl, hlk⟩ := exists_right_of_forall₂ (newKeys_forall₂ hm fs.keys) h
  exact ⟨l, (mem_keys_recaseFields hm).mpr hl, hlk⟩

end Keys

/-! ## Keys at every depth -/

/-- Keys with the same lower case have the property alike. -/
def RespectsCase (P : String → Prop) : Prop :=
  ∀ k l, Text.lower l = Text.lower k → P k → P l

variable {m : CaseMap} {P : String → Prop}

theorem forall_entryKeys_respelled (hm : m.IsFolded) (hP : RespectsCase P) {fs : Fields}
    {ws : List Value} (hk : ∀ k ∈ fs.keys, P k) (hw : ∀ k ∈ itemKeys ws, P k) :
    ∀ k ∈ entryKeys (Fields.ofEntries ((m.newKeys fs.keys).zip ws)), P k := by
  intro k h
  obtain ⟨e, he, h⟩ := mem_entryKeys.mp (entryKeys_ofEntries_subset _ h)
  have hmem := List.of_mem_zip he
  rcases h with rfl | h
  · obtain ⟨l, hl, hlk⟩ := exists_lower_eq_of_mem_newKeys hm hmem.1
    exact hP l e.1 hlk (hk l hl)
  · exact hw k (allKeys_subset_itemKeys hmem.2 h)

mutual

theorem forall_allKeys_recaseTree (hm : m.IsFolded) (hP : RespectsCase P) :
    (v : Value) → (∀ k ∈ v.allKeys, P k) → ∀ k ∈ (m.recaseTree v).allKeys, P k
  | .map es, h => by
    rw [allKeys_map] at h
    rw [recaseTree, allKeys_map]
    exact forall_entryKeys_respelled hm hP (fun k hk => h k (mem_entryKeys_of_mem_keys hk))
      (forall_itemKeys_recaseEntries hm hP es fun e he k hk => h k (allKeys_subset_entryKeys he hk))
  | .list vs, h => by
    rw [allKeys_list] at h
    rw [recaseTree, allKeys_list]
    exact forall_itemKeys_recaseItems hm hP vs h
  | .null, h | .bool _, h | .int _, h | .float _, h | .string _, h | .tuple _, h
  | .native _, h => by simpa [recaseTree] using h

theorem forall_itemKeys_recaseEntries (hm : m.IsFolded) (hP : RespectsCase P) :
    (es : Fields) → (∀ e ∈ es, ∀ k ∈ e.2.allKeys, P k) →
      ∀ k ∈ itemKeys (m.recaseEntries es), P k
  | [], _ => by simp [recaseEntries]
  | (k, v) :: es, h => by
    rw [List.forall_mem_cons] at h
    rw [recaseEntries, itemKeys_cons, List.forall_mem_append]
    exact ⟨forall_allKeys_recaseTree hm hP v h.1, forall_itemKeys_recaseEntries hm hP es h.2⟩

theorem forall_itemKeys_recaseItems (hm : m.IsFolded) (hP : RespectsCase P) :
    (vs : List Value) → (∀ k ∈ itemKeys vs, P k) → ∀ k ∈ itemKeys (m.recaseItems vs), P k
  | [], _ => by simp [recaseItems]
  | v :: vs, h => by
    rw [itemKeys_cons, List.forall_mem_append] at h
    rw [recaseItems, itemKeys_cons, List.forall_mem_append]
    exact ⟨forall_allKeys_recaseTree hm hP v h.1, forall_itemKeys_recaseItems hm hP vs h.2⟩

end

theorem forall_entryKeys_recaseFields (hm : m.IsFolded) (hP : RespectsCase P) {fs : Fields}
    (h : ∀ k ∈ entryKeys fs, P k) : ∀ k ∈ entryKeys (m.recaseFields fs), P k := by
  have hmap := forall_allKeys_recaseTree hm hP (.map fs) (by rwa [allKeys_map])
  rwa [recaseTree_map, allKeys_map] at hmap

theorem recaseEntries_eq_map (m : CaseMap) (es : List (String × Value)) :
    m.recaseEntries es = es.map fun e => m.recaseTree e.2 := by
  induction es with
  | nil => rfl
  | cons e es ih => rw [recaseEntries, ih, List.map_cons]

/-- The values of a re-cased mapping are the re-cased values of the mapping. -/
theorem exists_of_mem_recaseFields {fs : Fields} {e : String × Value}
    (h : e ∈ m.recaseFields fs) : ∃ d ∈ fs, e.2 = m.recaseTree d.2 := by
  have hmem := (List.of_mem_zip (Fields.mem_of_mem_ofEntries h)).2
  rw [recaseEntries_eq_map] at hmem
  obtain ⟨d, hd, hdv⟩ := List.mem_map.mp hmem
  exact ⟨d, hd, hdv.symm⟩

theorem forall_values_recaseFields (hm : m.IsFolded) (hP : RespectsCase P) {fs : Fields}
    (h : ∀ e ∈ fs, ∀ k ∈ e.2.allKeys, P k) :
    ∀ e ∈ m.recaseFields fs, ∀ k ∈ e.2.allKeys, P k := by
  intro e he
  obtain ⟨d, hd, hdv⟩ := exists_of_mem_recaseFields he
  rw [hdv]
  exact forall_allKeys_recaseTree hm hP d.2 (h d hd)

end QueryWarden.CaseMap
