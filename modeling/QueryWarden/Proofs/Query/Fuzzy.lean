import QueryWarden.Proofs.Value.Keys
import QueryWarden.Query.Fuzzy
import QueryWarden.Query.Sanitation

/-!
# What fuzzy matching keeps

Fuzzy matching keeps the keys of every mapping in their order (`keys_fuzzifyEntries`,
`keys_fuzzifyStage`).  The only keys it adds are those of pattern clauses, so whatever holds of
`$regex`, of `$options` and of all keys of a tree still holds of all keys afterwards
(`forall_allKeys_fuzzify`).
-/

namespace QueryWarden.Fuzzy

open Value

@[simp] theorem fuzzifyEntries_nil : fuzzifyEntries [] = [] := by rw [fuzzifyEntries]

theorem keys_fuzzifyEntries (es : Fields) : Fields.keys (fuzzifyEntries es) = Fields.keys es := by
  induction es with
  | nil => rfl
  | cons e es ih =>
    obtain ⟨k, v⟩ := e
    rw [fuzzifyEntries, Fields.keys_cons, Fields.keys_cons, ih]

theorem fuzzifyEntries_eq_nil {es : Fields} (h : fuzzifyEntries es = []) : es = [] := by
  have hk := keys_fuzzifyEntries es
  rw [h] at hk
  exact List.map_eq_nil_iff.mp hk.symm

/-! ## Keys at every depth -/

variable {P : String → Prop}

theorem forall_allKeys_replaceLiteral (hp : P "$regex" ∧ P "$options") {k : String} {v : Value}
    (h : ∀ l ∈ v.allKeys, P l) : ∀ l ∈ (replaceLiteral k v).allKeys, P l := by
  unfold replaceLiteral
  split
  · split
    · exact h
    · simpa [Pattern.ofLiteral, allKeys] using hp
  · exact h

mutual

theorem forall_allKeys_fuzzify (hp : P "$regex" ∧ P "$options") :
    (v : Value) → (∀ l ∈ v.allKeys, P l) → ∀ l ∈ (fuzzify v).allKeys, P l
  | .map es, h => by
    rw [fuzzify, allKeys_map]
    exact forall_entryKeys_fuzzifyEntries hp es (by rwa [allKeys_map] at h)
  | .list vs, h => by
    rw [fuzzify, allKeys_list]
    exact forall_itemKeys_fuzzifyItems hp vs (by rwa [allKeys_list] at h)
  | .null, h | .bool _, h | .int _, h | .float _, h | .string _, h | .tuple _, h
  | .native _, h => by simpa [fuzzify] using h

theorem forall_entryKeys_fuzzifyEntries (hp : P "$regex" ∧ P "$options") :
    (es : Fields) → (∀ l ∈ entryKeys es, P l) → ∀ l ∈ entryKeys (fuzzifyEntries es), P l
  | [], h => by rwa [fuzzifyEntries_nil]
  | (k, v) :: es, h => by
    rw [entryKeys_cons, List.forall_mem_cons, List.forall_mem_append] at h
    rw [fuzzifyEntries, entryKeys_cons, List.forall_mem_cons, List.forall_mem_append]
    refine ⟨h.1, ?_, forall_entryKeys_fuzzifyEntries hp es h.2.2⟩
    split
    · exact forall_allKeys_fuzzify hp v h.2.1
    · exact forall_allKeys_replaceLiteral hp h.2.1

theorem forall_itemKeys_fuzzifyItems (hp : P "$regex" ∧ P "$options") :
    (vs : List Value) → (∀ l ∈ itemKeys vs, P l) → ∀ l ∈ itemKeys (fuzzifyItems vs), P l
  | [], h => by rwa [fuzzifyItems]
  | v :: vs, h => by
    rw [itemKeys_cons, List.forall_mem_append] at h
    rw [fuzzifyItems, itemKeys_cons, List.forall_mem_append]
    exact ⟨forall_allKeys_fuzzify hp v h.1, forall_itemKeys_fuzzifyItems hp vs h.2⟩

end

theorem forall_entryKeys_fuzzifyStage (hp : P "$regex" ∧ P "$options") {stage : Fields}
    (h : ∀ l ∈ entryKeys stage, P l) : ∀ l ∈ entryKeys (fuzzifyStage stage), P l := by
  unfold fuzzifyStage
  split
  · rename_i es hm
    have hes : ∀ l ∈ entryKeys (fuzzifyEntries es), P l := by
      refine forall_entryKeys_fuzzifyEntries hp es fun l hl => h l ?_
      exact allKeys_subset_of_get? hm (by rwa [allKeys_map])
    intro l hl
    obtain ⟨e, he, hl⟩ := mem_entryKeys.mp hl
    rcases Fields.mem_set he with rfl | he
    · rcases hl with rfl | hl
      · exact h _ (mem_entryKeys_of_mem_keys (Fields.mem_keys_of_get? hm))
      · exact hes l (by rwa [allKeys_map] at hl)
    · exact h l (mem_entryKeys.mpr ⟨e, he, hl⟩)
  · exact h

/-! ## Stages -/

theorem keys_fuzzifyStage (stage : Fields) : (fuzzifyStage stage).keys = stage.keys := by
  unfold fuzzifyStage
  split
  · rename_i es hm
    exact Fields.keys_set_of_mem _ (Fields.mem_keys_of_get? hm)
  · rfl

theorem eq_emptyMatch_of_fuzzifyStage {stage : Fields}
    (h : fuzzifyStage stage = [("$match", .map [])]) : stage = [("$match", .map [])] := by
  have hk := keys_fuzzifyStage stage
  rw [h] at hk
  match stage, hk with
  | [(k, v)], hk =>
    obtain rfl : "$match" = k := List.head_eq_of_cons_eq hk
    unfold fuzzifyStage at h
    rw [Fields.get?, List.lookup_cons_self] at h
    cases v with
    | map es =>
      simp only [Fields.set, beq_self_eq_true, if_true, List.cons.injEq, Prod.mk.injEq,
        Value.map.injEq, true_and, and_true] at h
      rw [fuzzifyEntries_eq_nil h]
    | _ => exact h

end QueryWarden.Fuzzy
