import QueryWarden.Proofs.Text.LowerBlank
import QueryWarden.Proofs.Value.Keys
import QueryWarden.Query.DenyList

/-!
# The deny list and the keys of a tree

In a tree without tuples the check meets every key: it finds the first denied one of `Value.allKeys`
(`firstDenied?_eq_find?`), so a tree passes exactly when it has none (`check_eq_ok_iff`).  Keys with
the same lower case are denied alike (`denies_congr`).
-/

namespace QueryWarden.DenyList

/-! ## Comparing keys -/

/-- A key is denied when an operator of the list, blank ones left out, compares equal to it. -/
theorem denies_ofNames {operators : List String} {k : String} :
    (ofNames operators).denies k = true ↔
      ∃ op ∈ operators, Text.isBlankText op = false ∧ fold op = fold k := by
  simp [denies, ofNames, and_assoc]

theorem fold_congr {k l : String} (h : Text.lower k = Text.lower l) : fold k = fold l := by
  unfold fold
  rw [Text.lower_strip, Text.lower_strip, h]

theorem denies_congr (d : DenyList) {k l : String} (h : Text.lower k = Text.lower l) :
    d.denies k = d.denies l := by
  unfold denies
  rw [fold_congr h]

/-! ## The check -/

variable (d : DenyList)

mutual

theorem firstDenied?_eq_find? : {v : Value} → v.isTupleFree = true →
    d.firstDenied? v = v.allKeys.find? d.denies
  | .null, _ | .bool _, _ | .int _, _ | .float _, _ | .string _, _ | .native _, _ => by
    simp [firstDenied?, Value.allKeys]
  | .list vs, h => by
    rw [firstDenied?, Value.allKeys_list]
    exact firstDeniedItem?_eq_find? (Value.isTupleFree_list.mp h)
  | .map es, h => by
    rw [firstDenied?, Value.allKeys_map]
    exact firstDeniedEntry?_eq_find? (Value.isTupleFree_map.mp h)
  | .tuple _, h => by simp [Value.isTupleFree] at h

theorem firstDeniedEntry?_eq_find? : {es : List (String × Value)} →
    (∀ e ∈ es, e.2.isTupleFree = true) →
      firstDeniedEntry? d es = (Value.entryKeys es).find? d.denies
  | [], _ => by
    unfold firstDeniedEntry?
    simp
  | (k, v) :: es, h => by
    obtain ⟨hv, hes⟩ := List.forall_mem_cons.mp h
    unfold firstDeniedEntry?
    rw [Value.entryKeys_cons, List.find?_cons, List.find?_append, firstDenied?_eq_find? hv,
      firstDeniedEntry?_eq_find? hes]
    cases d.denies k
    · simp
    · simp

theorem firstDeniedItem?_eq_find? : {vs : List Value} →
    (∀ v ∈ vs, v.isTupleFree = true) →
      firstDeniedItem? d vs = (Value.itemKeys vs).find? d.denies
  | [], _ => by simp [firstDeniedItem?]
  | v :: vs, h => by
    obtain ⟨hv, hvs⟩ := List.forall_mem_cons.mp h
    rw [firstDeniedItem?, Value.itemKeys_cons, List.find?_append, firstDenied?_eq_find? hv,
      firstDeniedItem?_eq_find? hvs]
    simp

end

mutual

theorem mem_allKeys_of_firstDenied? : {v : Value} → {k : String} → d.firstDenied? v = some k →
    k ∈ v.allKeys ∧ d.denies k = true
  | .map es, k, h => by
    rw [firstDenied?] at h
    rw [Value.allKeys_map]
    exact mem_entryKeys_of_firstDenied h
  | .list vs, k, h => by
    rw [firstDenied?] at h
    rw [Value.allKeys_list]
    exact mem_itemKeys_of_firstDenied h
  | .null, _, h | .bool _, _, h | .int _, _, h | .float _, _, h | .string _, _, h | .tuple _, _, h
  | .native _, _, h => by simp [firstDenied?] at h

theorem mem_entryKeys_of_firstDenied : {es : List (String × Value)} → {k : String} →
    firstDeniedEntry? d es = some k → k ∈ Value.entryKeys es ∧ d.denies k = true
  | [], _, h => by
    unfold firstDeniedEntry? at h
    exact absurd h.symm (Option.some_ne_none _)
  | (l, v) :: es, k, h => by
    unfold firstDeniedEntry? at h
    rw [Value.entryKeys_cons, List.mem_cons, List.mem_append]
    split_ifs at h with hl
    · obtain rfl := Option.some.inj h
      exact ⟨.inl rfl, hl⟩
    · rw [Option.orElse_eq_or] at h
      rcases Option.or_eq_some_iff.mp h with h | ⟨-, h⟩
      · exact (mem_allKeys_of_firstDenied? h).imp_left fun hk => .inr (.inl hk)
      · exact (mem_entryKeys_of_firstDenied h).imp_left fun hk => .inr (.inr hk)

theorem mem_itemKeys_of_firstDenied : {vs : List Value} → {k : String} →
    firstDeniedItem? d vs = some k → k ∈ Value.itemKeys vs ∧ d.denies k = true
  | [], _, h => by simp [firstDeniedItem?] at h
  | v :: vs, k, h => by
    rw [firstDeniedItem?] at h
    rw [Value.itemKeys_cons, List.mem_append]
    rw [Option.orElse_eq_or] at h
    rcases Option.or_eq_some_iff.mp h with h | ⟨-, h⟩
    · exact (mem_allKeys_of_firstDenied? h).imp_left .inl
    · exact (mem_itemKeys_of_firstDenied h).imp_left .inr

end

theorem check_of_forall {v : Value} (h : ∀ k ∈ v.allKeys, d.denies k = false) :
    d.check v = .ok () := by
  unfold check
  cases hf : d.firstDenied? v with
  | none => rfl
  | some k =>
    obtain ⟨hk, hd⟩ := mem_allKeys_of_firstDenied? d hf
    rw [h k hk] at hd
    exact Bool.noConfusion hd

theorem check_eq_ok_iff {v : Value} (h : v.isTupleFree = true) :
    d.check v = .ok () ↔ ∀ k ∈ v.allKeys, d.denies k = false := by
  refine ⟨fun hc => ?_, check_of_forall d⟩
  unfold check at hc
  rw [firstDenied?_eq_find? d h] at hc
  cases hf : v.allKeys.find? d.denies with
  | none => simpa using List.find?_eq_none.mp hf
  | some k =>
    rw [hf] at hc
    simp at hc

theorem check_eq_ok_or (v : Value) :
    d.check v = .ok () ∨ ∃ k, d.check v = .error (.blockedOperator (Text.strip k)) := by
  unfold check
  cases d.firstDenied? v with
  | none => exact .inl rfl
  | some k => exact .inr ⟨k, rfl⟩

end QueryWarden.DenyList
