import QueryWarden.Proofs.Value.Keys
import QueryWarden.Query.Sanitation

/-!
# What sanitation keeps

Each entry of a mapping and each item of a list is dropped, repaired or cleaned
(`cleanEntries_cons_cases`, `cleanItems_cons_cases`), and every law of sanitation goes through these
cases:

1. No key appears that the tree does not have: `allKeys_clean_subset`.
2. A sanitation that drops no clause leaves a tree without condition only when it had none before:
   `isCollapsed_of_sanitize`.
3. An item that is an empty mapping was one before: `emptyMap_mem_of_mem_cleanItems`.
-/

namespace QueryWarden

namespace SanitationReport

@[simp] theorem removed_empty : empty.removed = 0 := rfl

@[simp] theorem removed_mk (ps : List String) (n : Nat) : removed ⟨ps, n⟩ = ps.length := rfl

@[simp] theorem removed_append (r s : SanitationReport) :
    (r ++ s).removed = r.removed + s.removed :=
  List.length_append

end SanitationReport

namespace Sanitation

open Value

/-! ## One entry, one item -/

theorem clean_map (path : String) (es : Fields) :
    clean path (.map es) =
      (.map (cleanEntries path (Fields.has es "$regex") es).1,
        (cleanEntries path (Fields.has es "$regex") es).2) := by
  rw [clean]

theorem clean_list (path : String) (vs : List Value) :
    clean path (.list vs) = (.list (cleanItems path 0 vs).1, (cleanItems path 0 vs).2) := by
  rw [clean]

theorem cleanEntries_nil (path : String) (hasPattern : Bool) :
    cleanEntries path hasPattern [] = ([], .empty) := by
  rw [cleanEntries]

theorem cleanItems_nil (path : String) (i : Nat) : cleanItems path i [] = ([], .empty) := by
  rw [cleanItems]

/-- An entry is dropped as an unusable clause, gets the text of its options, is dropped because it
was emptied, or is cleaned. -/
theorem cleanEntries_cons_cases (path : String) (hasPattern : Bool) (k : String) (v : Value)
    (es : List (String × Value)) :
    let rest := cleanEntries path hasPattern es
    let r := clean (entryPath path k) v
    (Pattern.isUnusableClause v = true ∧
      cleanEntries path hasPattern ((k, v) :: es)
        = (rest.1, ⟨[entryPath path k], 0⟩ ++ rest.2)) ∨
    (Pattern.isUnusableClause v = false ∧
      (k == "$options" && hasPattern && !v.isString) = true ∧
      cleanEntries path hasPattern ((k, v) :: es)
        = ((k, .string v.toText) :: rest.1, ⟨[], 1⟩ ++ rest.2)) ∨
    (Pattern.isUnusableClause v = false ∧ k ≠ "$match" ∧ isEmptied v r.1 r.2 = true ∧
      cleanEntries path hasPattern ((k, v) :: es) = (rest.1, r.2 ++ rest.2)) ∨
    (Pattern.isUnusableClause v = false ∧
      (k == "$options" && hasPattern && !v.isString) = false ∧
      (k = "$match" ∨ isEmptied v r.1 r.2 = false) ∧
      cleanEntries path hasPattern ((k, v) :: es) = ((k, r.1) :: rest.1, r.2 ++ rest.2)) := by
  intro rest r
  rw [cleanEntries]
  by_cases hu : Pattern.isUnusableClause v = true
  · exact .inl ⟨hu, if_pos hu⟩
  have hu' : Pattern.isUnusableClause v = false := Bool.eq_false_iff.mpr hu
  by_cases ho : (k == "$options" && hasPattern && !v.isString) = true
  · exact .inr (.inl ⟨hu', ho, by rw [if_neg hu, if_pos ho]⟩)
  by_cases he : (k != "$match" && isEmptied v r.1 r.2) = true
  · have hsplit := Bool.and_eq_true_iff.mp he
    exact .inr (.inr (.inl ⟨hu', bne_iff_ne.mp hsplit.1, hsplit.2, by
      rw [if_neg hu, if_neg ho, if_pos he]⟩))
  · refine .inr (.inr (.inr ⟨hu', Bool.eq_false_iff.mpr ho, ?_, by
      rw [if_neg hu, if_neg ho, if_neg he]⟩))
    by_cases hm : k = "$match"
    · exact .inl hm
    · exact .inr (by simpa [hm] using he)

/-- An item is dropped as an unusable clause, is dropped because it was emptied, or is cleaned. -/
theorem cleanItems_cons_cases (path : String) (i : Nat) (v : Value) (vs : List Value) :
    let rest := cleanItems path (i + 1) vs
    let r := clean (itemPath path i) v
    (Pattern.isUnusableClause v = true ∧
      cleanItems path i (v :: vs) = (rest.1, ⟨[itemPath path i], 0⟩ ++ rest.2)) ∨
    (Pattern.isUnusableClause v = false ∧ v.isMap = true ∧ isEmptied v r.1 r.2 = true ∧
      cleanItems path i (v :: vs) = (rest.1, r.2 ++ rest.2)) ∨
    (Pattern.isUnusableClause v = false ∧ (v.isMap && isEmptied v r.1 r.2) = false ∧
      cleanItems path i (v :: vs) = (r.1 :: rest.1, r.2 ++ rest.2)) := by
  intro rest r
  rw [cleanItems]
  by_cases hu : Pattern.isUnusableClause v = true
  · exact .inl ⟨hu, if_pos hu⟩
  have hu' : Pattern.isUnusableClause v = false := Bool.eq_false_iff.mpr hu
  by_cases he : (v.isMap && isEmptied v r.1 r.2) = true
  · have hsplit := Bool.and_eq_true_iff.mp he
    exact .inr (.inl ⟨hu', hsplit.1, hsplit.2, by rw [if_neg hu, if_pos he]⟩)
  · exact .inr (.inr ⟨hu', Bool.eq_false_iff.mpr he, by rw [if_neg hu, if_neg he]⟩)

theorem exists_cleanItems_map (path : String) (i : Nat) (ss : List Fields) :
    ∃ ts : List Fields, (cleanItems path i (ss.map .map)).1 = ts.map .map := by
  induction ss generalizing i with
  | nil => exact ⟨[], by rw [List.map_nil, cleanItems_nil]⟩
  | cons s ss ih =>
    obtain ⟨ts, hts⟩ := ih (i + 1)
    rw [List.map_cons]
    rcases cleanItems_cons_cases path i (.map s) (ss.map .map) with
      ⟨-, h⟩ | ⟨-, -, -, h⟩ | ⟨-, -, h⟩
    · exact ⟨ts, by rw [h, hts]⟩
    · exact ⟨ts, by rw [h, hts]⟩
    · rw [clean_map] at h
      exact ⟨_ :: ts, by rw [h, hts, List.map_cons]⟩

/-! ## Keys -/

mutual

theorem allKeys_clean_subset (path : String) : (v : Value) → (clean path v).1.allKeys ⊆ v.allKeys
  | .map es => by
    rw [clean_map, allKeys_map, allKeys_map]
    exact entryKeys_cleanEntries_subset path _ es
  | .list vs => by
    rw [clean_list, allKeys_list, allKeys_list]
    exact itemKeys_cleanItems_subset path 0 vs
  | .null | .bool _ | .int _ | .float _ | .string _ | .tuple _ | .native _ => by
    rw [clean] <;> simp

theorem entryKeys_cleanEntries_subset (path : String) (hasPattern : Bool) :
    (es : List (String × Value)) → entryKeys (cleanEntries path hasPattern es).1 ⊆ entryKeys es
  | [] => by
    rw [cleanEntries_nil]
    exact List.Subset.refl _
  | (k, v) :: es => by
    have hrest := entryKeys_cleanEntries_subset path hasPattern es
    have hv := allKeys_clean_subset (entryPath path k) v
    have htail : entryKeys (cleanEntries path hasPattern es).1 ⊆ k :: (v.allKeys ++ entryKeys es) :=
      List.Subset.trans hrest
        (List.subset_cons_of_subset _ (List.subset_append_right _ _))
    rw [entryKeys_cons]
    rcases cleanEntries_cons_cases path hasPattern k v es with
      ⟨-, h⟩ | ⟨-, -, h⟩ | ⟨-, -, -, h⟩ | ⟨-, -, -, h⟩
    · rw [h]
      exact htail
    · rw [h, entryKeys_cons]
      exact List.cons_subset.mpr ⟨List.mem_cons_self, by simpa [allKeys] using htail⟩
    · rw [h]
      exact htail
    · rw [h, entryKeys_cons]
      exact List.cons_subset_cons _ (append_subset_append hv hrest)

theorem itemKeys_cleanItems_subset (path : String) (i : Nat) :
    (vs : List Value) → itemKeys (cleanItems path i vs).1 ⊆ itemKeys vs
  | [] => by
    rw [cleanItems_nil]
    exact List.Subset.refl _
  | v :: vs => by
    have hrest := itemKeys_cleanItems_subset path (i + 1) vs
    have hv := allKeys_clean_subset (itemPath path i) v
    rw [itemKeys_cons]
    rcases cleanItems_cons_cases path i v vs with ⟨-, h⟩ | ⟨-, -, -, h⟩ | ⟨-, -, h⟩
    · rw [h]
      exact List.subset_append_of_subset_right _ hrest
    · rw [h]
      exact List.subset_append_of_subset_right _ hrest
    · rw [h, itemKeys_cons]
      exact append_subset_append hv hrest

end

/-! ## Sanitations that drop no clause -/

theorem removed_ne_zero_of_isEmptied {v w : Value} {r : SanitationReport}
    (h : isEmptied v w r = true) : r.removed ≠ 0 := by
  unfold isEmptied at h
  rw [Bool.and_eq_true, Bool.and_eq_true] at h
  exact bne_iff_ne.mp h.1.1

/-- Where no clause is dropped, an entry stays with the text of its options or cleaned. -/
theorem cleanEntries_cons_of_removed_eq_zero {path : String} {hasPattern : Bool} {k : String}
    {v : Value} {es : List (String × Value)}
    (h0 : (cleanEntries path hasPattern ((k, v) :: es)).2.removed = 0) :
    (cleanEntries path hasPattern es).2.removed = 0 ∧
      (cleanEntries path hasPattern ((k, v) :: es)).1.tail = (cleanEntries path hasPattern es).1 ∧
      ((cleanEntries path hasPattern ((k, v) :: es)).1.head? = some (k, .string v.toText) ∨
        (clean (entryPath path k) v).2.removed = 0 ∧
          (cleanEntries path hasPattern ((k, v) :: es)).1.head?
            = some (k, (clean (entryPath path k) v).1)) := by
  rcases cleanEntries_cons_cases path hasPattern k v es with
    ⟨-, h⟩ | ⟨-, -, h⟩ | ⟨-, -, he, h⟩ | ⟨-, -, -, h⟩
  · rw [h] at h0
    simp at h0
  · rw [h] at h0 ⊢
    exact ⟨by simpa using h0, rfl, .inl rfl⟩
  · rw [h, SanitationReport.removed_append] at h0
    exact absurd (Nat.eq_zero_of_add_eq_zero_right h0) (removed_ne_zero_of_isEmptied he)
  · rw [h, SanitationReport.removed_append, Nat.add_eq_zero_iff] at h0
    rw [h]
    exact ⟨h0.2, rfl, .inr ⟨h0.1, rfl⟩⟩

/-- Where no clause is dropped, an item stays cleaned. -/
theorem cleanItems_cons_of_removed_eq_zero {path : String} {i : Nat} {v : Value}
    {vs : List Value} (h0 : (cleanItems path i (v :: vs)).2.removed = 0) :
    (clean (itemPath path i) v).2.removed = 0 ∧ (cleanItems path (i + 1) vs).2.removed = 0 ∧
      (cleanItems path i (v :: vs)).1
        = (clean (itemPath path i) v).1 :: (cleanItems path (i + 1) vs).1 := by
  rcases cleanItems_cons_cases path i v vs with ⟨-, h⟩ | ⟨-, -, he, h⟩ | ⟨-, -, h⟩
  · rw [h] at h0
    simp at h0
  · rw [h, SanitationReport.removed_append] at h0
    exact absurd (Nat.eq_zero_of_add_eq_zero_right h0) (removed_ne_zero_of_isEmptied he)
  · rw [h, SanitationReport.removed_append, Nat.add_eq_zero_iff] at h0
    exact ⟨h0.1, h0.2, by rw [h]⟩

theorem eq_nil_of_cleanEntries {path : String} {hasPattern : Bool} {es : List (String × Value)}
    (h0 : (cleanEntries path hasPattern es).2.removed = 0)
    (h : (cleanEntries path hasPattern es).1 = []) : es = [] := by
  cases es with
  | nil => rfl
  | cons e es =>
    obtain ⟨-, -, hhead⟩ := cleanEntries_cons_of_removed_eq_zero h0
    rw [h] at hhead
    simp at hhead

/-- A sanitation that drops no clause leaves no condition only where there was none. -/
theorem isEmptyMap_of_clean {path : String} {v : Value} (h0 : (clean path v).2.removed = 0)
    (h : (clean path v).1 = .map []) : v = .map [] := by
  cases v with
  | map es =>
    rw [clean_map] at h h0
    rw [eq_nil_of_cleanEntries h0 (Value.map.inj h)]
  | list vs =>
    rw [clean_list] at h
    exact Value.noConfusion h
  | _ => simp [clean] at h

theorem isEmptyMap_of_stays {path : String} {v : Value}
    (hs : (v.isMap && isEmptied v (clean path v).1 (clean path v).2) = false)
    (h : (clean path v).1 = .map []) : v = .map [] := by
  by_contra hne
  have h0 : (clean path v).2.removed ≠ 0 := fun h0 => hne (isEmptyMap_of_clean h0 h)
  cases v with
  | map es =>
    have hes : (Value.map es).isEmptyContainer = false := by
      cases es with
      | nil => exact absurd rfl hne
      | cons e es => rfl
    have he : isEmptied (.map es) (clean path (.map es)).1 (clean path (.map es)).2 = true := by
      unfold isEmptied
      rw [hes, h, bne_iff_ne.mpr h0]
      rfl
    rw [he] at hs
    exact Bool.noConfusion hs
  | list vs =>
    rw [clean_list] at h
    exact Value.noConfusion h
  | _ => simp [clean] at h

/-- Sanitation makes no empty mapping of an item: one that loses all its entries is dropped. -/
theorem emptyMap_mem_of_mem_cleanItems {path : String} {i : Nat} {vs : List Value}
    (h : Value.map [] ∈ (cleanItems path i vs).1) : Value.map [] ∈ vs := by
  induction vs generalizing i with
  | nil =>
    rw [cleanItems_nil] at h
    exact h
  | cons v vs ih =>
    rcases cleanItems_cons_cases path i v vs with ⟨-, hc⟩ | ⟨-, -, -, hc⟩ | ⟨-, hs, hc⟩
    · rw [hc] at h
      exact List.mem_cons_of_mem _ (ih h)
    · rw [hc] at h
      exact List.mem_cons_of_mem _ (ih h)
    · rw [hc] at h
      rcases List.mem_cons.mp h with hv | h
      · rw [isEmptyMap_of_stays hs hv.symm]
        exact List.mem_cons_self
      · exact List.mem_cons_of_mem _ (ih h)

end Sanitation

theorem isEmptyStage_iff {v : Value} :
    isEmptyStage v = true ↔ v = .map [] ∨ v = .map [("$match", .map [])] := by
  unfold isEmptyStage
  split
  · simp
  · rename_i k
    simp
  · rename_i h₁ h₂
    simp only [Bool.false_eq_true, false_iff, not_or]
    exact ⟨h₁, fun h => h₂ _ h⟩

namespace Sanitation

theorem isEmptyStage_of_clean {path : String} {v : Value} (h0 : (clean path v).2.removed = 0)
    (h : isEmptyStage (clean path v).1 = true) : isEmptyStage v = true := by
  rcases isEmptyStage_iff.mp h with h | h
  · exact isEmptyStage_iff.mpr (.inl (isEmptyMap_of_clean h0 h))
  cases v with
  | map es =>
    rw [clean_map] at h h0
    have hes := Value.map.inj h
    cases es with
    | nil =>
      rw [cleanEntries_nil] at hes
      exact absurd hes.symm (List.cons_ne_nil _ _)
    | cons e es =>
      obtain ⟨k, w⟩ := e
      obtain ⟨hrest0, htail, hhead⟩ := cleanEntries_cons_of_removed_eq_zero h0
      rw [hes] at htail hhead
      have hes' : es = [] := eq_nil_of_cleanEntries hrest0 htail.symm
      rcases hhead with hhead | ⟨hw0, hhead⟩
      · simp at hhead
      · simp only [List.head?_cons, Option.some.injEq, Prod.mk.injEq] at hhead
        rw [hes', ← hhead.1, isEmptyMap_of_clean hw0 hhead.2.symm]
        rfl
  | list vs =>
    rw [clean_list] at h
    exact Value.noConfusion h
  | _ => simp [clean] at h

theorem all_isEmptyStage_of_cleanItems {path : String} {i : Nat} {vs : List Value}
    (h0 : (cleanItems path i vs).2.removed = 0)
    (h : ∀ v ∈ (cleanItems path i vs).1, isEmptyStage v = true) :
    ∀ v ∈ vs, isEmptyStage v = true := by
  induction vs generalizing i with
  | nil => exact List.forall_mem_nil _
  | cons v vs ih =>
    obtain ⟨hv0, hvs0, hc⟩ := cleanItems_cons_of_removed_eq_zero h0
    rw [hc] at h
    obtain ⟨hv, hvs⟩ := List.forall_mem_cons.mp h
    exact List.forall_mem_cons.mpr ⟨isEmptyStage_of_clean hv0 hv, ih hvs0 hvs⟩

end Sanitation

/-- Where no clause is dropped, a tree without condition had none before. -/
theorem isCollapsed_of_sanitize {v : Value} {n : Nat} (h0 : (sanitize v).2.removed = 0)
    (h : isCollapsed (sanitize v).1 n = true) : isCollapsed v n = true := by
  unfold isCollapsed at h ⊢
  rw [Bool.and_eq_true] at h ⊢
  refine ⟨h.1, ?_⟩
  unfold sanitize at h h0
  cases v with
  | map es =>
    rw [Sanitation.clean_map] at h h0
    have hes : (Sanitation.cleanEntries "" (Fields.has es "$regex") es).1 = [] :=
      List.isEmpty_iff.mp h.2
    rw [Sanitation.eq_nil_of_cleanEntries h0 hes]
    rfl
  | list vs =>
    rw [Sanitation.clean_list] at h h0
    have hvs := List.all_eq_true.mp h.2
    exact List.all_eq_true.mpr (Sanitation.all_isEmptyStage_of_cleanItems h0 hvs)
  | _ => simp [Sanitation.clean] at h

end QueryWarden
