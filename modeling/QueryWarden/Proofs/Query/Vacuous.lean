import QueryWarden.Proofs.Query.Clean

/-!
# Filters that restrict nothing

A filter is vacuous when it is empty or has nothing but `$and` and `$or` with lists of vacuous
filters: it matches every document, whatever its shape.  The check for collapse sees the empty
filter only.

1. A vacuous filter that is not empty has an empty branch, an empty mapping among the items of its
   lists (`hasEmptyBranch_of_isVacuous`).
2. Sanitation neither adds nor drops an empty branch, as a member that was empty before stays and a
   member that it empties is dropped (`hasEmptyBranch_clean`).
3. So where sanitation leaves a vacuous filter, the check sees it exactly when the tree had no empty
   branch to begin with: `isCollapsed_iff_of_restrictsNothing`.
-/

namespace QueryWarden

/-! ## Vacuous filters -/

/-- Whether an operator combines a list of filters into one that matches where they do. -/
def isConnective (k : String) : Bool :=
  k == "$and" || k == "$or"

mutual

/-- Whether a value is a filter that matches every document. -/
def isVacuous : Value → Bool
  | .map es => entriesAreVacuous es
  | _ => false

/-- Whether all entries of a filter are connectives of filters that match every document. -/
def entriesAreVacuous : List (String × Value) → Bool
  | [] => true
  | (k, v) :: es => isConnective k && branchesAreVacuous v && entriesAreVacuous es

/-- Whether a value is a list of filters that match every document, and not empty. -/
def branchesAreVacuous : Value → Bool
  | .list vs => !vs.isEmpty && itemsAreVacuous vs
  | _ => false

def itemsAreVacuous : List Value → Bool
  | [] => true
  | v :: vs => isVacuous v && itemsAreVacuous vs

end

/-- Whether a stage is nothing but a `$match` that matches every document. -/
def isVacuousStage : Value → Bool
  | .map [(k, f)] => k == "$match" && isVacuous f
  | _ => false

/-- Whether a tree is a vacuous filter or a pipeline of vacuous stages. -/
def restrictsNothing : Value → Bool
  | .map es => isVacuous (.map es)
  | .list stages => stages.all isVacuousStage
  | _ => false

/-! ## Empty branches -/

/-- Whether the value of an entry holds filters in its turn: the list of a connective, and the
filter of a stage. -/
def holdsFilters (k : String) : Value → Bool
  | .list _ => isConnective k
  | .map _ => k == "$match"
  | _ => false

mutual

/-- Whether an empty mapping is among the filters of a tree, unusable clauses left out. -/
def hasEmptyBranch : Value → Bool
  | .map es => entriesHaveEmptyBranch es
  | .list vs => itemsHaveEmptyBranch vs
  | _ => false

/-- Whether an empty mapping is among the filters that entries hold. -/
def entriesHaveEmptyBranch : List (String × Value) → Bool
  | [] => false
  | (k, v) :: es =>
    !Pattern.isUnusableClause v && holdsFilters k v && hasEmptyBranch v || entriesHaveEmptyBranch es

/-- Whether an empty mapping is an item of a list or among the filters of its items. -/
def itemsHaveEmptyBranch : List Value → Bool
  | [] => false
  | v :: vs =>
    !Pattern.isUnusableClause v && (decide (v = .map []) || hasEmptyBranch v)
      || itemsHaveEmptyBranch vs

end

namespace Sanitation

open Value

theorem holdsFilters_clean (path k : String) (v : Value) :
    holdsFilters k (clean path v).1 = holdsFilters k v := by
  cases v with
  | map es => rw [clean_map]; rfl
  | list vs => rw [clean_list]; rfl
  | _ => rw [clean] <;> simp

/-- Only the connectives and `$match` hold filters. -/
theorem holdsFilters_options (v : Value) : holdsFilters "$options" v = false := by
  cases v <;> rfl

theorem hasEmptyBranch_of_isEmptyContainer {v : Value} (h : v.isEmptyContainer = true) :
    hasEmptyBranch v = false := by
  unfold Value.isEmptyContainer at h
  split at h
  · rfl
  · rfl
  · exact Bool.noConfusion h

theorem isEmptyContainer_of_isEmptied {v w : Value} {r : SanitationReport}
    (h : isEmptied v w r = true) : v.isEmptyContainer = false ∧ w.isEmptyContainer = true := by
  unfold isEmptied at h
  rw [Bool.and_eq_true, Bool.and_eq_true, Bool.not_eq_true'] at h
  exact ⟨h.1.2, h.2⟩

/-- An item that stays is empty exactly when it was. -/
theorem clean_eq_emptyMap_iff {path : String} {v : Value}
    (hs : (v.isMap && isEmptied v (clean path v).1 (clean path v).2) = false) :
    (clean path v).1 = .map [] ↔ v = .map [] := by
  refine ⟨isEmptyMap_of_stays hs, ?_⟩
  rintro rfl
  rw [clean_map, cleanEntries_nil]

mutual

theorem hasEmptyBranch_clean (path : String) : (v : Value) →
    hasEmptyBranch (clean path v).1 = hasEmptyBranch v
  | .map es => by
    rw [clean_map, hasEmptyBranch, hasEmptyBranch]
    exact entriesHaveEmptyBranch_cleanEntries path _ es
  | .list vs => by
    rw [clean_list, hasEmptyBranch, hasEmptyBranch]
    exact itemsHaveEmptyBranch_cleanItems path 0 vs
  | .null | .bool _ | .int _ | .float _ | .string _ | .tuple _ | .native _ => by
    rw [clean] <;> simp

theorem entriesHaveEmptyBranch_cleanEntries (path : String) (hasPattern : Bool) :
    (es : List (String × Value)) →
      entriesHaveEmptyBranch (cleanEntries path hasPattern es).1 = entriesHaveEmptyBranch es
  | [] => by rw [cleanEntries_nil]
  | (k, v) :: es => by
    have hrest := entriesHaveEmptyBranch_cleanEntries path hasPattern es
    have hv := hasEmptyBranch_clean (entryPath path k) v
    rcases cleanEntries_cons_cases path hasPattern k v es with
      ⟨hu, h⟩ | ⟨-, ho, h⟩ | ⟨-, -, he, h⟩ | ⟨hu, -, -, h⟩
    · rw [h, entriesHaveEmptyBranch, hu, hrest]
      rfl
    · simp only [Bool.and_eq_true, beq_iff_eq] at ho
      obtain ⟨⟨rfl, -⟩, -⟩ := ho
      rw [h, entriesHaveEmptyBranch, entriesHaveEmptyBranch, holdsFilters_options,
        holdsFilters_options, hrest]
      simp
    · -- What is left of an emptied entry has no branches, so it had no empty one.
      rw [hasEmptyBranch_of_isEmptyContainer (isEmptyContainer_of_isEmptied he).2] at hv
      rw [h, entriesHaveEmptyBranch, ← hv, Bool.and_false, hrest]
      rfl
    · rw [h, entriesHaveEmptyBranch, entriesHaveEmptyBranch, isUnusableClause_clean hu, hu,
        holdsFilters_clean, hv, hrest]

theorem itemsHaveEmptyBranch_cleanItems (path : String) (i : Nat) : (vs : List Value) →
    itemsHaveEmptyBranch (cleanItems path i vs).1 = itemsHaveEmptyBranch vs
  | [] => by rw [cleanItems_nil]
  | v :: vs => by
    have hrest := itemsHaveEmptyBranch_cleanItems path (i + 1) vs
    have hv := hasEmptyBranch_clean (itemPath path i) v
    rcases cleanItems_cons_cases path i v vs with ⟨hu, h⟩ | ⟨-, -, he, h⟩ | ⟨hu, hs, h⟩
    · rw [h, itemsHaveEmptyBranch, hu, hrest]
      rfl
    · -- Only an item that held something is dropped.
      obtain ⟨hbefore, hafter⟩ := isEmptyContainer_of_isEmptied he
      have hne : v ≠ .map [] := by
        rintro rfl
        exact Bool.noConfusion hbefore
      rw [hasEmptyBranch_of_isEmptyContainer hafter] at hv
      rw [h, itemsHaveEmptyBranch, ← hv, decide_eq_false hne, hrest]
      simp
    · rw [h, itemsHaveEmptyBranch, itemsHaveEmptyBranch, isUnusableClause_clean hu, hu, hv, hrest,
        decide_eq_decide.mpr (clean_eq_emptyMap_iff hs)]

end

end Sanitation

/-! ## Empty branches of vacuous filters -/

theorem notMem_keys_of_entriesAreVacuous {es : Fields} (h : entriesAreVacuous es = true)
    {k : String} (hk : isConnective k = false) : k ∉ es.keys := by
  induction es with
  | nil => exact List.not_mem_nil
  | cons e es ih =>
    obtain ⟨l, v⟩ := e
    rw [entriesAreVacuous, Bool.and_eq_true, Bool.and_eq_true] at h
    rw [Fields.keys_cons, List.mem_cons, not_or]
    refine ⟨?_, ih h.2⟩
    rintro rfl
    rw [h.1.1] at hk
    exact Bool.noConfusion hk

theorem isUnusableClause_of_isVacuous {v : Value} (h : isVacuous v = true) :
    Pattern.isUnusableClause v = false := by
  cases v with
  | map es =>
    rw [isVacuous] at h
    refine Sanitation.isUnusableClause_map_eq_false.mpr fun hc => ?_
    rw [Sanitation.isClauseFields_iff, Fields.has_iff_mem_keys, Fields.has_iff_mem_keys] at hc
    exact absurd hc (not_or_intro (notMem_keys_of_entriesAreVacuous h rfl)
      (notMem_keys_of_entriesAreVacuous h rfl))
  | _ => simp [isVacuous] at h

theorem holdsFilters_of_branchesAreVacuous {k : String} {v : Value} (hk : isConnective k = true)
    (hv : branchesAreVacuous v = true) :
    (!Pattern.isUnusableClause v && holdsFilters k v) = true := by
  cases v with
  | list vs => exact hk
  | _ => simp [branchesAreVacuous] at hv

mutual

/-- A vacuous filter that is not empty has an empty branch. -/
theorem hasEmptyBranch_of_isVacuous : (v : Value) → isVacuous v = true → v ≠ .map [] →
    hasEmptyBranch v = true
  | .map es, h, hne => by
    rw [isVacuous] at h
    rw [hasEmptyBranch]
    refine entriesHaveEmptyBranch_of_vacuous es h ?_
    rintro rfl
    exact hne rfl
  | .null, h, _ | .bool _, h, _ | .int _, h, _ | .float _, h, _ | .string _, h, _ | .list _, h, _
  | .tuple _, h, _ | .native _, h, _ => by simp [isVacuous] at h

theorem entriesHaveEmptyBranch_of_vacuous : (es : List (String × Value)) →
    entriesAreVacuous es = true → es ≠ [] → entriesHaveEmptyBranch es = true
  | [], _, hne => absurd rfl hne
  | (k, v) :: es, h, _ => by
    rw [entriesAreVacuous, Bool.and_eq_true, Bool.and_eq_true] at h
    rw [entriesHaveEmptyBranch, holdsFilters_of_branchesAreVacuous h.1.1 h.1.2,
      hasEmptyBranch_of_branchesAreVacuous v h.1.2]
    rfl

theorem hasEmptyBranch_of_branchesAreVacuous : (v : Value) → branchesAreVacuous v = true →
    hasEmptyBranch v = true
  | .list vs, h => by
    rw [branchesAreVacuous, Bool.and_eq_true, Bool.not_eq_true', List.isEmpty_eq_false_iff] at h
    rw [hasEmptyBranch]
    exact itemsHaveEmptyBranch_of_vacuous vs h.2 h.1
  | .null, h | .bool _, h | .int _, h | .float _, h | .string _, h | .map _, h
  | .tuple _, h | .native _, h => by simp [branchesAreVacuous] at h

theorem itemsHaveEmptyBranch_of_vacuous : (vs : List Value) → itemsAreVacuous vs = true →
    vs ≠ [] → itemsHaveEmptyBranch vs = true
  | [], _, hne => absurd rfl hne
  | v :: vs, h, _ => by
    rw [itemsAreVacuous, Bool.and_eq_true] at h
    have hbranch : (decide (v = .map []) || hasEmptyBranch v) = true := by
      by_cases hv : v = .map []
      · rw [decide_eq_true hv, Bool.true_or]
      · rw [hasEmptyBranch_of_isVacuous v h.1 hv, Bool.or_true]
    rw [itemsHaveEmptyBranch, isUnusableClause_of_isVacuous h.1, hbranch]
    rfl

end

theorem hasEmptyBranch_eq_false_iff {v : Value} (h : isVacuous v = true) :
    hasEmptyBranch v = false ↔ v = .map [] := by
  constructor
  · intro hv
    by_contra hne
    rw [hasEmptyBranch_of_isVacuous v h hne] at hv
    exact Bool.noConfusion hv
  · rintro rfl
    rfl

theorem exists_of_isVacuousStage {stage : Value} (h : isVacuousStage stage = true) :
    ∃ f, stage = .map [("$match", f)] ∧ isVacuous f = true := by
  unfold isVacuousStage at h
  split at h
  · rename_i k f
    rw [Bool.and_eq_true, beq_iff_eq] at h
    exact ⟨f, by rw [h.1], h.2⟩
  · exact Bool.noConfusion h

/-- A vacuous stage is seen to be empty exactly when its filter has no empty branch. -/
theorem isEmptyStage_of_isVacuousStage {stage : Value} (h : isVacuousStage stage = true) :
    isEmptyStage stage =
      !(!Pattern.isUnusableClause stage && (decide (stage = .map []) || hasEmptyBranch stage)) := by
  obtain ⟨f, rfl, hf⟩ := exists_of_isVacuousStage h
  have hstage : Pattern.isUnusableClause (.map [("$match", f)]) = false := rfl
  have hholds : holdsFilters "$match" f = true := by
    cases f with
    | map es => rfl
    | _ => simp [isVacuous] at hf
  have hbranch : hasEmptyBranch (.map [("$match", f)]) = hasEmptyBranch f := by
    rw [hasEmptyBranch, entriesHaveEmptyBranch, entriesHaveEmptyBranch,
      isUnusableClause_of_isVacuous hf, hholds, Bool.or_false]
    rfl
  rw [hstage, hbranch]
  by_cases he : f = .map []
  · rw [he]
    rfl
  · have hempty : isEmptyStage (.map [("$match", f)]) = false := by
      rw [Bool.eq_false_iff, ne_eq, isEmptyStage_iff]
      simpa using he
    rw [hempty, hasEmptyBranch_of_isVacuous f hf he, Bool.or_true]
    rfl

theorem all_isEmptyStage_iff {stages : List Value} (h : stages.all isVacuousStage = true) :
    stages.all isEmptyStage = !itemsHaveEmptyBranch stages := by
  induction stages with
  | nil => rfl
  | cons stage stages ih =>
    rw [List.all_cons, Bool.and_eq_true] at h
    rw [List.all_cons, itemsHaveEmptyBranch, Bool.not_or, ih h.2,
      isEmptyStage_of_isVacuousStage h.1]

/-- **Collapse of vacuous filters.**  Where sanitation drops a clause and leaves a filter, or a
pipeline of `$match` stages, that matches every document, the check for collapse reports it exactly
when the tree had no empty branch: with one, the query matches everything and is executed. -/
theorem isCollapsed_iff_of_restrictsNothing (t : Value) (hr : (sanitize t).2.removed ≠ 0)
    (hv : restrictsNothing (sanitize t).1 = true) :
    isCollapsed (sanitize t).1 (sanitize t).2.removed = true ↔ hasEmptyBranch t = false := by
  have hbranch : hasEmptyBranch (sanitize t).1 = hasEmptyBranch t :=
    Sanitation.hasEmptyBranch_clean "" t
  rw [← hbranch]
  unfold isCollapsed
  rw [bne_iff_ne.mpr hr, Bool.true_and]
  cases hc : (sanitize t).1 with
  | map fs =>
    rw [hc] at hv
    rw [hasEmptyBranch_eq_false_iff hv, List.isEmpty_iff, Value.map.injEq]
  | list stages =>
    rw [hc] at hv
    dsimp only
    rw [all_isEmptyStage_iff hv, hasEmptyBranch, Bool.not_eq_true']
  | _ => simp [hc, restrictsNothing] at hv

/-- A list that loses its only branch is reported, and so is a pipeline that loses all filters. -/
theorem isCollapsed_iff_of_restrictsNothing_blank :
    (let t : Value := .map [("$or", .list [.map [("a", .map [("$regex", .string " ")])]])]
    (sanitize t).2.removed ≠ 0 ∧ restrictsNothing (sanitize t).1 = true ∧
      isCollapsed (sanitize t).1 (sanitize t).2.removed = true) ∧
    (let t : Value := .list [.map [("$match", .map [("a", .map [("$options", .string "i")])])]]
    (sanitize t).2.removed ≠ 0 ∧ restrictsNothing (sanitize t).1 = true ∧
      isCollapsed (sanitize t).1 (sanitize t).2.removed = true) := by
  constructor
  · intro t
    have hr : (sanitize t).2.removed ≠ 0 := by decide +kernel
    have hv : restrictsNothing (sanitize t).1 = true := by decide +kernel
    exact ⟨hr, hv, (isCollapsed_iff_of_restrictsNothing t hr hv).mpr (by decide +kernel)⟩
  · intro t
    have hr : (sanitize t).2.removed ≠ 0 := by decide +kernel
    have hv : restrictsNothing (sanitize t).1 = true := by decide +kernel
    exact ⟨hr, hv, (isCollapsed_iff_of_restrictsNothing t hr hv).mpr (by decide +kernel)⟩

/-- A filter that loses its only restriction and keeps an empty branch is not reported. -/
theorem isCollapsed_misses_empty_branch :
    let t : Value := .map [("$or", .list [.map []]), ("a", .map [("$regex", .string "")])]
    (sanitize t).1 = .map [("$or", .list [.map []])] ∧ (sanitize t).2.removed = 1 ∧
      isVacuous (sanitize t).1 = true ∧
      isCollapsed (sanitize t).1 (sanitize t).2.removed = false := by
  decide +kernel

end QueryWarden
