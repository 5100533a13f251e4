import QueryWarden.Proofs.Query.Fuzzy
import QueryWarden.Proofs.Query.Sanitation
import QueryWarden.Service.Basic

/-!
# The conditions of a query

The conditions of a query are its filter or its stages.  A query without any is unrestricted: its
filter is empty, or all its stages are empty or an empty `$match`.

Neither fuzzy matching nor sanitation takes the last condition of a query away: a query that is
unrestricted afterwards was so before (`isUnrestricted_of_fuzzify`, `isUnrestricted_of_sanitize`).
For sanitation this rests on the check for collapse, which refuses exactly the queries that lost a
clause and are unrestricted now (`sanitize_eq_ok`).
-/

namespace QueryWarden

/-- A service in its default settings, without collections, whose model replies with a text. -/
def Service.bare (reply : String) : Service where
  settings := {}
  store := .inMemory []
  model := ⟨"bare", fun _ => .ok (.string reply)⟩

namespace QuerySpec

/-- The conditions of a query as a tree. -/
def conditions : QuerySpec → Value
  | .find s => .map s.filter
  | .aggregate s => stagesValue s.stages

def isUnrestricted : QuerySpec → Prop
  | .find s => s.filter = []
  | .aggregate s => ∀ stage ∈ s.stages, stage = [] ∨ stage = [("$match", .map [])]

theorem isEmptyStage_map {stage : Fields} :
    isEmptyStage (.map stage) = true ↔ stage = [] ∨ stage = [("$match", .map [])] := by
  rw [isEmptyStage_iff, Value.map.injEq, Value.map.injEq]

theorem isUnrestricted_aggregate {s : AggregateSpec} :
    (aggregate s).isUnrestricted ↔ ∀ v ∈ s.stages.map Value.map, isEmptyStage v = true := by
  unfold isUnrestricted
  rw [List.forall_mem_map]
  exact forall₂_congr fun stage _ => isEmptyStage_map.symm

theorem eq_find_of_kind {q : QuerySpec} (h : q.kind = "find") : ∃ s, q = .find s := by
  cases q with
  | find s => exact ⟨s, rfl⟩
  | aggregate s => simp [kind] at h

theorem eq_aggregate_of_kind {q : QuerySpec} (h : q.kind = "aggregate") :
    ∃ s, q = .aggregate s := by
  cases q with
  | find s => simp [kind] at h
  | aggregate s => exact ⟨s, rfl⟩

/-! ## Fuzzy matching -/

theorem isUnrestricted_of_fuzzify {q : QuerySpec} (h : q.fuzzify.isUnrestricted) :
    q.isUnrestricted := by
  cases q with
  | find s => exact Fuzzy.fuzzifyEntries_eq_nil h
  | aggregate s =>
    intro stage hs
    rcases h _ (List.mem_map_of_mem hs) with he | he
    · have hk := Fuzzy.keys_fuzzifyStage stage
      rw [he] at hk
      exact .inl (List.map_eq_nil_iff.mp hk.symm)
    · exact .inr (Fuzzy.eq_emptyMatch_of_fuzzifyStage he)

/-- A query as it is sanitized, fuzzy on request. -/
def ready (q : QuerySpec) (fuzzy : Bool) : QuerySpec :=
  if fuzzy then q.fuzzify else q

theorem kind_ready (q : QuerySpec) (fuzzy : Bool) : (q.ready fuzzy).kind = q.kind := by
  unfold ready
  split_ifs
  · cases q <;> rfl
  · rfl

theorem limit_ready (q : QuerySpec) (fuzzy : Bool) : (q.ready fuzzy).limit = q.limit := by
  unfold ready
  split_ifs
  · cases q <;> rfl
  · rfl

theorem isUnrestricted_of_ready {q : QuerySpec} {fuzzy : Bool}
    (h : (q.ready fuzzy).isUnrestricted) : q.isUnrestricted := by
  unfold ready at h
  split_ifs at h
  · exact isUnrestricted_of_fuzzify h
  · exact h

/-! ## Sanitation -/

theorem sanitized_snd (q : QuerySpec) : q.sanitized.2 = QueryWarden.sanitize q.conditions := by
  cases q <;> rfl

theorem kind_sanitized (q : QuerySpec) : q.sanitized.1.kind = q.kind := by
  cases q <;> rfl

theorem limit_sanitized (q : QuerySpec) : q.sanitized.1.limit = q.limit := by
  cases q <;> rfl

theorem conditions_sanitized (q : QuerySpec) : q.sanitized.1.conditions = q.sanitized.2.1 := by
  cases q with
  | find s =>
    simp only [sanitized, conditions, QueryWarden.sanitize, Sanitation.clean_map]
    rfl
  | aggregate s =>
    simp only [sanitized, conditions, QueryWarden.sanitize, stagesValue, Sanitation.clean_list]
    obtain ⟨ss, hss⟩ := Sanitation.exists_cleanItems_map "" 0 s.stages
    rw [hss]
    simp only [Value.items?, Option.getD_some, List.map_map]
    rfl

theorem isCollapsed_conditions {q : QuerySpec} {n : Nat} :
    isCollapsed q.conditions n = true ↔ n ≠ 0 ∧ q.isUnrestricted := by
  unfold isCollapsed
  rw [Bool.and_eq_true, bne_iff_ne]
  refine and_congr_right fun _ => ?_
  cases q with
  | find s => exact List.isEmpty_iff
  | aggregate s =>
    rw [isUnrestricted_aggregate]
    exact List.all_eq_true

theorem sanitize_eq (q : QuerySpec) :
    q.sanitize =
      if isCollapsed q.sanitized.1.conditions q.sanitized.2.2.removed = true
      then .error (.allRemoved q.sanitized.2.2.paths) else .ok q.sanitized.1 := by
  rw [conditions_sanitized]
  rfl

/-- A query passes sanitation unless it lost a clause and is unrestricted without it. -/
theorem sanitize_eq_ok {q clean : QuerySpec} :
    q.sanitize = .ok clean ↔
      q.sanitized.1 = clean ∧ (q.sanitized.2.2.removed = 0 ∨ ¬ clean.isUnrestricted) := by
  rw [sanitize_eq]
  cases hc : isCollapsed q.sanitized.1.conditions q.sanitized.2.2.removed with
  | true =>
    obtain ⟨hn, hu⟩ := isCollapsed_conditions.mp hc
    simp only [if_true, reduceCtorEq, false_iff, not_and, not_or, not_not]
    rintro rfl
    exact ⟨hn, hu⟩
  | false =>
    have hc' := mt isCollapsed_conditions.mpr (Bool.eq_false_iff.mp hc)
    simp only [Bool.false_eq_true, if_false, Except.ok.injEq]
    refine ⟨fun h => ⟨h, ?_⟩, fun h => h.1⟩
    rw [← h]
    tauto

theorem sanitize_of_collapsed {q : QuerySpec} (hn : q.sanitized.2.2.removed ≠ 0)
    (hu : q.sanitized.1.isUnrestricted) :
    q.sanitize = .error (.allRemoved q.sanitized.2.2.paths) := by
  rw [sanitize_eq, if_pos (isCollapsed_conditions.mpr ⟨hn, hu⟩)]

theorem isUnrestricted_of_sanitize {q clean : QuerySpec} (h : q.sanitize = .ok clean)
    (hu : clean.isUnrestricted) : q.isUnrestricted := by
  obtain ⟨rfl, hn⟩ := sanitize_eq_ok.mp h
  have h0 : q.sanitized.2.2.removed = 0 := hn.resolve_right (not_not_intro hu)
  have hc : isCollapsed q.sanitized.1.conditions 1 = true :=
    isCollapsed_conditions.mpr ⟨Nat.one_ne_zero, hu⟩
  rw [conditions_sanitized, sanitized_snd] at hc
  rw [sanitized_snd] at h0
  exact (isCollapsed_conditions.mp (isCollapsed_of_sanitize h0 hc)).2

end QuerySpec

end QueryWarden
