import QueryWarden.Proofs.Query.Clean
import QueryWarden.Proofs.Query.Shape
import QueryWarden.Proofs.Schema.CaseMap
import QueryWarden.Proofs.Service.Conditions

/-!
# Settled queries

A query is settled when shaping has nothing to do on it: its projection, its sort and its stages are
not empty, its directions are 1, -1 or mappings, and its limit lies between the bounds.

1. What the builders make is settled: `isSettled_ofModelOutput`.
2. Re-casing and sanitation leave a settled query settled: `IsSettled.recase`, `IsSettled.sanitized`.
3. A settled query is built again from its own parts: `IsSettled.buildFind`,
   `IsSettled.buildAggregate`.
4. A sanitized query passes sanitation once more without a change: `sanitize_of_sanitize`.
-/

namespace QueryWarden

namespace Shape

/-! ## Directions -/

/-- Whether a value stands for itself as the direction of a sort. -/
def IsDirection (v : Value) : Prop :=
  direction v = v

theorem direction_cases (v : Value) :
    direction v = .int 1 ∨ direction v = .int (-1) ∨ (direction v).isMap = true := by
  unfold direction
  split
  · split_ifs
    · exact .inr (.inl rfl)
    · exact .inl rfl
  · split_ifs
    · exact .inr (.inl rfl)
    · exact .inl rfl
  · split_ifs
    · exact .inr (.inl rfl)
    · exact .inl rfl
  · exact .inr (.inr rfl)
  · exact .inl rfl

theorem isDirection_iff {v : Value} :
    IsDirection v ↔ v = .int 1 ∨ v = .int (-1) ∨ v.isMap = true := by
  constructor
  · intro h
    have hv := direction_cases v
    rwa [h] at hv
  · rintro (rfl | rfl | h)
    · rfl
    · rfl
    · cases v with
      | map fs => rfl
      | _ => exact Bool.noConfusion h

theorem isDirection_direction (v : Value) : IsDirection (direction v) :=
  isDirection_iff.mpr (direction_cases v)

theorem isDirection_recaseTree {m : CaseMap} {v : Value} (h : IsDirection v) :
    IsDirection (m.recaseTree v) := by
  rcases isDirection_iff.mp h with rfl | rfl | hv
  · rfl
  · rfl
  · cases v with
    | map fs =>
      rw [CaseMap.recaseTree_map]
      rfl
    | _ => exact Bool.noConfusion hv

/-! ## Parts that are read -/

theorem ne_nil_of_projection? {v : Value} {fs : Fields} (h : projection? v = some fs) :
    fs ≠ [] := by
  unfold projection? at h
  split at h
  · obtain ⟨hne, rfl⟩ := nonempty?_eq_some.mp h
    exact hne
  · obtain ⟨hne, rfl⟩ := nonempty?_eq_some.mp h
    exact hne
  · exact absurd h.symm (Option.some_ne_none fs)

theorem ne_nil_of_sort? {v : Value} {fs : Fields} (h : sort? v = some fs) : fs ≠ [] := by
  obtain ⟨hne, rfl⟩ := nonempty?_eq_some.mp h
  exact hne

theorem isDirection_of_sort? {v : Value} {fs : Fields} (h : sort? v = some fs) :
    ∀ e ∈ fs, IsDirection e.2 := by
  rw [sort?_eq_some h]
  exact List.forall_mem_map.mpr fun e _ => isDirection_direction e.2

/-- A projection that is not empty is read as it stands in an answer. -/
theorem projection?_partValue {p : Option Fields} (h : ∀ fs ∈ p, fs ≠ []) :
    projection? (QuerySpec.partValue p) = p := by
  cases p with
  | none => rfl
  | some fs => exact nonempty?_eq_some.mpr ⟨h fs rfl, rfl⟩

/-- A sort that is not empty and has nothing but directions is read as it stands in an answer. -/
theorem sort?_partValue {p : Option Fields}
    (h : ∀ fs ∈ p, fs ≠ [] ∧ ∀ e ∈ fs, IsDirection e.2) : sort? (QuerySpec.partValue p) = p := by
  cases p with
  | none => rfl
  | some fs =>
    obtain ⟨hne, hd⟩ := h fs rfl
    have hmap : fs.map (fun e => (e.1, direction e.2)) = fs :=
      calc fs.map (fun e => (e.1, direction e.2))
        _ = fs.map id := List.map_congr_left fun e he => Prod.ext rfl (hd e he)
        _ = fs := List.map_id fs
    show nonempty? (fs.map fun e => (e.1, direction e.2)) = some fs
    rw [hmap]
    exact nonempty?_eq_some.mpr ⟨hne, rfl⟩

end Shape

namespace QuerySpec

/-- Whether shaping has nothing to do on the parts of a query and on its limit. -/
def IsSettled (policy : LimitPolicy) (q : QuerySpec) : Prop :=
  policy.clamp (.int q.limit.value) = q.limit.value ∧
    match q with
    | .find s =>
      (∀ fs ∈ s.projection, fs ≠ []) ∧
        ∀ fs ∈ s.sort, fs ≠ [] ∧ ∀ e ∈ fs, Shape.IsDirection e.2
    | .aggregate s => ∀ stage ∈ s.stages, stage ≠ []

variable {policy : LimitPolicy} {q spec : QuerySpec}

/-! ## Built queries -/

section Build

variable {author : Author} {limit : Value}

theorem isSettled_of_buildFind (hg : 1 ≤ policy.greatest) {query : Value} {outer : Fields}
    (h : buildFind author policy query outer limit = .ok spec) : spec.IsSettled policy := by
  obtain ⟨fs, filter, n, -, -, hn, rfl⟩ := buildFind_eq_ok.mp h
  refine ⟨?_, fun _ => Shape.ne_nil_of_projection?, fun gs hgs => ?_⟩
  · show policy.clamp (.int n.value) = n.value
    rw [hn, LimitPolicy.clamp_clamp hg]
  · exact ⟨Shape.ne_nil_of_sort? hgs, Shape.isDirection_of_sort? hgs⟩

theorem isSettled_of_buildAggregate (hg : 1 ≤ policy.greatest) {pipeline : Value}
    (h : buildAggregate author policy pipeline limit = .ok spec) : spec.IsSettled policy := by
  obtain ⟨ss, n, hss, hn, rfl⟩ := buildAggregate_eq_ok.mp h
  refine ⟨?_, (Shape.stages_eq_ok hss).2⟩
  show policy.clamp (.int n.value) = n.value
  rw [hn, LimitPolicy.clamp_clamp hg]

/-- The query that the output of a model asks for is settled, in both modes. -/
theorem isSettled_ofModelOutput (hg : 1 ≤ policy.greatest) {mode : String} {output : Fields}
    (h : ofModelOutput policy mode output = .ok spec) : spec.IsSettled policy := by
  unfold ofModelOutput at h
  dsimp only at h
  split_ifs at h
  · split at h
    · simp at h
    · exact isSettled_of_buildAggregate hg h
  · split at h
    · simp at h
    · exact isSettled_of_buildAggregate hg h
    · exact isSettled_of_buildFind hg h

end Build

/-! ## Re-casing and sanitation -/

theorem limit_recase (q : QuerySpec) (m : CaseMap) : (q.recase m).limit = q.limit := by
  unfold recase
  split_ifs
  · rfl
  · cases q <;> rfl

theorem IsSettled.recase {m : CaseMap} (hm : m.IsFolded) (h : q.IsSettled policy) :
    (q.recase m).IsSettled policy := by
  refine ⟨by rw [limit_recase, h.1], ?_⟩
  unfold QuerySpec.recase
  split_ifs
  · exact h.2
  cases q with
  | find s =>
    obtain ⟨-, hp, hs⟩ := h
    refine ⟨fun gs hgs => ?_, fun gs hgs => ?_⟩
    · obtain ⟨fs, hfs, rfl⟩ := Option.map_eq_some_iff.mp hgs
      exact CaseMap.recaseFields_ne_nil hm (hp fs hfs)
    · obtain ⟨fs, hfs, rfl⟩ := Option.map_eq_some_iff.mp hgs
      obtain ⟨hne, hd⟩ := hs fs hfs
      refine ⟨CaseMap.recaseFields_ne_nil hm hne, fun e he => ?_⟩
      obtain ⟨d, hmem, hv⟩ := CaseMap.exists_of_mem_recaseFields he
      rw [hv]
      exact Shape.isDirection_recaseTree (hd d hmem)
  | aggregate s =>
    exact List.forall_mem_map.mpr fun stage hs => CaseMap.recaseFields_ne_nil hm (h.2 stage hs)

theorem nil_mem_of_sanitized {s : AggregateSpec} {stages : List Fields} {limit : Positive}
    (h : (QuerySpec.aggregate s).sanitized.1 = .aggregate ⟨stages, limit⟩) (hn : [] ∈ stages) :
    [] ∈ s.stages := by
  have hc := conditions_sanitized (.aggregate s)
  rw [h, sanitized_snd] at hc
  unfold conditions stagesValue QueryWarden.sanitize at hc
  rw [Sanitation.clean_list] at hc
  have hitems : Value.map [] ∈ (Sanitation.cleanItems "" 0 (s.stages.map .map)).1 := by
    rw [← Value.list.inj hc]
    exact List.mem_map_of_mem hn
  obtain ⟨stage, hs, he⟩ := List.mem_map.mp (Sanitation.emptyMap_mem_of_mem_cleanItems hitems)
  rwa [← Value.map.inj he]

theorem IsSettled.sanitized (h : q.IsSettled policy) : q.sanitized.1.IsSettled policy := by
  refine ⟨by rw [limit_sanitized, h.1], ?_⟩
  cases q with
  | find s => exact h.2
  | aggregate s =>
    intro stage hs hnil
    subst hnil
    exact h.2 [] (nil_mem_of_sanitized rfl hs) rfl

theorem sanitize_of_isClean (h : Sanitation.IsClean q.conditions) : q.sanitize = .ok q := by
  have hs : QueryWarden.sanitize q.conditions = (q.conditions, .empty) :=
    Sanitation.clean_of_isClean "" h
  refine sanitize_eq_ok.mpr ⟨?_, .inl ?_⟩
  · cases q with
    | find s =>
      unfold QuerySpec.sanitized
      unfold conditions at hs
      dsimp only
      rw [hs]
      rfl
    | aggregate s =>
      unfold QuerySpec.sanitized
      unfold conditions at hs
      dsimp only
      rw [hs]
      show QuerySpec.aggregate ⟨(s.stages.map Value.map).map entriesOf, s.limit⟩ = .aggregate s
      rw [List.map_map]
      exact congrArg (fun ss => QuerySpec.aggregate ⟨ss, s.limit⟩) (List.map_id s.stages)
  · rw [sanitized_snd, hs]
    rfl

theorem sanitize_of_sanitize (h : q.sanitize = .ok spec) : spec.sanitize = .ok spec := by
  obtain ⟨rfl, -⟩ := sanitize_eq_ok.mp h
  apply sanitize_of_isClean
  rw [conditions_sanitized, sanitized_snd]
  exact Sanitation.isClean_clean "" q.conditions

/-! ## Building a query again -/

/-- A settled find is built from its parts in an answer, whatever limit is named beside them. -/
theorem IsSettled.buildFind (author : Author) {s : FindSpec} (h : (find s).IsSettled policy)
    (limit : Value) :
    QueryWarden.buildFind author policy
      (.map [("filter", .map s.filter), ("projection", partValue s.projection),
        ("sort", partValue s.sort), ("limit", .int s.limit.value)]) [] limit = .ok (.find s) := by
  obtain ⟨hl, hp, hs⟩ := h
  refine buildFind_eq_ok.mpr ⟨_, s.filter, s.limit, rfl, rfl, hl.symm, ?_⟩
  have hproj := Shape.projection?_partValue hp
  have hsort := Shape.sort?_partValue hs
  show QuerySpec.find s = .find ⟨s.filter, Shape.projection? (partValue s.projection),
    Shape.sort? (partValue s.sort), s.limit⟩
  rw [hproj, hsort]

theorem IsSettled.buildAggregate (author : Author) {s : AggregateSpec}
    (h : (aggregate s).IsSettled policy) :
    QueryWarden.buildAggregate author policy (stagesValue s.stages) (.int s.limit.value)
      = .ok (.aggregate s) :=
  buildAggregate_eq_ok.mpr
    ⟨s.stages, s.limit, Shape.stages_of_nonempty author h.2, h.1.symm, rfl⟩

end QuerySpec

end QueryWarden
