import QueryWarden.Proofs.Query.Shape
import QueryWarden.Query.Source

/-!
# One output in both modes

Without a pipeline the output of a model is read by its query in both modes.  The mode for filters
reads the filter and the limit of a structured query (`ofModelOutput_of_ne`).  The mode for
pipelines takes the filter as it stands, null or misshapen, and never looks at the limit in the
query (`ofModelOutput_aggregateMode`).  So the modes agree exactly when a structured query has a
mapping for its filter and a limit that comes to the one around it (`modes_read_alike_iff`).
-/

namespace QueryWarden

/-! ## Builders -/

section Builders

variable {policy : LimitPolicy} {filter : Fields} {projection sort : Option Fields} {i j : Int}

theorem LimitPolicy.clamp_of_greatest_lt (h : policy.greatest < 1) (v : Value) :
    policy.clamp v = policy.greatest := by
  unfold clamp clampLimit
  omega

theorem FindSpec.build_of_one_le (h : 1 ≤ i) :
    build filter projection sort i = .ok (.find ⟨filter, projection, sort, ⟨i, h⟩⟩) := by
  unfold build
  rw [Positive.ofInt?_eq_some h]

theorem FindSpec.build_of_lt (h : i < 1) : build filter projection sort i = .error limitFault := by
  unfold build
  rw [Positive.ofInt?_eq_none h]

theorem AggregateSpec.build_of_one_le {ss : List Fields} (h : 1 ≤ i) :
    build ss i = .ok (.aggregate ⟨ss, ⟨i, h⟩⟩) := by
  unfold build
  rw [Positive.ofInt?_eq_some h]

theorem limitFault_ne_failure (f : Failure) : limitFault ≠ .failure f := by
  unfold limitFault
  exact nofun

theorem AggregateSpec.build_ne_failure {ss : List Fields} {f : Failure} :
    build ss i ≠ .error (.failure f) := by
  unfold build
  split
  · exact nofun
  · exact nofun

end Builders

namespace QuerySpec

/-- Whether what the mode for pipelines makes is what the mode for filters makes: the filter as the
only stage, with the same limit, and a failure of the same kind. -/
structure ReadAlike (find aggregation : Except Fault QuerySpec) : Prop where
  built : ∀ s, find = .ok (.find s) →
    aggregation = .ok (.aggregate ⟨[[("$match", .map s.filter)]], s.limit⟩)
  refused : ∀ f, find = .error (.failure f) → f.kind = .invalidModelOutput →
    ∃ g, aggregation = .error (.failure g) ∧ g.kind = .invalidModelOutput

section ReadAlike

variable {policy : LimitPolicy} {filter : Fields} {projection sort : Option Fields} {v : Value}
  {i j : Int}

/-- Where no limit is allowed, there is neither a find nor a failure that could be compared. -/
theorem readAlike_build_of_lt (hi : i < 1) (aggregation : Except Fault QuerySpec) :
    ReadAlike (FindSpec.build filter projection sort i) aggregation := by
  rw [FindSpec.build_of_lt hi]
  refine ⟨nofun, fun f hf => ?_⟩
  exact absurd (Except.error.inj hf) (limitFault_ne_failure f)

theorem readAlike_build_iff (hi : 1 ≤ i) (hj : 1 ≤ j) :
    ReadAlike (FindSpec.build filter projection sort i) (AggregateSpec.build [[("$match", v)]] j) ↔
      v = .map filter ∧ i = j := by
  rw [FindSpec.build_of_one_le hi, AggregateSpec.build_of_one_le hj]
  constructor
  · rintro ⟨hbuilt, -⟩
    have hspec := hbuilt _ rfl
    simp only [Except.ok.injEq, aggregate.injEq, AggregateSpec.mk.injEq, List.cons.injEq,
      Prod.mk.injEq, Positive.mk.injEq, true_and, and_true] at hspec
    exact ⟨hspec.1, hspec.2.symm⟩
  · rintro ⟨rfl, rfl⟩
    constructor
    · intro s hs
      obtain rfl := find.inj (Except.ok.inj hs)
      rfl
    · intro f hf
      cases hf

theorem readAlike_build_clamp_iff {inner limit : Value} :
    ReadAlike (FindSpec.build filter projection sort (policy.clamp inner))
        (AggregateSpec.build [[("$match", v)]] (policy.clamp limit)) ↔
      (1 ≤ policy.greatest → v = .map filter ∧ policy.clamp inner = policy.clamp limit) := by
  by_cases hg : 1 ≤ policy.greatest
  · rw [readAlike_build_iff (LimitPolicy.one_le_clamp hg inner) (LimitPolicy.one_le_clamp hg limit)]
    exact ⟨fun h _ => h, fun h => h hg⟩
  · refine iff_of_true (readAlike_build_of_lt ?_ _) fun h => absurd h hg
    rw [LimitPolicy.clamp_of_greatest_lt (by omega)]
    omega

theorem readAlike_map_iff {inner limit : Value} :
    ReadAlike (FindSpec.build filter projection sort (policy.clamp inner))
        (AggregateSpec.build [[("$match", .map filter)]] (policy.clamp limit)) ↔
      policy.clamp inner = policy.clamp limit := by
  rw [readAlike_build_clamp_iff]
  constructor
  · intro h
    by_cases hg : 1 ≤ policy.greatest
    · exact (h hg).2
    · rw [LimitPolicy.clamp_of_greatest_lt (by omega),
        LimitPolicy.clamp_of_greatest_lt (by omega)]
  · intro hclamp _
    exact ⟨rfl, hclamp⟩

/-- A filter of null is never read alike, unless nothing is built. -/
theorem readAlike_null_iff {inner limit : Value} :
    ReadAlike (FindSpec.build filter projection sort (policy.clamp inner))
        (AggregateSpec.build [[("$match", .null)]] (policy.clamp limit)) ↔
      policy.greatest < 1 := by
  rw [readAlike_build_clamp_iff]
  constructor
  · intro h
    by_contra hg
    exact Value.noConfusion (h (by omega)).1
  · intro hlt hg
    omega

/-- A failure has no counterpart, since the builder of aggregations never looks at the filter. -/
theorem not_readAlike_misshapen (shape : Misshape) (ss : List Fields) (j : Int) :
    ¬ ReadAlike (.error (.failure (.misshapen .model shape))) (AggregateSpec.build ss j) := by
  rintro ⟨-, hrefused⟩
  obtain ⟨g, hg, -⟩ := hrefused _ rfl rfl
  exact AggregateSpec.build_ne_failure hg

end ReadAlike

/-! ## The two modes -/

section Modes

variable {policy : LimitPolicy} {mode : String} {output query : Fields}

def outerLimit (policy : LimitPolicy) (output : Fields) : Value :=
  (output.get? "limit").getD (.int policy.default)

theorem ofModelOutput_of_ne (hmode : mode ≠ aggregateMode)
    (hquery : ModelOutput.query output = .map query) :
    ofModelOutput policy mode output =
      buildFind .model policy (.map query) output (outerLimit policy output) := by
  unfold ofModelOutput
  dsimp only
  rw [if_neg hmode, hquery]
  rfl

theorem matchStage_eq (query outer : Fields) (limit : Value) :
    ModelOutput.matchStage query =
      .list [.map [("$match", (Shape.rawFind query outer limit).filter)]] := by
  unfold ModelOutput.matchStage Shape.rawFind
  split_ifs <;> rfl

theorem ofModelOutput_aggregateMode (hpipeline : Shape.valueOf output "pipeline" = .null)
    (hquery : ModelOutput.query output = .map query) :
    ofModelOutput policy aggregateMode output =
      AggregateSpec.build
        [[("$match", (Shape.rawFind query output (outerLimit policy output)).filter)]]
        (policy.clamp (outerLimit policy output)) := by
  have hstage : ModelOutput.pipeline output = ModelOutput.matchStage query := by
    unfold ModelOutput.pipeline
    rw [hpipeline, hquery]
  unfold ofModelOutput
  dsimp only
  rw [if_pos rfl, hstage, matchStage_eq query output (outerLimit policy output)]
  rfl

/-- The builders agree when the filter that is given is a mapping, or null where no limit is
allowed, and the limit that is given comes to the one around the query. -/
theorem readAlike_buildFind_iff (query outer : Fields) (limit : Value) :
    ReadAlike (buildFind .model policy (.map query) outer limit)
        (AggregateSpec.build [[("$match", (Shape.rawFind query outer limit).filter)]]
          (policy.clamp limit)) ↔
      ((Shape.rawFind query outer limit).filter.isMap = true ∨
          (Shape.rawFind query outer limit).filter = .null ∧ policy.greatest < 1) ∧
        policy.clamp (Shape.rawFind query outer limit).limit = policy.clamp limit := by
  unfold buildFind
  dsimp only [Shape.queryFields]
  generalize Shape.rawFind query outer limit = raw
  obtain ⟨v, projection, sort, inner⟩ := raw
  cases v with
  | map fs =>
    dsimp only [Shape.filterFields]
    rw [readAlike_map_iff]
    exact (and_iff_right (.inl rfl)).symm
  | null =>
    dsimp only [Shape.filterFields]
    rw [readAlike_null_iff]
    constructor
    · intro hlt
      refine ⟨.inr ⟨rfl, hlt⟩, ?_⟩
      rw [LimitPolicy.clamp_of_greatest_lt hlt, LimitPolicy.clamp_of_greatest_lt hlt]
    · rintro ⟨hmap | ⟨-, hlt⟩, -⟩
      · exact Bool.noConfusion hmap
      · exact hlt
  | _ =>
    refine iff_of_false (not_readAlike_misshapen _ _ _) ?_
    rintro ⟨hmap | ⟨hnull, -⟩, -⟩
    · exact Bool.noConfusion hmap
    · exact Value.noConfusion hnull

/-- **One output in both modes.**  The modes read the same condition and the same limit out of an
output without a pipeline, and refuse it both, exactly when its query is a bare filter, or when it
is a structured query whose filter is a mapping and whose limit comes to the one around it; where no
limit is allowed, nothing is built and a filter may be null as well. -/
theorem modes_read_alike_iff (hmode : mode ≠ aggregateMode)
    (hpipeline : Shape.valueOf output "pipeline" = .null)
    (hquery : ModelOutput.query output = .map query) :
    ReadAlike (ofModelOutput policy mode output) (ofModelOutput policy aggregateMode output) ↔
      (Shape.isStructured query = true →
        ((Shape.valueOf query "filter").isMap = true ∨
            Shape.valueOf query "filter" = .null ∧ policy.greatest < 1) ∧
          policy.clamp ((query.get? "limit").getD (outerLimit policy output)) =
            policy.clamp (outerLimit policy output)) := by
  rw [ofModelOutput_of_ne hmode hquery, ofModelOutput_aggregateMode hpipeline hquery,
    readAlike_buildFind_iff]
  unfold Shape.rawFind
  by_cases h : Shape.isStructured query = true
  · rw [if_pos h]
    exact ⟨fun hread _ => hread, fun hread => hread h⟩
  · rw [if_neg h]
    exact iff_of_true ⟨.inl rfl, rfl⟩ fun hstructured => absurd hstructured h

/-- A structured query with a filter and a limit that is too great on both sides. -/
theorem modes_read_alike_iff_wrapped :
    ReadAlike
      (ofModelOutput ⟨100, 50⟩ findMode
        [("query", .map [("filter", .map [("age", .int 30)]), ("limit", .int 500)]),
          ("limit", .int 200)])
      (ofModelOutput ⟨100, 50⟩ aggregateMode
        [("query", .map [("filter", .map [("age", .int 30)]), ("limit", .int 500)]),
          ("limit", .int 200)]) :=
  (modes_read_alike_iff (by decide) rfl rfl).mpr fun _ => ⟨.inl rfl, by decide⟩

/-- A filter of null counts as the empty one in the mode for filters, and is kept in the mode for
pipelines. -/
theorem modes_differ_on_null_filter :
    ofModelOutput ⟨100, 50⟩ findMode [("query", .map [("filter", .null)])] =
        .ok (.find ⟨[], none, none, ⟨50, by decide⟩⟩) ∧
      ofModelOutput ⟨100, 50⟩ aggregateMode [("query", .map [("filter", .null)])] =
        .ok (.aggregate ⟨[[("$match", .null)]], ⟨50, by decide⟩⟩) := by
  decide +kernel

end Modes

end QuerySpec

end QueryWarden
