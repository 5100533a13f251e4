import QueryWarden.Proofs.Query.Trees
import QueryWarden.Proofs.Service.Refusal
import QueryWarden.Proofs.Service.Settled

/-!
# Building well-formed queries

Out of JSON the builders make a well-formed query, or they refuse with a failure of one kind
(`builds_wellFormed`).

1. The parts of a query are mappings of JSON with distinct keys (`isTree_projection?`,
   `isTree_sort?`), since they are parts of what is given or built entry by entry.
2. A sort keeps the order of its fields, whether it is given as a mapping or as a list of pairs
   (`keepsOrder_sort?`).
-/

namespace QueryWarden

open Value

def Value.IsJson (v : Value) : Prop :=
  v.isTree (fun _ => false) = true

instance (v : Value) : Decidable v.IsJson :=
  inferInstanceAs (Decidable (v.isTree _ = true))

structure FindSpec.IsWellFormed (policy : LimitPolicy) (s : FindSpec) : Prop where
  limit : 1 ≤ s.limit.value ∧ s.limit.value ≤ policy.greatest
  filter : (map s.filter).IsJson
  projection : ∀ fs ∈ s.projection, fs ≠ [] ∧ (map fs).IsJson
  sort : ∀ fs ∈ s.sort, fs ≠ [] ∧ (map fs).IsJson ∧
    ∀ e ∈ fs, e.2 = .int 1 ∨ e.2 = .int (-1) ∨ e.2.isMap = true

structure AggregateSpec.IsWellFormed (policy : LimitPolicy) (s : AggregateSpec) : Prop where
  limit : 1 ≤ s.limit.value ∧ s.limit.value ≤ policy.greatest
  stages : ∀ stage ∈ s.stages, stage ≠ [] ∧ (map stage).IsJson

def QuerySpec.IsWellFormed (policy : LimitPolicy) : QuerySpec → Prop
  | .find s => s.IsWellFormed policy
  | .aggregate s => s.IsWellFormed policy

/-- Whether a builder gave a well-formed query, or a failure of the given kind. -/
def BuiltOrRefused (policy : LimitPolicy) (kind : FailureKind) (r : Except Fault QuerySpec) :
    Prop :=
  (∃ spec, r = .ok spec ∧ spec.IsWellFormed policy) ∨
    ∃ f, r = .error (.failure f) ∧ f.kind = kind

namespace Shape

/-! ## Projections and sorts -/

section Parts

variable {p : Native → Bool} {v : Value} {fs : Fields}

theorem isTree_projection? (hv : v.isTree p = true) (h : projection? v = some fs) :
    (map fs).isTree p = true := by
  refine isTree_map.mpr ⟨?_, hereditary_isTree.projection? hv h⟩
  rcases projection?_eq_some h with rfl | ⟨vs, rfl, rfl⟩
  · exact (isTree_map.mp hv).1
  · exact Fields.nodup_keys_ofEntries _

theorem nodup_keys_sortEntries (hv : v.isTree p = true) : (sortEntries v).keys.Nodup := by
  cases v with
  | string s =>
    rw [keys_sortEntries_string, sortNames]
    by_cases hs : s = ""
    · rw [if_pos hs]
      exact List.nodup_nil
    · rw [if_neg hs]
      exact List.nodup_singleton s
  | list vs => exact Fields.nodup_keys_ofEntries _
  | map fs => exact (isTree_map.mp hv).1
  | _ => exact List.nodup_nil

theorem isTree_sort? (hv : v.isTree p = true) (h : sort? v = some fs) :
    (map fs).isTree p = true := by
  refine isTree_map.mpr ⟨?_, hereditary_isTree.sort? hv h⟩
  rw [sort?_eq_some h, keys_map_direction]
  exact nodup_keys_sortEntries hv

end Parts

/-! ## The order of a sort -/

/-- The sort that is given for a query: its own, or the one among the entries around it. -/
def givenSort (query outer : Fields) : Value :=
  (rawFind query outer .null).sort

theorem sort_rawFind (query outer : Fields) (limit : Value) :
    (rawFind query outer limit).sort = givenSort query outer := by
  unfold givenSort rawFind
  split_ifs <;> rfl

/-- Whether a sort has the fields in the order in which they are given, as a mapping or as a list of
pairs with distinct names. -/
def KeepsOrder (given : Value) (sort : Option Fields) : Prop :=
  ∀ es : Fields, es.keys.Nodup →
    given = .map es ∨ given = .list (es.map fun e => .list [.string e.1, e.2]) →
      (sort.getD []).keys = es.keys

theorem getD_nonempty? (fs : Fields) : (nonempty? fs).getD [] = fs := by
  cases fs <;> rfl

theorem filterMap_sortPair? (es : Fields) :
    (es.map fun e => Value.list [.string e.1, e.2]).filterMap sortPair? = es := by
  induction es with
  | nil => rfl
  | cons e es ih =>
    rw [List.map_cons, List.filterMap_cons_some (show sortPair? _ = some e from rfl), ih]

theorem keepsOrder_sort? (given : Value) : KeepsOrder given (sort? given) := by
  intro es hes h
  have hentries : sortEntries given = es := by
    rcases h with rfl | rfl
    · rfl
    · rw [sortEntries, filterMap_sortPair?, Fields.ofEntries_of_nodup hes]
  unfold sort?
  rw [getD_nonempty?, keys_map_direction, hentries]

end Shape

/-! ## Queries and pipelines of a model -/

namespace ModelOutput

variable {output : Fields}

/-- The entries that the output has under some keys, in the order of the keys. -/
theorem keys_collect_sublist (output : Fields) (ks : List String) :
    (Fields.keys (ks.filterMap fun k => (output.get? k).map fun v => (k, v))).Sublist ks := by
  induction ks with
  | nil => exact List.Sublist.refl []
  | cons k ks ih =>
    cases h : output.get? k with
    | none =>
      rw [List.filterMap_cons_none (by rw [h]; rfl)]
      exact ih.cons k
    | some v =>
      rw [List.filterMap_cons_some (b := (k, v)) (by rw [h]; rfl)]
      exact ih.cons_cons k

theorem isJson_query (h : (map output).IsJson) : (query output).IsJson := by
  have hquery : (Shape.valueOf output "query").IsJson := hereditary_isTree.valueOf h _
  unfold query
  split
  · split_ifs
    · refine isTree_map.mpr ⟨(keys_collect_sublist output _).nodup (by decide), fun e he => ?_⟩
      obtain ⟨k, -, hk⟩ := List.mem_filterMap.mp he
      obtain ⟨v, hv, rfl⟩ := Option.map_eq_some_iff.mp hk
      exact hereditary_isTree.get? h hv
    · rfl
  · exact hquery

theorem isJson_matchStage {query : Fields} (h : (map query).IsJson) :
    (matchStage query).IsJson := by
  have hfilter : (if Shape.isStructured query then Shape.valueOf query "filter"
      else .map query).IsJson := by
    split_ifs
    · exact hereditary_isTree.valueOf h _
    · exact h
  refine isTree_list.mpr fun v hv => ?_
  rw [List.mem_singleton.mp hv]
  refine isTree_map.mpr ⟨List.nodup_singleton _, fun e he => ?_⟩
  rw [List.mem_singleton.mp he]
  exact hfilter

theorem isJson_pipeline (h : (map output).IsJson) : (pipeline output).IsJson := by
  have hpipeline : (Shape.valueOf output "pipeline").IsJson := hereditary_isTree.valueOf h _
  have hquery := isJson_query h
  unfold pipeline
  split
  · split
    · next fs hfs =>
      rw [hfs] at hquery
      exact isJson_matchStage hquery
    · rfl
  · exact hpipeline

end ModelOutput

/-! ## Builders -/

section Build

variable {author : Author} {policy : LimitPolicy} {limit : Value}

theorem limit_bounds (hg : 1 ≤ policy.greatest) {n : Positive} (h : n.value = policy.clamp limit) :
    1 ≤ n.value ∧ n.value ≤ policy.greatest := by
  rw [h]
  exact ⟨LimitPolicy.one_le_clamp hg limit, LimitPolicy.clamp_le limit⟩

theorem isWellFormed_of_buildFind (hg : 1 ≤ policy.greatest) {query : Value} {outer : Fields}
    {spec : QuerySpec} (hq : query.IsJson) (ho : (map outer).IsJson)
    (h : buildFind author policy query outer limit = .ok spec) : spec.IsWellFormed policy := by
  obtain ⟨fs, filter, n, hfs, hfilter, hn, rfl⟩ := buildFind_eq_ok.mp h
  obtain ⟨hf, hp, hs⟩ := hereditary_isTree.rawFind (hereditary_isTree.queryFields hq hfs) ho limit
  refine ⟨limit_bounds hg hn, ?_, fun gs hgs => ?_, fun gs hgs => ?_⟩
  · rcases Shape.filterFields_eq_ok hfilter with he | ⟨-, rfl⟩
    · rwa [he] at hf
    · rfl
  · exact ⟨Shape.ne_nil_of_projection? hgs, Shape.isTree_projection? hp hgs⟩
  · exact ⟨Shape.ne_nil_of_sort? hgs, Shape.isTree_sort? hs hgs,
      fun e he => Shape.isDirection_iff.mp (Shape.isDirection_of_sort? hgs e he)⟩

theorem isWellFormed_of_buildAggregate (hg : 1 ≤ policy.greatest) {pipeline : Value}
    {spec : QuerySpec} (hp : pipeline.IsJson)
    (h : buildAggregate author policy pipeline limit = .ok spec) : spec.IsWellFormed policy := by
  obtain ⟨ss, n, hss, hn, rfl⟩ := buildAggregate_eq_ok.mp h
  obtain ⟨rfl, hne⟩ := Shape.stages_eq_ok hss
  refine ⟨limit_bounds hg hn, fun stage hstage => ⟨hne stage hstage, ?_⟩⟩
  exact isTree_list.mp hp _ (List.mem_map_of_mem hstage)

theorem keepsOrder_of_buildFind {query : Value} {outer : Fields} {s : FindSpec}
    (h : buildFind author policy query outer limit = .ok (.find s)) :
    ∃ fs, Shape.queryFields author query = .ok fs ∧
      Shape.KeepsOrder (Shape.givenSort fs outer) s.sort := by
  obtain ⟨fs, filter, n, hfs, -, -, hs⟩ := buildFind_eq_ok.mp h
  obtain rfl := QuerySpec.find.inj hs
  refine ⟨fs, hfs, ?_⟩
  rw [← Shape.sort_rawFind fs outer limit]
  exact Shape.keepsOrder_sort? _

theorem buildAggregate_ne_find {pipeline : Value} {s : FindSpec} :
    buildAggregate author policy pipeline limit ≠ .ok (.find s) := by
  intro h
  obtain ⟨ss, n, -, -, hs⟩ := buildAggregate_eq_ok.mp h
  exact QuerySpec.noConfusion hs

end Build

namespace QuerySpec

variable {policy : LimitPolicy}

/-- A query of a model is an aggregation by its pipeline, or a find by its query in a mode that does
not ask for a pipeline. -/
theorem ofModelOutput_eq_ok {mode : String} {output : Fields} {spec : QuerySpec}
    (h : ofModelOutput policy mode output = .ok spec) :
    ∃ limit : Value, (buildAggregate .model policy (ModelOutput.pipeline output) limit = .ok spec ∨
        buildAggregate .model policy (Shape.valueOf output "pipeline") limit = .ok spec) ∨
      mode ≠ aggregateMode ∧
        buildFind .model policy (ModelOutput.query output) output limit = .ok spec := by
  unfold ofModelOutput at h
  dsimp only at h
  by_cases hmode : mode = aggregateMode
  · rw [if_pos hmode] at h
    split at h
    · cases h
    · exact ⟨_, .inl (.inl h)⟩
  · rw [if_neg hmode] at h
    split at h
    · cases h
    · exact ⟨_, .inl (.inr h)⟩
    · exact ⟨_, .inr ⟨hmode, h⟩⟩

theorem builtOrRefused_ofModelOutput (hg : 1 ≤ policy.greatest) (mode : String) {output : Fields}
    (h : (map output).IsJson) :
    BuiltOrRefused policy .invalidModelOutput (ofModelOutput policy mode output) := by
  cases hr : ofModelOutput policy mode output with
  | error x =>
    obtain ⟨f, rfl, hf⟩ := kind_of_ofModelOutput hg hr
    exact .inr ⟨f, rfl, hf⟩
  | ok spec =>
    refine .inl ⟨spec, rfl, ?_⟩
    obtain ⟨limit, (hb | hb) | ⟨-, hb⟩⟩ := ofModelOutput_eq_ok hr
    · exact isWellFormed_of_buildAggregate hg (ModelOutput.isJson_pipeline h) hb
    · exact isWellFormed_of_buildAggregate hg (hereditary_isTree.valueOf h _) hb
    · exact isWellFormed_of_buildFind hg (ModelOutput.isJson_query h) h hb

theorem builtOrRefused_ofRunRequest (hg : 1 ≤ policy.greatest) {query pipeline : Value}
    (hq : query.IsJson) (hp : pipeline.IsJson) (limit : Value) :
    BuiltOrRefused policy .invalidInput (ofRunRequest policy query pipeline limit) := by
  cases hr : ofRunRequest policy query pipeline limit with
  | error x =>
    obtain ⟨f, rfl, hf⟩ := kind_of_ofRunRequest hg hr
    exact .inr ⟨f, rfl, hf⟩
  | ok spec =>
    refine .inl ⟨spec, rfl, ?_⟩
    rcases ofRunRequest_eq_ok hr with ⟨-, hb⟩ | hb
    · have hempty : (map []).IsJson := rfl
      exact isWellFormed_of_buildFind hg hq hempty hb
    · exact isWellFormed_of_buildAggregate hg hp hb

/-- **The builders are total.**  Out of the output of a model and out of a run request, a query is
built that is well formed, or there is a failure of one kind.  The mode for pipelines never gives a
find, and a find keeps the order of the sort that is given. -/
theorem builds_wellFormed (hg : 1 ≤ policy.greatest) :
    (∀ (mode : String) (output : Fields), (map output).IsJson →
      BuiltOrRefused policy .invalidModelOutput (ofModelOutput policy mode output) ∧
      ∀ s, ofModelOutput policy mode output = .ok (.find s) → mode ≠ aggregateMode ∧
        ∃ fs, Shape.queryFields .model (ModelOutput.query output) = .ok fs ∧
          Shape.KeepsOrder (Shape.givenSort fs output) s.sort) ∧
    ∀ query pipeline limit : Value, query.IsJson → pipeline.IsJson → limit.IsJson →
      BuiltOrRefused policy .invalidInput (ofRunRequest policy query pipeline limit) ∧
      ∀ s, ofRunRequest policy query pipeline limit = .ok (.find s) →
        ∃ fs, Shape.queryFields .client query = .ok fs ∧
          Shape.KeepsOrder (Shape.givenSort fs []) s.sort := by
  constructor
  · intro mode output h
    refine ⟨builtOrRefused_ofModelOutput hg mode h, fun s hs => ?_⟩
    obtain ⟨limit, (hb | hb) | ⟨hmode, hb⟩⟩ := ofModelOutput_eq_ok hs
    · exact absurd hb buildAggregate_ne_find
    · exact absurd hb buildAggregate_ne_find
    · exact ⟨hmode, keepsOrder_of_buildFind hb⟩
  · intro query pipeline limit hq hp _
    refine ⟨builtOrRefused_ofRunRequest hg hq hp limit, fun s hs => ?_⟩
    rcases ofRunRequest_eq_ok hs with ⟨-, hb⟩ | hb
    · exact keepsOrder_of_buildFind hb
    · exact absurd hb buildAggregate_ne_find

/-- An output with a limit that is too great and a sort by two fields. -/
theorem builds_wellFormed_two_fields :
    ∃ s, ofModelOutput ⟨100, 50⟩ findMode
        [("filter", .map [("age", .map [("$gt", .int 30)])]), ("limit", .string "1000"),
          ("sort", .list [.list [.string "name", .null], .list [.string "age", .string "desc"]])] =
        .ok (.find s) ∧
      s.IsWellFormed ⟨100, 50⟩ ∧ (s.sort.getD []).keys = ["name", "age"] := by
  have hs : ofModelOutput ⟨100, 50⟩ findMode
      [("filter", .map [("age", .map [("$gt", .int 30)])]), ("limit", .string "1000"),
        ("sort", .list [.list [.string "name", .null], .list [.string "age", .string "desc"]])] =
      .ok (.find ⟨[("age", .map [("$gt", .int 30)])], none,
        some [("name", .int 1), ("age", .int (-1))], ⟨100, by decide⟩⟩) := by
    decide +kernel
  obtain ⟨hbuilt, hfind⟩ := (@builds_wellFormed ⟨100, 50⟩ (by decide)).1 findMode _
    (show (map [("filter", .map [("age", .map [("$gt", .int 30)])]), ("limit", .string "1000"),
      ("sort", .list [.list [.string "name", .null],
        .list [.string "age", .string "desc"]])]).IsJson by decide +kernel)
  obtain ⟨-, fs, hfs, hkeeps⟩ := hfind _ hs
  obtain rfl := Except.ok.inj hfs
  refine ⟨_, hs, ?_, hkeeps [("name", .null), ("age", .string "desc")] (by decide) (.inr rfl)⟩
  rcases hbuilt with ⟨spec, hspec, hwf⟩ | ⟨f, hf, -⟩
  · obtain rfl := Except.ok.inj (hs.symm.trans hspec)
    exact hwf
  · exact absurd (hs.symm.trans hf) nofun

end QuerySpec

end QueryWarden
