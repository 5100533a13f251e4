import QueryWarden.Proofs.Service.Generate
import QueryWarden.Proofs.Service.Keys
import QueryWarden.Proofs.Service.Run
import QueryWarden.Proofs.Service.Settled

/-!
# What is shown is what is executed

A generated query is settled, and sanitation has nothing to do on it (`isSettled_of_generate`,
`sanitize_of_generate`).  So a request that passes the answer of a generation back asks for the very
query in it (`asked_of_repeats`), and this query comes through the checks of a run as it is
(`specOfRequest_of_repeats`).  The run executes it as the answer shows it
(`run_executes_shown_query`).
-/

namespace QueryWarden

/-- Whether a request passes an answer back: the query of a find, whatever limit is named beside it,
or the pipeline of an aggregation with its limit.  Nothing is made fuzzy. -/
def RunRequest.Repeats (r : RunRequest) (answer : Fields) : Prop :=
  r.fuzzy = false ∧
    (answer.get? "kind" = some (.string "find") ∧ answer.get? "query" = some r.query ∧
        r.pipeline = .null ∨
      answer.get? "kind" = some (.string "aggregate") ∧ answer.get? "pipeline" = some r.pipeline ∧
        answer.get? "limit" = some r.limit)

/-- Whether a fault is one of the store or of the collection that it opens. -/
def Store.Raises (store : Store) (name : String) (database : Option String) (f : Fault) : Prop :=
  store.collection name database = .error f ∨
    ∃ c, store.collection name database = .ok c ∧ (c.queryFault = some f ∨ c.readFault = some f)

namespace QuerySpec

/-- The call that executes a query as it is shown. -/
def shownCall (ignoreCase : Bool) : QuerySpec → Call
  | .find s =>
    .find (ExtendedJson.decode (.map s.filter))
      { limit := some s.limit.value
        projection := s.projection.map fun fs => ExtendedJson.decode (.map fs)
        sort := s.sort
        ignoreCase := ignoreCase }
  | .aggregate s =>
    .aggregate (.list (s.stages.map (fun stage => ExtendedJson.decode (.map stage)) ++
      [.map [("$limit", .int s.limit.value)]]))

theorem bind_nonempty? {p : Option Fields} (h : ∀ fs ∈ p, fs ≠ []) :
    p.bind Shape.nonempty? = p := by
  cases p with
  | none => rfl
  | some fs => exact Shape.nonempty?_eq_some.mpr ⟨h fs rfl, rfl⟩

theorem IsSettled.callOf_eq {policy : LimitPolicy} {q : QuerySpec} (h : q.IsSettled policy)
    (ignoreCase : Bool) : Execution.callOf policy ignoreCase q = q.shownCall ignoreCase := by
  cases q with
  | find s =>
    obtain ⟨hl, hp, hs⟩ := h
    have hl' : policy.clamp (.int s.limit.value) = s.limit.value := hl
    have hsort := bind_nonempty? fun fs hfs => (hs fs hfs).1
    unfold Execution.callOf shownCall Execution.findOptions
    dsimp only
    rw [hl', bind_nonempty? hp, hsort]
  | aggregate s =>
    have hl : policy.clamp (.int s.limit.value) = s.limit.value := h.1
    rw [Execution.callOf_aggregate, hl]
    rfl

theorem ofRunRequest_of_pipeline {policy : LimitPolicy} {query pipeline limit : Value}
    (h : pipeline ≠ .null) :
    ofRunRequest policy query pipeline limit = buildAggregate .client policy pipeline limit := by
  unfold ofRunRequest
  split
  · exact absurd rfl h
  · exact absurd rfl h
  · rfl

end QuerySpec

namespace Service

variable {s t : Service} {i : Instruction} {g : Generated} {r : RunRequest}

/-! ## Generated queries -/

theorem isSettled_of_generate (hg : (s.generate i).outcome = .ok g) :
    g.spec.IsSettled s.settings.limits := by
  obtain ⟨mode, -, hreply⟩ := specOfReply_of_generate hg
  obtain ⟨output, q, -, -, hq, hclean⟩ := specOfReply_eq_ok.mp hreply
  rw [← (QuerySpec.sanitize_eq_ok.mp hclean).1]
  exact ((QuerySpec.isSettled_ofModelOutput s.settings.maxLimit.one_le hq).recase
    (CaseMap.isFolded_ofPaths g.fields)).sanitized

theorem sanitize_of_generate (hg : (s.generate i).outcome = .ok g) :
    g.spec.sanitize = .ok g.spec := by
  obtain ⟨mode, -, hreply⟩ := specOfReply_of_generate hg
  obtain ⟨output, q, -, -, -, hclean⟩ := specOfReply_eq_ok.mp hreply
  exact QuerySpec.sanitize_of_sanitize hclean

/-! ## Passing an answer back -/

theorem asked_of_repeats (hs : g.spec.IsSettled t.settings.limits)
    (hr : r.Repeats (QuerySpec.entriesOf g.toValue)) : t.asked r = .ok g.spec := by
  obtain ⟨spec, fields, raw⟩ := g
  unfold asked
  cases spec with
  | find f =>
    rcases hr.2 with ⟨-, hq, hp⟩ | ⟨hk, -⟩
    · rw [← Option.some.inj hq, hp]
      exact hs.buildFind .client r.limit
    · have hkind : Value.string "find" = .string "aggregate" := Option.some.inj hk
      exact absurd (Value.string.inj hkind) (by decide)
  | aggregate a =>
    rcases hr.2 with ⟨hk, -⟩ | ⟨-, hp, hl⟩
    · have hkind : Value.string "aggregate" = .string "find" := Option.some.inj hk
      exact absurd (Value.string.inj hkind) (by decide)
    · rw [← Option.some.inj hp, ← Option.some.inj hl,
        QuerySpec.ofRunRequest_of_pipeline Value.noConfusion]
      exact hs.buildAggregate .client

/-- A query that is passed back and has no blocked key comes through the checks of a run as it is. -/
theorem specOfRequest_of_repeats (ht : t.settings = s.settings)
    (hg : (s.generate i).outcome = .ok g) (hk : ∀ k ∈ g.spec.keys, ¬ s.settings.Blocks k)
    (hr : r.Repeats (QuerySpec.entriesOf g.toValue)) : t.specOfRequest r = .ok g.spec := by
  have hs : g.spec.IsSettled t.settings.limits := by
    rw [ht]
    exact isSettled_of_generate hg
  have hcheck : g.spec.check t.settings.denyList = .ok () := by
    rw [ht]
    exact QuerySpec.check_of_forall hk
  refine specOfRequest_eq_ok.mpr ⟨g.spec, asked_of_repeats hs hr, hcheck, ?_⟩
  rw [hr.1]
  exact sanitize_of_generate hg

/-- A request that is not refused ends with no refusal but one of the store or its collection. -/
theorem raises_of_refusal {name : String} {spec : QuerySpec} {f : Failure}
    (hn : trimmed? r.collection = some name) (hs : t.specOfRequest r = .ok spec)
    (hf : f.kind ≠ .execution) (h : (t.run r).outcome = .error (.failure f)) :
    t.store.Raises name r.database (.failure f) := by
  rw [run_of_ok hn hs] at h
  rcases Traced.outcome_bind_eq_error.mp h with h | ⟨c, hc, h⟩
  · rcases outcome_openToRun_eq_error h with ⟨reason, hreason⟩ | h
    · rw [Fault.failure.inj hreason] at hf
      exact absurd rfl hf
    · exact .inl h
  · rcases Execution.outcome_run_eq_error h with ⟨reason, hreason⟩ | h
    · rw [Fault.failure.inj hreason] at hf
      exact absurd rfl hf
    · exact .inr ⟨c, outcome_openToRun_eq_ok.mp hc, h⟩

/-- What a generation shows is what a run executes.  A request that passes the answer of a generation
back to a service with the same settings is not refused, unless the query in the answer has a blocked
key: a refusal in the outcome of the run is one of the store or of its collection.  When the
collection opens, the run makes one call to it, which executes the query as the answer shows it. -/
theorem run_executes_shown_query (s t : Service) (i : Instruction) (g : Generated)
    (r : RunRequest) (name : String) (ht : t.settings = s.settings)
    (hg : (s.generate i).outcome = .ok g) (hk : ∀ k ∈ g.spec.keys, ¬ s.settings.Blocks k)
    (hn : trimmed? r.collection = some name)
    (hr : r.Repeats (QuerySpec.entriesOf g.toValue)) :
    (∀ f, (t.run r).outcome = .error (.failure f) →
      f.kind ∈ [.invalidInput, .dangerousOperator, .emptyAfterSanitization] →
        t.store.Raises name r.database (.failure f)) ∧
    ∀ c, t.store.collection name r.database = .ok c →
      (t.run r).calls =
        [.openCollection name r.database, g.spec.shownCall r.ignoreCase] := by
  have hspec := specOfRequest_of_repeats ht hg hk hr
  constructor
  · intro f hf hkind
    refine raises_of_refusal hn hspec ?_ hf
    rintro he
    rw [he] at hkind
    exact absurd hkind (by decide)
  · intro c hc
    have hsettled : g.spec.IsSettled t.settings.limits := by
      rw [ht]
      exact isSettled_of_generate hg
    rw [run_of_ok hn hspec, Traced.calls_bind_of_ok (outcome_openToRun_eq_ok.mpr hc),
      Execution.calls_run, hsettled.callOf_eq]
    rfl

/-- A find whose projection and sort were lists of names, and an aggregation that lost a stage in
sanitation, are executed as they are shown. -/
theorem run_executes_shown_query_bare :
    ((bare "").run
      { collection := some " users "
        query := .map [("filter", .map [("a", .int 1)]), ("projection", .map [("b", .int 1)]),
          ("sort", .map [("a", .int 1)]), ("limit", .int 7)]
        limit := .null }).calls =
      [.openCollection "users" none,
        .find (.map [("a", .int 1)])
          { limit := some 7, projection := some (.map [("b", .int 1)]), sort := some [("a", .int 1)]
            ignoreCase := true }] ∧
    ((bare "").run
      { collection := some "users"
        pipeline := .list [.map [("$match", .map [("a", .int 1)])]]
        limit := .int 50 }).calls =
      [.openCollection "users" none,
        .aggregate (.list [.map [("$match", .map [("a", .int 1)])],
          .map [("$limit", .int 50)]])] := by
  constructor
  · let reply := "\x7b\"query\": \x7b\"a\": 1\x7d, \"projection\": [\"b\"], "
      ++ "\"sort\": \"a\", \"limit\": 7\x7d"
    have h := run_executes_shown_query (bare reply) (bare "")
      { natural := some "list all", mode := some "find" }
      ⟨.find ⟨[("a", .int 1)], some [("b", .int 1)], some [("a", .int 1)], .ofInt 7⟩, [],
        .string reply⟩
      { collection := some " users "
        query := .map [("filter", .map [("a", .int 1)]), ("projection", .map [("b", .int 1)]),
          ("sort", .map [("a", .int 1)]), ("limit", .int 7)]
        limit := .null }
      "users" rfl (by decide +kernel) (by decide +kernel) (by decide +kernel)
      ⟨rfl, .inl (by decide +kernel)⟩
    exact h.2 .empty rfl
  · let reply := "\x7b\"pipeline\": [\x7b\"$match\": \x7b\"a\": 1\x7d\x7d, "
      ++ "\x7b\"$match\": \x7b\"$regex\": \"\"\x7d\x7d]\x7d"
    have h := run_executes_shown_query (bare reply) (bare "")
      { natural := some "count", mode := some "aggregate" }
      ⟨.aggregate ⟨[[("$match", .map [("a", .int 1)])]], .ofInt 50⟩, [], .string reply⟩
      { collection := some "users"
        pipeline := .list [.map [("$match", .map [("a", .int 1)])]]
        limit := .int 50 }
      "users" rfl (by decide +kernel) (by decide +kernel) (by decide +kernel)
      ⟨rfl, .inr (by decide +kernel)⟩
    exact h.2 .empty rfl

end Service

end QueryWarden
