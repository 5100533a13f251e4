import QueryWarden.Proofs.ExtendedJson.Decode
import QueryWarden.Proofs.Query.Shape
import QueryWarden.Proofs.Service.Run

/-!
# Every execution is capped

Whatever a request names as its limit, the call that executes its query carries the limit that this
value asks for, moved between one and the greatest limit of the settings (`run_is_capped`).

1. The query that a request asks for has this limit: `limit_of_asked`.
2. Fuzzy matching and sanitation keep it: `QuerySpec.limit_ready`, `QuerySpec.limit_sanitized`.
3. The executed call moves it between the same bounds once more, which changes nothing:
   `LimitPolicy.clamp_clamp`.
-/

namespace QueryWarden

/-- The value that a request names as its limit: the one inside a structured query that has one and
is run as a find, and else the one beside the query. -/
def RunRequest.namedLimit (r : RunRequest) : Value :=
  match r.pipeline, Shape.queryFields .client r.query with
  | .null, .ok fs => if Shape.isStructured fs then (Fields.get? fs "limit").getD r.limit else r.limit
  | _, _ => r.limit

namespace Service

variable {s : Service} {r : RunRequest}

/-- The limit of the query that a request asks for is the one that the request names, between one and
the greatest limit. -/
theorem limit_of_asked {q : QuerySpec} (h : s.asked r = .ok q) :
    q.limit.value = s.settings.limits.clamp r.namedLimit := by
  unfold RunRequest.namedLimit
  rcases QuerySpec.ofRunRequest_eq_ok h with ⟨hp, hf⟩ | ha
  · obtain ⟨fs, filter, n, hfs, -, hn, rfl⟩ := buildFind_eq_ok.mp hf
    have hlimit : (Shape.rawFind fs [] r.limit).limit =
        if Shape.isStructured fs then (Fields.get? fs "limit").getD r.limit else r.limit := by
      unfold Shape.rawFind
      split_ifs <;> rfl
    rw [hp, hfs]
    show n.value = s.settings.limits.clamp
      (if Shape.isStructured fs then (Fields.get? fs "limit").getD r.limit else r.limit)
    rw [← hlimit]
    exact hn
  · obtain ⟨ss, n, hss, hn, rfl⟩ := buildAggregate_eq_ok.mp ha
    rw [(Shape.stages_eq_ok hss).1]
    exact hn

/-- Every execution is capped.  Whatever value a request names as its limit, a run that executes a
query does so under the limit `l` that this value asks for, moved between one and the greatest limit,
and moving it there again changes nothing.  A find passes `l` to the collection and answers with its
first `l` documents at most, in their order; an aggregation has `l` in a last stage behind its own
sanitized and decoded ones. -/
theorem run_is_capped (s : Service) (r : RunRequest) (call : Call) (h : call ∈ (s.run r).calls)
    (hx : call.isExecution = true) :
    ∃ l, 1 ≤ l ∧ l ≤ s.settings.maxLimit.value ∧
      l = s.settings.limits.clamp r.namedLimit ∧ s.settings.limits.clamp (.int l) = l ∧
      ((∃ filter options, call = .find filter options ∧ options.limit = some l ∧
          ∀ docs, (s.run r).outcome = .ok docs → (docs.length : Int) ≤ l ∧
            ∃ name c, s.store.collection name r.database = .ok c ∧
              docs = (c.docs.take l.toNat).map ExtendedJson.encode) ∨
        ∃ q a, s.asked r = .ok q ∧ (q.ready r.fuzzy).sanitized.1 = .aggregate a ∧
          call = .aggregate (.list (a.stages.map (fun stage => ExtendedJson.decode (.map stage)) ++
            [.map [("$limit", .int l)]]))) := by
  obtain ⟨spec, hspec, rfl⟩ := exists_spec_of_mem_calls_run h hx
  obtain ⟨q, hasked, -, hclean⟩ := specOfRequest_eq_ok.mp hspec
  have hone : 1 ≤ s.settings.limits.greatest := s.settings.maxLimit.one_le
  have hsan := (QuerySpec.sanitize_eq_ok.mp hclean).1
  have hlimit : spec.limit.value = s.settings.limits.clamp r.namedLimit := by
    rw [← hsan, QuerySpec.limit_sanitized, QuerySpec.limit_ready, limit_of_asked hasked]
  have hstable : s.settings.limits.clamp (.int spec.limit.value) = spec.limit.value := by
    rw [hlimit, LimitPolicy.clamp_clamp hone]
  have hmax : spec.limit.value ≤ s.settings.maxLimit.value := by
    rw [hlimit]
    exact LimitPolicy.clamp_le _
  refine ⟨spec.limit.value, spec.limit.one_le, hmax, hlimit, hstable, ?_⟩
  cases spec with
  | find f =>
    refine .inl ⟨_, _, rfl, congrArg some hstable, fun docs hdocs => ?_⟩
    obtain ⟨name, spec', c, -, hspec', hc, hrun⟩ := exists_of_outcome_run_eq_ok hdocs
    obtain rfl := Except.ok.inj (hspec.symm.trans hspec')
    have htake := Execution.docs_of_run_find hrun
    have hstable' : s.settings.limits.clamp (.int f.limit.value) = f.limit.value := hstable
    rw [hstable'] at htake
    refine ⟨?_, name, c, hc, htake⟩
    have hlen : docs.length ≤ f.limit.value.toNat := by
      rw [htake, List.length_map]
      exact List.length_take_le _ _
    have hpos := f.limit.one_le
    show (docs.length : Int) ≤ f.limit.value
    omega
  | aggregate a =>
    refine .inr ⟨q, a, hasked, hsan, ?_⟩
    rw [Execution.callOf_aggregate]
    have hstable' : s.settings.limits.clamp (.int a.limit.value) = a.limit.value := hstable
    rw [hstable']
    rfl

/-- An infinite limit inside a query goes before the one beside it. -/
theorem run_is_capped_of_infinite :
    let r : RunRequest :=
      { collection := some "users"
        query := .map [("filter", .map []), ("limit", .float (.infinite false))]
        limit := .int 7 }
    let call : Call := .find (.map []) { limit := some 50, ignoreCase := true }
    call ∈ ((bare "").run r).calls ∧
      ∃ l, 1 ≤ l ∧ l ≤ 100 ∧ l = (bare "").settings.limits.clamp (.float (.infinite false)) ∧
        ∃ filter options, call = .find filter options ∧ options.limit = some l := by
  intro r call
  have h : call ∈ ((bare "").run r).calls := by decide +kernel
  obtain ⟨l, hone, hmax, hlimit, -, hcall⟩ := run_is_capped (bare "") r call h rfl
  refine ⟨h, l, hone, hmax, hlimit, ?_⟩
  rcases hcall with ⟨filter, options, hfind, ho, -⟩ | ⟨q, a, -, -, haggregate⟩
  · exact ⟨filter, options, hfind, ho⟩
  · exact Call.noConfusion haggregate

end Service

end QueryWarden
