import QueryWarden.Proofs.ExtendedJson.Decode
import QueryWarden.Proofs.Query.Shape
import QueryWarden.Proofs.Service.Run

/-!
# Restricting requests stay restricting

No run executes a query that matches every document unless its request asks for one.  The executed
call has no condition only when the sanitized query has none (`isUnrestricted_of_callOf_find`,
`isUnrestricted_of_decode`), and then the query that the request asks for has none either
(`isUnrestricted_of_specOfRequest`).
-/

namespace QueryWarden

namespace Execution

variable {policy : LimitPolicy} {spec : QuerySpec} {ignoreCase : Bool}

theorem isUnrestricted_of_callOf_find {options : FindOptions}
    (h : Call.find (.map []) options = callOf policy ignoreCase spec) : spec.isUnrestricted := by
  cases spec with
  | find s =>
    have hf : Value.map [] = ExtendedJson.decode (.map s.filter) := (Call.find.inj h).1
    exact Value.map.inj (ExtendedJson.eq_emptyMap_of_decode hf.symm)
  | aggregate s => exact Call.noConfusion h

theorem isUnrestricted_of_decode {s : AggregateSpec}
    (h : ∀ v ∈ s.stages.map (fun stage => ExtendedJson.decode (.map stage)),
      v = .map [] ∨ v = .map [("$match", .map [])]) :
    (QuerySpec.aggregate s).isUnrestricted := by
  intro stage hs
  rcases h _ (List.mem_map_of_mem hs) with hv | hv
  · exact .inl (Value.map.inj (ExtendedJson.eq_emptyMap_of_decode hv))
  · exact .inr (Value.map.inj (ExtendedJson.eq_emptyMatch_of_decode hv))

end Execution

namespace Service

variable {s : Service} {r : RunRequest}

theorem isUnrestricted_of_specOfRequest {spec : QuerySpec} (h : s.specOfRequest r = .ok spec)
    (hu : spec.isUnrestricted) :
    ∃ q, s.asked r = .ok q ∧ q.kind = spec.kind ∧ q.isUnrestricted := by
  obtain ⟨q, hq, -, hs⟩ := specOfRequest_eq_ok.mp h
  refine ⟨q, hq, ?_, QuerySpec.isUnrestricted_of_ready (QuerySpec.isUnrestricted_of_sanitize hs hu)⟩
  rw [← (QuerySpec.sanitize_eq_ok.mp hs).1, QuerySpec.kind_sanitized, QuerySpec.kind_ready]

theorem pipeline_of_isUnrestricted {a : AggregateSpec} (hq : s.asked r = .ok (.aggregate a))
    (hu : (QuerySpec.aggregate a).isUnrestricted) :
    ∃ own, r.pipeline = .list own ∧ ∀ v ∈ own, v = .map [("$match", .map [])] := by
  rcases QuerySpec.ofRunRequest_eq_ok hq with ⟨-, hf⟩ | ha
  · obtain ⟨_, _, _, -, -, -, h⟩ := buildFind_eq_ok.mp hf
    exact QuerySpec.noConfusion h
  · obtain ⟨ss, n, hss, -, h⟩ := buildAggregate_eq_ok.mp ha
    obtain rfl := QuerySpec.aggregate.inj h
    obtain ⟨hp, hne⟩ := Shape.stages_eq_ok hss
    refine ⟨_, hp, List.forall_mem_map.mpr fun stage hs => ?_⟩
    rw [(hu stage hs).resolve_left (hne stage hs)]

/-- A run executes a query that matches everything only when its request asks for one: a find with
the empty filter comes from the empty filter, and an aggregation without condition from a pipeline
of empty `$match` stages.  A query that lost a clause in sanitation and matches everything without
it ends the run before any call. -/
theorem run_keeps_restriction (s : Service) (r : RunRequest) :
    (∀ options, Call.find (.map []) options ∈ (s.run r).calls →
      ∃ f, s.asked r = .ok (.find f) ∧ f.filter = []) ∧
    (∀ stages, Call.aggregate stages ∈ (s.run r).calls →
      ∃ front limit, stages = .list (front ++ [Execution.limitStage limit]) ∧
        ((∀ v ∈ front, v = .map [] ∨ v = .map [("$match", .map [])]) →
          ∃ own, r.pipeline = .list own ∧ ∀ v ∈ own, v = .map [("$match", .map [])])) ∧
    (∀ name q, trimmed? r.collection = some name → s.asked r = .ok q →
      q.check s.settings.denyList = .ok () →
      (q.ready r.fuzzy).sanitized.2.2.removed ≠ 0 →
      (q.ready r.fuzzy).sanitized.1.isUnrestricted →
      (s.run r).calls = [] ∧
        ∃ f, (s.run r).outcome = .error (.failure f) ∧ f.kind = .emptyAfterSanitization) := by
  refine ⟨?_, ?_, ?_⟩
  · intro options h
    obtain ⟨spec, hspec, hcall⟩ := exists_spec_of_mem_calls_run h rfl
    obtain ⟨q, hq, hk, hu⟩ :=
      isUnrestricted_of_specOfRequest hspec (Execution.isUnrestricted_of_callOf_find hcall)
    cases spec with
    | aggregate a => exact Call.noConfusion hcall
    | find f =>
      obtain ⟨f', rfl⟩ := QuerySpec.eq_find_of_kind hk
      exact ⟨f', hq, hu⟩
  · intro stages h
    obtain ⟨spec, hspec, hcall⟩ := exists_spec_of_mem_calls_run h rfl
    cases spec with
    | find f => exact Call.noConfusion hcall
    | aggregate a =>
      rw [Execution.callOf_aggregate] at hcall
      refine ⟨_, _, Call.aggregate.inj hcall, fun hall => ?_⟩
      obtain ⟨q, hq, hk, hu⟩ :=
        isUnrestricted_of_specOfRequest hspec (Execution.isUnrestricted_of_decode hall)
      obtain ⟨a', rfl⟩ := QuerySpec.eq_aggregate_of_kind hk
      exact pipeline_of_isUnrestricted hq hu
  · intro name q hn hq hd hr hu
    rw [run_of_sanitize_error hn hq hd (QuerySpec.sanitize_of_collapsed hr hu)]
    exact ⟨rfl, _, rfl, rfl⟩

/-- The hypotheses hold for a find and an aggregation that match everything, and for a filter that
is nothing but a blank pattern. -/
theorem run_keeps_restriction_bare :
    (∃ f, (bare "").asked { collection := some "users", query := .map [] } = .ok (.find f) ∧
      f.filter = []) ∧
    (∃ own, Value.list [.map [("$match", .map [])]] = .list own ∧
      ∀ v ∈ own, v = .map [("$match", .map [])]) ∧
    (let r : RunRequest :=
      { collection := some "users", fuzzy := true
        query := .map [("name", .map [("$regex", .string " ")])] }
    ((bare "").run r).calls = [] ∧
      ∃ f, ((bare "").run r).outcome = .error (.failure f) ∧ f.kind = .emptyAfterSanitization) := by
  refine ⟨(run_keeps_restriction (bare "") _).1 { limit := some 100, ignoreCase := true } ?_, ?_,
    (run_keeps_restriction (bare "") _).2.2 "users"
      (.find ⟨[("name", .map [("$regex", .string " ")])], none, none, .ofInt 100⟩) ?_ ?_ ?_ ?_ ?_⟩
  · decide +kernel
  · let r : RunRequest :=
      { collection := some "users", pipeline := .list [.map [("$match", .map [])]] }
    have h : Call.aggregate (.list [.map [("$match", .map [])], Execution.limitStage 100])
        ∈ ((bare "").run r).calls := by decide +kernel
    obtain ⟨front, limit, hs, himp⟩ := (run_keeps_restriction (bare "") r).2.1 _ h
    refine himp ?_
    have hf : [Value.map [("$match", .map [])]] ++ [Execution.limitStage 100]
        = front ++ [Execution.limitStage limit] := Value.list.inj hs
    rw [← (List.append_inj' hf rfl).1]
    exact List.forall_mem_singleton.mpr (.inr rfl)
  · decide +kernel
  · decide +kernel
  · decide +kernel
  · decide +kernel
  · show _ = []
    decide +kernel

end Service

end QueryWarden
