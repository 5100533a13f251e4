import QueryWarden.Proofs.ExtendedJson.Decode
import QueryWarden.Proofs.Service.Conditions
import QueryWarden.Proofs.Traced
import QueryWarden.Service.Run

/-!
# What a run executes

A run makes one call that executes a query at most.  That call is the one of the query which the
request asks for, after it was checked against the deny list, made fuzzy where the request says
so, and sanitized without losing all of its conditions (`exists_spec_of_mem_calls_run`).  A request
that is refused on this way makes no call at all (`run_of_error`), and one that is not opens its
collection and executes its query there (`run_of_ok`).
-/

namespace QueryWarden

theorem eq_of_unlessFault {α : Type} {f : Option Fault} {a b : α}
    (h : unlessFault f a = .ok b) : a = b := by
  cases f with
  | none => exact Except.ok.inj h
  | some f => simp [unlessFault] at h

theorem fault_of_unlessFault {α : Type} {f : Option Fault} {a : α} {e : Fault}
    (h : unlessFault f a = .error e) : f = some e := by
  cases f with
  | none => simp [unlessFault] at h
  | some f => rw [Except.error.inj h]

def Call.conditions : Call → Value
  | .find filter _ => filter
  | .aggregate stages => stages
  | _ => .null

namespace Execution

def callOf (policy : LimitPolicy) (ignoreCase : Bool) : QuerySpec → Call
  | .find s =>
    .find (ExtendedJson.decode (.map s.filter))
      (findOptions s (policy.clamp (.int s.limit.value)) ignoreCase)
  | .aggregate s =>
    .aggregate (ExtendedJson.decode
      (.list (capStages (s.stages.map .map) (policy.clamp (.int s.limit.value)))))

/-- An aggregation decodes its stages one by one and keeps the limit at their end. -/
theorem callOf_aggregate (policy : LimitPolicy) (ignoreCase : Bool) (s : AggregateSpec) :
    callOf policy ignoreCase (.aggregate s) =
      .aggregate (.list (s.stages.map (fun stage => ExtendedJson.decode (.map stage)) ++
        [limitStage (policy.clamp (.int s.limit.value))])) := by
  rw [callOf, ExtendedJson.decode_list, capStages, List.map_append, List.map_map]
  rfl

/-- An execution makes one call, and reading its cursor makes no further one. -/
theorem calls_run (policy : LimitPolicy) (c : Collection) (spec : QuerySpec)
    (ignoreCase : Bool) : (run policy c spec ignoreCase).calls = [callOf policy ignoreCase spec] := by
  cases spec with
  | find s =>
    simp only [run, Traced.mapOutcome, findDocs, Collection.find, callOf]
    cases c.queryFault <;> rfl
  | aggregate s =>
    simp only [run, Traced.mapOutcome, aggregateDocs, Collection.aggregate, callOf]
    cases c.queryFault <;> rfl

theorem docs_of_run_find {policy : LimitPolicy} {c : Collection} {f : FindSpec}
    {ignoreCase : Bool} {docs : List Value}
    (h : (run policy c (.find f) ignoreCase).outcome = .ok docs) :
    docs = (c.docs.take (policy.clamp (.int f.limit.value)).toNat).map ExtendedJson.encode := by
  simp only [run, Traced.mapOutcome] at h
  split at h
  · rename_i found hfound
    obtain ⟨cursor, hcursor, hread⟩ := Traced.outcome_bind_eq_ok.mp hfound
    have hcursor := eq_of_unlessFault hcursor
    have hread := eq_of_unlessFault hread
    rw [← Except.ok.inj h, ← hread, ← hcursor]
    rfl
  · simp at h

/-- A query whose cursor is read fails by a fault of its collection. -/
theorem fault_of_outcome_read {c : Collection} {call : Call} {docs : List Value} {e : Fault}
    (h : (Traced.call call (unlessFault c.queryFault (⟨docs, c.cutFault, c.readFault⟩ : Cursor))
      >>= Cursor.read).outcome = .error e) :
    c.queryFault = some e ∨ c.readFault = some e := by
  rcases Traced.outcome_bind_eq_error.mp h with h | ⟨cursor, hcursor, h⟩
  · exact .inl (fault_of_unlessFault h)
  · rw [← eq_of_unlessFault hcursor] at h
    exact .inr (fault_of_unlessFault h)

/-- An execution that fails reports a fault of its collection, or passes it on as it is. -/
theorem outcome_run_eq_error {policy : LimitPolicy} {c : Collection} {spec : QuerySpec}
    {ignoreCase : Bool} {f : Fault} (h : (run policy c spec ignoreCase).outcome = .error f) :
    (∃ reason, f = .failure (.queryFailed reason)) ∨
      c.queryFault = some f ∨ c.readFault = some f := by
  have hdocs : ∃ e, (c.queryFault = some e ∨ c.readFault = some e) ∧
      f = if isReported e then .failure (.queryFailed e.text) else e := by
    cases spec with
    | find s =>
      simp only [run, Traced.mapOutcome] at h
      split at h
      · simp at h
      · rename_i e he
        exact ⟨e, fault_of_outcome_read he, (Except.error.inj h).symm⟩
    | aggregate s =>
      simp only [run, Traced.mapOutcome] at h
      split at h
      · simp at h
      · rename_i e he
        exact ⟨e, fault_of_outcome_read he, (Except.error.inj h).symm⟩
  obtain ⟨e, he, rfl⟩ := hdocs
  split_ifs
  · exact .inl ⟨e.text, rfl⟩
  · exact .inr he

end Execution

namespace Service

variable {s : Service} {r : RunRequest}

def asked (s : Service) (r : RunRequest) : Except Fault QuerySpec :=
  QuerySpec.ofRunRequest s.settings.limits r.query r.pipeline r.limit

theorem specOfRequest_eq_ok {spec : QuerySpec} :
    s.specOfRequest r = .ok spec ↔
      ∃ q, s.asked r = .ok q ∧ q.check s.settings.denyList = .ok () ∧
        (q.ready r.fuzzy).sanitize = .ok spec := by
  unfold specOfRequest
  rw [bind_eq_ok]
  refine exists_congr fun q => and_congr_right fun _ => ?_
  rw [bind_eq_ok]
  simp only [mapError_eq_ok]
  constructor
  · rintro ⟨⟨⟩, h⟩
    exact h
  · intro h
    exact ⟨(), h⟩

/-- Every call of a run that executes a query executes the query of its request. -/
theorem exists_spec_of_mem_calls_run {call : Call} (h : call ∈ (s.run r).calls)
    (hx : call.isExecution = true) :
    ∃ spec, s.specOfRequest r = .ok spec ∧
      call = Execution.callOf s.settings.limits r.ignoreCase spec := by
  unfold run at h
  cases hn : trimmed? r.collection with
  | none =>
    rw [hn] at h
    exact absurd h List.not_mem_nil
  | some name =>
    rw [hn] at h
    rcases Traced.mem_calls_bind.mp h with h | ⟨spec, hspec, h⟩
    · exact absurd h List.not_mem_nil
    rcases Traced.mem_calls_bind.mp h with h | ⟨c, -, h⟩
    · -- Opening the collection executes nothing.
      obtain rfl := List.mem_singleton.mp h
      exact Bool.noConfusion hx
    · rw [Execution.calls_run] at h
      exact ⟨spec, hspec, List.mem_singleton.mp h⟩

theorem outcome_openToRun_eq_ok {name : String} {database : Option String} {c : Collection} :
    (s.openToRun name database).outcome = .ok c ↔ s.store.collection name database = .ok c := by
  simp only [openToRun, Store.openCollection, Traced.call, Traced.mapOutcome]
  cases s.store.collection name database with
  | ok d => exact Iff.rfl
  | error f => simp

/-- Opening that fails is reported for its collection, or passes on the fault of the store. -/
theorem outcome_openToRun_eq_error {name : String} {database : Option String} {f : Fault}
    (h : (s.openToRun name database).outcome = .error f) :
    (∃ reason, f = .failure (.cannotOpen name reason)) ∨
      s.store.collection name database = .error f := by
  simp only [openToRun, Store.openCollection, Traced.call, Traced.mapOutcome] at h
  cases hc : s.store.collection name database with
  | ok c =>
    rw [hc] at h
    simp at h
  | error e =>
    rw [hc] at h
    dsimp only at h
    split_ifs at h
    · exact .inl ⟨e.text, (Except.error.inj h).symm⟩
    · exact .inr h

theorem run_of_ok {name : String} {spec : QuerySpec} (hn : trimmed? r.collection = some name)
    (hs : s.specOfRequest r = .ok spec) :
    s.run r = s.openToRun name r.database >>= fun c =>
      Execution.run s.settings.limits c spec r.ignoreCase := by
  unfold run
  rw [hn]
  simp only [hs]
  rfl

theorem exists_of_outcome_run_eq_ok {docs : List Value} (h : (s.run r).outcome = .ok docs) :
    ∃ name spec c, trimmed? r.collection = some name ∧ s.specOfRequest r = .ok spec ∧
      s.store.collection name r.database = .ok c ∧
      (Execution.run s.settings.limits c spec r.ignoreCase).outcome = .ok docs := by
  unfold run at h
  cases hn : trimmed? r.collection with
  | none =>
    rw [hn] at h
    simp [Traced.fail, Traced.fault] at h
  | some name =>
    rw [hn] at h
    obtain ⟨spec, hspec, h⟩ := Traced.outcome_bind_eq_ok.mp h
    obtain ⟨c, hc, h⟩ := Traced.outcome_bind_eq_ok.mp h
    exact ⟨name, spec, c, rfl, hspec, outcome_openToRun_eq_ok.mp hc, h⟩

theorem run_of_error {name : String} {f : Fault} (hn : trimmed? r.collection = some name)
    (hf : s.specOfRequest r = .error f) : s.run r = .fault f := by
  unfold run
  rw [hn]
  simp only [hf]
  exact Traced.ofExcept_error_bind f _

theorem run_of_check_error {name : String} {q : QuerySpec} {f : Failure}
    (hn : trimmed? r.collection = some name) (hq : s.asked r = .ok q)
    (hf : q.check s.settings.denyList = .error f) : s.run r = .fail f := by
  refine run_of_error hn ?_
  unfold specOfRequest
  unfold asked at hq
  rw [hq]
  show ((q.check s.settings.denyList).mapError Fault.failure >>= _) = _
  rw [hf]
  rfl

theorem run_of_sanitize_error {name : String} {q : QuerySpec} {f : Failure}
    (hn : trimmed? r.collection = some name) (hq : s.asked r = .ok q)
    (hd : q.check s.settings.denyList = .ok ()) (hf : (q.ready r.fuzzy).sanitize = .error f) :
    s.run r = .fail f := by
  refine run_of_error hn ?_
  unfold specOfRequest
  unfold asked at hq
  rw [hq]
  show ((q.check s.settings.denyList).mapError Fault.failure >>= fun _ =>
    (q.ready r.fuzzy).sanitize.mapError Fault.failure) = _
  rw [hd, hf]
  rfl

end Service

end QueryWarden
