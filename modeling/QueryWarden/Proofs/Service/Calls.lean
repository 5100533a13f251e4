import QueryWarden.Proofs.Service.Asking
import QueryWarden.Proofs.Service.Reports

/-!
# The calls of a request

A run that is refused makes no call; any other run opens its collection once and executes one query
at most after that (`run_cases`).  A generation that is turned away makes no call; any other one
samples its collection once, and then asks the model once unless a fault of the store ended the
sampling (`generate_asks_once`).  What the model replies reaches neither the store nor a collection
(`driverCalls_congr`).
-/

namespace QueryWarden

def Traced.IsRefused {κ α : Type} (t : Traced κ α) : Prop :=
  ∃ f, t.outcome = .error f ∧ f.isRefusal = true

/-- Whether a step ended with a failure about the input of its client. -/
def Traced.IsTurnedAway {κ α : Type} (t : Traced κ α) : Prop :=
  ∃ f : Failure, t.outcome = .error (.failure f) ∧ f.kind = .invalidInput

/-- Whether calls open a collection once and execute one query at most after that. -/
def OpensOnce (name : String) (database : Option String) (calls : List Call) : Prop :=
  ∃ rest, calls = .openCollection name database :: rest ∧
    (rest = [] ∨ ∃ call : Call, call.isExecution = true ∧ rest = [call])

/-- Whether calls are those of sampling a collection: it is opened, found in without a filter, and
cut where the find gave documents.  No collection needs no calls. -/
def Store.SamplesOnce (store : Store) (size : Positive) (collection database : Option String)
    (calls : List Call) : Prop :=
  match collection with
  | none => calls = []
  | some name =>
    calls <+: [.openCollection name database, .find (.map []) {}, .cut size.value] ∧
      (store.faultAt name database .opening = none → store.faultAt name database .querying = none →
        .cut size.value ∈ calls)

/-- Whether a generation asks the model once after it sampled, or was ended by a fault of the store
in sampling. -/
def Service.AsksOnce (s : Service) (natural mode : String) (collection database : Option String)
    (t : Step Generated) : Prop :=
  ∃ sampled, s.store.SamplesOnce s.settings.sampleSize collection database sampled ∧
    ((∃ fields,
        t.calls = sampled ++ [.generate (.build s.settings natural mode fields collection)]) ∨
      t.calls = sampled ∧ ∃ name p f, collection = some name ∧
        s.store.faultAt name database p = some f ∧ t.outcome = .error f)

/-- Whether every refusal of a service is its own: its store and its model end with none. -/
def Service.OwnsRefusals (s : Service) : Prop :=
  (∀ name database p f, s.store.faultAt name database p = some f → f.isRefusal = false) ∧
    ∀ prompt f, s.model.reply prompt = .error f → f.isRefusal = false

namespace Service

variable {s : Service} {natural mode : String} {collection database : Option String}

/-! ## Running -/

theorem not_isRefusal_reported {name : String} {p : Contact} {f : Fault}
    (h : f.isRefusal = false) : (p.reported name f).isRefusal = false := by
  unfold Contact.reported
  split_ifs
  · cases p <;> rfl
  · exact h

theorem opensOnce_of_ok {r : RunRequest} {name : String} {spec : QuerySpec}
    (hn : trimmed? r.collection = some name) (hs : s.specOfRequest r = .ok spec) :
    OpensOnce name r.database (s.run r).calls := by
  rw [run_of_ok hn hs]
  cases hc : (s.openToRun name r.database).outcome with
  | error f =>
    rw [Traced.calls_bind_of_error hc]
    exact ⟨[], rfl, .inl rfl⟩
  | ok c =>
    rw [Traced.calls_bind_of_ok hc, Execution.calls_run]
    refine ⟨_, rfl, .inr ⟨_, ?_, rfl⟩⟩
    cases spec <;> rfl

theorem not_isRefused_of_ok (ho : s.OwnsRefusals) {r : RunRequest} {name : String}
    {spec : QuerySpec} (hn : trimmed? r.collection = some name)
    (hs : s.specOfRequest r = .ok spec) : ¬ (s.run r).IsRefused := by
  rintro ⟨x, hx, hr⟩
  cases hf : s.store.firstFault? name r.database Contact.ofExecution with
  | none =>
    obtain ⟨docs, hok⟩ := outcome_run_of_none hn hs hf
    rw [hok] at hx
    simp at hx
  | some pf =>
    obtain ⟨p, f⟩ := pf
    have hfault := Store.faultAt_of_firstFault? hf
    rw [outcome_run_of_firstFault hn hs hf] at hx
    rw [← Except.error.inj hx, not_isRefusal_reported (ho.1 name r.database p f hfault)] at hr
    exact Bool.noConfusion hr

/-- A run is refused before any call, or opens its collection once. -/
theorem run_cases (ho : s.OwnsRefusals) (r : RunRequest) :
    (s.run r).IsRefused ∧ (s.run r).calls = [] ∨
      ¬ (s.run r).IsRefused ∧ ∃ name, trimmed? r.collection = some name ∧
        OpensOnce name r.database (s.run r).calls := by
  cases hn : trimmed? r.collection with
  | none =>
    have hrun : s.run r = .fail .blankCollection := by
      unfold run
      rw [hn]
    rw [hrun]
    exact .inl ⟨⟨_, rfl, rfl⟩, rfl⟩
  | some name =>
    cases hs : s.specOfRequest r with
    | error f =>
      rw [run_of_error hn hs]
      exact .inl ⟨⟨f, rfl, isRefusal_of_specOfRequest hs⟩, rfl⟩
    | ok spec =>
      exact .inr ⟨not_isRefused_of_ok ho hn hs, name, rfl, opensOnce_of_ok hn hs⟩

/-! ## Generating -/

theorem samplesOnce_knownFields (s : Service) (collection database : Option String) :
    s.store.SamplesOnce s.settings.sampleSize collection database
      (s.knownFields collection database).calls := by
  cases collection with
  | none => rfl
  | some name =>
    refine ⟨Schema.calls_pathsOf_prefix _ _ _ _, fun ho hq => ?_⟩
    show _ ∈ (Schema.pathsOf _ _ _ _).calls
    rw [Schema.calls_pathsOf_of_answered ho hq]
    simp [Schema.samplingCalls]

/-- The fields are unknown only after a fault of the store. -/
theorem exists_faultAt_of_knownFields {f : Fault}
    (h : (s.knownFields collection database).outcome = .error f) :
    ∃ name p, collection = some name ∧ s.store.faultAt name database p = some f := by
  cases collection with
  | none => simp [knownFields, Traced.pure] at h
  | some name =>
    obtain ⟨p, hp⟩ := Schema.exists_faultAt_of_outcome_pathsOf h
    exact ⟨name, p, rfl, hp⟩

theorem asksOnce_generateFor (s : Service) (natural mode : String)
    (collection database : Option String) :
    s.AsksOnce natural mode collection database
      (s.generateFor natural mode collection database) := by
  refine ⟨_, samplesOnce_knownFields s collection database, ?_⟩
  -- The prompt is reached exactly when the fields are known.
  cases hk : (s.knownFields collection database).outcome with
  | ok fields => exact .inl ⟨fields, calls_generateFor_of_ok hk⟩
  | error f =>
    obtain ⟨name, p, hname, hp⟩ := exists_faultAt_of_knownFields hk
    refine .inr ⟨calls_generateFor_of_error hk, name, p, f, hname, hp, ?_⟩
    exact Traced.outcome_bind_eq_error.mpr (.inl hk)

theorem not_isTurnedAway_generateFor (ho : s.OwnsRefusals) :
    ¬ (s.generateFor natural mode collection database).IsTurnedAway := by
  rintro ⟨e, he, hkind⟩
  have hrefusal : (Fault.failure e).isRefusal = true := by
    simp only [Fault.isRefusal, hkind, FailureKind.isRefusal]
  rw [generateFor_eq] at he
  -- Sampling and the model end with no refusal, and what is read in the reply is never the input.
  rcases Traced.outcome_bind_eq_error.mp he with hk | ⟨fields, -, he⟩
  · obtain ⟨name, p, -, hp⟩ := exists_faultAt_of_knownFields hk
    rw [ho.1 name database p _ hp] at hrefusal
    exact Bool.noConfusion hrefusal
  rcases Traced.outcome_bind_eq_error.mp he with hm | ⟨reply, -, he⟩
  · rw [ho.2 _ _ hm] at hrefusal
    exact Bool.noConfusion hrefusal
  rcases Traced.outcome_bind_eq_error.mp he with hspec | ⟨spec, -, he⟩
  · obtain ⟨f, hf, hne⟩ := kind_of_specOfReply hspec
    rw [← Fault.failure.inj hf] at hne
    exact hne hkind
  · simp [Pure.pure, Traced.pure] at he

/-- A generation is turned away before any call, or samples once and asks the model once. -/
theorem generate_asks_once (ho : s.OwnsRefusals) (i : Instruction) :
    (s.generate i).IsTurnedAway ∧ (s.generate i).calls = [] ∧ i.accepted? = none ∨
      ¬ (s.generate i).IsTurnedAway ∧ ∃ natural mode, i.accepted? = some (natural, mode) ∧
        s.AsksOnce natural mode (trimmed? i.collection) i.database (s.generate i) := by
  cases hi : i.accepted? with
  | none =>
    obtain ⟨f, hf, hg⟩ := generate_of_none hi
    rw [hg s]
    exact .inl ⟨⟨f, rfl, hf⟩, rfl, rfl⟩
  | some accepted =>
    obtain ⟨natural, mode⟩ := accepted
    rw [generate_of_some s hi]
    exact .inr ⟨not_isTurnedAway_generateFor ho, natural, mode, rfl, asksOnce_generateFor ..⟩

/-! ## What the model replies -/

/-- The calls of a generation to the store and its collections. -/
def driverCalls (s : Service) (i : Instruction) : List Call :=
  (s.generate i).calls.filter fun call => !call.isGeneration

theorem driverCalls_generateFor (s : Service) (natural mode : String)
    (collection database : Option String) :
    ((s.generateFor natural mode collection database).calls.filter fun call =>
        !call.isGeneration) =
      (s.knownFields collection database).calls.filter fun call => !call.isGeneration := by
  cases hk : (s.knownFields collection database).outcome with
  | ok fields =>
    rw [calls_generateFor_of_ok hk, List.filter_append]
    exact List.append_nil _
  | error f => rw [calls_generateFor_of_error hk]

theorem driverCalls_congr (s : Service) (m : TextModel) (i : Instruction) :
    { s with model := m }.driverCalls i = s.driverCalls i := by
  unfold driverCalls
  cases hi : i.accepted? with
  | none =>
    obtain ⟨f, -, hg⟩ := generate_of_none hi
    rw [hg, hg]
  | some accepted =>
    obtain ⟨natural, mode⟩ := accepted
    rw [generate_of_some _ hi, generate_of_some _ hi, driverCalls_generateFor,
      driverCalls_generateFor]
    rfl

/-- A run that is refused makes no call, and any other run opens its collection once and executes one
query at most after that.  A generation that is turned away makes no call, and any other one samples
its collection once and asks the model once after that, unless a fault of the store ended it before.
The reply of the model reaches no collection. -/
theorem requests_reach_out_once (s : Service) (ho : s.OwnsRefusals) :
    (∀ r : RunRequest,
      (s.run r).IsRefused ∧ (s.run r).calls = [] ∨
        ¬ (s.run r).IsRefused ∧ ∃ name, trimmed? r.collection = some name ∧
          OpensOnce name r.database (s.run r).calls) ∧
    (∀ i : Instruction,
      (s.generate i).IsTurnedAway ∧ (s.generate i).calls = [] ∧ i.accepted? = none ∨
        ¬ (s.generate i).IsTurnedAway ∧ ∃ natural mode, i.accepted? = some (natural, mode) ∧
          s.AsksOnce natural mode (trimmed? i.collection) i.database (s.generate i)) ∧
    ∀ (i : Instruction) (m : TextModel), { s with model := m }.driverCalls i = s.driverCalls i :=
  ⟨run_cases ho, generate_asks_once ho, fun i m => driverCalls_congr s m i⟩

theorem ownsRefusals_failing (p : Contact) {f : Fault} (reply : String)
    (h : f.isRefusal = false) : (failing p f reply).OwnsRefusals := by
  constructor
  · intro name database q e he
    have hq : (if q = p then some f else none) = some e :=
      (Store.faultAt_failing p q f).symm.trans he
    split_ifs at hq
    rwa [← Option.some.inj hq]
  · intro prompt e he
    exact absurd he nofun

/-- Where cursors break while they are read, a query with a blocked operator makes no call, another
one opens the collection and executes once, and a generation samples the collection and asks the
model once. -/
theorem requests_reach_out_once_failing :
    (failing .reading (.io "connection reset") "").OwnsRefusals ∧
    ((failing .reading (.io "connection reset") "").run
      { collection := some "users", query := .map [("$where", .string "1")] }).calls = [] ∧
    OpensOnce "users" none ((failing .reading (.io "connection reset") "").run
      { collection := some " users ", query := .map [("a", .int 1)] }).calls ∧
    (failing .reading (.io "connection reset") "").AsksOnce "all" "find" (some "users") none
      ((failing .reading (.io "connection reset") "").generate
        { natural := some "all ", mode := some "find", collection := some "users" }) := by
  let s := failing .reading (.io "connection reset") ""
  have ho : s.OwnsRefusals := ownsRefusals_failing .reading "" rfl
  obtain ⟨hrun, hgenerate, -⟩ := requests_reach_out_once s ho
  refine ⟨ho, ?_, ?_, ?_⟩
  · rcases hrun { collection := some "users", query := .map [("$where", .string "1")] } with
      ⟨-, hcalls⟩ | ⟨hnot, -⟩
    · exact hcalls
    · exact absurd ⟨.failure (.blockedOperator "$where"), by decide +kernel, rfl⟩ hnot
  · rcases hrun { collection := some " users ", query := .map [("a", .int 1)] } with
      ⟨⟨f, hf, hr⟩, -⟩ | ⟨-, name, hname, hopens⟩
    · have hio : (s.run { collection := some " users ", query := .map [("a", .int 1)] }).outcome =
          .error (.io "connection reset") := by decide +kernel
      rw [← Except.error.inj (hio.symm.trans hf)] at hr
      exact Bool.noConfusion hr
    · have husers : trimmed? (some " users ") = some "users" := by decide +kernel
      obtain rfl := Option.some.inj (husers.symm.trans hname)
      exact hopens
  · rcases hgenerate { natural := some "all ", mode := some "find", collection := some "users" } with
      ⟨-, -, hnone⟩ | ⟨-, natural, mode, haccepted, hasks⟩
    · exact absurd hnone (by decide +kernel)
    · have hall : Instruction.accepted?
          { natural := some "all ", mode := some "find", collection := some "users" } =
            some ("all", "find") := by decide +kernel
      have husers : trimmed? (some "users") = some "users" := by decide +kernel
      obtain ⟨rfl, rfl⟩ := Prod.mk.inj (Option.some.inj (hall.symm.trans haccepted))
      rw [husers] at hasks
      exact hasks

end Service

end QueryWarden
