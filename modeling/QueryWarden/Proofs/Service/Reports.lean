import QueryWarden.Proofs.Database.Contacts
import QueryWarden.Proofs.Service.Run

/-!
# What a run reports

A run that is not refused goes through three contacts with its collection: it opens it, queries it
and reads it.  Without a fault it gives documents (`outcome_run_of_none`).  After a fault it gives
none, and whether the fault is reported as a failure of the execution depends on the class of the
fault and on the contact (`outcome_run_of_firstFault`).
-/

namespace QueryWarden

namespace Contact

def ofExecution : List Contact :=
  [.querying, .reading]

def reports : Contact → Fault → Bool
  | .opening, f => f.isDatabase || f.isValue
  | _, f => Execution.isReported f

/-- The failure that reports a fault at a contact with the collection of a name. -/
def report (name : String) : Contact → Fault → Failure
  | .opening, f => .cannotOpen name f.text
  | _, f => .queryFailed f.text

def reported (name : String) (p : Contact) (f : Fault) : Fault :=
  if p.reports f then .failure (p.report name f) else f

theorem reported_of_ne_opening {p : Contact} (h : p ≠ .opening) (name : String) (f : Fault) :
    p.reported name f =
      if Execution.isReported f then .failure (.queryFailed f.text) else f := by
  cases p with
  | opening => exact absurd rfl h
  | _ => rfl

/-- A fault is reported when it is one of the database, about a value, or, once the collection is
open, about a type. -/
theorem reports_iff {p : Contact} {f : Fault} :
    p.reports f = true ↔
      f.isDatabase = true ∨ f.isValue = true ∨ (p ≠ .opening ∧ f.isType = true) := by
  cases p <;> simp [reports, Execution.isReported, or_assoc, or_comm]

end Contact

def Fault.IsExecutionFailure (x : Fault) : Prop :=
  ∃ e : Failure, x = .failure e ∧ e.kind = .execution

/-- Whether a fault is a failure of the execution that quotes the text of another fault. -/
def Fault.Quotes (x f : Fault) : Prop :=
  ∃ e : Failure, x = .failure e ∧ e.kind = .execution ∧
    ∃ front back, e.detail = front ++ f.text ++ back

theorem Fault.quotes_self_iff {f : Fault} : f.Quotes f ↔ f.IsExecutionFailure := by
  constructor
  · rintro ⟨e, he, hk, -⟩
    exact ⟨e, he, hk⟩
  · rintro ⟨e, rfl, hk⟩
    exact ⟨e, rfl, hk, "", "", by simp [Fault.text]⟩

theorem Contact.quotes_report (name : String) (p : Contact) (f : Fault) :
    (Fault.failure (p.report name f)).Quotes f := by
  cases p with
  | opening =>
    exact ⟨_, rfl, rfl, "Cannot open collection '" ++ name ++ "': ", "", String.append_empty.symm⟩
  | _ => exact ⟨_, rfl, rfl, "Query execution error: ", "", String.append_empty.symm⟩

theorem Contact.quotes_reported_iff {name : String} {p : Contact} {f : Fault} :
    (p.reported name f).Quotes f ↔ p.reports f = true ∨ f.IsExecutionFailure := by
  unfold Contact.reported
  by_cases hp : p.reports f = true
  · rw [if_pos hp]
    exact iff_of_true (p.quotes_report name f) (.inl hp)
  · rw [if_neg hp, Fault.quotes_self_iff]
    exact (or_iff_right hp).symm

namespace Execution

variable {c : Collection} {policy : LimitPolicy} {spec : QuerySpec} {ignoreCase : Bool}

theorem outcome_findDocs (c : Collection) (s : FindSpec) (limit : Int) (ignoreCase : Bool) :
    (findDocs c s limit ignoreCase).outcome =
      c.ends Contact.ofExecution (Collection.within c.docs (some limit)) := by
  refine Collection.outcome_contact_bind (c := c) (p := .querying) ?_
  exact Collection.outcome_read c _

theorem outcome_aggregateDocs (c : Collection) (s : AggregateSpec) (limit : Int) :
    (aggregateDocs c s limit).outcome = c.ends Contact.ofExecution c.docs := by
  refine Collection.outcome_contact_bind (c := c) (p := .querying) ?_
  exact Collection.outcome_read c _

/-- What an execution makes of its documents, or of the fault that kept it from them. -/
def answer : Except Fault (List Value) → Except Fault (List Value)
  | .ok docs => .ok (docs.map ExtendedJson.encode)
  | .error f => .error (if isReported f then .failure (.queryFailed f.text) else f)

theorem outcome_run_find (policy : LimitPolicy) (c : Collection) (s : FindSpec)
    (ignoreCase : Bool) :
    (run policy c (.find s) ignoreCase).outcome =
      answer (findDocs c s (policy.clamp (.int s.limit.value)) ignoreCase).outcome :=
  rfl

theorem outcome_run_aggregate (policy : LimitPolicy) (c : Collection) (s : AggregateSpec)
    (ignoreCase : Bool) :
    (run policy c (.aggregate s) ignoreCase).outcome =
      answer (aggregateDocs c s (policy.clamp (.int s.limit.value))).outcome :=
  rfl

/-- Both kinds of queries go through the same contacts. -/
theorem exists_outcome_run (policy : LimitPolicy) (c : Collection) (spec : QuerySpec)
    (ignoreCase : Bool) :
    ∃ docs, (run policy c spec ignoreCase).outcome = answer (c.ends Contact.ofExecution docs) := by
  cases spec with
  | find s => exact ⟨_, by rw [outcome_run_find, outcome_findDocs]⟩
  | aggregate s => exact ⟨_, by rw [outcome_run_aggregate, outcome_aggregateDocs]⟩

theorem outcome_run_of_none (h : c.firstFault? Contact.ofExecution = none) :
    ∃ docs, (run policy c spec ignoreCase).outcome = .ok docs := by
  obtain ⟨docs, hdocs⟩ := exists_outcome_run policy c spec ignoreCase
  rw [Collection.ends_of_none h] at hdocs
  exact ⟨_, hdocs⟩

theorem outcome_run_of_firstFault {p : Contact} {f : Fault} (name : String)
    (h : c.firstFault? Contact.ofExecution = some (p, f)) :
    (run policy c spec ignoreCase).outcome = .error (p.reported name f) := by
  obtain ⟨docs, hdocs⟩ := exists_outcome_run policy c spec ignoreCase
  rw [Collection.ends_of_some h] at hdocs
  rw [hdocs, Contact.reported_of_ne_opening (Collection.ne_opening_of_firstFault? h)]
  rfl

end Execution

namespace Service

variable {s : Service} {r : RunRequest} {name : String} {spec : QuerySpec}

theorem outcome_run_of_none (hn : trimmed? r.collection = some name)
    (hs : s.specOfRequest r = .ok spec)
    (h : s.store.firstFault? name r.database Contact.ofExecution = none) :
    ∃ docs, (s.run r).outcome = .ok docs := by
  unfold Store.firstFault? at h
  cases hc : s.store.collection name r.database with
  | error e => simp [hc] at h
  | ok c =>
    rw [hc] at h
    obtain ⟨docs, hdocs⟩ : ∃ docs,
        (Execution.run s.settings.limits c spec r.ignoreCase).outcome = .ok docs :=
      Execution.outcome_run_of_none h
    rw [run_of_ok hn hs]
    exact ⟨docs, Traced.outcome_bind_eq_ok.mpr ⟨c, outcome_openToRun_eq_ok.mpr hc, hdocs⟩⟩

theorem outcome_openToRun_of_error {database : Option String} {f : Fault}
    (h : s.store.collection name database = .error f) :
    (s.openToRun name database).outcome = .error (Contact.opening.reported name f) := by
  simp only [openToRun, Store.openCollection, Traced.call, Traced.mapOutcome, h]
  rfl

/-- A run that is not refused ends with the first fault that it meets, reported or as it is. -/
theorem outcome_run_of_firstFault {p : Contact} {f : Fault}
    (hn : trimmed? r.collection = some name) (hs : s.specOfRequest r = .ok spec)
    (h : s.store.firstFault? name r.database Contact.ofExecution = some (p, f)) :
    (s.run r).outcome = .error (p.reported name f) := by
  unfold Store.firstFault? at h
  rw [run_of_ok hn hs]
  cases hc : s.store.collection name r.database with
  | error e =>
    rw [hc] at h
    obtain ⟨rfl, rfl⟩ := Prod.mk.inj (Option.some.inj h)
    exact Traced.outcome_bind_eq_error.mpr (.inl (outcome_openToRun_of_error hc))
  | ok c =>
    rw [hc] at h
    have hrun : (Execution.run s.settings.limits c spec r.ignoreCase).outcome =
        .error (p.reported name f) :=
      Execution.outcome_run_of_firstFault name h
    exact Traced.outcome_bind_eq_error.mpr (.inr ⟨c, outcome_openToRun_eq_ok.mpr hc, hrun⟩)

/-- A run that is not refused gives documents unless its collection raises a fault.  It ends with the
first fault that is raised, and this becomes a failure of the execution that quotes it exactly when
it is one of the database, about a value, or, once the collection is open, about a type.  Any other
fault passes the service as it is. -/
theorem run_reports_fault_iff (s : Service) (r : RunRequest) (name : String) (spec : QuerySpec)
    (hn : trimmed? r.collection = some name) (hs : s.specOfRequest r = .ok spec) :
    (s.store.firstFault? name r.database Contact.ofExecution = none →
      ∃ docs, (s.run r).outcome = .ok docs) ∧
    ∀ p f, s.store.firstFault? name r.database Contact.ofExecution = some (p, f) →
      ∃ x, (s.run r).outcome = .error x ∧
        (x.Quotes f ↔ f.isDatabase = true ∨ f.isValue = true ∨
          (p ≠ .opening ∧ f.isType = true) ∨ f.IsExecutionFailure) ∧
        (x = f ∨ x.Quotes f) := by
  refine ⟨outcome_run_of_none hn hs, fun p f h => ?_⟩
  refine ⟨p.reported name f, outcome_run_of_firstFault hn hs h, ?_, ?_⟩
  · rw [Contact.quotes_reported_iff, Contact.reports_iff, or_assoc, or_assoc]
  · by_cases hp : p.reports f = true
    · exact .inr (Contact.quotes_reported_iff.mpr (.inl hp))
    · exact .inl (if_neg hp)

/-- A service in its default settings whose collections raise a fault at one contact. -/
def failing (p : Contact) (f : Fault) (reply : String) : Service :=
  { bare reply with store := .failing p f }

/-- A cursor that is lost while it is read is reported. -/
theorem run_reports_lost_cursor :
    ∃ x, ((failing .reading (.database "CursorNotFound" "cursor 7 lost") "").run
        { collection := some " users ", query := .map [("a", .int 1)] }).outcome = .error x ∧
      x.Quotes (.database "CursorNotFound" "cursor 7 lost") := by
  have h := (run_reports_fault_iff
    (failing .reading (.database "CursorNotFound" "cursor 7 lost") "")
    { collection := some " users ", query := .map [("a", .int 1)] } "users"
    (.find ⟨[("a", .int 1)], none, none, .ofInt 100⟩) (by decide +kernel) (by decide +kernel)).2
  obtain ⟨x, hx, hquotes, -⟩ := h .reading (.database "CursorNotFound" "cursor 7 lost") rfl
  exact ⟨x, hx, hquotes.mpr (.inl rfl)⟩

/-- A connection that is reset while a query is asked for is not reported: its fault passes the
service as it is. -/
theorem run_passes_reset_connection :
    ¬ ∀ (s : Service) (r : RunRequest) (name : String) (spec : QuerySpec) (p : Contact) (f : Fault),
      trimmed? r.collection = some name → s.specOfRequest r = .ok spec →
        s.store.firstFault? name r.database Contact.ofExecution = some (p, f) →
          ∃ x, (s.run r).outcome = .error x ∧ x.Quotes f := by
  intro h
  let s := failing .querying (.io "connection reset") ""
  let r : RunRequest := { collection := some "users", query := .map [("a", .int 1)] }
  -- The clause around the query lists no errors of input and output.
  have hrun : (s.run r).outcome = .error (.io "connection reset") := by decide +kernel
  obtain ⟨x, hx, e, he, -⟩ := h s r "users" (.find ⟨[("a", .int 1)], none, none, .ofInt 100⟩)
    .querying (.io "connection reset") (by decide +kernel) (by decide +kernel) rfl
  rw [hrun] at hx
  rw [← Except.error.inj hx] at he
  exact Fault.noConfusion he

end Service

end QueryWarden
