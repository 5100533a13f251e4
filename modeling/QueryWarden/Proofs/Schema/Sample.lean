import QueryWarden.Proofs.Database.Contacts
import QueryWarden.Schema.FieldPaths

/-!
# Sampling step by step

Sampling opens a collection, finds its documents, cuts the cursor once, and reads it.  It makes no
further call and stops at the first fault (`calls_pathsOf_prefix`).  A fault is excused or passed on
by the contact that raises it: a fault of the connection is excused in all contacts but the first,
one about a value only in the first (`outcome_pathsOf_of_firstFault`).
-/

namespace QueryWarden

def Contact.ofSampling : List Contact :=
  [.querying, .cutting, .reading]

/-- Whether sampling goes on without paths after a fault at a contact. -/
def Contact.excuses : Contact → Fault → Bool
  | .opening, f => f.isDatabase || f.isValue
  | _, f => Schema.isExcused f

theorem Contact.excuses_of_ne_opening {p : Contact} (h : p ≠ .opening) (f : Fault) :
    p.excuses f = Schema.isExcused f := by
  cases p with
  | opening => exact absurd rfl h
  | _ => rfl

namespace Schema

variable {s : Store} {c : Collection} {size : Positive} {name : String} {database : Option String}
  {p : Contact} {f : Fault}

theorem pathsOf_of_ok (h : s.collection name database = .ok c) :
    pathsOf s size name database =
      ⟨.openCollection name database :: (samplePaths c size).calls,
        (samplePaths c size).outcome⟩ := by
  unfold pathsOf openToSample Store.openCollection
  rw [h]
  rfl

/-- A collection that does not open is not sampled, and has no paths where that is excused. -/
theorem pathsOf_of_error (h : s.collection name database = .error f) :
    pathsOf s size name database =
      ⟨[.openCollection name database],
        if Contact.opening.excuses f then .ok [] else .error f⟩ := by
  unfold pathsOf openToSample Store.openCollection Contact.excuses
  rw [h]
  cases hf : f.isDatabase || f.isValue with
  | true => simp only [Traced.mapOutcome, Traced.call, hf, if_true]; rfl
  | false => simp only [Traced.mapOutcome, Traced.call, hf, Bool.false_eq_true, if_false]; rfl

/-! ## Calls -/

def samplingCalls (size : Positive) (name : String) (database : Option String) : List Call :=
  [.openCollection name database, .find (.map []) {}, .cut size.value]

theorem calls_sampleDocs_of_none (size : Positive) (h : c.queryFault = none) :
    (sampleDocs c size).calls = [.find (.map []) {}, .cut size.value] := by
  obtain ⟨docs, _, cutFault, readFault⟩ := c
  obtain rfl := h
  cases cutFault <;> rfl

theorem calls_sampleDocs_of_some (size : Positive) (h : c.queryFault = some f) :
    (sampleDocs c size).calls = [.find (.map []) {}] := by
  obtain ⟨docs, _, cutFault, readFault⟩ := c
  obtain rfl := h
  rfl

/-- Sampling opens the collection, finds without a filter and cuts, each once and in this order, and
stops early at a fault. -/
theorem calls_pathsOf_prefix (s : Store) (size : Positive) (name : String)
    (database : Option String) :
    (pathsOf s size name database).calls <+: samplingCalls size name database := by
  cases hc : s.collection name database with
  | error f =>
    rw [pathsOf_of_error hc]
    exact ⟨_, rfl⟩
  | ok c =>
    rw [pathsOf_of_ok hc]
    refine List.cons_prefix_cons.mpr ⟨rfl, ?_⟩
    -- Behind the opening only the find can fail before the cut is called.
    show (sampleDocs c size).calls <+: _
    cases hq : c.queryFault with
    | none => exact calls_sampleDocs_of_none size hq ▸ List.prefix_rfl
    | some f =>
      rw [calls_sampleDocs_of_some size hq]
      exact ⟨_, rfl⟩

/-- Sampling that finds documents also cuts them. -/
theorem calls_pathsOf_of_answered (ho : s.faultAt name database .opening = none)
    (hq : s.faultAt name database .querying = none) :
    (pathsOf s size name database).calls = samplingCalls size name database := by
  unfold Store.faultAt at ho hq
  cases hc : s.collection name database with
  | error f => simp [hc] at ho
  | ok c =>
    rw [hc] at hq
    rw [pathsOf_of_ok hc]
    exact congrArg _ (calls_sampleDocs_of_none size hq)

/-! ## Outcomes -/

theorem outcome_sampleDocs (c : Collection) (size : Positive) :
    (sampleDocs c size).outcome = c.ends Contact.ofSampling (c.docs.take size.value.toNat) := by
  refine Collection.outcome_contact_bind (c := c) (p := .querying) ?_
  refine Collection.outcome_contact_bind (c := c) (p := .cutting) ?_
  exact Collection.outcome_read c _

/-- The first fault of sampling costs the paths or ends it, as its contact says. -/
theorem outcome_pathsOf_of_firstFault
    (h : s.firstFault? name database Contact.ofSampling = some (p, f)) :
    (pathsOf s size name database).outcome = if p.excuses f then .ok [] else .error f := by
  unfold Store.firstFault? at h
  cases hc : s.collection name database with
  | error e =>
    rw [hc] at h
    obtain ⟨rfl, rfl⟩ := Prod.mk.inj (Option.some.inj h)
    rw [pathsOf_of_error hc]
  | ok c =>
    rw [hc] at h
    have hp := Collection.ne_opening_of_firstFault? h
    have hdocs := (outcome_sampleDocs c size).trans (Collection.ends_of_some h _)
    rw [pathsOf_of_ok hc]
    simp only [samplePaths, Traced.mapOutcome, hdocs, Contact.excuses_of_ne_opening hp]

theorem outcome_pathsOf_of_none (size : Positive)
    (h : s.firstFault? name database Contact.ofSampling = none) :
    ∃ fields, (pathsOf s size name database).outcome = .ok fields := by
  unfold Store.firstFault? at h
  cases hc : s.collection name database with
  | error e => simp [hc] at h
  | ok c =>
    rw [hc] at h
    have hdocs := (outcome_sampleDocs c size).trans (Collection.ends_of_none h _)
    rw [pathsOf_of_ok hc]
    simp only [samplePaths, Traced.mapOutcome, hdocs]
    exact ⟨_, rfl⟩

theorem exists_faultAt_of_outcome_pathsOf
    (h : (pathsOf s size name database).outcome = .error f) :
    ∃ p, s.faultAt name database p = some f := by
  cases hf : s.firstFault? name database Contact.ofSampling with
  | none =>
    obtain ⟨fields, hok⟩ := outcome_pathsOf_of_none size hf
    rw [hok] at h
    simp at h
  | some pf =>
    obtain ⟨p, e⟩ := pf
    rw [outcome_pathsOf_of_firstFault hf] at h
    by_cases hp : p.excuses e = true
    · simp [hp] at h
    · rw [if_neg hp] at h
      obtain rfl := Except.error.inj h
      exact ⟨p, Store.faultAt_of_firstFault? hf⟩

end Schema

end QueryWarden
