import QueryWarden.Proofs.Service.Asking
import QueryWarden.Proofs.Service.Reports

/-!
# Failed sampling

A generation depends on its store only through the fields that it knows (`seen_generateFor_congr`).  A
fault that sampling excuses leaves no fields, as an empty collection does, so the generation cannot
be told from one for the empty collection.  Any other fault ends the generation before the model is
asked (`failed_sampling_costs_fields_iff`).
-/

namespace QueryWarden

def Call.prompt? : Call → Option Prompt
  | .generate p => some p
  | _ => none

/-- What a step shows to its client and to the model: what it ends with, and the prompts. -/
def Traced.seen {α : Type} (t : Step α) : Except Fault α × List Prompt :=
  (t.outcome, t.calls.filterMap Call.prompt?)

/-- The store in which the collection of a name opens and is empty. -/
def Store.emptying (store : Store) (name : String) (database : Option String) : Store where
  collection n d := if n = name ∧ d = database then .ok .empty else store.collection n d
  listings := store.listings

/-- The service for which the collection of a name opens and is empty. -/
def Service.emptying (s : Service) (name : String) (database : Option String) : Service :=
  { s with store := s.store.emptying name database }

/-- Faults of the database are excused at all contacts, those about a value only where a collection is
opened, and those of input and output only behind that. -/
theorem Contact.excuses_iff {p : Contact} {f : Fault} :
    p.excuses f = true ↔
      f.isDatabase = true ∨ (p = .opening ∧ f.isValue = true) ∨
        (p ≠ .opening ∧ f.isIo = true) := by
  cases p <;> simp [excuses, Schema.isExcused]

namespace Service

variable {s : Service} {i : Instruction} {natural mode name : String}
  {collection database : Option String} {p : Contact} {f : Fault}

/-! ## Prompts -/

theorem prompts_knownFields (s : Service) (collection database : Option String) :
    (s.knownFields collection database).calls.filterMap Call.prompt? = [] := by
  cases collection with
  | none => rfl
  | some name =>
    refine List.filterMap_eq_nil_iff.mpr fun call hcall => ?_
    have hprefix := Schema.calls_pathsOf_prefix s.store s.settings.sampleSize name database
    have hmem := hprefix.subset hcall
    simp only [Schema.samplingCalls, List.mem_cons, List.not_mem_nil, or_false] at hmem
    rcases hmem with rfl | rfl | rfl <;> rfl

theorem seen_generateFor_of_ok {fields : List String}
    (h : (s.knownFields collection database).outcome = .ok fields) :
    (s.generateFor natural mode collection database).seen =
      ((s.answered natural mode collection fields).outcome,
        [.build s.settings natural mode fields collection]) := by
  have houtcome : (s.generateFor natural mode collection database).outcome =
      (s.answered natural mode collection fields).outcome := by
    rw [generateFor_eq, Traced.outcome_bind_of_ok h]
  unfold Traced.seen
  rw [houtcome, calls_generateFor_of_ok h, List.filterMap_append, prompts_knownFields]
  rfl

theorem seen_generateFor_of_error
    (h : (s.knownFields collection database).outcome = .error f) :
    (s.generateFor natural mode collection database).seen = (.error f, []) := by
  have houtcome : (s.generateFor natural mode collection database).outcome = .error f :=
    Traced.outcome_bind_eq_error.mpr (.inl h)
  unfold Traced.seen
  rw [houtcome, calls_generateFor_of_error h, prompts_knownFields]

/-- Stores that give the same fields, or fail alike, make no difference to a generation. -/
theorem seen_generateFor_congr (store : Store)
    (h : ({ s with store := store }.knownFields collection database).outcome =
      (s.knownFields collection database).outcome) :
    ({ s with store := store }.generateFor natural mode collection database).seen =
      (s.generateFor natural mode collection database).seen := by
  cases hk : (s.knownFields collection database).outcome with
  | ok fields =>
    rw [seen_generateFor_of_ok hk, seen_generateFor_of_ok (h.trans hk)]
    rfl
  | error f => rw [seen_generateFor_of_error hk, seen_generateFor_of_error (h.trans hk)]

/-! ## An empty collection and one that fails -/

theorem outcome_samplePaths_empty (size : Positive) :
    (Schema.samplePaths .empty size).outcome = .ok [] := by
  have hdocs : (Schema.sampleDocs .empty size).outcome = .ok [] := by
    rw [Schema.outcome_sampleDocs, Collection.ends_of_none rfl]
    exact congrArg Except.ok List.take_nil
  simp only [Schema.samplePaths, Traced.mapOutcome, hdocs]
  rfl

theorem outcome_knownFields_emptying (s : Service) (name : String) (database : Option String) :
    ((s.emptying name database).knownFields (some name) database).outcome = .ok [] := by
  have hc : (s.store.emptying name database).collection name database = .ok .empty :=
    if_pos ⟨rfl, rfl⟩
  show (Schema.pathsOf (s.store.emptying name database) _ name database).outcome = _
  rw [Schema.pathsOf_of_ok hc]
  exact outcome_samplePaths_empty s.settings.sampleSize

theorem outcome_knownFields_of_generateFor {g : Generated}
    (h : (s.generateFor natural mode collection database).outcome = .ok g) :
    (s.knownFields collection database).outcome = .ok g.fields := by
  rw [generateFor_eq] at h
  obtain ⟨fields, hk, h⟩ := Traced.outcome_bind_eq_ok.mp h
  obtain ⟨reply, -, h⟩ := Traced.outcome_bind_eq_ok.mp h
  obtain ⟨spec, -, h⟩ := Traced.outcome_bind_eq_ok.mp h
  rw [hk, ← Except.ok.inj h]

/-- A fault that sampling excuses leaves no fields, and any other one is passed on. -/
theorem outcome_knownFields_of_firstFault
    (hf : s.store.firstFault? name database Contact.ofSampling = some (p, f)) :
    (s.knownFields (some name) database).outcome = if p.excuses f then .ok [] else .error f :=
  Schema.outcome_pathsOf_of_firstFault hf

/-! ## Generating in spite of a fault -/

/-- A generation for a collection that fails goes on as for an empty collection exactly when sampling
excuses the fault. -/
theorem seen_generateFor_eq_emptying_iff
    (hf : s.store.firstFault? name database Contact.ofSampling = some (p, f)) :
    (s.generateFor natural mode (some name) database).seen =
        ((s.emptying name database).generateFor natural mode (some name) database).seen ↔
      p.excuses f = true := by
  have hempty := outcome_knownFields_emptying s name database
  have hk := outcome_knownFields_of_firstFault hf
  by_cases hp : p.excuses f = true
  · rw [if_pos hp] at hk
    refine iff_of_true ?_ hp
    exact (seen_generateFor_congr (s.store.emptying name database) (hempty.trans hk.symm)).symm
  · rw [if_neg hp] at hk
    refine iff_of_false ?_ hp
    -- The prompts tell the two apart: none here, and one for the empty collection.
    rw [seen_generateFor_of_error hk, seen_generateFor_of_ok hempty]
    intro h
    exact absurd (Prod.mk.inj h).2 (List.cons_ne_nil _ _).symm

/-- What the first fault of sampling does to a generation.  It costs the fields and nothing else, so
that the generation shows what it shows for an empty collection, exactly when sampling excuses it: a
fault of the database, one about a value where the collection is opened, or one of input and output
behind that.  Any other fault ends the generation before the model is asked. -/
theorem failed_sampling_costs_fields_iff (s : Service) (i : Instruction) (name : String)
    (p : Contact) (f : Fault) (hn : trimmed? i.collection = some name)
    (hf : s.store.firstFault? name i.database Contact.ofSampling = some (p, f)) :
    ((s.generate i).seen = ((s.emptying name i.database).generate i).seen ↔
      i.accepted? = none ∨ f.isDatabase = true ∨ (p = .opening ∧ f.isValue = true) ∨
        (p ≠ .opening ∧ f.isIo = true)) ∧
    (∀ g, (s.generate i).outcome = .ok g → g.fields = []) ∧
    ∀ natural mode, i.accepted? = some (natural, mode) →
      ((s.emptying name i.database).generate i).seen.2 =
        [.build s.settings natural mode [] (some name)] ∧
      (p.excuses f = false → (s.generate i).seen = (.error f, [])) := by
  rw [← Contact.excuses_iff]
  have hk := outcome_knownFields_of_firstFault hf
  cases hi : i.accepted? with
  | none =>
    -- Both services turn the instruction away alike.
    obtain ⟨e, -, hg⟩ := generate_of_none hi
    refine ⟨iff_of_true (by rw [hg, hg]) (.inl rfl), fun g h => ?_, nofun⟩
    rw [hg] at h
    exact absurd h nofun
  | some accepted =>
    obtain ⟨natural, mode⟩ := accepted
    rw [generate_of_some _ hi, generate_of_some _ hi, hn]
    refine ⟨?_, fun g h => ?_, ?_⟩
    · rw [or_iff_right (Option.some_ne_none _)]
      exact seen_generateFor_eq_emptying_iff hf
    · rw [outcome_knownFields_of_generateFor h] at hk
      split_ifs at hk
      exact Except.ok.inj hk
    · rintro natural mode ⟨⟩
      refine ⟨?_, fun hp => ?_⟩
      · rw [seen_generateFor_of_ok (outcome_knownFields_emptying s name i.database)]
        rfl
      · rw [hp] at hk
        exact seen_generateFor_of_error hk

/-- A cursor that times out while it is cut costs the fields only. -/
theorem failed_sampling_costs_fields_of_timeout :
    ((failing .cutting (.database "ExecutionTimeout" "too slow") "").generate
      { natural := some "all", mode := some "find", collection := some " users " }).seen =
    (((failing .cutting (.database "ExecutionTimeout" "too slow") "").emptying "users" none).generate
      { natural := some "all", mode := some "find", collection := some " users " }).seen :=
  (failed_sampling_costs_fields_iff
    (failing .cutting (.database "ExecutionTimeout" "too slow") "")
    { natural := some "all", mode := some "find", collection := some " users " } "users" .cutting
    (.database "ExecutionTimeout" "too slow") (by decide +kernel) rfl).1.mpr (.inr (.inl rfl))

/-- A document that cannot be read costs more than the fields: the model is not asked. -/
theorem failed_sampling_ends_generation :
    ¬ ∀ (s : Service) (i : Instruction) (name : String) (p : Contact) (f : Fault),
      trimmed? i.collection = some name →
        s.store.firstFault? name i.database Contact.ofSampling = some (p, f) →
          (s.generate i).seen = ((s.emptying name i.database).generate i).seen := by
  intro h
  let s := failing .querying (.value "bad document")
    "\x7b\"query\": \x7b\"name\": \"Jens\"\x7d\x7d"
  let i : Instruction :=
    { natural := some "users named Jens", mode := some "find", collection := some "users" }
  have hseen := h s i "users" .querying (.value "bad document") (by decide +kernel) rfl
  have hprompts : (s.generate i).seen.2 = [] := by decide +kernel
  have hempty : ((s.emptying "users" i.database).generate i).seen.2 ≠ [] := by decide +kernel
  rw [hseen] at hprompts
  exact hempty hprompts

end Service

end QueryWarden
