import QueryWarden.Proofs.Schema.Sample
import QueryWarden.Proofs.Service.Refusal

/-!
# Asking the model

A generation turns an instruction away that is blank or of an unknown mode (`generate_of_none`).  For
any other one it samples the fields and then does the rest (`generate_of_some`), which asks the model
once and makes no other call (`calls_answered`).  So a generation asks the model exactly when the
fields are known (`calls_generateFor_of_ok`, `calls_generateFor_of_error`).
-/

namespace QueryWarden

/-- The words and the mode of an instruction that has both. -/
def Instruction.accepted? (i : Instruction) : Option (String × String) :=
  (trimmed? i.natural).bind fun natural =>
    (i.mode.filter modes.contains).map fun mode => (natural, mode)

namespace Service

variable {s : Service} {i : Instruction} {natural mode : String}
  {collection database : Option String} {fields : List String} {f : Fault}

/-- What a generation does once the fields are known. -/
def answered (s : Service) (natural mode : String) (collection : Option String)
    (fields : List String) : Step Generated := do
  let reply ← s.ask (.build s.settings natural mode fields collection)
  let spec ← Traced.ofExcept (s.specOfReply mode fields reply)
  return ⟨spec, fields, reply⟩

theorem generateFor_eq : s.generateFor natural mode collection database =
    s.knownFields collection database >>= s.answered natural mode collection :=
  rfl

theorem calls_answered : (s.answered natural mode collection fields).calls =
    [.generate (.build s.settings natural mode fields collection)] := by
  unfold answered
  cases hr : (s.ask (.build s.settings natural mode fields collection)).outcome with
  | error f => exact Traced.calls_bind_of_error hr
  | ok reply =>
    rw [Traced.calls_bind_of_ok hr]
    cases s.specOfReply mode fields reply <;> rfl

theorem calls_generateFor_of_ok (h : (s.knownFields collection database).outcome = .ok fields) :
    (s.generateFor natural mode collection database).calls =
      (s.knownFields collection database).calls ++
        [.generate (.build s.settings natural mode fields collection)] := by
  rw [generateFor_eq, Traced.calls_bind_of_ok h, calls_answered]

theorem calls_generateFor_of_error (h : (s.knownFields collection database).outcome = .error f) :
    (s.generateFor natural mode collection database).calls =
      (s.knownFields collection database).calls := by
  rw [generateFor_eq, Traced.calls_bind_of_error h]

theorem generate_of_none (h : i.accepted? = none) :
    ∃ f : Failure, f.kind = .invalidInput ∧ ∀ s : Service, s.generate i = .fail f := by
  unfold Instruction.accepted? at h
  cases hn : trimmed? i.natural with
  | none =>
    refine ⟨.blankInstruction, rfl, fun s => ?_⟩
    unfold generate
    rw [hn]
  | some natural =>
    rw [hn, Option.bind_some, Option.map_eq_none_iff] at h
    refine ⟨.unknownMode, rfl, fun s => ?_⟩
    unfold generate
    simp only [hn, h]

theorem generate_of_some (s : Service) (h : i.accepted? = some (natural, mode)) :
    s.generate i = s.generateFor natural mode (trimmed? i.collection) i.database := by
  unfold Instruction.accepted? at h
  obtain ⟨natural, hn, h⟩ := Option.bind_eq_some_iff.mp h
  obtain ⟨mode, hm, h⟩ := Option.map_eq_some_iff.mp h
  obtain ⟨rfl, rfl⟩ := Prod.mk.inj h
  unfold generate
  simp only [hn, hm]

end Service

end QueryWarden
