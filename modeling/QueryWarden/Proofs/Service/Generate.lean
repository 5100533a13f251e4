import QueryWarden.Proofs.Json.Reader
import QueryWarden.Proofs.Traced
import QueryWarden.Service.Basic

/-!
# What a generation gives

A generated query is the one in the object of the reply, which passed the deny list: its keys are
spelled like the known fields and its conditions are sanitized (`specOfReply_eq_ok`).  The object is
read from a text, so it is free of tuples (`Reply.isTupleFree_of_object`).
-/

namespace QueryWarden

namespace Reply

theorem isTupleFree_of_readObject? {cs : List Char} {fs : Fields} (h : readObject? cs = some fs) :
    (Value.map fs).isTupleFree = true := by
  unfold readObject? at h
  split at h
  · rename_i v hv
    cases v with
    | map es =>
      obtain rfl := Option.some.inj h
      exact Json.isTupleFree_of_readAll hv
    | _ => simp [Value.fields?] at h
  · exact absurd h.symm (Option.some_ne_none fs)

theorem exists_readObject?_of_direct? {cs : List Char} {fs : Fields} (h : direct? cs = some fs) :
    ∃ ds, readObject? ds = some fs := by
  unfold direct? at h
  dsimp only at h
  split at h
  · exact ⟨_, h⟩
  · exact absurd h.symm (Option.some_ne_none fs)

theorem exists_readObject?_of_fenced? {cs : List Char} {fs : Fields} (h : fenced? cs = some fs) :
    ∃ ds, readObject? ds = some fs := by
  obtain ⟨content, -, h⟩ := Option.bind_eq_some_iff.mp h
  exact ⟨_, h⟩

theorem exists_readObject?_of_braceSpan? {cs : List Char} {fs : Fields}
    (h : braceSpan? cs = some fs) : ∃ ds, readObject? ds = some fs := by
  unfold braceSpan? at h
  split at h
  · exact absurd h.symm (Option.some_ne_none fs)
  · split at h
    · exact absurd h.symm (Option.some_ne_none fs)
    · exact ⟨_, h⟩

/-- Whatever reading finds the object in a reply, the JSON reader gives it. -/
theorem exists_readObject?_of_object {reply : Value} {fs : Fields} (h : object reply = .ok fs) :
    ∃ cs, readObject? cs = some fs := by
  unfold object at h
  split at h
  · rename_i s
    split_ifs at h
    dsimp only at h
    split at h
    · rename_i gs hgs
      obtain rfl := Except.ok.inj h
      cases hd : direct? s.toList with
      | some fs =>
        rw [hd] at hgs
        obtain rfl := Option.some.inj hgs
        exact exists_readObject?_of_direct? hd
      | none =>
        cases hf : fenced? s.toList with
        | some fs =>
          rw [hd, hf] at hgs
          obtain rfl := Option.some.inj hgs
          exact exists_readObject?_of_fenced? hf
        | none =>
          rw [hd, hf] at hgs
          exact exists_readObject?_of_braceSpan? hgs
    · simp at h
  · simp at h

theorem isTupleFree_of_object {reply : Value} {fs : Fields} (h : object reply = .ok fs) :
    (Value.map fs).isTupleFree = true := by
  obtain ⟨cs, hcs⟩ := exists_readObject?_of_object h
  exact isTupleFree_of_readObject? hcs

end Reply

namespace Service

variable {s : Service}

theorem specOfReply_eq_ok {mode : String} {fields : List String} {reply : Value}
    {spec : QuerySpec} :
    s.specOfReply mode fields reply = .ok spec ↔
      ∃ output q, Reply.object reply = .ok output ∧
        s.settings.denyList.check (.map output) = .ok () ∧
        QuerySpec.ofModelOutput s.settings.limits mode output = .ok q ∧
        (q.recase (.ofPaths fields)).sanitize = .ok spec := by
  unfold specOfReply
  simp only [bind_eq_ok, mapError_eq_ok]
  constructor
  · rintro ⟨output, ho, ⟨⟩, hc, q, hq, hs⟩
    exact ⟨output, q, ho, hc, hq, hs⟩
  · rintro ⟨output, q, ho, hc, hq, hs⟩
    exact ⟨output, ho, (), hc, q, hq, hs⟩

/-- A generation gives the query in the reply to one of the two modes. -/
theorem specOfReply_of_generate {i : Instruction} {g : Generated}
    (h : (s.generate i).outcome = .ok g) :
    ∃ mode, i.mode = some mode ∧ s.specOfReply mode g.fields g.raw = .ok g.spec := by
  unfold generate at h
  split at h
  · simp [Traced.fail, Traced.fault] at h
  · split at h
    · simp [Traced.fail, Traced.fault] at h
    · rename_i mode hmode
      obtain ⟨fields, -, h⟩ := Traced.outcome_bind_eq_ok.mp h
      obtain ⟨reply, -, h⟩ := Traced.outcome_bind_eq_ok.mp h
      obtain ⟨spec, hspec, h⟩ := Traced.outcome_bind_eq_ok.mp h
      obtain rfl := Except.ok.inj h
      exact ⟨mode, (Option.filter_eq_some_iff.mp hmode).1, hspec⟩

end Service

end QueryWarden
