import Mathlib.Control.Monad.Basic
import QueryWarden.Traced

/-!
# Steps in sequence

What a result or a call of a sequence of steps says about the single steps: a result comes from a
result of every step, and a call is made by a step whose predecessors have results.
-/

namespace QueryWarden

/-! ## Outcomes -/

section Outcomes

variable {ε δ α β : Type} {e : Except ε α}

theorem bind_eq_ok {f : α → Except ε β} {b : β} :
    (e >>= f) = .ok b ↔ ∃ a, e = .ok a ∧ f a = .ok b := by
  cases e <;> simp [bind, Except.bind]

theorem bind_eq_error {f : α → Except ε β} {x : ε} :
    (e >>= f) = .error x ↔ e = .error x ∨ ∃ a, e = .ok a ∧ f a = .error x := by
  cases e <;> simp [bind, Except.bind]

theorem map_eq_ok {f : α → β} {b : β} : e.map f = .ok b ↔ ∃ a, e = .ok a ∧ f a = b := by
  cases e <;> simp [Except.map]

theorem mapError_eq_ok {f : ε → δ} {a : α} : e.mapError f = .ok a ↔ e = .ok a := by
  cases e with
  | error x => exact ⟨nofun, nofun⟩
  | ok b =>
    constructor
    · intro h
      exact congrArg Except.ok (Except.ok.inj h)
    · intro h
      exact congrArg Except.ok (Except.ok.inj h)

theorem map_eq_error {f : α → β} {x : ε} : e.map f = .error x ↔ e = .error x := by
  cases e <;> simp [Except.map]

theorem mapError_eq_error {f : ε → δ} {y : δ} :
    e.mapError f = .error y ↔ ∃ x, e = .error x ∧ f x = y := by
  cases e with
  | error x =>
    constructor
    · intro h
      exact ⟨x, rfl, Except.error.inj h⟩
    · rintro ⟨z, hz, rfl⟩
      rw [Except.error.inj hz]
      rfl
  | ok a =>
    refine ⟨nofun, ?_⟩
    rintro ⟨x, hx, -⟩
    exact absurd hx nofun

end Outcomes

deriving instance DecidableEq for Traced

namespace Traced

variable {κ α β : Type} {t : Traced κ α} {f : α → Traced κ β}

theorem outcome_bind_eq_ok {b : β} :
    (t >>= f).outcome = .ok b ↔ ∃ a, t.outcome = .ok a ∧ (f a).outcome = .ok b := by
  obtain ⟨calls, e | a⟩ := t
  · simp [Bind.bind, bind]
  · simp [Bind.bind, bind]

theorem outcome_bind_eq_error {e : Fault} :
    (t >>= f).outcome = .error e ↔
      t.outcome = .error e ∨ ∃ a, t.outcome = .ok a ∧ (f a).outcome = .error e := by
  obtain ⟨calls, x | a⟩ := t
  · simp [Bind.bind, bind]
  · simp [Bind.bind, bind]

theorem outcome_bind_of_ok {a : α} (h : t.outcome = .ok a) :
    (t >>= f).outcome = (f a).outcome := by
  obtain ⟨calls, x | b⟩ := t
  · simp at h
  · rw [Except.ok.inj h]
    rfl

theorem calls_bind_of_ok {a : α} (h : t.outcome = .ok a) :
    (t >>= f).calls = t.calls ++ (f a).calls := by
  obtain ⟨calls, x | b⟩ := t
  · simp at h
  · rw [Except.ok.inj h]
    rfl

theorem calls_bind_of_error {x : Fault} (h : t.outcome = .error x) :
    (t >>= f).calls = t.calls := by
  obtain ⟨calls, y | b⟩ := t
  · rfl
  · simp at h

theorem mem_calls_bind {c : κ} :
    c ∈ (t >>= f).calls ↔ c ∈ t.calls ∨ ∃ a, t.outcome = .ok a ∧ c ∈ (f a).calls := by
  obtain ⟨calls, e | a⟩ := t
  · simp [Bind.bind, bind]
  · simp [Bind.bind, bind]

theorem ofExcept_error_bind (x : Fault) (f : α → Traced κ β) :
    ofExcept (.error x) >>= f = fault x := rfl

end Traced

end QueryWarden
