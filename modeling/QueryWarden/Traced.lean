import QueryWarden.Failure.Basic

/-!
# Traced steps

A `Traced κ α` is the outcome of a step together with the calls of type `κ` that it made outside,
in order.  Steps in sequence join their calls, and a step after a fault makes none.
-/

namespace QueryWarden

/-- The calls of a step and what it ended with. -/
structure Traced (κ α : Type) where
  calls : List κ
  outcome : Except Fault α

namespace Traced

variable {κ α β : Type}

/-- A result without calls. -/
def pure (a : α) : Traced κ α :=
  ⟨[], .ok a⟩

/-- A fault without calls. -/
def fault (f : Fault) : Traced κ α :=
  ⟨[], .error f⟩

/-- A failure of the service without calls. -/
def fail (f : Failure) : Traced κ α :=
  fault (.failure f)

/-- The given outcome without calls. -/
def ofExcept (e : Except Fault α) : Traced κ α :=
  ⟨[], e⟩

/-- The given outcome without calls, where only failures of the service are possible. -/
def ofFailable (e : Except Failure α) : Traced κ α :=
  ⟨[], e.mapError .failure⟩

def call (c : κ) (e : Except Fault α) : Traced κ α :=
  ⟨[c], e⟩

/-- One step and, if it has a result, the next. -/
def bind (t : Traced κ α) (f : α → Traced κ β) : Traced κ β :=
  match t.outcome with
  | .ok a => ⟨t.calls ++ (f a).calls, (f a).outcome⟩
  | .error e => ⟨t.calls, .error e⟩

instance : Monad (Traced κ) where
  pure := pure
  bind := bind

def mapOutcome (f : Except Fault α → Except Fault β) (t : Traced κ α) : Traced κ β :=
  ⟨t.calls, f t.outcome⟩

end Traced

end QueryWarden
