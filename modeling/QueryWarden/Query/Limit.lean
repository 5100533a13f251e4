import QueryWarden.Number.Numeral
import QueryWarden.Value.Basic

/-!
# Limits

Limits and sizes are integers of at least one.  `Positive.ofInt` moves an integer up to one where
it is smaller, and `Positive.ofInt?` refuses it.

A limit may be asked for in any form.  `clampLimit` reads it as an integer where that is possible,
takes the default where it is not, and moves the result between one and the greatest limit.
-/

namespace QueryWarden

/-! ## Positive integers -/

/-- An integer of at least one. -/
structure Positive where
  value : Int
  one_le : 1 ≤ value
  deriving DecidableEq

namespace Positive

def ofInt (i : Int) : Positive :=
  ⟨max 1 i, Int.le_max_left 1 i⟩

def ofInt? (i : Int) : Option Positive :=
  if h : 1 ≤ i then some ⟨i, h⟩ else none

theorem ofInt?_eq_some {i : Int} (h : 1 ≤ i) : ofInt? i = some ⟨i, h⟩ := by
  rw [ofInt?, dif_pos h]

theorem ofInt?_eq_none {i : Int} (h : i < 1) : ofInt? i = none := by
  rw [ofInt?, dif_neg (by omega)]

theorem value_of_ofInt? {i : Int} {n : Positive} (h : ofInt? i = some n) : n.value = i := by
  unfold ofInt? at h
  split at h
  · rw [← Option.some.inj h]
  · exact absurd h.symm (Option.some_ne_none n)

end Positive

/-! ## Limits -/

def Native.toInteger? : Native → Option Int
  | .decimal d => d.truncate?
  | .uuid id => some id.toNat
  | .bytes data | .binary data _ => (Number.readIntegerBytes data).toOption
  | _ => none

/-- The integer that a value stands for, the fraction of a number left out.  Truth values count as
none. -/
def Value.toInteger? : Value → Option Int
  | .int i => some i
  | .float x => x.truncate?
  | .string s => (Number.readInteger s).toOption
  | .native n => n.toInteger?
  | _ => none

/-- The limit that a value asks for, between one and `greatest`. -/
def clampLimit (greatest default : Int) (v : Value) : Int :=
  min (max (v.toInteger?.getD default) 1) greatest

def defaultGreatest : Int := 100

def defaultLimit : Int := 50

end QueryWarden
