import QueryWarden.Number.Numeral

/-!
# Decimal numbers

A `Decimal` keeps its coefficient and its exponent of ten, so that `1.50` and `1.5` differ.
`toScientific` is the scientific text of the General Decimal Arithmetic: an exponent appears when
the number has zeros to the left of its point or more than five zeros to the right of it.
-/

namespace QueryWarden

inductive Decimal where
  | finite (negative : Bool) (coefficient : Nat) (exponent : Int)
  | infinite (negative : Bool)
  | nan (negative signaling : Bool) (payload : Nat)
  deriving DecidableEq

namespace Decimal

def exponentChars (x : Int) : List Char :=
  'E' :: (if x < 0 then '-' else '+') :: Text.digits x.natAbs

/-- The digits of a coefficient with a point `places` digits from the right. -/
def pointedDigits (ds : List Char) (places : Nat) : List Char :=
  if places = 0 then ds
  else
    let filled := List.replicate (places + 1 - ds.length) '0' ++ ds
    filled.take (filled.length - places) ++ '.' :: filled.drop (filled.length - places)

/-- The text of a coefficient and an exponent. -/
def finiteChars (coefficient : Nat) (exponent : Int) : List Char :=
  let ds := Text.digits coefficient
  let adjusted := exponent + (ds.length - 1 : Nat)
  if exponent ≤ 0 ∧ -6 ≤ adjusted then pointedDigits ds (-exponent).toNat
  else pointedDigits ds (ds.length - 1) ++ exponentChars adjusted

def toScientific (x : Decimal) : String :=
  let sign := fun negative => if negative then ['-'] else []
  String.ofList <| match x with
  | .finite s c e => sign s ++ finiteChars c e
  | .infinite s => sign s ++ "Infinity".toList
  | .nan s signaling p =>
    sign s ++ (if signaling then ['s'] else []) ++ "NaN".toList
      ++ (if p = 0 then [] else Text.digits p)

/-- The integer part of a finite number, toward zero. -/
def truncate? : Decimal → Option Int
  | .finite s c e =>
    some (Number.signed s (c * Number.pow10 e.toNat / Number.pow10 (-e).toNat))
  | _ => none

/-! ## Reading -/

/-- Reads a finite number without its sign. -/
def readFinite? (negative : Bool) (cs : List Char) : Option Decimal :=
  (Number.Numeral.ofChars? cs).map fun n => .finite negative n.coefficient n.exponent

/-- Reads one of the words for infinity and for the values that are no numbers. -/
def readWord? (negative : Bool) (cs : List Char) : Option Decimal :=
  let w := cs.map Char.toLower
  let withPayload := fun signaling (ds : List Char) =>
    if ds.all Text.isAsciiDigit then some (Decimal.nan negative signaling (Number.digitsValue ds))
    else none
  if w = "inf".toList ∨ w = "infinity".toList then some (.infinite negative)
  else match w with
    | 'n' :: 'a' :: 'n' :: ds => withPayload false ds
    | 's' :: 'n' :: 'a' :: 'n' :: ds => withPayload true ds
    | _ => none

def ofText? (s : String) : Option Decimal :=
  let (negative, body) :=
    Number.splitSign ((Text.stripChars (Number.asciiChars s)).filter (· != '_'))
  match readFinite? negative body with
  | some x => some x
  | none => readWord? negative body

/-! ## Decimals of 128 bits -/

/-- The most digits of a decimal of 128 bits. -/
def greatestPrecision : Nat := 34

def greatestExponent : Int := 6111

def leastExponent : Int := -6176

/-- The form of a positive coefficient with an exponent in 128 bits: zeros at the end are dropped
where there are too many digits or the exponent is too small, and added where it is too great. -/
def fitted (negative : Bool) (c : Nat) (e : Int) : Decimal :=
  let least := max ((Text.digits c).length + e - greatestPrecision) leastExponent
  if e < least then .finite negative (c / Number.pow10 (least - e).toNat) least
  else if greatestExponent < e then
    .finite negative (c * Number.pow10 (e - greatestExponent).toNat) greatestExponent
  else .finite negative c e

/-- The form of a number in 128 bits, which the number has to have: the exponent of a zero is
moved into the range, and a value that is not a number has neither sign nor payload. -/
def in128Bits : Decimal → Decimal
  | .finite s 0 e => .finite s 0 (max leastExponent (min e greatestExponent))
  | .finite s c e => fitted s c e
  | .infinite s => .infinite s
  | .nan _ _ _ => .nan false false 0

end Decimal

end QueryWarden
