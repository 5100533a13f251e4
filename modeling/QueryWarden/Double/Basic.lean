import QueryWarden.Number.Numeral

/-!
# Double-precision numbers

A `Double` is a sign, a mantissa and a binary exponent in the one canonical form of binary64, an
infinity, or the value that is not a number.  `ofRatio` rounds a quotient of natural numbers to
the nearest double, a tie to the even mantissa, and overflows to infinity.
-/

namespace QueryWarden

/-- The mantissas and exponents of finite doubles: 53 bits with the leading one set, or fewer at
the least exponent. -/
def IsCanonical (m : Nat) (e : Int) : Prop :=
  m < 0x20000000000000 ∧ -1074 ≤ e ∧ e ≤ 971 ∧ (0x10000000000000 ≤ m ∨ e = -1074)

instance (m : Nat) (e : Int) : Decidable (IsCanonical m e) :=
  inferInstanceAs (Decidable (_ ∧ _))

/-- A double: `finite s m e` is `m * 2 ^ e` with the sign `s`, which is set for negative numbers
and for the negative zero. -/
inductive Double where
  | finite (negative : Bool) (mantissa : Nat) (exponent : Int)
      (canonical : IsCanonical mantissa exponent)
  | infinite (negative : Bool)
  | nan
  deriving DecidableEq

namespace Double

def zero (negative : Bool) : Double :=
  .finite negative 0 (-1074) (by decide)

/-- The double `m * 2 ^ e`, or infinity when that is no canonical form. -/
def pack (negative : Bool) (m : Nat) (e : Int) : Double :=
  if h : IsCanonical m e then .finite negative m e h else .infinite negative

/-! ## Rounding -/

/-- The nearest natural number to `n / d`, a tie to the even one. -/
def roundDiv (n d : Nat) : Nat :=
  let q := n / d
  let r := n % d
  if 2 * r < d then q
  else if d < 2 * r then q + 1
  else if q % 2 = 0 then q else q + 1

/-- The greatest `k` with `2 ^ k ≤ n / d`, for positive `n` and `d`. -/
def floorLog2 (n d : Nat) : Int :=
  let k : Int := (Nat.log2 n : Int) - Nat.log2 d
  if d * Number.pow2 k.toNat ≤ n * Number.pow2 (-k).toNat then k else k - 1

/-- The nearest multiple of `2 ^ e` to `n / d`, in units of `2 ^ e`. -/
def roundAt (n d : Nat) (e : Int) : Nat :=
  roundDiv (n * Number.pow2 (-e).toNat) (d * Number.pow2 e.toNat)

/-- The nearest double to `n / d` with the given sign. -/
def ofRatio (negative : Bool) (n d : Nat) : Double :=
  if n = 0 then zero negative
  else
    let e := max (floorLog2 n d - 52) (-1074)
    let m := roundAt n d e
    if m = 0x20000000000000 then pack negative 0x10000000000000 (e + 1) else pack negative m e

def ofInt (i : Int) : Double :=
  ofRatio (decide (i < 0)) i.natAbs 1

/-- The nearest double to `d * 10 ^ x`, where exponents far outside the range are not computed. -/
def ofDecimal (negative : Bool) (d : Nat) (x : Int) : Double :=
  let size : Int := (Nat.toDigits 10 d).length + x
  if d = 0 then zero negative
  else if 310 < size then .infinite negative
  else if size < -330 then zero negative
  else ofRatio negative (d * Number.pow10 x.toNat) (Number.pow10 (-x).toNat)

/-! ## The rational value -/

/-- The numerator of `m * 2 ^ e` over `denominator e`. -/
def numerator (m : Nat) (e : Int) : Nat :=
  m * Number.pow2 e.toNat

/-- The denominator of `m * 2 ^ e`. -/
def denominator (e : Int) : Nat :=
  Number.pow2 (-e).toNat

/-- The double nearest to `x * p / q`. -/
def mulRatio (p q : Nat) : Double → Double
  | .finite s m e _ => ofRatio s (numerator m e * p) (denominator e * q)
  | x => x

/-- The integer part of a finite double, toward zero. -/
def truncate? : Double → Option Int
  | .finite s m e _ => some (Number.signed s (numerator m e / denominator e))
  | _ => none

/-- The part of a finite double behind the point, times `p` as a double, rounded to the nearest
integer, a tie to the even one. -/
def scaledFraction? (p : Nat) : Double → Option Int
  | .finite s m e _ =>
    match ofRatio s ((numerator m e % denominator e) * p) (denominator e) with
    | .finite s m e _ => some (Number.signed s (roundDiv (numerator m e) (denominator e)))
    | _ => none
  | _ => none

def isNegative : Double → Bool
  | .finite s m _ _ => s && m != 0
  | .infinite s => s
  | .nan => false

/-- Whether a double is zero, of either sign. -/
def isZero : Double → Bool
  | .finite _ m _ _ => m == 0
  | _ => false

def isFinite : Double → Bool
  | .finite .. => true
  | _ => false

def toInt? : Double → Option Int
  | .finite s m e _ =>
    if numerator m e % denominator e = 0 then some (Number.signed s (numerator m e / denominator e))
    else none
  | _ => none

end Double

end QueryWarden
