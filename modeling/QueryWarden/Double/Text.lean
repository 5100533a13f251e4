import QueryWarden.Double.Basic
import QueryWarden.Number.Numeral
import QueryWarden.Text.Blank
import QueryWarden.Text.Digits

/-!
# Decimal texts of doubles

`ofNumeral?` reads an unsigned decimal numeral, and `ofText?` a whole text: blank characters
around, a sign, and a numeral or one of the words for infinity and for the value that is not a
number.

`shortest` gives the fewest significant digits that read back as the double, of these the nearest
to it; `significant` gives a fixed number of them.  `toText` writes the shortest digits, with an
exponent below 1e-4 and from 1e16 on, and `toGeneralText` writes at most six digits.
-/

namespace QueryWarden.Double

/-! ## Reading -/

/-- Reads an unsigned numeral up to the end. -/
def ofNumeral? (negative : Bool) (cs : List Char) : Option Double :=
  (Number.Numeral.ofChars? cs).map fun n => ofDecimal negative n.coefficient n.exponent

/-- Reads a word for infinity or for the value that is not a number, in any case of letters. -/
def ofWord? (negative : Bool) (cs : List Char) : Option Double :=
  let w := String.ofList (cs.map Char.toLower)
  if w == "inf" || w == "infinity" then some (.infinite negative)
  else if w == "nan" then some .nan
  else none

def ofText? (s : String) : Option Double :=
  (Number.joinGroups? (Text.trimBoth Text.isAsciiBlank (Number.asciiChars s))).bind fun cs =>
    let (negative, body) := Number.splitSign cs
    match ofNumeral? negative body with
    | some x => some x
    | none => ofWord? negative body

/-- A positive decimal number `0.d₁d₂… * 10 ^ point`, written `digits` for `d₁d₂…`. -/
structure DecimalForm where
  digits : List Char
  point : Int
  deriving DecidableEq

/-- The greatest `k` with `10 ^ k ≤ n / d`, for positive `n` and `d`. -/
def floorLog10 (n d : Nat) : Int :=
  let k : Int := ((Nat.toDigits 10 n).length : Int) - (Nat.toDigits 10 d).length
  if d * Number.pow10 k.toNat ≤ n * Number.pow10 (-k).toNat then k else k - 1

/-- The form of `c * 10 ^ x` without zeros at the end. -/
def DecimalForm.ofScaled (c : Nat) (x : Int) : DecimalForm :=
  let ds := Text.digits c
  ⟨Text.trimEnd (· == '0') ds, ds.length + x⟩

/-! ## Choosing digits -/

/-- `n / d` in units of `10 ^ x`, as a numerator and a denominator. -/
def inUnits (n d : Nat) (x : Int) : Nat × Nat :=
  (n * Number.pow10 (-x).toNat, d * Number.pow10 x.toNat)

/-- Whether `c * 10 ^ x` reads back as `m * 2 ^ e`. -/
def readsBack (m : Nat) (e : Int) (c : Nat) (x : Int) : Bool :=
  match ofRatio false (c * Number.pow10 x.toNat) (Number.pow10 (-x).toNat) with
  | .finite _ m' e' _ => m' == m && e' == e
  | _ => false

/-- The better of the two neighbours of `m * 2 ^ e` on the grid of step `10 ^ x`, of those that
read back. -/
def neighbour? (m : Nat) (e : Int) (x : Int) : Option Nat :=
  let u := inUnits (numerator m e) (denominator e) x
  let low := u.1 / u.2
  match readsBack m e low x, readsBack m e (low + 1) x with
  | true, true => some (roundDiv u.1 u.2)
  | true, false => some low
  | false, true => some (low + 1)
  | false, false => none

/-- Searches the grids of `count` digits and more, at most `fuel` grids. -/
def searchGrids (m : Nat) (e : Int) (top : Int) : Nat → Nat → DecimalForm
  | 0, count =>
    let x := top + 1 - count
    let u := inUnits (numerator m e) (denominator e) x
    .ofScaled (roundDiv u.1 u.2) x
  | fuel + 1, count =>
    let x := top + 1 - count
    match neighbour? m e x with
    | some c => .ofScaled c x
    | none => searchGrids m e top fuel (count + 1)

/-- The shortest form that reads back as the positive double `m * 2 ^ e`. -/
def shortest (m : Nat) (e : Int) : DecimalForm :=
  searchGrids m e (floorLog10 (numerator m e) (denominator e)) 16 1

/-- The form of `m * 2 ^ e` rounded to `count` significant digits. -/
def significant (count : Nat) (m : Nat) (e : Int) : DecimalForm :=
  let x := floorLog10 (numerator m e) (denominator e) + 1 - count
  let u := inUnits (numerator m e) (denominator e) x
  .ofScaled (roundDiv u.1 u.2) x

/-! ## Layout -/

structure Layout where
  /-- The least power of ten of the leading digit that is written without an exponent. -/
  least : Int
  /-- The first power of ten of the leading digit that is written with an exponent again. -/
  limit : Int
  /-- Whether an integer keeps a point and a zero. -/
  keepPoint : Bool

/-- An exponent with its sign and at least two digits. -/
def exponentText (x : Int) : List Char :=
  'e' :: (if x < 0 then '-' else '+') :: Text.paddedDigits 2 x.natAbs

/-- A form with an exponent: one digit stands before the point. -/
def scientific (f : DecimalForm) : List Char :=
  match f.digits with
  | d :: ds => d :: (if ds.isEmpty then [] else '.' :: ds) ++ exponentText (f.point - 1)
  | [] => exponentText (f.point - 1)

def positional (keepPoint : Bool) (f : DecimalForm) : List Char :=
  if f.point ≤ 0 then
    '0' :: '.' :: List.replicate (-f.point).toNat '0' ++ f.digits
  else
    let whole := f.digits.take f.point.toNat
    let filled := whole ++ List.replicate (f.point.toNat - whole.length) '0'
    let rest := f.digits.drop f.point.toNat
    if rest.isEmpty then filled ++ (if keepPoint then ['.', '0'] else [])
    else filled ++ '.' :: rest

def Layout.write (l : Layout) (f : DecimalForm) : List Char :=
  if l.least < f.point ∧ f.point ≤ l.limit then positional l.keepPoint f else scientific f

/-- Full texts: positional from 1e-4 to below 1e16, and an integer keeps its point. -/
def fullLayout : Layout := ⟨-4, 16, true⟩

/-- General texts of six digits: positional from 1e-4 to below 1e6. -/
def generalLayout : Layout := ⟨-4, 6, false⟩

def writeWith (l : Layout) (choose : Nat → Int → DecimalForm) : Double → List Char
  | .nan => "nan".toList
  | .infinite s => (if s then ['-'] else []) ++ "inf".toList
  | .finite s m e _ =>
    (if s then ['-'] else [])
      ++ (if m = 0 then '0' :: (if l.keepPoint then ['.', '0'] else []) else l.write (choose m e))

/-- The shortest text that reads back. -/
def toText (x : Double) : String :=
  String.ofList (writeWith fullLayout shortest x)

/-- The text of at most six significant digits. -/
def toGeneralText (x : Double) : String :=
  String.ofList (writeWith generalLayout (significant 6) x)

end QueryWarden.Double
