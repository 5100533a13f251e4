import QueryWarden.Text.Blank
import QueryWarden.Text.Digits
import QueryWarden.Text.Utf8

/-!
# Numerals

What the readers of numbers share.  Digits of any script count as ASCII digits, blank characters
beyond ASCII as spaces, and a single underscore may stand between two digits.  A `Numeral` is an
unsigned decimal number, a coefficient times a power of ten.

`readInteger` reads a decimal integer: a sign and digits of any script, with single underscores
between digits and blank characters around.  Texts of more than `maxDigits` digits are refused.
-/

namespace QueryWarden.Number

/-- The ASCII form of a character of a numeral. -/
def asciiForm (c : Char) : Char :=
  if c.toNat < 127 then c
  else if Text.isBlank c then ' '
  else match Text.digitValue? c with
    | some d => Char.ofNat (48 + d)
    | none => c

/-- The characters of a text with digits and blank characters in their ASCII form. -/
def asciiChars (s : String) : List Char :=
  s.toList.map asciiForm

/-- Drops the underscores, each of which has to stand between two digits; `afterDigit` tells
whether a digit stands before the characters. -/
def joinGroupsFrom (afterDigit : Bool) : List Char → Option (List Char)
  | [] => some []
  | [c] => if c == '_' then none else some [c]
  | c :: d :: rest =>
    if c == '_' then
      if afterDigit && Text.isAsciiDigit d then joinGroupsFrom false (d :: rest) else none
    else (joinGroupsFrom (Text.isAsciiDigit c) (d :: rest)).map (c :: ·)

/-- Drops the underscores, each of which has to stand between two digits. -/
def joinGroups? (cs : List Char) : Option (List Char) :=
  joinGroupsFrom false cs

/-- Splits off a sign; the flag is set for a minus. -/
def splitSign : List Char → Bool × List Char
  | '-' :: cs => (true, cs)
  | '+' :: cs => (false, cs)
  | cs => (false, cs)

def digitsValue (cs : List Char) : Nat :=
  Text.ofDigits (cs.map fun c => c.toNat - 48)

def pow2 (n : Nat) : Nat :=
  Nat.pow 2 n

def pow10 (n : Nat) : Nat :=
  Nat.pow 10 n

/-- The integer with the given sign and size. -/
def signed (negative : Bool) (n : Nat) : Int :=
  if negative then -(n : Int) else n

/-- An unsigned decimal number: `coefficient * 10 ^ exponent`. -/
structure Numeral where
  coefficient : Nat
  exponent : Int
  deriving DecidableEq, Repr

def spanDigits (cs : List Char) : List Char × List Char :=
  (cs.takeWhile Text.isAsciiDigit, cs.dropWhile Text.isAsciiDigit)

/-- The exponent at the start of the characters, with its letter, and the rest, when there is
one. -/
def readExponent? : List Char → Option (Int × List Char)
  | [] => none
  | c :: cs =>
    let (negative, body) := splitSign cs
    let (ds, rest) := spanDigits body
    if (c == 'e' || c == 'E') && !ds.isEmpty then some (signed negative (digitsValue ds), rest)
    else none

/-- The exponent that the characters are, which is zero when there are none. -/
def exponent? (cs : List Char) : Option Int :=
  if cs.isEmpty then some 0
  else match readExponent? cs with
    | some (x, []) => some x
    | _ => none

/-- Reads a numeral that fills the characters: digits before a point, behind it, or both, and an
exponent. -/
def Numeral.ofChars? (cs : List Char) : Option Numeral :=
  let (whole, rest) := spanDigits cs
  let (fraction, rest) :=
    match rest with
    | '.' :: r => spanDigits r
    | r => ([], r)
  if whole.isEmpty && fraction.isEmpty then none
  else (exponent? rest).map fun x => ⟨digitsValue (whole ++ fraction), x - fraction.length⟩

/-! ## Integers -/

/-- The most digits that an integer text may have. -/
def maxDigits : Nat := 4300

inductive IntegerTextError where
  | malformed
  | tooLong (digits : Nat)
  deriving DecidableEq, Repr

/-- Reads the characters of an integer, which are ASCII where they matter. -/
def readIntegerChars (cs : List Char) : Except IntegerTextError Int :=
  let (negative, body) := splitSign (cs.dropWhile Text.isAsciiBlank)
  let inRun := fun c => Text.isAsciiDigit c || c == '_'
  match joinGroups? (body.takeWhile inRun) with
  | none => .error .malformed
  | some ds =>
    if maxDigits < ds.length then .error (.tooLong ds.length)
    else if ds.isEmpty || !(body.dropWhile inRun).all Text.isAsciiBlank then .error .malformed
    else .ok (signed negative (digitsValue ds))

def readInteger (s : String) : Except IntegerTextError Int :=
  readIntegerChars (asciiChars s)

/-- Reads a decimal integer from bytes, which have to be ASCII. -/
def readIntegerBytes (bs : List UInt8) : Except IntegerTextError Int :=
  if bs.all (· < 128) then readIntegerChars (bs.map Text.byteChar)
  else .error .malformed

end QueryWarden.Number
