/-!
# Digits

The decimal digits of Unicode 14 come in blocks of ten, from zero to nine.  `digitValue?` reads
one digit of any script.

A `HexId n` is an identifier of `n` hexadecimal digits.  It is read from digits of either case
and written in lower case.
-/

namespace QueryWarden.Text

/-! ## Decimal digits -/

/-- The zeros of the blocks of decimal digits. -/
def digitZeros : List Nat :=
  [
    0x30, 0x660, 0x6F0, 0x7C0, 0x966, 0x9E6, 0xA66, 0xAE6, 0xB66, 0xBE6, 0xC66, 0xCE6, 0xD66,
    0xDE6, 0xE50, 0xED0, 0xF20, 0x1040, 0x1090, 0x17E0, 0x1810, 0x1946, 0x19D0, 0x1A80, 0x1A90,
    0x1B50, 0x1BB0, 0x1C40, 0x1C50, 0xA620, 0xA8D0, 0xA900, 0xA9D0, 0xA9F0, 0xAA50, 0xABF0,
    0xFF10, 0x104A0, 0x10D30, 0x11066, 0x110F0, 0x11136, 0x111D0, 0x112F0, 0x11450, 0x114D0,
    0x11650, 0x116C0, 0x11730, 0x118E0, 0x11950, 0x11C50, 0x11D50, 0x11DA0, 0x16A60, 0x16AC0,
    0x16B50, 0x1D7CE, 0x1D7D8, 0x1D7E2, 0x1D7EC, 0x1D7F6, 0x1E140, 0x1E2F0, 0x1E950, 0x1FBF0]

def digitValue? (c : Char) : Option Nat :=
  (digitZeros.find? fun z => z ≤ c.toNat && c.toNat ≤ z + 9).map (c.toNat - ·)

def isAsciiDigit (c : Char) : Bool :=
  '0' ≤ c && c ≤ '9'

/-- The number that a list of digit values writes in base ten, the leading digit first. -/
def ofDigits (ds : List Nat) : Nat :=
  ds.foldl (fun n d => 10 * n + d) 0

/-- The ASCII decimal digits of a number, without leading zeros. -/
def digits (n : Nat) : List Char :=
  Nat.toDigits 10 n

/-- The decimal digits of a number, filled with zeros on the left to at least `width`. -/
def paddedDigits (width n : Nat) : List Char :=
  List.replicate (width - (digits n).length) '0' ++ digits n

end QueryWarden.Text

namespace QueryWarden

/-! ## Hexadecimal digits -/

/-- The value of a hexadecimal digit of either case. -/
def hexValue? (c : Char) : Option (Fin 16) :=
  if '0' ≤ c ∧ c ≤ '9' then some (Fin.ofNat 16 (c.toNat - 48))
  else if 'a' ≤ c ∧ c ≤ 'f' then some (Fin.ofNat 16 (c.toNat - 87))
  else if 'A' ≤ c ∧ c ≤ 'F' then some (Fin.ofNat 16 (c.toNat - 55))
  else none

def hexChar (d : Fin 16) : Char :=
  Char.ofNat (if d.val < 10 then d.val + 48 else d.val + 87)

/-- An identifier of `n` hexadecimal digits. -/
structure HexId (n : Nat) where
  digits : List (Fin 16)
  length_eq : digits.length = n
  deriving DecidableEq

namespace HexId

/-- Reads exactly `n` hexadecimal digits.  The driver of the database also takes a text of 24
characters with white space between the bytes, as an identifier of fewer bytes; such texts are left out
here and count as no identifier. -/
def ofText? (n : Nat) (s : String) : Option (HexId n) :=
  (s.toList.mapM hexValue?).bind fun ds =>
    if h : ds.length = n then some ⟨ds, h⟩ else none

def toText {n : Nat} (x : HexId n) : String :=
  String.ofList (x.digits.map hexChar)

def toNat {n : Nat} (x : HexId n) : Nat :=
  x.digits.foldl (fun v d => 16 * v + d.val) 0

end HexId

/-- The identifier that the database gives a document. -/
abbrev ObjectId := HexId 24

abbrev Uuid := HexId 32

/-- The groups of 8, 4, 4, 4 and 12 digits, joined by hyphens. -/
def HexId.dashed (x : Uuid) : String :=
  let cs := x.digits.map hexChar
  String.ofList (cs.take 8 ++ '-' :: ((cs.drop 8).take 4 ++ '-' :: ((cs.drop 12).take 4
    ++ '-' :: ((cs.drop 16).take 4 ++ '-' :: cs.drop 20))))

end QueryWarden
