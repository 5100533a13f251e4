/-!
# UTF-8 and surrogates

Code points from U+10000 on are written as a pair of surrogates where units have 16 bits.  A
surrogate is no character, so one that stands alone is replaced by U+FFFD.

`utf8Text?` reads a byte string as UTF-8 and refuses overlong forms, surrogates and code points
beyond U+10FFFF.  `utf8Units` is the encoded text with one character below U+0100 for each byte.
`utf8Lossy` reads any byte string: where it is not UTF-8, the longest start of a character that
the bytes give, or else a single byte, is replaced.
-/

namespace QueryWarden.Text

/-! ## Surrogates -/

/-- Whether a unit is the first of a pair of surrogates. -/
def isHighSurrogate (u : Nat) : Bool :=
  0xD800 ≤ u && u < 0xDC00

/-- Whether a unit is the second of a pair of surrogates. -/
def isLowSurrogate (u : Nat) : Bool :=
  0xDC00 ≤ u && u < 0xE000

/-- The character that stands for what is no character. -/
def replacement : Char :=
  Char.ofNat 0xFFFD

/-- The character of a code point, or the replacement for one that is no character. -/
def charOrReplacement (n : Nat) : Char :=
  if n.isValidChar then Char.ofNat n else replacement

def pairChar (high low : Nat) : Char :=
  charOrReplacement (0x10000 + (high - 0xD800) * 0x400 + (low - 0xDC00))

/-! ## Encoding and reading -/

def utf8Text? (bs : List UInt8) : Option String :=
  String.fromUTF8? ⟨bs.toArray⟩

def byteChar (b : UInt8) : Char :=
  Char.ofNat b.toNat

def utf8Units (cs : List Char) : List Char :=
  cs.flatMap fun c => (String.utf8EncodeChar c).map byteChar

/-! ## Reading with replacements -/

/-- A character of which some bytes were read: how many bytes it is owed, the least and the
greatest byte that may come next, and the bits of its code so far. -/
structure PartialChar where
  owed : Nat
  least : Nat
  greatest : Nat
  code : Nat

/-- The character that a byte beyond ASCII starts.  The bounds of the second byte leave out
overlong forms, surrogates and code points beyond U+10FFFF. -/
def PartialChar.ofFirst? (b : Nat) : Option PartialChar :=
  if 0xC2 ≤ b ∧ b ≤ 0xDF then some ⟨1, 0x80, 0xBF, b - 0xC0⟩
  else if b = 0xE0 then some ⟨2, 0xA0, 0xBF, 0⟩
  else if b = 0xED then some ⟨2, 0x80, 0x9F, 0xD⟩
  else if 0xE1 ≤ b ∧ b ≤ 0xEF then some ⟨2, 0x80, 0xBF, b - 0xE0⟩
  else if b = 0xF0 then some ⟨3, 0x90, 0xBF, 0⟩
  else if 0xF1 ≤ b ∧ b ≤ 0xF3 then some ⟨3, 0x80, 0xBF, b - 0xF0⟩
  else if b = 0xF4 then some ⟨3, 0x80, 0x8F, 4⟩
  else none

/-- The characters that a byte between characters completes, and the one that it starts. -/
def startChar (b : Nat) : List Char × Option PartialChar :=
  if b < 0x80 then ([Char.ofNat b], none)
  else match PartialChar.ofFirst? b with
    | some p => ([], some p)
    | none => ([replacement], none)

/-- The characters that the next byte completes, and the one that is left to complete. -/
def PartialChar.advance (p : PartialChar) (b : Nat) : List Char × Option PartialChar :=
  if p.least ≤ b ∧ b ≤ p.greatest then
    let code := 64 * p.code + (b - 0x80)
    if p.owed = 1 then ([Char.ofNat code], none) else ([], some ⟨p.owed - 1, 0x80, 0xBF, code⟩)
  else
    let started := startChar b
    (replacement :: started.1, started.2)

/-- The characters of bytes behind the start of a character. -/
def lossyChars : Option PartialChar → List Nat → List Char
  | none, [] => []
  | some _, [] => [replacement]
  | p, b :: bs =>
    let next := match p with
      | some p => p.advance b
      | none => startChar b
    next.1 ++ lossyChars next.2 bs

def utf8Lossy (bs : List Nat) : String :=
  String.ofList (lossyChars none bs)

end QueryWarden.Text
