import QueryWarden.Double.Text
import QueryWarden.Number.Numeral
import QueryWarden.Text.Utf8
import QueryWarden.Value.Basic

/-!
# Reading JSON

`Json.read` reads one JSON value that fills a text.  Beside the standard it takes the words `NaN`,
`Infinity` and `-Infinity`; of an object with a repeated key the last value stands, in the place
of the first.  A refused text comes with the offset of the character where reading stopped; an
integer of more than `Number.maxDigits` digits is refused for its length.

The readers work on the list of characters that are left.  Their errors name the number of
characters left at the faulty place, which `Json.read` turns into an offset.
-/

namespace QueryWarden.Json

/-- Why a text is refused. -/
inductive ReadError where
  /-- The text breaks the grammar at a place, counted in characters. -/
  | malformed (place : Nat)
  | integerTooLong
  deriving DecidableEq, Repr

/-- A value and the characters behind it, or the reason for refusing them. -/
abbrev Reading (α : Type) := Except ReadError (α × List Char)

/-- Refuses a text where the given characters are left. -/
def refuse {α : Type} (left : List Char) : Reading α :=
  .error (.malformed left.length)

/-- The blank characters of JSON. -/
def isBlank (c : Char) : Bool :=
  c == ' ' || c == '\t' || c == '\n' || c == '\r'

def skipBlank (cs : List Char) : List Char :=
  cs.dropWhile isBlank

/-! ## Strings -/

/-- The number that four hexadecimal digits write. -/
def hexUnit? (a b c d : Char) : Option Nat :=
  match hexValue? a, hexValue? b, hexValue? c, hexValue? d with
  | some a, some b, some c, some d => some (((a.val * 16 + b.val) * 16 + c.val) * 16 + d.val)
  | _, _, _, _ => none

/-- The character that a backslash and a letter stand for. -/
def escapedChar? (c : Char) : Option Char :=
  if c == '\x22' || c == '\\' || c == '/' then some c
  else if c == 'b' then some '\x08'
  else if c == 'f' then some '\x0c'
  else if c == 'n' then some '\n'
  else if c == 'r' then some '\r'
  else if c == 't' then some '\t'
  else none

/-- Reads a code unit behind its letter, and with it the second half of a surrogate pair unless
the text ends with that half. -/
def readUnit (cs : List Char) : Reading Char :=
  match cs with
  | a :: b :: c :: d :: e :: rest =>
    match hexUnit? a b c d with
    | none => refuse ('u' :: cs)
    | some u =>
      match Text.isHighSurrogate u, e :: rest with
      | true, '\\' :: 'u' :: a' :: b' :: c' :: d' :: e' :: rest' =>
        match hexUnit? a' b' c' d' with
        | none => refuse rest
        | some u' =>
          if Text.isLowSurrogate u' then .ok (Text.pairChar u u', e' :: rest')
          else .ok (Text.charOrReplacement u, e :: rest)
      | _, _ => .ok (Text.charOrReplacement u, e :: rest)
  | _ => refuse ('u' :: cs)

/-- Reads the next character of a string, or its closing mark; `opening` are the characters from
the opening mark on. -/
def nextChar (opening : List Char) : List Char → Reading (Option Char)
  | [] => refuse opening
  | '\x22' :: rest => .ok (none, rest)
  | '\\' :: [] => refuse opening
  | '\\' :: 'u' :: rest => (readUnit rest).map fun (c, rest) => (some c, rest)
  | '\\' :: c :: rest =>
    match escapedChar? c with
    | some x => .ok (some x, rest)
    | none => refuse ('\\' :: c :: rest)
  | c :: rest => if c.toNat < 0x20 then refuse (c :: rest) else .ok (some c, rest)

/-- Reads the characters of a string up to its closing mark. -/
def readChars (opening : List Char) : Nat → List Char → Reading (List Char)
  | 0, _ => refuse opening
  | fuel + 1, cs =>
    match nextChar opening cs with
    | .error e => .error e
    | .ok (none, rest) => .ok ([], rest)
    | .ok (some c, rest) => (readChars opening fuel rest).map fun (s, rest) => (c :: s, rest)

/-- Reads a string behind its opening mark. -/
def readString (cs : List Char) : Reading String :=
  (readChars ('\x22' :: cs) (cs.length + 1) cs).map fun (s, rest) => (String.ofList s, rest)

/-! ## Numbers and words -/

/-- The digits of an integer part: a zero alone, or digits that start with another one. -/
def wholeDigits (cs : List Char) : List Char :=
  match cs with
  | '0' :: _ => ['0']
  | cs => cs.takeWhile Text.isAsciiDigit

/-- The digits of a fraction, which a point introduces. -/
def fractionDigits (cs : List Char) : List Char :=
  match cs with
  | '.' :: rest => rest.takeWhile Text.isAsciiDigit
  | _ => []

/-- Reads a number: an integer unless it has a fraction or an exponent. -/
def readNumber (cs : List Char) : Reading Value :=
  let (negative, body) :=
    match cs with
    | '-' :: rest => (true, rest)
    | rest => (false, rest)
  let whole := wholeDigits body
  let afterWhole := body.drop whole.length
  let fraction := fractionDigits afterWhole
  let afterFraction := if fraction.isEmpty then afterWhole else afterWhole.drop (fraction.length + 1)
  let double := fun x =>
    Value.float (.ofDecimal negative (Number.digitsValue (whole ++ fraction))
      (x - (fraction.length : Int)))
  if whole.isEmpty then refuse cs
  else match Number.readExponent? afterFraction with
    | some (x, rest) => .ok (double x, rest)
    | none =>
      if !fraction.isEmpty then .ok (double 0, afterFraction)
      else if Number.maxDigits < whole.length then .error .integerTooLong
      else .ok (.int (Number.signed negative (Number.digitsValue whole)), afterFraction)

def words : List (String × Value) :=
  [("null", .null), ("true", .bool true), ("false", .bool false), ("NaN", .float .nan),
    ("Infinity", .float (.infinite false)), ("-Infinity", .float (.infinite true))]

/-- The rest of the characters behind a word that starts them. -/
def behind? : List Char → List Char → Option (List Char)
  | [], cs => some cs
  | _ :: _, [] => none
  | w :: ws, c :: cs => if w == c then behind? ws cs else none

def readAtom (cs : List Char) : Reading Value :=
  match words.findSome? fun (w, v) => (behind? w.toList cs).map fun rest => (v, rest) with
  | some r => .ok r
  | none => readNumber cs

/-! ## Values -/

mutual

def readValue : Nat → List Char → Reading Value
  | 0, cs => refuse cs
  | fuel + 1, cs =>
    match cs with
    | [] => refuse []
    | '\x22' :: rest => (readString rest).map fun (s, r) => (.string s, r)
    | '[' :: rest =>
      match skipBlank rest with
      | ']' :: r => .ok (.list [], r)
      | r => (readItems fuel r).map fun (vs, r) => (.list vs, r)
    | '\x7b' :: rest =>
      match skipBlank rest with
      | '\x7d' :: r => .ok (.map [], r)
      | r => (readMembers fuel r).map fun (es, r) => (.map (Fields.ofEntries es), r)
    | _ => readAtom cs

/-- Reads the items of a list from its first one to the closing bracket. -/
def readItems : Nat → List Char → Reading (List Value)
  | 0, cs => refuse cs
  | fuel + 1, cs =>
    (readValue fuel cs).bind fun (v, r) =>
      match skipBlank r with
      | ']' :: r => .ok ([v], r)
      | ',' :: r => (readItems fuel (skipBlank r)).map fun (vs, r) => (v :: vs, r)
      | r => refuse r

/-- Reads the members of an object from its first key to the closing brace. -/
def readMembers : Nat → List Char → Reading (List (String × Value))
  | 0, cs => refuse cs
  | fuel + 1, cs =>
    match cs with
    | '\x22' :: rest =>
      (readString rest).bind fun (k, r) =>
        match skipBlank r with
        | ':' :: r =>
          (readValue fuel (skipBlank r)).bind fun (v, r) =>
            match skipBlank r with
            | '\x7d' :: r => .ok ([(k, v)], r)
            | ',' :: r => (readMembers fuel (skipBlank r)).map fun (es, r) => ((k, v) :: es, r)
            | r => refuse r
        | r => refuse r
    | _ => refuse cs

end

/-- Reads a value that fills the characters, blank ones around it left out. -/
def readAll (cs : List Char) : Except ReadError Value := do
  let (v, r) ← readValue (2 * cs.length + 2) (skipBlank cs)
  match skipBlank r with
  | [] => .ok v
  | left => .error (.malformed left.length)

/-- The error with its place counted from the start of a text of the given length. -/
def ReadError.fromStart (length : Nat) : ReadError → ReadError
  | .malformed left => .malformed (length - left)
  | .integerTooLong => .integerTooLong

/-- Reads the JSON value that a text holds. -/
def read (s : String) : Except ReadError Value :=
  (readAll s.toList).mapError (·.fromStart s.length)

end QueryWarden.Json
