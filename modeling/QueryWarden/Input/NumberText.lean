import QueryWarden.Double.Text
import QueryWarden.Failure.Basic
import QueryWarden.Text.Blank

/-!
# Lenient number texts

`integerOfText` and `doubleOfText` read the texts that may stand for a number in typed input.

An integer is first brought into a plain form: white space around it, a plus sign, the zeros in
front and a fraction of zeros are dropped, and so are underscores that stand alone between other
characters.  Underscores among the zeros in front go with them, however many there are, and a
minus sign may stand behind those zeros too.  The plain form has to be an integer of JSON, of at
most `maxIntegerLength` characters.

A double is read as it stands, without white space around it.  Only where that fails are the
underscores dropped, and then the white space counts.
-/

namespace QueryWarden.Input

/-! ## Underscores -/

/-- Whether no two underscores stand side by side. -/
def underscoresApart : List Char → Bool
  | '_' :: '_' :: _ => false
  | _ :: cs => underscoresApart cs
  | [] => true

/-- Whether every underscore stands alone between two other characters. -/
def underscoresInside (cs : List Char) : Bool :=
  cs.head? != some '_' && cs.getLast? != some '_' && underscoresApart cs

/-- Drops the underscores, each of which has to stand alone between two other characters. -/
def dropUnderscores? (cs : List Char) : Option (List Char) :=
  if underscoresInside cs then some (cs.filter (· != '_')) else none

/-! ## Integers -/

/-- Drops zeros and underscores behind a dropped character `last`, up to another digit or a minus
sign.  The last dropped character stays before a point, and where nothing follows. -/
def dropZerosAfter (last : Char) : List Char → Option (List Char)
  | [] => some [last]
  | c :: cs =>
    if c == '0' || c == '_' then dropZerosAfter c cs
    else if Text.isAsciiDigit c || c == '-' then some (c :: cs)
    else if c == '.' then some (last :: c :: cs)
    else none

/-- Drops the zeros in front of a number, which has to start with a digit. -/
def dropLeadingZeros? : List Char → Option (List Char)
  | '0' :: cs => dropZerosAfter '0' cs
  | c :: cs => if Text.isAsciiDigit c then some (c :: cs) else none
  | [] => none

/-- Drops a fraction of zeros with its point. -/
def dropZeroFraction (cs : List Char) : List Char :=
  let fraction := Text.behind '.' cs
  if !fraction.isEmpty && fraction.all (· == '0') then Text.before '.' cs else cs

def plainInteger? (cs : List Char) : Option (List Char) :=
  let (negative, body) := Number.splitSign (Text.trimBoth Text.isUnicodeSpace cs)
  (dropLeadingZeros? body).map fun cs =>
    let cs := dropZeroFraction cs
    let cs := (dropUnderscores? cs).getD cs
    if negative then '-' :: cs else cs

/-- The most characters of the plain form of an integer. -/
def maxIntegerLength : Nat := 4300

/-- Whether a digit follows a zero in front. -/
def hasLeadingZero : List Char → Bool
  | '0' :: _ :: _ => true
  | _ => false

def readPlainInteger (cs : List Char) : Except Complaint Int :=
  let (negative, body) :=
    match cs with
    | '-' :: rest => (true, rest)
    | rest => (false, rest)
  let (ds, rest) := Number.spanDigits body
  if ds.isEmpty || hasLeadingZero ds then .error .unreadableInteger
  else if maxIntegerLength < cs.length - rest.length then .error .hugeInteger
  else if !rest.isEmpty then .error .unreadableInteger
  else .ok (Number.signed negative (Number.digitsValue ds))

def integerOfText (s : String) : Except Complaint Int :=
  match plainInteger? s.toList with
  | some cs => readPlainInteger cs
  | none => .error .unreadableInteger

/-! ## Doubles -/

/-- Reads a double with its sign: a numeral, or a word. -/
def doubleOfChars? (cs : List Char) : Option Double :=
  let (negative, body) := Number.splitSign cs
  (Double.ofNumeral? negative body).orElse fun _ => Double.ofWord? negative body

def doubleOfText (s : String) : Except Complaint Double :=
  let read := (doubleOfChars? (Text.trimBoth Text.isUnicodeSpace s.toList)).orElse fun _ =>
    (dropUnderscores? s.toList).bind doubleOfChars?
  match read with
  | some x => .ok x
  | none => .error .unreadableNumber

end QueryWarden.Input
