import QueryWarden.Calendar.DateTime
import QueryWarden.Text.Digits
import QueryWarden.Text.Utf8

/-!
# Reading ISO texts

`DateTime.ofIso?` reads the extended and the basic forms of ISO 8601: a calendar date or a week
date, one character of any kind, a time with a fraction after a point or a comma, and an offset.

The text is read as its UTF-8 units, one `Char` below U+0100 for each byte, since the place of the
character between date and time is counted in bytes.  Where the text ends a NUL is read, so that a
text with a NUL at its end reads as the text without it.
-/

namespace QueryWarden

namespace IsoReader

/-- The first unit, or NUL at the end. -/
def headUnit (cs : List Char) : Char :=
  cs.headD '\x00'

def takeDigits? (n : Nat) (cs : List Char) : Option (Nat × List Char) :=
  let ds := cs.take n
  if ds.length = n ∧ ds.all Text.isAsciiDigit = true then
    some (Text.ofDigits (ds.map fun c => c.toNat - 48), cs.drop n)
  else none

/-! ## Dates -/

/-- How many units the date takes up, judged by the fifth, sixth, ninth and eleventh unit. -/
def dateWidth? (cs : List Char) : Option Nat :=
  let unit := fun i => headUnit (cs.drop i)
  if cs.length = 7 then some 7
  else if unit 4 = '-' then
    if unit 5 = 'W' then
      if cs.length < 8 then none
      else if unit 8 = '-' then
        if cs.length = 9 then none
        else if Text.isAsciiDigit (unit 10) then some 8
        else some 10
      else some 8
    else some 10
  else if unit 4 = 'W' then
    let pos := 7 + ((cs.drop 7).takeWhile Text.isAsciiDigit).length
    if pos < 9 then some pos
    else if pos % 2 = 0 then some 7
    else some 8
  else some 8

/-- Reads the hyphen that stands between the parts of an extended form. -/
def hyphen? (extended : Bool) (cs : List Char) : Option (List Char) :=
  if extended then (if headUnit cs = '-' then some cs.tail else none) else some cs

/-- Reads the week and the day of a week date after the letter; the day may be missing at the end
of the date, `room` units after the letter. -/
def readWeek? (year : Nat) (extended : Bool) (room : Nat) (cs : List Char) : Option Date :=
  (takeDigits? 2 cs).bind fun (week, cs) =>
    if 2 < room then
      (hyphen? extended cs).bind fun cs =>
        (takeDigits? 1 cs).bind fun (day, _) => Date.ofWeek? year week day
    else Date.ofWeek? year week 1

/-- Reads a date of the given width at the start of the units. -/
def readDate? (width : Nat) (cs : List Char) : Option Date :=
  (takeDigits? 4 cs).bind fun (year, cs) =>
    let extended := headUnit cs == '-'
    let cs := if extended then cs.tail else cs
    if headUnit cs = 'W' then
      readWeek? year extended (width - (if extended then 6 else 5)) cs.tail
    else
      (takeDigits? 2 cs).bind fun (month, cs) =>
        (hyphen? extended cs).bind fun cs =>
          (takeDigits? 2 cs).bind fun (day, _) => Date.ofParts? year month day

/-! ## Times -/

/-- The parts of a time or an offset as they were read, and whether the text ended with them. -/
structure Clock where
  hour : Nat
  minute : Nat
  second : Nat
  microsecond : Nat
  atEnd : Bool
  deriving DecidableEq

/-- What follows the pairs of digits of a clock: its end, or a fraction within `room` units. -/
inductive ClockTail where
  | done (atEnd : Bool)
  | fraction (room : Nat) (cs : List Char)

/-- Reads up to `left` pairs of digits within `room` units.  The first pair decides whether colons
separate them. -/
def readPairs : Nat → Option Bool → Nat → List Char → Option (List Nat × ClockTail)
  | 0, _, room, cs => some ([], .fraction room cs)
  | left + 1, colons, room, cs =>
    (takeDigits? 2 cs).bind fun (v, rest) =>
      let c := headUnit rest
      let separated := colons.getD (c == ':')
      if room ≤ 3 then some ([v], .done (c == '\x00'))
      else if separated && c == ':' then
        (readPairs left (some separated) (room - 3) rest.tail).map fun (vs, t) => (v :: vs, t)
      else if c == '.' || c == ',' then some ([v], .fraction (room - 3) rest.tail)
      else if separated then none
      else (readPairs left (some separated) (room - 2) rest).map fun (vs, t) => (v :: vs, t)

/-- Reads the digits of a fraction: up to six count, and more are skipped. -/
def readFraction? (room : Nat) (cs : List Char) : Option (Nat × Bool) :=
  let n := min room 6
  (takeDigits? n cs).map fun (u, rest) =>
    (u * Number.pow10 (6 - n), headUnit (rest.dropWhile Text.isAsciiDigit) == '\x00')

/-- Reads hours, minutes, seconds and a fraction within `room` units. -/
def readClock? (room : Nat) (cs : List Char) : Option Clock :=
  (readPairs 3 none room cs).bind fun (vs, t) =>
    let clock := fun u atEnd => Clock.mk (vs.getD 0 0) (vs.getD 1 0) (vs.getD 2 0) u atEnd
    match t with
    | .done atEnd => some (clock 0 atEnd)
    | .fraction room cs => (readFraction? room cs).map fun (u, atEnd) => clock u atEnd

def startsOffset (c : Char) : Bool :=
  c == '+' || c == '-' || c == 'Z'

/-- The offset that a clock states; an offset without whole seconds is that of universal time. -/
def offsetOfClock? (negative : Bool) (c : Clock) : Option UtcOffset :=
  let seconds := c.hour * 3600 + c.minute * 60 + c.second
  if seconds = 0 then some .zero
  else UtcOffset.ofMicroseconds? (Number.signed negative (seconds * 1000000 + c.microsecond))

def readOffset? : List Char → Option UtcOffset
  | [] => none
  | 'Z' :: rest => if headUnit rest = '\x00' then some .zero else none
  | c :: rest =>
    (readClock? rest.length rest).bind fun clock =>
      if clock.atEnd then offsetOfClock? (c == '-') clock else none

def readTime? (cs : List Char) : Option (TimeOfDay × Option UtcOffset) :=
  let body := cs.takeWhile (!startsOffset ·)
  let tail := cs.dropWhile (!startsOffset ·)
  (readClock? body.length cs).bind fun clock =>
    (TimeOfDay.ofParts? clock.hour clock.minute clock.second clock.microsecond).bind fun t =>
      if tail.isEmpty then (if clock.atEnd then some (t, none) else none)
      else (readOffset? tail).map fun o => (t, some o)

/-- How many units the character that starts with the given unit has. -/
def unitsOfChar (c : Char) : Nat :=
  if c.toNat < 0x80 then 1
  else if c.toNat / 16 = 0xE then 3
  else if c.toNat / 16 = 0xF then 4
  else 2

/-- Reads a date and, when it does not fill the text, the time behind the next character. -/
def readUnits? (cs : List Char) : Option DateTime :=
  (dateWidth? cs).bind fun width =>
    (readDate? width cs).bind fun date =>
      let rest := cs.drop width
      if rest.isEmpty then some ⟨date, .midnight, none⟩
      else (readTime? (rest.drop (unitsOfChar (headUnit rest)))).map fun (t, o) => ⟨date, t, o⟩

end IsoReader

/-- Reads an ISO text of at least seven characters. -/
def DateTime.ofIso? (cs : List Char) : Option DateTime :=
  if cs.length < 7 then none else IsoReader.readUnits? (Text.utf8Units cs)

end QueryWarden
