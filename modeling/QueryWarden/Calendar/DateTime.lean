import QueryWarden.Calendar.Date
import QueryWarden.Double.Basic
import QueryWarden.Text.Digits

/-!
# Points in time

A `DateTime` is a date, a time of day to the microsecond, and an offset from universal time when
one is known.  `ofEpochMicroseconds?` counts from the start of 1970 in universal time, and
`ofEpochMilliseconds?` takes a double: the quotient by a thousand is a double of seconds, whose
fraction is rounded to microseconds, a tie to the even one.

A date is written `YYYY-MM-DD` and a date-time `YYYY-MM-DDTHH:MM:SS`, with six digits of a
fraction when the microseconds are not zero and the offset at the end when it is known.  An offset
has seconds and a fraction only when they are not zero.
-/

namespace QueryWarden

def IsTimeOfDay (hour minute second microsecond : Nat) : Prop :=
  hour < 24 ∧ minute < 60 ∧ second < 60 ∧ microsecond < 1000000

instance (h m s u : Nat) : Decidable (IsTimeOfDay h m s u) :=
  inferInstanceAs (Decidable (_ ∧ _))

/-- A time of day to the microsecond. -/
structure TimeOfDay where
  hour : Nat
  minute : Nat
  second : Nat
  microsecond : Nat
  valid : IsTimeOfDay hour minute second microsecond
  deriving DecidableEq

namespace TimeOfDay

def ofParts? (h m s u : Nat) : Option TimeOfDay :=
  if v : IsTimeOfDay h m s u then some ⟨h, m, s, u, v⟩ else none

def midnight : TimeOfDay := ⟨0, 0, 0, 0, by decide⟩

/-- The time that lies `u` microseconds after midnight, whole days left out. -/
def ofMicroseconds (u : Nat) : TimeOfDay where
  hour := u / 3600000000 % 24
  minute := u / 60000000 % 60
  second := u / 1000000 % 60
  microsecond := u % 1000000
  valid := by unfold IsTimeOfDay; omega

end TimeOfDay

/-- An offset from universal time in microseconds, shorter than a day. -/
structure UtcOffset where
  microseconds : Int
  bounded : microseconds.natAbs < 86400000000
  deriving DecidableEq

def UtcOffset.zero : UtcOffset := ⟨0, by decide⟩

/-- The offset of the given number of microseconds, if it is shorter than a day. -/
def UtcOffset.ofMicroseconds? (u : Int) : Option UtcOffset :=
  if h : u.natAbs < 86400000000 then some ⟨u, h⟩ else none

/-- A date and a time of day, with the offset from universal time when it is known. -/
structure DateTime where
  date : Date
  time : TimeOfDay
  offset : Option UtcOffset
  deriving DecidableEq

namespace DateTime

/-- The day number of the first of January 1970. -/
def epochDayNumber : Int := 719162

def microsecondsPerDay : Int := 86400000000

/-- The point in universal time that lies `u` microseconds after the start of 1970. -/
def ofEpochMicroseconds? (u : Int) : Option DateTime :=
  (Date.ofDayNumber? (u.fdiv microsecondsPerDay + epochDayNumber)).map fun d =>
    ⟨d, .ofMicroseconds (u.fmod microsecondsPerDay).toNat, some .zero⟩

/-- The microseconds in `x` seconds: whole seconds, and the fraction rounded. -/
def microsecondsOfSeconds? (x : Double) : Option Int :=
  match x.truncate?, x.scaledFraction? 1000000 with
  | some whole, some fraction => some (whole * 1000000 + fraction)
  | _, _ => none

/-- The point in universal time that lies `x` milliseconds after the start of 1970. -/
def ofEpochMilliseconds? (x : Double) : Option DateTime :=
  (microsecondsOfSeconds? (x.mulRatio 1 1000)).bind ofEpochMicroseconds?

/-- Reads a date-time without an offset as one in universal time. -/
def inUniversalTime (d : DateTime) : DateTime :=
  { d with offset := some (d.offset.getD .zero) }

end DateTime

/-! ## ISO texts -/

/-- The text `YYYY-MM-DD`. -/
def Date.isoChars (d : Date) : List Char :=
  Text.paddedDigits 4 d.year ++ '-' :: (Text.paddedDigits 2 d.month
    ++ '-' :: Text.paddedDigits 2 d.day)

def Date.toIso (d : Date) : String :=
  String.ofList d.isoChars

/-- A fraction of six digits behind a point, or nothing for zero. -/
def fractionChars (u : Nat) : List Char :=
  if u = 0 then [] else '.' :: Text.paddedDigits 6 u

/-- The text `HH:MM:SS`, with a fraction when there is one. -/
def TimeOfDay.isoChars (t : TimeOfDay) : List Char :=
  Text.paddedDigits 2 t.hour ++ ':' :: (Text.paddedDigits 2 t.minute
    ++ ':' :: (Text.paddedDigits 2 t.second ++ fractionChars t.microsecond))

/-- The text `+HH:MM` or `-HH:MM`, with seconds and a fraction when they are not zero. -/
def UtcOffset.isoChars (o : UtcOffset) : List Char :=
  let u := o.microseconds.natAbs
  (if o.microseconds < 0 then '-' else '+')
    :: (Text.paddedDigits 2 (u / 3600000000) ++ ':' :: (Text.paddedDigits 2 (u / 60000000 % 60)
      ++ if u % 60000000 = 0 then []
        else ':' :: (Text.paddedDigits 2 (u / 1000000 % 60) ++ fractionChars (u % 1000000))))

/-- The date, a separator, the time, and the offset when it is known. -/
def DateTime.isoChars (separator : Char) (d : DateTime) : List Char :=
  d.date.isoChars ++ separator :: (d.time.isoChars ++ (d.offset.map (·.isoChars)).getD [])

/-- The text with a `T` between date and time. -/
def DateTime.toIso (d : DateTime) : String :=
  String.ofList (d.isoChars 'T')

end QueryWarden
