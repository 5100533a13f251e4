/-!
# Calendar dates

Dates of the Gregorian calendar in the years 1 to 9999.  Days are also counted from the first of
January of the year 1: `Date.dayNumber` gives the count of a date and `Date.ofDayNumber?` the date
of a count.
-/

namespace QueryWarden

def isLeapYear (y : Nat) : Bool :=
  y % 4 == 0 && (y % 100 != 0 || y % 400 == 0)

def daysInMonth (y m : Nat) : Nat :=
  if m = 2 then (if isLeapYear y then 29 else 28)
  else if m = 4 ∨ m = 6 ∨ m = 9 ∨ m = 11 then 30
  else 31

def daysInYear (y : Nat) : Nat :=
  if isLeapYear y then 366 else 365

/-- The number of days of the years 1 to `y - 1`. -/
def daysBeforeYear (y : Nat) : Nat :=
  365 * (y - 1) + (y - 1) / 4 - (y - 1) / 100 + (y - 1) / 400

/-- The number of days of the year `y` before the month `m`. -/
def daysBeforeMonth (y : Nat) : Nat → Nat
  | 0 => 0
  | m + 1 => if m = 0 then 0 else daysBeforeMonth y m + daysInMonth y m

/-- The days of the years 1 to 9999. -/
def IsDate (year month day : Nat) : Prop :=
  1 ≤ year ∧ year ≤ 9999 ∧ 1 ≤ month ∧ month ≤ 12 ∧ 1 ≤ day ∧ day ≤ daysInMonth year month

instance (y m d : Nat) : Decidable (IsDate y m d) :=
  inferInstanceAs (Decidable (_ ∧ _))

/-- A day of the years 1 to 9999. -/
structure Date where
  year : Nat
  month : Nat
  day : Nat
  valid : IsDate year month day
  deriving DecidableEq

namespace Date

def ofParts? (y m d : Nat) : Option Date :=
  if h : IsDate y m d then some ⟨y, m, d, h⟩ else none

/-- The number of days since the first of January of the year 1. -/
def dayNumber (d : Date) : Nat :=
  daysBeforeYear d.year + daysBeforeMonth d.year d.month + (d.day - 1)

/-- The month and the day of the month of the day with index `n`, counted from the first of month
`m`; the months that are left bound the search. -/
def monthAndDay (y : Nat) : Nat → Nat → Nat → Nat × Nat
  | 0, m, n => (m, n + 1)
  | left + 1, m, n =>
    if n < daysInMonth y m then (m, n + 1)
    else monthAndDay y left (m + 1) (n - daysInMonth y m)

/-- The year that holds the day with number `n`: an estimate from the mean length of a year,
corrected by one where it is off. -/
def yearOfDayNumber (n : Nat) : Nat :=
  let y := n * 400 / 146097 + 1
  if n < daysBeforeYear y then y - 1
  else if daysBeforeYear (y + 1) ≤ n then y + 1
  else y

/-- The date that lies `n` days after the first of January of the year 1, up to the year 9999. -/
def ofDayNumber? (n : Int) : Option Date :=
  if n < 0 then none
  else
    let y := yearOfDayNumber n.toNat
    let p := monthAndDay y 11 1 (n.toNat - daysBeforeYear y)
    ofParts? y p.1 p.2

/-! ## Weeks -/

/-- The day of the week of the first of January, where Monday is 0. -/
def weekdayOfNewYear (y : Nat) : Nat :=
  daysBeforeYear y % 7

/-- Whether a year has a week 53: its first day is a Thursday, or a Wednesday in a leap year. -/
def hasLongWeekYear (y : Nat) : Bool :=
  weekdayOfNewYear y == 3 || (weekdayOfNewYear y == 2 && isLeapYear y)

/-- The number of the Monday that starts week 1, the week that holds the first Thursday. -/
def firstMonday (y : Nat) : Int :=
  let start : Int := (daysBeforeYear y : Int) - weekdayOfNewYear y
  if weekdayOfNewYear y > 3 then start + 7 else start

/-- The date of a day of a week, where the day 1 is the Monday. -/
def ofWeek? (y week day : Nat) : Option Date :=
  if y = 0 then none
  else if week = 0 ∨ 53 < week ∨ (week = 53 ∧ hasLongWeekYear y = false) then none
  else if day = 0 ∨ 7 < day then none
  else ofDayNumber? (firstMonday y + ((week - 1) * 7 + (day - 1) : Nat))

end Date

end QueryWarden
