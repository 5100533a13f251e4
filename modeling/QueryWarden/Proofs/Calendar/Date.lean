import Mathlib.Order.Monotone.Basic
import Mathlib.Tactic.SplitIfs
import QueryWarden.Calendar.Date

/-!
# Dates and day numbers

Counting days and finding the date of a count are inverse to each other
(`ofDayNumber?_eq_some_iff`).

1. The years tile the days: a day lies in the year `y` exactly when its number lies between
   `daysBeforeYear y` and `daysBeforeYear (y + 1)` (`eq_yearOfDayNumber`).
2. The months tile the days of a year: walking over the months from any one of them on finds the
   month and the day of an index (`monthAndDay_eq`), and what it finds has that index
   (`index_monthAndDay`).
-/

namespace QueryWarden

/-! ## Years -/

theorem isLeapYear_iff {y : Nat} :
    isLeapYear y = true ↔ y % 4 = 0 ∧ (y % 100 ≠ 0 ∨ y % 400 = 0) := by
  unfold isLeapYear
  rw [Bool.and_eq_true, Bool.or_eq_true, beq_iff_eq, bne_iff_ne, beq_iff_eq]

theorem daysBeforeYear_succ {y : Nat} (hy : 1 ≤ y) :
    daysBeforeYear (y + 1) = daysBeforeYear y + daysInYear y := by
  obtain ⟨k, rfl⟩ := Nat.exists_eq_add_of_le' hy
  have hle : k / 100 ≤ k / 4 := Nat.div_le_div_left (by decide) (by decide)
  unfold daysBeforeYear daysInYear
  rw [Nat.add_sub_cancel, Nat.add_sub_cancel, Nat.succ_div, Nat.succ_div, Nat.succ_div]
  -- The quotients grow by one at the multiples only.
  generalize k / 4 = a at *
  generalize k / 100 = b at *
  generalize k / 400 = c at *
  simp only [isLeapYear_iff, Nat.dvd_iff_mod_eq_zero]
  split_ifs <;> omega

theorem daysBeforeYear_mono : Monotone daysBeforeYear := by
  refine monotone_nat_of_le_succ fun y => ?_
  by_cases hy : 1 ≤ y
  · rw [daysBeforeYear_succ hy]
    exact Nat.le_add_right _ _
  · obtain rfl : y = 0 := by omega
    exact Nat.le_refl _

namespace Date

/-- The estimate from the mean length of a year is off by one year at most. -/
theorem yearOfDayNumber_spec (n : Nat) :
    1 ≤ yearOfDayNumber n ∧ daysBeforeYear (yearOfDayNumber n) ≤ n ∧
      n < daysBeforeYear (yearOfDayNumber n + 1) := by
  unfold yearOfDayNumber daysBeforeYear
  dsimp only
  split_ifs <;> omega

theorem eq_yearOfDayNumber {n y : Nat} (h₁ : daysBeforeYear y ≤ n)
    (h₂ : n < daysBeforeYear (y + 1)) : yearOfDayNumber n = y := by
  obtain ⟨-, hle, hlt⟩ := yearOfDayNumber_spec n
  rcases Nat.lt_trichotomy (yearOfDayNumber n) y with h | h | h
  · have hmono := daysBeforeYear_mono (show yearOfDayNumber n + 1 ≤ y by omega)
    omega
  · exact h
  · have hmono := daysBeforeYear_mono (show y + 1 ≤ yearOfDayNumber n by omega)
    omega

/-! ## Months -/

theorem daysBeforeMonth_succ (y : Nat) {m : Nat} (hm : 1 ≤ m) :
    daysBeforeMonth y (m + 1) = daysBeforeMonth y m + daysInMonth y m := by
  rw [daysBeforeMonth, if_neg (by omega)]

theorem daysBeforeMonth_mono (y : Nat) {m k : Nat} (hm : 1 ≤ m) (h : m ≤ k) :
    daysBeforeMonth y m ≤ daysBeforeMonth y k := by
  induction k, h using Nat.le_induction with
  | base => exact Nat.le_refl _
  | succ k hk ih =>
    rw [daysBeforeMonth_succ y (by omega)]
    omega

theorem daysBeforeMonth_thirteen (y : Nat) : daysBeforeMonth y 13 = daysInYear y := by
  by_cases h : isLeapYear y = true
  · simp [daysBeforeMonth, daysInMonth, daysInYear, h]
  · simp [daysBeforeMonth, daysInMonth, daysInYear, h]

theorem index_lt_daysInYear (d : Date) :
    daysBeforeMonth d.year d.month + (d.day - 1) < daysInYear d.year := by
  obtain ⟨-, -, hm, hm', hd, hd'⟩ := d.valid
  have hnext := daysBeforeMonth_succ d.year hm
  have hmono := daysBeforeMonth_mono d.year (show 1 ≤ d.month + 1 by omega)
    (show d.month + 1 ≤ 13 by omega)
  rw [daysBeforeMonth_thirteen] at hmono
  omega

theorem dayNumber_lt (d : Date) : d.dayNumber < 3652059 := by
  obtain ⟨hy, hy', -⟩ := d.valid
  have hindex := index_lt_daysInYear d
  have hmono := daysBeforeYear_mono (show d.year + 1 ≤ 10000 by omega)
  rw [daysBeforeYear_succ hy, show daysBeforeYear 10000 = 3652059 from rfl] at hmono
  unfold dayNumber
  omega

/-- The walk over the months stops in the month of a day. -/
theorem monthAndDay_eq {y left m k n day : Nat} (hm : 1 ≤ m) (hmk : m ≤ k) (hk : k ≤ m + left)
    (hn : daysBeforeMonth y m + n = daysBeforeMonth y k + (day - 1)) (hday : 1 ≤ day)
    (hday' : day ≤ daysInMonth y k) : monthAndDay y left m n = (k, day) := by
  induction left generalizing m n with
  | zero =>
    obtain rfl : k = m := by omega
    rw [monthAndDay, show n + 1 = day by omega]
  | succ left ih =>
    have hnext := daysBeforeMonth_succ y hm
    unfold monthAndDay
    by_cases h : k = m
    · subst h
      rw [if_pos (by omega), show n + 1 = day by omega]
    · have hmono := daysBeforeMonth_mono y (show 1 ≤ m + 1 by omega) (show m + 1 ≤ k by omega)
      rw [if_neg (by omega)]
      exact ih (by omega) (by omega) (by omega) (by omega)

theorem index_monthAndDay (y left : Nat) {m : Nat} (hm : 1 ≤ m) (n : Nat) :
    daysBeforeMonth y (monthAndDay y left m n).1 + ((monthAndDay y left m n).2 - 1) =
      daysBeforeMonth y m + n := by
  induction left generalizing m n with
  | zero => rfl
  | succ left ih =>
    unfold monthAndDay
    split_ifs with h
    · rfl
    · rw [ih (by omega), daysBeforeMonth_succ y hm]
      omega

/-! ## Dates -/

theorem ofParts?_eq_some {y m d : Nat} {date : Date} (h : ofParts? y m d = some date) :
    date.year = y ∧ date.month = m ∧ date.day = d := by
  unfold ofParts? at h
  split_ifs at h
  rw [← Option.some.inj h]
  exact ⟨rfl, rfl, rfl⟩

theorem ofParts?_parts (d : Date) : ofParts? d.year d.month d.day = some d := by
  unfold ofParts?
  rw [dif_pos d.valid]

theorem ofDayNumber?_dayNumber (d : Date) : ofDayNumber? d.dayNumber = some d := by
  obtain ⟨hy, -, hm, hm', hd, hd'⟩ := d.valid
  have hindex := index_lt_daysInYear d
  have hyear : yearOfDayNumber d.dayNumber = d.year := by
    refine eq_yearOfDayNumber ?_ ?_
    · unfold dayNumber
      omega
    · rw [daysBeforeYear_succ hy]
      unfold dayNumber
      omega
  have hmonth : monthAndDay d.year 11 1 (d.dayNumber - daysBeforeYear d.year) =
      (d.month, d.day) := by
    refine monthAndDay_eq (Nat.le_refl 1) hm (by omega) ?_ hd hd'
    unfold dayNumber
    simp only [daysBeforeMonth, if_true]
    omega
  unfold ofDayNumber?
  rw [if_neg (by omega)]
  dsimp only
  rw [Int.toNat_natCast, hyear, hmonth, ofParts?_parts]

theorem dayNumber_of_ofDayNumber? {n : Int} {d : Date} (h : ofDayNumber? n = some d) :
    (d.dayNumber : Int) = n := by
  unfold ofDayNumber? at h
  split_ifs at h with hn
  obtain ⟨hy, hm, hd⟩ := ofParts?_eq_some h
  obtain ⟨-, hle, -⟩ := yearOfDayNumber_spec n.toNat
  have hindex := index_monthAndDay (yearOfDayNumber n.toNat) 11 (Nat.le_refl 1)
    (n.toNat - daysBeforeYear (yearOfDayNumber n.toNat))
  simp only [daysBeforeMonth, if_true] at hindex
  unfold dayNumber
  rw [hy, hm, hd]
  omega

theorem ofDayNumber?_eq_some_iff {n : Int} {d : Date} :
    ofDayNumber? n = some d ↔ (d.dayNumber : Int) = n := by
  constructor
  · exact dayNumber_of_ofDayNumber?
  · rintro rfl
    exact ofDayNumber?_dayNumber d

end Date

end QueryWarden
