import QueryWarden.Calendar.DateTime
import QueryWarden.Proofs.Calendar.Date

/-!
# Points on the time line

`DateTime.sinceEpoch` places a date-time on the line of microseconds, the start of 1970 in universal
time being zero.  On the date-times of universal time it is the inverse of counting from that start
(`ofEpochMicroseconds?_eq_some_iff`).
-/

namespace QueryWarden

namespace TimeOfDay

def sinceMidnight (t : TimeOfDay) : Nat :=
  ((t.hour * 60 + t.minute) * 60 + t.second) * 1000000 + t.microsecond

theorem sinceMidnight_lt (t : TimeOfDay) : t.sinceMidnight < 86400000000 := by
  obtain ⟨hh, hm, hs, hu⟩ := t.valid
  unfold sinceMidnight
  omega

theorem eq_of_parts {s t : TimeOfDay} (hh : s.hour = t.hour) (hm : s.minute = t.minute)
    (hs : s.second = t.second) (hu : s.microsecond = t.microsecond) : s = t := by
  cases s
  cases t
  cases hh
  cases hm
  cases hs
  cases hu
  rfl

theorem ofMicroseconds_sinceMidnight (t : TimeOfDay) : ofMicroseconds t.sinceMidnight = t := by
  obtain ⟨hh, hm, hs, hu⟩ := t.valid
  apply eq_of_parts
  all_goals
    unfold ofMicroseconds sinceMidnight
    dsimp only
    omega

theorem sinceMidnight_ofMicroseconds {u : Nat} (h : u < 86400000000) :
    (ofMicroseconds u).sinceMidnight = u := by
  unfold ofMicroseconds sinceMidnight
  dsimp only
  omega

end TimeOfDay

namespace DateTime

/-- The microseconds since the start of 1970 in universal time, to which a date-time without an
offset belongs. -/
def sinceEpoch (d : DateTime) : Int :=
  ((d.date.dayNumber : Int) - epochDayNumber) * microsecondsPerDay + d.time.sinceMidnight
    - (d.offset.getD .zero).microseconds

example : sinceEpoch ⟨⟨1970, 1, 1, by decide⟩, .midnight, some .zero⟩ = 0 := by decide

/-- The date-times of universal time are those of the points on the time line. -/
theorem ofEpochMicroseconds?_eq_some_iff {u : Int} {d : DateTime} :
    ofEpochMicroseconds? u = some d ↔ d.offset = some .zero ∧ d.sinceEpoch = u := by
  have hpos : (0 : Int) ≤ 86400000000 := by decide
  unfold ofEpochMicroseconds? sinceEpoch epochDayNumber microsecondsPerDay
  rw [Option.map_eq_some_iff, Int.fdiv_eq_ediv_of_nonneg _ hpos, Int.fmod_eq_emod_of_nonneg _ hpos]
  constructor
  · rintro ⟨date, hdate, rfl⟩
    have hday := Date.dayNumber_of_ofDayNumber? hdate
    have htime := TimeOfDay.sinceMidnight_ofMicroseconds (u := (u % 86400000000).toNat) (by omega)
    refine ⟨rfl, ?_⟩
    dsimp only [Option.getD_some, UtcOffset.zero]
    omega
  · rintro ⟨hoffset, hu⟩
    have hlt := d.time.sinceMidnight_lt
    rw [hoffset] at hu
    dsimp only [Option.getD_some, UtcOffset.zero] at hu
    have hday : u / 86400000000 + 719162 = d.date.dayNumber := by omega
    have htime : (u % 86400000000).toNat = d.time.sinceMidnight := by omega
    refine ⟨d.date, ?_, ?_⟩
    · rw [hday, Date.ofDayNumber?_dayNumber]
    · rw [htime, TimeOfDay.ofMicroseconds_sinceMidnight, ← hoffset]

theorem sinceEpoch_bounds {d : DateTime} (h : d.offset = some .zero) :
    -(719162 * 86400000000) ≤ d.sinceEpoch ∧ d.sinceEpoch < 2932897 * 86400000000 := by
  have hday := d.date.dayNumber_lt
  have htime := d.time.sinceMidnight_lt
  unfold sinceEpoch epochDayNumber microsecondsPerDay
  rw [h]
  dsimp only [Option.getD_some, UtcOffset.zero]
  omega

theorem exists_ofEpochMicroseconds? {d : DateTime} (h : d.offset = some .zero) {n : Nat}
    (hn : n < 86400000000) :
    ∃ d', ofEpochMicroseconds? (d.sinceEpoch - d.time.sinceMidnight + n) = some d' := by
  refine ⟨⟨d.date, .ofMicroseconds n, some .zero⟩,
    ofEpochMicroseconds?_eq_some_iff.mpr ⟨rfl, ?_⟩⟩
  unfold sinceEpoch
  rw [h, TimeOfDay.sinceMidnight_ofMicroseconds hn]
  dsimp only [Option.getD_some, UtcOffset.zero]
  omega

end DateTime

end QueryWarden
