import QueryWarden.ExtendedJson.Decode
import QueryWarden.ExtendedJson.Encode
import QueryWarden.Proofs.Calendar.Instant
import QueryWarden.Proofs.Calendar.IsoText
import QueryWarden.Proofs.Calendar.Milliseconds
import QueryWarden.Proofs.Text.Trim

/-!
# Dates in extended JSON

A date tag with the text of a date-time decodes to it, whichever its offset, as far as the offset
has whole seconds; a missing offset becomes that of universal time (`decode_encode_dateTime`).

A date tag with milliseconds, as a number or as a tagged text, goes through a double of seconds.
It decodes to the point in time that the ISO text with milliseconds gives exactly when that double
is close enough, and is off by 15 microseconds at most in any case (`decode_date_forms`).
-/

namespace QueryWarden.ExtendedJson

open Text

/-! ## Texts -/

theorem spellOffset_stripChars {marks cs : List Char} (h : WrittenIn marks cs)
    (hblank : marks.Forall fun c => isBlank c = false) (hz : 'Z' ∉ marks) :
    spellOffset (stripChars cs) = cs := by
  have hlast : cs.getLast? ≠ some 'Z' := by
    intro hlast
    rcases h 'Z' (List.mem_of_getLast? hlast) with hdigit | hmark
    · exact absurd hdigit (by decide)
    · exact hz hmark
  rw [stripChars_eq_self (h.forall_mem (by decide) hblank), spellOffset, if_neg hlast]

/-- A `Z` at the end is spelled as the offset of universal time. -/
theorem spellOffset_stripChars_concat {marks cs : List Char} (h : WrittenIn marks cs)
    (hblank : marks.Forall fun c => isBlank c = false) :
    spellOffset (stripChars (cs ++ ['Z'])) = cs ++ UtcOffset.zero.isoChars := by
  have hall : ∀ c ∈ cs ++ ['Z'], isBlank c = false := by
    intro c hc
    rcases List.mem_append.mp hc with hc | hc
    · exact h.forall_mem (P := fun c => isBlank c = false) (by decide) hblank c hc
    · rw [List.mem_singleton.mp hc]
      rfl
  rw [stripChars_eq_self hall, spellOffset, if_pos List.getLast?_concat, List.dropLast_concat]
  rfl

/-- The text of a date-time gives back the date-time in universal time. -/
theorem instantOfText?_isoCharsWith {d : DateTime} {fraction : List Char}
    (hfraction : WritesFraction fraction d.time.microsecond) :
    instantOfText? (String.ofList (d.isoCharsWith fraction)) =
      some { d with offset := some ((d.offset.map fun o => o.asRead).getD .zero) } := by
  unfold instantOfText?
  rw [String.toList_ofList, spellOffset_stripChars (DateTime.writtenIn_isoCharsWith hfraction)
    (by decide) (by decide), DateTime.ofIso?_isoCharsWith hfraction]
  rfl

theorem decode_date {raw : Value} {d : DateTime} (h : instant? raw = some d) :
    decode (.map [("$date", raw)]) = .native (.dateTime d) := by
  have htag : tagged? [("$date", raw)] =
      some (((instant? raw).map (.native <| .dateTime ·)).getD (.map [("$date", raw)])) := rfl
  rw [decode, htag, h]
  rfl

/-- **Dates come back.**  The text that is sent for a date-time decodes to it, with the same offset
where that has whole minutes; a date-time without an offset comes back in universal time. -/
theorem decode_encode_dateTime {d : DateTime}
    (hoffset : ∀ o ∈ d.offset, (60000000 : Int) ∣ o.microseconds) :
    decode (.map [("$date", encode (.native (.dateTime d)))]) =
      .native (.dateTime ⟨d.date, d.time, some (d.offset.getD .zero)⟩) := by
  have hread : (d.offset.map fun o => o.asRead) = d.offset := by
    cases h : d.offset with
    | none => rfl
    | some o => exact congrArg some (UtcOffset.asRead_of_dvd (hoffset o h))
  have htext := instantOfText?_isoCharsWith (writesFraction_fractionChars d.time.valid.2.2.2)
  rw [hread] at htext
  rw [encode]
  exact decode_date htext

/-- The last second of a leap day of the year 4, west of universal time. -/
theorem decode_encode_dateTime_leap_day :
    decode (.map [("$date", .string "0004-02-29T23:59:59.000001-05:30")]) =
      .native (.dateTime ⟨⟨4, 2, 29, by decide⟩, ⟨23, 59, 59, 1, by decide⟩,
        some ⟨-19800000000, by decide⟩⟩) := by
  have htext : DateTime.toIso ⟨⟨4, 2, 29, by decide⟩, ⟨23, 59, 59, 1, by decide⟩,
      some ⟨-19800000000, by decide⟩⟩ = "0004-02-29T23:59:59.000001-05:30" := by decide +kernel
  have hread := decode_encode_dateTime (d := ⟨⟨4, 2, 29, by decide⟩, ⟨23, 59, 59, 1, by decide⟩,
    some ⟨-19800000000, by decide⟩⟩) (by
      rintro o ho
      cases ho
      decide)
  rwa [encode, encodeNative, htext] at hread

/-! ## Milliseconds -/

/-- The ISO text of a date-time with three digits of a fraction, and a `Z` in the place of the
offset. -/
def isoMilliseconds (d : DateTime) : String :=
  String.ofList (DateTime.isoCharsWith ('.' :: paddedDigits 3 (d.time.microsecond / 1000))
    ⟨d.date, d.time, none⟩ ++ ['Z'])

section Milliseconds

variable {m : Int} {d : DateTime} (hoffset : d.offset = some .zero) (hm : d.sinceEpoch = 1000 * m)

include hoffset hm

theorem sinceMidnight_mod : d.time.sinceMidnight % 1000 = 0 ∧
    (d.time.sinceMidnight % 1000000 = 0 → m % 1000 = 0) := by
  unfold DateTime.sinceEpoch DateTime.epochDayNumber DateTime.microsecondsPerDay at hm
  rw [hoffset] at hm
  dsimp only [Option.getD_some, UtcOffset.zero] at hm
  omega

/-- The fraction of a whole number of milliseconds has three digits. -/
theorem writesFraction_milliseconds :
    WritesFraction ('.' :: paddedDigits 3 (d.time.microsecond / 1000)) d.time.microsecond := by
  obtain ⟨hmod, -⟩ := sinceMidnight_mod hoffset hm
  have hlt := d.time.valid.2.2.2
  have hdigits := WritesFraction.digits (show 0 < 3 by decide) (show 3 ≤ 6 by decide)
    (show d.time.microsecond / 1000 < 10 ^ 3 by omega)
  have hvalue : d.time.microsecond / 1000 * 10 ^ (6 - 3) = d.time.microsecond := by
    unfold TimeOfDay.sinceMidnight at hmod
    omega
  rwa [hvalue] at hdigits

theorem instantOfText?_isoMilliseconds : instantOfText? (isoMilliseconds d) = some d := by
  have hfraction := writesFraction_milliseconds hoffset hm
  have hwritten := DateTime.writtenIn_isoCharsWith (d := ⟨d.date, d.time, none⟩) hfraction
  have hread := DateTime.ofIso?_isoCharsWith (d := ⟨d.date, d.time, some .zero⟩) hfraction
  unfold instantOfText? isoMilliseconds
  rw [String.toList_ofList, spellOffset_stripChars_concat hwritten (by decide),
    DateTime.isoCharsWith_append, hread]
  show some (DateTime.mk d.date d.time (some .zero)) = some d
  rw [← hoffset]

theorem natAbs_lt : m.natAbs < 2 ^ 38 * 1000 := by
  have hbounds := DateTime.sinceEpoch_bounds hoffset
  omega

/-- What a number of milliseconds decodes to is not far off, since a double that is off lies between
whole seconds. -/
theorem instantOfInt?_milliseconds : ∃ d', instantOfInt? m = some d' ∧ d'.offset = some .zero ∧
    |d'.sinceEpoch - 1000 * m| ≤ 15 ∧ (d' = d ↔ DateTime.HasCloseDouble m) := by
  obtain ⟨u, hu, hnear, hwhole, hexact⟩ :=
    DateTime.microsecondsOfSeconds?_ofInt (natAbs_lt hoffset hm)
  obtain ⟨hmod, hmod'⟩ := sinceMidnight_mod hoffset hm
  have hlt := d.time.sinceMidnight_lt
  have hdiff := abs_le.mp hnear
  obtain ⟨n, hn, hnu⟩ : ∃ n : Nat, n < 86400000000 ∧
      d.sinceEpoch - d.time.sinceMidnight + n = u := by
    refine ⟨(d.time.sinceMidnight + (u - 1000 * m)).toNat, ?_, ?_⟩ <;> omega
  obtain ⟨d', hd'⟩ := DateTime.exists_ofEpochMicroseconds? hoffset hn
  rw [hnu] at hd'
  obtain ⟨hoffset', hsince⟩ := DateTime.ofEpochMicroseconds?_eq_some_iff.mp hd'
  refine ⟨d', ?_, hoffset', hsince ▸ hnear, ?_⟩
  · unfold instantOfInt? DateTime.ofEpochMilliseconds?
    rw [hu, Option.bind_some, hd']
  · rw [← hexact]
    constructor
    · rintro rfl
      exact hsince.symm.trans hm
    · intro heq
      rw [heq, ← hm, DateTime.ofEpochMicroseconds?_eq_some_iff.mpr ⟨hoffset, rfl⟩] at hd'
      exact (Option.some.inj hd').symm

/-- **The forms of a date.**  The ISO text with milliseconds decodes to the point in time that it
writes.  The number of milliseconds and its text decode to one and the same point in time, which is
the one of the ISO text exactly when a double of seconds is close enough to it.  That is so within
`2 ^ 33` seconds of 1970, and beyond that no point in time is off by more than 15 microseconds. -/
theorem decode_date_forms :
    decode (.map [("$date", .string (isoMilliseconds d))]) = .native (.dateTime d) ∧
      ∃ d', decode (.map [("$date", .int m)]) = .native (.dateTime d') ∧
        decode (.map [("$date", .map [("$numberLong", .string (toString m))])]) =
          .native (.dateTime d') ∧
        d'.offset = some .zero ∧ |d'.sinceEpoch - 1000 * m| ≤ 15 ∧
        (d' = d ↔ DateTime.HasCloseDouble m) ∧ (m.natAbs < 2 ^ 33 * 1000 → d' = d) := by
  obtain ⟨d', hd', hoffset', hnear, hexact⟩ := instantOfInt?_milliseconds hoffset hm
  have hlt := natAbs_lt hoffset hm
  have hdigits : m.natAbs < 10 ^ Number.maxDigits := by
    have hpow : 10 ^ 15 ≤ 10 ^ Number.maxDigits := Nat.pow_le_pow_right (by decide) (by decide)
    omega
  have hlong : instant? (.map [("$numberLong", .string (toString m))]) = some d' := by
    show (Number.readInteger (toString m)).toOption.bind instantOfInt? = some d'
    rw [Number.readInteger_toString hdigits]
    exact hd'
  refine ⟨decode_date (instantOfText?_isoMilliseconds hoffset hm), d', decode_date hd',
    decode_date hlong, hoffset', hnear, hexact, ?_⟩
  intro hsmall
  exact hexact.mpr (DateTime.hasCloseDouble_of_lt hsmall)

end Milliseconds

theorem decode_date_forms_year_2023 :
    ∃ d : DateTime, d.sinceEpoch = 1700000000123000 ∧
      decode (.map [("$date", .string "2023-11-14T22:13:20.123Z")]) = .native (.dateTime d) ∧
      decode (.map [("$date", .int 1700000000123)]) = .native (.dateTime d) ∧
      decode (.map [("$date", .map [("$numberLong", .string "1700000000123")])]) =
        .native (.dateTime d) := by
  obtain ⟨htext, d', hint, hlong, -, -, -, hsmall⟩ := decode_date_forms (m := 1700000000123)
    (d := ⟨⟨2023, 11, 14, by decide⟩, ⟨22, 13, 20, 123000, by decide⟩, some .zero⟩) rfl (by decide)
  obtain rfl := hsmall (by decide)
  have hiso : isoMilliseconds ⟨⟨2023, 11, 14, by decide⟩, ⟨22, 13, 20, 123000, by decide⟩,
      some .zero⟩ = "2023-11-14T22:13:20.123Z" := by decide +kernel
  rw [hiso] at htext
  exact ⟨_, by decide, htext, hint, hlong⟩

/-- Above `2 ^ 33` seconds a millisecond can be lost: the number of milliseconds decodes to a point
in time that its ISO text does not have. -/
theorem decode_date_forms_differ :
    decode (.map [("$date", .int 8589934592001)]) =
        .native (.dateTime ⟨⟨2242, 3, 16, by decide⟩, ⟨12, 56, 32, 999, by decide⟩, some .zero⟩) ∧
      decode (.map [("$date", .string "2242-03-16T12:56:32.001Z")]) =
        .native (.dateTime ⟨⟨2242, 3, 16, by decide⟩, ⟨12, 56, 32, 1000, by decide⟩,
          some .zero⟩) := by
  decide +kernel

end QueryWarden.ExtendedJson
