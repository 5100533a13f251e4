import Mathlib.Data.List.Basic
import QueryWarden.Calendar.DateTime
import QueryWarden.Calendar.IsoReader
import QueryWarden.Proofs.Calendar.Date
import QueryWarden.Proofs.Text.Digits

/-!
# Reading back ISO texts

The reader gives back the date-time of the text that was written for it (`ofIso?_isoCharsWith`),
apart from the offset: one without whole seconds is read as that of universal time
(`UtcOffset.asRead`).

The fraction of a second may have any number of digits up to six (`WritesFraction`), so that the
texts of `isoChars`, with six digits or none, and those with three are read by the same lemmas.
-/

namespace QueryWarden

open Text

/-! ## The characters of the texts -/

def WrittenIn (marks cs : List Char) : Prop :=
  ∀ c ∈ cs, isAsciiDigit c = true ∨ c ∈ marks

namespace WrittenIn

variable {marks cs ds : List Char} {c : Char}

theorem nil (marks : List Char) : WrittenIn marks [] := by
  intro c hc
  exact absurd hc List.not_mem_nil

theorem cons (hc : c ∈ marks) (h : WrittenIn marks cs) : WrittenIn marks (c :: cs) := by
  intro d hd
  rcases List.mem_cons.mp hd with rfl | hd
  · exact .inr hc
  · exact h d hd

theorem append (h : WrittenIn marks cs) (h' : WrittenIn marks ds) :
    WrittenIn marks (cs ++ ds) := by
  intro c hc
  rcases List.mem_append.mp hc with hc | hc
  · exact h c hc
  · exact h' c hc

theorem mono {more : List Char} (hsub : marks ⊆ more) (h : WrittenIn marks cs) :
    WrittenIn more cs := by
  intro c hc
  exact (h c hc).imp_right fun hmem => hsub hmem

/-- What holds of the ten digits and of the marks holds of all characters. -/
theorem forall_mem {P : Char → Prop} (h : WrittenIn marks cs)
    (hdigits : ∀ d < 10, P (Char.ofNat (48 + d))) (hmarks : marks.Forall P) :
    ∀ c ∈ cs, P c := by
  intro c hc
  rcases h c hc with hdigit | hmark
  · exact forall_isAsciiDigit hdigits hdigit
  · exact List.forall_iff_forall_mem.mp hmarks c hmark

theorem paddedDigits (marks : List Char) (w n : Nat) : WrittenIn marks (paddedDigits w n) := by
  intro c hc
  exact .inl (isAsciiDigit_of_mem_paddedDigits hc)

end WrittenIn

/-- The fraction of a second in microseconds that some characters write: nothing, or up to six
digits behind a point. -/
inductive WritesFraction : List Char → Nat → Prop
  | none : WritesFraction [] 0
  | digits {w v : Nat} (hw : 0 < w) (hw' : w ≤ 6) (hv : v < 10 ^ w) :
    WritesFraction ('.' :: paddedDigits w v) (v * 10 ^ (6 - w))

theorem writesFraction_fractionChars {u : Nat} (hu : u < 1000000) :
    WritesFraction (fractionChars u) u := by
  unfold fractionChars
  by_cases h : u = 0
  · subst h
    exact .none
  · rw [if_neg h]
    have hdigits := WritesFraction.digits (show 0 < 6 by decide) (Nat.le_refl 6) hu
    rwa [Nat.sub_self, Nat.pow_zero, Nat.mul_one] at hdigits

/-- Hours, minutes and seconds between colons, and a fraction. -/
def clockChars (hour minute second : Nat) (fraction : List Char) : List Char :=
  paddedDigits 2 hour ++ ':' :: (paddedDigits 2 minute
    ++ ':' :: (paddedDigits 2 second ++ fraction))

theorem writtenIn_clockChars {fraction : List Char} {u : Nat} (h : WritesFraction fraction u)
    (hour minute second : Nat) : WrittenIn [':', '.'] (clockChars hour minute second fraction) := by
  have hfraction : WrittenIn [':', '.'] fraction := by
    cases h with
    | none => exact .nil _
    | digits => exact (WrittenIn.paddedDigits _ _ _).cons (by decide)
  have hseconds := ((WrittenIn.paddedDigits _ 2 second).append hfraction).cons
    (show ':' ∈ [':', '.'] by decide)
  have hminutes := ((WrittenIn.paddedDigits _ 2 minute).append hseconds).cons
    (show ':' ∈ [':', '.'] by decide)
  exact (WrittenIn.paddedDigits _ 2 hour).append hminutes

namespace IsoReader

theorem takeDigits?_paddedDigits {w n : Nat} (hw : 0 < w) (hn : n < 10 ^ w) (rest : List Char) :
    takeDigits? w (paddedDigits w n ++ rest) = some (n, rest) := by
  have hlength := length_paddedDigits hw hn
  unfold takeDigits?
  dsimp only
  rw [List.take_left' hlength, List.drop_left' hlength, ofDigits_paddedDigits, if_pos]
  exact ⟨hlength, List.all_eq_true.mpr fun c => isAsciiDigit_of_mem_paddedDigits⟩

theorem headUnit_paddedDigits_ne {c : Char} (hc : isAsciiDigit c = false) (w n : Nat)
    (rest : List Char) : headUnit (paddedDigits w n ++ rest) ≠ c := by
  intro h
  cases hds : paddedDigits w n with
  | nil => exact digits_ne_nil n (List.append_eq_nil_iff.mp hds).2
  | cons d ds =>
    have hdigit := isAsciiDigit_of_mem_paddedDigits (hds ▸ List.mem_cons_self)
    rw [hds] at h
    rw [show d = c from h, hc] at hdigit
    exact Bool.noConfusion hdigit

/-! ## Dates -/

theorem parts_lt (d : Date) : d.year < 10 ^ 4 ∧ d.month < 10 ^ 2 ∧ d.day < 10 ^ 2 := by
  obtain ⟨-, hy, -, hm, -, hd⟩ := d.valid
  have hdays : daysInMonth d.year d.month ≤ 31 := by
    unfold daysInMonth
    split_ifs <;> omega
  omega

theorem isoChars_append (d : Date) (rest : List Char) :
    d.isoChars ++ rest = paddedDigits 4 d.year ++ ('-' :: (paddedDigits 2 d.month
      ++ '-' :: (paddedDigits 2 d.day ++ rest))) := by
  unfold Date.isoChars
  rw [List.append_assoc, List.cons_append, List.append_assoc, List.cons_append]

theorem length_isoChars (d : Date) : d.isoChars.length = 10 := by
  obtain ⟨hy, hm, hd⟩ := parts_lt d
  unfold Date.isoChars
  rw [List.length_append, List.length_cons, List.length_append, List.length_cons,
    length_paddedDigits (by decide) hy, length_paddedDigits (by decide) hm,
    length_paddedDigits (by decide) hd]

theorem dateWidth?_isoChars (d : Date) (rest : List Char) :
    dateWidth? (d.isoChars ++ rest) = some 10 := by
  have hyear := length_paddedDigits (show 0 < 4 by decide) (parts_lt d).1
  have hlength : (d.isoChars ++ rest).length ≠ 7 := by
    rw [List.length_append, length_isoChars]
    omega
  have hhyphen : headUnit ((d.isoChars ++ rest).drop 4) = '-' := by
    rw [isoChars_append, List.drop_left' hyear]
    rfl
  have hmonth : headUnit ((d.isoChars ++ rest).drop 5) ≠ 'W' := by
    rw [isoChars_append, ← List.drop_drop (i := 1), List.drop_left' hyear]
    exact headUnit_paddedDigits_ne rfl _ _ _
  unfold dateWidth?
  dsimp only
  rw [if_neg hlength, if_pos hhyphen, if_neg hmonth]

theorem hyphen?_hyphen (cs : List Char) : hyphen? true ('-' :: cs) = some cs := rfl

theorem readDate?_isoChars (width : Nat) (d : Date) (rest : List Char) :
    readDate? width (d.isoChars ++ rest) = some d := by
  obtain ⟨hy, hm, hd⟩ := parts_lt d
  have hextended (cs : List Char) : (headUnit ('-' :: cs) == '-') = true := rfl
  unfold readDate?
  rw [isoChars_append, takeDigits?_paddedDigits (by decide) hy, Option.bind_some]
  dsimp only
  -- The hyphen behind the year shows the extended form.
  rw [hextended, if_pos rfl, List.tail_cons, if_neg (headUnit_paddedDigits_ne rfl _ _ _),
    takeDigits?_paddedDigits (by decide) hm, Option.bind_some]
  dsimp only
  rw [hyphen?_hyphen, Option.bind_some, takeDigits?_paddedDigits (by decide) hd, Option.bind_some]
  exact Date.ofParts?_parts d

/-! ## Times -/

section Pairs

variable {v left room : Nat} {colons : Option Bool} {rest : List Char}

theorem readPairs_colon (hv : v < 10 ^ 2) (hroom : 3 < room) (hcolons : colons.getD true = true) :
    readPairs (left + 1) colons room (paddedDigits 2 v ++ ':' :: rest) =
      (readPairs left (some true) (room - 3) rest).map fun (vs, t) => (v :: vs, t) := by
  have hseparated : colons.getD (headUnit (':' :: rest) == ':') = true := hcolons
  rw [readPairs, takeDigits?_paddedDigits (by decide) hv, Option.bind_some]
  dsimp only
  rw [if_neg (by omega), hseparated, if_pos rfl]
  rfl

theorem readPairs_last (hv : v < 10 ^ 2) (hroom : room ≤ 3) :
    readPairs (left + 1) colons room (paddedDigits 2 v ++ rest) =
      some ([v], .done (headUnit rest == '\x00')) := by
  rw [readPairs, takeDigits?_paddedDigits (by decide) hv, Option.bind_some]
  dsimp only
  rw [if_pos hroom]

theorem readPairs_point (hv : v < 10 ^ 2) (hroom : 3 < room) :
    readPairs (left + 1) colons room (paddedDigits 2 v ++ '.' :: rest) =
      some ([v], .fraction (room - 3) rest) := by
  rw [readPairs, takeDigits?_paddedDigits (by decide) hv, Option.bind_some]
  dsimp only
  rw [if_neg (by omega), show (headUnit ('.' :: rest) == ':') = false from rfl, Bool.and_false,
    if_neg Bool.false_ne_true]
  rfl

theorem readFraction?_paddedDigits {w : Nat} (hw : 0 < w) (hw' : w ≤ 6) (hv : v < 10 ^ w)
    (hrest : isAsciiDigit (headUnit rest) = false) :
    readFraction? w (paddedDigits w v ++ rest) =
      some (v * 10 ^ (6 - w), headUnit rest == '\x00') := by
  have hdrop : rest.dropWhile isAsciiDigit = rest := by
    cases rest with
    | nil => rfl
    | cons c cs =>
      refine List.dropWhile_cons_of_neg ?_
      rw [show isAsciiDigit c = false from hrest]
      exact Bool.false_ne_true
  unfold readFraction?
  dsimp only
  rw [Nat.min_eq_left hw', takeDigits?_paddedDigits hw hv, Option.map_some, hdrop]
  rfl

end Pairs

section Clock

variable {h m s : Nat}

theorem readClock?_minutes (hh : h < 10 ^ 2) (hm : m < 10 ^ 2) (rest : List Char) :
    readClock? 5 (paddedDigits 2 h ++ ':' :: (paddedDigits 2 m ++ rest)) =
      some ⟨h, m, 0, 0, headUnit rest == '\x00'⟩ := by
  unfold readClock?
  rw [readPairs_colon hh (by decide) rfl, readPairs_last hm (by decide)]
  rfl

theorem readClock?_clockChars {fraction : List Char} {u : Nat} (hh : h < 10 ^ 2) (hm : m < 10 ^ 2)
    (hs : s < 10 ^ 2) (hfraction : WritesFraction fraction u) (rest : List Char)
    (hrest : isAsciiDigit (headUnit rest) = false) :
    readClock? (clockChars h m s fraction).length (clockChars h m s fraction ++ rest) =
      some ⟨h, m, s, u, headUnit rest == '\x00'⟩ := by
  have hlength : (clockChars h m s fraction).length = 8 + fraction.length := by
    unfold clockChars
    rw [List.length_append, List.length_cons, List.length_append, List.length_cons,
      List.length_append, length_paddedDigits (by decide) hh, length_paddedDigits (by decide) hm,
      length_paddedDigits (by decide) hs]
    omega
  have happend : clockChars h m s fraction ++ rest = paddedDigits 2 h ++ ':' :: (paddedDigits 2 m
      ++ ':' :: (paddedDigits 2 s ++ (fraction ++ rest))) := by
    unfold clockChars
    rw [List.append_assoc, List.cons_append, List.append_assoc, List.cons_append, List.append_assoc]
  rw [hlength, happend]
  unfold readClock?
  rw [readPairs_colon hh (by omega) rfl, readPairs_colon hm (by omega) rfl]
  cases hfraction with
  | none =>
    rw [List.nil_append, readPairs_last hs (by decide)]
    rfl
  | @digits w v hw hw' hv =>
    have hroom : 8 + ('.' :: paddedDigits w v).length - 3 - 3 - 3 = w := by
      rw [List.length_cons, length_paddedDigits hw hv]
      omega
    rw [List.cons_append, readPairs_point hs (by omega), hroom]
    show (readFraction? w (paddedDigits w v ++ rest)).map _ = _
    rw [readFraction?_paddedDigits hw hw' hv hrest]
    rfl

end Clock

end IsoReader

/-! ## Offsets -/

/-- The offset that is read from the text of an offset: one without whole seconds is lost. -/
def UtcOffset.asRead (o : UtcOffset) : UtcOffset :=
  if o.microseconds.natAbs < 1000000 then .zero else o

theorem UtcOffset.asRead_of_dvd {o : UtcOffset} (h : 60000000 ∣ o.microseconds) :
    o.asRead = o := by
  unfold asRead
  by_cases hzero : o.microseconds = 0
  · cases o
    subst hzero
    rfl
  · rw [if_neg (by omega)]

theorem writtenIn_isoChars_offset (o : UtcOffset) : WrittenIn ['+', '-', ':', '.'] o.isoChars := by
  have hfraction := writesFraction_fractionChars
    (show o.microseconds.natAbs % 1000000 < 1000000 from Nat.mod_lt _ (by decide))
  have hclock := (writtenIn_clockChars hfraction (o.microseconds.natAbs / 3600000000)
    (o.microseconds.natAbs / 60000000 % 60) (o.microseconds.natAbs / 1000000 % 60)).mono
    (show [':', '.'] ⊆ ['+', '-', ':', '.'] by decide)
  unfold UtcOffset.isoChars
  dsimp only
  refine .cons ?_ ?_
  · split_ifs <;> decide
  · split_ifs
    · exact (WrittenIn.paddedDigits _ 2 _).append
        (((WrittenIn.paddedDigits _ 2 _).append (.nil _)).cons (by decide))
    · exact hclock

namespace IsoReader

theorem offsetOfClock?_parts (o : UtcOffset) (atEnd : Bool) :
    offsetOfClock? (decide (o.microseconds < 0))
      ⟨o.microseconds.natAbs / 3600000000, o.microseconds.natAbs / 60000000 % 60,
        o.microseconds.natAbs / 1000000 % 60, o.microseconds.natAbs % 1000000, atEnd⟩ =
      some o.asRead := by
  have hbound := o.bounded
  unfold offsetOfClock? UtcOffset.asRead
  dsimp only
  have hseconds : o.microseconds.natAbs / 3600000000 * 3600
      + o.microseconds.natAbs / 60000000 % 60 * 60 + o.microseconds.natAbs / 1000000 % 60 =
      o.microseconds.natAbs / 1000000 := by omega
  rw [hseconds]
  by_cases h : o.microseconds.natAbs < 1000000
  · rw [if_pos (by omega), if_pos h]
  · have hsigned : Number.signed (decide (o.microseconds < 0))
        (o.microseconds.natAbs / 1000000 * 1000000 + o.microseconds.natAbs % 1000000) =
        o.microseconds := by
      unfold Number.signed
      by_cases hneg : o.microseconds < 0
      · rw [if_pos (decide_eq_true hneg)]
        omega
      · rw [if_neg (by simpa using hneg)]
        omega
    rw [if_neg (by omega), if_neg h, hsigned, UtcOffset.ofMicroseconds?, dif_pos hbound]

theorem readOffset?_cons {c : Char} (hc : c ≠ 'Z') (cs : List Char) :
    readOffset? (c :: cs) = (readClock? cs.length cs).bind fun clock =>
      if clock.atEnd then offsetOfClock? (c == '-') clock else none := by
  unfold readOffset?
  split
  · next heq => exact absurd heq (List.cons_ne_nil c cs)
  · next heq => exact absurd (List.cons.inj heq).1 hc
  · next heq =>
    obtain ⟨rfl, rfl⟩ := List.cons.inj heq
    rfl

theorem readOffset?_isoChars (o : UtcOffset) : readOffset? o.isoChars = some o.asRead := by
  have hbound := o.bounded
  obtain ⟨c, body, hbody, hc, hneg, hclock⟩ : ∃ c body, o.isoChars = c :: body ∧ c ≠ 'Z' ∧
      (c == '-') = decide (o.microseconds < 0) ∧
      readClock? body.length body = some ⟨o.microseconds.natAbs / 3600000000,
        o.microseconds.natAbs / 60000000 % 60, o.microseconds.natAbs / 1000000 % 60,
        o.microseconds.natAbs % 1000000, true⟩ := by
    refine ⟨_, _, rfl, ?_, ?_, ?_⟩
    · split_ifs <;> decide
    · split_ifs with h
      · exact (decide_eq_true h).symm
      · exact (decide_eq_false h).symm
    have hh : o.microseconds.natAbs / 3600000000 < 10 ^ 2 := by omega
    have hm : o.microseconds.natAbs / 60000000 % 60 < 10 ^ 2 := by omega
    by_cases h : o.microseconds.natAbs % 60000000 = 0
    · rw [if_pos h, show o.microseconds.natAbs / 1000000 % 60 = 0 by omega,
        show o.microseconds.natAbs % 1000000 = 0 by omega, List.length_append, List.length_cons,
        List.length_append, length_paddedDigits (by decide) hh, length_paddedDigits (by decide) hm]
      exact readClock?_minutes hh hm []
    · rw [if_neg h]
      have hread := readClock?_clockChars hh hm
        (show o.microseconds.natAbs / 1000000 % 60 < 10 ^ 2 by omega)
        (writesFraction_fractionChars (Nat.mod_lt o.microseconds.natAbs (by decide))) [] rfl
      rwa [List.append_nil] at hread
  rw [hbody, readOffset?_cons hc, hclock, Option.bind_some, if_pos rfl, hneg]
  exact offsetOfClock?_parts o true

/-! ## Times with offsets -/

theorem readTime?_clockChars {t : TimeOfDay} {fraction : List Char}
    (hfraction : WritesFraction fraction t.microsecond) (o : Option UtcOffset) :
    readTime? (clockChars t.hour t.minute t.second fraction
        ++ (o.map fun o => o.isoChars).getD []) = some (t, o.map fun o => o.asRead) := by
  obtain ⟨hh, hm, hs, -⟩ := t.valid
  have hclock : ∀ c ∈ clockChars t.hour t.minute t.second fraction, (!startsOffset c) = true :=
    (writtenIn_clockChars hfraction _ _ _).forall_mem (by decide) (by decide)
  have hread := readClock?_clockChars (show t.hour < 10 ^ 2 by omega)
    (show t.minute < 10 ^ 2 by omega) (show t.second < 10 ^ 2 by omega) hfraction
  have htime : TimeOfDay.ofParts? t.hour t.minute t.second t.microsecond = some t := by
    unfold TimeOfDay.ofParts?
    rw [dif_pos t.valid]
  unfold readTime?
  dsimp only
  rw [List.takeWhile_append_of_pos hclock, List.dropWhile_append_of_pos hclock]
  cases o with
  | none =>
    show (readClock? (_ ++ []).length (_ ++ [])).bind _ = _
    have hnil := hread [] rfl
    rw [List.append_nil] at hnil ⊢
    rw [hnil, Option.bind_some, htime]
    rfl
  | some o =>
    obtain ⟨c, body, ho, hc, hdigit⟩ : ∃ c body, o.isoChars = c :: body ∧ startsOffset c = true ∧
        isAsciiDigit c = false := by
      refine ⟨_, _, rfl, ?_, ?_⟩ <;> split_ifs <;> rfl
    have hoffset := readOffset?_isoChars o
    show (readClock? (_ ++ o.isoChars.takeWhile _).length (_ ++ o.isoChars)).bind _ = _
    rw [ho] at hoffset ⊢
    rw [List.takeWhile_cons_of_neg (by rw [hc]; decide), List.append_nil, hread (c :: body) hdigit,
      Option.bind_some, htime, Option.bind_some]
    show (if ((o.isoChars.dropWhile fun c => !startsOffset c).isEmpty = true) then _ else
      (readOffset? (o.isoChars.dropWhile fun c => !startsOffset c)).map _) = _
    rw [ho, List.dropWhile_cons_of_neg (by rw [hc]; decide), List.isEmpty_cons,
      if_neg Bool.false_ne_true, hoffset]
    rfl

end IsoReader

/-! ## Date-times -/

theorem Text.utf8Units_of_forall_lt {cs : List Char} (h : ∀ c ∈ cs, c.toNat < 128) :
    utf8Units cs = cs := by
  induction cs with
  | nil => rfl
  | cons c cs ih =>
    have hc : c.val.toNat ≤ 127 := Nat.le_of_lt_succ (h c List.mem_cons_self)
    have hbyte : (String.utf8EncodeChar c).map byteChar = [c] := by
      unfold String.utf8EncodeChar byteChar
      dsimp only
      rw [if_pos hc, List.map_cons, UInt8.toNat_ofNat', Nat.mod_eq_of_lt (by omega)]
      exact congrArg (· :: []) (Char.ofNat_toNat c)
    show (String.utf8EncodeChar c).map byteChar ++ utf8Units cs = c :: cs
    rw [hbyte, ih fun d hd => h d (List.mem_cons_of_mem c hd)]
    rfl

namespace DateTime

/-- The ISO text of a date-time with a fraction of the second as given. -/
def isoCharsWith (fraction : List Char) (d : DateTime) : List Char :=
  d.date.isoChars ++ 'T' :: (clockChars d.time.hour d.time.minute d.time.second fraction
    ++ (d.offset.map fun o => o.isoChars).getD [])

variable {d : DateTime} {fraction : List Char}

theorem isoCharsWith_append (date : Date) (time : TimeOfDay) (o : UtcOffset)
    (fraction : List Char) :
    isoCharsWith fraction ⟨date, time, none⟩ ++ o.isoChars =
      isoCharsWith fraction ⟨date, time, some o⟩ := by
  unfold isoCharsWith
  dsimp only [Option.map_none, Option.map_some, Option.getD_none, Option.getD_some]
  rw [List.append_nil, List.append_assoc, List.cons_append]

theorem writtenIn_isoCharsWith (hfraction : WritesFraction fraction d.time.microsecond) :
    WrittenIn ['+', '-', ':', '.', 'T'] (d.isoCharsWith fraction) := by
  have hdate : WrittenIn ['+', '-', ':', '.', 'T'] d.date.isoChars :=
    (WrittenIn.paddedDigits _ 4 _).append (((WrittenIn.paddedDigits _ 2 _).append
      ((WrittenIn.paddedDigits _ 2 _).cons (by decide))).cons (by decide))
  have htime := (writtenIn_clockChars hfraction d.time.hour d.time.minute d.time.second).mono
    (show [':', '.'] ⊆ ['+', '-', ':', '.', 'T'] by decide)
  have hoffset : WrittenIn ['+', '-', ':', '.', 'T']
      ((d.offset.map fun o => o.isoChars).getD []) := by
    cases d.offset with
    | none => exact .nil _
    | some o => exact (writtenIn_isoChars_offset o).mono (by decide)
  exact hdate.append ((htime.append hoffset).cons (by decide))

/-- An ISO text is read as the date-time that it was written for. -/
theorem ofIso?_isoCharsWith (hfraction : WritesFraction fraction d.time.microsecond) :
    ofIso? (d.isoCharsWith fraction) =
      some { d with offset := d.offset.map fun o => o.asRead } := by
  have hunits : utf8Units (d.isoCharsWith fraction) = d.isoCharsWith fraction :=
    utf8Units_of_forall_lt ((writtenIn_isoCharsWith hfraction).forall_mem (by decide) (by decide))
  have hlength : ¬ (d.isoCharsWith fraction).length < 7 := by
    unfold isoCharsWith
    rw [List.length_append, IsoReader.length_isoChars]
    omega
  unfold ofIso?
  rw [if_neg hlength, hunits]
  unfold IsoReader.readUnits? isoCharsWith
  rw [IsoReader.dateWidth?_isoChars, Option.bind_some, IsoReader.readDate?_isoChars,
    Option.bind_some]
  dsimp only
  rw [List.drop_left' (IsoReader.length_isoChars _)]
  show (IsoReader.readTime? (clockChars d.time.hour d.time.minute d.time.second fraction
    ++ (d.offset.map fun o => o.isoChars).getD [])).map _ = _
  rw [IsoReader.readTime?_clockChars hfraction]
  rfl

end DateTime

end QueryWarden
