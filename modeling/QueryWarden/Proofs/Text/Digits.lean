import Mathlib.Data.List.TakeWhile
import Mathlib.Data.Nat.Digits.Defs
import QueryWarden.Number.Numeral
import QueryWarden.Text.Digits

/-!
# Writing and reading digits

The digits that a number is written with are read as that number, with zeros in front
(`ofDigits_paddedDigits`) and without (`ofDigits_digits`).  So an integer text gives back the
integer (`readInteger_toString`), unless it has more digits than the reader takes.

The digits of an identifier are written in lower case, whatever the case is in which they were read
(`HexId.exists_ofText?`).
-/

namespace QueryWarden

namespace Text

/-! ## Characters -/

theorem isAsciiDigit_iff {c : Char} : isAsciiDigit c = true ↔ 48 ≤ c.toNat ∧ c.toNat ≤ 57 := by
  unfold isAsciiDigit
  rw [Bool.and_eq_true, decide_eq_true_eq, decide_eq_true_eq]
  rfl

/-- What holds of the ten digits holds of every character that is a digit. -/
theorem forall_isAsciiDigit {P : Char → Prop} (h : ∀ d < 10, P (Char.ofNat (48 + d))) {c : Char}
    (hc : isAsciiDigit c = true) : P c := by
  obtain ⟨hlow, hhigh⟩ := isAsciiDigit_iff.mp hc
  have hdigit := h (c.toNat - 48) (by omega)
  rwa [Nat.add_sub_cancel' hlow, Char.ofNat_toNat] at hdigit

theorem isAsciiDigit_of_mem_digits {n : Nat} {c : Char} (h : c ∈ digits n) :
    isAsciiDigit c = true := by
  have hdigit := Nat.isDigit_of_mem_toDigits (by decide) (by decide) h
  rw [Char.isDigit, Bool.and_eq_true, decide_eq_true_eq, decide_eq_true_eq] at hdigit
  exact isAsciiDigit_iff.mpr hdigit

theorem isAsciiDigit_of_mem_paddedDigits {w n : Nat} {c : Char} (h : c ∈ paddedDigits w n) :
    isAsciiDigit c = true := by
  rcases List.mem_append.mp h with h | h
  · rw [List.eq_of_mem_replicate h]
    rfl
  · exact isAsciiDigit_of_mem_digits h

/-! ## Lengths and values -/

theorem digits_ne_nil (n : Nat) : digits n ≠ [] :=
  List.ne_nil_of_length_pos Nat.length_toDigits_pos

theorem length_digits_le {w n : Nat} (hw : 0 < w) (h : n < 10 ^ w) : (digits n).length ≤ w :=
  Nat.toDigits_length 10 n w hw h

theorem length_paddedDigits {w n : Nat} (hw : 0 < w) (h : n < 10 ^ w) :
    (paddedDigits w n).length = w := by
  have hle := length_digits_le hw h
  unfold paddedDigits
  rw [List.length_append, List.length_replicate]
  omega

theorem ofDigits_digits (n : Nat) : ofDigits ((digits n).map fun c => c.toNat - 48) = n := by
  unfold ofDigits digits
  rw [List.foldl_map]
  exact Nat.ofDigitChars_eq_foldl.symm.trans (Nat.ofDigitChars_toDigits (by decide) (by decide))

theorem ofDigits_paddedDigits (w n : Nat) :
    ofDigits ((paddedDigits w n).map fun c => c.toNat - 48) = n := by
  have hzeros (k : Nat) : (List.replicate k 0).foldl (fun n d => 10 * n + d) 0 = 0 := by
    induction k with
    | zero => rfl
    | succ k ih => rwa [List.replicate_succ, List.foldl_cons]
  unfold ofDigits paddedDigits
  rw [List.map_append, List.map_replicate, List.foldl_append, show '0'.toNat - 48 = 0 from rfl,
    hzeros]
  exact ofDigits_digits n

end Text

/-! ## Integer texts -/

namespace Number

open Text

theorem asciiForm_of_lt {c : Char} (h : c.toNat < 127) : asciiForm c = c := by
  unfold asciiForm
  rw [if_pos h]

theorem joinGroupsFrom_of_forall_digit {cs : List Char} (h : ∀ c ∈ cs, isAsciiDigit c = true)
    (afterDigit : Bool) : joinGroupsFrom afterDigit cs = some cs := by
  have hmark {c : Char} : isAsciiDigit c = true → ¬ (c == '_') = true :=
    forall_isAsciiDigit (P := fun c => ¬ (c == '_') = true) (by decide)
  induction cs generalizing afterDigit with
  | nil => rfl
  | cons c cs ih =>
    have hc := h c List.mem_cons_self
    cases cs with
    | nil => rw [joinGroupsFrom, if_neg (hmark hc)]
    | cons d rest =>
      rw [joinGroupsFrom, if_neg (hmark hc), ih fun x hx => h x (List.mem_cons_of_mem c hx)]
      rfl

theorem splitSign_of_isAsciiDigit {c : Char} {cs : List Char} (h : isAsciiDigit c = true) :
    splitSign (c :: cs) = (false, c :: cs) := by
  unfold splitSign
  split
  · next heq =>
    rw [(List.cons.inj heq).1] at h
    exact absurd h (by decide)
  · next heq =>
    rw [(List.cons.inj heq).1] at h
    exact absurd h (by decide)
  · rfl

theorem splitSign_digits (n : Nat) : splitSign (digits n) = (false, digits n) := by
  cases h : digits n with
  | nil => exact absurd h (digits_ne_nil n)
  | cons c cs =>
    exact splitSign_of_isAsciiDigit (isAsciiDigit_of_mem_digits (h ▸ List.mem_cons_self))

/-- A sign and the digits behind it are read as the signed number. -/
theorem readIntegerChars_of_splitSign {cs : List Char} {negative : Bool} {n : Nat}
    (hblank : cs.dropWhile isAsciiBlank = cs) (hsign : splitSign cs = (negative, digits n))
    (hn : n < 10 ^ maxDigits) : readIntegerChars cs = .ok (signed negative n) := by
  have hall : ∀ c ∈ digits n, (isAsciiDigit c || c == '_') = true := fun c hc => by
    rw [isAsciiDigit_of_mem_digits hc, Bool.true_or]
  have htake : (digits n).takeWhile (fun c => isAsciiDigit c || c == '_') = digits n :=
    List.takeWhile_eq_self_iff.mpr hall
  have hdrop : (digits n).dropWhile (fun c => isAsciiDigit c || c == '_') = [] :=
    List.dropWhile_eq_nil_iff.mpr hall
  have hlength := length_digits_le (show 0 < maxDigits by decide) hn
  have hempty : (digits n).isEmpty = false := by
    rw [List.isEmpty_eq_false_iff]
    exact digits_ne_nil n
  unfold readIntegerChars
  rw [hblank, hsign]
  dsimp only
  rw [htake, hdrop, joinGroups?, joinGroupsFrom_of_forall_digit fun c => isAsciiDigit_of_mem_digits]
  dsimp only
  rw [if_neg (by omega), hempty, if_neg (by decide), digitsValue, ofDigits_digits]

theorem toList_toString (m : Int) :
    (toString m).toList = if m < 0 then '-' :: digits m.natAbs else digits m.natAbs := by
  rw [Int.toString_eq_repr, Int.repr_eq_if]
  by_cases h : m < 0
  · rw [if_neg (by omega), if_pos h, Nat.repr_eq_ofList_toDigits, String.toList_append,
      show "-".toList = ['-'] from rfl, String.toList_ofList, show (-m).toNat = m.natAbs by omega]
    rfl
  · rw [if_pos (by omega), if_neg h, Nat.repr_eq_ofList_toDigits, String.toList_ofList,
      show m.toNat = m.natAbs by omega]
    rfl

theorem readInteger_toString {m : Int} (hm : m.natAbs < 10 ^ maxDigits) :
    readInteger (toString m) = .ok m := by
  have hascii : (digits m.natAbs).map asciiForm = digits m.natAbs := by
    refine (List.map_congr_left fun c hc => asciiForm_of_lt ?_).trans (List.map_id _)
    have hdigit := isAsciiDigit_iff.mp (isAsciiDigit_of_mem_digits hc)
    omega
  have hfront {c : Char} (cs : List Char) (hc : isAsciiBlank c = false) :
      (c :: cs).dropWhile isAsciiBlank = c :: cs :=
    List.dropWhile_cons_of_neg (by rw [hc]; decide)
  unfold readInteger asciiChars
  rw [toList_toString]
  by_cases h : m < 0
  · rw [if_pos h, List.map_cons, hascii, readIntegerChars_of_splitSign (hfront _ rfl) rfl hm]
    exact congrArg Except.ok (show -(m.natAbs : Int) = m by omega)
  · have hblank : (digits m.natAbs).dropWhile isAsciiBlank = digits m.natAbs := by
      cases hds : digits m.natAbs with
      | nil => rfl
      | cons c cs =>
        have hdigit := isAsciiDigit_of_mem_digits (hds ▸ List.mem_cons_self)
        exact hfront cs
          (forall_isAsciiDigit (P := fun c => isAsciiBlank c = false) (by decide) hdigit)
    rw [if_neg h, hascii, readIntegerChars_of_splitSign hblank (splitSign_digits _) hm]
    exact congrArg Except.ok (show (m.natAbs : Int) = m by omega)

end Number

end QueryWarden

namespace QueryWarden.HexId

/-! ## Hexadecimal digits -/

def digitChars : List Char :=
  "0123456789abcdefABCDEF".toList

def IsDigits (n : Nat) (s : String) : Prop :=
  s.toList.length = n ∧ s.toList ⊆ digitChars

instance (n : Nat) (s : String) : Decidable (IsDigits n s) :=
  inferInstanceAs (Decidable (s.toList.length = n ∧ s.toList ⊆ digitChars))

theorem map_hexChar_hexValue? {c : Char} (h : c ∈ digitChars) :
    (hexValue? c).map hexChar = some c.toLower := by
  have hall : digitChars.all (fun c => (hexValue? c).map hexChar == some c.toLower) = true := by
    decide +kernel
  exact beq_iff_eq.mp (List.all_eq_true.mp hall c h)

theorem exists_digits {cs : List Char} (h : cs ⊆ digitChars) :
    ∃ ds, cs.mapM hexValue? = some ds ∧ ds.length = cs.length ∧
      ds.map hexChar = cs.map Char.toLower := by
  induction cs with
  | nil => exact ⟨[], rfl, rfl, rfl⟩
  | cons c cs ih =>
    obtain ⟨hc, hcs⟩ := List.cons_subset.mp h
    obtain ⟨d, hd, hchar⟩ := Option.map_eq_some_iff.mp (map_hexChar_hexValue? hc)
    obtain ⟨ds, hds, hlength, hchars⟩ := ih hcs
    refine ⟨d :: ds, ?_, ?_, ?_⟩
    · rw [List.mapM_cons, hd, hds]
      rfl
    · rw [List.length_cons, List.length_cons, hlength]
    · rw [List.map_cons, List.map_cons, hchar, hchars]

theorem exists_ofText? {n : Nat} {s : String} (h : IsDigits n s) :
    ∃ x, ofText? n s = some x ∧ x.toText = s.toLower := by
  obtain ⟨ds, hds, hlength, hchars⟩ := exists_digits h.2
  have hn : ds.length = n := hlength.trans h.1
  refine ⟨⟨ds, hn⟩, ?_, ?_⟩
  · rw [ofText?, hds, Option.bind_some, dif_pos hn]
  · have hlower : s.toLower = s.map Char.toLower := rfl
    rw [toText, hchars, hlower, ← String.toList_map, String.ofList_toList]

end QueryWarden.HexId
