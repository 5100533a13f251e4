import Mathlib.Data.List.DropRight
import QueryWarden.Text.Blank
import QueryWarden.Text.Case

/-!
# Lower case and blank characters

Lower case keeps blank characters and makes none (`isBlank_lowerSimple`), and no rule of lower case
looks through a blank character.  So removing blank characters at both ends and going to lower case
commute: `lower_strip`.

Facts about single characters are checked over the code points of `blankCodes` and over the runs of
the lower-case table.
-/

namespace QueryWarden.Text

/-! ## Single characters -/

/-- A character that is not zero has the code point out of which it is made. -/
theorem toNat_of_ofNat_eq {n : Nat} {x : Char} (hx : x.toNat ≠ 0) (h : Char.ofNat n = x) :
    x.toNat = n := by
  subst h
  by_cases hn : n.isValidChar
  · rw [Char.ofNat, dif_pos hn]
    rfl
  · rw [Char.ofNat, dif_neg hn] at hx
    exact absurd rfl hx

def blankCodes : List Nat :=
  [9, 10, 11, 12, 13, 28, 29, 30, 31, 32, 0x85, 0xA0, 0x1680, 0x2000, 0x2001, 0x2002, 0x2003,
    0x2004, 0x2005, 0x2006, 0x2007, 0x2008, 0x2009, 0x200A, 0x2028, 0x2029, 0x202F, 0x205F, 0x3000]

theorem isBlank_iff {c : Char} : isBlank c = true ↔ c.toNat ∈ blankCodes := by
  simp only [isBlank, blankCodes, Bool.or_eq_true, Bool.and_eq_true, decide_eq_true_eq,
    beq_iff_eq, List.mem_cons, List.not_mem_nil, or_false]
  omega

/-- What holds of the characters with the code points of `blankCodes` holds of all blank ones. -/
theorem forall_isBlank {P : Char → Prop} (h : ∀ n ∈ blankCodes, P (Char.ofNat n)) {c : Char}
    (hc : isBlank c = true) : P c := by
  have := h c.toNat (isBlank_iff.mp hc)
  rwa [Char.ofNat_toNat] at this

theorem forall_ascii {P : Char → Prop} (h : ∀ n < 128, P (Char.ofNat n)) {c : Char}
    (hc : c.toNat < 128) : P c := by
  have := h c.toNat hc
  rwa [Char.ofNat_toNat] at this

/-- No rule of lower case looks through a blank character or changes it. -/
theorem blank_rules {c : Char} (hc : isBlank c = true) :
    isCased c = false ∧ isCaseIgnorable c = false ∧ lowerSimple c = c ∧ c.toNat ≠ 0x3A3
      ∧ c.toNat ≠ 0x130 :=
  forall_isBlank (P := fun c => isCased c = false ∧ isCaseIgnorable c = false
    ∧ lowerSimple c = c ∧ c.toNat ≠ 0x3A3 ∧ c.toNat ≠ 0x130) (by decide +kernel) hc

theorem lowerRuns_avoid_blank : ∀ r ∈ lowerRuns, ∀ n ∈ blankCodes,
    r.covers (n - r.shift).toNat = false := by
  decide +kernel

theorem isBlank_ofNat_of_notMem {n : Nat} (h : n ∉ blankCodes) : isBlank (Char.ofNat n) = false := by
  rw [Bool.eq_false_iff, ne_eq, isBlank_iff]
  intro hmem
  have hne : (Char.ofNat n).toNat ≠ 0 := by
    intro h0
    rw [h0] at hmem
    exact absurd hmem (by decide)
  rw [toNat_of_ofNat_eq hne rfl] at hmem
  exact h hmem

theorem isBlank_mapByRuns {c : Char} (hc : isBlank c = false) :
    isBlank (mapByRuns lowerRuns c) = false := by
  unfold mapByRuns
  split
  · rename_i r hr
    apply isBlank_ofNat_of_notMem
    intro hn
    have hcovers := List.find?_some hr
    have hpos : (c.toNat + r.shift).toNat ≠ 0 := by
      intro h0
      rw [h0] at hn
      exact absurd hn (by decide)
    have hcode : (((c.toNat + r.shift).toNat : Int) - r.shift).toNat = c.toNat := by omega
    have havoid := lowerRuns_avoid_blank r (List.mem_of_find?_eq_some hr) _ hn
    rw [hcode, hcovers] at havoid
    exact Bool.noConfusion havoid
  · exact hc

theorem isBlank_lowerSimple {c : Char} (hc : isBlank c = false) :
    isBlank (lowerSimple c) = false := by
  unfold lowerSimple
  split
  · rename_i hlt
    exact forall_ascii (P := fun c => isBlank c = false → isBlank c.toLower = false)
      (by decide +kernel) hlt hc
  · exact isBlank_mapByRuns hc

/-! ## One character of a text -/

theorem lowerChar_of_isBlank {c : Char} (hc : isBlank c = true) (b : Bool) (rest : List Char) :
    lowerChar b c rest = [c] := by
  obtain ⟨-, -, hs, h₁, h₂⟩ := blank_rules hc
  unfold lowerChar
  rw [if_neg h₁, if_neg h₂, hs]

/-- A character that is not blank becomes characters that are not blank, and at least one. -/
theorem lowerChar_of_not_isBlank {c : Char} (hc : isBlank c = false) (b : Bool)
    (rest : List Char) :
    lowerChar b c rest ≠ [] ∧ ∀ d ∈ lowerChar b c rest, isBlank d = false := by
  unfold lowerChar
  split_ifs
  · exact ⟨List.cons_ne_nil _ _, List.forall_mem_singleton.mpr (by decide)⟩
  · exact ⟨List.cons_ne_nil _ _, List.forall_mem_singleton.mpr (by decide)⟩
  · refine ⟨List.cons_ne_nil _ _, List.forall_mem_cons.mpr ⟨by decide, ?_⟩⟩
    exact List.forall_mem_singleton.mpr (by decide)
  · refine ⟨by simp, fun d hd => ?_⟩
    rw [List.mem_singleton.mp hd]
    exact isBlank_lowerSimple hc

/-! ## Texts -/

theorem startsCased_concat {c : Char} (hc : isBlank c = true) (cs : List Char) :
    startsCased (cs ++ [c]) = startsCased cs := by
  obtain ⟨hcased, hign, -⟩ := blank_rules hc
  unfold startsCased
  rw [List.dropWhile_append]
  cases h : cs.dropWhile isCaseIgnorable with
  | nil => simp [hign, hcased]
  | cons d ds => simp

theorem lowerFrom_concat_blank {c : Char} (hc : isBlank c = true) (b : Bool) (cs : List Char) :
    lowerFrom b (cs ++ [c]) = lowerFrom b cs ++ [c] := by
  induction cs generalizing b with
  | nil => simp [lowerFrom, lowerChar_of_isBlank hc]
  | cons d ds ih =>
    have hd : lowerChar b d (ds ++ [c]) = lowerChar b d ds := by
      unfold lowerChar
      rw [startsCased_concat hc]
    rw [List.cons_append, lowerFrom, lowerFrom, hd, ih, List.append_assoc]

/-- The last character of a text decides how its lower case ends. -/
theorem exists_lowerFrom_concat (b : Bool) (cs : List Char) (c : Char) :
    ∃ front b', lowerFrom b (cs ++ [c]) = front ++ lowerChar b' c [] := by
  induction cs generalizing b with
  | nil => exact ⟨[], b, by simp [lowerFrom]⟩
  | cons d ds ih =>
    obtain ⟨front, b', h⟩ := ih (if isCaseIgnorable d then b else isCased d)
    exact ⟨lowerChar b d (ds ++ [c]) ++ front, b', by
      rw [List.cons_append, lowerFrom, h, List.append_assoc]⟩

theorem dropWhile_isBlank_append {cs ds : List Char} (hne : cs ≠ [])
    (h : ∀ c ∈ cs, isBlank c = false) : (cs ++ ds).dropWhile isBlank = cs ++ ds := by
  cases cs with
  | nil => exact absurd rfl hne
  | cons c cs =>
    rw [List.cons_append, List.dropWhile_cons_of_neg]
    rw [h c List.mem_cons_self]
    exact Bool.false_ne_true

theorem dropWhile_isBlank_lowerFrom (cs : List Char) :
    (lowerFrom false cs).dropWhile isBlank = lowerFrom false (cs.dropWhile isBlank) := by
  induction cs with
  | nil => rfl
  | cons c cs ih =>
    cases hc : isBlank c with
    | true =>
      obtain ⟨hcased, hign, -⟩ := blank_rules hc
      rw [lowerFrom, lowerChar_of_isBlank hc, hign, hcased, List.dropWhile_cons_of_pos hc, ← ih]
      exact List.dropWhile_cons_of_pos hc
    | false =>
      obtain ⟨hne, hall⟩ := lowerChar_of_not_isBlank hc false cs
      rw [List.dropWhile_cons_of_neg (by simp [hc]), lowerFrom]
      exact dropWhile_isBlank_append hne hall

theorem trimEnd_append {cs ds : List Char} (hne : ds ≠ []) (h : ∀ c ∈ ds, isBlank c = false) :
    trimEnd isBlank (cs ++ ds) = cs ++ ds := by
  refine List.rdropWhile_eq_self_iff.mpr fun hl => ?_
  rw [List.getLast_append_of_ne_nil hl hne, h _ (List.getLast_mem hne)]
  exact Bool.false_ne_true

theorem trimEnd_lowerFrom (b : Bool) (cs : List Char) :
    trimEnd isBlank (lowerFrom b cs) = lowerFrom b (trimEnd isBlank cs) := by
  induction cs using List.reverseRecOn with
  | nil => rfl
  | append_singleton cs c ih =>
    cases hc : isBlank c with
    | true =>
      rw [lowerFrom_concat_blank hc]
      exact (List.rdropWhile_concat_pos isBlank _ c hc).trans
        (ih.trans (congrArg _ (List.rdropWhile_concat_pos isBlank cs c hc).symm))
    | false =>
      obtain ⟨front, b', h⟩ := exists_lowerFrom_concat b cs c
      obtain ⟨hne, hall⟩ := lowerChar_of_not_isBlank hc b' []
      have hcs : trimEnd isBlank (cs ++ [c]) = cs ++ [c] :=
        List.rdropWhile_concat_neg isBlank cs c (by simp [hc])
      rw [hcs, h]
      exact trimEnd_append hne hall

theorem stripChars_lowerFrom (cs : List Char) :
    stripChars (lowerFrom false cs) = lowerFrom false (stripChars cs) := by
  unfold stripChars trimBoth
  rw [dropWhile_isBlank_lowerFrom, trimEnd_lowerFrom]

/-- Removing blank characters at both ends and going to lower case commute. -/
theorem lower_strip (s : String) : lower (strip s) = strip (lower s) := by
  simp only [lower, strip, String.toList_ofList, stripChars_lowerFrom]

end QueryWarden.Text
