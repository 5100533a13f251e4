import Mathlib.Data.Nat.Bitwise
import QueryWarden.Pattern.Flags

/-!
# Letters and bits of flags

The bit of a flag is set by its letter and by nothing else (`hasFlag_flagsOfLetters`), so the letters
of the flags that letters set are the known ones among these, each once and in the order of the table
(`lettersOfFlags_flagsOfLetters`).  A union of the bits of the table has the letters that set it
(`flagsOfLetters_lettersOfFlags`).
-/

namespace QueryWarden.Pattern

def knownLetters : List Char :=
  ['i', 'l', 'm', 's', 'u', 'x']

/-- The letters of a text that stand for a flag, each once and in the order of the table. -/
def recognised (s : String) : String :=
  String.ofList (knownLetters.filter s.toList.contains)

/-- Whether flags are a union of bits of the table. -/
def IsFlagUnion (flags : Int) : Prop :=
  ∃ chosen, chosen ⊆ flagLetters ∧ flags = ((chosen.map (·.1)).foldl (· ||| ·) 0 : Nat)

/-! ## The table -/

theorem knownLetters_eq : knownLetters = flagLetters.map (·.2) := rfl

theorem fst_eq_two_pow : ∀ f ∈ flagLetters, f.1 = 2 ^ f.1.log2 := by decide

theorem flagOfLetter_snd : ∀ f ∈ flagLetters, flagOfLetter f.2 = f.1 := by decide

/-- Distinct flags of the table have distinct letters and share no bit. -/
theorem hasFlag_fst : ∀ f ∈ flagLetters, ∀ g ∈ flagLetters, hasFlag g.1 f.1 = (g.2 == f.2) := by
  decide

theorem flagOfLetter_of_notMem {c : Char} (h : c ∉ knownLetters) : flagOfLetter c = 0 := by
  have hnone : flagLetters.find? (fun f => f.2 == c) = none := by
    refine List.find?_eq_none.mpr fun f hf hc => h ?_
    rw [← beq_iff_eq.mp hc, knownLetters_eq]
    exact List.mem_map_of_mem hf
  rw [flagOfLetter, hnone]
  rfl

/-! ## Bits of unions -/

theorem hasFlag_two_pow (n i : Nat) : hasFlag n (2 ^ i : Nat) = n.testBit i := by
  unfold hasFlag
  rw [Nat.testBit_eq_decide_div_mod_eq, beq_eq_decide]
  refine decide_eq_decide.mpr ?_
  norm_cast

theorem testBit_foldl_or (as : List Nat) (n i : Nat) :
    (as.foldl (· ||| ·) n).testBit i = (n.testBit i || as.any (·.testBit i)) := by
  induction as generalizing n with
  | nil => simp
  | cons a as ih => rw [List.foldl_cons, ih, Nat.testBit_or, List.any_cons, Bool.or_assoc]

theorem flagsOfLetters_eq_foldl (s : String) :
    flagsOfLetters s = (s.toList.map flagOfLetter).foldl (· ||| ·) 0 := by
  rw [flagsOfLetters, List.foldl_map]

theorem testBit_flagsOfLetters (s : String) (i : Nat) :
    (flagsOfLetters s).testBit i = s.toList.any fun c => (flagOfLetter c).testBit i := by
  rw [flagsOfLetters_eq_foldl, testBit_foldl_or, Nat.zero_testBit, Bool.false_or, List.any_map]
  rfl

/-- A letter sets the flag of the table that it stands for, and no other. -/
theorem hasFlag_flagOfLetter {f : Nat × Char} (hf : f ∈ flagLetters) (c : Char) :
    hasFlag (flagOfLetter c) f.1 = (c == f.2) := by
  by_cases hc : c ∈ knownLetters
  · rw [knownLetters_eq] at hc
    obtain ⟨g, hg, rfl⟩ := List.mem_map.mp hc
    rw [flagOfLetter_snd g hg]
    exact hasFlag_fst f hf g hg
  · have hne : c ≠ f.2 := by
      rintro rfl
      rw [knownLetters_eq] at hc
      exact hc (List.mem_map_of_mem hf)
    rw [flagOfLetter_of_notMem hc, beq_eq_false_iff_ne.mpr hne]
    simp [hasFlag]

theorem hasFlag_flagsOfLetters {f : Nat × Char} (hf : f ∈ flagLetters) (s : String) :
    hasFlag (flagsOfLetters s) f.1 = s.toList.contains f.2 := by
  have hbit : ∀ c, (flagOfLetter c).testBit f.1.log2 = (c == f.2) := fun c => by
    rw [← hasFlag_two_pow, ← fst_eq_two_pow f hf]
    exact hasFlag_flagOfLetter hf c
  rw [fst_eq_two_pow f hf, hasFlag_two_pow, testBit_flagsOfLetters]
  simp only [hbit]
  rw [Bool.eq_iff_iff]
  simp

/-! ## Back and forth -/

/-- The letters of the flags that a text sets are the known ones in the text. -/
theorem lettersOfFlags_flagsOfLetters (s : String) :
    lettersOfFlags (flagsOfLetters s) = recognised s := by
  have hset : flagLetters.filter (fun f => hasFlag (flagsOfLetters s) f.1)
      = flagLetters.filter (s.toList.contains ∘ (·.2)) :=
    List.filter_congr fun f hf => hasFlag_flagsOfLetters hf s
  rw [lettersOfFlags, recognised, knownLetters_eq, List.filter_map, hset]

/-- Letters that stand for no flag, repetitions and the order of letters make no difference. -/
theorem flagsOfLetters_recognised (s : String) :
    flagsOfLetters (recognised s) = flagsOfLetters s := by
  refine Nat.eq_of_testBit_eq fun i => ?_
  rw [testBit_flagsOfLetters, testBit_flagsOfLetters, recognised, String.toList_ofList,
    Bool.eq_iff_iff, List.any_eq_true, List.any_eq_true]
  constructor
  · rintro ⟨c, hc, hbit⟩
    exact ⟨c, List.contains_iff_mem.mp (List.mem_filter.mp hc).2, hbit⟩
  · rintro ⟨c, hc, hbit⟩
    refine ⟨c, List.mem_filter.mpr ⟨?_, List.contains_iff_mem.mpr hc⟩, hbit⟩
    by_contra hunknown
    rw [flagOfLetter_of_notMem hunknown, Nat.zero_testBit] at hbit
    exact Bool.noConfusion hbit

theorem exists_letters_of_isFlagUnion {flags : Int} (h : IsFlagUnion flags) :
    ∃ s, flags = flagsOfLetters s := by
  obtain ⟨chosen, hchosen, rfl⟩ := h
  refine ⟨String.ofList (chosen.map (·.2)), congrArg Nat.cast ?_⟩
  rw [flagsOfLetters_eq_foldl, String.toList_ofList, List.map_map]
  refine congrArg (List.foldl _ 0) (List.map_congr_left fun f hf => ?_)
  exact (flagOfLetter_snd f (hchosen hf)).symm

/-- A union of flags is set by its letters. -/
theorem flagsOfLetters_lettersOfFlags {flags : Int} (h : IsFlagUnion flags) :
    flagsOfLetters (lettersOfFlags flags) = flags := by
  obtain ⟨s, rfl⟩ := exists_letters_of_isFlagUnion h
  rw [lettersOfFlags_flagsOfLetters, flagsOfLetters_recognised]

end QueryWarden.Pattern
