import QueryWarden.Query.Fuzzy
import QueryWarden.Proofs.Text.LowerBlank

/-!
# Reading escaped patterns

`readLiteral?` reads a pattern from left to right as a text: a backslash stands for the character
behind it, and every other character for itself unless a regular expression reads it as more.

1. An escaped text is read back as the text (`readLiteral?_escapeChars`), so no two texts have one
   pattern (`escape_injective`).
2. Escaping puts a backslash before the white space of the number readers and before no other blank
   character (`special_contains_of_isBlank`).  So the pattern of a blank text is blank only when the
   text has none of the former (`isBlankText_escape_iff`).
-/

namespace QueryWarden.Pattern

/-! ## Patterns as texts -/

/-- The characters that a regular expression reads as more than themselves. -/
def metacharacters : List Char :=
  ['.', '^', '$', '*', '+', '?', '\x7b', '\x7d', '[', ']', '(', ')', '|', '\\']

/-- Whether a character stands for itself behind a backslash.  No letter and no digit does, and what
is not ASCII counts as one here, so that every reader of patterns agrees. -/
def isEscapable (c : Char) : Bool :=
  c.toNat < 128 && !c.isAlphanum

/-- The text that a pattern without active metacharacters stands for. -/
def readLiteral? : List Char → Option (List Char)
  | [] => some []
  | '\\' :: c :: cs => if isEscapable c then (readLiteral? cs).map (c :: ·) else none
  | c :: cs => if metacharacters.contains c then none else (readLiteral? cs).map (c :: ·)

theorem isEscapable_of_special {c : Char} (h : special.contains c = true) :
    isEscapable c = true := by
  have hall : special.all isEscapable = true := by decide
  exact List.all_eq_true.mp hall c (List.contains_iff_mem.mp h)

theorem special_of_metacharacters {c : Char} (h : metacharacters.contains c = true) :
    special.contains c = true := by
  have hall : metacharacters.all special.contains = true := by decide
  exact List.all_eq_true.mp hall c (List.contains_iff_mem.mp h)

theorem readLiteral?_escaped {c : Char} (h : isEscapable c = true) (cs : List Char) :
    readLiteral? ('\\' :: c :: cs) = (readLiteral? cs).map (c :: ·) := by
  rw [readLiteral?, if_pos h]

theorem readLiteral?_plain {c : Char} (h : metacharacters.contains c = false) (cs : List Char) :
    readLiteral? (c :: cs) = (readLiteral? cs).map (c :: ·) := by
  rw [readLiteral?]
  · rw [if_neg (Bool.eq_false_iff.mp h)]
  · rintro d ds rfl
    exact absurd h (by decide)

theorem readLiteral?_escapeChar (c : Char) (cs : List Char) :
    readLiteral? (escapeChar c ++ cs) = (readLiteral? cs).map (c :: ·) := by
  unfold escapeChar
  cases hc : special.contains c with
  | true =>
    rw [if_pos rfl]
    exact readLiteral?_escaped (isEscapable_of_special hc) cs
  | false =>
    rw [if_neg Bool.false_ne_true]
    refine readLiteral?_plain (Bool.eq_false_iff.mpr fun hm => ?_) cs
    rw [special_of_metacharacters hm] at hc
    exact Bool.noConfusion hc

theorem readLiteral?_escapeChars (cs : List Char) : readLiteral? (escapeChars cs) = some cs := by
  induction cs with
  | nil => rfl
  | cons c cs ih =>
    have hcons : escapeChars (c :: cs) = escapeChar c ++ escapeChars cs := rfl
    rw [hcons, readLiteral?_escapeChar, ih, Option.map_some]

theorem readLiteral?_escape (s : String) : readLiteral? (escape s).toList = some s.toList := by
  rw [escape, String.toList_ofList, readLiteral?_escapeChars]

theorem escape_injective : Function.Injective escape := by
  intro s t h
  have hread := readLiteral?_escape s
  rw [h, readLiteral?_escape] at hread
  exact String.toList_injective (Option.some.inj hread).symm

/-! ## Blank patterns -/

theorem special_contains_of_isBlank {c : Char} (h : Text.isBlank c = true) :
    special.contains c = Text.isAsciiBlank c :=
  Text.forall_isBlank (P := fun c => special.contains c = Text.isAsciiBlank c) (by decide +kernel) h

/-- A character leaves a blank pattern when it is blank and gets no backslash. -/
theorem all_isBlank_escapeChar (c : Char) :
    (escapeChar c).all Text.isBlank = (Text.isBlank c && !Text.isAsciiBlank c) := by
  have hbackslash : Text.isBlank '\\' = false := by decide
  unfold escapeChar
  cases hc : Text.isBlank c with
  | true =>
    rw [special_contains_of_isBlank hc]
    cases Text.isAsciiBlank c <;> simp [hc, hbackslash]
  | false => cases special.contains c <;> simp [hc]

/-- The pattern of a text is blank when the text has blank characters only, and none that gets a
backslash. -/
theorem isBlankText_escape_iff {s : String} :
    Text.isBlankText (escape s) = true ↔
      ∀ c ∈ s.toList, Text.isBlank c = true ∧ Text.isAsciiBlank c = false := by
  unfold Text.isBlankText escape escapeChars
  rw [String.toList_ofList, List.all_flatMap, List.all_eq_true]
  refine forall₂_congr fun c _ => ?_
  rw [all_isBlank_escapeChar, Bool.and_eq_true, Bool.not_eq_true']

end QueryWarden.Pattern
