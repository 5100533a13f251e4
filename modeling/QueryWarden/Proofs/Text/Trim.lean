import Mathlib.Data.List.DropRight
import Mathlib.Data.List.TakeWhile
import QueryWarden.Text.Blank

/-!
# Trimming around a text

A text whose first and last characters are not blank stays whole when a longer text is trimmed;
only what stands before and behind it is trimmed (`stripChars_around`).  A trimmed text begins with
the first character that is not blank (`head?_stripChars`), and nothing is left of a text exactly
when all of it is blank (`strip_eq_empty_iff`).
-/

namespace QueryWarden.Text

variable {p : Char → Bool} {c : Char}

theorem dropWhile_append_cons (hc : p c = false) (l r : List Char) :
    (l ++ c :: r).dropWhile p = l.dropWhile p ++ c :: r := by
  rw [List.dropWhile_append, List.dropWhile_cons_of_neg (by simp [hc])]
  split_ifs with hl
  · rw [List.isEmpty_iff.mp hl, List.nil_append]
  · rfl

theorem trimEnd_append_cons (hc : p c = false) (l r : List Char) :
    trimEnd p (l ++ c :: r) = l ++ c :: trimEnd p r := by
  unfold trimEnd
  rw [List.reverse_append, List.reverse_cons, List.append_assoc, List.singleton_append,
    dropWhile_append_cons hc, List.reverse_append, List.reverse_cons, List.reverse_reverse,
    List.append_assoc, List.singleton_append]

theorem trimEnd_cons_of_exists {cs : List Char} (h : ∃ d ∈ c :: cs, p d = false) :
    trimEnd p (c :: cs) = c :: trimEnd p cs := by
  obtain ⟨d, hd, hp⟩ := h
  rcases List.mem_cons.mp hd with rfl | hd
  · exact trimEnd_append_cons hp [] cs
  · obtain ⟨front, behind, rfl⟩ := List.append_of_mem hd
    rw [trimEnd_append_cons hp, ← List.cons_append, trimEnd_append_cons hp, List.cons_append]

/-- Trimming leaves a text whole that starts and ends with characters that are not blank. -/
theorem stripChars_around {a b : Char} (ha : isBlank a = false) (hb : isBlank b = false)
    (before body behind : List Char) :
    stripChars (before ++ a :: (body ++ b :: behind)) =
      before.dropWhile isBlank ++ a :: (body ++ b :: trimEnd isBlank behind) := by
  unfold stripChars trimBoth
  rw [dropWhile_append_cons ha, ← List.cons_append, ← List.append_assoc, trimEnd_append_cons hb,
    List.append_assoc, List.cons_append]

theorem stripChars_eq_self {cs : List Char} (h : ∀ c ∈ cs, isBlank c = false) :
    stripChars cs = cs := by
  have hkeep {ds : List Char} (hds : ∀ c ∈ ds, isBlank c = false) : ds.dropWhile isBlank = ds := by
    cases ds with
    | nil => rfl
    | cons c ds =>
      refine List.dropWhile_cons_of_neg ?_
      rw [hds c List.mem_cons_self]
      exact Bool.false_ne_true
  unfold stripChars trimBoth trimEnd
  rw [hkeep h, hkeep fun c hc => h c (List.mem_reverse.mp hc), List.reverse_reverse]

theorem dropWhile_eq_nil_or_cons (p : Char → Bool) (cs : List Char) :
    cs.dropWhile p = [] ∨ ∃ c rest, cs.dropWhile p = c :: rest ∧ p c = false ∧ c ∈ cs := by
  cases h : cs.dropWhile p with
  | nil => exact .inl rfl
  | cons c rest =>
    have hne : cs.dropWhile p ≠ [] := by
      rw [h]
      exact List.cons_ne_nil c rest
    have hp := List.head_dropWhile_not p hne
    have hmem : c ∈ cs := (List.dropWhile_suffix p).subset (h ▸ List.mem_cons_self)
    simp only [h, List.head_cons] at hp
    exact .inr ⟨c, rest, rfl, hp, hmem⟩

theorem trimEnd_eq_nil_or_concat (p : Char → Bool) (cs : List Char) :
    trimEnd p cs = [] ∨ ∃ front c, trimEnd p cs = front ++ [c] ∧ p c = false ∧ c ∈ cs := by
  unfold trimEnd
  rcases dropWhile_eq_nil_or_cons p cs.reverse with h | ⟨c, rest, h, hp, hmem⟩
  · exact .inl (by rw [h, List.reverse_nil])
  · exact .inr ⟨rest.reverse, c, by rw [h, List.reverse_cons], hp, List.mem_reverse.mp hmem⟩

theorem notMem_of_isBlank {cs : List Char} (h : ∀ d ∈ cs, isBlank d = true)
    (hc : isBlank c = false) : c ∉ cs := by
  intro hmem
  rw [h c hmem] at hc
  exact Bool.noConfusion hc

/-- A trimmed text begins with the first character that is not blank. -/
theorem head?_stripChars (cs : List Char) :
    (stripChars cs).head? = cs.find? fun c => !isBlank c := by
  rw [List.find?_not_eq_head?_dropWhile]
  unfold stripChars trimBoth
  rcases dropWhile_eq_nil_or_cons isBlank cs with h | ⟨c, rest, h, hc, -⟩
  · rw [h]
    rfl
  · have htrim : trimEnd isBlank (c :: rest) = c :: trimEnd isBlank rest :=
      trimEnd_append_cons hc [] rest
    rw [h, htrim]
    rfl

theorem stripChars_subset (cs : List Char) : stripChars cs ⊆ cs := by
  unfold stripChars trimBoth trimEnd
  intro c hc
  have h := (List.dropWhile_suffix _).subset (List.mem_reverse.mp hc)
  exact (List.dropWhile_suffix _).subset (List.mem_reverse.mp h)

theorem strip_eq_empty_iff {s : String} : strip s = "" ↔ isBlankText s = true := by
  unfold strip isBlankText
  rw [String.ofList_eq_empty_iff, List.all_eq_true]
  constructor
  · intro h c hc
    by_contra hb
    -- A character that is not blank would be left.
    obtain ⟨front, behind, hs⟩ := List.append_of_mem hc
    have hb' : isBlank c = false := Bool.eq_false_iff.mpr hb
    rw [hs, stripChars, trimBoth, dropWhile_append_cons hb', trimEnd_append_cons hb'] at h
    simp at h
  · intro h
    unfold stripChars trimBoth
    rw [List.dropWhile_eq_nil_iff.mpr h]
    rfl

end QueryWarden.Text
