import Mathlib.Data.List.Infix
import QueryWarden.Reply.Extraction

/-!
# The first fence of a text

`splitFence?` splits a text at its first fence, so it gives what `beforeFence?` and `afterFence?` give
(`beforeFence?_eq`, `afterFence?_eq`).

A search that finds a fence in the front of a text ends there (`splitFence?_append`), and one that
does not goes on behind the next character that is no backtick (`splitFence?_skip`), since no fence
stands across such a character.  A front without backticks is passed over (`splitFence?_of_notMem`).
-/

namespace QueryWarden.Reply

/-- Three backticks. -/
def fence : List Char :=
  ['\x60', '\x60', '\x60']

def splitFence? : List Char → Option (List Char × List Char)
  | '\x60' :: '\x60' :: '\x60' :: rest => some ([], rest)
  | c :: rest => (splitFence? rest).map fun parts => (c :: parts.1, parts.2)
  | [] => none

theorem beforeFence?_eq (cs : List Char) : beforeFence? cs = (splitFence? cs).map (·.1) := by
  fun_induction splitFence? cs with
  | case1 => rw [beforeFence?, Option.map_some]
  | case2 c rest hne ih =>
    rw [beforeFence?.eq_2 c rest hne, ih, Option.map_map, Option.map_map]
    rfl
  | case3 => rfl

theorem afterFence?_eq (cs : List Char) : afterFence? cs = (splitFence? cs).map (·.2) := by
  fun_induction splitFence? cs with
  | case1 => rw [afterFence?, Option.map_some]
  | case2 c rest hne ih =>
    rw [afterFence?.eq_2 c rest hne, ih, Option.map_map]
    rfl
  | case3 => rfl

section Search

variable {front back : List Char} {parts : List Char × List Char} {c : Char}

theorem splitFence?_cons {cs : List Char} (h : ¬ fence <+: c :: cs) :
    splitFence? (c :: cs) = (splitFence? cs).map fun parts => (c :: parts.1, parts.2) := by
  refine splitFence?.eq_2 c cs fun rest hc hrest => h ⟨rest, ?_⟩
  rw [hc, hrest]
  rfl

theorem splitFence?_fence (rest : List Char) : splitFence? (fence ++ rest) = some ([], rest) := rfl

theorem splitFence?_of_notMem (h : '\x60' ∉ front) (back : List Char) :
    splitFence? (front ++ back) =
      (splitFence? back).map fun parts => (front ++ parts.1, parts.2) := by
  induction front with
  | nil => simp
  | cons c front ih =>
    rw [List.cons_append, splitFence?_cons, ih (mt (List.mem_cons_of_mem c) h), Option.map_map]
    · rfl
    · intro hf
      have hc : '\x60' = c := (List.cons_prefix_cons.mp hf).1
      exact h (hc ▸ List.mem_cons_self)

theorem eq_of_splitFence? (h : splitFence? front = some parts) :
    front = parts.1 ++ (fence ++ parts.2) := by
  fun_induction splitFence? front generalizing parts with
  | case1 rest =>
    obtain rfl := Option.some.inj h
    rfl
  | case2 c rest _ ih =>
    obtain ⟨tail, htail, rfl⟩ := Option.map_eq_some_iff.mp h
    rw [List.cons_append, ← ih htail]
  | case3 => simp at h

theorem not_fence_infix_of_splitFence? (h : splitFence? front = none) : ¬ fence <:+: front := by
  fun_induction splitFence? front with
  | case1 => simp at h
  | case2 c rest hne ih =>
    intro hf
    rcases List.infix_cons_iff.mp hf with ⟨rest', hp⟩ | hi
    · obtain ⟨hc, hrest⟩ := List.cons.inj hp
      exact hne rest' hc.symm hrest.symm
    · exact ih (Option.map_eq_none_iff.mp h) hi
  | case3 => exact fun hf => absurd (List.infix_nil.mp hf) (List.cons_ne_nil _ _)

theorem splitFence?_append (h : splitFence? front = some parts) (back : List Char) :
    splitFence? (front ++ back) = some (parts.1, parts.2 ++ back) := by
  fun_induction splitFence? front generalizing parts with
  | case1 rest =>
    obtain rfl := Option.some.inj h
    rfl
  | case2 c rest hne ih =>
    obtain ⟨tail, htail, rfl⟩ := Option.map_eq_some_iff.mp h
    rw [List.cons_append, splitFence?_cons, ih htail, Option.map_some]
    -- The rest holds a fence, so a fence at the start of the whole is one of the front.
    intro hf
    have hlen : fence.length ≤ (c :: rest).length := by
      rw [eq_of_splitFence? htail]
      simp only [List.length_cons, List.length_append]
      omega
    obtain ⟨rest', hp⟩ := List.prefix_of_prefix_length_le hf (List.prefix_append (c :: rest) back) hlen
    obtain ⟨hc, hrest⟩ := List.cons.inj hp
    exact hne rest' hc.symm hrest.symm
  | case3 => simp at h

/-- No fence stands across a character that is no backtick. -/
theorem not_fence_prefix_append (hc : c ≠ '\x60') (h : ¬ fence <+: front) :
    ¬ fence <+: front ++ c :: back := by
  intro hf
  rcases List.prefix_or_prefix_of_prefix hf (List.prefix_append front _) with hp | ⟨rest, hp⟩
  · exact h hp
  · rw [← hp, List.prefix_append_right_inj] at hf
    cases rest with
    | nil => exact h ⟨[], by rw [← hp, List.append_nil, List.append_nil]⟩
    | cons d rest =>
      have hd : d ∈ fence := hp ▸ List.mem_append_right _ List.mem_cons_self
      have hdc : d = c := (List.cons_prefix_cons.mp hf).1
      simp [fence, hdc, hc] at hd

theorem splitFence?_skip (hc : c ≠ '\x60') (h : ¬ fence <:+: front) :
    splitFence? (front ++ c :: back) =
      (splitFence? back).map fun parts => (front ++ c :: parts.1, parts.2) := by
  induction front with
  | nil => exact splitFence?_cons (not_fence_prefix_append hc (mt List.IsPrefix.isInfix h))
  | cons d front ih =>
    rw [List.cons_append, splitFence?_cons, ih (mt List.infix_cons h), Option.map_map]
    · rfl
    · exact not_fence_prefix_append hc (mt List.IsPrefix.isInfix h)

end Search

/-! ## The tag behind a fence -/

theorem dropTag_suffix (cs : List Char) : dropTag cs <:+ cs := by
  unfold dropTag
  split
  · rename_i a b c d rest
    split_ifs
    · exact ⟨[a, b, c, d], rfl⟩
    · exact List.suffix_refl _
  · exact List.suffix_refl _

theorem isLetter_brace {letter : Char} (h : letter ≠ '\x7b') : isLetter letter '\x7b' = false := by
  have hlower : Char.toLower '\x7b' = '\x7b' := by decide
  unfold isLetter
  rw [hlower, Bool.or_eq_false_iff]
  exact ⟨beq_eq_false_iff_ne.mpr h.symm, by simp⟩

theorem dropTag_of_mem_take {cs : List Char} (h : '\x7b' ∈ cs.take 4) : dropTag cs = cs := by
  unfold dropTag
  split
  · rename_i a b c d rest
    rw [if_neg]
    simp only [List.take_succ_cons, List.take_zero, List.mem_cons, List.not_mem_nil, or_false] at h
    rcases h with rfl | rfl | rfl | rfl <;> simp [isLetter_brace]
  · rfl

/-- No tag reaches over a brace. -/
theorem dropTag_append_brace (front back : List Char) :
    ∃ front', front' <:+ front ∧ dropTag (front ++ '\x7b' :: back) = front' ++ '\x7b' :: back := by
  match front with
  | a :: b :: c :: d :: rest =>
    simp only [List.cons_append, dropTag]
    split_ifs
    · exact ⟨rest, ⟨[a, b, c, d], rfl⟩, rfl⟩
    · exact ⟨a :: b :: c :: d :: rest, List.suffix_refl _, rfl⟩
  | [] | [_] | [_, _] | [_, _, _] =>
    exact ⟨_, List.suffix_refl _, dropTag_of_mem_take (by simp)⟩

end QueryWarden.Reply
