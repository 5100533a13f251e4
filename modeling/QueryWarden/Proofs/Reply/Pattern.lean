import QueryWarden.Proofs.Reply.Fence
import QueryWarden.Proofs.Text.Trim

/-!
# The pattern of a fence

The content of the first fence, the blank characters around it left out, is what a backtracking search
captures for the pattern of a fence: three backticks, a tag or none, blank characters, a line break or
none, the captured text, a line break or none, blank characters, three backticks.

A part of a pattern tries its ways to go on in the order of its preference and takes the first one that
the rest of the pattern can follow (`Part.read`).  The search tries the places of the text from the left
(`search`).

1. The end of the pattern is read exactly where nothing but blank characters stand before a fence
   (`matchAt_closing`), so the shortest captured text ends there (`capture_closing`).
2. The longest run of blank characters behind the tag is taken, since there is a reading behind it when
   there is any (`matchAt_content`), and so is the tag (`matchAt_tagged`).
3. When there is no reading behind the first three backticks, there is no second fence, so no later
   place has a reading either (`search_fencePattern`).
-/

namespace QueryWarden.Reply

open Text

/-! ## Patterns -/

/-- A part of a pattern: a row of characters, such a row or nothing, any number of characters of a class
as far as possible, and a captured text as short as possible. -/
inductive Part
  | row (ps : List (Char → Bool))
  | option (ps : List (Char → Bool))
  | many (p : Char → Bool)
  | capture

/-- The characters behind a row of characters of the given classes. -/
def dropRow? : List (Char → Bool) → List Char → Option (List Char)
  | [], cs => some cs
  | _ :: _, [] => none
  | p :: ps, c :: cs => if p c then dropRow? ps cs else none

/-- Reads characters of a class, the more the better, and then the rest of the pattern. -/
def readMany (p : Char → Bool) (next : List Char → Option (List Char)) :
    List Char → Option (List Char)
  | [] => next []
  | c :: cs => if p c then (readMany p next cs).or (next (c :: cs)) else next (c :: cs)

/-- Captures characters, the fewer the better, and then reads the rest of the pattern. -/
def readCapture (next : List Char → Option (List Char)) : List Char → Option (List Char)
  | [] => next []
  | c :: cs => (next (c :: cs)).or ((readCapture next cs).map (c :: ·))

/-- What is captured by a part of a pattern and the rest of it. -/
def Part.read (next : List Char → Option (List Char)) : Part → List Char → Option (List Char)
  | .row ps, cs => (dropRow? ps cs).bind next
  | .option ps, cs => ((dropRow? ps cs).bind next).or (next cs)
  | .many p, cs => readMany p next cs
  | .capture, cs => readCapture next cs

/-- What a pattern captures at the start of a text. -/
def matchAt : List Part → List Char → Option (List Char)
  | [], _ => some []
  | part :: parts, cs => part.read (matchAt parts) cs

/-- What a pattern captures at the first place where it has a reading. -/
def search (parts : List Part) : List Char → Option (List Char)
  | [] => matchAt parts []
  | c :: cs => (matchAt parts (c :: cs)).or (search parts cs)

/-- The row of the characters of a text. -/
def literal (w : List Char) : List (Char → Bool) :=
  w.map fun c d => d == c

/-- The end of the pattern, from the line break behind the captured text on. -/
def closing : List Part :=
  [.option (literal ['\n']), .many isBlank, .row (literal fence)]

/-- The pattern behind the tag. -/
def content : List Part :=
  .many isBlank :: .option (literal ['\n']) :: .capture :: closing

/-- The letters of a tag, each in any case. -/
def tagRow : List (Char → Bool) :=
  [isLetter 'j', isLetter 's', isLetter 'o', isLetter 'n']

def tagged : List Part :=
  .option tagRow :: content

def fencePattern : List Part :=
  .row (literal fence) :: tagged

/-! ## What a reading consumes -/

section Readings

variable {p : Char → Bool} {ps : List (Char → Bool)} {next : List Char → Option (List Char)}
  {cs cs' r w : List Char} {parts : List Part}

theorem dropRow?_literal : dropRow? (literal w) cs = some cs' ↔ cs = w ++ cs' := by
  induction w generalizing cs with
  | nil =>
    show some cs = some cs' ↔ _
    simp
  | cons c w ih =>
    cases cs with
    | nil =>
      show none = some cs' ↔ _
      simp
    | cons d ds =>
      show (if (d == c) = true then dropRow? (literal w) ds else none) = some cs' ↔ _
      by_cases hd : d = c
      · simp [hd, ih]
      · simp [hd]

theorem exists_of_dropRow? (h : dropRow? ps cs = some cs') :
    ∃ front, cs = front ++ cs' ∧ ∀ c ∈ front, ∃ p ∈ ps, p c = true := by
  fun_induction dropRow? ps cs with
  | case1 cs =>
    obtain rfl := Option.some.inj h
    exact ⟨[], rfl, by simp⟩
  | case2 => simp at h
  | case3 p ps c cs hc ih =>
    obtain ⟨front, rfl, hfront⟩ := ih h
    refine ⟨c :: front, rfl, List.forall_mem_cons.mpr ⟨⟨p, List.mem_cons_self, hc⟩, ?_⟩⟩
    intro d hd
    obtain ⟨q, hq, hqd⟩ := hfront d hd
    exact ⟨q, List.mem_cons_of_mem p hq, hqd⟩
  | case4 => simp at h

theorem suffix_of_dropRow? (h : dropRow? ps cs = some cs') : cs' <:+ cs := by
  obtain ⟨front, hcs, -⟩ := exists_of_dropRow? h
  exact ⟨front, hcs.symm⟩

theorem exists_suffix_of_readMany (h : readMany p next cs = some r) :
    ∃ cs' r', cs' <:+ cs ∧ next cs' = some r' := by
  induction cs generalizing r with
  | nil => exact ⟨[], r, List.suffix_refl _, h⟩
  | cons c cs ih =>
    unfold readMany at h
    split_ifs at h
    · rcases Option.or_eq_some_iff.mp h with h | ⟨-, h⟩
      · obtain ⟨cs', r', hs, hr⟩ := ih h
        exact ⟨cs', r', hs.trans (List.suffix_cons c cs), hr⟩
      · exact ⟨_, r, List.suffix_refl _, h⟩
    · exact ⟨_, r, List.suffix_refl _, h⟩

theorem exists_suffix_of_readCapture (h : readCapture next cs = some r) :
    ∃ cs' r', cs' <:+ cs ∧ next cs' = some r' := by
  induction cs generalizing r with
  | nil => exact ⟨[], r, List.suffix_refl _, h⟩
  | cons c cs ih =>
    rcases Option.or_eq_some_iff.mp h with h | ⟨-, h⟩
    · exact ⟨_, r, List.suffix_refl _, h⟩
    · obtain ⟨r', h, -⟩ := Option.map_eq_some_iff.mp h
      obtain ⟨cs', r', hs, hr⟩ := ih h
      exact ⟨cs', r', hs.trans (List.suffix_cons c cs), hr⟩

/-- A reading of a part goes on with a reading of the rest of the pattern in what is left of the text. -/
theorem exists_suffix_of_read {part : Part} (h : part.read next cs = some r) :
    ∃ cs' r', cs' <:+ cs ∧ next cs' = some r' := by
  cases part with
  | row ps =>
    obtain ⟨cs', hrow, hr⟩ := Option.bind_eq_some_iff.mp h
    exact ⟨cs', r, suffix_of_dropRow? hrow, hr⟩
  | option ps =>
    rcases Option.or_eq_some_iff.mp h with h | ⟨-, h⟩
    · obtain ⟨cs', hrow, hr⟩ := Option.bind_eq_some_iff.mp h
      exact ⟨cs', r, suffix_of_dropRow? hrow, hr⟩
    · exact ⟨cs, r, List.suffix_refl _, h⟩
  | many p => exact exists_suffix_of_readMany h
  | capture => exact exists_suffix_of_readCapture h

theorem infix_of_matchAt (hw : .row (literal w) ∈ parts) (h : matchAt parts cs = some r) :
    w <:+: cs := by
  induction parts generalizing cs r with
  | nil => simp at hw
  | cons part parts ih =>
    rcases List.mem_cons.mp hw with rfl | hw
    · obtain ⟨cs', hrow, -⟩ := Option.bind_eq_some_iff.mp h
      exact ⟨[], cs', by rw [dropRow?_literal.mp hrow, List.nil_append]⟩
    · obtain ⟨cs', r', hs, hr⟩ := exists_suffix_of_read h
      exact (ih hw hr).trans hs.isInfix

/-- A reading behind the longest run is preferred. -/
theorem readMany_of_some (h : next (cs.dropWhile p) = some r) : readMany p next cs = some r := by
  induction cs with
  | nil => exact h
  | cons c cs ih =>
    unfold readMany
    by_cases hc : p c = true
    · rw [List.dropWhile_cons_of_pos hc] at h
      rw [if_pos hc, ih h, Option.some_or]
    · rw [List.dropWhile_cons_of_neg hc] at h
      rw [if_neg hc, h]

/-- Only the longest run is taken when the rest of the pattern does not start with such characters. -/
theorem readMany_of_none (h : ∀ c cs, p c = true → next (c :: cs) = none) (cs : List Char) :
    readMany p next cs = next (cs.dropWhile p) := by
  induction cs with
  | nil => rfl
  | cons c cs ih =>
    unfold readMany
    by_cases hc : p c = true
    · rw [if_pos hc, List.dropWhile_cons_of_pos hc, ih, h c cs hc, Option.or_none]
    · rw [if_neg hc, List.dropWhile_cons_of_neg hc]

theorem search_eq_none (h : ∀ cs', cs' <:+ cs → matchAt parts cs' = none) :
    search parts cs = none := by
  induction cs with
  | nil => exact h [] (List.suffix_refl _)
  | cons c cs ih =>
    unfold search
    rw [h _ (List.suffix_refl _), Option.none_or]
    exact ih fun cs' hs => h cs' (hs.trans (List.suffix_cons c cs))

end Readings

/-! ## The end of the pattern -/

theorem matchAt_fence {cs : List Char} :
    matchAt [.row (literal fence)] cs = if fence <+: cs then some [] else none := by
  show (dropRow? (literal fence) cs).bind (fun _ => some []) = _
  split_ifs with h
  · obtain ⟨rest, hrest⟩ := h
    rw [dropRow?_literal.mpr hrest.symm, Option.bind_some]
  · cases hrow : dropRow? (literal fence) cs with
    | none => rfl
    | some rest => exact absurd ⟨rest, (dropRow?_literal.mp hrow).symm⟩ h

theorem not_fence_prefix_of_isBlank {c : Char} (hc : isBlank c = true) (cs : List Char) :
    ¬ fence <+: c :: cs := by
  intro hf
  have hc' : '\x60' = c := (List.cons_prefix_cons.mp hf).1
  rw [← hc'] at hc
  exact absurd hc (by decide)

/-- The end of the pattern is read where nothing but blank characters stand before a fence. -/
theorem matchAt_closing (cs : List Char) :
    matchAt closing cs = if fence <+: cs.dropWhile isBlank then some [] else none := by
  have hmany (cs : List Char) : matchAt [.many isBlank, .row (literal fence)] cs =
      if fence <+: cs.dropWhile isBlank then some [] else none := by
    rw [← matchAt_fence]
    refine readMany_of_none (fun c cs hc => ?_) cs
    rw [matchAt_fence, if_neg (not_fence_prefix_of_isBlank hc cs)]
  show ((dropRow? (literal ['\n']) cs).bind _).or (matchAt [.many isBlank, _] cs) = _
  rw [hmany]
  cases hrow : dropRow? (literal ['\n']) cs with
  | none => rfl
  | some rest =>
    obtain rfl := dropRow?_literal.mp hrow
    rw [Option.bind_some, hmany, List.singleton_append, List.dropWhile_cons_of_pos (by decide),
      Option.or_self]

/-! ## The captured text -/

/-- Before a fence with nothing but blank characters in front of it, nothing is left. -/
theorem beforeFence?_of_closing {cs : List Char} (h : fence <+: cs.dropWhile isBlank) :
    (beforeFence? cs).map (trimEnd isBlank) = some [] := by
  obtain ⟨rest, hrest⟩ := h
  have hblank : ∀ c ∈ cs.takeWhile isBlank, isBlank c = true :=
    fun c hc => List.mem_takeWhile_imp hc
  have hsplit := splitFence?_of_notMem (notMem_of_isBlank hblank (by decide)) (fence ++ rest)
  rw [splitFence?_fence, hrest, List.takeWhile_append_dropWhile] at hsplit
  have hnil : trimEnd isBlank (cs.takeWhile isBlank) = [] := List.rdropWhile_eq_nil_iff.mpr hblank
  rw [beforeFence?_eq, hsplit]
  simp [hnil]

theorem beforeFence?_of_not_closing {c : Char} {cs : List Char}
    (h : ¬ fence <+: (c :: cs).dropWhile isBlank) :
    (beforeFence? (c :: cs)).map (trimEnd isBlank) =
      ((beforeFence? cs).map (trimEnd isBlank)).map (c :: ·) := by
  have hfence : ¬ fence <+: c :: cs := by
    intro hf
    by_cases hc : isBlank c = true
    · exact not_fence_prefix_of_isBlank hc cs hf
    · rw [List.dropWhile_cons_of_neg hc] at h
      exact h hf
  rw [beforeFence?_eq, beforeFence?_eq, splitFence?_cons hfence]
  cases hsplit : splitFence? cs with
  | none => rfl
  | some parts =>
    have hex : ∃ d ∈ c :: parts.1, isBlank d = false := by
      by_contra hall
      have hblank : ∀ d ∈ c :: parts.1, isBlank d = true := by
        intro d hd
        by_contra hd'
        exact hall ⟨d, hd, Bool.eq_false_iff.mpr hd'⟩
      rw [eq_of_splitFence? hsplit, ← List.cons_append, List.dropWhile_append_of_pos hblank] at h
      exact h ⟨parts.2, rfl⟩
    simp [trimEnd_cons_of_exists hex]

/-- The shortest captured text goes up to the blank characters before the first fence. -/
theorem capture_closing (cs : List Char) :
    matchAt (.capture :: closing) cs = (beforeFence? cs).map (trimEnd isBlank) := by
  induction cs with
  | nil => rfl
  | cons c cs ih =>
    show (matchAt closing (c :: cs)).or ((matchAt (.capture :: closing) cs).map (c :: ·)) = _
    rw [matchAt_closing, ih]
    by_cases hclose : fence <+: (c :: cs).dropWhile isBlank
    · rw [if_pos hclose, Option.some_or, beforeFence?_of_closing hclose]
    · rw [if_neg hclose, Option.none_or, beforeFence?_of_not_closing hclose]

/-! ## The front of the pattern -/

theorem exists_before_iff {cs : List Char} : (∃ b, beforeFence? cs = some b) ↔ fence <:+: cs := by
  rw [beforeFence?_eq]
  constructor
  · rintro ⟨b, hb⟩
    obtain ⟨parts, hparts, -⟩ := Option.map_eq_some_iff.mp hb
    exact ⟨parts.1, parts.2, by rw [List.append_assoc, ← eq_of_splitFence? hparts]⟩
  · intro hf
    cases hsplit : splitFence? cs with
    | none => exact absurd hf (not_fence_infix_of_splitFence? hsplit)
    | some parts => exact ⟨parts.1, rfl⟩

theorem beforeFence?_of_notMem {front : List Char} (h : '\x60' ∉ front) (back : List Char) :
    beforeFence? (front ++ back) = (beforeFence? back).map (front ++ ·) := by
  rw [beforeFence?_eq, beforeFence?_eq, splitFence?_of_notMem h, Option.map_map, Option.map_map]
  rfl

/-- What stands before the first fence begins as the text does. -/
theorem beforeFence?_dropWhile (cs : List Char) :
    beforeFence? (cs.dropWhile isBlank) = (beforeFence? cs).map (List.dropWhile isBlank) := by
  induction cs with
  | nil => rfl
  | cons c cs ih =>
    by_cases hc : isBlank c = true
    · rw [List.dropWhile_cons_of_pos hc, ih, beforeFence?_eq, beforeFence?_eq,
        splitFence?_cons (not_fence_prefix_of_isBlank hc cs)]
      cases splitFence? cs with
      | none => rfl
      | some parts => simp [hc]
    · rw [List.dropWhile_cons_of_neg hc, beforeFence?_eq]
      cases hsplit : splitFence? (c :: cs) with
      | none => rfl
      | some parts =>
        have hcs := eq_of_splitFence? hsplit
        cases hfront : parts.1 with
        | nil => simp [hfront]
        | cons d front =>
          rw [hfront] at hcs
          obtain rfl : c = d := (List.cons.inj hcs).1
          simp [hfront, hc]

/-- Behind the tag, the pattern captures what stands before the next fence without the blank characters
around it. -/
theorem matchAt_content (cs : List Char) :
    matchAt content cs = (beforeFence? cs).map stripChars := by
  have hstrip : (beforeFence? cs).map stripChars =
      (beforeFence? (cs.dropWhile isBlank)).map (trimEnd isBlank) := by
    rw [beforeFence?_dropWhile, Option.map_map]
    rfl
  have hrow : dropRow? (literal ['\n']) (cs.dropWhile isBlank) = none := by
    cases hrow : dropRow? (literal ['\n']) (cs.dropWhile isBlank) with
    | none => rfl
    | some rest =>
      have hcs := dropRow?_literal.mp hrow
      rcases dropWhile_eq_nil_or_cons isBlank cs with h | ⟨c, rest', h, hc, -⟩
      · rw [h] at hcs
        exact absurd hcs (by simp)
      · rw [h] at hcs
        obtain rfl : c = '\n' := (List.cons.inj hcs).1
        exact absurd hc (by decide)
  have hnext : matchAt (.option (literal ['\n']) :: .capture :: closing) (cs.dropWhile isBlank) =
      (beforeFence? cs).map stripChars := by
    show ((dropRow? _ _).bind _).or (matchAt (.capture :: closing) _) = _
    rw [hrow, hstrip, Option.bind_none, Option.none_or, capture_closing]
  cases hbefore : beforeFence? cs with
  | some b =>
    rw [hbefore] at hnext
    exact readMany_of_some hnext
  | none =>
    cases hmatch : matchAt content cs with
    | none => rfl
    | some r =>
      have hf : fence <:+: cs := infix_of_matchAt (by simp [content, closing]) hmatch
      obtain ⟨b, hb⟩ := exists_before_iff.mpr hf
      rw [hbefore] at hb
      simp at hb

theorem dropTag_eq (cs : List Char) : dropTag cs = (dropRow? tagRow cs).getD cs := by
  match cs with
  | a :: b :: c :: d :: rest =>
    simp only [dropTag, tagRow, dropRow?]
    grind
  | [] => rfl
  | [a] => simp [dropTag, tagRow, dropRow?]
  | [a, b] => simp [dropTag, tagRow, dropRow?]
  | [a, b, c] => simp [dropTag, tagRow, dropRow?]

theorem beforeFence?_dropTag (cs : List Char) :
    beforeFence? (dropTag cs) = none ↔ beforeFence? cs = none := by
  rw [dropTag_eq]
  cases hrow : dropRow? tagRow cs with
  | none => rfl
  | some rest =>
    obtain ⟨front, rfl, hfront⟩ := exists_of_dropRow? hrow
    have hmem : '\x60' ∉ front := by
      intro hmem
      have hall : ∀ p ∈ tagRow, p '\x60' = false := by decide
      obtain ⟨p, hp, hp'⟩ := hfront _ hmem
      rw [hall p hp] at hp'
      exact Bool.noConfusion hp'
    rw [beforeFence?_of_notMem hmem, Option.map_eq_none_iff]
    rfl

theorem matchAt_tagged (cs : List Char) :
    matchAt tagged cs = (beforeFence? (dropTag cs)).map stripChars := by
  show ((dropRow? tagRow cs).bind (matchAt content)).or (matchAt content cs) = _
  have hnone := beforeFence?_dropTag cs
  rw [dropTag_eq] at hnone ⊢
  cases hrow : dropRow? tagRow cs with
  | none => exact matchAt_content cs
  | some rest =>
    rw [hrow, Option.getD_some] at hnone
    rw [Option.bind_some, Option.getD_some, matchAt_content, matchAt_content]
    cases hrest : beforeFence? rest with
    | some b => rfl
    | none => rw [hnone.mp hrest, Option.map_none, Option.or_none]

/-! ## The search -/

/-- The search for the pattern of a fence captures the content of the first fence without the blank
characters around it. -/
theorem search_fencePattern (cs : List Char) :
    search fencePattern cs = (fenceContent? cs).map stripChars := by
  unfold fenceContent?
  rw [afterFence?_eq]
  fun_induction splitFence? cs with
  | case1 rest =>
    show (matchAt tagged rest).or (search fencePattern ('\x60' :: '\x60' :: rest)) =
      (beforeFence? (dropTag rest)).map stripChars
    rw [matchAt_tagged]
    cases hbefore : beforeFence? (dropTag rest) with
    | some b => rfl
    | none =>
      rw [Option.map_none, Option.none_or]
      refine search_eq_none fun cs' hs => ?_
      -- A reading at a later place has a fence behind it, but the rest has none.
      cases hmatch : matchAt fencePattern cs' with
      | none => rfl
      | some r =>
        obtain ⟨behind, hrow, hr⟩ := Option.bind_eq_some_iff.mp hmatch
        have hcs := dropRow?_literal.mp hrow
        have hsuffix : behind <:+ rest := by
          refine List.suffix_of_suffix_length_le ((suffix_of_dropRow? hrow).trans hs)
            ⟨['\x60', '\x60'], rfl⟩ ?_
          have hlen := hs.length_le
          rw [hcs] at hlen
          simp [fence] at hlen
          omega
        have hf : fence <:+: behind :=
          infix_of_matchAt (by simp [tagged, content, closing]) hr
        obtain ⟨b, hb⟩ := exists_before_iff.mpr (hf.trans hsuffix.isInfix)
        rw [(beforeFence?_dropTag rest).mp hbefore] at hb
        simp at hb
  | case2 c rest hne ih =>
    have hnone : matchAt fencePattern (c :: rest) = none := by
      cases hmatch : matchAt fencePattern (c :: rest) with
      | none => rfl
      | some r =>
        obtain ⟨behind, hrow, -⟩ := Option.bind_eq_some_iff.mp hmatch
        obtain ⟨hc, hrest⟩ := List.cons.inj (dropRow?_literal.mp hrow)
        exact absurd hrest (hne behind hc)
    unfold search
    rw [hnone, Option.none_or, ih, Option.map_map]
    rfl
  | case3 => rfl

/-- Three of four backticks open the fence, and the fourth belongs to its content. -/
example : search fencePattern "\x60```\n [1] \n``` ```".toList = some "\x60\n [1]".toList := by
  decide +kernel

/-- The fence of a reply is read as the pattern finds it. -/
theorem fenced?_eq_search (cs : List Char) :
    fenced? cs = (search fencePattern cs).bind readObject? := by
  unfold fenced?
  rw [search_fencePattern, Option.bind_map]
  rfl

end QueryWarden.Reply
