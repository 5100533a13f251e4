import QueryWarden.Proofs.Json.Span
import QueryWarden.Proofs.Reply.Fence
import QueryWarden.Proofs.Text.Trim

/-!
# Objects with text around them

An object that a model writes is found whatever it writes around it, as long as no opening brace
stands before it, no closing brace behind it, and no fence in it (`object_of_surrounded`).

1. What is read as an object starts and ends with a brace (`exists_span_of_readObject?`), so a reading
   of the object with other characters than blank ones around it gives nothing
   (`readObject?_stripChars_around`).
2. Hence the reading of the whole reply gives the object or nothing, and so does the reading of the
   first fence: one before or behind the object holds no object, and one around it holds just this
   one (`fenced?_around`).
3. The span between the outermost braces is the object (`braceSpan?_around`).
-/

namespace QueryWarden.Reply

/-! ## What is no object -/

theorem exists_span_of_readObject? {cs : List Char} {fs : Fields} (h : readObject? cs = some fs) :
    ∃ before body behind, cs = before ++ '\x7b' :: (body ++ '\x7d' :: behind) ∧
      (∀ c ∈ before, Json.isBlank c = true) ∧ ∀ c ∈ behind, Json.isBlank c = true := by
  unfold readObject? at h
  split at h
  · rename_i v hv
    cases v with
    | map es => exact Json.exists_span_of_readAll hv
    | _ => exact absurd h.symm (Option.some_ne_none fs)
  · exact absurd h.symm (Option.some_ne_none fs)

theorem isBlank_of_isJsonBlank {c : Char} (h : Json.isBlank c = true) : Text.isBlank c = true := by
  unfold Json.isBlank at h
  simp only [Bool.or_eq_true, beq_iff_eq] at h
  rcases h with ((rfl | rfl) | rfl) | rfl <;> decide

section NoObject

variable {cs : List Char}

theorem readObject?_of_open_notMem (h : '\x7b' ∉ cs) : readObject? cs = none := by
  refine Option.eq_none_iff_forall_ne_some.mpr fun fs hfs => h ?_
  obtain ⟨before, body, behind, rfl, -, -⟩ := exists_span_of_readObject? hfs
  simp

theorem readObject?_of_close_notMem (h : '\x7d' ∉ cs) : readObject? cs = none := by
  refine Option.eq_none_iff_forall_ne_some.mpr fun fs hfs => h ?_
  obtain ⟨before, body, behind, rfl, -, -⟩ := exists_span_of_readObject? hfs
  simp

theorem readObject?_cons {c : Char} (hc : Text.isBlank c = false) (hne : c ≠ '\x7b') :
    readObject? (c :: cs) = none := by
  refine Option.eq_none_iff_forall_ne_some.mpr fun fs hfs => ?_
  obtain ⟨before, body, behind, heq, hbefore, -⟩ := exists_span_of_readObject? hfs
  cases before with
  | nil => exact hne (List.cons.inj heq).1
  | cons d before =>
    rw [(List.cons.inj heq).1, isBlank_of_isJsonBlank (hbefore d List.mem_cons_self)] at hc
    exact Bool.noConfusion hc

theorem readObject?_concat {c : Char} (hc : Text.isBlank c = false) (hne : c ≠ '\x7d') :
    readObject? (cs ++ [c]) = none := by
  refine Option.eq_none_iff_forall_ne_some.mpr fun fs hfs => ?_
  obtain ⟨before, body, behind, heq, -, hbehind⟩ := exists_span_of_readObject? hfs
  rw [← List.cons_append, ← List.append_assoc] at heq
  rcases List.eq_nil_or_concat behind with rfl | ⟨front, d, rfl⟩
  · exact hne (List.singleton_inj.mp (List.append_inj' heq rfl).2)
  · rw [List.concat_eq_append, ← List.cons_append, ← List.append_assoc] at heq
    have hcd : c = d := List.singleton_inj.mp (List.append_inj' heq rfl).2
    have hd : d ∈ front.concat d := by simp
    rw [hcd, isBlank_of_isJsonBlank (hbehind d hd)] at hc
    exact Bool.noConfusion hc

end NoObject

/-! ## Readings of a text around an object -/

/-- Whether a reading gives the object or nothing. -/
def GivesNoOther (o : Fields) (reading : Option Fields) : Prop :=
  reading = none ∨ reading = some o

section Around

variable {front body back : List Char} {o : Fields}

/-- Without the blank characters around it, an object is read as itself when nothing else stands
around it, and else as nothing. -/
theorem readObject?_stripChars_around (hfront : '\x7b' ∉ front) (hback : '\x7d' ∉ back)
    (ho : readObject? ('\x7b' :: (body ++ ['\x7d'])) = some o) :
    GivesNoOther o
      (readObject? (Text.stripChars (front ++ '\x7b' :: (body ++ '\x7d' :: back)))) := by
  rw [Text.stripChars_around (by decide) (by decide)]
  rcases Text.dropWhile_eq_nil_or_cons Text.isBlank front with hf | ⟨c, rest, hf, hc, hmem⟩
  · rcases Text.trimEnd_eq_nil_or_concat Text.isBlank back with hb | ⟨rest, d, hb, hd, hmem⟩
    · rw [hf, hb]
      exact .inr ho
    · left
      have hne : d ≠ '\x7d' := fun h => hback (h ▸ hmem)
      have h : readObject? ((front.dropWhile Text.isBlank ++ '\x7b' :: (body ++ '\x7d' :: rest)) ++
        [d]) = none := readObject?_concat hd hne
      rw [hb]
      simpa using h
  · left
    have hne : c ≠ '\x7b' := fun h => hfront (h ▸ hmem)
    rw [hf]
    exact readObject?_cons hc hne

theorem direct?_around (hfront : '\x7b' ∉ front) (hback : '\x7d' ∉ back)
    (ho : readObject? ('\x7b' :: (body ++ ['\x7d'])) = some o) :
    GivesNoOther o (direct? (front ++ '\x7b' :: (body ++ '\x7d' :: back))) := by
  have hread := readObject?_stripChars_around hfront hback ho
  unfold direct?
  dsimp only
  split
  · exact hread
  · exact .inl rfl

/-- A fence that opens before an object closes before it, around it, or never. -/
theorem fenced?_of_front {parts : List Char × List Char} (hparts : splitFence? front = some parts)
    (hfront : '\x7b' ∉ front) (hback : '\x7d' ∉ back) (hbody : ¬ fence <:+: body)
    (ho : readObject? ('\x7b' :: (body ++ ['\x7d'])) = some o) :
    GivesNoOther o (fenced? (front ++ '\x7b' :: (body ++ '\x7d' :: back))) := by
  obtain ⟨tail, htail, hdrop⟩ := dropTag_append_brace parts.2 (body ++ '\x7d' :: back)
  have hsub : tail ⊆ front := by
    rw [eq_of_splitFence? hparts]
    exact fun c hc => by simp [htail.subset hc]
  unfold fenced? fenceContent?
  rw [afterFence?_eq, splitFence?_append hparts, Option.map_some, Option.bind_some, hdrop,
    beforeFence?_eq]
  cases hclose : splitFence? tail with
  | some inner =>
    -- The fence closes before the object, so no opening brace stands in it.
    rw [splitFence?_append hclose, Option.map_some, Option.bind_some]
    refine .inl (readObject?_of_open_notMem fun h => hfront (hsub ?_))
    rw [eq_of_splitFence? hclose]
    exact List.mem_append_left _ (Text.stripChars_subset _ h)
  | none =>
    rw [splitFence?_skip (by decide) (not_fence_infix_of_splitFence? hclose),
      splitFence?_skip (by decide) hbody]
    cases hrest : splitFence? back with
    | none => exact .inl rfl
    | some outer =>
      -- The fence closes behind the object, so it holds the object.
      have hend : '\x7d' ∉ outer.1 := fun h => hback (by
        rw [eq_of_splitFence? hrest]
        exact List.mem_append_left _ h)
      exact readObject?_stripChars_around (fun h => hfront (hsub h)) hend ho

/-- A fence that opens behind an object holds no closing brace. -/
theorem fenced?_of_back (hfront : splitFence? front = none) (hback : '\x7d' ∉ back)
    (hbody : ¬ fence <:+: body) :
    fenced? (front ++ '\x7b' :: (body ++ '\x7d' :: back)) = none := by
  unfold fenced? fenceContent?
  rw [afterFence?_eq, splitFence?_skip (by decide) (not_fence_infix_of_splitFence? hfront),
    splitFence?_skip (by decide) hbody]
  cases hopen : splitFence? back with
  | none => rfl
  | some parts =>
    show ((beforeFence? (dropTag parts.2)).bind fun content =>
      readObject? (Text.stripChars content)) = none
    rw [beforeFence?_eq]
    cases hclose : splitFence? (dropTag parts.2) with
    | none => rfl
    | some inner =>
      refine readObject?_of_close_notMem fun h => hback ?_
      have hmem : '\x7d' ∈ dropTag parts.2 := by
        rw [eq_of_splitFence? hclose]
        exact List.mem_append_left _ (Text.stripChars_subset _ h)
      rw [eq_of_splitFence? hopen]
      simp [(dropTag_suffix _).subset hmem]

theorem fenced?_around (hfront : '\x7b' ∉ front) (hback : '\x7d' ∉ back)
    (hbody : ¬ fence <:+: body) (ho : readObject? ('\x7b' :: (body ++ ['\x7d'])) = some o) :
    GivesNoOther o (fenced? (front ++ '\x7b' :: (body ++ '\x7d' :: back))) := by
  cases h : splitFence? front with
  | none => exact .inl (fenced?_of_back h hback hbody)
  | some parts => exact fenced?_of_front h hfront hback hbody ho

theorem braceSpan?_around (hfront : '\x7b' ∉ front) (hback : '\x7d' ∉ back) :
    braceSpan? (front ++ '\x7b' :: (body ++ '\x7d' :: back)) =
      readObject? ('\x7b' :: (body ++ ['\x7d'])) := by
  have hopen : fromBrace (front ++ '\x7b' :: (body ++ '\x7d' :: back)) =
      '\x7b' :: (body ++ '\x7d' :: back) := by
    unfold fromBrace
    rw [Text.dropWhile_append_cons (by decide), List.dropWhile_eq_nil_iff.mpr, List.nil_append]
    exact fun c hc => bne_iff_ne.mpr fun h => hfront (h ▸ hc)
  have hclose : toBrace ('\x7b' :: (body ++ '\x7d' :: back)) = '\x7b' :: (body ++ ['\x7d']) := by
    unfold toBrace
    rw [← List.cons_append, Text.trimEnd_append_cons (by decide)]
    have hnil : Text.trimEnd (· != '\x7d') back = [] :=
      List.rdropWhile_eq_nil_iff.mpr fun c hc => bne_iff_ne.mpr fun h => hback (h ▸ hc)
    rw [hnil, List.cons_append]
  unfold braceSpan?
  rw [hopen]
  dsimp only
  rw [hclose]

end Around

/-! ## The object -/

theorem object_of_direct? {s : String} {o : Fields} (hs : Text.isBlankText s = false)
    (h : direct? s.toList = some o) : object (.string s) = .ok o := by
  unfold object
  simp only [hs, h]
  rfl

theorem object_of_braceSpan? {s : String} {o : Fields} (hs : Text.isBlankText s = false)
    (hd : GivesNoOther o (direct? s.toList)) (hf : GivesNoOther o (fenced? s.toList))
    (h : braceSpan? s.toList = some o) : object (.string s) = .ok o := by
  rcases hd with hd | hd
  · unfold object
    rcases hf with hf | hf
    · simp only [hs, hd, hf, h]
      rfl
    · simp only [hs, hd, hf]
      rfl
  · exact object_of_direct? hs hd

theorem exists_body {j : List Char} (hopen : j.head? = some '\x7b')
    (hclose : j.getLast? = some '\x7d') : ∃ body, j = '\x7b' :: (body ++ ['\x7d']) := by
  cases j with
  | nil => simp at hopen
  | cons c cs =>
    obtain rfl : c = '\x7b' := by simpa using hopen
    rcases List.eq_nil_or_concat cs with rfl | ⟨body, d, rfl⟩
    · simp at hclose
    · rw [List.concat_eq_append, ← List.cons_append, List.getLast?_concat] at hclose
      exact ⟨body, by rw [List.concat_eq_append, Option.some.inj hclose]⟩

/-- The object that a text holds is found in any reply that puts no opening brace before it and no
closing brace behind it, be there prose, quotes, single backticks or fences around it, unless the
object has a fence in it.  With nothing but blank characters around it, it is found in any case. -/
theorem object_of_surrounded (front j back : String) (o : Fields)
    (hopen : j.toList.head? = some '\x7b') (hclose : j.toList.getLast? = some '\x7d')
    (hread : Json.read j = .ok (.map o)) :
    ('\x7b' ∉ front.toList → '\x7d' ∉ back.toList → ¬ fence <:+: j.toList →
      object (.string (front ++ j ++ back)) = .ok o) ∧
    (Text.isBlankText front = true → Text.isBlankText back = true →
      object (.string (front ++ j ++ back)) = .ok o) := by
  obtain ⟨body, hbody⟩ := exists_body hopen hclose
  have ho : readObject? ('\x7b' :: (body ++ ['\x7d'])) = some o := by
    unfold readObject?
    rw [← hbody, mapError_eq_ok.mp hread]
    rfl
  have htext : (front ++ j ++ back).toList =
      front.toList ++ '\x7b' :: (body ++ '\x7d' :: back.toList) := by
    rw [String.toList_append, String.toList_append, hbody]
    simp
  have hs : Text.isBlankText (front ++ j ++ back) = false := by
    unfold Text.isBlankText
    rw [htext, List.all_eq_false]
    exact ⟨'\x7b', by simp, by decide⟩
  constructor
  · intro hfront hback hfence
    have hinner : ¬ fence <:+: body := fun h => hfence (by
      rw [hbody]
      exact h.trans ⟨['\x7b'], ['\x7d'], by simp⟩)
    refine object_of_braceSpan? hs ?_ ?_ ?_
    · rw [htext]
      exact direct?_around hfront hback ho
    · rw [htext]
      exact fenced?_around hfront hback hinner ho
    · rw [htext, braceSpan?_around hfront hback, ho]
  · intro hfront hback
    refine object_of_direct? hs ?_
    have hfront' : front.toList.dropWhile Text.isBlank = [] :=
      List.dropWhile_eq_nil_iff.mpr (List.all_eq_true.mp hfront)
    have hback' : Text.trimEnd Text.isBlank back.toList = [] :=
      List.rdropWhile_eq_nil_iff.mpr (List.all_eq_true.mp hback)
    unfold direct?
    rw [htext, Text.stripChars_around (by decide) (by decide), hfront', hback']
    exact ho

/-- An object behind a fence of four backticks and before two more fences, and an object with a fence
in one of its texts. -/
theorem object_of_surrounded_fences :
    object (.string ("Sure, `a` is: ````json\n" ++ "\x7b\"a\": [1, \"``\"]\x7d" ++
        "\n``` and not \x7b\"b\": ``` ")) =
      .ok [("a", .list [.int 1, .string "``"])] ∧
    object (.string (" \n" ++ "\x7b\"a\": \"```\x7b\x7d```\"\x7d" ++ "\t")) =
      .ok [("a", .string "```\x7b\x7d```")] := by
  refine ⟨(object_of_surrounded _ _ _ _ ?_ ?_ ?_).1 ?_ ?_ ?_,
    (object_of_surrounded _ _ _ _ ?_ ?_ ?_).2 ?_ ?_⟩
  all_goals decide +kernel

end QueryWarden.Reply
