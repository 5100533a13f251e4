import QueryWarden.Proofs.Reply.Pattern
import QueryWarden.Proofs.Reply.Surrounded
import QueryWarden.Proofs.Reply.Tag

/-!
# The object in the first fence

The first fence of a reply is read whatever stands around it (`object_of_first_fence`): the text
before it has no backtick and does not begin with a brace, and the text behind it is arbitrary.

1. A reply that does not begin with a brace has no reading as a whole (`direct?_of_find?`).
2. The first fence opens where the text before it ends (`splitFence?_of_notMem`), and the tag behind it
   is dropped (`dropTag_of_upper`).
3. It closes at the first three backticks behind the object, since neither the object nor the blank
   characters around it have any (`splitFence?_around`), so the pattern captures the object
   (`search_of_first`).
-/

namespace QueryWarden.Reply

/-! ## The reading of the whole reply -/

/-- A text whose first character that is not blank is no brace has no reading as a whole. -/
theorem direct?_of_find? {cs : List Char} (h : (cs.find? fun c => !Text.isBlank c) ≠ some '\x7b') :
    direct? cs = none := by
  rw [← Text.head?_stripChars] at h
  unfold direct?
  dsimp only
  split
  · rename_i rest hbody
    rw [hbody] at h
    exact absurd rfl h
  · rfl

/-! ## Where the first fence opens and closes -/

section Fences

variable {front body back rest : List Char}

theorem not_fence_infix_of_notMem (h : '\x60' ∉ front) : ¬ fence <:+: front :=
  fun hf => h (hf.subset List.mem_cons_self)

/-- A fence behind an object without a fence, with nothing but blank characters around it, is the
next one. -/
theorem splitFence?_around (hfront : ∀ c ∈ front, Text.isBlank c = true)
    (hback : ∀ c ∈ back, Text.isBlank c = true) (hbody : ¬ fence <:+: body) (rest : List Char) :
    splitFence? (front ++ '\x7b' :: (body ++ '\x7d' :: (back ++ (fence ++ rest)))) =
      some (front ++ '\x7b' :: (body ++ '\x7d' :: back), rest) := by
  have hfront' := not_fence_infix_of_notMem (Text.notMem_of_isBlank hfront (by decide))
  have hback' : '\x60' ∉ back := Text.notMem_of_isBlank hback (by decide)
  rw [splitFence?_skip (by decide) hfront', splitFence?_skip (by decide) hbody,
    splitFence?_of_notMem hback', splitFence?_fence]
  simp

/-- An object between the tag of a fence and the fence behind it is what the pattern captures. -/
theorem search_of_first {before tag : List Char} (hbefore : '\x60' ∉ before)
    (htag : dropTag (tag ++ (front ++ '\x7b' :: (body ++ '\x7d' :: (back ++ (fence ++ rest))))) =
      front ++ '\x7b' :: (body ++ '\x7d' :: (back ++ (fence ++ rest))))
    (hfront : ∀ c ∈ front, Text.isBlank c = true) (hback : ∀ c ∈ back, Text.isBlank c = true)
    (hbody : ¬ fence <:+: body) :
    search fencePattern (before ++ (fence ++ (tag ++
      (front ++ '\x7b' :: (body ++ '\x7d' :: (back ++ (fence ++ rest))))))) =
      some ('\x7b' :: (body ++ ['\x7d'])) := by
  have hcontent : Text.stripChars (front ++ '\x7b' :: (body ++ '\x7d' :: back)) =
      '\x7b' :: (body ++ ['\x7d']) := by
    rw [Text.stripChars_around (by decide) (by decide), List.dropWhile_eq_nil_iff.mpr hfront]
    have hnil : Text.trimEnd Text.isBlank back = [] := List.rdropWhile_eq_nil_iff.mpr hback
    rw [hnil, List.nil_append]
  rw [search_fencePattern]
  unfold fenceContent?
  rw [afterFence?_eq, splitFence?_of_notMem hbefore, splitFence?_fence, Option.map_some,
    Option.map_some, Option.bind_some, htag, beforeFence?_eq,
    splitFence?_around hfront hback hbody, Option.map_some, Option.map_some, hcontent]

end Fences

/-! ## The object -/

theorem object_of_fenced? {s : String} {o : Fields} (hs : Text.isBlankText s = false)
    (hd : direct? s.toList = none) (h : fenced? s.toList = some o) : object (.string s) = .ok o := by
  unfold object
  simp only [hs, hd, h]
  rfl

/-- The pattern captures the object in the first fence of a reply, and the object is found, be the fence
tagged or not, when the text before the fence has no backtick and does not begin with a brace, and the
object has no fence in it.  Behind the fence anything may follow, also braces, other objects and further
fences. -/
theorem object_of_first_fence (before tag front j back rest : String) (o : Fields)
    (hbefore : '\x60' ∉ before.toList)
    (hstart : (before.toList.find? fun c => !Text.isBlank c) ≠ some '\x7b')
    (htag : tag = "" ∨ Text.upper tag = "JSON")
    (hfront : Text.isBlankText front = true) (hback : Text.isBlankText back = true)
    (hopen : j.toList.head? = some '\x7b') (hclose : j.toList.getLast? = some '\x7d')
    (hread : Json.read j = .ok (.map o)) (hfence : ¬ fence <:+: j.toList) :
    let reply := before ++ "```" ++ tag ++ front ++ j ++ back ++ "```" ++ rest
    search fencePattern reply.toList = some j.toList ∧ object (.string reply) = .ok o := by
  intro reply
  obtain ⟨body, hbody⟩ := exists_body hopen hclose
  have ho : readObject? j.toList = some o := by
    unfold readObject?
    rw [mapError_eq_ok.mp hread]
    rfl
  have hinner : ¬ fence <:+: body := by
    intro hf
    rw [hbody] at hfence
    exact hfence (hf.trans ⟨['\x7b'], ['\x7d'], by simp⟩)
  have htext : reply.toList =
      before.toList ++ (fence ++ (tag.toList ++ (front.toList ++ '\x7b' :: (body ++ '\x7d' ::
        (back.toList ++ (fence ++ rest.toList)))))) := by
    have hticks : "```".toList = fence := rfl
    simp only [reply, String.toList_append, hbody, hticks, List.append_assoc, List.cons_append,
      List.nil_append]
  have hfront' := List.all_eq_true.mp hfront
  have hsearch : search fencePattern reply.toList = some j.toList := by
    rw [htext, hbody]
    refine search_of_first hbefore ?_ hfront' (List.all_eq_true.mp hback) hinner
    rcases htag with rfl | htag
    · exact dropTag_of_blank hfront' _
    · exact dropTag_of_upper htag _
  refine ⟨hsearch, object_of_fenced? ?_ ?_ ?_⟩
  · unfold Text.isBlankText
    rw [htext, List.all_eq_false]
    exact ⟨'\x7b', by simp, by decide⟩
  · apply direct?_of_find?
    rw [htext, List.find?_append]
    cases hfind : before.toList.find? fun c => !Text.isBlank c with
    | some c =>
      rw [hfind] at hstart
      exact hstart
    | none =>
      show some '\x60' ≠ some '\x7b'
      decide
  · rw [fenced?_eq_search, hsearch, Option.bind_some, ho]

/-- A tag in capitals and a carriage return, with an object before the fence and more of them behind
it, in a text that begins with a bracket. -/
theorem object_of_first_fence_tagged :
    let reply := "[1] is no \x7b\"a\": 0\x7d:\n" ++ "```" ++ "JSON" ++ "\r\n" ++
      "\x7b\"a\": [1, \"``\"]\x7d" ++ " \n" ++ "```" ++ "` or \x7b\"b\": 2\x7d ```json\n\x7b\x7d\n```"
    search fencePattern reply.toList = some "\x7b\"a\": [1, \"``\"]\x7d".toList ∧
      object (.string reply) = .ok [("a", .list [.int 1, .string "``"])] := by
  refine object_of_first_fence _ _ _ _ _ _ _ ?_ ?_ (.inr ?_) ?_ ?_ ?_ ?_ ?_ ?_
  all_goals decide +kernel

end QueryWarden.Reply
