import QueryWarden.Proofs.Reply.Fence
import QueryWarden.Proofs.Text.LowerBlank
import QueryWarden.Text.Case

/-!
# Language tags

A language tag is a text whose upper case is `JSON`.  It has four characters, each of which is the
letter of the tag in one of its cases (`isLetter_of_upper`), so it is dropped behind a fence
(`dropTag_of_upper`).  Blank characters and braces start no tag (`dropTag_of_blank`).

1. The characters of ASCII are tried one by one (`fitsTag_ascii`).
2. Above ASCII, the tables of upper case reach no letter of the tag, with one exception: the upper case
   of the long s is `S` (`fitsTag_mapByRuns`).
3. No character has two letters of the tag in their order as its upper case, and none has nothing
   (`fitsTag_upperChar`, `upperChar_ne_nil`), so the letters are read off one by one.
-/

namespace QueryWarden.Reply

open Text

/-! ## Letters in all their cases -/

/-- The ends of the upper case of a tag, each of which starts with another of its letters. -/
def tagEnds : List (List Char) :=
  [['J', 'S', 'O', 'N'], ['S', 'O', 'N'], ['O', 'N'], ['N']]

/-- The code points of the letters of the upper case of a tag. -/
def tagCodes : List Nat :=
  [0x4A, 0x53, 0x4F, 0x4E]

theorem toNat_mem_tagCodes {w : List Char} (hw : w ∈ tagEnds) {x : Char} (hx : x ∈ w) :
    x.toNat ∈ tagCodes := by
  have hall : ∀ w ∈ tagEnds, ∀ n ∈ w.map Char.toNat, n ∈ tagCodes := by decide
  exact hall w hw x.toNat (List.mem_map_of_mem hx)

/-- When the characters `cs` stand at the front of an end of a tag, they are a single letter, and
`c` is this letter in one of its cases. -/
def FitsTag (c : Char) (cs : List Char) : Prop :=
  ∀ w ∈ tagEnds, cs <+: w → ∃ x, cs = [x] ∧ w.head? = some x ∧ isLetter x.toLower c = true

theorem fitsTag_ascii {c : Char} (hc : c.toNat < 128) : FitsTag c [c.toUpper] := by
  have hall : ∀ w ∈ tagEnds, w.head? = some c.toUpper → isLetter c.toUpper.toLower c = true :=
    forall_ascii (P := fun c => ∀ w ∈ tagEnds, w.head? = some c.toUpper →
      isLetter c.toUpper.toLower c = true) (by decide +kernel) hc
  intro w hw hp
  obtain ⟨rest, rfl⟩ := hp
  exact ⟨c.toUpper, rfl, rfl, hall _ hw rfl⟩

theorem upperExpansions_avoid_tag : ∀ e ∈ upperExpansions, ∀ w ∈ tagEnds,
    e.2 ≠ [] ∧ ¬ e.2.map Char.ofNat <+: w := by
  decide +kernel

/-- Above U+0080, only the long s has a letter of the tag as its upper case. -/
theorem upperRuns_to_tag : ∀ r ∈ upperRuns, ∀ n ∈ tagCodes,
    r.covers (n - r.shift).toNat = true → n = 'S'.toNat ∧ (n - r.shift).toNat = 0x17F := by
  decide +kernel

theorem fitsTag_mapByRuns {c : Char} (hc : ¬ c.toNat < 128) : FitsTag c [mapByRuns upperRuns c] := by
  intro w hw hp
  obtain ⟨rest, hrest⟩ := hp
  have hx : mapByRuns upperRuns c ∈ w.head? := by
    rw [← hrest]
    rfl
  refine ⟨_, rfl, hx, ?_⟩
  have hmem := toNat_mem_tagCodes hw (List.mem_of_mem_head? hx)
  have hcodes : ∀ n ∈ tagCodes, n ≠ 0 ∧ n < 128 := by decide
  obtain ⟨hne, hlt⟩ := hcodes _ hmem
  generalize hd : mapByRuns upperRuns c = d at hmem hne hlt ⊢
  unfold mapByRuns at hd
  split at hd
  · rename_i r hr
    have hcode := toNat_of_ofNat_eq hne hd
    have hback : (d.toNat - r.shift).toNat = c.toNat := by omega
    have hcovers : r.covers (d.toNat - r.shift).toNat = true := by
      rw [hback]
      have h := List.find?_some hr
      exact h
    obtain ⟨hS, hlong⟩ := upperRuns_to_tag r (List.mem_of_find?_eq_some hr) _ hmem hcovers
    obtain rfl : d = 'S' := Char.toNat_inj.mp hS
    rw [hback] at hlong
    show (c.toLower == 's' || ('s' == 's' && c.toNat == 0x17F)) = true
    simp [hlong]
  · exact absurd (hd ▸ hlt) hc

theorem mem_of_lookup {es : List (Nat × List Nat)} {n : Nat} {cs : List Nat}
    (h : es.lookup n = some cs) : (n, cs) ∈ es := by
  obtain ⟨l₁, l₂, rfl, -⟩ := List.lookup_eq_some_iff.mp h
  simp

/-- Upper case gives a letter of the tag for the letter itself only. -/
theorem fitsTag_upperChar (c : Char) : FitsTag c (upperChar c) := by
  unfold upperChar
  split_ifs with hc
  · exact fitsTag_ascii hc
  · split
    · rename_i cs hcs
      intro w hw hp
      exact absurd hp (upperExpansions_avoid_tag _ (mem_of_lookup hcs) w hw).2
    · exact fitsTag_mapByRuns hc

theorem upperChar_ne_nil (c : Char) : upperChar c ≠ [] := by
  unfold upperChar
  split_ifs
  · exact List.cons_ne_nil _ _
  · split
    · rename_i cs hcs
      have havoid := upperExpansions_avoid_tag _ (mem_of_lookup hcs) ['N'] (by decide)
      exact mt List.map_eq_nil_iff.mp havoid.1
    · exact List.cons_ne_nil _ _

/-! ## Tags -/

/-- The first letter of an end of a tag comes from the first character of the text. -/
theorem exists_of_flatMap_upperChar {cs w : List Char} {x : Char} (hw : x :: w ∈ tagEnds)
    (h : cs.flatMap upperChar = x :: w) :
    ∃ c rest, cs = c :: rest ∧ isLetter x.toLower c = true ∧ rest.flatMap upperChar = w := by
  cases cs with
  | nil => exact absurd h.symm (List.cons_ne_nil _ _)
  | cons c rest =>
    rw [List.flatMap_cons] at h
    obtain ⟨y, hy, hhead, hletter⟩ := fitsTag_upperChar c _ hw ⟨_, h⟩
    obtain rfl : x = y := Option.some.inj hhead
    rw [hy, List.singleton_append] at h
    exact ⟨c, rest, rfl, hletter, (List.cons.inj h).2⟩

theorem isLetter_of_upper {tag : String} (h : Text.upper tag = "JSON") :
    ∃ a b c d, tag.toList = [a, b, c, d] ∧ isLetter 'j' a = true ∧ isLetter 's' b = true ∧
      isLetter 'o' c = true ∧ isLetter 'n' d = true := by
  have hall : tag.toList.flatMap upperChar = ['J', 'S', 'O', 'N'] := by
    unfold Text.upper at h
    rw [← String.toList_ofList (l := tag.toList.flatMap upperChar), h]
    rfl
  obtain ⟨a, as, ha, hj, hall⟩ := exists_of_flatMap_upperChar (by decide) hall
  obtain ⟨b, bs, rfl, hs, hall⟩ := exists_of_flatMap_upperChar (by decide) hall
  obtain ⟨c, cs, rfl, ho, hall⟩ := exists_of_flatMap_upperChar (by decide) hall
  obtain ⟨d, ds, rfl, hn, hall⟩ := exists_of_flatMap_upperChar (by decide) hall
  have hds : ds = [] := by
    rw [List.flatMap_eq_nil_iff] at hall
    exact List.eq_nil_iff_forall_not_mem.mpr fun e he => upperChar_ne_nil e (hall e he)
  subst hds
  exact ⟨a, b, c, d, ha, hj, hs, ho, hn⟩

theorem dropTag_of_upper {tag : String} (h : Text.upper tag = "JSON") (rest : List Char) :
    dropTag (tag.toList ++ rest) = rest := by
  obtain ⟨a, b, c, d, htag, hj, hs, ho, hn⟩ := isLetter_of_upper h
  rw [htag]
  simp only [List.cons_append, List.nil_append, dropTag, hj, hs, ho, hn, Bool.and_self, if_true]

theorem dropTag_cons {c : Char} (hc : isLetter 'j' c = false) (cs : List Char) :
    dropTag (c :: cs) = c :: cs := by
  unfold dropTag
  split
  · rename_i heq
    obtain ⟨rfl, rfl⟩ := List.cons.inj heq
    rw [if_neg]
    simp [hc]
  · rfl

theorem isLetter_of_isBlank {c : Char} (hc : Text.isBlank c = true) : isLetter 'j' c = false :=
  Text.forall_isBlank (P := fun c => isLetter 'j' c = false) (by decide +kernel) hc

theorem dropTag_of_blank {front : List Char} (hfront : ∀ c ∈ front, Text.isBlank c = true)
    (back : List Char) : dropTag (front ++ '\x7b' :: back) = front ++ '\x7b' :: back := by
  cases front with
  | nil => exact dropTag_cons (isLetter_brace (by decide)) back
  | cons c front => exact dropTag_cons (isLetter_of_isBlank (hfront c List.mem_cons_self)) _

end QueryWarden.Reply
