import QueryWarden.Proofs.Schema.CaseMap

/-!
# What re-casing makes of the keys of a mapping

`Respelled` says what re-casing by a list of field paths may make of the keys of one mapping: each
stays or becomes the first path with its lower case, they are distinct, and a path that some key
stands for is the spelling of one of them.

1. What a key becomes depends on the keys of the mapping and on those before it
   (`getElem?_newKeys`), which makes the new keys distinct (`nodup_newKeys`).
2. The new keys are respelled (`respelled_newKeys`), and there is one way to respell keys
   (`Respelled.unique`).
3. Respelled keys are respelled by themselves (`Respelled.again`).
-/

namespace QueryWarden.CaseMap

/-! ## The spellings of a list of paths -/

def sameLower (k l : String) : Bool :=
  Text.lower l == Text.lower k

def firstSpelling? (paths : List String) (k : String) : Option String :=
  paths.find? (sameLower k)

theorem lower_of_firstSpelling? {paths : List String} {k p : String}
    (h : firstSpelling? paths k = some p) : Text.lower p = Text.lower k :=
  beq_iff_eq.mp (List.find?_some (p := sameLower k) h)

theorem firstSpelling?_congr (paths : List String) {k l : String}
    (h : Text.lower k = Text.lower l) : firstSpelling? paths k = firstSpelling? paths l := by
  unfold firstSpelling? sameLower
  rw [h]

theorem get?_add (m : CaseMap) (path folded : String) :
    (m.add path).get? folded =
      (m.get? folded).or (if Text.lower path = folded then some path else none) := by
  unfold add
  split
  · rename_i h
    split_ifs with hp
    · obtain ⟨q, hq⟩ := Option.isSome_iff_exists.mp h
      rw [← hp, hq]
      rfl
    · rw [Option.or_none]
  · unfold get?
    rw [List.lookup_append, List.lookup_singleton]
    simp only [beq_iff_eq, eq_comm (a := folded)]

theorem get?_foldl_add (m : CaseMap) (paths : List String) (folded : String) :
    (paths.foldl add m).get? folded =
      (m.get? folded).or (paths.find? fun p => Text.lower p == folded) := by
  induction paths generalizing m with
  | nil => rw [List.foldl_nil, List.find?_nil, Option.or_none]
  | cons p ps ih =>
    rw [List.foldl_cons, ih, get?_add, Option.or_assoc, List.find?_cons]
    by_cases hp : Text.lower p = folded
    · simp [hp]
    · rw [if_neg hp, Option.none_or, beq_eq_false_iff_ne.mpr hp]

/-- The map of a list of paths knows a key by the first path that has its lower case. -/
theorem get?_ofPaths (paths : List String) (k : String) :
    (ofPaths paths).get? (Text.lower k) = firstSpelling? paths k := by
  unfold ofPaths
  rw [get?_foldl_add]
  rfl

theorem spelling_ofPaths (paths : List String) (k : String) :
    (ofPaths paths).spelling k = (firstSpelling? paths k).getD k := by
  rw [spelling, get?_ofPaths]

/-! ## The new keys, one by one -/

section Keys

variable {m : CaseMap} (hm : m.IsFolded)

include hm

theorem spelling_spelling (k : String) : m.spelling (m.spelling k) = m.spelling k := by
  have hl := lower_spelling hm k
  cases h : m.get? (Text.lower k) with
  | none =>
    have hk : m.spelling k = k := by rw [spelling, h, Option.getD_none]
    rw [hk, hk]
  | some p =>
    have hk : m.spelling k = p := by rw [spelling, h, Option.getD_some]
    rw [hk] at hl ⊢
    rw [spelling, hl, h, Option.getD_some]

omit hm in
theorem respell_forall₂_spelling (taken ks : List String) :
    List.Forall₂ (fun k l => l = k ∨ l = m.spelling k) ks (m.respell taken ks) := by
  induction ks generalizing taken with
  | nil => exact .nil
  | cons k ks ih =>
    unfold respell
    split_ifs
    · exact .cons (.inl rfl) (ih _)
    · exact .cons (.inl rfl) (ih _)
    · exact .cons (.inr rfl) (ih _)

omit hm in
/-- A key keeps its spelling when the one of the map is taken already, and its spelling is taken
afterwards. -/
theorem exists_respell_cons {taken : List String} (ht : ∀ x ∈ taken, m.spelling x = x) (k : String)
    (ks : List String) :
    ∃ taken', m.respell taken (k :: ks) =
        (if m.spelling k ∈ taken then k else m.spelling k) :: m.respell taken' ks ∧
      (∀ x, x ∈ taken' ↔ x = m.spelling k ∨ x ∈ taken) := by
  rw [respell]
  simp only [List.contains_iff_mem]
  by_cases hk : k ∈ taken
  · refine ⟨taken, ?_, fun x => ⟨.inr, ?_⟩⟩
    · rw [if_pos hk, ht k hk, if_pos hk]
    · rintro (rfl | hx)
      · rwa [ht k hk]
      · exact hx
  · by_cases hs : m.spelling k ∈ taken
    · refine ⟨taken, by rw [if_neg hk, if_pos hs, if_pos hs], fun x => ⟨.inr, ?_⟩⟩
      rintro (rfl | hx)
      · exact hs
      · exact hx
    · exact ⟨m.spelling k :: taken, by rw [if_neg hk, if_neg hs, if_neg hs], fun x => List.mem_cons⟩

theorem getElem?_respell {taken : List String} (ht : ∀ x ∈ taken, m.spelling x = x)
    (ks : List String) (i : Nat) :
    (m.respell taken ks)[i]? = ks[i]?.map fun k =>
      if m.spelling k ∈ taken ∨ ∃ l ∈ ks.take i, m.spelling l = m.spelling k then k
      else m.spelling k := by
  induction ks generalizing taken i with
  | nil => simp [respell]
  | cons k ks ih =>
    obtain ⟨taken', hrespell, hmem⟩ := exists_respell_cons ht k ks
    rw [hrespell]
    cases i with
    | zero => simp
    | succ i =>
      have ht' : ∀ x ∈ taken', m.spelling x = x := by
        intro x hx
        rcases (hmem x).mp hx with rfl | hx
        · exact spelling_spelling hm k
        · exact ht x hx
      rw [List.getElem?_cons_succ, List.getElem?_cons_succ, ih ht', List.take_succ_cons]
      refine congrArg (Option.map · ks[i]?) (funext fun x => if_congr ?_ rfl rfl)
      rw [hmem, List.exists_mem_cons_iff, eq_comm, or_assoc]
      tauto

/-- A key takes the spelling of the map unless a key of the mapping has it or one before takes
it. -/
theorem getElem?_newKeys (ks : List String) (i : Nat) :
    (m.newKeys ks)[i]? = ks[i]?.map fun k =>
      if m.spelling k ∈ ks ∨ ∃ l ∈ ks.take i, m.spelling l = m.spelling k then k
      else m.spelling k := by
  have ht : ∀ x ∈ ks.filter m.isCanonical, m.spelling x = x := by
    intro x hx
    have hc := beq_iff_eq.mp (List.mem_filter.mp hx).2
    rw [spelling, hc, Option.getD_some]
  unfold newKeys
  rw [getElem?_respell hm ht]
  refine congrArg (Option.map · ks[i]?) (funext fun k => ?_)
  cases h : m.get? (Text.lower k) with
  | none =>
    -- A key that the map does not know is its own spelling.
    have hk : m.spelling k = k := by rw [spelling, h, Option.getD_none]
    rw [hk, ite_self, ite_self]
  | some p =>
    have hk : m.spelling k = p := by rw [spelling, h, Option.getD_some]
    have hp : m.isCanonical (m.spelling k) = true := by
      rw [isCanonical, lower_spelling hm, h, hk]
      exact beq_self_eq_true _
    refine if_congr (or_congr_left ?_) rfl rfl
    rw [List.mem_filter, and_iff_left hp]

/-- A new key is the old one, or it is the spelling of the map, which no key has and none before
stands for. -/
theorem newKeys_cases {ks : List String} {i : Nat} {l : String}
    (h : (m.newKeys ks)[i]? = some l) :
    ∃ k, ks[i]? = some k ∧
      (l = k ∨ l = m.spelling k ∧ m.spelling k ∉ ks ∧
        ∀ x ∈ ks.take i, m.spelling x ≠ m.spelling k) := by
  rw [getElem?_newKeys hm] at h
  obtain ⟨k, hk, hl⟩ := Option.map_eq_some_iff.mp h
  refine ⟨k, hk, ?_⟩
  split_ifs at hl with hc
  · exact .inl hl.symm
  · rw [not_or, not_exists] at hc
    exact .inr ⟨hl.symm, hc.1, fun x hx hxk => hc.2 x ⟨hx, hxk⟩⟩

theorem nodup_newKeys {ks : List String} (hks : ks.Nodup) : (m.newKeys ks).Nodup := by
  rw [List.nodup_iff_getElem?_ne_getElem?] at hks ⊢
  intro i j hij hj heq
  obtain ⟨l, hl⟩ : ∃ l, (m.newKeys ks)[j]? = some l := ⟨_, List.getElem?_eq_getElem hj⟩
  obtain ⟨a, ha, hla⟩ := newKeys_cases hm (heq.trans hl)
  obtain ⟨b, hb, hlb⟩ := newKeys_cases hm hl
  have hjks : j < ks.length := (List.getElem?_eq_some_iff.mp hb).1
  have hbefore : a ∈ ks.take j :=
    List.mem_of_getElem? ((List.getElem?_take_of_lt hij).trans ha)
  -- Of two keys with the same new spelling the later one takes it only while it is free.
  rcases hla with rfl | ⟨rfl, hfree, -⟩
  · rcases hlb with rfl | ⟨rfl, hfree, -⟩
    · exact hks i j hij hjks (ha.trans hb.symm)
    · exact hfree (List.mem_of_getElem? ha)
  · rcases hlb with hlb | ⟨hlb, -, hfirst⟩
    · exact hfree (hlb ▸ List.mem_of_getElem? hb)
    · exact hfirst a hbefore hlb

end Keys

/-! ## Respelled keys -/

/-- The place of the key that is to have the spelling `p`: that of `p` itself, or else that of the
first key with the lower case of `p`. -/
def claimant (ks : List String) (p : String) : Nat :=
  if p ∈ ks then ks.idxOf p else ks.findIdx (sameLower p)

/-- Whether the keys `ls` are what re-casing by a list of paths may make of the keys `ks`. -/
structure Respelled (paths ks ls : List String) : Prop where
  /-- A key stays or becomes the first path that has its lower case. -/
  spelled : List.Forall₂ (fun k l => l = k ∨ firstSpelling? paths k = some l) ks ls
  nodup : ls.Nodup
  /-- Where a key stands for a path, one key is spelled as the path is: the one that was so
  before, or else the first that stands for it. -/
  claimed : ∀ k ∈ ks, ∀ p, firstSpelling? paths k = some p → ls[claimant ks p]? = some p

section Respelled

variable {paths ks ls : List String}

/-- The claimant of a path that some key stands for is the path itself, or stands for it where the
path is no key. -/
theorem exists_getElem?_claimant {k p : String} (hk : k ∈ ks)
    (hp : firstSpelling? paths k = some p) :
    ∃ l, ks[claimant ks p]? = some l ∧ Text.lower l = Text.lower k ∧ (p ∈ ks → l = p) := by
  have hlower := lower_of_firstSpelling? hp
  unfold claimant
  split_ifs with hmem
  · exact ⟨p, List.getElem?_idxOf hmem, hlower, fun _ => rfl⟩
  · have hlt : ks.findIdx (sameLower p) < ks.length :=
      List.findIdx_lt_length_of_exists ⟨k, hk, beq_iff_eq.mpr hlower.symm⟩
    have hfound : Text.lower ks[ks.findIdx (sameLower p)] = Text.lower p :=
      beq_iff_eq.mp (List.findIdx_getElem (w := hlt))
    exact ⟨_, List.getElem?_eq_getElem hlt, hfound.trans hlower, fun h => absurd h hmem⟩

/-- Re-casing spells a path that some key stands for at its claimant. -/
theorem getElem?_newKeys_claimant {k p : String} (hk : k ∈ ks)
    (hp : firstSpelling? paths k = some p) :
    ((ofPaths paths).newKeys ks)[claimant ks p]? = some p := by
  have hm := isFolded_ofPaths paths
  obtain ⟨l, hl, hlower, hself⟩ := exists_getElem?_claimant hk hp
  have hspelling : (ofPaths paths).spelling l = p := by
    rw [spelling_ofPaths, firstSpelling?_congr paths hlower, hp, Option.getD_some]
  rw [getElem?_newKeys hm, hl, Option.map_some, hspelling]
  refine congrArg some ?_
  by_cases hmem : p ∈ ks
  · -- The path is a key itself and stays one.
    rw [hself hmem, ite_self]
  · -- No key is spelled so, and the first one that stands for the path finds its spelling free.
    have hbefore : ¬ ∃ x ∈ ks.take (claimant ks p), (ofPaths paths).spelling x = p := by
      rw [claimant, if_neg hmem]
      rintro ⟨x, hx, hxp⟩
      obtain ⟨i, hi, rfl⟩ := List.mem_take_iff_getElem.mp hx
      have hno : sameLower p ks[i] = false :=
        List.not_of_lt_findIdx (Nat.lt_of_lt_of_le hi (Nat.min_le_left _ _))
      have hlower := lower_spelling hm ks[i]
      rw [hxp] at hlower
      exact beq_eq_false_iff_ne.mp hno hlower.symm
    rw [if_neg (not_or_intro hmem hbefore)]

theorem respelled_newKeys (hks : ks.Nodup) :
    Respelled paths ks ((ofPaths paths).newKeys ks) where
  spelled := by
    refine (respell_forall₂_spelling _ ks).imp fun k l h => ?_
    rw [spelling_ofPaths] at h
    cases hp : firstSpelling? paths k with
    | none => exact .inl (by simpa [hp] using h)
    | some p => exact h.imp_right fun hl => by rw [hl, hp, Option.getD_some]
  nodup := nodup_newKeys (isFolded_ofPaths paths) hks
  claimed _ hk _ hp := getElem?_newKeys_claimant hk hp

theorem Respelled.getElem?_eq (h : Respelled paths ks ls) (i : Nat) :
    ls[i]? = ks[i]?.map fun k =>
      match firstSpelling? paths k with
      | some p => if claimant ks p = i then p else k
      | none => k := by
  cases hk : ks[i]? with
  | none =>
    rw [List.getElem?_eq_none_iff, h.spelled.length_eq] at hk
    rw [List.getElem?_eq_none_iff.mpr hk]
    rfl
  | some k =>
    obtain ⟨hi, rfl⟩ := List.getElem?_eq_some_iff.mp hk
    have hi' : i < ls.length := h.spelled.length_eq ▸ hi
    have hspelled := (List.forall₂_iff_get.mp h.spelled).2 i hi hi'
    rw [List.get_eq_getElem, List.get_eq_getElem] at hspelled
    rw [List.getElem?_eq_getElem hi', Option.map_some]
    refine congrArg some ?_
    cases hp : firstSpelling? paths ks[i] with
    | none => simpa [hp] using hspelled
    | some p =>
      have hclaimed := h.claimed _ (List.getElem_mem hi) p hp
      dsimp only
      split_ifs with hc
      · rw [hc, List.getElem?_eq_getElem hi'] at hclaimed
        exact Option.some.inj hclaimed
      · refine hspelled.resolve_right fun hl => hc ?_
        -- The spelling occurs once, at its claimant.
        have hat : ls[i]? = some p := by
          rw [List.getElem?_eq_getElem hi', ← hl, hp]
        exact ((List.getElem?_inj hi' h.nodup).mp (hat.trans hclaimed.symm)).symm

theorem Respelled.unique {ls' : List String} (h : Respelled paths ks ls)
    (h' : Respelled paths ks ls') : ls = ls' :=
  List.ext_getElem? fun i => by rw [h.getElem?_eq, h'.getElem?_eq]

theorem Respelled.again (h : Respelled paths ks ls) : Respelled paths ls ls where
  spelled := List.forall₂_same.mpr fun _ _ => .inl rfl
  nodup := h.nodup
  claimed l hl p hp := by
    obtain ⟨k, hk, hkl⟩ := exists_right_of_forall₂ h.spelled.flip hl
    have hlower : Text.lower l = Text.lower k := by
      rcases hkl with rfl | hkl
      · rfl
      · exact lower_of_firstSpelling? hkl
    rw [firstSpelling?_congr paths hlower] at hp
    have hmem : p ∈ ls := List.mem_of_getElem? (h.claimed k hk p hp)
    rw [claimant, if_pos hmem, List.getElem?_idxOf hmem]

end Respelled

end QueryWarden.CaseMap
