import QueryWarden.Proofs.Query.Clean
import QueryWarden.Proofs.Schema.Recasing
import QueryWarden.Proofs.Text.LowerBlank
import QueryWarden.Query.Fuzzy

/-!
# What re-casing makes of operators

A stored field may have the name of an operator, and re-casing by its path takes another spelling of
the operator for the field.

The name of an operator starts with a dollar sign.  Lower case keeps the dollar sign and makes none, so
it neither makes nor loses the name of an operator (`Fuzzy.isOperator_lower`).

1. Among the keys of a mapping an operator is mistaken where it stands for a path that is no key of
   the mapping (`Mistakes`), and re-casing keeps the operators of a mapping exactly when it
   mistakes none (`keepsOperatorKeys_iff`).
2. A tree keeps its operators exactly when no mapping in it mistakes one (`keepsOperators_iff`).
3. Where they are kept, a mapping has the same operators as before, and it is an unusable clause
   exactly when it was one (`Alike`).
-/

namespace QueryWarden

/-! ## Names of operators and lower case -/

namespace Text

theorem lowerRuns_above_dollar : ∀ r ∈ lowerRuns, (36 : Int) < r.first + r.shift := by
  decide +kernel

theorem mapByRuns_lowerRuns_ne_dollar {c : Char} (hc : c ≠ '$') :
    mapByRuns lowerRuns c ≠ '$' := by
  unfold mapByRuns
  split
  · rename_i r hr
    have habove := lowerRuns_above_dollar r (List.mem_of_find?_eq_some hr)
    have hcovers := List.find?_some hr
    simp only [CaseRun.covers, Bool.and_eq_true, decide_eq_true_eq] at hcovers
    intro hdollar
    have hcode := toNat_of_ofNat_eq (by decide) hdollar
    have hsign : '$'.toNat = 36 := rfl
    omega
  · exact hc

theorem lowerSimple_eq_dollar_iff {c : Char} : lowerSimple c = '$' ↔ c = '$' := by
  constructor
  · intro h
    unfold lowerSimple at h
    split at h
    · rename_i hlt
      exact forall_ascii (P := fun c => c.toLower = '$' → c = '$') (by decide +kernel) hlt h
    · by_contra hc
      exact mapByRuns_lowerRuns_ne_dollar hc h
  · rintro rfl
    rfl

theorem head?_lowerChar (b : Bool) (c : Char) (rest : List Char) :
    (lowerChar b c rest).head? = some '$' ↔ c = '$' := by
  unfold lowerChar
  split_ifs with hsigma hfinal hdotted
  · refine iff_of_false (by decide) ?_
    rintro rfl
    exact absurd hsigma (by decide)
  · refine iff_of_false (by decide) ?_
    rintro rfl
    exact absurd hsigma (by decide)
  · refine iff_of_false (by decide) ?_
    rintro rfl
    exact absurd hdotted (by decide)
  · rw [List.head?_cons, Option.some.injEq, lowerSimple_eq_dollar_iff]

end Text

namespace Fuzzy

theorem isOperator_lower (k : String) : isOperator (Text.lower k) = isOperator k := by
  rw [isOperator, isOperator, Bool.eq_iff_iff, beq_iff_eq, beq_iff_eq, Text.lower,
    String.toList_ofList]
  cases k.toList with
  | nil => rfl
  | cons c cs =>
    have hne : Text.lowerChar false c cs ≠ [] := by
      unfold Text.lowerChar
      split_ifs <;> exact List.cons_ne_nil _ _
    rw [Text.lowerFrom, List.head?_append_of_ne_nil _ hne, Text.head?_lowerChar, List.head?_cons,
      Option.some.injEq]

theorem isOperator_congr {k l : String} (h : Text.lower l = Text.lower k) :
    isOperator l = isOperator k := by
  rw [← isOperator_lower, h, isOperator_lower]

end Fuzzy

namespace CaseMap

open Value
open Fuzzy (isOperator isOperator_congr)

/-! ## Keys -/

/-- Whether the operators among the keys `ks` stand at the same places among the keys `ls`. -/
def KeepsOperatorKeys (ks ls : List String) : Prop :=
  ∀ (i : Nat) k, isOperator k = true → ks[i]? = some k → ls[i]? = some k

/-- Whether one of the keys is an operator that stands for a path which is none of the keys. -/
def Mistakes (paths ks : List String) : Prop :=
  ∃ k ∈ ks, isOperator k = true ∧ ∃ p, firstSpelling? paths k = some p ∧ p ∉ ks

section Keys

variable {paths ks ls : List String}

/-- Re-casing keeps the operators of a mapping exactly when it mistakes none. -/
theorem keepsOperatorKeys_iff (h : Respelled paths ks ls) :
    KeepsOperatorKeys ks ls ↔ ¬ Mistakes paths ks := by
  constructor
  · rintro hkeeps ⟨k, hk, hop, p, hp, hmem⟩
    -- The claimant is an operator too, and it is spelled as the path is.
    obtain ⟨l, hl, hlower, -⟩ := exists_getElem?_claimant hk hp
    have hkept := hkeeps _ l ((isOperator_congr hlower).trans hop) hl
    have hclaimed := h.claimed k hk p hp
    obtain rfl := Option.some.inj (hkept.symm.trans hclaimed)
    exact hmem (List.mem_of_getElem? hl)
  · intro hnone i k hop hk
    rw [h.getElem?_eq, hk, Option.map_some]
    refine congrArg some ?_
    cases hp : firstSpelling? paths k with
    | none => rfl
    | some p =>
      dsimp only
      split_ifs with hc
      · have hmem : p ∈ ks := by
          by_contra hmem
          exact hnone ⟨k, List.mem_of_getElem? hk, hop, p, hp, hmem⟩
        obtain ⟨l, hl, -, hlp⟩ := exists_getElem?_claimant (List.mem_of_getElem? hk) hp
        rw [hc, hk] at hl
        rw [Option.some.inj hl, hlp hmem]
      · rfl

/-- What re-casing makes of a key where it keeps operators. -/
def KeepsKey (k l : String) : Prop :=
  isOperator l = isOperator k ∧ (isOperator k = true → l = k)

theorem forall₂_keepsKey (h : Respelled paths ks ls) (hkeeps : KeepsOperatorKeys ks ls) :
    List.Forall₂ KeepsKey ks ls := by
  refine List.forall₂_iff_get.mpr ⟨h.spelled.length_eq, fun i hi hi' => ?_⟩
  have hspelled := (List.forall₂_iff_get.mp h.spelled).2 i hi hi'
  rw [List.get_eq_getElem, List.get_eq_getElem] at hspelled ⊢
  constructor
  · rcases hspelled with hl | hl
    · rw [hl]
    · exact isOperator_congr (lower_of_firstSpelling? hl)
  · intro hop
    have hkept := hkeeps i _ hop (List.getElem?_eq_getElem hi)
    rw [List.getElem?_eq_getElem hi'] at hkept
    exact Option.some.inj hkept

theorem filter_isOperator (h : List.Forall₂ KeepsKey ks ls) :
    ls.filter isOperator = ks.filter isOperator := by
  induction h with
  | nil => rfl
  | @cons k l ks ls hkl _ ih =>
    rw [List.filter_cons, List.filter_cons, ih, hkl.1]
    by_cases hop : isOperator k = true
    · rw [if_pos hop, if_pos hop, hkl.2 hop]
    · rw [if_neg hop, if_neg hop]

end Keys

/-! ## Mappings -/

/-- Whether two mappings have the same operators in the same order, and one is an unusable clause
when the other is. -/
structure Alike (fs gs : Fields) : Prop where
  operators : gs.keys.filter isOperator = fs.keys.filter isOperator
  unusable : Pattern.isUnusableClause (.map gs) = Pattern.isUnusableClause (.map fs)

section Mappings

variable {paths : List String} {fs gs : Fields}

theorem string?_of_respells {v w : Value} (h : Respells paths v w) : w.string? = v.string? := by
  cases h <;> rfl

/-- The text under an operator is kept. -/
theorem string?_get?_of_keepsKey {k : String} (hop : isOperator k = true)
    (hkeys : List.Forall₂ KeepsKey fs.keys gs.keys)
    (hvalues : List.Forall₂ (Respells paths) (fs.map (·.2)) (gs.map (·.2))) :
    (gs.get? k).bind string? = (fs.get? k).bind string? := by
  induction fs generalizing gs with
  | nil =>
    rw [List.map_eq_nil_iff.mp (List.forall₂_nil_left_iff.mp hkeys)]
  | cons e fs ih =>
    cases gs with
    | nil => cases hkeys
    | cons d gs =>
      obtain ⟨a, v⟩ := e
      obtain ⟨b, w⟩ := d
      obtain ⟨hab, hkeys⟩ := List.forall₂_cons.mp hkeys
      obtain ⟨hvw, hvalues⟩ := List.forall₂_cons.mp hvalues
      by_cases hk : k = a
      · subst hk
        rw [show b = k from hab.2 hop, Fields.get?_cons_self, Fields.get?_cons_self]
        exact string?_of_respells hvw
      · have hkb : k ≠ b := by
          rintro rfl
          exact hk (hab.2 (hab.1.symm.trans hop))
        rw [Fields.get?_cons_of_ne hkb, Fields.get?_cons_of_ne hk, ih hkeys hvalues]

theorem has_of_filter_isOperator {k : String} (hop : isOperator k = true)
    (h : gs.keys.filter isOperator = fs.keys.filter isOperator) : gs.has k = fs.has k := by
  rw [Bool.eq_iff_iff, Fields.has_iff_mem_keys, Fields.has_iff_mem_keys]
  have hmem : k ∈ gs.keys.filter isOperator ↔ k ∈ fs.keys.filter isOperator := by rw [h]
  rwa [List.mem_filter, List.mem_filter, and_iff_left hop, and_iff_left hop] at hmem

theorem isUsableFields_eq (fs : Fields) :
    Pattern.isUsableFields fs =
      (((fs.get? "$regex").bind string?).map fun s => !Text.isBlankText s).getD false := by
  unfold Pattern.isUsableFields
  cases fs.get? "$regex" with
  | none => rfl
  | some v => cases v <;> rfl

/-- Where the operators are kept, the sanitizer meets the same operators and the same clauses. -/
theorem alike_of_keepsOperatorKeys (h : Respells paths (.map fs) (.map gs))
    (hkeeps : KeepsOperatorKeys fs.keys gs.keys) : Alike fs gs := by
  obtain ⟨gs', hgs, hrespelled, hvalues⟩ := exists_of_respells_map h
  obtain rfl := Value.map.inj hgs
  have hkeys := forall₂_keepsKey hrespelled hkeeps
  have hops := filter_isOperator hkeys
  refine ⟨hops, ?_⟩
  show (Pattern.isClauseFields gs && !Pattern.isUsableFields gs)
    = (Pattern.isClauseFields fs && !Pattern.isUsableFields fs)
  rw [Pattern.isClauseFields, Pattern.isClauseFields, isUsableFields_eq, isUsableFields_eq,
    has_of_filter_isOperator (by decide) hops, has_of_filter_isOperator (by decide) hops,
    string?_get?_of_keepsKey (by decide) hkeys hvalues]

end Mappings

/-! ## Trees -/

/-- Whether each mapping in the tree `t` keeps its operators at their places in the tree `u`. -/
def KeepsOperators (t u : Value) : Prop :=
  ∀ path (fs : Fields), t.at? path = some (.map fs) →
    ∃ gs : Fields, u.at? path = some (.map gs) ∧ KeepsOperatorKeys fs.keys gs.keys

section Trees

variable {paths : List String} {t u : Value}

theorem parts_of_respells (h : Respells paths t u) :
    List.Forall₂ (Respells paths) t.parts u.parts := by
  cases h with
  | map _ hvalues => exact hvalues
  | list hitems => exact hitems
  | leaf hv =>
    cases t with
    | map | list | tuple => exact Bool.noConfusion hv
    | _ => exact .nil

theorem at?_of_respells (h : Respells paths t u) {path : List Nat} {v : Value}
    (hv : t.at? path = some v) : ∃ w, u.at? path = some w ∧ Respells paths v w := by
  induction path generalizing t u with
  | nil =>
    obtain rfl := Option.some.inj hv
    exact ⟨u, rfl, h⟩
  | cons i path ih =>
    obtain ⟨part, hi, hpart⟩ := at?_cons_eq_some.mp hv
    have hparts := parts_of_respells h
    obtain ⟨hlt, rfl⟩ := List.getElem?_eq_some_iff.mp hi
    have hlt' : i < u.parts.length := hparts.length_eq ▸ hlt
    obtain ⟨w, hw, hvw⟩ := ih ((List.forall₂_iff_get.mp hparts).2 i hlt hlt') hpart
    exact ⟨w, at?_cons_eq_some.mpr ⟨_, List.getElem?_eq_getElem hlt', hw⟩, hvw⟩

theorem map_at?_of_respells (h : Respells paths t u) {path : List Nat} {fs : Fields}
    (hfs : t.at? path = some (.map fs)) :
    ∃ gs : Fields, u.at? path = some (.map gs) ∧ Respells paths (.map fs) (.map gs) := by
  obtain ⟨w, hw, hrespells⟩ := at?_of_respells h hfs
  obtain ⟨gs, rfl, -, -⟩ := exists_of_respells_map hrespells
  exact ⟨gs, hw, hrespells⟩

theorem respelled_of_respells {fs gs : Fields} (h : Respells paths (.map fs) (.map gs)) :
    Respelled paths fs.keys gs.keys := by
  obtain ⟨gs', hgs, hkeys, -⟩ := exists_of_respells_map h
  obtain rfl := Value.map.inj hgs
  exact hkeys

theorem keepsOperators_iff (h : Respells paths t u) :
    KeepsOperators t u ↔
      ∀ path (fs : Fields), t.at? path = some (.map fs) → ¬ Mistakes paths fs.keys := by
  refine forall₃_congr fun path fs hfs => ?_
  obtain ⟨gs, hgs, hrespells⟩ := map_at?_of_respells h hfs
  rw [← keepsOperatorKeys_iff (respelled_of_respells hrespells)]
  constructor
  · rintro ⟨gs', hgs', hkeeps⟩
    obtain rfl := Value.map.inj (Option.some.inj (hgs.symm.trans hgs'))
    exact hkeeps
  · exact fun hkeeps => ⟨gs, hgs, hkeeps⟩

/-- Where the operators of a tree are kept, the sanitizer meets in each mapping what it would have met
before. -/
theorem alike_of_keepsOperators (h : Respells paths t u) (hkeeps : KeepsOperators t u)
    {path : List Nat} {fs : Fields} (hfs : t.at? path = some (.map fs)) :
    ∃ gs : Fields, u.at? path = some (.map gs) ∧ Alike fs gs := by
  obtain ⟨gs, hgs, hrespells⟩ := map_at?_of_respells h hfs
  obtain ⟨gs', hgs', hkept⟩ := hkeeps path fs hfs
  obtain rfl := Value.map.inj (Option.some.inj (hgs.symm.trans hgs'))
  exact ⟨gs, hgs, alike_of_keepsOperatorKeys hrespells hkept⟩

end Trees

/-! ## Paths -/

/-- Whether each path that has the name of an operator is the only text with its lower case. -/
def LeavesOperators (paths : List String) : Prop :=
  ∀ p ∈ paths, isOperator p = true → ∀ k, Text.lower k = Text.lower p → k = p

/-- Paths that are no other spelling of an operator mistake none. -/
theorem not_mistakes {paths : List String} (h : LeavesOperators paths) (ks : List String) :
    ¬ Mistakes paths ks := by
  rintro ⟨k, hk, hop, p, hp, hmem⟩
  have hlower := lower_of_firstSpelling? hp
  have hpath : p ∈ paths := List.mem_of_find?_eq_some hp
  obtain rfl := h p hpath ((isOperator_congr hlower).trans hop) k hlower.symm
  exact hmem hk

/-- Where a path is another spelling of an operator, some operator alone is mistaken. -/
theorem exists_mistaken {paths : List String} (h : ¬ LeavesOperators paths) :
    ∃ k, Mistakes paths [k] := by
  simp only [LeavesOperators, not_forall] at h
  obtain ⟨p, hp, hop, k, hlower, hne⟩ := h
  -- Of the path and its other spelling one is not the first of the paths with that lower case.
  obtain ⟨q, hq⟩ : ∃ q, firstSpelling? paths p = some q :=
    Option.isSome_iff_exists.mp
      (List.find?_isSome.mpr ⟨p, hp, beq_iff_eq.mpr rfl⟩)
  by_cases hqp : q = p
  · have hk : firstSpelling? paths k = some q := by rw [firstSpelling?_congr paths hlower, hq]
    refine ⟨k, k, List.mem_singleton_self k, (isOperator_congr hlower).trans hop, q, hk, ?_⟩
    rw [List.mem_singleton, hqp]
    exact Ne.symm hne
  · exact ⟨p, p, List.mem_singleton_self p, hop, q, hq, mt List.mem_singleton.mp hqp⟩

end CaseMap

end QueryWarden
