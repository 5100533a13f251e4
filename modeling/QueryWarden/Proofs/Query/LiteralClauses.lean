import QueryWarden.Proofs.ExtendedJson.RoundTrip
import QueryWarden.Proofs.Pattern.Escape
import QueryWarden.Proofs.Query.Clean
import QueryWarden.Proofs.Query.Literals

/-!
# The clause of a literal

Fuzzy matching puts the clause of a pattern in the place of a literal.  Sanitation has nothing to do
inside of it (`isClean_ofLiteral`), and takes it for unusable when the pattern is blank
(`isUnusableClause_ofLiteral`).  So of a filter with one literal either all is left or nothing
(`sanitize_fuzzify_field`).  Decoding makes of the clause the pattern that ignores the case of letters
(`decode_ofLiteral`).
-/

namespace QueryWarden

open Value

namespace Pattern

theorem isUnusableClause_ofLiteral (s : String) :
    isUnusableClause (ofLiteral s) = Text.isBlankText (escape s) :=
  (Bool.true_and _).trans (Bool.not_not _)

end Pattern

namespace Sanitation

theorem isClean_string (s : String) : IsClean (.string s) :=
  isClean_of_descendants_eq_nil rfl rfl

theorem isClean_ofLiteral (s : String) : IsClean (Pattern.ofLiteral s) := by
  refine isClean_map.mpr ⟨fun _ o ho => ?_, ?_⟩
  · simp only [List.mem_cons, Prod.mk.injEq, List.not_mem_nil, or_false] at ho
    rcases ho with ⟨hkey, -⟩ | ⟨-, rfl⟩
    · exact absurd hkey (by decide)
    · rfl
  · refine List.forall_mem_cons.mpr ⟨⟨rfl, isClean_string _⟩, List.forall_mem_singleton.mpr ?_⟩
    exact ⟨rfl, isClean_string _⟩

theorem mayStay_ofLiteral {s : String} (h : Text.isBlankText (Pattern.escape s) = false) :
    MayStay (Pattern.ofLiteral s) :=
  ⟨(Pattern.isUnusableClause_ofLiteral s).trans h, isClean_ofLiteral s⟩

end Sanitation

namespace Fuzzy

theorem fuzzify_field {k : String} (hk : isOperator k = false) (s : String) :
    fuzzify (.map [(k, .string s)]) = .map [(k, Pattern.ofLiteral s)] := by
  rw [fuzzify_map, fuzzifyEntries_cons, fuzzifyValue_string hk, fuzzifyEntries_nil]

/-- A field with one literal is dropped when the pattern is blank, and stays as it is made fuzzy
otherwise. -/
theorem sanitize_fuzzify_field {k : String} (hk : isOperator k = false) (s : String) :
    sanitize (fuzzify (.map [(k, .string s)])) =
      if Text.isBlankText (Pattern.escape s) then (.map [], ⟨[k], 0⟩)
      else (.map [(k, Pattern.ofLiteral s)], .empty) := by
  rw [fuzzify_field hk, sanitize]
  cases hblank : Text.isBlankText (Pattern.escape s) with
  | true =>
    have hclause : Pattern.isUnusableClause (Pattern.ofLiteral s) = true :=
      (Pattern.isUnusableClause_ofLiteral s).trans hblank
    rw [if_pos rfl, Sanitation.clean_map, Sanitation.cleanEntries, if_pos hclause,
      Sanitation.cleanEntries_nil]
    rfl
  | false =>
    rw [if_neg Bool.false_ne_true]
    refine Sanitation.clean_of_isClean "" (Sanitation.isClean_map.mpr ⟨fun hhas => ?_, ?_⟩)
    · rw [Fields.has_iff_mem_keys] at hhas
      obtain rfl : "$regex" = k := List.mem_singleton.mp hhas
      exact absurd hk (by decide)
    · exact List.forall_mem_singleton.mpr (Sanitation.mayStay_ofLiteral hblank)

end Fuzzy

namespace ExtendedJson

theorem decode_ofLiteral (s : String) :
    decode (Pattern.ofLiteral s) = .native (.regex ⟨Pattern.escape s, 2, true⟩) :=
  decode_map_of_converts (firstTag?_of_literal? rfl)

/-- The keys of tags are operators, so a field key is none of them. -/
theorem lacksTags_field {k : String} (hk : Fuzzy.isOperator k = false) (v : Value) :
    LacksTags [(k, v)] := by
  have htags : ∀ l ∈ tagKeys, Fuzzy.isOperator l = true := by decide
  intro l hl hmem
  obtain rfl : l = k := List.mem_singleton.mp hmem
  rw [htags l hl] at hk
  exact Bool.noConfusion hk

end ExtendedJson

end QueryWarden
