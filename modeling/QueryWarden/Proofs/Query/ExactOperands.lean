import QueryWarden.Proofs.Query.Literals

/-!
# Embedded documents as operands

An embedded document is a mapping without operators that a filter compares with the value of a field
as it is: it is itself the value of a field key, or the operand of a comparison under one
(`IsOperand`).  The filters and conditions that hold such operands are reached from the root through the
lists of logical operators, through `$not` and `$elemMatch`, and through the documents of operators
under field keys (`Clause`).

Fuzzy matching leaves the value of a field key as it is.  It looks at keys only, so it takes the operand
of a comparison for a filter, visits it, and replaces the literals in it: the operand is kept exactly
when it has none (`operand_kept_iff`).
-/

namespace QueryWarden.Fuzzy

open Value

def comparisonOperators : List String :=
  ["$eq", "$ne", "$gt", "$gte", "$lt", "$lte"]

/-- The operators whose operand is a condition or a filter. -/
def nestingOperators : List String :=
  ["$not", "$elemMatch"]

/-- A mapping without operators among its keys. -/
def IsEmbedded (gs : Fields) : Prop :=
  ∀ l ∈ gs.keys, isOperator l = false

instance (gs : Fields) : Decidable (IsEmbedded gs) :=
  inferInstanceAs (Decidable (∀ l ∈ gs.keys, _))

/-- The filters and conditions in a filter with the paths to them.  The mark says whether a field key has
been passed on the way. -/
inductive Clause (t : Value) : Bool → List Nat → Value → Prop
  | root : Clause t false [] t
  | branches {mark : Bool} {path : List Nat} {fs : Fields} {i : Nat} {k : String}
      {vs : List Value} : Clause t mark path (.map fs) → fs[i]? = some (k, .list vs) →
      k ∈ logicalOperators → Clause t mark (path ++ [i]) (.list vs)
  | branch {mark : Bool} {path : List Nat} {vs : List Value} {i : Nat} {v : Value} :
      Clause t mark path (.list vs) → vs[i]? = some v → Clause t mark (path ++ [i]) v
  | nested {mark : Bool} {path : List Nat} {fs : Fields} {i : Nat} {k : String} {gs : Fields} :
      Clause t mark path (.map fs) → fs[i]? = some (k, .map gs) → k ∈ nestingOperators →
      Clause t mark (path ++ [i]) (.map gs)
  | condition {mark : Bool} {path : List Nat} {fs : Fields} {i : Nat} {k : String} {gs : Fields} :
      Clause t mark path (.map fs) → fs[i]? = some (k, .map gs) → isOperator k = false →
      isOperatorDocument (.map gs) = true → Clause t true (path ++ [i]) (.map gs)

/-- The embedded documents that a filter compares with the values of fields, each with the comparison
that it stands under, if any. -/
inductive IsOperand (t : Value) : Option String → List Nat → Fields → Prop
  | value {mark : Bool} {path : List Nat} {fs : Fields} {i : Nat} {k : String} {gs : Fields} :
      Clause t mark path (.map fs) → fs[i]? = some (k, .map gs) → isOperator k = false →
      IsEmbedded gs → IsOperand t none (path ++ [i]) gs
  | comparand {path : List Nat} {fs : Fields} {i : Nat} {k : String} {gs : Fields} :
      Clause t true path (.map fs) → fs[i]? = some (k, .map gs) → k ∈ comparisonOperators →
      IsEmbedded gs → IsOperand t (some k) (path ++ [i]) gs

section Operands

variable {t v : Value} {mark : Bool} {path : List Nat} {op : Option String} {gs : Fields}

/-- The operators other than the opaque ones have their operands visited. -/
theorem opens_of_mem {ops : List String} {k : String}
    (hops : ∀ l ∈ ops, isOperator l = true ∧ l ∉ opaqueOperators) (hk : k ∈ ops) (gs : Fields) :
    Opens k (.map gs) :=
  .operand (hops k hk).1 (hops k hk).2

theorem Clause.visited (h : Clause t mark path v) : Visited t path v := by
  induction h with
  | root => exact .root
  | branches _ hi hk ih => exact .entry ih hi (.branches hk)
  | branch _ hi ih => exact .item ih hi
  | nested _ hi hk ih => exact .entry ih hi (opens_of_mem (by decide) hk _)
  | condition _ hi hk hop ih =>
    obtain ⟨gs, hgs, l, hl, hl'⟩ := isOperatorDocument_iff.mp hop
    obtain rfl := Value.map.inj hgs
    exact .entry ih hi (.document hk hl hl')

theorem at?_fuzzify_of_value (h : IsOperand t none path gs) :
    (fuzzify t).at? path = some (.map gs) := by
  cases h with
  | value hclause hi hk hgs =>
    exact (rewritten_fuzzify t).closed hclause.visited.at? hi (.embedded hk hgs)

/-- The operand of a comparison is made fuzzy like a filter. -/
theorem at?_fuzzify_of_comparand {k : String} (h : IsOperand t (some k) path gs) :
    (fuzzify t).at? path = some (fuzzify (.map gs)) := by
  cases h with
  | comparand hclause hi hk hgs =>
    exact (Visited.entry hclause.visited hi (opens_of_mem (by decide) hk _)).at?_fuzzify

/-- An embedded document that a filter compares with the value of a field stays as it is exactly when it
is the value of the field key itself or has no literal. -/
theorem operand_kept_iff (h : IsOperand t op path gs) :
    (fuzzify t).at? path = some (.map gs) ↔
      op = none ∨ ∀ behind s, ¬ IsLiteral (.map gs) behind s := by
  cases op with
  | none => simp [at?_fuzzify_of_value h]
  | some k =>
    rw [at?_fuzzify_of_comparand h, Option.some.injEq, fuzzify_eq_self_iff]
    simp

end Operands

/-- An operand without literals is kept, also below several other conditions. -/
theorem operand_kept_iff_gte :
    let size : Fields := [("h", .int 14), ("units", .list [.string "cm"])]
    let t : Value := .map [("$or", .list [.map [("size", .map [("$not", .map [("$gte", .map size)])])]])]
    IsOperand t (some "$gte") [0, 0, 0, 0, 0] size ∧
      (fuzzify t).at? [0, 0, 0, 0, 0] = some (.map size) := by
  intro size t
  have hbranch : Clause t false [0, 0] (.map [("size", .map [("$not", .map [("$gte", .map size)])])]) :=
    .branch (.branches .root rfl (by decide)) rfl
  have hnot : Clause t true [0, 0, 0, 0] (.map [("$gte", .map size)]) :=
    .nested (.condition hbranch rfl (by decide) (by decide)) rfl (by decide)
  have hoperand : IsOperand t (some "$gte") [0, 0, 0, 0, 0] size :=
    .comparand hnot rfl (by decide) (by decide)
  refine ⟨hoperand, (operand_kept_iff hoperand).mpr (.inr ?_)⟩
  exact fuzzify_eq_self_iff.mp (by decide +kernel)

/-- The operand of a comparison with a string in it is not kept, so the comparison is with a pattern in
place of the string. -/
theorem fuzzify_changes_comparand :
    let city : Fields := [("city", .string "Oslo")]
    let t : Value := .map [("address", .map [("$eq", .map city)])]
    IsOperand t (some "$eq") [0, 0] city ∧
      (fuzzify t).at? [0, 0] = some (.map [("city", .map [("$regex", .string "Oslo"),
        ("$options", .string "i")])]) := by
  intro city t
  have hclause : Clause t true [0] (.map [("$eq", .map city)]) :=
    .condition .root rfl (by decide) (by decide)
  exact ⟨.comparand hclause rfl (by decide) (by decide), by decide +kernel⟩

end QueryWarden.Fuzzy
