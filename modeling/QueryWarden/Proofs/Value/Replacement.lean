import QueryWarden.Proofs.Value.Trees

/-!
# Replacement in trees

`replace f` puts `f v` in the place of each value `v` of a tree that has one and leaves everything
else as it is; it does not look into what it puts in.  A function that goes through trees part by part
is a replacement (`eq_replace`).
-/

namespace QueryWarden.Value

mutual

/-- Replaces the values of a tree that have a replacement, those nearest to the root first. -/
def replace (f : Value → Option Value) : Value → Value
  | .map es => (f (.map es)).getD (.map (replaceEntries f es))
  | .list vs => (f (.list vs)).getD (.list (replaceItems f vs))
  | v => (f v).getD v

def replaceEntries (f : Value → Option Value) : List (String × Value) → List (String × Value)
  | [] => []
  | (k, v) :: es => (k, replace f v) :: replaceEntries f es

def replaceItems (f : Value → Option Value) : List Value → List Value
  | [] => []
  | v :: vs => replace f v :: replaceItems f vs

end

variable {f : Value → Option Value}

theorem replaceEntries_eq_map (es : List (String × Value)) :
    replaceEntries f es = es.map fun e => (e.1, replace f e.2) := by
  induction es with
  | nil => rw [replaceEntries, List.map_nil]
  | cons e es ih =>
    obtain ⟨k, v⟩ := e
    rw [replaceEntries, ih, List.map_cons]

theorem replaceItems_eq_map (vs : List Value) : replaceItems f vs = vs.map (replace f) := by
  induction vs with
  | nil => rw [replaceItems, List.map_nil]
  | cons v vs ih => rw [replaceItems, ih, List.map_cons]

theorem replace_of_some {v u : Value} (h : f v = some u) : replace f v = u := by
  cases v <;> rw [replace, h, Option.getD_some]
  all_goals simp

theorem replace_map_of_none {es : Fields} (h : f (.map es) = none) :
    replace f (.map es) = .map (es.map fun e => (e.1, replace f e.2)) := by
  rw [replace, h, Option.getD_none, replaceEntries_eq_map]

theorem replace_list_of_none {vs : List Value} (h : f (.list vs) = none) :
    replace f (.list vs) = .list (vs.map (replace f)) := by
  rw [replace, h, Option.getD_none, replaceItems_eq_map]

def isContainer (v : Value) : Bool :=
  v.isMap || v.isList

theorem replace_of_not_isContainer {v : Value} (hv : v.isContainer = false) (h : f v = none) :
    replace f v = v := by
  cases v with
  | map | list => exact Bool.noConfusion hv
  | _ => rw [replace, h, Option.getD_none] <;> simp

/-- What puts in the replacements, goes through mappings and lists that have none and leaves all
other values as they are, is the replacement. -/
theorem eq_replace {P : Value → Prop} {g : Value → Value}
    (hsome : ∀ v u, P v → f v = some u → g v = u)
    (hmap : ∀ es : Fields, P (.map es) → f (.map es) = none →
      g (.map es) = .map (es.map fun e => (e.1, g e.2)))
    (hlist : ∀ vs, P (.list vs) → f (.list vs) = none → g (.list vs) = .list (vs.map g))
    (hother : ∀ v, P v → v.isContainer = false → f v = none → g v = v) {v : Value}
    (hv : v.Everywhere P) : g v = replace f v := by
  induction v using parts_induction with
  | step v ih =>
    obtain ⟨hroot, hparts⟩ := everywhere_iff.mp hv
    have hsame : ∀ part ∈ v.parts, g part = replace f part := fun part hpart =>
      ih part hpart (hparts part hpart)
    cases hf : f v with
    | some u => rw [hsome v u hroot hf, replace_of_some hf]
    | none =>
      cases v with
      | map es =>
        rw [hmap es hroot hf, replace_map_of_none hf]
        refine congrArg Value.map (List.map_congr_left fun e he => ?_)
        rw [hsame e.2 (List.mem_map_of_mem he)]
      | list vs =>
        rw [hlist vs hroot hf, replace_list_of_none hf]
        exact congrArg Value.list (List.map_congr_left hsame)
      | _ => rw [hother _ hroot rfl hf, replace_of_not_isContainer rfl hf]

theorem replace_eq_self {v : Value} (h : v.Everywhere fun w => ∀ u, f w = some u → u = w) :
    replace f v = v := by
  refine (eq_replace (g := id) ?_ ?_ ?_ ?_ h).symm
  · exact fun w u hw hu => (hw u hu).symm
  · exact fun es _ _ => congrArg Value.map (List.map_id es).symm
  · exact fun vs _ _ => congrArg Value.list (List.map_id vs).symm
  · exact fun _ _ _ _ => rfl

end QueryWarden.Value
