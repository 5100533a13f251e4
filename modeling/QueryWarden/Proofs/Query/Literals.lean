import Mathlib.Data.List.Induction
import QueryWarden.Proofs.Query.Fuzzy
import QueryWarden.Proofs.Value.Trees

/-!
# The literals of a filter

Fuzzy matching visits the trees that hold filters or conditions: the root, the items of a list that is
visited, and the values of entries that open (`Opens`), which are the operands of operators, the lists
of the logical ones and the documents of operators under field keys.  A literal is a string under a
field key of a visited mapping (`IsLiteral`).

1. What stands at a place of a fuzzy filter is the fuzzy form of what stood there when it is visited, a
   pattern when it is a literal, and else what stood there (`at?_fuzzify_cases`).
2. So fuzzy matching is the rewriting that `Rewritten` describes place by place: it replaces the
   literals by patterns and keeps all else (`rewritten_fuzzify`).
3. A value that opens does so when it is fuzzy (`opens_fuzzify`), and a pattern holds no literal,
   so a second pass changes nothing (`fuzzify_fuzzify`).
4. A pipeline is rewritten below the keys `$match` of its stages (`stagesRewritten_fuzzifyStages`).
-/

namespace QueryWarden.Fuzzy

open Value

/-! ## What is visited -/

/-- The values of a key that hold filters or conditions: the operand of an operator, the list of a
logical one, and a document of operators under a field key. -/
inductive Opens (k : String) : Value → Prop
  | operand {gs : Fields} : isOperator k = true → k ∉ opaqueOperators → Opens k (.map gs)
  | branches {vs : List Value} : k ∈ logicalOperators → Opens k (.list vs)
  | document {gs : Fields} {l : String} :
      isOperator k = false → l ∈ gs.keys → isOperator l = true → Opens k (.map gs)

/-- The trees in a filter that hold filters or conditions, with the paths to them. -/
inductive Visited (t : Value) : List Nat → Value → Prop
  | root : Visited t [] t
  | item {path : List Nat} {vs : List Value} {i : Nat} {v : Value} :
      Visited t path (.list vs) → vs[i]? = some v → Visited t (path ++ [i]) v
  | entry {path : List Nat} {fs : Fields} {i : Nat} {k : String} {v : Value} :
      Visited t path (.map fs) → fs[i]? = some (k, v) → Opens k v → Visited t (path ++ [i]) v

/-- A string under a field key, anywhere in a tree. -/
def IsFieldString (t : Value) (path : List Nat) (s : String) : Prop :=
  ∃ front i fs k, path = front ++ [i] ∧ t.at? front = some (.map fs) ∧
    fs[i]? = some (k, .string s) ∧ isOperator k = false

/-- A string under a field key of a visited mapping. -/
def IsLiteral (t : Value) (path : List Nat) (s : String) : Prop :=
  ∃ front i fs k, path = front ++ [i] ∧ Visited t front (.map fs) ∧
    fs[i]? = some (k, .string s) ∧ isOperator k = false

theorem isOperator_of_mem_logicalOperators {k : String} (h : k ∈ logicalOperators) :
    isOperator k = true := by
  have hall : ∀ l ∈ logicalOperators, isOperator l = true := by decide
  exact hall k h

theorem isOperator_of_mem_opaqueOperators {k : String} (h : k ∈ opaqueOperators) :
    isOperator k = true := by
  have hall : ∀ l ∈ opaqueOperators, isOperator l = true := by decide
  exact hall k h

theorem isOperatorDocument_iff {v : Value} :
    isOperatorDocument v = true ↔ ∃ gs : Fields, v = .map gs ∧ ∃ l ∈ gs.keys, isOperator l = true := by
  cases v with
  | map gs => simp [isOperatorDocument, Fields.keys]
  | _ => simp [isOperatorDocument]

theorem opens_of_descends {k : String} {v : Value} (h : descends k v = true) : Opens k v := by
  unfold descends at h
  by_cases hk : isOperator k = true
  · rw [if_pos hk] at h
    cases v with
    | map gs =>
      refine .operand hk ?_
      simpa [opensOperand] using h
    | list vs =>
      refine .branches ?_
      simpa [opensOperand] using h
    | _ => simp [opensOperand] at h
  · rw [if_neg hk] at h
    obtain ⟨gs, rfl, l, hl, hop⟩ := isOperatorDocument_iff.mp h
    exact .document (Bool.eq_false_iff.mpr hk) hl hop

theorem descends_of_opens {k : String} {v : Value} (h : Opens k v) : descends k v = true := by
  unfold descends
  cases h with
  | operand hk hopaque =>
    rw [if_pos hk]
    simpa [opensOperand] using hopaque
  | branches hk =>
    rw [if_pos (isOperator_of_mem_logicalOperators hk)]
    simpa [opensOperand] using hk
  | document hk hl hop =>
    rw [if_neg (by simp [hk])]
    exact isOperatorDocument_iff.mpr ⟨_, rfl, _, hl, hop⟩

section Visits

variable {t u v : Value} {path behind : List Nat} {s : String}

theorem Visited.at? (h : Visited t path v) : t.at? path = some v := by
  induction h with
  | root => rfl
  | item _ hi ih => exact at?_item ih hi
  | entry _ hi _ ih => exact at?_entry ih hi

theorem Visited.trans (hu : Visited t path u) (hv : Visited u behind v) :
    Visited t (path ++ behind) v := by
  induction hv with
  | root => rwa [List.append_nil]
  | item _ hi ih =>
    rw [← List.append_assoc]
    exact .item ih hi
  | entry _ hi hopen ih =>
    rw [← List.append_assoc]
    exact .entry ih hi hopen

theorem IsLiteral.under (hu : Visited t path u) (h : IsLiteral u behind s) :
    IsLiteral t (path ++ behind) s := by
  obtain ⟨front, i, fs, k, rfl, hfront, hi, hk⟩ := h
  exact ⟨path ++ front, i, fs, k, by rw [List.append_assoc], hu.trans hfront, hi, hk⟩

theorem IsLiteral.isFieldString (h : IsLiteral t path s) : IsFieldString t path s := by
  obtain ⟨front, i, fs, k, hpath, hfront, hi, hk⟩ := h
  exact ⟨front, i, fs, k, hpath, hfront.at?, hi, hk⟩

theorem IsFieldString.at? (h : IsFieldString t path s) : t.at? path = some (.string s) := by
  obtain ⟨front, i, fs, k, rfl, hfront, hi, -⟩ := h
  exact at?_entry hfront hi

end Visits

/-! ## One entry -/

def fuzzifyValue (k : String) (v : Value) : Value :=
  if descends k v then fuzzify v else replaceLiteral k v

theorem fuzzifyEntries_cons (k : String) (v : Value) (es : Fields) :
    fuzzifyEntries ((k, v) :: es) = (k, fuzzifyValue k v) :: fuzzifyEntries es := by
  rw [fuzzifyEntries]
  rfl

theorem fuzzifyEntries_eq_map (es : Fields) :
    fuzzifyEntries es = es.map fun e => (e.1, fuzzifyValue e.1 e.2) := by
  induction es with
  | nil => exact fuzzifyEntries_nil
  | cons e es ih =>
    obtain ⟨k, v⟩ := e
    rw [fuzzifyEntries_cons, ih, List.map_cons]

theorem fuzzifyItems_eq_map (vs : List Value) : fuzzifyItems vs = vs.map fuzzify := by
  induction vs with
  | nil => rw [fuzzifyItems, List.map_nil]
  | cons v vs ih => rw [fuzzifyItems, ih, List.map_cons]

theorem fuzzify_map (es : Fields) : fuzzify (.map es) = .map (fuzzifyEntries es) := by rw [fuzzify]

theorem fuzzify_list (vs : List Value) : fuzzify (.list vs) = .list (vs.map fuzzify) := by
  rw [fuzzify, fuzzifyItems_eq_map]

theorem fuzzify_of_not_container {v : Value} (hm : v.isMap = false) (hl : v.isList = false) :
    fuzzify v = v := by
  cases v with
  | map => simp [isMap, fields?] at hm
  | list => simp [isList, items?] at hl
  | _ => rw [fuzzify] <;> simp

theorem fuzzifyValue_of_opens {k : String} {v : Value} (h : Opens k v) :
    fuzzifyValue k v = fuzzify v :=
  if_pos (descends_of_opens h)

theorem fuzzifyValue_of_not_opens {k : String} {v : Value} (h : ¬ Opens k v) :
    fuzzifyValue k v = replaceLiteral k v :=
  if_neg (mt opens_of_descends h)

theorem not_opens_string (k s : String) : ¬ Opens k (.string s) :=
  nofun

theorem fuzzifyValue_string {k s : String} (hk : isOperator k = false) :
    fuzzifyValue k (.string s) = Pattern.ofLiteral s := by
  rw [fuzzifyValue_of_not_opens (not_opens_string k s)]
  show (if isOperator k = true then _ else _) = _
  rw [if_neg (by simp [hk])]

/-- The value of a key is made fuzzy in turn, or it is a literal, or it stays. -/
theorem fuzzifyValue_cases (k : String) (v : Value) :
    (Opens k v ∧ fuzzifyValue k v = fuzzify v) ∨
      (∃ s, v = .string s ∧ isOperator k = false ∧ fuzzifyValue k v = Pattern.ofLiteral s) ∨
      fuzzifyValue k v = v := by
  by_cases hopen : Opens k v
  · exact .inl ⟨hopen, fuzzifyValue_of_opens hopen⟩
  · cases v with
    | string s =>
      by_cases hk : isOperator k = true
      · refine .inr (.inr ?_)
        rw [fuzzifyValue_of_not_opens hopen]
        exact if_pos hk
      · have hk' := Bool.eq_false_iff.mpr hk
        exact .inr (.inl ⟨s, rfl, hk', fuzzifyValue_string hk'⟩)
    | _ => exact .inr (.inr (fuzzifyValue_of_not_opens hopen))

/-! ## Place by place -/

section Places

variable {t v : Value} {path : List Nat} {s : String}

theorem getElem?_fuzzifyEntries {fs : Fields} {i : Nat} {k : String} (h : fs[i]? = some (k, v)) :
    (fuzzifyEntries fs)[i]? = some (k, fuzzifyValue k v) := by
  rw [fuzzifyEntries_eq_map, List.getElem?_map, h]
  rfl

theorem Visited.at?_fuzzify (h : Visited t path v) : (fuzzify t).at? path = some (fuzzify v) := by
  induction h with
  | root => rfl
  | item _ hi ih =>
    rw [fuzzify_list] at ih
    refine at?_item ih ?_
    rw [List.getElem?_map, hi]
    rfl
  | entry _ hi hopen ih =>
    rw [fuzzify_map] at ih
    rw [← fuzzifyValue_of_opens hopen]
    exact at?_entry ih (getElem?_fuzzifyEntries hi)

theorem IsLiteral.at?_fuzzify (h : IsLiteral t path s) :
    (fuzzify t).at? path = some (Pattern.ofLiteral s) := by
  obtain ⟨front, i, fs, k, rfl, hfront, hi, hk⟩ := h
  have hmap := hfront.at?_fuzzify
  rw [fuzzify_map] at hmap
  rw [← fuzzifyValue_string hk]
  exact at?_entry hmap (getElem?_fuzzifyEntries hi)

/-- What stands at a place is visited, or a literal, or it stays as it is. -/
theorem at?_fuzzify_cases (h : t.at? path = some v) :
    (Visited t path v ∧ (fuzzify t).at? path = some (fuzzify v)) ∨
      (∃ s, v = .string s ∧ IsLiteral t path s ∧
        (fuzzify t).at? path = some (Pattern.ofLiteral s)) ∨
      (fuzzify t).at? path = some v := by
  induction path using List.reverseRecOn generalizing v with
  | nil =>
    obtain rfl := Option.some.inj h
    exact .inl ⟨.root, rfl⟩
  | append_singleton front i ih =>
    obtain ⟨u, hu, hi⟩ := at?_concat_eq_some.mp h
    rcases ih hu with ⟨hvisit, hat⟩ | ⟨s, rfl, -, -⟩ | hat
    · cases u with
      | map fs =>
        obtain ⟨k, he⟩ := getElem?_parts_map.mp hi
        rw [fuzzify_map] at hat
        have hnew := at?_entry hat (getElem?_fuzzifyEntries he)
        rcases fuzzifyValue_cases k v with ⟨hopen, hval⟩ | ⟨s, rfl, hk, hval⟩ | hval
        · rw [hval] at hnew
          exact .inl ⟨.entry hvisit he hopen, hnew⟩
        · rw [hval] at hnew
          exact .inr (.inl ⟨s, rfl, ⟨front, i, fs, k, rfl, hvisit, he, hk⟩, hnew⟩)
        · rw [hval] at hnew
          exact .inr (.inr hnew)
      | list vs =>
        have hitem : Visited t (front ++ [i]) v := .item hvisit hi
        exact .inl ⟨hitem, hitem.at?_fuzzify⟩
      | tuple vs =>
        have htuple : fuzzify (.tuple vs) = .tuple vs := fuzzify_of_not_container rfl rfl
        rw [htuple] at hat
        exact .inr (.inr (at?_concat_eq_some.mpr ⟨_, hat, hi⟩))
      | _ => exact absurd hi (by simp [parts])
    · exact absurd hi (by simp [parts])
    · -- Below what stays as it is, all stays.
      exact .inr (.inr (at?_concat_eq_some.mpr ⟨u, hat, hi⟩))

end Places

/-! ## The rewriting of a tree -/

/-- The values of a key in which nothing is rewritten: what is below an opaque operator, a list that is
not that of a logical operator, and an embedded document. -/
inductive IsClosed (k : String) : Value → Prop
  | opaqueOperand {v : Value} : k ∈ opaqueOperators → IsClosed k v
  | items {vs : List Value} : k ∉ logicalOperators → IsClosed k (.list vs)
  | embedded {gs : Fields} :
      isOperator k = false → (∀ l ∈ gs.keys, isOperator l = false) → IsClosed k (.map gs)

theorem fuzzifyValue_of_isClosed {k : String} {v : Value} (h : IsClosed k v) :
    fuzzifyValue k v = v := by
  have hopen : ¬ Opens k v := by
    intro hopen
    cases h with
    | opaqueOperand hk =>
      cases hopen with
      | operand _ hnot => exact hnot hk
      | branches hk' =>
        have hdisjoint : ∀ l ∈ opaqueOperators, l ∉ logicalOperators := by decide
        exact hdisjoint k hk hk'
      | document hk' => simp [isOperator_of_mem_opaqueOperators hk] at hk'
    | items hk =>
      cases hopen with
      | branches hk' => exact hk hk'
    | embedded hk hall =>
      cases hopen with
      | operand hk' => simp [hk] at hk'
      | document _ hl hop => simp [hall _ hl] at hop
  rw [fuzzifyValue_of_not_opens hopen]
  cases h with
  | opaqueOperand hk =>
    cases v with
    | string s => exact if_pos (isOperator_of_mem_opaqueOperators hk)
    | _ => rfl
  | _ => rfl

/-- `t'` is `t` with its literals, and nothing else, replaced by the patterns that match them: every
mapping has its keys and every list its length, only strings under field keys differ, nothing differs
in what is closed, and every literal is replaced. -/
structure Rewritten (t t' : Value) : Prop where
  mappings : ∀ {path : List Nat} {fs : Fields}, t.at? path = some (.map fs) →
    ∃ gs : Fields, t'.at? path = some (.map gs) ∧ gs.keys = fs.keys
  lists : ∀ {path vs}, t.at? path = some (.list vs) →
    ∃ ws, t'.at? path = some (.list ws) ∧ ws.length = vs.length
  others : ∀ {path v}, t.at? path = some v → v.isMap = false → v.isList = false →
    t'.at? path = some v ∨ ∃ s, IsFieldString t path s ∧
      t'.at? path = some (.map [("$regex", .string (Pattern.escape s)), ("$options", .string "i")])
  closed : ∀ {path : List Nat} {fs : Fields} {i : Nat} {k : String} {v : Value},
    t.at? path = some (.map fs) → fs[i]? = some (k, v) → IsClosed k v →
      t'.at? (path ++ [i]) = some v
  literals : ∀ {path s}, IsLiteral t path s →
    t'.at? path = some (.map [("$regex", .string (Pattern.escape s)), ("$options", .string "i")])

theorem rewritten_fuzzify (t : Value) : Rewritten t (fuzzify t) where
  mappings h := by
    rcases at?_fuzzify_cases h with ⟨-, hat⟩ | ⟨s, hs, -, -⟩ | hat
    · exact ⟨_, hat.trans (congrArg some (fuzzify_map _)), keys_fuzzifyEntries _⟩
    · exact absurd hs (by simp)
    · exact ⟨_, hat, rfl⟩
  lists h := by
    rcases at?_fuzzify_cases h with ⟨-, hat⟩ | ⟨s, hs, -, -⟩ | hat
    · exact ⟨_, hat.trans (congrArg some (fuzzify_list _)), List.length_map _⟩
    · exact absurd hs (by simp)
    · exact ⟨_, hat, rfl⟩
  others h hm hl := by
    rcases at?_fuzzify_cases h with ⟨-, hat⟩ | ⟨s, rfl, hlit, hat⟩ | hat
    · rw [fuzzify_of_not_container hm hl] at hat
      exact .inl hat
    · exact .inr ⟨s, hlit.isFieldString, hat⟩
    · exact .inl hat
  closed h hi hclosed := by
    rcases at?_fuzzify_cases h with ⟨-, hat⟩ | ⟨s, hs, -, -⟩ | hat
    · rw [fuzzify_map] at hat
      rw [← fuzzifyValue_of_isClosed hclosed]
      exact at?_entry hat (getElem?_fuzzifyEntries hi)
    · exact absurd hs (by simp)
    · exact at?_entry hat hi
  literals h := h.at?_fuzzify

/-! ## A second pass -/

theorem opens_fuzzify {k : String} {v : Value} (h : Opens k v) : Opens k (fuzzify v) := by
  cases h with
  | operand hk hopaque =>
    rw [fuzzify_map]
    exact .operand hk hopaque
  | branches hk =>
    rw [fuzzify_list]
    exact .branches hk
  | document hk hl hop =>
    rw [fuzzify_map]
    exact .document hk (by rwa [keys_fuzzifyEntries]) hop

theorem fuzzify_ofLiteral (s : String) : fuzzify (Pattern.ofLiteral s) = Pattern.ofLiteral s := by
  have hregex : isOperator "$regex" = true := by decide
  have hoptions : isOperator "$options" = true := by decide
  unfold Pattern.ofLiteral
  rw [fuzzify_map, fuzzifyEntries_eq_map]
  simp only [List.map_cons, List.map_nil, fuzzifyValue_of_not_opens (not_opens_string _ _),
    replaceLiteral, hregex, hoptions, if_true]

/-- What a value became stays, given that a value that opened stays. -/
theorem fuzzifyValue_fuzzifyValue {k : String} {v : Value} (ih : fuzzify (fuzzify v) = fuzzify v) :
    fuzzifyValue k (fuzzifyValue k v) = fuzzifyValue k v := by
  rcases fuzzifyValue_cases k v with ⟨hopen, hval⟩ | ⟨s, rfl, hk, hval⟩ | hval
  · rw [hval, fuzzifyValue_of_opens (opens_fuzzify hopen), ih]
  · rw [hval]
    rcases fuzzifyValue_cases k (Pattern.ofLiteral s) with ⟨-, hval⟩ | ⟨s', hs, -⟩ | hval
    · rw [hval, fuzzify_ofLiteral]
    · exact absurd hs (by simp [Pattern.ofLiteral])
    · exact hval
  · rw [hval, hval]

theorem fuzzify_fuzzify (t : Value) : fuzzify (fuzzify t) = fuzzify t := by
  induction t using parts_induction with
  | step t ih =>
    cases t with
    | map es =>
      rw [fuzzify_map, fuzzify_map, fuzzifyEntries_eq_map, fuzzifyEntries_eq_map, List.map_map]
      refine congrArg Value.map (List.map_congr_left fun e he => ?_)
      have hval := ih e.2 (List.mem_map_of_mem he)
      exact congrArg (Prod.mk e.1) (fuzzifyValue_fuzzifyValue hval)
    | list vs =>
      rw [fuzzify_list, fuzzify_list, List.map_map]
      exact congrArg Value.list (List.map_congr_left ih)
    | _ => rw [fuzzify_of_not_container rfl rfl, fuzzify_of_not_container rfl rfl]

theorem fuzzifyEntries_fuzzifyEntries (es : Fields) :
    fuzzifyEntries (fuzzifyEntries es) = fuzzifyEntries es := by
  have h := fuzzify_fuzzify (.map es)
  rw [fuzzify_map, fuzzify_map] at h
  exact Value.map.inj h

/-! ## Filters without literals -/

theorem exists_mem_of_map_ne {α : Type} {f : α → α} {xs : List α} (h : xs.map f ≠ xs) :
    ∃ x ∈ xs, f x ≠ x := by
  by_contra hall
  refine h ((List.map_congr_left fun x hx => ?_).trans (List.map_id xs))
  by_contra hx'
  exact hall ⟨x, hx, hx'⟩

theorem exists_isLiteral_of_fuzzify_ne (t : Value) (h : fuzzify t ≠ t) :
    ∃ path s, IsLiteral t path s := by
  induction t using parts_induction with
  | step t ih =>
    cases t with
    | map es =>
      rw [fuzzify_map, ne_eq, Value.map.injEq, fuzzifyEntries_eq_map] at h
      obtain ⟨⟨k, v⟩, he, hne⟩ := exists_mem_of_map_ne h
      obtain ⟨i, hi⟩ := List.getElem?_of_mem he
      have hval : fuzzifyValue k v ≠ v := fun hv => hne (by rw [hv])
      rcases fuzzifyValue_cases k v with ⟨hopen, hv⟩ | ⟨s, rfl, hk, -⟩ | hv
      · rw [hv] at hval
        have hmem : v ∈ (Value.map es).parts := List.mem_map_of_mem he
        obtain ⟨path, s, hlit⟩ := ih v hmem hval
        exact ⟨_, s, hlit.under (.entry .root hi hopen)⟩
      · exact ⟨_, s, [], i, es, k, rfl, .root, hi, hk⟩
      · exact absurd hv hval
    | list vs =>
      rw [fuzzify_list, ne_eq, Value.list.injEq] at h
      obtain ⟨v, hv, hne⟩ := exists_mem_of_map_ne h
      obtain ⟨i, hi⟩ := List.getElem?_of_mem hv
      obtain ⟨path, s, hlit⟩ := ih v hv hne
      exact ⟨_, s, hlit.under (.item .root hi)⟩
    | _ => exact absurd (fuzzify_of_not_container rfl rfl) h

theorem fuzzify_eq_self_iff {t : Value} : fuzzify t = t ↔ ∀ path s, ¬ IsLiteral t path s := by
  constructor
  · intro h path s hlit
    have hnew := hlit.at?_fuzzify
    rw [h, hlit.isFieldString.at?] at hnew
    simp [Pattern.ofLiteral] at hnew
  · intro h
    by_contra hne
    obtain ⟨path, s, hlit⟩ := exists_isLiteral_of_fuzzify_ne t hne
    exact h path s hlit

/-! ## Stages -/

/-- `stages'` is `stages` with only the mappings under `$match` made fuzzy: every stage has its keys in
their order and all its other values, and what is no mapping stays. -/
structure StagesRewritten (stages stages' : List Value) : Prop where
  length : stages'.length = stages.length
  stage : ∀ {i : Nat} {fs : Fields}, stages[i]? = some (.map fs) →
    ∃ gs : Fields, stages'[i]? = some (.map gs) ∧ gs.keys = fs.keys ∧
      ∀ k, gs.get? k =
        (fs.get? k).map fun v => if k = "$match" ∧ v.isMap = true then fuzzify v else v
  others : ∀ {i : Nat} {v : Value}, stages[i]? = some v → v.isMap = false → stages'[i]? = some v

theorem fuzzifyStage_of_match {stage es : Fields} (h : stage.get? "$match" = some (.map es)) :
    fuzzifyStage stage = Fields.set stage "$match" (.map (fuzzifyEntries es)) := by
  unfold fuzzifyStage
  rw [h]

theorem fuzzifyStage_of_no_match {stage : Fields}
    (h : ¬ ∃ es, stage.get? "$match" = some (.map es)) : fuzzifyStage stage = stage := by
  unfold fuzzifyStage
  split
  · rename_i es hes
    exact absurd ⟨es, hes⟩ h
  · rfl

theorem get?_fuzzifyStage (stage : Fields) (k : String) :
    (fuzzifyStage stage).get? k =
      (stage.get? k).map fun v => if k = "$match" ∧ v.isMap = true then fuzzify v else v := by
  by_cases h : ∃ es, stage.get? "$match" = some (.map es)
  · obtain ⟨es, hes⟩ := h
    rw [fuzzifyStage_of_match hes]
    by_cases hk : k = "$match"
    · subst hk
      rw [Fields.get?_set_self, hes, Option.map_some, if_pos ⟨rfl, rfl⟩, fuzzify_map]
    · rw [Fields.get?_set_of_ne _ _ hk]
      simp [hk]
  · rw [fuzzifyStage_of_no_match h]
    have hid : ∀ v, stage.get? k = some v →
        (if k = "$match" ∧ v.isMap = true then fuzzify v else v) = v := by
      intro v hv
      refine if_neg ?_
      rintro ⟨rfl, hmap⟩
      cases v with
      | map es => exact h ⟨es, hv⟩
      | _ => simp [isMap, fields?] at hmap
    cases hget : stage.get? k with
    | none => rfl
    | some v => rw [Option.map_some, hid v hget]

theorem stagesRewritten_fuzzifyStages (stages : List Value) :
    StagesRewritten stages (fuzzifyStages stages) where
  length := List.length_map _
  stage h := by
    refine ⟨_, ?_, keys_fuzzifyStage _, get?_fuzzifyStage _⟩
    unfold fuzzifyStages
    rw [List.getElem?_map, h]
    rfl
  others h hm := by
    unfold fuzzifyStages
    rw [List.getElem?_map, h]
    rename_i v
    cases v with
    | map => simp [isMap, fields?] at hm
    | _ => rfl

theorem fuzzifyStage_fuzzifyStage (stage : Fields) :
    fuzzifyStage (fuzzifyStage stage) = fuzzifyStage stage := by
  by_cases h : ∃ es, stage.get? "$match" = some (.map es)
  · obtain ⟨es, hes⟩ := h
    rw [fuzzifyStage_of_match hes, fuzzifyStage_of_match (Fields.get?_set_self _ _ _),
      Fields.set_set, fuzzifyEntries_fuzzifyEntries]
  · rw [fuzzifyStage_of_no_match h, fuzzifyStage_of_no_match h]

theorem fuzzifyStages_fuzzifyStages (stages : List Value) :
    fuzzifyStages (fuzzifyStages stages) = fuzzifyStages stages := by
  unfold fuzzifyStages
  rw [List.map_map]
  refine List.map_congr_left fun v _ => ?_
  cases v with
  | map fs => exact congrArg Value.map (fuzzifyStage_fuzzifyStage fs)
  | _ => rfl

/-- Fuzzy matching replaces the literals of a filter by the patterns that match them and keeps all else,
and of a pipeline it rewrites nothing but the filters of its stages.  A second pass changes nothing. -/
theorem fuzzify_rewrites_literals :
    (∀ t, Rewritten t (fuzzify t) ∧ fuzzify (fuzzify t) = fuzzify t) ∧
      ∀ stages, StagesRewritten stages (fuzzifyStages stages) ∧
        fuzzifyStages (fuzzifyStages stages) = fuzzifyStages stages :=
  ⟨fun t => ⟨rewritten_fuzzify t, fuzzify_fuzzify t⟩, fun stages =>
    ⟨stagesRewritten_fuzzifyStages stages, fuzzifyStages_fuzzifyStages stages⟩⟩

end QueryWarden.Fuzzy
