import QueryWarden.Proofs.Query.Clean
import QueryWarden.Proofs.Query.Marks

/-!
# What a sanitation removes

Sanitation counts the clauses that it drops on its way through a tree, and takes a container for
emptied when the count went up inside it.  Here the same is said without a count.

1. A part of a container vanishes when it is an unusable clause, or when it has parts and loses all
   of them (`vanishes`, `losesAll`).
2. What is left is the tree without the parts that vanish (`residue`).
3. A container that has parts before and none after lost some clause, so the count need not be asked
   for (`isEmptied_clean`).

Sanitation leaves the residue and reports the marked clauses (`clean_eq`).  So it changes nothing
exactly when nothing is marked and nothing is repaired (`sanitize_removes_marked`).
-/

namespace QueryWarden

namespace Sanitation

open Value

/-! ## What is left -/

/-- Whether a part goes with the last of its own parts: an entry does unless it is a stage `$match`,
and an item does when it is a mapping. -/
def isDispensable : Edge → Bool
  | .entry _ k _ => k != "$match"
  | .item _ v => v.isMap

mutual

/-- Whether a tree is a container that has parts and loses all of them. -/
def losesAll : Value → Bool
  | .map es => !es.isEmpty && entriesVanish es es
  | .list vs => !vs.isEmpty && itemsVanish 0 vs
  | _ => false

def entriesVanish (siblings : Fields) : List (String × Value) → Bool
  | [] => true
  | (k, v) :: es =>
    let e := Edge.entry siblings k v
    (isUnusable e || isOpen e && isDispensable e && losesAll v) && entriesVanish siblings es

def itemsVanish (i : Nat) : List Value → Bool
  | [] => true
  | v :: vs =>
    let e := Edge.item i v
    (isUnusable e || isOpen e && isDispensable e && losesAll v) && itemsVanish (i + 1) vs

end

/-- Whether a part vanishes: it is an unusable clause, or it goes with the last of its own parts. -/
def vanishes (e : Edge) : Bool :=
  isUnusable e || isOpen e && isDispensable e && losesAll e.part

mutual

/-- What is left of a tree without the parts that vanish. -/
def residue : Value → Value
  | .map es => .map (residueEntries es es)
  | .list vs => .list (residueItems 0 vs)
  | v => v

/-- What is left of the entries of a mapping, where options that are repaired become their text. -/
def residueEntries (siblings : Fields) : List (String × Value) → List (String × Value)
  | [] => []
  | (k, v) :: es =>
    let e := Edge.entry siblings k v
    if vanishes e then residueEntries siblings es
    else (k, if isRepairable e then .string v.toText else residue v) :: residueEntries siblings es

def residueItems (i : Nat) : List Value → List Value
  | [] => []
  | v :: vs =>
    if vanishes (.item i v) then residueItems (i + 1) vs
    else residue v :: residueItems (i + 1) vs

end

section Edge

variable {e : Edge}

theorem vanishes_of_isUnusable (h : isUnusable e = true) : vanishes e = true := by
  rw [vanishes, h]
  rfl

theorem vanishes_of_isRepairable (hu : isUnusable e = false) (h : isRepairable e = true) :
    vanishes e = false := by
  rw [vanishes, hu, isOpen_of_isRepairable h]
  rfl

theorem vanishes_of_isOpen (hu : isUnusable e = false) (h : isOpen e = true) :
    vanishes e = (isDispensable e && losesAll e.part) := by
  rw [vanishes, hu, h]
  rfl

end Edge

/-! ## Emptied containers -/

theorem isEmpty_residueEntries (siblings : Fields) (es : List (String × Value)) :
    (residueEntries siblings es).isEmpty = entriesVanish siblings es := by
  induction es with
  | nil => rfl
  | cons e es ih =>
    obtain ⟨k, v⟩ := e
    have hcons : entriesVanish siblings ((k, v) :: es) =
        (vanishes (.entry siblings k v) && entriesVanish siblings es) := by
      rw [entriesVanish]
      rfl
    rw [residueEntries, hcons, ← ih]
    cases vanishes (.entry siblings k v) <;> rfl

theorem isEmpty_residueItems (i : Nat) (vs : List Value) :
    (residueItems i vs).isEmpty = itemsVanish i vs := by
  induction vs generalizing i with
  | nil => rfl
  | cons v vs ih =>
    have hcons : itemsVanish i (v :: vs) =
        (vanishes (.item i v) && itemsVanish (i + 1) vs) := by
      rw [itemsVanish]
      rfl
    rw [residueItems, hcons, ← ih]
    cases vanishes (.item i v) <;> rfl

theorem isEmptyContainer_map (es : Fields) : (Value.map es).isEmptyContainer = es.isEmpty := by
  cases es <;> rfl

theorem isEmptyContainer_list (vs : List Value) :
    (Value.list vs).isEmptyContainer = vs.isEmpty := by
  cases vs <;> rfl

/-- A tree loses all its parts when it has some and none is left. -/
theorem losesAll_eq (v : Value) :
    losesAll v = (!v.isEmptyContainer && (residue v).isEmptyContainer) := by
  cases v with
  | map es =>
    rw [losesAll, residue, isEmptyContainer_map, isEmptyContainer_map, isEmpty_residueEntries]
  | list vs =>
    rw [losesAll, residue, isEmptyContainer_list, isEmptyContainer_list, isEmpty_residueItems]
  | _ => simp [losesAll, residue, isEmptyContainer]

theorem eq_nil_of_cleanItems {path : String} {i : Nat} {vs : List Value}
    (h0 : (cleanItems path i vs).2.removed = 0) (h : (cleanItems path i vs).1 = []) : vs = [] := by
  cases vs with
  | nil => rfl
  | cons v vs =>
    rw [(cleanItems_cons_of_removed_eq_zero h0).2.2] at h
    exact absurd h (List.cons_ne_nil _ _)

/-- A container that has parts before and none after lost some clause. -/
theorem isEmptyContainer_of_clean {path : String} {v : Value}
    (h0 : (clean path v).2.removed = 0) (h : (clean path v).1.isEmptyContainer = true) :
    v.isEmptyContainer = true := by
  cases v with
  | map es =>
    rw [clean_map] at h0 h
    rw [isEmptyContainer_map, List.isEmpty_iff] at h ⊢
    exact eq_nil_of_cleanEntries h0 h
  | list vs =>
    rw [clean_list] at h0 h
    rw [isEmptyContainer_list, List.isEmpty_iff] at h ⊢
    exact eq_nil_of_cleanItems h0 h
  | _ => simp [clean, isEmptyContainer] at h

/-- Whether a container was emptied needs no count. -/
theorem isEmptied_clean (path : String) (v : Value) :
    isEmptied v (clean path v).1 (clean path v).2 =
      (!v.isEmptyContainer && (clean path v).1.isEmptyContainer) := by
  unfold isEmptied
  by_cases h0 : (clean path v).2.removed = 0
  · cases hafter : (clean path v).1.isEmptyContainer with
    | false => rw [Bool.and_false, Bool.and_false]
    | true =>
      rw [isEmptyContainer_of_clean h0 hafter, Bool.not_true, Bool.and_false]
  · rw [bne_iff_ne.mpr h0, Bool.true_and]

/-! ## Sanitation leaves the residue -/

/-- What sanitation makes of a part, told without its count. -/
theorem isEmptied_of_clean_eq {path : String} {v : Value} {ps : List Place}
    (h : clean path v = (residue v, reportOf path ps)) :
    isEmptied v (residue v) (reportOf path ps) = losesAll v := by
  have hemptied := isEmptied_clean path v
  rw [h] at hemptied
  rw [hemptied, losesAll_eq]

/-- An unusable clause among the entries is dropped, options are repaired, and of another entry its
residue stays unless it vanishes. -/
theorem cleanEntries_cons_of {path : String} {siblings : Fields} {k : String} {v : Value}
    {es : List (String × Value)}
    (hv : clean (entryPath path k) v = (residue v, reportOf (entryPath path k) v.places))
    (hrest : cleanEntries path (Fields.has siblings "$regex") es =
      (residueEntries siblings es, reportOf path (entryPlaces siblings es))) :
    cleanEntries path (Fields.has siblings "$regex") ((k, v) :: es) =
      (residueEntries siblings ((k, v) :: es),
        reportOf path (entryPlaces siblings ((k, v) :: es))) := by
  rw [cleanEntries, residueEntries, entryPlaces, reportOf_append, hrest, hv]
  dsimp only
  rw [isEmptied_of_clean_eq hv]
  cases hu : isUnusable (.entry siblings k v) with
  | true =>
    have hclause : Pattern.isUnusableClause v = true := hu
    rw [if_pos hclause, if_pos (vanishes_of_isUnusable hu), reportOf_startingAt_of_isUnusable hu]
    rfl
  | false =>
    have hclause : Pattern.isUnusableClause v = false := hu
    have hoptions : isRepairable (.entry siblings k v) =
        (k == "$options" && Fields.has siblings "$regex" && !v.isString) := by
      rw [isRepairable, hclause]
      rfl
    rw [if_neg (Bool.eq_false_iff.mp hclause), ← hoptions]
    cases hr : isRepairable (.entry siblings k v) with
    | true =>
      rw [vanishes_of_isRepairable hu hr, reportOf_startingAt_of_isRepairable hu hr]
      rfl
    | false =>
      have hvanish : vanishes (.entry siblings k v) = (k != "$match" && losesAll v) :=
        vanishes_of_isOpen hu (isOpen_of_not hu hr)
      rw [hvanish, reportOf_startingAt_of_isOpen hu hr]
      cases k != "$match" && losesAll v <;> rfl

/-- An unusable clause among the items is dropped, and of another item its residue stays unless it
vanishes. -/
theorem cleanItems_cons_of {path : String} {i : Nat} {v : Value} {vs : List Value}
    (hv : clean (itemPath path i) v = (residue v, reportOf (itemPath path i) v.places))
    (hrest : cleanItems path (i + 1) vs =
      (residueItems (i + 1) vs, reportOf path (itemPlaces (i + 1) vs))) :
    cleanItems path i (v :: vs) =
      (residueItems i (v :: vs), reportOf path (itemPlaces i (v :: vs))) := by
  rw [cleanItems, residueItems, itemPlaces, reportOf_append, hrest, hv]
  dsimp only
  rw [isEmptied_of_clean_eq hv]
  cases hu : isUnusable (.item i v) with
  | true =>
    have hclause : Pattern.isUnusableClause v = true := hu
    rw [if_pos hclause, if_pos (vanishes_of_isUnusable hu), reportOf_startingAt_of_isUnusable hu]
    rfl
  | false =>
    have hclause : Pattern.isUnusableClause v = false := hu
    have hvanish : vanishes (.item i v) = (v.isMap && losesAll v) :=
      vanishes_of_isOpen hu (isOpen_of_not hu rfl)
    rw [if_neg (Bool.eq_false_iff.mp hclause), hvanish, reportOf_startingAt_of_isOpen hu rfl]
    cases v.isMap && losesAll v <;> rfl

mutual

theorem clean_eq (path : String) :
    (v : Value) → clean path v = (residue v, reportOf path v.places)
  | .map es => by rw [clean_map, cleanEntries_eq path es es, residue, places]
  | .list vs => by rw [clean_list, cleanItems_eq path 0 vs, residue, places]
  | .null | .bool _ | .int _ | .float _ | .string _ | .tuple _ | .native _ => by
    rw [clean, residue, places]
    · rfl
    all_goals simp

theorem cleanEntries_eq (path : String) (siblings : Fields) :
    (es : List (String × Value)) →
      cleanEntries path (Fields.has siblings "$regex") es =
        (residueEntries siblings es, reportOf path (entryPlaces siblings es))
  | [] => by rw [cleanEntries_nil, residueEntries, entryPlaces, reportOf_nil]
  | (k, v) :: es =>
    cleanEntries_cons_of (clean_eq (entryPath path k) v) (cleanEntries_eq path siblings es)

theorem cleanItems_eq (path : String) (i : Nat) :
    (vs : List Value) →
      cleanItems path i vs = (residueItems i vs, reportOf path (itemPlaces i vs))
  | [] => by rw [cleanItems_nil, residueItems, itemPlaces, reportOf_nil]
  | v :: vs => cleanItems_cons_of (clean_eq (itemPath path i) v) (cleanItems_eq path (i + 1) vs)

end

/-! ## Trees that stay as they are -/

theorem vanishes_of_residue_eq_self {e : Edge} (he : isOpen e = true)
    (h : residue e.part = e.part) : vanishes e = false := by
  have hu : isUnusable e = false := by
    unfold isOpen at he
    simpa using (Bool.and_eq_true_iff.mp he).1
  rw [vanishes_of_isOpen hu he, losesAll_eq, h, Bool.not_and_self, Bool.and_false]

mutual

theorem residue_of_allOpen : {v : Value} → AllOpen v.places → residue v = v
  | .map es, h => by rw [residue, residueEntries_of_allOpen (by rwa [places] at h)]
  | .list vs, h => by rw [residue, residueItems_of_allOpen (by rwa [places] at h)]
  | .null, _ | .bool _, _ | .int _, _ | .float _, _ | .string _, _ | .tuple _, _
  | .native _, _ => by rw [residue] <;> simp

theorem residueEntries_of_allOpen {siblings : Fields} :
    {es : List (String × Value)} → AllOpen (entryPlaces siblings es) →
      residueEntries siblings es = es
  | [], _ => by rw [residueEntries]
  | (k, v) :: es, h => by
    rw [entryPlaces] at h
    obtain ⟨he, hv, hes⟩ := allOpen_startingAt_append.mp h
    have hresidue := residue_of_allOpen hv
    have hr : isRepairable (.entry siblings k v) = false := by
      unfold isOpen at he
      simpa using (Bool.and_eq_true_iff.mp he).2
    rw [residueEntries, vanishes_of_residue_eq_self he hresidue, hr,
      residueEntries_of_allOpen hes, hresidue]
    rfl

theorem residueItems_of_allOpen {i : Nat} :
    {vs : List Value} → AllOpen (itemPlaces i vs) → residueItems i vs = vs
  | [], _ => by rw [residueItems]
  | v :: vs, h => by
    rw [itemPlaces] at h
    obtain ⟨he, hv, hvs⟩ := allOpen_startingAt_append.mp h
    have hresidue := residue_of_allOpen hv
    rw [residueItems, vanishes_of_residue_eq_self he hresidue, residueItems_of_allOpen hvs,
      hresidue]
    rfl

end

/-- A tree is left as it is exactly when nothing in it is marked and nothing is repaired. -/
theorem residue_eq_self_iff {t : Value} : residue t = t ↔ marked t = [] ∧ repaired t = [] := by
  constructor
  · intro h
    have ht := isClean_clean "" t
    rw [clean_eq, h] at ht
    have hreport : reportOf "" t.places = .empty := by
      have hclean := clean_of_isClean "" ht
      rw [clean_eq] at hclean
      exact (Prod.mk.inj hclean).2
    obtain ⟨hpaths, hcoerced⟩ := SanitationReport.mk.inj hreport
    exact ⟨List.map_eq_nil_iff.mp hpaths, List.length_eq_zero_iff.mp hcoerced⟩
  · intro h
    exact residue_of_allOpen (allOpen_iff.mpr h)

end Sanitation

/-- Sanitation removes exactly the marked clauses and what they leave empty.  It reports the marked
clauses one by one in the order of the tree, and counts the repaired options.  What it leaves is the
tree without the parts that vanish, and this is the tree itself exactly when no clause is marked and
no options are repaired. -/
theorem sanitize_removes_marked (t : Value) :
    (sanitize t).2.removed = (Sanitation.marked t).length ∧
      (sanitize t).2.paths = (Sanitation.marked t).map (Sanitation.pathFrom "") ∧
      (sanitize t).2.coerced = (Sanitation.repaired t).length ∧
      (sanitize t).1 = Sanitation.residue t ∧
      ((sanitize t).1 = t ↔ Sanitation.marked t = [] ∧ Sanitation.repaired t = []) := by
  have h : sanitize t =
      (Sanitation.residue t, Sanitation.reportOf "" t.places) := Sanitation.clean_eq "" t
  rw [h]
  exact ⟨List.length_map _, rfl, rfl, rfl, Sanitation.residue_eq_self_iff⟩

/-- A blank pattern takes its field and the branch around it with it, and an empty mapping that the
tree had before stays. -/
example :
    sanitize (.map [("$or", .list [.map [("a", .map [("$regex", .string " ")])]]),
        ("b", .map [])]) =
      (.map [("b", .map [])], ⟨["$or[0].a"], 0⟩) := by
  decide +kernel

end QueryWarden
