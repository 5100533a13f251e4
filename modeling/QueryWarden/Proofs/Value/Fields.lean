import Mathlib.Data.List.Nodup
import Mathlib.Tactic.SplitIfs
import QueryWarden.Value.Basic

/-!
# Keys of mappings

How `Fields.set` and `Fields.ofEntries` act on a mapping: a key is set in its place or behind all
others, and no other key changes its value (`get?_set_self`, `get?_set_of_ne`).  So the keys stay
distinct (`nodup_keys_set`, `nodup_keys_ofEntries`), no key appears that was not given
(`mem_keys_ofEntries`), and entries with distinct keys are taken as they are (`ofEntries_of_nodup`).
-/

namespace QueryWarden.Fields

@[simp] theorem keys_nil : keys [] = [] := rfl

@[simp] theorem keys_cons (e : String × Value) (fs : Fields) : keys (e :: fs) = e.1 :: keys fs := rfl

theorem keys_append (fs gs : Fields) : keys (fs ++ gs) = keys fs ++ keys gs :=
  List.map_append

theorem mem_of_get? {fs : Fields} {k : String} {v : Value} (h : fs.get? k = some v) :
    (k, v) ∈ fs := by
  obtain ⟨l₁, l₂, rfl, -⟩ := List.lookup_eq_some_iff.mp h
  exact List.mem_append_right _ List.mem_cons_self

theorem mem_keys_of_get? {fs : Fields} {k : String} {v : Value} (h : fs.get? k = some v) :
    k ∈ fs.keys :=
  List.mem_map_of_mem (mem_of_get? h)

/-! ## Setting a key -/

theorem mem_set {fs : Fields} {k : String} {v : Value} {e : String × Value}
    (h : e ∈ set fs k v) : e = (k, v) ∨ e ∈ fs := by
  induction fs with
  | nil => exact .inl (List.mem_singleton.mp h)
  | cons d fs ih =>
    obtain ⟨l, w⟩ := d
    unfold set at h
    split_ifs at h
    · rcases List.mem_cons.mp h with rfl | h
      · exact .inl rfl
      · exact .inr (List.mem_cons_of_mem _ h)
    · rcases List.mem_cons.mp h with rfl | h
      · exact .inr List.mem_cons_self
      · exact (ih h).imp_right (List.mem_cons_of_mem _)

theorem keys_set_of_mem {fs : Fields} {k : String} (v : Value) (h : k ∈ fs.keys) :
    (set fs k v).keys = fs.keys := by
  induction fs with
  | nil => simp at h
  | cons d fs ih =>
    obtain ⟨l, w⟩ := d
    unfold set
    split_ifs with hl
    · simp [eq_of_beq hl]
    · have hk : k ∈ keys fs := by
        rcases List.mem_cons.mp h with rfl | h
        · exact absurd (beq_self_eq_true _) hl
        · exact h
      rw [keys_cons, keys_cons, ih hk]

theorem set_of_notMem {fs : Fields} {k : String} (v : Value) (h : k ∉ fs.keys) :
    set fs k v = fs ++ [(k, v)] := by
  induction fs with
  | nil => rfl
  | cons d fs ih =>
    obtain ⟨l, w⟩ := d
    rw [keys_cons, List.mem_cons, not_or] at h
    unfold set
    rw [if_neg (by simpa using Ne.symm h.1), ih h.2, List.cons_append]

theorem mem_keys_set {fs : Fields} {k l : String} {v : Value} :
    l ∈ (set fs k v).keys ↔ l = k ∨ l ∈ fs.keys := by
  by_cases hk : k ∈ fs.keys
  · rw [keys_set_of_mem v hk]
    refine ⟨.inr, fun h => h.elim (fun e => e ▸ hk) id⟩
  · rw [set_of_notMem v hk, keys_append, List.mem_append, or_comm]
    simp

theorem nodup_keys_set {fs : Fields} (k : String) (v : Value) (h : fs.keys.Nodup) :
    (set fs k v).keys.Nodup := by
  by_cases hk : k ∈ fs.keys
  · rwa [keys_set_of_mem v hk]
  · rw [set_of_notMem v hk, keys_append]
    refine List.nodup_append.mpr ⟨h, List.nodup_singleton _, ?_⟩
    intro l hl m hm hlm
    have hmk : m = k := List.mem_singleton.mp hm
    exact hk (hmk ▸ hlm ▸ hl)

theorem get?_cons_self (k : String) (v : Value) (fs : Fields) : get? ((k, v) :: fs) k = some v :=
  List.lookup_cons_self

theorem get?_cons_of_ne {k l : String} (h : l ≠ k) (v : Value) (fs : Fields) :
    get? ((k, v) :: fs) l = fs.get? l := by
  show List.lookup l ((k, v) :: fs) = List.lookup l fs
  rw [List.lookup_cons, beq_eq_false_iff_ne.mpr h]

theorem get?_set_self (fs : Fields) (k : String) (v : Value) : (set fs k v).get? k = some v := by
  induction fs with
  | nil => exact get?_cons_self k v []
  | cons d fs ih =>
    obtain ⟨l, w⟩ := d
    unfold set
    by_cases hl : l = k
    · rw [if_pos (beq_iff_eq.mpr hl), get?_cons_self]
    · rw [if_neg (mt beq_iff_eq.mp hl), get?_cons_of_ne (Ne.symm hl), ih]

theorem get?_set_of_ne (fs : Fields) {k l : String} (v : Value) (h : l ≠ k) :
    (set fs k v).get? l = fs.get? l := by
  induction fs with
  | nil => exact get?_cons_of_ne h v []
  | cons d fs ih =>
    obtain ⟨m, w⟩ := d
    unfold set
    by_cases hm : m = k
    · subst hm
      rw [if_pos (beq_self_eq_true m), get?_cons_of_ne h, get?_cons_of_ne h]
    · rw [if_neg (mt beq_iff_eq.mp hm)]
      by_cases hl : l = m
      · rw [hl, get?_cons_self, get?_cons_self]
      · rw [get?_cons_of_ne hl, get?_cons_of_ne hl, ih]

/-- The value of a key stands where the key is first listed. -/
theorem getElem?_idxOf_of_get? {fs : Fields} {k : String} {v : Value} (h : fs.get? k = some v) :
    fs[fs.keys.idxOf k]? = some (k, v) := by
  induction fs with
  | nil => exact absurd h.symm (Option.some_ne_none v)
  | cons d fs ih =>
    obtain ⟨l, w⟩ := d
    rw [keys_cons, List.idxOf_cons]
    by_cases hl : l = k
    · subst hl
      rw [get?_cons_self] at h
      rw [beq_self_eq_true, cond_true, List.getElem?_cons_zero, Option.some.inj h]
    · rw [get?_cons_of_ne (Ne.symm hl)] at h
      rw [beq_eq_false_iff_ne.mpr hl, cond_false, List.getElem?_cons_succ, ih h]

theorem set_set (fs : Fields) (k : String) (v w : Value) : set (set fs k v) k w = set fs k w := by
  induction fs with
  | nil => simp [set]
  | cons d fs ih =>
    obtain ⟨l, u⟩ := d
    by_cases hl : (l == k) = true
    · simp [set, hl]
    · simp [set, hl, ih]

/-! ## Building a mapping -/

/-- The fold behind `ofEntries`, from any mapping on. -/
private def setAll (fs : Fields) (es : List (String × Value)) : Fields :=
  es.foldl (fun fs e => set fs e.1 e.2) fs

private theorem mem_setAll {fs : Fields} {es : List (String × Value)} {e : String × Value}
    (h : e ∈ setAll fs es) : e ∈ fs ∨ e ∈ es := by
  induction es generalizing fs with
  | nil => exact .inl h
  | cons d es ih =>
    rcases ih h with h | h
    · rcases mem_set h with rfl | h
      · exact .inr List.mem_cons_self
      · exact .inl h
    · exact .inr (List.mem_cons_of_mem _ h)

private theorem mem_keys_setAll {fs : Fields} {es : List (String × Value)} {k : String} :
    k ∈ (setAll fs es).keys ↔ k ∈ fs.keys ∨ k ∈ es.map (·.1) := by
  induction es generalizing fs with
  | nil => simp [setAll]
  | cons d es ih =>
    have h := @ih (set fs d.1 d.2)
    rw [mem_keys_set] at h
    rw [List.map_cons, List.mem_cons, ← or_assoc, or_comm (a := k ∈ fs.keys)]
    exact h

private theorem nodup_keys_setAll {fs : Fields} (es : List (String × Value))
    (h : fs.keys.Nodup) : (setAll fs es).keys.Nodup := by
  induction es generalizing fs with
  | nil => exact h
  | cons d es ih => exact ih (nodup_keys_set d.1 d.2 h)

private theorem setAll_of_nodup {fs : Fields} {es : List (String × Value)}
    (h : (keys (fs ++ es)).Nodup) : setAll fs es = fs ++ es := by
  induction es generalizing fs with
  | nil => exact (List.append_nil fs).symm
  | cons d es ih =>
    have hd : d.1 ∉ fs.keys := by
      intro hm
      rw [keys_append, keys_cons] at h
      exact (List.nodup_append.mp h).2.2 _ hm _ List.mem_cons_self rfl
    have hs : setAll fs (d :: es) = setAll (fs ++ [d]) es := by
      rw [← set_of_notMem d.2 hd]
      rfl
    rw [hs, ih (by rwa [List.append_assoc]), List.append_assoc, List.singleton_append]

theorem mem_of_mem_ofEntries {es : List (String × Value)} {e : String × Value}
    (h : e ∈ ofEntries es) : e ∈ es :=
  (mem_setAll h).resolve_left List.not_mem_nil

theorem mem_keys_ofEntries {es : List (String × Value)} {k : String} :
    k ∈ (ofEntries es).keys ↔ k ∈ es.map (·.1) :=
  mem_keys_setAll.trans (by simp)

theorem nodup_keys_ofEntries (es : List (String × Value)) : (ofEntries es).keys.Nodup :=
  nodup_keys_setAll es List.nodup_nil

theorem ofEntries_of_nodup {es : List (String × Value)} (h : (keys es).Nodup) :
    ofEntries es = es :=
  setAll_of_nodup h

end QueryWarden.Fields
