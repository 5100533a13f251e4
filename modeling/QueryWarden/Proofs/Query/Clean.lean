import QueryWarden.Proofs.Query.Sanitation
import QueryWarden.Proofs.Value.Places

/-!
# Clean trees

A tree is clean when sanitation has nothing to do on it: no clause below its root is unusable, and
the options beside a pattern are texts (`Sanitation.IsClean`).

1. Sanitation keeps the texts of a mapping and adds no key, so it makes no clause of another mapping
   and no unusable clause of a usable one: `Sanitation.isUnusableClause_clean`.
2. Hence it leaves a clean tree: `Sanitation.isClean_clean`.
3. Sanitation of a clean tree changes nothing: `Sanitation.clean_of_isClean`.

So one sanitation is enough: `sanitize_leaves_nothing_to_do`.
-/

namespace QueryWarden

theorem Fields.has_iff_mem_keys {fs : Fields} {k : String} : fs.has k = true ↔ k ∈ fs.keys := by
  unfold has keys
  rw [List.any_eq_true, List.mem_map]
  exact exists_congr fun e => and_congr_right fun _ => beq_iff_eq

namespace Sanitation

open Value

/-- Whether sanitation has nothing to do on a tree. -/
structure IsClean (v : Value) : Prop where
  usable : ∀ w ∈ v.descendants, Pattern.isUnusableClause w = false
  options : ∀ fs, .map fs ∈ v :: v.descendants → Fields.has fs "$regex" = true →
    ∀ o, ("$options", o) ∈ fs → o.isString = true

/-- Whether a tree may stand below the root of a clean one. -/
def MayStay (v : Value) : Prop :=
  Pattern.isUnusableClause v = false ∧ IsClean v

/-- A tree is clean when its root is and what stands right below it may stay. -/
theorem isClean_iff {v : Value} {parts : List Value}
    (hd : ∀ w, w ∈ v.descendants ↔ ∃ p ∈ parts, w ∈ p :: p.descendants) :
    IsClean v ↔
      (∀ fs, v = .map fs → Fields.has fs "$regex" = true → ∀ o, ("$options", o) ∈ fs →
          o.isString = true) ∧
        ∀ p ∈ parts, MayStay p := by
  constructor
  · intro h
    refine ⟨fun fs hfs => h.options fs (hfs ▸ List.mem_cons_self), fun p hp => ?_⟩
    have below {w : Value} (hw : w ∈ p :: p.descendants) : w ∈ v.descendants :=
      (hd w).mpr ⟨p, hp, hw⟩
    exact ⟨h.usable _ (below List.mem_cons_self),
      fun w hw => h.usable w (below (List.mem_cons_of_mem _ hw)),
      fun gs hgs => h.options gs (List.mem_cons_of_mem _ (below hgs))⟩
  · rintro ⟨hroot, hparts⟩
    refine ⟨fun w hw => ?_, fun gs hgs => ?_⟩
    · obtain ⟨p, hp, hw⟩ := (hd w).mp hw
      rcases List.mem_cons.mp hw with rfl | hw
      · exact (hparts w hp).1
      · exact (hparts p hp).2.usable w hw
    · rcases List.mem_cons.mp hgs with hgs | hgs
      · exact hroot gs hgs.symm
      · obtain ⟨p, hp, hgs⟩ := (hd _).mp hgs
        exact (hparts p hp).2.options gs hgs

theorem isClean_map {fs : Fields} :
    IsClean (.map fs) ↔
      (fs.has "$regex" = true → ∀ o, ("$options", o) ∈ fs → o.isString = true) ∧
        ∀ e ∈ fs, MayStay e.2 := by
  have hd (w : Value) : w ∈ (map fs).descendants ↔
      ∃ p ∈ fs.map (·.2), w ∈ p :: p.descendants := by
    rw [mem_descendants_map]
    simp only [List.mem_map, exists_exists_and_eq_and]
  rw [isClean_iff hd, List.forall_mem_map]
  refine and_congr_left fun _ => ⟨fun h => h fs rfl, ?_⟩
  rintro h gs ⟨⟩
  exact h

theorem isClean_list {vs : List Value} : IsClean (.list vs) ↔ ∀ v ∈ vs, MayStay v := by
  rw [isClean_iff fun _ => mem_descendants_list]
  exact and_iff_right fun _ h => Value.noConfusion h

theorem isClean_of_descendants_eq_nil {v : Value} (hd : v.descendants = []) (hm : v.isMap = false) :
    IsClean v where
  usable := by
    rw [hd]
    exact List.forall_mem_nil _
  options fs hfs := by
    rw [hd] at hfs
    rw [← List.mem_singleton.mp hfs] at hm
    exact Bool.noConfusion hm

/-! ## Clauses stay what they are -/

theorem clean_of_isString {path : String} {v : Value} (h : v.isString = true) :
    clean path v = (v, .empty) := by
  cases v with
  | string s => rw [clean] <;> simp
  | _ => simp [isString, string?] at h

theorem keys_cleanEntries_sublist (path : String) (hasPattern : Bool)
    (es : List (String × Value)) :
    (Fields.keys (cleanEntries path hasPattern es).1).Sublist (Fields.keys es) := by
  induction es with
  | nil => rw [cleanEntries_nil]
  | cons e es ih =>
    obtain ⟨k, v⟩ := e
    rcases cleanEntries_cons_cases path hasPattern k v es with
      ⟨-, h⟩ | ⟨-, -, h⟩ | ⟨-, -, -, h⟩ | ⟨-, -, -, h⟩
    · rw [h]
      exact .cons _ ih
    · rw [h]
      exact .cons_cons _ ih
    · rw [h]
      exact .cons _ ih
    · rw [h]
      exact .cons_cons _ ih

theorem has_of_has_cleanEntries {path : String} {hasPattern : Bool} {es : Fields} {k : String}
    (h : Fields.has (cleanEntries path hasPattern es).1 k = true) : es.has k = true := by
  rw [Fields.has_iff_mem_keys] at h ⊢
  exact (keys_cleanEntries_sublist path hasPattern es).subset h

theorem cleanEntries_cons_string (path : String) (hasPattern : Bool) (k s : String)
    (es : List (String × Value)) :
    (cleanEntries path hasPattern ((k, .string s) :: es)).1
      = (k, .string s) :: (cleanEntries path hasPattern es).1 := by
  have hs : clean (entryPath path k) (.string s) = (.string s, .empty) := clean_of_isString rfl
  rcases cleanEntries_cons_cases path hasPattern k (.string s) es with
    ⟨hu, -⟩ | ⟨-, ho, -⟩ | ⟨-, -, he, -⟩ | ⟨-, -, -, h⟩
  · exact Bool.noConfusion hu
  · simp [isString, string?] at ho
  · rw [hs] at he
    exact Bool.noConfusion he
  · rw [h, hs]

theorem get?_cleanEntries_string {path : String} {hasPattern : Bool} {es : Fields} {k s : String}
    (h : es.get? k = some (.string s)) :
    Fields.get? (cleanEntries path hasPattern es).1 k = some (.string s) := by
  induction es with
  | nil => exact absurd h.symm (Option.some_ne_none _)
  | cons e es ih =>
    obtain ⟨l, v⟩ := e
    rw [Fields.get?, List.lookup_cons] at h
    cases hkl : k == l with
    | true =>
      rw [hkl] at h
      obtain rfl := Option.some.inj h
      rw [cleanEntries_cons_string, Fields.get?, List.lookup_cons, hkl]
    | false =>
      rw [hkl] at h
      have hrest := ih h
      rcases cleanEntries_cons_cases path hasPattern l v es with
        ⟨-, hc⟩ | ⟨-, -, hc⟩ | ⟨-, -, -, hc⟩ | ⟨-, -, -, hc⟩
      · rwa [hc]
      · rw [hc, Fields.get?, List.lookup_cons, hkl]
        exact hrest
      · rwa [hc]
      · rw [hc, Fields.get?, List.lookup_cons, hkl]
        exact hrest

theorem isUnusableClause_map_eq_false {fs : Fields} :
    Pattern.isUnusableClause (.map fs) = false ↔
      Pattern.isClauseFields fs = true → Pattern.isUsableFields fs = true := by
  show (Pattern.isClauseFields fs && !Pattern.isUsableFields fs) = false ↔ _
  cases Pattern.isClauseFields fs <;> simp

theorem isClauseFields_iff {fs : Fields} :
    Pattern.isClauseFields fs = true ↔ fs.has "$regex" = true ∨ fs.has "$options" = true :=
  Bool.or_eq_true_iff

theorem isUsableFields_iff {fs : Fields} :
    Pattern.isUsableFields fs = true ↔
      ∃ s, fs.get? "$regex" = some (.string s) ∧ Text.isBlankText s = false := by
  unfold Pattern.isUsableFields
  split
  · rename_i s hs
    simp [hs]
  · rename_i hs
    simp only [Bool.false_eq_true, false_iff, not_exists, not_and]
    exact fun s h => absurd h (hs s)

theorem isUnusableClause_clean {path : String} {v : Value}
    (h : Pattern.isUnusableClause v = false) :
    Pattern.isUnusableClause (clean path v).1 = false := by
  cases v with
  | map es =>
    rw [clean_map]
    rw [isUnusableClause_map_eq_false] at h ⊢
    intro hc
    have hbefore : Pattern.isClauseFields es = true :=
      isClauseFields_iff.mpr
        ((isClauseFields_iff.mp hc).imp has_of_has_cleanEntries has_of_has_cleanEntries)
    obtain ⟨s, hs, hblank⟩ := isUsableFields_iff.mp (h hbefore)
    exact isUsableFields_iff.mpr ⟨s, get?_cleanEntries_string hs, hblank⟩
  | list vs =>
    rw [clean_list]
    rfl
  | _ => simp [clean, Pattern.isUnusableClause, Pattern.isClause]

/-! ## Sanitation leaves a clean tree -/

/-- The options beside a pattern become texts. -/
theorem isString_of_mem_cleanEntries {path : String} {es : List (String × Value)} {o : Value}
    (h : ("$options", o) ∈ (cleanEntries path true es).1) : o.isString = true := by
  induction es with
  | nil =>
    rw [cleanEntries_nil] at h
    exact absurd h List.not_mem_nil
  | cons e es ih =>
    obtain ⟨k, v⟩ := e
    rcases cleanEntries_cons_cases path true k v es with
      ⟨-, hc⟩ | ⟨-, -, hc⟩ | ⟨-, -, -, hc⟩ | ⟨-, ho, -, hc⟩
    · rw [hc] at h
      exact ih h
    · rw [hc] at h
      rcases List.mem_cons.mp h with h | h
      · rw [(Prod.mk.inj h).2]
        rfl
      · exact ih h
    · rw [hc] at h
      exact ih h
    · rw [hc] at h
      rcases List.mem_cons.mp h with h | h
      · obtain ⟨rfl, rfl⟩ := Prod.mk.inj h
        -- Options that are no text would have been repaired, so these are one and stay.
        have hv : v.isString = true := by simpa using ho
        rwa [clean_of_isString hv]
      · exact ih h

mutual

theorem isClean_clean (path : String) : (v : Value) → IsClean (clean path v).1
  | .map es => by
    rw [clean_map]
    refine isClean_map.mpr ⟨fun hhas o ho => ?_, mayStay_of_mem_cleanEntries path _ es⟩
    rw [has_of_has_cleanEntries hhas] at ho
    exact isString_of_mem_cleanEntries ho
  | .list vs => by
    rw [clean_list]
    exact isClean_list.mpr (mayStay_of_mem_cleanItems path 0 vs)
  | .null | .bool _ | .int _ | .float _ | .string _ | .tuple _ | .native _ => by
    rw [clean]
    · exact isClean_of_descendants_eq_nil (by rw [descendants] <;> simp) rfl
    all_goals simp

theorem mayStay_of_mem_cleanEntries (path : String) (hasPattern : Bool) :
    (es : List (String × Value)) → ∀ e ∈ (cleanEntries path hasPattern es).1, MayStay e.2
  | [] => by
    rw [cleanEntries_nil]
    exact List.forall_mem_nil _
  | (k, v) :: es => by
    have hrest := mayStay_of_mem_cleanEntries path hasPattern es
    have hv := isClean_clean (entryPath path k) v
    rcases cleanEntries_cons_cases path hasPattern k v es with
      ⟨-, h⟩ | ⟨-, -, h⟩ | ⟨-, -, -, h⟩ | ⟨hu, -, -, h⟩
    · rwa [h]
    · rw [h]
      refine List.forall_mem_cons.mpr ⟨⟨rfl, ?_⟩, hrest⟩
      exact isClean_of_descendants_eq_nil (by rw [descendants] <;> simp) rfl
    · rwa [h]
    · rw [h]
      exact List.forall_mem_cons.mpr ⟨⟨isUnusableClause_clean hu, hv⟩, hrest⟩

theorem mayStay_of_mem_cleanItems (path : String) (i : Nat) :
    (vs : List Value) → ∀ v ∈ (cleanItems path i vs).1, MayStay v
  | [] => by
    rw [cleanItems_nil]
    exact List.forall_mem_nil _
  | v :: vs => by
    have hrest := mayStay_of_mem_cleanItems path (i + 1) vs
    have hv := isClean_clean (itemPath path i) v
    rcases cleanItems_cons_cases path i v vs with ⟨-, h⟩ | ⟨-, -, -, h⟩ | ⟨hu, -, h⟩
    · rwa [h]
    · rwa [h]
    · rw [h]
      exact List.forall_mem_cons.mpr ⟨⟨isUnusableClause_clean hu, hv⟩, hrest⟩

end

/-! ## A clean tree stays as it is -/

theorem empty_append_empty : SanitationReport.empty ++ SanitationReport.empty = .empty := rfl

mutual

theorem clean_of_isClean (path : String) : {v : Value} → IsClean v → clean path v = (v, .empty)
  | .map es, h => by
    obtain ⟨hroot, hvalues⟩ := isClean_map.mp h
    rw [clean_map, cleanEntries_of_mayStay path _ hroot hvalues]
  | .list vs, h => by
    rw [clean_list, cleanItems_of_mayStay path 0 (isClean_list.mp h)]
  | .null, _ | .bool _, _ | .int _, _ | .float _, _ | .string _, _ | .tuple _, _
  | .native _, _ => by
    rw [clean] <;> simp

theorem cleanEntries_of_mayStay (path : String) (hasPattern : Bool) :
    {es : List (String × Value)} →
      (hasPattern = true → ∀ o, ("$options", o) ∈ es → o.isString = true) →
      (∀ e ∈ es, MayStay e.2) → cleanEntries path hasPattern es = (es, .empty)
  | [], _, _ => cleanEntries_nil path hasPattern
  | (k, v) :: es, ho, h => by
    obtain ⟨⟨hu, hv⟩, hes⟩ := List.forall_mem_cons.mp h
    have hrest := cleanEntries_of_mayStay path hasPattern
      (fun hp o hmem => ho hp o (List.mem_cons_of_mem _ hmem)) hes
    have hclean := clean_of_isClean (entryPath path k) hv
    rcases cleanEntries_cons_cases path hasPattern k v es with
      ⟨hu', -⟩ | ⟨-, ho', -⟩ | ⟨-, -, he, -⟩ | ⟨-, -, -, hc⟩
    · rw [hu] at hu'
      exact Bool.noConfusion hu'
    · simp only [Bool.and_eq_true, beq_iff_eq, Bool.not_eq_true'] at ho'
      obtain ⟨⟨rfl, hp⟩, hns⟩ := ho'
      rw [ho hp v List.mem_cons_self] at hns
      exact Bool.noConfusion hns
    · rw [hclean] at he
      exact Bool.noConfusion he
    · rw [hc, hclean, hrest, empty_append_empty]

theorem cleanItems_of_mayStay (path : String) (i : Nat) :
    {vs : List Value} → (∀ v ∈ vs, MayStay v) → cleanItems path i vs = (vs, .empty)
  | [], _ => cleanItems_nil path i
  | v :: vs, h => by
    obtain ⟨⟨hu, hv⟩, hvs⟩ := List.forall_mem_cons.mp h
    have hrest := cleanItems_of_mayStay path (i + 1) hvs
    have hclean := clean_of_isClean (itemPath path i) hv
    rcases cleanItems_cons_cases path i v vs with ⟨hu', -⟩ | ⟨-, -, he, -⟩ | ⟨-, -, hc⟩
    · rw [hu] at hu'
      exact Bool.noConfusion hu'
    · rw [hclean] at he
      exact Bool.noConfusion he
    · rw [hc, hclean, hrest, empty_append_empty]

end

end Sanitation

/-- One sanitation is enough.  It leaves no unusable clause below the root and no options beside a
pattern that are not a text, so a second one changes nothing and has nothing to report. -/
theorem sanitize_leaves_nothing_to_do (t : Value) :
    Sanitation.IsClean (sanitize t).1 ∧ sanitize (sanitize t).1 = ((sanitize t).1, .empty) :=
  ⟨Sanitation.isClean_clean "" t, Sanitation.clean_of_isClean "" (Sanitation.isClean_clean "" t)⟩

end QueryWarden
