import QueryWarden.Proofs.Schema.Respelling
import QueryWarden.Proofs.Value.Trees

/-!
# What re-casing makes of a tree

`Respells` says what re-casing by a list of field paths may make of a tree: every mapping keeps its
entries in their order under keys that are `Respelled`, with re-cased values, a list keeps its items
in their order, and a leaf stays.

There is one such tree (`Respells.unique`), and it is the one that `recase` makes
(`respells_recase`).  It stays as it is when it is re-cased again (`Respells.again`).
-/

namespace QueryWarden.CaseMap

open Value

/-- Whether `u` is what re-casing by a list of paths may make of the tree `t`. -/
inductive Respells (paths : List String) : Value → Value → Prop
  | map {fs gs : Fields} : Respelled paths fs.keys gs.keys →
      List.Forall₂ (Respells paths) (fs.map (·.2)) (gs.map (·.2)) →
      Respells paths (.map fs) (.map gs)
  | list {vs ws : List Value} : List.Forall₂ (Respells paths) vs ws →
      Respells paths (.list vs) (.list ws)
  | leaf {v : Value} : v.isLeaf = true → Respells paths v v

section Trees

variable {paths : List String} {p : Native → Bool}

theorem recaseTree_list (m : CaseMap) (vs : List Value) :
    m.recaseTree (.list vs) = .list (vs.map m.recaseTree) := by
  rw [recaseTree]
  refine congrArg Value.list ?_
  induction vs with
  | nil => rw [recaseItems, List.map_nil]
  | cons v vs ih => rw [recaseItems, ih, List.map_cons]

theorem recaseTree_of_isLeaf {m : CaseMap} {v : Value} (h : v.isLeaf = true) :
    m.recaseTree v = v := by
  cases v with
  | map | list | tuple => exact Bool.noConfusion h
  | _ => rw [recaseTree] <;> simp

/-- A mapping with distinct keys has its re-cased values under its new keys. -/
theorem recaseFields_eq_zip (paths : List String) {fs : Fields} (h : fs.keys.Nodup) :
    (ofPaths paths).recaseFields fs =
      ((ofPaths paths).newKeys fs.keys).zip ((fs.map (·.2)).map (ofPaths paths).recaseTree) := by
  have hm := isFolded_ofPaths paths
  unfold recaseFields
  rw [Fields.ofEntries_of_nodup]
  · rw [recaseEntries_eq_map, List.map_map]
    rfl
  · rw [Fields.keys, map_fst_zip_recaseEntries hm]
    exact nodup_newKeys hm h

theorem length_newKeys (paths : List String) (fs : Fields) :
    ((ofPaths paths).newKeys fs.keys).length =
      ((fs.map (·.2)).map (ofPaths paths).recaseTree).length := by
  rw [← (newKeys_forall₂ (isFolded_ofPaths paths) fs.keys).length_eq, Fields.keys,
    List.length_map, List.length_map, List.length_map]

theorem keys_recaseFields (paths : List String) {fs : Fields} (h : fs.keys.Nodup) :
    ((ofPaths paths).recaseFields fs).keys = (ofPaths paths).newKeys fs.keys := by
  rw [recaseFields_eq_zip paths h]
  exact List.map_fst_zip (Nat.le_of_eq (length_newKeys paths fs))

theorem values_recaseFields (paths : List String) {fs : Fields} (h : fs.keys.Nodup) :
    ((ofPaths paths).recaseFields fs).map (·.2) =
      (fs.map (·.2)).map (ofPaths paths).recaseTree := by
  rw [recaseFields_eq_zip paths h]
  exact List.map_snd_zip (Nat.le_of_eq (length_newKeys paths fs).symm)

theorem respells_recaseTree (paths : List String) {t : Value} (ht : t.isTree p = true) :
    Respells paths t ((ofPaths paths).recaseTree t) := by
  induction t, ht using tree_induction with
  | map fs h ih =>
    have hkeys := (isTree_map.mp h).1
    rw [recaseTree_map]
    refine .map ?_ ?_
    · rw [keys_recaseFields paths hkeys]
      exact respelled_newKeys hkeys
    · rw [values_recaseFields paths hkeys, List.forall₂_map_right_iff, List.forall₂_same]
      exact List.forall_mem_map.mpr ih
  | list vs h ih =>
    rw [recaseTree_list]
    refine .list ?_
    rw [List.forall₂_map_right_iff, List.forall₂_same]
    exact ih
  | leaf v h hv =>
    rw [recaseTree_of_isLeaf hv]
    exact .leaf hv

theorem eq_of_forall₂ {α β : Type} {R : α → β → Prop} {as : List α} {bs cs : List β}
    (hR : ∀ a ∈ as, ∀ b c, R a b → R a c → b = c) (hb : List.Forall₂ R as bs)
    (hc : List.Forall₂ R as cs) : bs = cs := by
  induction hb generalizing cs with
  | nil => rw [List.forall₂_nil_left_iff.mp hc]
  | cons hab _ ih =>
    obtain ⟨c, cs', hac, hcs, rfl⟩ := List.forall₂_cons_left_iff.mp hc
    obtain ⟨ha, has⟩ := List.forall_mem_cons.mp hR
    rw [ha _ _ hab hac, ih has hcs]

theorem exists_of_respells_map {fs : Fields} {u : Value} (h : Respells paths (.map fs) u) :
    ∃ gs : Fields, u = .map gs ∧ Respelled paths fs.keys gs.keys ∧
      List.Forall₂ (Respells paths) (fs.map (·.2)) (gs.map (·.2)) := by
  cases h with
  | map hkeys hvalues => exact ⟨_, rfl, hkeys, hvalues⟩
  | leaf hv => exact Bool.noConfusion hv

theorem exists_of_respells_list {vs : List Value} {u : Value} (h : Respells paths (.list vs) u) :
    ∃ ws, u = .list ws ∧ List.Forall₂ (Respells paths) vs ws := by
  cases h with
  | list hitems => exact ⟨_, rfl, hitems⟩
  | leaf hv => exact Bool.noConfusion hv

theorem eq_of_respells_leaf {v u : Value} (hv : v.isLeaf = true) (h : Respells paths v u) :
    u = v := by
  cases h with
  | leaf => rfl
  | map | list => exact Bool.noConfusion hv

theorem Respells.unique {t : Value} (ht : t.isTree p = true) :
    ∀ u w, Respells paths t u → Respells paths t w → u = w := by
  induction t, ht using tree_induction with
  | map fs h ih =>
    intro u w hu hw
    obtain ⟨gs, rfl, hkeys, hvalues⟩ := exists_of_respells_map hu
    obtain ⟨gs', rfl, hkeys', hvalues'⟩ := exists_of_respells_map hw
    have hk : gs.keys = gs'.keys := hkeys.unique hkeys'
    have hv : gs.map (·.2) = gs'.map (·.2) :=
      eq_of_forall₂ (List.forall_mem_map.mpr ih) hvalues hvalues'
    have hgs : gs = gs'.keys.zip (gs'.map (·.2)) := List.zip_of_prod hk hv
    rw [hgs]
    exact congrArg Value.map (List.zip_of_prod rfl rfl).symm
  | list vs h ih =>
    intro u w hu hw
    obtain ⟨us, rfl, hus⟩ := exists_of_respells_list hu
    obtain ⟨ws, rfl, hws⟩ := exists_of_respells_list hw
    rw [eq_of_forall₂ ih hus hws]
  | leaf v h hv =>
    intro u w hu hw
    rw [eq_of_respells_leaf hv hu, eq_of_respells_leaf hv hw]

/-- A re-cased tree is a tree and stays as it is when it is re-cased again. -/
theorem Respells.again {t : Value} (ht : t.isTree p = true) :
    ∀ u, Respells paths t u → u.isTree p = true ∧ Respells paths u u := by
  induction t, ht using tree_induction with
  | map fs h ih =>
    intro u hu
    obtain ⟨gs, rfl, hkeys, hvalues⟩ := exists_of_respells_map hu
    have hgs : ∀ e ∈ gs, e.2.isTree p = true ∧ Respells paths e.2 e.2 := by
      intro e he
      obtain ⟨v, hv, hve⟩ := exists_right_of_forall₂ hvalues.flip (List.mem_map_of_mem he)
      obtain ⟨d, hd, rfl⟩ := List.mem_map.mp hv
      exact ih d hd e.2 hve
    refine ⟨isTree_map.mpr ⟨hkeys.nodup, fun e he => (hgs e he).1⟩, ?_⟩
    refine .map hkeys.again (List.forall₂_same.mpr ?_)
    exact List.forall_mem_map.mpr fun e he => (hgs e he).2
  | list vs h ih =>
    intro u hu
    obtain ⟨ws, rfl, hitems⟩ := exists_of_respells_list hu
    have hws : ∀ w ∈ ws, w.isTree p = true ∧ Respells paths w w := by
      intro w hw
      obtain ⟨v, hv, hvw⟩ := exists_right_of_forall₂ hitems.flip hw
      exact ih v hv w hvw
    refine ⟨isTree_list.mpr fun w hw => (hws w hw).1, ?_⟩
    exact .list (List.forall₂_same.mpr fun w hw => (hws w hw).2)
  | leaf v h hv =>
    intro u hu
    rw [eq_of_respells_leaf hv hu]
    exact ⟨h, .leaf hv⟩

theorem respells_self (hnone : ∀ k, firstSpelling? paths k = none) {t : Value}
    (ht : t.isTree p = true) : Respells paths t t := by
  induction t, ht using tree_induction with
  | map fs h ih =>
    refine .map ⟨List.forall₂_same.mpr fun _ _ => .inl rfl, (isTree_map.mp h).1, ?_⟩ ?_
    · intro k _ p hp
      rw [hnone] at hp
      exact absurd hp.symm (Option.some_ne_none p)
    · exact List.forall₂_same.mpr (List.forall_mem_map.mpr ih)
  | list vs h ih => exact .list (List.forall₂_same.mpr ih)
  | leaf v h hv => exact .leaf hv

theorem respells_recase (paths : List String) {t : Value} (ht : t.isTree p = true) :
    Respells paths t ((ofPaths paths).recase t) := by
  unfold recase
  split_ifs with hempty
  · refine respells_self (fun k => ?_) ht
    rw [← get?_ofPaths, get?, List.isEmpty_iff.mp hempty, List.lookup_nil]
  · exact respells_recaseTree paths ht

/-- **Re-casing loses no condition.**  For every list of field paths, what re-casing makes of a tree
of JSON is the one tree that has the shape of it, where every mapping keeps the number and the order
of its entries, its keys are distinct, a key stays or becomes the first path with its lower case,
and a path that some key stands for is the spelling of one key: of that which had it, or else of the
first.  Re-casing the tree again changes nothing. -/
theorem recase_respells (paths : List String) {t : Value} (ht : t.isTree p = true) :
    (∀ u, Respells paths t u ↔ u = (ofPaths paths).recase t) ∧
      (ofPaths paths).recase ((ofPaths paths).recase t) = (ofPaths paths).recase t := by
  have hrecase := respells_recase paths ht
  refine ⟨fun u => ⟨fun hu => Respells.unique ht u _ hu hrecase, ?_⟩, ?_⟩
  · rintro rfl
    exact hrecase
  · -- The re-cased tree re-cases to itself, and to nothing else.
    obtain ⟨htree, hagain⟩ := Respells.again ht _ hrecase
    exact Respells.unique htree _ _ (respells_recase paths htree) hagain

/-- Of two keys for the same path the first takes its spelling, and keys further down are re-cased
too. -/
theorem recase_respells_names :
    let t : Value := .map [("NAME", .int 1), ("name", .list [.map [("city", .int 2)]])]
    t.isTree (fun _ => false) = true ∧
      Respells ["Name", "City", "NAME"] t
        (.map [("Name", .int 1), ("name", .list [.map [("City", .int 2)]])]) ∧
      (ofPaths ["Name", "City", "NAME"]).recase ((ofPaths ["Name", "City", "NAME"]).recase t) =
        (ofPaths ["Name", "City", "NAME"]).recase t := by
  intro t
  have ht : t.isTree (fun _ => false) = true := by decide +kernel
  obtain ⟨hunique, hagain⟩ := recase_respells ["Name", "City", "NAME"] ht
  exact ⟨ht, (hunique _).mpr (by decide +kernel), hagain⟩

end Trees

end QueryWarden.CaseMap
