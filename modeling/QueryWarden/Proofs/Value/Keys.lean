import QueryWarden.Proofs.Value.Fields

/-!
# All keys of a tree, and trees without tuples

`Value.allKeys` lists the keys of the mappings of a tree at every depth.  The entries of a mapping
and the items of a list have their own lists, `entryKeys` and `itemKeys`, so that statements about
the keys of a tree follow its three parts.

A tuple is a list that no JSON text can write, so the trees of JSON have none.  The parts of a tree
without tuples, and the mappings that are built from such trees, have none either.
-/

namespace QueryWarden.Value

/-! ## Keys -/

mutual

/-- The keys of all mappings of a tree, a key before those of its value. -/
def allKeys : Value → List String
  | .map es => entryKeys es
  | .list vs | .tuple vs => itemKeys vs
  | _ => []

def entryKeys : List (String × Value) → List String
  | [] => []
  | (k, v) :: es => k :: (allKeys v ++ entryKeys es)

def itemKeys : List Value → List String
  | [] => []
  | v :: vs => allKeys v ++ itemKeys vs

end

@[simp] theorem allKeys_map (es : Fields) : (map es).allKeys = entryKeys es := by rw [allKeys]

@[simp] theorem allKeys_list (vs : List Value) : (list vs).allKeys = itemKeys vs := by rw [allKeys]

@[simp] theorem entryKeys_nil : entryKeys [] = [] := by rw [entryKeys]

@[simp] theorem entryKeys_cons (k : String) (v : Value) (es : List (String × Value)) :
    entryKeys ((k, v) :: es) = k :: (v.allKeys ++ entryKeys es) := by rw [entryKeys]

@[simp] theorem itemKeys_nil : itemKeys [] = [] := by rw [itemKeys]

@[simp] theorem itemKeys_cons (v : Value) (vs : List Value) :
    itemKeys (v :: vs) = v.allKeys ++ itemKeys vs := by rw [itemKeys]

theorem mem_entryKeys {es : List (String × Value)} {k : String} :
    k ∈ entryKeys es ↔ ∃ e ∈ es, k = e.1 ∨ k ∈ e.2.allKeys := by
  induction es with
  | nil => simp
  | cons e es ih =>
    obtain ⟨l, v⟩ := e
    simp [ih, or_assoc]

theorem mem_itemKeys {vs : List Value} {k : String} :
    k ∈ itemKeys vs ↔ ∃ v ∈ vs, k ∈ v.allKeys := by
  induction vs with
  | nil => simp
  | cons v vs ih => simp [ih]

theorem mem_entryKeys_of_mem_keys {fs : Fields} {k : String} (h : k ∈ fs.keys) :
    k ∈ entryKeys fs := by
  obtain ⟨e, he, rfl⟩ := List.mem_map.mp h
  exact mem_entryKeys.mpr ⟨e, he, .inl rfl⟩

theorem allKeys_subset_entryKeys {fs : Fields} {e : String × Value} (h : e ∈ fs) :
    e.2.allKeys ⊆ entryKeys fs :=
  fun _ hk => mem_entryKeys.mpr ⟨e, h, .inr hk⟩

theorem allKeys_subset_itemKeys {vs : List Value} {v : Value} (h : v ∈ vs) :
    v.allKeys ⊆ itemKeys vs :=
  fun _ hk => mem_itemKeys.mpr ⟨v, h, hk⟩

theorem append_subset_append {as bs cs ds : List String} (ha : as ⊆ cs) (hb : bs ⊆ ds) :
    as ++ bs ⊆ cs ++ ds :=
  List.append_subset.mpr ⟨List.subset_append_of_subset_left _ ha,
    List.subset_append_of_subset_right _ hb⟩

theorem entryKeys_subset {es fs : List (String × Value)} (h : es ⊆ fs) :
    entryKeys es ⊆ entryKeys fs := by
  intro k hk
  obtain ⟨e, he, hk⟩ := mem_entryKeys.mp hk
  exact mem_entryKeys.mpr ⟨e, h he, hk⟩

theorem itemKeys_append (vs ws : List Value) :
    itemKeys (vs ++ ws) = itemKeys vs ++ itemKeys ws := by
  induction vs with
  | nil => rfl
  | cons v vs ih => rw [List.cons_append, itemKeys_cons, itemKeys_cons, ih, List.append_assoc]

theorem allKeys_subset_of_get? {fs : Fields} {k : String} {v : Value} (h : fs.get? k = some v) :
    v.allKeys ⊆ entryKeys fs :=
  allKeys_subset_entryKeys (Fields.mem_of_get? h)

theorem entryKeys_ofEntries_subset (es : List (String × Value)) :
    entryKeys (Fields.ofEntries es) ⊆ entryKeys es :=
  entryKeys_subset fun _ => Fields.mem_of_mem_ofEntries

/-! ## Tuples -/

mutual

def isTupleFree : Value → Bool
  | .map es => entriesAreTupleFree es
  | .list vs => itemsAreTupleFree vs
  | .tuple _ => false
  | _ => true

def entriesAreTupleFree : List (String × Value) → Bool
  | [] => true
  | (_, v) :: es => isTupleFree v && entriesAreTupleFree es

def itemsAreTupleFree : List Value → Bool
  | [] => true
  | v :: vs => isTupleFree v && itemsAreTupleFree vs

end

theorem isTupleFree_map {fs : Fields} :
    (map fs).isTupleFree = true ↔ ∀ e ∈ fs, e.2.isTupleFree = true := by
  rw [isTupleFree]
  induction fs with
  | nil => simp [entriesAreTupleFree]
  | cons e es ih =>
    obtain ⟨k, v⟩ := e
    rw [entriesAreTupleFree, Bool.and_eq_true, ih, List.forall_mem_cons]

theorem isTupleFree_list {vs : List Value} :
    (list vs).isTupleFree = true ↔ ∀ v ∈ vs, v.isTupleFree = true := by
  rw [isTupleFree]
  induction vs with
  | nil => simp [itemsAreTupleFree]
  | cons v vs ih => rw [itemsAreTupleFree, Bool.and_eq_true, ih, List.forall_mem_cons]

theorem isTupleFree_ofEntries {es : List (String × Value)}
    (h : ∀ e ∈ es, e.2.isTupleFree = true) : (map (Fields.ofEntries es)).isTupleFree = true :=
  isTupleFree_map.mpr fun e he => h e (Fields.mem_of_mem_ofEntries he)

end QueryWarden.Value
