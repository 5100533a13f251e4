import QueryWarden.Proofs.Traced
import QueryWarden.Proofs.Value.Keys
import QueryWarden.Query.Shape
import QueryWarden.Query.Source

/-!
# What shaping keeps

1. The limit that is asked for lies between one and the greatest one (`LimitPolicy.one_le_clamp`,
   `LimitPolicy.clamp_le`), and a limit between the bounds stays as it is (`LimitPolicy.clamp_int`), so
   bounding a limit twice is bounding it once (`LimitPolicy.clamp_clamp`).
2. A pipeline is read as it is written: `Shape.stages_eq_ok`.
3. A find is read out of its query and of the entries around it: `buildFind_eq_ok`.  What it reads are
   parts of the two, so it has every property that passes to parts (`Hereditary.rawFind`).
4. Shaping makes keys of names in two places only, a projection that is a list and a sort that is a
   text or a list (`Shape.mem_keys_projection?`, `Shape.mem_keys_sort?`).
-/

namespace QueryWarden.LimitPolicy

/-! ## Limits between their bounds -/

variable {p : LimitPolicy}

theorem one_le_clamp (h : 1 ≤ p.greatest) (v : Value) : 1 ≤ p.clamp v := by
  unfold clamp clampLimit
  omega

theorem clamp_le (v : Value) : p.clamp v ≤ p.greatest := by
  unfold clamp clampLimit
  omega

theorem clamp_int {i : Int} (h₁ : 1 ≤ i) (h₂ : i ≤ p.greatest) : p.clamp (.int i) = i := by
  show min (max i 1) p.greatest = i
  omega

theorem clamp_clamp (h : 1 ≤ p.greatest) (v : Value) : p.clamp (.int (p.clamp v)) = p.clamp v :=
  clamp_int (one_le_clamp h v) (clamp_le v)

end QueryWarden.LimitPolicy

namespace QueryWarden

/-! ## Properties of trees that pass to their parts -/

/-- A property that holds of the parts of a tree when it holds of the tree. -/
structure Hereditary (P : Value → Prop) : Prop where
  null : P .null
  int : ∀ i, P (.int i)
  empty : P (.map [])
  entry : ∀ {fs : Fields} {e : String × Value}, P (.map fs) → e ∈ fs → P e.2
  item : ∀ {vs : List Value} {v : Value}, P (.list vs) ∨ P (.tuple vs) → v ∈ vs → P v

theorem hereditary_isTupleFree : Hereditary fun v => v.isTupleFree = true where
  null := rfl
  int _ := rfl
  empty := rfl
  entry h he := Value.isTupleFree_map.mp h _ he
  item h hv := by
    rcases h with h | h
    · exact Value.isTupleFree_list.mp h _ hv
    · simp [Value.isTupleFree] at h

theorem hereditary_allKeys (Q : String → Prop) : Hereditary fun v => ∀ k ∈ v.allKeys, Q k where
  null := List.forall_mem_nil _
  int _ := List.forall_mem_nil _
  empty := List.forall_mem_nil _
  entry h he k hk := h k (Value.allKeys_subset_entryKeys he hk)
  item h hv k hk := by
    have hk' := Value.allKeys_subset_itemKeys hv hk
    rcases h with h | h
    · exact h k hk'
    · exact h k (by rwa [Value.allKeys])

namespace Hereditary

variable {P : Value → Prop} (hP : Hereditary P)
include hP

theorem get? {fs : Fields} (h : P (.map fs)) {k : String} {v : Value} (hv : fs.get? k = some v) :
    P v :=
  hP.entry h (Fields.mem_of_get? hv)

theorem valueOf {fs : Fields} (h : P (.map fs)) (k : String) : P (Shape.valueOf fs k) := by
  unfold Shape.valueOf
  cases hv : fs.get? k with
  | none => exact hP.null
  | some v => exact hP.get? h hv

theorem queryFields {author : Author} {v : Value} {fs : Fields} (h : P v)
    (hf : Shape.queryFields author v = .ok fs) : P (.map fs) := by
  cases v with
  | map es =>
    obtain rfl := Except.ok.inj hf
    exact h
  | list vs =>
    obtain rfl := Except.ok.inj hf
    cases hs : vs.findSome? (·.fields?) with
    | none => exact hP.empty
    | some es =>
      obtain ⟨w, hw, he⟩ := List.exists_of_findSome?_eq_some hs
      cases w with
      | map ds =>
        obtain rfl := Option.some.inj he
        exact hP.item (.inl h) hw
      | _ => simp [Value.fields?] at he
  | _ => simp [Shape.queryFields] at hf

/-- The filter, the projection and the sort of a query are parts of it or of the entries around. -/
theorem rawFind {query outer : Fields} (hq : P (.map query)) (ho : P (.map outer))
    (limit : Value) :
    P (Shape.rawFind query outer limit).filter ∧ P (Shape.rawFind query outer limit).projection ∧
      P (Shape.rawFind query outer limit).sort := by
  have part (k : String) : P ((query.get? k).getD (Shape.valueOf outer k)) := by
    cases hv : query.get? k with
    | none => exact hP.valueOf ho k
    | some v => exact hP.get? hq hv
  unfold Shape.rawFind
  split_ifs
  · exact ⟨hP.valueOf hq _, part _, part _⟩
  · exact ⟨hq, hP.valueOf ho _, hP.valueOf ho _⟩

theorem direction {v : Value} (h : P v) : P (Shape.direction v) := by
  unfold Shape.direction
  split
  · split_ifs <;> exact hP.int _
  · split_ifs <;> exact hP.int _
  · split_ifs <;> exact hP.int _
  · exact h
  · exact hP.int _

end Hereditary

namespace Shape

/-! ## Stages -/

theorem stagesFrom_eq_ok {author : Author} {i : Nat} {vs : List Value} {ss : List Fields}
    (h : stagesFrom author i vs = .ok ss) :
    vs = ss.map .map ∧ ∀ stage ∈ ss, stage ≠ [] := by
  fun_induction stagesFrom author i vs generalizing ss with
  | case1 =>
    obtain rfl := Except.ok.inj h
    exact ⟨rfl, List.forall_mem_nil _⟩
  | case2 i e es vs ih =>
    obtain ⟨rest, hrest, rfl⟩ := map_eq_ok.mp h
    obtain ⟨hvs, hne⟩ := ih hrest
    exact ⟨by rw [hvs, List.map_cons], List.forall_mem_cons.mpr ⟨List.cons_ne_nil _ _, hne⟩⟩
  | case3 => simp at h

/-- The stages of a pipeline are the mappings that it lists, and none of them is empty. -/
theorem stages_eq_ok {author : Author} {v : Value} {ss : List Fields}
    (h : stages author v = .ok ss) : v = .list (ss.map .map) ∧ ∀ stage ∈ ss, stage ≠ [] := by
  cases v with
  | list vs =>
    obtain ⟨hvs, hne⟩ := stagesFrom_eq_ok h
    exact ⟨by rw [hvs], hne⟩
  | _ => simp [stages] at h

theorem stages_of_nonempty (author : Author) {ss : List Fields} (h : ∀ stage ∈ ss, stage ≠ []) :
    stages author (.list (ss.map .map)) = .ok ss := by
  show stagesFrom author 0 (ss.map .map) = .ok ss
  generalize 0 = i
  induction ss generalizing i with
  | nil => rfl
  | cons stage ss ih =>
    obtain ⟨hstage, hss⟩ := List.forall_mem_cons.mp h
    obtain ⟨e, es, rfl⟩ := List.exists_cons_of_ne_nil hstage
    rw [List.map_cons, stagesFrom, ih hss]
    rfl

theorem filterFields_eq_ok {author : Author} {v : Value} {fs : Fields}
    (h : filterFields author v = .ok fs) : v = .map fs ∨ v = .null ∧ fs = [] := by
  cases v with
  | map es => exact .inl (by rw [Except.ok.inj h])
  | null => exact .inr ⟨rfl, (Except.ok.inj h).symm⟩
  | _ => simp [filterFields] at h

/-! ## Projections and sorts -/

def projectionNames : Value → List String
  | .list vs => vs.filterMap fieldName?
  | _ => []

def sortNames : Value → List String
  | .string s => if s = "" then [] else [s]
  | .list vs => (vs.filterMap sortPair?).map (·.1)
  | _ => []

theorem nonempty?_eq_some {fs gs : Fields} : nonempty? fs = some gs ↔ fs ≠ [] ∧ fs = gs := by
  unfold nonempty?
  cases fs <;> simp

theorem projection?_eq_some {v : Value} {fs : Fields} (h : projection? v = some fs) :
    v = .map fs ∨ ∃ vs, v = .list vs ∧
      fs = Fields.ofEntries ((vs.filterMap fieldName?).map fun f => (f, .int 1)) := by
  unfold projection? at h
  split at h
  · exact .inl (by rw [(nonempty?_eq_some.mp h).2])
  · exact .inr ⟨_, rfl, (nonempty?_eq_some.mp h).2.symm⟩
  · exact absurd h.symm (Option.some_ne_none fs)

theorem mem_keys_projection? {v : Value} {fs : Fields} (h : projection? v = some fs) {k : String}
    (hk : k ∈ fs.keys) : k ∈ v.allKeys ∨ k ∈ projectionNames v := by
  rcases projection?_eq_some h with rfl | ⟨vs, rfl, rfl⟩
  · exact .inl (by simpa using Value.mem_entryKeys_of_mem_keys hk)
  · exact .inr (by simpa [projectionNames] using Fields.mem_keys_ofEntries.mp hk)

theorem exists_projection?_of_mem {v : Value} {k : String} (hk : k ∈ projectionNames v) :
    ∃ fs, projection? v = some fs ∧ k ∈ fs.keys := by
  cases v with
  | list vs =>
    have hm : k ∈ (Fields.ofEntries
        ((vs.filterMap fieldName?).map fun f => (f, Value.int 1))).keys :=
      Fields.mem_keys_ofEntries.mpr (by simpa [projectionNames] using hk)
    refine ⟨_, nonempty?_eq_some.mpr ⟨?_, rfl⟩, hm⟩
    intro hnil
    rw [hnil] at hm
    exact List.not_mem_nil hm
  | _ => simp [projectionNames] at hk

theorem mem_list_of_sortPair? {v : Value} {f : String} {d : Value}
    (h : sortPair? v = some (f, d)) : ∃ vs, (v = .list vs ∨ v = .tuple vs) ∧ d ∈ vs := by
  unfold sortPair? at h
  split at h
  · obtain ⟨rfl, rfl⟩ := Prod.mk.inj (Option.some.inj h)
    exact ⟨_, .inl rfl, by simp⟩
  · obtain ⟨rfl, rfl⟩ := Prod.mk.inj (Option.some.inj h)
    exact ⟨_, .inr rfl, by simp⟩
  · exact absurd h.symm (Option.some_ne_none _)

theorem keys_sortEntries_string (s : String) :
    (sortEntries (.string s)).keys = sortNames (.string s) := by
  by_cases hs : s = "" <;> simp [sortEntries, sortNames, Fields.keys, hs]

theorem mem_keys_sortEntries {v : Value} {k : String} (hk : k ∈ (sortEntries v).keys) :
    k ∈ v.allKeys ∨ k ∈ sortNames v := by
  cases v with
  | string s =>
    rw [keys_sortEntries_string] at hk
    exact .inr hk
  | list vs => exact .inr (Fields.mem_keys_ofEntries.mp hk)
  | map fs =>
    rw [Value.allKeys_map]
    exact .inl (Value.mem_entryKeys_of_mem_keys hk)
  | _ => exact absurd hk List.not_mem_nil

theorem mem_keys_sortEntries_of_mem {v : Value} {k : String} (hk : k ∈ sortNames v) :
    k ∈ (sortEntries v).keys := by
  cases v with
  | string s =>
    rw [keys_sortEntries_string]
    exact hk
  | list vs => exact Fields.mem_keys_ofEntries.mpr hk
  | _ => simp [sortNames] at hk

theorem keys_map_direction (es : Fields) :
    Fields.keys (es.map fun e => (e.1, direction e.2)) = es.keys := by
  unfold Fields.keys
  rw [List.map_map]
  rfl

theorem sort?_eq_some {v : Value} {fs : Fields} (h : sort? v = some fs) :
    fs = (sortEntries v).map fun e => (e.1, direction e.2) :=
  (nonempty?_eq_some.mp h).2.symm

theorem mem_keys_sort? {v : Value} {fs : Fields} (h : sort? v = some fs) {k : String}
    (hk : k ∈ fs.keys) : k ∈ v.allKeys ∨ k ∈ sortNames v := by
  rw [sort?_eq_some h, keys_map_direction] at hk
  exact mem_keys_sortEntries hk

theorem exists_sort?_of_mem {v : Value} {k : String} (hk : k ∈ sortNames v) :
    ∃ fs, sort? v = some fs ∧ k ∈ fs.keys := by
  have hm := mem_keys_sortEntries_of_mem hk
  rw [← keys_map_direction] at hm
  refine ⟨_, nonempty?_eq_some.mpr ⟨?_, rfl⟩, hm⟩
  intro hnil
  rw [hnil] at hm
  exact List.not_mem_nil hm

end Shape

namespace Hereditary

variable {P : Value → Prop} (hP : Hereditary P)
include hP

theorem projection? {v : Value} (h : P v) {fs : Fields} (hf : Shape.projection? v = some fs) :
    ∀ e ∈ fs, P e.2 := by
  intro e he
  rcases Shape.projection?_eq_some hf with rfl | ⟨vs, rfl, rfl⟩
  · exact hP.entry h he
  · obtain ⟨f, -, rfl⟩ := List.mem_map.mp (Fields.mem_of_mem_ofEntries he)
    exact hP.int 1

theorem sortEntries {v : Value} (h : P v) : ∀ e ∈ Shape.sortEntries v, P e.2 := by
  intro e he
  cases v with
  | string s =>
    rw [Shape.sortEntries] at he
    split_ifs at he
    · exact absurd he List.not_mem_nil
    · obtain rfl := List.mem_singleton.mp he
      exact hP.int 1
  | list vs =>
    obtain ⟨w, hw, hp⟩ := List.mem_filterMap.mp (Fields.mem_of_mem_ofEntries he)
    obtain ⟨ws, hws, hd⟩ := Shape.mem_list_of_sortPair? hp
    have hPw : P w := hP.item (.inl h) hw
    rcases hws with rfl | rfl
    · exact hP.item (.inl hPw) hd
    · exact hP.item (.inr hPw) hd
  | map fs => exact hP.entry h he
  | _ => exact absurd he List.not_mem_nil

theorem sort? {v : Value} (h : P v) {fs : Fields} (hf : Shape.sort? v = some fs) :
    ∀ e ∈ fs, P e.2 := by
  intro e he
  rw [Shape.sort?_eq_some hf] at he
  obtain ⟨d, hd, rfl⟩ := List.mem_map.mp he
  exact hP.direction (hP.sortEntries h d hd)

end Hereditary

/-! ## Building -/

section Build

variable {author : Author} {policy : LimitPolicy} {limit : Value} {spec : QuerySpec}

theorem FindSpec.build_eq_ok {filter : Fields} {projection sort : Option Fields} {limit : Int} :
    FindSpec.build filter projection sort limit = .ok spec ↔
      ∃ n : Positive, n.value = limit ∧ spec = .find ⟨filter, projection, sort, n⟩ := by
  unfold FindSpec.build
  constructor
  · intro h
    split at h
    · rename_i n hn
      exact ⟨n, Positive.value_of_ofInt? hn, (Except.ok.inj h).symm⟩
    · simp at h
  · rintro ⟨n, rfl, rfl⟩
    rw [Positive.ofInt?_eq_some n.one_le]

theorem AggregateSpec.build_eq_ok {ss : List Fields} {limit : Int} :
    AggregateSpec.build ss limit = .ok spec ↔
      ∃ n : Positive, n.value = limit ∧ spec = .aggregate ⟨ss, n⟩ := by
  unfold AggregateSpec.build
  constructor
  · intro h
    split at h
    · rename_i n hn
      exact ⟨n, Positive.value_of_ofInt? hn, (Except.ok.inj h).symm⟩
    · simp at h
  · rintro ⟨n, rfl, rfl⟩
    rw [Positive.ofInt?_eq_some n.one_le]

theorem buildFind_eq_ok {query : Value} {outer : Fields} :
    buildFind author policy query outer limit = .ok spec ↔
      ∃ fs filter n, Shape.queryFields author query = .ok fs ∧
        Shape.filterFields author (Shape.rawFind fs outer limit).filter = .ok filter ∧
        n.value = policy.clamp (Shape.rawFind fs outer limit).limit ∧
        spec = .find ⟨filter, Shape.projection? (Shape.rawFind fs outer limit).projection,
          Shape.sort? (Shape.rawFind fs outer limit).sort, n⟩ := by
  unfold buildFind
  cases hfs : Shape.queryFields author query with
  | error f => simp
  | ok fs =>
    cases hfilter : Shape.filterFields author (Shape.rawFind fs outer limit).filter with
    | error f => simp [hfilter]
    | ok filter => simp [hfilter, FindSpec.build_eq_ok]

theorem buildAggregate_eq_ok {pipeline : Value} :
    buildAggregate author policy pipeline limit = .ok spec ↔
      ∃ ss n, Shape.stages author pipeline = .ok ss ∧ n.value = policy.clamp limit ∧
        spec = .aggregate ⟨ss, n⟩ := by
  unfold buildAggregate
  cases hss : Shape.stages author pipeline with
  | error f => simp
  | ok ss => simp [AggregateSpec.build_eq_ok]

/-- The filter of a find, and the values in its projection and its sort, are parts of its query or
of the entries around. -/
theorem Hereditary.buildFind {P : Value → Prop} (hP : Hereditary P) {query : Value}
    {outer : Fields} (h : buildFind author policy query outer limit = .ok spec) (hq : P query)
    (ho : P (.map outer)) :
    ∃ s, spec = .find s ∧ P (.map s.filter) ∧
      (∀ fs, s.projection = some fs → ∀ e ∈ fs, P e.2) ∧
      (∀ fs, s.sort = some fs → ∀ e ∈ fs, P e.2) := by
  obtain ⟨fs, filter, n, hfs, hfilter, -, rfl⟩ := buildFind_eq_ok.mp h
  obtain ⟨hf, hp, hs⟩ := hP.rawFind (hP.queryFields hq hfs) ho limit
  refine ⟨_, rfl, ?_, fun _ => hP.projection? hp, fun _ => hP.sort? hs⟩
  rcases Shape.filterFields_eq_ok hfilter with he | ⟨-, rfl⟩
  · rwa [← he]
  · exact hP.empty

theorem stagesValue_of_buildAggregate {pipeline : Value}
    (h : buildAggregate author policy pipeline limit = .ok spec) :
    ∃ s, spec = .aggregate s ∧ QuerySpec.stagesValue s.stages = pipeline := by
  obtain ⟨ss, n, hss, -, rfl⟩ := buildAggregate_eq_ok.mp h
  exact ⟨_, rfl, (Shape.stages_eq_ok hss).1.symm⟩

end Build

namespace QuerySpec

/-- A request is a find by its query, or an aggregation by its pipeline. -/
theorem ofRunRequest_eq_ok {policy : LimitPolicy} {query pipeline limit : Value}
    {spec : QuerySpec} (h : ofRunRequest policy query pipeline limit = .ok spec) :
    pipeline = .null ∧ buildFind .client policy query [] limit = .ok spec ∨
      buildAggregate .client policy pipeline limit = .ok spec := by
  unfold ofRunRequest at h
  split at h
  · simp at h
  · exact .inl ⟨rfl, h⟩
  · exact .inr h

end QuerySpec

end QueryWarden
