import QueryWarden.Proofs.Query.Shape
import QueryWarden.Proofs.Schema.CaseMap

/-!
# Keys that are made of names

A projection that is a list and a sort that is a text or a list have names where a mapping has keys,
and shaping makes keys of them.  `MadeOf P names p` says that a part `p` of a query has these names
among its keys, up to case, and that all its other keys have the property `P`.  Re-casing keeps this
up (`MadeOf.recase`), so a part has the property throughout exactly when its names have it
(`MadeOf.forall_allKeys_iff`).

`ModelOutput.names` are the names in the output of a model.  All other keys of the query that it asks
for are keys of the output, or the `$match` around a bare filter (`ModelOutput.forall_allKeys_query`,
`ModelOutput.forall_allKeys_pipeline`).
-/

namespace QueryWarden

open Value

/-- Whether a part of a query has the names among its keys, up to case, and otherwise only keys with
the property. -/
structure MadeOf (P : String → Prop) (names : List String) (p : Option Fields) : Prop where
  values : ∀ fs, p = some fs → ∀ e ∈ fs, ∀ k ∈ e.2.allKeys, P k
  keys : ∀ fs, p = some fs → ∀ k ∈ fs.keys, P k ∨ ∃ name ∈ names, Text.lower k = Text.lower name
  names : ∀ name ∈ names, ∃ fs, p = some fs ∧ ∃ k ∈ fs.keys, Text.lower k = Text.lower name

namespace MadeOf

variable {P : String → Prop} {names : List String} {p : Option Fields}

theorem forall_allKeys_iff (hP : CaseMap.RespectsCase P) (h : MadeOf P names p) :
    (∀ k ∈ (QuerySpec.partValue p).allKeys, P k) ↔ ∀ name ∈ names, P name := by
  constructor
  · intro hk name hn
    obtain ⟨fs, rfl, k, hmem, hlower⟩ := h.names name hn
    refine hP k name hlower.symm (hk k ?_)
    rw [QuerySpec.partValue, allKeys_map]
    exact mem_entryKeys_of_mem_keys hmem
  · intro hn k hk
    cases p with
    | none => exact absurd hk List.not_mem_nil
    | some fs =>
      rw [QuerySpec.partValue, allKeys_map] at hk
      obtain ⟨e, he, rfl | hk⟩ := mem_entryKeys.mp hk
      · rcases h.keys fs rfl e.1 (List.mem_map_of_mem he) with hp | ⟨name, hname, hlower⟩
        · exact hp
        · exact hP name e.1 hlower (hn name hname)
      · exact h.values fs rfl e he k hk

/-- Re-casing keeps the names up to case, and the property of the other keys. -/
theorem recase {m : CaseMap} (hm : m.IsFolded) (hP : CaseMap.RespectsCase P)
    (h : MadeOf P names p) : MadeOf P names (p.map m.recaseFields) where
  values := by
    intro gs hgs
    obtain ⟨fs, rfl, rfl⟩ := Option.map_eq_some_iff.mp hgs
    exact CaseMap.forall_values_recaseFields hm hP (h.values fs rfl)
  keys := by
    intro gs hgs k hk
    obtain ⟨fs, rfl, rfl⟩ := Option.map_eq_some_iff.mp hgs
    have hnew := (CaseMap.mem_keys_recaseFields hm).mp hk
    obtain ⟨l, hl, hkl⟩ := CaseMap.exists_lower_eq_of_mem_newKeys hm hnew
    rcases h.keys fs rfl l hl with hp | ⟨name, hname, hlower⟩
    · exact .inl (hP l k hkl hp)
    · exact .inr ⟨name, hname, hkl.trans hlower⟩
  names := by
    intro name hname
    obtain ⟨fs, rfl, k, hk, hlower⟩ := h.names name hname
    obtain ⟨l, hl, hlk⟩ := CaseMap.exists_mem_keys_recaseFields hm hk
    exact ⟨_, rfl, l, hl, hlk.trans hlower⟩

end MadeOf

section Parts

variable {P : String → Prop} {v : Value}

theorem madeOf_projection? (h : ∀ k ∈ v.allKeys, P k) :
    MadeOf P (Shape.projectionNames v) (Shape.projection? v) where
  values _ hf := (hereditary_allKeys P).projection? h hf
  keys _ hf k hk := (Shape.mem_keys_projection? hf hk).imp (h k) fun hn => ⟨k, hn, rfl⟩
  names name hn := by
    obtain ⟨fs, hf, hk⟩ := Shape.exists_projection?_of_mem hn
    exact ⟨fs, hf, name, hk, rfl⟩

theorem madeOf_sort? (h : ∀ k ∈ v.allKeys, P k) :
    MadeOf P (Shape.sortNames v) (Shape.sort? v) where
  values _ hf := (hereditary_allKeys P).sort? h hf
  keys _ hf k hk := (Shape.mem_keys_sort? hf hk).imp (h k) fun hn => ⟨k, hn, rfl⟩
  names name hn := by
    obtain ⟨fs, hf, hk⟩ := Shape.exists_sort?_of_mem hn
    exact ⟨fs, hf, name, hk, rfl⟩

end Parts

/-! ## The output of a model -/

namespace ModelOutput

/-- The names in the output of a model that become keys of the find that it asks for. -/
def names (mode : String) (output : Fields) : List String :=
  if mode = aggregateMode then []
  else match Shape.queryFields .model (query output) with
    | .error _ => []
    | .ok fs =>
      Shape.projectionNames (Shape.rawFind fs output .null).projection ++
        Shape.sortNames (Shape.rawFind fs output .null).sort

variable {P : String → Prop} {output : Fields}

theorem forall_allKeys_query (h : ∀ k ∈ entryKeys output, P k) :
    ∀ k ∈ (query output).allKeys, P k := by
  have hmap : ∀ k ∈ (Value.map output).allKeys, P k := by rwa [allKeys_map]
  have hvalue := (hereditary_allKeys P).valueOf hmap "query"
  unfold query
  split
  · split_ifs
    · have hsub : (Shape.structuredKeys.filterMap fun k => (output.get? k).map fun v => (k, v))
          ⊆ output := by
        intro e he
        obtain ⟨k, -, hk⟩ := List.mem_filterMap.mp he
        obtain ⟨v, hv, rfl⟩ := Option.map_eq_some_iff.mp hk
        exact Fields.mem_of_get? hv
      rw [allKeys_map]
      exact fun k hk => h k (entryKeys_subset hsub hk)
    · exact List.forall_mem_nil _
  · exact hvalue

/-- The pipeline in an output has the keys of the output, and `$match` around a bare filter. -/
theorem forall_allKeys_pipeline (hm : P "$match") (h : ∀ k ∈ entryKeys output, P k) :
    ∀ k ∈ (pipeline output).allKeys, P k := by
  have hmap : ∀ k ∈ (Value.map output).allKeys, P k := by rwa [allKeys_map]
  have hvalue := (hereditary_allKeys P).valueOf hmap "pipeline"
  unfold pipeline
  split
  · split
    · rename_i fs hq
      have hfs : ∀ k ∈ (Value.map fs).allKeys, P k := by
        rw [← hq]
        exact forall_allKeys_query h
      have hfilter : ∀ k ∈ (if Shape.isStructured fs then Shape.valueOf fs "filter"
          else Value.map fs).allKeys, P k := by
        split_ifs
        · exact (hereditary_allKeys P).valueOf hfs "filter"
        · exact hfs
      simpa [matchStage, hm] using hfilter
    · exact List.forall_mem_nil _
  · exact hvalue

end ModelOutput

end QueryWarden
