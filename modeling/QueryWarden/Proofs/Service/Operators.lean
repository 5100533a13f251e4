import QueryWarden.Proofs.Schema.FieldPaths
import QueryWarden.Proofs.Schema.Operators
import QueryWarden.Proofs.Service.Keys
import QueryWarden.Proofs.Service.WellFormed

/-!
# The operators of a generated query

A generated query is re-cased by the sampled paths of its collection before it is sanitized.  This
keeps the operators of a query exactly when no mapping of the query mistakes one for a path, and those
of all queries exactly when no sampled path is another spelling of an operator (`keeps_operators_iff`).
-/

namespace QueryWarden.QuerySpec

open Value CaseMap

/-- The conditions, the projection and the sort of a query as one tree. -/
def tree (q : QuerySpec) : Value :=
  .list (q.conditions :: q.arrangement)

theorem recaseTree_partValue (m : CaseMap) (part : Option Fields) :
    m.recaseTree (partValue part) = partValue (part.map m.recaseFields) := by
  cases part with
  | none => exact recaseTree_of_isLeaf rfl
  | some fs => exact recaseTree_map m fs

theorem recaseTree_stagesValue (m : CaseMap) (stages : List Fields) :
    m.recaseTree (stagesValue stages) = stagesValue (stages.map m.recaseFields) := by
  rw [stagesValue, stagesValue, recaseTree_list, List.map_map, List.map_map]
  exact congrArg Value.list (List.map_congr_left fun stage _ => recaseTree_map m stage)

theorem tree_recase (m : CaseMap) (q : QuerySpec) : (q.recase m).tree = m.recase q.tree := by
  unfold QuerySpec.recase CaseMap.recase
  split_ifs
  · rfl
  · cases q with
    | find s =>
      simp only [tree, conditions, arrangement, recaseTree_list, List.map_cons, List.map_nil,
        recaseTree_partValue, recaseTree_map]
    | aggregate s =>
      simp only [tree, conditions, arrangement, recaseTree_list, List.map_cons, List.map_nil,
        recaseTree_stagesValue]

theorem isJson_partValue {part : Option Fields} (h : ∀ fs ∈ part, (map fs).IsJson) :
    (partValue part).IsJson := by
  cases part with
  | none => rfl
  | some fs => exact h fs rfl

theorem IsWellFormed.isJson_tree {policy : LimitPolicy} {q : QuerySpec}
    (h : q.IsWellFormed policy) : q.tree.IsJson := by
  refine isTree_list.mpr (List.forall_mem_cons.mpr ?_)
  cases q with
  | find s =>
    refine ⟨h.filter, List.forall_mem_cons.mpr ⟨?_, List.forall_mem_singleton.mpr ?_⟩⟩
    · exact isJson_partValue fun fs hfs => (h.projection fs hfs).2
    · exact isJson_partValue fun fs hfs => (h.sort fs hfs).2.1
  | aggregate s =>
    refine ⟨isTree_list.mpr (List.forall_mem_map.mpr fun stage hs => (h.stages stage hs).2), ?_⟩
    exact List.forall_mem_nil _

theorem respells_of_ofModelOutput (settings : Settings) (paths : List String) {mode : String}
    {output : Fields} {spec : QuerySpec} (houtput : (map output).IsJson)
    (h : ofModelOutput settings.limits mode output = .ok spec) :
    Respells paths spec.tree (spec.recase (.ofPaths paths)).tree := by
  rw [tree_recase]
  have hgreatest : 1 ≤ settings.limits.greatest := settings.maxLimit.one_le
  rcases builtOrRefused_ofModelOutput hgreatest mode houtput with
    ⟨spec', hspec, hwf⟩ | ⟨f, hf, -⟩
  · obtain rfl := Except.ok.inj (h.symm.trans hspec)
    exact respells_recase paths hwf.isJson_tree
  · exact absurd (h.symm.trans hf) nofun

/-- The output of a model that asks for one stage. -/
def stageOutput (stage : Fields) : Fields :=
  [("pipeline", .list [.map stage])]

theorem isJson_stageOutput (k : String) : (map (stageOutput [(k, .int 1)])).IsJson := by
  refine isTree_map.mpr ⟨List.nodup_singleton _, List.forall_mem_singleton.mpr ?_⟩
  refine isTree_list.mpr (List.forall_mem_singleton.mpr ?_)
  exact isTree_map.mpr ⟨List.nodup_singleton _, List.forall_mem_singleton.mpr rfl⟩

theorem exists_ofModelOutput_stage (settings : Settings) {stage : Fields} (h : stage ≠ []) :
    ∃ n, ofModelOutput settings.limits aggregateMode (stageOutput stage) =
      .ok (.aggregate ⟨[stage], n⟩) := by
  have hone : 1 ≤ settings.limits.clamp (.int settings.limits.default) :=
    LimitPolicy.one_le_clamp settings.maxLimit.one_le _
  refine ⟨⟨_, hone⟩, ?_⟩
  show buildAggregate .model settings.limits (.list ([stage].map .map))
    (.int settings.limits.default) = _
  refine buildAggregate_eq_ok.mpr ⟨[stage], _, ?_, rfl, rfl⟩
  exact Shape.stages_of_nonempty _ (List.forall_mem_singleton.mpr h)

/-- **When re-casing keeps operators.**  For every collection and every query in the output of a
model, re-casing by the sampled paths of the collection keeps all operators of the query, at every
depth, exactly when no mapping of the query has an operator that stands for a path which is no key of
the mapping; then the sanitizer meets the same operators and the same unusable clauses as before.
All queries keep their operators exactly when each sampled path that has the name of an operator is
the only text with its lower case. -/
theorem keeps_operators_iff (settings : Settings) (docs : List Value) (cap : Int) :
    let paths := Schema.fieldPaths (Schema.sampleOf docs cap)
    (Schema.samplePaths { docs := docs } (.ofInt cap)).outcome = .ok paths ∧
    (∀ mode output spec, (map output).IsJson →
      ofModelOutput settings.limits mode output = .ok spec →
        (KeepsOperators spec.tree (spec.recase (.ofPaths paths)).tree ↔
          ∀ path (fs : Fields), spec.tree.at? path = some (.map fs) → ¬ Mistakes paths fs.keys) ∧
        (KeepsOperators spec.tree (spec.recase (.ofPaths paths)).tree →
          ∀ path (fs : Fields), spec.tree.at? path = some (.map fs) →
            ∃ gs : Fields, (spec.recase (.ofPaths paths)).tree.at? path = some (.map gs) ∧
              Alike fs gs)) ∧
    ((∀ mode output spec, (map output).IsJson →
        ofModelOutput settings.limits mode output = .ok spec →
          KeepsOperators spec.tree (spec.recase (.ofPaths paths)).tree) ↔
      LeavesOperators paths) := by
  intro paths
  have hrespells {mode output spec} (houtput : (map output).IsJson)
      (h : ofModelOutput settings.limits mode output = .ok spec) :
      Respells paths spec.tree (spec.recase (.ofPaths paths)).tree :=
    respells_of_ofModelOutput settings paths houtput h
  refine ⟨Schema.outcome_samplePaths docs cap, fun mode output spec houtput h => ⟨?_, ?_⟩, ?_⟩
  · exact keepsOperators_iff (hrespells houtput h)
  · exact fun hkeeps path fs hfs => alike_of_keepsOperators (hrespells houtput h) hkeeps hfs
  · constructor
    · intro hall
      by_contra hpaths
      obtain ⟨k, hk⟩ := exists_mistaken hpaths
      have houtput : (map (stageOutput [(k, .int 1)])).IsJson := isJson_stageOutput k
      obtain ⟨n, hn⟩ := exists_ofModelOutput_stage settings (List.cons_ne_nil (k, .int 1) [])
      have hkeeps := hall _ _ _ houtput hn
      exact (keepsOperators_iff (hrespells houtput hn)).mp hkeeps [0, 0] _ rfl hk
    · intro hpaths mode output spec houtput h
      exact (keepsOperators_iff (hrespells houtput h)).mpr fun _ _ _ => not_mistakes hpaths _

/-- A field is re-cased while the operator below it is kept, and the clause stays unusable. -/
theorem keeps_operators_iff_name :
    let docs : List Value := [.map [("name", .string "Jens")]]
    let output : Fields := [("query", .map [("NAME", .map [("$regex", .string " ")])])]
    ∃ spec, (map output).IsJson ∧ ofModelOutput ({} : Settings).limits findMode output = .ok spec ∧
      LeavesOperators (Schema.fieldPaths (Schema.sampleOf docs 50)) ∧
      KeepsOperators spec.tree (spec.recase (.ofPaths ["name"])).tree ∧
      ∃ gs : Fields, (spec.recase (.ofPaths ["name"])).tree.at? [0, 0] = some (.map gs) ∧
        Alike [("$regex", .string " ")] gs := by
  intro docs output
  obtain ⟨-, hquery, hall⟩ := keeps_operators_iff {} docs 50
  have hpaths : Schema.fieldPaths (Schema.sampleOf docs 50) = ["name"] := by decide +kernel
  have hleaves : LeavesOperators (Schema.fieldPaths (Schema.sampleOf docs 50)) := by
    intro p hp hop
    rw [hpaths, List.mem_singleton] at hp
    rw [hp] at hop
    exact absurd hop (by decide)
  have houtput : (map output).IsJson := by decide +kernel
  have hspec : ofModelOutput ({} : Settings).limits findMode output =
      .ok (.find ⟨[("NAME", .map [("$regex", .string " ")])], none, none, .ofInt 50⟩) := by
    decide +kernel
  have hkeeps := hall.mpr hleaves findMode output _ houtput hspec
  have halike := (hquery findMode output _ houtput hspec).2 hkeeps [0, 0] _ rfl
  rw [hpaths] at hkeeps halike
  exact ⟨_, houtput, hspec, hleaves, hkeeps, halike⟩

/-- A stored field takes the operator of a clause for itself.  The clause is no clause afterwards,
and sanitation keeps what it would have removed. -/
theorem recase_mistakes_operator :
    let docs : List Value := [.map [("$REGEX", .int 1)]]
    let output : Fields :=
      [("query", .map [("name", .map [("$regex", .string " ")]), ("age", .int 30)])]
    let spec : QuerySpec := .find ⟨[("name", .map [("$regex", .string " ")]), ("age", .int 30)],
      none, none, .ofInt 50⟩
    let after := spec.recase (.ofPaths (Schema.fieldPaths (Schema.sampleOf docs 50)))
    ofModelOutput ({} : Settings).limits findMode output = .ok spec ∧
      ¬ KeepsOperators spec.tree after.tree ∧
      spec.sanitize = .ok (.find ⟨[("age", .int 30)], none, none, .ofInt 50⟩) ∧
      after.sanitize = .ok (.find ⟨[("name", .map [("$REGEX", .string " ")]), ("age", .int 30)],
        none, none, .ofInt 50⟩) := by
  intro docs output spec after
  refine ⟨by decide +kernel, fun hkeeps => ?_, by decide +kernel, by decide +kernel⟩
  obtain ⟨gs, hgs, hkept⟩ := hkeeps [0, 0] [("$regex", .string " ")] rfl
  have hafter : after.tree.at? [0, 0] = some (.map [("$REGEX", .string " ")]) := by decide +kernel
  obtain rfl := Value.map.inj (Option.some.inj (hafter.symm.trans hgs))
  exact absurd (hkept 0 "$regex" rfl rfl) (by decide)

end QueryWarden.QuerySpec
