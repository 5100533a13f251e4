import QueryWarden.Proofs.ExtendedJson.Decode
import QueryWarden.Proofs.Query.Shape
import QueryWarden.Proofs.Service.Keys
import QueryWarden.Proofs.Service.Run

/-!
# No blocked operator is executed

The query that a request asks for is checked in all of its parts.  Fuzzy matching, sanitation,
decoding and the limit at the end of a pipeline come after the check; the keys that they add are
`$regex`, `$options` and `$limit` (`forall_keys_callOf`, `QuerySpec.forall_keys_ready`), so where
these are not blocked, no blocked key is executed.

The check does not look into tuples.  No JSON text has one, and a request without tuples asks for a
query without them (`isTupleFree_of_asked`).
-/

namespace QueryWarden

/-- The keys of all mappings that a call passes to the database, with the names of its sort. -/
def Call.keys : Call → List String
  | .find filter options =>
    filter.allKeys ++ ((options.projection.map Value.allKeys).getD [] ++
      (options.sort.map Value.entryKeys).getD [])
  | .aggregate stages => stages.allKeys
  | _ => []

theorem Call.keys_eq_nil {call : Call} (h : call.isExecution = false) : call.keys = [] := by
  cases call with
  | find | aggregate => exact Bool.noConfusion h
  | openCollection | listCollections | cut | generate => rfl

namespace Execution

variable {policy : LimitPolicy} {ignoreCase : Bool}

theorem bind_nonempty?_cases (p : Option Fields) :
    p.bind Shape.nonempty? = none ∨ p.bind Shape.nonempty? = p := by
  cases p with
  | none => exact .inl rfl
  | some fs =>
    cases fs with
    | nil => exact .inl rfl
    | cons e es => exact .inr rfl

/-- What is made of a part of a query that is not empty has no key that the part does not have. -/
theorem keys_of_part_subset (p : Option Fields) {f : Fields → List String}
    (hf : ∀ fs, f fs ⊆ Value.entryKeys fs) :
    ((p.bind Shape.nonempty?).map f).getD [] ⊆ (QuerySpec.partValue p).allKeys := by
  rcases bind_nonempty?_cases p with h | h
  · rw [h]
    exact List.nil_subset _
  · rw [h]
    cases p with
    | none => exact List.nil_subset _
    | some fs =>
      rw [QuerySpec.partValue, Value.allKeys_map]
      exact hf fs

/-- The options of a find pass on no key that its projection and its sort do not have. -/
theorem keys_findOptions_subset (s : FindSpec) (limit : Int) :
    ((findOptions s limit ignoreCase).projection.map Value.allKeys).getD [] ++
        ((findOptions s limit ignoreCase).sort.map Value.entryKeys).getD []
      ⊆ Value.itemKeys (QuerySpec.find s).arrangement := by
  have hp : ((findOptions s limit ignoreCase).projection.map Value.allKeys).getD []
      ⊆ (QuerySpec.partValue s.projection).allKeys := by
    unfold findOptions
    rw [Option.map_map]
    refine keys_of_part_subset s.projection fun fs => ?_
    have hd := ExtendedJson.allKeys_decode_subset (.map fs)
    rwa [Value.allKeys_map] at hd
  have hs : ((findOptions s limit ignoreCase).sort.map Value.entryKeys).getD []
      ⊆ (QuerySpec.partValue s.sort).allKeys :=
    keys_of_part_subset s.sort fun fs => List.Subset.refl _
  unfold QuerySpec.arrangement
  rw [Value.itemKeys_cons, Value.itemKeys_cons, Value.itemKeys_nil, List.append_nil]
  exact Value.append_subset_append hp hs

/-- An executed call passes on the keys of its query and the limit of a pipeline. -/
theorem forall_keys_callOf {P : String → Prop} (hl : P "$limit") {q : QuerySpec}
    (h : ∀ k ∈ q.keys, P k) : ∀ k ∈ (callOf policy ignoreCase q).keys, P k := by
  rw [QuerySpec.keys, List.forall_mem_append] at h
  cases q with
  | find s =>
    intro k hk
    rcases List.mem_append.mp hk with hk | hk
    · exact h.1 k (ExtendedJson.allKeys_decode_subset _ hk)
    · exact h.2 k (keys_findOptions_subset s _ hk)
  | aggregate s =>
    intro k hk
    have hd := ExtendedJson.allKeys_decode_subset _ hk
    rw [Value.allKeys_list, capStages, Value.itemKeys_append] at hd
    rcases List.mem_append.mp hd with hd | hd
    · exact h.1 k hd
    · have hk : k = "$limit" := by simpa [limitStage, Value.allKeys] using hd
      rwa [hk]

end Execution

namespace Service

variable {s : Service} {r : RunRequest}

theorem isTupleFree_partValue {p : Option Fields}
    (h : ∀ fs, p = some fs → ∀ e ∈ fs, e.2.isTupleFree = true) :
    (QuerySpec.partValue p).isTupleFree = true := by
  cases p with
  | none => rfl
  | some fs => exact Value.isTupleFree_map.mpr (h fs rfl)

theorem isTupleFree_of_asked {q : QuerySpec} (h : s.asked r = .ok q)
    (hq : r.query.isTupleFree = true) (hp : r.pipeline.isTupleFree = true) : q.isTupleFree := by
  rcases QuerySpec.ofRunRequest_eq_ok h with ⟨-, hf⟩ | ha
  · obtain ⟨f, rfl, hfilter, hproj, hsort⟩ := hereditary_isTupleFree.buildFind hf hq rfl
    refine ⟨hfilter, List.forall_mem_cons.mpr ⟨isTupleFree_partValue hproj, ?_⟩⟩
    exact List.forall_mem_singleton.mpr (isTupleFree_partValue hsort)
  · obtain ⟨a, rfl, hstages⟩ := stagesValue_of_buildAggregate ha
    refine ⟨?_, List.forall_mem_nil _⟩
    rw [QuerySpec.conditions, hstages]
    exact hp

/-- No blocked operator is executed, at whatever depth of a request it stands: where the operators
that the service adds itself are not blocked, no key that a run passes to the database is, and a
request that asks for a query with a blocked key is refused before any call. -/
theorem run_passes_no_blocked_key (s : Service) (r : RunRequest)
    (hb : ∀ op ∈ ["$limit", "$regex", "$options"], ¬ s.settings.Blocks op)
    (hq : r.query.isTupleFree = true) (hp : r.pipeline.isTupleFree = true) :
    (∀ call ∈ (s.run r).calls, ∀ k ∈ call.keys, ¬ s.settings.Blocks k) ∧
    (∀ name q, trimmed? r.collection = some name → s.asked r = .ok q →
      (∃ k ∈ q.keys, s.settings.Blocks k) →
      (s.run r).calls = [] ∧
        ∃ f, (s.run r).outcome = .error (.failure f) ∧ f.kind = .dangerousOperator) := by
  simp only [List.forall_mem_cons] at hb
  obtain ⟨hlimit, hregex, hoptions, -⟩ := hb
  refine ⟨?_, ?_⟩
  · intro call hcall
    by_cases hx : call.isExecution = true
    · obtain ⟨spec, hspec, rfl⟩ := exists_spec_of_mem_calls_run hcall hx
      obtain ⟨q, hasked, hcheck, hclean⟩ := specOfRequest_eq_ok.mp hspec
      have hfree := isTupleFree_of_asked hasked hq hp
      have hkeys := (QuerySpec.check_eq_ok_iff hfree).mp hcheck
      have hready := QuerySpec.forall_keys_ready ⟨hregex, hoptions⟩ r.fuzzy hkeys
      rw [← (QuerySpec.sanitize_eq_ok.mp hclean).1]
      exact Execution.forall_keys_callOf hlimit fun k hk =>
        hready k (QuerySpec.keys_sanitized_subset _ hk)
    · rw [Call.keys_eq_nil (Bool.eq_false_iff.mpr hx)]
      exact List.forall_mem_nil _
  · rintro name q hn hasked ⟨k, hk, hblocked⟩
    have hfree := isTupleFree_of_asked hasked hq hp
    rcases QuerySpec.check_eq_ok_or s.settings.denyList q with hcheck | ⟨l, hcheck⟩
    · exact absurd hblocked ((QuerySpec.check_eq_ok_iff hfree).mp hcheck k hk)
    · rw [run_of_check_error hn hasked hcheck]
      exact ⟨rfl, _, rfl, rfl⟩

/-- The default settings block none of the operators that the service adds; a fuzzy find runs under
them, and a filter that holds `$where` in a list is refused. -/
theorem run_passes_no_blocked_key_bare :
    (let r : RunRequest :=
      { collection := some "users", query := .map [("name", .string "ada")], fuzzy := true }
    ((bare "").run r).calls.any Call.isExecution = true ∧
      ∀ call ∈ ((bare "").run r).calls, ∀ k ∈ call.keys, ¬ (bare "").settings.Blocks k) ∧
    (let r : RunRequest :=
      { collection := some "users"
        query := .map [("$or", .list [.map [(" $Where", .string "true")]])] }
    ((bare "").run r).calls = [] ∧
      ∃ f, ((bare "").run r).outcome = .error (.failure f) ∧ f.kind = .dangerousOperator) := by
  refine ⟨⟨by decide +kernel, (run_passes_no_blocked_key (bare "") _ (by decide +kernel) rfl rfl).1⟩,
    (run_passes_no_blocked_key (bare "") _ (by decide +kernel) rfl rfl).2 "users"
      (.find ⟨[("$or", .list [.map [(" $Where", .string "true")]])], none, none, .ofInt 100⟩)
      ?_ ?_ ⟨" $Where", ?_, ?_⟩⟩
  · decide +kernel
  · decide +kernel
  · decide +kernel
  · decide +kernel

end Service

end QueryWarden
