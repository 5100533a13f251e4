import QueryWarden.Proofs.Query.NamedKeys
import QueryWarden.Proofs.Service.Generate
import QueryWarden.Proofs.Service.Keys

/-!
# Which generated queries hold a blocked operator

The object in a reply is checked before it is shaped, and shaping makes keys of the names in a
projection that is a list and in a sort that is a text or a list.  The check does not see these names,
so a generated query holds a blocked key exactly when one of them is blocked
(`generate_holds_blocked_key_iff`).  All other keys of a generated query are free of blocked ones,
through re-casing and sanitation.
-/

namespace QueryWarden

namespace QuerySpec

/-- Whether the keys of a query are the names, up to case, and otherwise keys with the property. -/
def KeysMadeOf (P : String → Prop) (names : List String) (q : QuerySpec) : Prop :=
  (∀ k ∈ q.conditions.allKeys, P k) ∧
    match q with
    | .find s => ∃ ps ss, names = ps ++ ss ∧ MadeOf P ps s.projection ∧ MadeOf P ss s.sort
    | .aggregate _ => names = []

variable {P : String → Prop} {names : List String}

theorem KeysMadeOf.forall_keys_iff (hP : CaseMap.RespectsCase P) {q : QuerySpec}
    (h : q.KeysMadeOf P names) : (∀ k ∈ q.keys, P k) ↔ ∀ name ∈ names, P name := by
  unfold keys
  rw [List.forall_mem_append]
  cases q with
  | find s =>
    obtain ⟨hc, ps, ss, rfl, hp, hs⟩ := h
    unfold arrangement
    rw [Value.itemKeys_cons, Value.itemKeys_cons, Value.itemKeys_nil, List.append_nil,
      List.forall_mem_append, List.forall_mem_append, hp.forall_allKeys_iff hP,
      hs.forall_allKeys_iff hP]
    exact and_iff_right hc
  | aggregate s =>
    obtain ⟨hc, rfl⟩ := h
    exact ⟨fun _ => List.forall_mem_nil _, fun _ => ⟨hc, List.forall_mem_nil _⟩⟩

theorem KeysMadeOf.recase {m : CaseMap} (hm : m.IsFolded) (hP : CaseMap.RespectsCase P)
    {q : QuerySpec} (h : q.KeysMadeOf P names) : (q.recase m).KeysMadeOf P names := by
  unfold QuerySpec.recase
  split_ifs
  · exact h
  · cases q with
    | find s =>
      obtain ⟨hc, ps, ss, hn, hp, hs⟩ := h
      refine ⟨?_, ps, ss, hn, hp.recase hm hP, hs.recase hm hP⟩
      rw [conditions, Value.allKeys_map] at hc ⊢
      exact CaseMap.forall_entryKeys_recaseFields hm hP hc
    | aggregate s =>
      refine ⟨forall_allKeys_stagesValue.mpr (List.forall_mem_map.mpr fun stage hs => ?_), h.2⟩
      exact CaseMap.forall_entryKeys_recaseFields hm hP (forall_allKeys_stagesValue.mp h.1 stage hs)

theorem KeysMadeOf.sanitized {q : QuerySpec} (h : q.KeysMadeOf P names) :
    q.sanitized.1.KeysMadeOf P names := by
  refine ⟨fun k hk => h.1 k ?_, ?_⟩
  · rw [conditions_sanitized, sanitized_snd] at hk
    exact Sanitation.allKeys_clean_subset _ _ hk
  · cases q with
    | find s => exact h.2
    | aggregate s => exact h.2

section Build

variable {author : Author} {policy : LimitPolicy} {limit : Value} {spec : QuerySpec}

theorem keysMadeOf_of_buildAggregate {pipeline : Value}
    (h : buildAggregate author policy pipeline limit = .ok spec)
    (hp : ∀ k ∈ pipeline.allKeys, P k) : spec.KeysMadeOf P [] := by
  obtain ⟨s, rfl, hs⟩ := stagesValue_of_buildAggregate h
  exact ⟨by rwa [conditions, hs], rfl⟩

theorem keysMadeOf_of_buildFind {query : Value} {outer fs : Fields}
    (h : buildFind author policy query outer limit = .ok spec)
    (hfs : Shape.queryFields author query = .ok fs) (hq : ∀ k ∈ query.allKeys, P k)
    (ho : ∀ k ∈ Value.entryKeys outer, P k) :
    spec.KeysMadeOf P
      (Shape.projectionNames (Shape.rawFind fs outer .null).projection ++
        Shape.sortNames (Shape.rawFind fs outer .null).sort) := by
  have hP := hereditary_allKeys P
  have houter : ∀ k ∈ (Value.map outer).allKeys, P k := by rwa [Value.allKeys_map]
  obtain ⟨hf, hp, hs⟩ := hP.rawFind (hP.queryFields hq hfs) houter limit
  obtain ⟨fs', filter, n, hfs', hfilter, -, rfl⟩ := buildFind_eq_ok.mp h
  obtain rfl := Except.ok.inj (hfs.symm.trans hfs')
  -- The limit around a query says nothing about its other parts.
  have hlimit : (Shape.rawFind fs outer limit).projection = (Shape.rawFind fs outer .null).projection ∧
      (Shape.rawFind fs outer limit).sort = (Shape.rawFind fs outer .null).sort := by
    unfold Shape.rawFind
    split_ifs <;> exact ⟨rfl, rfl⟩
  rw [← hlimit.1, ← hlimit.2]
  refine ⟨?_, _, _, rfl, madeOf_projection? hp, madeOf_sort? hs⟩
  rcases Shape.filterFields_eq_ok hfilter with he | ⟨-, rfl⟩
  · rwa [conditions, ← he]
  · exact List.forall_mem_nil _

end Build

/-- The keys of the query in an output are those of the output, `$match`, and the names in it. -/
theorem keysMadeOf_ofModelOutput {policy : LimitPolicy} {mode : String} {output : Fields}
    {spec : QuerySpec} (h : ofModelOutput policy mode output = .ok spec) (hm : P "$match")
    (ho : ∀ k ∈ Value.entryKeys output, P k) :
    spec.KeysMadeOf P (ModelOutput.names mode output) := by
  unfold ofModelOutput at h
  unfold ModelOutput.names
  dsimp only at h
  split_ifs at h ⊢ with hmode
  · split at h
    · simp at h
    · exact keysMadeOf_of_buildAggregate h (ModelOutput.forall_allKeys_pipeline hm ho)
  · have hmap : ∀ k ∈ (Value.map output).allKeys, P k := by rwa [Value.allKeys_map]
    split at h
    · simp at h
    · rename_i hq _
      rw [hq]
      exact keysMadeOf_of_buildAggregate h ((hereditary_allKeys P).valueOf hmap "pipeline")
    · obtain ⟨fs, _, _, hfs, -, -, -⟩ := buildFind_eq_ok.mp h
      rw [hfs]
      exact keysMadeOf_of_buildFind h hfs (ModelOutput.forall_allKeys_query ho) ho

end QuerySpec

namespace Service

/-- A generated query holds a blocked key exactly when a name in the output of the model is blocked
that shaping makes a key of: its conditions never hold one, and all keys of its projection and its
sort but these names were checked. -/
theorem generate_holds_blocked_key_iff (s : Service) (i : Instruction) (g : Generated)
    (hm : ¬ s.settings.Blocks "$match") (hg : (s.generate i).outcome = .ok g) :
    ∃ mode output, i.mode = some mode ∧ Reply.object g.raw = .ok output ∧
      (∀ k ∈ g.spec.conditions.allKeys, ¬ s.settings.Blocks k) ∧
      ((∃ k ∈ g.spec.keys, s.settings.Blocks k) ↔
        ∃ name ∈ ModelOutput.names mode output, s.settings.Blocks name) := by
  obtain ⟨mode, hmode, hreply⟩ := specOfReply_of_generate hg
  obtain ⟨output, q, hobject, hcheck, hq, hclean⟩ := specOfReply_eq_ok.mp hreply
  have hfree := Reply.isTupleFree_of_object hobject
  have hout : ∀ k ∈ Value.entryKeys output, ¬ s.settings.Blocks k := by
    have hkeys := (Settings.check_denyList_eq_ok_iff hfree).mp hcheck
    rwa [Value.allKeys_map] at hkeys
  have hcase : CaseMap.RespectsCase fun k => ¬ s.settings.Blocks k := by
    intro k l hkl hk
    rw [← Settings.denies_denyList_eq_false] at hk ⊢
    rw [DenyList.denies_congr _ hkl, hk]
  have hmade := (QuerySpec.keysMadeOf_ofModelOutput hq hm hout).recase
    (CaseMap.isFolded_ofPaths g.fields) hcase
  have hspec := hmade.sanitized
  rw [(QuerySpec.sanitize_eq_ok.mp hclean).1] at hspec
  refine ⟨mode, output, hmode, hobject, hspec.1, ?_⟩
  have hiff := not_congr (hspec.forall_keys_iff hcase)
  push Not at hiff
  exact hiff

/-- A sort that is a text with a blocked name makes a blocked key. -/
theorem generate_holds_blocked_key_of_sort :
    ∃ k ∈ (QuerySpec.find ⟨[("a", .int 1)], none, some [("$Out", .int 1)], .ofInt 50⟩).keys,
      (bare "").settings.Blocks k := by
  let reply := "\x7b\"query\": \x7b\"a\": 1\x7d, \"sort\": \"$Out\"\x7d"
  obtain ⟨mode, output, hmode, hobject, -, hiff⟩ := generate_holds_blocked_key_iff (bare reply)
    { natural := some "list all", mode := some "find" }
    ⟨.find ⟨[("a", .int 1)], none, some [("$Out", .int 1)], .ofInt 50⟩, [], .string reply⟩
    (by decide +kernel) (by decide +kernel)
  have hread : Reply.object (.string reply) =
      .ok [("query", .map [("a", .int 1)]), ("sort", .string "$Out")] := by decide +kernel
  obtain rfl := Except.ok.inj (hread.symm.trans hobject)
  obtain rfl := Option.some.inj hmode
  exact hiff.mpr ⟨"$Out", by decide +kernel, by decide +kernel⟩

/-- Generated queries are not free of blocked operators, although the object in the reply is: a
projection that is a list with a blocked name makes a blocked key. -/
theorem generate_passes_blocked_projection :
    ¬ ∀ (s : Service) (i : Instruction) (g : Generated), ¬ s.settings.Blocks "$match" →
      (s.generate i).outcome = .ok g → ∀ k ∈ g.spec.keys, ¬ s.settings.Blocks k := by
  intro h
  let reply := "\x7b\"query\": \x7b\"a\": 1\x7d, \"projection\": [\"$where\"]\x7d"
  refine h (bare reply) { natural := some "list all", mode := some "find" }
    ⟨.find ⟨[("a", .int 1)], some [("$where", .int 1)], none, .ofInt 50⟩, [], .string reply⟩
    ?_ ?_ "$where" ?_ ?_
  · decide +kernel
  · decide +kernel
  · decide +kernel
  · decide +kernel

end Service

end QueryWarden
