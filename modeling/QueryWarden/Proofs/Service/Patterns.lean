import QueryWarden.Proofs.ExtendedJson.Places
import QueryWarden.Proofs.Query.Trees
import QueryWarden.Proofs.Service.Run
import QueryWarden.Proofs.Text.Trim

/-!
# No blank pattern is executed

A blank pattern matches every text.  Sanitation drops the pattern clauses that hold one, and
decoding turns the others into patterns.

1. In a clean tree every pattern clause below the root is usable, so its pattern is a text that is
   not blank and the clause has a tag: `exists_textUnder?_of_mayStay`.
2. Hence a decoded clean tree has no blank pattern strictly inside (`not_blank_of_decode`) and no
   pattern clause there but in what is unread (`exists_unread_of_decode`).
3. The conditions that a run passes to the database are a decoded clean tree:
   `run_passes_no_blank_pattern`.
-/

namespace QueryWarden

open Value

def Native.isBlankPattern : Native → Bool
  | .regex x => Text.isBlankText x.pattern
  | _ => false

/-- Whether a value is a tree of JSON, native leaves allowed except blank patterns. -/
abbrev Value.isBlankFree (v : Value) : Bool :=
  v.isTree fun n => !n.isBlankPattern

namespace ExtendedJson

variable {p : Native → Bool} {v : Value} {path : List Nat}

theorem pattern_of_firstTag? {fs : Fields} {x : Regex}
    (h : firstTag? fs = some (some (.native (.regex x)))) :
    textUnder? fs "$regex" = some x.pattern := by
  obtain ⟨t, -, ht⟩ := List.exists_of_findSome?_eq_some h
  cases t <;> simp only [Tag.read?, Option.map_eq_some_iff, Option.some.injEq] at ht
  case objectId | date =>
    obtain ⟨_, _, _, _, he⟩ := ht
    simp at he
  case numberLong | numberDecimal =>
    obtain ⟨_, _, he⟩ := ht
    simp at he
  case regex =>
    obtain ⟨s, hs, he⟩ := ht
    rw [← Native.regex.inj (Value.native.inj he)]
    exact hs

theorem firstTag?_ne_none {fs : Fields} {s : String} (h : textUnder? fs "$regex" = some s) :
    firstTag? fs ≠ none := by
  intro hn
  have hr := List.findSome?_eq_none_iff.mp hn .regex (by simp [Tag.all])
  simp [Tag.read?, h] at hr

/-- A pattern clause that may stay holds a pattern that is a text and not blank. -/
theorem exists_textUnder?_of_mayStay {fs : Fields} (h : Sanitation.MayStay (.map fs))
    (hc : "$regex" ∈ fs.keys ∨ "$options" ∈ fs.keys) :
    ∃ s, textUnder? fs "$regex" = some s ∧ Text.isBlankText s = false := by
  have hclause : Pattern.isClauseFields fs = true := by
    rw [Sanitation.isClauseFields_iff, Fields.has_iff_mem_keys, Fields.has_iff_mem_keys]
    exact hc
  obtain ⟨s, hs, hblank⟩ := Sanitation.isUsableFields_iff.mp
    (Sanitation.isUnusableClause_map_eq_false.mp h.1 hclause)
  refine ⟨s, ?_, hblank⟩
  unfold textUnder?
  rw [hs]
  rfl

/-- A decoded clean tree has no blank pattern strictly inside. -/
theorem not_blank_of_decode (ht : v.isBlankFree = true) (hv : Sanitation.IsClean v) {x : Regex}
    (hpath : path ≠ []) (hx : (decode v).at? path = some (.native (.regex x))) :
    Text.isBlankText x.pattern = false := by
  rcases native_at?_decode ht hx with h | ⟨fs, hfs, hfirst⟩
  · have hn : (!Native.isBlankPattern (.regex x)) = true := isTree_of_at? ht h
    simpa [Native.isBlankPattern] using hn
  · have hpattern := pattern_of_firstTag? hfirst
    obtain ⟨raw, hraw, -⟩ := Option.bind_eq_some_iff.mp hpattern
    obtain ⟨s, hs, hblank⟩ := exists_textUnder?_of_mayStay
      (Sanitation.mayStay_of_at? ht hv hpath hfs) (.inl (Fields.mem_keys_of_get? hraw))
    rw [hpattern] at hs
    rwa [Option.some.inj hs]

/-- A pattern clause strictly inside a decoded clean tree is an unread mapping or inside of one. -/
theorem exists_unread_of_decode (ht : v.isTree p = true) (hv : Sanitation.IsClean v) {fs : Fields}
    (hpath : path ≠ []) (hfs : (decode v).at? path = some (.map fs))
    (hc : "$regex" ∈ fs.keys ∨ "$options" ∈ fs.keys) :
    ∃ front gs, front <+: path ∧ v.at? front = some (.map gs) ∧ IsUnread gs ∧
      (decode v).at? front = some (.map gs) := by
  rcases at?_decode ht hfs with ⟨u, hu, hdecode⟩ | h
  · obtain ⟨es, rfl, -⟩ := exists_map_of_decode hdecode
    rw [keys_of_decode hdecode] at hc
    obtain ⟨s, hs, -⟩ := exists_textUnder?_of_mayStay
      (Sanitation.mayStay_of_at? ht hv hpath hu) hc
    -- The pattern is a payload, so the first tag either converts or leaves the mapping unread.
    cases h : firstTag? es with
    | none => exact absurd h (firstTag?_ne_none hs)
    | some x =>
      cases x with
      | none =>
        obtain rfl : es = fs := Value.map.inj ((decode_map_of_not_converts h).symm.trans hdecode)
        exact ⟨path, es, List.prefix_rfl, hu, isUnread_iff.mpr h, hfs⟩
      | some w =>
        have hn := isNativeOrText_of_firstTag? h
        rw [← decode_map_of_converts h, hdecode] at hn
        exact Bool.noConfusion hn
  · exact h

end ExtendedJson

namespace Execution

variable {policy : LimitPolicy} {ignoreCase : Bool} {q : QuerySpec}

/-- The conditions of a query as they are decoded, a pipeline with its limit at the end. -/
def undecoded (policy : LimitPolicy) : QuerySpec → Value
  | .find s => .map s.filter
  | .aggregate s => .list (capStages (s.stages.map .map) (policy.clamp (.int s.limit.value)))

theorem conditions_callOf :
    (callOf policy ignoreCase q).conditions = ExtendedJson.decode (undecoded policy q) := by
  cases q <;> rfl

theorem isTree_undecoded {p : Native → Bool} (h : q.conditions.isTree p = true) :
    (undecoded policy q).isTree p = true := by
  cases q with
  | find s => exact h
  | aggregate s =>
    refine isTree_list.mpr (List.forall_mem_append.mpr ⟨isTree_list.mp h, ?_⟩)
    exact List.forall_mem_singleton.mpr rfl

theorem isClean_undecoded (h : Sanitation.IsClean q.conditions) :
    Sanitation.IsClean (undecoded policy q) := by
  cases q with
  | find s => exact h
  | aggregate s =>
    refine Sanitation.isClean_list.mpr
      (List.forall_mem_append.mpr ⟨Sanitation.isClean_list.mp h, ?_⟩)
    refine List.forall_mem_singleton.mpr ⟨rfl, Sanitation.isClean_map.mpr ⟨?_, ?_⟩⟩
    · intro hhas
      exact Bool.noConfusion hhas
    · refine List.forall_mem_singleton.mpr ⟨rfl, ?_⟩
      exact Sanitation.isClean_of_descendants_eq_nil rfl rfl

end Execution

namespace QuerySpec

variable {p : Native → Bool} {q : QuerySpec}

theorem isTree_ready (fuzzy : Bool) (h : q.conditions.isTree p = true) :
    (q.ready fuzzy).conditions.isTree p = true := by
  unfold ready
  split_ifs
  · cases q with
    | find s =>
      have hs := Fuzzy.isTree_fuzzify h
      rw [conditions, Fuzzy.fuzzify] at hs
      exact hs
    | aggregate s =>
      have hs := isTree_list.mp h
      refine isTree_list.mpr ?_
      rw [List.forall_mem_map] at hs ⊢
      exact List.forall_mem_map.mpr fun stage hstage => Fuzzy.isTree_fuzzifyStage (hs stage hstage)
  · exact h

end QuerySpec

namespace Service

variable {s : Service} {r : RunRequest} {spec : QuerySpec}

/-- The conditions of an executed query are a clean tree if the request brings trees. -/
theorem conditions_of_specOfRequest {p : Native → Bool} (h : s.specOfRequest r = .ok spec)
    (hq : r.query.isTree p = true) (hp : r.pipeline.isTree p = true) :
    spec.conditions.isTree p = true ∧ Sanitation.IsClean spec.conditions := by
  obtain ⟨q, hasked, -, hclean⟩ := specOfRequest_eq_ok.mp h
  have hqc : q.conditions.isTree p = true := by
    rcases QuerySpec.ofRunRequest_eq_ok hasked with ⟨-, hf⟩ | ha
    · obtain ⟨f, rfl, hfilter, -, -⟩ := hereditary_isTree.buildFind hf hq rfl
      exact hfilter
    · obtain ⟨a, rfl, hstages⟩ := stagesValue_of_buildAggregate ha
      rw [QuerySpec.conditions, hstages]
      exact hp
  have hspec : spec.conditions = (sanitize (q.ready r.fuzzy).conditions).1 := by
    rw [← (QuerySpec.sanitize_eq_ok.mp hclean).1, QuerySpec.conditions_sanitized,
      QuerySpec.sanitized_snd]
  rw [hspec]
  exact ⟨Sanitation.isTree_clean "" (QuerySpec.isTree_ready r.fuzzy hqc),
    Sanitation.isClean_clean "" _⟩

/-- No blank pattern reaches the database inside of a query.  A run that executes a filter or a
pipeline passes no pattern strictly inside of it whose text is blank, and no mapping with `$regex`
or `$options`, except in what decoding returns as it is since its id or its date does not convert.
The request may bring any tree of JSON, and native values but for blank patterns. -/
theorem run_passes_no_blank_pattern (s : Service) (r : RunRequest)
    (hq : r.query.isBlankFree = true) (hp : r.pipeline.isBlankFree = true) (call : Call)
    (h : call ∈ (s.run r).calls) (hx : call.isExecution = true) :
    ∃ spec, s.specOfRequest r = .ok spec ∧
      call.conditions = ExtendedJson.decode (Execution.undecoded s.settings.limits spec) ∧
      (∀ path x, path ≠ [] → call.conditions.at? path = some (.native (.regex x)) →
        Text.strip x.pattern ≠ "") ∧
      ∀ path (fs : Fields), path ≠ [] → call.conditions.at? path = some (.map fs) →
        "$regex" ∈ fs.keys ∨ "$options" ∈ fs.keys →
        ∃ front gs, front <+: path ∧
          (Execution.undecoded s.settings.limits spec).at? front = some (.map gs) ∧
          ExtendedJson.IsUnread gs ∧ call.conditions.at? front = some (.map gs) := by
  obtain ⟨spec, hspec, rfl⟩ := exists_spec_of_mem_calls_run h hx
  obtain ⟨htree, hclean⟩ := conditions_of_specOfRequest hspec hq hp
  have ht : (Execution.undecoded s.settings.limits spec).isBlankFree = true :=
    Execution.isTree_undecoded htree
  have hc : Sanitation.IsClean (Execution.undecoded s.settings.limits spec) :=
    Execution.isClean_undecoded hclean
  refine ⟨spec, hspec, Execution.conditions_callOf, ?_⟩
  rw [Execution.conditions_callOf]
  constructor
  · intro path x hpath hpx
    have hblank := ExtendedJson.not_blank_of_decode ht hc hpath hpx
    rw [Ne, Text.strip_eq_empty_iff, hblank]
    exact Bool.false_ne_true
  · intro path fs hpath hfs hkeys
    exact ExtendedJson.exists_unread_of_decode ht hc hpath hfs hkeys

/-- A fuzzy find passes the pattern of a name, and beside it a clause in an id that does not
convert. -/
theorem run_passes_no_blank_pattern_bare :
    let r : RunRequest :=
      { collection := some "users", fuzzy := true
        query := .map [("name", .string "ada"),
          ("_id", .map [("$oid", .string "?"), ("$in", .list [.map [("$regex", .string "a")]])])] }
    r.query.isBlankFree = true ∧
    ∃ call ∈ ((bare "").run r).calls,
      call.isExecution = true ∧
      call.conditions.at? [0] = some (.native (.regex (.ofLetters "ada" "i"))) ∧
      call.conditions.at? [1, 1, 0] = some (.map [("$regex", .string "a")]) ∧
      Text.strip (Regex.ofLetters "ada" "i").pattern ≠ "" ∧
      ∃ front gs, front <+: [1, 1, 0] ∧ ExtendedJson.IsUnread gs ∧
        call.conditions.at? front = some (.map gs) := by
  intro r
  have hq : r.query.isBlankFree = true := by decide +kernel
  have hcall : ∃ call ∈ ((bare "").run r).calls, call.isExecution = true ∧
      call.conditions.at? [0] = some (.native (.regex (.ofLetters "ada" "i"))) ∧
      call.conditions.at? [1, 1, 0] = some (.map [("$regex", .string "a")]) := by
    decide +kernel
  obtain ⟨call, hmem, hx, hname, hclause⟩ := hcall
  obtain ⟨spec, -, -, hpatterns, hclauses⟩ :=
    run_passes_no_blank_pattern (bare "") r hq rfl call hmem hx
  obtain ⟨front, gs, hfront, -, hgs, hat⟩ :=
    hclauses [1, 1, 0] _ (List.cons_ne_nil _ _) hclause (.inl List.mem_cons_self)
  exact ⟨hq, call, hmem, hx, hname, hclause, hpatterns [0] _ (List.cons_ne_nil _ _) hname,
    front, gs, hfront, hgs, hat⟩

end Service

end QueryWarden
