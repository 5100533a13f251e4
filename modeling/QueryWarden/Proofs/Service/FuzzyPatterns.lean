import QueryWarden.Proofs.Query.KeptPaths
import QueryWarden.Proofs.Query.LiteralClauses
import QueryWarden.Proofs.Service.Run

/-!
# The patterns that a fuzzy run executes

Fuzzy matching puts an escaped text in the place of every literal in the filters of a query
(`QuerySpec.at?_conditions_fuzzify`).  An escaped text is read back as the text, and a clause that
sanitation keeps is passed to the database as the pattern with this very text
(`fuzzy_patterns_are_literal`).
-/

namespace QueryWarden

open Value

/-! ## The literals of a query -/

namespace QuerySpec

/-- The literals in the filters of a query, with the paths to them from its conditions on: those of the
filter of a find, and those below the keys `$match` of the stages of an aggregation. -/
inductive IsLiteral : QuerySpec → List Nat → String → Prop
  | filter {f : FindSpec} {path : List Nat} {text : String} :
      Fuzzy.IsLiteral (.map f.filter) path text → IsLiteral (.find f) path text
  | stage {a : AggregateSpec} {i : Nat} {stage es : Fields} {path : List Nat} {text : String} :
      a.stages[i]? = some stage → stage.get? "$match" = some (.map es) →
      Fuzzy.IsLiteral (.map es) path text →
      IsLiteral (.aggregate a) (i :: stage.keys.idxOf "$match" :: path) text

variable {q : QuerySpec} {path : List Nat} {text : String}

theorem at?_fuzzifyStage {stage es : Fields} (hm : stage.get? "$match" = some (.map es))
    (h : Fuzzy.IsLiteral (.map es) path text) :
    (map (Fuzzy.fuzzifyStage stage)).at? (stage.keys.idxOf "$match" :: path) =
      some (Pattern.ofLiteral text) := by
  have hmatch : (Fuzzy.fuzzifyStage stage).get? "$match" = some (Fuzzy.fuzzify (.map es)) := by
    rw [Fuzzy.get?_fuzzifyStage, hm, Option.map_some, if_pos ⟨rfl, rfl⟩]
  have hplace := Fields.getElem?_idxOf_of_get? hmatch
  rw [Fuzzy.keys_fuzzifyStage] at hplace
  exact at?_cons_eq_some.mpr ⟨_, getElem?_parts_map.mpr ⟨_, hplace⟩, h.at?_fuzzify⟩

/-- Every literal of a query becomes the clause of its pattern. -/
theorem at?_conditions_fuzzify (h : q.IsLiteral path text) :
    q.fuzzify.conditions.at? path = some (Pattern.ofLiteral text) := by
  cases h with
  | filter h =>
    have hat := h.at?_fuzzify
    rwa [Fuzzy.fuzzify_map] at hat
  | stage hi hm h =>
    refine at?_cons_eq_some.mpr ⟨_, ?_, at?_fuzzifyStage hm h⟩
    rw [fuzzify, conditions, stagesValue, parts, List.getElem?_map, List.getElem?_map, hi]
    rfl

theorem IsLiteral.path_ne_nil (h : q.IsLiteral path text) : path ≠ [] := by
  cases h with
  | filter h =>
    obtain ⟨front, i, -, -, rfl, -⟩ := h
    exact List.append_ne_nil_of_right_ne_nil _ (List.cons_ne_nil _ _)
  | stage => exact List.cons_ne_nil _ _

end QuerySpec

/-! ## What is executed -/

namespace Sanitation

theorem keptPath?_ne_nil {t : Value} {path path' : List Nat} (h : keptPath? t path = some path')
    (hne : path ≠ []) : path' ≠ [] := by
  cases path with
  | nil => exact absurd rfl hne
  | cons i path =>
    obtain ⟨e, behind, -, -, -, -, rfl⟩ := keptPath?_cons_eq_some.mp h
    exact List.cons_ne_nil _ _

theorem residue_ofLiteral (text : String) :
    residue (Pattern.ofLiteral text) = Pattern.ofLiteral text := by
  have hclean := clean_of_isClean "" (isClean_ofLiteral text)
  rw [clean_eq] at hclean
  exact (Prod.mk.inj hclean).1

end Sanitation

namespace Execution

variable {policy : LimitPolicy} {ignoreCase : Bool} {spec : QuerySpec} {path : List Nat} {v : Value}

/-- What decoded conditions have strictly inside is executed, as the limit of a pipeline stands behind
it. -/
theorem at?_conditions_callOf (hne : path ≠ [])
    (h : (ExtendedJson.decode spec.conditions).at? path = some v) :
    (callOf policy ignoreCase spec).conditions.at? path = some v := by
  cases spec with
  | find f => exact h
  | aggregate a =>
    cases path with
    | nil => exact absurd rfl hne
    | cons i path =>
      rw [QuerySpec.conditions, QuerySpec.stagesValue, ExtendedJson.decode_list] at h
      obtain ⟨part, hi, hpart⟩ := at?_cons_eq_some.mp h
      refine at?_cons_eq_some.mpr ⟨part, ?_, hpart⟩
      rw [callOf_aggregate]
      have hi' : (a.stages.map fun stage => ExtendedJson.decode (.map stage))[i]? = some part := by
        rwa [parts, List.map_map] at hi
      exact (List.getElem?_append_left (List.getElem?_eq_some_iff.mp hi').1).trans hi'

/-- What a tag takes in decoded conditions, it takes in the call. -/
theorem isTakenAbove_callOf
    (h : ExtendedJson.IsTakenAbove spec.conditions (ExtendedJson.decode spec.conditions) path) :
    ExtendedJson.IsTakenAbove spec.conditions (callOf policy ignoreCase spec).conditions path := by
  obtain ⟨front, behind, fs, w, rfl, hne, hfs, hw, hat⟩ := h
  refine ⟨front, behind, fs, w, rfl, hne, hfs, hw, ?_⟩
  cases front with
  | cons i front => exact at?_conditions_callOf (List.cons_ne_nil _ _) hat
  | nil =>
    -- Only the filter of a find is a mapping at the root.
    cases spec with
    | find f => exact hat
    | aggregate a => exact Value.noConfusion (Option.some.inj hfs)

end Execution

namespace Service

variable {s : Service} {r : RunRequest} {call : Call}

/-- A fuzzy run executes what sanitation left of the fuzzy query that its request asks for. -/
theorem exists_residue_of_mem_calls_run (hfuzzy : r.fuzzy = true) (h : call ∈ (s.run r).calls)
    (hx : call.isExecution = true) :
    ∃ q spec, s.asked r = .ok q ∧ s.specOfRequest r = .ok spec ∧
      spec.conditions = Sanitation.residue q.fuzzify.conditions ∧
      call = Execution.callOf s.settings.limits r.ignoreCase spec := by
  obtain ⟨spec, hspec, hcall⟩ := exists_spec_of_mem_calls_run h hx
  obtain ⟨q, hq, -, hclean⟩ := specOfRequest_eq_ok.mp hspec
  rw [hfuzzy] at hclean
  refine ⟨q, spec, hq, hspec, ?_, hcall⟩
  have hready : q.ready true = q.fuzzify := rfl
  rw [← (QuerySpec.sanitize_eq_ok.mp hclean).1, QuerySpec.conditions_sanitized,
    QuerySpec.sanitized_snd, sanitize, Sanitation.clean_eq, hready]

/-- A fuzzy pattern denotes its literal and nothing else.  Every escaped text is read back as the text,
so no two texts have one pattern.  In a fuzzy run that executes a query, every literal becomes the
clause of its escaped text; a clause that sanitation keeps is executed as the pattern with this very
text in any case of letters exactly when it stands in no mapping with a tag, which is executed as a
whole. -/
theorem fuzzy_patterns_are_literal (s : Service) (r : RunRequest) :
    (∀ text, Pattern.readLiteral? (Pattern.escape text).toList = some text.toList) ∧
      Function.Injective Pattern.escape ∧
      ∀ call, r.fuzzy = true → call ∈ (s.run r).calls → call.isExecution = true →
        ∃ q spec, s.asked r = .ok q ∧ s.specOfRequest r = .ok spec ∧
          ∀ path text, q.IsLiteral path text →
            q.fuzzify.conditions.at? path = some (.map [("$regex", .string (Pattern.escape text)),
              ("$options", .string "i")]) ∧
            ∀ path', Sanitation.keptPath? q.fuzzify.conditions path = some path' →
              spec.conditions.at? path' = q.fuzzify.conditions.at? path ∧
              (call.conditions.at? path' =
                  some (.native (.regex (.ofLetters (Pattern.escape text) "i"))) ↔
                ¬ ExtendedJson.IsTakenAbove spec.conditions call.conditions path') := by
  refine ⟨Pattern.readLiteral?_escape, Pattern.escape_injective, ?_⟩
  intro call hfuzzy h hx
  obtain ⟨q, spec, hq, hspec, hresidue, rfl⟩ := exists_residue_of_mem_calls_run hfuzzy h hx
  refine ⟨q, spec, hq, hspec, fun path text hlit => ?_⟩
  have hclause := QuerySpec.at?_conditions_fuzzify hlit
  refine ⟨hclause, fun path' hkept => ?_⟩
  have hstays : spec.conditions.at? path' = some (Pattern.ofLiteral text) := by
    rw [hresidue, Sanitation.at?_residue hkept hclause, Sanitation.residue_ofLiteral]
  refine ⟨hstays.trans hclause.symm, fun hat htaken => ?_, fun hfree => ?_⟩
  · rcases htaken.at?_eq hstays with hgone | hsame
    · exact absurd (hgone.symm.trans hat) nofun
    · exact Value.noConfusion (Option.some.inj (hsame.symm.trans hat))
  · have hne := Sanitation.keptPath?_ne_nil hkept hlit.path_ne_nil
    have hdecoded := ExtendedJson.at?_decode_residue hkept hclause
    rw [Sanitation.residue_ofLiteral, ExtendedJson.decode_ofLiteral, ← hresidue] at hdecoded
    rcases hdecoded with hat | htaken
    · exact Execution.at?_conditions_callOf hne hat
    · exact absurd (Execution.isTakenAbove_callOf htaken) hfree

/-- The second branch of a condition moves up when the first one is dropped, and its literal is
executed as the pattern that denotes it. -/
theorem fuzzy_patterns_are_literal_second_branch :
    let branches : Value := .list [.map [("a", .string "\u3000")], .map [("name", .string "a.b")]]
    let stage : Fields := [("$match", .map [("$or", branches)])]
    let r : RunRequest :=
      { collection := some "users", fuzzy := true, pipeline := .list [.map stage] }
    let q : QuerySpec := .aggregate ⟨[stage], .ofInt 100⟩
    q.IsLiteral [0, 0, 0, 1, 0] "a.b" ∧
      Sanitation.keptPath? q.fuzzify.conditions [0, 0, 0, 1, 0] = some [0, 0, 0, 0, 0] ∧
      ∃ call ∈ ((bare "").run r).calls, call.isExecution = true ∧
        call.conditions.at? [0, 0, 0, 0, 0] = some (.native (.regex (.ofLetters "a\\.b" "i"))) ∧
        ∃ spec, (bare "").specOfRequest r = .ok spec ∧
          spec.conditions.at? [0, 0, 0, 0, 0] =
            some (.map [("$regex", .string "a\\.b"), ("$options", .string "i")]) ∧
          Pattern.readLiteral? "a\\.b".toList = some "a.b".toList := by
  intro branches stage r q
  have hopens : Fuzzy.Opens "$or" branches := .branches (by decide)
  have hfilter : Fuzzy.IsLiteral (.map [("$or", branches)]) [0, 1, 0] "a.b" :=
    ⟨[0, 1], 0, _, "name", rfl, .item (.entry .root rfl hopens) rfl, rfl, by decide⟩
  have hindex : stage.keys.idxOf "$match" = 0 := by decide
  have hlit : q.IsLiteral (0 :: stage.keys.idxOf "$match" :: [0, 1, 0]) "a.b" :=
    .stage rfl rfl hfilter
  rw [hindex] at hlit
  have hkept : Sanitation.keptPath? q.fuzzify.conditions [0, 0, 0, 1, 0] = some [0, 0, 0, 0, 0] := by
    decide +kernel
  have hasked : (bare "").asked r = .ok q := by decide +kernel
  have hcall : ∃ call ∈ ((bare "").run r).calls, call.isExecution = true ∧
      call.conditions.at? [0, 0, 0, 0, 0] = some (.native (.regex (.ofLetters "a\\.b" "i"))) := by
    decide +kernel
  obtain ⟨call, hmem, hx, hpattern⟩ := hcall
  obtain ⟨hread, -, hruns⟩ := fuzzy_patterns_are_literal (bare "") r
  obtain ⟨q', spec, hq', hspec, hliterals⟩ := hruns call rfl hmem hx
  obtain rfl := Except.ok.inj (hasked.symm.trans hq')
  obtain ⟨hclause, hkeeps⟩ := hliterals _ _ hlit
  exact ⟨hlit, hkept, call, hmem, hx, hpattern, spec, hspec, (hkeeps _ hkept).1.trans hclause,
    hread "a.b"⟩

/-- A literal beside the tag of an identifier: the clause of its pattern stays, and the identifier is
executed in the place of the whole filter. -/
theorem fuzzy_clause_lost_beside_tag :
    let id : String := "5f1d7f3b9c1e4a2b3c4d5e6f"
    let r : RunRequest :=
      { collection := some "users", fuzzy := true
        query := .map [("name", .string "Jens"), ("$oid", .string id)] }
    (bare "").specOfRequest r =
        .ok (.find ⟨[("name", .map [("$regex", .string "Jens"), ("$options", .string "i")]),
          ("$oid", .string id)], none, none, .ofInt 100⟩) ∧
      ∃ call ∈ ((bare "").run r).calls, call.isExecution = true ∧ call.conditions.at? [0] = none := by
  decide +kernel

end Service

end QueryWarden
