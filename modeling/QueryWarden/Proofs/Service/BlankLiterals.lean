import QueryWarden.Proofs.Query.LiteralClauses
import QueryWarden.Proofs.Service.Run
import QueryWarden.Proofs.Text.Trim

/-!
# Blank literals in fuzzy mode

A filter with one literal is executed as one pattern that ignores the case of letters, unless
sanitation takes the pattern for blank (`calls_run_of_literal`, `run_of_dropped_literal`).  Sanitation
looks at the escaped text, where a backslash in front of a blank character hides it.  So a blank text
is dropped only when none of its characters gets a backslash (`literal_dropped_iff`).
-/

namespace QueryWarden.Service

open Fuzzy

variable {s : Service} {r : RunRequest} {name k text : String} {f : FindSpec}

theorem calls_run_of_ok {spec : QuerySpec} {c : Collection} (hn : trimmed? r.collection = some name)
    (hs : s.specOfRequest r = .ok spec) (hc : s.store.collection name r.database = .ok c) :
    (s.run r).calls = [.openCollection name r.database,
      Execution.callOf s.settings.limits r.ignoreCase spec] := by
  rw [run_of_ok hn hs, Traced.calls_bind_of_ok (outcome_openToRun_eq_ok.mpr hc), Execution.calls_run]
  rfl

/-- Whether a request is for a fuzzy find whose filter is one literal, and the deny list lets it
pass. -/
structure FindsLiteral (s : Service) (r : RunRequest) (name k text : String) : Prop where
  fuzzy : r.fuzzy = true
  collection : trimmed? r.collection = some name
  query : ∃ f, s.asked r = .ok (.find f) ∧ f.filter = [(k, .string text)] ∧
    (QuerySpec.find f).check s.settings.denyList = .ok ()

/-- The sanitized conditions of a fuzzy find whose filter is one literal. -/
theorem sanitized_ready_of_literal (hk : Fuzzy.isOperator k = false)
    (hf : f.filter = [(k, .string text)]) :
    ((QuerySpec.find f).ready true).sanitized.2 =
      if Text.isBlankText (Pattern.escape text) then (.map [], ⟨[k], 0⟩)
      else (.map [(k, Pattern.ofLiteral text)], .empty) := by
  have hconditions : ((QuerySpec.find f).ready true).conditions = fuzzify (.map f.filter) :=
    (fuzzify_map f.filter).symm
  rw [QuerySpec.sanitized_snd, hconditions, hf, sanitize_fuzzify_field hk]

/-- A literal with a blank pattern was the only condition, so the run is refused. -/
theorem run_of_dropped_literal (hk : Fuzzy.isOperator k = false) (h : s.FindsLiteral r name k text)
    (hblank : Text.isBlankText (Pattern.escape text) = true) :
    s.run r = .fail (.allRemoved [k]) := by
  obtain ⟨f, hq, hf, hd⟩ := h.query
  refine run_of_sanitize_error h.collection hq hd ?_
  have hsan := sanitized_ready_of_literal hk hf
  rw [hblank, if_pos rfl] at hsan
  have hempty : ((QuerySpec.find f).ready true).sanitized.1.isUnrestricted := by
    have hconditions := QuerySpec.conditions_sanitized ((QuerySpec.find f).ready true)
    rw [hsan] at hconditions
    exact Value.map.inj hconditions
  rw [h.fuzzy, QuerySpec.sanitize_of_collapsed (by rw [hsan]; exact Nat.one_ne_zero) hempty, hsan]

/-- A literal with another pattern is executed as this pattern, in any case of letters. -/
theorem calls_run_of_literal (hk : Fuzzy.isOperator k = false) (h : s.FindsLiteral r name k text)
    (hblank : Text.isBlankText (Pattern.escape text) = false) {c : Collection}
    (hc : s.store.collection name r.database = .ok c) :
    ∃ options, (s.run r).calls = [.openCollection name r.database,
      .find (.map [(k, .native (.regex ⟨Pattern.escape text, 2, true⟩))]) options] := by
  obtain ⟨f, hq, hf, hd⟩ := h.query
  have hsan := sanitized_ready_of_literal hk hf
  rw [hblank, if_neg Bool.false_ne_true] at hsan
  have hspec : s.specOfRequest r = .ok ((QuerySpec.find f).ready true).sanitized.1 := by
    refine specOfRequest_eq_ok.mpr ⟨_, hq, hd, ?_⟩
    rw [h.fuzzy]
    exact QuerySpec.sanitize_eq_ok.mpr ⟨rfl, .inl (by rw [hsan]; rfl)⟩
  have hdecode : ExtendedJson.decode (.map [(k, Pattern.ofLiteral text)]) =
      .map [(k, .native (.regex ⟨Pattern.escape text, 2, true⟩))] := by
    rw [ExtendedJson.decode_map_of_lacksTags (ExtendedJson.lacksTags_field hk _), List.map_singleton,
      ExtendedJson.decode_ofLiteral]
  have hconditions := QuerySpec.conditions_sanitized ((QuerySpec.find f).ready true)
  rw [hsan] at hconditions
  rw [calls_run_of_ok h.collection hspec hc]
  -- The executed query is a find with the sanitized filter, and its other parts do not matter.
  generalize ((QuerySpec.find f).ready true).sanitized.1 = spec at hconditions ⊢
  cases spec with
  | find g =>
    have hfilter : Value.map g.filter = .map [(k, Pattern.ofLiteral text)] := hconditions
    refine ⟨Execution.findOptions g (s.settings.limits.clamp (.int g.limit.value)) r.ignoreCase, ?_⟩
    rw [Execution.callOf, hfilter, hdecode]
  | aggregate a => exact Value.noConfusion hconditions

/-- A filter of one literal is dropped in fuzzy mode exactly when all characters of the literal are
blank and none of them gets a backslash, and so it is dropped exactly for the blank literals unless a
blank literal holds white space that gets one.  A run with a dropped literal is refused; any other
literal is executed as one pattern, in any case of letters. -/
theorem literal_dropped_iff {k : String} (text : String) (hk : Fuzzy.isOperator k = false) :
    let report := (sanitize (fuzzify (.map [(k, .string text)]))).2
    (report.removed = 1 ↔
        ∀ c ∈ text.toList, Text.isBlank c = true ∧ Text.isAsciiBlank c = false) ∧
      ((report.removed = 1 ↔ Text.strip text = "") ↔
        (Text.strip text = "" → ∀ c ∈ text.toList, Text.isAsciiBlank c = false)) ∧
      ∀ (s : Service) (r : RunRequest) (name : String), s.FindsLiteral r name k text →
        (report.removed = 1 → s.run r = .fail (.allRemoved [k])) ∧
          (report.removed ≠ 1 → ∀ c, s.store.collection name r.database = .ok c →
            ∃ options, (s.run r).calls = [.openCollection name r.database,
              .find (.map [(k, .native (.regex ⟨Pattern.escape text, 2, true⟩))]) options]) := by
  intro report
  have hremoved : report.removed = 1 ↔ Text.isBlankText (Pattern.escape text) = true := by
    show (sanitize (fuzzify (.map [(k, .string text)]))).2.removed = 1 ↔ _
    rw [sanitize_fuzzify_field hk]
    cases Text.isBlankText (Pattern.escape text) <;> simp
  have hstrip : Text.strip text = "" ↔ ∀ c ∈ text.toList, Text.isBlank c = true := by
    rw [Text.strip_eq_empty_iff, Text.isBlankText, List.all_eq_true]
  refine ⟨hremoved.trans Pattern.isBlankText_escape_iff, ?_, fun s r name h => ⟨?_, ?_⟩⟩
  · rw [hremoved, Pattern.isBlankText_escape_iff, hstrip]
    constructor
    · intro h hblank c hc
      exact (h.mpr hblank c hc).2
    · intro h
      exact ⟨fun hall c hc => (hall c hc).1, fun hblank c hc => ⟨hblank c hc, h hblank c hc⟩⟩
  · intro hdropped
    exact run_of_dropped_literal hk h (hremoved.mp hdropped)
  · intro hkept c hc
    exact calls_run_of_literal hk h (Bool.eq_false_iff.mpr (mt hremoved.mpr hkept)) hc

/-- A literal of an ideographic space is dropped, and the run is refused. -/
theorem literal_dropped_iff_ideographic :
    let r : RunRequest :=
      { collection := some "users", fuzzy := true, query := .map [("name", .string "\u3000")] }
    Fuzzy.isOperator "name" = false ∧ (bare "").FindsLiteral r "users" "name" "\u3000" ∧
      (sanitize (fuzzify (.map [("name", .string "\u3000")]))).2.removed = 1 ∧
      (bare "").run r = .fail (.allRemoved ["name"]) := by
  intro r
  have hk : Fuzzy.isOperator "name" = false := by decide
  have hfinds : (bare "").FindsLiteral r "users" "name" "\u3000" := by
    refine ⟨rfl, by decide, ⟨[("name", .string "\u3000")], none, none, .ofInt 100⟩, ?_, rfl, ?_⟩
    · decide +kernel
    · decide +kernel
  obtain ⟨hdropped, -, hrun⟩ := literal_dropped_iff "\u3000" hk
  have hblank : "\u3000".toList.all (fun c => Text.isBlank c && !Text.isAsciiBlank c) = true := by
    decide
  have hremoved := hdropped.mpr fun c hc => by simpa using List.all_eq_true.mp hblank c hc
  exact ⟨hk, hfinds, hremoved, (hrun _ r "users" hfinds).1 hremoved⟩

/-- A literal of one space is blank and stays, since its pattern is the space behind a backslash, while
the no-break space is dropped. -/
theorem fuzzy_keeps_blank_literal :
    Text.strip " " = "" ∧
      sanitize (fuzzify (.map [("name", .string " ")])) =
        (.map [("name", .map [("$regex", .string "\\ "), ("$options", .string "i")])], ⟨[], 0⟩) ∧
      Text.strip "\u00a0" = "" ∧
      sanitize (fuzzify (.map [("name", .string "\u00a0")])) = (.map [], ⟨["name"], 0⟩) := by
  decide +kernel

end QueryWarden.Service
