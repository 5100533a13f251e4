import QueryWarden.Proofs.Query.Modes

/-!
# Finds with the empty filter

A find with the empty filter gives all documents.  The mode for filters makes one out of a query that
is written as an empty condition, `Shape.IsEmptyCondition`: the empty mapping, or a structured query
whose filter is the empty mapping or null.  It also makes one out of a list without any mapping, which
asks for nothing that could be read (`QuerySpec.finds_all_iff`).

1. Reading a query gives its first mapping, or the empty one for a list without any
   (`Shape.queryFields_eq_ok_iff`).
2. The filter that is read is empty for empty conditions only (`Shape.filterFields_rawFind_eq_nil_iff`).
-/

namespace QueryWarden

open Value

namespace Shape

/-- The mapping that a query is, or the first one that it lists. -/
def firstFields? : Value → Option Fields
  | .map fs => some fs
  | .list vs => vs.findSome? (·.fields?)
  | _ => none

def ListsNoFields (v : Value) : Prop :=
  v.isList = true ∧ firstFields? v = none

/-- Whether a mapping is written as an empty condition. -/
def IsEmptyCondition (fs : Fields) : Prop :=
  fs = [] ∨ isStructured fs = true ∧
    (fs.get? "filter" = some (.map []) ∨ fs.get? "filter" = some .null)

section Reading

variable {author : Author} {v limit : Value} {fs outer : Fields}

theorem queryFields_eq_ok_iff :
    queryFields author v = .ok fs ↔
      firstFields? v = some fs ∨ ListsNoFields v ∧ fs = [] := by
  unfold ListsNoFields
  cases v with
  | map es => simp [queryFields, firstFields?]
  | list vs =>
    show Except.ok ((vs.findSome? (·.fields?)).getD []) = .ok fs ↔
      vs.findSome? (·.fields?) = some fs ∨
        (true = true ∧ vs.findSome? (·.fields?) = none) ∧ fs = []
    cases vs.findSome? (·.fields?) with
    | some es => simp
    | none => simp [eq_comm]
  | _ => simp [queryFields, firstFields?, isList, items?]

theorem filterFields_eq_nil_iff : filterFields author v = .ok [] ↔ v = .map [] ∨ v = .null := by
  constructor
  · intro h
    exact (filterFields_eq_ok h).imp_right And.left
  · rintro (rfl | rfl)
    · rfl
    · rfl

theorem exists_get?_filter (h : isStructured fs = true) : ∃ v, fs.get? "filter" = some v := by
  cases hv : fs.get? "filter" with
  | some v => exact ⟨v, rfl⟩
  | none =>
    have hhas : Fields.has fs "filter" = true := (Bool.and_eq_true_iff.mp h).1
    obtain ⟨e, he, hk⟩ := List.any_eq_true.mp hhas
    have hne := List.lookup_eq_none_iff.mp hv e he
    rw [beq_iff_eq.mp hk, bne_self_eq_false] at hne
    exact Bool.noConfusion hne

/-- A mapping asks for the empty filter exactly when it is written as an empty condition. -/
theorem filterFields_rawFind_eq_nil_iff :
    filterFields author (rawFind fs outer limit).filter = .ok [] ↔ IsEmptyCondition fs := by
  rw [filterFields_eq_nil_iff]
  unfold IsEmptyCondition rawFind
  by_cases hs : isStructured fs = true
  · obtain ⟨v, hv⟩ := exists_get?_filter hs
    have hne : fs ≠ [] := by
      rintro rfl
      exact Bool.noConfusion hs
    rw [if_pos hs]
    simp [valueOf, hv, hne, hs]
  · rw [if_neg hs]
    simp [hs]

end Reading

end Shape

section Build

variable {author : Author} {policy : LimitPolicy} {query limit : Value} {outer : Fields}

/-- Some limit is built exactly where one is allowed. -/
theorem LimitPolicy.exists_positive_iff (policy : LimitPolicy) (v : Value) :
    (∃ n : Positive, n.value = policy.clamp v) ↔ 1 ≤ policy.greatest := by
  constructor
  · rintro ⟨n, hn⟩
    exact Int.le_trans n.one_le (hn ▸ clamp_le v)
  · intro hg
    exact ⟨⟨policy.clamp v, one_le_clamp hg v⟩, rfl⟩

theorem buildFind_empty_iff :
    (∃ s, buildFind author policy query outer limit = .ok (.find s) ∧ s.filter = []) ↔
      1 ≤ policy.greatest ∧
        ((∃ fs, Shape.firstFields? query = some fs ∧ Shape.IsEmptyCondition fs) ∨
          Shape.ListsNoFields query) := by
  constructor
  · rintro ⟨s, hs, hempty⟩
    obtain ⟨fs, filter, n, hfs, hfilter, hn, hspec⟩ := buildFind_eq_ok.mp hs
    obtain rfl := QuerySpec.find.inj hspec
    obtain rfl : filter = [] := hempty
    refine ⟨(policy.exists_positive_iff _).mp ⟨n, hn⟩, ?_⟩
    rcases Shape.queryFields_eq_ok_iff.mp hfs with hfirst | ⟨hnone, -⟩
    · exact .inl ⟨fs, hfirst, Shape.filterFields_rawFind_eq_nil_iff.mp hfilter⟩
    · exact .inr hnone
  · rintro ⟨hg, hquery⟩
    have hread : ∃ fs, Shape.queryFields author query = .ok fs ∧ Shape.IsEmptyCondition fs := by
      rcases hquery with ⟨fs, hfirst, hempty⟩ | hnone
      · exact ⟨fs, Shape.queryFields_eq_ok_iff.mpr (.inl hfirst), hempty⟩
      · exact ⟨[], Shape.queryFields_eq_ok_iff.mpr (.inr ⟨hnone, rfl⟩), .inl rfl⟩
    obtain ⟨fs, hfs, hempty⟩ := hread
    obtain ⟨n, hn⟩ := (policy.exists_positive_iff (Shape.rawFind fs outer limit).limit).mpr hg
    have hfilter : Shape.filterFields author (Shape.rawFind fs outer limit).filter = .ok [] :=
      Shape.filterFields_rawFind_eq_nil_iff.mpr hempty
    exact ⟨_, buildFind_eq_ok.mpr ⟨fs, [], n, hfs, hfilter, hn, rfl⟩, rfl⟩

theorem buildFind_of_no_fields (h : Shape.firstFields? query = none) :
    buildFind author policy query outer limit =
      if query.isList = true then
        FindSpec.build [] (Shape.projection? (Shape.valueOf outer "projection"))
          (Shape.sort? (Shape.valueOf outer "sort")) (policy.clamp limit)
      else .error (.failure (.misshapen author .queryNotObject)) := by
  cases query with
  | map fs => exact absurd h (Option.some_ne_none fs)
  | list vs =>
    have hvs : vs.findSome? (·.fields?) = none := h
    unfold buildFind
    dsimp only [Shape.queryFields]
    rw [hvs]
    rfl
  | _ => rfl

end Build

namespace QuerySpec

variable {policy : LimitPolicy} {mode : String} {output : Fields}

/-- The mode for filters builds a find out of every query that is there. -/
theorem ofModelOutput_of_query (hmode : mode ≠ aggregateMode)
    (hquery : ModelOutput.query output ≠ .null) :
    ofModelOutput policy mode output =
      buildFind .model policy (ModelOutput.query output) output (outerLimit policy output) := by
  unfold ofModelOutput
  dsimp only
  rw [if_neg hmode]
  split
  · exact absurd ‹_› hquery
  · exact absurd ‹_› hquery
  · rfl

theorem ofModelOutput_ne_find (hmode : mode ≠ aggregateMode)
    (hquery : ModelOutput.query output = .null) (s : FindSpec) :
    ofModelOutput policy mode output ≠ .ok (.find s) := by
  unfold ofModelOutput
  dsimp only
  rw [if_neg hmode, hquery]
  split
  · exact nofun
  · intro h
    obtain ⟨ss, n, -, -, hs⟩ := buildAggregate_eq_ok.mp h
    exact QuerySpec.noConfusion hs
  · exact absurd rfl ‹_›

/-- **Finds of everything.**  In a mode for filters the output of a model gives a find with the empty
filter exactly when a limit is allowed and its query, or the first mapping that its query lists, is
written as an empty condition, or its query is a list without any mapping.  A query without any
mapping is refused exactly when it is no list. -/
theorem finds_all_iff (hmode : mode ≠ aggregateMode) :
    ((∃ s, ofModelOutput policy mode output = .ok (.find s) ∧ s.filter = []) ↔
      1 ≤ policy.greatest ∧
        ((∃ fs, Shape.firstFields? (ModelOutput.query output) = some fs ∧
            Shape.IsEmptyCondition fs) ∨
          Shape.ListsNoFields (ModelOutput.query output))) ∧
    (ModelOutput.query output ≠ .null → Shape.firstFields? (ModelOutput.query output) = none →
      ((∃ f, ofModelOutput policy mode output = .error (.failure f) ∧
          f.kind = .invalidModelOutput) ↔
        (ModelOutput.query output).isList = false)) := by
  constructor
  · by_cases hquery : ModelOutput.query output = .null
    · rw [hquery]
      refine iff_of_false ?_ ?_
      · rintro ⟨s, hs, -⟩
        exact ofModelOutput_ne_find hmode hquery s hs
      · rintro ⟨-, ⟨fs, hfs, -⟩ | ⟨hlist, -⟩⟩
        · exact absurd hfs.symm (Option.some_ne_none fs)
        · exact Bool.noConfusion hlist
    · rw [ofModelOutput_of_query hmode hquery, buildFind_empty_iff]
  · intro hquery hnone
    rw [ofModelOutput_of_query hmode hquery, buildFind_of_no_fields hnone]
    by_cases hlist : (ModelOutput.query output).isList = true
    · rw [if_pos hlist]
      refine iff_of_false ?_ (by rw [hlist]; exact Bool.noConfusion)
      rintro ⟨f, hf, -⟩
      unfold FindSpec.build at hf
      split at hf
      · cases hf
      · exact limitFault_ne_failure f (Except.error.inj hf)
    · rw [if_neg hlist]
      exact iff_of_true ⟨_, rfl, rfl⟩ (Bool.eq_false_iff.mpr hlist)

/-- The first mapping of a list is a structured query with a filter of null. -/
theorem finds_all_iff_null_filter :
    ∃ s, ofModelOutput ⟨100, 50⟩ findMode
        [("query", .list [.string "all", .map [("filter", .null), ("limit", .int 7)]])] =
        .ok (.find s) ∧ s.filter = [] :=
  (finds_all_iff (by decide)).1.mpr
    ⟨by decide, .inl ⟨[("filter", .null), ("limit", .int 7)], rfl, .inr ⟨rfl, .inr rfl⟩⟩⟩

/-- A list of texts is no condition, and it finds all documents. -/
theorem finds_all_without_condition :
    ¬ ∀ (policy : LimitPolicy) (output : Fields) (s : FindSpec),
      ofModelOutput policy findMode output = .ok (.find s) → s.filter = [] →
        ∃ fs, Shape.firstFields? (ModelOutput.query output) = some fs ∧
          Shape.IsEmptyCondition fs := by
  intro h
  obtain ⟨fs, hfs, -⟩ := h ⟨100, 50⟩ [("query", .list [.string "name=Jens"])]
    ⟨[], none, none, ⟨50, by decide⟩⟩ (by decide +kernel) rfl
  exact absurd hfs.symm (Option.some_ne_none fs)

end QuerySpec

end QueryWarden
