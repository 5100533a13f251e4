import QueryWarden.Proofs.ExtendedJson.Decode

/-!
# Decoding without loss

`lossless` says what decoding may make of a mapping without losing a condition: a mapping that is
exactly one tagged literal becomes its value, a malformed literal stays as it is, and every other
mapping keeps its keys, in their order, with decoded values.

`decode` tries its tags on any mapping that holds one, whatever stands beside it, so it keeps to
`lossless` under a condition only.  `decode_map_eq_lossless_iff` states this condition:

1. `swallows`: a tag converts in a mapping that is not its literal, and the other keys are lost.
2. `skips`: a tag that does not convert stands beside other keys, whose literals stay undecoded.
3. `opens`: a malformed literal without a payload of the right kind is decoded inside.
-/

namespace QueryWarden.ExtendedJson

/-! ## Literals -/

def literalKeys : List (List String) :=
  [["$oid"], ["$date"], ["$numberLong"], ["$numberDecimal"], ["$regex"], ["$regex", "$options"],
    ["$options", "$regex"]]

/-- Whether a mapping has the keys of one tagged literal and no others. -/
def hasLiteralKeys (fs : Fields) : Bool :=
  literalKeys.contains fs.keys

/-- The value of a mapping that is exactly one well-formed tagged literal. -/
def literal? : Fields → Option Value
  | [("$oid", .string s)] => (HexId.ofText? 24 s).map (.native <| .objectId ·)
  | [("$date", raw)] => (instant? raw).map (.native <| .dateTime ·)
  | [("$numberLong", .string s)] => some (.string s)
  | [("$numberDecimal", .string s)] => some (.string s)
  | [("$regex", .string p)] => some (.native (.regex (.ofLetters p "")))
  | [("$regex", .string p), ("$options", .string o)] => some (.native (.regex (.ofLetters p o)))
  | [("$options", .string o), ("$regex", .string p)] => some (.native (.regex (.ofLetters p o)))
  | _ => none

/-- What decoding makes of a mapping when it loses nothing. -/
def lossless (fs : Fields) : Value :=
  if hasLiteralKeys fs then (literal? fs).getD (.map fs)
  else .map (fs.map fun e => (e.1, decode e.2))

theorem hasLiteralKeys_of_literal? {fs : Fields} {v : Value} (h : literal? fs = some v) :
    hasLiteralKeys fs = true := by
  unfold literal? at h
  split at h
  case h_8 => exact absurd h.symm (Option.some_ne_none v)
  all_goals rfl

/-- The first tag of a literal is its own. -/
theorem firstTag?_of_literal? {fs : Fields} {v : Value} (h : literal? fs = some v) :
    firstTag? fs = some (some v) := by
  unfold literal? at h
  split at h
  case h_8 => exact absurd h.symm (Option.some_ne_none v)
  all_goals
    rw [← h]
    rfl

theorem lossless_of_literal? {fs : Fields} {v : Value} (h : literal? fs = some v) :
    lossless fs = v := by
  unfold lossless
  rw [if_pos (hasLiteralKeys_of_literal? h), h]
  rfl

theorem lossless_of_malformed {fs : Fields} (hk : hasLiteralKeys fs = true)
    (h : literal? fs = none) : lossless fs = .map fs := by
  unfold lossless
  rw [if_pos hk, h]
  rfl

theorem lossless_of_no_literal {fs : Fields} (hk : hasLiteralKeys fs = false) :
    lossless fs = .map (decodeEntries fs) := by
  unfold lossless
  rw [if_neg (Bool.eq_false_iff.mp hk), decodeEntries_eq_map]

theorem exists_map_of_literal?_eq_none {fs : Fields} (h : literal? fs = none) :
    ∃ gs, lossless fs = .map gs := by
  cases hk : hasLiteralKeys fs with
  | true => exact ⟨_, lossless_of_malformed hk h⟩
  | false => exact ⟨_, lossless_of_no_literal hk⟩

/-! ## Departures -/

/-- Whether a tag converts in a mapping that is not its literal. -/
def swallows (fs : Fields) : Prop :=
  (∃ v, firstTag? fs = some (some v)) ∧ literal? fs = none

/-- Whether the first tag does not convert and stands beside other keys with something to decode
in their values. -/
def skips (fs : Fields) : Prop :=
  firstTag? fs = some none ∧ hasLiteralKeys fs = false ∧ ∃ e ∈ fs, decode e.2 ≠ e.2

/-- Whether a malformed literal, which has no payload of the right kind, has something to decode in
its values. -/
def opens (fs : Fields) : Prop :=
  firstTag? fs = none ∧ hasLiteralKeys fs = true ∧ ∃ e ∈ fs, decode e.2 ≠ e.2

theorem decodeEntries_eq_self_iff {fs : Fields} :
    decodeEntries fs = fs ↔ ∀ e ∈ fs, decode e.2 = e.2 := by
  have h : (fs.map fun e => (e.1, decode e.2)) = fs.map id ↔
      ∀ e ∈ fs, (e.1, decode e.2) = id e := List.map_inj_left
  rw [decodeEntries_eq_map]
  rw [List.map_id] at h
  rw [h]
  exact forall₂_congr fun e _ => by simp [Prod.ext_iff]

theorem map_decodeEntries_eq_iff {fs : Fields} :
    Value.map (decodeEntries fs) = .map fs ↔ ¬ ∃ e ∈ fs, decode e.2 ≠ e.2 := by
  rw [Value.map.injEq, decodeEntries_eq_self_iff]
  simp

theorem ne_map_of_isNativeOrText {v : Value} (h : isNativeOrText v = true) (fs : Fields) :
    v ≠ .map fs := by
  rintro rfl
  exact Bool.noConfusion h

theorem literal?_eq_none {fs : Fields} (h : ∀ v, firstTag? fs ≠ some (some v)) :
    literal? fs = none := by
  cases hl : literal? fs with
  | none => rfl
  | some v => exact absurd (firstTag?_of_literal? hl) (h v)

/-- Where a tag converts, decoding keeps to `lossless` on its literals only. -/
theorem decode_map_eq_lossless_of_converts {fs : Fields} {v : Value}
    (h : firstTag? fs = some (some v)) :
    decode (.map fs) = lossless fs ↔ literal? fs ≠ none := by
  rw [decode_map_of_converts h]
  constructor
  · rintro hv hl
    obtain ⟨gs, hgs⟩ := exists_map_of_literal?_eq_none hl
    exact ne_map_of_isNativeOrText (isNativeOrText_of_firstTag? h) gs (hv.trans hgs)
  · intro hl
    obtain ⟨w, hw⟩ := Option.ne_none_iff_exists'.mp hl
    have hvw := h.symm.trans (firstTag?_of_literal? hw)
    rw [lossless_of_literal? hw, Option.some.inj (Option.some.inj hvw)]

/-- Where a tag does not convert, decoding keeps to `lossless` unless it skips other keys. -/
theorem decode_map_eq_lossless_of_not_converts {fs : Fields} (h : firstTag? fs = some none) :
    decode (.map fs) = lossless fs ↔
      ¬ (hasLiteralKeys fs = false ∧ ∃ e ∈ fs, decode e.2 ≠ e.2) := by
  rw [decode_map_of_not_converts h]
  cases hk : hasLiteralKeys fs with
  | true =>
    rw [lossless_of_malformed hk (literal?_eq_none fun v => by simp [h])]
    simp
  | false =>
    rw [lossless_of_no_literal hk, eq_comm, map_decodeEntries_eq_iff]
    simp

/-- Where there is no tag, decoding keeps to `lossless` unless it opens a malformed literal. -/
theorem decode_map_eq_lossless_of_no_tag {fs : Fields} (h : firstTag? fs = none) :
    decode (.map fs) = lossless fs ↔
      ¬ (hasLiteralKeys fs = true ∧ ∃ e ∈ fs, decode e.2 ≠ e.2) := by
  rw [decode_map_of_no_tag h]
  cases hk : hasLiteralKeys fs with
  | true =>
    rw [lossless_of_malformed hk (literal?_eq_none fun v => by simp [h]), map_decodeEntries_eq_iff]
    simp
  | false =>
    rw [lossless_of_no_literal hk]
    simp

/-- A mapping keeps its keys unless it is a literal or swallows them. -/
theorem keeps_keys_iff (fs : Fields) :
    (∃ gs : Fields, decode (.map fs) = .map gs ∧ gs.keys = fs.keys) ↔
      literal? fs = none ∧ ¬ swallows fs := by
  have hkeys {gs : Fields} (h : decode (.map fs) = .map gs) : gs.keys = fs.keys := keys_of_decode h
  cases h : firstTag? fs with
  | none =>
    have hl : literal? fs = none := literal?_eq_none fun v => by simp [h]
    refine iff_of_true ⟨_, decode_map_of_no_tag h, hkeys (decode_map_of_no_tag h)⟩ ⟨hl, ?_⟩
    rintro ⟨⟨v, hv⟩, -⟩
    simp [h] at hv
  | some x =>
    cases x with
    | none =>
      have hl : literal? fs = none := literal?_eq_none fun v => by simp [h]
      refine iff_of_true ⟨_, decode_map_of_not_converts h, rfl⟩ ⟨hl, ?_⟩
      rintro ⟨⟨v, hv⟩, -⟩
      simp [h] at hv
    | some v =>
      have hn := isNativeOrText_of_firstTag? h
      refine iff_of_false ?_ fun hs => hs.2 ⟨⟨v, h⟩, hs.1⟩
      rintro ⟨gs, hgs, -⟩
      rw [decode_map_of_converts h] at hgs
      exact ne_map_of_isNativeOrText hn gs hgs

/-- **Decoding without loss.**  Decoding a mapping keeps to `lossless` exactly when it neither
swallows keys, nor skips them, nor opens a malformed literal; and it keeps the keys of the mapping,
in their order, exactly when the mapping is no literal and swallows none. -/
theorem decode_map_eq_lossless_iff (fs : Fields) :
    (decode (.map fs) = lossless fs ↔ ¬ (swallows fs ∨ skips fs ∨ opens fs)) ∧
      ((∃ gs : Fields, decode (.map fs) = .map gs ∧ gs.keys = fs.keys) ↔
        literal? fs = none ∧ ¬ swallows fs) := by
  refine ⟨?_, keeps_keys_iff fs⟩
  unfold swallows skips opens
  cases h : firstTag? fs with
  | none =>
    rw [decode_map_eq_lossless_of_no_tag h]
    simp
  | some x =>
    cases x with
    | none =>
      rw [decode_map_eq_lossless_of_not_converts h]
      simp
    | some v =>
      rw [decode_map_eq_lossless_of_converts h]
      simp

/-- A condition beside a pattern is lost. -/
theorem decode_swallows_sibling :
    decode (.map [("$regex", .string "^a"), ("$ne", .string "ab")])
        = .native (.regex (.ofLetters "^a" "")) ∧
      lossless [("$regex", .string "^a"), ("$ne", .string "ab")]
        = .map [("$regex", .string "^a"), ("$ne", .string "ab")] := by
  decide +kernel

end QueryWarden.ExtendedJson
