import QueryWarden.ExtendedJson.Decode
import QueryWarden.Proofs.Value.Keys

/-!
# What decoding keeps

The first tag of a mapping that has a payload decides (`tagged?_eq`): the mapping becomes a native
value or a text when the payload converts, and stays as it is when it does not.  A mapping without
a tag keeps its keys.  So decoding adds no key at any depth (`allKeys_decode_subset`) and empties no
mapping (`eq_emptyMap_of_decode`).
-/

namespace QueryWarden.ExtendedJson

open Value

theorem decode_map (es : Fields) :
    decode (.map es) = (tagged? es).getD (.map (decodeEntries es)) := by
  rw [decode]

theorem decodeEntries_eq_map (es : Fields) :
    decodeEntries es = es.map fun e => (e.1, decode e.2) := by
  induction es with
  | nil => rw [decodeEntries, List.map_nil]
  | cons e es ih =>
    obtain ⟨k, v⟩ := e
    rw [decodeEntries, ih, List.map_cons]

theorem decodeItems_eq_map (vs : List Value) : decodeItems vs = vs.map decode := by
  induction vs with
  | nil => rw [decodeItems, List.map_nil]
  | cons v vs ih => rw [decodeItems, ih, List.map_cons]

theorem decode_list (vs : List Value) : decode (.list vs) = .list (vs.map decode) := by
  rw [decode, decodeItems_eq_map]

theorem keys_decodeEntries (es : Fields) : (decodeEntries es).map (·.1) = es.map (·.1) := by
  rw [decodeEntries_eq_map, List.map_map]
  rfl

/-! ## Tags -/

inductive Tag where
  | objectId
  | date
  | numberLong
  | numberDecimal
  | regex
  deriving DecidableEq

namespace Tag

/-- The tags in the order in which they are tried. -/
def all : List Tag :=
  [objectId, date, numberLong, numberDecimal, regex]

/-- What a mapping says under a tag: nothing without a payload of the kind that the tag takes, and
else the value that the payload converts to, if it does. -/
def read? (fs : Fields) : Tag → Option (Option Value)
  | objectId =>
    (textUnder? fs "$oid").map fun s => (HexId.ofText? 24 s).map (.native <| .objectId ·)
  | date => (fs.get? "$date").map fun raw => (instant? raw).map (.native <| .dateTime ·)
  | numberLong => (textUnder? fs "$numberLong").map fun s => some (.string s)
  | numberDecimal => (textUnder? fs "$numberDecimal").map fun s => some (.string s)
  | regex =>
    (textUnder? fs "$regex").map fun s => some (.native (.regex (.ofLetters s (optionLetters fs))))

end Tag

/-- What a mapping says under the first of its tags that has a payload. -/
def firstTag? (fs : Fields) : Option (Option Value) :=
  Tag.all.findSome? (Tag.read? fs)

/-- The first tag with a payload decides, whether the payload converts or not. -/
theorem tagged?_eq (fs : Fields) : tagged? fs = (firstTag? fs).map (·.getD (.map fs)) := by
  simp only [tagged?, firstTag?, Tag.all, List.findSome?_cons, List.findSome?_nil, Tag.read?]
  cases textUnder? fs "$oid" with
  | some s => rfl
  | none =>
    cases fs.get? "$date" with
    | some raw => rfl
    | none =>
      cases textUnder? fs "$numberLong" with
      | some s => rfl
      | none =>
        cases textUnder? fs "$numberDecimal" with
        | some s => rfl
        | none => cases textUnder? fs "$regex" <;> rfl

def isNativeOrText : Value → Bool
  | .native _ | .string _ => true
  | _ => false

theorem isNativeOrText_of_read? {fs : Fields} {t : Tag} {v : Value}
    (h : t.read? fs = some (some v)) : isNativeOrText v = true := by
  cases t <;> simp only [Tag.read?, Option.map_eq_some_iff, Option.some.injEq] at h
  case objectId | date =>
    obtain ⟨_, _, _, _, rfl⟩ := h
    rfl
  case numberLong | numberDecimal | regex =>
    obtain ⟨_, _, rfl⟩ := h
    rfl

theorem isNativeOrText_of_firstTag? {fs : Fields} {v : Value}
    (h : firstTag? fs = some (some v)) : isNativeOrText v = true := by
  obtain ⟨t, -, ht⟩ := List.exists_of_findSome?_eq_some h
  exact isNativeOrText_of_read? ht

/-- A tag puts a native value or a text in the place of its mapping. -/
theorem decode_map_of_converts {fs : Fields} {v : Value} (h : firstTag? fs = some (some v)) :
    decode (.map fs) = v := by
  rw [decode_map, tagged?_eq, h]
  rfl

theorem decode_map_of_not_converts {fs : Fields} (h : firstTag? fs = some none) :
    decode (.map fs) = .map fs := by
  rw [decode_map, tagged?_eq, h]
  rfl

theorem decode_map_of_no_tag {fs : Fields} (h : firstTag? fs = none) :
    decode (.map fs) = .map (decodeEntries fs) := by
  rw [decode_map, tagged?_eq, h]
  rfl

/-- A mapping becomes a native value or a text, stays as it is, or has its values decoded. -/
theorem decode_map_cases (fs : Fields) :
    isNativeOrText (decode (.map fs)) = true ∨ decode (.map fs) = .map fs ∨
      decode (.map fs) = .map (decodeEntries fs) := by
  cases h : firstTag? fs with
  | none => exact .inr (.inr (decode_map_of_no_tag h))
  | some x =>
    cases x with
    | none => exact .inr (.inl (decode_map_of_not_converts h))
    | some v =>
      rw [decode_map_of_converts h]
      exact .inl (isNativeOrText_of_firstTag? h)

/-! ## Keys -/

theorem allKeys_of_isNativeOrText {v : Value} (h : isNativeOrText v = true) : v.allKeys = [] := by
  cases v with
  | native | string => rfl
  | _ => simp [isNativeOrText] at h

mutual

theorem allKeys_decode_subset : (v : Value) → (decode v).allKeys ⊆ v.allKeys
  | .map es => by
    rcases decode_map_cases es with h | h | h
    · rw [allKeys_of_isNativeOrText h]
      exact List.nil_subset _
    · rw [h]
      exact List.Subset.refl _
    · rw [h, allKeys_map, allKeys_map]
      exact entryKeys_decodeEntries_subset es
  | .list vs => by
    rw [decode, allKeys_list, allKeys_list]
    exact itemKeys_decodeItems_subset vs
  | .null | .bool _ | .int _ | .float _ | .string _ | .tuple _ | .native _ => by simp [decode]

theorem entryKeys_decodeEntries_subset : (es : Fields) →
    entryKeys (decodeEntries es) ⊆ entryKeys es
  | [] => by
    rw [decodeEntries]
    exact List.Subset.refl _
  | (k, v) :: es => by
    rw [decodeEntries, entryKeys_cons, entryKeys_cons]
    exact List.cons_subset_cons _
      (append_subset_append (allKeys_decode_subset v) (entryKeys_decodeEntries_subset es))

theorem itemKeys_decodeItems_subset : (vs : List Value) →
    itemKeys (decodeItems vs) ⊆ itemKeys vs
  | [] => by
    rw [decodeItems]
    exact List.Subset.refl _
  | v :: vs => by
    rw [decodeItems, itemKeys_cons, itemKeys_cons]
    exact append_subset_append (allKeys_decode_subset v) (itemKeys_decodeItems_subset vs)

end

/-! ## Mappings that come out of decoding -/

theorem exists_map_of_decode {v : Value} {fs : Fields} (h : decode v = .map fs) :
    ∃ es, v = .map es ∧ (fs = es ∨ fs = decodeEntries es) := by
  cases v with
  | map es =>
    refine ⟨es, rfl, ?_⟩
    rcases decode_map_cases es with hc | hc | hc
    · rw [h] at hc
      exact Bool.noConfusion hc
    · exact .inl (Value.map.inj (h.symm.trans hc))
    · exact .inr (Value.map.inj (h.symm.trans hc))
  | _ => simp [decode] at h

theorem keys_of_decode {es fs : Fields} (h : decode (.map es) = .map fs) : fs.keys = es.keys := by
  obtain ⟨es', he, hf⟩ := exists_map_of_decode h
  obtain rfl := Value.map.inj he
  rcases hf with rfl | rfl
  · rfl
  · exact keys_decodeEntries es

theorem eq_emptyMap_of_decode {v : Value} (h : decode v = .map []) : v = .map [] := by
  obtain ⟨es, rfl, -⟩ := exists_map_of_decode h
  have hk := keys_of_decode h
  rw [List.map_eq_nil_iff.mp hk.symm]

theorem eq_emptyMatch_of_decode {v : Value} (h : decode v = .map [("$match", .map [])]) :
    v = .map [("$match", .map [])] := by
  obtain ⟨es, rfl, he | he⟩ := exists_map_of_decode h
  · rw [he]
  · rw [decodeEntries_eq_map] at he
    obtain ⟨⟨k, w⟩, rfl, hkw⟩ := List.map_eq_singleton_iff.mp he.symm
    obtain ⟨rfl, hw⟩ := Prod.mk.inj hkw
    have hw' : w = .map [] := eq_emptyMap_of_decode hw
    rw [hw']

end QueryWarden.ExtendedJson
