import QueryWarden.Proofs.ExtendedJson.Decode
import QueryWarden.Proofs.Value.Trees

/-!
# Where decoded values come from

A mapping is unread when its first tag has a payload that does not convert: an id or a date, as no
other payload can fail (`isUnread_iff`).  It stays as it is, with all that stands in it.

What stands at a path of a decoded tree is what the tree has at this path, decoded, unless the path
leads through an unread mapping (`at?_decode`).
-/

namespace QueryWarden.ExtendedJson

open Value

/-- Whether a mapping has an id or a date as its first tag and its payload does not convert. -/
def IsUnread (fs : Fields) : Prop :=
  (∃ s, textUnder? fs "$oid" = some s ∧ HexId.ofText? 24 s = none) ∨
    textUnder? fs "$oid" = none ∧ ∃ raw, fs.get? "$date" = some raw ∧ instant? raw = none

theorem isUnread_iff {fs : Fields} : IsUnread fs ↔ firstTag? fs = some none := by
  unfold IsUnread
  simp only [firstTag?, Tag.all, List.findSome?_cons, List.findSome?_nil, Tag.read?]
  cases textUnder? fs "$oid" with
  | some s => simp
  | none =>
    cases fs.get? "$date" with
    | some raw => simp
    | none =>
      cases textUnder? fs "$numberLong" with
      | some s => simp
      | none =>
        cases textUnder? fs "$numberDecimal" with
        | some s => simp
        | none => cases textUnder? fs "$regex" <;> simp

theorem parts_of_isNativeOrText {v : Value} (h : isNativeOrText v = true) : v.parts = [] := by
  cases v with
  | native | string => rfl
  | _ => simp [isNativeOrText] at h

theorem parts_map_decodeEntries (es : Fields) :
    (map (decodeEntries es)).parts = (map es).parts.map decode := by
  rw [decodeEntries_eq_map]
  simp [parts]

/-- A decoded tree has no parts, or its parts are decoded, or it is an unread mapping. -/
theorem parts_decode_cases {p : Native → Bool} {v : Value} (hv : v.isTree p = true) :
    (decode v).parts = [] ∨ (decode v).parts = v.parts.map decode ∨
      ∃ fs, v = .map fs ∧ IsUnread fs := by
  cases v with
  | map es =>
    cases h : firstTag? es with
    | none =>
      rw [decode_map_of_no_tag h]
      exact .inr (.inl (parts_map_decodeEntries es))
    | some x =>
      cases x with
      | none => exact .inr (.inr ⟨es, rfl, isUnread_iff.mpr h⟩)
      | some w =>
        rw [decode_map_of_converts h]
        exact .inl (parts_of_isNativeOrText (isNativeOrText_of_firstTag? h))
  | list vs =>
    rw [decode_list]
    exact .inr (.inl rfl)
  | tuple vs => simp [isTree] at hv
  | _ => exact .inl (by rw [decode] <;> simp [parts])

/-- A path into a decoded tree leads to a decoded value, or it leads through an unread mapping. -/
theorem at?_decode {p : Native → Bool} {v w : Value} {path : List Nat} (hv : v.isTree p = true)
    (hw : (decode v).at? path = some w) :
    (∃ u, v.at? path = some u ∧ decode u = w) ∨
      ∃ front fs, front <+: path ∧ v.at? front = some (.map fs) ∧ IsUnread fs ∧
        (decode v).at? front = some (.map fs) := by
  induction path generalizing v with
  | nil => exact .inl ⟨v, rfl, Option.some.inj hw⟩
  | cons i path ih =>
    obtain ⟨part, hi, hpart⟩ := at?_cons_eq_some.mp hw
    rcases parts_decode_cases hv with h | h | ⟨fs, rfl, hfs⟩
    · simp [h] at hi
    · rw [h, List.getElem?_map] at hi
      obtain ⟨u, hu, rfl⟩ := Option.map_eq_some_iff.mp hi
      have hu' := isTree_of_mem_parts hv (List.mem_of_getElem? hu)
      rcases ih hu' hpart with ⟨x, hx, hxw⟩ | ⟨front, fs, hfront, hx, hfs, hd⟩
      · exact .inl ⟨x, at?_cons_eq_some.mpr ⟨u, hu, hx⟩, hxw⟩
      · refine .inr ⟨i :: front, fs, List.cons_prefix_cons.mpr ⟨rfl, hfront⟩,
          at?_cons_eq_some.mpr ⟨u, hu, hx⟩, hfs, at?_cons_eq_some.mpr ⟨decode u, ?_, hd⟩⟩
        rw [h, List.getElem?_map, hu]
        rfl
    · exact .inr ⟨[], fs, List.nil_prefix, rfl, hfs, by
        rw [decode_map_of_not_converts (isUnread_iff.mp hfs), at?_nil]⟩

/-- A native value in a decoded tree was one before, or a tagged mapping stood in its place. -/
theorem native_at?_decode {p : Native → Bool} {v : Value} {path : List Nat} {n : Native}
    (hv : v.isTree p = true) (hn : (decode v).at? path = some (.native n)) :
    v.at? path = some (.native n) ∨
      ∃ fs, v.at? path = some (.map fs) ∧ firstTag? fs = some (some (.native n)) := by
  rcases at?_decode hv hn with ⟨u, hu, hun⟩ | ⟨front, fs, ⟨behind, rfl⟩, hfront, -, hd⟩
  · cases u with
    | map fs =>
      refine .inr ⟨fs, hu, ?_⟩
      cases h : firstTag? fs with
      | none => simp [decode_map_of_no_tag h] at hun
      | some x =>
        cases x with
        | none => simp [decode_map_of_not_converts h] at hun
        | some w => rw [← hun, decode_map_of_converts h]
    | native m =>
      rw [← hun, decode]
      · exact .inl hu
      all_goals simp
    | _ => simp [decode] at hun
  · -- Below an unread mapping nothing changes.
    rw [at?_append, hd] at hn
    rw [at?_append, hfront]
    exact .inl hn

end QueryWarden.ExtendedJson
