import QueryWarden.Proofs.ExtendedJson.Encode
import QueryWarden.Proofs.ExtendedJson.Lossless
import QueryWarden.Proofs.Pattern.Flags
import QueryWarden.Proofs.Text.Digits
import QueryWarden.Proofs.Value.Replacement

/-!
# Decoding and encoding, one after the other

On trees of plain values and patterns, decoding undoes encoding (`decode_encode`), except that the
flags of all patterns then count as given by letters.  On plain trees whose tags belong to literals
of identifiers, numbers and patterns, encoding after decoding gives the literals their plain
spelling and changes nothing else (`encode_decode`).
-/

namespace QueryWarden.ExtendedJson

open Value

/-! ## Tags -/

def tagKeys : List String :=
  ["$oid", "$date", "$numberLong", "$numberDecimal", "$regex"]

/-- Whether no key of a mapping is that of a tag. -/
def LacksTags (fs : Fields) : Prop :=
  ∀ k ∈ tagKeys, k ∉ fs.keys

instance : DecidablePred LacksTags := fun fs =>
  inferInstanceAs (Decidable (∀ k ∈ tagKeys, k ∉ fs.keys))

theorem get?_of_lacksTags {fs : Fields} (h : LacksTags fs) {k : String} (hk : k ∈ tagKeys) :
    fs.get? k = none := by
  cases hv : fs.get? k with
  | none => rfl
  | some v => exact absurd (Fields.mem_keys_of_get? hv) (h k hk)

theorem firstTag?_of_lacksTags {fs : Fields} (h : LacksTags fs) : firstTag? fs = none := by
  have hget : ∀ k ∈ tagKeys, fs.get? k = none := fun k => get?_of_lacksTags h
  have htext : ∀ k ∈ tagKeys, textUnder? fs k = none := fun k hk => by
    rw [textUnder?, hget k hk, Option.bind_none]
  refine List.findSome?_eq_none_iff.mpr fun t _ => ?_
  cases t with
  | date => rw [Tag.read?, hget "$date" (by decide), Option.map_none]
  | _ => rw [Tag.read?, htext _ (by decide), Option.map_none]

theorem decode_map_of_lacksTags {fs : Fields} (h : LacksTags fs) :
    decode (.map fs) = .map (fs.map fun e => (e.1, decode e.2)) := by
  rw [decode_map_of_no_tag (firstTag?_of_lacksTags h), decodeEntries_eq_map]

/-! ## Decoding after encoding -/

/-- Whether a value, its parts apart, is a plain one without tags or a pattern with known flags. -/
def IsPlainOrPattern : Value → Prop
  | .map fs => LacksTags fs
  | .native (.regex r) => Pattern.IsFlagUnion r.flags
  | .native _ | .tuple _ => False
  | _ => True

/-- A pattern with its flags given by letters.  It is the same pattern: how the flags were given shows
in its literal only. -/
def named? : Value → Option Value
  | .native (.regex r) => some (.native (.regex { r with named := true }))
  | _ => none

/-- The same tree with the flags of all patterns given by letters. -/
def nameFlags (v : Value) : Value :=
  v.replace named?

/-- Whether a value, its parts apart, is no pattern or one whose flags were given by letters. -/
def HasNamedFlags : Value → Prop
  | .native (.regex r) => r.named = true
  | _ => True

theorem nameFlags_eq_self {v : Value} (h : v.Everywhere HasNamedFlags) : nameFlags v = v := by
  refine replace_eq_self fun path w hw u hu => ?_
  have hnamed := h path w hw
  unfold named? at hu
  split at hu
  · rename_i r
    rw [← Option.some.inj hu]
    have hname : r.named = true := hnamed
    rw [← hname]
  · exact absurd hu.symm (Option.some_ne_none u)

theorem decode_regexClause {r : Regex} (h : Pattern.IsFlagUnion r.flags) :
    decode (regexClause r) = .native (.regex { r with named := true }) := by
  have hread : decode (regexClause r)
      = .native (.regex (.ofLetters r.pattern (Pattern.lettersOfFlags r.flags))) :=
    decode_map_of_converts (firstTag?_of_literal? rfl)
  rw [hread, Regex.ofLetters, Pattern.flagsOfLetters_lettersOfFlags h]

/-- Decoding undoes encoding on trees of plain values and patterns. -/
theorem decode_encode {v : Value} (h : v.Everywhere IsPlainOrPattern) :
    decode (encode v) = nameFlags v := by
  refine eq_replace (g := decode ∘ encode) ?_ ?_ ?_ ?_ h
  · intro v u hv hu
    unfold named? at hu
    split at hu
    · rw [← Option.some.inj hu, Function.comp_apply, encode_native, encodeNative]
      exact decode_regexClause hv
    · exact absurd hu.symm (Option.some_ne_none u)
  · intro es hes _
    have hkeys : LacksTags (es.map fun e => (e.1, encode e.2)) := by
      intro k hk
      rw [Fields.keys, List.map_map]
      exact hes k hk
    rw [Function.comp_apply, encode_map, decode_map_of_lacksTags hkeys, List.map_map]
    rfl
  · intro vs _ _
    rw [Function.comp_apply, encode_list, decode_list, List.map_map]
  · intro v hv hcontainer hnone
    cases v with
    | map | list => exact Bool.noConfusion hcontainer
    | tuple => exact hv.elim
    | native n =>
      cases n with
      | regex r => exact absurd hnone (Option.some_ne_none _)
      | _ => exact hv.elim
    | _ => simp [encode, decode]

/-! ## Encoding after decoding -/

/-- The plain spelling of a mapping that is exactly one literal of an identifier, a number or a
pattern. -/
def spelled? : Fields → Option Value
  | [("$oid", .string s)] => if HexId.IsDigits 24 s then some (.string s.toLower) else none
  | [("$numberLong", .string s)] => some (.string s)
  | [("$numberDecimal", .string s)] => some (.string s)
  | [("$regex", .string p)] => some (.map [("$regex", .string p), ("$options", .string "")])
  | [("$regex", .string p), ("$options", .string o)]
  | [("$options", .string o), ("$regex", .string p)] =>
    some (.map [("$regex", .string p), ("$options", .string (Pattern.recognised o))])
  | _ => none

/-- Whether a value, its parts apart, is a plain one whose tags are those of a literal of an
identifier, a number or a pattern. -/
def IsPlainOrLiteral : Value → Prop
  | .map fs => LacksTags fs ∨ (spelled? fs).isSome
  | .native _ | .tuple _ => False
  | _ => True

/-- The same tree with the literals in their plain spelling. -/
def spellLiterals (v : Value) : Value :=
  v.replace fun w => w.fields?.bind spelled?

theorem encode_decode_of_literal? {fs : Fields} {p o : String}
    (h : literal? fs = some (.native (.regex (.ofLetters p o)))) :
    encode (decode (.map fs))
      = .map [("$regex", .string p), ("$options", .string (Pattern.recognised o))] := by
  rw [decode_map_of_converts (firstTag?_of_literal? h), encode_native, encodeNative, regexClause,
    ← Pattern.lettersOfFlags_flagsOfLetters]
  rfl

/-- A literal comes back in its plain spelling. -/
theorem encode_decode_of_spelled? {fs : Fields} {u : Value} (h : spelled? fs = some u) :
    encode (decode (.map fs)) = u := by
  unfold spelled? at h
  split at h
  case h_1 s =>
    split_ifs at h with hs
    obtain ⟨x, hx, htext⟩ := HexId.exists_ofText? hs
    have hread : literal? [("$oid", .string s)] = some (.native (.objectId x)) := by
      rw [literal?, hx]
      rfl
    rw [decode_map_of_converts (firstTag?_of_literal? hread), encode_native, ← Option.some.inj h,
      ← htext]
    rfl
  case h_2 s | h_3 s =>
    rw [decode_map_of_converts (firstTag?_of_literal? rfl), ← Option.some.inj h, encode] <;> simp
  case h_4 p =>
    have hread : literal? [("$regex", .string p)] = some (.native (.regex (.ofLetters p ""))) := rfl
    rw [← Option.some.inj h, encode_decode_of_literal? hread]
    rfl
  case h_5 p o | h_6 o p =>
    rw [← Option.some.inj h]
    exact encode_decode_of_literal? rfl
  case h_7 => exact absurd h.symm (Option.some_ne_none u)

/-- Encoding after decoding spells literals plainly and changes nothing else. -/
theorem encode_decode {w : Value} (h : w.Everywhere IsPlainOrLiteral) :
    encode (decode w) = spellLiterals w := by
  refine eq_replace (g := encode ∘ decode) ?_ ?_ ?_ ?_ h
  · intro v u _ hu
    obtain ⟨fs, hfs, hspelled⟩ := Option.bind_eq_some_iff.mp hu
    cases v with
    | map es =>
      obtain rfl := Option.some.inj hfs
      exact encode_decode_of_spelled? hspelled
    | _ => exact absurd hfs.symm (Option.some_ne_none fs)
  · intro es hes hnone
    have hkeys : LacksTags es := hes.resolve_right fun hsome => by
      rw [show spelled? es = none from hnone] at hsome
      exact Bool.noConfusion hsome
    rw [Function.comp_apply, decode_map_of_lacksTags hkeys, encode_map, List.map_map]
    rfl
  · intro vs _ _
    rw [Function.comp_apply, decode_list, encode_list, List.map_map]
  · intro v hv hcontainer _
    cases v with
    | map | list => exact Bool.noConfusion hcontainer
    | tuple | native => exact hv.elim
    | _ => simp [encode, decode]

/-- **The two directions agree.**  A tree of plain values and patterns with known flags comes back from
encoding and decoding with the flags of its patterns given by letters, which is the same tree when
they were.  A plain tree whose tags belong to literals of identifiers, numbers and patterns comes
back from decoding and encoding with each literal in its plain spelling. -/
theorem directions_agree :
    (∀ v : Value, v.Everywhere IsPlainOrPattern →
      decode (encode v) = nameFlags v ∧
        (v.Everywhere HasNamedFlags → decode (encode v) = v)) ∧
    ∀ w : Value, w.Everywhere IsPlainOrLiteral → encode (decode w) = spellLiterals w := by
  refine ⟨fun v hv => ⟨decode_encode hv, fun hnamed => ?_⟩, fun w hw => encode_decode hw⟩
  rw [decode_encode hv, nameFlags_eq_self hnamed]

/-- A pattern with flags given by letters comes back as it is; one with flags given by a number has
them given by letters.  Digits of an identifier come back in lower case and options in their order. -/
theorem directions_agree_on_users :
    let stored : Value := .map [("name", .native (.regex ⟨"^j", 66, true⟩)), ("age", .int 30)]
    let numbered : Value := .list [.null, .native (.regex ⟨"a$", 8, false⟩)]
    let sent : Value := .map [("_id", .map [("$oid", .string "507F1F77BCF86CD799439011")]),
      ("$or", .list [.map [("name", .map [("$options", .string "xiqi"), ("$regex", .string "^a")])],
        .map [("$numberLong", .string "9007199254740993")]])]
    decode (encode stored) = stored ∧
      decode (encode numbered) = .list [.null, .native (.regex ⟨"a$", 8, true⟩)] ∧
      encode (decode sent) = .map [("_id", .string "507f1f77bcf86cd799439011"),
        ("$or", .list [.map [("name", .map [("$regex", .string "^a"), ("$options", .string "ix")])],
          .string "9007199254740993"])] := by
  intro stored numbered sent
  have hstored : stored.Everywhere IsPlainOrPattern := by
    simp only [stored, everywhere_map, List.forall_mem_cons]
    refine ⟨show LacksTags _ by decide, ?_, ?_, fun e he => absurd he List.not_mem_nil⟩
    · exact (everywhere_of_isLeaf rfl).mpr ⟨[(2, 'i'), (64, 'x')], by decide, rfl⟩
    · exact (everywhere_of_isLeaf rfl).mpr trivial
  have hnamed : stored.Everywhere HasNamedFlags := by
    simp only [stored, everywhere_map, List.forall_mem_cons]
    refine ⟨trivial, ?_, ?_, fun e he => absurd he List.not_mem_nil⟩
    · exact (everywhere_of_isLeaf rfl).mpr rfl
    · exact (everywhere_of_isLeaf rfl).mpr trivial
  have hnumbered : numbered.Everywhere IsPlainOrPattern := by
    simp only [numbered, everywhere_list, List.forall_mem_cons]
    refine ⟨trivial, ?_, ?_, fun v hv => absurd hv List.not_mem_nil⟩
    · exact (everywhere_of_isLeaf rfl).mpr trivial
    · exact (everywhere_of_isLeaf rfl).mpr ⟨[(8, 'm')], by decide, rfl⟩
  have hsent : sent.Everywhere IsPlainOrLiteral := by
    have htext : ∀ s, (Value.string s).Everywhere IsPlainOrLiteral := fun s =>
      (everywhere_of_isLeaf rfl).mpr trivial
    simp only [sent, everywhere_map, everywhere_list, List.forall_mem_cons, htext, true_and]
    simp only [IsPlainOrLiteral, List.not_mem_nil, false_implies, implies_true, and_true]
    decide +kernel
  refine ⟨(directions_agree.1 stored hstored).2 hnamed, ?_, ?_⟩
  · exact (directions_agree.1 numbered hnumbered).1.trans (by decide +kernel)
  · exact (directions_agree.2 sent hsent).trans (by decide +kernel)

end QueryWarden.ExtendedJson
