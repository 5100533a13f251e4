import QueryWarden.ExtendedJson.Encode
import QueryWarden.Proofs.Http.Responses

/-!
# What encoding makes

An encoded tree is one of JSON (`isJson_encode`): the mappings have their keys and the lists their
items, patterns are clauses, all other native values are texts, and plain scalars are kept as they
are (`encodes_at`).  So a second encoding changes nothing (`encode_encode`).

Plain scalars include the doubles that no JSON text can write.  A writer of strict JSON therefore accepts
an encoded tree exactly when all doubles of the tree are finite (`encode_is_strict_iff`).
-/

namespace QueryWarden.ExtendedJson

open Value

/-! ## The parts of an encoded tree -/

theorem encodeEntries_eq_map (es : Fields) :
    encodeEntries es = es.map fun e => (e.1, encode e.2) := by
  induction es with
  | nil => rw [encodeEntries, List.map_nil]
  | cons e es ih =>
    obtain ⟨k, v⟩ := e
    rw [encodeEntries, ih, List.map_cons]

theorem encodeItems_eq_map (vs : List Value) : encodeItems vs = vs.map encode := by
  induction vs with
  | nil => rw [encodeItems, List.map_nil]
  | cons v vs ih => rw [encodeItems, ih, List.map_cons]

theorem encode_map (es : Fields) :
    encode (.map es) = .map (es.map fun e => (e.1, encode e.2)) := by
  rw [encode, encodeEntries_eq_map]

theorem encode_list (vs : List Value) : encode (.list vs) = .list (vs.map encode) := by
  rw [encode, encodeItems_eq_map]

theorem encode_tuple (vs : List Value) : encode (.tuple vs) = .list (vs.map encode) := by
  rw [encode, encodeItems_eq_map]

theorem encode_native (n : Native) : encode (.native n) = encodeNative n := by rw [encode]

/-- A native value becomes the clause of a pattern or a text. -/
theorem encodeNative_cases (n : Native) :
    (∃ r, n = .regex r ∧ encodeNative n = regexClause r) ∨ ∃ s, encodeNative n = .string s := by
  cases n with
  | regex r => exact .inl ⟨r, rfl, rfl⟩
  | _ => exact .inr ⟨_, rfl⟩

theorem parts_encode_of_not_native {v : Value} (h : ∀ n, v ≠ .native n) :
    (encode v).parts = v.parts.map encode := by
  cases v with
  | map es =>
    rw [encode_map]
    simp [parts]
  | list vs =>
    rw [encode_list]
    rfl
  | tuple vs =>
    rw [encode_tuple]
    rfl
  | native n => exact absurd rfl (h n)
  | _ => rw [encode] <;> simp [parts]

/-- What holds at the root of an encoded value, and of all texts, holds in all of its places when it
holds in those of its encoded parts. -/
theorem everywhere_encode {P : Value → Prop} {v : Value} (hroot : P (encode v))
    (htext : ∀ s, P (.string s)) (hparts : ∀ part ∈ v.parts, (encode part).Everywhere P) :
    (encode v).Everywhere P := by
  refine everywhere_iff.mpr ⟨hroot, fun part hpart => ?_⟩
  have hstring : ∀ s, (Value.string s).Everywhere P := fun s =>
    everywhere_iff.mpr ⟨htext s, fun part hpart => absurd hpart List.not_mem_nil⟩
  cases v with
  | native n =>
    rw [encode_native] at hpart
    rcases encodeNative_cases n with ⟨r, -, hn⟩ | ⟨s, hn⟩
    · rw [hn] at hpart
      simp only [regexClause, parts, List.map_cons, List.map_nil, List.mem_cons,
        List.not_mem_nil, or_false] at hpart
      rcases hpart with rfl | rfl
      · exact hstring _
      · exact hstring _
    · rw [hn] at hpart
      exact absurd hpart List.not_mem_nil
  | _ =>
    rw [parts_encode_of_not_native (by simp)] at hpart
    obtain ⟨u, hu, rfl⟩ := List.mem_map.mp hpart
    exact hparts u hu

/-! ## Trees of JSON -/

/-- A value that JSON has, its parts apart. -/
def IsPlain : Value → Prop
  | .native _ | .tuple _ => False
  | _ => True

/-- A tree of null, booleans, numbers, strings, lists and mappings. -/
def IsJson (v : Value) : Prop :=
  v.Everywhere IsPlain

theorem isPlain_encode (v : Value) : IsPlain (encode v) := by
  cases v with
  | map es =>
    rw [encode_map]
    trivial
  | list vs =>
    rw [encode_list]
    trivial
  | tuple vs =>
    rw [encode_tuple]
    trivial
  | native n =>
    rw [encode_native]
    rcases encodeNative_cases n with ⟨r, -, hn⟩ | ⟨s, hn⟩
    · rw [hn]
      trivial
    · rw [hn]
      trivial
  | _ => rw [encode] <;> simp [IsPlain]

theorem isJson_encode (v : Value) : IsJson (encode v) := by
  induction v using parts_induction with
  | step v ih => exact everywhere_encode (isPlain_encode v) (fun _ => trivial) ih

theorem encode_of_isJson (v : Value) (h : IsJson v) : encode v = v := by
  induction v using parts_induction with
  | step v ih =>
    obtain ⟨hroot, hparts⟩ := everywhere_iff.mp h
    have hsame : ∀ part ∈ v.parts, encode part = part := fun part hpart =>
      ih part hpart (hparts part hpart)
    cases v with
    | map es =>
      rw [encode_map]
      refine congrArg Value.map ((List.map_congr_left fun e he => ?_).trans (List.map_id es))
      rw [hsame e.2 (List.mem_map_of_mem he)]
      rfl
    | list vs =>
      rw [encode_list]
      exact congrArg Value.list ((List.map_congr_left hsame).trans (List.map_id vs))
    | tuple vs => exact absurd hroot (by simp [IsPlain])
    | native n => exact absurd hroot (by simp [IsPlain])
    | _ => rw [encode] <;> simp

theorem encode_encode (v : Value) : encode (encode v) = encode v :=
  encode_of_isJson (encode v) (isJson_encode v)

/-! ## Place by place -/

/-- What a value becomes, its parts apart. -/
def Encodes : Value → Value → Prop
  | .map fs, w => ∃ gs : Fields, w = .map gs ∧ gs.keys = Fields.keys fs
  | .list vs, w | .tuple vs, w => ∃ ws, w = .list ws ∧ ws.length = vs.length
  | .native (.regex r), w =>
    ∃ letters, w = .map [("$regex", .string r.pattern), ("$options", .string letters)]
  | .native _, w => ∃ s, w = .string s
  | v, w => w = v

theorem encodes_encode (v : Value) : Encodes v (encode v) := by
  cases v with
  | map es =>
    rw [encode_map]
    exact ⟨_, rfl, by simp [Fields.keys]⟩
  | list vs =>
    rw [encode_list]
    exact ⟨_, rfl, List.length_map _⟩
  | tuple vs =>
    rw [encode_tuple]
    exact ⟨_, rfl, List.length_map _⟩
  | native n =>
    rw [encode_native]
    cases n with
    | regex r => exact ⟨_, rfl⟩
    | _ => exact ⟨_, rfl⟩
  | _ => rw [encode] <;> simp [Encodes]

theorem at?_encode {v u : Value} {path : List Nat} (h : v.at? path = some u) :
    (encode v).at? path = some (encode u) := by
  induction path generalizing v with
  | nil =>
    obtain rfl := Option.some.inj h
    rfl
  | cons i path ih =>
    obtain ⟨part, hi, hpart⟩ := at?_cons_eq_some.mp h
    have hnative : ∀ n, v ≠ .native n := by
      rintro n rfl
      simp [parts] at hi
    refine at?_cons_eq_some.mpr ⟨encode part, ?_, ih hpart⟩
    rw [parts_encode_of_not_native hnative, List.getElem?_map, hi]
    rfl

theorem encodes_at {v u : Value} {path : List Nat} (h : v.at? path = some u) :
    ∃ w, (encode v).at? path = some w ∧ Encodes u w :=
  ⟨encode u, at?_encode h, encodes_encode u⟩

/-! ## Strict JSON -/

theorem isWritable_encode {v : Value} : Http.IsWritable (encode v) ↔ Http.IsWritable v := by
  cases v with
  | float x => rw [encode] <;> simp
  | map es =>
    rw [encode_map]
    simp [Http.IsWritable]
  | list vs =>
    rw [encode_list]
    simp [Http.IsWritable]
  | tuple vs =>
    rw [encode_tuple]
    simp [Http.IsWritable]
  | native n =>
    rw [encode_native]
    rcases encodeNative_cases n with ⟨r, -, hn⟩ | ⟨s, hn⟩
    · rw [hn]
      simp [Http.IsWritable, regexClause]
    · rw [hn]
      simp [Http.IsWritable]
  | _ => rw [encode] <;> simp

/-- Encoding keeps the doubles of a tree and makes no others. -/
theorem everywhere_isWritable_encode (v : Value) :
    (encode v).Everywhere Http.IsWritable ↔ v.Everywhere Http.IsWritable := by
  constructor
  · intro h path u hu
    exact isWritable_encode.mp (h path (encode u) (at?_encode hu))
  · intro h
    induction v using parts_induction with
    | step v ih =>
      obtain ⟨hroot, hparts⟩ := everywhere_iff.mp h
      exact everywhere_encode (isWritable_encode.mpr hroot)
        (fun s => Http.isWritable_of_ne_float (by simp))
        fun part hpart => ih part hpart (hparts part hpart)

/-- An encoded tree is one of JSON with the containers and the plain scalars of the tree, and a second
encoding changes nothing.  It is one of strict JSON, and a response can show it, exactly when all doubles
of the tree are finite. -/
theorem encode_is_strict_iff (v : Value) :
    IsJson (encode v) ∧
    (∀ path u, v.at? path = some u → ∃ w, (encode v).at? path = some w ∧ Encodes u w) ∧
    encode (encode v) = encode v ∧
    (Http.isStrict (encode v) = true ↔ v.Everywhere Http.IsWritable) ∧
    (v.Everywhere Http.IsWritable →
      Http.respond (encode v) = .ok ⟨200, Http.dropInternal (encode v)⟩) := by
  refine ⟨isJson_encode v, fun path u hu => encodes_at hu, encode_encode v, ?_, fun h => ?_⟩
  · rw [Http.isStrict_iff, everywhere_isWritable_encode]
  · exact Http.respond_of_everywhere ((everywhere_isWritable_encode v).mpr h)

/-- A double that is not a number stays in an encoded document, which no response can show. -/
theorem encode_keeps_undefined_double :
    let doc : Value := .map [("score", .float .nan)]
    encode doc = doc ∧ Http.isStrict (encode doc) = false ∧
      Http.respond (encode doc) =
        .error (.value "Out of range float values are not JSON compliant") := by
  decide +kernel

end QueryWarden.ExtendedJson
