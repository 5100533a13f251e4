import QueryWarden.Proofs.ExtendedJson.Places
import QueryWarden.Proofs.Query.Residue

/-!
# Paths through sanitation and decoding

Sanitation drops parts of a tree, so what stays moves up among its neighbours.  `keptPath?` says where
to: at this path the sanitized tree has what sanitation makes of the part (`at?_residue`).

Decoding keeps the places of a tree, except below the mappings that it reads as a whole.  So a decoded
tree has the decoded part at the same path, or the path leads into a mapping with a tag
(`at?_decode_residue`).
-/

namespace QueryWarden

theorem getElem?_filter_countP {α : Type} {p : α → Bool} {a : α} (ha : p a = true) {xs : List α}
    {i : Nat} (h : xs[i]? = some a) : (xs.filter p)[(xs.take i).countP p]? = some a := by
  induction xs generalizing i with
  | nil => simp at h
  | cons x xs ih =>
    cases i with
    | zero =>
      obtain rfl : x = a := by simpa using h
      rw [List.filter_cons_of_pos ha, List.take_zero, List.countP_nil]
      rfl
    | succ i =>
      have hrest := ih (by simpa using h)
      rw [List.take_succ_cons]
      cases hx : p x with
      | true => rwa [List.filter_cons_of_pos hx, List.countP_cons_of_pos hx, List.getElem?_cons_succ]
      | false => rwa [List.filter_cons_of_neg (by simp [hx]), List.countP_cons_of_neg (by simp [hx])]

namespace Sanitation

open Value

/-! ## Sanitation -/

def itemEdges (i : Nat) : List Value → List Edge
  | [] => []
  | v :: vs => .item i v :: itemEdges (i + 1) vs

/-- The steps from a tree to its parts. -/
def edges : Value → List Edge
  | .map es => es.map fun e => .entry es e.1 e.2
  | .list vs => itemEdges 0 vs
  | _ => []

/-- The path in the sanitized tree to what is left at a path of a tree.  There is none when a part on
the way is dropped or becomes the text of options. -/
def keptPath? : Value → List Nat → Option (List Nat)
  | _, [] => some []
  | t, i :: path =>
    (edges t)[i]?.bind fun e =>
      if vanishes e || isRepairable e then none
      else (keptPath? e.part path).map
        ((((edges t).take i).countP fun e => !vanishes e) :: ·)

/-- What is left of a part that does not vanish. -/
def left (e : Edge) : Value :=
  if isRepairable e then .string e.part.toText else residue e.part

theorem map_part_itemEdges (i : Nat) (vs : List Value) : (itemEdges i vs).map Edge.part = vs := by
  induction vs generalizing i with
  | nil => rfl
  | cons v vs ih => rw [itemEdges, List.map_cons, ih]; rfl

theorem values_residueEntries (siblings : Fields) (es : List (String × Value)) :
    (residueEntries siblings es).map (·.2) =
      ((es.map fun e => Edge.entry siblings e.1 e.2).filter fun e => !vanishes e).map left := by
  induction es with
  | nil => rw [residueEntries]; rfl
  | cons e es ih =>
    obtain ⟨k, v⟩ := e
    rw [residueEntries, List.map_cons]
    cases hv : vanishes (.entry siblings k v) with
    | true => rw [if_pos rfl, List.filter_cons_of_neg (by simp [hv]), ih]
    | false =>
      rw [if_neg Bool.false_ne_true, List.filter_cons_of_pos (by simp [hv]), List.map_cons,
        List.map_cons, ih]
      rfl

theorem residueItems_eq_map (i : Nat) (vs : List Value) :
    residueItems i vs = ((itemEdges i vs).filter fun e => !vanishes e).map left := by
  induction vs generalizing i with
  | nil => rw [residueItems]; rfl
  | cons v vs ih =>
    rw [residueItems, itemEdges]
    cases hv : vanishes (.item i v) with
    | true => rw [if_pos rfl, List.filter_cons_of_neg (by simp [hv]), ih]
    | false =>
      rw [if_neg Bool.false_ne_true, List.filter_cons_of_pos (by simp [hv]), List.map_cons, ih]
      rfl

section Steps

variable {t : Value} {e : Edge} {i : Nat}

/-- A tree with parts is a mapping or a list, and sanitation leaves it one. -/
theorem container_of_edge (h : (edges t)[i]? = some e) :
    (∃ fs, residue t = .map fs) ∨ ∃ vs, residue t = .list vs := by
  cases t with
  | map es => exact .inl ⟨_, by rw [residue]⟩
  | list vs => exact .inr ⟨_, by rw [residue]⟩
  | _ => simp [edges] at h

theorem part_of_edge (h : (edges t)[i]? = some e) : t.parts[i]? = some e.part := by
  have hparts : t.parts = (edges t).map Edge.part := by
    cases t with
    | map es =>
      show es.map (·.2) = (es.map fun e => Edge.entry es e.1 e.2).map Edge.part
      rw [List.map_map]
      rfl
    | list vs => exact (map_part_itemEdges 0 vs).symm
    | _ => simp [edges] at h
  rw [hparts, List.getElem?_map, h]
  rfl

/-- The parts that stay are the parts of what is left, in their order. -/
theorem part_residue_of_edge (h : (edges t)[i]? = some e) (hv : vanishes e = false) :
    (residue t).parts[((edges t).take i).countP fun e => !vanishes e]? = some (left e) := by
  have hparts : (residue t).parts = ((edges t).filter fun e => !vanishes e).map left := by
    cases t with
    | map es =>
      rw [residue]
      exact values_residueEntries es es
    | list vs =>
      rw [residue]
      exact residueItems_eq_map 0 vs
    | _ => simp [edges] at h
  rw [hparts, List.getElem?_map, getElem?_filter_countP (by simp [hv]) h]
  rfl

end Steps

theorem keptPath?_cons_eq_some {t : Value} {i : Nat} {path path' : List Nat} :
    keptPath? t (i :: path) = some path' ↔
      ∃ e behind, (edges t)[i]? = some e ∧ vanishes e = false ∧ isRepairable e = false ∧
        keptPath? e.part path = some behind ∧
        path' = (((edges t).take i).countP fun e => !vanishes e) :: behind := by
  rw [keptPath?, Option.bind_eq_some_iff]
  constructor
  · rintro ⟨e, he, h⟩
    split_ifs at h with hstop
    obtain ⟨behind, hbehind, rfl⟩ := Option.map_eq_some_iff.mp h
    obtain ⟨hv, hr⟩ := Bool.or_eq_false_iff.mp (Bool.eq_false_iff.mpr hstop)
    exact ⟨e, behind, he, hv, hr, hbehind, rfl⟩
  · rintro ⟨e, behind, he, hv, hr, hbehind, rfl⟩
    refine ⟨e, he, ?_⟩
    rw [hv, hr, hbehind]
    rfl

/-- What stands at a path that is kept is left at the path to which it moves. -/
theorem at?_residue {t v : Value} {path path' : List Nat} (h : keptPath? t path = some path')
    (hv : t.at? path = some v) : (residue t).at? path' = some (residue v) := by
  induction path generalizing t path' with
  | nil =>
    obtain rfl := Option.some.inj hv
    obtain rfl := Option.some.inj h
    rfl
  | cons i path ih =>
    obtain ⟨e, behind, he, hvanish, hrepair, hbehind, rfl⟩ := keptPath?_cons_eq_some.mp h
    have hpart := part_residue_of_edge he hvanish
    rw [left, if_neg (Bool.eq_false_iff.mp hrepair)] at hpart
    rw [at?_cons, part_of_edge he, Option.bind_some] at hv
    exact at?_cons_eq_some.mpr ⟨_, hpart, ih hbehind hv⟩

end Sanitation

namespace ExtendedJson

open Value Sanitation

/-- Whether a path leads into a mapping with a tag, and `t'` has what the tag says in the place of the
whole mapping. -/
def IsTakenAbove (t t' : Value) (path : List Nat) : Prop :=
  ∃ front behind fs w, path = front ++ behind ∧ behind ≠ [] ∧ t.at? front = some (.map fs) ∧
    tagged? fs = some w ∧ t'.at? front = some w

theorem IsTakenAbove.under {t t' part part' : Value} {i : Nat} {path : List Nat}
    (hi : t.parts[i]? = some part) (hi' : t'.parts[i]? = some part')
    (h : IsTakenAbove part part' path) : IsTakenAbove t t' (i :: path) := by
  obtain ⟨front, behind, fs, w, rfl, hne, hfs, hw, hat⟩ := h
  exact ⟨i :: front, behind, fs, w, rfl, hne, at?_cons_eq_some.mpr ⟨part, hi, hfs⟩, hw,
    at?_cons_eq_some.mpr ⟨part', hi', hat⟩⟩

/-- What a tag takes with its mapping is gone, or it is as it was when the tag does not convert. -/
theorem IsTakenAbove.at?_eq {t t' v : Value} {path : List Nat} (h : IsTakenAbove t t' path)
    (hv : t.at? path = some v) : t'.at? path = none ∨ t'.at? path = some v := by
  obtain ⟨front, behind, fs, w, rfl, hne, hfs, hw, hat⟩ := h
  rw [at?_append, hfs, Option.bind_some] at hv
  rw [at?_append, hat, Option.bind_some]
  rw [tagged?_eq] at hw
  obtain ⟨read, hread, rfl⟩ := Option.map_eq_some_iff.mp hw
  cases read with
  | none => exact .inr hv
  | some u =>
    cases behind with
    | nil => exact absurd rfl hne
    | cons i behind =>
      rw [Option.getD_some, at?_cons, parts_of_isNativeOrText (isNativeOrText_of_firstTag? hread)]
      exact .inl rfl

/-- A mapping or a list is decoded part by part, unless it is a mapping with a tag. -/
theorem parts_decode_of_container {t : Value} (h : (∃ fs, t = .map fs) ∨ ∃ vs, t = .list vs) :
    (∃ fs, t = .map fs ∧ tagged? fs = some (decode t)) ∨ (decode t).parts = t.parts.map decode := by
  rcases h with ⟨fs, rfl⟩ | ⟨vs, rfl⟩
  · cases htag : tagged? fs with
    | some w =>
      refine .inl ⟨fs, rfl, ?_⟩
      rw [decode_map, htag]
      rfl
    | none =>
      rw [decode_map, htag]
      exact .inr (parts_map_decodeEntries fs)
  · rw [decode_list]
    exact .inr rfl

/-- What is left at a path that is kept is decoded there, unless the path leads into a mapping with a
tag. -/
theorem at?_decode_residue {t v : Value} {path path' : List Nat} (h : keptPath? t path = some path')
    (hv : t.at? path = some v) :
    (decode (residue t)).at? path' = some (decode (residue v)) ∨
      IsTakenAbove (residue t) (decode (residue t)) path' := by
  induction path generalizing t path' with
  | nil =>
    obtain rfl := Option.some.inj hv
    obtain rfl := Option.some.inj h
    exact .inl rfl
  | cons i path ih =>
    obtain ⟨e, behind, he, hvanish, hrepair, hbehind, rfl⟩ := keptPath?_cons_eq_some.mp h
    have hpart := part_residue_of_edge he hvanish
    rw [left, if_neg (Bool.eq_false_iff.mp hrepair)] at hpart
    rw [at?_cons, part_of_edge he, Option.bind_some] at hv
    rcases parts_decode_of_container (container_of_edge he) with ⟨fs, hfs, htag⟩ | hparts
    · exact .inr ⟨[], _, fs, _, rfl, List.cons_ne_nil _ _, congrArg some hfs, htag, rfl⟩
    · have hdecoded : (decode (residue t)).parts[((edges t).take i).countP fun e => !vanishes e]? =
          some (decode (residue e.part)) := by
        rw [hparts, List.getElem?_map, hpart]
        rfl
      rcases ih hbehind hv with hat | htaken
      · exact .inl (at?_cons_eq_some.mpr ⟨_, hdecoded, hat⟩)
      · exact .inr (htaken.under hpart hdecoded)

end ExtendedJson

end QueryWarden
