import QueryWarden.Json.Reader
import QueryWarden.Proofs.Traced
import QueryWarden.Proofs.Value.Keys

/-!
# What the JSON reader gives

Every tree that is read from a text is free of tuples (`isTupleFree_of_readAll`).  A reading `Gives`
a property when all values that it may end with have it; the three readers of values, items and
members keep it up together, by induction on the fuel.
-/

namespace QueryWarden.Json

/-- Whether a reading ends with a value with the property, if it ends with one. -/
def Gives {α : Type} (P : α → Prop) (x : Reading α) : Prop :=
  ∀ a rest, x = .ok (a, rest) → P a

section Gives

variable {α β : Type} {P : α → Prop} {Q : β → Prop} {x : Reading α}

theorem gives_error (e : ReadError) : Gives P (.error e) := by
  intro a rest h
  simp at h

theorem gives_refuse (cs : List Char) : Gives P (refuse cs) :=
  gives_error _

theorem gives_ok {a : α} (cs : List Char) (h : P a) : Gives P (.ok (a, cs)) := by
  intro b rest hb
  obtain ⟨rfl, -⟩ := Prod.mk.inj (Except.ok.inj hb)
  exact h

theorem gives_map {f : α × List Char → β × List Char} (hx : Gives P x)
    (hf : ∀ a cs, P a → Q (f (a, cs)).1) : Gives Q (x.map f) := by
  intro b rest h
  obtain ⟨⟨a, cs⟩, ha, hb⟩ := map_eq_ok.mp h
  have hq := hf a cs (hx a cs ha)
  rwa [hb] at hq

theorem gives_bind {f : α × List Char → Reading β} (hx : Gives P x)
    (hf : ∀ a cs, P a → Gives Q (f (a, cs))) : Gives Q (x.bind f) := by
  intro b rest h
  obtain ⟨⟨a, cs⟩, ha, hb⟩ := bind_eq_ok.mp h
  exact hf a cs (hx a cs ha) b rest hb

theorem gives_imp {R : α → Prop} (hx : Gives P x) (h : ∀ a, P a → R a) : Gives R x :=
  fun a rest ha => h a (hx a rest ha)

theorem gives_true (x : Reading α) : Gives (fun _ => True) x :=
  fun _ _ _ => trivial

end Gives

/-! ## Atoms -/

def isAtom : Value → Bool
  | .null | .bool _ | .int _ | .float _ => true
  | _ => false

theorem isTupleFree_of_isAtom (v : Value) (h : isAtom v = true) : v.isTupleFree = true := by
  cases v with
  | null | bool | int | float => rfl
  | _ => exact Bool.noConfusion h

theorem gives_readNumber (cs : List Char) : Gives (isAtom · = true) (readNumber cs) := by
  unfold readNumber
  split
  extract_lets whole afterWhole fraction afterFraction double
  split
  · exact gives_refuse cs
  split
  · exact gives_ok _ rfl
  split
  · exact gives_ok _ rfl
  split
  · exact gives_error _
  · exact gives_ok _ rfl

theorem gives_readAtom (cs : List Char) : Gives (isAtom · = true) (readAtom cs) := by
  unfold readAtom
  split
  · rename_i r hr
    obtain ⟨⟨w, v⟩, hw, hv⟩ := List.exists_of_findSome?_eq_some hr
    obtain ⟨rest, -, rfl⟩ := Option.map_eq_some_iff.mp hv
    have hwords : ∀ e ∈ words, isAtom e.2 = true := by decide
    exact gives_ok rest (hwords _ hw)
  · exact gives_readNumber cs

/-! ## Values -/

mutual

theorem gives_readValue : (fuel : Nat) → (cs : List Char) →
    Gives (·.isTupleFree = true) (readValue fuel cs)
  | 0, cs => gives_refuse cs
  | fuel + 1, cs => by
    unfold readValue
    split
    · exact gives_refuse []
    · exact gives_map (gives_true _) fun _ _ _ => rfl
    · split
      · exact gives_ok _ rfl
      · exact gives_map (gives_readItems fuel _) fun _ _ h => Value.isTupleFree_list.mpr h
    · split
      · exact gives_ok _ rfl
      · exact gives_map (gives_readMembers fuel _) fun _ _ h => Value.isTupleFree_ofEntries h
    · exact gives_imp (gives_readAtom cs) isTupleFree_of_isAtom

theorem gives_readItems : (fuel : Nat) → (cs : List Char) →
    Gives (fun vs => ∀ v ∈ vs, v.isTupleFree = true) (readItems fuel cs)
  | 0, cs => gives_refuse cs
  | fuel + 1, cs => by
    unfold readItems
    refine gives_bind (gives_readValue fuel cs) fun v rest hv => ?_
    dsimp only
    split
    · exact gives_ok _ (List.forall_mem_singleton.mpr hv)
    · exact gives_map (gives_readItems fuel _) fun _ _ h => List.forall_mem_cons.mpr ⟨hv, h⟩
    · exact gives_refuse _

theorem gives_readMembers : (fuel : Nat) → (cs : List Char) →
    Gives (fun es => ∀ e ∈ es, e.2.isTupleFree = true) (readMembers fuel cs)
  | 0, cs => gives_refuse cs
  | fuel + 1, cs => by
    unfold readMembers
    split
    · refine gives_bind (gives_true _) fun k rest _ => ?_
      dsimp only
      split
      · refine gives_bind (gives_readValue fuel _) fun v rest hv => ?_
        dsimp only
        split
        · exact gives_ok _ (List.forall_mem_singleton.mpr hv)
        · exact gives_map (gives_readMembers fuel _) fun _ _ h => List.forall_mem_cons.mpr ⟨hv, h⟩
        · exact gives_refuse _
      · exact gives_refuse _
    · exact gives_refuse cs

end

theorem isTupleFree_of_readAll {cs : List Char} {v : Value} (h : readAll cs = .ok v) :
    v.isTupleFree = true := by
  obtain ⟨⟨w, rest⟩, hw, hv⟩ := bind_eq_ok.mp h
  dsimp only at hv
  split at hv
  · rw [← Except.ok.inj hv]
    exact gives_readValue _ _ w rest hw
  · simp at hv

end QueryWarden.Json
