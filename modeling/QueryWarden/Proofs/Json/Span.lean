import Mathlib.Data.List.TakeWhile
import QueryWarden.Proofs.Json.Reader

/-!
# The span of an object

A reader leaves an end of the characters that it was given (`leaves_readValue`), and what it leaves
behind an object stands behind a closing brace.  So a text that is read as an object starts with an
opening brace and ends with a closing one, blank characters around it left out
(`exists_span_of_readAll`).
-/

namespace QueryWarden.Json

/-- Whether the characters that a reading leaves have the property, if it ends with a value. -/
def Leaves {α : Type} (Q : List Char → Prop) (x : Reading α) : Prop :=
  ∀ a rest, x = .ok (a, rest) → Q rest

section Leaves

variable {α β : Type} {Q R : List Char → Prop} {x : Reading α}

theorem leaves_error (e : ReadError) : Leaves Q (.error e : Reading α) := by
  intro a rest h
  simp at h

theorem leaves_refuse (cs : List Char) : Leaves Q (refuse cs : Reading α) :=
  leaves_error _

theorem leaves_ok {a : α} {rest : List Char} (h : Q rest) : Leaves Q (.ok (a, rest)) := by
  intro b rest' hb
  obtain ⟨-, rfl⟩ := Prod.mk.inj (Except.ok.inj hb)
  exact h

theorem leaves_imp (hx : Leaves Q x) (h : ∀ rest, Q rest → R rest) : Leaves R x :=
  fun a rest hr => h rest (hx a rest hr)

theorem leaves_map {f : α × List Char → β × List Char} (hx : Leaves Q x)
    (hf : ∀ a rest, (f (a, rest)).2 = rest) : Leaves Q (x.map f) := by
  intro b rest h
  obtain ⟨⟨a, r⟩, ha, hb⟩ := map_eq_ok.mp h
  have hr : rest = r := by rw [← hf a r, hb]
  rw [hr]
  exact hx a r ha

theorem leaves_bind {f : α × List Char → Reading β} (hx : Leaves Q x)
    (hf : ∀ a rest, Q rest → Leaves R (f (a, rest))) : Leaves R (x.bind f) := by
  intro b rest h
  obtain ⟨⟨a, r⟩, ha, hb⟩ := bind_eq_ok.mp h
  exact hf a r (hx a r ha) b rest hb

end Leaves

/-! ## Strings -/

theorem leaves_readUnit (cs : List Char) : Leaves (· <:+ cs) (readUnit cs) := by
  unfold readUnit
  split
  · rename_i a b c d e rest
    have hrest : e :: rest <:+ a :: b :: c :: d :: e :: rest := ⟨[a, b, c, d], rfl⟩
    split
    · exact leaves_refuse _
    · split
      · rename_i a' b' c' d' e' rest' _ hpair
        split
        · exact leaves_refuse _
        · split_ifs
          · obtain ⟨rfl, rfl⟩ := List.cons.inj hpair
            exact leaves_ok ⟨[a, b, c, d, '\\', 'u', a', b', c', d'], rfl⟩
          · exact leaves_ok hrest
      · exact leaves_ok hrest
  · exact leaves_refuse _

theorem leaves_nextChar (opening cs : List Char) : Leaves (· <:+ cs) (nextChar opening cs) := by
  unfold nextChar
  split
  · exact leaves_refuse _
  · exact leaves_ok (List.suffix_cons _ _)
  · exact leaves_refuse _
  · rename_i rest
    refine leaves_map (leaves_imp (leaves_readUnit rest) fun r hr => ?_) fun _ _ => rfl
    exact hr.trans ⟨['\\', 'u'], rfl⟩
  · rename_i c rest _
    split
    · exact leaves_ok ⟨['\\', c], rfl⟩
    · exact leaves_refuse _
  · split_ifs
    · exact leaves_refuse _
    · exact leaves_ok (List.suffix_cons _ _)

theorem leaves_readChars (opening : List Char) (fuel : Nat) (cs : List Char) :
    Leaves (· <:+ cs) (readChars opening fuel cs) := by
  induction fuel generalizing cs with
  | zero => exact leaves_refuse _
  | succ fuel ih =>
    have hnext := leaves_nextChar opening cs
    unfold readChars
    split
    · exact leaves_error _
    · rename_i rest h
      exact leaves_ok (hnext _ rest h)
    · rename_i c rest h
      refine leaves_map (leaves_imp (ih rest) fun r hr => ?_) fun _ _ => rfl
      exact hr.trans (hnext _ rest h)

theorem leaves_readString (cs : List Char) : Leaves (· <:+ cs) (readString cs) :=
  leaves_map (leaves_readChars _ _ cs) fun _ _ => rfl

/-! ## Atoms -/

theorem suffix_of_readExponent? {cs rest : List Char} {x : Int}
    (h : Number.readExponent? cs = some (x, rest)) : rest <:+ cs := by
  cases cs with
  | nil => simp [Number.readExponent?] at h
  | cons c cs =>
    have hsign : (Number.splitSign cs).2 <:+ cs := by
      unfold Number.splitSign
      split
      · exact List.suffix_cons _ _
      · exact List.suffix_cons _ _
      · exact List.suffix_refl _
    unfold Number.readExponent? Number.spanDigits at h
    dsimp only at h
    split_ifs at h
    obtain ⟨-, rfl⟩ := Prod.mk.inj (Option.some.inj h)
    exact ((List.dropWhile_suffix _).trans hsign).trans (List.suffix_cons _ _)

theorem leaves_readNumber (cs : List Char) : Leaves (· <:+ cs) (readNumber cs) := by
  unfold readNumber
  split
  rename_i negative body hbody
  extract_lets whole afterWhole fraction afterFraction double
  have hsuffix : body <:+ cs := by
    split at hbody
    · obtain rfl := (Prod.mk.inj hbody).2
      exact List.suffix_cons _ _
    · obtain rfl := (Prod.mk.inj hbody).2
      exact List.suffix_refl _
  have hfraction : afterFraction <:+ cs := by
    have hwhole : afterWhole <:+ cs := (List.drop_suffix _ _).trans hsuffix
    show (if _ then _ else _) <:+ cs
    split_ifs
    · exact hwhole
    · exact (List.drop_suffix _ _).trans hwhole
  split
  · exact leaves_refuse cs
  split
  · rename_i x rest hx
    exact leaves_ok ((suffix_of_readExponent? hx).trans hfraction)
  split
  · exact leaves_ok hfraction
  split
  · exact leaves_error _
  · exact leaves_ok hfraction

theorem suffix_of_behind? {ws cs rest : List Char} (h : behind? ws cs = some rest) :
    rest <:+ cs := by
  fun_induction behind? ws cs with
  | case1 cs => exact Option.some.inj h ▸ List.suffix_refl cs
  | case2 => simp at h
  | case3 w ws c cs _ ih => exact (ih h).trans (List.suffix_cons _ _)
  | case4 => simp at h

theorem leaves_readAtom (cs : List Char) : Leaves (· <:+ cs) (readAtom cs) := by
  unfold readAtom
  split
  · rename_i r hr
    obtain ⟨_, _, hv⟩ := List.exists_of_findSome?_eq_some hr
    obtain ⟨rest, hrest, rfl⟩ := Option.map_eq_some_iff.mp hv
    exact leaves_ok (suffix_of_behind? hrest)
  · exact leaves_readNumber cs

/-! ## Values -/

theorem suffix_of_skipBlank {cs r : List Char} (h : skipBlank cs = r) : r <:+ cs :=
  h ▸ List.dropWhile_suffix _

mutual

theorem leaves_readValue : (fuel : Nat) → (cs : List Char) →
    Leaves (· <:+ cs) (readValue fuel cs)
  | 0, cs => leaves_refuse cs
  | fuel + 1, cs => by
    unfold readValue
    split
    · exact leaves_refuse []
    · rename_i rest
      refine leaves_map (leaves_imp (leaves_readString rest) fun r hr => ?_) fun _ _ => rfl
      exact hr.trans (List.suffix_cons _ _)
    · rename_i rest
      split
      · rename_i r hr
        exact leaves_ok
          (((List.suffix_cons _ _).trans (suffix_of_skipBlank hr)).trans (List.suffix_cons _ _))
      · refine leaves_map (leaves_imp (leaves_readItems fuel _) fun r hr => ?_) fun _ _ => rfl
        exact (hr.trans (suffix_of_skipBlank rfl)).trans (List.suffix_cons _ _)
    · rename_i rest
      split
      · rename_i r hr
        exact leaves_ok
          (((List.suffix_cons _ _).trans (suffix_of_skipBlank hr)).trans (List.suffix_cons _ _))
      · refine leaves_map (leaves_imp (leaves_readMembers fuel _) fun r hr => ?_) fun _ _ => rfl
        exact (((List.suffix_cons _ _).trans hr).trans (suffix_of_skipBlank rfl)).trans
          (List.suffix_cons _ _)
    · exact leaves_readAtom cs

theorem leaves_readItems : (fuel : Nat) → (cs : List Char) →
    Leaves (· <:+ cs) (readItems fuel cs)
  | 0, cs => leaves_refuse cs
  | fuel + 1, cs => by
    unfold readItems
    refine leaves_bind (leaves_readValue fuel cs) fun v rest hrest => ?_
    dsimp only
    split
    · rename_i r hr
      exact leaves_ok (((List.suffix_cons _ _).trans (suffix_of_skipBlank hr)).trans hrest)
    · rename_i r hr
      refine leaves_map (leaves_imp (leaves_readItems fuel _) fun r' hr' => ?_) fun _ _ => rfl
      exact (((hr'.trans (suffix_of_skipBlank rfl)).trans (List.suffix_cons _ _)).trans
        (suffix_of_skipBlank hr)).trans hrest
    · exact leaves_refuse _

/-- What the members of an object leave stands behind a closing brace. -/
theorem leaves_readMembers : (fuel : Nat) → (cs : List Char) →
    Leaves (fun rest => '\x7d' :: rest <:+ cs) (readMembers fuel cs)
  | 0, cs => leaves_refuse cs
  | fuel + 1, cs => by
    unfold readMembers
    split
    · rename_i rest
      refine leaves_bind (leaves_readString rest) fun k r hr => ?_
      dsimp only
      split
      · rename_i r₁ hcolon
        refine leaves_bind (leaves_readValue fuel _) fun v r₂ hr₂ => ?_
        have hsuffix : r₂ <:+ '\x22' :: rest :=
          ((((hr₂.trans (suffix_of_skipBlank rfl)).trans (List.suffix_cons _ _)).trans
            (suffix_of_skipBlank hcolon)).trans hr).trans (List.suffix_cons _ _)
        dsimp only
        split
        · rename_i r₃ hbrace
          exact leaves_ok ((suffix_of_skipBlank hbrace).trans hsuffix)
        · rename_i r₃ hcomma
          refine leaves_map (leaves_imp (leaves_readMembers fuel _) fun r' hr' => ?_) fun _ _ => rfl
          exact ((hr'.trans (suffix_of_skipBlank rfl)).trans (List.suffix_cons _ _)).trans
            ((suffix_of_skipBlank hcomma).trans hsuffix)
        · exact leaves_refuse _
      · exact leaves_refuse _
    · exact leaves_refuse cs

end

/-! ## Objects -/

/-- Only an opening brace starts an object, and a closing brace ends it. -/
theorem exists_braces_of_readValue {fuel : Nat} {cs rest : List Char} {fs : Fields}
    (h : readValue fuel cs = .ok (.map fs, rest)) :
    ∃ body, cs = '\x7b' :: body ∧ '\x7d' :: rest <:+ body := by
  cases fuel with
  | zero => exact absurd h (by simp [readValue, refuse])
  | succ fuel =>
    unfold readValue at h
    split at h
    · exact absurd h (by simp [refuse])
    · obtain ⟨_, _, hv⟩ := map_eq_ok.mp h
      exact Value.noConfusion (Prod.mk.inj hv).1
    · split at h
      · exact Value.noConfusion (Prod.mk.inj (Except.ok.inj h)).1
      · obtain ⟨_, _, hv⟩ := map_eq_ok.mp h
        exact Value.noConfusion (Prod.mk.inj hv).1
    · rename_i body
      refine ⟨body, rfl, ?_⟩
      split at h
      · rename_i r hr
        rw [← (Prod.mk.inj (Except.ok.inj h)).2]
        exact suffix_of_skipBlank hr
      · obtain ⟨⟨es, r⟩, hes, hv⟩ := map_eq_ok.mp h
        rw [← (Prod.mk.inj hv).2]
        exact (leaves_readMembers fuel _ es r hes).trans (suffix_of_skipBlank rfl)
    · exact absurd (gives_readAtom cs _ _ h) Bool.false_ne_true

/-- A text that is read as an object starts with an opening brace and ends with a closing one, blank
characters around it left out. -/
theorem exists_span_of_readAll {cs : List Char} {fs : Fields} (h : readAll cs = .ok (.map fs)) :
    ∃ before body behind, cs = before ++ '\x7b' :: (body ++ '\x7d' :: behind) ∧
      (∀ c ∈ before, isBlank c = true) ∧ ∀ c ∈ behind, isBlank c = true := by
  obtain ⟨⟨v, rest⟩, hv, hend⟩ := bind_eq_ok.mp h
  dsimp only at hend
  split at hend
  · rename_i hrest
    rw [Except.ok.inj hend] at hv
    obtain ⟨body, hbody, inner, rfl⟩ := exists_braces_of_readValue hv
    refine ⟨cs.takeWhile isBlank, inner, rest, ?_, fun c hc => ?_, fun c hc => ?_⟩
    · rw [← hbody]
      exact (List.takeWhile_append_dropWhile).symm
    · exact List.mem_takeWhile_imp hc
    · exact List.dropWhile_eq_nil_iff.mp hrest c hc
  · simp at hend

end QueryWarden.Json
