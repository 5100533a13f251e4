/-!
# The ledger of clients

The `openAfter` of a sequence of events is the list of the clients that were obtained and not closed.
A sequence that only ever obtains a client where none is held, and uses and closes the one that is
held, can be followed with a single place for a client (`follow?`).  Then the list has one entry at most
at every point, and every use and every closing is one of its entry (`oneAtATime_of_follow?`).
-/

namespace QueryWarden

/-- What happens to clients: one is obtained, or refused, or used, or closed. -/
inductive ClientEvent where
  | obtained (client : Nat)
  | refused
  | used (client : Nat)
  | closed (client : Nat)
  deriving DecidableEq, Repr

namespace ClientEvent

variable {e : ClientEvent} {es es₁ es₂ : List ClientEvent} {o o' : Option Nat} {n : Nat}

/-- Whether a new client is asked for, with success or without. -/
def isMaking : ClientEvent → Bool
  | .obtained _ | .refused => true
  | .used _ | .closed _ => false

def enter (clients : List Nat) : ClientEvent → List Nat
  | .obtained n => n :: clients
  | .refused | .used _ => clients
  | .closed n => clients.erase n

def openAfter (clients : List Nat) (es : List ClientEvent) : List Nat :=
  es.foldl enter clients

/-- One client at a time: at every point there is one open client at most, a client is used or closed
where it is the open one, and closed once at most, and a new one is asked for where none is open. -/
structure OneAtATime (clients : List Nat) (es : List ClientEvent) : Prop where
  one : ∀ es₁, es₁ <+: es → (openAfter clients es₁).length ≤ 1
  used : ∀ es₁ n es₂, es = es₁ ++ .used n :: es₂ → openAfter clients es₁ = [n]
  closed : ∀ es₁ n es₂, es = es₁ ++ .closed n :: es₂ → openAfter clients es₁ = [n]
  closed_once : ∀ n, es.count (.closed n) ≤ 1
  making : ∀ es₁ e es₂, es = es₁ ++ e :: es₂ → e.isMaking = true → openAfter clients es₁ = []

/-! ## A single place for a client -/

/-- The place for a client after an event, if the event suits the place. -/
def next? : ClientEvent → Option Nat → Option (Option Nat)
  | .obtained n, none => some (some n)
  | .refused, none => some none
  | .used n, some m => if n = m then some (some m) else none
  | .closed n, some m => if n = m then some none else none
  | _, _ => none

/-- The place for a client after some events, if each of them suits it. -/
def follow? : List ClientEvent → Option Nat → Option (Option Nat)
  | [], o => some o
  | e :: es, o => (e.next? o).bind (follow? es)

theorem follow?_cons (e : ClientEvent) (es : List ClientEvent) (o : Option Nat) :
    follow? (e :: es) o = (e.next? o).bind (follow? es) := rfl

theorem follow?_append : follow? (es₁ ++ es₂) o = (follow? es₁ o).bind (follow? es₂) := by
  induction es₁ generalizing o with
  | nil => rfl
  | cons e es₁ ih =>
    have hrest : follow? (es₁ ++ es₂) = fun o => (follow? es₁ o).bind (follow? es₂) :=
      funext fun _ => ih
    rw [List.cons_append, follow?_cons, follow?_cons, Option.bind_assoc, hrest]

theorem follow?_used (h : ∀ e ∈ es, e = .used n) : follow? es (some n) = some (some n) := by
  induction es with
  | nil => rfl
  | cons e es ih =>
    rw [follow?_cons, h e List.mem_cons_self, show next? (.used n) (some n) = some (some n) from if_pos rfl]
    exact ih fun e he => h e (List.mem_cons_of_mem _ he)

theorem next?_used_eq_some : next? (.used n) o = some o' ↔ o = some n ∧ o' = some n := by
  cases o with
  | none => exact ⟨nofun, fun h => absurd h.1 nofun⟩
  | some m => by_cases h : n = m <;> simp [next?, h, eq_comm]

theorem next?_closed_eq_some : next? (.closed n) o = some o' ↔ o = some n ∧ o' = none := by
  cases o with
  | none => exact ⟨nofun, fun h => absurd h.1 nofun⟩
  | some m => by_cases h : n = m <;> simp [next?, h, eq_comm]

theorem eq_none_of_isMaking (h : e.next? o = some o') (he : e.isMaking = true) : o = none := by
  cases o with
  | none => rfl
  | some m =>
    cases e with
    | obtained n => exact absurd h nofun
    | refused => exact absurd h nofun
    | used n => exact absurd he nofun
    | closed n => exact absurd he nofun

/-- The ledger keeps what the place holds. -/
theorem enter_toList (h : e.next? o = some o') : enter o.toList e = o'.toList := by
  cases e with
  | obtained n =>
    obtain rfl := eq_none_of_isMaking h rfl
    cases h
    rfl
  | refused =>
    obtain rfl := eq_none_of_isMaking h rfl
    cases h
    rfl
  | used n =>
    obtain ⟨rfl, rfl⟩ := next?_used_eq_some.mp h
    rfl
  | closed n =>
    obtain ⟨rfl, rfl⟩ := next?_closed_eq_some.mp h
    exact List.erase_cons_head n []

theorem openAfter_toList (h : follow? es o = some o') : openAfter o.toList es = o'.toList := by
  induction es generalizing o with
  | nil => rw [Option.some.inj h, openAfter, List.foldl_nil]
  | cons e es ih =>
    obtain ⟨m, hm, hes⟩ := Option.bind_eq_some_iff.mp h
    rw [openAfter, List.foldl_cons, enter_toList hm]
    exact ih hes

theorem count_next? (h : e.next? o = some o') (n : Nat) :
    [e].count (.closed n) + o'.toList.count n = [e].count (.obtained n) + o.toList.count n := by
  cases e with
  | obtained k =>
    obtain rfl := eq_none_of_isMaking h rfl
    cases h
    by_cases hk : k = n <;> simp [hk]
  | refused =>
    obtain rfl := eq_none_of_isMaking h rfl
    cases h
    rfl
  | used k =>
    obtain ⟨rfl, rfl⟩ := next?_used_eq_some.mp h
    rfl
  | closed k =>
    obtain ⟨rfl, rfl⟩ := next?_closed_eq_some.mp h
    by_cases hk : k = n <;> simp [hk]

/-- Every closing of a client takes back that it was obtained. -/
theorem count_closed_add (h : follow? es o = some o') (n : Nat) :
    es.count (.closed n) + o'.toList.count n = es.count (.obtained n) + o.toList.count n := by
  induction es generalizing o with
  | nil =>
    rw [Option.some.inj h]
    rfl
  | cons e es ih =>
    obtain ⟨m, hm, hes⟩ := Option.bind_eq_some_iff.mp h
    have hone := count_next? hm n
    have hrest := ih hes
    rw [← List.singleton_append, List.count_append, List.count_append]
    omega

/-- **The ledger of a single place.**  Events that suit a place for one client keep to one client at a
time, provided that no client is obtained twice. -/
theorem oneAtATime_of_follow? (h : follow? es o = some o')
    (honce : ∀ n, es.count (.obtained n) + o.toList.count n ≤ 1) : OneAtATime o.toList es where
  one := by
    rintro es₁ ⟨es₂, rfl⟩
    obtain ⟨m, hm, -⟩ := Option.bind_eq_some_iff.mp (follow?_append.symm.trans h)
    rw [openAfter_toList hm]
    exact Option.length_toList_le
  used := by
    rintro es₁ n es₂ rfl
    obtain ⟨m, hm, hrest⟩ := Option.bind_eq_some_iff.mp (follow?_append.symm.trans h)
    obtain ⟨m', hnext, -⟩ := Option.bind_eq_some_iff.mp hrest
    rw [openAfter_toList hm, (next?_used_eq_some.mp hnext).1, Option.toList_some]
  closed := by
    rintro es₁ n es₂ rfl
    obtain ⟨m, hm, hrest⟩ := Option.bind_eq_some_iff.mp (follow?_append.symm.trans h)
    obtain ⟨m', hnext, -⟩ := Option.bind_eq_some_iff.mp hrest
    rw [openAfter_toList hm, (next?_closed_eq_some.mp hnext).1, Option.toList_some]
  closed_once n := by
    have hcount := count_closed_add h n
    have hn := honce n
    omega
  making := by
    rintro es₁ e es₂ rfl he
    obtain ⟨m, hm, hrest⟩ := Option.bind_eq_some_iff.mp (follow?_append.symm.trans h)
    obtain ⟨m', hnext, -⟩ := Option.bind_eq_some_iff.mp hrest
    rw [openAfter_toList hm, eq_none_of_isMaking hnext he, Option.toList_none]

end ClientEvent

end QueryWarden
