import Mathlib.Data.List.Basic
import QueryWarden.Proofs.Database.Ledger
import QueryWarden.Proofs.Database.Listings

/-!
# One client at a time

A connection is used through three operations: it opens a collection, lists the collections, or is
closed.  What one of them does to the clients is one of five cases (`Does`), each told by the client
that the connection holds and by whether the server gives one (`does_perform`).

1. A step suits a single place for a client, which the connection is, and obtains a client under the
   next serial number only (`Does.follow`, `Does.count_obtained`).
2. So does a run, by induction (`follow_history`, `count_obtained_history`), and hence a run keeps to
   one client at a time.
3. A step asks for a client when it is an access and the connection holds none
   (`Does.asks_iff`).  The connection holds none at the start, unless it was given one, after a
   closing, and after a refusal (`client_afterAll_eq_none_iff`).
-/

namespace QueryWarden

inductive Operation where
  | collection (name : String) (database : Option String)
  | list (database : Option String)
  | close
  deriving DecidableEq, Repr

def Operation.isAccess : Operation → Bool
  | .collection _ _ | .list _ => true
  | .close => false

def ClientCall.event (server : DatabaseServer) : ClientCall → ClientEvent
  | .connect n _ _ =>
    match server.connect with
    | .ok () => .obtained n
    | .error _ => .refused
  | .names n _ | .count n _ _ => .used n
  | .close n => .closed n

namespace Connection

open ClientEvent

variable {s : Settings} {server : DatabaseServer} {o : Operation} {c c' : Connection}
  {es : List ClientEvent} {α : Type}

def start (isGiven : Bool) : Connection :=
  if isGiven then given else new

def perform (s : Settings) (server : DatabaseServer) (o : Operation) (c : Connection) :
    List ClientCall × Connection :=
  match o with
  | .collection name database =>
    ((c.collection s server name database).1.calls, (c.collection s server name database).2)
  | .list database => ((c.list s server database).1.calls, (c.list s server database).2)
  | .close => (c.close.1.calls, c.close.2)

def events (s : Settings) (server : DatabaseServer) (o : Operation) (c : Connection) :
    List ClientEvent :=
  (c.perform s server o).1.map (ClientCall.event server)

/-- What operations one after the other do to the clients, each with what the server answers then. -/
def history (s : Settings) : List (DatabaseServer × Operation) → Connection → List ClientEvent
  | [], _ => []
  | a :: steps, c => c.events s a.1 a.2 ++ history s steps (c.perform s a.1 a.2).2

def afterAll (s : Settings) (steps : List (DatabaseServer × Operation)) (c : Connection) :
    Connection :=
  steps.foldl (fun c a => (c.perform s a.1 a.2).2) c

/-! ## What a step does -/

/-- What a step does to the clients, and the connection after it. -/
inductive Does (server : DatabaseServer) (o : Operation) (c : Connection) :
    List ClientEvent → Connection → Prop
  | idle : o.isAccess = false → c.client = none → Does server o c [] c
  | closed {n : Nat} : o.isAccess = false → c.client = some n →
      Does server o c [.closed n] { c with client := none }
  | used {n : Nat} {es : List ClientEvent} : o.isAccess = true → c.client = some n →
      (∀ e ∈ es, e = .used n) → Does server o c es c
  | refused : o.isAccess = true → c.client = none → Does server o c [.refused] c
  | obtained {es : List ClientEvent} : o.isAccess = true → c.client = none →
      (∀ e ∈ es, e = .used c.made) →
      Does server o c (.obtained c.made :: es) ⟨some c.made, c.made + 1⟩

/-- Whether all calls of a step with a client go to this client. -/
def GoesTo (server : DatabaseServer) (f : Nat → Traced ClientCall α) : Prop :=
  ∀ n, ∀ k ∈ (f n).calls, k.event server = .used n

/-- An access obtains its client and goes to it. -/
theorem does_access {f : Nat → Traced ClientCall α} (ho : o.isAccess = true)
    (hf : GoesTo server f) :
    Does server o c (((c.obtain s server).1 >>= f).calls.map (ClientCall.event server))
      (c.obtain s server).2 := by
  have hused (n : Nat) : ∀ e ∈ (f n).calls.map (ClientCall.event server), e = .used n := by
    intro e he
    obtain ⟨k, hk, rfl⟩ := List.mem_map.mp he
    exact hf n k hk
  cases hclient : c.client with
  | some n =>
    rw [obtain_of_some hclient]
    exact .used ho hclient (hused n)
  | none =>
    cases hserver : server.connect with
    | ok _ =>
      have hevent : (c.connecting s).event server = .obtained c.made := by
        unfold connecting ClientCall.event
        rw [hserver]
      have hcalls : (Traced.call (c.connecting s) (.ok c.made) >>= f).calls =
          c.connecting s :: (f c.made).calls := rfl
      rw [obtain_of_ok hclient hserver, hcalls, List.map_cons, hevent]
      exact .obtained ho hclient (hused c.made)
    | error g =>
      have hevent : (c.connecting s).event server = .refused := by
        unfold connecting ClientCall.event
        rw [hserver]
      have hcalls : (Traced.call (c.connecting s) (.error g) >>= f).calls = [c.connecting s] := rfl
      rw [obtain_of_error hclient hserver, hcalls, List.map_singleton, hevent]
      exact .refused ho hclient

theorem goesTo_openWith (d name : String) : GoesTo server fun n => openWith server n d name := by
  intro n k hk
  obtain hk | ⟨_, -, hk⟩ := Traced.mem_calls_bind.mp hk <;> exact absurd hk List.not_mem_nil

theorem goesTo_countsOf (d : String) (names : List String) :
    GoesTo server fun n => countsOf server n d names := by
  intro n
  induction names with
  | nil => exact fun k hk => absurd hk List.not_mem_nil
  | cons name names ih =>
    intro k hk
    obtain hk | ⟨_, -, hk⟩ := Traced.mem_calls_bind.mp hk
    · obtain rfl := List.mem_singleton.mp hk
      rfl
    · obtain hk | ⟨_, -, hk⟩ := Traced.mem_calls_bind.mp hk
      · exact ih k hk
      · exact absurd hk List.not_mem_nil

theorem goesTo_listWith (d : String) : GoesTo server fun n => listWith server n d := by
  intro n k hk
  obtain hk | ⟨_, -, hk⟩ := Traced.mem_calls_bind.mp hk
  · exact absurd hk List.not_mem_nil
  · obtain hk | ⟨names, -, hk⟩ := Traced.mem_calls_bind.mp hk
    · obtain rfl := List.mem_singleton.mp hk
      rfl
    · exact goesTo_countsOf d names n k hk

/-- **What a step does to the clients.** -/
theorem does_perform (s : Settings) (server : DatabaseServer) (o : Operation) (c : Connection) :
    Does server o c (c.events s server o) (c.perform s server o).2 := by
  cases o with
  | collection name database => exact does_access rfl (goesTo_openWith _ name)
  | list database => exact does_access rfl (goesTo_listWith _)
  | close =>
    unfold events perform close
    cases hclient : c.client with
    | none => exact .idle rfl hclient
    | some n => exact .closed rfl hclient

/-! ## One step -/

namespace Does

variable (h : Does server o c es c')
include h

/-- A step suits the place that the connection is. -/
theorem follow : follow? es c.client = some c'.client := by
  cases h with
  | idle _ _ => rfl
  | closed _ hclient =>
    rw [hclient]
    exact congrArg (Option.bind · _) (if_pos rfl)
  | used _ hclient hes =>
    rw [hclient]
    exact follow?_used hes
  | refused _ hclient =>
    rw [hclient]
    rfl
  | obtained _ hclient hes =>
    rw [hclient]
    exact follow?_used hes

theorem made_le : c.made ≤ c'.made := by
  cases h with
  | obtained _ _ _ => exact Nat.le_succ c.made
  | _ => exact Nat.le_refl c.made

/-- The clients that a step obtains are those that it numbers. -/
theorem count_obtained (n : Nat) :
    es.count (.obtained n) = if c.made ≤ n ∧ n < c'.made then 1 else 0 := by
  have hnone (hmade : c'.made = c.made) : (if c.made ≤ n ∧ n < c'.made then 1 else 0) = 0 :=
    if_neg (by omega)
  have hused {m : Nat} {es : List ClientEvent} (hes : ∀ e ∈ es, e = .used m) :
      es.count (.obtained n) = 0 :=
    List.count_eq_zero.mpr fun hmem => absurd (hes _ hmem) nofun
  cases h with
  | idle _ _ => exact (hnone rfl).symm
  | closed _ _ => exact (hnone rfl).symm
  | used _ _ hes => exact (hused hes).trans (hnone rfl).symm
  | refused _ _ => exact (hnone rfl).symm
  | obtained _ _ hes =>
    rw [List.count_cons, hused hes, Nat.zero_add]
    by_cases hn : c.made = n
    · subst hn
      simp
    · rw [if_neg (by simpa using hn), if_neg (by simp only; omega)]

/-- A step asks for a client when it is an access and the connection holds none. -/
theorem asks_iff : (∃ e ∈ es, e.isMaking = true) ↔ o.isAccess = true ∧ c.client = none := by
  cases h with
  | idle ho _ => simp [ho]
  | closed ho _ => simp [ho, isMaking]
  | used ho hclient hes =>
    simp only [hclient, reduceCtorEq, and_false, iff_false]
    rintro ⟨e, he, hmaking⟩
    rw [hes e he] at hmaking
    exact absurd hmaking nofun
  | refused ho hclient => simp [ho, hclient, isMaking]
  | obtained ho hclient hes => simp [ho, hclient, isMaking]

/-- A step leaves no client behind when it is a closing or was refused one. -/
theorem client_eq_none_iff : c'.client = none ↔ o.isAccess = false ∨ es = [.refused] := by
  cases h with
  | idle ho hclient => simp [ho, hclient]
  | closed ho _ => simp [ho]
  | used ho hclient hes =>
    simp only [hclient, ho, reduceCtorEq, false_or, false_iff]
    rintro rfl
    exact absurd (hes _ List.mem_cons_self) nofun
  | refused ho hclient => simp [ho, hclient]
  | obtained ho hclient hes => simp [ho]

end Does

/-! ## Runs -/

variable {steps : List (DatabaseServer × Operation)}

/-- Whether the client that a connection holds has a number that was given out. -/
def Sound (c : Connection) : Prop :=
  ∀ n, c.client = some n → n < c.made

theorem sound_start (isGiven : Bool) : (start isGiven).Sound := by
  intro n hn
  cases isGiven with
  | false => exact absurd hn nofun
  | true =>
    cases hn
    exact Nat.zero_lt_one

theorem afterAll_cons (a : DatabaseServer × Operation) :
    afterAll s (a :: steps) c = afterAll s steps (c.perform s a.1 a.2).2 := rfl

theorem afterAll_concat (a : DatabaseServer × Operation) :
    afterAll s (steps ++ [a]) c = ((afterAll s steps c).perform s a.1 a.2).2 :=
  List.foldl_append.trans rfl

theorem follow_history :
    follow? (history s steps c) c.client = some (afterAll s steps c).client := by
  induction steps generalizing c with
  | nil => rfl
  | cons a steps ih =>
    unfold history
    rw [follow?_append, (does_perform s a.1 a.2 c).follow, Option.bind_some, ih, afterAll_cons]

theorem made_le_afterAll (steps : List (DatabaseServer × Operation)) (c : Connection) :
    c.made ≤ (afterAll s steps c).made := by
  induction steps generalizing c with
  | nil => exact Nat.le_refl c.made
  | cons a steps ih => exact Nat.le_trans (does_perform s a.1 a.2 c).made_le (ih _)

/-- No number is given to two clients of a run. -/
theorem count_obtained_history (n : Nat) : (history s steps c).count (.obtained n) =
    if c.made ≤ n ∧ n < (afterAll s steps c).made then 1 else 0 := by
  induction steps generalizing c with
  | nil =>
    refine (if_neg ?_).symm
    rw [afterAll, List.foldl_nil]
    omega
  | cons a steps ih =>
    have hstep := (does_perform s a.1 a.2 c).made_le
    have hrest := made_le_afterAll (s := s) steps (c.perform s a.1 a.2).2
    unfold history
    rw [List.count_append, (does_perform s a.1 a.2 c).count_obtained, ih, afterAll_cons]
    split <;> split <;> split <;> omega

theorem oneAtATime_history (hc : c.Sound) : OneAtATime c.client.toList (history s steps c) := by
  refine oneAtATime_of_follow? follow_history fun n => ?_
  rw [count_obtained_history]
  cases hclient : c.client with
  | none =>
    rw [Option.toList_none, List.count_nil]
    split <;> omega
  | some m =>
    have hm := hc m hclient
    rw [Option.toList_some, List.count_singleton]
    split
    · next hn =>
      have hne : ¬ (m == n) = true := by
        rw [beq_iff_eq]
        omega
      exact Nat.le_of_eq (congrArg (1 + ·) (if_neg hne))
    · split <;> omega

/-- The connection holds no client at the start of a run, unless it was given one, and after a step that
closed it or was refused one. -/
theorem client_afterAll_eq_none_iff (isGiven : Bool) :
    (afterAll s steps (start isGiven)).client = none ↔
      (steps = [] ∧ isGiven = false) ∨ ∃ earlier b, steps = earlier ++ [b] ∧
        (b.2 = .close ∨ events s b.1 b.2 (afterAll s earlier (start isGiven)) = [.refused]) := by
  have hclose (o : Operation) : o.isAccess = false ↔ o = .close := by
    cases o <;> simp [Operation.isAccess]
  obtain rfl | ⟨earlier, b, rfl⟩ := List.eq_nil_or_concat' steps
  · cases isGiven <;> simp [afterAll, start, given, new]
  · rw [afterAll_concat, (does_perform s b.1 b.2 _).client_eq_none_iff, hclose]
    constructor
    · intro h
      exact .inr ⟨earlier, b, rfl, h⟩
    · rintro (⟨h, -⟩ | ⟨earlier', b', h, hb⟩)
      · exact absurd h (List.append_ne_nil_of_right_ne_nil earlier (List.cons_ne_nil b []))
      · obtain ⟨rfl, hsingle⟩ := List.append_inj' h rfl
        rw [(List.cons.inj hsingle).1]
        exact hb

/-- The ledger after a run is the client that the connection holds. -/
theorem openAfter_history (steps : List (DatabaseServer × Operation)) (c : Connection) :
    openAfter c.client.toList (history s steps c) = (afterAll s steps c).client.toList :=
  openAfter_toList follow_history

theorem collection_eq_ok {name : String} {database : Option String} {handle : CollectionHandle}
    (h : (c.collection s server name database).1.outcome = .ok handle) :
    handle.database = databaseName s database ∧ handle.name = name ∧
      (c.collection s server name database).2.client = some handle.client := by
  obtain ⟨n, hn, hopen⟩ := Traced.outcome_bind_eq_ok.mp h
  obtain ⟨-, -, hhandle⟩ := Traced.outcome_bind_eq_ok.mp hopen
  obtain rfl := Except.ok.inj hhandle
  exact ⟨rfl, rfl, client_obtain hn⟩

/-- **One client at a time, and complete listings.**  Whatever the servers answer, a run keeps to one
client at a time, and asks for a new one exactly at the first access after the start, after a closing or
after a refusal.  A collection that is opened belongs to the client that is open then.  A listing that
succeeds has one entry for every name, in the order of the names and without the count exactly where
that was refused, and refused counts alone make no listing fail.  An error of the database before the
names are known is a failure to execute. -/
theorem one_client_and_complete_listings (s : Settings) (isGiven : Bool)
    (steps : List (DatabaseServer × Operation)) :
    OneAtATime (start isGiven).client.toList (history s steps (start isGiven)) ∧
      (∀ before a after, steps = before ++ a :: after →
        ((∃ e ∈ events s a.1 a.2 (afterAll s before (start isGiven)), e.isMaking = true) ↔
          a.2.isAccess = true ∧
            ((before = [] ∧ isGiven = false) ∨ ∃ earlier b, before = earlier ++ [b] ∧
              (b.2 = .close ∨
                events s b.1 b.2 (afterAll s earlier (start isGiven)) = [.refused])))) ∧
      (∀ before server name database after,
        steps = before ++ (server, .collection name database) :: after →
        ∀ handle, ((afterAll s before (start isGiven)).collection s server name database).1.outcome =
            .ok handle →
          handle.database = databaseName s database ∧ handle.name = name ∧
            openAfter (start isGiven).client.toList
              (history s (before ++ [(server, .collection name database)]) (start isGiven)) =
                [handle.client]) ∧
      ∀ (server : DatabaseServer) (database : Option String) (c : Connection),
        let d := databaseName s database
        (∀ ls, (c.list s server database).1.outcome = .ok ls →
          ∃ names, server.names d = .ok names ∧ ls.Pairwise (fun a b => a.name ≤ b.name) ∧
            ls.Perm (names.map (listing server d))) ∧
          (∀ names, Obtains server c → server.select d = .ok () → server.names d = .ok names →
            (∀ name ∈ names, CountsOrReports server d name) →
            ∃ ls, (c.list s server database).1.outcome = .ok ls) ∧
          ∀ f, f.isDatabase = true → KeptFromNames server d c f →
            (c.list s server database).1.outcome = .error (.failure (.listingFailed f.text)) ∧
              (Failure.listingFailed f.text).kind = .execution := by
  refine ⟨oneAtATime_history (sound_start isGiven), ?_, ?_, fun server database c => ⟨?_, ?_, ?_⟩⟩
  · rintro before a after -
    rw [(does_perform s a.1 a.2 _).asks_iff, client_afterAll_eq_none_iff]
  · rintro before server name database after - handle hhandle
    obtain ⟨hdatabase, hname, hclient⟩ := collection_eq_ok hhandle
    have hafter : (afterAll s (before ++ [(server, .collection name database)])
        (start isGiven)).client = some handle.client := by
      rw [afterAll_concat]
      exact hclient
    exact ⟨hdatabase, hname, by rw [openAfter_history, hafter, Option.toList_some]⟩
  · intro ls hls
    obtain ⟨-, -, names, hnames, -, rfl⟩ := list_eq_ok.mp hls
    exact ⟨names, hnames, pairwise_sortListings _, sortListings_perm _⟩
  · intro names hobtains hselect hnames hcounts
    exact ⟨_, list_eq_ok.mpr ⟨hobtains, hselect, names, hnames, hcounts, rfl⟩⟩
  · intro f hf hkept
    exact ⟨list_eq_listingFailed hkept hf, rfl⟩

/-- A listing that is refused a client, one that obtains a client and is refused the count of one
collection, a collection that is opened with this client, and after two closings a third listing with
the second client. -/
theorem one_client_and_complete_listings_reopened :
    let up : DatabaseServer :=
      ⟨.ok (), fun _ => .ok (), fun _ => .ok ["b", "a"],
        fun _ name => if name = "a" then .error (.database "OperationFailure" "no") else .ok 3⟩
    let down := { up with connect := .error (.database "AutoReconnect" "no server") }
    let steps := [(down, .list none), (up, .list none), (up, .collection "a" none), (up, .close),
      (up, .close), (up, .list none)]
    history {} steps (start false) =
        [.refused, .obtained 0, .used 0, .used 0, .used 0, .closed 0,
          .obtained 1, .used 1, .used 1, .used 1] ∧
      OneAtATime [] (history {} steps (start false)) ∧
      openAfter [] (history {} [(down, .list none), (up, .list none), (up, .collection "a" none)]
        (start false)) = [0] ∧
      (∃ ls, ((start false).list {} up none).1.outcome = .ok ls) ∧
      ((start false).list {} down none).1.outcome = .error (.failure (.listingFailed "no server")) := by
  intro up down steps
  obtain ⟨hone, -, hopened, hlist⟩ := one_client_and_complete_listings {} false steps
  have hhandle : ((afterAll {} [(down, .list none), (up, .list none)] (start false)).collection {} up
      "a" none).1.outcome = .ok ⟨"test", "a", 0⟩ := by
    decide +kernel
  refine ⟨by decide +kernel, hone,
    (hopened [(down, .list none), (up, .list none)] up "a" none _ rfl _ hhandle).2.2, ?_, ?_⟩
  · refine (hlist up none (start false)).2.1 ["b", "a"] (fun _ => rfl) rfl rfl ?_
    intro name _ f hf
    have hcount : up.count (databaseName {} none) name =
        if name = "a" then .error (.database "OperationFailure" "no") else .ok 3 := rfl
    rw [hcount] at hf
    split at hf
    · rw [← Except.error.inj hf]
      rfl
    · exact absurd hf nofun
  · exact ((hlist down none (start false)).2.2 (.database "AutoReconnect" "no server") rfl
      (.connecting rfl rfl)).1

end Connection

end QueryWarden
