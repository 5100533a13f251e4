import QueryWarden.Database.Connection
import QueryWarden.Proofs.Traced

/-!
# The listings of a connection

A listing needs a client, the database and the names of its collections, and fails by the first of
them that the server refuses (`list_eq_listingFailed`).  With the names at hand every collection is
listed, and one whose count is refused is listed without it (`list_eq_ok`).
-/

namespace QueryWarden

namespace Connection

variable {s : Settings} {server : DatabaseServer} {c : Connection} {client : Nat}
  {d name : String} {names : List String} {database : Option String} {ls : List Listing} {f : Fault}

/-- A collection with its count, as far as the server tells it. -/
def listing (server : DatabaseServer) (d name : String) : Listing :=
  ⟨name, (server.count d name).toOption⟩

/-- Whether the server refuses a count only by errors of the database. -/
def CountsOrReports (server : DatabaseServer) (d name : String) : Prop :=
  ∀ f, server.count d name = .error f → f.isDatabase = true

/-- Whether there is a client for the next access, now or as soon as one is made. -/
def Obtains (server : DatabaseServer) (c : Connection) : Prop :=
  c.client = none → server.connect = .ok ()

/-- The fault that keeps a listing from the names of the collections: the client is not made, the
database is not opened, or the names are not told. -/
inductive KeptFromNames (server : DatabaseServer) (d : String) (c : Connection) (f : Fault) : Prop
  | connecting : c.client = none → server.connect = .error f → KeptFromNames server d c f
  | selecting : Obtains server c → server.select d = .error f → KeptFromNames server d c f
  | naming : Obtains server c → server.select d = .ok () → server.names d = .error f →
      KeptFromNames server d c f

/-! ## The counts -/

theorem countOf_eq_ok {l : Listing} : (countOf server client d name).outcome = .ok l ↔
    CountsOrReports server d name ∧ listing server d name = l := by
  unfold countOf CountsOrReports listing
  cases server.count d name with
  | ok n => simp [Traced.call, Except.toOption]
  | error f => cases hf : f.isDatabase <;> simp [Traced.call, Except.toOption, hf]

/-- A count that the database refuses costs the count of its own collection and nothing else. -/
theorem countsOf_eq_ok : (countsOf server client d names).outcome = .ok ls ↔
    (∀ name ∈ names, CountsOrReports server d name) ∧ names.map (listing server d) = ls := by
  induction names generalizing ls with
  | nil => simp [countsOf, Traced.pure]
  | cons name names ih =>
    unfold countsOf
    simp only [Traced.outcome_bind_eq_ok, countOf_eq_ok, ih, List.forall_mem_cons, List.map_cons]
    constructor
    · rintro ⟨l, ⟨hname, rfl⟩, rest, ⟨hnames, rfl⟩, hls⟩
      exact ⟨⟨hname, hnames⟩, Except.ok.inj hls⟩
    · rintro ⟨⟨hname, hnames⟩, rfl⟩
      exact ⟨_, ⟨hname, rfl⟩, _, ⟨hnames, rfl⟩, rfl⟩

/-! ## The client -/

def connecting (c : Connection) (s : Settings) : ClientCall :=
  .connect c.made s.databaseUri s.selectionTimeout

theorem obtain_of_some {n : Nat} (h : c.client = some n) : c.obtain s server = (.pure n, c) := by
  unfold obtain
  rw [h]

theorem obtain_of_ok (h : c.client = none) (hserver : server.connect = .ok ()) :
    c.obtain s server = (.call (c.connecting s) (.ok c.made), ⟨some c.made, c.made + 1⟩) := by
  unfold obtain
  rw [h, hserver]
  rfl

theorem obtain_of_error (h : c.client = none) (hserver : server.connect = .error f) :
    c.obtain s server = (.call (c.connecting s) (.error f), c) := by
  unfold obtain
  rw [h, hserver]
  rfl

theorem obtain_eq_ok : (∃ n, (c.obtain s server).1.outcome = .ok n) ↔ Obtains server c := by
  unfold Obtains
  cases hclient : c.client with
  | some n =>
    rw [obtain_of_some hclient]
    exact ⟨nofun, fun _ => ⟨n, rfl⟩⟩
  | none =>
    cases hserver : server.connect with
    | ok _ =>
      rw [obtain_of_ok hclient hserver]
      exact ⟨fun _ _ => rfl, fun _ => ⟨c.made, rfl⟩⟩
    | error f =>
      rw [obtain_of_error hclient hserver]
      exact ⟨fun h => absurd h nofun, fun h => absurd (h rfl) nofun⟩

/-- A connection keeps the client that it obtains. -/
theorem client_obtain {n : Nat} (h : (c.obtain s server).1.outcome = .ok n) :
    (c.obtain s server).2.client = some n := by
  cases hclient : c.client with
  | some m =>
    rw [obtain_of_some hclient] at h ⊢
    exact hclient.trans (congrArg some (Except.ok.inj h))
  | none =>
    cases hserver : server.connect with
    | ok _ =>
      rw [obtain_of_ok hclient hserver] at h ⊢
      exact congrArg some (Except.ok.inj h)
    | error f =>
      rw [obtain_of_error hclient hserver] at h
      exact absurd h nofun

/-! ## Listings -/

theorem listWith_eq_ok (client : Nat) : (listWith server client d).outcome = .ok ls ↔
    server.select d = .ok () ∧ ∃ names, server.names d = .ok names ∧
      (∀ name ∈ names, CountsOrReports server d name) ∧ names.map (listing server d) = ls := by
  unfold listWith
  simp only [Traced.outcome_bind_eq_ok, countsOf_eq_ok]
  exact ⟨fun ⟨_, hselect, hrest⟩ => ⟨hselect, hrest⟩, fun ⟨hselect, hrest⟩ => ⟨(), hselect, hrest⟩⟩

/-- The outcome of a listing, which needs a client first and sorts what it found. -/
theorem outcome_list : (c.list s server database).1.outcome =
    match ((c.obtain s server).1 >>= fun n => listWith server n (databaseName s database)).outcome with
    | .ok ls => .ok (sortListings ls)
    | .error f => .error (if f.isDatabase then .failure (.listingFailed f.text) else f) := by
  rfl

/-- **Complete listings.**  A listing succeeds exactly when there is a client, the database opens and
tells its collections, and every count that it refuses is one of its own errors.  It then lists every
collection once for every time it is named, in the order of the names, and without its count exactly
when that was refused. -/
theorem list_eq_ok : (c.list s server database).1.outcome = .ok ls ↔
    Obtains server c ∧ server.select (databaseName s database) = .ok () ∧
      ∃ names, server.names (databaseName s database) = .ok names ∧
        (∀ name ∈ names, CountsOrReports server (databaseName s database) name) ∧
        sortListings (names.map (listing server (databaseName s database))) = ls := by
  rw [outcome_list]
  constructor
  · intro h
    split at h
    · next unsorted hok =>
      obtain ⟨n, hn, hwith⟩ := Traced.outcome_bind_eq_ok.mp hok
      obtain ⟨hselect, names, hnames, hcounts, rfl⟩ := (listWith_eq_ok n).mp hwith
      exact ⟨obtain_eq_ok.mp ⟨n, hn⟩, hselect, names, hnames, hcounts, Except.ok.inj h⟩
    · exact absurd h nofun
  · rintro ⟨hobtains, hselect, names, hnames, hcounts, rfl⟩
    obtain ⟨n, hn⟩ := obtain_eq_ok.mpr hobtains
    have hwith := (listWith_eq_ok n).mpr ⟨hselect, names, hnames, hcounts, rfl⟩
    rw [Traced.outcome_bind_eq_ok.mpr ⟨n, hn, hwith⟩]

/-- A fault before the names are known ends the listing. -/
theorem listed_eq_error (h : KeptFromNames server d c f) :
    ((c.obtain s server).1 >>= fun n => listWith server n d).outcome = .error f := by
  cases h with
  | connecting hclient hconnect =>
    rw [obtain_of_error hclient hconnect]
    rfl
  | selecting hobtains hselect =>
    obtain ⟨n, hn⟩ := obtain_eq_ok.mpr hobtains
    rw [Traced.outcome_bind_of_ok hn]
    unfold listWith
    rw [hselect]
    rfl
  | naming hobtains hselect hnames =>
    obtain ⟨n, hn⟩ := obtain_eq_ok.mpr hobtains
    rw [Traced.outcome_bind_of_ok hn]
    unfold listWith
    rw [hselect, hnames]
    rfl

theorem list_eq_listingFailed (h : KeptFromNames server (databaseName s database) c f)
    (hf : f.isDatabase = true) :
    (c.list s server database).1.outcome = .error (.failure (.listingFailed f.text)) := by
  rw [outcome_list, listed_eq_error h]
  exact congrArg Except.error (if_pos hf)

theorem sortListings_perm (ls : List Listing) : (sortListings ls).Perm ls :=
  List.mergeSort_perm ls _

theorem pairwise_sortListings (ls : List Listing) :
    (sortListings ls).Pairwise fun a b => a.name ≤ b.name := by
  refine (List.pairwise_mergeSort (fun a b c hab hbc => ?_) (fun a b => ?_) ls).imp of_decide_eq_true
  · exact decide_eq_true (String.le_trans (of_decide_eq_true hab) (of_decide_eq_true hbc))
  · rw [Bool.or_eq_true, decide_eq_true_iff, decide_eq_true_iff]
    exact String.le_total a.name b.name

end Connection

end QueryWarden
