import QueryWarden.Database.Store

/-!
# The connection to the database

A `Connection` makes its client when it first needs one and keeps it until it is closed.  A client
has a serial number, so that the calls tell which client they went to.  What the server answers is
given with every step.
-/

namespace QueryWarden

/-- What a database server answers. -/
structure DatabaseServer where
  connect : Except Fault Unit
  /-- Opens a database by name. -/
  select : String → Except Fault Unit
  /-- The names of the collections of a database. -/
  names : String → Except Fault (List String)
  /-- The number of documents of a collection of a database. -/
  count : String → String → Except Fault Int

/-- A call to the driver of the database; clients are named by their serial numbers. -/
inductive ClientCall where
  | connect (client : Nat) (uri : String) (timeout : Int)
  | names (client : Nat) (database : String)
  | count (client : Nat) (database collection : String)
  | close (client : Nat)
  deriving DecidableEq, Repr

/-- A collection of a database, with the client that it was opened with. -/
structure CollectionHandle where
  database : String
  name : String
  client : Nat
  deriving DecidableEq, Repr

/-- A connection: the client it holds, and how many clients there were. -/
structure Connection where
  client : Option Nat
  made : Nat
  deriving DecidableEq, Repr

/-- A step of a connection: its calls, its outcome, and the connection after it. -/
abbrev ConnectionStep (α : Type) := Traced ClientCall α × Connection

namespace Connection

def new : Connection := ⟨none, 0⟩

/-- A connection that was given its first client. -/
def given : Connection := ⟨some 0, 1⟩

/-- The client of the connection, made now when there is none. -/
def obtain (s : Settings) (server : DatabaseServer) (c : Connection) : ConnectionStep Nat :=
  match c.client with
  | some n => (.pure n, c)
  | none =>
    match server.connect with
    | .ok () =>
      (.call (.connect c.made s.databaseUri s.selectionTimeout) (.ok c.made),
        ⟨some c.made, c.made + 1⟩)
    | .error f => (.call (.connect c.made s.databaseUri s.selectionTimeout) (.error f), c)

/-- The database of a name; a missing or an empty name stands for the default. -/
def databaseName (s : Settings) : Option String → String
  | none | some "" => s.databaseName
  | some d => d

/-- The count of a collection, which is unknown when the database reports a fault. -/
def countOf (server : DatabaseServer) (client : Nat) (database name : String) :
    Traced ClientCall Listing :=
  .call (.count client database name) <| match server.count database name with
    | .ok n => .ok ⟨name, some n⟩
    | .error f => if f.isDatabase then .ok ⟨name, none⟩ else .error f

def countsOf (server : DatabaseServer) (client : Nat) (database : String) :
    List String → Traced ClientCall (List Listing)
  | [] => .pure []
  | name :: names => do
    let l ← countOf server client database name
    let ls ← countsOf server client database names
    return l :: ls

def listWith (server : DatabaseServer) (client : Nat) (database : String) :
    Traced ClientCall (List Listing) := do
  Traced.ofExcept (server.select database)
  let names ← Traced.call (.names client database) (server.names database)
  countsOf server client database names

/-- Lists the collections of a database in the order of their names. -/
def list (s : Settings) (server : DatabaseServer) (database : Option String) (c : Connection) :
    ConnectionStep (List Listing) :=
  let (client, c) := c.obtain s server
  let listed := client.bind fun n => listWith server n (databaseName s database)
  (listed.mapOutcome fun
    | .ok ls => .ok (sortListings ls)
    | .error f => .error (if f.isDatabase then .failure (.listingFailed f.text) else f), c)

def openWith (server : DatabaseServer) (client : Nat) (database name : String) :
    Traced ClientCall CollectionHandle := do
  Traced.ofExcept (server.select database)
  return ⟨database, name, client⟩

/-- Opens a collection, which makes no call but the one for the client. -/
def collection (s : Settings) (server : DatabaseServer) (name : String)
    (database : Option String) (c : Connection) : ConnectionStep CollectionHandle :=
  let (client, c) := c.obtain s server
  (client.bind fun n => openWith server n (databaseName s database) name, c)

def close (c : Connection) : ConnectionStep Unit :=
  match c.client with
  | some n => (.call (.close n) (.ok ()), { c with client := none })
  | none => (.pure (), c)

end Connection

end QueryWarden
