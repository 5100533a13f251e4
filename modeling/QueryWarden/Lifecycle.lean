import QueryWarden.Http.Server

/-!
# The life of the application

The application makes its service when it is first needed and keeps it.  Leaving the application
closes the store of a service that was made.
-/

namespace QueryWarden

/-- A call of the application: to the store as a whole, or from within the service. -/
inductive AppCall where
  | makeStore (database : String)
  | closeStore
  | service (c : Call)
  deriving DecidableEq

/-- The application: the serial number of its service, once it was made. -/
structure App where
  service : Option Nat := none
  deriving DecidableEq, Repr

/-- A step of the application: its calls, its outcome, and the application after it. -/
abbrev AppStep (α : Type) := Traced AppCall α × App

namespace App

/-- The serial number of the service, which is made now if there is none. -/
def obtain (s : Settings) (a : App) : AppStep Nat :=
  match a.service with
  | some n => (.pure n, a)
  | none => (.call (.makeStore s.databaseName) (.ok 0), ⟨some 0⟩)

def start (a : App) : AppStep Unit :=
  (.pure (), a)

def stop (a : App) : AppStep Unit :=
  match a.service with
  | some _ => (.call .closeStore (.ok ()), a)
  | none => (.pure (), a)

def handle (s : Service) (r : Http.Request) (a : App) : AppStep Http.Response :=
  let (obtained, a) := if Http.needsService r then a.obtain s.settings else (.pure 0, a)
  let answered := Http.handle s r
  (obtained.bind fun _ => ⟨answered.calls.map .service, answered.outcome⟩, a)

end App

end QueryWarden
