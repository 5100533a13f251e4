import QueryWarden.Failure.Basic
import QueryWarden.Query.Limit
import QueryWarden.Value.Basic

/-!
# Query specifications

A `QuerySpec` is a query that is ready to be checked and executed: a find with a filter, or an
aggregation with its stages.  Its limit is at least one, so a specification with a smaller limit
is not built.
-/

namespace QueryWarden

/-- A find: which documents, which of their fields, in which order, and how many. -/
structure FindSpec where
  filter : Fields
  projection : Option Fields
  sort : Option Fields
  limit : Positive
  deriving DecidableEq

/-- An aggregation: its stages, and how many documents. -/
structure AggregateSpec where
  stages : List Fields
  limit : Positive
  deriving DecidableEq

/-- A query that is ready to be checked and executed. -/
inductive QuerySpec where
  | find (spec : FindSpec)
  | aggregate (spec : AggregateSpec)
  deriving DecidableEq

/-- The fault of a limit below one. -/
def limitFault : Fault :=
  .invalid [⟨["limit"], .belowOne⟩]

def FindSpec.build (filter : Fields) (projection sort : Option Fields) (limit : Int) :
    Except Fault QuerySpec :=
  match Positive.ofInt? limit with
  | some n => .ok (.find ⟨filter, projection, sort, n⟩)
  | none => .error limitFault

def AggregateSpec.build (stages : List Fields) (limit : Int) : Except Fault QuerySpec :=
  match Positive.ofInt? limit with
  | some n => .ok (.aggregate ⟨stages, n⟩)
  | none => .error limitFault

namespace QuerySpec

def limit : QuerySpec → Positive
  | .find s => s.limit
  | .aggregate s => s.limit

def kind : QuerySpec → String
  | .find _ => "find"
  | .aggregate _ => "aggregate"

/-- A part of a find in answers. -/
def partValue : Option Fields → Value
  | some fs => .map fs
  | none => .null

def stagesValue (stages : List Fields) : Value :=
  .list (stages.map .map)

def toFields : QuerySpec → Fields
  | .find s =>
    [("kind", .string "find"),
      ("query", .map [("filter", .map s.filter), ("projection", partValue s.projection),
        ("sort", partValue s.sort), ("limit", .int s.limit.value)]),
      ("limit", .int s.limit.value)]
  | .aggregate s =>
    [("kind", .string "aggregate"), ("pipeline", stagesValue s.stages),
      ("limit", .int s.limit.value)]

end QuerySpec

end QueryWarden
