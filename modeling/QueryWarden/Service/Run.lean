import QueryWarden.Database.Store
import QueryWarden.ExtendedJson.Decode
import QueryWarden.ExtendedJson.Encode
import QueryWarden.Service.Basic

/-!
# Running queries

`Service.run` executes a query of a client.  The query is built, checked against the deny list,
made fuzzy on request and sanitized before the collection is opened.

A query is executed with its limit moved between one and the greatest one.  A find passes the
limit as an option; an aggregation gets it as a last stage, whatever its own stages hold.  Queries
are decoded on their way in and documents are encoded on their way out.  A fault of the database,
or one about a value or its type, becomes a failure of the execution.
-/

namespace QueryWarden.Execution

/-! ## Execution -/

def limitStage (limit : Int) : Value :=
  .map [("$limit", .int limit)]

/-- A pipeline with its limit at the end. -/
def capStages (stages : List Value) (limit : Int) : List Value :=
  stages ++ [limitStage limit]

/-- The options of a find: empty projections and sorts are left out. -/
def findOptions (spec : FindSpec) (limit : Int) (ignoreCase : Bool) : FindOptions where
  limit := some limit
  projection := (spec.projection.bind Shape.nonempty?).map fun fs => ExtendedJson.decode (.map fs)
  sort := spec.sort.bind Shape.nonempty?
  ignoreCase := ignoreCase

def findDocs (c : Collection) (spec : FindSpec) (limit : Int) (ignoreCase : Bool) :
    Step (List Value) := do
  let cursor ← c.find (ExtendedJson.decode (.map spec.filter)) (findOptions spec limit ignoreCase)
  cursor.read

def aggregateDocs (c : Collection) (spec : AggregateSpec) (limit : Int) : Step (List Value) := do
  let cursor ← c.aggregate (ExtendedJson.decode (.list (capStages (spec.stages.map .map) limit)))
  cursor.read

def isReported (f : Fault) : Bool :=
  f.isDatabase || f.isType || f.isValue

/-- Executes a query on a collection. -/
def run (policy : LimitPolicy) (c : Collection) (spec : QuerySpec) (ignoreCase : Bool) :
    Step (List Value) :=
  let limit := policy.clamp (.int spec.limit.value)
  let docs := match spec with
    | .find s => findDocs c s limit ignoreCase
    | .aggregate s => aggregateDocs c s limit
  docs.mapOutcome fun
    | .ok docs => .ok (docs.map ExtendedJson.encode)
    | .error f => .error (if isReported f then .failure (.queryFailed f.text) else f)

end QueryWarden.Execution

namespace QueryWarden

/-! ## Runs -/

/-- A request to run a query or a pipeline on a collection.  Null stands for a missing part. -/
structure RunRequest where
  collection : Option String
  query : Value := .null
  pipeline : Value := .null
  limit : Value := .int 100
  ignoreCase : Bool := true
  fuzzy : Bool := false
  database : Option String := none

namespace Service

/-- The query of a request, checked, made fuzzy on request and sanitized. -/
def specOfRequest (s : Service) (r : RunRequest) : Except Fault QuerySpec := do
  let spec ← QuerySpec.ofRunRequest s.settings.limits r.query r.pipeline r.limit
  (spec.check s.settings.denyList).mapError .failure
  ((if r.fuzzy then spec.fuzzify else spec).sanitize).mapError .failure

def openToRun (s : Service) (name : String) (database : Option String) : Step Collection :=
  (s.store.openCollection name database).mapOutcome fun
    | .ok c => .ok c
    | .error f =>
      .error (if f.isDatabase || f.isValue then .failure (.cannotOpen name f.text) else f)

/-- Runs a request; the answer is the documents. -/
def run (s : Service) (r : RunRequest) : Step (List Value) :=
  match trimmed? r.collection with
  | none => .fail .blankCollection
  | some name => do
    let spec ← Traced.ofExcept (s.specOfRequest r)
    let c ← s.openToRun name r.database
    Execution.run s.settings.limits c spec r.ignoreCase

end Service

end QueryWarden
