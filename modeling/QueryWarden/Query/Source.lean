import QueryWarden.Query.Shape

/-!
# Where queries come from

A query comes from the object that a model wrote or from a run request.  `QuerySpec.ofModelOutput`
and `QuerySpec.ofRunRequest` build it; in a run request a pipeline goes before a query.
-/

namespace QueryWarden

def findMode : String := "find"

def aggregateMode : String := "aggregate"

def modes : List String := [findMode, aggregateMode]

namespace ModelOutput

/-- The query in the output of a model: the entry `query`, or the structured query that the
top-level entries form when there is a filter among them. -/
def query (output : Fields) : Value :=
  match Shape.valueOf output "query" with
  | .null =>
    if output.has "filter" then
      .map (Shape.structuredKeys.filterMap fun k => (output.get? k).map fun v => (k, v))
    else .null
  | q => q

/-- The pipeline of one stage that matches the filter of a query. -/
def matchStage (query : Fields) : Value :=
  let filter := if Shape.isStructured query then Shape.valueOf query "filter" else .map query
  .list [.map [("$match", filter)]]

/-- The pipeline in the output of a model: the entry `pipeline`, or else the query as a stage. -/
def pipeline (output : Fields) : Value :=
  match Shape.valueOf output "pipeline" with
  | .null =>
    match query output with
    | .map fs => matchStage fs
    | _ => .null
  | p => p

end ModelOutput

namespace QuerySpec

/-- Builds the query that the output of a model asks for; any mode but the one for pipelines is
taken for the one for filters.  A pipeline without a query is taken in both modes. -/
def ofModelOutput (policy : LimitPolicy) (mode : String) (output : Fields) :
    Except Fault QuerySpec :=
  let limit := (output.get? "limit").getD (.int policy.default)
  if mode = aggregateMode then
    match ModelOutput.pipeline output with
    | .null => .error (.failure .noPipeline)
    | p => buildAggregate .model policy p limit
  else
    match ModelOutput.query output, Shape.valueOf output "pipeline" with
    | .null, .null => .error (.failure .noQuery)
    | .null, p => buildAggregate .model policy p limit
    | q, _ => buildFind .model policy q output limit

/-- Builds the query of a run request, where null stands for a missing part. -/
def ofRunRequest (policy : LimitPolicy) (query pipeline limit : Value) : Except Fault QuerySpec :=
  match query, pipeline with
  | .null, .null => .error (.failure .nothingToRun)
  | q, .null => buildFind .client policy q [] limit
  | _, p => buildAggregate .client policy p limit

end QuerySpec

end QueryWarden
