import QueryWarden.Query.Spec
import QueryWarden.Text.Blank
import QueryWarden.Text.Case

/-!
# Shapes of queries

Models and clients write a query in several shapes.  `buildFind` reads a bare filter, a structured
query with a filter, a projection, a sort and a limit of its own, or a list that holds one of
these; `buildAggregate` reads a list of stages.  Projections and sorts have lenient shapes too,
and one that is not understood counts as missing.
-/

namespace QueryWarden

/-- The bounds that a limit is moved into, and the limit where none can be read. -/
structure LimitPolicy where
  greatest : Int
  default : Int
  deriving DecidableEq

def LimitPolicy.clamp (p : LimitPolicy) (v : Value) : Int :=
  clampLimit p.greatest p.default v

namespace Shape

/-- A mapping, unless it is empty. -/
def nonempty? (fs : Fields) : Option Fields :=
  if fs.isEmpty then none else some fs

/-! ## Projections -/

def fieldName? : Value → Option String
  | .string s => if s = "" then none else some s
  | _ => none

/-- Reads a projection: a mapping, or a list of names. -/
def projection? : Value → Option Fields
  | .map fs => nonempty? fs
  | .list vs =>
    nonempty? (Fields.ofEntries ((vs.filterMap fieldName?).map fun f => (f, .int 1)))
  | _ => none

/-! ## Sorts -/

def descendingWords : List String :=
  ["desc", "descending", "-1"]

/-- A direction as 1 or -1; a mapping stands for itself. -/
def direction : Value → Value
  | .string s =>
    if descendingWords.contains (Text.lower (Text.strip s)) then .int (-1) else .int 1
  | .int i => if i < 0 then .int (-1) else .int 1
  | .float x => if x.isNegative then .int (-1) else .int 1
  | .map fs => .map fs
  | _ => .int 1

def sortPair? : Value → Option (String × Value)
  | .list [.string f, d] => some (f, d)
  | .tuple [.string f, d] => some (f, d)
  | _ => none

/-- The directions of a sort as they are written. -/
def sortEntries : Value → Fields
  | .string s => if s = "" then [] else [(s, .int 1)]
  | .list vs => Fields.ofEntries (vs.filterMap sortPair?)
  | .map fs => fs
  | _ => []

/-- Reads a sort: a mapping, a list of pairs, or the name of one field. -/
def sort? (v : Value) : Option Fields :=
  nonempty? ((sortEntries v).map fun e => (e.1, direction e.2))

/-! ## Stages -/

/-- Reads stages from index `i` on, which are mappings with at least one entry. -/
def stagesFrom (author : Author) (i : Nat) : List Value → Except Failure (List Fields)
  | [] => .ok []
  | .map (e :: es) :: vs => (stagesFrom author (i + 1) vs).map ((e :: es) :: ·)
  | _ => .error (.misshapen author (.stageNotObject i))

def stages (author : Author) : Value → Except Failure (List Fields)
  | .list vs => stagesFrom author 0 vs
  | _ => .error (.misshapen author .pipelineNotList)

/-! ## Filters -/

def structuredKeys : List String :=
  ["filter", "projection", "sort", "limit"]

/-- Whether a mapping is a structured query and not a bare filter. -/
def isStructured (fs : Fields) : Bool :=
  fs.has "filter" && fs.all fun e => structuredKeys.contains e.1

/-- The value of a key, where a missing one counts as null. -/
def valueOf (fs : Fields) (k : String) : Value :=
  (fs.get? k).getD .null

/-- The mapping that a query consists of: the query itself, or the first mapping of a list, and
the empty one when a list has none. -/
def queryFields (author : Author) : Value → Except Failure Fields
  | .map fs => .ok fs
  | .list vs => .ok ((vs.findSome? (·.fields?)).getD [])
  | _ => .error (.misshapen author .queryNotObject)

/-- The entries of a filter, where null counts as the empty one. -/
def filterFields (author : Author) : Value → Except Failure Fields
  | .map fs => .ok fs
  | .null => .ok []
  | _ => .error (.misshapen author .filterNotObject)

/-- What a query says before its parts are read. -/
structure RawFind where
  filter : Value
  projection : Value
  sort : Value
  limit : Value

/-- The parts of a query.  A structured query has its own; a part that it lacks, and all but the
filter for a bare filter, comes from the entries around it. -/
def rawFind (query outer : Fields) (limit : Value) : RawFind :=
  if isStructured query then
    { filter := valueOf query "filter"
      projection := (query.get? "projection").getD (valueOf outer "projection")
      sort := (query.get? "sort").getD (valueOf outer "sort")
      limit := (query.get? "limit").getD limit }
  else
    { filter := .map query
      projection := valueOf outer "projection"
      sort := valueOf outer "sort"
      limit := limit }

end Shape

/-- Builds a find from a query, with the entries around it. -/
def buildFind (author : Author) (policy : LimitPolicy) (query : Value) (outer : Fields)
    (limit : Value) : Except Fault QuerySpec :=
  match Shape.queryFields author query with
  | .error f => .error (.failure f)
  | .ok fs =>
    let raw := Shape.rawFind fs outer limit
    match Shape.filterFields author raw.filter with
    | .error f => .error (.failure f)
    | .ok filter =>
      FindSpec.build filter (Shape.projection? raw.projection) (Shape.sort? raw.sort)
        (policy.clamp raw.limit)

def buildAggregate (author : Author) (policy : LimitPolicy) (pipeline limit : Value) :
    Except Fault QuerySpec :=
  match Shape.stages author pipeline with
  | .error f => .error (.failure f)
  | .ok stages => AggregateSpec.build stages (policy.clamp limit)

end QueryWarden
