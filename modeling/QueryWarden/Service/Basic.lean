import QueryWarden.Database.Store
import QueryWarden.Query.DenyList
import QueryWarden.Query.Fuzzy
import QueryWarden.Query.Sanitation
import QueryWarden.Reply.Extraction
import QueryWarden.Schema.CaseMap
import QueryWarden.Schema.FieldPaths

/-!
# The service

The service joins its settings, a store and a model.  Generating and running queries share some
steps: the check of all parts of a query against the deny list, the respelling of its keys, the fuzzy
form of its conditions, and their sanitation.

`Service.generate` turns an instruction into a query.  It learns the fields of the collection,
asks the model once, takes the object out of the reply, checks it against the deny list, builds
the query from it, spells its keys like the fields, and sanitizes its conditions.
-/

namespace QueryWarden

/-- A model that generates texts: its name, and its reply to a prompt. -/
structure TextModel where
  name : String
  reply : Prompt → Except Fault Value

/-- The service with its collaborators. -/
structure Service where
  settings : Settings
  store : Store
  model : TextModel

def Settings.denyList (s : Settings) : DenyList :=
  .ofNames s.blockedOperators

namespace QuerySpec

/-- Refuses a query with a denied key in any of its parts. -/
def check (d : DenyList) : QuerySpec → Except Failure Unit
  | .aggregate s => d.check (stagesValue s.stages)
  | .find s => do
    d.check (.map s.filter)
    d.check (partValue s.projection)
    d.check (partValue s.sort)

def fuzzify : QuerySpec → QuerySpec
  | .aggregate s => .aggregate { s with stages := s.stages.map Fuzzy.fuzzifyStage }
  | .find s => .find { s with filter := Fuzzy.fuzzifyEntries s.filter }

/-- Spells the keys as a map knows them; an empty map knows none. -/
def recase (m : CaseMap) (spec : QuerySpec) : QuerySpec :=
  if m.entries.isEmpty then spec
  else match spec with
    | .aggregate s => .aggregate { s with stages := s.stages.map m.recaseFields }
    | .find s =>
      .find { s with
        filter := m.recaseFields s.filter
        projection := s.projection.map m.recaseFields
        sort := s.sort.map m.recaseFields }

def entriesOf (v : Value) : Fields :=
  v.fields?.getD []

/-- The query with sanitized conditions, the conditions as a tree, and the report. -/
def sanitized : QuerySpec → QuerySpec × Value × SanitationReport
  | .find s =>
    let r := sanitize (.map s.filter)
    (.find { s with filter := entriesOf r.1 }, r)
  | .aggregate s =>
    let r := sanitize (stagesValue s.stages)
    (.aggregate { s with stages := (r.1.items?.getD []).map entriesOf }, r)

/-- Sanitizes the conditions, and refuses a query that lost all of them. -/
def sanitize (spec : QuerySpec) : Except Failure QuerySpec :=
  let r := spec.sanitized
  if isCollapsed r.2.1 r.2.2.removed then .error (.allRemoved r.2.2.paths) else .ok r.1

end QuerySpec

/-! ## Generating queries -/

/-- An instruction in natural language, the mode, and the collection that it is about.  A missing
part is none. -/
structure Instruction where
  natural : Option String
  mode : Option String
  collection : Option String := none
  database : Option String := none

/-- A generated query, the fields that the model was told, and its reply. -/
structure Generated where
  spec : QuerySpec
  fields : List String
  raw : Value
  deriving DecidableEq

def Generated.toValue (g : Generated) : Value :=
  .map (g.spec.toFields
    ++ [("fields", .list (g.fields.map .string)), ("raw", g.raw)])

/-- A text without the blank characters around it, and none for a missing or a blank one. -/
def trimmed? (s : Option String) : Option String :=
  s.bind fun s => if Text.isBlankText s then none else some (Text.strip s)

namespace Service

/-- The query in the reply of a model, spelled like the known fields and sanitized. -/
def specOfReply (s : Service) (mode : String) (fields : List String) (reply : Value) :
    Except Fault QuerySpec := do
  let output ← (Reply.object reply).mapError .failure
  (s.settings.denyList.check (.map output)).mapError .failure
  let spec ← QuerySpec.ofModelOutput s.settings.limits mode output
  ((spec.recase (.ofPaths fields)).sanitize).mapError .failure

/-- The field paths of a collection, and none where no collection is named. -/
def knownFields (s : Service) (collection database : Option String) : Step (List String) :=
  match collection with
  | some c => Schema.pathsOf s.store s.settings.sampleSize c database
  | none => .pure []

def ask (s : Service) (p : Prompt) : Step Value :=
  .call (.generate p) (s.model.reply p)

/-- Generates a query for an instruction whose parts are there. -/
def generateFor (s : Service) (natural mode : String) (collection database : Option String) :
    Step Generated := do
  let fields ← s.knownFields collection database
  let reply ← s.ask (.build s.settings natural mode fields collection)
  let spec ← Traced.ofExcept (s.specOfReply mode fields reply)
  return ⟨spec, fields, reply⟩

def generate (s : Service) (i : Instruction) : Step Generated :=
  match trimmed? i.natural with
  | none => .fail .blankInstruction
  | some natural =>
    match i.mode.filter modes.contains with
    | none => .fail .unknownMode
    | some mode => s.generateFor natural mode (trimmed? i.collection) i.database

end Service

end QueryWarden
