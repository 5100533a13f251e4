import QueryWarden.Http.Request
import QueryWarden.TextModel.Client

/-!
# The server

The routes of the service and the responses to requests.  A failure of the service is a response
of its own; every other fault ends the request without one.
-/

namespace QueryWarden.Http

inductive Endpoint where
  | generate
  | run
  | collections
  | status
  | health
  deriving DecidableEq, Repr

def routes : List (String × String × Endpoint) :=
  [("/ai/generate", "POST", .generate), ("/ai/run", "POST", .run),
    ("/collections", "GET", .collections), ("/ai/status", "GET", .status),
    ("/health", "GET", .health)]

inductive Destination where
  | unknown
  | wrongMethod
  | endpoint (e : Endpoint)
  deriving DecidableEq, Repr

/-- Where a request leads; slashes at the end of its path do not count. -/
def destination (r : Request) : Destination :=
  match routes.lookup (Target.dropSlashes (Target.path r.target)) with
  | none => .unknown
  | some (method, e) => if r.method = method then .endpoint e else .wrongMethod

/-- Whether a request is turned away before the service is needed. -/
def rejected? (r : Request) : Option Response :=
  match destination r with
  | .unknown => some (remark 404 "Not Found")
  | .wrongMethod => some (remark 405 "Method Not Allowed")
  | .endpoint .generate | .endpoint .run =>
    match r.body.content with
    | .malformed place =>
      some (respondFailure (.invalidBody [⟨["body", toString place], .undecodable⟩]))
    | .unreadable => some (remark 400 "There was an error parsing the body")
    | _ => none
  | .endpoint _ => none

/-- The response to a question for the state of the server. -/
def healthValue : Value :=
  .map [("status", .string "ok"), ("version", .string "1.0.0")]

/-- The configuration of the text service. -/
def statusValue (s : Service) : Value :=
  let cfg := s.settings
  .map ([("provider", .string cfg.provider), ("model", .string s.model.name),
      ("timeout_seconds", .float cfg.generationTimeout), ("max_limit", .int cfg.maxLimit.value),
      ("blocked_operators", .list (cfg.blockedOperators.map .string))]
    ++ if cfg.provider = TextClient.gemini then
        [("api_key_set", .bool (cfg.geminiApiKey.any (· != "")))]
      else [("base_url", .string cfg.ollamaBaseUrl), ("api", .string cfg.ollamaApi)])

def answer (s : Service) (r : Request) : Endpoint → Step Value
  | .generate => do
    let i ← Traced.ofFailable (readForm instructionOf r.body.content)
    let g ← s.generate i
    return g.toValue
  | .run => do
    let q ← Traced.ofFailable (readForm runRequestOf r.body.content)
    let docs ← s.run q
    return .list docs
  | .collections => do
    let ls ← s.store.list (Target.parameter? r.target "database")
    return .map [("collections", .list (ls.map (·.toValue)))]
  | .status => .pure (statusValue s)
  | .health => .pure healthValue

/-- The response to the outcome of an endpoint. -/
def conclude : Except Fault Value → Except Fault Response
  | .ok v => respond v
  | .error (.failure f) => .ok (respondFailure f)
  | .error f => .error f

def handle (s : Service) (r : Request) : Step Response :=
  match rejected? r, destination r with
  | some response, _ => .pure response
  | none, .endpoint e => (answer s r e).mapOutcome conclude
  | none, _ => .pure (remark 404 "Not Found")

def needsService (r : Request) : Bool :=
  match rejected? r, destination r with
  | none, .endpoint .health => false
  | none, .endpoint _ => true
  | _, _ => false

end QueryWarden.Http
