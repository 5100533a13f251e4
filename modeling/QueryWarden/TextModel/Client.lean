import QueryWarden.Json.Reader
import QueryWarden.Prompt
import QueryWarden.Traced

/-!
# The client of the text service

A `TextClient` sends a prompt to the provider that the settings name, once, and gives the text of
the answer.  Whatever goes wrong on the way is a failure of the service.  The client of the second
provider is made when it is first needed, and kept.
-/

namespace QueryWarden

/-- An answer of HTTP: its status, and its body as a JSON value if it is one. -/
structure HttpAnswer where
  status : Int
  body : Option Value
  deriving DecidableEq

def HttpAnswer.ofText (status : Int) (text : String) : HttpAnswer :=
  ⟨status, (Json.read text).toOption⟩

/-- What the services outside answer. -/
structure TextServices where
  /-- The answer to a request of HTTP. -/
  post : Except Fault HttpAnswer
  /-- The text of the second provider, which is a string in the normal case. -/
  content : Except Fault Value

inductive TextCall where
  | post (url : String) (body : Value) (timeout : Double)
  | connect (key : String) (milliseconds : Int)
  | content (model : String) (prompt : Prompt) (temperature : Double) (maxTokens : Nat)
  deriving DecidableEq

/-- The client: whether the client of the second provider was made. -/
structure TextClient where
  connected : Bool := false
  deriving DecidableEq, Repr

/-- A step of the client: its calls, its outcome, and the client after it. -/
abbrev TextStep (α : Type) := Traced TextCall α × TextClient

namespace TextClient

def ollama : String := "ollama"

def gemini : String := "gemini"

def modelName (s : Settings) : String :=
  if s.provider = gemini then s.geminiModel else s.ollamaModel

/-- The generated text in the body of an answer: the entry `response`, or else the content of the
message. -/
def textOfBody? (body : Value) : Option String :=
  match body.field? "response" with
  | some (.string s) => some s
  | _ => ((body.field? "message").bind (·.field? "content")).bind (·.string?)

/-! ## The first provider -/

/-- The address of the service without slashes at its end. -/
def baseUrl (s : Settings) : String :=
  String.ofList (Text.trimEnd (· == '/') s.ollamaBaseUrl.toList)

def message (role content : String) : Value :=
  .map [("role", .string role), ("content", .string content)]

def request (s : Settings) (p : Prompt) : String × Value :=
  let closing := [("stream", Value.bool false), ("format", Value.string "json")]
  if s.ollamaApi = "chat" then
    (baseUrl s ++ "/api/chat",
      .map ([("model", .string s.ollamaModel),
        ("messages", .list [message "system" p.system, message "user" p.user])] ++ closing))
  else
    (baseUrl s ++ "/api/generate",
      .map ([("model", .string s.ollamaModel), ("system", .string p.system),
        ("prompt", .string p.user)] ++ closing))

/-- The failure that a fault of the transport stands for; other faults are passed on. -/
def transportFault (s : Settings) : Fault → Fault
  | .transport e m =>
    .failure (if e.isTimeout then .timedOut s.generationTimeout else .unreachable m)
  | f => f

def textOfAnswer (a : HttpAnswer) : Except Failure String :=
  if 400 ≤ a.status ∧ a.status < 600 then .error (.badStatus a.status)
  else match a.body with
    | none => .error .replyNotJson
    | some body =>
      match textOfBody? body with
      | some text => .ok text
      | none => .error .replyWithoutText

def askOllama (s : Settings) (services : TextServices) (p : Prompt) : Traced TextCall String :=
  let r := request s p
  .call (.post r.1 r.2 s.generationTimeout) <| match services.post with
    | .error f => .error (transportFault s f)
    | .ok a => (textOfAnswer a).mapError .failure

/-! ## The second provider -/

/-- The time limit in whole milliseconds, the fraction of one left out. -/
def milliseconds (s : Settings) : Except Fault Int :=
  match s.generationTimeout.mulRatio 1000 1 with
  | .nan => .error (.value "cannot convert float NaN to integer")
  | .infinite _ => .error (.overflow "cannot convert float infinity to integer")
  | x => .ok (x.truncate?.getD 0)

/-- Makes the client of the second provider unless there is one. -/
def connect (s : Settings) (c : TextClient) : TextStep Unit :=
  if c.connected then (.pure (), c)
  else match s.geminiApiKey with
    | none | some "" => (.fail .keyMissing, c)
    | some key =>
      match milliseconds s with
      | .error f => (.fault f, c)
      | .ok ms => (.call (.connect key ms) (.ok ()), ⟨true⟩)

/-- The content of an answer, which has to be a text. -/
def textOfContent : Except Fault Value → Except Failure String
  | .error f => .error (.serviceFailed f.text)
  | .ok (.string s) => .ok s
  | .ok _ => .error .replyWithoutText

def askGemini (s : Settings) (services : TextServices) (p : Prompt) (c : TextClient) :
    TextStep String :=
  let (connected, c) := c.connect s
  (connected.bind fun _ =>
    .call (.content s.geminiModel p (.zero false) 1024)
      ((textOfContent services.content).mapError .failure), c)

/-- Sends a prompt to the provider and gives the text of its answer. -/
def generate (s : Settings) (services : TextServices) (p : Prompt) (c : TextClient) :
    TextStep String :=
  if s.provider = gemini then c.askGemini s services p
  else if s.provider = ollama then (askOllama s services p, c)
  else (.fail (.unsupportedProvider s.provider), c)

end TextClient

end QueryWarden
