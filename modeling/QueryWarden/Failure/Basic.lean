import QueryWarden.Double.Text

/-!
# Failures and faults

A value that does not fit the type of its field raises an `Issue`: the place of the field and the
complaint.  A report of several issues joins them in the order of the fields.

Every way in which the service itself ends a request is a `Failure`.  A failure names its cause;
its kind, its status of HTTP, its detail and its hint follow from the cause.

A `Fault` is what a step may end with: a failure of the service itself, issues with typed input, or
an error of a collaborator or of the run-time system, which the steps above turn into failures or let
pass.
-/

namespace QueryWarden

/-! ## Issues with typed input -/

/-- What is wrong with a value. -/
inductive Complaint where
  | fieldRequired
  | notString
  | notMode
  | notMapping
  | notList
  | notInteger
  | unreadableInteger
  | fractionalInteger
  | hugeInteger
  | notFinite
  | notNumber
  | unreadableNumber
  | notBoolean
  | unreadableBoolean
  | belowOne
  | notObject
  | undecodable
  deriving DecidableEq, Repr

def Complaint.text : Complaint → String
  | .fieldRequired => "Field required"
  | .notString => "Input should be a valid string"
  | .notMode => "Input should be 'find' or 'aggregate'"
  | .notMapping => "Input should be a valid dictionary"
  | .notList => "Input should be a valid list"
  | .notInteger => "Input should be a valid integer"
  | .unreadableInteger => "Input should be a valid integer, unable to parse string as an integer"
  | .fractionalInteger => "Input should be a valid integer, got a number with a fractional part"
  | .hugeInteger => "Unable to parse input string as an integer, exceeded maximum size"
  | .notFinite => "Input should be a finite number"
  | .notNumber => "Input should be a valid number"
  | .unreadableNumber => "Input should be a valid number, unable to parse string as a number"
  | .notBoolean => "Input should be a valid boolean"
  | .unreadableBoolean => "Input should be a valid boolean, unable to interpret input"
  | .belowOne => "Input should be greater than or equal to 1"
  | .notObject => "Input should be a valid dictionary or object to extract fields from"
  | .undecodable => "JSON decode error"

/-- A complaint and the path of the field that it is about. -/
structure Issue where
  place : List String
  complaint : Complaint
  deriving DecidableEq, Repr

/-- The place, a colon and the complaint. -/
def Issue.text (i : Issue) : String :=
  ".".intercalate i.place ++ ": " ++ i.complaint.text

def issuesText (is : List Issue) : String :=
  "; ".intercalate (is.map (·.text))

/-! ## Failures -/

inductive FailureKind where
  | general
  | invalidInput
  | textService
  | invalidModelOutput
  | dangerousOperator
  | emptyAfterSanitization
  | execution
  deriving DecidableEq, Repr

def FailureKind.name : FailureKind → String
  | .general => "PipelineError"
  | .invalidInput => "InvalidInput"
  | .textService => "UpstreamServiceFailure"
  | .invalidModelOutput => "InvalidModelOutput"
  | .dangerousOperator => "DangerousOperator"
  | .emptyAfterSanitization => "EmptyAfterSanitization"
  | .execution => "ExecutionFailure"

def FailureKind.status : FailureKind → Nat
  | .invalidInput => 422
  | .textService => 502
  | .dangerousOperator => 400
  | .emptyAfterSanitization => 422
  | .general | .invalidModelOutput | .execution => 500

/-- Who wrote a query: the model, or the client of a run request. -/
inductive Author where
  | model
  | client
  deriving DecidableEq, Repr

/-- What is wrong with the shape of a query or pipeline. -/
inductive Misshape where
  | pipelineNotList
  | stageNotObject (index : Nat)
  | queryNotObject
  | filterNotObject
  deriving DecidableEq, Repr

/-- Why a request ends without an answer. -/
inductive Failure where
  | blankInstruction
  | unknownMode
  | blankCollection
  | nothingToRun
  | invalidBody (issues : List Issue)
  | misshapen (author : Author) (shape : Misshape)
  | emptyReply
  | noObject
  | noPipeline
  | noQuery
  | blockedOperator (key : String)
  | allRemoved (paths : List String)
  | queryFailed (reason : String)
  | cannotOpen (collection reason : String)
  | listingFailed (reason : String)
  | unsupportedProvider (name : String)
  | keyMissing
  | timedOut (seconds : Double)
  | unreachable (reason : String)
  | badStatus (status : Int)
  | replyNotJson
  | replyWithoutText
  | serviceFailed (reason : String)
  /-- A failure that a collaborator states in its own words. -/
  | stated (kind : FailureKind) (detail : String) (hint : Option String)
  deriving DecidableEq

namespace Failure

/-- The kind of a misshapen query. -/
def kindOfAuthor : Author → FailureKind
  | .model => .invalidModelOutput
  | .client => .invalidInput

def kind : Failure → FailureKind
  | .blankInstruction | .unknownMode | .blankCollection | .nothingToRun | .invalidBody _ =>
    .invalidInput
  | .misshapen author _ => kindOfAuthor author
  | .emptyReply | .noObject | .noPipeline | .noQuery => .invalidModelOutput
  | .blockedOperator _ => .dangerousOperator
  | .allRemoved _ => .emptyAfterSanitization
  | .queryFailed _ | .cannotOpen _ _ | .listingFailed _ => .execution
  | .unsupportedProvider _ | .keyMissing | .timedOut _ | .unreachable _ | .badStatus _
  | .replyNotJson | .replyWithoutText | .serviceFailed _ => .textService
  | .stated kind _ _ => kind

def status (f : Failure) : Nat :=
  f.kind.status

def misshapeText : Misshape → String
  | .pipelineNotList => "'pipeline' must be an array of stage objects"
  | .stageNotObject i => "Pipeline stage " ++ toString i ++ " must be a non-empty object"
  | .queryNotObject => "'query' must be an object"
  | .filterNotObject => "'filter' must be an object"

/-- What a failure says. -/
def detail : Failure → String
  | .blankInstruction => "'natural' (the instruction) is required"
  | .unknownMode => "'mode' must be one of find, aggregate"
  | .blankCollection => "'collection' is required"
  | .nothingToRun => "Provide either 'query' or 'pipeline' to run"
  | .invalidBody [] => "Invalid request body"
  | .invalidBody issues => issuesText issues
  | .misshapen _ shape => misshapeText shape
  | .emptyReply => "Model returned an empty response"
  | .noObject => "Model returned no recoverable JSON object"
  | .noPipeline => "Model output has no 'pipeline' for aggregate mode"
  | .noQuery => "Model output has no 'query' for find mode"
  | .blockedOperator key => "Blocked dangerous operator '" ++ key ++ "'"
  | .allRemoved paths =>
    "All conditions were removed by sanitization (" ++ toString paths.length
      ++ " empty or malformed pattern match(es) at " ++ ", ".intercalate paths
      ++ "); refusing to match every document"
  | .queryFailed reason => "Query execution error: " ++ reason
  | .cannotOpen collection reason =>
    "Cannot open collection '" ++ collection ++ "': " ++ reason
  | .listingFailed reason => "Failed to list collections: " ++ reason
  | .unsupportedProvider name => "Unsupported LLM provider: " ++ name
  | .keyMissing => "GEMINI_API_KEY is not configured"
  | .timedOut seconds => "Text-generation service timed out after " ++ seconds.toGeneralText ++ "s"
  | .unreachable reason => "Text-generation service unreachable: " ++ reason
  | .badStatus status => "Text-generation service returned HTTP " ++ toString status
  | .replyNotJson => "Text-generation service returned a non-JSON body"
  | .replyWithoutText => "Text-generation service response carried no text"
  | .serviceFailed reason => "Text-generation service failed: " ++ reason
  | .stated _ detail _ => detail

/-- What to do about a query that lost all its conditions. -/
def emptyQueryHint : String :=
  "Name a concrete value in the request (e.g. 'users named Jens') "
    ++ "or run an explicit empty query to list documents."

/-- What to do about a failure, where there is advice. -/
def hint : Failure → Option String
  | .allRemoved _ => some emptyQueryHint
  | .stated _ _ hint => hint
  | _ => none

end Failure

/-! ## Faults -/

inductive TransportError where
  | timeout
  | readTimeout
  | connectTimeout
  | connection
  | invalidUrl
  deriving DecidableEq, Repr

def TransportError.isTimeout : TransportError → Bool
  | .timeout | .readTimeout | .connectTimeout => true
  | .connection | .invalidUrl => false

/-- Why a step has no result. -/
inductive Fault where
  | failure (f : Failure)
  | invalid (issues : List Issue)
  /-- An error that the driver of the database raises, under the driver's own name for it. -/
  | database (name message : String)
  | transport (error : TransportError) (message : String)
  | io (message : String)
  | type (message : String)
  | value (message : String)
  | runtime (message : String)
  | overflow (message : String)
  deriving DecidableEq

namespace Fault

def text : Fault → String
  | .failure f => f.detail
  | .invalid issues => issuesText issues
  | .database _ m | .transport _ m | .io m | .type m | .value m | .runtime m | .overflow m => m

/-- The errors of the codec of documents, which come from the database's driver too. -/
def codecErrors : List String :=
  ["BSONError", "InvalidBSON", "InvalidStringData", "InvalidDocument", "InvalidId",
    "DocumentTooLarge"]

/-- Whether the fault is an error of the database.  Those of the codec of documents are none. -/
def isDatabase : Fault → Bool
  | .database name _ => !codecErrors.contains name
  | _ => false

/-- Whether the fault is about a value; an address that is not valid counts. -/
def isValue : Fault → Bool
  | .value _ | .transport .invalidUrl _ | .invalid _ => true
  | _ => false

def isType : Fault → Bool
  | .type _ => true
  | _ => false

/-- Whether the fault is one of input or output; all errors of a transport count. -/
def isIo : Fault → Bool
  | .io _ | .transport _ _ => true
  | _ => false

end Fault

end QueryWarden
