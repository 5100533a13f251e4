import QueryWarden.Failure.Basic
import QueryWarden.Number.Numeral
import QueryWarden.Settings.Basic
import QueryWarden.Text.Case
import QueryWarden.Text.Quoted

/-!
# Settings from the environment

`Settings.ofEnvironment` reads the settings from the variables of an environment.  Numbers are
read first, in a fixed order, and the first one that cannot be read ends the reading.
-/

namespace QueryWarden

abbrev Environment := List (String × String)

namespace Environment

/-- The text of a variable, or the default when it is not set. -/
def text (env : Environment) (name default : String) : String :=
  (env.lookup name).getD default

/-- The message about a text that is no integer. -/
def integerMessage (s : String) : Number.IntegerTextError → String
  | .malformed =>
    "invalid literal for int() with base 10: "
      ++ String.ofList ((Text.quoteChars s.toList).take 200)
  | .tooLong n =>
    "Exceeds the limit (" ++ toString Number.maxDigits
      ++ " digits) for integer string conversion: value has " ++ toString n
      ++ " digits; use sys.set_int_max_str_digits() to increase the limit"

def integer (env : Environment) (name default : String) : Except Fault Int :=
  let s := env.text name default
  (Number.readInteger s).mapError fun e => .value (integerMessage s e)

def double (env : Environment) (name default : String) : Except Fault Double :=
  let s := env.text name default
  match Double.ofText? s with
  | some x => .ok x
  | none => .error (.value ("could not convert string to float: " ++ Text.quote s))

/-- The operators in a list with commas, blank ones left out. -/
def operators (s : String) : List String :=
  ((Text.splitOn ',' s.toList).map Text.stripChars).filterMap fun cs =>
    if cs.isEmpty then none else some (String.ofList cs)

/-- The operators that no query may hold where the environment names none. -/
def defaultOperators : String := "$where,$function,$accumulator,$out,$merge"

/-- A key, unless it is blank. -/
def keyOf (s : String) : Option String :=
  if Text.isBlankText s then none else some (Text.strip s)

end Environment

def Settings.ofEnvironment (env : Environment) : Except Fault Settings := do
  let selectionTimeout ← env.integer "SERVER_SELECTION_TIMEOUT_MS" "5000"
  let generationTimeout ← env.double "LLM_TIMEOUT_SECONDS" "30"
  let sampleSize ← env.integer "SCHEMA_SAMPLE_SIZE" "50"
  let maxLimit ← env.integer "MAX_LIMIT" "100"
  let defaultLimit ← env.integer "DEFAULT_LIMIT" "50"
  let str := fun name default => Value.string (env.text name default)
  (Settings.ofOverrides
    [("mongo_uri", str "MONGO_URI" "mongodb://localhost:27017"),
      ("database_name", str "DATABASE_NAME" "test"),
      ("server_selection_timeout_ms", .int selectionTimeout),
      ("llm_provider", .string (Text.lower (env.text "LLM_PROVIDER" "ollama"))),
      ("ollama_base_url", str "OLLAMA_BASE_URL" "http://127.0.0.1:11434"),
      ("ollama_model", str "OLLAMA_MODEL" "llama3.1"),
      ("ollama_api", .string (Text.lower (env.text "OLLAMA_API" "generate"))),
      ("gemini_api_key",
        ((Environment.keyOf (env.text "GEMINI_API_KEY" "")).map .string).getD .null),
      ("gemini_model", str "GEMINI_MODEL" "gemini-2.0-flash"),
      ("llm_timeout_seconds", .float generationTimeout),
      ("schema_sample_size", .int sampleSize),
      ("max_limit", .int maxLimit),
      ("default_limit", .int defaultLimit),
      ("blocked_operators", .list ((Environment.operators
        (env.text "BLOCKED_OPERATORS" Environment.defaultOperators)).map .string)),
      ("log_level", .string (Text.upper (env.text "LOG_LEVEL" "INFO")))]).mapError .invalid

end QueryWarden
