import QueryWarden.Input.Coercion
import QueryWarden.Query.Shape
import QueryWarden.Value.Basic

/-!
# Settings

The settings of the service: the database, the service that generates texts, the limits of
queries, and the operators that no query may hold.

`Settings.ofOverrides` builds settings from the default ones and the values given by name.  The
issues with all values are listed in the order of the settings.
-/

namespace QueryWarden

structure Settings where
  databaseUri : String := "mongodb://localhost:27017"
  databaseName : String := "test"
  /-- How long the database may take to be found, in milliseconds. -/
  selectionTimeout : Int := 5000
  provider : String := "ollama"
  ollamaBaseUrl : String := "http://127.0.0.1:11434"
  ollamaModel : String := "llama3.1"
  ollamaApi : String := "generate"
  geminiApiKey : Option String := none
  geminiModel : String := "gemini-2.0-flash"
  /-- How long a text may take to be generated, in seconds. -/
  generationTimeout : Double := .ofInt 30
  sampleSize : Positive := .ofInt 50
  maxLimit : Positive := .ofInt 100
  defaultLimit : Positive := .ofInt 50
  blockedOperators : List String := ["$where", "$function", "$accumulator", "$out", "$merge"]
  logLevel : String := "INFO"
  deriving DecidableEq

namespace Settings

def limits (s : Settings) : LimitPolicy :=
  ⟨s.maxLimit.value, s.defaultLimit.value⟩

def toFields (s : Settings) : Fields :=
  [("mongo_uri", .string s.databaseUri),
    ("database_name", .string s.databaseName),
    ("server_selection_timeout_ms", .int s.selectionTimeout),
    ("llm_provider", .string s.provider),
    ("ollama_base_url", .string s.ollamaBaseUrl),
    ("ollama_model", .string s.ollamaModel),
    ("ollama_api", .string s.ollamaApi),
    ("gemini_api_key", (s.geminiApiKey.map .string).getD .null),
    ("gemini_model", .string s.geminiModel),
    ("llm_timeout_seconds", .float s.generationTimeout),
    ("schema_sample_size", .int s.sampleSize.value),
    ("max_limit", .int s.maxLimit.value),
    ("default_limit", .int s.defaultLimit.value),
    ("blocked_operators", .list (s.blockedOperators.map .string)),
    ("log_level", .string s.logLevel)]

end Settings

end QueryWarden

namespace QueryWarden.Settings

/-! ## Settings from named values -/

open Input

/-- The settings with the given values in place of the defaults. -/
def ofOverrides (fs : Fields) : Except (List Issue) Settings :=
  let d : Settings := {}
  let str := fun name default => field [] fs name default text
  let pos := fun name default => field [] fs name default positive
  let databaseUri := str "mongo_uri" d.databaseUri
  let databaseName := str "database_name" d.databaseName
  let selectionTimeout := field [] fs "server_selection_timeout_ms" d.selectionTimeout integer
  let provider := str "llm_provider" d.provider
  let ollamaBaseUrl := str "ollama_base_url" d.ollamaBaseUrl
  let ollamaModel := str "ollama_model" d.ollamaModel
  let ollamaApi := str "ollama_api" d.ollamaApi
  let geminiApiKey := field [] fs "gemini_api_key" d.geminiApiKey (optional text)
  let geminiModel := str "gemini_model" d.geminiModel
  let generationTimeout := field [] fs "llm_timeout_seconds" d.generationTimeout double
  let sampleSize := pos "schema_sample_size" d.sampleSize
  let maxLimit := pos "max_limit" d.maxLimit
  let defaultLimit := pos "default_limit" d.defaultLimit
  let blockedOperators :=
    match fs.get? "blocked_operators" with
    | some v => listAt ["blocked_operators"] text v
    | none => .ok d.blockedOperators
  let logLevel := str "log_level" d.logLevel
  let issues := issuesOf databaseUri ++ issuesOf databaseName ++ issuesOf selectionTimeout
    ++ issuesOf provider ++ issuesOf ollamaBaseUrl ++ issuesOf ollamaModel ++ issuesOf ollamaApi
    ++ issuesOf geminiApiKey ++ issuesOf geminiModel ++ issuesOf generationTimeout
    ++ issuesOf sampleSize ++ issuesOf maxLimit ++ issuesOf defaultLimit
    ++ issuesOf blockedOperators ++ issuesOf logLevel
  let settings : Except (List Issue) Settings := do
    .ok { databaseUri := ← databaseUri
          databaseName := ← databaseName
          selectionTimeout := ← selectionTimeout
          provider := ← provider
          ollamaBaseUrl := ← ollamaBaseUrl
          ollamaModel := ← ollamaModel
          ollamaApi := ← ollamaApi
          geminiApiKey := ← geminiApiKey
          geminiModel := ← geminiModel
          generationTimeout := ← generationTimeout
          sampleSize := ← sampleSize
          maxLimit := ← maxLimit
          defaultLimit := ← defaultLimit
          blockedOperators := ← blockedOperators
          logLevel := ← logLevel }
  settings.mapError fun _ => issues

end QueryWarden.Settings
