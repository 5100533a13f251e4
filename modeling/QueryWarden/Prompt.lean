import QueryWarden.Query.Source
import QueryWarden.Settings.Basic
import QueryWarden.Value.Text

/-!
# Prompts

What the model is told: a fixed instruction with the form of the output and its rules, and the
request of the user with the fields that are known.
-/

namespace QueryWarden

/-- The instruction of the system and the request of the user. -/
structure Prompt where
  system : String
  user : String
  deriving DecidableEq

namespace Prompt

def systemLines (s : Settings) : List String :=
  ["You translate natural language into MongoDB queries.",
    "",
    "OUTPUT CONTRACT: respond with ONLY one raw JSON object:",
    "  find mode:      \x7b\"query\": \x7b<filter>\x7d, \"projection\": \x7b...\x7d, "
      ++ "\"sort\": \x7b...\x7d, \"limit\": <int>\x7d",
    "                  (\"projection\", \"sort\" and \"limit\" are optional)",
    "  aggregate mode: \x7b\"pipeline\": [\x7b<stage>\x7d, ...], \"limit\": <int>\x7d",
    "",
    "RULES:",
    " 1. No prose, no explanation, no markdown, no fenced code blocks.",
    " 2. Never include database or collection names in the output.",
    " 3. Use field names exactly as spelled (and cased) in the supplied field list.",
    " 4. Never emit an empty condition when the request implies a concrete value",
    "    (e.g. \"named Jens\" → \x7b\"name\": \"Jens\"\x7d, not \x7b\x7d and not "
      ++ "\x7b\"$regex\": \"\"\x7d).",
    " 5. Never use these operators: " ++ commaJoin s.blockedOperators ++ ". No JavaScript.",
    " 6. Keep \"limit\" between 1 and " ++ intText s.maxLimit.value ++ ".",
    " 7. Use extended JSON for special values: \x7b\"$oid\": \"<24 hex>\"\x7d,",
    "    \x7b\"$date\": \"YYYY-MM-DDTHH:MM:SSZ\"\x7d, "
      ++ "\x7b\"$regex\": \"...\", \"$options\": \"i\"\x7d."]

/-- The last line of a request, which repeats the form of the output. -/
def closingLine (mode : String) : String :=
  if mode = aggregateMode then "Respond with \x7b\"pipeline\": [...]\x7d only."
  else "Respond with \x7b\"query\": \x7b...\x7d\x7d only."

/-- The lines of a request; an empty name of the collection is left out. -/
def userLines (natural mode : String) (fields : List String) (collection : Option String) :
    List String :=
  ["MODE: " ++ mode, "REQUEST: \"" ++ natural ++ "\""]
    ++ (match collection with
      | none | some "" => []
      | some c => ["TARGET COLLECTION: " ++ c])
    ++ (if fields.isEmpty then []
      else "KNOWN FIELDS (exact casing):" :: fields.map fun f => "  - " ++ f)
    ++ [closingLine mode]

def build (s : Settings) (natural mode : String) (fields : List String)
    (collection : Option String) : Prompt where
  system := "\n".intercalate (systemLines s)
  user := "\n".intercalate (userLines natural mode fields collection)

end Prompt

end QueryWarden
