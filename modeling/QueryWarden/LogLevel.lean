import QueryWarden.Failure.Basic
import QueryWarden.Settings.Environment

/-!
# Levels of the log

The level of the log is given by name, or by the variable `LOG_LEVEL`, in any case of letters.  A
name that is not known stands for the level of information.
-/

namespace QueryWarden.LogLevel

def levels : List (String × Nat) :=
  [("CRITICAL", 50), ("FATAL", 50), ("ERROR", 40), ("WARNING", 30), ("WARN", 30), ("INFO", 20),
    ("DEBUG", 10), ("NOTSET", 0)]

/-- The level of a name in capital letters.  Two names belong to the formats of the log and are
refused. -/
def ofName (name : String) : Except Fault Nat :=
  if name = "BASIC_FORMAT" then
    .error (.value "Unknown level: '%(levelname)s:%(name)s:%(message)s'")
  else if name = "_STYLES" then .error (.type "Level not an integer or a valid string")
  else .ok ((levels.lookup name).getD 20)

/-- The level that is asked for; an empty name asks for none. -/
def setUp (name : Option String) (env : Environment) : Except Fault Nat :=
  match name with
  | none | some "" => ofName (Text.upper (env.text "LOG_LEVEL" "INFO"))
  | some n => ofName (Text.upper n)

end QueryWarden.LogLevel
