import QueryWarden.Failure.Basic
import QueryWarden.Text.Blank
import QueryWarden.Text.Case
import QueryWarden.Value.Basic

/-!
# The deny list

A deny list names operators that no query may hold.  Names and keys are compared without the blank
characters around them and in lower case, and blank names count for nothing.
-/

namespace QueryWarden

/-- A list of operators that are not allowed, in the form in which they are compared. -/
structure DenyList where
  names : List String
  deriving DecidableEq

namespace DenyList

/-- The form in which names and keys are compared. -/
def fold (s : String) : String :=
  Text.lower (Text.strip s)

def ofNames (operators : List String) : DenyList :=
  ⟨(operators.filter (!Text.isBlankText ·)).map fold⟩

def denies (d : DenyList) (key : String) : Bool :=
  d.names.contains (fold key)

mutual

/-- The first denied key of a tree, where a key comes before the keys of its value. -/
def firstDenied? (d : DenyList) : Value → Option String
  | .map es => firstDeniedEntry? d es
  | .list vs => firstDeniedItem? d vs
  | _ => none

def firstDeniedEntry? (d : DenyList) : List (String × Value) → Option String
  | [] => none
  | (k, v) :: es =>
    if d.denies k then some k
    else (firstDenied? d v).orElse fun _ => firstDeniedEntry? d es

def firstDeniedItem? (d : DenyList) : List Value → Option String
  | [] => none
  | v :: vs => (firstDenied? d v).orElse fun _ => firstDeniedItem? d vs

end

def check (d : DenyList) (tree : Value) : Except Failure Unit :=
  match d.firstDenied? tree with
  | some key => .error (.blockedOperator (Text.strip key))
  | none => .ok ()

end DenyList

end QueryWarden
