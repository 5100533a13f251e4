import QueryWarden.Value.Basic

/-!
# Fuzzy matching

`fuzzify` turns the strings that stand under field keys into patterns that match them anywhere and
in any case of letters.  It goes below the documents of operators and below the lists of the
logical operators, and leaves embedded documents, other lists and the operands of expressions as
they are.

The pattern of a string has a backslash in front of every character that a regular expression could
read as more than itself (`Pattern.escape`), so that it matches the text and nothing else.
-/

namespace QueryWarden.Pattern

/-! ## Literal patterns -/

/-- The characters that get a backslash. -/
def special : List Char :=
  ['(', ')', '[', ']', '\x7b', '\x7d', '?', '*', '+', '-', '|', '^', '$', '\\', '.', '&', '~',
    '#', ' ', '\t', '\n', '\r', '\x0b', '\x0c']

def escapeChar (c : Char) : List Char :=
  if special.contains c then ['\\', c] else [c]

def escapeChars (cs : List Char) : List Char :=
  cs.flatMap escapeChar

/-- The pattern that matches a text. -/
def escape (s : String) : String :=
  String.ofList (escapeChars s.toList)

/-- The clause that matches a text anywhere in a string, in any case of letters. -/
def ofLiteral (s : String) : Value :=
  .map [("$regex", .string (escape s)), ("$options", .string "i")]

end QueryWarden.Pattern

namespace QueryWarden.Fuzzy

/-! ## Fuzzy filters -/

def isOperator (k : String) : Bool :=
  k.toList.head? == some '$'

/-- The operators whose operands hold no literals of fields. -/
def opaqueOperators : List String :=
  ["$expr", "$where", "$jsonSchema", "$text"]

/-- The operators that combine a list of filters. -/
def logicalOperators : List String :=
  ["$and", "$or", "$nor"]

def isOperatorDocument : Value → Bool
  | .map fs => fs.any fun e => isOperator e.1
  | _ => false

/-- Whether the operand of an operator is made fuzzy in turn. -/
def opensOperand (k : String) : Value → Bool
  | .map _ => !opaqueOperators.contains k
  | .list _ => logicalOperators.contains k
  | _ => false

/-- Whether the value of a key is made fuzzy in turn. -/
def descends (k : String) (v : Value) : Bool :=
  if isOperator k then opensOperand k v else isOperatorDocument v

/-- The value of a key that is not made fuzzy in turn: a string under a field key becomes its
pattern. -/
def replaceLiteral (k : String) (v : Value) : Value :=
  match v with
  | .string s => if isOperator k then v else Pattern.ofLiteral s
  | _ => v

mutual

/-- Makes a filter fuzzy. -/
def fuzzify : Value → Value
  | .map es => .map (fuzzifyEntries es)
  | .list vs => .list (fuzzifyItems vs)
  | v => v

def fuzzifyEntries : List (String × Value) → List (String × Value)
  | [] => []
  | (k, v) :: es =>
    (k, if descends k v then fuzzify v else replaceLiteral k v) :: fuzzifyEntries es

def fuzzifyItems : List Value → List Value
  | [] => []
  | v :: vs => fuzzify v :: fuzzifyItems vs

end

/-- Makes the filter of a stage `$match` fuzzy. -/
def fuzzifyStage (stage : Fields) : Fields :=
  match stage.get? "$match" with
  | some (.map es) => Fields.set stage "$match" (.map (fuzzifyEntries es))
  | _ => stage

/-- Makes the filters of all stages `$match` among the items of a list fuzzy. -/
def fuzzifyStages (stages : List Value) : List Value :=
  stages.map fun
    | .map fs => .map (fuzzifyStage fs)
    | v => v

end QueryWarden.Fuzzy
