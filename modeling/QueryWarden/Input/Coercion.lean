import QueryWarden.Input.NumberText
import QueryWarden.Query.Limit
import QueryWarden.Value.Basic

/-!
# Lenient reading of typed input

A field of a type takes the values of that type and those that stand for one: an integer may come
as a truth value, a double without a fraction or a text, and a truth value as one of a few numbers
and words.  Every reader gives the value or the complaint about it.
-/

namespace QueryWarden.Input

/-! ## Integers -/

/-- The first integer above the signed words of 64 bits. -/
def wordBound : Int := 0x8000000000000000

/-- Whether an integer has a form of 64 bits with room to spare at the lower end. -/
def fitsWord (i : Int) : Bool :=
  -wordBound < i && i < wordBound

/-- Reads an integer from a double that has no fraction. -/
def integerOfDouble (x : Double) : Except Complaint Int :=
  if !x.isFinite then .error .notFinite
  else match x.toInt? with
    | none => .error .fractionalInteger
    | some i => if fitsWord i then .ok i else .error .hugeInteger

def integer : Value → Except Complaint Int
  | .int i => .ok i
  | .bool b => .ok (if b then 1 else 0)
  | .float x => integerOfDouble x
  | .string s => integerOfText s
  | _ => .error .notInteger

def positive (v : Value) : Except Complaint Positive :=
  (integer v).bind fun i =>
    match Positive.ofInt? i with
    | some p => .ok p
    | none => .error .belowOne

/-! ## Doubles -/

def double : Value → Except Complaint Double
  | .float x => .ok x
  | .int i => if (Double.ofInt i).isFinite then .ok (.ofInt i) else .error .notNumber
  | .bool b => .ok (.ofInt (if b then 1 else 0))
  | .string s => doubleOfText s
  | _ => .error .notNumber

/-! ## Truth values -/

def trueWords : List String := ["1", "on", "t", "true", "y", "yes"]

def falseWords : List String := ["0", "off", "f", "false", "n", "no"]

def boolOfInt (i : Int) : Except Complaint Bool :=
  if i = 0 then .ok false else if i = 1 then .ok true else .error .unreadableBoolean

def bool : Value → Except Complaint Bool
  | .bool b => .ok b
  | .int i => if -wordBound ≤ i ∧ i < wordBound then boolOfInt i else .error .notBoolean
  | .float x =>
    match integerOfDouble x with
    | .ok i => boolOfInt i
    | .error _ => .error .notBoolean
  | .string s =>
    let word := String.ofList (s.toList.map Char.toLower)
    if trueWords.contains word then .ok true
    else if falseWords.contains word then .ok false
    else .error .unreadableBoolean
  | _ => .error .notBoolean

/-! ## Texts and containers -/

def text : Value → Except Complaint String
  | .string s => .ok s
  | _ => .error .notString

def mapping : Value → Except Complaint Fields
  | .map fs => .ok fs
  | _ => .error .notMapping

/-- Reads a value that may be null. -/
def optional {α : Type} (read : Value → Except Complaint α) : Value → Except Complaint (Option α)
  | .null => .ok none
  | v => (read v).map some

/-! ## Fields -/

/-- The value of a typed field, or the issues with it. -/
abbrev Checked (α : Type) := Except (List Issue) α

def readAt {α : Type} (place : List String) (read : Value → Except Complaint α) (v : Value) :
    Checked α :=
  (read v).mapError fun c => [⟨place, c⟩]

/-- Reads the field of a name at a place, or takes the default when it is missing. -/
def field {α : Type} (place : List String) (fs : Fields) (name : String) (default : α)
    (read : Value → Except Complaint α) : Checked α :=
  match fs.get? name with
  | some v => readAt (place ++ [name]) read v
  | none => .ok default

/-- Reads the field of a name at a place, which has to be there. -/
def required {α : Type} (place : List String) (fs : Fields) (name : String)
    (read : Value → Except Complaint α) : Checked α :=
  match fs.get? name with
  | some v => readAt (place ++ [name]) read v
  | none => .error [⟨place ++ [name], .fieldRequired⟩]

/-- Reads the items of a list from index `i` on; the issues with all of them are listed. -/
def itemsFrom {α : Type} (place : List String) (read : Value → Except Complaint α) (i : Nat) :
    List Value → Checked (List α)
  | [] => .ok []
  | v :: vs =>
    match readAt (place ++ [toString i]) read v, itemsFrom place read (i + 1) vs with
    | .ok a, .ok as => .ok (a :: as)
    | .ok _, .error is => .error is
    | .error is, .ok _ => .error is
    | .error is, .error js => .error (is ++ js)

def listAt {α : Type} (place : List String) (read : Value → Except Complaint α) :
    Value → Checked (List α)
  | .list vs => itemsFrom place read 0 vs
  | _ => .error [⟨place, .notList⟩]

def issuesOf {α : Type} : Checked α → List Issue
  | .ok _ => []
  | .error is => is

end QueryWarden.Input
