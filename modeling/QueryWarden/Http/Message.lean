import QueryWarden.Failure.Basic
import QueryWarden.Json.Reader
import QueryWarden.Text.Utf8

/-!
# Messages of HTTP

A request has a method, a target and a body; a response has a status and a JSON body.  The body of
a request is read as JSON, and numbers without a form in JSON are refused in responses.

A body is a sequence of bytes, which are numbers below 256, in UTF-8, UTF-16 or UTF-32.  JSON starts
with two characters of ASCII, so the zero bytes among the first four tell the encoding.  A byte order
mark of UTF-8 is left out, and a surrogate that stands alone is replaced.
-/

namespace QueryWarden.Http

/-! ## Encodings -/

inductive Encoding where
  | utf8
  | utf8Marked
  | utf16 (bigEndian : Bool)
  | utf32 (bigEndian : Bool)
  deriving DecidableEq, Repr

/-- The encoding that the first bytes tell. -/
def Encoding.ofBytes : List Nat → Encoding
  | 0xEF :: 0xBB :: 0xBF :: _ => .utf8Marked
  | [a, b] => if a = 0 then .utf16 true else if b = 0 then .utf16 false else .utf8
  | a :: b :: c :: d :: _ =>
    if a = 0 then (if b = 0 then .utf32 true else .utf16 true)
    else if b = 0 then (if c = 0 ∧ d = 0 then .utf32 false else .utf16 false)
    else .utf8
  | _ => .utf8

/-- The number that bytes write, the most significant one first or last. -/
def ofByteOrder (bigEndian : Bool) (bytes : List Nat) : Nat :=
  (if bigEndian then bytes else bytes.reverse).foldl (fun n b => 256 * n + b) 0

/-- The units of 16 bits of bytes in pairs. -/
def units16? (bigEndian : Bool) : List Nat → Option (List Nat)
  | [] => some []
  | a :: b :: rest => (units16? bigEndian rest).map (ofByteOrder bigEndian [a, b] :: ·)
  | [_] => none

/-- The characters of units of 16 bits, where a pair of surrogates is one character. -/
def charsOfUnits : List Nat → List Char
  | high :: low :: rest =>
    if Text.isHighSurrogate high && Text.isLowSurrogate low then
      Text.pairChar high low :: charsOfUnits rest
    else Text.charOrReplacement high :: charsOfUnits (low :: rest)
  | [u] => [Text.charOrReplacement u]
  | [] => []

/-- The characters of bytes in groups of four. -/
def chars32? (bigEndian : Bool) : List Nat → Option (List Char)
  | [] => some []
  | a :: b :: c :: d :: rest =>
    let n := ofByteOrder bigEndian [a, b, c, d]
    if n < 0x110000 then (chars32? bigEndian rest).map (Text.charOrReplacement n :: ·) else none
  | _ => none

/-- The text that bytes write in an encoding. -/
def Encoding.decode? (bytes : List Nat) : Encoding → Option String
  | .utf8 => Text.utf8Text? (bytes.map UInt8.ofNat)
  | .utf8Marked => Text.utf8Text? ((bytes.drop 3).map UInt8.ofNat)
  | .utf16 bigEndian => (units16? bigEndian bytes).map fun us => String.ofList (charsOfUnits us)
  | .utf32 bigEndian => (chars32? bigEndian bytes).map String.ofList

/-- The text of a body whose bytes are the UTF-8 form of the given one. -/
def bodyText? (s : String) : Option String :=
  let bytes := (Text.utf8Units s.toList).map (·.toNat)
  (Encoding.ofBytes bytes).decode? bytes

/-! ## Messages -/

inductive Body where
  | none
  | text (s : String)
  | json (v : Value)

structure Request where
  method : String
  target : String
  body : Body := .none

structure Response where
  status : Nat
  body : Value
  deriving DecidableEq

/-! ## Bodies of requests -/

/-- What a body turns out to be. -/
inductive Content where
  | missing
  | value (v : Value)
  | malformed (place : Nat)
  | unreadable

def contentOfText (s : String) : Content :=
  if s.isEmpty then .missing
  else match bodyText? s with
    | none => .unreadable
    | some text =>
      match Json.read text with
      | .ok v => .value v
      | .error (.malformed place) => .malformed place
      | .error .integerTooLong => .unreadable

def Body.content : Body → Content
  | .none => .missing
  | .text s => contentOfText s
  | .json v => .value v

/-! ## Bodies of responses -/

mutual

/-- Drops the entries whose keys start with `_sa`, which are internal. -/
def dropInternal : Value → Value
  | .map es => .map (dropInternalEntries es)
  | .list vs => .list (dropInternalItems vs)
  | v => v

def dropInternalEntries : List (String × Value) → List (String × Value)
  | [] => []
  | (k, v) :: es =>
    if ['_', 's', 'a'].isPrefixOf k.toList then dropInternalEntries es
    else (k, dropInternal v) :: dropInternalEntries es

def dropInternalItems : List Value → List Value
  | [] => []
  | v :: vs => dropInternal v :: dropInternalItems vs

end

mutual

/-- Whether all numbers of a tree have a form in JSON. -/
def isStrict : Value → Bool
  | .float x => x.isFinite
  | .map es => isStrictEntries es
  | .list vs | .tuple vs => isStrictItems vs
  | _ => true

def isStrictEntries : List (String × Value) → Bool
  | [] => true
  | (_, v) :: es => isStrict v && isStrictEntries es

def isStrictItems : List Value → Bool
  | [] => true
  | v :: vs => isStrict v && isStrictItems vs

end

/-- The response that shows a value; numbers without a form in JSON are refused. -/
def respond (v : Value) : Except Fault Response :=
  let body := dropInternal v
  if isStrict body then .ok ⟨200, body⟩
  else .error (.value "Out of range float values are not JSON compliant")

def failureFields (f : Failure) : Fields :=
  [("ok", .bool false), ("error", .string f.kind.name), ("detail", .string f.detail)]
    ++ (match f.hint with
      | some h => if h = "" then [] else [("hint", .string h)]
      | none => [])

def respondFailure (f : Failure) : Response :=
  ⟨f.status, .map (failureFields f)⟩

/-- A response with a remark and nothing else. -/
def remark (status : Nat) (text : String) : Response :=
  ⟨status, .map [("detail", .string text)]⟩

end QueryWarden.Http
