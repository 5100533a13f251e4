import QueryWarden.Http.Message
import QueryWarden.Input.Coercion
import QueryWarden.Service.Run
import QueryWarden.Text.Blank
import QueryWarden.Text.Digits
import QueryWarden.Text.Utf8

/-!
# Requests of HTTP

A target is a reference to a resource of the server: an optional authority behind two slashes, a
path, an optional query string, and an optional fragment, which does not count.  Paths start with
one slash, and their dot segments are resolved.  Escapes of bytes by a percent sign are read in
paths and in query strings.

The bodies of requests are typed forms.  Every field is read leniently, and the issues with all
fields are listed in the order of the form.
-/

namespace QueryWarden.Http

/-! ## Escapes -/

/-- The bytes that a part of a target stands for, each as a character. -/
def unescape : List Char → List Char
  | '%' :: a :: b :: cs =>
    match hexValue? a, hexValue? b with
    | some x, some y => Char.ofNat (x.val * 16 + y.val) :: unescape cs
    | _, _ => '%' :: unescape (a :: b :: cs)
  | c :: cs => c :: unescape cs
  | [] => []

/-- The text that a part of a target stands for, with replacements where it is not UTF-8. -/
def unescapeText (cs : List Char) : String :=
  Text.utf8Lossy ((unescape (Text.utf8Units cs)).map Char.toNat)

namespace Target

/-! ## Paths -/

def dropAuthority : List Char → List Char
  | '/' :: '/' :: cs => cs.dropWhile (· != '/')
  | cs => cs

/-- Resolves dot segments against the segments before them, of which the last comes first; the
empty segment in front of the first slash stays. -/
def resolveFrom (before : List (List Char)) : List (List Char) → List (List Char)
  | [] => before.reverse
  | segment :: segments =>
    if segment = ['.'] then resolveFrom before segments
    else if segment = ['.', '.'] then
      resolveFrom (if before = [[]] then before else before.tail) segments
    else resolveFrom (segment :: before) segments

/-- The characters of the path, with one slash in front and without dot segments. -/
def pathChars (target : List Char) : List Char :=
  let path := dropAuthority (Text.before '?' (Text.before '#' target))
  ['/'].intercalate (resolveFrom [] (Text.splitOn '/' ('/' :: path.dropWhile (· == '/'))))

def path (target : String) : String :=
  unescapeText (pathChars target.toList)

def dropSlashes (path : String) : String :=
  String.ofList (Text.trimEnd (· == '/') path.toList)

/-! ## Query strings -/

/-- A name and a value of a query string. -/
def parameter (cs : List Char) : String × String :=
  let spaced := cs.map fun c => if c == '+' then ' ' else c
  (unescapeText (Text.before '=' spaced), unescapeText (Text.behind '=' spaced))

/-- The last value of a name in the query string of a target. -/
def parameter? (target name : String) : Option String :=
  let query := Text.behind '?' (Text.before '#' target.toList)
  let parts := (Text.splitOn '&' query).filter (!·.isEmpty)
  (parts.map parameter).reverse.lookup name

end Target

/-! ## Forms -/

open Input

def bodyPlace : List String := ["body"]

def modeOf : Value → Except Complaint String
  | .string s => if modes.contains s then .ok s else .error .notMode
  | _ => .error .notMode

/-- A list of mappings at a place, as values. -/
def mappingsAt (place : List String) (v : Value) : Checked Value :=
  (listAt place mapping v).map fun ms => .list (ms.map .map)

/-- The form, unless there are issues with its fields. -/
def formOf {α : Type} (issues : List Issue) (form : Checked α) : Except Failure α :=
  form.mapError fun _ => .invalidBody issues

def instructionOf (fs : Fields) : Except Failure Instruction :=
  let natural := required bodyPlace fs "natural" text
  let mode := required bodyPlace fs "mode" modeOf
  let collection := field bodyPlace fs "collection" none (optional text)
  let database := field bodyPlace fs "database" none (optional text)
  formOf (issuesOf natural ++ issuesOf mode ++ issuesOf collection ++ issuesOf database) do
    .ok { natural := some (← natural)
          mode := some (← mode)
          collection := ← collection
          database := ← database }

def orNull (v : Option Value) : Value :=
  v.getD .null

def runRequestOf (fs : Fields) : Except Failure RunRequest :=
  let collection := field bodyPlace fs "collection" none (optional text)
  let query := field bodyPlace fs "query" none (optional mapping)
  let pipeline : Checked Value :=
    match fs.get? "pipeline" with
    | none | some .null => .ok .null
    | some v => mappingsAt (bodyPlace ++ ["pipeline"]) v
  let limit := field bodyPlace fs "limit" (some 100) (optional integer)
  let ci := field bodyPlace fs "ci" true bool
  let fuzzy := field bodyPlace fs "fuzzy" false bool
  let database := field bodyPlace fs "database" none (optional text)
  formOf (issuesOf collection ++ issuesOf query ++ issuesOf pipeline ++ issuesOf limit
      ++ issuesOf ci ++ issuesOf fuzzy ++ issuesOf database) do
    .ok { collection := ← collection
          query := orNull ((← query).map .map)
          pipeline := ← pipeline
          limit := orNull ((← limit).map .int)
          ignoreCase := ← ci
          fuzzy := ← fuzzy
          database := ← database }

/-- Reads a form from the content of a body. -/
def readForm {α : Type} (read : Fields → Except Failure α) : Content → Except Failure α
  | .value (.map fs) => read fs
  | .value _ => .error (.invalidBody [⟨bodyPlace, .notObject⟩])
  | _ => .error (.invalidBody [⟨bodyPlace, .fieldRequired⟩])

end QueryWarden.Http
