import QueryWarden.Pattern.Flags
import QueryWarden.Text.Utf8
import QueryWarden.Value.Basic
import QueryWarden.Value.Text

/-!
# Encoding for answers

`ExtendedJson.encode` turns the native values of a document into plain ones: patterns into
clauses, bytes into the text that they write in UTF-8 or a note of their number, and all others
into their texts.
-/

namespace QueryWarden.ExtendedJson

/-- The text of bytes, or a note of their number when they are not UTF-8. -/
def bytesText (data : List UInt8) : String :=
  (Text.utf8Text? data).getD ("[binary " ++ toString data.length ++ " bytes]")

def regexClause (r : Regex) : Value :=
  .map [("$regex", .string r.pattern), ("$options", .string (Pattern.lettersOfFlags r.flags))]

def encodeNative : Native → Value
  | .regex r => regexClause r
  | .dateTime d => .string d.toIso
  | .bytes data | .binary data _ => .string (bytesText data)
  | n => .string n.toText

mutual

/-- Turns the native values of a tree into plain ones, and tuples into lists. -/
def encode : Value → Value
  | .map es => .map (encodeEntries es)
  | .list vs | .tuple vs => .list (encodeItems vs)
  | .native n => encodeNative n
  | v => v

def encodeEntries : List (String × Value) → List (String × Value)
  | [] => []
  | (k, v) :: es => (k, encode v) :: encodeEntries es

def encodeItems : List Value → List Value
  | [] => []
  | v :: vs => encode v :: encodeItems vs

end

end QueryWarden.ExtendedJson
