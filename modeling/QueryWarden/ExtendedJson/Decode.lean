import QueryWarden.Calendar.IsoReader
import QueryWarden.Number.Numeral
import QueryWarden.Pattern.Flags
import QueryWarden.Text.Blank
import QueryWarden.Value.Basic

/-!
# Decoding extended JSON

`ExtendedJson.decode` turns the tagged mappings of extended JSON into native values.  The tags are
tried in the order `$oid`, `$date`, `$numberLong`, `$numberDecimal`, `$regex`, and the first that
applies decides, whatever else the mapping holds.  An id or a date that does not convert leaves
the whole mapping as it is; numbers stay texts, which loses no digits.
-/

namespace QueryWarden.ExtendedJson

/-! ## Dates -/

/-- A text with the offset of universal time in place of a `Z` at its end. -/
def spellOffset (cs : List Char) : List Char :=
  if cs.getLast? = some 'Z' then cs.dropLast ++ "+00:00".toList else cs

/-- The point in time of an ISO text, blank characters around it left out.  A missing offset is
that of universal time. -/
def instantOfText? (s : String) : Option DateTime :=
  (DateTime.ofIso? (spellOffset (Text.stripChars s.toList))).map (·.inUniversalTime)

/-- The point in time of a number of milliseconds. -/
def instantOfInt? (i : Int) : Option DateTime :=
  DateTime.ofEpochMilliseconds? (.ofInt i)

/-- The point in time that the value of a date tag stands for: milliseconds since 1970 as a number
or as a tagged text, or an ISO text. -/
def instant? : Value → Option DateTime
  | .int i => instantOfInt? i
  | .float x => DateTime.ofEpochMilliseconds? x
  | .string s => instantOfText? s
  | .map fs =>
    match Fields.get? fs "$numberLong" with
    | some (.string s) => (Number.readInteger s).toOption.bind instantOfInt?
    | _ => none
  | _ => none

/-! ## Tags -/

/-- The options of a pattern tag, which count only as a text. -/
def optionLetters (fs : Fields) : String :=
  match fs.get? "$options" with
  | some (.string s) => s
  | _ => ""

def textUnder? (fs : Fields) (k : String) : Option String :=
  (fs.get? k).bind (·.string?)

/-- The value that a mapping with a tag stands for, or the mapping itself when the value of its
tag does not convert; nothing for a mapping without a tag. -/
def tagged? (fs : Fields) : Option Value :=
  match textUnder? fs "$oid" with
  | some s => some (((HexId.ofText? 24 s).map (.native <| .objectId ·)).getD (.map fs))
  | none =>
    match fs.get? "$date" with
    | some raw => some (((instant? raw).map (.native <| .dateTime ·)).getD (.map fs))
    | none =>
      match textUnder? fs "$numberLong" with
      | some s => some (.string s)
      | none =>
        match textUnder? fs "$numberDecimal" with
        | some s => some (.string s)
        | none =>
          match textUnder? fs "$regex" with
          | some s => some (.native (.regex (.ofLetters s (optionLetters fs))))
          | none => none

mutual

/-- Turns the tagged mappings of a tree into native values. -/
def decode : Value → Value
  | .map es => (tagged? es).getD (.map (decodeEntries es))
  | .list vs => .list (decodeItems vs)
  | v => v

def decodeEntries : List (String × Value) → List (String × Value)
  | [] => []
  | (k, v) :: es => (k, decode v) :: decodeEntries es

def decodeItems : List Value → List Value
  | [] => []
  | v :: vs => decode v :: decodeItems vs

end

end QueryWarden.ExtendedJson
