import QueryWarden.Calendar.DateTime
import QueryWarden.Double.Text
import QueryWarden.Pattern.Flags
import QueryWarden.Text.Quoted
import QueryWarden.Value.Basic

/-!
# Texts of values

`Value.toText` is the text that stands for a value where a text is asked for: a string is its own
text, and every other value is written as its literal, in which strings are quoted and containers
have brackets.  For native values `Native.toText` is the bare text, and `Native.literal` the form
that also names the kind, which is used inside containers.
-/

namespace QueryWarden

/-! ## Native values -/

def intText (i : Int) : String :=
  String.ofList ((if i < 0 then ['-'] else []) ++ Text.digits i.natAbs)

/-- Numbers in decimal, joined by commas. -/
def numberList (ns : List Nat) : String :=
  ", ".intercalate (ns.map fun n => String.ofList (Text.digits n))

/-- The days, seconds and microseconds of an offset, of which only the days may be negative. -/
def UtcOffset.durationLiteral (o : UtcOffset) : String :=
  let u := o.microseconds
  let days := u.fdiv 86400000000
  let seconds := (u.fmod 86400000000) / 1000000
  let micros := u.fmod 1000000
  let part := fun (name : String) (n : Int) => if n = 0 then [] else [name ++ "=" ++ toString n]
  "datetime.timedelta("
    ++ ", ".intercalate (part "days" days ++ part "seconds" seconds ++ part "microseconds" micros)
    ++ ")"

def UtcOffset.literal (o : UtcOffset) : String :=
  if o.microseconds = 0 then "datetime.timezone.utc"
  else "datetime.timezone(" ++ o.durationLiteral ++ ")"

/-- The parts of a date-time that its literal lists: seconds and microseconds are left out when
they and all that follows are zero. -/
def DateTime.listedParts (d : DateTime) : List Nat :=
  let t := d.time
  [d.date.year, d.date.month, d.date.day, t.hour, t.minute]
    ++ (if t.microsecond ≠ 0 then [t.second, t.microsecond]
      else if t.second ≠ 0 then [t.second] else [])

def DateTime.literal (d : DateTime) : String :=
  "datetime.datetime(" ++ numberList d.listedParts
    ++ (match d.offset with
      | none => ""
      | some o => ", tzinfo=" ++ o.literal)
    ++ ")"

def Date.literal (d : Date) : String :=
  "datetime.date(" ++ numberList [d.year, d.month, d.day] ++ ")"

def Regex.flagsLiteral (r : Regex) : String :=
  if r.named && r.flags != 0 then "|".intercalate ((Pattern.namesOfFlags r.flags).map ("re." ++ ·))
  else intText r.flags

def Regex.literal (r : Regex) : String :=
  "Regex(" ++ Text.quote r.pattern ++ ", " ++ r.flagsLiteral ++ ")"

/-- The kind of bytes that are kept out of texts. -/
def sensitiveSubtype : Nat := 8

/-- The literal of bytes that say what they hold. -/
def binaryLiteral (data : List UInt8) (subtype : Nat) : String :=
  if subtype = sensitiveSubtype then "<Binary(REDACTED, " ++ numberList [subtype] ++ ")>"
  else "Binary(" ++ Text.quoteBytes data ++ ", " ++ numberList [subtype] ++ ")"

namespace Native

/-- The form of a native value that names its kind. -/
def literal : Native → String
  | .objectId id => "ObjectId('" ++ id.toText ++ "')"
  | .dateTime d => d.literal
  | .date d => d.literal
  | .bytes data => Text.quoteBytes data
  | .binary data subtype => binaryLiteral data subtype
  | .decimal128 d => "Decimal128('" ++ d.toScientific ++ "')"
  | .decimal d => "Decimal('" ++ d.toScientific ++ "')"
  | .regex r => r.literal
  | .uuid id => "UUID('" ++ id.dashed ++ "')"
  | .timestamp t i => "Timestamp(" ++ numberList [t, i] ++ ")"
  | .minKey => "MinKey()"
  | .maxKey => "MaxKey()"

/-- The bare text of a native value; kinds without one have their literal. -/
def toText : Native → String
  | .objectId id => id.toText
  | .dateTime d => String.ofList (d.isoChars ' ')
  | .date d => d.toIso
  | .binary data _ => Text.quoteBytes data
  | .decimal128 d => d.toScientific
  | .decimal d => d.toScientific
  | .uuid id => id.dashed
  | v => v.literal

end Native

/-! ## Trees -/

def commaJoin (ts : List String) : String :=
  ", ".intercalate ts

/-- Puts items between the brackets of a tuple, where a comma follows a single item. -/
def tupleLiteral (ts : List String) : String :=
  match ts with
  | [t] => "(" ++ t ++ ",)"
  | ts => "(" ++ commaJoin ts ++ ")"

namespace Value

mutual

/-- The literal of a value. -/
def literal : Value → String
  | .null => "None"
  | .bool true => "True"
  | .bool false => "False"
  | .int i => intText i
  | .float x => x.toText
  | .string s => Text.quote s
  | .list vs => "[" ++ commaJoin (itemLiterals vs) ++ "]"
  | .tuple vs => tupleLiteral (itemLiterals vs)
  | .map es => "\x7b" ++ commaJoin (entryLiterals es) ++ "\x7d"
  | .native n => n.literal

def itemLiterals : List Value → List String
  | [] => []
  | v :: vs => literal v :: itemLiterals vs

/-- The literals of the entries of a mapping, with a colon between key and value. -/
def entryLiterals : List (String × Value) → List String
  | [] => []
  | (k, v) :: es => (Text.quote k ++ ": " ++ literal v) :: entryLiterals es

end

/-- The text of a value. -/
def toText : Value → String
  | .string s => s
  | .native n => n.toText
  | v => v.literal

end Value

end QueryWarden
