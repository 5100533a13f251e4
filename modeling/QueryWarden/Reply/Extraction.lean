import QueryWarden.Failure.Basic
import QueryWarden.Json.Reader
import QueryWarden.Text.Blank

/-!
# The object in a reply

A model is asked for one JSON object and often wraps it in a fence or in prose.  `Reply.object`
tries three readings in order and takes the first that gives an object: the whole reply when it
starts with a brace, the content of its first fence, and the span from its first opening brace to
its last closing one.
-/

namespace QueryWarden.Reply

/-- Reads a text that is one JSON object. -/
def readObject? (cs : List Char) : Option Fields :=
  match Json.readAll cs with
  | .ok v => v.fields?
  | .error _ => none

/-- The reading of a reply that is an object, blank characters around it left out. -/
def direct? (cs : List Char) : Option Fields :=
  let body := Text.stripChars cs
  match body with
  | '\x7b' :: _ => readObject? body
  | _ => none

/-! ## Fences -/

/-- The characters behind the first three backticks. -/
def afterFence? : List Char → Option (List Char)
  | '\x60' :: '\x60' :: '\x60' :: rest => some rest
  | _ :: rest => afterFence? rest
  | [] => none

/-- The characters before the first three backticks, when there are any. -/
def beforeFence? : List Char → Option (List Char)
  | '\x60' :: '\x60' :: '\x60' :: _ => some []
  | c :: rest => (beforeFence? rest).map (c :: ·)
  | [] => none

/-- Whether a character is the given letter of ASCII in any case; the long s is an s. -/
def isLetter (letter c : Char) : Bool :=
  c.toLower == letter || (letter == 's' && c.toNat == 0x17F)

def dropTag (cs : List Char) : List Char :=
  match cs with
  | a :: b :: c :: d :: rest =>
    if isLetter 'j' a && isLetter 's' b && isLetter 'o' c && isLetter 'n' d then rest else cs
  | _ => cs

/-- The content of the first fence, when a second one closes it. -/
def fenceContent? (cs : List Char) : Option (List Char) :=
  (afterFence? cs).bind fun rest => beforeFence? (dropTag rest)

def fenced? (cs : List Char) : Option Fields :=
  (fenceContent? cs).bind fun content => readObject? (Text.stripChars content)

/-! ## Braces -/

/-- The characters from the first opening brace on. -/
def fromBrace (cs : List Char) : List Char :=
  cs.dropWhile (· != '\x7b')

/-- The characters up to the last closing brace. -/
def toBrace (cs : List Char) : List Char :=
  Text.trimEnd (· != '\x7d') cs

/-- The reading of the span between the outermost braces. -/
def braceSpan? (cs : List Char) : Option Fields :=
  match fromBrace cs with
  | [] => none
  | span => match toBrace span with
    | [] => none
    | span => readObject? span

/-- The object in a reply, which is a text in the normal case. -/
def object (reply : Value) : Except Failure Fields :=
  match reply with
  | .string s =>
    if Text.isBlankText s then .error .emptyReply
    else
      let cs := s.toList
      match (direct? cs).orElse fun _ => (fenced? cs).orElse fun _ => braceSpan? cs with
      | some fs => .ok fs
      | none => .error .noObject
  | _ => .error .emptyReply

end QueryWarden.Reply
