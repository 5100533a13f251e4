import QueryWarden.Value.Basic

/-!
# Flags of regular expressions

The flags of a regular expression are bits, each with a letter and a name.  `flagsOfLetters` joins
the bits of the letters it knows, `lettersOfFlags` lists the letters of the bits that are set, and
`namesOfFlags` their names.
-/

namespace QueryWarden

namespace Pattern

/-- The bits of the flags with their letters, in the order in which they are listed. -/
def flagLetters : List (Nat × Char) :=
  [(2, 'i'), (4, 'l'), (8, 'm'), (16, 's'), (32, 'u'), (64, 'x')]

/-- The bits of the flags with their names, in the order in which they are listed. -/
def flagNames : List (Nat × String) :=
  [(2, "IGNORECASE"), (4, "LOCALE"), (32, "UNICODE"), (8, "MULTILINE"), (16, "DOTALL"),
    (64, "VERBOSE")]

/-- The bit of a letter, and zero for other letters. -/
def flagOfLetter (c : Char) : Nat :=
  ((flagLetters.find? fun f => f.2 == c).map (·.1)).getD 0

def flagsOfLetters (s : String) : Nat :=
  s.toList.foldl (fun flags c => flags ||| flagOfLetter c) 0

/-- Whether a bit, which is a power of two, is set.  A negative number has infinitely many bits. -/
def hasFlag (flags : Int) (bit : Nat) : Bool :=
  flags / (bit : Int) % 2 == 1

/-- The letters of the bits that are set. -/
def lettersOfFlags (flags : Int) : String :=
  String.ofList ((flagLetters.filter fun f => hasFlag flags f.1).map (·.2))

def namesOfFlags (flags : Int) : List String :=
  (flagNames.filter fun f => hasFlag flags f.1).map (·.2)

end Pattern

def Regex.ofLetters (pattern letters : String) : Regex :=
  ⟨pattern, Pattern.flagsOfLetters letters, true⟩

def Regex.ofNumber (pattern : String) (flags : Int) : Regex :=
  ⟨pattern, flags, false⟩

end QueryWarden
