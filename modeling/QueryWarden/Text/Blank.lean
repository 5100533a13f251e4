/-!
# Blank characters and parts of texts

`splitOn` gives the parts of a text between marks; a text without a mark is its own single part.

`isBlank` is the white-space class of the whole library: the Unicode white space together with
the four information separators U+001C to U+001F.  `strip` removes blank characters from both
ends of a text, and `isBlankText` holds of the texts that `strip` leaves empty.
-/

namespace QueryWarden.Text

/-! ## Parts of texts -/

def splitOn (mark : Char) : List Char → List (List Char)
  | [] => [[]]
  | c :: cs =>
    match splitOn mark cs with
    | [] => [[c]]
    | part :: parts => if c == mark then [] :: part :: parts else (c :: part) :: parts

def before (mark : Char) (cs : List Char) : List Char :=
  cs.takeWhile (· != mark)

def behind (mark : Char) (cs : List Char) : List Char :=
  (cs.dropWhile (· != mark)).drop 1

/-- Removes the characters of the class `p` from the end. -/
def trimEnd (p : Char → Bool) (cs : List Char) : List Char :=
  (cs.reverse.dropWhile p).reverse

def trimBoth (p : Char → Bool) (cs : List Char) : List Char :=
  trimEnd p (cs.dropWhile p)

/-! ## Blank characters -/

/-- The characters that count as white space. -/
def isBlank (c : Char) : Bool :=
  let n := c.toNat
  (9 ≤ n && n ≤ 13) || (28 ≤ n && n ≤ 32) || n == 0x85 || n == 0xA0 || n == 0x1680
    || (0x2000 ≤ n && n ≤ 0x200A) || n == 0x2028 || n == 0x2029 || n == 0x202F || n == 0x205F
    || n == 0x3000

/-- The blank characters of the ASCII range that the number readers skip. -/
def isAsciiBlank (c : Char) : Bool :=
  let n := c.toNat
  (9 ≤ n && n ≤ 13) || n == 32

/-- The Unicode property White_Space, which has no information separators. -/
def isUnicodeSpace (c : Char) : Bool :=
  isBlank c && !(28 ≤ c.toNat && c.toNat ≤ 31)

def stripChars (cs : List Char) : List Char :=
  trimBoth isBlank cs

/-- Removes the blank characters at both ends. -/
def strip (s : String) : String :=
  String.ofList (stripChars s.toList)

/-- Holds of the texts without a character that is not blank. -/
def isBlankText (s : String) : Bool :=
  s.toList.all isBlank

end QueryWarden.Text
