/-!
# Layout of documents

Blanks, line ends and comments of the configuration language. A reader takes characters and gives a
result with the characters left over, or nothing.
-/

namespace PathRouting.Toml
set_option autoImplicit false

/-- A reader of some part of a document. -/
abbrev Reader (α : Type) := List Char → Option (α × List Char)

def isBlank (c : Char) : Bool := c == ' ' || c == '\t'

/-- The characters that comments and literal texts may hold: no control character but the tab. -/
def isPlain (c : Char) : Bool := c == '\t' || (0x20 ≤ c.toNat && c.toNat != 0x7F)

def skipBlanks (cs : List Char) : List Char := cs.dropWhile isBlank

/-- What follows a line end, or the end of the document. -/
def afterLineEnd? : List Char → Option (List Char)
  | [] => some []
  | '\n' :: cs => some cs
  | '\r' :: '\n' :: cs => some cs
  | _ => none

/-- Skips a comment up to the end of its line. -/
def skipComment : List Char → List Char
  | '#' :: cs => cs.dropWhile isPlain
  | cs => cs

/-- What follows the line of which only blanks and a comment are left. -/
def finishLine? (cs : List Char) : Option (List Char) := afterLineEnd? (skipComment (skipBlanks cs))

/-- Skips blanks, line ends and comments. -/
def skipLayout : (inComment : Bool) → List Char → List Char
  | _, [] => []
  | _, '\n' :: cs => skipLayout false cs
  | _, '\r' :: '\n' :: cs => skipLayout false cs
  | true, c :: cs => if isPlain c then skipLayout true cs else c :: cs
  | false, c :: cs =>
    if isBlank c then skipLayout false cs
    else if c = '#' then skipLayout true cs
    else c :: cs

end PathRouting.Toml
