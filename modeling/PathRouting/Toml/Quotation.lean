import PathRouting.Toml.Layout

/-!
# Quoted texts and keys

Texts stand between double quotes, with escapes, or between single quotes, without. Three quotes open
a text of several lines: a line end right after them is dropped, every line end counts as a line
feed, and up to two quotes may stand before the closing three. In the escaped form a backslash at the
end of a line hides what blank follows.
-/

namespace PathRouting.Toml
set_option autoImplicit false

def hexValue? (c : Char) : Option Nat :=
  if '0' ≤ c ∧ c ≤ '9' then some (c.toNat - '0'.toNat)
  else if 'a' ≤ c ∧ c ≤ 'f' then some (c.toNat - 'a'.toNat + 10)
  else if 'A' ≤ c ∧ c ≤ 'F' then some (c.toNat - 'A'.toNat + 10)
  else none

/-- The number written by hexadecimal digits, after a number in hand. -/
def hexNumber? (n : Nat) : List Char → Option Nat
  | [] => some n
  | c :: cs =>
    match hexValue? c with
    | some d => hexNumber? (16 * n + d) cs
    | none => none

/-- The character with the code point written by hexadecimal digits. -/
def hexChar? (digits : List Char) : Option Char :=
  match hexNumber? 0 digits with
  | some n => if h : n.isValidChar then some (Char.ofNatAux n h) else none
  | none => none

/-- The character that a letter after a backslash stands for. -/
def escaped? : Char → Option Char
  | 'b' => some '\x08'
  | 't' => some '\t'
  | 'n' => some '\n'
  | 'f' => some '\x0c'
  | 'r' => some '\r'
  | '"' => some '"'
  | '\\' => some '\\'
  | _ => none

/-- Puts a character, if there is one, before what is read next. -/
def andThen (c : Option Char) (next : Option (List Char × List Char)) :
    Option (List Char × List Char) :=
  match c, next with
  | some c, some (read, rest) => some (c :: read, rest)
  | _, _ => none

def basicText : List Char → Option (List Char × List Char)
  | [] => none
  | '"' :: cs => some ([], cs)
  | '\\' :: 'u' :: a :: b :: c :: d :: cs => andThen (hexChar? [a, b, c, d]) (basicText cs)
  | '\\' :: 'U' :: a :: b :: c :: d :: e :: f :: g :: h :: cs =>
    andThen (hexChar? [a, b, c, d, e, f, g, h]) (basicText cs)
  | '\\' :: c :: cs => andThen (escaped? c) (basicText cs)
  | c :: cs => if isPlain c then andThen (some c) (basicText cs) else none

/-- Where the reader of an escaped text of several lines is: in a text, after a backslash that a line
end has to follow, or among the blanks after that line end. -/
inductive Stretch where
  | text
  | lineEndDue
  | hidden

def basicLines : Stretch → List Char → Option (List Char × List Char)
  | .lineEndDue, '\n' :: cs => basicLines .hidden cs
  | .lineEndDue, '\r' :: '\n' :: cs => basicLines .hidden cs
  | .lineEndDue, c :: cs => if isBlank c then basicLines .lineEndDue cs else none
  | .hidden, '\n' :: cs => basicLines .hidden cs
  | .hidden, '\r' :: '\n' :: cs => basicLines .hidden cs
  | .hidden, ' ' :: cs => basicLines .hidden cs
  | .hidden, '\t' :: cs => basicLines .hidden cs
  -- Of a row of quotes the last three close, so the longest row comes first.
  | _, '"' :: '"' :: '"' :: '"' :: '"' :: cs => some (['"', '"'], cs)
  | _, '"' :: '"' :: '"' :: '"' :: cs => some (['"'], cs)
  | _, '"' :: '"' :: '"' :: cs => some ([], cs)
  | _, '\n' :: cs => andThen (some '\n') (basicLines .text cs)
  | _, '\r' :: '\n' :: cs => andThen (some '\n') (basicLines .text cs)
  | _, '\\' :: '\n' :: cs => basicLines .hidden cs
  | _, '\\' :: '\r' :: '\n' :: cs => basicLines .hidden cs
  | _, '\\' :: ' ' :: cs => basicLines .lineEndDue cs
  | _, '\\' :: '\t' :: cs => basicLines .lineEndDue cs
  | _, '\\' :: 'u' :: a :: b :: c :: d :: cs => andThen (hexChar? [a, b, c, d]) (basicLines .text cs)
  | _, '\\' :: 'U' :: a :: b :: c :: d :: e :: f :: g :: h :: cs =>
    andThen (hexChar? [a, b, c, d, e, f, g, h]) (basicLines .text cs)
  | _, '\\' :: c :: cs => andThen (escaped? c) (basicLines .text cs)
  | _, c :: cs => if isPlain c then andThen (some c) (basicLines .text cs) else none
  | _, [] => none

def literalText : List Char → Option (List Char × List Char)
  | [] => none
  | '\x27' :: cs => some ([], cs)
  | c :: cs => if isPlain c then andThen (some c) (literalText cs) else none

def literalLines : List Char → Option (List Char × List Char)
  | [] => none
  | '\x27' :: '\x27' :: '\x27' :: '\x27' :: '\x27' :: cs => some (['\x27', '\x27'], cs)
  | '\x27' :: '\x27' :: '\x27' :: '\x27' :: cs => some (['\x27'], cs)
  | '\x27' :: '\x27' :: '\x27' :: cs => some ([], cs)
  | '\n' :: cs => andThen (some '\n') (literalLines cs)
  | '\r' :: '\n' :: cs => andThen (some '\n') (literalLines cs)
  | c :: cs => if isPlain c then andThen (some c) (literalLines cs) else none

/-- Drops a line end at the start of a text of several lines. -/
def dropLineEnd : List Char → List Char
  | '\n' :: cs => cs
  | '\r' :: '\n' :: cs => cs
  | cs => cs

def asText : Option (List Char × List Char) → Option (String × List Char)
  | some (read, rest) => some (String.ofList read, rest)
  | none => none

def quotation : Reader String
  | '"' :: '"' :: '"' :: cs => asText (basicLines .text (dropLineEnd cs))
  | '"' :: cs => asText (basicText cs)
  | '\x27' :: '\x27' :: '\x27' :: cs => asText (literalLines (dropLineEnd cs))
  | '\x27' :: cs => asText (literalText cs)
  | _ => none

def isBareKeyChar (c : Char) : Bool := c.isAlphanum || c == '-' || c == '_'

/-- Reads one part of a key: a bare word, or a quoted text of one line. -/
def keyPart : Reader String
  | '"' :: cs => asText (basicText cs)
  | '\x27' :: cs => asText (literalText cs)
  | cs =>
    let word := cs.takeWhile isBareKeyChar
    if word = [] then none else some (String.ofList word, cs.dropWhile isBareKeyChar)

/-- Reads a key of at most `room` parts, with points between them and blanks around each. -/
def key : (room : Nat) → Reader (List String)
  | 0, _ => none
  | room + 1, cs =>
    match keyPart (skipBlanks cs) with
    | none => none
    | some (part, cs) =>
      match skipBlanks cs with
      | '.' :: cs =>
        match key room cs with
        | some (parts, cs) => some (part :: parts, cs)
        | none => none
      | cs => some ([part], cs)

end PathRouting.Toml
