import PathRouting.Toml.Moment
import PathRouting.Toml.Number
import PathRouting.Toml.Table

/-!
# Values of documents

A value is a text, a number, a truth value, a point in time, an array, or an inline table. Arrays may
spread over lines and end with a comma; inline tables may not. Values nest up to a given depth.
-/

namespace PathRouting.Toml
set_option autoImplicit false

/-- The greatest number of parts of a key, and the greatest depth of nested values. -/
def greatestDepth : Nat := 79

def items (item : Reader Data) : (fuel : Nat) → List Char → Option (List Data × List Char)
  | 0, _ => none
  | fuel + 1, cs =>
    match skipLayout false cs with
    | ']' :: cs => some ([], cs)
    | cs =>
      match item cs with
      | none => none
      | some (d, cs) =>
        match skipLayout false cs with
        | ',' :: cs => (items item fuel cs).map fun found => (d :: found.1, found.2)
        | ']' :: cs => some ([d], cs)
        | _ => none

def pair (item : Reader Data) : Reader (List String × Data) := fun cs =>
  match key greatestDepth cs with
  | some (path, '=' :: cs) => (item (skipBlanks cs)).map fun found => ((path, found.1), found.2)
  | _ => none

def pairs (item : Reader Data) :
    (fuel : Nat) → List Char → Option (List (List String × Data) × List Char)
  | 0, _ => none
  | fuel + 1, cs =>
    match pair item cs with
    | none => none
    | some (p, cs) =>
      match skipBlanks cs with
      | ',' :: cs => (pairs item fuel cs).map fun found => (p :: found.1, found.2)
      | '\x7d' :: cs => some ([p], cs)
      | _ => none

def array (item : Reader Data) : Reader Data := fun cs =>
  (items item (cs.length + 1) cs).map fun found => (.list found.1, found.2)

def inlineTable (item : Reader Data) : Reader Data := fun cs =>
  match skipBlanks cs with
  | '\x7d' :: cs => some (.record [], cs)
  | _ =>
    match pairs item (cs.length + 1) cs with
    | none => none
    | some (found, cs) => (Entries.ofPairs? [] found).map fun es => (.record (Entries.toData es), cs)

def simple : Reader Data
  | 't' :: 'r' :: 'u' :: 'e' :: cs => some (.truth true, cs)
  | 'f' :: 'a' :: 'l' :: 's' :: 'e' :: cs => some (.truth false, cs)
  | cs =>
    match quotation cs with
    | some (s, cs) => some (.text s, cs)
    | none => if startsMoment cs then moment cs else number cs

/-- Reads a value in which others nest up to a depth of `room`. -/
def value : (room : Nat) → Reader Data
  | 0, cs => simple cs
  | room + 1, '[' :: cs => array (value room) cs
  | room + 1, '\x7b' :: cs => inlineTable (value room) cs
  | _ + 1, cs => simple cs

end PathRouting.Toml
