import PathRouting.Toml.Value

/-!
# Documents

A document is a sequence of lines: pairs, and headers under which the following pairs belong. It is
read as a whole or not at all.
-/

namespace PathRouting.Toml
set_option autoImplicit false

/-- A line that says something. -/
inductive Statement where
  | pair (path : List String) (d : Data)
  | table (path : List String)
  | row (path : List String)

/-- Reads a header after its opening brackets. -/
def header : Reader Statement
  | '[' :: '[' :: cs =>
    match key greatestDepth cs with
    | some (path, ']' :: ']' :: cs) => some (.row path, cs)
    | _ => none
  | '[' :: cs =>
    match key greatestDepth cs with
    | some (path, ']' :: cs) => some (.table path, cs)
    | _ => none
  | _ => none

def statement : Reader Statement := fun cs =>
  if cs.head? = some '[' then header cs
  else (pair (value greatestDepth) cs).map fun found => (.pair found.1.1 found.1.2, found.2)

/-- Whether nothing but a comment is left of a line. -/
def isIdle : List Char → Bool
  | '#' :: _ => true
  | '\n' :: _ => true
  | '\r' :: _ => true
  | _ => false

def statements : (fuel : Nat) → List Char → Option (List Statement)
  | 0, _ => none
  | fuel + 1, cs =>
    match skipBlanks cs with
    | [] => some []
    | c :: cs =>
      if isIdle (c :: cs) then
        match finishLine? (c :: cs) with
        | some cs => statements fuel cs
        | none => none
      else
        match statement (c :: cs) with
        | none => none
        | some (s, cs) =>
          match finishLine? cs with
          | some cs => (statements fuel cs).map fun rest => s :: rest
          | none => none

/-- The pairs before the first header, and the sections. -/
def sections : List Statement → List (List String × Data) × List Section
  | [] => ([], [])
  | .pair path d :: rest => ((path, d) :: (sections rest).1, (sections rest).2)
  | .table path :: rest => ([], ⟨false, path, (sections rest).1⟩ :: (sections rest).2)
  | .row path :: rest => ([], ⟨true, path, (sections rest).1⟩ :: (sections rest).2)

def dropMark : List Char → List Char
  | '\ufeff' :: cs => cs
  | cs => cs

def document? (s : String) : Option Data :=
  let cs := dropMark s.toList
  match statements (cs.length + 1) cs with
  | none => none
  | some lines =>
    let parts := sections lines
    match Entries.ofPairs? [] parts.1 with
    | none => none
    | some root => (placeAll? root parts.2).map fun es => .record (Entries.toData es)

end PathRouting.Toml
