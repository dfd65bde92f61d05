/-!
# Type names

A full type name is qualified by the modules that lead to it, with `::` between them. The short name
drops that qualification. A name with arguments, a tuple, an array or a reference is left as it is,
since the qualification inside it belongs to its parts.
-/

namespace PathRouting.TypeName
set_option autoImplicit false

/-- The characters that open a compound name. -/
def opensCompound (c : Char) : Bool := c == '<' || c == '(' || c == '[' || c == '&'

/-- What follows the last `::`, if there is one. -/
def afterLastMark : List Char → Option (List Char)
  | [] => none
  | c :: cs =>
    match afterLastMark cs with
    | some rest => some rest
    | none => if c = ':' ∧ cs.head? = some ':' then some cs.tail else none

/-- The name without its module qualification. -/
def short (full : String) : String :=
  if full.toList.any opensCompound then full
  else match afterLastMark full.toList with
    | some rest => String.ofList rest
    | none => full

end PathRouting.TypeName
