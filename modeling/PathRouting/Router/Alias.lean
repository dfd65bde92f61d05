import PathRouting.DataType

/-!
# Aliases

An alias is an identifier together with the type of context it is resolved in. A registered alias
adds the rule that turns a context into a path, or refuses it.
-/

namespace PathRouting
set_option autoImplicit false

variable [UserTypes]

/-- An identifier for contexts of one type. -/
structure Alias where
  context : DataType
  identifier : String
deriving DecidableEq

namespace Alias

def diagnostic (a : Alias) : String :=
  Text.diagnosticRecord "Alias"
    [("identifier", Text.quoted a.identifier), ("context", Text.quoted a.context.fullName)]

def describe (a : Alias) : String := "Alias<" ++ a.context.name ++ ">('" ++ a.identifier ++ "')"

end Alias

/-- An alias with its rule from contexts to paths. The runs of a quiet rule are not worth a line. -/
structure AliasEntry where
  handle : Alias
  rule : handle.context.Value → Option Path
  quiet : Bool := false

namespace AliasEntry

def identifier (e : AliasEntry) : String := e.handle.identifier

def describe (e : AliasEntry) : String := e.handle.describe

def fixed (identifier : String) (target : Path) : AliasEntry :=
  ⟨⟨.unit, identifier⟩, fun _ => some target, true⟩

end AliasEntry

end PathRouting
