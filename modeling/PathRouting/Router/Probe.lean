import PathRouting.Router.Route
import PathRouting.Router.Alias

/-!
# Probes

Handlers and alias rules given by plain data. A probing handler answers with its label and the
written forms of its arguments, so the result shows which route was taken and with which values. An
alias pattern makes a path out of the context's written form.
-/

namespace PathRouting
set_option autoImplicit false

variable [UserTypes]

/-- The results that a probing handler can give. -/
inductive Probe where
  | text
  | size
  | parts
  | nothing
deriving DecidableEq

namespace Probe

def type : Probe → DataType
  | text => .text
  | size => .scalar .u64
  | parts => .list .text
  | nothing => .unit

/-- The total length of written forms in bytes, as a machine word. -/
def totalSize (args : List String) : Numeral.Integer (IntKind.range ⟨false, .w64⟩) :=
  .wrap _ (args.foldl (fun size arg => size + arg.utf8ByteSize) 0)

/-- The answer to arguments in written form. -/
def answer (label : String) (args : List String) : (p : Probe) → p.type.Value
  | text => label ++ "(" ++ ",".intercalate args ++ ")"
  | size => totalSize args
  | parts => label :: args
  | nothing => ()

def handler (p : Probe) (label : String) (ts : List Scalar) : Handler ts p.type :=
  ⟨label, fun vs => p.answer label vs.encode⟩

end Probe

/-- How a path is made out of a context: from a text in which a pair of braces stands for it, by
joining it to a path, or not at all. -/
inductive AliasPattern where
  | format (pattern : String)
  | join (base : String)
  | nowhere
deriving DecidableEq

namespace AliasPattern

/-- Puts a text in the place of each pair of braces. -/
def fillHoles (filling : List Char) : List Char → List Char
  | '\x7b' :: '\x7d' :: cs => filling ++ fillHoles filling cs
  | c :: cs => c :: fillHoles filling cs
  | [] => []

/-- The path for a context in written form. -/
def path? (filling : String) : AliasPattern → Option Path
  | format pattern =>
    some (.ofText (String.ofList (fillHoles filling.toList pattern.toList)))
  | join base => some ((Path.ofText base).join filling)
  | nowhere => none

/-- An alias that follows the pattern, except that it refuses some contexts. -/
def entry (handle : Alias) (pattern : AliasPattern) (refused : List String) : AliasEntry where
  handle
  rule v :=
    let filling := handle.context.render v
    if filling ∈ refused then none else pattern.path? filling

end AliasPattern

end PathRouting
