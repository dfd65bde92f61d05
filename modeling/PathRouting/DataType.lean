import PathRouting.Path
import PathRouting.Scalar.Codec

/-!
# Data types

The types of alias contexts and of route results: the unit, scalars, static texts, paths, and
options, lists and pairs of these. A static text and a text are different types with the same values.
A datum is a value together with its type.
-/

namespace PathRouting
set_option autoImplicit false

variable [UserTypes]

inductive DataType where
  | unit
  | scalar (type : Scalar)
  | staticText
  | path
  | option (type : DataType)
  | list (type : DataType)
  | pair (first second : DataType)
deriving DecidableEq

namespace DataType

def Value : DataType → Type
  | unit => Unit
  | scalar t => t.Value
  | staticText => String
  | path => Path
  | option t => Option t.Value
  | list t => List t.Value
  | pair a b => a.Value × b.Value

def text : DataType := scalar .text

def fullName : DataType → String
  | unit => "()"
  | scalar t => t.fullName
  | staticText => "&str"
  | path => "typed_router::path::Path"
  | option t => "core::option::Option<" ++ t.fullName ++ ">"
  | list t => "alloc::vec::Vec<" ++ t.fullName ++ ">"
  | pair a b => "(" ++ a.fullName ++ ", " ++ b.fullName ++ ")"

/-- The name shown in descriptions and messages. -/
def name (t : DataType) : String := TypeName.short t.fullName

/-- A value on one line: the parts of a list or a pair with separators between them, and nothing for
the unit or an absent value. -/
def render : (t : DataType) → t.Value → String
  | unit, _ => ""
  | scalar t, v => t.encode v
  | staticText, s => s
  | path, p => p.text
  | option _, none => ""
  | option t, some v => t.render v
  | list t, vs => "/".intercalate (List.map t.render vs)
  | pair a b, (v, w) => a.render v ++ "/" ++ b.render w

end DataType

structure Datum where
  type : DataType
  value : type.Value

def Datum.render (d : Datum) : String := d.type.render d.value

end PathRouting
