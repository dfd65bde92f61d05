import PathRouting.Numeral
import PathRouting.Binary.Format

/-!
# Scalars

A scalar is a type whose values can stand in one segment of a path: texts, truth values, characters,
integers of a fixed width, binary numbers, the colors of a small palette, and the types that a user of
the library brings along.
-/

namespace PathRouting
set_option autoImplicit false

/-- Integer widths; `word` is the machine word, of 64 bits. -/
inductive IntWidth where
  | w8
  | w16
  | w32
  | w64
  | w128
  | word
deriving DecidableEq

namespace IntWidth

def bits : IntWidth → Nat
  | w8 => 8
  | w16 => 16
  | w32 => 32
  | w64 => 64
  | w128 => 128
  | word => 64

def label : IntWidth → String
  | w8 => "8"
  | w16 => "16"
  | w32 => "32"
  | w64 => "64"
  | w128 => "128"
  | word => "size"

end IntWidth

structure IntKind where
  signed : Bool
  width : IntWidth
deriving DecidableEq

namespace IntKind

def name (k : IntKind) : String := (if k.signed then "i" else "u") ++ k.width.label

/-- The numbers of the type: two's complement if it is signed. -/
def range (k : IntKind) : Numeral.Range :=
  if k.signed then ⟨Nat.pow 2 (k.width.bits - 1), Nat.pow 2 (k.width.bits - 1) - 1⟩
  else ⟨0, Nat.pow 2 k.width.bits - 1⟩

end IntKind

inductive FloatKind where
  | f32
  | f64
deriving DecidableEq

namespace FloatKind

def name : FloatKind → String
  | f32 => "f32"
  | f64 => "f64"

def format : FloatKind → Binary.Format
  | f32 => .single
  | f64 => .double

end FloatKind

inductive Color where
  | red
  | green
deriving DecidableEq

namespace Color

def name : Color → String
  | red => "red"
  | green => "green"

def ofName? (s : String) : Option Color := [red, green].find? fun c => c.name = s

end Color

/-- The types that a user brings along, each under a key, with the way its values are read and
written. A text that is not a value is refused with a reason. -/
class UserTypes where
  Key : Type
  decidableEqKey : DecidableEq Key
  Value : Key → Type
  fullName : Key → String
  read : (key : Key) → String → Except String (Value key)
  encode : (key : Key) → Value key → String

namespace UserTypes

instance [types : UserTypes] : DecidableEq types.Key := types.decidableEqKey

/-- A user without types. -/
instance (priority := low) none : UserTypes where
  Key := Empty
  decidableEqKey := inferInstance
  Value key := key.elim
  fullName key := key.elim
  read key := key.elim
  encode key := key.elim

end UserTypes

variable [UserTypes]

inductive Scalar where
  | text
  | truth
  | char
  | int (kind : IntKind)
  | nonZeroByte
  | float (kind : FloatKind)
  | color
  | user (key : UserTypes.Key)
deriving DecidableEq

namespace Scalar

def Value : Scalar → Type
  | text => String
  | truth => Bool
  | char => Char
  | int kind => Numeral.Integer kind.range
  | nonZeroByte => Numeral.NonZero (IntKind.range ⟨false, .w8⟩)
  | float kind => Binary.Value kind.format
  | color => Color
  | user key => UserTypes.Value key

def u8 : Scalar := int ⟨false, .w8⟩

def u32 : Scalar := int ⟨false, .w32⟩

def u64 : Scalar := int ⟨false, .w64⟩

/-- All scalar types but those of the user. -/
def all : List Scalar :=
  let widths : List IntWidth := [.w8, .w16, .w32, .w64, .w128, .word]
  [text, truth, char] ++ widths.map (fun w => int ⟨true, w⟩) ++ widths.map (fun w => int ⟨false, w⟩) ++
    [nonZeroByte, float .f32, float .f64, color]

end Scalar

end PathRouting
