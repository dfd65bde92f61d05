import PathRouting.Binary.Literal
import PathRouting.Binary.Shortest
import PathRouting.Scalar.Basic
import PathRouting.Text.Quoted
import PathRouting.TypeName

/-!
# Reading and writing scalars

Each scalar type reads a segment of a path and writes its values as such. A text that it cannot read
is refused with the cause.
-/

namespace PathRouting
set_option autoImplicit false

inductive DecodeFault where
  | numeral (fault : Numeral.Fault)
  | zero
  | notTruth
  | noChar
  | manyChars
  | binary (fault : Binary.Fault)
  | noColor (length : Nat)
  | user (reason : String)
deriving DecidableEq

def DecodeFault.message : DecodeFault → String
  | numeral fault => fault.message
  | zero => "number would be zero for non-zero type"
  | notTruth => "provided string was not `true` or `false`"
  | noChar => "cannot parse char from empty string"
  | manyChars => "too many characters in string"
  | binary fault => fault.message
  | noColor length => "no color of length " ++ Text.count length
  | user reason => reason

variable [UserTypes]

namespace Scalar

/-- The full name of a type, qualified by where it is declared. -/
def fullName : Scalar → String
  | text => "alloc::string::String"
  | truth => "bool"
  | char => "char"
  | int kind => kind.name
  | nonZeroByte => "core::num::nonzero::NonZero<u8>"
  | float kind => kind.name
  | color => "Color"
  | user key => UserTypes.fullName key

/-- The name shown in descriptions and messages. -/
def name (t : Scalar) : String := TypeName.short t.fullName

/-- Reads a value, or says what is wrong with the text. -/
def read : (t : Scalar) → String → Except DecodeFault t.Value
  | text, s => .ok s
  | truth, s =>
    if s = "true" then .ok true else if s = "false" then .ok false else .error .notTruth
  | char, s =>
    match s.toList with
    | [] => .error .noChar
    | [c] => .ok c
    | _ :: _ :: _ => .error .manyChars
  | int kind, s => (Numeral.Integer.read kind.range s.toList).mapError .numeral
  | nonZeroByte, s =>
    match Numeral.Integer.read (IntKind.range ⟨false, .w8⟩) s.toList with
    | .error fault => .error (.numeral fault)
    | .ok n => if h : n.val ≠ 0 then .ok ⟨n, h⟩ else .error .zero
  | float kind, s => (Binary.Value.read kind.format s.toList).mapError .binary
  | color, s =>
    match Color.ofName? s with
    | some c => .ok c
    | none => .error (.noColor s.length)
  | user key, s => (UserTypes.read key s).mapError .user

def encode : (t : Scalar) → t.Value → String
  | text, s => s
  | truth, b => Text.truth b
  | char, c => String.singleton c
  | int _, n => String.ofList n.digits
  | nonZeroByte, n => String.ofList n.toInteger.digits
  | float _, x => String.ofList x.digits
  | color, c => c.name
  | user key, v => UserTypes.encode key v

end Scalar

/-- A text that a scalar type cannot read, with the cause. -/
structure DecodeError where
  type : Scalar
  raw : String
  fault : DecodeFault
deriving DecidableEq

namespace DecodeError

def message (e : DecodeError) : String :=
  "cannot decode '" ++ e.raw ++ "' as " ++ e.type.name ++ ": " ++ e.fault.message

def diagnostic (e : DecodeError) : String :=
  Text.diagnosticRecord "DecodeError"
    [("type_name", Text.quoted e.type.name), ("raw", Text.quoted e.raw),
      ("reason", Text.quoted e.fault.message)]

end DecodeError

def Scalar.decode (t : Scalar) (raw : String) : Except DecodeError t.Value :=
  (t.read raw).mapError fun fault => ⟨t, raw, fault⟩

end PathRouting
