import PathRouting.Binary.Format

/-!
# Reading binary numbers

A literal is an optional sign, then the name of infinity or of no number in any letter case, or
digits around an optional point with an optional exponent. It is read exactly and rounded once.
-/

namespace PathRouting.Binary
set_option autoImplicit false

inductive Fault where
  | empty
  | invalid
deriving DecidableEq

def Fault.message : Fault → String
  | .empty => "cannot parse float from empty string"
  | .invalid => "invalid float literal"

/-- An unsigned decimal: `digits` times ten to the power `exponent`. -/
structure Decimal where
  digits : Nat
  exponent : Int
deriving DecidableEq

/-- Reads the exponent part, or nothing where the text ends. -/
def readExponent : List Char → Option Int
  | [] => some 0
  | e :: cs =>
    if e = 'e' ∨ e = 'E' then
      let (negative, ds) := match cs with
        | '-' :: ds => (true, ds)
        | '+' :: ds => (false, ds)
        | ds => (false, ds)
      if ds ≠ [] ∧ ds.all Char.isDigit then
        let n := Nat.ofDigitChars 10 ds 0
        some (if negative then -(n : Int) else n)
      else none
    else none

/-- Reads digits with an optional point, at least one digit on one side of it, and an exponent. -/
def Decimal.read (cs : List Char) : Option Decimal :=
  let whole := cs.takeWhile Char.isDigit
  let rest := cs.dropWhile Char.isDigit
  let (fraction, rest) := match rest with
    | '.' :: rest => (rest.takeWhile Char.isDigit, rest.dropWhile Char.isDigit)
    | _ => ([], rest)
  if whole = [] ∧ fraction = [] then none
  else (readExponent rest).map fun e =>
    ⟨Nat.ofDigitChars 10 (whole ++ fraction) 0, e - fraction.length⟩

/-- The number of the magnitude nearest to a decimal. A decimal so large or so small that its first
digit alone decides is not expanded. -/
def Decimal.rank (f : Format) (d : Decimal) : Nat :=
  let place : Int := (Nat.toDigits 10 d.digits).length + d.exponent
  let reach : Int := f.scale + f.binades
  if d.digits = 0 ∨ place < -reach then 0
  else if reach < place then f.infinity
  else f.nearest (d.digits * Nat.pow 10 d.exponent.toNat) (Nat.pow 10 (-d.exponent).toNat)

/-- The value of a decimal with a sign. -/
def Value.ofDecimal (f : Format) (negative : Bool) (d : Decimal) : Value f :=
  .signed negative (min (d.rank f) f.infinity) (Nat.min_le_right _ _)

def Value.readUnsigned (f : Format) (negative : Bool) (cs : List Char) : Except Fault (Value f) :=
  match Decimal.read cs with
  | some d => .ok (.ofDecimal f negative d)
  | none =>
    let word := String.ofList (cs.map Char.toLower)
    if word = "inf" ∨ word = "infinity" then .ok (.signed negative f.infinity (Nat.le_refl _))
    else if word = "nan" then .ok .notANumber
    else .error .invalid

def Value.read (f : Format) : List Char → Except Fault (Value f)
  | [] => .error .empty
  | '-' :: cs => readUnsigned f true cs
  | '+' :: cs => readUnsigned f false cs
  | c :: cs => readUnsigned f false (c :: cs)

end PathRouting.Binary
