import PathRouting.Binary.Literal
import PathRouting.Config.Data
import PathRouting.Toml.Quotation

/-!
# Numbers

Integers fit 64 bits with a sign and may be written in base 2, 8 or 16 without one. Digits may be
separated by single underscores. A decimal integer has no leading zeros, and a number with a fraction
or an exponent is refused if it is too large for a 64-bit binary number.
-/

namespace PathRouting.Toml
set_option autoImplicit false

/-- Reads further digits, each of which an underscore may precede. -/
def moreDigits (isDigit : Char → Bool) : List Char → Option (List Char × List Char)
  | '_' :: c :: cs => if isDigit c then andThen (some c) (moreDigits isDigit cs) else none
  | ['_'] => none
  | c :: cs => if isDigit c then andThen (some c) (moreDigits isDigit cs) else some ([], c :: cs)
  | [] => some ([], [])

def digits (isDigit : Char → Bool) : List Char → Option (List Char × List Char)
  | c :: cs => if isDigit c then andThen (some c) (moreDigits isDigit cs) else none
  | [] => none

/-- Reads one or more decimal digits without leading zeros. -/
def wholeDigits : List Char → Option (List Char × List Char)
  | '0' :: cs => some (['0'], cs)
  | cs => digits Char.isDigit cs

def greatestInteger : Nat := Nat.pow 2 63 - 1

def integer? (negative : Bool) (n : Nat) : Option Data :=
  if negative then if n ≤ greatestInteger + 1 then some (.integer (-n)) else none
  else if n ≤ greatestInteger then some (.integer n) else none

/-- Reads digits of another base as an integer. -/
def based (base : Nat) (cs : List Char) : Option (Data × List Char) :=
  let isDigit := fun c => match hexValue? c with
    | some d => d < base
    | none => false
  match digits isDigit cs with
  | none => none
  | some (ds, cs) =>
    let value := ds.foldl (fun n c => base * n + (hexValue? c).getD 0) 0
    (integer? false value).map fun d => (d, cs)

/-- Reads a fraction, with its point, if there is one. -/
def fraction : List Char → Option (List Char × List Char)
  | '.' :: cs => andThen (some '.') (digits Char.isDigit cs)
  | cs => some ([], cs)

/-- Reads an exponent, with its mark, if there is one. -/
def exponent : List Char → Option (List Char × List Char)
  | c :: cs =>
    if c = 'e' ∨ c = 'E' then
      match cs with
      | '+' :: cs => andThen (some 'e') (digits Char.isDigit cs)
      | '-' :: cs => andThen (some 'e') (andThen (some '-') (digits Char.isDigit cs))
      | cs => andThen (some 'e') (digits Char.isDigit cs)
    else some ([], c :: cs)
  | [] => some ([], [])

/-- A number with a fraction or an exponent, unless it is too large. -/
def decimal? (negative : Bool) (written : List Char) : Option Data :=
  let tooLarge : Bool := match Binary.Decimal.read written with
    | some d => d.rank .double == Binary.Format.double.infinity
    | none => true
  if tooLarge && !negative then none
  else some (.decimal (String.ofList (if negative then '-' :: written else written)))

/-- Reads an unsigned number in base ten, or one of the words for infinity and for no number. -/
def unsigned (negative : Bool) : List Char → Option (Data × List Char)
  | 'i' :: 'n' :: 'f' :: cs => some (.decimal (if negative then "-inf" else "inf"), cs)
  | 'n' :: 'a' :: 'n' :: cs => some (.decimal "nan", cs)
  | cs =>
    match wholeDigits cs with
    | none => none
    | some (whole, cs) =>
      match fraction cs with
      | none => none
      | some (part, cs) =>
        match exponent cs with
        | none => none
        | some (power, cs) =>
          let number :=
            if part = [] ∧ power = [] then integer? negative (Nat.ofDigitChars 10 whole 0)
            else decimal? negative (whole ++ part ++ power)
          number.map fun d => (d, cs)

def number : Reader Data
  | '0' :: 'x' :: cs => based 16 cs
  | '0' :: 'o' :: cs => based 8 cs
  | '0' :: 'b' :: cs => based 2 cs
  | '+' :: cs => unsigned false cs
  | '-' :: cs => unsigned true cs
  | cs => unsigned false cs

end PathRouting.Toml
