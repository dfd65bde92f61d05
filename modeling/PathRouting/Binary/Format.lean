/-!
# Binary number formats

A format with `precision` significant bits keeps, above zero, `2 ^ (precision - 1)` evenly spaced
magnitudes at the bottom and as many again in each binade. Every magnitude is a whole number of the
format's least unit, `2 ^ -scale`. Magnitudes are numbered from zero upwards; the number after the
last finite one stands for infinity, and evenness of the number is evenness of the significand.
-/

namespace PathRouting.Binary
set_option autoImplicit false

/-- A binary format: significant bits, fraction bits of the least unit, and binades. -/
structure Format where
  precision : Nat
  scale : Nat
  binades : Nat
deriving DecidableEq

namespace Format

def single : Format := ⟨24, 149, 254⟩

def double : Format := ⟨53, 1074, 2046⟩

/-- The number of magnitudes in a binade. -/
def binade (f : Format) : Nat := Nat.pow 2 (f.precision - 1)

def infinity (f : Format) : Nat := (f.binades + 1) * f.binade

/-- The least units in a magnitude, given by its number. -/
def units (f : Format) (rank : Nat) : Nat :=
  let step := rank / f.binade
  if step = 0 then rank else (f.binade + rank % f.binade) * Nat.pow 2 (step - 1)

/-- The number of the magnitude nearest to a quotient; a tie goes to the even number, and what lies
beyond the last finite magnitude is infinite. -/
def nearest (f : Format) (num den : Nat) : Nat :=
  let exact := num * Nat.pow 2 f.scale
  let shift := (exact / den).log2 - (f.precision - 1)
  let grid := den * Nat.pow 2 shift
  let low := exact / grid
  let twice := 2 * (exact % grid)
  let rounded := if twice < grid ∨ (twice = grid ∧ low % 2 = 0) then low else low + 1
  min (shift * f.binade + rounded) f.infinity

end Format

/-- A number of a format; zero and infinity carry a sign, a value that is no number does not. -/
inductive Value (f : Format) where
  | notANumber
  | signed (negative : Bool) (rank : Nat) (bounded : rank ≤ f.infinity)
deriving DecidableEq

end PathRouting.Binary
