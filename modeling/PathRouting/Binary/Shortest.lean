import PathRouting.Binary.Format

/-!
# Shortest decimal text of a binary number

Of the decimals that read back as a number, the text takes one with the fewest digits, and of those
the nearest; between two equally near ones it takes the greater. Digits are written positionally, and
a whole number has no point.
-/

namespace PathRouting.Binary
set_option autoImplicit false

/-- A decimal grid laid over a magnitude. All quantities are in halves of the least unit, times a
power of ten: the magnitude, the ends of the interval that reads back as it, and the grid's step. -/
structure Grid where
  value : Nat
  low : Nat
  high : Nat
  closed : Bool
  step : Nat

namespace Grid

/-- The grid of multiples of `10 ^ place`, laid over the magnitude of a number. -/
def atPlace (f : Format) (rank : Nat) (place : Int) : Grid :=
  let finer := Nat.pow 10 (-place).toNat
  { value := 2 * f.units rank * finer
    low := (f.units (rank - 1) + f.units rank) * finer
    high := (f.units rank + f.units (rank + 1)) * finer
    closed := rank % 2 == 0
    step := Nat.pow 10 place.toNat * Nat.pow 2 (f.scale + 1) }

/-- Whether a multiple of the step reads back. -/
def holds (g : Grid) (count : Nat) : Bool :=
  0 < count &&
    if g.closed then g.low ≤ count * g.step && count * g.step ≤ g.high
    else g.low < count * g.step && count * g.step < g.high

/-- The multiple nearest to the value among those that read back. -/
def pick? (g : Grid) : Option Nat :=
  let below := g.value / g.step
  match g.holds below, g.holds (below + 1) with
  | true, true => some (if 2 * g.value < (2 * below + 1) * g.step then below else below + 1)
  | true, false => some below
  | false, true => some (below + 1)
  | false, false => none

end Grid

/-- The decimal found on the coarsest grid that has one, searching `places` grids. -/
def coarsest (f : Format) (rank : Nat) : (places : Nat) → (place : Int) → Nat × Int
  | 0, place => (f.units rank, place)
  | places + 1, place =>
    match (Grid.atPlace f rank place).pick? with
    | some count => (count, place)
    | none => coarsest f rank places (place - 1)

/-- The shortest decimal of a finite magnitude above zero: digits and the place of the last one. -/
def shortest (f : Format) (rank : Nat) : Nat × Int :=
  let first := (Nat.toDigits 10 (f.units rank / Nat.pow 2 f.scale)).length + 1
  coarsest f rank (first + f.scale + 2) first

/-- Writes digits positionally, the last one at a power of ten. -/
def positional (digits : List Char) (place : Int) : List Char :=
  let fraction := (-place).toNat
  if fraction = 0 then digits ++ List.replicate place.toNat '0'
  else if fraction < digits.length then
    digits.take (digits.length - fraction) ++ '.' :: digits.drop (digits.length - fraction)
  else '0' :: '.' :: List.replicate (fraction - digits.length) '0' ++ digits

def magnitudeText (f : Format) (rank : Nat) : List Char :=
  if rank = 0 then ['0']
  else if rank = f.infinity then "inf".toList
  else
    let (count, place) := shortest f rank
    positional (Nat.toDigits 10 count) place

def Value.digits {f : Format} : Value f → List Char
  | .notANumber => "NaN".toList
  | .signed negative rank _ =>
    if negative then '-' :: magnitudeText f rank else magnitudeText f rank

end PathRouting.Binary
