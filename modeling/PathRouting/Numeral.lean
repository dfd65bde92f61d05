/-!
# Decimal integers of bounded range

A range is given by how far it reaches below and above zero. Reading goes from left to right and
stops at the first character that is not a digit, or at the first digit that takes the number out of
the range; of the two, a bad character is found first where both could be blamed at one place.
-/

namespace PathRouting.Numeral
set_option autoImplicit false

/-- The integers from `-below` to `above`. -/
structure Range where
  below : Nat
  above : Nat
deriving DecidableEq

structure Integer (r : Range) where
  val : Int
  lower : -(r.below : Int) ≤ val
  upper : val ≤ (r.above : Int)
deriving DecidableEq

/-- An integer of a range that is not zero. -/
structure NonZero (r : Range) where
  toInteger : Integer r
  ne_zero : toInteger.val ≠ 0
deriving DecidableEq

/-- Why a text is not an integer of a range. -/
inductive Fault where
  | empty
  | invalidDigit
  | tooLarge
  | tooSmall
deriving DecidableEq

def Fault.message : Fault → String
  | .empty => "cannot parse integer from empty string"
  | .invalidDigit => "invalid digit found in string"
  | .tooLarge => "number too large to fit in target type"
  | .tooSmall => "number too small to fit in target type"

def digitValue (c : Char) : Nat := c.toNat - '0'.toNat

/-- Reads digits after a number in hand, never going past the limit. -/
def scan (limit : Nat) (beyond : Fault) (n : { n : Nat // n ≤ limit }) :
    List Char → Except Fault { n : Nat // n ≤ limit }
  | [] => .ok n
  | c :: cs =>
    -- A bad digit is found before the number is compared with the limit.
    if c.isDigit then
      if h : 10 * n.val + digitValue c ≤ limit then scan limit beyond ⟨_, h⟩ cs
      else .error beyond
    else .error .invalidDigit

def magnitude (limit : Nat) (beyond : Fault) : List Char → Except Fault { n : Nat // n ≤ limit }
  | [] => .error .invalidDigit
  | c :: cs => scan limit beyond ⟨0, Nat.zero_le limit⟩ (c :: cs)

namespace Integer
variable {r : Range}

def ofMagnitude (n : { n : Nat // n ≤ r.above }) : Integer r :=
  ⟨n.val, by omega, by have := n.property; omega⟩

def negOfMagnitude (n : { n : Nat // n ≤ r.below }) : Integer r :=
  ⟨-n.val, by have := n.property; omega, by omega⟩

/-- The remainder of a number that is divided by the first one above the range. -/
def wrap (r : Range) (n : Nat) : Integer r :=
  ofMagnitude ⟨n % (r.above + 1), Nat.le_of_lt_succ (Nat.mod_lt n (Nat.succ_pos _))⟩

/-- Reads an optional sign and one or more digits. A minus sign counts as a bad digit where the range
has no negative numbers. -/
def read (r : Range) : List Char → Except Fault (Integer r)
  | [] => .error .empty
  | '+' :: cs => (magnitude r.above .tooLarge cs).map ofMagnitude
  | '-' :: cs =>
    if r.below = 0 then .error .invalidDigit
    else (magnitude r.below .tooSmall cs).map negOfMagnitude
  | c :: cs => (magnitude r.above .tooLarge (c :: cs)).map ofMagnitude

def digits (n : Integer r) : List Char :=
  if n.val < 0 then '-' :: Nat.toDigits 10 n.val.natAbs else Nat.toDigits 10 n.val.natAbs

end Integer

end PathRouting.Numeral
