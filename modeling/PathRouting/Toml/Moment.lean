import PathRouting.Config.Data
import PathRouting.Toml.Layout

/-!
# Points in time

A date, a time of day, or a date with a time and perhaps an offset. Days have to exist in their month,
and a minute may have a sixty-first second.
-/

namespace PathRouting.Toml
set_option autoImplicit false

def digit? (c : Char) : Option Nat := if c.isDigit then some (c.toNat - '0'.toNat) else none

/-- The number written by two digits, if it lies in a range. -/
def pair? (low high : Nat) (a b : Char) : Option Nat :=
  match digit? a, digit? b with
  | some a, some b => if low ≤ 10 * a + b ∧ 10 * a + b ≤ high then some (10 * a + b) else none
  | _, _ => none

def isLeapYear (year : Nat) : Bool := year % 4 == 0 && (year % 100 != 0 || year % 400 == 0)

def daysIn (year month : Nat) : Nat :=
  if month = 2 then if isLeapYear year then 29 else 28
  else if month = 4 ∨ month = 6 ∨ month = 9 ∨ month = 11 then 30 else 31

/-- Reads what follows the year of a date. -/
def monthAndDay? (year : Nat) : List Char → Option (List Char)
  | a :: b :: '-' :: c :: d :: cs =>
    match pair? 1 12 a b with
    | some month => if (pair? 1 (daysIn year month) c d).isSome then some cs else none
    | none => none
  | _ => none

/-- What follows the fraction of a second, if there is one. -/
def afterFraction : List Char → List Char
  | '.' :: c :: cs => if c.isDigit then cs.dropWhile Char.isDigit else '.' :: c :: cs
  | cs => cs

/-- Reads what follows the hour of a time. -/
def minuteAndSecond? : List Char → Option (List Char)
  | a :: b :: ':' :: c :: d :: cs =>
    if (pair? 0 59 a b).isSome ∧ (pair? 0 60 c d).isSome then some (afterFraction cs) else none
  | _ => none

/-- Reads an offset, if there is one. -/
def afterOffset? : List Char → Option (List Char)
  | 'Z' :: cs => some cs
  | 'z' :: cs => some cs
  | s :: cs =>
    if s = '+' ∨ s = '-' then
      match cs with
      | a :: b :: ':' :: c :: d :: cs =>
        if (pair? 0 23 a b).isSome ∧ (pair? 0 59 c d).isSome then some cs else none
      | _ => none
    else some (s :: cs)
  | [] => some []

/-- Reads the time after a date, if a mark and an hour follow. -/
def afterTime? : List Char → Option (List Char)
  | mark :: a :: b :: ':' :: cs =>
    if (mark = 'T' ∨ mark = 't' ∨ mark = ' ') ∧ (pair? 0 23 a b).isSome then
      match minuteAndSecond? cs with
      | some cs => afterOffset? cs
      | none => none
    else some (mark :: a :: b :: ':' :: cs)
  | cs => some cs

def afterMoment? : List Char → Option (List Char)
  | a :: b :: c :: d :: '-' :: cs =>
    match pair? 0 99 a b, pair? 0 99 c d with
    | some century, some year =>
      match monthAndDay? (100 * century + year) cs with
      | some cs => afterTime? cs
      | none => none
    | _, _ => none
  | a :: b :: ':' :: cs => if (pair? 0 23 a b).isSome then minuteAndSecond? cs else none
  | _ => none

/-- Whether a date or a time of day is to be read. -/
def startsMoment : List Char → Bool
  | a :: b :: ':' :: _ => a.isDigit && b.isDigit
  | a :: b :: c :: d :: '-' :: _ => a.isDigit && b.isDigit && c.isDigit && d.isDigit
  | _ => false

def moment : Reader Data := fun cs =>
  (afterMoment? cs).map fun rest =>
    (.moment (String.ofList (cs.take (cs.length - rest.length))), rest)

end PathRouting.Toml
