/-!
# Data trees

The values that configuration documents hold: truth values, numbers, texts, points in time, lists,
and records of named fields. A structure with known fields can be given as a record, in which unknown
names do not matter, or as a list of its fields in order.
-/

namespace PathRouting
set_option autoImplicit false

/-- A value of a document. Numbers with a fraction and points in time keep their written form. -/
inductive Data where
  | null
  | truth (b : Bool)
  | integer (n : Int)
  | decimal (written : String)
  | text (s : String)
  | moment (written : String)
  | list (items : List Data)
  | record (fields : List (String × Data))
deriving Inhabited

/-- Whether a list may be longer than the structure it stands for. -/
inductive Excess where
  | ignored
  | refused
deriving DecidableEq

namespace Data

/-- The value of a field of a record. -/
def field? (fields : List (String × Data)) (name : String) : Option Data :=
  (fields.find? fun f => f.1 = name).map (·.2)

/-- The values given for named fields. A point in time counts as a structure without any of them. -/
def parts? (excess : Excess) (names : List String) : Data → Option (List (Option Data))
  | record fields => some (names.map (field? fields))
  | moment _ => some (names.map fun _ => none)
  | list items =>
    if excess = .refused ∧ names.length < items.length then none
    else some ((List.range names.length).map fun i => items[i]?)
  | _ => none

def truth? : Data → Option Bool
  | truth b => some b
  | _ => none

def text? : Data → Option String
  | text s => some s
  | _ => none

def list? : Data → Option (List Data)
  | list items => some items
  | _ => none

/-- Reads a value that may be missing. -/
def orDefault {α : Type} (default : α) (read : Data → Option α) : Option Data → Option α
  | none => some default
  | some d => read d

def readAll {α : Type} (read : Data → Option α) : List Data → Option (List α)
  | [] => some []
  | d :: ds =>
    match read d, readAll read ds with
    | some a, some rest => some (a :: rest)
    | _, _ => none

end Data

end PathRouting
