import PathRouting.Scalar.Codec

/-!
# Placeholder values

A list of values, one for each type of a list of types. It is read from as many raw segments, from
left to right, and the first segment that cannot be read is reported with its index.
-/

namespace PathRouting
set_option autoImplicit false

variable [UserTypes]

/-- Why a template does not accept a path, or a list of types a list of segments. -/
inductive MatchError where
  | segmentCount (expected found : Nat)
  | literal (position : Nat) (expected found : String)
  | decode (index : Nat) (source : DecodeError)
deriving DecidableEq

def MatchError.message : MatchError → String
  | segmentCount expected found =>
    "expected " ++ Text.count expected ++ " segments, found " ++ Text.count found
  | literal position expected found =>
    "segment " ++ Text.count position ++ ": expected '" ++ expected ++ "', found '" ++ found ++ "'"
  | decode index source => "placeholder " ++ Text.count index ++ ": " ++ source.message

inductive Values : List Scalar → Type where
  | nil : Values []
  | cons {t : Scalar} {ts : List Scalar} (value : t.Value) (rest : Values ts) : Values (t :: ts)

namespace Values

def encode : {ts : List Scalar} → Values ts → List String
  | _, nil => []
  | _, cons (t := t) v vs => t.encode v :: vs.encode

@[simp] theorem length_encode {ts : List Scalar} (vs : Values ts) : vs.encode.length = ts.length := by
  induction vs with
  | nil => rfl
  | cons v vs ih => simp only [encode, List.length_cons, ih]

/-- Reads as many segments as there are types; `index` is the number of the first one. -/
def decodeFrom (index : Nat) :
    (ts : List Scalar) → (raw : List String) → raw.length = ts.length → Except MatchError (Values ts)
  | [], _, _ => .ok nil
  | t :: ts, [], h => absurd h (by simp)
  | t :: ts, s :: raw, h =>
    match t.decode s with
    | .error source => .error (.decode index source)
    | .ok v =>
      match decodeFrom (index + 1) ts raw (by simpa using h) with
      | .error e => .error e
      | .ok vs => .ok (cons v vs)

/-- Reads segments, whose number has to be that of the types. -/
def decode (ts : List Scalar) (raw : List String) : Except MatchError (Values ts) :=
  if h : raw.length = ts.length then decodeFrom 0 ts raw h
  else .error (.segmentCount ts.length raw.length)

end Values

/-- The values of a call, with their types. -/
structure Arguments where
  types : List Scalar
  values : Values types

end PathRouting
