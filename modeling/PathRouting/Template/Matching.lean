import PathRouting.Template.Basic

/-!
# Matching paths against templates

A path is compared in three steps, each before the next: the number of segments, the literals from
left to right, and the placeholder values from left to right.
-/

namespace PathRouting
set_option autoImplicit false

variable [UserTypes]

namespace Segments

/-- Compares the literals with the segments at their places, the first of which is `position`, and
collects the segments at the placeholders. -/
def capture (position : Nat) : List Segment → List String → Except MatchError (List String)
  | .literal text :: rest, found :: path =>
    if text = found then capture (position + 1) rest path
    else .error (.literal position text found)
  | .placeholder _ _ :: rest, found :: path =>
    match capture (position + 1) rest path with
    | .error e => .error e
    | .ok raw => .ok (found :: raw)
  | [], _ => .ok []
  | _ :: _, [] => .ok []

end Segments

namespace Template
variable {ts : List Scalar}

/-- The raw segments of a path at the placeholders, if its length and the literals agree. -/
def capture (t : Template ts) (p : Path) : Except MatchError (List String) :=
  if p.segments.length = t.segments.length then Segments.capture 0 t.segments p.segments
  else .error (.segmentCount t.segments.length p.segments.length)

/-- The values that a path holds for the placeholders. -/
def tryMatch (t : Template ts) (p : Path) : Except MatchError (Values ts) :=
  match t.capture p with
  | .error e => .error e
  | .ok raw => Values.decode ts raw

/-- The values that a path holds for the placeholders, without the reason of a refusal. -/
def match? (t : Template ts) (p : Path) : Option (Values ts) := (t.tryMatch p).toOption

end Template

end PathRouting
