import PathRouting.Template.Basic

/-!
# Filling templates

Values are put in the places of the placeholders. A value whose written form cannot stand between
separators is refused, since the path could not be matched again.
-/

namespace PathRouting
set_option autoImplicit false

variable [UserTypes]

/-- Puts written values in the places of the placeholders; a value that is missing is empty. -/
def Segments.fill : List Segment → List String → Except TemplateError (List String)
  | [], _ => .ok []
  | .literal text :: rest, values =>
    match fill rest values with
    | .error e => .error e
    | .ok filled => .ok (text :: filled)
  | .placeholder name _ :: rest, values =>
    if IsSegment (values.headD "") then
      match fill rest values.tail with
      | .error e => .error e
      | .ok filled => .ok (values.headD "" :: filled)
    else .error (.unrenderableValue name (values.headD ""))

/-- The path with the given values at the placeholders. -/
def Template.pathFor {ts : List Scalar} (t : Template ts) (vs : Values ts) :
    Except TemplateError Path :=
  match Segments.fill t.segments vs.encode with
  | .error e => .error e
  | .ok filled => .ok (.ofText ("/".intercalate filled))

end PathRouting
