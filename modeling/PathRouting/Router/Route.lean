import PathRouting.DataType
import PathRouting.Template.Matching

/-!
# Routes

A route is a template and a handler for the values of its placeholders. A handler carries a label
under which its runs are recorded.
-/

namespace PathRouting
set_option autoImplicit false

variable [UserTypes]

/-- What is done with the placeholder values of an accepted path. -/
structure Handler (ts : List Scalar) (r : DataType) where
  label : String
  run : Values ts → r.Value

/-- A template and the handler of the paths it accepts. -/
structure Route (r : DataType) where
  types : List Scalar
  template : Template types
  handler : Handler types r

def Route.describe {r : DataType} (route : Route r) : String :=
  "Route('" ++ route.template.text ++ "' (" ++ ", ".intercalate route.template.typeNames ++ ") -> " ++
    r.name ++ ")"

end PathRouting
