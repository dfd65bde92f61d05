import PathRouting.Path

/-!
# Configuration

What can be set for a router from outside: at which level unresolved paths are logged and which log
lines are shown, whether metrics are recorded, and aliases with fixed target paths.
-/

namespace PathRouting
set_option autoImplicit false

/-- Log settings: whether unresolved paths and aliases are warned about, and the filter of shown lines. -/
structure LoggingConfig where
  logUnmatched : Bool := true
  defaultFilter : String := "typed_router=info"
deriving DecidableEq

structure MetricsConfig where
  enabled : Bool := false
deriving DecidableEq

structure StaticAlias where
  identifier : String
  target : Path
deriving DecidableEq

structure Config where
  logging : LoggingConfig := {}
  metrics : MetricsConfig := {}
  aliases : List StaticAlias := []
deriving DecidableEq

end PathRouting
