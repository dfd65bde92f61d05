import PathRouting.Path

/-!
# Failed resolutions

Why a path or an alias has no result, and the outcome labels under which resolutions are counted.
-/

namespace PathRouting
set_option autoImplicit false

/-- The outcome of a resolution, as it is counted. -/
inductive Outcome where
  | matched
  | noRoute
  | aliasNotFound
  | contextRejected
  | contextMismatch
deriving DecidableEq

def Outcome.label : Outcome → String
  | matched => "matched"
  | noRoute => "no_route"
  | aliasNotFound => "alias_not_found"
  | contextRejected => "context_rejected"
  | contextMismatch => "context_mismatch"

/-- Why a path or an alias was not resolved; `expected` names the context type of the alias. -/
inductive RouteError where
  | noRouteMatched (path : Path)
  | aliasNotFound (identifier : String)
  | aliasContextRejected (identifier : String)
  | aliasContextMismatch (identifier expected : String)
deriving DecidableEq

namespace RouteError

def message : RouteError → String
  | noRouteMatched path => "no route matches '" ++ path.text ++ "'"
  | aliasNotFound identifier => "no alias named '" ++ identifier ++ "'"
  | aliasContextRejected identifier =>
    "alias '" ++ identifier ++ "' returned no path for the given context"
  | aliasContextMismatch identifier expected =>
    "alias '" ++ identifier ++ "' expects a context of type " ++ expected

/-- The path or the identifier that was not resolved. -/
def target : RouteError → String
  | noRouteMatched path => path.text
  | aliasNotFound identifier => identifier
  | aliasContextRejected identifier => identifier
  | aliasContextMismatch identifier _ => identifier

/-- Whether the failure means that there is nothing at the target: so far, each one does. -/
def isNotFound : RouteError → Bool
  | noRouteMatched _ => true
  | aliasNotFound _ => true
  | aliasContextRejected _ => true
  | aliasContextMismatch _ _ => true

def outcome : RouteError → Outcome
  | noRouteMatched _ => .noRoute
  | aliasNotFound _ => .aliasNotFound
  | aliasContextRejected _ => .contextRejected
  | aliasContextMismatch _ _ => .contextMismatch

end RouteError

end PathRouting
