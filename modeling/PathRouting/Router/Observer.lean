import PathRouting.Router.Event

/-!
# Observers

An observer is told about every attempt to resolve something. One kind writes down all it is told
under its name, one does nothing, and one counts and times finished attempts.
-/

namespace PathRouting
set_option autoImplicit false

variable [UserTypes]

inductive Observer where
  | recording (name : String)
  | silent
  | metrics
deriving DecidableEq

namespace Observer

def measure (kind : ResolutionKind) (outcome : Outcome) : Trace :=
  [.measured (.counted kind outcome), .measured (.timed kind)]

def react : Observer → Notice → Trace
  | recording name, notice => [.noticed name notice]
  | silent, _ => []
  | metrics, .matchSucceeded _ => measure .ofPath .matched
  | metrics, .matchFailed _ => measure .ofPath .noRoute
  | metrics, .aliasSucceeded _ => measure .ofAlias .matched
  | metrics, .aliasFailed _ error => measure .ofAlias error.outcome
  | metrics, .matchStarted _ => []
  | metrics, .aliasStarted _ => []

end Observer

end PathRouting
