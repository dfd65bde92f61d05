import PathRouting.Router.Alias
import PathRouting.Router.Error
import PathRouting.Router.Route

/-!
# Events

What the work of a router shows to the outside, in order of occurrence: the notices that an observer
records, the runs of handlers and alias rules, the measurements, and the log.
-/

namespace PathRouting
set_option autoImplicit false

variable [UserTypes]

/-- What an observer is told about a resolution. -/
inductive Notice where
  | matchStarted (path : Path)
  | matchSucceeded (path : Path)
  | matchFailed (path : Path)
  | aliasStarted (identifier : String)
  | aliasSucceeded (identifier : String)
  | aliasFailed (identifier : String) (error : RouteError)
deriving DecidableEq

def Notice.line : Notice → String
  | matchStarted path => "match_started " ++ path.text
  | matchSucceeded path => "match_succeeded " ++ path.text
  | matchFailed path => "match_failed " ++ path.text
  | aliasStarted identifier => "alias_started " ++ identifier
  | aliasSucceeded identifier => "alias_succeeded " ++ identifier
  | aliasFailed identifier error => "alias_failed " ++ identifier ++ " (" ++ error.message ++ ")"

inductive ResolutionKind where
  | ofPath
  | ofAlias
deriving DecidableEq

def ResolutionKind.label : ResolutionKind → String
  | ofPath => "path"
  | ofAlias => "alias"

/-- A step of a counter, or a sample of a histogram of durations. -/
inductive Measurement where
  | counted (kind : ResolutionKind) (outcome : Outcome)
  | timed (kind : ResolutionKind)
deriving DecidableEq

def Measurement.line : Measurement → String
  | counted kind outcome =>
    "counter router_resolutions_total\x7bkind=" ++ kind.label ++ ",outcome=" ++ outcome.label ++
      "\x7d +1"
  | timed kind => "histogram router_resolution_duration_seconds\x7bkind=" ++ kind.label ++ "\x7d"

inductive Level where
  | trace
  | debug
  | warn
deriving DecidableEq

def Level.label : Level → String
  | trace => "TRACE"
  | debug => "DEBUG"
  | warn => "WARN"

inductive FieldValue where
  | text (s : String)
  | count (n : Nat)
  | truth (b : Bool)
deriving DecidableEq

/-- What is logged. The level of failures is a setting. -/
inductive LogEvent where
  | created (aliases : Nat) (metrics : Bool)
  | observerReplaced
  | routeAdded (route : String) (routes : Nat)
  | aliasReplaced (identifier previous : String)
  | aliasAdded (description : String)
  | templateRejected (path : Path) (template : String) (reason : MatchError)
  | routeMatched (path : Path) (template : String)
  | pathResolved (path : Path)
  | pathUnmatched (level : Level) (path : Path) (routes : Nat)
  | aliasApplied (identifier : String) (path : Path)
  | aliasUnresolved (level : Level) (identifier : String) (error : RouteError)
deriving DecidableEq

namespace LogEvent

def level : LogEvent → Level
  | templateRejected _ _ _ => .trace
  | pathUnmatched level _ _ => level
  | aliasUnresolved level _ _ => level
  | _ => .debug

def message : LogEvent → String
  | created _ _ => "Router created from configuration"
  | observerReplaced => "Replacing router observer"
  | routeAdded _ _ => "Route added"
  | aliasReplaced _ _ => "Replacing alias"
  | aliasAdded _ => "Alias added"
  | templateRejected _ _ _ => "Template rejected path"
  | routeMatched _ _ => "Route matched"
  | pathResolved _ => "Path resolved"
  | pathUnmatched _ _ _ => "Failed to match path"
  | aliasApplied _ _ => "Alias applied"
  | aliasUnresolved _ _ _ => "Failed to resolve alias"

def fields : LogEvent → List (String × FieldValue)
  | created aliases metrics => [("aliases", .count aliases), ("metrics", .truth metrics)]
  | observerReplaced => []
  | routeAdded route routes => [("route", .text route), ("routes", .count routes)]
  | aliasReplaced identifier previous =>
    [("identifier", .text identifier), ("previous", .text previous)]
  | aliasAdded description => [("alias", .text description)]
  | templateRejected path template reason =>
    [("path", .text path.text), ("template", .text template), ("reason", .text reason.message)]
  | routeMatched path template => [("path", .text path.text), ("template", .text template)]
  | pathResolved path => [("path", .text path.text)]
  | pathUnmatched _ path routes => [("path", .text path.text), ("routes", .count routes)]
  | aliasApplied identifier path => [("identifier", .text identifier), ("path", .text path.text)]
  | aliasUnresolved _ identifier error =>
    [("identifier", .text identifier), ("error", .text error.message)]

end LogEvent

/-- Something that the work of a router shows. -/
inductive Event where
  | noticed (observer : String) (notice : Notice)
  | handlerRan (label : String) (arguments : Arguments)
  | ruleRan (identifier : String) (context : Datum) (quiet : Bool)
  | measured (measurement : Measurement)
  | logged (event : LogEvent)

abbrev Trace := List Event

namespace Event

/-- The line of a notice, of a handler's run, or of the run of an alias rule that is not quiet. -/
def line? : Event → Option String
  | noticed observer notice => some (observer ++ ": " ++ notice.line)
  | handlerRan label _ => some ("handler " ++ label)
  | ruleRan identifier context quiet =>
    if quiet then none else some ("alias " ++ identifier ++ " [" ++ context.render ++ "]")
  | measured _ => none
  | logged _ => none

def measurement? : Event → Option Measurement
  | measured m => some m
  | _ => none

def log? : Event → Option LogEvent
  | logged e => some e
  | _ => none

end Event

namespace Trace

def lines (t : Trace) : List String := t.filterMap Event.line?

def measurements (t : Trace) : List Measurement := t.filterMap Event.measurement?

def logs (t : Trace) : List LogEvent := t.filterMap Event.log?

end Trace

end PathRouting
