import PathRouting.Config.Basic
import PathRouting.Router.Observer

/-!
# Routers

A router keeps its routes in the order of their registration, and its aliases in the order of the
last registration of each identifier. Registering shows up in the log.
-/

namespace PathRouting
set_option autoImplicit false

variable [UserTypes]

structure Router (r : DataType) where
  config : Config := {}
  routes : List (Route r) := []
  aliases : List AliasEntry := []
  observer : Option Observer := none

namespace Router
variable {r : DataType}

def empty : Router r := {}

def withConfig (config : Config) : Router r := { config }

def notify (router : Router r) (notice : Notice) : Trace :=
  match router.observer with
  | some observer => observer.react notice
  | none => []

def failureLevel (router : Router r) : Level :=
  if router.config.logging.logUnmatched then .warn else .debug

/-- Registers a route, newer than all others. -/
def add (router : Router r) (route : Route r) : Router r × Trace :=
  ({ router with routes := router.routes ++ [route] },
    [.logged (.routeAdded route.describe (router.routes.length + 1))])

def addPath (router : Router r) (ts : List Scalar) (template : String) (handler : Handler ts r) :
    Except TemplateError (Router r × Trace) :=
  match Template.parse ts template with
  | .error e => .error e
  | .ok t => .ok (router.add ⟨ts, t, handler⟩)

def findAlias? (router : Router r) (identifier : String) : Option AliasEntry :=
  router.aliases.find? fun e => e.identifier = identifier

def hasAlias (router : Router r) (identifier : String) : Bool :=
  router.aliases.any fun e => e.identifier = identifier

/-- Registers an alias in the place of an earlier one with the same identifier. -/
def addAlias (router : Router r) (entry : AliasEntry) : Router r × Trace :=
  let replaced : Trace := match router.findAlias? entry.identifier with
    | some previous => [.logged (.aliasReplaced entry.identifier previous.describe)]
    | none => []
  ({ router with
      aliases := router.aliases.eraseP (fun e => e.identifier = entry.identifier) ++ [entry] },
    replaced ++ [.logged (.aliasAdded entry.describe)])

def addAliases (router : Router r) : List AliasEntry → Router r × Trace
  | [] => (router, [])
  | entry :: rest =>
    let first := router.addAlias entry
    let others := first.1.addAliases rest
    (others.1, first.2 ++ others.2)

/-- Installs an observer in the place of an earlier one. -/
def observe (router : Router r) (observer : Observer) : Router r × Trace :=
  ({ router with observer := some observer },
    if router.observer.isSome then [.logged .observerReplaced] else [])

def clearObserver (router : Router r) : Router r := { router with observer := none }

/-- The router that settings describe: with their aliases, and with metrics if enabled. -/
def fromConfig (config : Config) : Router r × Trace :=
  let entries := config.aliases.map fun a => AliasEntry.fixed a.identifier a.target
  let named := (withConfig config).addAliases entries
  let observed := if config.metrics.enabled then named.1.observe .metrics else (named.1, [])
  (observed.1, named.2 ++ observed.2 ++
    [.logged (.created observed.1.aliases.length config.metrics.enabled)])

def describeRoutes (router : Router r) : List String := router.routes.map Route.describe

/-- The descriptions of the aliases, by their last registration. -/
def describeAliases (router : Router r) : List String := router.aliases.map AliasEntry.describe

def routeCount (router : Router r) : Nat := router.routes.length

def aliasCount (router : Router r) : Nat := router.aliases.length

def hasObserver (router : Router r) : Bool := router.observer.isSome

def diagnostic (router : Router r) : String :=
  Text.diagnosticRecord "Router"
    [("routes", Text.diagnosticList (router.describeRoutes.map Text.quoted)),
      ("aliases", Text.diagnosticList (router.describeAliases.map Text.quoted)),
      ("has_observer", Text.truth router.hasObserver)]

end Router

end PathRouting
