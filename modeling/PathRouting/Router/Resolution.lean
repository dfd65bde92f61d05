import PathRouting.Router.Basic

/-!
# Resolution

A path is resolved by the newest route that accepts it. An alias is resolved by turning its context
into a path and resolving that. Either way the result comes with the trace of the attempt.
-/

namespace PathRouting
set_option autoImplicit false

variable [UserTypes]

/-- The outcome of an attempt, and what it showed. -/
structure Attempt (α : Type) where
  result : Except RouteError α
  trace : Trace

/-- Turns a context into a path. A context of another type than the alias expects does not reach the
rule. -/
def AliasEntry.apply (e : AliasEntry) (context : Datum) : Attempt Path :=
  if h : context.type = e.handle.context then
    { result := match e.rule (h ▸ context.value) with
        | some path => .ok path
        | none => .error (.aliasContextRejected e.identifier)
      trace := [.ruleRan e.identifier context e.quiet] }
  else ⟨.error (.aliasContextMismatch e.identifier e.handle.context.name), []⟩

namespace Router
variable {r : DataType}

/-- Offers a path to routes in order, until one accepts it, and runs that one's handler. -/
def offer (path : Path) : List (Route r) → Attempt r.Value
  | [] => ⟨.error (.noRouteMatched path), []⟩
  | route :: rest =>
    match route.template.tryMatch path with
    | .ok values =>
      ⟨.ok (route.handler.run values),
        [.handlerRan route.handler.label ⟨route.types, values⟩,
          .logged (.routeMatched path route.template.text)]⟩
    | .error reason =>
      let later := offer path rest
      ⟨later.result, .logged (.templateRejected path route.template.text reason) :: later.trace⟩

def closePath (router : Router r) (path : Path) : Except RouteError r.Value → Trace
  | .ok _ => .logged (.pathResolved path) :: router.notify (.matchSucceeded path)
  | .error _ =>
    .logged (.pathUnmatched router.failureLevel path router.routeCount) ::
      router.notify (.matchFailed path)

def resolve (router : Router r) (path : Path) : Attempt r.Value :=
  let found := offer path router.routes.reverse
  ⟨found.result,
    router.notify (.matchStarted path) ++ found.trace ++ router.closePath path found.result⟩

def applyAlias (router : Router r) (identifier : String) (context : Datum) : Attempt Path :=
  match router.findAlias? identifier with
  | some entry => entry.apply context
  | none => ⟨.error (.aliasNotFound identifier), []⟩

/-- The log line of a failed alias; an unmatched path has been logged already. -/
def logAliasFailure (router : Router r) (identifier : String) : RouteError → Trace
  | .noRouteMatched _ => []
  | error => [.logged (.aliasUnresolved router.failureLevel identifier error)]

def closeAlias (router : Router r) (identifier : String) : Except RouteError r.Value → Trace
  | .ok _ => router.notify (.aliasSucceeded identifier)
  | .error error =>
    router.logAliasFailure identifier error ++ router.notify (.aliasFailed identifier error)

/-- Resolves the path that an alias gives, once it gave one. -/
def follow (router : Router r) (identifier : String) : Except RouteError Path → Attempt r.Value
  | .error error => ⟨.error error, []⟩
  | .ok path =>
    let target := router.resolve path
    ⟨target.result, .logged (.aliasApplied identifier path) :: target.trace⟩

def resolveAlias (router : Router r) (identifier : String) (context : Datum) : Attempt r.Value :=
  let applied := router.applyAlias identifier context
  let followed := router.follow identifier applied.result
  ⟨followed.result,
    router.notify (.aliasStarted identifier) ++ applied.trace ++ followed.trace ++
      router.closeAlias identifier followed.result⟩

end Router

end PathRouting
