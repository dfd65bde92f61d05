import PathRouting.Router.Resolution

/-!
# Sessions

A session is a router together with what is done to it. It starts in one of a few ways, and then
takes one action after another, each with a reply and a trace.
-/

namespace PathRouting
set_option autoImplicit false

variable [UserTypes]

inductive Creation where
  | empty
  | withConfig (config : Config)
  | fromConfig (config : Config)

/-- The router at the start, and what its creation showed. -/
def Creation.start {r : DataType} : Creation → Router r × Trace
  | .empty => (.empty, [])
  | .withConfig config => (.withConfig config, [])
  | .fromConfig config => Router.fromConfig config

/-- What can be done to a router, or asked of it. -/
inductive Action (r : DataType) where
  | add (route : Route r)
  | addPath (types : List Scalar) (template : String) (handler : Handler types r)
  | addAlias (entry : AliasEntry)
  | observe (observer : Observer)
  | clearObserver
  | resolve (path : Path)
  | resolveAlias (identifier : String) (context : Datum)
  | describe
  | hasAlias (identifier : String)
  | config
  | diagnostic

/-- What a router tells about itself. -/
structure Summary where
  routes : List String
  aliases : List String
  routeCount : Nat
  aliasCount : Nat
  hasObserver : Bool
deriving DecidableEq

inductive Reply (r : DataType) where
  | routes (count : Nat)
  | refused (error : TemplateError)
  | aliases (count : Nat)
  | observed (present : Bool)
  | resolved (result : Except RouteError r.Value)
  | described (summary : Summary)
  | known (present : Bool)
  | config (config : Config)
  | diagnostic (text : String)

/-- The router after an action, the reply and the trace. -/
structure Taken (r : DataType) where
  router : Router r
  reply : Reply r
  trace : Trace

namespace Router
variable {r : DataType}

def summary (router : Router r) : Summary :=
  ⟨router.describeRoutes, router.describeAliases, router.routeCount, router.aliasCount,
    router.hasObserver⟩

def take (router : Router r) : Action r → Taken r
  | .add route =>
    let after := router.add route
    ⟨after.1, .routes after.1.routeCount, after.2⟩
  | .addPath types template handler =>
    match router.addPath types template handler with
    | .ok after => ⟨after.1, .routes after.1.routeCount, after.2⟩
    | .error e => ⟨router, .refused e, []⟩
  | .addAlias entry =>
    let after := router.addAlias entry
    ⟨after.1, .aliases after.1.aliasCount, after.2⟩
  | .observe observer =>
    let after := router.observe observer
    ⟨after.1, .observed after.1.hasObserver, after.2⟩
  | .clearObserver => ⟨router.clearObserver, .observed router.clearObserver.hasObserver, []⟩
  | .resolve path =>
    let attempt := router.resolve path
    ⟨router, .resolved attempt.result, attempt.trace⟩
  | .resolveAlias identifier context =>
    let attempt := router.resolveAlias identifier context
    ⟨router, .resolved attempt.result, attempt.trace⟩
  | .describe => ⟨router, .described router.summary, []⟩
  | .hasAlias identifier => ⟨router, .known (router.hasAlias identifier), []⟩
  | .config => ⟨router, .config router.config, []⟩
  | .diagnostic => ⟨router, .diagnostic router.diagnostic, []⟩

def after (router : Router r) (actions : List (Action r)) : Router r :=
  actions.foldl (fun router action => (router.take action).router) router

/-- The replies and traces of actions, in order. -/
def run (router : Router r) : List (Action r) → List (Reply r × Trace)
  | [] => []
  | action :: rest =>
    let taken := router.take action
    (taken.reply, taken.trace) :: taken.router.run rest

end Router

end PathRouting
