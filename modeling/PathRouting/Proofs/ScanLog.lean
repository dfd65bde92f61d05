import Mathlib.Data.List.Forall2
import PathRouting.Proofs.ResolutionEvents
import PathRouting.Proofs.RouterRuns

/-!
# The log of routes

The log tells how a path was scanned: which routes rejected it, from the newest one on, and for what
reason, which one took it if there was one, and what came of it. It also tells which routes there
are: each one is logged when it is registered, with its number, and nothing else is logged so. Hence
the routes that a session has logged are those that its router lists, in order.
-/

namespace PathRouting
set_option autoImplicit false

variable [UserTypes]

/-- A line of the log as it is written. -/
structure LogLine where
  level : Level
  message : String
  fields : List (String × FieldValue)
deriving DecidableEq

namespace LogEvent

def line (event : LogEvent) : LogLine := ⟨event.level, event.message, event.fields⟩

/-- The description and the number of a route that is logged to be registered. -/
def addition? : LogEvent → Option (String × Nat)
  | routeAdded route routes => some (route, routes)
  | _ => none

end LogEvent

namespace Trace

def logLines (t : Trace) : List LogLine := t.logs.map LogEvent.line

@[simp] theorem logLines_nil : logLines [] = [] := rfl

@[simp] theorem logLines_append (t u : Trace) : logLines (t ++ u) = logLines t ++ logLines u := by
  simp [logLines, logs]

@[simp] theorem logLines_logged (event : LogEvent) (t : Trace) :
    logLines (.logged event :: t) = event.line :: logLines t := rfl

@[simp] theorem logLines_handlerRan (label : String) (arguments : Arguments) (t : Trace) :
    logLines (.handlerRan label arguments :: t) = logLines t := rfl

/-- The routes that are logged to be registered, each with its number. -/
def additions (t : Trace) : List (String × Nat) := t.logs.filterMap LogEvent.addition?

@[simp] theorem additions_nil : additions [] = [] := rfl

namespace ShownUnder
variable {observer : Option Observer} {kinds : List EventKind} {t : Trace}
  (h : t.ShownUnder observer kinds)
include h

theorem logLines_eq_nil (hkinds : ∀ kind ∈ kinds, ¬kind.isLogged) : t.logLines = [] := by
  have hlogs : t.logs = [] := by
    apply List.eq_nil_iff_forall_not_mem.mpr
    intro event hevent
    exact hkinds _ (h.kind_mem_of_mem_logs hevent) event.isLogged_kind
  rw [logLines, hlogs, List.map_nil]

theorem additions_eq_nil (hkinds : .routeAddition ∉ kinds) : t.additions = [] := by
  apply List.filterMap_eq_nil_iff.mpr
  intro event hevent
  cases event with
  | routeAdded route routes => exact absurd (h.kind_mem_of_mem_logs hevent) hkinds
  | _ => rfl

end ShownUnder

end Trace

def Reply.registers {r : DataType} : Reply r → Bool
  | .routes _ => true
  | _ => false

namespace Route
variable {r : DataType}

/-- The line that a route leaves when it rejects a path. -/
def Rejects (path : Path) (route : Route r) (line : LogLine) : Prop :=
  ∃ reason, route.template.tryMatch path = .error reason ∧
    line = ⟨.trace, "Template rejected path",
      [("path", .text path.text), ("template", .text route.template.text),
        ("reason", .text reason.message)]⟩

theorem forall₂_rejects {path : Path} {routes : List (Route r)}
    (h : ∀ route ∈ routes, ¬route.Accepts path) :
    List.Forall₂ (Rejects path) routes (Trace.logLines (routes.filterMap (rejection? path))) := by
  induction routes with
  | nil => exact .nil
  | cons route routes ih =>
    obtain ⟨hfirst, hothers⟩ := List.forall_mem_cons.mp h
    obtain ⟨reason, hreason⟩ := tryMatch_of_not_accepts hfirst
    rw [List.filterMap_cons_some (rejection?_of_error hreason), Trace.logLines_logged]
    exact .cons ⟨reason, hreason, rfl⟩ (ih hothers)

end Route

namespace Router
variable {r : DataType} {router : Router r} {path : Path}

@[simp] theorem logLines_notify (router : Router r) (notice : Notice) :
    (router.notify notice).logLines = [] :=
  (router.shownUnder_notify notice).logLines_eq_nil (by decide)

theorem logLines_resolve (router : Router r) (path : Path) :
    (router.resolve path).trace.logLines =
      (offer path router.routes.reverse).trace.logLines ++
        (router.closePath path (router.resolve path).result).logLines := by
  simp [resolve]

/-- The routes newer than the one that takes a path have rejected it, from the newest one on. -/
theorem logLines_resolve_of_newest_accepting {older newer : List (Route r)} {route : Route r}
    {values : Values route.types} (hroutes : router.routes = older ++ route :: newer)
    (hnewer : ∀ other ∈ newer, ¬other.Accepts path)
    (hmatch : route.template.tryMatch path = .ok values) :
    (router.resolve path).trace.logLines =
      Trace.logLines (newer.reverse.filterMap (Route.rejection? path)) ++
        [⟨.debug, "Route matched",
            [("path", .text path.text), ("template", .text route.template.text)]⟩,
          ⟨.debug, "Path resolved", [("path", .text path.text)]⟩] := by
  rw [logLines_resolve, (resolve_of_newest_accepting hroutes hnewer hmatch).1, hroutes,
    offer_of_newest_accepting older hnewer hmatch]
  simp [closePath, LogEvent.line, LogEvent.level, LogEvent.message, LogEvent.fields]

theorem logLines_resolve_of_rejected (h : ∀ route ∈ router.routes, ¬route.Accepts path) :
    (router.resolve path).trace.logLines =
      Trace.logLines (router.routes.reverse.filterMap (Route.rejection? path)) ++
        [⟨router.failureLevel, "Failed to match path",
          [("path", .text path.text), ("routes", .count router.routeCount)]⟩] := by
  rw [logLines_resolve, (resolve_of_rejected h).1, offer_of_rejected (rejected_reverse h)]
  simp [closePath, LogEvent.line, LogEvent.level, LogEvent.message, LogEvent.fields]

/-- An action that registers a route replies with the number of routes and logs the new one under this
number. -/
theorem take_of_route? {action : Action r} {route : Route r} (h : action.route? = some route) :
    (router.take action).reply = .routes (router.routeCount + 1) ∧
      (router.take action).trace =
        [.logged (.routeAdded route.describe (router.routeCount + 1))] := by
  have hcount : (router.add route).1.routeCount = router.routeCount + 1 := List.length_append
  cases action with
  | add other =>
    cases h
    exact ⟨congrArg Reply.routes hcount, rfl⟩
  | addPath types template handler =>
    cases hparse : Template.parse types template with
    | error e => simp [Action.route?, hparse] at h
    | ok t =>
      obtain rfl : ⟨types, t, handler⟩ = route := by simpa [Action.route?, hparse] using h
      simp only [take, addPath, hparse]
      exact ⟨congrArg Reply.routes hcount, rfl⟩
  | _ => cases h

/-- No other action logs a route to be registered. -/
theorem additions_take_of_route?_eq_none {action : Action r} (h : action.route? = none) :
    (router.take action).trace.additions = [] := by
  have hshown := router.shownUnder_take action
  cases action with
  | add route => cases h
  | addPath types template handler =>
    cases hparse : Template.parse types template with
    | error e => simp [take, addPath, hparse]
    | ok t => simp [Action.route?, hparse] at h
  | _ => exact hshown.additions_eq_nil (by simp [Action.kinds])

theorem additions_take (router : Router r) (action : Action r) :
    (router.take action).trace.additions =
      action.route?.toList.map fun route => (route.describe, router.routeCount + 1) := by
  cases h : action.route? with
  | none => exact additions_take_of_route?_eq_none h
  | some route =>
    rw [(take_of_route? h).2]
    rfl

theorem registers_take (router : Router r) (action : Action r) :
    (router.take action).reply.registers = action.route?.isSome := by
  cases action with
  | addPath types template handler =>
    cases hparse : Template.parse types template with
    | error e => simp [take, addPath, Action.route?, hparse, Reply.registers]
    | ok t => simp [take, addPath, Action.route?, hparse, Reply.registers]
  | _ => rfl

theorem route?_of_reply_eq_routes {action : Action r} {count : Nat}
    (h : (router.take action).reply = .routes count) :
    ∃ route, action.route? = some route ∧ count = router.routeCount + 1 := by
  have hregisters := router.registers_take action
  rw [h] at hregisters
  obtain ⟨route, hroute⟩ := Option.isSome_iff_exists.mp hregisters.symm
  have hreply := h.symm.trans (take_of_route? hroute).1
  cases hreply
  exact ⟨route, hroute, rfl⟩

theorem countP_registers_run (router : Router r) (actions : List (Action r)) :
    (router.run actions).countP (fun answer => answer.1.registers) =
      (registered actions).length := by
  induction actions generalizing router with
  | nil => rfl
  | cons action actions ih =>
    rw [run, List.countP_cons, registers_take, ih, registered_cons]
    cases action.route? <;> simp [Nat.add_comm]

/-- The routes that a run logs are those it registers, numbered on from those there were. -/
theorem additions_run (router : Router r) (actions : List (Action r)) :
    (router.run actions).flatMap (fun answer => answer.2.additions) =
      ((registered actions).map Route.describe).zipIdx (router.routeCount + 1) := by
  -- A route counts itself when it is logged, so the rest of the run starts with one more.
  induction actions generalizing router with
  | nil => rfl
  | cons action actions ih =>
    have hroutes := router.routes_take action
    rw [run, List.flatMap_cons, additions_take, ih, registered_cons]
    cases hroute : action.route? with
    | none =>
      rw [hroute, Option.toList_none, List.append_nil] at hroutes
      rw [routeCount, routeCount, hroutes]
      rfl
    | some route =>
      rw [hroute] at hroutes
      rw [routeCount, routeCount, hroutes, List.length_append]
      rfl

theorem describeRoutes_reached (creation : Creation) (actions : List (Action r)) :
    (creation.reached actions).describeRoutes = (registered actions).map Route.describe := by
  rw [describeRoutes, creation.routes_reached]

/-- The log tells which routes rejected a path before one took it, and which routes a session has
registered under which numbers. -/
theorem scans_and_registrations_are_logged :
    (∀ (router : Router r) (path : Path),
      (∃ older route newer values rejections, router.routes = older ++ route :: newer ∧
        route.template.tryMatch path = .ok values ∧
        (router.resolve path).result = .ok (route.handler.run values) ∧
        List.Forall₂ (Route.Rejects path) newer.reverse rejections ∧
        (router.resolve path).trace.logLines = rejections ++
          [⟨.debug, "Route matched",
              [("path", .text path.text), ("template", .text route.template.text)]⟩,
            ⟨.debug, "Path resolved", [("path", .text path.text)]⟩]) ∨
      (∃ rejections, List.Forall₂ (Route.Rejects path) router.routes.reverse rejections ∧
        (router.resolve path).result = .error (.noRouteMatched path) ∧
        (router.resolve path).trace.logLines = rejections ++
          [⟨router.failureLevel, "Failed to match path",
            [("path", .text path.text), ("routes", .count router.routeCount)]⟩])) ∧
    (∀ (creation : Creation) (before later : List (Action r)) (action : Action r) (count : Nat),
      ((creation.reached before).take action).reply = .routes count →
      count = (creation.start.1.run before).countP (fun answer => answer.1.registers) + 1 ∧
      ∃ description,
        ((creation.reached before).take action).trace.logLines =
          [⟨.debug, "Route added", [("route", .text description), ("routes", .count count)]⟩] ∧
        (creation.reached (before ++ action :: later)).describeRoutes[count - 1]? =
          some description) ∧
    (∀ (creation : Creation) (actions : List (Action r)),
      (creation.start : Router r × Trace).2.additions ++
          (creation.start.1.run actions).flatMap (fun answer => answer.2.additions) =
        (creation.reached actions).describeRoutes.zipIdx 1) := by
  refine ⟨?scan, ?registration, ?session⟩
  case scan =>
    intro router path
    rcases Route.newest_accepting_or_rejected router.routes path with
      ⟨older, route, newer, values, hroutes, hnewer, hmatch⟩ | hrejected
    · left
      refine ⟨older, route, newer, values, _, hroutes, hmatch,
        (resolve_of_newest_accepting hroutes hnewer hmatch).1, ?_,
        logLines_resolve_of_newest_accepting hroutes hnewer hmatch⟩
      exact Route.forall₂_rejects fun other hmem => hnewer other (List.mem_reverse.mp hmem)
    · right
      exact ⟨_, Route.forall₂_rejects (rejected_reverse hrejected),
        (resolve_of_rejected hrejected).1, logLines_resolve_of_rejected hrejected⟩
  case registration =>
    intro creation before later action count hreply
    obtain ⟨route, hroute, hcount⟩ := route?_of_reply_eq_routes hreply
    have hnumber : (creation.reached before).routeCount = (registered before).length := by
      rw [routeCount, creation.routes_reached]
    rw [hnumber] at hcount
    refine ⟨?_, route.describe, ?_, ?_⟩
    · rw [countP_registers_run, hcount]
    · rw [(take_of_route? hroute).2, hnumber, ← hcount]
      rfl
    · rw [describeRoutes_reached, registered_append, registered_cons, hroute, hcount]
      simp
  case session =>
    intro creation actions
    have hstart : (creation.start : Router r × Trace).1.routeCount = 0 := by
      rw [routeCount, routes_start]
      rfl
    have hlogged : (creation.start : Router r × Trace).2.additions = [] :=
      (shownUnder_start creation).additions_eq_nil (by decide)
    rw [hlogged, List.nil_append, additions_run, hstart, describeRoutes_reached]

end Router

end PathRouting
