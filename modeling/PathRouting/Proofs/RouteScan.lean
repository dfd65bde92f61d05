import PathRouting.Proofs.EventKinds

/-!
# The scan of the routes

A path is offered to one route after the other. A route that rejects it leaves a line in the log and
nothing else, so the scan is decided by the first route that accepts. Since routes are scanned from
the end of their list, this is the newest one that accepts.
-/

namespace PathRouting
set_option autoImplicit false

variable [UserTypes]

namespace Event

def handlerRun? : Event → Option (String × Arguments)
  | handlerRan label arguments => some (label, arguments)
  | _ => none

end Event

namespace Trace

def handlerRuns (t : Trace) : List (String × Arguments) := t.filterMap Event.handlerRun?

@[simp] theorem handlerRuns_append (t u : Trace) :
    handlerRuns (t ++ u) = handlerRuns t ++ handlerRuns u := List.filterMap_append

theorem ShownUnder.handlerRuns_eq_nil {observer : Option Observer} {kinds : List EventKind} {t : Trace}
    (h : t.ShownUnder observer kinds) (hkinds : .handlerRun ∉ kinds) : t.handlerRuns = [] := by
  apply List.filterMap_eq_nil_iff.mpr
  intro event hevent
  cases event with
  | handlerRan label arguments => exact absurd (h _ hevent).1 hkinds
  | _ => rfl

end Trace

namespace Route
variable {r : DataType}

def Accepts (route : Route r) (path : Path) : Prop :=
  ∃ values, route.template.tryMatch path = .ok values

/-- What a route shows when it rejects a path. -/
def rejection? (path : Path) (route : Route r) : Option Event :=
  match route.template.tryMatch path with
  | .ok _ => none
  | .error reason => some (.logged (.templateRejected path route.template.text reason))

theorem rejection?_of_error {route : Route r} {path : Path} {reason : MatchError}
    (h : route.template.tryMatch path = .error reason) :
    rejection? path route = some (.logged (.templateRejected path route.template.text reason)) := by
  rw [rejection?, h]

theorem tryMatch_of_not_accepts {route : Route r} {path : Path} (h : ¬route.Accepts path) :
    ∃ reason, route.template.tryMatch path = .error reason := by
  cases hmatch : route.template.tryMatch path with
  | ok values => exact absurd ⟨values, hmatch⟩ h
  | error reason => exact ⟨reason, rfl⟩

theorem shownUnder_rejections (path : Path) (routes : List (Route r)) :
    Trace.ShownUnder none [.scan] (routes.filterMap (rejection? path)) := by
  intro event hevent
  obtain ⟨route, -, hroute⟩ := List.mem_filterMap.mp hevent
  unfold rejection? at hroute
  split at hroute
  · cases hroute
  · cases hroute
    exact ⟨List.mem_singleton_self _, nofun⟩

theorem handlerRuns_rejections (path : Path) (routes : List (Route r)) :
    Trace.handlerRuns (routes.filterMap (rejection? path)) = [] :=
  (shownUnder_rejections path routes).handlerRuns_eq_nil (by decide)

/-- If some route accepts, then one of those that do is the last in the list. -/
theorem exists_newest_accepting {routes : List (Route r)} {path : Path}
    (h : ∃ route ∈ routes, route.Accepts path) :
    ∃ older route newer values, routes = older ++ route :: newer ∧
      (∀ other ∈ newer, ¬other.Accepts path) ∧ route.template.tryMatch path = .ok values := by
  induction routes with
  | nil =>
    obtain ⟨route, hmem, -⟩ := h
    exact absurd hmem List.not_mem_nil
  | cons first rest ih =>
    by_cases hrest : ∃ route ∈ rest, route.Accepts path
    · obtain ⟨older, route, newer, values, rfl, hnewer, hmatch⟩ := ih hrest
      exact ⟨first :: older, route, newer, values, rfl, hnewer, hmatch⟩
    · obtain ⟨route, hmem, values, hmatch⟩ := h
      rcases List.mem_cons.mp hmem with rfl | hmem
      · refine ⟨[], route, rest, values, rfl, ?_, hmatch⟩
        exact fun other hother haccepts => hrest ⟨other, hother, haccepts⟩
      · exact absurd ⟨route, hmem, values, hmatch⟩ hrest

theorem newest_accepting_or_rejected (routes : List (Route r)) (path : Path) :
    (∃ older route newer values, routes = older ++ route :: newer ∧
      (∀ other ∈ newer, ¬other.Accepts path) ∧ route.template.tryMatch path = .ok values) ∨
    ∀ route ∈ routes, ¬route.Accepts path := by
  by_cases haccepted : ∃ route ∈ routes, route.Accepts path
  · exact Or.inl (exists_newest_accepting haccepted)
  · exact Or.inr fun route hmem h => haccepted ⟨route, hmem, h⟩

end Route

namespace Router
variable {r : DataType} {router : Router r} {path : Path}

@[simp] theorem handlerRuns_notify (router : Router r) (notice : Notice) :
    (router.notify notice).handlerRuns = [] :=
  (router.shownUnder_notify notice).handlerRuns_eq_nil (by decide)

@[simp] theorem handlerRuns_closePath (router : Router r) (path : Path)
    (result : Except RouteError r.Value) : (router.closePath path result).handlerRuns = [] :=
  (router.shownUnder_closePath path result).handlerRuns_eq_nil (by decide)

theorem handlerRuns_resolve (router : Router r) (path : Path) :
    (router.resolve path).trace.handlerRuns = (offer path router.routes.reverse).trace.handlerRuns := by
  simp [resolve]

theorem offer_of_accepted {route : Route r} {values : Values route.types}
    (h : route.template.tryMatch path = .ok values) (rest : List (Route r)) :
    offer path (route :: rest) =
      ⟨.ok (route.handler.run values),
        [.handlerRan route.handler.label ⟨route.types, values⟩,
          .logged (.routeMatched path route.template.text)]⟩ := by
  simp only [offer, h]

theorem offer_append_of_rejected {rejecting : List (Route r)}
    (h : ∀ route ∈ rejecting, ¬route.Accepts path) (rest : List (Route r)) :
    offer path (rejecting ++ rest) =
      ⟨(offer path rest).result,
        rejecting.filterMap (Route.rejection? path) ++ (offer path rest).trace⟩ := by
  induction rejecting with
  | nil => rfl
  | cons route rejecting ih =>
    have hlater := ih fun other hmem => h other (List.mem_cons_of_mem route hmem)
    obtain ⟨reason, hreason⟩ := Route.tryMatch_of_not_accepts (h route List.mem_cons_self)
    rw [List.cons_append, List.filterMap_cons_some (Route.rejection?_of_error hreason)]
    simp only [offer, hreason, hlater, List.cons_append]

theorem offer_of_rejected {routes : List (Route r)} (h : ∀ route ∈ routes, ¬route.Accepts path) :
    offer path routes = ⟨.error (.noRouteMatched path), routes.filterMap (Route.rejection? path)⟩ := by
  have hscan := offer_append_of_rejected h []
  rw [List.append_nil] at hscan
  rw [hscan, offer, List.append_nil]

/-- The scan from the newest route on ends at the newest one that accepts. -/
theorem offer_of_newest_accepting (older : List (Route r)) {newer : List (Route r)} {route : Route r}
    {values : Values route.types} (hnewer : ∀ other ∈ newer, ¬other.Accepts path)
    (hmatch : route.template.tryMatch path = .ok values) :
    offer path (older ++ route :: newer).reverse =
      ⟨.ok (route.handler.run values),
        newer.reverse.filterMap (Route.rejection? path) ++
          [.handlerRan route.handler.label ⟨route.types, values⟩,
            .logged (.routeMatched path route.template.text)]⟩ := by
  have hreverse : (older ++ route :: newer).reverse = newer.reverse ++ route :: older.reverse := by
    simp
  have hrejected : ∀ other ∈ newer.reverse, ¬other.Accepts path :=
    fun other hmem => hnewer other (List.mem_reverse.mp hmem)
  rw [hreverse, offer_append_of_rejected hrejected, offer_of_accepted hmatch]

/-- A path is answered by the newest route that accepts it, and no other handler runs. -/
theorem resolve_of_newest_accepting {older newer : List (Route r)} {route : Route r}
    {values : Values route.types} (hroutes : router.routes = older ++ route :: newer)
    (hnewer : ∀ other ∈ newer, ¬other.Accepts path)
    (hmatch : route.template.tryMatch path = .ok values) :
    (router.resolve path).result = .ok (route.handler.run values) ∧
      (router.resolve path).trace.handlerRuns =
        [(route.handler.label, ⟨route.types, values⟩)] := by
  have hscan := offer_of_newest_accepting older hnewer hmatch
  rw [← hroutes] at hscan
  constructor
  · exact congrArg Attempt.result hscan
  · rw [handlerRuns_resolve, hscan]
    rw [Trace.handlerRuns_append, Route.handlerRuns_rejections]
    rfl

theorem rejected_reverse (h : ∀ route ∈ router.routes, ¬route.Accepts path) :
    ∀ route ∈ router.routes.reverse, ¬route.Accepts path :=
  fun route hmem => h route (List.mem_reverse.mp hmem)

theorem resolve_of_rejected (h : ∀ route ∈ router.routes, ¬route.Accepts path) :
    (router.resolve path).result = .error (.noRouteMatched path) ∧
      (router.resolve path).trace.handlerRuns = [] := by
  have hscan := offer_of_rejected (rejected_reverse h)
  constructor
  · exact congrArg Attempt.result hscan
  · rw [handlerRuns_resolve, hscan]
    exact Route.handlerRuns_rejections path router.routes.reverse

end Router

end PathRouting
