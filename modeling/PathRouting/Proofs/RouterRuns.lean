import PathRouting.Proofs.RouteScan
import PathRouting.Router.Session

/-!
# Runs of routers

Only two kinds of actions register a route, and they put it after all others. Hence the routes of a
router are the registrations of its history, in order, however the other actions are mixed in, and
the newest registered route that accepts a path answers it. The observer of a router is the one that
was put in place last.
-/

namespace PathRouting
set_option autoImplicit false

variable [UserTypes]

namespace Action
variable {r : DataType}

/-- The route that an action registers. A template in written form has to be read first. -/
def route? : Action r → Option (Route r)
  | .add route => some route
  | .addPath types template handler =>
    match Template.parse types template with
    | .ok t => some ⟨types, t, handler⟩
    | .error _ => none
  | _ => none

/-- The observer that an action leaves in place, if it puts one there or takes it away. -/
def observer? : Action r → Option (Option Observer)
  | .observe observer => some (some observer)
  | .clearObserver => some none
  | _ => none

def IsResolution : Action r → Prop
  | .resolve _ => True
  | .resolveAlias _ _ => True
  | _ => False

end Action

namespace Router
variable {r : DataType} {router : Router r}

/-- The routes that actions register, oldest first. -/
def registered (actions : List (Action r)) : List (Route r) := actions.filterMap Action.route?

theorem registered_cons (action : Action r) (actions : List (Action r)) :
    registered (action :: actions) = action.route?.toList ++ registered actions := by
  cases h : action.route? with
  | none => exact List.filterMap_cons_none h
  | some route => exact List.filterMap_cons_some h

theorem registered_append (actions later : List (Action r)) :
    registered (actions ++ later) = registered actions ++ registered later := List.filterMap_append

@[simp] theorem routes_addAlias (router : Router r) (entry : AliasEntry) :
    (router.addAlias entry).1.routes = router.routes := rfl

@[simp] theorem routes_addAliases (router : Router r) (entries : List AliasEntry) :
    (router.addAliases entries).1.routes = router.routes := by
  induction entries generalizing router with
  | nil => rfl
  | cons entry entries ih => exact ih (router.addAlias entry).1

/-- A change of the router that registering an alias does not see stays as it is when several are
registered. -/
theorem addAliases_comm {change : Router r → Router r}
    (h : ∀ router entry, (change router).addAlias entry =
      (change (router.addAlias entry).1, (router.addAlias entry).2))
    (router : Router r) (entries : List AliasEntry) :
    (change router).addAliases entries =
      (change (router.addAliases entries).1, (router.addAliases entries).2) := by
  induction entries generalizing router with
  | nil => rfl
  | cons entry entries ih =>
    rw [addAliases, addAliases, h]
    exact congrArg (fun others => (others.1, (router.addAlias entry).2 ++ others.2))
      (ih (router.addAlias entry).1)

@[simp] theorem routes_observe (router : Router r) (observer : Observer) :
    (router.observe observer).1.routes = router.routes := rfl

@[simp] theorem routes_fromConfig (config : Config) :
    (fromConfig config : Router r × Trace).1.routes = [] := by
  unfold fromConfig
  dsimp only
  split
  · exact routes_addAliases (withConfig config) _
  · exact routes_addAliases (withConfig config) _

theorem routes_start (creation : Creation) :
    (creation.start : Router r × Trace).1.routes = [] := by
  cases creation with
  | empty => rfl
  | withConfig config => rfl
  | fromConfig config => exact routes_fromConfig config

/-- An action puts the route it registers after all others, and leaves those as they are. -/
theorem routes_take (router : Router r) (action : Action r) :
    (router.take action).router.routes = router.routes ++ action.route?.toList := by
  cases action with
  | add route => rfl
  | addPath types template handler =>
    cases hparse : Template.parse types template with
    | error e => simp [take, addPath, Action.route?, hparse]
    | ok t => simp [take, addPath, Action.route?, hparse, add]
  | addAlias entry => simp [take, Action.route?]
  | observe observer => simp [take, Action.route?]
  | clearObserver => simp [take, Action.route?, clearObserver]
  | resolve path => simp [take, Action.route?]
  | resolveAlias identifier context => simp [take, Action.route?]
  | describe => simp [take, Action.route?]
  | hasAlias identifier => simp [take, Action.route?]
  | config => simp [take, Action.route?]
  | diagnostic => simp [take, Action.route?]

theorem after_cons (router : Router r) (action : Action r) (actions : List (Action r)) :
    router.after (action :: actions) = (router.take action).router.after actions := rfl

theorem routes_after (router : Router r) (actions : List (Action r)) :
    (router.after actions).routes = router.routes ++ registered actions := by
  induction actions generalizing router with
  | nil => simp [after, registered]
  | cons action actions ih =>
    rw [after_cons, ih, routes_take, registered_cons, List.append_assoc]

theorem observer_addAliases (router : Router r) (entries : List AliasEntry) :
    (router.addAliases entries).1.observer = router.observer := by
  induction entries generalizing router with
  | nil => rfl
  | cons entry entries ih => exact ih (router.addAlias entry).1

theorem observer_fromConfig (config : Config) :
    (fromConfig config : Router r × Trace).1.observer =
      if config.metrics.enabled then some .metrics else none := by
  unfold fromConfig
  dsimp only
  split
  · rfl
  · exact observer_addAliases (withConfig config) _

theorem observer_take (router : Router r) (action : Action r) :
    (router.take action).router.observer = action.observer?.getD router.observer := by
  cases action with
  | addPath types template handler =>
    simp only [take, addPath]
    cases Template.parse types template with
    | error e => rfl
    | ok t => rfl
  | _ => rfl

theorem observer_after (router : Router r) (actions : List (Action r)) :
    (router.after actions).observer =
      (actions.filterMap Action.observer?).getLast?.getD router.observer := by
  induction actions generalizing router with
  | nil => rfl
  | cons action actions ih =>
    rw [after_cons, ih, observer_take]
    cases h : action.observer? with
    | none => rw [List.filterMap_cons_none h, Option.getD_none]
    | some observer =>
      rw [List.filterMap_cons_some h, List.getLast?_cons, Option.getD_some, Option.getD_some]

@[simp] theorem config_take (router : Router r) (action : Action r) :
    (router.take action).router.config = router.config := by
  cases action with
  | addPath types template handler =>
    simp only [take, addPath]
    cases Template.parse types template with
    | error e => rfl
    | ok t => rfl
  | _ => rfl

theorem config_after (router : Router r) (actions : List (Action r)) :
    (router.after actions).config = router.config := by
  induction actions generalizing router with
  | nil => rfl
  | cons action actions ih => rw [after_cons, ih, config_take]

theorem run_append (router : Router r) (before later : List (Action r)) :
    router.run (before ++ later) = router.run before ++ (router.after before).run later := by
  induction before generalizing router with
  | nil => rfl
  | cons action before ih =>
    rw [List.cons_append, run, run, ih, after_cons]
    rfl

theorem router_take_of_refused {action : Action r} {e : TemplateError}
    (h : (router.take action).reply = .refused e) : (router.take action).router = router := by
  cases action with
  | addPath types template handler =>
    cases hadd : router.addPath types template handler with
    | error e => simp only [take, hadd]
    | ok after => simp [take, hadd] at h
  | _ => simp [take] at h

theorem router_take_of_isResolution {action : Action r} (h : action.IsResolution) :
    (router.take action).router = router := by
  cases action with
  | resolve path => rfl
  | resolveAlias identifier context => rfl
  | _ => exact h.elim

end Router

namespace Creation
variable {r : DataType}

def reached (creation : Creation) (actions : List (Action r)) : Router r :=
  (creation.start : Router r × Trace).1.after actions

theorem reached_append (creation : Creation) (actions later : List (Action r)) :
    creation.reached (actions ++ later) = (creation.reached actions).after later :=
  List.foldl_append

/-- The observer that is in place when a session starts. -/
def observer? : Creation → Option Observer
  | .fromConfig config => if config.metrics.enabled then some .metrics else none
  | _ => none

/-- The observer of a session: the one that was put in place last, unless it was taken away. -/
def installed (creation : Creation) (actions : List (Action r)) : Option Observer :=
  (actions.filterMap Action.observer?).getLast?.getD creation.observer?

theorem observer_start (creation : Creation) :
    (creation.start : Router r × Trace).1.observer = creation.observer? := by
  cases creation with
  | empty => rfl
  | withConfig config => rfl
  | fromConfig config => exact Router.observer_fromConfig config

theorem observer_reached (creation : Creation) (actions : List (Action r)) :
    (creation.reached actions).observer = creation.installed actions := by
  rw [reached, Router.observer_after, observer_start, installed]

theorem routes_reached (creation : Creation) (actions : List (Action r)) :
    (creation.reached actions).routes = Router.registered actions := by
  rw [reached, Router.routes_after, Router.routes_start, List.nil_append]

theorem run_start_append (creation : Creation) (actions later : List (Action r)) :
    creation.start.1.run (actions ++ later) =
      creation.start.1.run actions ++ (creation.reached actions).run later :=
  Router.run_append creation.start.1 actions later

end Creation

namespace Router
variable {r : DataType}

/-- A path is answered by the newest registered route that accepts it, and by no other. Refused
registrations and resolutions leave no mark on the rest of a session. -/
theorem newest_registered_route_answers (creation : Creation) (actions : List (Action r)) :
    (∀ path, (∃ route ∈ registered actions, route.Accepts path) →
      ∃ older route newer values, registered actions = older ++ route :: newer ∧
        (∀ other ∈ newer, ¬other.Accepts path) ∧ route.template.tryMatch path = .ok values ∧
        ((creation.reached actions).resolve path).result = .ok (route.handler.run values) ∧
        ((creation.reached actions).resolve path).trace.handlerRuns =
          [(route.handler.label, ⟨route.types, values⟩)]) ∧
    (∀ path, (∀ route ∈ registered actions, ¬route.Accepts path) →
      ((creation.reached actions).resolve path).result = .error (.noRouteMatched path) ∧
        ((creation.reached actions).resolve path).trace.handlerRuns = []) ∧
    (∀ action, (∃ e, ((creation.reached actions).take action).reply = .refused e) ∨
        action.IsResolution →
      ((creation.reached actions).take action).router = creation.reached actions ∧
      ∀ later, ∃ answer,
        creation.start.1.run (actions ++ action :: later) =
          creation.start.1.run actions ++ answer :: (creation.reached actions).run later ∧
        creation.start.1.run (actions ++ later) =
          creation.start.1.run actions ++ (creation.reached actions).run later) := by
  have hroutes := creation.routes_reached actions
  refine ⟨?_, ?_, ?_⟩
  · intro path haccepted
    obtain ⟨older, route, newer, values, hsplit, hnewer, hmatch⟩ :=
      Route.exists_newest_accepting haccepted
    have hresolve := resolve_of_newest_accepting (hroutes.trans hsplit) hnewer hmatch
    exact ⟨older, route, newer, values, hsplit, hnewer, hmatch, hresolve⟩
  · intro path hrejected
    rw [← hroutes] at hrejected
    exact resolve_of_rejected hrejected
  · intro action haction
    have hsame : ((creation.reached actions).take action).router = creation.reached actions := by
      rcases haction with ⟨e, hrefused⟩ | hresolution
      · exact router_take_of_refused hrefused
      · exact router_take_of_isResolution hresolution
    refine ⟨hsame, ?_⟩
    intro later
    refine ⟨(((creation.reached actions).take action).reply,
      ((creation.reached actions).take action).trace), ?_, creation.run_start_append actions later⟩
    rw [creation.run_start_append actions (action :: later), run, hsame]

end Router

end PathRouting
