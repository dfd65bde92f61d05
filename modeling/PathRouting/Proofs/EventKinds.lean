import PathRouting.Router.Session

/-!
# Kinds of events

Each operation of a router shows events of a few kinds, and no observer shows any but the one in
place. So whatever is read off a trace, such as the runs of handlers or a part of the log, is empty
for an operation that shows nothing of the kind.
-/

namespace PathRouting
set_option autoImplicit false

/-- What an event is about. -/
inductive EventKind where
  | observation
  | handlerRun
  | ruleRun
  | setup
  | routeAddition
  | aliasAddition
  | scan
  | success
  | failure
deriving DecidableEq

/-- Events of the kind are lines of the log. -/
def EventKind.isLogged : EventKind → Bool
  | observation => false
  | handlerRun => false
  | ruleRun => false
  | _ => true

variable [UserTypes]

@[simp] def LogEvent.kind : LogEvent → EventKind
  | created _ _ => .setup
  | observerReplaced => .setup
  | routeAdded _ _ => .routeAddition
  | aliasReplaced _ _ => .aliasAddition
  | aliasAdded _ => .aliasAddition
  | templateRejected _ _ _ => .scan
  | routeMatched _ _ => .scan
  | pathResolved _ => .success
  | aliasApplied _ _ => .success
  | pathUnmatched _ _ _ => .failure
  | aliasUnresolved _ _ _ => .failure

theorem LogEvent.isLogged_kind (event : LogEvent) : event.kind.isLogged := by
  cases event <;> rfl

namespace Event

@[simp] def kind : Event → EventKind
  | noticed _ _ => .observation
  | handlerRan _ _ => .handlerRun
  | ruleRan _ _ _ => .ruleRun
  | measured _ => .observation
  | logged event => event.kind

/-- The observer that shows the event. -/
def observer? : Event → Option Observer
  | noticed name _ => some (.recording name)
  | measured _ => some .metrics
  | _ => none

theorem isNone_log? (event : Event) : event.log?.isNone = !event.kind.isLogged := by
  cases event with
  | logged e => exact congrArg not e.isLogged_kind.symm
  | _ => rfl

end Event

namespace Trace
variable {observer : Option Observer} {kinds : List EventKind} {t : Trace}

/-- No other observer shows anything. -/
def OnlyFrom (observer : Option Observer) (t : Trace) : Prop :=
  ∀ event ∈ t, ∀ speaker, event.observer? = some speaker → observer = some speaker

/-- All events are of the kinds, and no other observer shows any of them. -/
def ShownUnder (observer : Option Observer) (kinds : List EventKind) (t : Trace) : Prop :=
  ∀ event ∈ t, event.kind ∈ kinds ∧
    ∀ speaker, event.observer? = some speaker → observer = some speaker

theorem shownUnder_nil : ShownUnder observer kinds [] := List.forall_mem_nil _

namespace ShownUnder

theorem cons {event : Event} (hkind : event.kind ∈ kinds) (hsilent : event.observer? = none)
    (h : t.ShownUnder observer kinds) : ShownUnder observer kinds (event :: t) := by
  refine List.forall_mem_cons.mpr ⟨⟨hkind, ?_⟩, h⟩
  intro speaker hspeaker
  rw [hsilent] at hspeaker
  cases hspeaker

theorem append {u : Trace} (h : t.ShownUnder observer kinds) (hu : u.ShownUnder observer kinds) :
    ShownUnder observer kinds (t ++ u) := List.forall_mem_append.mpr ⟨h, hu⟩

theorem mono (h : t.ShownUnder observer kinds) {others : List EventKind}
    (hkinds : ∀ kind ∈ kinds, kind ∈ others) : t.ShownUnder observer others :=
  fun event hevent => ⟨hkinds _ (h event hevent).1, (h event hevent).2⟩

/-- What is shown without an observer is shown under any. -/
theorem of_none (h : t.ShownUnder none kinds) {others : List EventKind}
    (hkinds : ∀ kind ∈ kinds, kind ∈ others) : t.ShownUnder observer others :=
  fun event hevent => ⟨hkinds _ (h event hevent).1,
    fun speaker hspeaker => nomatch (h event hevent).2 speaker hspeaker⟩

theorem onlyFrom (h : t.ShownUnder observer kinds) : t.OnlyFrom observer :=
  fun event hevent => (h event hevent).2

theorem kind_mem_of_mem_logs (h : t.ShownUnder observer kinds) {event : LogEvent}
    (hevent : event ∈ t.logs) : event.kind ∈ kinds := by
  obtain ⟨shown, hshown, hlog⟩ := List.mem_filterMap.mp hevent
  cases shown with
  | logged e =>
    cases hlog
    exact (h _ hshown).1
  | _ => cases hlog

end ShownUnder

end Trace

namespace Observer

theorem shownUnder_measure (kind : ResolutionKind) (outcome : Outcome) :
    (measure kind outcome).ShownUnder (some metrics) [.observation] := by
  intro event hevent
  simp only [measure, List.mem_cons, List.not_mem_nil, or_false] at hevent
  rcases hevent with rfl | rfl
  · exact ⟨List.mem_singleton_self _, fun _ h => h⟩
  · exact ⟨List.mem_singleton_self _, fun _ h => h⟩

theorem shownUnder_react (observer : Observer) (notice : Notice) :
    (observer.react notice).ShownUnder (some observer) [.observation] := by
  cases observer with
  | recording name =>
    intro event hevent
    rw [List.mem_singleton.mp hevent]
    exact ⟨List.mem_singleton_self _, fun _ h => h⟩
  | silent => exact Trace.shownUnder_nil
  | metrics =>
    cases notice with
    | matchStarted path => exact Trace.shownUnder_nil
    | aliasStarted identifier => exact Trace.shownUnder_nil
    | _ => exact shownUnder_measure _ _

end Observer

namespace Router
variable {r : DataType} (router : Router r)

theorem shownUnder_notify (notice : Notice) :
    (router.notify notice).ShownUnder router.observer [.observation] := by
  unfold notify
  cases router.observer with
  | none => exact Trace.shownUnder_nil
  | some observer => exact observer.shownUnder_react notice

theorem shownUnder_offer (path : Path) (routes : List (Route r)) :
    (offer path routes).trace.ShownUnder none [.handlerRun, .scan] := by
  induction routes with
  | nil => exact Trace.shownUnder_nil
  | cons route rest ih =>
    unfold offer
    split
    · exact .cons (by simp) rfl (.cons (by simp) rfl Trace.shownUnder_nil)
    · exact .cons (by simp) rfl ih

theorem shownUnder_applyAlias (identifier : String) (context : Datum) :
    (router.applyAlias identifier context).trace.ShownUnder none [.ruleRun] := by
  unfold applyAlias
  cases router.findAlias? identifier with
  | none => exact Trace.shownUnder_nil
  | some entry =>
    dsimp only
    unfold AliasEntry.apply
    split
    · exact .cons (by simp) rfl Trace.shownUnder_nil
    · exact Trace.shownUnder_nil

theorem shownUnder_logAliasFailure (identifier : String) (error : RouteError) :
    (router.logAliasFailure identifier error).ShownUnder none [.failure] := by
  cases error with
  | noRouteMatched path => exact Trace.shownUnder_nil
  | _ => exact .cons (by simp) rfl Trace.shownUnder_nil

theorem shownUnder_addAlias (entry : AliasEntry) :
    (router.addAlias entry).2.ShownUnder none [.aliasAddition] := by
  unfold addAlias
  cases router.findAlias? entry.identifier with
  | none => exact .cons (by simp) rfl Trace.shownUnder_nil
  | some previous => exact .cons (by simp) rfl (.cons (by simp) rfl Trace.shownUnder_nil)

theorem shownUnder_addAliases (entries : List AliasEntry) :
    (router.addAliases entries).2.ShownUnder none [.aliasAddition] := by
  induction entries generalizing router with
  | nil => exact Trace.shownUnder_nil
  | cons entry entries ih => exact (router.shownUnder_addAlias entry).append (ih _)

theorem shownUnder_observe (new : Observer) :
    (router.observe new).2.ShownUnder none [.setup] := by
  unfold observe
  split
  · exact .cons (by simp) rfl Trace.shownUnder_nil
  · exact Trace.shownUnder_nil

theorem shownUnder_start (creation : Creation) :
    (creation.start : Router r × Trace).2.ShownUnder none [.setup, .aliasAddition] := by
  cases creation with
  | empty => exact Trace.shownUnder_nil
  | withConfig config => exact Trace.shownUnder_nil
  | fromConfig config =>
    refine .append (.append ((shownUnder_addAliases _ _).mono (by decide)) ?_)
      (.cons (by simp) rfl Trace.shownUnder_nil)
    split
    · exact (shownUnder_observe _ _).mono (by decide)
    · exact Trace.shownUnder_nil

theorem shownUnder_closePath (path : Path) (result : Except RouteError r.Value) :
    (router.closePath path result).ShownUnder router.observer
      [.observation, .success, .failure] := by
  cases result with
  | ok value => exact .cons (by simp) rfl ((router.shownUnder_notify _).mono (by decide))
  | error e => exact .cons (by simp) rfl ((router.shownUnder_notify _).mono (by decide))

theorem shownUnder_resolve (path : Path) :
    (router.resolve path).trace.ShownUnder router.observer
      [.observation, .handlerRun, .scan, .success, .failure] := by
  refine .append (.append ?_ ?_) ?_
  · exact (router.shownUnder_notify _).mono (by decide)
  · exact (shownUnder_offer path _).of_none (by decide)
  · exact (router.shownUnder_closePath path _).mono (by decide)

theorem shownUnder_follow (identifier : String) (target : Except RouteError Path) :
    (router.follow identifier target).trace.ShownUnder router.observer
      [.observation, .handlerRun, .scan, .success, .failure] := by
  cases target with
  | ok path => exact .cons (by simp) rfl (router.shownUnder_resolve path)
  | error e => exact Trace.shownUnder_nil

theorem shownUnder_closeAlias (identifier : String) (result : Except RouteError r.Value) :
    (router.closeAlias identifier result).ShownUnder router.observer [.observation, .failure] := by
  cases result with
  | ok value => exact (router.shownUnder_notify _).mono (by decide)
  | error e =>
    exact ((router.shownUnder_logAliasFailure identifier e).of_none (by decide)).append
      ((router.shownUnder_notify _).mono (by decide))

theorem shownUnder_resolveAlias (identifier : String) (context : Datum) :
    (router.resolveAlias identifier context).trace.ShownUnder router.observer
      [.observation, .ruleRun, .handlerRun, .scan, .success, .failure] := by
  refine .append (.append (.append ?_ ?_) ?_) ?_
  · exact (router.shownUnder_notify _).mono (by decide)
  · exact (router.shownUnder_applyAlias identifier context).of_none (by decide)
  · exact (router.shownUnder_follow identifier _).mono (by decide)
  · exact (router.shownUnder_closeAlias identifier _).mono (by decide)

end Router

/-- The kinds of events that an action can show. -/
def Action.kinds {r : DataType} : Action r → List EventKind
  | .add _ => [.routeAddition]
  | .addPath _ _ _ => [.routeAddition]
  | .addAlias _ => [.aliasAddition]
  | .observe _ => [.setup]
  | .resolve _ => [.observation, .handlerRun, .scan, .success, .failure]
  | .resolveAlias _ _ => [.observation, .ruleRun, .handlerRun, .scan, .success, .failure]
  | _ => []

/-- An action shows events of its kinds, under the observer that is in place when it starts. -/
theorem Router.shownUnder_take {r : DataType} (router : Router r) (action : Action r) :
    (router.take action).trace.ShownUnder router.observer action.kinds := by
  cases action with
  | add route => exact .cons (List.mem_singleton_self _) rfl Trace.shownUnder_nil
  | addPath types template handler =>
    simp only [take, addPath]
    cases Template.parse types template with
    | error e => exact Trace.shownUnder_nil
    | ok t => exact .cons (List.mem_singleton_self _) rfl Trace.shownUnder_nil
  | addAlias entry => exact (router.shownUnder_addAlias entry).of_none fun _ h => h
  | observe new => exact (router.shownUnder_observe new).of_none fun _ h => h
  | resolve path => exact router.shownUnder_resolve path
  | resolveAlias identifier context => exact router.shownUnder_resolveAlias identifier context
  | _ => exact Trace.shownUnder_nil

end PathRouting
