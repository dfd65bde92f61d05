import PathRouting.Proofs.CatalogRoutes
import PathRouting.Proofs.RouterRuns
import PathRouting.Proofs.Translation

/-!
# Independence of observers

An observer shows what it is told and does nothing else. With its events taken out, and with them
what the log tells about observers, a run is the run of a router that never had one. So two runs that
differ in their observers only show the same otherwise.
-/

namespace PathRouting
set_option autoImplicit false

/-- The settings with those of metrics left out. -/
def Config.unmetered (config : Config) : Config := { config with metrics := {} }

def Creation.unmetered : Creation → Creation
  | .empty => .empty
  | .withConfig config => .withConfig config.unmetered
  | .fromConfig config => .fromConfig config.unmetered

def Summary.unobserved (summary : Summary) : Summary := { summary with hasObserver := false }

section
variable [UserTypes]

namespace Event

/-- The event without what it tells about observers. -/
def unobserved? : Event → Option Event
  | noticed _ _ => none
  | measured _ => none
  | logged .observerReplaced => none
  | logged (.created aliases _) => some (logged (.created aliases false))
  | event => some event

end Event

namespace Trace

/-- The events without what they tell about observers. -/
def unobserved (t : Trace) : Trace := t.filterMap Event.unobserved?

@[simp] theorem unobserved_append (t u : Trace) :
    (t ++ u).unobserved = t.unobserved ++ u.unobserved := List.filterMap_append

namespace ShownUnder
variable {observer : Option Observer} {kinds : List EventKind} {t : Trace}
  (h : t.ShownUnder observer kinds)
include h

theorem unobserved_eq_nil (hkinds : ∀ kind ∈ kinds, kind = .observation) : t.unobserved = [] := by
  apply List.filterMap_eq_nil_iff.mpr
  intro event hevent
  have hkind := hkinds _ (h event hevent).1
  cases event with
  | noticed name notice => rfl
  | measured measurement => rfl
  | logged e => cases e <;> cases hkind
  | _ => cases hkind

theorem unobserved_eq_self (hkinds : ∀ kind ∈ kinds, kind ≠ .observation ∧ kind ≠ .setup) :
    t.unobserved = t := by
  have hplain : ∀ event ∈ t, event.unobserved? = some event := by
    intro event hevent
    obtain ⟨hobservation, hsetup⟩ := hkinds _ (h event hevent).1
    cases event with
    | noticed name notice => exact absurd rfl hobservation
    | measured measurement => exact absurd rfl hobservation
    | logged e =>
      cases e with
      | created aliases metrics => exact absurd rfl hsetup
      | observerReplaced => exact absurd rfl hsetup
      | _ => rfl
    | _ => rfl
  exact (List.filterMap_congr hplain).trans List.filterMap_some

end ShownUnder

end Trace

def Attempt.unobserved {α : Type} (a : Attempt α) : Attempt α := ⟨a.result, a.trace.unobserved⟩

namespace Router
variable {r : DataType}

/-- The router without its observer and its settings of metrics. -/
def unobserved (router : Router r) : Router r :=
  { router with config := router.config.unmetered, observer := none }

@[simp] theorem unobserved_notify (router : Router r) (notice : Notice) :
    (router.notify notice).unobserved = [] :=
  (router.shownUnder_notify notice).unobserved_eq_nil (by decide)

theorem translates_unobserved (router : Router r) :
    Translates Event.unobserved? router router.unobserved where
  routes := rfl
  aliases := rfl
  notify notice := (router.unobserved_notify notice).symm
  pathFailure _ _ := rfl
  aliasFailure _ _ := rfl
  work event hwork := by
    cases event with
    | noticed name notice => simp [EventKind.ofWork] at hwork
    | measured measurement => simp [EventKind.ofWork] at hwork
    | logged e =>
      cases e with
      | created aliases metrics => simp [EventKind.ofWork] at hwork
      | observerReplaced => simp [EventKind.ofWork] at hwork
      | _ => rfl
    | _ => rfl

theorem resolve_unobserved (router : Router r) (path : Path) :
    router.unobserved.resolve path = (router.resolve path).unobserved :=
  router.translates_unobserved.resolve path

theorem resolveAlias_unobserved (router : Router r) (identifier : String) (context : Datum) :
    router.unobserved.resolveAlias identifier context =
      (router.resolveAlias identifier context).unobserved :=
  router.translates_unobserved.resolveAlias identifier context

theorem addAliases_unobserved (router : Router r) (entries : List AliasEntry) :
    router.unobserved.addAliases entries =
      ((router.addAliases entries).1.unobserved, (router.addAliases entries).2) :=
  addAliases_comm (fun _ _ => rfl) router entries

theorem unobserved_observe (router : Router r) (observer : Observer) :
    Prod.map unobserved Trace.unobserved (router.observe observer) = (router.unobserved, []) := by
  unfold observe
  cases router.observer with
  | none => rfl
  | some previous => rfl

theorem fromConfig_unmetered (config : Config) :
    (fromConfig config.unmetered : Router r × Trace) =
      Prod.map unobserved Trace.unobserved (fromConfig config) := by
  have hstart : (withConfig config.unmetered : Router r) = (withConfig config).unobserved := rfl
  have haliases : config.unmetered.aliases = config.aliases := rfl
  have hmetrics : config.unmetered.metrics.enabled = false := rfl
  simp only [fromConfig, hstart, haliases, hmetrics, addAliases_unobserved]
  have hlog := ((withConfig config : Router r).shownUnder_addAliases
    (config.aliases.map fun a => AliasEntry.fixed a.identifier a.target)).unobserved_eq_self
      (by decide)
  generalize (withConfig config : Router r).addAliases _ = named at hlog ⊢
  -- With metrics, an observer is installed, which shows nothing that is not taken out.
  cases config.metrics.enabled with
  | true =>
    have hobserve := congrArg Prod.snd (named.1.unobserved_observe .metrics)
    simp only [Prod.map] at hobserve
    simp only [Prod.map, Trace.unobserved_append, if_true, hlog, hobserve]
    rfl
  | false =>
    simp only [Prod.map, Trace.unobserved_append, hlog]
    rfl

end Router

theorem Creation.start_unmetered {r : DataType} (creation : Creation) :
    (creation.unmetered.start : Router r × Trace) =
      Prod.map Router.unobserved Trace.unobserved creation.start := by
  cases creation with
  | empty => rfl
  | withConfig config => rfl
  | fromConfig config => exact Router.fromConfig_unmetered config

namespace Action
variable {r : DataType}

/-- The action changes the observer, or asks for the diagnostic form, which tells if there is one. -/
def concernsObserver : Action r → Bool
  | .observe _ => true
  | .clearObserver => true
  | .diagnostic => true
  | _ => false

end Action

/-- The reply without what it tells about observers and metrics. -/
def Reply.unobserved {r : DataType} : Reply r → Reply r
  | .described summary => .described summary.unobserved
  | .config settings => .config settings.unmetered
  | reply => reply

namespace Router
variable {r : DataType}

/-- What an action does, apart from observers, is what it does to a router without one. -/
theorem take_unobserved (router : Router r) {action : Action r} (h : action.concernsObserver = false) :
    router.unobserved.take action = ⟨(router.take action).router.unobserved,
      (router.take action).reply.unobserved, (router.take action).trace.unobserved⟩ := by
  cases action with
  | add route => rfl
  | addPath types template handler =>
    simp only [take, addPath]
    cases Template.parse types template with
    | error e => rfl
    | ok t => rfl
  | addAlias entry =>
    have hlog := (router.shownUnder_addAlias entry).unobserved_eq_self (by decide)
    simp only [take, hlog]
    rfl
  | resolve path =>
    simp only [take, resolve_unobserved]
    rfl
  | resolveAlias identifier context =>
    simp only [take, resolveAlias_unobserved]
    rfl
  | describe => rfl
  | hasAlias identifier => rfl
  | config => rfl
  | observe observer => cases h
  | clearObserver => cases h
  | diagnostic => cases h

theorem unobserved_take_of_concernsObserver (router : Router r) {action : Action r}
    (h : action.concernsObserver) : (router.take action).router.unobserved = router.unobserved := by
  cases action with
  | observe observer => rfl
  | clearObserver => rfl
  | diagnostic => rfl
  | _ => cases h

theorem eq_observerReplaced_of_mem_take {router : Router r} {action : Action r}
    (h : action.concernsObserver) {event : Event} (hevent : event ∈ (router.take action).trace) :
    event = .logged .observerReplaced := by
  cases action with
  | observe observer =>
    simp only [take, observe] at hevent
    split at hevent
    · exact List.mem_singleton.mp hevent
    · cases hevent
  | clearObserver => cases hevent
  | diagnostic => cases hevent
  | _ => cases h

/-- What a run shows apart from observers: the replies and traces of the actions that do not concern
the observer, without what they tell about observers and metrics. -/
def shown (router : Router r) (actions : List (Action r)) : List (Reply r × Trace) :=
  ((actions.zip (router.run actions)).filter fun step => !step.1.concernsObserver).map
    fun step => (step.2.1.unobserved, step.2.2.unobserved)

/-- Apart from observers, a run shows what a router without one shows on the actions that do not
concern it. -/
theorem shown_eq_run_unobserved (router : Router r) (actions : List (Action r)) :
    router.shown actions =
      router.unobserved.run (actions.filter fun action => !action.concernsObserver) := by
  induction actions generalizing router with
  | nil => rfl
  | cons action actions ih =>
    have hrest := ih (router.take action).router
    -- Either the step is left out and keeps the router without observer, or both runs take it.
    cases hconcerns : action.concernsObserver with
    | true =>
      rw [unobserved_take_of_concernsObserver router hconcerns] at hrest
      simpa [shown, run, hconcerns] using hrest
    | false =>
      rw [shown] at hrest
      simp [shown, run, hconcerns, take_unobserved, hrest]

/-- Sessions that differ in their observers only give the same replies and show the same otherwise. -/
theorem observers_do_not_interfere (creation other : Creation)
    (hcreation : creation.unmetered = other.unmetered) {actions others : List (Action r)}
    (hactions : (actions.filter fun action => !action.concernsObserver) =
      others.filter fun action => !action.concernsObserver) :
    (creation.start : Router r × Trace).2.unobserved =
        (other.start : Router r × Trace).2.unobserved ∧
      creation.start.1.shown actions = other.start.1.shown others ∧
      (∀ (router : Router r) (action : Action r), action.concernsObserver →
        ∀ event ∈ (router.take action).trace, event = .logged .observerReplaced) ∧
      (creation.start : Router r × Trace).2.OnlyFrom none ∧
      ∀ (router : Router r) (action : Action r),
        (router.take action).trace.OnlyFrom router.observer := by
  have hstart : Prod.map unobserved Trace.unobserved (creation.start : Router r × Trace) =
      Prod.map unobserved Trace.unobserved other.start := by
    rw [← creation.start_unmetered, hcreation, other.start_unmetered]
  have hrouter : (creation.start : Router r × Trace).1.unobserved = other.start.1.unobserved :=
    congrArg Prod.fst hstart
  refine ⟨congrArg Prod.snd hstart, ?_, ?_, (shownUnder_start creation).onlyFrom,
    fun router action => (router.shownUnder_take action).onlyFrom⟩
  · rw [shown_eq_run_unobserved, shown_eq_run_unobserved, hrouter, hactions]
  · intro router action haction event hevent
    exact eq_observerReplaced_of_mem_take haction hevent

end Router

end

/-- A session of the catalog under a recording observer, with metrics, and one without either. -/
theorem Router.observers_do_not_interfere_catalog :
    (Creation.fromConfig { metrics := { enabled := true } }).start.1.shown
        [.observe (.recording "first"), .add Catalog.home, .resolve (.ofText "home"), .diagnostic] =
      (Creation.fromConfig {}).start.1.shown
        [.add Catalog.home, .observe .silent, .clearObserver, .resolve (.ofText "home")] :=
  (observers_do_not_interfere (.fromConfig { metrics := { enabled := true } }) (.fromConfig {}) rfl
    rfl).2.1

end PathRouting
