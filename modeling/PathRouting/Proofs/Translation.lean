import Mathlib.Data.List.Basic
import PathRouting.Proofs.EventKinds

/-!
# Translations

Routers with the same routes and the same aliases resolve everything with the same results. If there
is a translation of what one of them shows when it tells its observer and when it reports a failure,
then all that it shows of a resolution is translated in this way to what the other one shows.
-/

namespace PathRouting
set_option autoImplicit false

variable [UserTypes]

/-- The kinds of events that depend on the routes and aliases only. -/
def EventKind.ofWork : List EventKind := [.handlerRun, .ruleRun, .scan, .success]

/-- The attempt with each event translated, or left out if it has no translation. -/
def Attempt.translate {α : Type} (f : Event → Option Event) (a : Attempt α) : Attempt α :=
  ⟨a.result, a.trace.filterMap f⟩

namespace Router
variable {r : DataType}

/-- The other router has the same routes and aliases, and it notices and reports what is translated. -/
structure Translates (f : Event → Option Event) (router other : Router r) : Prop where
  routes : other.routes = router.routes
  aliases : other.aliases = router.aliases
  notify : ∀ notice, other.notify notice = (router.notify notice).filterMap f
  pathFailure : ∀ path routes, f (.logged (.pathUnmatched router.failureLevel path routes)) =
    some (.logged (.pathUnmatched other.failureLevel path routes))
  aliasFailure : ∀ identifier error,
    f (.logged (.aliasUnresolved router.failureLevel identifier error)) =
      some (.logged (.aliasUnresolved other.failureLevel identifier error))
  work : ∀ event, event.kind ∈ EventKind.ofWork → f event = some event

namespace Translates
variable {f : Event → Option Event} {router other : Router r} (h : Translates f router other)
include h

theorem filterMap_eq_self {kinds : List EventKind} {t : Trace} (ht : t.ShownUnder none kinds)
    (hkinds : ∀ kind ∈ kinds, kind ∈ EventKind.ofWork) : t.filterMap f = t := by
  have hkept : ∀ event ∈ t, f event = some event :=
    fun event hevent => h.work event (hkinds _ (ht event hevent).1)
  exact (List.filterMap_congr hkept).trans List.filterMap_some

theorem closePath (path : Path) (result : Except RouteError r.Value) :
    other.closePath path result = (router.closePath path result).filterMap f := by
  cases result with
  | ok value =>
    have hresolved : f (.logged (.pathResolved path)) = some (.logged (.pathResolved path)) :=
      h.work _ (by simp [EventKind.ofWork])
    rw [Router.closePath, Router.closePath, List.filterMap_cons_some hresolved, h.notify]
  | error e =>
    have hcount : other.routeCount = router.routeCount := congrArg List.length h.routes
    rw [Router.closePath, Router.closePath, List.filterMap_cons_some (h.pathFailure path _),
      h.notify, hcount]

theorem resolve (path : Path) : other.resolve path = (router.resolve path).translate f := by
  have hscan := h.filterMap_eq_self (shownUnder_offer path router.routes.reverse) (by decide)
  simp only [Router.resolve, Attempt.translate, List.filterMap_append, h.routes, h.notify,
    h.closePath, hscan]

theorem follow (identifier : String) (target : Except RouteError Path) :
    other.follow identifier target = (router.follow identifier target).translate f := by
  cases target with
  | error e => rfl
  | ok path =>
    have happlied : f (.logged (.aliasApplied identifier path)) =
        some (.logged (.aliasApplied identifier path)) := h.work _ (by simp [EventKind.ofWork])
    simp only [Router.follow, Attempt.translate, List.filterMap_cons_some happlied, h.resolve]

theorem logAliasFailure (identifier : String) (error : RouteError) :
    other.logAliasFailure identifier error =
      (router.logAliasFailure identifier error).filterMap f := by
  cases error with
  | noRouteMatched path => rfl
  | _ => simp only [Router.logAliasFailure, List.filterMap_cons_some (h.aliasFailure _ _),
      List.filterMap_nil]

theorem closeAlias (identifier : String) (result : Except RouteError r.Value) :
    other.closeAlias identifier result = (router.closeAlias identifier result).filterMap f := by
  cases result with
  | ok value => exact h.notify _
  | error e =>
    rw [Router.closeAlias, Router.closeAlias, List.filterMap_append, h.logAliasFailure, h.notify]

theorem resolveAlias (identifier : String) (context : Datum) :
    other.resolveAlias identifier context =
      (router.resolveAlias identifier context).translate f := by
  have hruns := h.filterMap_eq_self (router.shownUnder_applyAlias identifier context) (by decide)
  have happlied : other.applyAlias identifier context = router.applyAlias identifier context := by
    rw [applyAlias, applyAlias, findAlias?, findAlias?, h.aliases]
  simp only [Router.resolveAlias, happlied, h.follow, h.closeAlias, h.notify, hruns,
    Attempt.translate, List.filterMap_append]

end Translates

end Router

end PathRouting
