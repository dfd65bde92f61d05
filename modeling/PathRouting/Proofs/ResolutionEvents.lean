import PathRouting.Proofs.RouteScan

/-!
# Events of one resolution

Log lines apart, resolving a path shows what the observer does when the attempt starts, the run of the
handler that answers if there is one, and what the observer does when the attempt ends. Resolving an
alias shows the same around the run of its rule and, if the rule gave a path, around all that
resolving this path shows.
-/

namespace PathRouting
set_option autoImplicit false

variable [UserTypes]

namespace Event

def ruleRun? : Event → Option (String × Datum)
  | ruleRan identifier context _ => some (identifier, context)
  | _ => none

end Event

namespace Notice
variable {α : Type}

/-- What the observer is told when a path has been resolved. -/
def matchClosed (path : Path) : Except RouteError α → Notice
  | .ok _ => .matchSucceeded path
  | .error _ => .matchFailed path

def aliasClosed (identifier : String) : Except RouteError α → Notice
  | .ok _ => .aliasSucceeded identifier
  | .error error => .aliasFailed identifier error

end Notice

namespace Trace

/-- What observers and the users' functions do: all events but log lines. -/
def withoutLog (t : Trace) : Trace := t.filter fun event => event.log?.isNone

@[simp] theorem withoutLog_nil : withoutLog [] = [] := rfl

@[simp] theorem withoutLog_append (t u : Trace) :
    (t ++ u).withoutLog = t.withoutLog ++ u.withoutLog := List.filter_append t u

@[simp] theorem withoutLog_logged (event : LogEvent) (t : Trace) :
    withoutLog (.logged event :: t) = withoutLog t := rfl

@[simp] theorem withoutLog_handlerRan (label : String) (arguments : Arguments) (t : Trace) :
    withoutLog (.handlerRan label arguments :: t) = .handlerRan label arguments :: withoutLog t := rfl

@[simp] theorem withoutLog_ruleRan (identifier : String) (context : Datum) (quiet : Bool) (t : Trace) :
    withoutLog (.ruleRan identifier context quiet :: t) =
      .ruleRan identifier context quiet :: withoutLog t := rfl

def ruleRuns (t : Trace) : List (String × Datum) := t.filterMap Event.ruleRun?

@[simp] theorem ruleRuns_nil : ruleRuns [] = [] := rfl

@[simp] theorem ruleRuns_append (t u : Trace) : ruleRuns (t ++ u) = ruleRuns t ++ ruleRuns u :=
  List.filterMap_append

namespace ShownUnder
variable {observer : Option Observer} {kinds : List EventKind} {t : Trace}
  (h : t.ShownUnder observer kinds)
include h

theorem withoutLog_eq_nil (hkinds : ∀ kind ∈ kinds, kind.isLogged) : t.withoutLog = [] := by
  apply List.filter_eq_nil_iff.mpr
  intro event hevent
  rw [event.isNone_log?, hkinds _ (h event hevent).1]
  exact Bool.false_ne_true

theorem withoutLog_eq_self (hkinds : ∀ kind ∈ kinds, ¬kind.isLogged) : t.withoutLog = t := by
  apply List.filter_eq_self.mpr
  intro event hevent
  rw [event.isNone_log?, Bool.eq_false_iff.mpr (hkinds _ (h event hevent).1)]
  rfl

theorem ruleRuns_eq_nil (hkinds : .ruleRun ∉ kinds) : t.ruleRuns = [] := by
  apply List.filterMap_eq_nil_iff.mpr
  intro event hevent
  cases event with
  | ruleRan identifier context quiet => exact absurd (h _ hevent).1 hkinds
  | _ => rfl

end ShownUnder

end Trace

theorem Route.withoutLog_rejections {r : DataType} (path : Path) (routes : List (Route r)) :
    Trace.withoutLog (routes.filterMap (rejection? path)) = [] :=
  (shownUnder_rejections path routes).withoutLog_eq_nil (by decide)

theorem AliasEntry.apply_of_type_ne {entry : AliasEntry} {context : Datum}
    (h : entry.handle.context ≠ context.type) :
    entry.apply context =
      ⟨.error (.aliasContextMismatch entry.identifier entry.handle.context.name), []⟩ := by
  rw [apply, dif_neg h.symm]

theorem AliasEntry.apply_of_type_eq (entry : AliasEntry) (value : entry.handle.context.Value) :
    entry.apply ⟨entry.handle.context, value⟩ =
      { result := match entry.rule value with
          | some path => .ok path
          | none => .error (.aliasContextRejected entry.identifier)
        trace := [.ruleRan entry.identifier ⟨entry.handle.context, value⟩ entry.quiet] } := by
  unfold apply
  exact dif_pos rfl

namespace Router
variable {r : DataType} {router : Router r} {path : Path} {identifier : String}

@[simp] theorem withoutLog_notify (router : Router r) (notice : Notice) :
    (router.notify notice).withoutLog = router.notify notice :=
  (router.shownUnder_notify notice).withoutLog_eq_self (by decide)

@[simp] theorem withoutLog_closePath (router : Router r) (path : Path)
    (result : Except RouteError r.Value) :
    (router.closePath path result).withoutLog = router.notify (.matchClosed path result) := by
  cases result with
  | ok value => simp [closePath, Notice.matchClosed]
  | error e => simp [closePath, Notice.matchClosed]

@[simp] theorem handlerRuns_applyAlias (router : Router r) (identifier : String) (context : Datum) :
    (router.applyAlias identifier context).trace.handlerRuns = [] :=
  (router.shownUnder_applyAlias identifier context).handlerRuns_eq_nil (by decide)

@[simp] theorem handlerRuns_closeAlias (router : Router r) (identifier : String)
    (result : Except RouteError r.Value) : (router.closeAlias identifier result).handlerRuns = [] :=
  (router.shownUnder_closeAlias identifier result).handlerRuns_eq_nil (by decide)

@[simp] theorem withoutLog_logAliasFailure (router : Router r) (identifier : String)
    (error : RouteError) : (router.logAliasFailure identifier error).withoutLog = [] :=
  (router.shownUnder_logAliasFailure identifier error).withoutLog_eq_nil (by decide)

@[simp] theorem withoutLog_closeAlias (router : Router r) (identifier : String)
    (result : Except RouteError r.Value) :
    (router.closeAlias identifier result).withoutLog =
      router.notify (.aliasClosed identifier result) := by
  cases result with
  | ok value => simp [closeAlias, Notice.aliasClosed]
  | error e => simp [closeAlias, Notice.aliasClosed]

theorem withoutLog_resolve (router : Router r) (path : Path) :
    (router.resolve path).trace.withoutLog =
      router.notify (.matchStarted path) ++ (offer path router.routes.reverse).trace.withoutLog ++
        router.notify (.matchClosed path (router.resolve path).result) := by
  simp [resolve]

/-- A path is answered by the handler of the newest route that accepts it, or by none. -/
theorem resolve_cases (router : Router r) (path : Path) :
    (∃ older route newer values, router.routes = older ++ route :: newer ∧
      (∀ other ∈ newer, ¬other.Accepts path) ∧ route.template.tryMatch path = .ok values ∧
      (router.resolve path).result = .ok (route.handler.run values) ∧
      (router.resolve path).trace.withoutLog =
        router.notify (.matchStarted path) ++
          .handlerRan route.handler.label ⟨route.types, values⟩ ::
            router.notify (.matchSucceeded path)) ∨
    ((∀ route ∈ router.routes, ¬route.Accepts path) ∧
      (router.resolve path).result = .error (.noRouteMatched path) ∧
      (router.resolve path).trace.withoutLog =
        router.notify (.matchStarted path) ++ router.notify (.matchFailed path)) := by
  rcases Route.newest_accepting_or_rejected router.routes path with
    ⟨older, route, newer, values, hroutes, hnewer, hmatch⟩ | hrejected
  · left
    have hresult := (resolve_of_newest_accepting hroutes hnewer hmatch).1
    refine ⟨older, route, newer, values, hroutes, hnewer, hmatch, hresult, ?_⟩
    rw [withoutLog_resolve, hresult, hroutes, offer_of_newest_accepting older hnewer hmatch,
      Trace.withoutLog_append, Route.withoutLog_rejections]
    simp [Notice.matchClosed]
  · right
    have hresult := (resolve_of_rejected hrejected).1
    refine ⟨hrejected, hresult, ?_⟩
    rw [withoutLog_resolve, hresult, offer_of_rejected (rejected_reverse hrejected),
      Route.withoutLog_rejections]
    simp [Notice.matchClosed]

theorem identifier_of_findAlias? {entry : AliasEntry}
    (h : router.findAlias? identifier = some entry) : entry.identifier = identifier := by
  have hfound := List.find?_some h
  exact of_decide_eq_true hfound

theorem applyAlias_of_unknown (h : router.findAlias? identifier = none) (context : Datum) :
    router.applyAlias identifier context = ⟨.error (.aliasNotFound identifier), []⟩ := by
  rw [applyAlias, h]

theorem applyAlias_of_type_ne {entry : AliasEntry} {context : Datum}
    (h : router.findAlias? identifier = some entry) (htype : entry.handle.context ≠ context.type) :
    router.applyAlias identifier context =
      ⟨.error (.aliasContextMismatch identifier entry.handle.context.name), []⟩ := by
  obtain rfl := identifier_of_findAlias? h
  rw [applyAlias, h]
  exact AliasEntry.apply_of_type_ne htype

theorem applyAlias_of_refused {entry : AliasEntry} {value : entry.handle.context.Value}
    (h : router.findAlias? identifier = some entry) (hrule : entry.rule value = none) :
    router.applyAlias identifier ⟨entry.handle.context, value⟩ =
      ⟨.error (.aliasContextRejected identifier),
        [.ruleRan identifier ⟨entry.handle.context, value⟩ entry.quiet]⟩ := by
  obtain rfl := identifier_of_findAlias? h
  rw [applyAlias, h]
  simp only [AliasEntry.apply_of_type_eq, hrule]

theorem applyAlias_of_accepted {entry : AliasEntry} {value : entry.handle.context.Value}
    {target : Path} (h : router.findAlias? identifier = some entry)
    (hrule : entry.rule value = some target) :
    router.applyAlias identifier ⟨entry.handle.context, value⟩ =
      ⟨.ok target, [.ruleRan identifier ⟨entry.handle.context, value⟩ entry.quiet]⟩ := by
  obtain rfl := identifier_of_findAlias? h
  rw [applyAlias, h]
  simp only [AliasEntry.apply_of_type_eq, hrule]

/-- Applying an alias finds none, or one for another type of contexts, or runs the rule of the one it
finds, which gives a path or does not. -/
theorem applyAlias_cases (router : Router r) (identifier : String) (context : Datum) :
    (router.findAlias? identifier = none ∧
      router.applyAlias identifier context = ⟨.error (.aliasNotFound identifier), []⟩) ∨
    ∃ entry, router.findAlias? identifier = some entry ∧
      ((entry.handle.context ≠ context.type ∧ router.applyAlias identifier context =
        ⟨.error (.aliasContextMismatch identifier entry.handle.context.name), []⟩) ∨
      ∃ value, context = ⟨entry.handle.context, value⟩ ∧
        ((entry.rule value = none ∧ router.applyAlias identifier context =
          ⟨.error (.aliasContextRejected identifier), [.ruleRan identifier context entry.quiet]⟩) ∨
        ∃ target, entry.rule value = some target ∧ router.applyAlias identifier context =
          ⟨.ok target, [.ruleRan identifier context entry.quiet]⟩)) := by
  cases hfind : router.findAlias? identifier with
  | none => exact Or.inl ⟨rfl, applyAlias_of_unknown hfind context⟩
  | some entry =>
    refine Or.inr ⟨entry, rfl, ?_⟩
    by_cases htype : entry.handle.context = context.type
    · right
      obtain ⟨type, value⟩ := context
      subst htype
      refine ⟨value, rfl, ?_⟩
      cases hrule : entry.rule value with
      | none => exact Or.inl ⟨rfl, applyAlias_of_refused hfind hrule⟩
      | some target => exact Or.inr ⟨target, rfl, applyAlias_of_accepted hfind hrule⟩
    · exact Or.inl ⟨htype, applyAlias_of_type_ne hfind htype⟩

/-- The error of an alias that gives no path names the alias, and is none that a path fails with. -/
theorem error_of_applyAlias {context : Datum} {error : RouteError}
    (h : (router.applyAlias identifier context).result = .error error) :
    error.target = identifier ∧ ∀ path, error ≠ .noRouteMatched path := by
  rcases router.applyAlias_cases identifier context with
    ⟨-, happlied⟩ | ⟨_, -, ⟨-, happlied⟩ | ⟨_, -, ⟨-, happlied⟩ | ⟨_, -, happlied⟩⟩⟩
  all_goals
    rw [happlied] at h
    cases h
  all_goals exact ⟨rfl, nofun⟩

/-- An alias that gives a path is resolved as that path is. -/
theorem resolveAlias_of_applied {context : Datum} {target : Path} {runs : Trace}
    (h : router.applyAlias identifier context = ⟨.ok target, runs⟩) :
    (router.resolveAlias identifier context).result = (router.resolve target).result ∧
      (router.resolveAlias identifier context).trace.withoutLog =
        router.notify (.aliasStarted identifier) ++ runs.withoutLog ++
          (router.resolve target).trace.withoutLog ++
            router.notify (.aliasClosed identifier (router.resolve target).result) := by
  unfold resolveAlias
  simp [h, follow]

/-- An alias that gives no path fails for the same reason, and nothing is resolved. -/
theorem resolveAlias_of_not_applied {context : Datum} {error : RouteError} {runs : Trace}
    (h : router.applyAlias identifier context = ⟨.error error, runs⟩) :
    (router.resolveAlias identifier context).result = .error error ∧
      (router.resolveAlias identifier context).trace.withoutLog =
        router.notify (.aliasStarted identifier) ++ runs.withoutLog ++
          router.notify (.aliasFailed identifier error) := by
  unfold resolveAlias
  simp [h, follow, Notice.aliasClosed]

theorem result_resolveAlias (router : Router r) (identifier : String) (context : Datum) :
    (router.resolveAlias identifier context).result =
      (router.follow identifier (router.applyAlias identifier context).result).result := rfl

theorem handlerRuns_resolveAlias (router : Router r) (identifier : String) (context : Datum) :
    (router.resolveAlias identifier context).trace.handlerRuns =
      (router.follow identifier (router.applyAlias identifier context).result).trace.handlerRuns := by
  simp [resolveAlias]

theorem ruleRuns_resolveAlias (router : Router r) (identifier : String) (context : Datum) :
    (router.resolveAlias identifier context).trace.ruleRuns =
      (router.applyAlias identifier context).trace.ruleRuns := by
  have hstarted :=
    (router.shownUnder_notify (.aliasStarted identifier)).ruleRuns_eq_nil (by decide)
  have hfollowed (target : Except RouteError Path) :=
    (router.shownUnder_follow identifier target).ruleRuns_eq_nil (by decide)
  have hclosed (result : Except RouteError r.Value) :=
    (router.shownUnder_closeAlias identifier result).ruleRuns_eq_nil (by decide)
  simp [resolveAlias, hstarted, hfollowed, hclosed]

end Router

end PathRouting
