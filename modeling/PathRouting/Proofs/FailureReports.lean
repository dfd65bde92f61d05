import PathRouting.Proofs.ResolutionEvents
import PathRouting.Proofs.SettingsIndependence

/-!
# Reports of failures

A failed attempt to resolve a path or an alias leaves one report in the log. The path of an alias is
reported when it is resolved, so the alias adds a report of its own only if it fails for another
reason.
-/

namespace PathRouting
set_option autoImplicit false

variable [UserTypes]

def LogEvent.reportsFailure : LogEvent → Bool
  | pathUnmatched _ _ _ => true
  | aliasUnresolved _ _ _ => true
  | _ => false

theorem LogEvent.reportsFailure_of_level_eq_warn {event : LogEvent} (h : event.level = .warn) :
    event.reportsFailure := by
  cases event with
  | pathUnmatched _ _ _ => rfl
  | aliasUnresolved _ _ _ => rfl
  | _ => cases h

/-- The report of a failure, for a router with some number of routes. -/
def RouteError.report (level : Level) (routes : Nat) : RouteError → LogEvent
  | .noRouteMatched path => .pathUnmatched level path routes
  | error => .aliasUnresolved level error.target error

def RouteError.of? {α : Type} : Except RouteError α → Option RouteError
  | .ok _ => none
  | .error error => some error

theorem RouteError.level_report (level : Level) (routes : Nat) (error : RouteError) :
    (error.report level routes).level = level := by
  cases error <;> rfl

namespace Trace

def reports (t : Trace) : List LogEvent := t.logs.filter LogEvent.reportsFailure

@[simp] theorem reports_nil : reports [] = [] := rfl

@[simp] theorem reports_append (t u : Trace) : (t ++ u).reports = t.reports ++ u.reports := by
  simp [reports, logs]

theorem ShownUnder.reports_eq_nil {observer : Option Observer} {kinds : List EventKind} {t : Trace}
    (h : t.ShownUnder observer kinds) (hkinds : .failure ∉ kinds) : t.reports = [] := by
  apply List.filter_eq_nil_iff.mpr
  intro event hevent
  have hkind := h.kind_mem_of_mem_logs hevent
  cases event with
  | pathUnmatched level path routes => exact absurd hkind hkinds
  | aliasUnresolved level identifier error => exact absurd hkind hkinds
  | _ => exact Bool.false_ne_true

def warnings (t : Trace) : List LogEvent := t.logs.filter fun event => event.level = .warn

@[simp] theorem warnings_append (t u : Trace) : (t ++ u).warnings = t.warnings ++ u.warnings := by
  simp [warnings, logs]

theorem warnings_eq_filter_reports (t : Trace) :
    t.warnings = t.reports.filter fun event => event.level = .warn := by
  rw [reports, List.filter_filter, warnings]
  apply List.filter_congr
  intro event _
  by_cases h : event.level = .warn
  · simp [h, LogEvent.reportsFailure_of_level_eq_warn h]
  · simp [h]

theorem reports_logged (event : LogEvent) (t : Trace) :
    reports (.logged event :: t) =
      if event.reportsFailure then event :: reports t else reports t := List.filter_cons

end Trace

def Reply.error? {r : DataType} : Reply r → Option RouteError
  | .resolved result => RouteError.of? result
  | _ => none

namespace Router
variable {r : DataType}

@[simp] theorem reports_notify (router : Router r) (notice : Notice) :
    (router.notify notice).reports = [] :=
  (router.shownUnder_notify notice).reports_eq_nil (by decide)

@[simp] theorem reports_offer (path : Path) (routes : List (Route r)) :
    (offer path routes).trace.reports = [] :=
  (shownUnder_offer path routes).reports_eq_nil (by decide)

theorem reports_applyAlias (router : Router r) (identifier : String) (context : Datum) :
    (router.applyAlias identifier context).trace.reports = [] :=
  (router.shownUnder_applyAlias identifier context).reports_eq_nil (by decide)

theorem reports_closePath_ok (router : Router r) (path : Path) (value : r.Value) :
    (router.closePath path (.ok value)).reports = [] := by
  rw [closePath, Trace.reports_logged, reports_notify]
  rfl

theorem reports_closePath_error (router : Router r) (path : Path) (error : RouteError) :
    (router.closePath path (.error error)).reports =
      [.pathUnmatched router.failureLevel path router.routeCount] := by
  rw [closePath, Trace.reports_logged, reports_notify]
  rfl

theorem reports_closeAlias_ok (router : Router r) (identifier : String) (value : r.Value) :
    (router.closeAlias identifier (.ok value)).reports = [] := router.reports_notify _

theorem reports_closeAlias_error (router : Router r) (identifier : String) (error : RouteError) :
    (router.closeAlias identifier (.error error)).reports =
      (router.logAliasFailure identifier error).reports := by
  rw [closeAlias, Trace.reports_append, reports_notify, List.append_nil]

/-- An error that no path fails with is reported for the alias that it names. -/
theorem reports_logAliasFailure (router : Router r) {error : RouteError}
    (h : ∀ path, error ≠ .noRouteMatched path) :
    (router.logAliasFailure error.target error).reports =
      [error.report router.failureLevel router.routeCount] := by
  cases error with
  | noRouteMatched path => exact absurd rfl (h path)
  | _ => rfl

/-- A path that is not resolved has no route; no other error comes out of a resolution of paths. -/
theorem result_resolve_cases (router : Router r) (path : Path) :
    (∃ value, (router.resolve path).result = .ok value) ∨
      (router.resolve path).result = .error (.noRouteMatched path) := by
  rcases router.resolve_cases path with ⟨_, _, _, _, -, -, -, hresult, -⟩ | ⟨-, hresult, -⟩
  · exact Or.inl ⟨_, hresult⟩
  · exact Or.inr hresult

theorem reports_resolve (router : Router r) (path : Path) :
    (router.resolve path).trace.reports =
      ((RouteError.of? (router.resolve path).result).map
        (RouteError.report router.failureLevel router.routeCount)).toList := by
  have hreports : (router.resolve path).trace.reports =
      (router.closePath path (router.resolve path).result).reports := by simp [resolve]
  rw [hreports]
  rcases router.result_resolve_cases path with ⟨value, hresult⟩ | hresult
  · rw [hresult, reports_closePath_ok]
    rfl
  · rw [hresult, reports_closePath_error]
    rfl

/-- An alias does not report again what its path has reported. -/
theorem reports_resolveAlias_of_applied {router : Router r} {identifier : String} {context : Datum}
    {target : Path} {runs : Trace} (h : router.applyAlias identifier context = ⟨.ok target, runs⟩) :
    (router.resolveAlias identifier context).trace.reports =
      (router.resolve target).trace.reports := by
  have hruns : runs.reports = [] := by
    have happlied := router.reports_applyAlias identifier context
    rwa [h] at happlied
  -- The path has either a result or the one error that the alias is silent about.
  have hclosed : (router.closeAlias identifier (router.resolve target).result).reports = [] := by
    rcases router.result_resolve_cases target with ⟨value, hresult⟩ | hresult
    · rw [hresult, reports_closeAlias_ok]
    · rw [hresult, reports_closeAlias_error]
      rfl
  simp only [resolveAlias, h, follow, Trace.reports_append, reports_notify, hruns, hclosed,
    List.nil_append, List.append_nil]
  rfl

theorem reports_resolveAlias_of_not_applied {router : Router r} {identifier : String}
    {context : Datum} {error : RouteError} {runs : Trace}
    (h : router.applyAlias identifier context = ⟨.error error, runs⟩) :
    (router.resolveAlias identifier context).trace.reports =
      (router.logAliasFailure identifier error).reports := by
  have hruns : runs.reports = [] := by
    have happlied := router.reports_applyAlias identifier context
    rwa [h] at happlied
  simp only [resolveAlias, h, follow, Trace.reports_append, reports_notify, hruns,
    reports_closeAlias_error, Trace.reports_nil, List.nil_append]

/-- Resolving an alias reports a failure once: that of its path, or its own. -/
theorem reports_resolveAlias (router : Router r) (identifier : String) (context : Datum) :
    (router.resolveAlias identifier context).trace.reports =
      ((RouteError.of? (router.resolveAlias identifier context).result).map
        (RouteError.report router.failureLevel router.routeCount)).toList := by
  cases happlied : router.applyAlias identifier context with
  | mk result runs =>
    cases result with
    | ok target =>
      rw [reports_resolveAlias_of_applied happlied, (resolveAlias_of_applied happlied).1,
        reports_resolve]
    | error error =>
      obtain ⟨rfl, hown⟩ := error_of_applyAlias (congrArg Attempt.result happlied)
      rw [reports_resolveAlias_of_not_applied happlied, (resolveAlias_of_not_applied happlied).1,
        router.reports_logAliasFailure hown]
      rfl

theorem reports_take (router : Router r) (action : Action r) :
    (router.take action).trace.reports =
      ((router.take action).reply.error?.map
        (RouteError.report router.failureLevel router.routeCount)).toList := by
  cases action with
  | add route => rfl
  | addPath types template handler =>
    simp only [take, addPath]
    cases Template.parse types template with
    | error e => rfl
    | ok t => rfl
  | addAlias entry =>
    exact (router.shownUnder_addAlias entry).reports_eq_nil (by decide)
  | observe new =>
    exact (router.shownUnder_observe new).reports_eq_nil (by decide)
  | resolve path => exact router.reports_resolve path
  | resolveAlias identifier context => exact router.reports_resolveAlias identifier context
  | _ => rfl

theorem warnings_take (router : Router r) (action : Action r) :
    (router.take action).trace.warnings =
      if router.config.logging.logUnmatched then
        ((router.take action).reply.error?.map
          (RouteError.report .warn router.routeCount)).toList
      else [] := by
  rw [Trace.warnings_eq_filter_reports, reports_take]
  unfold failureLevel
  cases (router.take action).reply.error? with
  | none => split <;> rfl
  | some error => split <;> simp [RouteError.level_report]

/-- A run warns as often as it replies with a failure, or never, as its router is set. -/
theorem length_warnings_run (router : Router r) (actions : List (Action r)) :
    (Trace.warnings ((router.run actions).flatMap Prod.snd)).length =
      if router.config.logging.logUnmatched then
        (router.run actions).countP fun step => step.1.error?.isSome
      else 0 := by
  induction actions generalizing router with
  | nil => split <;> rfl
  | cons action actions ih =>
    rw [run, List.flatMap_cons, Trace.warnings_append, List.length_append, ih, config_take,
      warnings_take, List.countP_cons]
    split
    · cases (router.take action).reply.error? with
      | none => simp
      | some error => simp [Nat.add_comm]
    · rfl

theorem isResolution_of_error? {router : Router r} {action : Action r} {error : RouteError}
    (h : (router.take action).reply.error? = some error) : action.IsResolution := by
  cases action with
  | addPath types template handler =>
    simp only [take] at h
    cases hadd : router.addPath types template handler with
    | error e => simp [hadd, Reply.error?] at h
    | ok after => simp [hadd, Reply.error?] at h
  | resolve path => trivial
  | resolveAlias identifier context => trivial
  | _ => cases h

end Router

theorem Creation.warnings_start {r : DataType} (creation : Creation) :
    (creation.start : Router r × Trace).2.warnings = [] := by
  have hreports := (Router.shownUnder_start (r := r) creation).reports_eq_nil (by decide)
  rw [Trace.warnings_eq_filter_reports, hreports, List.filter_nil]

namespace Router
variable {r : DataType}

/-- Each failed attempt to resolve something is warned about once, if the settings say so. They
change nothing else but the level of these reports. -/
theorem failures_are_warned_about_once :
    (∀ (router : Router r) (action : Action r),
      (router.take action).trace.warnings =
        if router.config.logging.logUnmatched then
          ((router.take action).reply.error?.map
            (RouteError.report .warn router.routeCount)).toList
        else []) ∧
    (∀ (router : Router r) (action : Action r) (error : RouteError),
      (router.take action).reply.error? = some error → action.IsResolution) ∧
    (∀ creation : Creation, (creation.start : Router r × Trace).2.warnings = []) ∧
    (∀ (router : Router r) (actions : List (Action r)),
      (Trace.warnings ((router.run actions).flatMap Prod.snd)).length =
        if router.config.logging.logUnmatched then
          (router.run actions).countP fun step => step.1.error?.isSome
        else 0) ∧
    (∀ creation other : Creation, creation.silenced = other.silenced →
      (other.start : Router r × Trace).2 = (creation.start : Router r × Trace).2 ∧
      ∀ actions : List (Action r), other.start.1.run actions =
        (creation.start.1.run actions).map fun step =>
          (step.1.withSettings (other.start : Router r × Trace).1.config,
            step.2.atLevel (other.start : Router r × Trace).1.failureLevel)) ∧
    ∀ config other : Config, config.logging.logUnmatched = other.logging.logUnmatched →
      ∀ actions : List (Action r), (withConfig other).run actions =
        ((withConfig config).run actions).map fun step => (step.1.withSettings other, step.2) := by
  refine ⟨warnings_take, fun _ _ _ => isResolution_of_error?, Creation.warnings_start,
    length_warnings_run, ?sessions, ?settings⟩
  case sessions =>
    intro creation other h
    have hstart := Creation.start_of_silenced_eq (r := r) h
    have htrace := congrArg Prod.snd hstart
    have hrouter := congrArg Prod.fst hstart
    refine ⟨htrace, ?_⟩
    intro actions
    rw [hrouter]
    exact run_withSettings _ _ actions
  case settings =>
    intro config other h actions
    have hlevel : (withConfig other : Router r).failureLevel =
        (withConfig config : Router r).failureLevel :=
      congrArg (fun warned : Bool => if warned then Level.warn else Level.debug) h.symm
    exact (withConfig config : Router r).run_withSettings_of_failureLevel_eq other hlevel actions

end Router

end PathRouting
