import PathRouting.Proofs.EventBlocks
import PathRouting.Proofs.ObserverIndependence

/-!
# Accounts of resolutions

Under the metrics observer each attempt to resolve something is counted once, with its outcome, and
timed once. The path that an alias gives is an attempt of its own, and comes before that of the
alias. Nothing else is measured. So over a run the counts and the samples agree, and no more aliases
than paths are counted as matched, or as without a route.
-/

namespace PathRouting
set_option autoImplicit false

def Outcome.of {α : Type} : Except RouteError α → Outcome
  | .ok _ => .matched
  | .error error => error.outcome

namespace Measurement

/-- The records of one attempt. -/
def pair (kind : ResolutionKind) (outcome : Outcome) : List Measurement :=
  [.counted kind outcome, .timed kind]

/-- The record is a step of the counter of a kind, with any outcome. -/
def counts (kind : ResolutionKind) : Measurement → Bool
  | counted k _ => k = kind
  | timed _ => false

/-- Records that account for a number of paths that were resolved for themselves and a number of
paths that aliases gave. -/
structure Balanced (paths aliasPaths : Nat) (records : List Measurement) : Prop where
  attempts : records.countP (counts .ofPath) = paths + aliasPaths
  matched : records.count (.counted .ofAlias .matched) ≤ records.count (.counted .ofPath .matched)
  noRoute : records.count (.counted .ofAlias .noRoute) ≤ records.count (.counted .ofPath .noRoute)
  samples : ∀ kind, records.count (.timed kind) = records.countP (counts kind)

namespace Balanced

theorem nil : Balanced 0 0 [] := ⟨rfl, Nat.le_refl _, Nat.le_refl _, fun _ => rfl⟩

theorem append {m n m' n' : Nat} {records others : List Measurement} (h : Balanced m n records)
    (h' : Balanced m' n' others) : Balanced (m + m') (n + n') (records ++ others) := by
  constructor
  · rw [List.countP_append, h.attempts, h'.attempts]
    omega
  · rw [List.count_append, List.count_append]
    exact Nat.add_le_add h.matched h'.matched
  · rw [List.count_append, List.count_append]
    exact Nat.add_le_add h.noRoute h'.noRoute
  · intro kind
    rw [List.count_append, List.countP_append, h.samples, h'.samples]

theorem path (outcome : Outcome) : Balanced 1 0 (pair .ofPath outcome) := by
  constructor
  · rfl
  · exact Nat.zero_le _
  · exact Nat.zero_le _
  · intro kind
    cases kind <;> rfl

theorem aliasOnly {outcome : Outcome} (hmatched : outcome ≠ .matched)
    (hnoRoute : outcome ≠ .noRoute) : Balanced 0 0 (pair .ofAlias outcome) := by
  constructor
  · rfl
  · simp [pair, hmatched]
  · simp [pair, hnoRoute]
  · intro kind
    cases kind <;> rfl

theorem aliasPath (outcome : Outcome) :
    Balanced 0 1 (pair .ofPath outcome ++ pair .ofAlias outcome) := by
  constructor
  · rfl
  · cases outcome <;> decide
  · cases outcome <;> decide
  · intro kind
    cases kind <;> rfl

end Balanced

end Measurement

variable [UserTypes]

namespace Trace

@[simp] theorem measurements_append (t u : Trace) :
    (t ++ u).measurements = t.measurements ++ u.measurements := List.filterMap_append

theorem measurements_withoutLog (t : Trace) : t.withoutLog.measurements = t.measurements := by
  induction t with
  | nil => rfl
  | cons event t ih =>
    cases event with
    | measured m => exact congrArg (List.cons m) ih
    | _ => exact ih

theorem measurements_of_onlyFrom {t : Trace} {observer : Option Observer} (h : t.OnlyFrom observer)
    (hother : observer ≠ some .metrics) : t.measurements = [] := by
  apply List.filterMap_eq_nil_iff.mpr
  intro event hevent
  cases event with
  | measured m => exact absurd (h _ hevent .metrics rfl) hother
  | _ => rfl

end Trace

namespace Router
variable {r : DataType} {router : Router r}

theorem notify_of_metrics (h : router.observer = some .metrics) (notice : Notice) :
    router.notify notice = Observer.metrics.react notice := by
  rw [notify, h]

/-- The path that the rule of an alias gives for a context, if it runs and gives one. -/
def target? (router : Router r) (identifier : String) (context : Datum) : Option Path :=
  (router.applyAlias identifier context).result.toOption

theorem target?_eq_some_iff_result {identifier : String} {context : Datum} {target : Path} :
    router.target? identifier context = some target ↔
      (router.applyAlias identifier context).result = .ok target := by
  unfold target?
  cases (router.applyAlias identifier context).result with
  | ok found => simp [Except.toOption]
  | error e => simp [Except.toOption]

theorem target?_eq_none_iff_result {identifier : String} {context : Datum} :
    router.target? identifier context = none ↔
      ∃ error, (router.applyAlias identifier context).result = .error error := by
  unfold target?
  cases (router.applyAlias identifier context).result with
  | ok found => simp [Except.toOption]
  | error e => simp [Except.toOption]

theorem target?_eq_some_iff {identifier : String} {context : Datum} {target : Path} :
    router.target? identifier context = some target ↔
      ∃ entry value, router.findAlias? identifier = some entry ∧
        context = ⟨entry.handle.context, value⟩ ∧ entry.rule value = some target := by
  rw [target?_eq_some_iff_result]
  constructor
  · intro h
    rcases router.applyAlias_cases identifier context with
      ⟨-, happlied⟩ | ⟨entry, hentry, ⟨-, happlied⟩ | ⟨value, hcontext, ⟨-, happlied⟩ |
        ⟨found, hrule, happlied⟩⟩⟩
    all_goals
      rw [happlied] at h
      cases h
    exact ⟨entry, value, hentry, hcontext, hrule⟩
  · rintro ⟨entry, value, hentry, rfl, hrule⟩
    rw [applyAlias_of_accepted hentry hrule]

theorem outcome_resolve (router : Router r) (path : Path) :
    Outcome.of (router.resolve path).result =
      if (router.resolve path).result.isOk then .matched else .noRoute := by
  rcases router.resolve_cases path with ⟨_, _, _, _, -, -, -, hresult, -⟩ | ⟨-, hresult, -⟩
  · rw [hresult]
    rfl
  · rw [hresult]
    rfl

theorem measurements_resolve (h : router.observer = some .metrics) (path : Path) :
    (router.resolve path).trace.measurements =
      Measurement.pair .ofPath (Outcome.of (router.resolve path).result) := by
  rw [← Trace.measurements_withoutLog]
  rcases router.resolve_cases path with
    ⟨_, _, _, _, -, -, -, hresult, htrace⟩ | ⟨-, hresult, htrace⟩
  · rw [htrace, hresult, notify_of_metrics h, notify_of_metrics h]
    rfl
  · rw [htrace, hresult, notify_of_metrics h, notify_of_metrics h]
    rfl

theorem measurements_applyAlias (router : Router r) (identifier : String) (context : Datum) :
    (router.applyAlias identifier context).trace.measurements = [] :=
  Trace.measurements_of_onlyFrom
    (router.shownUnder_applyAlias identifier context).onlyFrom nofun

theorem measurements_aliasStarted (h : router.observer = some .metrics) (identifier : String) :
    Trace.measurements (router.notify (.aliasStarted identifier)) = [] := by
  rw [notify_of_metrics h]
  rfl

theorem measurements_aliasClosed (h : router.observer = some .metrics) (identifier : String)
    (result : Except RouteError r.Value) :
    Trace.measurements (router.notify (.aliasClosed identifier result)) =
      Measurement.pair .ofAlias (Outcome.of result) := by
  rw [notify_of_metrics h]
  cases result with
  | ok value => rfl
  | error e => rfl

/-- An alias that gives a path is measured after that path, and with the same outcome. -/
theorem measurements_resolveAlias_of_target (h : router.observer = some .metrics)
    {identifier : String} {context : Datum} {target : Path}
    (htarget : router.target? identifier context = some target) :
    (router.resolveAlias identifier context).result = (router.resolve target).result ∧
      (router.resolveAlias identifier context).trace.measurements =
        (router.resolve target).trace.measurements ++
          Measurement.pair .ofAlias (Outcome.of (router.resolve target).result) := by
  have hruns := router.measurements_applyAlias identifier context
  rw [target?_eq_some_iff_result] at htarget
  cases happlied : router.applyAlias identifier context with
  | mk result runs =>
    rw [happlied] at htarget hruns
    obtain rfl : result = .ok target := htarget
    obtain ⟨hresult, htrace⟩ := resolveAlias_of_applied happlied
    refine ⟨hresult, ?_⟩
    rw [← Trace.measurements_withoutLog, htrace]
    simp only [Trace.measurements_append, Trace.measurements_withoutLog, hruns,
      measurements_aliasStarted h, measurements_aliasClosed h, List.nil_append]

theorem measurements_resolveAlias_of_no_target (h : router.observer = some .metrics)
    {identifier : String} {context : Datum} (htarget : router.target? identifier context = none) :
    (router.resolveAlias identifier context).trace.measurements =
      Measurement.pair .ofAlias (Outcome.of (router.resolveAlias identifier context).result) := by
  have hruns := router.measurements_applyAlias identifier context
  obtain ⟨error, herror⟩ := target?_eq_none_iff_result.mp htarget
  cases happlied : router.applyAlias identifier context with
  | mk result runs =>
    rw [happlied] at herror hruns
    obtain rfl : result = .error error := herror
    obtain ⟨hresult, htrace⟩ := resolveAlias_of_not_applied happlied
    have hclosed := measurements_aliasClosed h identifier (.error error : Except RouteError r.Value)
    rw [← Trace.measurements_withoutLog, htrace, hresult, ← hclosed]
    simp only [Trace.measurements_append, Trace.measurements_withoutLog, hruns,
      measurements_aliasStarted h, List.nil_append]
    rfl

theorem measurements_take_of_not_metrics (h : router.observer ≠ some .metrics)
    (action : Action r) : (router.take action).trace.measurements = [] :=
  Trace.measurements_of_onlyFrom (router.shownUnder_take action).onlyFrom h

theorem measurements_take_of_not_isResolution {action : Action r} (h : ¬action.IsResolution) :
    (router.take action).trace.measurements = [] := by
  rw [← Trace.measurements_withoutLog, withoutLog_take_of_not_isResolution h]
  rfl

def measured (router : Router r) (actions : List (Action r)) : List Measurement :=
  Trace.measurements ((router.run actions).flatMap Prod.snd)

theorem measured_cons (router : Router r) (action : Action r) (actions : List (Action r)) :
    router.measured (action :: actions) =
      (router.take action).trace.measurements ++ (router.take action).router.measured actions :=
  Trace.measurements_append _ _

/-- The actions of a run, each with the router that takes it. -/
def history (router : Router r) : List (Action r) → List (Router r × Action r)
  | [] => []
  | action :: rest => (router, action) :: (router.take action).router.history rest

theorem getElem?_history (router : Router r) (actions : List (Action r)) (i : Nat) :
    (router.history actions)[i]? =
      actions[i]?.map fun action => (router.after (actions.take i), action) := by
  induction actions generalizing router i with
  | nil => rfl
  | cons action actions ih =>
    cases i with
    | zero => rfl
    | succ i => exact ih (router.take action).router i

/-- The action resolves a path under the metrics observer. -/
def pathUnderMetrics (router : Router r) : Action r → Bool
  | .resolve _ => router.observer = some .metrics
  | _ => false

/-- The action resolves an alias under the metrics observer, and its rule gives a path. -/
def aliasPathUnderMetrics (router : Router r) : Action r → Bool
  | .resolveAlias identifier context =>
    router.observer = some .metrics ∧ (router.target? identifier context).isSome
  | _ => false

theorem counts_of_not_metrics (h : router.observer ≠ some .metrics) (action : Action r) :
    router.pathUnderMetrics action = false ∧ router.aliasPathUnderMetrics action = false := by
  cases action with
  | resolve path => simp [pathUnderMetrics, aliasPathUnderMetrics, h]
  | resolveAlias identifier context => simp [pathUnderMetrics, aliasPathUnderMetrics, h]
  | _ => exact ⟨rfl, rfl⟩

theorem counts_of_not_isResolution (router : Router r) {action : Action r}
    (h : ¬action.IsResolution) :
    router.pathUnderMetrics action = false ∧ router.aliasPathUnderMetrics action = false := by
  cases action with
  | resolve path => exact absurd trivial h
  | resolveAlias identifier context => exact absurd trivial h
  | _ => exact ⟨rfl, rfl⟩

/-- An alias that gives no path fails in a way that no path does. -/
theorem outcome_of_no_target {identifier : String} {context : Datum}
    (h : router.target? identifier context = none) :
    Outcome.of (router.resolveAlias identifier context).result ≠ .matched ∧
      Outcome.of (router.resolveAlias identifier context).result ≠ .noRoute := by
  obtain ⟨error, herror⟩ := target?_eq_none_iff_result.mp h
  have hown := (error_of_applyAlias herror).2
  rw [result_resolveAlias, herror]
  cases error with
  | noRouteMatched path => exact absurd rfl (hown path)
  | _ => exact ⟨nofun, nofun⟩

theorem balanced_take (router : Router r) (action : Action r) :
    Measurement.Balanced (if router.pathUnderMetrics action then 1 else 0)
      (if router.aliasPathUnderMetrics action then 1 else 0)
      (router.take action).trace.measurements := by
  -- Only a resolution under the metrics observer adds to either side.
  by_cases hmetrics : router.observer = some .metrics
  · by_cases hresolution : action.IsResolution
    · cases action with
      | resolve path =>
        have hpath : router.pathUnderMetrics (.resolve path) = true := decide_eq_true hmetrics
        have hrecords : (router.take (.resolve path)).trace.measurements = _ :=
          measurements_resolve hmetrics path
        rw [hrecords, if_pos hpath]
        exact .path _
      | resolveAlias identifier context =>
        have hrecords : (router.take (.resolveAlias identifier context)).trace.measurements =
          (router.resolveAlias identifier context).trace.measurements := rfl
        rw [hrecords]
        cases htarget : router.target? identifier context with
        | none =>
          obtain ⟨hmatched, hnoRoute⟩ := outcome_of_no_target htarget
          have halias : ¬router.aliasPathUnderMetrics (.resolveAlias identifier context) := by
            simp [aliasPathUnderMetrics, htarget]
          rw [measurements_resolveAlias_of_no_target hmetrics htarget, if_neg halias]
          exact .aliasOnly hmatched hnoRoute
        | some target =>
          have halias : router.aliasPathUnderMetrics (.resolveAlias identifier context) := by
            simp [aliasPathUnderMetrics, htarget, hmetrics]
          rw [(measurements_resolveAlias_of_target hmetrics htarget).2,
            measurements_resolve hmetrics target, if_pos halias]
          exact .aliasPath _
      | _ => exact hresolution.elim
    · obtain ⟨hpath, halias⟩ := router.counts_of_not_isResolution hresolution
      rw [hpath, halias, measurements_take_of_not_isResolution hresolution]
      exact .nil
  · obtain ⟨hpath, halias⟩ := counts_of_not_metrics hmetrics action
    rw [hpath, halias, measurements_take_of_not_metrics hmetrics]
    exact .nil

theorem balanced_run (router : Router r) (actions : List (Action r)) :
    Measurement.Balanced
      ((router.history actions).countP fun step => step.1.pathUnderMetrics step.2)
      ((router.history actions).countP fun step => step.1.aliasPathUnderMetrics step.2)
      (router.measured actions) := by
  induction actions generalizing router with
  | nil => exact .nil
  | cons action actions ih =>
    have hboth := (router.balanced_take action).append (ih (router.take action).router)
    rw [measured_cons, history, List.countP_cons, List.countP_cons]
    simpa only [Nat.add_comm] using hboth

/-- Under the metrics observer each resolution is counted once and timed once, and nothing else is
measured, so the accounts of a run are balanced. -/
theorem each_resolution_is_measured_once :
    (∀ (router : Router r) (path : Path), router.observer = some .metrics →
      (router.resolve path).trace.measurements =
        Measurement.pair .ofPath
          (if (router.resolve path).result.isOk then .matched else .noRoute)) ∧
    (∀ (router : Router r) (identifier : String) (context : Datum),
      router.observer = some .metrics →
      (∀ target, router.target? identifier context = some target →
        (router.resolveAlias identifier context).trace.measurements =
          Measurement.pair .ofPath
              (if (router.resolve target).result.isOk then .matched else .noRoute) ++
            Measurement.pair .ofAlias
              (Outcome.of (router.resolveAlias identifier context).result)) ∧
      (router.target? identifier context = none →
        (router.resolveAlias identifier context).trace.measurements =
          Measurement.pair .ofAlias
            (Outcome.of (router.resolveAlias identifier context).result))) ∧
    (∀ (router : Router r) (identifier : String) (context : Datum) (target : Path),
      router.target? identifier context = some target ↔
        ∃ entry value, router.findAlias? identifier = some entry ∧
          context = ⟨entry.handle.context, value⟩ ∧ entry.rule value = some target) ∧
    (∀ (router : Router r) (action : Action r),
      router.observer ≠ some .metrics ∨ ¬action.IsResolution →
        (router.take action).trace.measurements = []) ∧
    (∀ creation : Creation, (creation.start : Router r × Trace).2.measurements = []) ∧
    (∀ (creation : Creation) (actions : List (Action r)),
      (creation.reached actions).observer = creation.installed actions ∧
      ∀ i, (creation.start.1.history actions)[i]? =
        actions[i]?.map fun action => (creation.reached (actions.take i), action)) ∧
    ∀ (router : Router r) (actions : List (Action r)),
      Measurement.Balanced
        ((router.history actions).countP fun step => step.1.pathUnderMetrics step.2)
        ((router.history actions).countP fun step => step.1.aliasPathUnderMetrics step.2)
        (router.measured actions) := by
  refine ⟨?resolved, ?applied, fun _ _ _ _ => target?_eq_some_iff, ?silent, ?start, ?sessions,
    balanced_run⟩
  case resolved =>
    intro router path h
    rw [← outcome_resolve]
    exact measurements_resolve h path
  case applied =>
    intro router identifier context h
    refine ⟨?_, measurements_resolveAlias_of_no_target h⟩
    intro target htarget
    obtain ⟨hresult, hrecords⟩ := measurements_resolveAlias_of_target h htarget
    rw [hrecords, hresult, measurements_resolve h target, ← outcome_resolve]
  case silent =>
    rintro router action (hother | haction)
    · exact measurements_take_of_not_metrics hother action
    · exact measurements_take_of_not_isResolution haction
  case sessions =>
    intro creation actions
    exact ⟨creation.observer_reached actions, getElem?_history creation.start.1 actions⟩
  case start =>
    intro creation
    exact Trace.measurements_of_onlyFrom (shownUnder_start creation).onlyFrom nofun

end Router

end PathRouting
