import PathRouting.Proofs.AliasTable

/-!
# Blocks of events

Each attempt to resolve something shows one block of events, which starts and ends with a notice to
the observer, and whose last notice agrees with the result. The block of an alias that gives a path
holds the whole block of that path. What a recording observer and the users' functions see of a run
is one such block after the other.
-/

namespace PathRouting
set_option autoImplicit false

variable [UserTypes]

/-- What a recording observer and the handlers see of resolving a path with a result. -/
inductive PathBlock {α : Type} (name : String) (path : Path) :
    Except RouteError α → Trace → Prop where
  | answered (label : String) (arguments : Arguments) (value : α) :
      PathBlock name path (.ok value)
        [.noticed name (.matchStarted path), .handlerRan label arguments,
          .noticed name (.matchSucceeded path)]
  | unanswered :
      PathBlock name path (.error (.noRouteMatched path))
        [.noticed name (.matchStarted path), .noticed name (.matchFailed path)]

/-- What a recording observer, the alias rules and the handlers see of resolving an alias with a
result. -/
inductive AliasBlock {α : Type} (name identifier : String) (context : Datum) :
    Except RouteError α → Trace → Prop where
  | unknown :
      AliasBlock name identifier context (.error (.aliasNotFound identifier))
        [.noticed name (.aliasStarted identifier),
          .noticed name (.aliasFailed identifier (.aliasNotFound identifier))]
  | mismatched (expected : String) :
      AliasBlock name identifier context (.error (.aliasContextMismatch identifier expected))
        [.noticed name (.aliasStarted identifier),
          .noticed name (.aliasFailed identifier (.aliasContextMismatch identifier expected))]
  | refused (quiet : Bool) :
      AliasBlock name identifier context (.error (.aliasContextRejected identifier))
        [.noticed name (.aliasStarted identifier), .ruleRan identifier context quiet,
          .noticed name (.aliasFailed identifier (.aliasContextRejected identifier))]
  | followed (quiet : Bool) {target : Path} {result : Except RouteError α} {inner : Trace}
      (h : PathBlock name target result inner) :
      AliasBlock name identifier context result
        ([.noticed name (.aliasStarted identifier), .ruleRan identifier context quiet] ++ inner ++
          [.noticed name (.aliasClosed identifier result)])

/-- Events that consist of one block for each attempt among actions with their replies, in order. -/
inductive WellNested {r : DataType} (name : String) :
    List (Action r) → List (Reply r) → Trace → Prop where
  | nil : WellNested name [] [] []
  | other {action : Action r} {reply : Reply r} {actions : List (Action r)}
      {replies : List (Reply r)} {events : Trace} (h : ¬action.IsResolution)
      (rest : WellNested name actions replies events) :
      WellNested name (action :: actions) (reply :: replies) events
  | path {path : Path} {result : Except RouteError r.Value} {block : Trace}
      {actions : List (Action r)} {replies : List (Reply r)} {events : Trace}
      (h : PathBlock name path result block) (rest : WellNested name actions replies events) :
      WellNested name (.resolve path :: actions) (.resolved result :: replies) (block ++ events)
  | alias {identifier : String} {context : Datum} {result : Except RouteError r.Value}
      {block : Trace} {actions : List (Action r)} {replies : List (Reply r)} {events : Trace}
      (h : AliasBlock name identifier context result block)
      (rest : WellNested name actions replies events) :
      WellNested name (.resolveAlias identifier context :: actions) (.resolved result :: replies)
        (block ++ events)

namespace Router
variable {r : DataType} {router : Router r} {name : String}

theorem notify_of_recording (h : router.observer = some (.recording name)) (notice : Notice) :
    router.notify notice = [.noticed name notice] := by
  rw [notify, h]
  rfl

theorem pathBlock_resolve (h : router.observer = some (.recording name)) (path : Path) :
    PathBlock name path (router.resolve path).result (router.resolve path).trace.withoutLog := by
  rcases router.resolve_cases path with
    ⟨_, route, _, values, -, -, -, hresult, htrace⟩ | ⟨-, hresult, htrace⟩
  · rw [hresult, htrace, notify_of_recording h, notify_of_recording h]
    exact .answered route.handler.label ⟨route.types, values⟩ (route.handler.run values)
  · rw [hresult, htrace, notify_of_recording h, notify_of_recording h]
    exact .unanswered

theorem aliasBlock_resolveAlias (h : router.observer = some (.recording name)) (identifier : String)
    (context : Datum) :
    AliasBlock name identifier context (router.resolveAlias identifier context).result
      (router.resolveAlias identifier context).trace.withoutLog := by
  rcases router.applyAlias_cases identifier context with
    ⟨-, happlied⟩ | ⟨entry, -, ⟨-, happlied⟩ | ⟨_, -, ⟨-, happlied⟩ | ⟨target, -, happlied⟩⟩⟩
  · obtain ⟨hresult, htrace⟩ := resolveAlias_of_not_applied happlied
    rw [hresult, htrace, notify_of_recording h, notify_of_recording h]
    exact .unknown
  · obtain ⟨hresult, htrace⟩ := resolveAlias_of_not_applied happlied
    rw [hresult, htrace, notify_of_recording h, notify_of_recording h]
    exact .mismatched entry.handle.context.name
  · obtain ⟨hresult, htrace⟩ := resolveAlias_of_not_applied happlied
    rw [hresult, htrace, notify_of_recording h, notify_of_recording h]
    exact .refused entry.quiet
  · obtain ⟨hresult, htrace⟩ := resolveAlias_of_applied happlied
    rw [hresult, htrace, notify_of_recording h, notify_of_recording h]
    exact .followed entry.quiet (pathBlock_resolve h target)

theorem withoutLog_take_of_not_isResolution {action : Action r} (h : ¬action.IsResolution) :
    (router.take action).trace.withoutLog = [] := by
  apply (router.shownUnder_take action).withoutLog_eq_nil
  cases action with
  | resolve path => exact absurd trivial h
  | resolveAlias identifier context => exact absurd trivial h
  | _ => simp [Action.kinds, EventKind.isLogged]

/-- As long as a recording observer is in place, the events of a run are one block for each attempt. -/
theorem wellNested_run {actions : List (Action r)}
    (h : ∀ before, before <+: actions → (router.after before).observer = some (.recording name)) :
    WellNested name actions ((router.run actions).map Prod.fst)
      ((router.run actions).flatMap fun step => step.2.withoutLog) := by
  induction actions generalizing router with
  | nil => exact .nil
  | cons action actions ih =>
    have hobserver : router.observer = some (.recording name) := h [] List.nil_prefix
    have hthroughout : ∀ before, before <+: actions →
        ((router.take action).router.after before).observer = some (.recording name) :=
      fun before hbefore => h (action :: before) (List.cons_prefix_cons.mpr ⟨rfl, hbefore⟩)
    have hrest := ih hthroughout
    rw [run, List.map_cons, List.flatMap_cons]
    by_cases hresolution : action.IsResolution
    · cases action with
      | resolve path => exact .path (pathBlock_resolve hobserver path) hrest
      | resolveAlias identifier context =>
        exact .alias (aliasBlock_resolveAlias hobserver identifier context) hrest
      | _ => exact hresolution.elim
    · rw [withoutLog_take_of_not_isResolution hresolution, List.nil_append]
      exact .other hresolution hrest

/-- What an alias shows encloses all that its path shows, so the events of a run under one recording
observer are well nested. -/
theorem alias_events_enclose_path_events (creation : Creation) (actions : List (Action r)) :
    (creation.reached actions).observer = creation.installed actions ∧
    (∀ path,
      (∃ older route newer values, registered actions = older ++ route :: newer ∧
        (∀ other ∈ newer, ¬other.Accepts path) ∧ route.template.tryMatch path = .ok values ∧
        ((creation.reached actions).resolve path).result = .ok (route.handler.run values) ∧
        ((creation.reached actions).resolve path).trace.withoutLog =
          (creation.reached actions).notify (.matchStarted path) ++
            .handlerRan route.handler.label ⟨route.types, values⟩ ::
              (creation.reached actions).notify (.matchSucceeded path)) ∨
      ((∀ route ∈ registered actions, ¬route.Accepts path) ∧
        ((creation.reached actions).resolve path).result = .error (.noRouteMatched path) ∧
        ((creation.reached actions).resolve path).trace.withoutLog =
          (creation.reached actions).notify (.matchStarted path) ++
            (creation.reached actions).notify (.matchFailed path))) ∧
    (∀ identifier entry value target,
      AliasEntry.newest? (creation.declared actions) identifier = some entry →
      entry.rule value = some target →
      ((creation.reached actions).resolveAlias identifier ⟨_, value⟩).result =
        ((creation.reached actions).resolve target).result ∧
      ((creation.reached actions).resolveAlias identifier ⟨_, value⟩).trace.withoutLog =
        (creation.reached actions).notify (.aliasStarted identifier) ++
          [.ruleRan identifier ⟨_, value⟩ entry.quiet] ++
          ((creation.reached actions).resolve target).trace.withoutLog ++
          (creation.reached actions).notify
            (.aliasClosed identifier ((creation.reached actions).resolve target).result)) ∧
    (∀ identifier context,
      (∀ entry value, AliasEntry.newest? (creation.declared actions) identifier = some entry →
        context = ⟨entry.handle.context, value⟩ → entry.rule value = none) →
      ∃ error runs,
        ((creation.reached actions).resolveAlias identifier context).result = .error error ∧
        ((creation.reached actions).resolveAlias identifier context).trace.withoutLog =
          (creation.reached actions).notify (.aliasStarted identifier) ++ runs ++
            (creation.reached actions).notify (.aliasFailed identifier error) ∧
        (∀ entry, AliasEntry.newest? (creation.declared actions) identifier = some entry →
          entry.handle.context = context.type → runs = [.ruleRan identifier context entry.quiet]) ∧
        ((∀ entry, AliasEntry.newest? (creation.declared actions) identifier = some entry →
          entry.handle.context ≠ context.type) → runs = [])) ∧
    ∀ name later,
      (∀ before, before <+: later →
        creation.installed (actions ++ before) = some (.recording name)) →
      WellNested name later (((creation.reached actions).run later).map Prod.fst)
        (((creation.reached actions).run later).flatMap fun step => step.2.withoutLog) := by
  refine ⟨creation.observer_reached actions, ?paths, ?followed, ?failed, ?runs⟩
  case paths =>
    intro path
    rw [← creation.routes_reached actions]
    exact (creation.reached actions).resolve_cases path
  case followed =>
    intro identifier entry value target hentry hrule
    rw [← creation.findAlias?_reached actions] at hentry
    exact resolveAlias_of_applied (applyAlias_of_accepted hentry hrule)
  case failed =>
    intro identifier context hnone
    rw [← creation.findAlias?_reached actions] at hnone ⊢
    rcases (creation.reached actions).applyAlias_cases identifier context with
      ⟨hunknown, happlied⟩ |
        ⟨entry, hentry, ⟨htype, happlied⟩ | ⟨value, rfl, ⟨-, happlied⟩ | ⟨target, hrule, -⟩⟩⟩
    · obtain ⟨hresult, htrace⟩ := resolveAlias_of_not_applied happlied
      refine ⟨_, _, hresult, htrace, ?_, fun _ => rfl⟩
      intro entry hentry
      rw [hunknown] at hentry
      cases hentry
    · obtain ⟨hresult, htrace⟩ := resolveAlias_of_not_applied happlied
      refine ⟨_, _, hresult, htrace, ?_, fun _ => rfl⟩
      intro entry' hentry' htype'
      rw [hentry] at hentry'
      cases hentry'
      exact absurd htype' htype
    · obtain ⟨hresult, htrace⟩ := resolveAlias_of_not_applied happlied
      refine ⟨_, _, hresult, htrace, ?_, fun hne => absurd rfl (hne entry hentry)⟩
      intro entry' hentry' _
      rw [hentry] at hentry'
      cases hentry'
      rfl
    · rw [hnone entry value hentry rfl] at hrule
      cases hrule
  case runs =>
    intro name later hthroughout
    apply wellNested_run
    intro before hbefore
    rw [← creation.reached_append, creation.observer_reached]
    exact hthroughout before hbefore

end Router

end PathRouting
