import PathRouting.Proofs.AliasTable
import PathRouting.Proofs.ObserverIndependence

/-!
# The order of registrations

A router keeps its routes and its aliases apart, and an alias keeps the rule that makes its paths
but no route. So the answers of a router depend on the routes that were registered, in order, and on
the aliases that were registered, in order, but not on how the two were mixed, nor on what else was
done meanwhile. In particular a route that is registered after an alias answers the paths of that
alias.
-/

namespace PathRouting
set_option autoImplicit false

section
variable [UserTypes]

theorem AliasEntry.newest?_append (entries later : List AliasEntry) (identifier : String) :
    newest? (entries ++ later) identifier =
      (newest? later identifier).or (newest? entries identifier) := by
  simp [newest?, List.findRev?_eq_find?_reverse, List.find?_append]

namespace Creation
variable {r : DataType}

theorem declared_append (creation : Creation) (actions later : List (Action r)) :
    creation.declared (actions ++ later) =
      creation.declared actions ++ later.filterMap Action.entry? := by
  rw [declared, declared, List.filterMap_append, List.append_assoc]

/-- An alias stays the newest one of its identifier as long as that is not registered again. -/
theorem newest?_declared_append {creation : Creation} {actions later : List (Action r)}
    {identifier : String}
    (h : ∀ action ∈ later, ∀ entry, action.entry? = some entry → entry.identifier ≠ identifier) :
    AliasEntry.newest? (creation.declared (actions ++ later)) identifier =
      AliasEntry.newest? (creation.declared actions) identifier := by
  have hlater : AliasEntry.newest? (later.filterMap Action.entry?) identifier = none := by
    rw [AliasEntry.newest?_eq_none_iff]
    intro hmem
    obtain ⟨entry, hentry, hidentifier⟩ := List.mem_map.mp hmem
    obtain ⟨action, haction, hregisters⟩ := List.mem_filterMap.mp hentry
    exact h action haction entry hregisters hidentifier
  rw [declared_append, AliasEntry.newest?_append, hlater, Option.none_or]

end Creation

theorem Attempt.unobserved_eq_iff {α : Type} {a b : Attempt α} :
    a.unobserved = b.unobserved ↔
      a.result = b.result ∧ a.trace.unobserved = b.trace.unobserved := by
  rw [unobserved, unobserved, Attempt.mk.injEq]

namespace Router
variable {r : DataType}

theorem unobserved_congr {router other : Router r} (hconfig : router.config = other.config)
    (hroutes : router.routes = other.routes) (haliases : router.aliases = other.aliases) :
    router.unobserved = other.unobserved := by
  rw [unobserved, unobserved, hconfig, hroutes, haliases]

/-- Registrations of routes and of aliases can change places with each other, and with all that
registers nothing. -/
theorem registrations_commute (creation : Creation) {actions others : List (Action r)}
    (hroutes : registered actions = registered others)
    (haliases : actions.filterMap Action.entry? = others.filterMap Action.entry?) :
    (∀ path,
      ((creation.reached actions).resolve path).result =
        ((creation.reached others).resolve path).result ∧
      ((creation.reached actions).resolve path).trace.unobserved =
        ((creation.reached others).resolve path).trace.unobserved) ∧
    (∀ identifier context,
      ((creation.reached actions).resolveAlias identifier context).result =
        ((creation.reached others).resolveAlias identifier context).result ∧
      ((creation.reached actions).resolveAlias identifier context).trace.unobserved =
        ((creation.reached others).resolveAlias identifier context).trace.unobserved) ∧
    (creation.reached actions).describeRoutes = (creation.reached others).describeRoutes ∧
    (creation.reached actions).describeAliases = (creation.reached others).describeAliases ∧
    (creation.reached actions).routeCount = (creation.reached others).routeCount ∧
    (creation.reached actions).aliasCount = (creation.reached others).aliasCount ∧
    (∀ identifier, (creation.reached actions).hasAlias identifier =
      (creation.reached others).hasAlias identifier) ∧
    ∀ identifier entry value target later,
      AliasEntry.newest? (creation.declared actions) identifier = some entry →
      entry.rule value = some target →
      (∀ action ∈ later, ∀ other, action.entry? = some other → other.identifier ≠ identifier) →
      (∀ older route newer values,
        registered actions ++ registered later = older ++ route :: newer →
        (∀ other ∈ newer, ¬other.Accepts target) →
        route.template.tryMatch target = .ok values →
        ((creation.reached (actions ++ later)).resolveAlias identifier ⟨_, value⟩).result =
          .ok (route.handler.run values)) ∧
      ((∀ route ∈ registered actions ++ registered later, ¬route.Accepts target) →
        ((creation.reached (actions ++ later)).resolveAlias identifier ⟨_, value⟩).result =
          .error (.noRouteMatched target)) := by
  have hroutes' : (creation.reached actions).routes = (creation.reached others).routes := by
    rw [creation.routes_reached, creation.routes_reached, hroutes]
  have haliases' : (creation.reached actions).aliases = (creation.reached others).aliases := by
    rw [creation.aliases_reached, creation.aliases_reached, Creation.declared, Creation.declared,
      haliases]
  have hconfig : (creation.reached actions).config = (creation.reached others).config := by
    rw [Creation.reached, Creation.reached, config_after, config_after]
  -- A router without an observer is no more than its settings, routes and aliases.
  have hsame := unobserved_congr hconfig hroutes' haliases'
  refine ⟨?paths, ?aliases, ?routes, ?table, ?count, ?size, ?known, ?late⟩
  case paths =>
    intro path
    rw [← Attempt.unobserved_eq_iff, ← resolve_unobserved, hsame, resolve_unobserved]
  case aliases =>
    intro identifier context
    rw [← Attempt.unobserved_eq_iff, ← resolveAlias_unobserved, hsame, resolveAlias_unobserved]
  case routes => rw [describeRoutes, describeRoutes, hroutes']
  case table => rw [describeAliases, describeAliases, haliases']
  case count => rw [routeCount, routeCount, hroutes']
  case size => rw [aliasCount, aliasCount, haliases']
  case known =>
    intro identifier
    rw [hasAlias, hasAlias, haliases']
  case late =>
    intro identifier entry value target later hentry hrule hkept
    rw [← Creation.newest?_declared_append hkept, ← Creation.findAlias?_reached] at hentry
    have halias := (resolveAlias_of_applied (applyAlias_of_accepted hentry hrule)).1
    have hregistered := creation.routes_reached (actions ++ later)
    rw [registered_append] at hregistered
    constructor
    · intro older route newer values hsplit hnewer hmatch
      rw [halias]
      exact (resolve_of_newest_accepting (hregistered.trans hsplit) hnewer hmatch).1
    · intro hrejected
      rw [← hregistered] at hrejected
      rw [halias]
      exact (resolve_of_rejected hrejected).1

end Router

end

/-- The home page of the catalog can be registered before its alias or after it. -/
theorem Router.registrations_commute_catalog :
    ((Creation.empty.reached [.addAlias Catalog.homeAlias, .resolve (.ofText "home"),
        .add Catalog.home]).resolveAlias "home" ⟨.unit, ()⟩).result =
      ((Creation.empty.reached [.addPath [] "home/:page" Catalog.home.handler, .add Catalog.home,
        .addAlias Catalog.homeAlias]).resolveAlias "home" ⟨.unit, ()⟩).result ∧
    ((Creation.empty.reached (r := .text) ([.addAlias Catalog.homeAlias] ++
      [.add Catalog.home])).resolveAlias "home" ⟨.unit, ()⟩).result =
        .ok ("Welcome to the catalog" : String) := by
  constructor
  · exact ((registrations_commute .empty rfl rfl).2.1 "home" ⟨.unit, ()⟩).1
  · have hlate := (@registrations_commute _ .text .empty [.addAlias Catalog.homeAlias] _ rfl
      rfl).2.2.2.2.2.2.2
    have hkept : ∀ action ∈ [Action.add Catalog.home], ∀ other, action.entry? = some other →
        other.identifier ≠ "home" := by
      intro action haction other hother
      rw [List.mem_singleton.mp haction] at hother
      cases hother
    exact (hlate "home" Catalog.homeAlias () (.ofText "home") [.add Catalog.home] rfl rfl hkept).1
      [] Catalog.home [] .nil rfl (List.forall_mem_nil _) rfl

end PathRouting
