import Mathlib.Data.List.Dedup
import PathRouting.Proofs.ResolutionEvents
import PathRouting.Proofs.RouterRuns

/-!
# The alias table over runs

Registering an alias takes an earlier one with the same identifier out of the table and puts the new
one at the end. Hence the table of a router holds the registrations of its history that no later one
has replaced, in order, and looking up an identifier finds the last registration under it.
-/

namespace PathRouting
set_option autoImplicit false

variable [UserTypes]

namespace AliasEntry

/-- The last registration under an identifier. -/
def newest? (entries : List AliasEntry) (identifier : String) : Option AliasEntry :=
  entries.findRev? fun e => e.identifier = identifier

/-- The registrations that are not followed by one with the same identifier, in order. -/
def lasting : List AliasEntry → List AliasEntry
  | [] => []
  | e :: later =>
    if e.identifier ∈ later.map identifier then lasting later else e :: lasting later

theorem lasting_cons_of_mem {e : AliasEntry} {later : List AliasEntry}
    (h : e.identifier ∈ later.map identifier) : lasting (e :: later) = lasting later := if_pos h

theorem lasting_cons_of_notMem {e : AliasEntry} {later : List AliasEntry}
    (h : e.identifier ∉ later.map identifier) : lasting (e :: later) = e :: lasting later := if_neg h

theorem map_identifier_lasting (entries : List AliasEntry) :
    (lasting entries).map identifier = (entries.map identifier).dedup := by
  induction entries with
  | nil => rfl
  | cons e later ih =>
    by_cases h : e.identifier ∈ later.map identifier
    · rw [lasting_cons_of_mem h, ih, List.map_cons, List.dedup_cons_of_mem h]
    · rw [lasting_cons_of_notMem h, List.map_cons, ih, List.map_cons, List.dedup_cons_of_notMem h]

theorem identifier_mem_of_mem_lasting {entries : List AliasEntry} {e : AliasEntry}
    (h : e ∈ lasting entries) : e.identifier ∈ entries.map identifier := by
  have hmem : e.identifier ∈ (lasting entries).map identifier := List.mem_map_of_mem h
  rw [map_identifier_lasting] at hmem
  exact List.mem_dedup.mp hmem

/-- A further registration takes the place of the one with the same identifier, at the end. -/
theorem lasting_concat (entries : List AliasEntry) (new : AliasEntry) :
    lasting (entries ++ [new]) =
      (lasting entries).eraseP (fun e => e.identifier = new.identifier) ++ [new] := by
  induction entries with
  | nil => rfl
  | cons e later ih =>
    by_cases hlater : e.identifier ∈ later.map identifier
    · have happend : e.identifier ∈ (later ++ [new]).map identifier := by simp [hlater]
      rw [List.cons_append, lasting_cons_of_mem happend, lasting_cons_of_mem hlater, ih]
    · rw [List.cons_append, lasting_cons_of_notMem hlater]
      by_cases hnew : e.identifier = new.identifier
      · have happend : e.identifier ∈ (later ++ [new]).map identifier := by simp [hnew]
        have hothers : ∀ other ∈ lasting later, ¬ decide (other.identifier = new.identifier) := by
          intro other hother hsame
          have hmem := identifier_mem_of_mem_lasting hother
          rw [of_decide_eq_true hsame, ← hnew] at hmem
          exact hlater hmem
        have hfirst : (e :: lasting later).eraseP (fun e => e.identifier = new.identifier) =
            lasting later := List.eraseP_cons_of_pos (decide_eq_true hnew)
        rw [lasting_cons_of_mem happend, ih, List.eraseP_of_forall_not hothers, hfirst]
      · have happend : e.identifier ∉ (later ++ [new]).map identifier := by
          simpa [hnew] using hlater
        rw [lasting_cons_of_notMem happend, ih, List.eraseP_cons_of_neg (by simpa using hnew),
          List.cons_append]

/-- Of registrations that others follow, those last that none of the others replaces. -/
theorem lasting_append (entries others : List AliasEntry) :
    lasting (entries ++ others) =
      (lasting entries).filter (fun e => e.identifier ∉ others.map identifier) ++ lasting others := by
  induction entries with
  | nil => rfl
  | cons e later ih =>
    by_cases hlater : e.identifier ∈ later.map identifier
    · have happend : e.identifier ∈ (later ++ others).map identifier := by
        rw [List.map_append]
        exact List.mem_append_left _ hlater
      rw [List.cons_append, lasting_cons_of_mem happend, lasting_cons_of_mem hlater, ih]
    · rw [List.cons_append, lasting_cons_of_notMem hlater]
      by_cases hothers : e.identifier ∈ others.map identifier
      · have happend : e.identifier ∈ (later ++ others).map identifier := by
          rw [List.map_append]
          exact List.mem_append_right _ hothers
        rw [lasting_cons_of_mem happend, List.filter_cons_of_neg (by simpa using hothers), ih]
      · have happend : e.identifier ∉ (later ++ others).map identifier := by
          rw [List.map_append, List.mem_append]
          exact not_or_intro hlater hothers
        rw [lasting_cons_of_notMem happend, List.filter_cons_of_pos (by simpa using hothers), ih,
          List.cons_append]

theorem newest?_cons (e : AliasEntry) (later : List AliasEntry) (identifier : String) :
    newest? (e :: later) identifier =
      (newest? later identifier).or (if e.identifier = identifier then some e else none) := by
  simp [newest?, List.findRev?_eq_find?_reverse, List.find?_append, List.find?_singleton]

theorem newest?_eq_none_iff {entries : List AliasEntry} {i : String} :
    newest? entries i = none ↔ i ∉ entries.map identifier := by
  simp [newest?, List.findRev?_eq_find?_reverse]

theorem newest?_cons_of_mem {later : List AliasEntry} {i : String}
    (h : i ∈ later.map identifier) (e : AliasEntry) : newest? (e :: later) i = newest? later i := by
  cases hlater : newest? later i with
  | none => exact absurd h (newest?_eq_none_iff.mp hlater)
  | some found => rw [newest?_cons, hlater, Option.some_or]

theorem newest?_cons_of_notMem {later : List AliasEntry} {e : AliasEntry}
    (h : e.identifier ∉ later.map identifier) : newest? (e :: later) e.identifier = some e := by
  rw [newest?_cons, newest?_eq_none_iff.mpr h, if_pos rfl, Option.none_or]

theorem lasting_eq_filterMap (entries : List AliasEntry) :
    lasting entries = (entries.map identifier).dedup.filterMap (newest? entries) := by
  induction entries with
  | nil => rfl
  | cons e later ih =>
    have hlater : (later.map identifier).dedup.filterMap (newest? (e :: later)) = lasting later := by
      rw [ih]
      apply List.filterMap_congr
      intro i hi
      exact newest?_cons_of_mem (List.mem_dedup.mp hi) e
    by_cases h : e.identifier ∈ later.map identifier
    · rw [lasting_cons_of_mem h, List.map_cons, List.dedup_cons_of_mem h, hlater]
    · rw [lasting_cons_of_notMem h, List.map_cons, List.dedup_cons_of_notMem h,
        List.filterMap_cons_some (newest?_cons_of_notMem h), hlater]

/-- A look-up from the front finds the last registration, since no other one lasts. -/
theorem find?_lasting (entries : List AliasEntry) (i : String) :
    (lasting entries).find? (fun e => e.identifier = i) = newest? entries i := by
  induction entries with
  | nil => rfl
  | cons e later ih =>
    by_cases h : e.identifier ∈ later.map identifier
    · rw [lasting_cons_of_mem h, ih, newest?_cons]
      cases hlater : newest? later i with
      | some found => rfl
      | none =>
        have hne : e.identifier ≠ i := by
          rintro rfl
          exact newest?_eq_none_iff.mp hlater h
        rw [if_neg hne, Option.none_or]
    · rw [lasting_cons_of_notMem h]
      by_cases hi : e.identifier = i
      · subst hi
        rw [newest?_cons_of_notMem h]
        exact List.find?_cons_of_pos (decide_eq_true rfl)
      · rw [List.find?_cons_of_neg (by simpa using hi), ih, newest?_cons, if_neg hi, Option.or_none]

end AliasEntry

/-- The aliases that are registered when a session starts. -/
def Creation.entries : Creation → List AliasEntry
  | .empty => []
  | .withConfig _ => []
  | .fromConfig config => config.aliases.map fun a => AliasEntry.fixed a.identifier a.target

/-- The alias that an action registers. -/
def Action.entry? {r : DataType} : Action r → Option AliasEntry
  | .addAlias entry => some entry
  | _ => none

theorem Action.entry?_of_route? {r : DataType} {action : Action r} {route : Route r}
    (h : action.route? = some route) : action.entry? = none := by
  cases action with
  | addAlias entry => cases h
  | _ => rfl

/-- All registrations of aliases in a session, oldest first. -/
def Creation.declared {r : DataType} (creation : Creation) (actions : List (Action r)) :
    List AliasEntry := creation.entries ++ actions.filterMap Action.entry?

namespace Router
variable {r : DataType} {router : Router r} {entries : List AliasEntry}

theorem aliases_addAlias (h : router.aliases = AliasEntry.lasting entries) (new : AliasEntry) :
    (router.addAlias new).1.aliases = AliasEntry.lasting (entries ++ [new]) := by
  rw [AliasEntry.lasting_concat, ← h]
  rfl

theorem aliases_addAliases (h : router.aliases = AliasEntry.lasting entries)
    (others : List AliasEntry) :
    (router.addAliases others).1.aliases = AliasEntry.lasting (entries ++ others) := by
  induction others generalizing router entries with
  | nil => rw [List.append_nil, ← h, addAliases]
  | cons new others ih =>
    have hrest := ih (aliases_addAlias h new)
    rw [List.append_assoc, List.singleton_append] at hrest
    exact hrest

theorem aliases_start (creation : Creation) :
    (creation.start : Router r × Trace).1.aliases = AliasEntry.lasting creation.entries := by
  cases creation with
  | empty => rfl
  | withConfig config => rfl
  | fromConfig config =>
    have hempty : (withConfig config : Router r).aliases = AliasEntry.lasting [] := rfl
    have hnamed := aliases_addAliases hempty (Creation.fromConfig config).entries
    rw [List.nil_append] at hnamed
    unfold Creation.start fromConfig
    dsimp only
    split
    · exact hnamed
    · exact hnamed

/-- An action registers at most one alias, and leaves the table as it is if it registers none. -/
theorem aliases_take (h : router.aliases = AliasEntry.lasting entries) (action : Action r) :
    (router.take action).router.aliases =
      AliasEntry.lasting (entries ++ action.entry?.toList) := by
  cases action with
  | addAlias entry => exact aliases_addAlias h entry
  | addPath types template handler =>
    cases hparse : Template.parse types template with
    | error e => simpa [take, addPath, Action.entry?, hparse] using h
    | ok t => simpa [take, addPath, Action.entry?, hparse, add] using h
  | add route => simpa [take, add, Action.entry?] using h
  | observe observer => simpa [take, observe, Action.entry?] using h
  | clearObserver => simpa [take, clearObserver, Action.entry?] using h
  | resolve path => simpa [take, Action.entry?] using h
  | resolveAlias identifier context => simpa [take, Action.entry?] using h
  | describe => simpa [take, Action.entry?] using h
  | hasAlias identifier => simpa [take, Action.entry?] using h
  | config => simpa [take, Action.entry?] using h
  | diagnostic => simpa [take, Action.entry?] using h

theorem aliases_after (h : router.aliases = AliasEntry.lasting entries) (actions : List (Action r)) :
    (router.after actions).aliases =
      AliasEntry.lasting (entries ++ actions.filterMap Action.entry?) := by
  induction actions generalizing router entries with
  | nil => simpa [after] using h
  | cons action actions ih =>
    rw [after_cons, ih (aliases_take h action), List.append_assoc]
    cases hentry : action.entry? with
    | none => rw [List.filterMap_cons_none hentry, Option.toList_none, List.nil_append]
    | some entry => rw [List.filterMap_cons_some hentry, Option.toList_some, List.singleton_append]

end Router

namespace Creation
variable {r : DataType}

theorem aliases_reached (creation : Creation) (actions : List (Action r)) :
    (creation.reached actions).aliases = AliasEntry.lasting (creation.declared actions) :=
  Router.aliases_after (Router.aliases_start creation) actions

theorem findAlias?_reached (creation : Creation) (actions : List (Action r)) (identifier : String) :
    (creation.reached actions).findAlias? identifier =
      AliasEntry.newest? (creation.declared actions) identifier := by
  rw [Router.findAlias?, aliases_reached, AliasEntry.find?_lasting]

theorem identifiers_reached (creation : Creation) (actions : List (Action r)) :
    (creation.reached actions).aliases.map AliasEntry.identifier =
      ((creation.declared actions).map AliasEntry.identifier).dedup := by
  rw [aliases_reached, AliasEntry.map_identifier_lasting]

theorem aliasCount_reached (creation : Creation) (actions : List (Action r)) :
    (creation.reached actions).aliasCount =
      ((creation.declared actions).map AliasEntry.identifier).dedup.length := by
  rw [← identifiers_reached, List.length_map, Router.aliasCount]

theorem hasAlias_reached_iff (creation : Creation) (actions : List (Action r))
    (identifier : String) :
    (creation.reached actions).hasAlias identifier ↔
      identifier ∈ (creation.declared actions).map AliasEntry.identifier := by
  rw [← List.mem_dedup, ← identifiers_reached]
  simp [Router.hasAlias]

theorem describeAliases_reached (creation : Creation) (actions : List (Action r)) :
    (creation.reached actions).describeAliases =
      ((creation.declared actions).map AliasEntry.identifier).dedup.filterMap fun identifier =>
        (AliasEntry.newest? (creation.declared actions) identifier).map AliasEntry.describe := by
  rw [Router.describeAliases, aliases_reached, AliasEntry.lasting_eq_filterMap, List.map_filterMap]

end Creation

namespace Router
variable {r : DataType}

theorem result_resolveAlias_congr {router other : Router r} (hroutes : router.routes = other.routes)
    {identifier : String} (halias : router.findAlias? identifier = other.findAlias? identifier)
    (context : Datum) :
    (router.resolveAlias identifier context).result =
      (other.resolveAlias identifier context).result := by
  have happlied : router.applyAlias identifier context = other.applyAlias identifier context := by
    rw [applyAlias, applyAlias, halias]
  cases hother : other.applyAlias identifier context with
  | mk result runs =>
    rw [hother] at happlied
    cases result with
    | ok target =>
      rw [(resolveAlias_of_applied happlied).1, (resolveAlias_of_applied hother).1]
      simp only [resolve, hroutes]
    | error e =>
      rw [(resolveAlias_of_not_applied happlied).1, (resolveAlias_of_not_applied hother).1]

/-- The alias table of a session holds the last registration of each identifier, in their order, and
this alone decides what resolving the identifier does. -/
theorem newest_registered_alias_applies (creation : Creation) (actions : List (Action r)) :
    (creation.reached actions).aliases = AliasEntry.lasting (creation.declared actions) ∧
    (creation.reached actions).aliases.map AliasEntry.identifier =
      ((creation.declared actions).map AliasEntry.identifier).dedup ∧
    (creation.reached actions).aliasCount =
      ((creation.declared actions).map AliasEntry.identifier).dedup.length ∧
    (∀ identifier, (creation.reached actions).hasAlias identifier ↔
      identifier ∈ (creation.declared actions).map AliasEntry.identifier) ∧
    (creation.reached actions).describeAliases =
      (((creation.declared actions).map AliasEntry.identifier).dedup.filterMap fun identifier =>
        (AliasEntry.newest? (creation.declared actions) identifier).map AliasEntry.describe) ∧
    ∀ identifier,
      (AliasEntry.newest? (creation.declared actions) identifier = none → ∀ context,
        ((creation.reached actions).resolveAlias identifier context).result =
            .error (.aliasNotFound identifier) ∧
          ((creation.reached actions).resolveAlias identifier context).trace.ruleRuns = []) ∧
      (∀ entry, AliasEntry.newest? (creation.declared actions) identifier = some entry →
        (∀ context, entry.handle.context ≠ context.type →
          ((creation.reached actions).resolveAlias identifier context).result =
              .error (.aliasContextMismatch identifier entry.handle.context.name) ∧
            ((creation.reached actions).resolveAlias identifier context).trace.ruleRuns = []) ∧
        ∀ value,
          (entry.rule value = none →
            ((creation.reached actions).resolveAlias identifier ⟨_, value⟩).result =
              .error (.aliasContextRejected identifier)) ∧
          (∀ target, entry.rule value = some target →
            ((creation.reached actions).resolveAlias identifier ⟨_, value⟩).result =
              ((creation.reached actions).resolve target).result) ∧
          ((creation.reached actions).resolveAlias identifier ⟨_, value⟩).trace.ruleRuns =
            [(identifier, ⟨_, value⟩)]) ∧
      ∀ (creation' : Creation) (actions' : List (Action r)),
        registered actions' = registered actions →
        AliasEntry.newest? (creation'.declared actions') identifier =
          AliasEntry.newest? (creation.declared actions) identifier →
        ∀ context, ((creation'.reached actions').resolveAlias identifier context).result =
          ((creation.reached actions).resolveAlias identifier context).result := by
  refine ⟨creation.aliases_reached actions, creation.identifiers_reached actions,
    creation.aliasCount_reached actions, creation.hasAlias_reached_iff actions,
    creation.describeAliases_reached actions, ?_⟩
  intro identifier
  rw [← creation.findAlias?_reached actions]
  refine ⟨?unknown, ?known, ?others⟩
  case unknown =>
    intro hnone context
    have happlied := applyAlias_of_unknown hnone context
    refine ⟨(resolveAlias_of_not_applied happlied).1, ?_⟩
    rw [ruleRuns_resolveAlias, happlied, Trace.ruleRuns_nil]
  case known =>
    intro entry hentry
    constructor
    · intro context htype
      have happlied := applyAlias_of_type_ne hentry htype
      refine ⟨(resolveAlias_of_not_applied happlied).1, ?_⟩
      rw [ruleRuns_resolveAlias, happlied, Trace.ruleRuns_nil]
    · intro value
      refine ⟨?_, ?_, ?_⟩
      · intro hrule
        exact (resolveAlias_of_not_applied (applyAlias_of_refused hentry hrule)).1
      · intro target hrule
        exact (resolveAlias_of_applied (applyAlias_of_accepted hentry hrule)).1
      · rw [ruleRuns_resolveAlias]
        cases hrule : entry.rule value with
        | none => rw [applyAlias_of_refused hentry hrule]; rfl
        | some target => rw [applyAlias_of_accepted hentry hrule]; rfl
  case others =>
    intro creation' actions' hroutes hnewest context
    apply result_resolveAlias_congr
    · rw [creation'.routes_reached, creation.routes_reached, hroutes]
    · rw [creation'.findAlias?_reached, hnewest]

end Router

end PathRouting
