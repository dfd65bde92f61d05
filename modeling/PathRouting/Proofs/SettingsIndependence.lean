import PathRouting.Proofs.RouterRuns
import PathRouting.Proofs.Translation

/-!
# Independence of settings

The settings of a router decide at which level failures are reported in the log, and nothing else. So
under other settings a run is the same, but for the level of these reports and for the settings that
the router replies with when asked for them.
-/

namespace PathRouting
set_option autoImplicit false

/-- The settings with unresolved paths and aliases not warned about. -/
def Config.silenced (config : Config) : Config :=
  { config with logging := { config.logging with logUnmatched := false } }

def Creation.silenced : Creation → Creation
  | .empty => .empty
  | .withConfig config => .withConfig config.silenced
  | .fromConfig config => .fromConfig config.silenced

variable [UserTypes]

namespace LogEvent

/-- The event with another level, if it reports a failed attempt. -/
def atLevel (level : Level) : LogEvent → LogEvent
  | pathUnmatched _ path routes => pathUnmatched level path routes
  | aliasUnresolved _ identifier error => aliasUnresolved level identifier error
  | event => event

theorem atLevel_atLevel (event : LogEvent) (level other : Level) :
    (event.atLevel level).atLevel other = event.atLevel other := by
  cases event <;> rfl

end LogEvent

def Event.atLevel (level : Level) : Event → Event
  | logged event => logged (event.atLevel level)
  | event => event

namespace Trace

/-- The events with another level of the reports of failures. -/
def atLevel (level : Level) (t : Trace) : Trace := t.map (Event.atLevel level)

theorem atLevel_atLevel (t : Trace) (level other : Level) :
    (t.atLevel level).atLevel other = t.atLevel other := by
  rw [atLevel, atLevel, List.map_map]
  apply List.map_congr_left
  intro event _
  cases event with
  | logged e => exact congrArg Event.logged (e.atLevel_atLevel level other)
  | _ => rfl

/-- Events without reports of failures are the same at each level. -/
theorem ShownUnder.atLevel_eq_self {observer : Option Observer} {kinds : List EventKind} {t : Trace}
    (h : t.ShownUnder observer kinds) (hkinds : .failure ∉ kinds) (level : Level) :
    t.atLevel level = t := by
  have hevents : ∀ event ∈ t, event.atLevel level = event := by
    intro event hevent
    have hkind := (h event hevent).1
    cases event with
    | logged e =>
      cases e with
      | pathUnmatched level path routes => exact absurd hkind hkinds
      | aliasUnresolved level identifier error => exact absurd hkind hkinds
      | _ => rfl
    | _ => rfl
  exact (List.map_congr_left hevents).trans (List.map_id t)

end Trace

def Attempt.atLevel {α : Type} (level : Level) (a : Attempt α) : Attempt α :=
  ⟨a.result, a.trace.atLevel level⟩

theorem Attempt.translate_atLevel {α : Type} (level : Level) (a : Attempt α) :
    a.translate (fun event => some (event.atLevel level)) = a.atLevel level := by
  rw [translate, List.filterMap_eq_map']
  rfl

namespace Reply
variable {r : DataType}

def withSettings (config : Config) : Reply r → Reply r
  | .config _ => .config config
  | reply => reply

theorem withSettings_withSettings (reply : Reply r) (config other : Config) :
    (reply.withSettings config).withSettings other = reply.withSettings other := by
  cases reply <;> rfl

end Reply

namespace Router
variable {r : DataType}

def withSettings (router : Router r) (config : Config) : Router r := { router with config }

theorem withSettings_self (router : Router r) : router.withSettings router.config = router := rfl

section
variable (router : Router r) (config : Config)

theorem translates_withSettings :
    Translates (fun event => some (event.atLevel (router.withSettings config).failureLevel)) router
      (router.withSettings config) where
  routes := rfl
  aliases := rfl
  notify notice := by
    rw [List.filterMap_eq_map']
    exact ((router.shownUnder_notify notice).atLevel_eq_self (by decide) _).symm
  pathFailure _ _ := rfl
  aliasFailure _ _ := rfl
  work event hwork := by
    cases event with
    | logged e =>
      cases e with
      | pathUnmatched level path routes => simp [EventKind.ofWork] at hwork
      | aliasUnresolved level identifier error => simp [EventKind.ofWork] at hwork
      | _ => rfl
    | _ => rfl

theorem resolve_withSettings (path : Path) :
    (router.withSettings config).resolve path =
      (router.resolve path).atLevel (router.withSettings config).failureLevel := by
  rw [(router.translates_withSettings config).resolve, Attempt.translate_atLevel]

theorem resolveAlias_withSettings (identifier : String) (context : Datum) :
    (router.withSettings config).resolveAlias identifier context =
      (router.resolveAlias identifier context).atLevel
        (router.withSettings config).failureLevel := by
  rw [(router.translates_withSettings config).resolveAlias, Attempt.translate_atLevel]

/-- Under other settings an action does the same, except that failures are reported at the level of
these and that asking for the settings gives these. -/
theorem take_withSettings (action : Action r) :
    (router.withSettings config).take action =
      ⟨(router.take action).router.withSettings config,
        (router.take action).reply.withSettings config,
        (router.take action).trace.atLevel (router.withSettings config).failureLevel⟩ := by
  cases action with
  | addPath types template handler =>
    simp only [take, addPath]
    cases Template.parse types template with
    | error e => rfl
    | ok t => rfl
  | addAlias entry =>
    have hshown := router.shownUnder_addAlias entry
    simp only [take, hshown.atLevel_eq_self (by decide)]
    rfl
  | observe new =>
    have hshown := router.shownUnder_observe new
    simp only [take, hshown.atLevel_eq_self (by decide)]
    rfl
  | resolve path =>
    simp only [take, resolve_withSettings]
    rfl
  | resolveAlias identifier context =>
    simp only [take, resolveAlias_withSettings]
    rfl
  | _ => rfl

theorem run_withSettings (actions : List (Action r)) :
    (router.withSettings config).run actions =
      (router.run actions).map fun step =>
        (step.1.withSettings config, step.2.atLevel (router.withSettings config).failureLevel) := by
  induction actions generalizing router with
  | nil => rfl
  | cons action actions ih =>
    rw [run, take_withSettings, ih, run, List.map_cons]
    rfl

/-- Settings that report failures at the same level can be exchanged for one another. -/
theorem run_withSettings_of_failureLevel_eq
    (h : (router.withSettings config).failureLevel = router.failureLevel)
    (actions : List (Action r)) :
    (router.withSettings config).run actions =
      (router.run actions).map fun step => (step.1.withSettings config, step.2) := by
  -- The level need not change, but the run under the router's own settings has it everywhere.
  have hself := router.run_withSettings router.config actions
  rw [withSettings_self] at hself
  rw [run_withSettings, h, hself, List.map_map, List.map_map]
  apply List.map_congr_left
  intro step _
  simp only [Function.comp_apply, Reply.withSettings_withSettings, Trace.atLevel_atLevel]

end

theorem fromConfig_of_silenced_eq {config other : Config} (h : config.silenced = other.silenced) :
    (fromConfig other : Router r × Trace) =
      ((fromConfig config : Router r × Trace).1.withSettings other,
        (fromConfig config : Router r × Trace).2) := by
  have hstart : (withConfig other : Router r) = (withConfig config).withSettings other := rfl
  have haliases : other.aliases = config.aliases := (congrArg Config.aliases h).symm
  have hmetrics : other.metrics = config.metrics := (congrArg Config.metrics h).symm
  have hnamed := @addAliases_comm _ r (fun router => router.withSettings other) (fun _ _ => rfl)
    (withConfig config) (config.aliases.map fun a => AliasEntry.fixed a.identifier a.target)
  simp only [fromConfig, hstart, haliases, hmetrics, hnamed]
  split
  · rfl
  · rfl

end Router

theorem Creation.start_of_silenced_eq {r : DataType} {creation other : Creation}
    (h : creation.silenced = other.silenced) :
    (other.start : Router r × Trace) =
      ((creation.start : Router r × Trace).1.withSettings (other.start : Router r × Trace).1.config,
        (creation.start : Router r × Trace).2) := by
  cases creation with
  | empty =>
    cases other with
    | empty => rfl
    | _ => cases h
  | withConfig config =>
    cases other with
    | withConfig config' => rfl
    | _ => cases h
  | fromConfig config =>
    cases other with
    | fromConfig config' =>
      have hstart := Router.fromConfig_of_silenced_eq (r := r) (Creation.fromConfig.inj h)
      simp only [start, hstart]
      rfl
    | _ => cases h

end PathRouting
