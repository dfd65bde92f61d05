import PathRouting.Config.Loading
import PathRouting.Proofs.ConfigFaults
import PathRouting.Proofs.RegistrationOrder

/-!
# Static aliases

A router that starts from settings registers their aliases one after the other, so the last one of
each identifier stays. Checked settings do not name an alias twice: every alias that is listed stays,
in its place, and leads to its target until another one is registered under its identifier.
-/

namespace PathRouting
set_option autoImplicit false

namespace Config

theorem validate_of_parse {s : String} {c : Config} (h : parse s = .ok c) :
    c.validate = .ok () := by
  unfold parse at h
  split at h
  · cases h
  · split at h
    · cases h
    · split at h
      · rename_i hvalid
        cases h
        exact hvalid
      · cases h

end Config

variable [UserTypes]

theorem DataType.name_unit : unit.name = "()" := by
  show TypeName.short "()" = "()"
  decide

namespace AliasEntry

theorem lasting_of_nodup {entries : List AliasEntry} (h : (entries.map identifier).Nodup) :
    lasting entries = entries := by
  induction entries with
  | nil => rfl
  | cons e later ih =>
    obtain ⟨hfirst, hlater⟩ := List.nodup_cons.mp h
    rw [lasting_cons_of_notMem hfirst, ih hlater]

theorem newest?_of_mem {entries : List AliasEntry} (h : (entries.map identifier).Nodup)
    {e : AliasEntry} (he : e ∈ entries) : newest? entries e.identifier = some e := by
  induction entries with
  | nil => exact absurd he List.not_mem_nil
  | cons first later ih =>
    obtain ⟨hfirst, hlater⟩ := List.nodup_cons.mp h
    rcases List.mem_cons.mp he with rfl | he
    · exact newest?_cons_of_notMem hfirst
    · rw [newest?_cons_of_mem (List.mem_map_of_mem he), ih hlater he]

end AliasEntry

/-- An alias from the start of a session is the newest one of its identifier as long as that is not
registered again. -/
theorem Creation.newest?_declared_of_kept {r : DataType} {creation : Creation}
    {actions : List (Action r)} {identifier : String}
    (h : ∀ action ∈ actions, ∀ entry, action.entry? = some entry →
      entry.identifier ≠ identifier) :
    AliasEntry.newest? (creation.declared actions) identifier =
      AliasEntry.newest? creation.entries identifier := by
  have hstart : creation.declared ([] : List (Action r)) = creation.entries := List.append_nil _
  have hkept : AliasEntry.newest? (creation.declared ([] ++ actions)) identifier =
      AliasEntry.newest? (creation.declared ([] : List (Action r))) identifier :=
    newest?_declared_append h
  rw [List.nil_append, hstart] at hkept
  exact hkept

namespace StaticAlias

/-- The registration of an alias for a fixed path. -/
def entry (a : StaticAlias) : AliasEntry := .fixed a.identifier a.target

theorem map_identifier_entry (aliases : List StaticAlias) :
    (aliases.map entry).map AliasEntry.identifier = aliases.map identifier := List.map_map

theorem describe_entry (a : StaticAlias) :
    a.entry.describe = "Alias<()>('" ++ a.identifier ++ "')" := by
  show "Alias<" ++ DataType.unit.name ++ ">('" ++ a.identifier ++ "')" = _
  rw [DataType.name_unit]
  rfl

theorem map_describe_entry (aliases : List StaticAlias) :
    (aliases.map entry).map AliasEntry.describe =
      aliases.map fun a => "Alias<()>('" ++ a.identifier ++ "')" := by
  rw [List.map_map]
  exact List.map_congr_left fun a _ => a.describe_entry

theorem newest?_map_entry (aliases : List StaticAlias) (i : String) :
    AliasEntry.newest? (aliases.map entry) i =
      (aliases.findRev? fun a => a.identifier = i).map entry := by
  rw [AliasEntry.newest?, List.findRev?_eq_find?_reverse, List.findRev?_eq_find?_reverse,
    ← List.map_reverse, List.find?_map]
  rfl

end StaticAlias

namespace Router
variable {r : DataType}

theorem aliases_fromConfig (config : Config) :
    (fromConfig config : Router r × Trace).1.aliases =
      AliasEntry.lasting (config.aliases.map StaticAlias.entry) :=
  aliases_start (.fromConfig config)

theorem aliases_fromConfig_of_nodup {config : Config}
    (h : (config.aliases.map StaticAlias.identifier).Nodup) :
    (fromConfig config : Router r × Trace).1.aliases = config.aliases.map StaticAlias.entry := by
  rw [← StaticAlias.map_identifier_entry] at h
  rw [aliases_fromConfig, AliasEntry.lasting_of_nodup h]

theorem findAlias?_of_mem_config {config : Config} {a : StaticAlias} (ha : a ∈ config.aliases)
    (h : (config.aliases.map StaticAlias.identifier).Nodup) {actions : List (Action r)}
    (hkept : ∀ action ∈ actions, ∀ entry, action.entry? = some entry →
      entry.identifier ≠ a.identifier) :
    ((Creation.fromConfig config).reached actions).findAlias? a.identifier = some a.entry := by
  rw [← StaticAlias.map_identifier_entry] at h
  rw [Creation.findAlias?_reached, Creation.newest?_declared_of_kept hkept]
  exact AliasEntry.newest?_of_mem h (List.mem_map_of_mem ha)

/-- An alias of checked settings is answered as its target is, until another one takes its place,
and only in the unit context. -/
theorem resolveAlias_of_mem_config {config : Config} {a : StaticAlias} (ha : a ∈ config.aliases)
    (h : config.validate = .ok ()) {actions : List (Action r)}
    (hkept : ∀ action ∈ actions, ∀ entry, action.entry? = some entry →
      entry.identifier ≠ a.identifier) :
    (((Creation.fromConfig config).reached actions).resolveAlias a.identifier ⟨.unit, ()⟩).result =
        (((Creation.fromConfig config).reached actions).resolve a.target).result ∧
      ∀ context : Datum, context.type ≠ .unit →
        (((Creation.fromConfig config).reached actions).resolveAlias a.identifier context).result =
          .error (.aliasContextMismatch a.identifier "()") := by
  have hfound := findAlias?_of_mem_config ha (Config.nodup_of_validate h) hkept
  constructor
  · exact (resolveAlias_of_applied (applyAlias_of_accepted hfound rfl)).1
  · intro context htype
    rw [(resolveAlias_of_not_applied (applyAlias_of_type_ne hfound htype.symm)).1,
      ← DataType.name_unit]
    rfl

/-- A router that starts from settings has the last alias of each identifier they name. If they are
checked, these are all, and each leads to its target until it is registered again. -/
theorem configured_aliases_are_live (config : Config) :
    (fromConfig config : Router r × Trace).1.aliases =
      ((config.aliases.map StaticAlias.identifier).dedup.filterMap fun identifier =>
        (config.aliases.findRev? fun a => a.identifier = identifier).map StaticAlias.entry) ∧
    (fromConfig config : Router r × Trace).1.aliases.map AliasEntry.identifier =
      (config.aliases.map StaticAlias.identifier).dedup ∧
    (fromConfig config : Router r × Trace).1.observer =
      (if config.metrics.enabled then some .metrics else none) ∧
    (fromConfig config : Router r × Trace).1.routes = [] ∧
    (config.validate = .ok () →
      (fromConfig config : Router r × Trace).1.aliasCount = config.aliases.length ∧
      (fromConfig config : Router r × Trace).1.describeAliases =
        config.aliases.map (fun a => "Alias<()>('" ++ a.identifier ++ "')") ∧
      ∀ a ∈ config.aliases, ∀ actions : List (Action r),
        (∀ action ∈ actions, ∀ entry, action.entry? = some entry →
          entry.identifier ≠ a.identifier) →
        (((Creation.fromConfig config).reached actions).resolveAlias a.identifier
            ⟨.unit, ()⟩).result =
          (((Creation.fromConfig config).reached actions).resolve a.target).result ∧
        ∀ context : Datum, context.type ≠ .unit →
          (((Creation.fromConfig config).reached actions).resolveAlias a.identifier
              context).result =
            .error (.aliasContextMismatch a.identifier "()")) ∧
    ∀ s, Config.parse s = .ok config → config.validate = .ok () := by
  refine ⟨?table, ?identifiers, observer_fromConfig config, routes_fromConfig config,
    ?checked, fun _ => Config.validate_of_parse⟩
  case table =>
    rw [aliases_fromConfig, AliasEntry.lasting_eq_filterMap, StaticAlias.map_identifier_entry]
    simp only [StaticAlias.newest?_map_entry]
  case identifiers =>
    rw [aliases_fromConfig, AliasEntry.map_identifier_lasting, StaticAlias.map_identifier_entry]
  case checked =>
    intro hvalid
    have htable := aliases_fromConfig_of_nodup (r := r) (Config.nodup_of_validate hvalid)
    refine ⟨?count, ?lines, ?live⟩
    case count => rw [aliasCount, htable, List.length_map]
    case lines =>
      rw [describeAliases, htable, List.map_map]
      apply List.map_congr_left
      intro a _
      exact a.describe_entry
    case live =>
      intro a ha actions hkept
      exact resolveAlias_of_mem_config ha hvalid hkept

end Router

end PathRouting
