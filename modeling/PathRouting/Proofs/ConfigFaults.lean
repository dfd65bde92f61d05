import Mathlib.Data.Finset.Card
import PathRouting.Config.Validation

/-!
# Faults of configurations

The check of a configuration walks its aliases once and keeps the identifiers that it has met. What it
reports is said here entry by entry: the faults of an alias are a matter of the alias and of those that
are listed before it. An identifier is reported as a repeated one each time it comes again, so what is
reported so, and each identifier once, make up all identifiers that are listed.
-/

namespace PathRouting
set_option autoImplicit false

theorem Text.not_isBlank_iff {s : String} :
    ¬isBlank s ↔ ∃ ch ∈ s.toList, ¬isBlankChar ch := by
  simp [isBlank]

theorem Path.isEmpty_eq_false_iff {p : Path} : p.isEmpty = false ↔ p.segments ≠ [] := by
  rw [isEmpty, List.isEmpty_eq_false_iff]

/-- The identifier that is reported to come again. -/
def ConfigFault.repeated? : ConfigFault → Option String
  | .duplicateAlias identifier => some identifier
  | _ => none

namespace Config

theorem faultsOfNamed_eq_nil_iff (seen : List String) (a : StaticAlias) :
    faultsOfNamed seen a = [] ↔ a.target.isEmpty = false ∧ a.identifier ∉ seen := by
  simp [faultsOfNamed]

theorem aliasFaults_eq_nil_iff (index : Nat) (seen : List String) (aliases : List StaticAlias) :
    aliasFaults index seen aliases = [] ↔
      (∀ a ∈ aliases, a.identifier ≠ "" ∧ a.target.isEmpty = false ∧ a.identifier ∉ seen) ∧
        (aliases.map StaticAlias.identifier).Nodup := by
  -- The identifiers met before grow along the list: a later alias must also differ from this one.
  induction aliases generalizing index seen with
  | nil => simp [aliasFaults]
  | cons a rest ih =>
    by_cases hempty : a.identifier = ""
    · simp [aliasFaults, hempty]
    · rw [aliasFaults, if_neg hempty, List.append_eq_nil_iff, faultsOfNamed_eq_nil_iff, ih,
        List.forall_mem_cons, List.map_cons, List.nodup_cons]
      constructor
      · rintro ⟨⟨htarget, hseen⟩, hrest, hnodup⟩
        refine ⟨⟨⟨hempty, htarget, hseen⟩, ?_⟩, ?_, hnodup⟩
        · intro b hb
          obtain ⟨hidentifier, htarget, hnew⟩ := hrest b hb
          exact ⟨hidentifier, htarget, fun h => hnew (List.mem_cons_of_mem _ h)⟩
        · intro hmem
          obtain ⟨b, hb, hsame⟩ := List.mem_map.mp hmem
          exact (hrest b hb).2.2 (hsame ▸ List.mem_cons_self)
      · rintro ⟨⟨⟨-, htarget, hseen⟩, hrest⟩, hfirst, hnodup⟩
        refine ⟨⟨htarget, hseen⟩, ?_, hnodup⟩
        intro b hb
        obtain ⟨hidentifier, htarget, hnew⟩ := hrest b hb
        refine ⟨hidentifier, htarget, fun h => ?_⟩
        rcases List.mem_cons.mp h with hsame | h
        · exact hfirst (hsame ▸ List.mem_map_of_mem hb)
        · exact hnew h

theorem validate_eq_ok_iff (c : Config) : c.validate = .ok () ↔ c.faults = [] := by
  unfold validate
  split
  · rename_i h
    exact iff_of_true rfl h
  · rename_i h
    exact iff_of_false nofun h

example :
    validate ⟨{}, {}, [⟨"start", .ofText "home"⟩, ⟨"help", .ofText "pages/help"⟩]⟩ = .ok () := by
  decide

theorem validate_eq_error_iff (c : Config) (faults : List ConfigFault) :
    c.validate = .error faults ↔ c.faults = faults ∧ faults ≠ [] := by
  unfold validate
  split
  · rename_i h
    constructor
    · intro herror
      cases herror
    · rintro ⟨rfl, hne⟩
      exact absurd h hne
  · rename_i h
    constructor
    · intro herror
      cases herror
      exact ⟨rfl, h⟩
    · rintro ⟨rfl, -⟩
      rfl

theorem nodup_of_validate {c : Config} (h : c.validate = .ok ()) :
    (c.aliases.map StaticAlias.identifier).Nodup := by
  have hfaults := (List.append_eq_nil_iff.mp ((validate_eq_ok_iff c).mp h)).2
  exact ((aliasFaults_eq_nil_iff 0 [] c.aliases).mp hfaults).2

theorem faults_eq_nil_iff (c : Config) :
    c.faults = [] ↔
      (∃ ch ∈ c.logging.defaultFilter.toList, ¬Text.isBlankChar ch) ∧
        (∀ a ∈ c.aliases, a.identifier ≠ "" ∧ a.target.segments ≠ []) ∧
        (c.aliases.map StaticAlias.identifier).Nodup := by
  have hfilter : (if Text.isBlank c.logging.defaultFilter then [ConfigFault.emptyLogFilter] else [])
      = [] ↔ ∃ ch ∈ c.logging.defaultFilter.toList, ¬Text.isBlankChar ch := by
    rw [← Text.not_isBlank_iff]
    simp
  rw [faults, List.append_eq_nil_iff, hfilter, aliasFaults_eq_nil_iff]
  simp only [Path.isEmpty_eq_false_iff, List.not_mem_nil, not_false_eq_true, and_true]

/-- What is wrong with an alias, by its number and by the aliases that are listed before it. -/
def faultsAfter (earlier : List StaticAlias) (index : Nat) (a : StaticAlias) : List ConfigFault :=
  if a.identifier = "" then [.emptyAliasIdentifier index]
  else
    (if a.target.segments = [] then [.emptyAliasTarget a.identifier] else []) ++
      if ∃ b ∈ earlier, b.identifier = a.identifier then [.duplicateAlias a.identifier] else []

theorem faultsAfter_of_named {earlier : List StaticAlias} {seen : List String} {a : StaticAlias}
    (hnamed : a.identifier ≠ "")
    (hseen : a.identifier ∈ seen ↔ ∃ b ∈ earlier, b.identifier = a.identifier) (index : Nat) :
    faultsAfter earlier index a = faultsOfNamed seen a := by
  rw [faultsAfter, if_neg hnamed, faultsOfNamed]
  simp only [hseen, Path.isEmpty, List.isEmpty_iff]

/-- Alias by alias, the check reports what is wrong with one after those listed before it. -/
theorem aliasFaults_eq_flatMap {earlier : List StaticAlias} {seen : List String}
    (hseen : ∀ identifier ≠ "", identifier ∈ seen ↔ ∃ b ∈ earlier, b.identifier = identifier)
    (aliases : List StaticAlias) :
    aliasFaults earlier.length seen aliases =
      (aliases.zipIdx earlier.length).flatMap fun entry =>
        faultsAfter ((earlier ++ aliases).take entry.2) entry.2 entry.1 := by
  -- The identifiers kept are those of the entries passed, except that an empty one is not kept.
  induction aliases generalizing earlier seen with
  | nil => rfl
  | cons a rest ih =>
    have hlength : earlier.length + 1 = (earlier ++ [a]).length := by simp
    have hlist : earlier ++ a :: rest = (earlier ++ [a]) ++ rest := by simp
    rw [List.zipIdx_cons, List.flatMap_cons, List.take_left, hlist, hlength, aliasFaults]
    by_cases hempty : a.identifier = ""
    · rw [if_pos hempty, faultsAfter, if_pos hempty, hlength]
      refine congrArg (List.cons _) (ih ?_)
      intro identifier hne
      rw [hseen identifier hne]
      simp [hempty, hne.symm]
    · rw [if_neg hempty, faultsAfter_of_named hempty (hseen a.identifier hempty), hlength]
      refine congrArg (List.append _) (ih ?_)
      intro identifier hne
      rw [List.mem_cons, hseen identifier hne]
      simp [or_comm, eq_comm]

theorem faults_eq_flatMap (c : Config) :
    c.faults =
      (if c.logging.defaultFilter.toList.all Text.isBlankChar then [.emptyLogFilter] else []) ++
        c.aliases.zipIdx.flatMap fun entry =>
          faultsAfter (c.aliases.take entry.2) entry.2 entry.1 := by
  have hstart : ∀ identifier ≠ "", identifier ∈ ([] : List String) ↔
      ∃ b ∈ ([] : List StaticAlias), b.identifier = identifier := by simp
  have haliases := aliasFaults_eq_flatMap hstart c.aliases
  rw [List.length_nil, List.nil_append] at haliases
  rw [faults, haliases]
  rfl

example :
    faults ⟨⟨true, " "⟩, {}, [⟨"", .root⟩, ⟨"help", .root⟩, ⟨"help", .ofText "pages/help"⟩]⟩ =
      [.emptyLogFilter, .emptyAliasIdentifier 0, .emptyAliasTarget "help", .duplicateAlias "help"] := by
  decide

/-- The identifiers of aliases, in order, without those that are empty. -/
def identifiers (aliases : List StaticAlias) : List String :=
  (aliases.map StaticAlias.identifier).filter (· ≠ "")

theorem identifiers_cons_of_empty {a : StaticAlias} (h : a.identifier = "")
    (rest : List StaticAlias) : identifiers (a :: rest) = identifiers rest := by
  simp [identifiers, h]

theorem identifiers_cons_of_named {a : StaticAlias} (h : a.identifier ≠ "")
    (rest : List StaticAlias) : identifiers (a :: rest) = a.identifier :: identifiers rest := by
  simp [identifiers, h]

theorem filterMap_repeated?_faultsOfNamed (seen : List String) (a : StaticAlias) :
    (faultsOfNamed seen a).filterMap ConfigFault.repeated? =
      if a.identifier ∈ seen then [a.identifier] else [] := by
  unfold faultsOfNamed
  split <;> split <;> rfl

/-- What is reported to come again, and each identifier that was not met before once, are the
identifiers of the aliases. -/
theorem repeated_add_distinct (index : Nat) (seen : List String) (aliases : List StaticAlias) :
    ((aliasFaults index seen aliases).filterMap ConfigFault.repeated? : Multiset String) +
      ((identifiers aliases).toFinset \ seen.toFinset).val = identifiers aliases := by
  induction aliases generalizing index seen with
  | nil => simp [aliasFaults, identifiers]
  | cons a rest ih =>
    by_cases hempty : a.identifier = ""
    · rw [identifiers_cons_of_empty hempty, aliasFaults, if_pos hempty, List.filterMap_cons_none rfl]
      exact ih (index + 1) seen
    · have hrest := ih (index + 1) (a.identifier :: seen)
      rw [List.toFinset_cons] at hrest
      rw [identifiers_cons_of_named hempty, aliasFaults, if_neg hempty, List.filterMap_append,
        filterMap_repeated?_faultsOfNamed, List.toFinset_cons, ← Multiset.cons_coe, ← hrest]
      by_cases hseen : a.identifier ∈ seen
      · have hmem : a.identifier ∈ seen.toFinset := List.mem_toFinset.mpr hseen
        rw [if_pos hseen, Finset.insert_sdiff_of_mem _ hmem, Finset.insert_eq_of_mem hmem]
        rfl
      · have hmem : a.identifier ∉ seen.toFinset := fun h => hseen (List.mem_toFinset.mp h)
        have hself : a.identifier ∈ insert a.identifier (identifiers rest).toFinset :=
          Finset.mem_insert_self _ _
        rw [if_neg hseen, ← Finset.sdiff_insert_insert_of_mem_of_notMem hself hmem,
          Finset.insert_sdiff_of_mem _ (Finset.mem_insert_self _ _),
          Finset.insert_val_of_notMem (by simp), List.nil_append, Multiset.add_cons]

theorem repeated_add_toFinset (c : Config) :
    (c.faults.filterMap ConfigFault.repeated? : Multiset String) +
      (identifiers c.aliases).toFinset.val = identifiers c.aliases := by
  have hfilter : (if Text.isBlank c.logging.defaultFilter then [ConfigFault.emptyLogFilter]
      else []).filterMap ConfigFault.repeated? = [] := by
    split <;> rfl
  have haliases := repeated_add_distinct 0 [] c.aliases
  rw [List.toFinset_nil, Finset.sdiff_empty] at haliases
  rw [faults, List.filterMap_append, hfilter, List.nil_append, haliases]

/-- As many faults report an identifier that comes again as there are entries with an identifier
beyond the different ones. -/
theorem length_repeated (c : Config) :
    (c.faults.filterMap ConfigFault.repeated?).length + (identifiers c.aliases).toFinset.card =
      (identifiers c.aliases).length := by
  have hcard := congrArg Multiset.card c.repeated_add_toFinset
  rwa [Multiset.card_add, Multiset.coe_card, Multiset.coe_card] at hcard

/-- An identifier is reported each time it comes again, whatever else is wrong with its entries. -/
theorem count_repeated (c : Config) {identifier : String} (h : identifier ≠ "") :
    (c.faults.filterMap ConfigFault.repeated?).count identifier =
      (c.aliases.map StaticAlias.identifier).count identifier - 1 := by
  have hcount := congrArg (Multiset.count identifier) c.repeated_add_toFinset
  have hall : (identifiers c.aliases).count identifier =
      (c.aliases.map StaticAlias.identifier).count identifier := List.count_filter (by simpa using h)
  have hmem : identifier ∈ (identifiers c.aliases).toFinset.val ↔
      0 < (identifiers c.aliases).count identifier := List.mem_toFinset.trans List.count_pos_iff.symm
  rw [Multiset.count_add, Multiset.coe_count, Multiset.coe_count,
    Multiset.count_eq_of_nodup (Finset.nodup _)] at hcount
  rw [← hall]
  split at hcount
  · omega
  · rename_i hnot
    have hnone : ¬0 < (identifiers c.aliases).count identifier := mt hmem.mpr hnot
    omega

/-- What is wrong with a configuration is reported in order: its filter first, then alias by alias. -/
theorem faults_are_reported_in_order (c : Config) :
    (c.validate = .ok () ↔
      (∃ ch ∈ c.logging.defaultFilter.toList, ¬Text.isBlankChar ch) ∧
        (∀ a ∈ c.aliases, a.identifier ≠ "" ∧ a.target.segments ≠ []) ∧
        (c.aliases.map StaticAlias.identifier).Nodup) ∧
    (∀ faults, c.validate = .error faults ↔ c.faults = faults ∧ faults ≠ []) ∧
    c.faults =
      (if c.logging.defaultFilter.toList.all Text.isBlankChar then [.emptyLogFilter] else []) ++
        (c.aliases.zipIdx.flatMap fun entry =>
          faultsAfter (c.aliases.take entry.2) entry.2 entry.1) ∧
    (c.faults.filterMap ConfigFault.repeated?).length + (identifiers c.aliases).toFinset.card =
      (identifiers c.aliases).length ∧
    ∀ identifier ≠ "", (c.faults.filterMap ConfigFault.repeated?).count identifier =
      (c.aliases.map StaticAlias.identifier).count identifier - 1 := by
  refine ⟨?accepted, c.validate_eq_error_iff, c.faults_eq_flatMap, c.length_repeated, ?repeated⟩
  case accepted => exact (validate_eq_ok_iff c).trans c.faults_eq_nil_iff
  case repeated => exact fun _ h => c.count_repeated h

end Config

end PathRouting
