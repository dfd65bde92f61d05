import Mathlib.Data.List.Forall2
import Mathlib.Data.List.Nodup
import PathRouting.Config.Decode
import PathRouting.Proofs.PathText

/-!
# Configurations in written form

A configuration is read back from the data tree it is written as. The tree may be edited by hand:
fields may be left out, unknown ones may come in, the order of fields may change, and a target may
have separators to spare. A setting that is left out takes its default, whatever happens to the
others; only the two parts of an alias have none.
-/

namespace PathRouting
set_option autoImplicit false

namespace Data

/-- What may become of a record: it has no longer the fields left out, it may have any fields of other
names, and the order of its fields is free. -/
def Edited (leftOut : List String) : Data → Data → Prop
  | record fields, record edited =>
    (edited.filter fun f => f.1 ∈ fields.map Prod.fst).Perm (fields.filter fun f => f.1 ∉ leftOut)
  | _, _ => False

theorem edited_refl (fields : List (String × Data)) :
    Edited [] (record fields) (record fields) := by
  have hknown : fields.filter (fun f => f.1 ∈ fields.map Prod.fst) = fields := by
    apply List.filter_eq_self.mpr
    intro f hf
    exact decide_eq_true (List.mem_map_of_mem hf)
  have hkept : fields.filter (fun f => f.1 ∉ ([] : List String)) = fields := by simp
  rw [Edited, hknown, hkept]

theorem mem_of_edited {leftOut : List String} {fields edited : List (String × Data)}
    (h : Edited leftOut (record fields) (record edited)) {name : String}
    (hname : name ∈ fields.map Prod.fst) (d : Data) :
    (name, d) ∈ edited ↔ (name, d) ∈ fields ∧ name ∉ leftOut := by
  have hmem := h.mem_iff (a := (name, d))
  simpa [hname] using hmem

theorem field?_eq_some_of_unique {fields : List (String × Data)} {name : String} {d : Data}
    (hmem : (name, d) ∈ fields) (hunique : ∀ other, (name, other) ∈ fields → other = d) :
    field? fields name = some d := by
  unfold field?
  cases hfind : fields.find? fun f => f.1 = name with
  | none =>
    have hnot := List.find?_eq_none.mp hfind (name, d) hmem
    simp at hnot
  | some f =>
    obtain ⟨found, value⟩ := f
    have hfound := List.find?_some hfind
    obtain rfl : found = name := of_decide_eq_true hfound
    rw [Option.map_some, hunique value (List.mem_of_find?_eq_some hfind)]

theorem field?_eq_none_of_notMem {fields : List (String × Data)} {name : String}
    (h : ∀ d, (name, d) ∉ fields) : field? fields name = none := by
  rw [field?, Option.map_eq_none_iff, List.find?_eq_none]
  rintro ⟨found, d⟩ hmem heq
  have hname : found = name := of_decide_eq_true heq
  exact h d (hname ▸ hmem)

theorem field?_of_edited {leftOut : List String} {fields edited : List (String × Data)}
    (h : Edited leftOut (record fields) (record edited)) (hnodup : (fields.map Prod.fst).Nodup)
    {name : String} {d : Data} (hmem : (name, d) ∈ fields) :
    field? edited name = if name ∈ leftOut then none else some d := by
  have hname : name ∈ fields.map Prod.fst := List.mem_map_of_mem hmem
  have hedited := mem_of_edited h hname
  split
  · rename_i hleft
    exact field?_eq_none_of_notMem fun other hother => ((hedited other).mp hother).2 hleft
  · rename_i hkept
    refine field?_eq_some_of_unique ((hedited d).mpr ⟨hmem, hkept⟩) ?_
    intro other hother
    have hsame := List.inj_on_of_nodup_map hnodup ((hedited other).mp hother).1 hmem rfl
    exact congrArg Prod.snd hsame

theorem exists_fields_of_edited {leftOut : List String} {fields : List (String × Data)} {d : Data}
    (h : Edited leftOut (record fields) d) :
    ∃ edited, d = record edited ∧ Edited leftOut (record fields) (record edited) := by
  cases d with
  | record edited => exact ⟨edited, rfl, h⟩
  | _ => exact h.elim

theorem parts?_of_edited {leftOut names : List String} {fields : List (String × Data)} {d : Data}
    (h : Edited leftOut (record fields) d) (hnames : fields.map Prod.fst = names)
    (hnodup : names.Nodup) (excess : Excess) :
    d.parts? excess names = some (fields.map fun f => if f.1 ∈ leftOut then none else some f.2) := by
  obtain ⟨edited, rfl, hedited⟩ := exists_fields_of_edited h
  subst hnames
  rw [parts?, List.map_map]
  refine congrArg some (List.map_congr_left ?_)
  intro f hf
  exact field?_of_edited hedited hnodup hf

theorem orDefault_kept {α : Type} {default a : α} {read : Data → Option α} {d : Data}
    (h : read d = some a) (leftOut : Prop) [Decidable leftOut] :
    orDefault default read (if leftOut then none else some d) =
      some (if leftOut then default else a) := by
  split
  · rfl
  · exact h

theorem readAll_of_forall₂ {α : Type} {read : Data → Option α} {as : List α} {ds : List Data}
    (h : List.Forall₂ (fun a d => read d = some a) as ds) : readAll read ds = some as := by
  induction h with
  | nil => rfl
  | cons hread _ ih => rw [readAll, hread, ih]

theorem readAll_eq_none_of_mem {α : Type} {read : Data → Option α} {ds : List Data} {d : Data}
    (hmem : d ∈ ds) (h : read d = none) : readAll read ds = none := by
  induction ds with
  | nil => exact absurd hmem List.not_mem_nil
  | cons first rest ih =>
    rw [readAll]
    rcases List.mem_cons.mp hmem with rfl | hmem
    · rw [h]
    · rw [ih hmem]
      cases read first <;> rfl

end Data

theorem LoggingConfig.ofData?_of_edited {c : LoggingConfig} {leftOut : List String} {d : Data}
    (h : c.toData.Edited leftOut d) (excess : Excess) :
    ofData? excess d =
      some ⟨if "log_unmatched" ∈ leftOut then true else c.logUnmatched,
        if "default_filter" ∈ leftOut then "typed_router=info" else c.defaultFilter⟩ := by
  have hparts : d.parts? excess ["log_unmatched", "default_filter"] =
      some [if "log_unmatched" ∈ leftOut then none else some (.truth c.logUnmatched),
        if "default_filter" ∈ leftOut then none else some (.text c.defaultFilter)] :=
    Data.parts?_of_edited h rfl (by simp) excess
  have hunmatched : Data.truth? (.truth c.logUnmatched) = some c.logUnmatched := rfl
  have hfilter : Data.text? (.text c.defaultFilter) = some c.defaultFilter := rfl
  simp only [ofData?, hparts, Data.orDefault_kept hunmatched, Data.orDefault_kept hfilter]

theorem MetricsConfig.ofData?_of_edited {c : MetricsConfig} {leftOut : List String} {d : Data}
    (h : c.toData.Edited leftOut d) (excess : Excess) :
    ofData? excess d = some ⟨if "enabled" ∈ leftOut then false else c.enabled⟩ := by
  have hparts : d.parts? excess ["enabled"] =
      some [if "enabled" ∈ leftOut then none else some (.truth c.enabled)] :=
    Data.parts?_of_edited h rfl (by simp) excess
  have henabled : Data.truth? (.truth c.enabled) = some c.enabled := rfl
  simp only [ofData?, hparts, Data.orDefault_kept henabled, Option.map_some]

namespace StaticAlias

/-- What may become of a written alias: its target may also be spelled otherwise. -/
def Edited (leftOut : List String) (a : StaticAlias) (d : Data) : Prop :=
  ∃ spelling, pieces spelling = a.target.segments ∧
    (Data.record [("identifier", .text a.identifier), ("target", .text spelling)]).Edited leftOut d

theorem edited_toData (a : StaticAlias) : a.Edited [] a.toData :=
  ⟨a.target.text, a.target.pieces_text, Data.edited_refl _⟩

theorem parts?_of_edited {leftOut : List String} {a : StaticAlias} {d : Data}
    (h : a.Edited leftOut d) (excess : Excess) :
    ∃ spelling, Path.ofText spelling = a.target ∧
      d.parts? excess ["identifier", "target"] =
        some [if "identifier" ∈ leftOut then none else some (.text a.identifier),
          if "target" ∈ leftOut then none else some (.text spelling)] := by
  obtain ⟨spelling, hspelling, hedited⟩ := h
  refine ⟨spelling, ?_, Data.parts?_of_edited hedited rfl (by simp) excess⟩
  cases htarget : a.target
  simpa [Path.ofText, htarget] using hspelling

theorem ofData?_of_edited {a : StaticAlias} {d : Data} (h : a.Edited [] d) (excess : Excess) :
    ofData? excess d = some a := by
  obtain ⟨spelling, htarget, hparts⟩ := parts?_of_edited h excess
  simp [ofData?, hparts, Data.text?, Path.ofData?, htarget]

theorem ofData?_of_missing {a : StaticAlias} {leftOut : List String} {d : Data}
    (h : a.Edited leftOut d) (hmissing : "identifier" ∈ leftOut ∨ "target" ∈ leftOut)
    (excess : Excess) : ofData? excess d = none := by
  obtain ⟨spelling, -, hparts⟩ := parts?_of_edited h excess
  rw [ofData?, hparts]
  rcases hmissing with hmissing | hmissing
  · rw [if_pos hmissing]
  · rw [if_pos hmissing]
    split <;> simp_all

end StaticAlias

namespace Config

/-- What may become of a written configuration, given what became of its aliases: its parts may be
edited, and so may be the whole. -/
def Edited (leftOut : List String) (c : Config) (entries : List Data) (d : Data) : Prop :=
  ∃ logging metrics, c.logging.toData.Edited leftOut logging ∧
    c.metrics.toData.Edited leftOut metrics ∧
    (Data.record [("logging", logging), ("metrics", metrics), ("aliases", .list entries)]).Edited
      leftOut d

theorem edited_toData (c : Config) : c.Edited [] (c.aliases.map StaticAlias.toData) c.toData :=
  ⟨c.logging.toData, c.metrics.toData, Data.edited_refl _, Data.edited_refl _, Data.edited_refl _⟩

/-- The configuration with the defaults in the place of the settings left out. -/
def withDefaults (leftOut : List String) (c : Config) : Config where
  logging :=
    { logUnmatched :=
        if "logging" ∈ leftOut ∨ "log_unmatched" ∈ leftOut then true else c.logging.logUnmatched
      defaultFilter :=
        if "logging" ∈ leftOut ∨ "default_filter" ∈ leftOut then "typed_router=info"
        else c.logging.defaultFilter }
  metrics :=
    { enabled := if "metrics" ∈ leftOut ∨ "enabled" ∈ leftOut then false else c.metrics.enabled }
  aliases := if "aliases" ∈ leftOut then [] else c.aliases

theorem withDefaults_nil (c : Config) : c.withDefaults [] = c := rfl

theorem aliasesOfData?_of_edited {aliases : List StaticAlias} {entries : List Data}
    (h : List.Forall₂ (StaticAlias.Edited []) aliases entries) (excess : Excess) :
    aliasesOfData? excess (.list entries) = some aliases := by
  refine Data.readAll_of_forall₂ (h.imp ?_)
  intro a d hedited
  exact StaticAlias.ofData?_of_edited hedited excess

theorem aliasesOfData?_of_missing {entries : List Data} {entry : Data} (hmem : entry ∈ entries)
    {a : StaticAlias} {lost : List String} (h : a.Edited lost entry)
    (hmissing : "identifier" ∈ lost ∨ "target" ∈ lost) (excess : Excess) :
    aliasesOfData? excess (.list entries) = none :=
  Data.readAll_eq_none_of_mem hmem (StaticAlias.ofData?_of_missing h hmissing excess)

theorem parts?_of_edited {leftOut : List String} {c : Config} {entries : List Data} {d : Data}
    (h : c.Edited leftOut entries d) (excess : Excess) :
    ∃ logging metrics, c.logging.toData.Edited leftOut logging ∧
      c.metrics.toData.Edited leftOut metrics ∧
      d.parts? excess ["logging", "metrics", "aliases"] =
        some [if "logging" ∈ leftOut then none else some logging,
          if "metrics" ∈ leftOut then none else some metrics,
          if "aliases" ∈ leftOut then none else some (.list entries)] := by
  obtain ⟨logging, metrics, hlogging, hmetrics, hedited⟩ := h
  exact ⟨logging, metrics, hlogging, hmetrics,
    Data.parts?_of_edited hedited rfl (by simp) excess⟩

theorem ofData?_of_edited {leftOut : List String} {c : Config} {entries : List Data} {d : Data}
    (haliases : List.Forall₂ (StaticAlias.Edited []) c.aliases entries)
    (h : c.Edited leftOut entries d) (excess : Excess) :
    ofData? excess d = some (c.withDefaults leftOut) := by
  obtain ⟨logging, metrics, hlogging, hmetrics, hparts⟩ := parts?_of_edited h excess
  simp only [ofData?, hparts,
    Data.orDefault_kept (LoggingConfig.ofData?_of_edited hlogging excess),
    Data.orDefault_kept (MetricsConfig.ofData?_of_edited hmetrics excess),
    Data.orDefault_kept (aliasesOfData?_of_edited haliases excess), withDefaults]
  by_cases hl : "logging" ∈ leftOut <;> by_cases hm : "metrics" ∈ leftOut <;> simp [hl, hm]

theorem ofData?_of_aliases_eq_none {leftOut : List String} {c : Config} {entries : List Data}
    {d : Data} (hkept : "aliases" ∉ leftOut) (h : c.Edited leftOut entries d) {excess : Excess}
    (hentries : aliasesOfData? excess (.list entries) = none) : ofData? excess d = none := by
  obtain ⟨logging, metrics, -, -, hparts⟩ := parts?_of_edited h excess
  rw [ofData?, hparts, if_neg hkept]
  simp only [Data.orDefault, hentries]
  split
  · rename_i hnone
    cases hnone
  · rfl

example :
    ofData? .refused (.record [("theme", .null), ("logging", .record [("log_unmatched", .truth false)])])
      = some ⟨⟨false, "typed_router=info"⟩, ⟨false⟩, []⟩ := by
  rfl

theorem ofData?_toData (c : Config) (excess : Excess) : ofData? excess c.toData = some c := by
  have haliases : List.Forall₂ (StaticAlias.Edited []) c.aliases
      (c.aliases.map StaticAlias.toData) := by
    rw [List.forall₂_map_right_iff, List.forall₂_same]
    exact fun a _ => a.edited_toData
  rw [ofData?_of_edited haliases c.edited_toData, withDefaults_nil]

/-- A configuration is read back from its written form, with defaults for what an edit leaves out;
without a part of an alias nothing is read. -/
theorem decoding_undoes_encoding (c : Config) (excess : Excess) :
    ofData? excess c.toData = some c ∧
    (∀ leftOut entries d, List.Forall₂ (StaticAlias.Edited []) c.aliases entries →
      c.Edited leftOut entries d → ofData? excess d = some (c.withDefaults leftOut)) ∧
    (∀ leftOut entries d, "aliases" ∉ leftOut → c.Edited leftOut entries d →
      ∀ (i : Nat) (a : StaticAlias) (lost : List String) (entry : Data),
        c.aliases[i]? = some a → entries[i]? = some entry → a.Edited lost entry →
        "identifier" ∈ lost ∨ "target" ∈ lost → ofData? excess d = none) := by
  refine ⟨c.ofData?_toData excess, ?edited, ?missing⟩
  case edited =>
    intro leftOut entries d haliases h
    exact ofData?_of_edited haliases h excess
  case missing =>
    intro leftOut entries d hkept h i a lost entry _ hentry hlost hmissing
    have hmem : entry ∈ entries := List.mem_of_getElem? hentry
    exact ofData?_of_aliases_eq_none hkept h (aliasesOfData?_of_missing hmem hlost hmissing excess)

end Config

end PathRouting
