import PathRouting.Config.Basic
import PathRouting.Config.Data

/-!
# Configurations as data

A configuration is read from a data tree and written as one. Missing settings take their defaults,
except that an alias needs both its parts, and no value is converted to another kind.
-/

namespace PathRouting
set_option autoImplicit false

def Path.ofData? (d : Data) : Option Path := d.text?.map Path.ofText

namespace LoggingConfig

def ofData? (excess : Excess) (d : Data) : Option LoggingConfig :=
  match d.parts? excess ["log_unmatched", "default_filter"] with
  | some [unmatched, filter] =>
    match Data.orDefault ({} : LoggingConfig).logUnmatched Data.truth? unmatched,
        Data.orDefault ({} : LoggingConfig).defaultFilter Data.text? filter with
    | some unmatched, some filter => some ⟨unmatched, filter⟩
    | _, _ => none
  | _ => none

def toData (c : LoggingConfig) : Data :=
  .record [("log_unmatched", .truth c.logUnmatched), ("default_filter", .text c.defaultFilter)]

end LoggingConfig

namespace MetricsConfig

def ofData? (excess : Excess) (d : Data) : Option MetricsConfig :=
  match d.parts? excess ["enabled"] with
  | some [enabled] =>
    (Data.orDefault ({} : MetricsConfig).enabled Data.truth? enabled).map fun enabled => ⟨enabled⟩
  | _ => none

def toData (c : MetricsConfig) : Data := .record [("enabled", .truth c.enabled)]

end MetricsConfig

namespace StaticAlias

def ofData? (excess : Excess) (d : Data) : Option StaticAlias :=
  match d.parts? excess ["identifier", "target"] with
  | some [some identifier, some target] =>
    match identifier.text?, Path.ofData? target with
    | some identifier, some target => some ⟨identifier, target⟩
    | _, _ => none
  | _ => none

def toData (a : StaticAlias) : Data :=
  .record [("identifier", .text a.identifier), ("target", .text a.target.text)]

end StaticAlias

namespace Config

def aliasesOfData? (excess : Excess) (d : Data) : Option (List StaticAlias) :=
  match d.list? with
  | some items => Data.readAll (StaticAlias.ofData? excess) items
  | none => none

def ofData? (excess : Excess) (d : Data) : Option Config :=
  match d.parts? excess ["logging", "metrics", "aliases"] with
  | some [logging, metrics, aliases] =>
    match Data.orDefault {} (LoggingConfig.ofData? excess) logging,
        Data.orDefault {} (MetricsConfig.ofData? excess) metrics,
        Data.orDefault [] (aliasesOfData? excess) aliases with
    | some logging, some metrics, some aliases => some ⟨logging, metrics, aliases⟩
    | _, _, _ => none
  | _ => none

def toData (c : Config) : Data :=
  .record [("logging", c.logging.toData), ("metrics", c.metrics.toData),
    ("aliases", .list (c.aliases.map StaticAlias.toData))]

end Config

end PathRouting
