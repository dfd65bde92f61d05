import PathRouting.Config.Decode
import PathRouting.Config.Validation
import PathRouting.Files.Fault
import PathRouting.Toml.Document

/-!
# Loading configurations

A configuration comes from a document, which may come from a file. It is accepted if the file can be
read, the document is well formed and has the right kinds of values, and the checks find no fault.
-/

namespace PathRouting
set_option autoImplicit false

inductive ConfigError where
  | read (fault : Files.ReadFault)
  | parse
  | invalid (faults : List ConfigFault)
deriving DecidableEq

namespace ConfigError

def message : ConfigError → String
  | read fault => "IO error: " ++ fault.message
  | parse => "Parse error"
  | invalid faults => "Validation failed: " ++ ", ".intercalate (faults.map ConfigFault.message)

def diagnostic : ConfigError → String
  | read fault => "Io(" ++ fault.diagnostic ++ ")"
  | parse => "Parse"
  | invalid faults =>
    "Validation(" ++ Text.diagnosticList (faults.map ConfigFault.diagnostic) ++ ")"

end ConfigError

namespace Config

def parse (s : String) : Except ConfigError Config :=
  match Toml.document? s with
  | none => .error .parse
  | some d =>
    match ofData? .ignored d with
    | none => .error .parse
    | some config =>
      match config.validate with
      | .ok () => .ok config
      | .error faults => .error (.invalid faults)

def load (content : Except Files.ReadFault ByteArray) : Except ConfigError Config :=
  match content with
  | .error fault => .error (.read fault)
  | .ok bytes =>
    match String.fromUTF8? bytes with
    | some s => parse s
    | none => .error (.read .notText)

end Config

end PathRouting
