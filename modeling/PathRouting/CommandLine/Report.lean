import PathRouting.Catalog.Basic
import PathRouting.CommandLine.Request
import PathRouting.Config.Loading

/-!
# Reports

What the command line answers to a request about the catalog: an exit code, the text for the reader,
and a line about an error that kept the request from being carried out.
-/

namespace PathRouting.CommandLine
set_option autoImplicit false

/-- An exit code, the output, and the error line if there is one. -/
structure Report where
  code : Nat
  output : String := ""
  error : Option String := none
deriving DecidableEq

namespace Report

def ofLines (ls : List String) : String := String.join (ls.map fun l => l ++ "\n")

def failed (diagnostic : String) : Report := { code := 1, error := some ("Error: " ++ diagnostic) }

def refused : Refusal → Report
  | .help => { code := 0, output := ofLines [Refusal.help.message] }
  | refusal => { code := 2, error := some ("error: " ++ refusal.message) }

/-- A listing, one entry a line or as a JSON array. -/
def listing (entries : List String) (json : Bool) : Report :=
  { code := 0, output := if json then Text.jsonLines entries ++ "\n" else ofLines entries }

def notFound (router : Router .text) (error : RouteError) : Report :=
  { code := 1
    output := ofLines
      (["404: Not Found", error.message, "", "Known Routes"] ++
        router.describeRoutes.map (fun line => "  " ++ line) ++ ["", "Known Aliases"] ++
        router.describeAliases.map (fun line => "  " ++ line)) }

def ofResult (router : Router .text) : Except RouteError String → Report
  | .ok page => { code := 0, output := ofLines [page] }
  | .error error => notFound router error

def ofCommand (router : Router .text) : Command → Report
  | .resolve path => ofResult router (router.resolve (.ofText path)).result
  | .resolveAlias identifier context =>
    match Catalog.resolveAlias router identifier context with
    | .ok result => ofResult router result
    | .error e => failed e.diagnostic
  | .routes json => listing router.describeRoutes json
  | .aliases json => listing router.describeAliases json

/-- Carries out a command on the catalog, once there is a configuration. -/
def ofConfig (command : Command) : Except ConfigError Config → Report
  | .ok config =>
    match Catalog.router config with
    | .ok router => ofCommand router command
    | .error e => failed e.diagnostic
  | .error e => failed e.diagnostic

/-- Carries out a request; `content` tells what a file holds. -/
def ofRequest (request : Request) (content : String → Except Files.ReadFault ByteArray) : Report :=
  ofConfig request.command <| match request.configFile with
    | none => .ok {}
    | some file => Config.load (content file)

end Report

end PathRouting.CommandLine
