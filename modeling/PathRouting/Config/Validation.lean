import PathRouting.Config.Basic
import PathRouting.Text.Blank
import PathRouting.Text.Quoted

/-!
# Checking configurations

A configuration is refused if its log filter is blank, or if an alias could never be used: it has no
identifier, no target, or the identifier of an earlier alias. All errors are reported, in order.
-/

namespace PathRouting
set_option autoImplicit false

inductive ConfigFault where
  | emptyLogFilter
  | emptyAliasIdentifier (index : Nat)
  | emptyAliasTarget (identifier : String)
  | duplicateAlias (identifier : String)
deriving DecidableEq

namespace ConfigFault

def message : ConfigFault → String
  | emptyLogFilter => "logging.default_filter must not be empty"
  | emptyAliasIdentifier index => "alias #" ++ Text.count index ++ " has an empty identifier"
  | emptyAliasTarget identifier => "alias '" ++ identifier ++ "' has an empty target"
  | duplicateAlias identifier => "alias '" ++ identifier ++ "' is declared more than once"

def diagnostic : ConfigFault → String
  | emptyLogFilter => "EmptyLogFilter"
  | emptyAliasIdentifier index =>
    Text.diagnosticRecord "EmptyAliasIdentifier" [("index", Text.count index)]
  | emptyAliasTarget identifier =>
    Text.diagnosticRecord "EmptyAliasTarget" [("identifier", Text.quoted identifier)]
  | duplicateAlias identifier =>
    Text.diagnosticRecord "DuplicateAlias" [("identifier", Text.quoted identifier)]

end ConfigFault

namespace Config

/-- What is wrong with one alias that has an identifier, after those in `seen`. -/
def faultsOfNamed (seen : List String) (a : StaticAlias) : List ConfigFault :=
  (if a.target.isEmpty then [.emptyAliasTarget a.identifier] else []) ++
    (if a.identifier ∈ seen then [.duplicateAlias a.identifier] else [])

/-- What is wrong with aliases, the first of which has the number `index`, after those in `seen`. -/
def aliasFaults (index : Nat) (seen : List String) : List StaticAlias → List ConfigFault
  | [] => []
  | a :: rest =>
    if a.identifier = "" then .emptyAliasIdentifier index :: aliasFaults (index + 1) seen rest
    else faultsOfNamed seen a ++ aliasFaults (index + 1) (a.identifier :: seen) rest

def faults (c : Config) : List ConfigFault :=
  (if Text.isBlank c.logging.defaultFilter then [.emptyLogFilter] else []) ++
    aliasFaults 0 [] c.aliases

def validate (c : Config) : Except (List ConfigFault) Unit :=
  if c.faults = [] then .ok () else .error c.faults

end Config

end PathRouting
