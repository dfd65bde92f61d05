/-!
# Requests on the command line

A request names a command with its operands, after an optional configuration file. A word that starts
with `-` is an option unless it is `-` alone or comes after `--`; options are written out in full, are
known only in their place, and come at most once. Words are read from left to right, and the first one
that does not fit decides, before a call for help further on.
-/

namespace PathRouting.CommandLine
set_option autoImplicit false

inductive Command where
  | resolve (path : String)
  | resolveAlias (identifier : String) (context : Option String)
  | routes (json : Bool)
  | aliases (json : Bool)
deriving DecidableEq

structure Request where
  configFile : Option String
  command : Command
deriving DecidableEq

/-- Why words are not a request; to ask for help is no request either. -/
inductive Refusal where
  | help
  | missingCommand
  | unknownCommand (word : String)
  | unexpected (word : String)
  | missingValue (option : String)
  | repeatedOption (option : String)
  | missingOperand (name : String)
deriving DecidableEq

def Refusal.message : Refusal → String
  | help =>
    "usage: [--config FILE] (resolve PATH | alias IDENTIFIER [CONTEXT] | routes [--json] | " ++
      "aliases [--json])"
  | missingCommand => "a command is required"
  | unknownCommand word => "there is no command '" ++ word ++ "'"
  | unexpected word => "'" ++ word ++ "' is not expected here"
  | missingValue option => "'" ++ option ++ "' needs a value"
  | repeatedOption option => "'" ++ option ++ "' is given twice"
  | missingOperand name => "no " ++ name ++ " is given"

/-- What a word can be: an option by name, perhaps with a value, an option by letter with what follows
the letter, the mark that ends the options, or a plain word. -/
inductive Word where
  | named (name : String) (value : Option String)
  | letter (letter : Char) (rest : List Char)
  | mark
  | plain
deriving DecidableEq

namespace Word

/-- An option by name, split at the first equals sign. -/
def ofName (cs : List Char) : Word :=
  let name := String.ofList (cs.takeWhile (· ≠ '='))
  match cs.dropWhile (· ≠ '=') with
  | [] => named name none
  | _ :: value => named name (some (String.ofList value))

def classify (s : String) : Word :=
  match s.toList with
  | ['-', '-'] => mark
  | '-' :: '-' :: cs => ofName cs
  | '-' :: c :: cs => letter c cs
  | _ => plain

end Word

/-- The operands of a command, and whether the listing flag is among its options. -/
structure Operands where
  words : List String := []
  json : Bool := false
deriving DecidableEq

def Operands.cons (word : String) (o : Operands) : Operands := { o with words := word :: o.words }

/-- Collects operands, at most `room` of them; `listing` tells whether the listing flag is known, `json`
whether it was met. After the mark that ends the options all words are operands. -/
def operands (listing : Bool) : (room : Nat) → (json : Bool) → List String → Except Refusal Operands
  | _, json, [] => .ok ⟨[], json⟩
  | room, json, word :: rest =>
    match Word.classify word with
    | .plain =>
      match room with
      | 0 => .error (.unexpected word)
      | room + 1 => (operands listing room json rest).map (Operands.cons word)
    | .mark =>
      match rest.drop room with
      | [] => .ok ⟨rest, json⟩
      | excess :: _ => .error (.unexpected excess)
    | .named "help" none => .error .help
    | .letter 'h' _ => .error .help
    | .named "json" none =>
      if listing then
        if json then .error (.repeatedOption word) else operands listing room true rest
      else .error (.unexpected word)
    | _ => .error (.unexpected word)

def listingCommand (command : Bool → Command) (words : List String) : Except Refusal Command :=
  (operands true 0 false words).map fun o => command o.json

/-- A command with one or two operands, as there is `room`, of which the first is needed. -/
def operandCommand (room : Nat) (name : String) (command : String → Option String → Command)
    (words : List String) : Except Refusal Command :=
  match operands false room false words with
  | .error e => .error e
  | .ok ⟨[], _⟩ => .error (.missingOperand name)
  | .ok ⟨first :: others, _⟩ => .ok (command first others.head?)

def commandNames : List String := ["resolve", "alias", "routes", "aliases", "help"]

/-- What comes of asking for help about some words: only a command has help, and a command has no
commands of its own. -/
def helpAbout : List String → Refusal
  | [] => .help
  | word :: rest =>
    if word ∈ commandNames then
      match rest with
      | [] => .help
      | next :: _ => .unknownCommand next
    else .unknownCommand word

/-- Reads a command by its name and the words after it. -/
def Command.read (name : String) (words : List String) : Except Refusal Command :=
  if name = "resolve" then operandCommand 1 "path" (fun path _ => .resolve path) words
  else if name = "alias" then operandCommand 2 "identifier" .resolveAlias words
  else if name = "routes" then listingCommand .routes words
  else if name = "aliases" then listingCommand .aliases words
  else if name = "help" then .error (helpAbout words)
  else .error (.unknownCommand name)

/-- The value that follows the letter of an option, with or without an equals sign. -/
def attached : List Char → String
  | '=' :: cs => String.ofList cs
  | cs => String.ofList cs

/-- Takes a configuration file, if none was met before. -/
def acceptFile (file : Option String) (value : String) : Except Refusal (Option String) :=
  if value = "" then .error (.missingValue "--config")
  else if file.isSome then .error (.repeatedOption "--config")
  else .ok (some value)

/-- The value that a word gives to the configuration option, if the word is that option; the value is
`none` if the next word holds it. -/
def fileOption? : Word → Option (Option String)
  | .named "config" value => some value
  | .letter 'c' [] => some none
  | .letter 'c' (c :: cs) => some (some (attached (c :: cs)))
  | _ => none

/-- Reads what is not the configuration option: a command, a call for help, or nothing known. -/
def readCommand (file : Option String) (word : String) (rest : List String) :
    Except Refusal Request :=
  match Word.classify word with
  | .plain => (Command.read word rest).map fun command => ⟨file, command⟩
  | .named "help" none => .error .help
  | .letter 'h' _ => .error .help
  | _ => .error (.unexpected word)

/-- Reads options and then a command, given the configuration file met so far. -/
def readFrom (file : Option String) : List String → Except Refusal Request
  | [] => .error .missingCommand
  | word :: rest =>
    match fileOption? (Word.classify word), rest with
    | some (some value), rest =>
      match acceptFile file value with
      | .ok file => readFrom file rest
      | .error e => .error e
    | some none, [] => .error (.missingValue "--config")
    | some none, value :: rest =>
      -- The next word is the value only if it could not be an option itself.
      if Word.classify value = .plain then
        match acceptFile file value with
        | .ok file => readFrom file rest
        | .error e => .error e
      else .error (.missingValue "--config")
    | none, rest => readCommand file word rest

def Request.read (words : List String) : Except Refusal Request := readFrom none words

end PathRouting.CommandLine
