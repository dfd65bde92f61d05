import PathRouting.Config.Data

/-!
# Tables in the making

A document names its tables in headers and in dotted keys, and says nothing twice. A table remembers
how it came about: by a header of its own, by the header of a table inside it, or by a dotted key.
Only the second kind may still get a header, and only the last may be added to by dotted keys.
-/

namespace PathRouting.Toml
set_option autoImplicit false

inductive Origin where
  | header
  | inner
  | dotted
deriving DecidableEq

/-- What a name stands for: a value, a table, or a row of tables, the last of which is open. -/
inductive Node where
  | value (d : Data)
  | table (origin : Origin) (entries : List (String × Node))
  | tables (rows : List (List (String × Node)))

/-- The names of a table with what they stand for. -/
abbrev Entries := List (String × Node)

mutual

def Node.toData : Node → Data
  | .value d => d
  | .table _ es => .record (entriesToData es)
  | .tables rows => .list (rowsToData rows)

def entriesToData : List (String × Node) → List (String × Data)
  | [] => []
  | (name, node) :: es => (name, node.toData) :: entriesToData es

def rowsToData : List (List (String × Node)) → List Data
  | [] => []
  | es :: rows => .record (entriesToData es) :: rowsToData rows

end

namespace Entries

def toData (es : Entries) : List (String × Data) := entriesToData es

def get? (es : Entries) (name : String) : Option Node := (es.find? fun e => e.1 = name).map (·.2)

/-- Puts a node in the place of the one under a name. -/
def set (es : Entries) (name : String) (node : Node) : Entries :=
  es.map fun e => if e.1 = name then (name, node) else e

/-- Changes the last row of a row of tables. -/
def onLast (change : Entries → Option Entries) : List Entries → Option (List Entries)
  | [] => none
  | [es] => (change es).map fun es => [es]
  | es :: rows => (onLast change rows).map fun rows => es :: rows

/-- Adds a value under a dotted key. Whether a value may be added to the table itself is given by
`isOpen`; the tables on the way are made where they are missing. -/
def put? (d : Data) : (isOpen : Bool) → List String → Entries → Option Entries
  | _, [], _ => none
  | isOpen, [name], es =>
    if isOpen ∧ (es.get? name).isNone then some (es ++ [(name, .value d)]) else none
  | _, name :: rest, es =>
    match es.get? name with
    | none => (put? d true rest []).map fun inner => es ++ [(name, .table .dotted inner)]
    | some (.table .dotted inner) =>
      (put? d true rest inner).map fun inner => es.set name (.table .dotted inner)
    | some (.table .inner inner) =>
      (put? d false rest inner).map fun inner => es.set name (.table .inner inner)
    | some (.tables rows) =>
      (onLast (put? d false rest) rows).map fun rows => es.set name (.tables rows)
    -- A table with a header of its own has been given all its values under that header.
    | some (.table .header _) => none
    | some (.value _) => none

def ofPairs? (es : Entries) : List (List String × Data) → Option Entries
  | [] => some es
  | (path, d) :: rest =>
    match es.put? d true path with
    | some es => es.ofPairs? rest
    | none => none

end Entries

/-- A table under a header, or a row of a row of tables, with its own pairs. -/
structure Section where
  isRow : Bool
  path : List String
  pairs : List (List String × Data)

/-- Adds a section at its path, where the tables on the way are made if they are missing. -/
def Section.place? (s : Section) : List String → Entries → Option Entries
  | [], _ => none
  | [name], es =>
    match es.get? name, s.isRow with
    | none, true => (Entries.ofPairs? [] s.pairs).map fun row => es ++ [(name, .tables [row])]
    | none, false => (Entries.ofPairs? [] s.pairs).map fun t => es ++ [(name, .table .header t)]
    | some (.tables rows), true =>
      (Entries.ofPairs? [] s.pairs).map fun row => es.set name (.tables (rows ++ [row]))
    | some (.table .inner t), false =>
      (Entries.ofPairs? t s.pairs).map fun t => es.set name (.table .header t)
    | _, _ => none
  | name :: rest, es =>
    match es.get? name with
    | none => (s.place? rest []).map fun inner => es ++ [(name, .table .inner inner)]
    | some (.table origin inner) =>
      (s.place? rest inner).map fun inner => es.set name (.table origin inner)
    | some (.tables rows) =>
      (Entries.onLast (s.place? rest) rows).map fun rows => es.set name (.tables rows)
    | some (.value _) => none

def placeAll? (es : Entries) : List Section → Option Entries
  | [] => some es
  | s :: rest =>
    match s.place? s.path es with
    | some es => placeAll? es rest
    | none => none

end PathRouting.Toml
