import PathRouting.Files.Fault
import PathRouting.Path

/-!
# Disks

A disk is a tree of directories with files in it, given by the places of both. A place is the list of
names that lead to it from the root. A file name is followed step by step from the root or from the
place where relative names start, and each step but the last has to lead into a directory.
-/

namespace PathRouting.Files
set_option autoImplicit false

/-- The directories apart from the root, the files with their content, and where relative names
start. -/
structure Disk where
  directories : List (List String)
  files : List (List String × ByteArray)
  start : List String := []

inductive Entry where
  | directory
  | file (content : ByteArray)

namespace Disk

/-- The longest name of a single step, in bytes. -/
def longestStep : Nat := 255

/-- The longest file name as a whole, in bytes. -/
def longestName : Nat := 4095

def entry? (d : Disk) (place : List String) : Option Entry :=
  if place = [] ∨ place ∈ d.directories then some .directory
  else (d.files.find? fun f => f.1 = place).map fun f => .file f.2

/-- Takes one step from a place. One dot stays there and two dots lead back. Whether there is anything
at the new place is found out by the next step. -/
def step (d : Disk) (place : List String) (name : String) : Except SystemFault (List String) :=
  match d.entry? place with
  | none => .error .missing
  | some (.file _) => .error .notDirectory
  | some .directory =>
    if name = "." then .ok place
    else if name = ".." then .ok place.dropLast
    else if longestStep < name.utf8ByteSize then .error .nameTooLong
    else .ok (place ++ [name])

def walk (d : Disk) (place : List String) : List String → Except SystemFault (List String)
  | [] => .ok place
  | name :: rest =>
    match d.step place name with
    | .ok next => d.walk next rest
    | .error e => .error e

/-- The steps that a file name spells out. A separator at the end asks for a directory. -/
def steps (name : String) : List String :=
  if name.toList.getLast? = some '/' then pieces name ++ ["."] else pieces name

/-- The place that a file name leads to. -/
def locate (d : Disk) (name : String) : Except SystemFault (List String) :=
  if name = "" then .error .missing
  else if longestName < name.utf8ByteSize then .error .nameTooLong
  else d.walk (if name.toList.head? = some '/' then [] else d.start) (steps name)

/-- The content of the file that a name leads to. -/
def read (d : Disk) (name : String) : Except ReadFault ByteArray :=
  match d.locate name with
  | .error e => .error (.system e)
  | .ok place =>
    match d.entry? place with
    | none => .error (.system .missing)
    | some .directory => .error (.system .isDirectory)
    | some (.file content) => .ok content

end Disk

end PathRouting.Files
