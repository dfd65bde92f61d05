import PathRouting.Text.Quoted

/-!
# Unreadable files

Why reading a file gives no text. Faults of the system are known by their numbers.
-/

namespace PathRouting.Files
set_option autoImplicit false

/-- Why the system does not hand out the content of a file. -/
inductive SystemFault where
  | missing
  | denied
  | notDirectory
  | isDirectory
  | nameTooLong
  | other (number : Nat) (description : String)
deriving DecidableEq

namespace SystemFault

def number : SystemFault → Nat
  | missing => 2
  | denied => 13
  | notDirectory => 20
  | isDirectory => 21
  | nameTooLong => 36
  | other number _ => number

/-- The class of the fault, as a single word. -/
def kind : SystemFault → String
  | missing => "NotFound"
  | denied => "PermissionDenied"
  | notDirectory => "NotADirectory"
  | isDirectory => "IsADirectory"
  | nameTooLong => "InvalidFilename"
  | other _ _ => "Uncategorized"

def description : SystemFault → String
  | missing => "No such file or directory"
  | denied => "Permission denied"
  | notDirectory => "Not a directory"
  | isDirectory => "Is a directory"
  | nameTooLong => "File name too long"
  | other _ description => description

/-- The fault with a number; the description is kept if the number is not a known one. -/
def ofNumber (number : Nat) (description : String) : SystemFault :=
  ([missing, denied, notDirectory, isDirectory, nameTooLong].find? fun f => f.number = number).getD
    (other number description)

end SystemFault

/-- Why a file has no text: the system does not hand it out, or its bytes are not UTF-8. -/
inductive ReadFault where
  | system (fault : SystemFault)
  | notText
deriving DecidableEq

namespace ReadFault

def message : ReadFault → String
  | system fault => fault.description ++ " (os error " ++ Text.count fault.number ++ ")"
  | notText => "stream did not contain valid UTF-8"

def diagnostic : ReadFault → String
  | system fault =>
    Text.diagnosticRecord "Os"
      [("code", Text.count fault.number), ("kind", fault.kind),
        ("message", Text.quoted fault.description)]
  | notText =>
    Text.diagnosticRecord "Error"
      [("kind", "InvalidData"), ("message", Text.quoted notText.message)]

end ReadFault

end PathRouting.Files
