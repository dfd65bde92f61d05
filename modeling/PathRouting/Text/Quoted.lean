/-!
# Quoted text and field listings

Two ways to quote a text between double quotes: the diagnostic form, and the form of JSON strings.
They agree on quotes, backslashes and the common escapes, and differ in how they write the remaining
control characters. Records and lists of fields are written around quoted texts.
-/

namespace PathRouting.Text
set_option autoImplicit false

/-- A control character: one of the two blocks of 32 that open the first two rows of Unicode, or the
delete character between them. -/
def isControl (c : Char) : Bool := c.toNat < 0x20 || (0x7F ≤ c.toNat && c.toNat < 0xA0)

/-- How the diagnostic form writes a character. -/
def diagnosticChar (c : Char) : List Char :=
  if c = '"' then ['\\', '"']
  else if c = '\\' then ['\\', '\\']
  else if c = '\n' then ['\\', 'n']
  else if c = '\r' then ['\\', 'r']
  else if c = '\t' then ['\\', 't']
  else if c = '\x00' then ['\\', '0']
  else if isControl c then
    ['\\', 'u', '\x7b'] ++ Nat.toDigits 16 c.toNat ++ ['\x7d']
  else [c]

/-- How a JSON string writes a character. -/
def jsonChar (c : Char) : List Char :=
  if c = '"' then ['\\', '"']
  else if c = '\\' then ['\\', '\\']
  else if c = '\n' then ['\\', 'n']
  else if c = '\r' then ['\\', 'r']
  else if c = '\t' then ['\\', 't']
  else if c = '\x08' then ['\\', 'b']
  else if c = '\x0c' then ['\\', 'f']
  else if c.toNat < 0x20 then
    let digits := Nat.toDigits 16 c.toNat
    ['\\', 'u'] ++ List.replicate (4 - digits.length) '0' ++ digits
  else [c]

def quotedBy (write : Char → List Char) (s : String) : String :=
  String.ofList ('"' :: s.toList.flatMap write ++ ['"'])

def quoted (s : String) : String := quotedBy diagnosticChar s

def jsonQuoted (s : String) : String := quotedBy jsonChar s

def diagnosticList (items : List String) : String := "[" ++ ", ".intercalate items ++ "]"

/-- A record in diagnostic form, its field values already written. -/
def diagnosticRecord (name : String) (fields : List (String × String)) : String :=
  name ++ " \x7b " ++ ", ".intercalate (fields.map fun f => f.1 ++ ": " ++ f.2) ++ " \x7d"

def truth (b : Bool) : String := if b then "true" else "false"

def count (n : Nat) : String := String.ofList (Nat.toDigits 10 n)

/-- A JSON array of texts, one a line. -/
def jsonLines (items : List String) : String :=
  if items.isEmpty then "[]"
  else "[\n" ++ ",\n".intercalate (items.map fun s => "  " ++ jsonQuoted s) ++ "\n]"

end PathRouting.Text
