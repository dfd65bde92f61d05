import PathRouting.CommandLine.Report

/-!
# The command line program

Reads the words and the configuration file, and writes the report.
-/

namespace PathRouting.CommandLine
set_option autoImplicit false

/-- The number of a system fault, which some calls report with a minus sign. -/
def faultNumber (code : UInt32) : Nat := min code.toNat (-code).toNat

/-- The fault that a failed attempt to read a file shows. -/
def systemFault : IO.Error → Files.SystemFault
  | .noFileOrDirectory _ code details => .ofNumber (faultNumber code) details
  | .permissionDenied _ code details => .ofNumber (faultNumber code) details
  | .inappropriateType _ code details => .ofNumber (faultNumber code) details
  | .invalidArgument _ code details => .ofNumber (faultNumber code) details
  | .otherError code details => .ofNumber (faultNumber code) details
  | e => .other 5 (toString e)

def readContent (file : String) : IO (Except Files.ReadFault ByteArray) := do
  try
    return .ok (← IO.FS.readBinFile file)
  catch e => return .error (.system (systemFault e))

def write (report : Report) : IO UInt32 := do
  (← IO.getStdout).putStr report.output
  if let some line := report.error then (← IO.getStderr).putStr (line ++ "\n")
  return UInt32.ofNat report.code

end PathRouting.CommandLine

open PathRouting.CommandLine

def main (words : List String) : IO UInt32 := do
  match Request.read words with
  | .error refusal => write (.refused refusal)
  | .ok request =>
    match request.configFile with
    | none => write (.ofRequest request fun _ => .error (.system .missing))
    | some file =>
      let content ← readContent file
      write (.ofRequest request fun _ => content)
