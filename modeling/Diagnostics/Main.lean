import Diagnostics.CommandLine.Run

/-!
# The program

Reads the files that the command line names, runs it, and writes what it has to say.
-/

set_option autoImplicit false

namespace Diagnostics.CommandLine

/-- Reads a file, or says why it cannot be read. -/
def readFile (path : Path) : IO (Except FileCause (List UInt8)) := do
  if path.hasNull then return .error .missing
  try
    return .ok (← IO.FS.readBinFile path.text).toList
  catch
    | .inappropriateType _ code _ => return .error (if code = 21 then .isDirectory else .notDirectory)
    | .invalidArgument _ code _ => return .error (if code = 36 then .nameTooLong else .missing)
    | _ => return .error .missing

end Diagnostics.CommandLine

open Diagnostics.CommandLine in
/-- Runs the command with the files that its words name. -/
def main (words : List String) : IO UInt32 := do
  let environment ← IO.getEnv "DCC_CATALOG"
  let mut contents := []
  for path in pathsOf environment words do
    contents := (path, ← readFile path) :: contents
  let known := contents
  let files : Diagnostics.Files := fun path => (known.lookup path).getD (.error .missing)
  let (outcome, terminal) := (run files environment words).perform {}
  IO.print terminal.out
  IO.eprint terminal.log
  match outcome with
  | .ok code => return code.toUInt32
  | .error fault =>
    IO.eprintln fault.message
    return 1
