import Provisioning.Configure.Program

/-!
# Running the configure program

The outer layer of the program: it reads the file with the stored settings and
prints what the program says.
-/

namespace Provisioning

set_option autoImplicit false

/-- Why a file could not be read.  Where the system gives no reason, the bytes of
the file are no text. -/
def reasonOf : IO.Error → String
  | .noFileOrDirectory .. => TextFile.systemReason "No such file or directory" 2
  | .inappropriateType _ code details => TextFile.systemReason details code.toNat
  | .permissionDenied _ code details => TextFile.systemReason details code.toNat
  | .invalidArgument _ code details => TextFile.systemReason details code.toNat
  | .userError _ => "stream did not contain valid UTF-8"
  | e => toString e

/-- The file under a path, as it is found. -/
def readTextFile (path : String) : IO TextFile := do
  match ← (IO.FS.readFile path).toBaseIO with
  | .ok text => return { path, contents := .ok text }
  | .error e => return { path, contents := .error (reasonOf e) }

/-- How the program ends for the given arguments. -/
def runProgram (arguments : List String) : IO ProgramEnd := do
  match ConfigureArguments.read arguments with
  | .error fault => return .ofFault fault
  | .ok a =>
    let file ← a.existing.mapM readTextFile
    return .ofPlan (a.plan file)

end Provisioning

/-- Prints the changes to the settings of a repository. -/
def main (arguments : List String) : IO UInt32 := do
  let ending ← Provisioning.runProgram arguments
  (← IO.getStdout).putStr ending.output
  (← IO.getStderr).putStr ending.errorOutput
  return ending.exitCode.toUInt32
