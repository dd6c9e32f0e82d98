/-
**The program.**

* `main`: runs the command of the command line, and ends with its exit code.
-/
import Crosscheck.CommandLine.Session

namespace Crosscheck

/-- Why a file cannot be read. -/
def ioReason : IO.Error → String
  | .noFileOrDirectory .. | .noSuchThing .. => "No such file or directory (os error 2)"
  | .permissionDenied .. => "Permission denied (os error 13)"
  | .inappropriateType .. => "Is a directory (os error 21)"
  | failure => toString failure

/-- The contents of the file of a path, or why it cannot be read. -/
def readPath (path : Bytes) : IO (Except String Bytes) := do
  try
    return .ok (← IO.FS.readBinFile (Bytes.lossyText path)).toList
  catch failure =>
    return .error (ioReason failure)

/-- Prints what an event prints. -/
def printEvent (event : Event) : IO Unit := do
  match event.printed? with
  | some (.output, bytes) => (← IO.getStdout).write ⟨bytes.toArray⟩
  | some (.error, bytes) => (← IO.getStderr).write ⟨bytes.toArray⟩
  | none => return

end Crosscheck

open Crosscheck

/-- Runs the command of the command line. -/
def main (arguments : List String) : IO UInt32 := do
  let arguments := arguments.map Bytes.ofText
  let contents ← match Session.fixturePath? arguments with
    | some path => readPath path
    | none => pure (.error "")
  let ending := Session.run
    { arguments
      level := (← IO.getEnv "RUST_LOG").getD ""
      causesBelow := (← IO.getEnv "RUST_BACKTRACE") == some "1"
      contentsAt := fun _ => contents }
  ending.events.forM printEvent
  return ending.code.toUInt32
