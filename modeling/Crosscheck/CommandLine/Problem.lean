/-
**Problems of a command.**

* `Problem.message`, `Problem.cause?`: what went wrong, and why;
* `Problem.line`, `Problem.lines`: a problem as it is reported, with its cause behind it or below
  it.
-/
import Crosscheck.CommandLine.Argument
import Crosscheck.Failure
import Crosscheck.Text.Number

namespace Crosscheck

/-- What is wrong with the value of an option. -/
inductive BadValue where
  /-- It is missing or no text. -/
  | misuse (cause : Misuse)
  /-- It is no number. -/
  | number (cause : Number.Defect)
  deriving DecidableEq

/-- Why a command ends without success. -/
inductive Problem where
  /-- Help was asked for, or is needed. -/
  | help (text : String)
  /-- There is no such level of notes. -/
  | unknownLevel (name : String)
  /-- There is no such command. -/
  | unknownCommand (name : String)
  /-- The command line is wrong. -/
  | misuse (cause : Misuse)
  /-- The value of an option is wrong. -/
  | badValue (option : String) (cause : BadValue)
  /-- An option cannot be used with the fixed outer wrappers. -/
  | notWithEgrep (option : String)
  /-- No fixture is given. -/
  | noFixture
  /-- More than one fixture is given. -/
  | secondFixture
  /-- A fixture cannot be read; the reason is given. -/
  | unreadable (path : Bytes) (reason : String)
  /-- A fixture is wrong. -/
  | malformed (path : Bytes) (cause : Failure)
  /-- A run stopped. -/
  | run (cause : Failure)
  /-- A run found failures. -/
  | failuresFound (count : Nat)
  /-- Results differ from a fixture. -/
  | resultsDiffer (count : Nat) (path : Bytes)
  deriving DecidableEq

namespace Problem

/-- What went wrong. -/
def message : Problem → String
  | help text => text
  | unknownLevel name => s!"unrecognized log level '{name}'"
  | unknownCommand name => s!"unrecognized command '{name}'"
  | misuse cause => cause.message
  | badValue option _ => option
  | notWithEgrep option => s!"{option} is not supported by the egrep command"
  | noFixture => "a fixture path is required"
  | secondFixture => "only one fixture is allowed"
  | unreadable path _ => s!"failed to read {Bytes.lossyText path}"
  | malformed path _ => s!"failed to parse {Bytes.lossyText path}"
  | run cause => cause.message
  | failuresFound count => s!"found {count} failures, set RUST_LOG=warn to see them"
  | resultsDiffer count path => s!"{count} results differ from {Bytes.lossyText path}"

/-- Why it went wrong, when there is more to say. -/
def cause? : Problem → Option String
  | badValue _ (.misuse cause) => some cause.message
  | badValue _ (.number cause) => some cause.message
  | unreadable _ reason => some reason
  | malformed _ cause => some cause.message
  | _ => none

/-- A problem with its cause behind it. -/
def line (problem : Problem) : String :=
  match problem.cause? with
  | some cause => s!"{problem.message}: {cause}"
  | none => problem.message

/-- A problem with its cause below it. -/
def lines (problem : Problem) : String :=
  match problem.cause? with
  | some cause => s!"{problem.message}\n\nCaused by:\n    {cause}"
  | none => problem.message

end Problem

end Crosscheck
