/-
**Running the program.**

The program is given its command line, two variables of its environment and the contents of files.
It prints, and ends with an exit code: 0 for success, 1 when a problem was reported, and 101 when a
precondition did not hold.

* `Invocation`: what the program is given;
* `Session.run`: what it prints and how it ends;
* `Session.fixturePath?`: the file that it will read.
-/
import Crosscheck.CommandLine.Reading
import Crosscheck.CommandLine.Table
import Crosscheck.Fixture.Reader
import Crosscheck.Fixture.Replay
import Crosscheck.Run.Matrix

namespace Crosscheck

/-- What the program is given. -/
structure Invocation where
  /-- The command line. -/
  arguments : List Bytes
  /-- The name of the last level of notes to be printed. -/
  level : String
  /-- Whether the cause of a problem is reported below it and not behind it. -/
  causesBelow : Bool
  /-- The contents of a file, or why it cannot be read. -/
  contentsAt : Bytes → Except String Bytes

/-- How the program ends. -/
structure Ending where
  /-- What was printed, notes included. -/
  events : List Event
  /-- The exit code. -/
  code : Nat

/-- What stops a command. -/
inductive Stop where
  /-- A problem is reported. -/
  | problem (cause : Problem)
  /-- A precondition did not hold. -/
  | violation (cause : Violation)
  deriving DecidableEq

/-- A step of a command. -/
abbrev Session := EStateM Stop Journal

namespace Session

/-! ### Steps -/

/-- Stops with a problem. -/
def fail {α : Type} (problem : Problem) : Session α := throw (.problem problem)

/-- Prints a text. -/
def print (channel : Channel) (text : String) : Session Unit :=
  modify fun journal => journal.printText channel text

/-- A step that may stop with a problem. -/
def ofExcept {α : Type} : Except Problem α → Session α
  | .ok value => return value
  | .error problem => fail problem

/-- What stops a command when a run stopped. -/
def stopOf : Fault → Stop
  | .failure cause => .problem (.run cause)
  | .violation cause => .violation cause
  | .notRunnable _ cause => .problem (.run cause)

/-- A run as a step. -/
def ofRun {α : Type} (run : Journal → Run.Outcome α) : Session α := fun journal =>
  match run journal with
  | (.ok value, journal) => .ok value journal
  | (.error fault, journal) => .error (stopOf fault) journal

/-! ### Tables -/

/-- The parameters in a table. -/
def parameterRows (parameters : Parameters) : Table :=
  [("max atoms", Table.ofNat parameters.space.maxAtoms),
    ("max ops", Table.ofNat parameters.space.maxOperators),
    ("alphabet", Table.ofTexts parameters.space.atoms),
    ("ops", Table.ofTexts parameters.space.operators),
    ("max string length", Table.ofNat parameters.maxLength),
    ("string alphabet", Table.ofTexts parameters.symbols),
    ("wrapper", Table.ofText parameters.wrapper),
    ("top wrapper", Table.ofText parameters.topWrapper)]

/-- The settings of the runs with fixed outer wrappers in a table. -/
def egrepRows (settings : Settings) : Table :=
  [("max atoms", Table.ofNat settings.maxAtoms),
    ("max ops", Table.ofNat settings.maxOperators),
    ("alphabet", Table.ofText settings.atoms),
    ("max string length", Table.ofNat settings.maxLength),
    ("string alphabet", Table.ofText settings.symbols),
    ("wrapper", Table.ofText settings.wrapper),
    ("reduced", Table.ofBool settings.reduced)]

/-- The random regexps and haystacks in a table. -/
def randomRows (settings : Settings) : Table :=
  [("regexp seed", toString settings.regexps.seed),
    ("regexp count", Table.ofNat settings.regexps.count),
    ("random strings", Table.ofDraws settings.randomHaystacks),
    ("reduced", Table.ofBool settings.reduced)]

/-- The counters in a table. -/
def counterRows (counters : Counters) : Table :=
  [("regexps", Table.ofNat counters.regexps), ("tests", Table.ofNat counters.tests),
    ("failures", Table.ofNat counters.failures)]

/-- Prints a table, unless there is to be none. -/
def printTable (settings : Settings) (channel : Channel) (table : Table) : Session Unit :=
  if settings.noTable then return else print channel table.text

/-- Ends the line that shows the progress, if progress is shown. -/
def endProgress (settings : Settings) (channel : Channel) : Session Unit :=
  if settings.showsRegexps then print channel "\n" else return

/-! ### Commands that compare -/

/-- Reports runs: a line for each of them, and a table of all. There must be no failures. -/
def report (settings : Settings) (table : Table) (summaries : List Summary) : Session Unit := do
  endProgress settings .output
  if !settings.quiet then
    print .output (String.join (summaries.map fun summary => summary.text ++ "\n"))
  let counters := (summaries.map (·.counters)).foldl Counters.add .zero
  printTable settings .output (table ++ counterRows counters)
  if counters.failures ≠ 0 then fail (.failuresFound counters.failures)

/-- The row of the time that a run took. -/
def runTime : Table := [("run time", Table.unmeasured)]

/-- Runs all candidates. -/
def exhaustive (settings : Settings) : Session Unit := do
  let parameters := settings.parameters
  let summary ←
    ofRun (Run.exhaustive Comparison.engine parameters settings.configuration)
  report settings
    (parameterRows parameters ++ [("reduced", Table.ofBool settings.reduced)] ++ runTime) [summary]

/-- Runs random candidates. -/
def random (settings : Settings) : Session Unit := do
  let parameters := settings.parameters
  let summary ←
    ofRun (Run.random Comparison.engine parameters settings.configuration settings.regexps)
  report settings (parameterRows parameters ++ randomRows settings ++ runTime) [summary]

/-- The parameters of the runs with fixed outer wrappers, when no option is in their way. -/
def egrepParameters (settings : Settings) : Session (List Parameters) :=
  match settings.egrepObstacle with
  | some option => fail (.notWithEgrep option)
  | none => return settings.egrepParameters

/-- Runs all candidates with each of the fixed outer wrappers. -/
def egrep (settings : Settings) : Session Unit := do
  let all ← egrepParameters settings
  let summaries ← all.mapM fun parameters => do
    modify fun journal => journal.note (.wrapperStarted parameters.topWrapper)
    ofRun (Run.exhaustive Comparison.engine parameters settings.configuration)
  report settings (egrepRows settings ++ runTime) summaries

/-! ### Commands on fixtures -/

/-- Writes a block for each of the parameters. What was written before a fault is returned too. -/
def recordEach (configuration : Configuration) :
    List Parameters → Sink → Journal → Run.Outcome Counters × Sink
  | [], sink, journal => ((.ok .zero, journal), sink)
  | parameters :: rest, sink, journal =>
    match Run.fixture Comparison.engine parameters configuration sink journal with
    | ((.error fault, journal), sink) => ((.error fault, journal), sink)
    | ((.ok summary, journal), sink) =>
      let ((counters, journal), sink) := recordEach configuration rest sink journal
      ((counters.map summary.counters.add, journal), sink)

/-- Writes a fixture. The fixture is all that goes where results go. -/
def fixture (settings : Settings) : Session Unit := do
  let all ← if settings.egrep then egrepParameters settings else pure [settings.parameters]
  let counters ← ofRun fun journal =>
    let ((counters, journal), sink) :=
      recordEach settings.configuration all (.ofRule .reliable) journal
    (counters, journal.print .output sink.bytes)
  endProgress settings .error
  printTable settings .error
    ((all.head?.map parameterRows).getD [] ++
      [("blocks", Table.ofNat all.length), ("reduced", Table.ofBool settings.reduced),
        ("regexps", Table.ofNat counters.regexps), ("write time", Table.unmeasured)])

/-- Reads a fixture from a file. -/
def readFixture (invocation : Invocation) (path : Bytes) : Session Fixture :=
  match invocation.contentsAt path with
  | .error reason => fail (.unreadable path reason)
  | .ok bytes =>
    match Fixture.read bytes with
    | .error failure => fail (.malformed path failure)
    | .ok fixture => return fixture

/-- Replays a fixture and prints what differs. -/
def verify (invocation : Invocation) (settings : Settings) : Session Unit := do
  let some path := settings.path | fail .noFixture
  let fixture ← readFixture invocation path
  let mismatches ← ofRun fun journal =>
    let (outcome, journal) := fixture.replay Comparison.engine journal
    (outcome.mapError .failure, journal)
  if !settings.quiet then
    print .output (String.join (mismatches.map fun mismatch => mismatch.text ++ "\n"))
  printTable settings .output
    [("parse time", Table.unmeasured), ("verify time", Table.unmeasured),
      ("blocks", Table.ofNat fixture.length), ("regexps", Table.ofNat fixture.regexps),
      ("mismatches", Table.ofNat mismatches.length)]
  if !mismatches.isEmpty then fail (.resultsDiffer mismatches.length path)

/-! ### The program -/

/-- Runs the command of a command line. -/
def command (invocation : Invocation) : Session Unit := do
  let (command, arguments) ← ofExcept (Reading.command (.ofList invocation.arguments))
  let settings ← ofExcept (Reading.settings command .standard arguments)
  match command with
  | .egrep => egrep settings
  | .exhaustive => exhaustive settings
  | .fixture => fixture settings
  | .random => random settings
  | .verify => verify invocation settings

/-- The level of notes that a name stands for; none for no notes. -/
def levelOf (name : String) : Except Problem (Option Level) :=
  if name = "" ∨ name = "off" then .ok none
  else if name = "error" then .ok (some .error)
  else if name = "warn" then .ok (some .warn)
  else if name = "info" then .ok (some .info)
  else if name = "debug" then .ok (some .debug)
  else if name = "trace" then .ok (some .trace)
  else .error (.unknownLevel name)

/-- How the program ends with a command. -/
def ending (invocation : Invocation) : EStateM.Result Stop Journal Unit → Ending
  | .ok () journal => ⟨journal.toList, 0⟩
  | .error (.problem problem) journal =>
    let text := if invocation.causesBelow then problem.lines else problem.line
    ⟨(journal.printText .error s!"{text}\n").toList, 1⟩
  | .error (.violation violation) journal =>
    ⟨(journal.printText .error s!"\n{violation.message}\n").toList, 101⟩

/-- What the program prints and how it ends. -/
def run (invocation : Invocation) : Ending :=
  match levelOf invocation.level with
  | .ok level => ending invocation (command invocation (.empty level false))
  | .error problem =>
    ⟨((Journal.empty none false).printText .error s!"Error: {problem.message}\n").toList, 1⟩

/-- The file that the program reads, if it reads one. -/
def fixturePath? (arguments : List Bytes) : Option Bytes :=
  match Reading.command (.ofList arguments) with
  | .ok (.verify, rest) =>
    match Reading.settings .verify .standard rest with
    | .ok settings => settings.path
    | .error _ => none
  | _ => none

end Session

namespace Event

/-- The line of a note. -/
def noteLine (note : Note) : String := s!"{note.level.name}|{note.source}|{note.message}\n"

/-- What an event prints, and where. Calls print nothing. -/
def printed? : Event → Option (Channel × Bytes)
  | note content => some (.error, Bytes.ofText (noteLine content))
  | call _ => none
  | print channel content => some (channel, content)

end Event

end Crosscheck
