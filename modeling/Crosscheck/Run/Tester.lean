/-
**Testers.**

A tester takes regexps from a source of candidates and wraps and compiles each of them. It then
either compares the searches of the engine on every haystack, or writes the results on every
haystack into a fixture. A regexp that the engine does not take is left out of the comparison, and
stands in a fixture without a match.

* `Tester.handle`: one candidate;
* `Tester.generate`: all candidates, from the first one on;
* `Tester.summary`: what came out so far.
-/
import Crosscheck.Engine
import Crosscheck.Fixture.Writer
import Crosscheck.Generate.Candidates
import Crosscheck.Generate.Haystacks
import Crosscheck.Run.Configuration
import Crosscheck.Run.Parameters

namespace Crosscheck

/-- What a tester does with a regexp. -/
inductive Task where
  /-- Compares the searches of the engine. -/
  | compare
  /-- Writes the results of the engine. -/
  | record (writer : Fixture.Writer)

/-- A run at some point. -/
structure Tester where
  /-- The engine that is asked. -/
  engine : Engine
  /-- What is tested. -/
  parameters : Parameters
  /-- How it is tested. -/
  configuration : Configuration
  /-- Where candidates come from. -/
  candidates : Candidates
  /-- Where haystacks come from. -/
  haystacks : Haystacks
  /-- What is done with a regexp. -/
  task : Task
  /-- What was counted so far. -/
  counters : Counters
  /-- What the run left behind so far. -/
  journal : Journal

namespace Tester

/-- A step of a tester. It may stop with a fault, and what it did until then stays done. -/
abbrev Step := EStateM Fault Tester

/-! ### The start -/

/-- Checks parameters and configuration. -/
def check (parameters : Parameters) (configuration : Configuration) :
    Except Misconfiguration Unit := do
  parameters.check
  if configuration.maxBadInputs = 0 then throw .noBadInputs

/-- A tester for a task. -/
def ofTask (engine : Engine) (parameters : Parameters) (configuration : Configuration)
    (task : Task) (journal : Journal) : Except Fault Tester :=
  match check parameters configuration, Candidates.ofSpace parameters.space with
  | .error cause, _ => .error (.failure (.misconfigured cause))
  | .ok (), .error violation => .error (.violation violation)
  | .ok (), .ok candidates =>
    .ok ⟨engine, parameters, configuration, candidates,
      .ofAlphabet parameters.maxLength parameters.symbols, task, .zero, journal⟩

/-- A tester that compares. -/
def comparing (engine : Engine) (parameters : Parameters) (configuration : Configuration)
    (journal : Journal) : Except Fault Tester :=
  ofTask engine parameters configuration .compare journal

/-- A tester that writes a fixture. Random haystacks are refused, since a fixture can be made
again. -/
def recording (engine : Engine) (parameters : Parameters) (configuration : Configuration)
    (sink : Sink) (journal : Journal) : Except Fault Tester :=
  match configuration.randomHaystacks with
  | some _ => .error (.failure (.misconfigured .randomFixture))
  | none => ofTask engine parameters configuration (.record (.ofSink sink)) journal

/-- Takes random candidates from here on. -/
def useRandom (tester : Tester) (draws : Draws) : Tester :=
  { tester with candidates := tester.candidates.useRandom draws.seed draws.count }

/-! ### What a tester shows -/

/-- What came out so far. -/
def summary (tester : Tester) : Summary :=
  ⟨tester.counters, tester.parameters.maxLength, tester.parameters.symbols.length⟩

/-- The sink of a tester that writes a fixture. -/
def sink? (tester : Tester) : Option Sink :=
  match tester.task with
  | .compare => none
  | .record writer => some writer.sink

/-- Where a tester prints its progress: not where a fixture may go. -/
def progressChannel (tester : Tester) : Channel :=
  match tester.task with
  | .compare => .output
  | .record _ => .error

/-! ### One regexp -/

/-- Adds a note. -/
def note (content : Note) : Step Unit :=
  modify fun tester => { tester with journal := tester.journal.note content }

/-- Prints a regexp over the one before, when that is asked for. -/
def showProgress (regexp : String) : Step Unit :=
  modify fun tester =>
    if tester.configuration.showsProgress then
      { tester with journal := tester.journal.printText tester.progressChannel s!"\r{regexp}" }
    else tester

/-- Compiles a regexp. There is no matcher when the engine does not take it. -/
def compile (regexp : String) : Step (Option Matcher) := fun tester =>
  match tester.engine.consult regexp tester.journal with
  | (.ok matcher, journal) => .ok (some matcher) { tester with journal := journal }
  | (.error failure, journal) =>
    if failure.isCompileFailure then
      .ok none { tester with journal := journal.note (.skipped regexp failure) }
    else .error (.failure failure) { tester with journal := journal }

/-! ### Comparison -/

/-- What changes while a regexp is compared. -/
structure Progress where
  /-- The haystacks that are left. -/
  haystacks : Haystacks
  /-- The counters. -/
  counters : Counters
  /-- The journal. -/
  journal : Journal

/-- Tests a regexp on the haystacks that are left, until it failed on `limit` of them. It failed on
`failed` so far. -/
def testFrom (matcher : Matcher) (regexp : String) (limit failed : Nat) (haystacks : Haystacks)
    (counters : Counters) (journal : Journal) : Progress :=
  match _step : haystacks.next with
  | none => ⟨haystacks, counters, journal⟩
  | some (haystack, rest) =>
    match matcher.check (Bytes.ofText haystack) (journal.note (.testing regexp haystack)) with
    | (true, journal) => testFrom matcher regexp limit failed rest counters.addTest journal
    | (false, journal) =>
      let counters := counters.addTest.addFailure
      if limit ≤ failed + 1 then
        ⟨rest, counters, journal.note (.abandoned regexp (failed + 1))⟩
      else testFrom matcher regexp limit (failed + 1) rest counters journal
termination_by haystacks.remaining
decreasing_by all_goals (rw [Haystacks.next_remaining _step]; exact Nat.lt_succ_self _)

/-- The haystacks of a comparison: an extra empty one, and then all of them or random ones. -/
def comparedHaystacks (tester : Tester) : Haystacks :=
  let haystacks := tester.haystacks.reset.forceEmpty
  match tester.configuration.randomHaystacks with
  | some draws => haystacks.useRandom draws.seed draws.count
  | none => haystacks

/-- Compares the searches for a regexp. -/
def compare (regexp : String) : Step Unit := do
  match ← compile regexp with
  | none => return
  | some matcher =>
    modify fun tester =>
      let progress := testFrom matcher regexp tester.configuration.maxBadInputs 0
        tester.comparedHaystacks tester.counters tester.journal
      { tester with
        haystacks := progress.haystacks
        counters := progress.counters
        journal := progress.journal }

/-! ### Recording -/

/-- A step of the writer of a fixture. A tester that compares has none. -/
def write (step : Fixture.Writer.Step) : Step Unit := fun tester =>
  match tester.task with
  | .compare => .ok () tester
  | .record writer =>
    match step writer with
    | .ok () writer => .ok () { tester with task := .record writer }
    | .error fault writer => .error fault { tester with task := .record writer }

/-- The haystacks of a fixture. -/
def recordedHaystacks (tester : Tester) : Haystacks := tester.haystacks.reset

/-- Writes the record of a regexp on a haystack. -/
def recordOn (matcher : Option Matcher) (haystack : String) : Step Unit := do
  let tester ← get
  let (results, journal) := Matcher.record matcher (Bytes.ofText haystack) tester.journal
  set { tester with journal := journal }
  write (Fixture.Writer.record results)

/-- Whether the haystacks are written already. -/
def hasHaystacks (tester : Tester) : Bool :=
  match tester.task with
  | .compare => true
  | .record writer => writer.hasHaystacks

/-- Starts the haystacks again. -/
def restart : Step Unit :=
  modify fun tester => { tester with haystacks := tester.recordedHaystacks }

/-- Takes a step for each haystack that is left, up to the first that fails. The tester keeps where
its haystacks are. -/
def forEachHaystack (act : String → Step Unit) : Step Unit := do
  (← get).haystacks.forEach fun haystack rest => do
    modify fun tester => { tester with haystacks := rest }
    act haystack

/-- Writes the haystacks. -/
def writeHaystacks : Step Unit := do
  restart
  write Fixture.Writer.beginHaystacks
  forEachHaystack fun haystack => write (Fixture.Writer.quoted (Bytes.ofText haystack))
  write Fixture.Writer.endHaystacks

/-- Writes a regexp and its records, and before the first one the haystacks. -/
def record (regexp : String) : Step Unit := do
  let matcher ← compile regexp
  if !(← get).hasHaystacks then writeHaystacks
  write (Fixture.Writer.regexp regexp)
  restart
  forEachHaystack (recordOn matcher)

/-! ### Candidates -/

/-- The regexp for a candidate. -/
def wrap (candidate : String) : Step String := fun tester =>
  match tester.parameters.wrap candidate with
  | .ok regexp => .ok regexp tester
  | .error violation => .error (.violation violation) tester

/-- Tests one candidate. -/
def handle (candidate : String) : Step Unit := do
  modify fun tester => { tester with counters := tester.counters.addRegexp }
  let regexp ← wrap candidate
  showProgress regexp
  match (← get).task with
  | .compare => compare regexp
  | .record _ => record regexp

/-- Tests all candidates that a source has left. -/
def handleFrom (candidates : Candidates) : Step Unit := fun tester =>
  match _step : candidates.next with
  | .error violation => .error (.violation violation) tester
  | .ok (none, rest) => .ok () { tester with candidates := rest }
  | .ok (some candidate, rest) =>
    match handle candidate { tester with candidates := rest } with
    | .ok () tester => handleFrom rest tester
    | .error fault tester => .error fault tester
termination_by candidates.remaining
decreasing_by exact Candidates.next_remaining _step

/-- Tests all candidates, from the first one on. -/
def generate : Step Unit := do
  handleFrom (← get).candidates.reset
  write Fixture.Writer.flush
  note (.finished (← get).counters)

end Tester

end Crosscheck
