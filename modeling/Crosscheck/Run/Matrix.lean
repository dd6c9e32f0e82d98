/-
**Whole runs.**

* `Run.exhaustive`, `Run.random`: all candidates or random ones, compared;
* `Run.exhaustiveTest`, `Run.randomTest`, `Run.testEach`: runs that must end without a failure;
* `Run.fixture`: all candidates, written into a fixture.
-/
import Crosscheck.Engine.Comparison
import Crosscheck.Run.Tester

namespace Crosscheck

namespace Run

/-- The outcome of a run and its journal. -/
abbrev Outcome (α : Type) := Except Fault α × Journal

/-- The outcome of a tester after all its candidates. -/
def finish (tester : Tester) : Outcome Summary :=
  match Tester.generate tester with
  | .ok () tester => (.ok tester.summary, tester.journal)
  | .error fault tester => (.error fault, tester.journal)

/-- Compares an engine on all candidates. -/
def exhaustive (engine : Engine) (parameters : Parameters) (configuration : Configuration)
    (journal : Journal) : Outcome Summary :=
  let parameters := if configuration.reducesScale then parameters.reduced else parameters
  match Tester.comparing engine parameters configuration journal with
  | .error fault => (.error fault, journal)
  | .ok tester => finish tester

/-- Compares an engine on random candidates and random haystacks. -/
def random (engine : Engine) (parameters : Parameters) (configuration : Configuration)
    (regexps : Draws) (journal : Journal) : Outcome Summary :=
  let parameters :=
    if configuration.reducesScale then parameters.reducedForRandom else parameters
  let haystacks := configuration.randomHaystacks.getD .haystacks
  let configuration := { configuration with randomHaystacks := some haystacks }
  match Tester.comparing engine parameters configuration journal with
  | .error fault => (.error fault, journal)
  | .ok tester => finish (tester.useRandom regexps)

/-- What a run comes to that must end without a failure. Its summary is printed. -/
def mustPass (selection : Selection) : Outcome Summary → Outcome Summary
  | (.ok summary, journal) =>
    let journal := journal.printText .output s!"{summary.text}\n"
    if summary.counters.failures = 0 then (.ok summary, journal)
    else (.error (.violation (.failuresFound summary)), journal)
  | (.error (.failure cause), journal) => (.error (.notRunnable selection cause), journal)
  | (.error fault, journal) => (.error fault, journal)

/-- Compares all searches on all candidates, which must not show a failure. -/
def exhaustiveTest (parameters : Parameters) (configuration : Configuration) (journal : Journal) :
    Outcome Summary :=
  mustPass .exhaustive (exhaustive Comparison.engine parameters configuration journal)

/-- Compares all searches on random candidates, which must not show a failure. -/
def randomTest (parameters : Parameters) (configuration : Configuration) (regexps : Draws)
    (journal : Journal) : Outcome Summary :=
  mustPass .random (random Comparison.engine parameters configuration regexps journal)

/-- Tests with each of the parameters, up to the first that does not pass. -/
def testEach : List Parameters → Journal → Outcome (List Summary)
  | [], journal => (.ok [], journal)
  | parameters :: rest, journal =>
    match exhaustiveTest parameters .standard journal with
    | (.ok summary, journal) =>
      let (summaries, journal) := testEach rest journal
      (summaries.map (summary :: ·), journal)
    | (.error fault, journal) => (.error fault, journal)

/-- Writes the results of an engine on all candidates into a fixture. The sink is returned whatever
happened. -/
def fixture (engine : Engine) (parameters : Parameters) (configuration : Configuration)
    (sink : Sink) (journal : Journal) : Outcome Summary × Sink :=
  let parameters := if configuration.reducesScale then parameters.reduced else parameters
  match Tester.recording engine parameters configuration sink journal with
  | .error fault => ((.error fault, journal), sink)
  | .ok tester =>
    match Tester.generate tester with
    | .ok () tester => ((.ok tester.summary, tester.journal), tester.sink?.getD sink)
    | .error fault tester => ((.error fault, tester.journal), tester.sink?.getD sink)

end Run

end Crosscheck
