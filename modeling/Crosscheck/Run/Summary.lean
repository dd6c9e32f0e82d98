/-
**Counters and summaries.**

* `Counters`: what a run counts;
* `Summary.text`: the line that reports a run;
* `Summary.report`: what is said when a run found failures.
-/

namespace Crosscheck

/-- What a run counts. -/
structure Counters where
  /-- Regexps, those that no engine accepts included. -/
  regexps : Nat
  /-- Haystacks tested. -/
  tests : Nat
  /-- Haystacks on which searches disagree. -/
  failures : Nat
  deriving DecidableEq

namespace Counters

/-- The counters at the start of a run. -/
def zero : Counters := ⟨0, 0, 0⟩

/-- One regexp more. -/
def addRegexp (counters : Counters) : Counters := { counters with regexps := counters.regexps + 1 }

/-- One test more. -/
def addTest (counters : Counters) : Counters := { counters with tests := counters.tests + 1 }

/-- One failure more. -/
def addFailure (counters : Counters) : Counters :=
  { counters with failures := counters.failures + 1 }

/-- The counters of two runs together. -/
def add (first second : Counters) : Counters :=
  ⟨first.regexps + second.regexps, first.tests + second.tests, first.failures + second.failures⟩

end Counters

/-- The outcome of a run. -/
structure Summary where
  /-- What was counted. -/
  counters : Counters
  /-- The greatest number of symbols in a haystack. -/
  maxLength : Nat
  /-- The number of symbols that haystacks are made of. -/
  symbolCount : Nat
  deriving DecidableEq

namespace Summary

/-- The line that reports a run. -/
def text (summary : Summary) : String :=
  s!"{summary.counters.regexps} regexps, {summary.counters.tests} tests, " ++
    s!"{summary.counters.failures} failures [{summary.maxLength}/{summary.symbolCount} str]"

/-- A line of tildes. -/
def rule : String := "".pushn '~' 79

/-- What is said when a run found failures. -/
def report (summary : Summary) : String :=
  s!"found {summary.counters.failures} failures:\n{rule}\n{summary.text}\n{rule}\n\n" ++
    "Set RUST_LOG=warn to see every disagreement.\n"

end Summary

end Crosscheck
