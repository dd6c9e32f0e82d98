/-
**Notes.**

A run notes what it does. A note has a level, which says how much it matters, and a source, which
says what part of the program wrote it.

* `Level`: from errors to the finest trace;
* `Finding`: what a search reports, with its text;
* `Note.message`: the text of a note.
-/
import Crosscheck.Fixture.Record
import Crosscheck.Regex
import Crosscheck.Run.Summary

namespace Crosscheck

/-- How much a note matters. -/
inductive Level where
  /-- An error. -/
  | error
  /-- A warning. -/
  | warn
  /-- Information. -/
  | info
  /-- Detail on how a run goes on. -/
  | debug
  /-- Every single step. -/
  | trace
  deriving DecidableEq

namespace Level

/-- The place of a level; what matters most comes first. -/
def rank : Level → Nat
  | error => 0
  | warn => 1
  | info => 2
  | debug => 3
  | trace => 4

/-- The name of a level. -/
def name : Level → String
  | error => "ERROR"
  | warn => "WARN"
  | info => "INFO"
  | debug => "DEBUG"
  | trace => "TRACE"

end Level

/-- What a search reports. -/
inductive Finding where
  /-- A match with its groups. -/
  | captures (result : Option Captures)
  /-- The span of a match. -/
  | span (result : Option Span)
  /-- Whether there is a match. -/
  | found (result : Bool)
  deriving DecidableEq

namespace Finding

/-- What may be missing, in full. -/
def optionText {α : Type} (text : α → String) : Option α → String
  | some value => s!"Some({text value})"
  | none => "None"

/-- A span in full. -/
def spanText (span : Span) : String :=
  "Span \x7b start: " ++ toString span.start ++ ", end: " ++ toString span.stop ++ " \x7d"

/-- A match in full. -/
def capturesText (captures : Captures) : String :=
  let spans := captures.spans.map (optionText spanText)
  "Captures \x7b spans: [" ++ ", ".intercalate spans ++ "] \x7d"

/-- A finding in full. -/
def text : Finding → String
  | captures result => optionText capturesText result
  | span result => optionText spanText result
  | found result => if result then "true" else "false"

end Finding

/-- Two findings that ought to be the same and are not. -/
structure Disagreement where
  /-- The name of the search that reports something else than the reference. -/
  searcher : String
  /-- The regexp. -/
  regexp : String
  /-- The haystack. -/
  haystack : Bytes
  /-- Where a match had to be. -/
  anchor : Anchor
  /-- Which match was asked for. -/
  kind : MatchKind
  /-- What the reference reports. -/
  expected : Finding
  /-- What the search reports. -/
  reported : Finding
  deriving DecidableEq

/-- Something that a run notes. -/
inductive Note where
  /-- A regexp was compiled. -/
  | compiled (regex : Regex)
  /-- The second engine compiled a regexp. -/
  | compiledBySecond (regexp : String)
  /-- The second engine does not take a regexp that the first one takes. -/
  | refusedBySecond (regexp : String)
  /-- The searches are about to be compared on a haystack. -/
  | comparing (haystack : Bytes)
  /-- Two findings differ. -/
  | disagreement (difference : Disagreement)
  /-- A regexp of a fixture does not compile. -/
  | fixtureRegexpRefused (regexp : String) (cause : Failure)
  /-- A regexp is about to be tested on a haystack. -/
  | testing (regexp haystack : String)
  /-- A regexp does not compile and is left out. -/
  | skipped (regexp : String) (cause : Failure)
  /-- The test of a regexp ends before its last haystack. -/
  | abandoned (regexp : String) (failures : Nat)
  /-- A run is finished. -/
  | finished (counters : Counters)
  /-- A run with one of the fixed outer wrappers starts. -/
  | wrapperStarted (wrapper : String)

namespace Note

/-- How much a note matters. -/
def level : Note → Level
  | compiled _ | comparing _ | testing .. => .trace
  | disagreement _ => .warn
  | compiledBySecond _ | refusedBySecond _ | fixtureRegexpRefused .. | skipped .. | abandoned ..
  | finished _ | wrapperStarted _ => .debug

/-- What part of the program writes a note. -/
def source : Note → String
  | compiled _ => "regex_exhaustive::engine"
  | compiledBySecond _ => "regex_automata::nfa::thompson::compiler"
  | refusedBySecond _ | comparing _ | disagreement _ => "regex_exhaustive::tester"
  | fixtureRegexpRefused .. => "regex_exhaustive::fixture"
  | testing .. | skipped .. | abandoned .. | finished _ => "regex_exhaustive::exhaustive"
  | wrapperStarted _ => "regex_exhaustive::cmd::egrep"

/-- The text of a disagreement. -/
def disagreementText (difference : Disagreement) : String :=
  s!"{difference.searcher} disagrees with the backtracker on regexp " ++
    s!"{Literal.ofText difference.regexp}, haystack {Literal.ofBytes difference.haystack}, " ++
    s!"{difference.anchor.name}, {difference.kind.name}: " ++
    s!"expected {difference.expected.text}, got {difference.reported.text}"

/-- The text of a note. -/
def message : Note → String
  | compiled regex => s!"compiled regexp {Literal.ofText regex.text} to {regex.listing}"
  | compiledBySecond regexp => s!"parsed: {Literal.ofText regexp}"
  | refusedBySecond regexp =>
    s!"regex-automata rejected {Literal.ofText regexp}, skipping it: error parsing regex"
  | comparing haystack => s!"testing haystack {Literal.ofBytes haystack}"
  | disagreement difference => disagreementText difference
  | fixtureRegexpRefused regexp cause =>
    s!"fixture regexp {Literal.ofText regexp} did not compile: {cause.message}"
  | testing regexp haystack =>
    s!"testing {Literal.ofText regexp} on {Literal.ofText haystack}"
  | skipped regexp cause => s!"skipping {Literal.ofText regexp}: {cause.message}"
  | abandoned regexp failures =>
    s!"giving up on {Literal.ofText regexp} after {failures} bad input(s)"
  | finished counters =>
    s!"finished: {counters.regexps} regexps, {counters.tests} tests, {counters.failures} failures"
  | wrapperStarted wrapper => s!"egrep run with {Literal.ofText wrapper}"

end Note

end Crosscheck
