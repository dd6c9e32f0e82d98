/-
**Replaying fixtures.**

A fixture is replayed by asking an engine for every result in it. An engine that does not take a
regexp finds no match; any other failure of the engine ends the replay.

* `Fixture.replay`: the results that differ, in the order of the fixture;
* `Fixture.Mismatch.text`: the line that reports one.
-/
import Crosscheck.Engine
import Crosscheck.Fixture.Block

namespace Crosscheck

namespace Fixture

/-- A result that differs from the one in a fixture. -/
structure Mismatch where
  /-- The regexp. -/
  regexp : String
  /-- The number of the line that introduces the regexp. -/
  line : Nat
  /-- The haystack. -/
  haystack : Bytes
  /-- Where a match had to be. -/
  anchor : Anchor
  /-- Which match was asked for. -/
  kind : MatchKind
  /-- The result in the fixture. -/
  expected : Option Captures
  /-- The result of the engine. -/
  reported : Option Captures
  deriving DecidableEq

namespace Mismatch

/-- The line that reports a mismatch. -/
def text (mismatch : Mismatch) : String :=
  s!"line {mismatch.line}: regexp {Literal.ofText mismatch.regexp} on " ++
    s!"{Literal.ofBytes mismatch.haystack} ({mismatch.anchor.name}, {mismatch.kind.name}): " ++
    s!"expected {Record.resultText mismatch.expected}, got {Record.resultText mismatch.reported}"

end Mismatch

/-- The differences between two records of an entry on a haystack. -/
def mismatches (entry : Entry) (haystack : Bytes) (expected reported : Record) : List Mismatch :=
  (Record.settings.zip (expected.results.zip reported.results)).filterMap
    fun ((anchor, kind), expected, reported) =>
      if expected = reported then none
      else some ⟨entry.regexp, entry.line, haystack, anchor, kind, expected, reported⟩

/-- Replays an entry on haystacks, each with its record. -/
def replayEntry (matcher : Option Matcher) (entry : Entry) :
    List (Bytes × Record) → Journal → List Mismatch × Journal
  | [], journal => ([], journal)
  | (haystack, expected) :: rest, journal =>
    let (reported, journal) := Matcher.record matcher haystack journal
    let (found, journal) := replayEntry matcher entry rest journal
    (mismatches entry haystack expected reported ++ found, journal)

/-- Asks an engine for the matcher of a regexp in a fixture; none when it does not take the
regexp. -/
def matcherOf (engine : Engine) (regexp : String) (journal : Journal) :
    Except Failure (Option Matcher) × Journal :=
  match engine.consult regexp journal with
  | (.ok matcher, journal) => (.ok (some matcher), journal)
  | (.error failure, journal) =>
    if failure.isCompileFailure then
      (.ok none, journal.note (.fixtureRegexpRefused regexp failure))
    else (.error failure, journal)

/-- Replays entries, each with the haystacks of its block. -/
def replayEntries (engine : Engine) :
    List (List Bytes × Entry) → Journal → Except Failure (List Mismatch) × Journal
  | [], journal => (.ok [], journal)
  | (haystacks, entry) :: rest, journal =>
    match matcherOf engine entry.regexp journal with
    | (.error failure, journal) => (.error failure, journal)
    | (.ok matcher, journal) =>
      let (found, journal) := replayEntry matcher entry (haystacks.zip entry.records) journal
      let (others, journal) := replayEntries engine rest journal
      (others.map (found ++ ·), journal)

/-- Replays a fixture. -/
def replay (engine : Engine) (fixture : Fixture) (journal : Journal) :
    Except Failure (List Mismatch) × Journal :=
  replayEntries engine
    (fixture.flatMap fun block => block.entries.map fun entry => (block.haystacks, entry)) journal

end Fixture

end Crosscheck
