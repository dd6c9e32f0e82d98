/-
**Engines.**

An engine compiles a regexp to a matcher, which answers whether all ways to search a haystack agree
and what the match is. What an engine answers depends on nothing but what it is asked.

* `Engine`, `Matcher`: engines and what they compile to;
* `Engine.consult`, `Matcher.check`, `Matcher.find`: the questions to an engine, as a run asks them.
-/
import Crosscheck.Journal

namespace Crosscheck

/-- A regexp that an engine compiled. -/
structure Matcher where
  /-- Whether all ways to search a haystack agree, and what is noted on the way. -/
  agrees : Bytes → Bool × List Note
  /-- The match in a haystack. -/
  captures : Bytes → Anchor → MatchKind → Option Captures

/-- An engine: the matcher of a regexp or why there is none, and what is noted on the way. -/
structure Engine where
  /-- Compiles a regexp. -/
  compile : String → Except Failure Matcher × List Note

/-- Asks an engine for the matcher of a regexp. -/
def Engine.consult (engine : Engine) (regexp : String) (journal : Journal) :
    Except Failure Matcher × Journal :=
  let (outcome, notes) := engine.compile regexp
  (outcome, (journal.call (.compile regexp)).notes notes)

namespace Matcher

/-- Asks whether all ways to search a haystack agree. -/
def check (matcher : Matcher) (haystack : Bytes) (journal : Journal) : Bool × Journal :=
  let (agrees, notes) := matcher.agrees haystack
  (agrees, (journal.call (.test haystack)).notes notes)

/-- Asks for the match in a haystack. -/
def find (matcher : Matcher) (haystack : Bytes) (anchor : Anchor) (kind : MatchKind)
    (journal : Journal) : Option Captures × Journal :=
  (matcher.captures haystack anchor kind, journal.call (.captures haystack anchor kind))

/-- Asks for the four results of a record, in their order. No matcher finds no match. -/
def record : Option Matcher → Bytes → Journal → Record × Journal
  | none, _, journal => (.unmatched, journal)
  | some matcher, haystack, journal =>
    let (wholeFirst, journal) := matcher.find haystack .both .leftmostFirst journal
    let (anywhereFirst, journal) := matcher.find haystack .unanchored .leftmostFirst journal
    let (wholeLongest, journal) := matcher.find haystack .both .leftmostLongest journal
    let (anywhereLongest, journal) := matcher.find haystack .unanchored .leftmostLongest journal
    (⟨wholeFirst, anywhereFirst, wholeLongest, anywhereLongest⟩, journal)

end Matcher

end Crosscheck
