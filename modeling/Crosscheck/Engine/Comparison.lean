/-
**The engine that compares searches.**

A regexp is compiled to an automaton, and a haystack is searched with every anchor and match kind in
every way there is: by backtracking, which is the reference, and in lockstep; for all groups, for
the overall span alone, and for whether there is a match. For the first match there is a second
engine, whose automaton enters loops by another rule and which has no search up to the end of a
haystack: it gets a regexp with an assertion there instead.

* `Comparison.engine`: the engine;
* `Comparison.compare`: the disagreements on a haystack.
-/
import Crosscheck.Engine

namespace Crosscheck

/-- The automata of the second engine. -/
structure SecondEngine where
  /-- For the regexp as it is. -/
  plain : Regex
  /-- For the regexp up to the end of the haystack. -/
  ended : Regex

namespace SecondEngine

/-- Compiles a text by the rule of the second engine. -/
def compileText? (text : String) : Option Regex := do
  let pattern ← Pattern.ofText? text
  (Regex.ofPattern .bodyNotKnownNonempty text pattern).toOption

/-- The regexp with an assertion at its end. -/
def endedText (regexp : String) : String := s!"(?:{regexp})\\z"

/-- Compiles a regexp, as it is and with an assertion at its end. -/
def compile (regexp : String) : Option SecondEngine × List Note :=
  match compileText? regexp with
  | none => (none, [.refusedBySecond regexp])
  | some plain =>
    match compileText? (endedText regexp) with
    | none => (none, [.compiledBySecond regexp, .refusedBySecond regexp])
    | some ended =>
      (some ⟨plain, ended⟩, [.compiledBySecond regexp, .compiledBySecond (endedText regexp)])

/-- The first match in a haystack. -/
def captures (second : SecondEngine) (haystack : Bytes) : Anchor → Option Captures
  | .unanchored =>
    (second.plain.search second.plain.newCache haystack
      ⟨.unanchored, .leftmostFirst, .lockstep⟩).1
  | .start =>
    (second.plain.search second.plain.newCache haystack ⟨.start, .leftmostFirst, .lockstep⟩).1
  | .both =>
    (second.ended.search second.ended.newCache haystack ⟨.start, .leftmostFirst, .lockstep⟩).1

end SecondEngine

/-- A regexp compiled for all searches that are compared. -/
structure Comparison where
  /-- The regexp for backtracking and lockstep. -/
  regex : Regex
  /-- The second engine, unless it does not take the regexp. -/
  second : Option SecondEngine

namespace Comparison

/-- The searches with one anchor and match kind beside the reference, each with what it ought to
report and what it reports, and the cache after all of them. -/
def findings (comparison : Comparison) (haystack : Bytes) (anchor : Anchor) (kind : MatchKind)
    (cache : Cache) : List (String × Finding × Finding) × Cache :=
  let regex := comparison.regex
  let lockstep : Search := ⟨anchor, kind, .lockstep⟩
  let backtracking : Search := ⟨anchor, kind, .backtracking⟩
  let (reference, cache) := regex.search cache haystack backtracking
  let overall := reference.map (·.overall)
  let (captures, cache) := regex.search cache haystack lockstep
  let (lockstepSpan, cache) := regex.find cache haystack lockstep
  let (backtrackingSpan, cache) := regex.find cache haystack backtracking
  let (isMatch, cache) := regex.isMatch cache haystack lockstep
  let second :=
    match comparison.second, kind with
    | some second, .leftmostFirst =>
      [("regex-automata PikeVM", .captures reference,
        .captures (second.captures haystack anchor))]
    | _, _ => []
  ([("PikeVM", .captures reference, .captures captures),
    ("PikeVM (span only)", .span overall, .span lockstepSpan),
    ("backtracker (span only)", .span overall, .span backtrackingSpan),
    ("PikeVM (is match)", .found reference.isSome, .found isMatch)] ++ second, cache)

/-- The disagreements with one anchor and match kind, and the cache after the searches. -/
def disagreements (comparison : Comparison) (haystack : Bytes) (anchor : Anchor)
    (kind : MatchKind) (cache : Cache) : List Disagreement × Cache :=
  let (findings, cache) := comparison.findings haystack anchor kind cache
  (findings.filterMap fun (searcher, expected, reported) =>
    if expected = reported then none
    else some ⟨searcher, comparison.regex.text, haystack, anchor, kind, expected, reported⟩, cache)

/-- The disagreements with the given anchors and match kinds. -/
def compareEach (comparison : Comparison) (haystack : Bytes) (cache : Cache) :
    List (Anchor × MatchKind) → List Disagreement
  | [] => []
  | (anchor, kind) :: rest =>
    let (found, cache) := comparison.disagreements haystack anchor kind cache
    found ++ compareEach comparison haystack cache rest

/-- All anchors with all match kinds, in the order in which they are compared. -/
def settings : List (Anchor × MatchKind) :=
  Anchor.all.flatMap fun anchor => MatchKind.all.map fun kind => (anchor, kind)

/-- The disagreements on a haystack. -/
def compare (comparison : Comparison) (haystack : Bytes) : List Disagreement :=
  comparison.compareEach haystack comparison.regex.newCache settings

/-- The matcher of a comparison. Its matches are those of the reference. -/
def matcher (comparison : Comparison) : Matcher where
  agrees haystack :=
    let found := comparison.compare haystack
    (found.isEmpty, .comparing haystack :: found.map .disagreement)
  captures haystack anchor kind :=
    (comparison.regex.search comparison.regex.newCache haystack
      ⟨anchor, kind, .backtracking⟩).1

/-- Compiles a regexp for all searches. -/
def compile (regexp : String) : Except Failure Matcher × List Note :=
  match Regex.compile regexp with
  | .ok regex =>
    let (second, notes) := SecondEngine.compile regexp
    (.ok (matcher ⟨regex, second⟩), .compiled regex :: notes)
  | .error failure => (.error failure, [])

/-- The engine that compares searches. -/
def engine : Engine := ⟨compile⟩

end Comparison

end Crosscheck
