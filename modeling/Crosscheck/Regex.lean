/-
**Compiled regexps.**

A regexp is compiled to an automaton, which every strategy searches with. A search works on a cache
that was made for the same regexp, and returns it for the next search.

* `Regex.compile`: the regexp of a text, or why there is none;
* `Regex.search`, `Regex.find`, `Regex.isMatch`: a match with its groups, its span, or whether
  there is one.
-/
import Crosscheck.Automaton.Build
import Crosscheck.Automaton.Listing
import Crosscheck.Pattern.Meaning
import Crosscheck.Search.Backtracking
import Crosscheck.Search.Lockstep

namespace Crosscheck

/-- A compiled regexp. -/
structure Regex where
  /-- The text it was compiled from. -/
  text : String
  /-- The automaton. -/
  automaton : Automaton

/-- What searches with a regexp work on. -/
structure Cache where
  /-- What searches in lockstep work on. -/
  lockstep : Lockstep.Cache
  /-- What searches by backtracking work on. -/
  backtracking : Backtracking.Cache

namespace Regex

/-- Compiles a pattern. -/
def ofPattern (rule : LoopRule) (text : String) (pattern : Pattern) : Except Failure Regex :=
  match Automaton.ofPattern rule pattern with
  | .ok automaton => .ok ⟨text, automaton⟩
  | .error feature => .error (.unsupported feature)

/-- Compiles a text. -/
def compile (text : String) : Except Failure Regex :=
  match Pattern.ofText? text with
  | some pattern => ofPattern .bodyKnownEmpty text pattern
  | none => .error .pattern

/-- The number of groups, the overall match included. -/
def groupCount (regex : Regex) : Nat := regex.automaton.groupCount

/-- How a regexp is shown. -/
def shown (regex : Regex) : String := s!"Regex({Literal.ofText regex.text})"

/-- The listing of the automaton of a regexp. -/
def listing (regex : Regex) : String := regex.automaton.listing regex.text

/-- A cache for searches with the regexp. -/
def newCache (regex : Regex) : Cache := ⟨.ofAutomaton regex.automaton, .empty⟩

/-- Searches for a match and returns its first `slotCount` slots. -/
def searchSlots (regex : Regex) (cache : Cache) (haystack : Bytes) (search : Search)
    (slotCount : Nat) : Option Slots × Cache :=
  match search.strategy with
  | .lockstep =>
    let (slots, lockstep) := Lockstep.search regex.automaton cache.lockstep haystack.toArray
      search.anchor search.kind slotCount
    (slots, { cache with lockstep := lockstep })
  | .backtracking =>
    let (slots, backtracking) := Backtracking.search regex.automaton cache.backtracking
      haystack.toArray search.anchor search.kind slotCount
    (slots, { cache with backtracking := backtracking })

/-- Searches for a match with all its groups. -/
def search (regex : Regex) (cache : Cache) (haystack : Bytes) (search : Search) :
    Option Captures × Cache :=
  let (slots, cache) := regex.searchSlots cache haystack search regex.automaton.slotCount
  (slots.bind Captures.ofSlots?, cache)

/-- Searches for the span of a match. No other group is tracked. -/
def find (regex : Regex) (cache : Cache) (haystack : Bytes) (search : Search) :
    Option Span × Cache :=
  let (slots, cache) := regex.searchSlots cache haystack search 2
  ((slots.bind Captures.ofSlots?).map (·.overall), cache)

/-- Whether there is a match. No group is tracked. -/
def isMatch (regex : Regex) (cache : Cache) (haystack : Bytes) (search : Search) : Bool × Cache :=
  let (slots, cache) := regex.searchSlots cache haystack search 0
  (slots.isSome, cache)

end Regex

end Crosscheck
