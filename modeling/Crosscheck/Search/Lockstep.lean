/-
**Searching in lockstep.**

All threads of a search advance together, one byte at a time. At each position the active states
stand in the order of preference, each with the slots of the thread that reached it first. Until a
match is found, an unanchored search starts a new thread at every position, behind the others.

* `Lockstep.sweep`: what the active states make of the byte at a position;
* `Lockstep.advance`: all positions from one on;
* `Lockstep.search`: a whole search.
-/
import Crosscheck.Search.Closure
import Crosscheck.Search.Settings

namespace Crosscheck

namespace Lockstep

/-- What a search works on. Nothing in it matters for the next search. -/
structure Cache where
  /-- The active states at the position. -/
  current : Active
  /-- The active states at the next position. -/
  next : Active
  /-- The slots of the best match so far. -/
  found : Slots

namespace Cache

/-- A cache for an automaton. -/
def ofAutomaton (automaton : Automaton) : Cache :=
  ⟨.ofAutomaton automaton, .ofAutomaton automaton, Array.replicate automaton.slotCount none⟩

/-- Prepares a search that tracks the given number of slots. -/
def setup (cache : Cache) (tracked : Nat) : Cache :=
  ⟨cache.current.setup tracked, cache.next.setup tracked, Array.replicate tracked none⟩

end Cache

/-- A sweep over the active states at one position. -/
structure Sweep where
  /-- The slots of the active states. -/
  table : SlotTable
  /-- The active states at the next position, so far. -/
  next : Active
  /-- The slots of the best match so far. -/
  found : Slots
  /-- Whether a match ended at this position. -/
  matched : Bool

/-- Whether a thread started after another. A thread without a start comes before all others. -/
def startsAfter : Option Nat → Option Nat → Bool
  | some start, some other => other < start
  | some _, none => true
  | none, _ => false

/-- Follows a thread over the byte at the position. -/
def follow (automaton : Automaton) (haystack : Array UInt8) (position : Nat) (sweep : Sweep)
    (state target : Nat) : Sweep :=
  match sweep with
  | ⟨table, next, found, matched⟩ =>
    let (slots, next) := next.close automaton haystack (position + 1) (table.row state) target
    ⟨table.write state slots, next, found, matched⟩

/-- Lets the active states advance over the byte at the position, in the order of preference. The
first match that ends here is kept. A search for the first match stops there; a search for the
longest goes on with the threads that did not start after the match. -/
def sweep (automaton : Automaton) (haystack : Array UInt8) (anchor : Anchor) (kind : MatchKind)
    (position : Nat) (matchedBefore : Bool) : List Nat → Sweep → Sweep
  | [], sweeping => sweeping
  | state :: rest, sweeping =>
    if kind = .leftmostLongest ∧ (matchedBefore ∨ sweeping.matched) ∧
        startsAfter (sweeping.table.start state) (sweeping.found.getD 0 none) then
      sweep automaton haystack anchor kind position matchedBefore rest sweeping
    else
      match automaton.state state with
      | .accept =>
        if anchor = .both ∧ position < haystack.size then
          sweep automaton haystack anchor kind position matchedBefore rest sweeping
        else
          match kind with
          | .leftmostFirst => { sweeping with found := sweeping.table.row state, matched := true }
          | .leftmostLongest =>
            if sweeping.matched then
              sweep automaton haystack anchor kind position matchedBefore rest sweeping
            else
              sweep automaton haystack anchor kind position matchedBefore rest
                { sweeping with found := sweeping.table.row state, matched := true }
      | other =>
        match haystack[position]?.bind other.transition with
        | none => sweep automaton haystack anchor kind position matchedBefore rest sweeping
        | some target =>
          sweep automaton haystack anchor kind position matchedBefore rest
            (follow automaton haystack position sweeping state target)

/-- Starts a thread at the position, from the row of slots in which nothing is stored. -/
def seed (automaton : Automaton) (haystack : Array UInt8) (position : Nat) (cache : Cache) :
    Cache :=
  match cache with
  | ⟨current, ⟨set, table⟩, found⟩ =>
    let (slots, current) :=
      current.close automaton haystack position (table.row table.scratch) automaton.start
    ⟨current, ⟨set, table.write table.scratch slots⟩, found⟩

/-- Lets the active states advance over the byte at the position, and tells whether a match ended
there. -/
def sweepAll (automaton : Automaton) (haystack : Array UInt8) (anchor : Anchor) (kind : MatchKind)
    (position : Nat) (matched : Bool) (cache : Cache) : Bool × Cache :=
  match cache with
  | ⟨⟨set, table⟩, next, found⟩ =>
    let swept := sweep automaton haystack anchor kind position matched set.toList
      ⟨table, next, found, false⟩
    (swept.matched, ⟨⟨set, swept.table⟩, swept.next, swept.found⟩)

/-- Searches from a position on. Matches are found one position late, so the search also visits the
position at the end of the haystack. -/
def advance (automaton : Automaton) (haystack : Array UInt8) (anchor : Anchor) (kind : MatchKind)
    (position : Nat) (matched : Bool) (cache : Cache) : Bool × Cache :=
  let anchored := anchor ≠ .unanchored
  if cache.current.set.isEmpty ∧ (matched ∨ (anchored ∧ 0 < position)) then (matched, cache)
  else
    let cache :=
      if ¬matched ∧ (¬anchored ∨ position = 0) then seed automaton haystack position cache
      else cache
    let (ended, cache) := sweepAll automaton haystack anchor kind position matched cache
    if haystack.size ≤ position then (matched || ended, cache)
    else
      advance automaton haystack anchor kind (position + 1) (matched || ended)
        ⟨cache.next, cache.current.clear, cache.found⟩
termination_by haystack.size - position

/-- How many slots a search tracks: those asked for, and for the longest match at least the span. -/
def tracked (kind : MatchKind) (slotCount : Nat) : Nat :=
  match kind with
  | .leftmostFirst => slotCount
  | .leftmostLongest => max slotCount 2

/-- Searches the whole haystack. Returns the first `slotCount` slots of the match, if there is
one. -/
def search (automaton : Automaton) (cache : Cache) (haystack : Array UInt8) (anchor : Anchor)
    (kind : MatchKind) (slotCount : Nat) : Option Slots × Cache :=
  let (matched, cache) := advance automaton haystack anchor kind 0 false
    (cache.setup (tracked kind slotCount))
  (if matched then some (cache.found.extract 0 slotCount) else none, cache)

end Lockstep

end Crosscheck
