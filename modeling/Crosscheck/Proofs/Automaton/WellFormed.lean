/-
**Well-formed automata.**

What searches need of an automaton: every target is a state, the state where a search starts stores
the start of the match and is never entered again, no other state stores it, and a match ends right
behind the state that stores its end.

* `State.targets`: the states to which a state leads;
* `Automaton.WellFormed`: well-formed automata.
-/
import Crosscheck.Automaton.State

namespace Crosscheck

/-- The states to which a state leads. -/
def State.targets : State → List Nat
  | .byte target _ | .ranges target _ | .goto target _ | .capture target _ => [target]
  | .splits targets _ => targets
  | .fail | .accept => []

/-- What searches need of an automaton. -/
structure Automaton.WellFormed (automaton : Automaton) : Prop where
  /-- Every target is a state. -/
  target_lt : ∀ index, ∀ target ∈ (automaton.state index).targets, target < automaton.size
  /-- The start is a state. -/
  start_lt : automaton.start < automaton.size
  /-- The start stores where the match starts. -/
  start_stores : ∃ target, automaton.state automaton.start = .capture target 0
  /-- No other state stores where the match starts. -/
  eq_start : ∀ {index target}, automaton.state index = .capture target 0 → index = automaton.start
  /-- The start is never entered again. -/
  start_unentered : ∀ index, automaton.start ∉ (automaton.state index).targets
  /-- A match ends only behind a state that stores its end. -/
  accept_stores : ∀ {index source}, automaton.state index = .accept →
    index ∈ (automaton.state source).targets → automaton.state source = .capture index 1
  /-- There are slots for the whole match. -/
  slots_le : 2 ≤ automaton.slotCount

end Crosscheck
