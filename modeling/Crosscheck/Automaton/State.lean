/-
**Automata.**

An automaton is a graph of states. Some states consume a byte; the others are passed without
consuming anything, and say in which order their ways out are tried.

* `State.transition`: where a byte leads;
* `State.branches`: the ways out of a split, in the order in which they are tried;
* `Automaton.state`: the state with a given number.
-/
import Crosscheck.Look
import Crosscheck.Text.RangeSet

namespace Crosscheck

/-- A state of an automaton. -/
inductive State where
  /-- Consumes one byte. -/
  | byte (target : Nat) (value : UInt8)
  /-- Consumes one byte of a set. -/
  | ranges (target : Nat) (set : RangeSet)
  /-- Leads to any of its targets, tried in order, or in reverse order. -/
  | splits (targets : List Nat) (reverse : Bool)
  /-- Leads on where the assertion holds, if there is one. -/
  | goto (target : Nat) (look : Option Look)
  /-- Stores the position in a slot. -/
  | capture (target : Nat) (slot : Nat)
  /-- Leads nowhere. -/
  | fail
  /-- Ends a match. -/
  | accept
  deriving DecidableEq

namespace State

/-- Where a byte leads, when the state consumes it. -/
def transition (state : State) (next : UInt8) : Option Nat :=
  match state with
  | .byte target value => if value = next then some target else none
  | .ranges target set => if RangeSet.contains set next.toNat then some target else none
  | _ => none

/-- The targets of a split in the order in which they are tried. -/
def branches (targets : List Nat) (reverse : Bool) : List Nat :=
  if reverse then targets.reverse else targets

/-- The state with its target replaced; a split gains a target and keeps those it has. -/
def redirect (state : State) (target : Nat) : State :=
  match state with
  | .byte _ value => .byte target value
  | .ranges _ set => .ranges target set
  | .splits targets reverse => .splits (targets ++ [target]) reverse
  | .goto _ look => .goto target look
  | .capture _ slot => .capture target slot
  | .fail => .fail
  | .accept => .accept

end State

/-- An automaton. -/
structure Automaton where
  /-- The states. -/
  states : Array State
  /-- The number of the state where a search starts. -/
  start : Nat
  /-- The number of groups, the overall match included. -/
  groupCount : Nat

namespace Automaton

/-- The state with a given number. -/
def state (automaton : Automaton) (index : Nat) : State :=
  automaton.states.getD index .fail

/-- The number of states. -/
def size (automaton : Automaton) : Nat := automaton.states.size

/-- The number of slots: each group has one for its start and one for its end. -/
def slotCount (automaton : Automaton) : Nat := automaton.groupCount * 2

end Automaton

end Crosscheck
