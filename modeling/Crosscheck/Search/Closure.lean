/-
**Closures.**

From a state, a search passes on through all states that consume nothing, in the order of their
preference. Each state is passed once; a state that waits for a byte or ends a match gets the slots
of the first path that leads to it. Captures on a path are undone before the next path is taken.

* `Closure.step`: passes one state, or undoes one capture;
* `Closure.run`: steps until nothing is left to do;
* `Active.close`: adds the closure of a state to a set of active states.
-/
import Crosscheck.Automaton.State
import Crosscheck.Search.SlotTable
import Crosscheck.Search.SparseSet

namespace Crosscheck

/-- The active states of a search at one position. -/
structure Active where
  /-- The states, by preference. -/
  set : SparseSet
  /-- The slots of their threads. -/
  table : SlotTable

namespace Active

/-- No active states, for an automaton. -/
def ofAutomaton (automaton : Automaton) : Active :=
  ⟨.withCapacity automaton.size, .withSize automaton.size automaton.slotCount⟩

/-- Removes all active states and sets how many slots are tracked. -/
def setup (active : Active) (tracked : Nat) : Active :=
  ⟨active.set.clear, active.table.setup tracked⟩

/-- Removes all active states. -/
def clear (active : Active) : Active := { active with set := active.set.clear }

end Active

/-- What is left to do in a closure. -/
inductive Pending where
  /-- Pass a state. -/
  | explore (state : Nat)
  /-- Undo a capture. -/
  | restore (slot : Nat) (position : Option Nat)
  deriving DecidableEq

/-- A closure on its way. -/
structure Closure where
  /-- What is left to do, next thing first. -/
  stack : List Pending
  /-- The slots of the path. -/
  slots : Slots
  /-- The active states so far. -/
  active : Active

namespace Closure

/-- Goes on with the given things to do. -/
def push (closure : Closure) (pending : List Pending) : Closure :=
  { closure with stack := pending ++ closure.stack }

/-- Passes a state that has not been passed before. -/
def pass (automaton : Automaton) (haystack : Array UInt8) (position : Nat) (closure : Closure)
    (state : Nat) : Closure :=
  match automaton.state state with
  | .goto target none => closure.push [.explore target]
  | .goto target (some look) =>
    if look.holds haystack position then closure.push [.explore target] else closure
  | .splits targets reverse => closure.push ((State.branches targets reverse).map .explore)
  | .capture target slot =>
    if slot < closure.slots.size then
      let old := closure.slots.getD slot none
      { closure with
        slots := closure.slots.setIfInBounds slot (some position)
        stack := .explore target :: .restore slot old :: closure.stack }
    else closure.push [.explore target]
  | .byte .. | .ranges .. | .fail | .accept =>
    { closure with
      active := { closure.active with table := closure.active.table.write state closure.slots } }

/-- Does the given thing. -/
def step (automaton : Automaton) (haystack : Array UInt8) (position : Nat) (closure : Closure)
    (pending : Pending) : Closure :=
  match pending, closure with
  | .restore slot old, ⟨stack, slots, active⟩ => ⟨stack, slots.setIfInBounds slot old, active⟩
  | .explore state, ⟨stack, slots, ⟨set, table⟩⟩ =>
    match set.insert state with
    | .added set => pass automaton haystack position ⟨stack, slots, ⟨set, table⟩⟩ state
    | .present set => ⟨stack, slots, ⟨set, table⟩⟩
    | .overflow set => ⟨stack, slots, ⟨set, table⟩⟩

/-- Passing a state leaves the set of active states as it is. -/
theorem set_pass (automaton : Automaton) (haystack : Array UInt8) (position : Nat)
    (closure : Closure) (state : Nat) :
    (pass automaton haystack position closure state).active.set = closure.active.set := by
  rw [pass]
  split
  · rfl
  · split <;> rfl
  · rfl
  · split <;> rfl
  all_goals rfl

/-- A step either takes up room in the set of active states, or leaves the stack as it is. -/
theorem room_step (automaton : Automaton) (haystack : Array UInt8) (position : Nat)
    (closure : Closure) (pending : Pending) :
    (step automaton haystack position closure pending).active.set.room < closure.active.set.room ∨
      (step automaton haystack position closure pending).active.set = closure.active.set ∧
        (step automaton haystack position closure pending).stack = closure.stack := by
  obtain ⟨stack, slots, set, table⟩ := closure
  cases pending with
  | restore slot old => exact .inr ⟨rfl, rfl⟩
  | explore state =>
    rw [step]
    split
    · next after added =>
      left
      rw [set_pass]
      exact SparseSet.room_of_insert added
    · next after present => exact .inr ⟨SparseSet.eq_of_insert_present present, rfl⟩
    · next after overflow => exact .inr ⟨SparseSet.eq_of_insert_overflow overflow, rfl⟩

/-- Steps until nothing is left to do. -/
def run (automaton : Automaton) (haystack : Array UInt8) (position : Nat) (closure : Closure) :
    Closure :=
  match _rest : closure.stack with
  | [] => closure
  | pending :: rest =>
    run automaton haystack position
      (step automaton haystack position { closure with stack := rest } pending)
termination_by (closure.active.set.room, closure.stack.length)
decreasing_by
  rcases room_step automaton haystack position { closure with stack := rest } pending with
    less | ⟨same, stack⟩
  · exact Prod.Lex.left _ _ less
  · rw [same, stack, _rest]
    exact Prod.Lex.right _ (Nat.lt_succ_self _)

end Closure

namespace Active

/-- Adds the closure of a state to the active states, with the slots of the path to it. Returns the
slots as they are afterwards. -/
def close (automaton : Automaton) (haystack : Array UInt8) (position : Nat) (active : Active)
    (slots : Slots) (state : Nat) : Slots × Active :=
  let closure := Closure.run automaton haystack position ⟨[.explore state], slots, active⟩
  (closure.slots, closure.active)

end Active

end Crosscheck
