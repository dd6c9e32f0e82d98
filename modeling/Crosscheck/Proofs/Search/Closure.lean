/-
**Closures explore without consuming.**

What is left to do in a closure stands for threads at its position, in the same way as the jobs of a
search by backtracking do. Working it off explores these threads without going over a byte, and the
active states afterwards are those of the threads that were found, in order. A state that waits for
a byte or ends a path has the slots of its thread; the rows of other states do not count.

* `Active.Holds`: the threads that active states stand for;
* `Closure.run_explores`: what working off a closure finds;
* `Active.close_explores`: adding the closure of a state.
-/
import Crosscheck.Proofs.Search.Backtracking
import Crosscheck.Proofs.Search.SlotTable
import Crosscheck.Proofs.Search.SparseSet
import Crosscheck.Search.Closure

namespace Crosscheck

open Thread (passed)

/-- Whether a path waits in a state for a byte, or ends there. -/
def State.waits : State → Bool
  | .byte .. | .ranges .. | .fail | .accept => true
  | .goto .. | .splits .. | .capture .. => false

/-- Active states at a position stand for threads, in order. -/
structure Active.Holds (active : Active) (automaton : Automaton) (tracked position : Nat)
    (found : List Thread) : Prop where
  set : active.set.Holds automaton.size (found.map Thread.state)
  fits : active.table.Fits automaton
  tracked_eq : active.table.tracked = tracked
  position_eq : ∀ thread ∈ found, thread.position = position
  row_eq : ∀ thread ∈ found, (automaton.state thread.state).waits →
    active.table.row thread.state = thread.slots

/-- The job that something to do in a closure comes down to. -/
def Pending.job (position : Nat) : Pending → Job
  | .explore state => .visit state position
  | .restore slot old => .restore slot old

namespace Active

variable {automaton : Automaton} {active : Active} {tracked position state : Nat} {slots : Slots}
  {found : List Thread}

/-- A configuration was found exactly if its state is active. -/
theorem Holds.mem_iff (holds : active.Holds automaton tracked position found) :
    (state, position) ∈ configurations found ↔ state ∈ found.map Thread.state := by
  rw [mem_configurations, List.mem_map]
  refine exists_congr fun thread => and_congr_right fun member => ?_
  rw [Thread.configuration, Prod.mk.injEq, holds.position_eq thread member]
  exact and_iff_left rfl

/-- **A new thread joins the others.** -/
theorem Holds.join (holds : active.Holds automaton tracked position found)
    (inside : state < automaton.size) (new : (state, position) ∉ configurations found)
    (size : slots.size = tracked) {after : SparseSet}
    (inserted : after.Holds automaton.size (found.map Thread.state ++ [state])) :
    Holds ⟨after, if (automaton.state state).waits then active.table.write state slots
        else active.table⟩ automaton tracked position (found ++ [⟨state, position, slots⟩]) := by
  have tracks : slots.size = active.table.tracked := size.trans holds.tracked_eq.symm
  refine ⟨by rwa [List.map_append, List.map_singleton], ?_, ?_, ?_, ?_⟩
  · dsimp only
    split
    · exact holds.fits.write inside tracks
    · exact holds.fits
  · rw [← holds.tracked_eq]
    dsimp only
    split <;> rfl
  · exact List.forall_mem_append.mpr ⟨holds.position_eq, List.forall_mem_singleton.mpr rfl⟩
  · refine List.forall_mem_append.mpr ⟨fun thread member waits => ?_,
      List.forall_mem_singleton.mpr fun waits => ?_⟩
    · have different : state ≠ thread.state := by
        rintro rfl
        exact new (holds.mem_iff.mpr (List.mem_map_of_mem member))
      rw [← holds.row_eq thread member waits]
      dsimp only
      split
      · exact SlotTable.row_write_of_ne different ..
      · rfl
    · dsimp only at waits ⊢
      rw [if_pos waits, holds.fits.row_write_self inside tracks]

/-- Without active states there are no threads. -/
theorem Holds.clear (holds : active.Holds automaton tracked position found) (other : Nat) :
    active.clear.Holds automaton tracked other [] :=
  ⟨holds.set.clear, holds.fits, holds.tracked_eq, fun _ member => (List.not_mem_nil member).elim,
    fun _ member => (List.not_mem_nil member).elim⟩

end Active

namespace Closure

variable {automaton : Automaton} {haystack : Array UInt8} {position : Nat}

/-- The threads that a closure goes on with. -/
def threads (position : Nat) (closure : Closure) : List Thread :=
  Job.threads (closure.stack.map (Pending.job position)) closure.slots

/-- The slots once a closure is done. -/
def undone (position : Nat) (closure : Closure) : Slots :=
  Job.undone (closure.stack.map (Pending.job position)) closure.slots

/-- Passing a state gives a row to it if it waits. -/
theorem active_pass (closure : Closure) (state : Nat) :
    (pass automaton haystack position closure state).active =
      ⟨closure.active.set, if (automaton.state state).waits then
        closure.active.table.write state closure.slots else closure.active.table⟩ := by
  rw [pass]
  cases automaton.state state with
  | goto target look =>
    cases look with
    | none => rfl
    | some look =>
      dsimp only
      split <;> rfl
  | capture target slot =>
    dsimp only
    split <;> rfl
  | splits | byte | ranges | fail | accept => rfl

/-- Passing a state stores no more and no fewer slots. -/
theorem size_slots_pass (closure : Closure) (state : Nat) :
    (pass automaton haystack position closure state).slots.size = closure.slots.size := by
  rw [pass]
  split
  · rfl
  · split <;> rfl
  · rfl
  · split
    · exact Array.size_setIfInBounds
    · rfl
  all_goals rfl

/-- **Passing a state** replaces its thread by those as which it goes on. -/
theorem threads_pass (closure : Closure) (state : Nat) :
    (pass automaton haystack position closure state).threads position =
      passed automaton haystack ⟨state, position, closure.slots⟩ ++ closure.threads position := by
  rw [threads, threads, pass, passed]
  cases automaton.state state with
  | goto target look =>
    cases look with
    | none => rfl
    | some look =>
      dsimp only
      split <;> rfl
  | splits targets reverse =>
    simp only [push, List.map_append, List.map_map]
    exact Job.threads_visits ..
  | capture target slot =>
    dsimp only
    by_cases inside : slot < closure.slots.size
    · rw [if_pos inside]
      simp only [List.map_cons, Pending.job, Job.threads, Slots.setIfInBounds_getD inside]
      rfl
    · rw [if_neg inside, Array.setIfInBounds_eq_of_size_le (Nat.le_of_not_lt inside)]
      rfl
  | byte | ranges | fail | accept => rfl

/-- Passing a state leaves the slots as they are once everything is undone. -/
theorem undone_pass (closure : Closure) (state : Nat) :
    (pass automaton haystack position closure state).undone position =
      closure.undone position := by
  rw [undone, undone, pass]
  cases automaton.state state with
  | goto target look =>
    cases look with
    | none => rfl
    | some look =>
      dsimp only
      split <;> rfl
  | splits targets reverse =>
    simp only [push, List.map_append, List.map_map]
    exact Job.undone_visits ..
  | capture target slot =>
    dsimp only
    by_cases inside : slot < closure.slots.size
    · rw [if_pos inside]
      simp only [List.map_cons, Pending.job, Job.undone, Slots.setIfInBounds_getD inside]
    · rw [if_neg inside]
      rfl
  | byte | ranges | fail | accept => rfl

/-- Exploring an active state changes nothing. -/
theorem step_old (closure : Closure) {state : Nat}
    (old : closure.active.set.insert state = .present closure.active.set) :
    step automaton haystack position closure (.explore state) = closure := by
  obtain ⟨stack, slots, set, table⟩ := closure
  simp only at old
  rw [step, old]

/-- Exploring a state that is not active adds and passes it. -/
theorem step_new (closure : Closure) {state : Nat} {after : SparseSet}
    (new : closure.active.set.insert state = .added after) :
    step automaton haystack position closure (.explore state) =
      pass automaton haystack position
        { closure with active := { closure.active with set := after } } state := by
  obtain ⟨stack, slots, set, table⟩ := closure
  simp only at new
  rw [step, new]

/-- **Working off a closure** explores its threads without consuming anything. The active states
are those of the threads that were found before, and of those that are found now. -/
theorem run_explores (wellFormed : automaton.WellFormed) (haystack : Array UInt8)
    (closure : Closure) {tracked : Nat} (before : List Thread)
    (holds : closure.active.Holds automaton tracked position before)
    (inside : ∀ thread ∈ closure.threads position, thread.state < automaton.size)
    (size : closure.slots.size = tracked) :
    let after := run automaton haystack position closure
    ∃ found, Explores (passed automaton haystack) (configurations before)
        (closure.threads position) found ∧
      after.active.Holds automaton tracked position (before ++ found) ∧
      after.slots = closure.undone position := by
  fun_induction run automaton haystack position closure generalizing before with
  | case1 closure empty =>
    rw [threads, undone, empty]
    exact ⟨[], .done _, by rwa [List.append_nil], rfl⟩
  | case2 closure pending rest stack hypothesis =>
    rw [threads, stack] at inside ⊢
    rw [undone, stack]
    cases pending with
    | restore slot old =>
      exact hypothesis before holds inside (Array.size_setIfInBounds.trans size)
    | explore state =>
      obtain ⟨head, inside⟩ := List.forall_mem_cons.mp inside
      have inStates : state < automaton.size := head
      by_cases old : (state, position) ∈ configurations before
      · have present := holds.set.insert_old (holds.mem_iff.mp old)
        rw [step_old { closure with stack := rest } present] at hypothesis ⊢
        obtain ⟨found, explores, remaining⟩ := hypothesis before holds inside size
        exact ⟨found, .drop old explores, remaining⟩
      · obtain ⟨after, added, inserted⟩ :=
          holds.set.insert_new inStates fun member => old (holds.mem_iff.mpr member)
        rw [step_new { closure with stack := rest } added] at hypothesis ⊢
        obtain ⟨found, explores, joined, done⟩ := hypothesis
          (before ++ [⟨state, position, closure.slots⟩])
          (by
            rw [active_pass]
            exact holds.join inStates old size inserted)
          (by
            rw [threads_pass]
            intro thread member
            rcases List.mem_append.mp member with inner | outer
            · exact wellFormed.target_lt _ _ (Thread.passed_cases inner).2.1
            · exact inside thread outer)
          ((size_slots_pass _ state).trans size)
        rw [threads_pass, configurations_append, configurations_cons, configurations_nil,
          Set.union_insert, Set.union_empty] at explores
        rw [undone_pass] at done
        rw [List.append_assoc] at joined
        exact ⟨_, .visit old explores, joined, done⟩

end Closure

/-- **Adding the closure of a state** adds the threads that it finds, and leaves the slots as they
are. -/
theorem Active.close_explores {automaton : Automaton} (wellFormed : automaton.WellFormed)
    (haystack : Array UInt8) {active : Active} {tracked position state : Nat} {slots : Slots}
    {before : List Thread} (holds : active.Holds automaton tracked position before)
    (inside : state < automaton.size) (size : slots.size = tracked) :
    ∃ found after, active.close automaton haystack position slots state = (slots, after) ∧
      Explores (passed automaton haystack) (configurations before) [⟨state, position, slots⟩]
        found ∧
      after.Holds automaton tracked position (before ++ found) := by
  obtain ⟨found, explores, joined, done⟩ := Closure.run_explores wellFormed haystack
    ⟨[.explore state], slots, active⟩ before holds (List.forall_mem_singleton.mpr inside) size
  exact ⟨found, _, Prod.ext done rfl, explores, joined⟩

end Crosscheck
