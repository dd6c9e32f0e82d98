/-
**Threads.**

A thread is one path of a search on its way: the state and the position it has come to, and the
slots that were stored on the path. Both strategies let threads go on in the same ways; they differ
in which thread goes on next.

* `Thread.passed`, `Thread.advanced?`: how a thread goes on without a byte, and over a byte;
* `Thread.successors`: all ways on, the preferred one first;
* `map_configuration_successors`: where a thread can go does not depend on its slots.
-/
import Crosscheck.Proofs.Automaton.WellFormed
import Crosscheck.Search.Captures
import Crosscheck.Search.Settings

namespace Crosscheck

/-- A configuration of a search: a state of the automaton at a position of the haystack. -/
abbrev Place := Nat × Nat

/-- Slots that were not used yet hold nothing. -/
theorem Slots.getD_blank (count slot : Nat) :
    (Array.replicate count (none : Option Nat)).getD slot none = none := by
  rw [Array.getD_eq_getD_getElem?, Array.getElem?_replicate]
  split <;> rfl

/-- A path of a search on its way. -/
structure Thread where
  /-- The state it has come to. -/
  state : Nat
  /-- The position it has come to. -/
  position : Nat
  /-- The slots that were stored on the path. -/
  slots : Slots

namespace Thread

/-- Where a thread is. -/
def configuration (thread : Thread) : Place := (thread.state, thread.position)

/-- A thread at the start of an automaton that has stored nothing. -/
def fresh (automaton : Automaton) (slotCount position : Nat) : Thread :=
  ⟨automaton.start, position, Array.replicate slotCount none⟩

/-- The thread in another state. -/
def moved (thread : Thread) (state : Nat) : Thread := { thread with state := state }

section Steps

variable (automaton : Automaton) (haystack : Array UInt8)

/-- The threads as which a thread goes on without consuming anything, the preferred one first. -/
def passed (thread : Thread) : List Thread :=
  match automaton.state thread.state with
  | .goto target none => [thread.moved target]
  | .goto target (some look) =>
    if look.holds haystack thread.position then [thread.moved target] else []
  | .splits targets reverse => (State.branches targets reverse).map thread.moved
  | .capture target slot =>
    [⟨target, thread.position, thread.slots.setIfInBounds slot (some thread.position)⟩]
  | .byte .. | .ranges .. | .fail | .accept => []

/-- The thread as which a thread goes on over the byte at its position. -/
def advanced? (thread : Thread) : Option Thread :=
  (haystack[thread.position]?.bind (automaton.state thread.state).transition).map fun target =>
    ⟨target, thread.position + 1, thread.slots⟩

/-- All threads as which a thread goes on, the preferred one first. -/
def successors (thread : Thread) : List Thread :=
  passed automaton haystack thread ++ (advanced? automaton haystack thread).toList

/-- Whether a thread ends a match that the anchor allows. -/
def ends (anchor : Anchor) (thread : Thread) : Bool :=
  automaton.state thread.state = .accept ∧ (anchor = .both → haystack.size ≤ thread.position)

variable {automaton haystack}

/-! ### One kind of step at a time -/

/-- A thread that can go on over a byte cannot go on without one. -/
theorem passed_of_advanced {thread next : Thread}
    (advances : advanced? automaton haystack thread = some next) :
    passed automaton haystack thread = [] := by
  obtain ⟨target, transition, -⟩ := Option.map_eq_some_iff.mp advances
  obtain ⟨byte, -, transition⟩ := Option.bind_eq_some_iff.mp transition
  rw [passed]
  generalize automaton.state thread.state = state at transition ⊢
  cases state <;> first | rfl | cases transition

/-- A thread in a state that no byte leads out of goes on without one. -/
theorem successors_of_silent {thread : Thread}
    (silent : ∀ byte, (automaton.state thread.state).transition byte = none) :
    successors automaton haystack thread = passed automaton haystack thread := by
  have nowhere : advanced? automaton haystack thread = none := by
    rw [advanced?, Option.map_eq_none_iff, Option.bind_eq_none_iff]
    exact fun byte _ => silent byte
  rw [successors, nowhere, Option.toList_none, List.append_nil]

/-- A thread passes an unconditional state. -/
theorem successors_of_goto {thread : Thread} {target : Nat}
    (same : automaton.state thread.state = .goto target none) :
    successors automaton haystack thread = [thread.moved target] := by
  rw [successors_of_silent fun _ => by rw [same]; rfl, passed, same]

/-- A thread passes an assertion that holds. -/
theorem successors_of_look {thread : Thread} {target : Nat} {look : Look}
    (same : automaton.state thread.state = .goto target (some look)) :
    successors automaton haystack thread =
      if look.holds haystack thread.position then [thread.moved target] else [] := by
  rw [successors_of_silent fun _ => by rw [same]; rfl, passed, same]

/-- A thread goes all ways that a split offers. -/
theorem successors_of_splits {thread : Thread} {targets : List Nat} {reverse : Bool}
    (same : automaton.state thread.state = .splits targets reverse) :
    successors automaton haystack thread = (State.branches targets reverse).map thread.moved := by
  rw [successors_of_silent fun _ => by rw [same]; rfl, passed, same]

/-- A thread stores its position. -/
theorem successors_of_capture {thread : Thread} {target slot : Nat}
    (same : automaton.state thread.state = .capture target slot) :
    successors automaton haystack thread =
      [⟨target, thread.position, thread.slots.setIfInBounds slot (some thread.position)⟩] := by
  rw [successors_of_silent fun _ => by rw [same]; rfl, passed, same]

/-- A thread goes on over a byte. -/
theorem successors_of_byte {thread : Thread} {target : Nat} {value : UInt8}
    (same : automaton.state thread.state = .byte target value) :
    successors automaton haystack thread = if haystack[thread.position]? = some value then
      [⟨target, thread.position + 1, thread.slots⟩] else [] := by
  rw [successors, passed, advanced?, same]
  cases haystack[thread.position]? with
  | none => rfl
  | some byte =>
    by_cases equal : value = byte
    · simp [State.transition, equal]
    · simp [State.transition, equal, Ne.symm equal]

/-- A thread goes on over a byte of a set. -/
theorem successors_of_ranges {thread : Thread} {target : Nat} {set : RangeSet}
    (same : automaton.state thread.state = .ranges target set) :
    successors automaton haystack thread =
      if haystack[thread.position]?.any (RangeSet.contains set ·.toNat) then
        [⟨target, thread.position + 1, thread.slots⟩] else [] := by
  rw [successors, passed, advanced?, same]
  cases haystack[thread.position]? with
  | none => rfl
  | some byte =>
    by_cases inside : RangeSet.contains set byte.toNat <;> simp [State.transition, inside]

/-- A thread goes nowhere from a state that fails. -/
theorem successors_of_fail {thread : Thread} (same : automaton.state thread.state = .fail) :
    successors automaton haystack thread = [] := by
  rw [successors_of_silent fun _ => by rw [same]; rfl, passed, same]

/-- A thread that ends a match goes nowhere. -/
theorem successors_of_accept {thread : Thread} (accepts : automaton.state thread.state = .accept) :
    successors automaton haystack thread = [] := by
  rw [successors_of_silent fun _ => by rw [accepts]; rfl, passed, accepts]

theorem accept_of_ends {anchor : Anchor} {thread : Thread}
    (final : thread.ends automaton haystack anchor = true) :
    automaton.state thread.state = .accept := by
  rw [ends, decide_eq_true_eq] at final
  exact final.1

theorem successors_of_ends {anchor : Anchor} {thread : Thread}
    (final : thread.ends automaton haystack anchor = true) :
    successors automaton haystack thread = [] := successors_of_accept (accept_of_ends final)

theorem advanced_of_ends {anchor : Anchor} {thread : Thread}
    (final : thread.ends automaton haystack anchor = true) :
    advanced? automaton haystack thread = none := by
  have nowhere := successors_of_ends final
  rw [successors, List.append_eq_nil_iff] at nowhere
  exact Option.toList_eq_nil_iff.mp nowhere.2

/-- **What passing a state does**: the position stays, the new state is a target, and the slots are
those of before unless the state stores the position. -/
theorem passed_cases {thread next : Thread} (member : next ∈ passed automaton haystack thread) :
    next.position = thread.position ∧ next.state ∈ (automaton.state thread.state).targets ∧
      (next.slots = thread.slots ∨
        ∃ slot, automaton.state thread.state = .capture next.state slot ∧
          next.slots = thread.slots.setIfInBounds slot (some thread.position)) := by
  rw [passed] at member
  generalize automaton.state thread.state = state at member ⊢
  cases state with
  | goto target look =>
    have same : next = thread.moved target := by
      cases look with
      | none => exact List.mem_singleton.mp member
      | some look =>
        simp only at member
        split at member
        · exact List.mem_singleton.mp member
        · cases member
    rw [same]
    exact ⟨rfl, List.mem_singleton_self _, .inl rfl⟩
  | splits targets reverse =>
    obtain ⟨target, branch, rfl⟩ := List.mem_map.mp member
    refine ⟨rfl, ?_, .inl rfl⟩
    cases reverse with
    | true => exact List.mem_reverse.mp branch
    | false => exact branch
  | capture target slot =>
    rw [List.mem_singleton.mp member]
    exact ⟨rfl, List.mem_singleton_self _, .inr ⟨slot, rfl, rfl⟩⟩
  | byte | ranges | fail | accept => cases member

/-- **What going over a byte does**: the position is the next one, the new state is a target, and
the slots stay. -/
theorem advanced_cases {thread next : Thread}
    (advances : advanced? automaton haystack thread = some next) :
    next.position = thread.position + 1 ∧ thread.position < haystack.size ∧
      next.state ∈ (automaton.state thread.state).targets ∧ next.slots = thread.slots := by
  obtain ⟨target, transition, rfl⟩ := Option.map_eq_some_iff.mp advances
  obtain ⟨byte, present, transition⟩ := Option.bind_eq_some_iff.mp transition
  refine ⟨rfl, (Array.getElem?_eq_some_iff.mp present).1, ?_, rfl⟩
  generalize automaton.state thread.state = state at transition ⊢
  cases state with
  | byte target' value =>
    obtain ⟨-, same⟩ := Option.ite_none_right_eq_some.mp transition
    exact List.mem_singleton.mpr (Option.some.inj same).symm
  | ranges target' set =>
    obtain ⟨-, same⟩ := Option.ite_none_right_eq_some.mp transition
    exact List.mem_singleton.mpr (Option.some.inj same).symm
  | splits | goto | capture | fail | accept => cases transition

theorem position_of_passed {thread next : Thread}
    (member : next ∈ passed automaton haystack thread) : next.position = thread.position :=
  (passed_cases member).1

theorem position_of_advanced {thread next : Thread}
    (advances : advanced? automaton haystack thread = some next) :
    next.position = thread.position + 1 ∧ thread.position < haystack.size :=
  ⟨(advanced_cases advances).1, (advanced_cases advances).2.1⟩

theorem mem_successors {thread next : Thread} :
    next ∈ successors automaton haystack thread ↔
      next ∈ passed automaton haystack thread ∨
        advanced? automaton haystack thread = some next := by
  rw [successors, List.mem_append, Option.mem_toList]

/-- A step goes to the same position or to the next one, and no thread leaves the haystack. -/
theorem position_of_successor {thread next : Thread}
    (member : next ∈ successors automaton haystack thread) :
    thread.position ≤ next.position ∧
      (thread.position ≤ haystack.size → next.position ≤ haystack.size) := by
  rcases mem_successors.mp member with passes | advances
  · have same := position_of_passed passes
    omega
  · have next := position_of_advanced advances
    omega

/-- A thread goes on to a target of its state. -/
theorem state_mem_targets {thread next : Thread}
    (member : next ∈ successors automaton haystack thread) :
    next.state ∈ (automaton.state thread.state).targets := by
  rcases mem_successors.mp member with passes | advances
  · exact (passed_cases passes).2.1
  · exact (advanced_cases advances).2.2.1

/-- A thread goes on with the slots it has, or with one more of them stored. -/
theorem slots_of_successor {thread next : Thread}
    (member : next ∈ successors automaton haystack thread) :
    next.slots = thread.slots ∨
      ∃ slot, automaton.state thread.state = .capture next.state slot ∧
        next.position = thread.position ∧
        next.slots = thread.slots.setIfInBounds slot (some thread.position) := by
  rcases mem_successors.mp member with passes | advances
  · obtain ⟨here, -, kept | ⟨slot, stores, written⟩⟩ := passed_cases passes
    · exact .inl kept
    · exact .inr ⟨slot, stores, here, written⟩
  · exact .inl (advanced_cases advances).2.2.2

/-- A thread goes on with as many slots. -/
theorem size_slots_of_successor {thread next : Thread}
    (member : next ∈ successors automaton haystack thread) :
    next.slots.size = thread.slots.size := by
  rcases slots_of_successor member with kept | ⟨slot, -, -, written⟩
  · rw [kept]
  · rw [written, Array.size_setIfInBounds]

/-! ### Slots do not matter for where a thread goes -/

/-- Whether a thread ends a match is a matter of its configuration. -/
theorem ends_eq_of_configuration {anchor : Anchor} {thread other : Thread}
    (same : thread.configuration = other.configuration) :
    thread.ends automaton haystack anchor = other.ends automaton haystack anchor := by
  rw [configuration, configuration, Prod.mk.injEq] at same
  rw [ends, ends, same.1, same.2]

/-- The configurations to which a configuration leads. -/
def followers (automaton : Automaton) (haystack : Array UInt8) (place : Place) :
    List Place :=
  (successors automaton haystack ⟨place.1, place.2, #[]⟩).map configuration

/-- Where a thread can go does not depend on its slots. -/
theorem map_configuration_successors (thread : Thread) :
    (successors automaton haystack thread).map configuration =
      followers automaton haystack thread.configuration := by
  have ahead : (advanced? automaton haystack thread).toList.map configuration =
      (advanced? automaton haystack ⟨thread.state, thread.position, #[]⟩).toList.map
        configuration := by
    rw [advanced?, advanced?]
    cases haystack[thread.position]?.bind (automaton.state thread.state).transition <;> rfl
  have aside : (passed automaton haystack thread).map configuration =
      (passed automaton haystack ⟨thread.state, thread.position, #[]⟩).map configuration := by
    simp only [passed]
    generalize automaton.state thread.state = state
    cases state with
    | goto target look =>
      cases look with
      | none => rfl
      | some look =>
        by_cases holds : look.holds haystack thread.position
        · simp only [holds, if_true]
          rfl
        · simp [holds]
    | splits targets reverse =>
      rw [List.map_map, List.map_map]
      rfl
    | _ => rfl
  rw [followers, successors, successors, List.map_append, List.map_append, ahead, aside]
  rfl

end Steps

end Thread

end Crosscheck
