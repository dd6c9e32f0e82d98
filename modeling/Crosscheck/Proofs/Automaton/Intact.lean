/-
**Automata have no loose ends.**

States are added before it is known where they lead, and are told so later. In the automaton of a
pattern every state was told: none leads to the start, which is where a state that was forgotten
would still lead, and no choice is left without a second way. This holds of every pattern that is
built, also of one with a group 0 of its own.

* `Automaton.Intact`: automata without loose ends;
* `Automaton.Layout.intact`: the automaton of a pattern is intact.
-/
import Crosscheck.Proofs.Automaton.Built

namespace Crosscheck

namespace Automaton

/-- **An automaton without loose ends.** -/
structure Intact (automaton : Automaton) : Prop where
  /-- Every target is a state. -/
  target_lt : ∀ index, ∀ target ∈ (automaton.state index).targets, target < automaton.size
  /-- The start is the first state. -/
  start_eq : automaton.start = 0
  start_lt : automaton.start < automaton.size
  /-- The start stores the start of the match. -/
  start_stores : ∃ target, automaton.state automaton.start = .capture target 0
  /-- The start is never entered again. -/
  start_unentered : ∀ index, automaton.start ∉ (automaton.state index).targets
  /-- A match ends in one state only. -/
  accepts : ∃! index, automaton.state index = .accept
  /-- A choice has at least two ways. -/
  two_le_targets : ∀ {index targets reverse}, automaton.state index = .splits targets reverse →
    2 ≤ targets.length
  /-- Every slot that is stored belongs to a group. -/
  slot_lt : ∀ {index target slot}, automaton.state index = .capture target slot →
    slot < automaton.slotCount
  /-- Each group has two slots, and there is a group for the match. -/
  slotCount_eq : automaton.slotCount = 2 * automaton.groupCount
  groupCount_pos : 0 < automaton.groupCount

variable {automaton : Automaton} {rule : LoopRule} {pattern : Pattern} {inner finish : Nat}

/-- A slot of a pattern is one of the slots of its automaton. -/
theorem Layout.slot_lt (layout : automaton.Layout rule pattern inner finish) {slot : Nat}
    (inside : slot ∈ pattern.slots) : slot < automaton.slotCount := by
  have bound : slot / 2 ≤ pattern.maxGroup := Pattern.le_maxGroup pattern _ inside
  rw [slotCount, layout.groups_eq, groupsOf]
  omega

/-- What the states of an automaton can be: those of the fragment are allowed there. -/
theorem Layout.allowed (layout : automaton.Layout rule pattern inner finish) (index : Nat) :
    automaton.state index = .accept ∨
      (automaton.state index).Allowed {slot | slot < automaton.slotCount} := by
  have count : 2 ≤ automaton.slotCount := by
    rw [slotCount, layout.groups_eq, groupsOf]
    omega
  rcases layout.cases index with rfl | ⟨above, below⟩ | rfl | rfl | nothing
  · rw [layout.starts]
    exact .inr (show 0 < automaton.slotCount by omega)
  · have allowed := (layout.inside index above below).1
    revert allowed
    cases automaton.state index with
    | capture target slot => exact fun inside => .inr (layout.slot_lt inside)
    | splits targets reverse => exact .inr
    | accept => exact fun _ => .inl rfl
    | byte | ranges | goto | fail => exact .inr
  · rw [layout.ends]
    exact .inr (show 1 < automaton.slotCount by omega)
  · exact .inl layout.accepts
  · rw [nothing]
    exact .inr trivial

/-- **The automaton of a pattern is intact.** -/
theorem Layout.intact (layout : automaton.Layout rule pattern inner finish) :
    automaton.Intact := by
  refine ⟨fun index target leads => ?_, layout.start_eq, ?_, ⟨inner, ?_⟩, fun index enters => ?_,
    ⟨finish + 1, layout.accepts, fun index => layout.eq_of_accept⟩,
    fun {index targets reverse} chooses => ?_, fun {index target slot} stores => ?_,
    Nat.mul_comm _ _, ?_⟩
  · rw [layout.size_eq]
    exact (layout.target_mem leads).2
  · rw [layout.size_eq, layout.start_eq]
    omega
  · rw [layout.start_eq, layout.starts]
  · rw [layout.start_eq] at enters
    exact absurd (layout.target_mem enters).1 (Nat.not_succ_le_zero 0)
  · rcases layout.allowed index with accepts | allowed
    · rw [accepts] at chooses
      cases chooses
    · rwa [chooses] at allowed
  · rcases layout.allowed index with accepts | allowed
    · rw [accepts] at stores
      cases stores
    · rwa [stores] at allowed
  · rw [layout.groups_eq, groupsOf]
    omega

theorem intact_of_ofPattern (compiled : ofPattern rule pattern = .ok automaton) :
    automaton.Intact := by
  obtain ⟨inner, finish, layout⟩ := exists_layout compiled
  exact layout.intact

end Automaton

end Crosscheck
