/-
**Groups are entered and left in turn.**

A path of threads that goes on from a fragment to an accepting state leaves the fragment. On the way
it stores in the slots of the fragment's groups only, and it leaves each group that it enters: so
the slots of a group, if they held nothing or a span before, hold nothing or a span behind the
fragment. While a group is open its slots may hold the start of one span and the end of another, but
no group with the same slots is entered or left then.

* `Thread.Goes`: paths of threads, by their numbers of steps;
* `Thread.Nests`: what a path through a fragment may store;
* `Shape.Nests.followedBy`, `Shape.nests_group` and others: one lemma for each shape;
* `Pattern.shape_nests`: paths through the fragment of a pattern.
-/
import Crosscheck.Proofs.Automaton.Laying
import Crosscheck.Proofs.Pattern.Recording

namespace Crosscheck

/-! ### Slots of groups that are not open -/

namespace Slots

variable {slots slots' : Slots} {index low high high' : Nat}

/-- The slots of a group hold nothing, or a span between two positions. -/
def Whole (slots : Slots) (index low high : Nat) : Prop :=
  slots.getD (index * 2) none = none ∧ slots.getD (index * 2 + 1) none = none ∨
    ∃ start stop, slots.getD (index * 2) none = some start ∧
      slots.getD (index * 2 + 1) none = some stop ∧ low ≤ start ∧ start ≤ stop ∧ stop ≤ high

theorem Whole.widen (whole : slots.Whole index low high) (more : high ≤ high') :
    slots.Whole index low high' := by
  rcases whole with unset | ⟨start, stop, first, last, above, ordered, below⟩
  · exact .inl unset
  · exact .inr ⟨start, stop, first, last, above, ordered, below.trans more⟩

/-- Whether the slots of a group are whole is a matter of these two slots. -/
theorem Whole.congr (whole : slots.Whole index low high)
    (same : ∀ slot, slot / 2 = index → slots'.getD slot none = slots.getD slot none) :
    slots'.Whole index low high := by
  rw [Whole, same (index * 2) (by omega), same (index * 2 + 1) (by omega)]
  exact whole

/-- Storing for one group leaves the slots of the others whole. -/
theorem Whole.write (whole : slots.Whole index low high) {slot : Nat} (other : slot / 2 ≠ index)
    (position : Option Nat) :
    Whole (slots.setIfInBounds slot position) index low high := by
  refine whole.congr fun slot' same => ?_
  rw [getD_write, if_neg (by omega)]

end Slots

/-! ### Paths of threads -/

namespace Thread

/-- The thread in another state, with its position stored. -/
def stored (thread : Thread) (state slot : Nat) : Thread :=
  ⟨state, thread.position, thread.slots.setIfInBounds slot (some thread.position)⟩

/-- What a path may store that enters and leaves no groups but those of a set. -/
structure Nests (groups : Set Nat) (before after : Thread) : Prop where
  position_le : before.position ≤ after.position
  size_eq : after.slots.size = before.slots.size
  /-- The slots of other groups are kept. -/
  kept : ∀ slot, slot / 2 ∉ groups → after.slots.getD slot none = before.slots.getD slot none
  /-- The slots of these groups are whole if they were. -/
  whole : ∀ index ∈ groups, index * 2 + 1 < before.slots.size → ∀ low ≤ before.position,
    before.slots.Whole index low before.position → after.slots.Whole index low after.position

namespace Nests

variable {groups : Set Nat} {thread before after : Thread}

/-- A path that stores nothing. -/
theorem of_slots_eq (later : before.position ≤ after.position)
    (same : after.slots = before.slots) : Nests groups before after := by
  refine ⟨later, by rw [same], fun _ _ => by rw [same], fun index _ _ low _ whole => ?_⟩
  rw [same]
  exact whole.widen later

theorem trans (early : Nests groups thread before) (late : Nests groups before after) :
    Nests groups thread after := by
  refine ⟨early.position_le.trans late.position_le, late.size_eq.trans early.size_eq,
    fun slot other => (late.kept slot other).trans (early.kept slot other),
    fun index member room low above whole => ?_⟩
  exact late.whole index member (early.size_eq ▸ room) low (above.trans early.position_le)
    (early.whole index member room low above whole)

/-- **Entering a group, and leaving it.** In between only other groups are entered and left, so the
start of the group is still there when its end is stored. -/
theorem group {index target last : Nat} (member : index ∈ groups)
    (inner : Nests (groups \ {index}) (thread.stored target (index * 2)) before) :
    Nests groups thread (before.stored last (index * 2 + 1)) := by
  obtain ⟨later, size, kept, whole⟩ := inner
  dsimp only [stored] at later size kept whole ⊢
  rw [Array.size_setIfInBounds] at size whole
  refine ⟨later, ?_, fun slot other => ?_, fun group isGroup room low above wholeBefore => ?_⟩
  · exact Array.size_setIfInBounds.trans size
  · have apart : slot / 2 ≠ index := fun same => other (same ▸ member)
    rw [Slots.getD_write, if_neg (by omega), kept slot fun inside => other inside.1,
      Slots.getD_write, if_neg (by omega)]
  · dsimp only
    by_cases same : group = index
    · have first : before.slots.getD (index * 2) none = some thread.position := by
        have own : index * 2 / 2 = index := by omega
        rw [kept _ fun inside => inside.2 own, Slots.getD_write, if_pos ⟨rfl, by omega⟩]
      refine .inr ⟨thread.position, before.position, ?_, ?_, above, later, le_rfl⟩
      · rw [same, Slots.getD_write, if_neg (by omega), first]
      · rw [same, Slots.getD_write, if_pos ⟨rfl, by omega⟩]
    · refine (whole group ⟨isGroup, same⟩ room low above ?_).write (by omega) _
      exact wholeBefore.write (by omega) _

end Nests

/-- Paths from one thread to another, with the number of their steps. -/
inductive Goes (automaton : Automaton) (haystack : Array UInt8) : Nat → Thread → Thread → Prop where
  /-- The path that stays where it is. -/
  | here (thread : Thread) : Goes automaton haystack 0 thread thread
  /-- A step before a path. -/
  | step {count : Nat} {thread next goal : Thread} : next ∈ successors automaton haystack thread →
      Goes automaton haystack count next goal → Goes automaton haystack (count + 1) thread goal

variable {automaton : Automaton} {haystack : Array UInt8} {count : Nat}
  {thread next middle goal : Thread}

/-- A path may go one step further. -/
theorem Goes.snoc (goes : Goes automaton haystack count thread goal)
    (follows : next ∈ successors automaton haystack goal) :
    Goes automaton haystack (count + 1) thread next := by
  induction goes with
  | here => exact .step follows (.here _)
  | step first _ hypothesis => exact .step first (hypothesis follows)

/-- **A path to an accepting state** makes a step from every other state. -/
theorem Goes.exists_next (goes : Goes automaton haystack count thread goal)
    (accepts : automaton.state goal.state = .accept)
    (going : automaton.state thread.state ≠ .accept) :
    ∃ next rest, count = rest + 1 ∧ next ∈ successors automaton haystack thread ∧
      Goes automaton haystack rest next goal := by
  cases goes with
  | here => exact absurd accepts going
  | step follows goes => exact ⟨_, _, rfl, follows, goes⟩

/-- A path that stores a position. -/
theorem Goes.of_capture {target slot : Nat} (goes : Goes automaton haystack count thread goal)
    (accepts : automaton.state goal.state = .accept)
    (stores : automaton.state thread.state = .capture target slot) :
    ∃ rest, count = rest + 1 ∧ Goes automaton haystack rest (thread.stored target slot) goal := by
  obtain ⟨next, rest, rfl, follows, goes⟩ := goes.exists_next accepts (by simp [stores])
  rw [successors_of_capture stores] at follows
  obtain rfl : next = thread.stored target slot := List.mem_singleton.mp follows
  exact ⟨rest, rfl, goes⟩

/-- A path through a split goes to one of its targets. -/
theorem Goes.of_splits {targets : List Nat} {reverse : Bool}
    (goes : Goes automaton haystack count thread goal)
    (accepts : automaton.state goal.state = .accept)
    (splits : automaton.state thread.state = .splits targets reverse) :
    ∃ target ∈ targets, ∃ rest, count = rest + 1 ∧
      Goes automaton haystack rest (thread.moved target) goal := by
  obtain ⟨next, rest, rfl, follows, goes⟩ := goes.exists_next accepts (by simp [splits])
  have leads := state_mem_targets follows
  rw [successors_of_splits splits] at follows
  obtain ⟨target, -, rfl⟩ := List.mem_map.mp follows
  rw [splits] at leads
  exact ⟨target, leads, rest, rfl, goes⟩

end Thread

/-! ### Shapes -/

namespace Shape

open Thread (Goes)

variable {automaton : Automaton} {haystack : Array UInt8} {groups : Set Nat} {shape other : Shape}

/-- A path through a fragment of a shape, if it goes on to an accepting state, leaves the fragment
and has then stored for groups of a set only. -/
def Nests (automaton : Automaton) (haystack : Array UInt8) (groups : Set Nat) (shape : Shape) :
    Prop :=
  ∀ ⦃next count : Nat⦄ ⦃thread goal : Thread⦄, shape automaton.state thread.state next →
    automaton.state goal.state = .accept → Goes automaton haystack count thread goal →
    ∃ leaving rest, leaving.state = next ∧ rest ≤ count ∧ thread.Nests groups leaving ∧
      Goes automaton haystack rest leaving goal

/-- One state that stores nothing. -/
theorem nests_single {state : State} (leads : ∀ next, (state.redirect next).Allowed ∅ ∧
      ∀ target ∈ (state.redirect next).targets, target = next) :
    (single state).Nests automaton haystack groups := by
  intro next count thread goal here accepts goes
  have same : automaton.state thread.state = state.redirect next := here
  obtain ⟨allowed, only⟩ := leads next
  rw [← same] at allowed only
  have going : automaton.state thread.state ≠ .accept := by
    intro final
    rw [final] at allowed
    exact allowed
  obtain ⟨leaving, rest, rfl, follows, goes⟩ := goes.exists_next accepts going
  refine ⟨leaving, rest, only _ (Thread.state_mem_targets follows), Nat.le_succ rest, ?_, goes⟩
  refine .of_slots_eq (Thread.position_of_successor follows).1 ?_
  refine (Thread.slots_of_successor follows).resolve_right ?_
  rintro ⟨slot, stores, -⟩
  rw [stores] at allowed
  exact allowed

theorem nests_goto {look : Option Look} :
    (single (.goto 0 look)).Nests automaton haystack groups :=
  nests_single fun _ => by exact ⟨trivial, fun _ => List.mem_singleton.mp⟩

theorem nests_byte (byte : UInt8) : (single (.byte 0 byte)).Nests automaton haystack groups :=
  nests_single fun _ => by exact ⟨trivial, fun _ => List.mem_singleton.mp⟩

theorem nests_fail : (single .fail).Nests automaton haystack groups :=
  nests_single fun _ => by exact ⟨trivial, fun _ member => (List.not_mem_nil member).elim⟩

theorem nests_class (set : RangeSet) :
    (single (if set.isEmpty then .fail else .ranges 0 set)).Nests automaton haystack groups := by
  split
  · exact nests_fail
  · exact nests_single fun _ => by exact ⟨trivial, fun _ => List.mem_singleton.mp⟩

/-- **One fragment behind the other.** -/
theorem Nests.followedBy (one : shape.Nests automaton haystack groups)
    (two : other.Nests automaton haystack groups) :
    (shape.followedBy other).Nests automaton haystack groups := by
  rintro next count thread goal ⟨middle, early, late⟩ accepts goes
  obtain ⟨between, rest, rfl, less, nests, goes⟩ := one early accepts goes
  obtain ⟨leaving, rest', there, less', nests', goes⟩ := two late accepts goes
  exact ⟨leaving, rest', there, less'.trans less, nests.trans nests', goes⟩

theorem nests_bytesAfter (whole : shape.Nests automaton haystack groups) (bytes : Bytes) :
    (bytesAfter shape bytes).Nests automaton haystack groups := by
  induction bytes generalizing shape with
  | nil => exact whole
  | cons byte rest hypothesis => exact hypothesis (whole.followedBy (nests_byte byte))

theorem nests_literal (bytes : Bytes) : (literal bytes).Nests automaton haystack groups := by
  cases bytes with
  | nil => exact nests_goto
  | cons byte rest => exact nests_bytesAfter (nests_byte byte) rest

/-! ### Repetitions -/

section Repetitions

variable (body : shape.Nests automaton haystack groups) (greedy : Bool)

include body

theorem nests_copiesAfter (whole : other.Nests automaton haystack groups) (count : Nat) :
    (copiesAfter shape other count).Nests automaton haystack groups := by
  induction count generalizing other with
  | zero => exact whole
  | succ count hypothesis => exact hypothesis (whole.followedBy body)

theorem nests_exactly (count : Nat) : (exactly shape count).Nests automaton haystack groups := by
  cases count with
  | zero => exact nests_goto
  | succ count => exact nests_copiesAfter body body count

/-- **Copies that may be passed over.** -/
theorem nests_optionalCopies (count : Nat) :
    (optionalCopies shape greedy count).Nests automaton haystack groups := by
  induction count with
  | zero =>
    rintro next count thread goal rfl accepts goes
    exact ⟨thread, count, rfl, le_rfl, .of_slots_eq le_rfl rfl, goes⟩
  | succ count hypothesis =>
    rintro next total thread goal ⟨inner, middle, choice, bodied, others⟩ accepts goes
    obtain ⟨target, leads, rest, rfl, onward⟩ := goes.of_splits accepts choice
    have moves : thread.Nests groups (thread.moved target) := .of_slots_eq le_rfl rfl
    rcases List.mem_pair.mp leads with rfl | rfl
    · obtain ⟨leaving, rest', there, less, nests, goes⟩ :=
        body.followedBy hypothesis ⟨middle, bodied, others⟩ accepts onward
      exact ⟨leaving, rest', there, less.trans (Nat.le_succ rest), moves.trans nests, goes⟩
    · exact ⟨_, rest, rfl, Nat.le_succ rest, moves, onward⟩

/-- **A loop through the choice before its body.** -/
theorem nests_loop : (loop shape greedy).Nests automaton haystack groups := by
  rintro next count thread goal ⟨inner, choice, bodied⟩ accepts goes
  -- Each way round takes a step at the choice, whatever the body takes.
  induction count using Nat.strongRecOn generalizing thread with
  | _ count hypothesis =>
    obtain ⟨target, leads, rest, rfl, onward⟩ := goes.of_splits accepts choice
    have moves : thread.Nests groups (thread.moved target) := .of_slots_eq le_rfl rfl
    rcases List.mem_pair.mp leads with rfl | rfl
    · obtain ⟨around, rest', same, less, once, onward⟩ := body bodied accepts onward
      obtain ⟨leaving, rest'', there, less', more, goes⟩ :=
        hypothesis rest' (Nat.lt_succ_of_le less) (same ▸ choice) (same ▸ bodied) onward
      exact ⟨leaving, rest'', there, less'.trans (less.trans (Nat.le_succ rest)),
        (moves.trans once).trans more, goes⟩
    · exact ⟨_, rest, rfl, Nat.le_succ rest, moves, onward⟩

/-- **A loop through the choice behind its body.** -/
theorem nests_atLeastOnce : (atLeastOnce shape greedy).Nests automaton haystack groups :=
  fun _ _ _ _ shaped => body.followedBy (nests_loop body greedy) (atLeastOnce_le _ _ shaped)

/-- **Repetitions**, however they are built. -/
theorem nests_repetition (rule : LoopRule) (minLength : Option Nat) (min : Nat)
    (max : Option Nat) :
    (repetition shape greedy rule minLength min max).Nests automaton haystack groups := by
  have optional : ∀ {inner : Shape}, inner.Nests automaton haystack groups →
      (optional inner greedy).Nests automaton haystack groups := fun inner =>
    (nests_optionalCopies inner greedy 1).followedBy nests_goto
  have once := nests_atLeastOnce body greedy
  cases max with
  | none =>
    rcases min with _ | _ | count
    · rw [repetition, atLeast]
      split
      exacts [optional once, nests_loop body greedy]
    · exact once
    · exact (nests_exactly body (count + 1)).followedBy once
  | some max =>
    rw [repetition]
    split
    · exact optional body
    · split
      · exact nests_exactly body min
      · exact ((nests_exactly body min).followedBy
          (nests_optionalCopies body greedy (max - min))).followedBy nests_goto

end Repetitions

/-! ### Groups and branches -/

/-- **A group** whose body stores for other groups only. -/
theorem nests_group {index : Nat} (member : index ∈ groups)
    (body : shape.Nests automaton haystack (groups \ {index})) :
    (group shape index).Nests automaton haystack groups := by
  rintro next count thread goal ⟨inner, last, starts, bodied, ends⟩ accepts goes
  obtain ⟨rest, rfl, inside⟩ := goes.of_capture accepts starts
  obtain ⟨leaving, rest', rfl, less, nests, outside⟩ := body bodied accepts inside
  obtain ⟨rest'', rfl, onward⟩ := outside.of_capture accepts ends
  exact ⟨_, rest'', rfl, by omega, .group member nests, onward⟩

/-- **Branches** of which one is entered. -/
theorem nests_branching {branches : List Shape}
    (all : ∀ branch ∈ branches, branch.Nests automaton haystack groups) :
    (branching branches).Nests automaton haystack groups := by
  rintro next count thread goal ⟨entries, choice, entered⟩ accepts goes
  obtain ⟨target, leads, rest, rfl, onward⟩ := goes.of_splits accepts choice
  have moves : thread.Nests groups (thread.moved target) := .of_slots_eq le_rfl rfl
  obtain ⟨branch, isBranch, enters⟩ : ∃ branch ∈ branches, branch automaton.state target next := by
    clear choice goes onward moves
    induction entered with
    | nil => cases leads
    | cons enters _ hypothesis =>
      rcases List.mem_cons.mp leads with rfl | later
      · exact ⟨_, List.mem_cons_self, enters⟩
      · obtain ⟨branch, isBranch, enters⟩ :=
          hypothesis (fun branch member => all branch (List.mem_cons_of_mem _ member)) later
        exact ⟨branch, List.mem_cons_of_mem _ isBranch, enters⟩
  obtain ⟨leaving, rest', there, less, nests, onward⟩ := all branch isBranch enters accepts onward
  exact ⟨leaving, rest', there, less.trans (Nat.le_succ rest), moves.trans nests, onward⟩

end Shape

/-! ### Patterns -/

namespace Pattern

variable {automaton : Automaton} {haystack : Array UInt8}

mutual

/-- **Paths through the fragment of a pattern** leave every group that they enter, when no group
holds another one of its index. -/
theorem shape_nests (rule : LoopRule) : (pattern : Pattern) → {groups : Set Nat} →
    pattern.GroupsApart → (∀ index ∈ pattern.groups, index ∈ groups) →
    (pattern.shape rule).Nests automaton haystack groups
  | .empty, _, _, _ => Shape.nests_goto
  | .literal bytes, _, _, _ => Shape.nests_literal bytes
  | .byteClass set, _, _, _ | .charClass set, _, _, _ => Shape.nests_class set
  | .look _, _, _, _ => Shape.nests_goto
  | .wideLook _, _, _, _ => Shape.nests_fail
  | .repetition min max greedy body, _, apart, inside =>
    Shape.nests_repetition (shape_nests rule body apart.repetition.2 inside) greedy rule
      body.minLength min max
  | .group index body, groups, apart, inside => by
    obtain ⟨other, apart⟩ := apart.group
    obtain ⟨member, inside⟩ := List.forall_mem_cons.mp inside
    have within : ∀ group ∈ body.groups, group ∈ groups \ {index} := fun group isGroup =>
      ⟨inside group isGroup, fun same => other (same ▸ isGroup)⟩
    exact Shape.nests_group member (shape_nests rule body apart within)
  | .concat [], _, _, _ => Shape.nests_goto
  | .concat (part :: rest), _, apart, inside => by
    obtain ⟨first, others⟩ := List.forall_mem_cons.mp apart.concat
    obtain ⟨here, there⟩ := List.forall_mem_append.mp inside
    exact partsShape_nests rule rest others there (shape_nests rule part first here)
  | .alternation [], _, _, _ => Shape.nests_fail
  | .alternation [branch], _, apart, inside =>
    shape_nests rule branch (apart.alternation _ List.mem_cons_self) fun index member =>
      inside index (List.mem_append_left _ member)
  | .alternation (one :: other :: rest), _, apart, inside =>
    (Shape.nests_branching
      (branchShapes_nests rule (one :: other :: rest) apart.alternation inside)).followedBy
      Shape.nests_goto

theorem partsShape_nests (rule : LoopRule) : (parts : List Pattern) → {groups : Set Nat} →
    (∀ part ∈ parts, part.GroupsApart) → (∀ index ∈ groupsIn parts, index ∈ groups) →
    {whole : Shape} → whole.Nests automaton haystack groups →
    (partsShape rule whole parts).Nests automaton haystack groups
  | [], _, _, _, _, nests => nests
  | part :: rest, _, apart, inside, _, nests => by
    obtain ⟨first, others⟩ := List.forall_mem_cons.mp apart
    obtain ⟨here, there⟩ := List.forall_mem_append.mp inside
    exact partsShape_nests rule rest others there
      (nests.followedBy (shape_nests rule part first here))

theorem branchShapes_nests (rule : LoopRule) : (branches : List Pattern) → {groups : Set Nat} →
    (∀ branch ∈ branches, branch.GroupsApart) → (∀ index ∈ groupsIn branches, index ∈ groups) →
    ∀ shape ∈ branchShapes rule branches, shape.Nests automaton haystack groups
  | [], _, _, _, _, member => (List.not_mem_nil member).elim
  | branch :: rest, _, apart, inside, shape, member => by
    obtain ⟨first, others⟩ := List.forall_mem_cons.mp apart
    obtain ⟨here, there⟩ := List.forall_mem_append.mp inside
    rcases List.mem_cons.mp member with rfl | later
    · exact shape_nests rule branch first here
    · exact branchShapes_nests rule rest others there shape later

end

end Pattern

end Crosscheck
