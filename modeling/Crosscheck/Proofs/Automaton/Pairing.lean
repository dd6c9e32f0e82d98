/-
**Building side by side.**

Two automata are built from the same pattern, or from patterns that only differ somewhere inside.
What is known of their states so far is a world: which state of the one has the place of which state
of the other. Building adds states, so one world comes after the other, and whatever adds states and
sets targets in both automata alike leads from a world to a later one.

* `Pairing`: worlds, and what adding a state and setting a target have to keep;
* `Pairing.Alike`, `Pairing.AddAlike`: steps of building that do the same in both automata;
* `Pairing.alike_repetition`, `Pairing.alike_group` and others: one for each way of building;
* `Pairing.alike_pattern`: the same pattern in both automata.
-/
import Crosscheck.Proofs.Automaton.Laying

namespace Crosscheck

/-! ### Worlds -/

namespace Build

/-- Steps of building that lead from a world to a later one, where their results are related. -/
def Alike {World α β : Type} [LE World] (holds : World → Builder → Builder → Prop) (world : World)
    (related : World → α → β → Prop) (one : Build α) (other : Build β) : Prop :=
  ∀ ⦃before before' : Builder⦄, holds world before before' →
    ∀ ⦃after after' : Builder⦄ ⦃result : α⦄ ⦃result' : β⦄, one before = .ok (result, after) →
      other before' = .ok (result', after') →
      ∃ later, world ≤ later ∧ holds later after after' ∧ related later result result'

/-- The fragment of a group, behind the state `first` that stores where it starts. -/
def groupBehind (index : Nat) (body : Build Fragment) (first : Nat) : Build Fragment := do
  let inner ← body
  let last ← add (.capture 0 (index * 2 + 1))
  patch first inner.first
  patch inner.last last
  return ⟨first, last⟩

end Build

/-- What is known of the states of two automata that are built side by side. -/
structure Pairing (World : Type) [Preorder World] where
  /-- A world is one of two builders. -/
  Holds : World → Builder → Builder → Prop
  /-- A state of the one automaton has the place of a state of the other. -/
  Same : World → Nat → Nat → Prop
  /-- To come to a state of the one automaton is to come to a state of the other. -/
  Stands : World → Nat → Nat → Prop
  /-- States keep their places. -/
  same_mono : ∀ {world later : World}, world ≤ later → ∀ {index index'}, Same world index index' →
    Same later index index'
  stands_mono : ∀ {world later : World}, world ≤ later → ∀ {index index'},
    Stands world index index' → Stands later index index'
  stands_of_same : ∀ {world : World} {index index'}, Same world index index' →
    Stands world index index'
  /-- **A state without a target** may be added to both. -/
  add : ∀ (world : World) {state : State}, (∀ target ∈ state.targets, target = 0) →
    Build.Alike Holds world Same (Build.add state) (Build.add state)
  /-- **Targets** may be set in both. -/
  patch : ∀ {world : World} {source source' target target'}, Same world source source' →
    Stands world target target' → ∀ ⦃before before'⦄, Holds world before before' →
    ∀ ⦃after after' done done'⦄, Build.patch source target before = .ok (done, after) →
      Build.patch source' target' before' = .ok (done', after') → Holds world after after'

namespace Pairing

open Build (bind_eq_ok pure_eq_ok)

variable {World α β γ δ : Type} [Preorder World] (pairing : Pairing World)

/-- Steps of building that do the same in both automata. -/
abbrev Alike (world : World) (related : World → α → β → Prop) (one : Build α)
    (other : Build β) : Prop :=
  Build.Alike pairing.Holds world related one other

/-- Fragments with the same place. -/
structure Fragments (world : World) (one other : Fragment) : Prop where
  first : pairing.Stands world one.first other.first
  last : pairing.Same world one.last other.last

/-- Steps of building that add fragments with the same place, in any world. -/
abbrev AddAlike (one other : Build Fragment) : Prop :=
  ∀ world, pairing.Alike world pairing.Fragments one other

variable {pairing} {world later : World}

theorem Fragments.mono {one other : Fragment} (fragments : pairing.Fragments world one other)
    (grows : world ≤ later) : pairing.Fragments later one other :=
  ⟨pairing.stands_mono grows fragments.first, pairing.same_mono grows fragments.last⟩

theorem Alike.bind {related : World → α → β → Prop} {related' : World → γ → δ → Prop}
    {one : Build α} {other : Build β} {next : α → Build γ} {next' : β → Build δ}
    (first : pairing.Alike world related one other)
    (rest : ∀ later, world ≤ later → ∀ result result', related later result result' →
      pairing.Alike later related' (next result) (next' result')) :
    pairing.Alike world related' (one >>= next) (other >>= next') := by
  intro before before' holds after after' result result' built built'
  obtain ⟨middle, value, early, late⟩ := bind_eq_ok.mp built
  obtain ⟨middle', value', early', late'⟩ := bind_eq_ok.mp built'
  obtain ⟨between, grows, holds, same⟩ := first holds early early'
  obtain ⟨later, grows', holds, same⟩ := rest between grows value value' same holds late late'
  exact ⟨later, grows.trans grows', holds, same⟩

theorem Alike.pure {related : World → α → β → Prop} {result : α} {result' : β}
    (same : related world result result') :
    pairing.Alike world related (pure result) (pure result') := by
  intro before before' holds after after' value value' built built'
  obtain ⟨rfl, rfl⟩ := pure_eq_ok.mp built
  obtain ⟨rfl, rfl⟩ := pure_eq_ok.mp built'
  exact ⟨world, le_rfl, holds, same⟩

/-- Setting a target does not change which states go together. -/
theorem Alike.patch {related : World → α → β → Prop} {source source' target target' : Nat}
    {next : Unit → Build α} {next' : Unit → Build β} (here : pairing.Same world source source')
    (there : pairing.Stands world target target')
    (rest : pairing.Alike world related (next ()) (next' ())) :
    pairing.Alike world related (Build.patch source target >>= next)
      (Build.patch source' target' >>= next') := by
  intro before before' holds after after' result result' built built'
  obtain ⟨middle, _, patched, late⟩ := bind_eq_ok.mp built
  obtain ⟨middle', _, patched', late'⟩ := bind_eq_ok.mp built'
  exact rest (pairing.patch here there holds patched patched') late late'

/-- Steps that fail are alike, whatever their results would be. -/
theorem alike_throw {related : World → α → β → Prop} (feature : Unsupported) :
    pairing.Alike world related (throw feature) (throw feature) := by
  intro before before' holds after after' result result' built
  cases built

/-! ### Leaves -/

section Leaves

variable {whole whole' : Fragment}

theorem add_alike (world : World) {state : State} (unset : ∀ target ∈ state.targets, target = 0) :
    pairing.Alike world pairing.Same (Build.add state) (Build.add state) :=
  pairing.add world unset

theorem addEmpty_alike (world : World) :
    pairing.Alike world pairing.Same Build.addEmpty Build.addEmpty :=
  add_alike world fun _ => List.mem_singleton.mp

theorem addSplits_alike (world : World) (greedy : Bool) :
    pairing.Alike world pairing.Same (Build.addSplits greedy) (Build.addSplits greedy) :=
  add_alike world fun _ member => (List.not_mem_nil member).elim

theorem alike_single {state : State} (unset : ∀ target ∈ state.targets, target = 0) :
    pairing.AddAlike (Build.single state) (Build.single state) := fun world =>
  (add_alike world unset).bind fun _ _ _ _ same => .pure ⟨pairing.stands_of_same same, same⟩

theorem alike_goto (look : Option Look) :
    pairing.AddAlike (Build.single (.goto 0 look)) (Build.single (.goto 0 look)) :=
  alike_single fun _ => List.mem_singleton.mp

theorem alike_byte (byte : UInt8) :
    pairing.AddAlike (Build.single (.byte 0 byte)) (Build.single (.byte 0 byte)) :=
  alike_single fun _ => List.mem_singleton.mp

theorem alike_fail : pairing.AddAlike (Build.single .fail) (Build.single .fail) :=
  alike_single fun _ member => (List.not_mem_nil member).elim

theorem alike_bytesAfter (bytes : Bytes) (fragments : pairing.Fragments world whole whole') :
    pairing.Alike world pairing.Fragments (Build.bytesAfter whole bytes)
      (Build.bytesAfter whole' bytes) := by
  induction bytes generalizing world whole whole' with
  | nil => exact .pure fragments
  | cons byte rest hypothesis =>
    refine (alike_byte byte world).bind fun later grows next next' added => ?_
    have before := fragments.mono grows
    exact .patch before.last added.first (hypothesis ⟨before.first, added.last⟩)

theorem alike_literal (bytes : Bytes) :
    pairing.AddAlike (Build.literal bytes) (Build.literal bytes) := by
  cases bytes with
  | nil => exact alike_goto none
  | cons byte rest =>
    exact fun world => (alike_byte byte world).bind fun _ _ _ _ added =>
      alike_bytesAfter rest added

theorem alike_byteClass (ranges : RangeSet) :
    pairing.AddAlike (Build.byteClass ranges) (Build.byteClass ranges) := by
  unfold Build.byteClass
  split
  · exact alike_fail
  · exact alike_single fun _ => List.mem_singleton.mp

theorem alike_charClass (chars : RangeSet) :
    pairing.AddAlike (Build.charClass chars) (Build.charClass chars) := by
  unfold Build.charClass
  split
  · exact alike_byteClass chars
  · exact fun _ => alike_throw .wideClass

end Leaves

/-! ### Repetitions and groups -/

section Bodies

variable {body body' : Build Fragment} {whole whole' : Fragment}

/-- **Copies of a body behind a fragment.** -/
theorem alike_copiesAfter (inner : pairing.AddAlike body body') (count : Nat)
    (fragments : pairing.Fragments world whole whole') :
    pairing.Alike world pairing.Fragments (Build.copiesAfter body whole count)
      (Build.copiesAfter body' whole' count) := by
  induction count generalizing world whole whole' with
  | zero => exact .pure fragments
  | succ count hypothesis =>
    refine (inner world).bind fun later grows next next' added => ?_
    have before := fragments.mono grows
    exact .patch before.last added.first (hypothesis ⟨before.first, added.last⟩)

theorem alike_exactly (inner : pairing.AddAlike body body') (count : Nat) :
    pairing.AddAlike (Build.exactly body count) (Build.exactly body' count) := by
  cases count with
  | zero => exact alike_goto none
  | succ count =>
    exact fun world => (inner world).bind fun _ _ _ _ added => alike_copiesAfter inner count added

theorem alike_optional (greedy : Bool) (inner : pairing.AddAlike body body') :
    pairing.AddAlike (Build.optional greedy body) (Build.optional greedy body') := by
  intro world
  refine (addSplits_alike world greedy).bind fun world _ splits splits' choice => ?_
  refine (inner world).bind fun middle grows fragment fragment' added => ?_
  refine (addEmpty_alike middle).bind fun later grows' last last' exit => ?_
  have choice := pairing.same_mono (grows.trans grows') choice
  have added := added.mono grows'
  have leaves := pairing.stands_of_same exit
  refine .patch choice added.first (.patch choice leaves (.patch added.last leaves ?_))
  exact .pure ⟨pairing.stands_of_same choice, exit⟩

theorem alike_optionalCopies (greedy : Bool) (inner : pairing.AddAlike body body') (count : Nat)
    {exit exit' last last' : Nat} (exits : pairing.Stands world exit exit')
    (lasts : pairing.Same world last last') :
    pairing.Alike world pairing.Same (Build.optionalCopies greedy body exit last count)
      (Build.optionalCopies greedy body' exit' last' count) := by
  induction count generalizing world last last' with
  | zero => exact .pure lasts
  | succ count hypothesis =>
    refine (addSplits_alike world greedy).bind fun middle grows splits splits' choice => ?_
    refine (inner middle).bind fun later grows' fragment fragment' added => ?_
    have lasts := pairing.same_mono (grows.trans grows') lasts
    have exits := pairing.stands_mono (grows.trans grows') exits
    have choice := pairing.same_mono grows' choice
    refine .patch lasts (pairing.stands_of_same choice) (.patch choice added.first
      (.patch choice exits ?_))
    exact hypothesis exits added.last

theorem alike_bounded (greedy : Bool) (inner : pairing.AddAlike body body') (min max : Nat) :
    pairing.AddAlike (Build.bounded greedy body min max) (Build.bounded greedy body' min max) := by
  intro world
  refine (alike_exactly inner min world).bind fun first _ whole whole' added => ?_
  refine (addEmpty_alike first).bind fun second grows exit exit' exits => ?_
  have added := added.mono grows
  refine (alike_optionalCopies greedy inner (max - min) (pairing.stands_of_same exits)
    added.last).bind fun third grows last last' lasts => ?_
  have exits := pairing.same_mono grows exits
  exact .patch lasts (pairing.stands_of_same exits) (.pure ⟨(added.mono grows).first, exits⟩)

theorem alike_loop (greedy : Bool) (inner : pairing.AddAlike body body') :
    pairing.AddAlike (Build.loop greedy body) (Build.loop greedy body') := by
  intro world
  refine (addSplits_alike world greedy).bind fun middle _ splits splits' choice => ?_
  refine (inner middle).bind fun later grows fragment fragment' added => ?_
  have choice := pairing.same_mono grows choice
  have enters := pairing.stands_of_same choice
  exact .patch choice added.first (.patch added.last enters (.pure ⟨enters, choice⟩))

theorem alike_atLeastOnce (greedy : Bool) (inner : pairing.AddAlike body body') :
    pairing.AddAlike (Build.atLeastOnce greedy body) (Build.atLeastOnce greedy body') := by
  intro world
  refine (inner world).bind fun middle _ fragment fragment' added => ?_
  refine (addSplits_alike middle greedy).bind fun later grows splits splits' choice => ?_
  have added := added.mono grows
  refine .patch added.last (pairing.stands_of_same choice) (.patch choice added.first ?_)
  exact .pure ⟨added.first, choice⟩

theorem alike_enteredLoop (greedy : Bool) (inner : pairing.AddAlike body body') :
    pairing.AddAlike (Build.enteredLoop greedy body) (Build.enteredLoop greedy body') := by
  intro world
  refine (inner world).bind fun first _ fragment fragment' added => ?_
  refine (addSplits_alike first greedy).bind fun second grows again again' repeats => ?_
  have added := added.mono grows
  refine .patch added.last (pairing.stands_of_same repeats) (.patch repeats added.first ?_)
  refine (addSplits_alike second greedy).bind fun third grows entry entry' enters => ?_
  refine (addEmpty_alike third).bind fun last grows' exit exit' exits => ?_
  have first := pairing.stands_mono (grows.trans grows') added.first
  have repeats := pairing.same_mono (grows.trans grows') repeats
  have enters := pairing.same_mono grows' enters
  have leaves := pairing.stands_of_same exits
  refine .patch enters first (.patch enters leaves (.patch repeats leaves ?_))
  exact .pure ⟨pairing.stands_of_same enters, exits⟩

theorem alike_moreThan (greedy : Bool) (inner : pairing.AddAlike body body') (count : Nat) :
    pairing.AddAlike (Build.moreThan greedy body count) (Build.moreThan greedy body' count) := by
  intro world
  refine (alike_exactly inner count world).bind fun first _ whole whole' before => ?_
  refine (inner first).bind fun second grows fragment fragment' added => ?_
  refine (addSplits_alike second greedy).bind fun third grows' splits splits' choice => ?_
  have before := before.mono (grows.trans grows')
  have added := added.mono grows'
  refine .patch before.last added.first (.patch added.last (pairing.stands_of_same choice)
    (.patch choice added.first ?_))
  exact .pure ⟨before.first, choice⟩

/-- **Any repetition**, if both loops are entered in the same way. -/
theorem alike_repetition {rule : LoopRule} (min : Nat) (max : Option Nat) (greedy : Bool)
    {minLength minLength' : Option Nat}
    (entry : rule.hasOwnEntry minLength = rule.hasOwnEntry minLength')
    (inner : pairing.AddAlike body body') :
    pairing.AddAlike (Build.repetition rule min max greedy minLength body)
      (Build.repetition rule min max greedy minLength' body') := by
  cases max with
  | none =>
    rcases min with _ | _ | count
    · rw [Build.repetition, Build.repetition, Build.atLeast, Build.atLeast, entry]
      split
      · exact alike_enteredLoop greedy inner
      · exact alike_loop greedy inner
    · exact alike_atLeastOnce greedy inner
    · exact alike_moreThan greedy inner (count + 1)
  | some max =>
    rw [Build.repetition, Build.repetition]
    split
    · exact alike_optional greedy inner
    · split
      · exact alike_exactly inner min
      · exact alike_bounded greedy inner min max

/-- **A group** behind the state that stores where it starts. -/
theorem alike_groupBehind (index : Nat) (inner : pairing.AddAlike body body') {first first' : Nat}
    (starts : pairing.Same world first first') :
    pairing.Alike world pairing.Fragments (Build.groupBehind index body first)
      (Build.groupBehind index body' first') := by
  refine (inner world).bind fun middle grows fragment fragment' added => ?_
  refine (add_alike middle fun _ => List.mem_singleton.mp).bind
    fun later grows' last last' ends => ?_
  have starts := pairing.same_mono (grows.trans grows') starts
  have added := added.mono grows'
  refine .patch starts added.first (.patch added.last (pairing.stands_of_same ends) ?_)
  exact .pure ⟨pairing.stands_of_same starts, ends⟩

theorem alike_group (index : Nat) (inner : pairing.AddAlike body body') :
    pairing.AddAlike (Build.group index body) (Build.group index body') := fun world =>
  (add_alike world fun _ => List.mem_singleton.mp).bind fun _ _ _ _ starts =>
    alike_groupBehind index inner starts

end Bodies

/-! ### Parts and branches -/

/-- Patterns that are built alike. -/
def Patterns (pairing : Pairing World) (rule : LoopRule) (one other : Pattern) : Prop :=
  pairing.AddAlike (Build.pattern rule one) (Build.pattern rule other)

section Lists

variable {rule : LoopRule} {parts parts' : List Pattern}

theorem alike_partsAfter (same : List.Forall₂ (pairing.Patterns rule) parts parts')
    {whole whole' : Fragment} (fragments : pairing.Fragments world whole whole') :
    pairing.Alike world pairing.Fragments (Build.partsAfter rule whole parts)
      (Build.partsAfter rule whole' parts') := by
  induction same generalizing world whole whole' with
  | nil =>
    rw [Build.partsAfter, Build.partsAfter]
    exact .pure fragments
  | cons first rest hypothesis =>
    rw [Build.partsAfter, Build.partsAfter]
    refine (first world).bind fun later grows next next' added => ?_
    have before := fragments.mono grows
    exact .patch before.last added.first (hypothesis ⟨before.first, added.last⟩)

theorem alike_branchesInto (same : List.Forall₂ (pairing.Patterns rule) parts parts')
    {splits splits' last last' : Nat} (choice : pairing.Same world splits splits')
    (exit : pairing.Same world last last') :
    pairing.Alike world (fun _ _ _ => True) (Build.branchesInto rule splits last parts)
      (Build.branchesInto rule splits' last' parts') := by
  induction same generalizing world with
  | nil =>
    rw [Build.branchesInto, Build.branchesInto]
    exact .pure trivial
  | cons first rest hypothesis =>
    rw [Build.branchesInto, Build.branchesInto]
    refine (first world).bind fun later grows next next' added => ?_
    have choice := pairing.same_mono grows choice
    have exit := pairing.same_mono grows exit
    exact .patch choice added.first (.patch added.last (pairing.stands_of_same exit)
      (hypothesis choice exit))

/-- **Parts one after the other.** -/
theorem alike_concat (same : List.Forall₂ (pairing.Patterns rule) parts parts') :
    pairing.Patterns rule (.concat parts) (.concat parts') := by
  cases same with
  | nil =>
    rw [Patterns, Build.pattern]
    exact alike_goto none
  | cons first rest =>
    rw [Patterns, Build.pattern, Build.pattern]
    exact fun world => (first world).bind fun _ _ _ _ added => alike_partsAfter rest added

/-- **Branches of a choice.** -/
theorem alike_alternation (same : List.Forall₂ (pairing.Patterns rule) parts parts') :
    pairing.Patterns rule (.alternation parts) (.alternation parts') := by
  rcases same with _ | ⟨first, _ | ⟨second, rest⟩⟩
  · rw [Patterns, Build.pattern]
    exact alike_fail
  · rw [Patterns, Build.pattern, Build.pattern]
    exact first
  · rw [Patterns, Build.pattern, Build.pattern]
    intro world
    refine (first world).bind fun world1 _ one one' early => ?_
    refine (second world1).bind fun world2 grows2 other other' late => ?_
    refine (addSplits_alike world2 true).bind fun world3 grows3 splits splits' choice => ?_
    refine (addEmpty_alike world3).bind fun world4 grows4 last last' exit => ?_
    have early := early.mono (grows2.trans (grows3.trans grows4))
    have late := late.mono (grows3.trans grows4)
    have choice := pairing.same_mono grows4 choice
    have leaves := pairing.stands_of_same exit
    refine .patch choice early.first (.patch early.last leaves (.patch choice late.first
      (.patch late.last leaves ?_)))
    refine (alike_branchesInto rest choice exit).bind fun later grows _ _ _ => ?_
    have choice := pairing.same_mono grows choice
    exact .pure ⟨pairing.stands_of_same choice, pairing.same_mono grows exit⟩

end Lists

/-! ### Patterns -/

mutual

/-- **A pattern is built alike in both automata.** -/
theorem alike_pattern (pairing : Pairing World) (rule : LoopRule) : (pattern : Pattern) →
    pairing.Patterns rule pattern pattern
  | .empty => by
    rw [Patterns, Build.pattern]
    exact alike_goto none
  | .literal bytes => by
    rw [Patterns, Build.pattern]
    exact alike_literal bytes
  | .byteClass bytes => by
    rw [Patterns, Build.pattern]
    exact alike_byteClass bytes
  | .charClass chars => by
    rw [Patterns, Build.pattern]
    exact alike_charClass chars
  | .look assertion => by
    rw [Patterns, Build.pattern]
    exact alike_goto (some assertion)
  | .wideLook _ => by
    rw [Patterns, Build.pattern]
    exact fun _ => alike_throw .wideWordAssertion
  | .repetition min max greedy body => by
    rw [Patterns, Build.pattern]
    exact alike_repetition min max greedy rfl (alike_pattern pairing rule body)
  | .group index body => by
    rw [Patterns, Build.pattern]
    exact alike_group index (alike_pattern pairing rule body)
  | .concat parts => alike_concat (alike_patterns pairing rule parts)
  | .alternation branches => alike_alternation (alike_patterns pairing rule branches)

theorem alike_patterns (pairing : Pairing World) (rule : LoopRule) : (patterns : List Pattern) →
    List.Forall₂ (pairing.Patterns rule) patterns patterns
  | [] => .nil
  | pattern :: rest => .cons (alike_pattern pairing rule pattern) (alike_patterns pairing rule rest)

end

end Pairing

end Crosscheck
