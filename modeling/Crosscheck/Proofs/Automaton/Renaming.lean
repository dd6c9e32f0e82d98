/-
**Where a fragment is built does not matter.**

Whatever states there are before, a pattern is built from the same states in the same order. Behind
a different number of states they have different numbers, and so have their targets.

* `State.renamed`: a state with other numbers for its targets;
* `shift`: the numbers of states that were built from another state on;
* `Builder.Alike`: builders that only differ in such numbers;
* `Pairing.shifting`: adding states and setting targets keeps them so;
* `Build.alike_of_built`: patterns are built alike;
* `Laid.renamed`: a fragment in two graphs.
-/
import Crosscheck.Proofs.Automaton.Pairing

namespace Crosscheck

/-! ### Other numbers -/

namespace State

/-- The state with other numbers for its targets. -/
def renamed (image : Nat → Nat) : State → State
  | .byte target value => .byte (image target) value
  | .ranges target set => .ranges (image target) set
  | .splits targets reverse => .splits (targets.map image) reverse
  | .goto target look => .goto (image target) look
  | .capture target slot => .capture (image target) slot
  | .fail => .fail
  | .accept => .accept

variable {image image' : Nat → Nat}

theorem renamed_id (state : State) : state.renamed id = state := by
  cases state <;> simp [renamed]

theorem renamed_renamed (state : State) :
    (state.renamed image).renamed image' = state.renamed (image' ∘ image) := by
  cases state <;> simp [renamed]

theorem renamed_redirect (state : State) (target : Nat) :
    (state.redirect target).renamed image = (state.renamed image).redirect (image target) := by
  cases state <;> simp [redirect, renamed]

/-- A state that is given a target has no other new one. -/
theorem mem_targets_redirect {state : State} {target next : Nat}
    (member : next ∈ (state.redirect target).targets) : next ∈ state.targets ∨ next = target := by
  cases state with
  | splits targets reverse => exact (List.mem_append.mp member).imp_right List.mem_singleton.mp
  | byte | ranges | goto | capture => exact .inr (List.mem_singleton.mp member)
  | fail | accept => cases member

theorem transition_renamed (state : State) (next : UInt8) :
    (state.renamed image).transition next = (state.transition next).map image := by
  cases state with
  | byte target value =>
    rw [renamed, transition, transition]
    split <;> rfl
  | ranges target set =>
    rw [renamed, transition, transition]
    split <;> rfl
  | _ => rfl

theorem map_branches (targets : List Nat) (reverse : Bool) :
    branches (targets.map image) reverse = (branches targets reverse).map image := by
  cases reverse with
  | true => exact List.map_reverse.symm
  | false => rfl

/-- Only the numbers of targets matter, and the target of a state that is redirected does not. -/
theorem renamed_redirect_congr {state : State} (own : Nat) {target : Nat}
    (same : ∀ target ∈ (state.redirect own).targets, image target = image' target) :
    (state.renamed image).redirect target = (state.renamed image').redirect target := by
  cases state with
  | splits targets reverse =>
    have same : ∀ target ∈ targets, image target = image' target := fun target member =>
      same target (List.mem_append_left _ member)
    exact congrArg (fun targets => splits (targets ++ [target]) reverse) (List.map_congr_left same)
  | byte | ranges | goto | capture | fail | accept => rfl

/-- Only the numbers of targets matter. -/
theorem renamed_congr {state : State}
    (same : ∀ target ∈ state.targets, image target = image' target) :
    state.renamed image = state.renamed image' := by
  cases state with
  | splits targets reverse => exact congrArg (splits · reverse) (List.map_congr_left same)
  | byte target _ | ranges target _ | goto target _ | capture target _ =>
    rw [renamed, renamed, same target (List.mem_singleton_self _)]
  | fail | accept => rfl

end State

/-- The number of a state that is built from `low'` on instead of from `low` on. -/
def shift (low low' index : Nat) : Nat := if index < low then index else index - low + low'

section Shift

variable {low : Nat} (low' : Nat) {index other : Nat}

theorem shift_of_lt (below : index < low) : shift low low' index = index := if_pos below

theorem shift_add (above : low ≤ index) : shift low low' index + low = index + low' := by
  rw [shift, if_neg (by omega)]
  omega

theorem shift_inj (above : low ≤ index) (above' : low ≤ other) :
    shift low low' index = shift low low' other ↔ index = other := by
  have := shift_add low' above
  have := shift_add low' above'
  omega

end Shift

/-- A state has a number when it is built from `low` on, and another one from `low'` on. -/
def Shifts (low low' : Nat) (index index' : Nat) : Prop :=
  low ≤ index ∧ index' = shift low low' index

/-- A fragment is built from `low` on, and the other one from `low'` on. -/
structure Fragment.Shifts (low low' : Nat) (one other : Fragment) : Prop where
  first : Crosscheck.Shifts low low' one.first other.first
  last : Crosscheck.Shifts low low' one.last other.last

/-! ### Alike -/

/-- Builders with the same states from `low` and from `low'` on, but for their numbers. -/
structure Builder.Alike (low low' : Nat) (one other : Builder) : Prop where
  le_size : low ≤ one.size
  size_eq : other.size = shift low low' one.size
  state_eq : ∀ index, low ≤ index → index < one.size →
    other.state (shift low low' index) = (one.state index).renamed (shift low low')

namespace Build

variable {low low' : Nat}

/-- **States are added alike.** -/
theorem alike_add {state : State} {before before' after after' : Builder} {index index' : Nat}
    (unset : state = state.renamed (shift low low')) (alike : before.Alike low low' before')
    (added : add state before = .ok (index, after))
    (added' : add state before' = .ok (index', after')) :
    Shifts low low' index index' ∧ after.Alike low low' after' := by
  obtain ⟨rfl, size, states⟩ := add_eq_ok added
  obtain ⟨rfl, size', states'⟩ := add_eq_ok added'
  have least := alike.le_size
  have sizes := alike.size_eq
  have sum := shift_add low' least
  refine ⟨⟨least, sizes⟩, by omega, ?_, fun index above below => ?_⟩
  · have next : shift low low' (before.size + 1) + low = before.size + 1 + low' :=
      shift_add low' (by omega)
    rw [size]
    omega
  · rw [states, states', sizes, if_congr (shift_inj low' above least) rfl rfl]
    split
    · exact unset
    · exact alike.state_eq index above (by omega)

/-- **Targets are set alike.** -/
theorem alike_patch {source source' target target' : Nat} {before before' after after' : Builder}
    {done done' : Unit} (here : Shifts low low' source source')
    (there : Shifts low low' target target') (alike : before.Alike low low' before')
    (patched : patch source target before = .ok (done, after))
    (patched' : patch source' target' before' = .ok (done', after')) :
    after.Alike low low' after' := by
  obtain ⟨above, rfl⟩ := here
  obtain ⟨-, rfl⟩ := there
  obtain ⟨size, states⟩ := patch_eq_ok patched
  obtain ⟨size', states'⟩ := patch_eq_ok patched'
  refine ⟨size ▸ alike.le_size, by rw [size, size', alike.size_eq], fun index above' below => ?_⟩
  rw [states, states', if_congr (shift_inj low' above' above) rfl rfl,
    alike.state_eq index above' (size ▸ below)]
  split
  · rw [State.renamed_redirect]
  · rfl

end Build

/-- The only world of building in which nothing is found out on the way. -/
inductive OneWorld where
  | here

instance : Preorder OneWorld where
  le _ _ := True
  le_refl _ := trivial
  le_trans _ _ _ _ _ := trivial

/-- Building behind some states and behind others. Where a state has no target yet it leads to
state 0, which is not among those that are added. -/
def Pairing.shifting (low low' : Nat) (behind : 0 < low) : Pairing OneWorld where
  Holds _ := Builder.Alike low low'
  Same _ := Shifts low low'
  Stands _ := Shifts low low'
  same_mono _ _ _ shifts := shifts
  stands_mono _ _ _ shifts := shifts
  stands_of_same shifts := shifts
  add _ {state} unset _ _ alike _ _ _ _ added added' := by
    have none : state = state.renamed (shift low low') := by
      conv_lhs => rw [← State.renamed_id state]
      refine State.renamed_congr fun target member => ?_
      rw [unset target member, shift_of_lt _ behind]
      rfl
    obtain ⟨shifts, alike⟩ := Build.alike_add none alike added added'
    exact ⟨.here, trivial, alike, shifts⟩
  patch here there _ _ alike _ _ _ _ patched patched' :=
    Build.alike_patch here there alike patched patched'

namespace Build

variable {low low' : Nat}

variable {started started' finished finished' : Builder} {inner inner' : Fragment}

/-- What was built twice, behind some states and behind others that are alike. -/
theorem alike_of_alike (behind : 0 < low) {one other : Build Fragment}
    (same : (Pairing.shifting low low' behind).Alike .here
      (Pairing.shifting low low' behind).Fragments one other)
    (alike : started.Alike low low' started') (built : one started = .ok (inner, finished))
    (built' : other started' = .ok (inner', finished')) :
    inner.Shifts low low' inner' ∧ finished.Alike low low' finished' := by
  obtain ⟨_, -, after, fragments⟩ := same alike built built'
  exact ⟨⟨fragments.first, fragments.last⟩, after⟩

/-- What was built twice, behind some states and behind others. -/
theorem alike_of_sizes (behind : 0 < low) {one other : Build Fragment}
    (same : (Pairing.shifting low low' behind).AddAlike one other)
    (built : one started = .ok (inner, finished)) (size : started.size = low)
    (built' : other started' = .ok (inner', finished')) (size' : started'.size = low') :
    inner.Shifts low low' inner' ∧ finished.Alike low low' finished' := by
  refine alike_of_alike behind (same .here) ⟨size.ge, ?_, fun index above below => ?_⟩ built built'
  · have sum := shift_add low' size.ge
    omega
  · omega

/-- **A pattern is built from the same states wherever it is built**, but for their numbers. -/
theorem alike_of_built {rule : LoopRule} {pattern : Pattern} (behind : 0 < low)
    (built : Build.pattern rule pattern started = .ok (inner, finished))
    (size : started.size = low)
    (built' : Build.pattern rule pattern started' = .ok (inner', finished'))
    (size' : started'.size = low') :
    inner.Shifts low low' inner' ∧ finished.Alike low low' finished' :=
  alike_of_sizes behind (Pairing.alike_pattern _ rule pattern) built size built' size'

end Build

/-! ### Fragments in graphs -/

section Graphs

variable {started finished finished' : Builder} {inner inner' : Fragment} {shape : Shape}
  {slots : Set Nat} {low low' : Nat} {graph graph' : Graph} {next next' : Nat} {image : Nat → Nat}

/-- The states of a fragment lead to states of the fragment, as long as it leads to none behind
it. -/
theorem Laid.target_mem (laid : Laid started finished inner shape slots) {index target : Nat}
    (above : started.size ≤ index) (below : index < finished.size)
    (leads : target ∈ (if index = inner.last then (finished.state index).redirect started.size
      else finished.state index).targets) : started.size ≤ target ∧ target < finished.size := by
  have first := laid.first_mem
  rcases (laid.inside (fun _ _ _ => rfl) index above below).2 target leads with inside | rfl
  · exact inside
  · omega

/-- **A fragment in one graph and in another one**, where it was built behind a different number of
states: its states go the same ways, if what it leads to stands for what it leads to there. -/
theorem Laid.renamed (laid : Laid started finished inner shape slots) (size : started.size = low)
    (alike : finished.Alike low low' finished') (fragments : inner.Shifts low low' inner')
    (shows : finished.Shows graph low inner.last next)
    (shows' : finished'.Shows graph' low' inner'.last next')
    (agree : ∀ index, low ≤ index → index < finished.size →
      image index = shift low low' index) (leads : image next = next') {index : Nat}
    (above : low ≤ index) (below : index < finished.size) :
    graph' (image index) = (graph index).renamed image := by
  obtain ⟨aboveLast, last⟩ := fragments.last
  have sizes := alike.size_eq
  have here := shift_add low' above
  have there := shift_add low' alike.le_size
  rw [shows index above below, agree index above below,
    shows' _ (by omega) (by omega), last, if_congr (shift_inj low' above aboveLast) rfl rfl,
    alike.state_eq index above below]
  rw [← size] at above agree
  split
  · next isLast =>
    rw [State.renamed_redirect, leads]
    refine State.renamed_redirect_congr started.size fun target member => ?_
    obtain ⟨above, below⟩ := laid.target_mem above below (by rwa [if_pos isLast])
    rw [agree target above below, size]
  · next notLast =>
    refine State.renamed_congr fun target member => ?_
    obtain ⟨above, below⟩ := laid.target_mem above below (by rwa [if_neg notLast])
    rw [agree target above below, size]

end Graphs

end Crosscheck
