/-
**Two automata under the same numbers.**

The states of two automata that are built side by side go by common numbers, those that the states
of the first one have anyway. A silent state only leads on to a later one that goes by the same
number. Every other state of the second automaton goes the same ways as the state of the first one
by whose number it goes, and no two of them go by the same number.

* `Numbering`: the numbers of one automaton;
* `Numbering.Pairs`: the states of both from two of them on;
* `Numbering.Holds`: all states of both;
* `Pairing.numbered`: what adds states and sets targets in both automata alike keeps it so;
* `Numbering.Holds.lay`: fragments whose states go by common numbers among themselves.
-/
import Crosscheck.Proofs.Automaton.Renaming

namespace Crosscheck

/-! ### Numberings -/

/-- The numbers by which the states of an automaton go. -/
structure Numbering where
  /-- How many states there are so far. -/
  size : Nat
  /-- The number of a state. -/
  image : Nat → Nat
  /-- The states that only lead on. -/
  silent : Set Nat

namespace Numbering

/-- A numbering comes later when it has more states, and those that there were keep their
numbers. -/
structure Grows (early late : Numbering) : Prop where
  size_le : early.size ≤ late.size
  image_eq : ∀ index < early.size, late.image index = early.image index
  silent_iff : ∀ index < early.size, index ∈ late.silent ↔ index ∈ early.silent

instance : Preorder Numbering where
  le := Grows
  le_refl _ := ⟨le_rfl, fun _ _ => rfl, fun _ _ => Iff.rfl⟩
  le_trans _ _ _ first second := ⟨first.size_le.trans second.size_le,
    fun index below => (second.image_eq index (below.trans_le first.size_le)).trans
      (first.image_eq index below),
    fun index below => (second.silent_iff index (below.trans_le first.size_le)).trans
      (first.silent_iff index below)⟩

/-- The numbering with more states. -/
def grown (numbering : Numbering) (size : Nat) (image : Nat → Nat) (silent : Set Nat) :
    Numbering where
  size := size
  image index := if index < numbering.size then numbering.image index else image index
  silent := {index | if index < numbering.size then index ∈ numbering.silent else index ∈ silent}

section Grown

variable {numbering : Numbering} {size index : Nat} {image : Nat → Nat} {silent : Set Nat}

theorem le_grown (more : numbering.size ≤ size) : numbering ≤ numbering.grown size image silent :=
  ⟨more, fun _ below => if_pos below, fun _ below => iff_of_eq (if_pos below)⟩

theorem image_grown_of_le (new : numbering.size ≤ index) :
    (numbering.grown size image silent).image index = image index := if_neg (by omega)

theorem mem_silent_grown_of_le (new : numbering.size ≤ index) :
    index ∈ (numbering.grown size image silent).silent ↔ index ∈ silent :=
  iff_of_eq (if_neg (by omega))

end Grown

/-! ### States under common numbers -/

/-- From a state on, all states lead to states, and the silent ones only lead on to later ones that
go by the same number. -/
structure Quiet (numbering : Numbering) (low : Nat) (builder : Builder) : Prop where
  target_lt : ∀ {index}, low ≤ index → index < builder.size →
    ∀ target ∈ (builder.state index).targets, target < builder.size
  passes : ∀ {index}, low ≤ index → index < builder.size → index ∈ numbering.silent →
    ∃ target, index < target ∧ builder.state index = .goto target none ∧
      numbering.image target = numbering.image index

/-- From two states on, all states of two automata go by common numbers. -/
structure Pairs (world : Numbering × Numbering) (low low' : Nat) (one other : Builder) : Prop where
  quiet : world.1.Quiet low one
  quiet' : world.2.Quiet low' other
  /-- A state of the first automaton goes by the number it has. -/
  own : ∀ {index}, low ≤ index → index < one.size → index ∉ world.1.silent →
    world.1.image index = index
  /-- A state of the second automaton goes by the number of one of the first. -/
  onto : ∀ {index}, low' ≤ index → index < other.size → index ∉ world.2.silent →
    low ≤ world.2.image index ∧ world.2.image index < one.size ∧
      world.2.image index ∉ world.1.silent
  /-- No two of them go by the same number. -/
  apart : ∀ {index index'}, low' ≤ index → index < other.size → index ∉ world.2.silent →
    low' ≤ index' → index' < other.size → index' ∉ world.2.silent →
    world.2.image index = world.2.image index' → index = index'
  /-- States by the same number go the same ways. -/
  renames : ∀ {index}, low' ≤ index → index < other.size → index ∉ world.2.silent →
    (other.state index).renamed world.2.image =
      (one.state (world.2.image index)).renamed world.1.image

/-- Two automata under common numbers. State 0 is where states without a target lead. -/
structure Holds (world : Numbering × Numbering) (one other : Builder) : Prop where
  size_eq : one.size = world.1.size
  size_eq' : other.size = world.2.size
  pos : 0 < world.1.size
  pos' : 0 < world.2.size
  zero : world.1.image 0 = 0
  zero' : world.2.image 0 = 0
  pairs : Pairs world 0 0 one other

/-- An automaton goes by the numbers it has. -/
theorem Holds.refl {builder : Builder} (pos : 0 < builder.size)
    (inside : ∀ index < builder.size, ∀ target ∈ (builder.state index).targets,
      target < builder.size) :
    Holds (⟨builder.size, id, ∅⟩, ⟨builder.size, id, ∅⟩) builder builder := by
  have quiet : Quiet ⟨builder.size, id, ∅⟩ 0 builder :=
    ⟨fun _ below => inside _ below, fun _ _ isSilent => isSilent.elim⟩
  exact ⟨rfl, rfl, pos, pos, rfl, rfl, quiet, quiet, fun _ _ _ => rfl,
    fun above below visible => ⟨above, below, visible⟩, fun _ _ _ _ _ _ same => same,
    fun _ _ _ => rfl⟩

section Extending

variable {early late : Numbering} {world later : Numbering × Numbering} {low low' : Nat}
  {builder one other one' other' : Builder}

/-- A state that leads to states that were there before has the same ways under later numbers. -/
theorem renamed_eq_of_le (grows : early ≤ late) {state : State}
    (inside : ∀ target ∈ state.targets, target < early.size) :
    state.renamed late.image = state.renamed early.image :=
  State.renamed_congr fun target member => grows.image_eq target (inside target member)

/-- More states. -/
theorem Quiet.extend (quiet : early.Quiet 0 one) (size : one.size = early.size)
    (grows : early ≤ late) (size' : one'.size = late.size)
    (kept : ∀ index < one.size, one'.state index = one.state index)
    (new : late.Quiet one.size one') : late.Quiet 0 one' := by
  have sizes := grows.size_le
  refine ⟨fun {index} _ below target member => ?_, fun {index} _ below isSilent => ?_⟩
  · rcases Nat.lt_or_ge index one.size with old | more
    · rw [kept index old] at member
      have := quiet.target_lt (Nat.zero_le _) old target member
      omega
    · exact new.target_lt more below target member
  · rcases Nat.lt_or_ge index one.size with old | more
    · obtain ⟨target, later, leads, same⟩ := quiet.passes (Nat.zero_le _) old
        ((grows.silent_iff index (size ▸ old)).mp isSilent)
      have inside : target < one.size := quiet.target_lt (Nat.zero_le _) old target (by
        rw [leads]
        exact List.mem_singleton_self target)
      refine ⟨target, later, (kept index old).trans leads, ?_⟩
      rw [grows.image_eq target (size ▸ inside), grows.image_eq index (size ▸ old), same]
    · exact new.passes more below isSilent

/-- **More states of both automata**, under common numbers among themselves. -/
theorem Holds.extend (holds : Holds world one other) (grows : world ≤ later)
    (size : one'.size = later.1.size) (size' : other'.size = later.2.size)
    (kept : ∀ index < one.size, one'.state index = one.state index)
    (kept' : ∀ index < other.size, other'.state index = other.state index)
    (new : Pairs later one.size other.size one' other') : Holds later one' other' := by
  obtain ⟨sizeOne, sizeOther, pos, pos', zero, zero', quiet, quiet', own, onto, apart, renames⟩ :=
    holds
  obtain ⟨grows, grows'⟩ := grows
  have sizes := grows.size_le
  have sizes' := grows'.size_le
  have image {index : Nat} (old : index < one.size) : later.1.image index = world.1.image index :=
    grows.image_eq index (sizeOne ▸ old)
  have image' {index : Nat} (old : index < other.size) :
      later.2.image index = world.2.image index := grows'.image_eq index (sizeOther ▸ old)
  have visible {index : Nat} (old : index < other.size) (outside : index ∉ later.2.silent) :
      index ∉ world.2.silent := fun inside =>
    outside ((grows'.silent_iff index (sizeOther ▸ old)).mpr inside)
  have oldOnto {index : Nat} (old : index < other.size) (outside : index ∉ later.2.silent) :
      later.2.image index < one.size ∧ later.2.image index ∉ world.1.silent := by
    rw [image' old]
    exact (onto (Nat.zero_le _) old (visible old outside)).2
  refine ⟨size, size', by omega, by omega, (image (by omega)).trans zero,
    (image' (by omega)).trans zero', quiet.extend sizeOne grows size kept new.quiet,
    quiet'.extend sizeOther grows' size' kept' new.quiet', fun {index} _ below outside => ?_,
    fun {index} _ below outside => ⟨Nat.zero_le _, ?_⟩,
    fun {index index'} _ below outside _ below' outside' same => ?_,
    fun {index} _ below outside => ?_⟩
  · rcases Nat.lt_or_ge index one.size with old | more
    · rw [image old]
      exact own (Nat.zero_le _) old fun inside =>
        outside ((grows.silent_iff index (sizeOne ▸ old)).mpr inside)
    · exact new.own more below outside
  · rcases Nat.lt_or_ge index other.size with old | more
    · obtain ⟨inside, visible⟩ := oldOnto old outside
      exact ⟨by omega, fun isSilent =>
        visible ((grows.silent_iff _ (sizeOne ▸ inside)).mp isSilent)⟩
    · exact (new.onto more below outside).2
  · rcases Nat.lt_or_ge index other.size with old | more
    · rcases Nat.lt_or_ge index' other.size with old' | more'
      · rw [image' old, image' old'] at same
        exact apart (Nat.zero_le _) old (visible old outside) (Nat.zero_le _) old'
          (visible old' outside') same
      · have := (oldOnto old outside).1
        have := (new.onto more' below' outside').1
        omega
    · rcases Nat.lt_or_ge index' other.size with old' | more'
      · have := (oldOnto old' outside').1
        have := (new.onto more below outside).1
        omega
      · exact new.apart more below outside more' below' outside' same
  · rcases Nat.lt_or_ge index other.size with old | more
    · have inside := (oldOnto old outside).1
      rw [kept' index old, kept _ inside,
        renamed_eq_of_le grows' (sizeOther ▸ quiet'.target_lt (Nat.zero_le _) old),
        renamed_eq_of_le grows (sizeOne ▸ quiet.target_lt (Nat.zero_le _) inside), image' old]
      exact renames (Nat.zero_le _) old (visible old outside)
    · exact new.renames more below outside

end Extending

/-! ### Building -/

/-- A state of the second automaton goes by the number of a state of the first. -/
structure Same (world : Numbering × Numbering) (index index' : Nat) : Prop where
  lt_size : index < world.1.size
  lt_size' : index' < world.2.size
  visible : index ∉ world.1.silent
  visible' : index' ∉ world.2.silent
  own : world.1.image index = index
  image_eq : world.2.image index' = index

/-- States of both automata go by the same number. -/
structure Stands (world : Numbering × Numbering) (index index' : Nat) : Prop where
  lt_size : index < world.1.size
  lt_size' : index' < world.2.size
  image_eq : world.1.image index = world.2.image index'

variable {world later : Numbering × Numbering} {one other one' other' : Builder}
  {index index' : Nat}

theorem Same.stands (same : Same world index index') : Stands world index index' :=
  ⟨same.lt_size, same.lt_size', same.own.trans same.image_eq.symm⟩

theorem Same.mono (grows : world ≤ later) (same : Same world index index') :
    Same later index index' := by
  obtain ⟨inside, inside', visible, visible', own, image⟩ := same
  obtain ⟨grows, grows'⟩ := grows
  exact ⟨inside.trans_le grows.size_le, inside'.trans_le grows'.size_le,
    fun isSilent => visible ((grows.silent_iff _ inside).mp isSilent),
    fun isSilent => visible' ((grows'.silent_iff _ inside').mp isSilent),
    (grows.image_eq _ inside).trans own, (grows'.image_eq _ inside').trans image⟩

theorem Stands.mono (grows : world ≤ later) (stands : Stands world index index') :
    Stands later index index' := by
  obtain ⟨inside, inside', image⟩ := stands
  obtain ⟨grows, grows'⟩ := grows
  exact ⟨inside.trans_le grows.size_le, inside'.trans_le grows'.size_le, by
    rw [grows.image_eq _ inside, grows'.image_eq _ inside', image]⟩

/-- **One more state** in both automata. -/
theorem Holds.add (holds : Holds world one other) {state : State}
    (unset : ∀ target ∈ state.targets, target = 0)
    (added : Build.add state one = .ok (index, one'))
    (added' : Build.add state other = .ok (index', other')) :
    ∃ later, world ≤ later ∧ Holds later one' other' ∧ Same later index index' := by
  obtain ⟨rfl, size, state1⟩ := Build.add_eq_ok added
  obtain ⟨rfl, size', state1'⟩ := Build.add_eq_ok added'
  have sizeOne := holds.size_eq
  have sizeOther := holds.size_eq'
  have new : one'.state one.size = state := (state1 _).trans (if_pos rfl)
  have new' : other'.state other.size = state := (state1' _).trans (if_pos rfl)
  let later : Numbering × Numbering :=
    (world.1.grown (one.size + 1) id ∅, world.2.grown (other.size + 1) (fun _ => one.size) ∅)
  have grows : world ≤ later := ⟨le_grown (by omega), le_grown (by omega)⟩
  have visible : one.size ∉ later.1.silent := (mem_silent_grown_of_le sizeOne.ge).not.mpr id
  have visible' : other.size ∉ later.2.silent := (mem_silent_grown_of_le sizeOther.ge).not.mpr id
  have own : later.1.image one.size = one.size := image_grown_of_le sizeOne.ge
  have goes : later.2.image other.size = one.size := image_grown_of_le sizeOther.ge
  have only {index : Nat} (above : one.size ≤ index) (below : index < one'.size) :
      index = one.size := by omega
  have only' {index : Nat} (above : other.size ≤ index) (below : index < other'.size) :
      index = other.size := by omega
  refine ⟨later, grows, holds.extend grows size size' (fun index old => ?_)
    (fun index old => ?_) ⟨⟨fun above below target member => ?_, fun above below isSilent => ?_⟩,
      ⟨fun above below target member => ?_, fun above below isSilent => ?_⟩,
      fun above below _ => ?_, fun above below _ => ?_,
      fun above below _ above' below' _ _ => ?_, fun above below _ => ?_⟩,
    Nat.lt_succ_self _, Nat.lt_succ_self _, visible, visible', own, goes⟩
  · rw [state1, if_neg (by omega)]
  · rw [state1', if_neg (by omega)]
  · rw [only above below, new] at member
    have := unset target member
    omega
  · exact absurd (only above below ▸ isSilent) visible
  · rw [only' above below, new'] at member
    have := unset target member
    omega
  · exact absurd (only' above below ▸ isSilent) visible'
  · rw [only above below, own]
  · rw [only' above below, goes]
    exact ⟨le_rfl, by omega, visible⟩
  · rw [only' above below, only' above' below']
  · rw [only' above below, goes, new, new']
    refine State.renamed_congr fun target member => ?_
    rw [unset target member, grows.1.image_eq 0 holds.pos, grows.2.image_eq 0 holds.pos',
      holds.zero, holds.zero']

/-- A target that is set in one of the two automata. -/
theorem Quiet.patch {numbering : Numbering} {builder builder' : Builder} {source target : Nat}
    {done : Unit} (quiet : numbering.Quiet 0 builder) (visible : source ∉ numbering.silent)
    (inside : target < builder.size)
    (patched : Build.patch source target builder = .ok (done, builder')) :
    numbering.Quiet 0 builder' := by
  obtain ⟨size, states⟩ := Build.patch_eq_ok patched
  refine ⟨fun {index} _ below next member => ?_, fun {index} _ below isSilent => ?_⟩
  · rw [states] at member
    split at member
    · rcases State.mem_targets_redirect member with old | rfl
      · exact size ▸ quiet.target_lt (Nat.zero_le _) (size ▸ below) next old
      · exact size ▸ inside
    · exact size ▸ quiet.target_lt (Nat.zero_le _) (size ▸ below) next member
  · rw [states, if_neg (by rintro rfl; exact visible isSilent)]
    exact quiet.passes (Nat.zero_le _) (size ▸ below) isSilent

/-- **A target** that is set in both automata. -/
theorem Holds.patch {source source' target target' : Nat} {done done' : Unit}
    (here : Same world source source') (there : Stands world target target')
    (holds : Holds world one other)
    (patched : Build.patch source target one = .ok (done, one'))
    (patched' : Build.patch source' target' other = .ok (done', other')) :
    Holds world one' other' := by
  obtain ⟨sizeOne, sizeOther, pos, pos', zero, zero', quiet, quiet', own, onto, apart, renames⟩ :=
    holds
  obtain ⟨size, states⟩ := Build.patch_eq_ok patched
  obtain ⟨size', states'⟩ := Build.patch_eq_ok patched'
  refine ⟨size.trans sizeOne, size'.trans sizeOther, pos, pos', zero, zero',
    quiet.patch here.visible (sizeOne ▸ there.lt_size) patched,
    quiet'.patch here.visible' (sizeOther ▸ there.lt_size') patched', ?_, ?_, ?_,
    fun {index} _ below visible => ?_⟩
  · rwa [size]
  · rwa [size, size']
  · rwa [size']
  · rw [size'] at below
    have old := renames (Nat.zero_le _) below visible
    rw [states, states']
    by_cases same : index = source'
    · rw [if_pos same, same, if_pos here.image_eq, State.renamed_redirect,
        State.renamed_redirect, ← there.image_eq, ← same, old]
    · rw [if_neg same, if_neg, old]
      intro other
      exact same (apart (Nat.zero_le _) below visible (Nat.zero_le _)
        (sizeOther ▸ here.lt_size') here.visible' (other.trans here.image_eq.symm))

end Numbering

/-- **Building under common numbers.** -/
def Pairing.numbered : Pairing (Numbering × Numbering) where
  Holds := Numbering.Holds
  Same := Numbering.Same
  Stands := Numbering.Stands
  same_mono grows _ _ same := same.mono grows
  stands_mono grows _ _ stands := stands.mono grows
  stands_of_same same := same.stands
  add _ _ unset _ _ holds _ _ _ _ added added' := holds.add unset added added'
  patch here there _ _ holds _ _ _ _ patched patched' :=
    holds.patch here there patched patched'

/-! ### Fragments -/

section Fragments

variable {before after one other one' other' : Builder} {fragment fragment' : Fragment}
  {shape shape' : Shape} {slots slots' : Set Nat} {world : Numbering × Numbering}

/-- A fragment whose last state has no target yet leads to its own states, and to state 0. -/
theorem Laid.target_mem_or_eq_zero (laid : Laid before after fragment shape slots)
    (unset : after.state fragment.last = .goto 0 none) {index : Nat} (above : before.size ≤ index)
    (below : index < after.size) :
    ∀ target ∈ (after.state index).targets,
      before.size ≤ target ∧ target < after.size ∨ target = 0 :=
  (laid.inside (Builder.shows_self unset) index above below).2

/-- Only the numbers of its own states matter for such a fragment. -/
theorem Laid.renamed_grown (laid : Laid before after fragment shape slots)
    (unset : after.state fragment.last = .goto 0 none) {numbering : Numbering}
    (size : before.size = numbering.size) (zero : numbering.image 0 = 0) (pos : 0 < numbering.size)
    {image : Nat → Nat} (zero' : image 0 = 0) (silent : Set Nat) {index : Nat}
    (above : before.size ≤ index) (below : index < after.size) :
    (after.state index).renamed (numbering.grown after.size image silent).image =
      (after.state index).renamed image := by
  refine State.renamed_congr fun target member => ?_
  rcases laid.target_mem_or_eq_zero unset above below target member with ⟨new, -⟩ | rfl
  · exact Numbering.image_grown_of_le (size ▸ new)
  · rw [zero', Numbering.grown]
    exact (if_pos pos).trans zero

/-- **Two fragments whose states go by common numbers** among themselves may be added. -/
theorem Numbering.Holds.lay (holds : Numbering.Holds world one other)
    (laid : Laid one one' fragment shape slots) (laid' : Laid other other' fragment' shape' slots')
    (unset : one'.state fragment.last = .goto 0 none)
    (unset' : other'.state fragment'.last = .goto 0 none) {numbers : Numbering × Numbering}
    (zero : numbers.1.image 0 = 0) (zero' : numbers.2.image 0 = 0)
    (pairs : Numbering.Pairs numbers one.size other.size one' other')
    (first : numbers.1.image fragment.first = numbers.2.image fragment'.first)
    (visible : fragment'.last ∉ numbers.2.silent)
    (last : numbers.2.image fragment'.last = fragment.last) :
    ∃ later, world ≤ later ∧ Numbering.Holds later one' other' ∧
      Pairing.numbered.Fragments later fragment fragment' := by
  obtain ⟨⟨target_lt, passes⟩, ⟨target_lt', passes'⟩, own, onto, apart, renames⟩ := pairs
  let later : Numbering × Numbering := (world.1.grown one'.size numbers.1.image numbers.1.silent,
    world.2.grown other'.size numbers.2.image numbers.2.silent)
  have sizeOne := holds.size_eq
  have sizeOther := holds.size_eq'
  have firstIn := laid.first_mem
  have firstIn' := laid'.first_mem
  have lastIn' := laid'.last_mem
  have image {index : Nat} (new : one.size ≤ index) :
      later.1.image index = numbers.1.image index := Numbering.image_grown_of_le (sizeOne ▸ new)
  have image' {index : Nat} (new : other.size ≤ index) :
      later.2.image index = numbers.2.image index := Numbering.image_grown_of_le (sizeOther ▸ new)
  have silent {index : Nat} (new : one.size ≤ index) :
      index ∈ later.1.silent ↔ index ∈ numbers.1.silent :=
    Numbering.mem_silent_grown_of_le (sizeOne ▸ new)
  have silent' {index : Nat} (new : other.size ≤ index) :
      index ∈ later.2.silent ↔ index ∈ numbers.2.silent :=
    Numbering.mem_silent_grown_of_le (sizeOther ▸ new)
  have grows : world ≤ later :=
    ⟨Numbering.le_grown (sizeOne ▸ laid.grows), Numbering.le_grown (sizeOther ▸ laid'.grows)⟩
  have lastOnto := onto lastIn'.1 lastIn'.2 visible
  rw [last] at lastOnto
  have lastVisible : fragment.last ∉ later.1.silent := (silent lastOnto.1).not.mpr lastOnto.2.2
  have lastOwn := own lastOnto.1 lastOnto.2.1 lastOnto.2.2
  refine ⟨later, grows, holds.extend grows rfl rfl laid.kept laid'.kept
    ⟨⟨target_lt, fun {index} above below isSilent => ?_⟩,
      ⟨target_lt', fun {index} above below isSilent => ?_⟩,
      fun {index} above below outside => ?_, fun {index} above below outside => ?_,
      fun {index index'} above below outside above' below' outside' same => ?_,
      fun {index} above below outside => ?_⟩, ⟨firstIn.2, firstIn'.2, ?_⟩,
    ⟨lastOnto.2.1, lastIn'.2, lastVisible, (silent' lastIn'.1).not.mpr visible,
      (image lastOnto.1).trans lastOwn, (image' lastIn'.1).trans last⟩⟩
  · obtain ⟨target, further, leads, same⟩ := passes above below ((silent above).mp isSilent)
    exact ⟨target, further, leads, by rw [image above, image (by omega), same]⟩
  · obtain ⟨target, further, leads, same⟩ := passes' above below ((silent' above).mp isSilent)
    exact ⟨target, further, leads, by rw [image' above, image' (by omega), same]⟩
  · rw [image above]
    exact own above below ((silent above).not.mp outside)
  · rw [image' above]
    obtain ⟨new, inside, visible⟩ := onto above below ((silent' above).not.mp outside)
    exact ⟨new, inside, (silent new).not.mpr visible⟩
  · rw [image' above, image' above'] at same
    exact apart above below ((silent' above).not.mp outside) above' below'
      ((silent' above').not.mp outside') same
  · obtain ⟨new, inside, -⟩ := onto above below ((silent' above).not.mp outside)
    rw [image' above]
    refine (laid'.renamed_grown unset' sizeOther holds.zero' holds.pos' zero' _ above below).trans
      ((renames above below ((silent' above).not.mp outside)).trans ?_)
    exact (laid.renamed_grown unset sizeOne holds.zero holds.pos zero _ new inside).symm
  · rw [image firstIn.1, image' firstIn'.1, first]

end Fragments

end Crosscheck
