/-
**Building lays fragments.**

A step of building adds a state or changes the target of one. A fragment is laid when it stands in
the states that were added for it, with its shape, and when none of these states leads anywhere but
to one of them or to where the fragment leads. Whatever is built later changes nothing in a fragment
but the target of the state where it is left.

* `Builder.Shows`: graphs in which a fragment leads to a state;
* `Laid`: fragments that were laid between two builders;
* `Build.Lays`: steps of building that lay a fragment of some shape.
-/
import Crosscheck.Proofs.Automaton.Shape
import Crosscheck.Proofs.Automaton.WellFormed
import Mathlib.Data.Set.Insert

namespace Crosscheck

namespace Builder

/-- The number of states so far. -/
def size (builder : Builder) : Nat := builder.states.size

/-- The state with a given number. -/
def state (builder : Builder) (index : Nat) : State := builder.states.getD index .fail

/-- A graph has the states that were built from one on, and the state `last` leads to `next`. -/
def Shows (builder : Builder) (graph : Graph) (low last next : Nat) : Prop :=
  ∀ index, low ≤ index → index < builder.size →
    graph index = if index = last then (builder.state index).redirect next
      else builder.state index

end Builder

/-! ### Steps of building -/

namespace Build

variable {before after : Builder}

theorem bind_eq_ok {α β : Type} {build : Build α} {next : α → Build β} {result : β} :
    (build >>= next) before = .ok (result, after) ↔
      ∃ middle value, build before = .ok (value, middle) ∧
        next value middle = .ok (result, after) := by
  change Except.bind (build before) _ = _ ↔ _
  cases build before with
  | error reason => simp [Except.bind]
  | ok pair =>
    obtain ⟨value, middle⟩ := pair
    constructor
    · exact fun same => ⟨middle, value, rfl, same⟩
    · rintro ⟨middle', value', ⟨⟩, same⟩
      exact same

theorem pure_eq_ok {α : Type} {value result : α} :
    (pure value : Build α) before = .ok (result, after) ↔ value = result ∧ before = after := by
  change Except.ok (value, before) = _ ↔ _
  rw [Except.ok.injEq, Prod.mk.injEq]

theorem checkSize_eq_ok (fits : checkSize before = .ok after) : after = before := by
  rw [checkSize] at fits
  split at fits <;> cases fits
  rfl

/-- Adding a state puts it behind the others. -/
theorem add_eq_ok {state : State} {index : Nat} (added : add state before = .ok (index, after)) :
    index = before.size ∧ after.size = before.size + 1 ∧
      ∀ other, after.state other = if other = before.size then state else before.state other := by
  simp only [add, bind, Except.bind] at added
  split at added
  · cases added
  · next builder fits =>
    obtain rfl := checkSize_eq_ok fits
    cases added
    refine ⟨rfl, Array.size_push _, fun other => ?_⟩
    rw [Builder.state, Builder.state, Array.getD_eq_getD_getElem?, Array.getD_eq_getD_getElem?,
      Array.getElem?_push, Builder.size]
    split_ifs <;> rfl

/-- Patching a state redirects it and leaves the others as they are. -/
theorem patch_eq_ok {source target : Nat} {done : Unit}
    (patched : patch source target before = .ok (done, after)) :
    after.size = before.size ∧ ∀ other, after.state other =
      if other = source then (before.state other).redirect target else before.state other := by
  simp only [patch, bind, Except.bind] at patched
  split at patched
  · cases patched
  · next builder fits =>
    obtain rfl := checkSize_eq_ok fits
    cases patched
    refine ⟨Array.size_modify .., fun other => ?_⟩
    rw [Builder.state, Builder.state, Array.getD_eq_getD_getElem?, Array.getD_eq_getD_getElem?,
      Array.getElem?_modify]
    by_cases same : source = other
    · rw [if_pos same, if_pos same.symm]
      cases before.states[other]? <;> rfl
    · rw [if_neg same, if_neg (Ne.symm same)]

end Build

/-! ### Laid fragments -/

/-- The states that a fragment may have: no match ends in them, captures are stored in the given
slots, and a choice has something to choose from. -/
def State.Allowed (slots : Set Nat) : State → Prop
  | .capture _ slot => slot ∈ slots
  | .splits targets _ => 2 ≤ targets.length
  | .accept => False
  | .byte .. | .ranges .. | .goto .. | .fail => True

/-- The states of a graph in a range are allowed, and lead into a wider range or to one state. -/
def Graph.Within (graph : Graph) (slots : Set Nat) (low high : Nat) (next : Nat) (index : Nat) :
    Prop :=
  (graph index).Allowed slots ∧
    ∀ target ∈ (graph index).targets, low ≤ target ∧ target < high ∨ target = next

/-- A fragment was laid between two builders. -/
structure Laid (before after : Builder) (fragment : Fragment) (shape : Shape) (slots : Set Nat) :
    Prop where
  grows : before.size ≤ after.size
  kept : ∀ index < before.size, after.state index = before.state index
  first_mem : before.size ≤ fragment.first ∧ fragment.first < after.size
  last_mem : before.size ≤ fragment.last ∧ fragment.last < after.size
  shaped : ∀ {graph : Graph} {next : Nat},
    after.Shows graph before.size fragment.last next → shape graph fragment.first next
  inside : ∀ {graph : Graph} {next : Nat},
    after.Shows graph before.size fragment.last next →
      ∀ index, before.size ≤ index → index < after.size →
        graph.Within slots before.size after.size next index

/-- A step of building lays a fragment of some shape. -/
def Build.Lays (build : Build Fragment) (shape : Shape) (slots : Set Nat) : Prop :=
  ∀ ⦃before after : Builder⦄ ⦃fragment : Fragment⦄, build before = .ok (fragment, after) →
    Laid before after fragment shape slots

/-- A fragment that was laid as a part of another one leads where its last state was patched to. -/
theorem Builder.Shows.part {middle after : Builder} {graph : Graph} {low last next : Nat}
    (shows : after.Shows graph low last next) {low' last' next' : Nat} (inside : low ≤ low')
    (grows : middle.size ≤ after.size) (outside : last < low' ∨ middle.size ≤ last)
    (patched : ∀ index, low' ≤ index → index < middle.size → after.state index =
      if index = last' then (middle.state index).redirect next' else middle.state index) :
    middle.Shows graph low' last' next' := by
  intro index above below
  rw [shows index (by omega) (by omega), if_neg (by omega), patched index above below]

/-- A fragment whose last state has no target yet leads to state 0. -/
theorem Builder.shows_self {builder : Builder} {low last : Nat}
    (unset : builder.state last = .goto 0 none) : builder.Shows builder.state low last 0 := by
  intro index above below
  split
  · next isLast =>
    rw [isLast, unset]
    rfl
  · rfl

/-- A state of a part is a state of the whole. -/
theorem Graph.Within.widen {graph : Graph} {slots slots' : Set Nat}
    {low high next low' high' next' index : Nat} (within : graph.Within slots low high next index)
    (more : slots ⊆ slots') (down : low' ≤ low) (up : high ≤ high')
    (leads : low' ≤ next ∧ next < high' ∨ next = next') :
    graph.Within slots' low' high' next' index := by
  refine ⟨?_, fun target member => ?_⟩
  · have allowed := within.1
    generalize graph index = state at allowed ⊢
    cases state with
    | capture target slot => exact more allowed
    | byte | ranges | splits | goto | fail | accept => exact allowed
  · rcases within.2 target member with inner | rfl
    · exact .inl (by omega)
    · exact leads

/-- A choice between two states of its range. -/
theorem Graph.Within.choice {graph : Graph} {slots : Set Nat} {low high next index one other : Nat}
    {greedy : Bool} (chooses : Shape.Chooses graph greedy index one other)
    (oneIn : low ≤ one ∧ one < high ∨ one = next)
    (otherIn : low ≤ other ∧ other < high ∨ other = next) :
    graph.Within slots low high next index := by
  rw [Within, chooses]
  exact ⟨Nat.le_refl 2, List.forall_mem_cons.mpr ⟨oneIn, List.forall_mem_singleton.mpr otherIn⟩⟩

/-- A state that leads to one state. -/
theorem Graph.Within.goto {graph : Graph} {slots : Set Nat} {low high next index target : Nat}
    {look : Option Look} (leads : graph index = .goto target look)
    (inside : low ≤ target ∧ target < high ∨ target = next) :
    graph.Within slots low high next index := by
  rw [Within, leads]
  exact ⟨trivial, List.forall_mem_singleton.mpr inside⟩

/-- A state that stores a position and leads to one state. -/
theorem Graph.Within.capture {graph : Graph} {slots : Set Nat}
    {low high next index target slot : Nat} (stores : graph index = .capture target slot)
    (allowed : slot ∈ slots) (inside : low ≤ target ∧ target < high ∨ target = next) :
    graph.Within slots low high next index := by
  rw [Within, stores]
  exact ⟨allowed, List.forall_mem_singleton.mpr inside⟩

/-- One fragment behind another one in a graph: the first one leads to where the second one is
entered. -/
theorem Laid.shows_append {shape other : Shape} {slots slots' : Set Nat} {b0 b1 b2 b3 : Builder}
    {whole next : Fragment} {done : Unit} {graph : Graph} {exit : Nat}
    (first : Laid b0 b1 whole shape slots) (second : Laid b1 b2 next other slots')
    (patched : Build.patch whole.last next.first b2 = .ok (done, b3))
    (shows : b3.Shows graph b0.size next.last exit) :
    b1.Shows graph b0.size whole.last next.first ∧ b2.Shows graph b1.size next.last exit := by
  obtain ⟨size3, state3⟩ := Build.patch_eq_ok patched
  obtain ⟨grows1, -, -, lastIn1, -, -⟩ := first
  obtain ⟨grows2, kept2, -, lastIn2, -, -⟩ := second
  constructor
  · refine shows.part (Nat.le_refl _) (by omega) (by omega) fun index above below => ?_
    rw [state3, kept2 _ below]
  · intro index above below
    have same : b3.state index = b2.state index := by rw [state3, if_neg (by omega)]
    rw [shows _ (by omega) (by omega), same]

/-- **Putting a fragment behind another one.** -/
theorem Laid.append {shape other : Shape} {slots : Set Nat} {b0 b1 b2 b3 : Builder}
    {whole next : Fragment} {done : Unit}
    (first : Laid b0 b1 whole shape slots) (second : Laid b1 b2 next other slots)
    (patched : Build.patch whole.last next.first b2 = .ok (done, b3)) :
    Laid b0 b3 ⟨whole.first, next.last⟩ (shape.followedBy other) slots := by
  have parts {graph : Graph} {exit : Nat} (shows : b3.Shows graph b0.size next.last exit) :=
    first.shows_append second patched shows
  obtain ⟨size3, state3⟩ := Build.patch_eq_ok patched
  obtain ⟨grows1, kept1, firstIn1, lastIn1, shaped1, inside1⟩ := first
  obtain ⟨grows2, kept2, firstIn2, lastIn2, shaped2, inside2⟩ := second
  refine ⟨by omega, fun index old => ?_, by dsimp only; omega, by dsimp only; omega,
    fun shows => ?_, fun {graph exit} shows index above below => ?_⟩
  · rw [state3, if_neg (by omega), kept2 _ (by omega), kept1 _ old]
  · exact ⟨_, shaped1 (parts shows).1, shaped2 (parts shows).2⟩
  · rcases Nat.lt_or_ge index b1.size with early | late
    · exact (inside1 (parts shows).1 index above early).widen subset_rfl (by omega) (by omega)
        (by omega)
    · exact (inside2 (parts shows).2 index late (by omega)).widen subset_rfl (by omega) (by omega)
        (.inr rfl)

namespace Build

variable {body : Build Fragment} {shape other : Shape} {slots : Set Nat}

/-- **Adding one state** that leads on, if it leads anywhere. -/
theorem lays_single {state : State}
    (leads : ∀ next, (state.redirect next).Allowed slots ∧
      ∀ target ∈ (state.redirect next).targets, target = next) :
    (single state).Lays (Shape.single state) slots := by
  intro b0 b1 fragment built
  simp only [single, bind_eq_ok, pure_eq_ok] at built
  obtain ⟨b1, index, added, rfl, rfl⟩ := built
  obtain ⟨rfl, size1, state1⟩ := add_eq_ok added
  have only : ∀ {graph : Graph} {next : Nat}, b1.Shows graph b0.size b0.size next →
      graph b0.size = state.redirect next := fun shows => by
    rw [shows _ (by omega) (by omega), if_pos rfl, state1, if_pos rfl]
  refine ⟨by omega, fun index old => ?_, ⟨Nat.le_refl _, by dsimp only; omega⟩,
    ⟨Nat.le_refl _, by dsimp only; omega⟩, only, fun {graph next} shows index above below => ?_⟩
  · rw [state1, if_neg (by omega)]
  · obtain rfl : index = b0.size := by omega
    rw [Graph.Within, only shows]
    exact ⟨(leads next).1, fun target member => .inr ((leads next).2 target member)⟩

theorem lays_byte (byte : UInt8) :
    (single (.byte 0 byte)).Lays (Shape.single (.byte 0 byte)) slots :=
  lays_single fun _ => by exact ⟨trivial, fun _ => List.mem_singleton.mp⟩

theorem lays_bytesAfter (bytes : Bytes) {b0 b1 b2 : Builder} {whole fragment : Fragment}
    (laid : Laid b0 b1 whole shape slots)
    (built : bytesAfter whole bytes b1 = .ok (fragment, b2)) :
    Laid b0 b2 fragment (shape.bytesAfter bytes) slots := by
  induction bytes generalizing b1 whole shape with
  | nil =>
    obtain ⟨rfl, rfl⟩ := pure_eq_ok.mp built
    exact laid
  | cons byte rest hypothesis =>
    simp only [bytesAfter, bind_eq_ok] at built
    obtain ⟨b', next, added, b'', _, patched, built⟩ := built
    have single : Laid b1 b' next (Shape.single (.byte 0 byte)) slots :=
      lays_byte byte added
    exact hypothesis (laid.append single patched) built

theorem lays_empty : empty.Lays (Shape.single (.goto 0 none)) slots :=
  lays_single fun _ => by exact ⟨trivial, fun _ => List.mem_singleton.mp⟩

/-- **Literals.** -/
theorem lays_literal (bytes : Bytes) : (literal bytes).Lays (Shape.literal bytes) slots := by
  cases bytes with
  | nil => exact lays_empty
  | cons byte rest =>
    intro before after fragment built
    simp only [literal, bind_eq_ok] at built
    obtain ⟨b', next, added, built⟩ := built
    exact lays_bytesAfter rest (lays_byte byte added) built

/-- **Classes of bytes.** -/
theorem lays_byteClass (ranges : RangeSet) : (byteClass ranges).Lays
    (Shape.single (if ranges.isEmpty then .fail else .ranges 0 ranges)) slots := by
  rw [byteClass]
  split
  · exact lays_single fun _ => by exact ⟨trivial, fun _ member => (List.not_mem_nil member).elim⟩
  · exact lays_single fun _ => by exact ⟨trivial, fun _ => List.mem_singleton.mp⟩

theorem lays_copiesAfter (lays : body.Lays other slots) (count : Nat) {b0 b1 b2 : Builder}
    {whole fragment : Fragment} (laid : Laid b0 b1 whole shape slots)
    (built : copiesAfter body whole count b1 = .ok (fragment, b2)) :
    Laid b0 b2 fragment (other.copiesAfter shape count) slots := by
  induction count generalizing b1 whole shape with
  | zero =>
    obtain ⟨rfl, rfl⟩ := pure_eq_ok.mp built
    exact laid
  | succ count hypothesis =>
    simp only [copiesAfter, bind_eq_ok] at built
    obtain ⟨b', next, added, b'', _, patched, built⟩ := built
    exact hypothesis (laid.append (lays added) patched) built

/-- **Copies of a body.** -/
theorem lays_exactly (lays : body.Lays shape slots) (count : Nat) :
    (exactly body count).Lays (shape.exactly count) slots := by
  cases count with
  | zero => exact lays_empty
  | succ count =>
    intro before after fragment built
    simp only [exactly, bind_eq_ok] at built
    obtain ⟨b', next, added, built⟩ := built
    exact lays_copiesAfter lays count (lays added) built

end Build

end Crosscheck
