/-
**Lockstep reaches for nothing that is not there.**

The active states of a search and what is left to do in its closures are about states and slots that
are there, and every row has room for the slots that are tracked. This is kept by every step, so the
search with checks has the result of the search without. It leaves a cache of the same size, so this
is so for whatever is asked next.

* `Closure.Inside`: closures whose steps can be taken, kept by `Closure.Inside.step`;
* `Closure.run?_eq`, `Lockstep.sweep?_eq`, `Lockstep.advance?_eq`: the loops of a search;
* `Lockstep.search?_eq`: a whole search, on a cache that was made for the automaton;
* `Regex.answers_in_range`: whatever is asked of a compiled pattern, with either strategy.
-/
import Crosscheck.Proofs.Search.Checked.Backtracking

namespace Crosscheck

variable {automaton : Automaton} {haystack : Array UInt8} {anchor : Anchor} {kind : MatchKind}
  {tracked position index : Nat} {slots : Slots}

/-! ### What a cache has room for -/

/-- A table with the rows of an automaton, of which the given number of slots is in use. -/
structure SlotTable.Sized (table : SlotTable) (automaton : Automaton) (tracked : Nat) : Prop where
  size_rows : table.rows.size = automaton.size + 1
  size_row : ∀ index ≤ automaton.size,
    (table.rows.getD index #[]).size = automaton.slotCount
  tracked_eq : table.tracked = tracked
  tracked_le : tracked ≤ automaton.slotCount

namespace SlotTable.Sized

variable {table : SlotTable}

theorem hasRow (sized : table.Sized automaton tracked) (inside : index ≤ automaton.size) :
    table.HasRow index := by
  refine ⟨?_, ?_⟩
  · rw [sized.size_rows]
    omega
  · rw [sized.size_row index inside, sized.tracked_eq]
    exact sized.tracked_le

theorem size_row_tracked (sized : table.Sized automaton tracked) (inside : index ≤ automaton.size) :
    (table.row index).size = tracked := by
  rw [row, Array.size_extract, sized.size_row index inside, sized.tracked_eq]
  have := sized.tracked_le
  omega

theorem scratch_eq (sized : table.Sized automaton tracked) : table.scratch = automaton.size := by
  rw [scratch, sized.size_rows, Nat.add_sub_cancel]

/-- Writing as many slots as are in use keeps the size of all rows. -/
theorem write (sized : table.Sized automaton tracked) (index : Nat) (size : slots.size = tracked) :
    (table.write index slots).Sized automaton tracked := by
  refine ⟨?_, fun other within => ?_, sized.tracked_eq, sized.tracked_le⟩
  · rw [SlotTable.write, Array.size_modify, sized.size_rows]
  · have width := sized.size_row other within
    have bound := sized.tracked_le
    rw [getD_write]
    split
    · rw [Slots.onto, Array.size_append, Array.size_extract, width]
      omega
    · exact width

end SlotTable.Sized

/-- Active states in a set and a table of the size of an automaton. -/
structure Active.Sized (active : Active) (automaton : Automaton) (tracked : Nat) : Prop where
  set : ∃ members, active.set.Holds automaton.size members
  table : active.table.Sized automaton tracked

theorem Active.Sized.setup {active : Active} {before : Nat}
    (sized : active.Sized automaton before) (bound : tracked ≤ automaton.slotCount) :
    (active.setup tracked).Sized automaton tracked := by
  obtain ⟨⟨members, holds⟩, table⟩ := sized
  exact ⟨⟨[], holds.clear⟩, table.size_rows, table.size_row, rfl, bound⟩

theorem Active.Sized.clear {active : Active} (sized : active.Sized automaton tracked) :
    active.clear.Sized automaton tracked := by
  obtain ⟨⟨members, holds⟩, table⟩ := sized
  exact ⟨⟨[], holds.clear⟩, table⟩

/-! ### Closures -/

/-- Something to do in a closure about a state or a slot that is there. -/
def Pending.Inside (automaton : Automaton) (tracked : Nat) : Pending → Prop
  | .explore state => state < automaton.size
  | .restore slot _ => slot < tracked

/-- **A closure whose steps can be taken**: they are about what is there. -/
structure Closure.Inside (closure : Closure) (automaton : Automaton) (tracked : Nat) : Prop where
  stack : ∀ pending ∈ closure.stack, pending.Inside automaton tracked
  size_slots : closure.slots.size = tracked
  active : closure.active.Sized automaton tracked

namespace Closure

variable {closure : Closure}

/-- A set of an automaton has a place for each of its states. -/
theorem hasPlace_of_holds {set : SparseSet} {members : List Nat} {state : Nat}
    (holds : set.Holds automaton.size members) (inside : state < automaton.size) :
    set.HasPlace state := by
  have most := SparseSet.length_le_of_nodup holds.nodup holds.below
  refine ⟨by rwa [holds.sparse_size], by rwa [holds.count_eq, holds.dense_size], ?_⟩
  by_cases old : state ∈ members
  · exact .inl (holds.contains_iff.mpr old)
  · right
    rw [holds.count_eq, holds.dense_size]
    exact holds.length_lt inside old

/-- The steps that can be taken are in range. -/
theorem Inside.inRange (intact : automaton.Intact) (inside : closure.Inside automaton tracked)
    {pending : Pending} (taken : pending.Inside automaton tracked) :
    pending.InRange automaton closure := by
  cases pending with
  | explore state =>
    obtain ⟨members, holds⟩ := inside.active.set
    exact ⟨taken, intact.hasWay state, hasPlace_of_holds holds taken,
      inside.active.table.hasRow (Nat.le_of_lt taken),
      inside.size_slots.trans inside.active.table.tracked_eq.symm⟩
  | restore slot old => exact Nat.lt_of_lt_of_eq taken inside.size_slots.symm

/-- The next thing to do is about what is there, and so is what is left. -/
theorem Inside.pop (inside : closure.Inside automaton tracked) {pending : Pending}
    {rest : List Pending} (stack : closure.stack = pending :: rest) :
    pending.Inside automaton tracked ∧ Inside { closure with stack := rest } automaton tracked := by
  obtain ⟨first, others⟩ := List.forall_mem_cons.mp (stack ▸ inside.stack)
  exact ⟨first, others, inside.size_slots, inside.active⟩

theorem Inside.push (inside : closure.Inside automaton tracked) {pending : List Pending}
    (more : ∀ next ∈ pending, next.Inside automaton tracked) :
    (closure.push pending).Inside automaton tracked :=
  ⟨List.forall_mem_append.mpr ⟨more, inside.stack⟩, inside.size_slots, inside.active⟩

/-- **Passing a state** leaves steps that can be taken. -/
theorem Inside.pass (intact : automaton.Intact) (inside : closure.Inside automaton tracked)
    (state : Nat) :
    (pass automaton haystack position closure state).Inside automaton tracked := by
  have leads := intact.target_lt state
  have written : Inside { closure with active := { closure.active with
      table := closure.active.table.write state closure.slots } } automaton tracked :=
    ⟨inside.stack, inside.size_slots, inside.active.set,
      inside.active.table.write state inside.size_slots⟩
  rw [Closure.pass]
  cases same : automaton.state state with
  | goto target look =>
    rw [same] at leads
    have goes : (closure.push [.explore target]).Inside automaton tracked :=
      inside.push (List.forall_mem_singleton.mpr (leads target (List.mem_singleton.mpr rfl)))
    cases look with
    | none => exact goes
    | some look =>
      dsimp only
      split
      · exact goes
      · exact inside
  | splits targets reverse =>
    rw [same] at leads
    refine inside.push fun pending member => ?_
    obtain ⟨target, among, rfl⟩ := List.mem_map.mp member
    exact leads target (State.mem_targets_of_branches among)
  | capture target slot =>
    rw [same] at leads
    have inStates : (Pending.explore target).Inside automaton tracked :=
      leads target (List.mem_singleton.mpr rfl)
    dsimp only
    split
    · next stored =>
      have undone : (Pending.restore slot (closure.slots.getD slot none)).Inside automaton
          tracked := Nat.lt_of_lt_of_eq stored inside.size_slots
      exact ⟨List.forall_mem_cons.mpr ⟨inStates, List.forall_mem_cons.mpr
        ⟨undone, inside.stack⟩⟩, Array.size_setIfInBounds.trans inside.size_slots, inside.active⟩
    · exact inside.push (List.forall_mem_singleton.mpr inStates)
  | byte | ranges | fail | accept => exact written

/-- **A step that is taken leaves steps that can be taken.** -/
theorem Inside.step (intact : automaton.Intact) (inside : closure.Inside automaton tracked)
    {pending : Pending} (taken : pending.Inside automaton tracked) :
    (step automaton haystack position closure pending).Inside automaton tracked := by
  obtain ⟨stack, slots, set, table⟩ := closure
  cases pending with
  | restore slot old =>
    exact ⟨inside.stack, Array.size_setIfInBounds.trans inside.size_slots, inside.active⟩
  | explore state =>
    obtain ⟨members, holds⟩ := inside.active.set
    rw [Closure.step]
    by_cases old : state ∈ members
    · rw [holds.insert_old old]
      exact inside
    · obtain ⟨after, added, more⟩ := holds.insert_new taken old
      rw [added]
      have joined : Inside ⟨stack, slots, after, table⟩ automaton tracked :=
        ⟨inside.stack, inside.size_slots, ⟨_, more⟩, inside.active.table⟩
      exact joined.pass intact state

/-- **A run of steps stays in range.** -/
theorem run?_eq (intact : automaton.Intact) (haystack : Array UInt8) (position : Nat)
    (inside : closure.Inside automaton tracked) :
    run? automaton haystack position closure = some (run automaton haystack position closure) ∧
      (run automaton haystack position closure).Inside automaton tracked := by
  fun_induction run automaton haystack position closure with
  | case1 closure empty =>
    rw [run?]
    split
    · exact ⟨rfl, inside⟩
    · next same => rw [empty] at same; cases same
  | case2 closure pending rest stack hypothesis =>
    obtain ⟨first, left⟩ := inside.pop stack
    rw [run?]
    split
    · next same => rw [stack] at same; cases same
    · next pending' rest' same =>
      obtain ⟨rfl, rfl⟩ := List.cons.inj (stack.symm.trans same)
      rw [if_pos (left.inRange intact first)]
      exact hypothesis (left.step intact first)

end Closure

/-- **Adding the closure of a state stays in range.** -/
theorem Active.Sized.close (intact : automaton.Intact) (haystack : Array UInt8) (position : Nat)
    {active : Active} (sized : active.Sized automaton tracked) {state : Nat}
    (inside : state < automaton.size) (size : slots.size = tracked) :
    ∃ restored after, active.close? automaton haystack position slots state =
        some (restored, after) ∧
      active.close automaton haystack position slots state = (restored, after) ∧
      restored.size = tracked ∧ after.Sized automaton tracked := by
  have started : Closure.Inside ⟨[.explore state], slots, active⟩ automaton tracked :=
    ⟨List.forall_mem_singleton.mpr inside, size, sized⟩
  obtain ⟨same, ended⟩ := Closure.run?_eq intact haystack position started
  refine ⟨_, _, ?_, rfl, ended.size_slots, ended.active⟩
  rw [close?, same]
  rfl

/-! ### Sweeps -/

namespace Lockstep

/-- A sweep over states that are there, with as many slots of the match as are in use. -/
structure Sweep.Inside (sweep : Sweep) (automaton : Automaton) (tracked : Nat) : Prop where
  table : sweep.table.Sized automaton tracked
  next : sweep.next.Sized automaton tracked
  size_found : sweep.found.size = tracked

theorem follow?_eq (intact : automaton.Intact) (haystack : Array UInt8) (position : Nat)
    {sweep : Sweep} (inside : sweep.Inside automaton tracked) {state target : Nat}
    (leads : target ∈ (automaton.state state).targets) (inStates : state < automaton.size) :
    follow? automaton haystack position sweep state target =
        some (follow automaton haystack position sweep state target) ∧
      (follow automaton haystack position sweep state target).Inside automaton tracked := by
  obtain ⟨table, next, found, matched⟩ := sweep
  obtain ⟨restored, after, checked, same, size, sized⟩ := inside.next.close intact haystack
    (position + 1) (intact.target_lt state target leads)
    (inside.table.size_row_tracked (Nat.le_of_lt inStates))
  refine ⟨?_, ?_⟩
  · rw [follow?, follow]
    simp only at checked same
    rw [checked, same]
    rfl
  · rw [follow]
    simp only at same
    rw [same]
    exact ⟨inside.table.write state size, sized, inside.size_found⟩

/-- What a sweep reaches for at a state that is there is in range. -/
theorem Sweep.Inside.inRange {sweep : Sweep} (inside : sweep.Inside automaton tracked)
    (enough : kind = .leftmostLongest → 0 < tracked) {state : Nat}
    (inStates : state < automaton.size) : sweep.InRange automaton kind state := by
  have same := inside.table.tracked_eq
  exact ⟨inStates, inside.table.hasRow (Nat.le_of_lt inStates), inside.size_found.trans same.symm,
    fun longest => same ▸ enough longest⟩

/-- A match that is kept has as many slots as are in use. -/
theorem Sweep.Inside.keep {sweep : Sweep} (inside : sweep.Inside automaton tracked) {state : Nat}
    (inStates : state < automaton.size) :
    Inside { sweep with found := sweep.table.row state, matched := true } automaton tracked :=
  ⟨inside.table, inside.next, inside.table.size_row_tracked (Nat.le_of_lt inStates)⟩

theorem mem_targets_of_transition {state : State} {byte : UInt8} {target : Nat}
    (step : state.transition byte = some target) : target ∈ state.targets := by
  cases state with
  | byte next value | ranges next value =>
    obtain ⟨-, rfl⟩ := Option.ite_none_right_eq_some.mp step |>.imp id Option.some.inj
    exact List.mem_singleton.mpr rfl
  | splits | goto | capture | fail | accept => cases step

/-- **A sweep stays in range.** -/
theorem sweep?_eq (intact : automaton.Intact) (haystack : Array UInt8) (anchor : Anchor)
    (enough : kind = .leftmostLongest → 0 < tracked) (position : Nat) (matchedBefore : Bool)
    (states : List Nat) {sweeping : Sweep} (inside : sweeping.Inside automaton tracked)
    (inStates : ∀ state ∈ states, state < automaton.size) :
    sweep? automaton haystack anchor kind position matchedBefore states sweeping =
        some (sweep automaton haystack anchor kind position matchedBefore states sweeping) ∧
      (sweep automaton haystack anchor kind position matchedBefore states sweeping).Inside
        automaton tracked := by
  fun_induction sweep automaton haystack anchor kind position matchedBefore states sweeping with
  | case1 sweeping => exact ⟨rfl, inside⟩
  | case2 state rest sweeping skips hypothesis =>
    obtain ⟨first, others⟩ := List.forall_mem_cons.mp inStates
    unfold sweep?
    rw [if_pos (inside.inRange enough first), if_pos skips]
    exact hypothesis inside others
  | case3 state rest sweeping going accepts early hypothesis =>
    obtain ⟨first, others⟩ := List.forall_mem_cons.mp inStates
    unfold sweep?
    rw [if_pos (inside.inRange enough first), if_neg going]
    simp only [accepts, if_pos early]
    exact hypothesis inside others
  | case4 state rest sweeping going accepts late isFirst =>
    obtain ⟨first, others⟩ := List.forall_mem_cons.mp inStates
    unfold sweep?
    rw [if_pos (inside.inRange enough first), if_neg going]
    simp only [accepts, if_neg late, isFirst]
    exact ⟨trivial, inside.keep first⟩
  | case5 state rest sweeping going accepts late longest matched hypothesis =>
    obtain ⟨first, others⟩ := List.forall_mem_cons.mp inStates
    unfold sweep?
    rw [if_pos (inside.inRange enough first), if_neg going]
    simp only [accepts, if_neg late, longest, if_pos matched]
    exact longest ▸ hypothesis inside others
  | case6 state rest sweeping going accepts late longest unmatched hypothesis =>
    obtain ⟨first, others⟩ := List.forall_mem_cons.mp inStates
    unfold sweep?
    rw [if_pos (inside.inRange enough first), if_neg going]
    simp only [accepts, if_neg late, longest, if_neg unmatched]
    exact longest ▸ hypothesis (inside.keep first) others
  | case7 state rest sweeping going continues nowhere hypothesis =>
    obtain ⟨first, others⟩ := List.forall_mem_cons.mp inStates
    unfold sweep?
    rw [if_pos (inside.inRange enough first), if_neg going]
    split
    · next accepts => exact absurd accepts continues
    · rw [nowhere]
      exact hypothesis inside others
  | case8 state rest sweeping going target continues step hypothesis =>
    obtain ⟨first, others⟩ := List.forall_mem_cons.mp inStates
    obtain ⟨byte, -, transition⟩ := Option.bind_eq_some_iff.mp step
    obtain ⟨same, followed⟩ := follow?_eq intact haystack position inside
      (mem_targets_of_transition transition) first
    unfold sweep?
    rw [if_pos (inside.inRange enough first), if_neg going]
    split
    · next accepts => exact absurd accepts continues
    · rw [step]
      dsimp only
      rw [same]
      exact hypothesis followed others

/-! ### Whole searches -/

/-- **A cache that was made for an automaton**: its sets and rows have the size of it. -/
structure Cache.Sized (cache : Cache) (automaton : Automaton) (tracked : Nat) : Prop where
  current : cache.current.Sized automaton tracked
  next : cache.next.Sized automaton tracked

/-- A cache in a search that tracks a number of slots. -/
structure Cache.Inside (cache : Cache) (automaton : Automaton) (tracked : Nat) : Prop
    extends cache.Sized automaton tracked where
  size_found : cache.found.size = tracked

theorem seed?_eq (intact : automaton.Intact) (haystack : Array UInt8) (position : Nat)
    {cache : Cache} (inside : cache.Inside automaton tracked) :
    seed? automaton haystack position cache = some (seed automaton haystack position cache) ∧
      (seed automaton haystack position cache).Inside automaton tracked := by
  obtain ⟨current, ⟨set, table⟩, found⟩ := cache
  have rows : table.Sized automaton tracked := inside.next.table
  have last : table.scratch ≤ automaton.size := Nat.le_of_eq rows.scratch_eq
  obtain ⟨restored, after, checked, same, size, sized⟩ := inside.current.close intact haystack
    position intact.start_lt (rows.size_row_tracked last)
  refine ⟨?_, ?_⟩
  · rw [seed?, seed, if_pos (rows.hasRow last)]
    simp only at checked same
    rw [checked, same]
    rfl
  · rw [seed]
    simp only at same
    rw [same]
    exact ⟨⟨sized, inside.next.set, rows.write _ size⟩, inside.size_found⟩

theorem sweepAll?_eq (intact : automaton.Intact) (haystack : Array UInt8) (anchor : Anchor)
    (enough : kind = .leftmostLongest → 0 < tracked) (position : Nat) (matched : Bool)
    {cache : Cache} (inside : cache.Inside automaton tracked) :
    sweepAll? automaton haystack anchor kind position matched cache =
        some (sweepAll automaton haystack anchor kind position matched cache) ∧
      (sweepAll automaton haystack anchor kind position matched cache).2.Inside automaton
        tracked := by
  obtain ⟨⟨set, table⟩, next, found⟩ := cache
  obtain ⟨members, holds⟩ := inside.current.set
  have room : set.count ≤ set.dense.size := by
    rw [holds.count_eq, holds.dense_size]
    exact SparseSet.length_le_of_nodup holds.nodup holds.below
  have started : Sweep.Inside ⟨table, next, found, false⟩ automaton tracked :=
    ⟨inside.current.table, inside.next, inside.size_found⟩
  obtain ⟨same, swept⟩ := sweep?_eq intact haystack anchor enough position matched set.toList
    started (by rw [holds.toList_eq]; exact holds.below)
  rw [sweepAll?, if_pos room, same]
  exact ⟨rfl, ⟨⟨⟨members, holds⟩, swept.table⟩, swept.next⟩, swept.size_found⟩

/-- **What a search does at one position stays in range**: it starts a thread if it may, and sweeps
over the active states. -/
theorem turn?_eq (intact : automaton.Intact) (haystack : Array UInt8) (anchor : Anchor)
    (enough : kind = .leftmostLongest → 0 < tracked) (position : Nat) (matched : Bool)
    {cache : Cache} (inside : cache.Inside automaton tracked) (starts : Prop) [Decidable starts]
    {ended : Bool} {swept : Cache}
    (sweeps : sweepAll automaton haystack anchor kind position matched
      (if starts then seed automaton haystack position cache else cache) = (ended, swept)) :
    turn? automaton haystack anchor kind position matched starts cache = some (ended, swept) ∧
      swept.Inside automaton tracked := by
  rw [turn?]
  obtain ⟨same, seeded⟩ := seed?_eq intact haystack position inside
  by_cases now : starts
  · rw [if_pos now] at sweeps
    obtain ⟨checked, left⟩ := sweepAll?_eq intact haystack anchor enough position matched seeded
    rw [sweeps] at checked left
    rw [if_pos now, same]
    exact ⟨checked, left⟩
  · rw [if_neg now] at sweeps
    obtain ⟨checked, left⟩ := sweepAll?_eq intact haystack anchor enough position matched inside
    rw [sweeps] at checked left
    rw [if_neg now]
    exact ⟨checked, left⟩

/-- **All positions from one on stay in range.** -/
theorem advance?_eq (intact : automaton.Intact) (haystack : Array UInt8) (anchor : Anchor)
    (enough : kind = .leftmostLongest → 0 < tracked) (position : Nat) (matched : Bool)
    {cache : Cache} (inside : cache.Inside automaton tracked) :
    advance? automaton haystack anchor kind position matched cache =
        some (advance automaton haystack anchor kind position matched cache) ∧
      (advance automaton haystack anchor kind position matched cache).2.Inside automaton
        tracked := by
  fun_induction advance automaton haystack anchor kind position matched cache with
  | case1 position matched cache anchored finished =>
    rw [advance?, if_pos finished]
    exact ⟨rfl, inside⟩
  | case2 position matched cache anchored going seeded ended swept sweeps last =>
    obtain ⟨checked, left⟩ := turn?_eq intact haystack anchor enough position matched inside
      (¬matched ∧ (¬anchored ∨ position = 0)) sweeps
    rw [advance?, if_neg going, checked]
    simp only [Option.bind_eq_bind, Option.bind_some, if_pos last]
    exact ⟨trivial, left⟩
  | case3 position matched cache anchored going seeded ended swept sweeps more hypothesis =>
    obtain ⟨checked, left⟩ := turn?_eq intact haystack anchor enough position matched inside
      (¬matched ∧ (¬anchored ∨ position = 0)) sweeps
    rw [advance?, if_neg going, checked]
    simp only [Option.bind_eq_bind, Option.bind_some, if_neg more]
    exact hypothesis ⟨⟨left.next, left.current.clear⟩, left.size_found⟩

/-- An automaton without loose ends has as many slots as a search tracks. -/
theorem tracked_le_of_intact (intact : automaton.Intact) {slotCount : Nat}
    (bound : slotCount ≤ automaton.slotCount) :
    Lockstep.tracked kind slotCount ≤ automaton.slotCount := by
  have := intact.slotCount_eq
  have := intact.groupCount_pos
  cases kind with
  | leftmostFirst => exact bound
  | leftmostLongest => exact Nat.max_le.mpr ⟨bound, by omega⟩

/-- **A search in lockstep stays in range**, on a cache that was made for the automaton. -/
theorem search?_eq (intact : automaton.Intact) {cache : Cache} {before slotCount : Nat}
    (sized : cache.Sized automaton before) (haystack : Array UInt8) (anchor : Anchor)
    (kind : MatchKind) (bound : slotCount ≤ automaton.slotCount) :
    search? automaton cache haystack anchor kind slotCount =
        some (search automaton cache haystack anchor kind slotCount) ∧
      (search automaton cache haystack anchor kind slotCount).2.Sized automaton
        (Lockstep.tracked kind slotCount) := by
  have within : Lockstep.tracked kind slotCount ≤ automaton.slotCount :=
    tracked_le_of_intact intact bound
  have enough : kind = .leftmostLongest → 0 < Lockstep.tracked kind slotCount := by
    rintro rfl
    rw [Lockstep.tracked]
    omega
  have started : (cache.setup (Lockstep.tracked kind slotCount)).Inside automaton
      (Lockstep.tracked kind slotCount) :=
    ⟨⟨sized.current.setup within, sized.next.setup within⟩, Array.size_replicate⟩
  obtain ⟨same, ended⟩ := advance?_eq intact haystack anchor enough 0 false started
  rw [search?, search, if_pos ⟨bound, within⟩, same]
  revert ended
  rcases advance automaton haystack anchor kind 0 false
    (cache.setup (Lockstep.tracked kind slotCount)) with ⟨matched, left⟩
  intro ended
  have size : slotCount ≤ left.found.size := by
    rw [ended.size_found]
    exact le_tracked kind slotCount
  cases matched with
  | false => exact ⟨rfl, ended.toSized⟩
  | true =>
    simp only [Option.bind_eq_bind, Option.bind_some, if_pos size, if_true]
    exact ⟨trivial, ended.toSized⟩

theorem Cache.sized_ofAutomaton (automaton : Automaton) :
    (Cache.ofAutomaton automaton).Sized automaton automaton.slotCount := by
  have rows : (SlotTable.withSize automaton.size automaton.slotCount).Fits automaton :=
    SlotTable.fits_withSize automaton
  have active : (Active.ofAutomaton automaton).Sized automaton automaton.slotCount :=
    ⟨⟨[], SparseSet.holds_withCapacity _⟩, rows.size_rows, rows.size_row, rfl, Nat.le_refl _⟩
  exact ⟨active, active⟩

end Lockstep

/-! ### Whatever is asked stays in range -/

/-- An automaton without loose ends has as many slots as the answer to a query needs. -/
theorem Query.slotCount_le_of_intact (intact : automaton.Intact) (query : Query) :
    query.slotCount automaton ≤ automaton.slotCount := by
  have := intact.slotCount_eq
  have := intact.groupCount_pos
  cases query <;> simp only [Query.slotCount] <;> omega

namespace Regex

variable {regex : Regex} {cache : Cache}

/-- **A search stays in range**, with either strategy, and leaves a cache for the next one. -/
theorem searchSlots?_eq (intact : regex.automaton.Intact) {before slotCount : Nat}
    (sized : cache.lockstep.Sized regex.automaton before) (haystack : Bytes) (settings : Search)
    (bound : slotCount ≤ regex.automaton.slotCount) :
    regex.searchSlots? cache haystack settings slotCount =
        some (regex.searchSlots cache haystack settings slotCount) ∧
      ∃ after, (regex.searchSlots cache haystack settings slotCount).2.lockstep.Sized
        regex.automaton after := by
  obtain ⟨anchor, kind, strategy⟩ := settings
  cases strategy with
  | lockstep =>
    obtain ⟨same, left⟩ := Lockstep.search?_eq intact sized haystack.toArray anchor kind bound
    rw [searchSlots?, same]
    exact ⟨rfl, _, left⟩
  | backtracking =>
    have same := Backtracking.search?_eq intact cache.backtracking haystack.toArray anchor kind
      bound
    rw [searchSlots?, same]
    exact ⟨rfl, _, sized⟩

theorem answer?_eq (intact : regex.automaton.Intact) {before : Nat}
    (sized : cache.lockstep.Sized regex.automaton before) (query : Query) :
    regex.answer? cache query = some (regex.answer cache query) ∧
      ∃ after, (regex.answer cache query).2.lockstep.Sized regex.automaton after := by
  have bound := query.slotCount_le_of_intact intact
  obtain ⟨same, left⟩ := searchSlots?_eq intact sized query.haystack query.settings bound
  rw [answer?, same, answer_eq]
  exact ⟨rfl, left⟩

theorem answers?_eq (intact : regex.automaton.Intact) {before : Nat}
    (sized : cache.lockstep.Sized regex.automaton before) (queries : List Query) :
    regex.answers? cache queries = some (regex.answers cache queries) := by
  induction queries generalizing cache before with
  | nil => rfl
  | cons query rest hypothesis =>
    obtain ⟨same, after, left⟩ := answer?_eq intact sized query
    rw [answers?, answers, same]
    simp only [Option.bind_eq_bind, Option.bind_some, hypothesis left]
    rfl

/-- **Every compiled pattern has an intact automaton, and no search with it reaches for anything
that is not there.** The targets of all states are states; the start is the first state, stores the
start of the match and is never entered again; one state accepts; every choice has two ways or more;
and every slot that is stored is one of the two of a group. So whatever is asked of it, one query
after the other on one cache, is answered by searches that check all that they reach for. -/
theorem answers_in_range {rule : LoopRule} {text : String} {pattern : Pattern}
    (compiled : ofPattern rule text pattern = .ok regex) :
    regex.automaton.Intact ∧ ∀ queries : List Query,
      regex.answers? regex.newCache queries = some (regex.answers regex.newCache queries) := by
  have intact := Automaton.intact_of_ofPattern (automaton_eq compiled)
  exact ⟨intact, answers?_eq intact (Lockstep.Cache.sized_ofAutomaton regex.automaton)⟩

/-- Queries of both strategies on one cache, for different numbers of slots. -/
theorem answers_in_range_lazyLoop :
    ofPattern .bodyKnownEmpty "(a|ab)*?b" .lazyLoop = .ok .lazyLoop ∧
      lazyLoop.automaton.Intact ∧
      let queries : List Query := [.isMatch [] ⟨.both, .leftmostLongest, .lockstep⟩,
        .search [0x61, 0x62, 0x62] ⟨.unanchored, .leftmostLongest, .lockstep⟩,
        .find [0x62] ⟨.start, .leftmostFirst, .backtracking⟩]
      lazyLoop.answers? lazyLoop.newCache queries =
        some (lazyLoop.answers lazyLoop.newCache queries) := by
  have compiled := ofPattern_lazyLoop .bodyKnownEmpty
  obtain ⟨intact, answered⟩ := answers_in_range compiled
  exact ⟨compiled, intact, answered _⟩

end Regex

end Crosscheck
