/-
**A closure goes on a tour and leaves the slots as they were.**

A closure follows all ways out of a state that consume nothing, each to its end before the next one,
and turns back where it has been before. Its captures are made in the slots of the thread it starts
from, and undone before the next way is taken; so they show in the rows of the states that wait at
the ends of the ways, and nowhere else.

* `Closure.run_restores`: once a closure is done, its slots are as they were;
* `Route`, `Route.Tours`: ways to states, in the order in which the states are first reached;
* `Route.along`, `Route.getD_along`: the slots at the end of a way;
* `Active.Toured`, `Closure.run_tours`: which states a closure adds, and which rows it writes.
-/
import Crosscheck.Proofs.Search.Checked.Lockstep

namespace Crosscheck

open Thread (passed)

/-! ### Undoing captures -/

section Restoring

variable (automaton : Automaton) (haystack : Array UInt8) (position : Nat)

/-- Something that is done leaves the slots as they are once everything is undone. -/
theorem Closure.undone_step (closure : Closure) (pending : Pending) :
    (step automaton haystack position closure pending).undone position =
      Closure.undone position { closure with stack := pending :: closure.stack } := by
  obtain ⟨stack, slots, set, table⟩ := closure
  cases pending with
  | restore slot old => rfl
  | explore state =>
    rw [step]
    split
    · exact undone_pass _ state
    · rfl
    · rfl

/-- **A closure is done with nothing left to do and everything undone.** -/
theorem Closure.run_restores (closure : Closure) :
    (run automaton haystack position closure).stack = [] ∧
      (run automaton haystack position closure).slots = closure.undone position := by
  fun_induction run automaton haystack position closure with
  | case1 closure empty =>
    rw [undone, empty]
    exact ⟨rfl, rfl⟩
  | case2 closure pending rest stack hypothesis =>
    refine ⟨hypothesis.1, hypothesis.2.trans ?_⟩
    rw [undone_step, undone, undone, stack]

/-- **Adding a closure leaves the slots of its thread as they were.** -/
theorem Active.close_restores (active : Active) (slots : Slots) (state : Nat) :
    (active.close automaton haystack position slots state).1 = slots :=
  (Closure.run_restores automaton haystack position ⟨[.explore state], slots, active⟩).2

end Restoring

/-! ### Routes -/

namespace State

/-- The states to which a state leads without a byte, the preferred one first. -/
def ways (state : State) (haystack : Array UInt8) (position : Nat) : List Nat :=
  match state with
  | .goto target none | .capture target _ => [target]
  | .goto target (some look) => if look.holds haystack position then [target] else []
  | .splits targets reverse => branches targets reverse
  | .byte .. | .ranges .. | .fail | .accept => []

/-- Whether a state stores the position in a slot. -/
def stores (state : State) (slot : Nat) : Bool :=
  match state with
  | .capture _ other => other = slot
  | .byte .. | .ranges .. | .splits .. | .goto .. | .fail | .accept => false

/-- The slots behind a state. -/
def store (state : State) (position : Nat) (slots : Slots) : Slots :=
  match state with
  | .capture _ slot => slots.setIfInBounds slot (some position)
  | .byte .. | .ranges .. | .splits .. | .goto .. | .fail | .accept => slots

@[simp] theorem size_store (state : State) (position : Nat) (slots : Slots) :
    (state.store position slots).size = slots.size := by
  cases state with
  | capture => exact Array.size_setIfInBounds
  | byte | ranges | splits | goto | fail | accept => rfl

theorem getD_store (state : State) (position : Nat) {slots : Slots} {slot : Nat}
    (inside : slot < slots.size) : (state.store position slots).getD slot none =
      if state.stores slot then some position else slots.getD slot none := by
  cases state with
  | capture target other =>
    rw [store, stores, Array.getD_eq_getD_getElem?, Array.getElem?_setIfInBounds]
    by_cases same : other = slot
    · subst same
      simp [inside]
    · simp [same, Array.getD_eq_getD_getElem?]
  | byte | ranges | splits | goto | fail | accept => rfl

end State

/-- A way to a state. -/
structure Route where
  /-- The state it leads to. -/
  state : Nat
  /-- The states before that one, last one first. -/
  before : List Nat

namespace Route

variable (automaton : Automaton) (haystack : Array UInt8) (position : Nat)

/-- The ways on from the end of a way, the preferred one first. -/
def onwards (route : Route) : List Route :=
  ((automaton.state route.state).ways haystack position).map fun target =>
    ⟨target, route.state :: route.before⟩

/-- **A tour** follows one way after the other, each with all its ways on before the next one. A way
to a state that was reached before ends there; so the ways that are found are those by which states
are reached first, in this order. -/
inductive Tours : List Nat → List Route → List Route → Prop where
  /-- No way is left. -/
  | done (reached : List Nat) : Tours reached [] []
  /-- A way leads to a state that was reached before. -/
  | back {reached : List Nat} {route : Route} {rest found : List Route} :
    route.state ∈ reached → Tours reached rest found → Tours reached (route :: rest) found
  /-- A way leads to a new state. -/
  | on {reached : List Nat} {route : Route} {rest found : List Route} :
    route.state ∉ reached →
      Tours (reached ++ [route.state]) (route.onwards automaton haystack position ++ rest) found →
        Tours reached (route :: rest) (route :: found)

/-- A way that leads from a state, each step being one of the ways out of the state before it. -/
def LeadsFrom (start : Nat) (route : Route) : Prop :=
  (route.state :: route.before).IsChain
      (fun target state => target ∈ (automaton.state state).ways haystack position) ∧
    (route.state :: route.before).getLast? = some start

/-- The slots behind the states of a way. -/
def along (slots : Slots) (before : List Nat) : Slots :=
  before.foldr (fun state => (automaton.state state).store position) slots

/-- The thread that took a way. -/
def thread (slots : Slots) (route : Route) : Thread :=
  ⟨route.state, position, along automaton position slots route.before⟩

@[simp] theorem size_along (slots : Slots) (before : List Nat) :
    (along automaton position slots before).size = slots.size := by
  induction before with
  | nil => rfl
  | cons state before hypothesis => exact (State.size_store ..).trans hypothesis

/-- The ways on from the end of a way lead from where that one does. -/
theorem LeadsFrom.onwards {start : Nat} {route next : Route}
    (leads : route.LeadsFrom automaton haystack position start)
    (member : next ∈ route.onwards automaton haystack position) :
    next.LeadsFrom automaton haystack position start := by
  obtain ⟨target, way, rfl⟩ := List.mem_map.mp member
  exact ⟨List.isChain_cons_cons.mpr ⟨way, leads.1⟩, leads.2⟩

/-- **What a tour finds are ways** from where it starts. -/
theorem Tours.leadsFrom {start : Nat} {reached : List Nat} {todo tour : List Route}
    (tours : Tours automaton haystack position reached todo tour)
    (leads : ∀ route ∈ todo, route.LeadsFrom automaton haystack position start) :
    ∀ route ∈ tour, route.LeadsFrom automaton haystack position start := by
  induction tours with
  | done => exact leads
  | back old _ hypothesis => exact hypothesis (List.forall_mem_cons.mp leads).2
  | on new _ hypothesis =>
    obtain ⟨first, others⟩ := List.forall_mem_cons.mp leads
    refine List.forall_mem_cons.mpr ⟨first, hypothesis (List.forall_mem_append.mpr ⟨?_, others⟩)⟩
    exact fun next member => LeadsFrom.onwards automaton haystack position first member

/-- **The slots at the end of a way** are those at its start, with the position in each slot in
which a state on the way stores it. -/
theorem getD_along {slots : Slots} {slot : Nat} (inside : slot < slots.size) (before : List Nat) :
    (along automaton position slots before).getD slot none =
      if before.any fun state => (automaton.state state).stores slot then some position
      else slots.getD slot none := by
  induction before with
  | nil => rfl
  | cons state before hypothesis =>
    have within : slot < (along automaton position slots before).size := by rwa [size_along]
    show ((automaton.state state).store position (along automaton position slots before)).getD slot
      none = _
    rw [State.getD_store _ _ within, hypothesis, List.any_cons]
    by_cases here : (automaton.state state).stores slot
    · simp [here]
    · simp [here]

/-- The threads as which a thread goes on took the ways on. -/
theorem passed_thread (slots : Slots) (route : Route) :
    passed automaton haystack (route.thread automaton position slots) =
      (route.onwards automaton haystack position).map (thread automaton position slots) := by
  have stored : along automaton position slots (route.state :: route.before) =
      (automaton.state route.state).store position
        (along automaton position slots route.before) := rfl
  rw [passed, onwards, List.map_map]
  simp only [thread, Function.comp_def, stored]
  cases automaton.state route.state with
  | goto target look =>
    cases look with
    | none => rfl
    | some look =>
      dsimp only [State.ways]
      by_cases holds : look.holds haystack position
      · rw [if_pos holds]
        exact if_pos holds
      · rw [if_neg holds]
        exact if_neg holds
  | splits | capture | byte | ranges | fail | accept => rfl

end Route

/-! ### Tours of closures -/

/-- What was written to a row is read. -/
theorem SlotTable.Sized.row_write_self {table : SlotTable} {automaton : Automaton}
    {tracked index : Nat} {slots : Slots} (sized : table.Sized automaton tracked)
    (inside : index ≤ automaton.size) (size : slots.size = tracked) :
    (table.write index slots).row index = slots := by
  refine row_write ?_ (size.trans sized.tracked_eq.symm)
  rw [sized.size_rows]
  omega

/-- Tables with as many slots in use have the same slots in use of the same row. -/
theorem SlotTable.Sized.row_eq {one other : SlotTable} {automaton : Automaton}
    {tracked index : Nat} (sized : one.Sized automaton tracked)
    (sized' : other.Sized automaton tracked)
    (same : one.rows.getD index #[] = other.rows.getD index #[]) :
    one.row index = other.row index := by
  rw [row, row, same, sized.tracked_eq, sized'.tracked_eq]

/-- **Active states after a tour**: those of before are followed by those of the tour. Only the rows
of states that wait are written, each with the slots at the end of the way to it. -/
structure Active.Toured (after : Active) (automaton : Automaton) (position : Nat) (slots : Slots)
    (members : List Nat) (table : SlotTable) (tour : List Route) : Prop where
  set : after.set.Holds automaton.size (members ++ tour.map Route.state)
  frame : ∀ index,
    (∀ route ∈ tour, (automaton.state route.state).waits → route.state ≠ index) →
      after.table.rows.getD index #[] = table.rows.getD index #[]
  row_eq : ∀ route ∈ tour, (automaton.state route.state).waits →
    after.table.row route.state = Route.along automaton position slots route.before

namespace Closure

variable {automaton : Automaton} {haystack : Array UInt8} {position tracked : Nat}

/-- Passing a state writes no row but its own, and that only if it waits. -/
theorem getD_pass (closure : Closure) {state index : Nat}
    (other : (automaton.state state).waits → state ≠ index) :
    (pass automaton haystack position closure state).active.table.rows.getD index #[] =
      closure.active.table.rows.getD index #[] := by
  rw [active_pass]
  dsimp only
  split
  · next waits => exact SlotTable.getD_write_of_ne (other waits) ..
  · rfl

/-- Passing a state that waits writes the slots to its row. -/
theorem row_pass (closure : Closure) (inside : closure.Inside automaton tracked) {state : Nat}
    (inStates : state < automaton.size) (waits : (automaton.state state).waits) :
    (pass automaton haystack position closure state).active.table.row state = closure.slots := by
  rw [active_pass]
  dsimp only
  rw [if_pos waits]
  exact inside.active.table.row_write_self (Nat.le_of_lt inStates) inside.size_slots

/-- A tour goes on from the state that is passed first. -/
theorem toured_pass (intact : automaton.Intact) (haystack : Array UInt8) (slots : Slots)
    (closure : Closure) (inside : closure.Inside automaton tracked) {route : Route}
    (inStates : route.state < automaton.size)
    (slots_eq : closure.slots = Route.along automaton position slots route.before)
    {after : Active} (sized : after.table.Sized automaton tracked) {members : List Nat}
    {tour : List Route}
    (toured : after.Toured automaton position slots (members ++ [route.state])
      (pass automaton haystack position closure route.state).active.table tour) :
    after.Toured automaton position slots members closure.active.table (route :: tour) := by
  -- A tour comes to a state once, so the row of this one is not written again.
  have apart : ∀ later ∈ tour, later.state ≠ route.state := by
    intro later member same
    exact List.disjoint_of_nodup_append toured.set.nodup
      (List.mem_append_right _ (List.mem_singleton_self _))
      (same ▸ List.mem_map_of_mem member)
  refine ⟨?_, fun index others => ?_, List.forall_mem_cons.mpr ⟨fun waits => ?_, toured.row_eq⟩⟩
  · rw [List.map_cons, List.append_cons]
    exact toured.set
  · obtain ⟨here, later⟩ := List.forall_mem_cons.mp others
    exact (toured.frame index later).trans (getD_pass _ here)
  · have passed : Inside (pass automaton haystack position closure route.state) automaton
        tracked := inside.pass intact route.state
    have kept := toured.frame route.state fun later member _ => apart later member
    rw [sized.row_eq passed.active.table kept, row_pass _ inside inStates waits, slots_eq]

/-- **What a closure adds and writes** is what a tour of all that is left to do in it finds. -/
theorem run_tours (intact : automaton.Intact) (haystack : Array UInt8) (slots : Slots)
    (closure : Closure) (inside : closure.Inside automaton tracked) {members : List Nat}
    (holds : closure.active.set.Holds automaton.size members) {todo : List Route}
    (threads : closure.threads position = todo.map (Route.thread automaton position slots)) :
    ∃ tour, Route.Tours automaton haystack position members todo tour ∧
      (run automaton haystack position closure).active.Toured automaton position slots members
        closure.active.table tour := by
  -- Along the steps, what is left to do stands for the ways that are left, next one first.
  fun_induction run automaton haystack position closure generalizing members todo with
  | case1 closure empty =>
    rw [Closure.threads, empty] at threads
    obtain rfl := List.map_eq_nil_iff.mp threads.symm
    exact ⟨[], .done _, by rwa [List.map_nil, List.append_nil], fun _ _ => rfl,
      fun _ none => (List.not_mem_nil none).elim⟩
  | case2 closure pending rest stack hypothesis =>
    obtain ⟨first, left⟩ := inside.pop stack
    have stepped : Inside (step automaton haystack position { closure with stack := rest }
        pending) automaton tracked := left.step intact first
    rw [Closure.threads, stack] at threads
    cases pending with
    | restore slot old => exact hypothesis stepped holds threads
    | explore state =>
      cases todo with
      | nil => cases threads
      | cons route todo =>
        obtain ⟨here, more⟩ := List.cons.inj threads
        obtain ⟨rfl, -, slots_eq⟩ := Thread.mk.inj here
        by_cases old : route.state ∈ members
        · have present := holds.insert_old old
          rw [step_old { closure with stack := rest } present] at hypothesis stepped ⊢
          obtain ⟨tour, tours, toured⟩ := hypothesis stepped holds more
          exact ⟨tour, .back old tours, toured⟩
        · obtain ⟨after, added, inserted⟩ := holds.insert_new first old
          rw [step_new { closure with stack := rest } added] at hypothesis stepped ⊢
          have joined : Inside ⟨rest, closure.slots, after, closure.active.table⟩ automaton
              tracked := ⟨left.stack, inside.size_slots, ⟨_, inserted⟩, inside.active.table⟩
          have ended := (run?_eq intact haystack position stepped).2.active.table
          have onwards : Closure.threads position (pass automaton haystack position
              ⟨rest, closure.slots, after, closure.active.table⟩ route.state) =
                (route.onwards automaton haystack position ++ todo).map
                  (Route.thread automaton position slots) := by
            rw [threads_pass, List.map_append, ← Route.passed_thread, ← here]
            exact congrArg _ more
          obtain ⟨tour, tours, toured⟩ := hypothesis stepped (by rwa [active_pass]) onwards
          exact ⟨route :: tour, .on old tours,
            toured_pass intact haystack slots _ joined first slots_eq ended toured⟩

end Closure

/-- **Adding the closure of a state** adds what a tour from this state finds. -/
theorem Active.close_tours {automaton : Automaton} (intact : automaton.Intact)
    (haystack : Array UInt8) (position : Nat) {active : Active} {tracked : Nat}
    (sized : active.Sized automaton tracked) {members : List Nat}
    (holds : active.set.Holds automaton.size members) {slots : Slots}
    (size : slots.size = tracked) {state : Nat} (inside : state < automaton.size) :
    ∃ tour, Route.Tours automaton haystack position members [⟨state, []⟩] tour ∧
      (active.close automaton haystack position slots state).2.Toured automaton position slots
        members active.table tour :=
  Closure.run_tours intact haystack slots ⟨[.explore state], slots, active⟩
    ⟨List.forall_mem_singleton.mpr inside, size, sized⟩ holds rfl

end Crosscheck
