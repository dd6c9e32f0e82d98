/-
**Closures leave no captures behind.**

The row that threads start from lies behind those of the states. A closure only writes rows of
states, and gives back the slots it started from as they were; so nothing is ever stored in that
row, at any position of any search, whatever was asked before.

* `Active.Ready`: active states whose table has a blank row at its end;
* `Active.Ready.closeAll`: closures keep this;
* `Lockstep.Course.Ready.turn`: and so does a search at each position;
* `Regex.fits_answers`: whatever was asked, the cache fits its automaton;
* `Regex.closures_leave_no_trace`: what a closure adds, writes and leaves behind.
-/
import Crosscheck.Proofs.Search.Turns

namespace Crosscheck

variable {automaton : Automaton} {haystack : Array UInt8} {anchor : Anchor} {kind : MatchKind}
  {tracked : Nat}

/-! ### Closures -/

/-- A closure that can be started: from as many slots as are tracked, at a state that is there. -/
structure Closing.Inside (closing : Closing) (automaton : Automaton) (tracked : Nat) : Prop where
  size_slots : closing.slots.size = tracked
  state_lt : closing.state < automaton.size

/-- **Active states whose table has a blank row at its end.** -/
structure Active.Ready (active : Active) (automaton : Automaton) (tracked : Nat) : Prop where
  set : ∃ members, active.set.Holds automaton.size members
  fits : active.table.Fits automaton
  tracked_eq : active.table.tracked = tracked

namespace Active.Ready

variable {active : Active} {position : Nat}

theorem sized (ready : active.Ready automaton tracked) : active.Sized automaton tracked :=
  ⟨ready.set, ready.fits.size_rows, ready.fits.size_row, ready.tracked_eq,
    ready.tracked_eq ▸ ready.fits.tracked_le⟩

/-- Without active states the table is as it was. -/
theorem clear (ready : active.Ready automaton tracked) : active.clear.Ready automaton tracked := by
  obtain ⟨⟨members, holds⟩, fits, tracked_eq⟩ := ready
  exact ⟨⟨[], holds.clear⟩, fits, tracked_eq⟩

/-- **A closure does not write to the blank row.** -/
theorem close (intact : automaton.Intact) (haystack : Array UInt8) (position : Nat)
    (ready : active.Ready automaton tracked) {closing : Closing}
    (inside : closing.Inside automaton tracked) :
    (active.close automaton haystack position closing.slots closing.state).2.Ready automaton
      tracked := by
  obtain ⟨members, holds⟩ := ready.set
  obtain ⟨tour, -, toured⟩ := close_tours intact haystack position ready.sized holds
    inside.size_slots inside.state_lt
  obtain ⟨restored, after, -, same, -, sized⟩ := ready.sized.close intact haystack position
    inside.state_lt inside.size_slots
  rw [same] at toured ⊢
  have kept := toured.frame automaton.size fun route member _ => Nat.ne_of_lt
    (toured.set.below _ (List.mem_append_right _ (List.mem_map_of_mem member)))
  exact ⟨sized.set, ⟨sized.table.size_rows, sized.table.size_row, kept.trans ready.fits.blank,
    sized.table.tracked_eq.symm ▸ sized.table.tracked_le⟩, sized.table.tracked_eq⟩

/-- Nor do several. -/
theorem closeAll (intact : automaton.Intact) (haystack : Array UInt8) (position : Nat)
    {closings : List Closing} (ready : active.Ready automaton tracked)
    (inside : ∀ closing ∈ closings, closing.Inside automaton tracked) :
    (active.closeAll automaton haystack position closings).Ready automaton tracked := by
  induction closings generalizing active with
  | nil => exact ready
  | cons closing closings hypothesis =>
    obtain ⟨first, others⟩ := List.forall_mem_cons.mp inside
    exact hypothesis (ready.close intact haystack position first) others

end Active.Ready

/-! ### Searches -/

namespace Lockstep

/-- A search on tables that have a blank row at their end. -/
structure Cache.Ready (cache : Cache) (automaton : Automaton) (tracked : Nat) : Prop where
  current : cache.current.Ready automaton tracked
  next : cache.next.Ready automaton tracked

theorem Cache.Ready.fits {cache : Cache} (ready : cache.Ready automaton tracked) :
    cache.Fits automaton :=
  ⟨ready.current.set, ready.current.fits, ready.next.set, ready.next.fits⟩

/-- Any cache that fits can be prepared for a search. -/
theorem Cache.Fits.ready_setup {cache : Cache} (fits : cache.Fits automaton)
    (bound : tracked ≤ automaton.slotCount) : (cache.setup tracked).Ready automaton tracked := by
  obtain ⟨⟨_, current⟩, currentTable, ⟨_, next⟩, nextTable⟩ := fits
  exact ⟨⟨⟨_, current.clear⟩, currentTable.setup bound, rfl⟩,
    ⟨⟨_, next.clear⟩, nextTable.setup bound, rfl⟩⟩

/-- **A thread starts from slots in which nothing is stored.** -/
theorem Cache.Ready.scratch {cache : Cache} (ready : cache.Ready automaton tracked) :
    cache.next.table.row cache.next.table.scratch = Array.replicate tracked none := by
  rw [ready.next.fits.row_scratch, ready.next.tracked_eq]

namespace Round

variable {round : Round}

/-- The closures at the position of a round can be started. -/
theorem seeds_inside (intact : automaton.Intact) (ready : round.cache.Ready automaton tracked) :
    ∀ closing ∈ round.seeds automaton anchor, closing.Inside automaton tracked := by
  intro closing member
  rw [seeds] at member
  split at member
  · obtain rfl := List.mem_singleton.mp member
    exact ⟨by rw [ready.scratch, Array.size_replicate], intact.start_lt⟩
  · cases member

theorem seeded_ready (intact : automaton.Intact) (ready : round.cache.Ready automaton tracked) :
    (round.seeded automaton haystack anchor).Ready automaton tracked := by
  rw [seeded_eq]
  exact ⟨ready.current.closeAll intact haystack round.position (seeds_inside intact ready),
    ready.next⟩

/-- The closures at the next position can be started. -/
theorem follows_inside (intact : automaton.Intact) (ready : round.cache.Ready automaton tracked) :
    ∀ closing ∈ round.follows automaton haystack anchor kind,
      closing.Inside automaton tracked := by
  intro closing member
  have seeded : (round.seeded automaton haystack anchor).Ready automaton tracked :=
    seeded_ready intact ready
  obtain ⟨members, holds⟩ := seeded.current.set
  obtain ⟨state, among, slots_eq, leads⟩ := mem_followed _ _ _ _ member
  rw [holds.toList_eq] at among
  refine ⟨?_, intact.target_lt state _ leads⟩
  rw [slots_eq]
  exact seeded.current.sized.table.size_row_tracked (Nat.le_of_lt (holds.below state among))

theorem swept_ready (intact : automaton.Intact) (haystack : Array UInt8) (anchor : Anchor)
    (kind : MatchKind) (ready : round.cache.Ready automaton tracked) :
    (round.swept automaton haystack anchor kind).2.Ready automaton tracked := by
  obtain ⟨current, next⟩ := round.swept_frame automaton haystack anchor kind
  refine ⟨?_, ?_⟩
  · rw [current]
    exact ready.current.closeAll intact haystack round.position (seeds_inside intact ready)
  · rw [next]
    exact ready.next.closeAll intact haystack (round.position + 1) (follows_inside intact ready)

end Round

/-- A search on its way, on tables that have a blank row at their end. -/
def Course.Ready (automaton : Automaton) (tracked : Nat) : Course → Prop
  | .going round => round.cache.Ready automaton tracked
  | .ended _ cache => cache.Ready automaton tracked

/-- **What a search does at a position** keeps the blank rows. -/
theorem Course.Ready.turn (intact : automaton.Intact) {course after : Course} {round : Round}
    (turn : turn? automaton haystack anchor kind course = some (round, after))
    (ready : course.Ready automaton tracked) :
    round.cache.Ready automaton tracked ∧ after.Ready automaton tracked := by
  obtain ⟨rfl, ⟨matched, cache, rfl, rfl | rfl⟩ | ⟨matched, rfl⟩⟩ := turn?_cases _ _ _ _ turn
  · exact ⟨ready, ready⟩
  · exact ⟨ready, Round.swept_ready intact haystack anchor kind ready⟩
  · obtain ⟨current, next⟩ := Round.swept_ready intact haystack anchor kind ready
    exact ⟨ready, next, current.clear⟩

/-- **A search comes to a position with blank rows**, and leaves them blank. -/
theorem advance_ready (intact : automaton.Intact) (haystack : Array UInt8) (anchor : Anchor)
    (kind : MatchKind) {cache : Cache} (ready : cache.Ready automaton tracked) :
    ∃ rounds, Loops (Course.turn? automaton haystack anchor kind) (.going ⟨0, false, cache⟩) rounds
        (.ended (advance automaton haystack anchor kind 0 false cache).1
          (advance automaton haystack anchor kind 0 false cache).2) ∧
      rounds.length ≤ haystack.size + 1 ∧
      (∀ round ∈ rounds, round.cache.Ready automaton tracked) ∧
      (advance automaton haystack anchor kind 0 false cache).2.Ready automaton tracked := by
  obtain ⟨rounds, loops, bound⟩ := advance_loops automaton haystack anchor kind 0 false cache
  have started : (Course.going ⟨0, false, cache⟩).Ready automaton tracked := ready
  obtain ⟨among, ended⟩ := loops.keeps (Course.Ready.turn intact) started
  exact ⟨rounds, loops, bound, among, ended⟩

end Lockstep

namespace Regex

variable {regex : Regex} {cache : Cache}

/-- **A search leaves a cache that fits**, with either strategy. -/
theorem fits_searchSlots (intact : regex.automaton.Intact) (fits : cache.Fits regex.automaton)
    (haystack : Bytes) (settings : Search) {slotCount : Nat}
    (bound : slotCount ≤ regex.automaton.slotCount) :
    (regex.searchSlots cache haystack settings slotCount).2.Fits regex.automaton := by
  obtain ⟨anchor, kind, strategy⟩ := settings
  cases strategy with
  | lockstep =>
    obtain ⟨-, -, -, -, ended⟩ := Lockstep.advance_ready intact haystack.toArray anchor kind
      (Lockstep.Cache.Fits.ready_setup fits (Lockstep.tracked_le_of_intact intact bound))
    exact ended.fits
  | backtracking => exact fits

/-- **Whatever was asked, the cache fits.** -/
theorem fits_answers (intact : regex.automaton.Intact) (fits : cache.Fits regex.automaton)
    (queries : List Query) : (regex.answers cache queries).2.Fits regex.automaton := by
  induction queries generalizing cache with
  | nil => exact fits
  | cons query rest hypothesis =>
    have left : (regex.answer cache query).2.Fits regex.automaton := by
      rw [answer_eq]
      exact fits_searchSlots intact fits _ _ (query.slotCount_le_of_intact intact)
    exact hypothesis left

/-- **A closure leaves no captures behind.** It ends with nothing left to do and with the slots that
it started from. The states that it adds are those to which a tour first comes; only the rows of
those that wait are written, each with the slots of before and the position in those that a state on
the way stores. So whatever was asked before, no search ever comes to a position with anything
stored in the row from which it starts a thread. -/
theorem closures_leave_no_trace {rule : LoopRule} {text : String} {pattern : Pattern}
    (compiled : ofPattern rule text pattern = .ok regex) (haystack : Array UInt8) :
    (∀ (position : Nat) (active : Active) (members : List Nat) (slots : Slots) (state : Nat),
      active.set.Holds regex.automaton.size members →
      active.table.Sized regex.automaton slots.size → state < regex.automaton.size →
      let after := Closure.run regex.automaton haystack position ⟨[.explore state], slots, active⟩
      after.stack = [] ∧ after.slots = slots ∧
        ∃ tour, Route.Tours regex.automaton haystack position members [⟨state, []⟩] tour ∧
          (∀ route ∈ tour, route.LeadsFrom regex.automaton haystack position state) ∧
          after.active.set.Holds regex.automaton.size (members ++ tour.map Route.state) ∧
          (∀ index,
            (∀ route ∈ tour, (regex.automaton.state route.state).waits → route.state ≠ index) →
              after.active.table.rows.getD index #[] = active.table.rows.getD index #[]) ∧
          ∀ route ∈ tour, (regex.automaton.state route.state).waits →
            let row := after.active.table.row route.state
            row.size = slots.size ∧ ∀ slot < slots.size, row.getD slot none =
              if route.before.any fun before => (regex.automaton.state before).stores slot then
                some position
              else slots.getD slot none) ∧
    ∀ (queries : List Query) (anchor : Anchor) (kind : MatchKind),
      ∀ slotCount ≤ regex.automaton.slotCount,
        let tracked := Lockstep.tracked kind slotCount
        let cache := (regex.answers regex.newCache queries).2.lockstep.setup tracked
        let result := Lockstep.advance regex.automaton haystack anchor kind 0 false cache
        ∃ rounds, Loops (Lockstep.Course.turn? regex.automaton haystack anchor kind)
            (.going ⟨0, false, cache⟩) rounds (.ended result.1 result.2) ∧
          ∀ round ∈ rounds, round.cache.next.table.row round.cache.next.table.scratch =
            Array.replicate tracked none := by
  have intact := Automaton.intact_of_ofPattern (automaton_eq compiled)
  refine ⟨?_, ?_⟩
  · intro position active members slots state holds sized inside after
    obtain ⟨empty, restored⟩ := Closure.run_restores regex.automaton haystack position
      ⟨[.explore state], slots, active⟩
    obtain ⟨tour, tours, toured⟩ := Active.close_tours intact haystack position
      ⟨⟨members, holds⟩, sized⟩ holds rfl inside
    have leads := tours.leadsFrom _ _ _
      (List.forall_mem_singleton.mpr ⟨List.isChain_singleton _, rfl⟩)
    refine ⟨empty, restored, tour, tours, leads, toured.set, toured.frame, ?_⟩
    intro route member waits row
    have written : row = Route.along regex.automaton position slots route.before :=
      toured.row_eq route member waits
    rw [written]
    exact ⟨Route.size_along .., fun slot within => Route.getD_along _ _ within _⟩
  · intro queries anchor kind slotCount bound tracked cache result
    have ready : cache.Ready regex.automaton tracked :=
      Lockstep.Cache.Fits.ready_setup (fits_answers intact regex.fits_newCache queries)
        (Lockstep.tracked_le_of_intact intact bound)
    obtain ⟨rounds, loops, -, among, -⟩ := Lockstep.advance_ready intact haystack anchor kind ready
    exact ⟨rounds, loops, fun round member => (among round member).scratch⟩

/-- The closure of the start, from slots of which one is stored, in a table that an earlier closure
wrote to: the rows of the states that wait are written, and that of a state that it does not come to
stays. Then a search for a span on a cache that was used before. -/
theorem closures_leave_no_trace_lazyLoop :
    ofPattern .bodyKnownEmpty "(a|ab)*?b" .lazyLoop = .ok .lazyLoop ∧
      let automaton := lazyLoop.automaton
      let haystack : Array UInt8 := #[0x61, 0x62]
      let active := ((Active.setup (.ofAutomaton automaton) 3).close automaton haystack 0
        #[some 0, none, some 0] 5).2.clear
      let slots : Slots := #[none, some 7, none]
      let after := Closure.run automaton haystack 1 ⟨[.explore automaton.start], slots, active⟩
      active.set.Holds automaton.size [] ∧
      active.table.Sized automaton slots.size ∧
      automaton.start < automaton.size ∧
      after.slots = slots ∧
      after.active.set.toList = [0, 1, 9, 2, 6, 3, 4] ∧
      after.active.table.row 9 = #[some 1, some 7, none] ∧
      after.active.table.row 3 = #[some 1, some 7, some 1] ∧
      after.active.table.row 4 = #[some 1, some 7, some 1] ∧
      (automaton.state 5).waits ∧ active.table.rows.getD 5 #[] = #[some 0, none, some 0, none] ∧
      after.active.table.rows.getD 5 #[] = #[some 0, none, some 0, none] ∧
      2 ≤ automaton.slotCount ∧
      let queries : List Query := [.search [0x61, 0x62] ⟨.both, .leftmostLongest, .lockstep⟩]
      let cache := (lazyLoop.answers lazyLoop.newCache queries).2.lockstep.setup 2
      let result := Lockstep.advance automaton haystack .unanchored .leftmostFirst 0 false cache
      ∃ rounds, Loops (Lockstep.Course.turn? automaton haystack .unanchored .leftmostFirst)
            (.going ⟨0, false, cache⟩) rounds (.ended result.1 result.2) ∧
          ∀ round ∈ rounds, round.cache.next.table.row round.cache.next.table.scratch =
            #[none, none] := by
  have compiled := ofPattern_lazyLoop .bodyKnownEmpty
  have intact := Automaton.intact_of_ofPattern (automaton_eq compiled)
  have blank : (Active.setup (.ofAutomaton lazyLoop.automaton) 3).Ready lazyLoop.automaton 3 :=
    (Lockstep.Cache.Fits.ready_setup lazyLoop.fits_newCache (by decide)).current
  have inside : Closing.Inside ⟨#[some 0, none, some 0], 5⟩ lazyLoop.automaton 3 :=
    ⟨rfl, by decide⟩
  have ready := blank.close intact #[0x61, 0x62] 0 inside
  obtain ⟨members, holds⟩ := ready.set
  obtain ⟨closures, searches⟩ := closures_leave_no_trace compiled #[0x61, 0x62]
  obtain ⟨-, restored, tour, -, -, added, frame, -⟩ := closures 1 _ [] #[none, some 7, none]
    lazyLoop.automaton.start holds.clear ready.clear.sized.table (by decide)
  have states : tour.map Route.state = [0, 1, 9, 2, 6, 3, 4] :=
    added.toList_eq.symm.trans (by cbv)
  have left := frame 5 fun route member _ => by
    have among := List.mem_map_of_mem (f := Route.state) member
    rw [states] at among
    rintro same
    rw [same] at among
    exact absurd among (by decide)
  exact ⟨compiled, holds.clear, ready.clear.sized.table, by decide, restored, by cbv, by cbv,
    by cbv, by cbv, by decide, by cbv, left.trans (by cbv), by decide,
    searches _ .unanchored .leftmostFirst 2 (by decide)⟩

end Regex

end Crosscheck
