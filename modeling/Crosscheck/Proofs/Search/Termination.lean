/-
**Searches come to an end.**

A loop in an automaton that consumes nothing does not keep a search in a loop. Backtracking passes
a configuration once from each start, and comes to nothing new where it has been before. In lockstep
the closures at a position add a state once, and the search goes to the next position after that.

* `Trail.passes_once`: backtracking from one start passes each configuration once;
* `Active.Closes`: closures that are worked off one after the other, with the states they add;
* `Lockstep.adds_once`: no state is added twice at one position;
* `Regex.searches_end`: both searches with a compiled pattern come to an end.
-/
import Crosscheck.Proofs.Search.Scratch

namespace Crosscheck

variable {automaton : Automaton} {haystack : Array UInt8} {anchor : Anchor} {kind : MatchKind}
  {tracked slotCount : Nat}

/-! ### Backtracking -/

namespace Trail

/-- A turn does one job. -/
theorem turn?_cases {trail after : Trail} {event : Option Place}
    (turn : turn? automaton haystack anchor kind trail = some (event, after)) :
    ∃ job rest, trail.jobs = job :: rest ∧ event = passes { trail with jobs := rest } job ∧
      after = step automaton haystack anchor { trail with jobs := rest } job := by
  rw [turn?] at turn
  split at turn
  · cases turn
  · split at turn
    · cases turn
    · next job rest jobs =>
      cases turn
      exact ⟨job, rest, jobs, rfl, rfl⟩

/-- Without another turn all jobs are done, or the first match was found. -/
theorem turn?_eq_none {trail : Trail}
    (none : turn? automaton haystack anchor kind trail = none) :
    trail.jobs = [] ∨ kind = .leftmostFirst ∧ trail.best.isSome := by
  rw [turn?] at none
  split at none
  · next found => exact .inr found
  · split at none
    · next jobs => exact .inl jobs
    · cases none

/-- **From one start a configuration is passed once**, and only one of the automaton and the
haystack. -/
theorem passes_once (intact : automaton.Intact) {trail after : Trail} {passed : List (Option Place)}
    (loops : Loops (turn? automaton haystack anchor kind) trail passed after)
    (inside : trail.Inside automaton haystack.size slotCount) {seen : Set Place}
    (shown : trail.visited.Shows automaton.size (haystack.size + 1) seen) :
    passed.reduceOption.Nodup ∧
      ∀ place ∈ passed.reduceOption, place ∈ automaton.places haystack ∧ place ∉ seen := by
  -- Along the turns, the bitmap shows what was seen before and what has been passed since.
  induction loops generalizing seen with
  | done => exact ⟨List.nodup_nil, fun _ none => (List.not_mem_nil none).elim⟩
  | @more trail _ _ _ _ turn _ hypothesis =>
    obtain ⟨job, rest, jobs, rfl, rfl⟩ := turn?_cases turn
    obtain ⟨first, left⟩ := inside.pop jobs
    have stepped : Trail.Inside (step automaton haystack anchor { trail with jobs := rest } job)
        automaton haystack.size slotCount := left.step intact first
    cases job with
    | restore slot old =>
      rw [passes, List.reduceOption_cons_of_none]
      exact hypothesis stepped shown
    | visit state position =>
      obtain ⟨inStates, inPositions⟩ := first
      rw [passes]
      dsimp only
      by_cases old : (state, position) ∈ seen
      · have marked := shown.mark_old inStates (Nat.lt_succ_of_le inPositions) old
        rw [step_old { trail with jobs := rest } marked] at hypothesis stepped
        rw [marked, if_neg Bool.false_ne_true, List.reduceOption_cons_of_none]
        exact hypothesis stepped shown
      · obtain ⟨after, marked, shown⟩ :=
          shown.mark_new inStates (Nat.lt_succ_of_le inPositions) old
        rw [step_new { trail with jobs := rest } marked] at hypothesis stepped
        rw [marked, if_pos rfl, List.reduceOption_cons_of_some]
        obtain ⟨once, others⟩ := hypothesis stepped (by rwa [visited_pass])
        refine ⟨List.nodup_cons.mpr ⟨fun again => (others _ again).2 (Set.mem_insert _ _), once⟩,
          List.forall_mem_cons.mpr ⟨⟨⟨inStates, inPositions⟩, old⟩, fun place member => ?_⟩⟩
        exact ⟨(others place member).1,
          fun seen => (others place member).2 (Set.mem_insert_of_mem _ seen)⟩

end Trail

namespace Backtracking

/-- The cache with which a search comes to a start, if it comes to it. -/
def reached (automaton : Automaton) (haystack : Array UInt8) (anchor : Anchor) (kind : MatchKind)
    (cache : Cache) : Nat → Cache
  | 0 => cache
  | start + 1 =>
    (searchAt automaton (reached automaton haystack anchor kind cache start) haystack anchor kind
      start).2

theorem reached_inside (intact : automaton.Intact) {cache : Cache}
    (inside : cache.Inside automaton haystack.size slotCount) {start : Nat}
    (bound : start ≤ haystack.size) :
    (reached automaton haystack anchor kind cache start).Inside automaton haystack.size
      slotCount := by
  induction start with
  | zero => exact inside
  | succ start hypothesis =>
    have before : start ≤ haystack.size := Nat.le_of_succ_le bound
    exact (searchAt?_eq intact anchor kind (hypothesis before) before).2

end Backtracking

/-! ### Closures -/

namespace Closure

/-- A turn takes one step. -/
theorem turn?_cases {closure after : Closure} {position : Nat} {event : Option Nat}
    (turn : turn? automaton haystack position closure = some (event, after)) :
    ∃ pending rest, closure.stack = pending :: rest ∧
      event = adds { closure with stack := rest } pending ∧
      after = step automaton haystack position { closure with stack := rest } pending := by
  rw [turn?] at turn
  split at turn
  · cases turn
  · next pending rest stack =>
    cases turn
    exact ⟨pending, rest, stack, rfl, rfl⟩

/-- Without another turn nothing is left to do. -/
theorem turn?_eq_none {closure : Closure} {position : Nat}
    (none : turn? automaton haystack position closure = none) : closure.stack = [] := by
  rw [turn?] at none
  split at none
  · next empty => exact empty
  · cases none

/-- **A closure adds the states that it comes to first**, one after the other. -/
theorem adds_once (intact : automaton.Intact) {closure after : Closure} {position : Nat}
    {added : List (Option Nat)}
    (loops : Loops (turn? automaton haystack position) closure added after)
    (inside : closure.Inside automaton tracked) {members : List Nat}
    (holds : closure.active.set.Holds automaton.size members) :
    after.active.set.Holds automaton.size (members ++ added.reduceOption) := by
  induction loops generalizing members with
  | done => rwa [List.reduceOption_nil, List.append_nil]
  | @more closure _ _ _ _ turn _ hypothesis =>
    obtain ⟨pending, rest, stack, rfl, rfl⟩ := turn?_cases turn
    obtain ⟨first, left⟩ := inside.pop stack
    have stepped : Inside (step automaton haystack position { closure with stack := rest }
        pending) automaton tracked := left.step intact first
    cases pending with
    | restore slot old =>
      rw [adds, List.reduceOption_cons_of_none]
      exact hypothesis stepped holds
    | explore state =>
      rw [adds]
      dsimp only
      by_cases old : state ∈ members
      · have present := holds.insert_old old
        rw [step_old { closure with stack := rest } present] at hypothesis stepped
        rw [present, List.reduceOption_cons_of_none]
        exact hypothesis stepped holds
      · obtain ⟨after, added, inserted⟩ := holds.insert_new first old
        rw [step_new { closure with stack := rest } added] at hypothesis stepped
        rw [added, List.reduceOption_cons_of_some, List.append_cons]
        exact hypothesis stepped (by rwa [active_pass])

end Closure

namespace Active

/-- **Closures that are worked off one after the other**, each until nothing is left to do, with the
states that they add. -/
inductive Closes (automaton : Automaton) (haystack : Array UInt8) (position : Nat) :
    Active → List Closing → List Nat → Active → Prop where
  /-- No closure is left. -/
  | done (active : Active) : Closes automaton haystack position active [] [] active
  /-- One more closure is worked off. -/
  | more {active last : Active} {closing : Closing} {added : List (Option Nat)} {after : Closure}
    {closings : List Closing} {others : List Nat} :
    Loops (Closure.turn? automaton haystack position)
        ⟨[.explore closing.state], closing.slots, active⟩ added after → after.stack = [] →
      Closes automaton haystack position after.active closings others last →
        Closes automaton haystack position active (closing :: closings)
          (added.reduceOption ++ others) last

/-- **Adding closures** works them off, and adds states that were not active before. -/
theorem Ready.closes (intact : automaton.Intact) (haystack : Array UInt8) (position : Nat)
    {active : Active} (ready : active.Ready automaton tracked) {members : List Nat}
    (holds : active.set.Holds automaton.size members) {closings : List Closing}
    (inside : ∀ closing ∈ closings, closing.Inside automaton tracked) :
    ∃ added, Closes automaton haystack position active closings added
        (active.closeAll automaton haystack position closings) ∧
      (active.closeAll automaton haystack position closings).set.Holds automaton.size
        (members ++ added) := by
  induction closings generalizing active members with
  | nil => exact ⟨[], .done _, by rwa [List.append_nil]⟩
  | cons closing closings hypothesis =>
    obtain ⟨first, later⟩ := List.forall_mem_cons.mp inside
    obtain ⟨added, loops⟩ := Closure.run_loops automaton haystack position
      ⟨[.explore closing.state], closing.slots, active⟩
    have joined := Closure.adds_once intact loops
      ⟨List.forall_mem_singleton.mpr first.state_lt, first.size_slots, ready.sized⟩ holds
    obtain ⟨others, closes, joined⟩ := hypothesis (ready.close intact haystack position first)
      joined later
    rw [List.append_assoc] at joined
    exact ⟨_, .more loops (Closure.turn?_eq_none loops.stops) closes, joined⟩

end Active

/-! ### Positions -/

namespace Lockstep

/-- The states that are added at a position and at the next one while a search is at the former, by
closures that are worked off one after the other. -/
def Round.Adds (automaton : Automaton) (haystack : Array UInt8) (anchor : Anchor)
    (kind : MatchKind) (round : Round) (places : List Place) : Prop :=
  let swept := (round.swept automaton haystack anchor kind).2
  ∃ here ahead,
    Active.Closes automaton haystack round.position round.cache.current
      (round.seeds automaton anchor) here swept.current ∧
    Active.Closes automaton haystack (round.position + 1) round.cache.next
      (round.follows automaton haystack anchor kind) ahead swept.next ∧
    places = here.map (·, round.position) ++ ahead.map (·, round.position + 1)

/-- **What is added at a position** are states that were not active there before, and what is added
at the next one are states that were not active there. -/
theorem Round.exists_adds (intact : automaton.Intact) (haystack : Array UInt8) (anchor : Anchor)
    (kind : MatchKind) {round : Round} (ready : round.cache.Ready automaton tracked)
    {members waiting : List Nat} (holds : round.cache.current.set.Holds automaton.size members)
    (holdsNext : round.cache.next.set.Holds automaton.size waiting) :
    let swept := (round.swept automaton haystack anchor kind).2
    ∃ here ahead, round.Adds automaton haystack anchor kind
        (here.map (·, round.position) ++ ahead.map (·, round.position + 1)) ∧
      swept.current.set.Holds automaton.size (members ++ here) ∧
      swept.next.set.Holds automaton.size (waiting ++ ahead) := by
  intro swept
  have seeds : ∀ closing ∈ round.seeds automaton anchor, closing.Inside automaton tracked :=
    Round.seeds_inside intact ready
  have follows : ∀ closing ∈ round.follows automaton haystack anchor kind,
      closing.Inside automaton tracked := Round.follows_inside intact ready
  obtain ⟨here, closes, current⟩ := ready.current.closes intact haystack _ holds seeds
  obtain ⟨ahead, closesNext, next⟩ := ready.next.closes intact haystack _ holdsNext follows
  obtain ⟨same, sameNext⟩ := round.swept_frame automaton haystack anchor kind
  rw [← same] at closes current
  rw [← sameNext] at closesNext next
  exact ⟨here, ahead, ⟨here, ahead, closes, closesNext, rfl⟩, current, next⟩

/-- Different states at one position are different configurations. -/
theorem nodup_at {states : List Nat} (nodup : states.Nodup) (position : Nat) :
    (states.map (·, position)).Nodup :=
  nodup.map fun _ _ same => (Prod.mk.inj same).1

/-- States at a position and configurations at later ones are different configurations. -/
theorem nodup_append_later {states : List Nat} (nodup : states.Nodup) {position : Nat}
    {later : List Place} (nodup' : later.Nodup) (behind : ∀ place ∈ later, position < place.2) :
    (states.map (·, position) ++ later).Nodup := by
  refine List.nodup_append.mpr ⟨nodup_at nodup position, nodup', ?_⟩
  rintro place member _ inLater rfl
  obtain ⟨state, -, rfl⟩ := List.mem_map.mp member
  exact Nat.lt_irrefl _ (behind _ inLater)

/-- **No state is added twice at one position**, nor is one added that was active before. -/
theorem adds_once (intact : automaton.Intact) {round : Round} {rounds : List Round} {last : Course}
    (loops : Loops (Course.turn? automaton haystack anchor kind) (.going round) rounds last)
    (ready : round.cache.Ready automaton tracked) {members : List Nat}
    (holds : round.cache.current.set.Holds automaton.size members)
    (empty : round.cache.next.set.Holds automaton.size []) :
    ∃ places, List.Forall₂ (Round.Adds automaton haystack anchor kind) rounds places ∧
      (members.map (·, round.position) ++ places.flatten).Nodup ∧
      ∀ place ∈ places.flatten, place.1 < automaton.size ∧ round.position ≤ place.2 := by
  generalize same : Course.going round = course at loops
  induction loops generalizing round members with
  | done none =>
    subst same
    rw [Course.turn?] at none
    split at none <;> cases none
  | @more _ after _ _ rounds turn loops hypothesis =>
    obtain ⟨going, ending⟩ := Course.turn?_cases _ _ _ _ turn
    obtain rfl := Course.going.inj (same.trans going)
    obtain ⟨here, ahead, adds, current, next⟩ :=
      round.exists_adds intact haystack anchor kind ready holds empty
    rw [List.nil_append] at next
    -- What was added ahead is active at the next position, so it is not added there again.
    obtain ⟨later, others, nodup, behind⟩ : ∃ later,
        List.Forall₂ (Round.Adds automaton haystack anchor kind) rounds later ∧
        (ahead.map (·, round.position + 1) ++ later.flatten).Nodup ∧
        ∀ place ∈ later.flatten, place.1 < automaton.size ∧ round.position + 1 ≤ place.2 := by
      rcases ending with ⟨matched, cache, rfl, -⟩ | ⟨matched, rfl⟩
      · cases loops with
        | done => exact ⟨[], .nil, by simpa using nodup_at next.nodup _, by simp⟩
        | more turn => cases turn
      · have swept := Round.swept_ready intact haystack anchor kind ready
        exact hypothesis ⟨swept.next, swept.current.clear⟩ next current.clear rfl
    refine ⟨_ :: later, .cons adds others, ?_, ?_⟩
    · rw [List.flatten_cons, List.append_assoc, ← List.append_assoc, ← List.map_append]
      refine nodup_append_later current.nodup nodup (List.forall_mem_append.mpr ⟨?_, ?_⟩)
      · exact List.forall_mem_map.mpr fun _ _ => Nat.lt_succ_self _
      · exact fun place member => (behind place member).2
    · rw [List.flatten_cons]
      refine List.forall_mem_append.mpr ⟨List.forall_mem_append.mpr ⟨?_, ?_⟩, ?_⟩
      · exact List.forall_mem_map.mpr fun state member =>
          ⟨current.below state (List.mem_append_right _ member), Nat.le_refl _⟩
      · exact List.forall_mem_map.mpr fun state member =>
          ⟨next.below state member, Nat.le_succ _⟩
      · exact fun place member =>
          ⟨(behind place member).1, Nat.le_of_succ_le (behind place member).2⟩

end Lockstep

namespace Regex

variable {regex : Regex}

/-- **Both searches with a compiled pattern come to an end**, whatever loops its automaton has.
From each start, backtracking does one job after the other until none is left or the first match was
found, and passes each configuration at most once. In lockstep a search comes to no more positions
than there are; each closure that it starts there is worked off until nothing is left to do, and no
state is added twice at one position. -/
theorem searches_end {rule : LoopRule} {text : String} {pattern : Pattern}
    (compiled : ofPattern rule text pattern = .ok regex) (haystack : Array UInt8) (anchor : Anchor)
    (kind : MatchKind) :
    (∀ (cache : Backtracking.Cache) (slotCount : Nat), ∀ start ≤ haystack.size,
      let reached := Backtracking.reached regex.automaton haystack anchor kind
        (cache.setup regex.automaton haystack.size slotCount) start
      let trail := reached.setOut regex.automaton start
      let after := Trail.run regex.automaton haystack anchor kind trail
      ∃ passed, Loops (Trail.turn? regex.automaton haystack anchor kind) trail passed after ∧
        (after.jobs = [] ∨ kind = .leftmostFirst ∧ after.best.isSome) ∧
        passed.reduceOption.Nodup ∧
        ∀ place ∈ passed.reduceOption, place ∈ regex.automaton.places haystack) ∧
    ∀ (queries : List Query), ∀ slotCount ≤ regex.automaton.slotCount,
      let cache := (regex.answers regex.newCache queries).2.lockstep.setup
        (Lockstep.tracked kind slotCount)
      let result := Lockstep.advance regex.automaton haystack anchor kind 0 false cache
      ∃ rounds places, Loops (Lockstep.Course.turn? regex.automaton haystack anchor kind)
          (.going ⟨0, false, cache⟩) rounds (.ended result.1 result.2) ∧
        rounds.length ≤ haystack.size + 1 ∧
        List.Forall₂ (Lockstep.Round.Adds regex.automaton haystack anchor kind) rounds places ∧
        places.flatten.Nodup ∧ ∀ place ∈ places.flatten, place.1 < regex.automaton.size := by
  have intact := Automaton.intact_of_ofPattern (automaton_eq compiled)
  refine ⟨?_, ?_⟩
  · intro cache slotCount start bound reached trail after
    have inside : reached.Inside regex.automaton haystack.size slotCount :=
      Backtracking.reached_inside intact cache.inside_setup bound
    obtain ⟨passed, loops⟩ := Trail.run_loops regex.automaton haystack anchor kind trail
    have shown : trail.visited.Shows regex.automaton.size (haystack.size + 1) ∅ :=
      Bitmap.Shows.clear inside.stride_eq inside.room
    obtain ⟨once, places⟩ := Trail.passes_once intact loops (inside.setOut intact bound) shown
    exact ⟨passed, loops, Trail.turn?_eq_none loops.stops, once,
      fun place member => (places place member).1⟩
  · intro queries slotCount bound cache result
    have fits := fits_answers intact regex.fits_newCache queries
    have ready : cache.Ready regex.automaton (Lockstep.tracked kind slotCount) :=
      Lockstep.Cache.Fits.ready_setup fits (Lockstep.tracked_le_of_intact intact bound)
    obtain ⟨⟨_, current⟩, -, ⟨_, next⟩, -⟩ := fits
    obtain ⟨rounds, loops, count, -⟩ := Lockstep.advance_ready intact haystack anchor kind ready
    obtain ⟨places, adds, once, inside⟩ :=
      Lockstep.adds_once intact loops ready current.clear next.clear
    exact ⟨rounds, places, loops, count, adds, once, fun place member => (inside place member).1⟩

/-- The regex `(?:a*)+`, a loop whose body may match nothing. -/
def emptyLoop : Regex :=
  ⟨"(?:a*)+", #[.capture 1 0, .splits [2, 3] false, .byte 1 0x61, .splits [1, 4] false,
    .capture 5 1, .accept], 0, 1⟩

/-- Two states that lead to each other without a byte do not keep a search from its end. -/
theorem searches_end_emptyLoop :
    ofPattern .bodyKnownEmpty "(?:a*)+"
        (.repetition 1 none true (.repetition 0 none true (.literal [0x61]))) = .ok emptyLoop ∧
      3 ∈ (emptyLoop.automaton.state 1).ways #[0x61] 0 ∧
      1 ∈ (emptyLoop.automaton.state 3).ways #[0x61] 0 ∧
      (∃ passed after, Loops (Trail.turn? emptyLoop.automaton #[0x61] .unanchored .leftmostLongest)
          ((Backtracking.Cache.empty.setup emptyLoop.automaton 1 0).setOut emptyLoop.automaton 0)
          passed after ∧ after.jobs = [] ∧ passed.reduceOption.Nodup) ∧
      ∃ rounds course, Loops
          (Lockstep.Course.turn? emptyLoop.automaton #[0x61] .unanchored .leftmostLongest)
          (.going ⟨0, false, emptyLoop.newCache.lockstep.setup 2⟩) rounds course ∧
        rounds.length ≤ 2 := by
  have compiled : ofPattern .bodyKnownEmpty "(?:a*)+"
      (.repetition 1 none true (.repetition 0 none true (.literal [0x61]))) = .ok emptyLoop := by
    rfl
  obtain ⟨backtracking, lockstep⟩ := searches_end compiled #[0x61] .unanchored .leftmostLongest
  obtain ⟨passed, loops, ended, once, -⟩ := backtracking .empty 0 0 (Nat.zero_le _)
  obtain ⟨rounds, -, goes, count, -⟩ := lockstep [] 0 (Nat.zero_le _)
  exact ⟨compiled, by decide, by decide, ⟨passed, _, loops, ended.resolve_right nofun, once⟩,
    rounds, _, goes, count⟩

end Regex

end Crosscheck
