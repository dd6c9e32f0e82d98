/-
**Threads that advance together explore.**

At each position a search starts a thread if it may, closes it, and sweeps over the active states.
This is one round of the exploration of all starts, so after the last position the match that is
kept is that of the thread that leads in the whole exploration.

* `Lockstep.starts`: the threads that a search starts;
* `Lockstep.Progress`: how far a search has come, kept by `seed` and `sweepAll`;
* `Lockstep.advance_eq`: all positions from one on;
* `Lockstep.search_eq`: a whole search, whatever the cache was used for before.
-/
import Crosscheck.Proofs.Search.Sweep

namespace Crosscheck

open Thread (advanced? passed successors)

namespace Lockstep

/-! ### Starting threads -/

/-- The threads that a search starts from a position on, as long as there is no match. -/
def starts (automaton : Automaton) (anchor : Anchor) (tracked length position : Nat) :
    List Thread :=
  let positions := match anchor with
    | .unanchored => List.range' position (length + 1 - position)
    | .start | .both => if position = 0 then [0] else []
  positions.map (Thread.fresh automaton tracked)

/-- The threads that a search still starts from a position on, given the match so far. -/
def upcoming (automaton : Automaton) (anchor : Anchor) (tracked length : Nat)
    (best : Option Thread) (position : Nat) : List Thread :=
  if best.isSome then [] else starts automaton anchor tracked length position

section Starts

variable {automaton : Automaton} {haystack : Array UInt8} {anchor : Anchor}
  {tracked length position : Nat} {thread : Thread} {best : Option Thread}

/-- A search that starts a thread at the position starts the others behind it. -/
theorem starts_of_allowed (bound : position ≤ length)
    (allowed : anchor = .unanchored ∨ position = 0) :
    starts automaton anchor tracked length position =
      Thread.fresh automaton tracked position ::
        starts automaton anchor tracked length (position + 1) := by
  have count : length + 1 - position = length + 1 - (position + 1) + 1 := by omega
  cases anchor with
  | unanchored => rw [starts, starts, count, List.range'_succ, List.map_cons]
  | start | both =>
    obtain rfl : position = 0 := allowed.resolve_left nofun
    rfl

/-- A search that may not start a thread at the position starts none behind it. -/
theorem starts_of_not_allowed (automaton : Automaton) (tracked length : Nat)
    (forbidden : ¬(anchor = .unanchored ∨ position = 0)) :
    starts automaton anchor tracked length position = [] ∧
      starts automaton anchor tracked length (position + 1) = [] := by
  obtain ⟨anchored, later⟩ := not_or.mp forbidden
  cases anchor with
  | unanchored => exact absurd rfl anchored
  | start | both =>
    rw [starts, starts, if_neg later, if_neg (Nat.succ_ne_zero _)]
    exact ⟨rfl, rfl⟩

/-- No thread starts behind the haystack. -/
theorem starts_end : starts automaton anchor tracked length (length + 1) = [] := by
  cases anchor with
  | unanchored => rw [starts, Nat.sub_self]; rfl
  | start | both => rw [starts, if_neg (Nat.succ_ne_zero _)]; rfl

theorem mem_starts (member : thread ∈ starts automaton anchor tracked length position) :
    ∃ start, position ≤ start ∧ thread = Thread.fresh automaton tracked start := by
  obtain ⟨start, startIn, rfl⟩ := List.mem_map.mp member
  refine ⟨start, ?_, rfl⟩
  cases anchor with
  | unanchored => exact (List.mem_range'_1.mp startIn).1
  | start | both =>
    dsimp only at startIn
    by_cases zero : position = 0
    · omega
    · rw [if_neg zero] at startIn
      cases startIn

theorem mem_upcoming
    (member : thread ∈ upcoming automaton anchor tracked length best position) :
    ∃ start, position ≤ start ∧ thread = Thread.fresh automaton tracked start := by
  rw [upcoming] at member
  split at member
  · cases member
  · exact mem_starts member

/-- A thread that is started later is at a later position. -/
theorem lt_position_of_mem_upcoming
    (member : thread ∈ upcoming automaton anchor tracked length best (position + 1)) :
    position < thread.position := by
  obtain ⟨start, after, rfl⟩ := mem_upcoming member
  exact after

end Starts

/-! ### One position at a time -/

/-- A cache between two positions: the active states at the position, none yet at the next one, and
the slots of the best match. -/
structure Cache.Serves (cache : Cache) (automaton : Automaton) (tracked position : Nat)
    (layer : List Thread) (best : Option Thread) : Prop where
  current : cache.current.Holds automaton tracked position layer
  next : cache.next.Holds automaton tracked (position + 1) []
  found_eq : ∀ thread ∈ best, cache.found = thread.slots

section Positions

variable {automaton : Automaton} {haystack : Array UInt8} {anchor : Anchor} {kind : MatchKind}
  {tracked position : Nat} {cache : Cache} {roots layer found : List Thread} {best : Option Thread}

/-- **Starting a thread** adds its closure behind the active states. -/
theorem seed_serves (wellFormed : automaton.WellFormed) (haystack : Array UInt8)
    (serves : cache.Serves automaton tracked position layer best) :
    ∃ more, Explores (passed automaton haystack) (configurations layer)
        [Thread.fresh automaton tracked position] more ∧
      (seed automaton haystack position cache).Serves automaton tracked position (layer ++ more)
        best := by
  obtain ⟨current, ⟨set, table⟩, found⟩ := cache
  have blank : table.row table.scratch = Array.replicate tracked none := by
    rw [serves.next.fits.row_scratch, serves.next.tracked_eq]
  obtain ⟨more, after, closed, explores, holds⟩ := Active.close_explores wellFormed haystack
    serves.current wellFormed.start_lt
    (show (Array.replicate tracked (none : Option Nat)).size = tracked from Array.size_replicate)
  have result : seed automaton haystack position ⟨current, ⟨set, table⟩, found⟩ =
      ⟨after, ⟨set, table⟩, found⟩ := by
    simp only [seed, blank, closed]
    rw [← blank, SlotTable.write_row]
  rw [result]
  exact ⟨more, explores, holds, serves.next, serves.found_eq⟩

/-- The active states have the threads of the layer. -/
theorem seated_of_holds {active : Active}
    (holds : active.Holds automaton tracked position layer) :
    Seated automaton active.table position layer := fun thread member =>
  ⟨holds.set.below _ (List.mem_map_of_mem member), holds.position_eq thread member,
    holds.row_eq thread member⟩

/-- **A sweep over all active states** is a round, and the next layer is the closure of the threads
that survive. -/
theorem sweepAll_serves (wellFormed : automaton.WellFormed) (anchor : Anchor) (kind : MatchKind)
    (serves : cache.Serves automaton tracked position layer best)
    (lineup : kind = .leftmostLongest → 0 < tracked ∧ Lineup automaton position layer ∧
      ∀ leader ∈ best, leader.slots.getD 0 none = some leader.origin ∧
        leader.position < position) :
    let best' := lead automaton haystack anchor kind best layer
    let swept := sweepAll automaton haystack anchor kind position best.isSome cache
    ∃ more, Explores (passed automaton haystack) ∅
        ((survivors automaton haystack anchor kind best' layer).filterMap
          (advanced? automaton haystack)) more ∧
      swept.2.next.Holds automaton tracked (position + 1) more ∧
      swept.2.current = cache.current ∧
      (∀ thread ∈ best', swept.2.found = thread.slots) ∧
      (best.isSome || swept.1) = best'.isSome := by
  obtain ⟨⟨set, table⟩, next, kept⟩ := cache
  have sweeps : Sweep.Serves ⟨table, next, kept, false⟩ automaton tracked position best.isSome []
      best :=
    ⟨serves.current.fits, serves.current.tracked_eq, serves.next, serves.found_eq,
      Bool.or_false _⟩
  have seated := seated_of_holds serves.current
  have swept : ComesTo automaton haystack tracked position best.isSome ⟨table, next, kept, false⟩ []
      ((survivors automaton haystack anchor kind
        (lead automaton haystack anchor kind best layer) layer).filterMap
          (advanced? automaton haystack))
      (lead automaton haystack anchor kind best layer)
      (sweep automaton haystack anchor kind position best.isSome (layer.map Thread.state)
        ⟨table, next, kept, false⟩) := by
    cases kind with
    | leftmostFirst => exact sweep_first wellFormed sweeps seated
    | leftmostLongest =>
      obtain ⟨enough, lineup, leading⟩ := lineup rfl
      exact sweep_longest wellFormed enough sweeps seated lineup fun leader isBest =>
        ⟨(leading leader isBest).1, fun _ => (leading leader isBest).2, nofun⟩
  obtain ⟨more, explores, sweeps, sameTable⟩ := swept
  rw [configurations_nil] at explores
  have listed : set.toList = layer.map Thread.state := serves.current.set.toList_eq
  simp only [sweepAll, listed]
  exact ⟨more, explores, sweeps.next, congrArg _ sameTable, sweeps.found_eq, sweeps.matched_eq⟩

/-- A cache that a search can use, whatever it was used for before. -/
structure Cache.Fits (cache : Cache) (automaton : Automaton) : Prop where
  current_set : ∃ members, cache.current.set.Holds automaton.size members
  current_table : cache.current.table.Fits automaton
  next_set : ∃ members, cache.next.set.Holds automaton.size members
  next_table : cache.next.table.Fits automaton

theorem Cache.Serves.fits (serves : cache.Serves automaton tracked position layer best) :
    cache.Fits automaton :=
  ⟨⟨_, serves.current.set⟩, serves.current.fits, ⟨_, serves.next.set⟩, serves.next.fits⟩

/-- What a search knows at a position of a search for the longest match. -/
structure Orderly (automaton : Automaton) (tracked position : Nat) (roots : List Thread)
    (best : Option Thread) : Prop where
  enough : 0 < tracked
  lineup : Lineup automaton position roots
  leading : ∀ leader ∈ best, leader.slots.getD 0 none = some leader.origin ∧
    leader.position < position

/-- After a round the same is known at the next position. -/
theorem Orderly.next (wellFormed : automaton.WellFormed)
    (orderly : Orderly automaton tracked position roots best)
    (closes : Explores (passed automaton haystack) ∅ roots layer)
    (here : ∀ thread ∈ roots, thread.position = position) :
    let best' := lead automaton haystack anchor .leftmostLongest best layer
    Orderly automaton tracked (position + 1)
      ((survivors automaton haystack anchor .leftmostLongest best' layer).filterMap
        (advanced? automaton haystack)) best' := by
  have layered := orderly.lineup.closure wellFormed closes
  refine ⟨orderly.enough, (layered.filter _).advanced wellFormed, fun leader leads => ?_⟩
  rcases choose_cases Thread.chooses_farther leads with before | ⟨inLayer, final⟩
  · obtain ⟨stored, earlier⟩ := orderly.leading leader before
    exact ⟨stored, Nat.lt_succ_of_lt earlier⟩
  · refine ⟨stored_of_waits wellFormed (layered.tracked leader inLayer) (waits_of_ends final), ?_⟩
    rw [closes.position_of_passed here leader inLayer]
    exact Nat.lt_succ_self position

/-- No thread gets over a byte at the end of the haystack. -/
theorem filterMap_advanced_of_end {threads : List Thread} (beyond : haystack.size ≤ position)
    (here : ∀ thread ∈ threads, thread.position = position) :
    threads.filterMap (advanced? automaton haystack) = [] := by
  refine List.filterMap_eq_nil_iff.mpr fun thread member => ?_
  rw [Option.eq_none_iff_forall_ne_some]
  intro next advances
  have inside := (Thread.position_of_advanced advances).2
  rw [here thread member] at inside
  omega

/-- Only threads of the layer survive a round. -/
theorem mem_of_mem_survivors {thread : Thread}
    (member : thread ∈ survivors automaton haystack anchor kind best layer) : thread ∈ layer := by
  cases kind with
  | leftmostFirst => exact (List.takeWhile_sublist _).subset member
  | leftmostLongest => exact List.mem_of_mem_filter member

/-- How far a search has come: it is at a position, and the next thread that it may start is that of
a given position. What it has found already and what it explores from there on is all there is. -/
structure Progress (automaton : Automaton) (haystack : Array UInt8) (anchor : Anchor)
    (kind : MatchKind) (tracked position pending : Nat) (cache : Cache)
    (roots layer : List Thread) (best : Option Thread) (found : List Thread) : Prop where
  /-- The cache has the threads of the layer and the best match. -/
  serves : cache.Serves automaton tracked position layer best
  /-- The layer is the closure of the roots. -/
  closes : Explores (passed automaton haystack) ∅ roots layer
  /-- The roots are at the position. -/
  here : ∀ thread ∈ roots, thread.position = position
  /-- What a search for the longest match knows. -/
  orderly : kind = .leftmostLongest → Orderly automaton tracked position roots best
  /-- What is found from the roots and from the threads still to be started. -/
  explores : Explores (successors automaton haystack) ∅
    (roots ++ upcoming automaton anchor tracked haystack.size best pending) found

/-- Once the thread of the position was started, the layer is what is found at the position. -/
theorem Progress.layer_eq
    (progress : Progress automaton haystack anchor kind tracked position (position + 1) cache roots
      layer best found) :
    layer = atPosition position found := by
  have closes := (progress.explores.layer progress.here fun thread member =>
    lt_position_of_mem_upcoming member).1
  exact closes.deterministic progress.closes

/-- A thread that starts at the position stands behind those that started before. -/
theorem Lineup.fresh (lineup : Lineup automaton position roots) (enough : 0 < tracked) :
    Lineup automaton position (roots ++ [Thread.fresh automaton tracked position]) := by
  refine ⟨List.forall_mem_append.mpr ⟨lineup.tracked,
    List.forall_mem_singleton.mpr (Thread.tracked_fresh enough)⟩, List.forall_mem_append.mpr
    ⟨lineup.origin_le, List.forall_mem_singleton.mpr Thread.origin_fresh.le⟩, ?_⟩
  refine List.pairwise_append.mpr ⟨lineup.sorted, List.pairwise_singleton .., ?_⟩
  intro thread member other isFresh
  rw [List.mem_singleton.mp isFresh, Thread.origin_fresh]
  exact lineup.origin_le thread member

/-- **Starting the thread of the position**, or not, leaves only those of later positions to be
started. -/
theorem Progress.seeded (wellFormed : automaton.WellFormed) (bound : position ≤ haystack.size)
    (progress : Progress automaton haystack anchor kind tracked position position cache roots layer
      best found) :
    let seeded := if ¬best.isSome ∧ (¬anchor ≠ .unanchored ∨ position = 0) then
      seed automaton haystack position cache else cache
    ∃ roots' layer', Progress automaton haystack anchor kind tracked position (position + 1) seeded
      roots' layer' best found := by
  intro seeded
  obtain ⟨serves, closes, here, orderly, explores⟩ := progress
  by_cases matched : best.isSome
  · have skipped : seeded = cache := if_neg fun both => both.1 matched
    rw [upcoming, if_pos matched] at explores
    rw [skipped]
    exact ⟨roots, layer, serves, closes, here, orderly, by rwa [upcoming, if_pos matched]⟩
  rw [upcoming, if_neg matched] at explores
  by_cases allowed : anchor = .unanchored ∨ position = 0
  · have started : seeded = seed automaton haystack position cache :=
      if_pos ⟨matched, allowed.imp_left not_not.mpr⟩
    obtain ⟨more, closes', holds⟩ := seed_serves wellFormed haystack serves
    rw [starts_of_allowed bound allowed] at explores
    rw [started]
    refine ⟨roots ++ [Thread.fresh automaton tracked position], layer ++ more, holds,
      closes.append (by rwa [Set.empty_union]), ?_, fun longest => ?_, ?_⟩
    · exact List.forall_mem_append.mpr ⟨here, List.forall_mem_singleton.mpr rfl⟩
    · obtain ⟨enough, lineup, leading⟩ := orderly longest
      exact ⟨enough, Lineup.fresh lineup enough, leading⟩
    · rwa [upcoming, if_neg matched, List.append_assoc]
  · have skipped : seeded = cache :=
      if_neg fun both => allowed (both.2.imp_left not_not.mp)
    obtain ⟨now, after⟩ := starts_of_not_allowed automaton tracked haystack.size allowed
    rw [now] at explores
    rw [skipped]
    exact ⟨roots, layer, serves, closes, here, orderly, by rwa [upcoming, if_neg matched, after]⟩

/-- **Sweeping over the active states** takes a search to the next position, and the thread that
leads in the end stays the same. -/
theorem Progress.swept (wellFormed : automaton.WellFormed) (bound : position ≤ haystack.size)
    (progress : Progress automaton haystack anchor kind tracked position (position + 1) cache roots
      layer best found) :
    let swept := sweepAll automaton haystack anchor kind position best.isSome cache
    ∃ roots' layer' best' found',
      Progress automaton haystack anchor kind tracked (position + 1) (position + 1)
        ⟨swept.2.next, swept.2.current.clear, swept.2.found⟩ roots' layer' best' found' ∧
      (best.isSome || swept.1) = best'.isSome ∧
      lead automaton haystack anchor kind best found =
        lead automaton haystack anchor kind best' found' ∧
      (haystack.size ≤ position → found' = []) ∧ swept.2.Fits automaton := by
  obtain rfl := progress.layer_eq
  obtain ⟨serves, closes, here, orderly, explores⟩ := progress
  have lineup : kind = .leftmostLongest → Lineup automaton position roots ∧
      ∀ thread ∈ upcoming automaton anchor tracked haystack.size best (position + 1),
        thread.Tracked automaton ∧ position < thread.origin := by
    refine fun longest => ⟨(orderly longest).lineup, fun thread member => ?_⟩
    obtain ⟨start, after, rfl⟩ := mem_upcoming member
    exact ⟨Thread.tracked_fresh (orderly longest).enough, by rwa [Thread.origin_fresh]⟩
  obtain ⟨found', explores', leads⟩ := round wellFormed anchor kind explores here
    (fun thread member => lt_position_of_mem_upcoming member) (fun matched => if_pos matched) lineup
  obtain ⟨more, closes', next, current, kept, ended⟩ := sweepAll_serves wellFormed anchor kind
    serves fun longest => ⟨(orderly longest).enough,
      (orderly longest).lineup.closure wellFormed closes, (orderly longest).leading⟩
  have survive : ∀ thread ∈ survivors automaton haystack anchor kind
      (lead automaton haystack anchor kind best (atPosition position found))
      (atPosition position found), thread.position = position :=
    fun thread member => (mem_atPosition.mp (mem_of_mem_survivors member)).2
  -- With a match none is started any more; and a match that there was before there still is.
  have pending : (if (lead automaton haystack anchor kind best (atPosition position found)).isSome
        then [] else upcoming automaton anchor tracked haystack.size best (position + 1)) =
      upcoming automaton anchor tracked haystack.size
        (lead automaton haystack anchor kind best (atPosition position found))
        (position + 1) := by
    rw [upcoming, upcoming]
    split
    · rfl
    · next unmatched => rw [if_neg fun matched => unmatched (by rw [← ended, matched]; rfl)]
  rw [pending] at explores'
  refine ⟨_, more, _, found', ⟨⟨next, ?_, kept⟩, closes', ?_, ?_, explores'⟩, ended, leads,
    fun beyond => ?_, ?_⟩
  · rw [current]
    exact serves.current.clear _
  · intro thread member
    obtain ⟨source, survives, advances⟩ := List.mem_filterMap.mp member
    rw [(Thread.position_of_advanced advances).1, survive source survives]
  · rintro rfl
    exact (orderly rfl).next wellFormed closes here
  · obtain rfl : position = haystack.size := Nat.le_antisymm bound beyond
    rw [filterMap_advanced_of_end beyond survive, upcoming, starts_end, ite_self] at explores'
    exact (Explores.done _).deterministic explores'
  · exact ⟨current ▸ ⟨_, serves.current.set⟩, current ▸ serves.current.fits, ⟨_, next.set⟩,
      next.fits⟩

/-- When no state is active and no thread will be started, nothing more is found. -/
theorem Progress.finished
    (progress : Progress automaton haystack anchor kind tracked position position cache roots layer
      best found)
    (idle : cache.current.set.isEmpty ∧ (best.isSome ∨ (anchor ≠ .unanchored ∧ 0 < position))) :
    found = [] := by
  obtain ⟨serves, closes, -, -, explores⟩ := progress
  obtain ⟨empty, beyond⟩ := idle
  obtain rfl : layer = [] := List.map_eq_nil_iff.mp (serves.current.set.isEmpty_iff.mp empty)
  obtain rfl := closes.eq_nil_of_empty
  have nothing : upcoming automaton anchor tracked haystack.size best position = [] := by
    rw [upcoming]
    rcases beyond with matched | ⟨anchored, later⟩
    · exact if_pos matched
    · rw [(starts_of_not_allowed _ _ _ (not_or.mpr ⟨anchored, by omega⟩)).1, ite_self]
  rw [nothing] at explores
  exact (Explores.done _).deterministic explores

/-- **A search from a position on** reports the thread that leads in the exploration of the threads
that it has and of those that it will still start. -/
theorem advance_eq (wellFormed : automaton.WellFormed) (bound : position ≤ haystack.size)
    (progress : Progress automaton haystack anchor kind tracked position position cache roots layer
      best found) :
    let result := advance automaton haystack anchor kind position best.isSome cache
    let leader := lead automaton haystack anchor kind best found
    result.1 = leader.isSome ∧ (∀ thread ∈ leader, result.2.found = thread.slots) ∧
      result.2.Fits automaton := by
  induction left : haystack.size - position using Nat.strong_induction_on
    generalizing position cache roots layer found best with
  | _ left hypothesis =>
    rw [advance]
    dsimp only
    split
    · next idle =>
      obtain rfl := progress.finished idle
      rw [lead_nil]
      exact ⟨rfl, progress.serves.found_eq, progress.serves.fits⟩
    · obtain ⟨roots', layer', seeded⟩ := progress.seeded wellFormed bound
      obtain ⟨_, _, best', found', swept, ended, leads, last, fits⟩ := seeded.swept wellFormed bound
      rw [leads, ended]
      split
      · next beyond =>
        obtain rfl := last beyond
        rw [lead_nil]
        exact ⟨rfl, swept.serves.found_eq, fits⟩
      · next within =>
        exact hypothesis (haystack.size - (position + 1)) (by omega) (by omega) swept rfl

end Positions

/-! ### Whole searches -/

section Searches

variable {automaton : Automaton} {haystack : Array UInt8} {anchor : Anchor} {kind : MatchKind}
  {slotCount : Nat}

/-- A search tracks slots that there are. -/
theorem tracked_le (wellFormed : automaton.WellFormed) (bound : slotCount ≤ automaton.slotCount) :
    tracked kind slotCount ≤ automaton.slotCount := by
  cases kind with
  | leftmostFirst => exact bound
  | leftmostLongest => exact Nat.max_le.mpr ⟨bound, wellFormed.slots_le⟩

/-- A new cache fits its automaton. -/
theorem Cache.fits_ofAutomaton (automaton : Automaton) : (ofAutomaton automaton).Fits automaton :=
  ⟨⟨_, SparseSet.holds_withCapacity _⟩, SlotTable.fits_withSize _,
    ⟨_, SparseSet.holds_withCapacity _⟩, SlotTable.fits_withSize _⟩

/-- Any cache that fits can be prepared for a search. -/
theorem Cache.Fits.setup {cache : Cache} (fits : cache.Fits automaton) {tracked : Nat}
    (bound : tracked ≤ automaton.slotCount) :
    (cache.setup tracked).Serves automaton tracked 0 [] none := by
  obtain ⟨⟨_, current⟩, currentTable, ⟨_, next⟩, nextTable⟩ := fits
  have nothing : ∀ {property : Thread → Prop}, ∀ thread ∈ ([] : List Thread), property thread :=
    fun _ member => (List.not_mem_nil member).elim
  exact ⟨⟨current.clear, currentTable.setup bound, rfl, nothing, nothing⟩,
    ⟨next.clear, nextTable.setup bound, rfl, nothing, nothing⟩, nofun⟩

/-- **A search that lets all threads advance together reports the thread that leads in the
exploration of all starts**, whatever its cache was used for before. -/
theorem search_eq (wellFormed : automaton.WellFormed) {cache : Cache}
    (fits : cache.Fits automaton) (bound : slotCount ≤ automaton.slotCount) {found : List Thread}
    (explores : Explores (successors automaton haystack) ∅
      (starts automaton anchor (tracked kind slotCount) haystack.size 0) found) :
    let result := search automaton cache haystack anchor kind slotCount
    result.1 = (lead automaton haystack anchor kind none found).map
        (·.slots.extract 0 slotCount) ∧
      result.2.Fits automaton := by
  have orderly : kind = .leftmostLongest →
      Orderly automaton (tracked kind slotCount) 0 [] none := by
    rintro rfl
    refine ⟨Nat.lt_of_lt_of_le Nat.two_pos (Nat.le_max_right _ _), ⟨?_, ?_, .nil⟩, nofun⟩
    · exact fun _ member => (List.not_mem_nil member).elim
    · exact fun _ member => (List.not_mem_nil member).elim
  have progress : Progress automaton haystack anchor kind (tracked kind slotCount) 0 0
      (cache.setup (tracked kind slotCount)) [] [] none found :=
    ⟨fits.setup (tracked_le wellFormed bound), .done _,
      fun _ member => (List.not_mem_nil member).elim, orderly, explores⟩
  obtain ⟨matched, kept, fits⟩ := advance_eq wellFormed (Nat.zero_le _) progress
  simp only [Option.isSome_none] at matched kept fits
  simp only [search, matched]
  refine ⟨?_, fits⟩
  cases leads : lead automaton haystack anchor kind none found with
  | none => rfl
  | some leader =>
    rw [kept leader leads]
    rfl

end Searches

end Lockstep

end Crosscheck
