/-
**A sweep is a round.**

The active states at a position are the layer of an exploration. A sweep over them follows the
threads that survive the round, in order, and their closures are the layer at the next position. The
match that the sweep keeps is that of the thread that leads after the round.

* `Sweep.Serves`: the threads and the match that a sweep stands for;
* `Lockstep.ComesTo`, `Lockstep.follow_serves`: what a sweep comes to, and following one thread;
* `Lockstep.sweep_first`, `Lockstep.sweep_longest`: whole sweeps.
-/
import Crosscheck.Proofs.Search.Closure
import Crosscheck.Proofs.Search.Rounds
import Crosscheck.Search.Lockstep

namespace Crosscheck

open Thread (advanced? passed successors)

namespace Lockstep

/-- A sweep has followed threads to the next position, and knows the best match so far. -/
structure Sweep.Serves (sweep : Sweep) (automaton : Automaton) (tracked position : Nat)
    (matchedBefore : Bool) (ahead : List Thread) (best : Option Thread) : Prop where
  fits : sweep.table.Fits automaton
  tracked_eq : sweep.table.tracked = tracked
  next : sweep.next.Holds automaton tracked (position + 1) ahead
  found_eq : ∀ thread ∈ best, sweep.found = thread.slots
  matched_eq : (matchedBefore || sweep.matched) = best.isSome

/-- A table has the threads at a position: those that wait have their slots in the rows of their
states. -/
def Seated (automaton : Automaton) (table : SlotTable) (position : Nat) (threads : List Thread) :
    Prop :=
  ∀ thread ∈ threads, thread.state < automaton.size ∧ thread.position = position ∧
    ((automaton.state thread.state).waits → table.row thread.state = thread.slots)

section Sweeps

variable {automaton : Automaton} {haystack : Array UInt8} {anchor : Anchor} {kind : MatchKind}
  {tracked position : Nat} {before : Bool} {sweeping : Sweep} {ahead layer : List Thread}
  {best : Option Thread} {thread next : Thread} {rest : List Nat}

theorem waits_of_advanced (advances : advanced? automaton haystack thread = some next) :
    (automaton.state thread.state).waits := by
  obtain ⟨target, transition, -⟩ := Option.map_eq_some_iff.mp advances
  obtain ⟨byte, -, transition⟩ := Option.bind_eq_some_iff.mp transition
  generalize automaton.state thread.state = state at transition ⊢
  cases state <;> first | rfl | cases transition

theorem waits_of_ends (final : thread.ends automaton haystack anchor = true) :
    (automaton.state thread.state).waits := by
  rw [Thread.accept_of_ends final]
  rfl

/-- A thread that waits for a byte or ends a match has stored where it started. -/
theorem stored_of_waits (wellFormed : automaton.WellFormed) (tracks : thread.Tracked automaton)
    (waits : (automaton.state thread.state).waits) :
    thread.slots.getD 0 none = some thread.origin := by
  refine tracks.getD_zero fun starts => ?_
  obtain ⟨target, stores⟩ := wellFormed.start_stores
  rw [starts, stores] at waits
  cases waits

/-! ### One active state at a time -/

/-- Whether a sweep leaves out an active state because its thread started after the match. -/
def Skips (kind : MatchKind) (before : Bool) (sweeping : Sweep) (state : Nat) : Prop :=
  kind = .leftmostLongest ∧ (before ∨ sweeping.matched) ∧
    startsAfter (sweeping.table.start state) (sweeping.found.getD 0 none)

theorem sweep_skips {state : Nat} (skips : Skips kind before sweeping state) :
    sweep automaton haystack anchor kind position before (state :: rest) sweeping =
      sweep automaton haystack anchor kind position before rest sweeping := by
  rw [Skips] at skips
  rw [sweep.eq_def]
  exact if_pos skips

/-- A thread that neither ends a match nor gets over the byte goes no further. -/
theorem sweep_stays (here : thread.position = position)
    (going : ¬thread.ends automaton haystack anchor = true)
    (stays : advanced? automaton haystack thread = none) :
    sweep automaton haystack anchor kind position before (thread.state :: rest) sweeping =
      sweep automaton haystack anchor kind position before rest sweeping := by
  subst here
  rw [sweep.eq_def]
  dsimp only
  split
  · rfl
  · split
    · next accepts =>
      rw [if_pos]
      simpa [Thread.ends, accepts] using going
    · rw [Option.map_eq_none_iff.mp stays]

/-- A thread that gets over the byte is followed. -/
theorem sweep_advances (here : thread.position = position)
    (stays : ¬Skips kind before sweeping thread.state)
    (advances : advanced? automaton haystack thread = some next) :
    sweep automaton haystack anchor kind position before (thread.state :: rest) sweeping =
      sweep automaton haystack anchor kind position before rest
        (follow automaton haystack position sweeping thread.state next.state) := by
  subst here
  obtain ⟨target, transition, rfl⟩ := Option.map_eq_some_iff.mp advances
  rw [Skips] at stays
  rw [sweep.eq_def]
  dsimp only
  rw [if_neg stays]
  split
  · next accepts =>
    rw [accepts] at transition
    cases present : haystack[thread.position]? with
    | none => rw [present] at transition; cases transition
    | some byte => rw [present] at transition; cases transition
  · rw [transition]

/-- Where a match may end, none is turned down. -/
theorem not_barred_of_ends (final : thread.ends automaton haystack anchor = true) :
    ¬(anchor = .both ∧ thread.position < haystack.size) := by
  simp only [Thread.ends, decide_eq_true_eq] at final
  rintro ⟨both, before⟩
  exact Nat.not_lt.mpr (final.2 both) before

/-- The first match ends a sweep for the first match. -/
theorem sweep_ends_first (here : thread.position = position)
    (final : thread.ends automaton haystack anchor = true) :
    sweep automaton haystack anchor .leftmostFirst position before (thread.state :: rest) sweeping =
      { sweeping with found := sweeping.table.row thread.state, matched := true } := by
  subst here
  rw [sweep, if_neg (by simp), Thread.accept_of_ends final]
  exact if_neg (not_barred_of_ends final)

/-- A sweep for the longest match takes the first match that ends at the position. -/
theorem sweep_ends_longest (here : thread.position = position)
    (final : thread.ends automaton haystack anchor = true)
    (stays : ¬Skips .leftmostLongest before sweeping thread.state) :
    sweep automaton haystack anchor .leftmostLongest position before (thread.state :: rest)
        sweeping =
      sweep automaton haystack anchor .leftmostLongest position before rest
        (if sweeping.matched then sweeping
          else { sweeping with found := sweeping.table.row thread.state, matched := true }) := by
  subst here
  rw [Skips] at stays
  rw [sweep, if_neg stays, Thread.accept_of_ends final]
  simp only [if_neg (not_barred_of_ends final)]
  cases sweeping.matched <;> rfl

/-- **Following a thread** adds its closure at the next position. -/
theorem follow_serves (wellFormed : automaton.WellFormed)
    (serves : sweeping.Serves automaton tracked position before ahead best)
    (seated : Seated automaton sweeping.table position [thread])
    (advances : advanced? automaton haystack thread = some next) :
    let followed := follow automaton haystack position sweeping thread.state next.state
    ∃ more, Explores (passed automaton haystack) (configurations ahead) [next] more ∧
      followed.Serves automaton tracked position before (ahead ++ more) best ∧
      followed.table = sweeping.table ∧ followed.matched = sweeping.matched := by
  obtain ⟨inside, here, seat⟩ := seated thread (List.mem_singleton_self _)
  have row := seat (waits_of_advanced advances)
  obtain ⟨there, -, target, kept⟩ := Thread.advanced_cases advances
  have size : (sweeping.table.row thread.state).size = tracked :=
    (serves.fits.size_row_tracked inside.le).trans serves.tracked_eq
  obtain ⟨more, after, closed, explores, holds⟩ := Active.close_explores wellFormed
    haystack serves.next (wellFormed.target_lt _ _ target) size
  have same : (⟨next.state, position + 1, sweeping.table.row thread.state⟩ : Thread) = next := by
    rw [row, ← kept, ← here, ← there]
  have result : follow automaton haystack position sweeping thread.state next.state =
      ⟨sweeping.table, after, sweeping.found, sweeping.matched⟩ := by
    simp only [follow, closed, SlotTable.write_row]
  rw [same] at explores
  rw [result]
  exact ⟨more, explores, ⟨serves.fits, serves.tracked_eq, holds, serves.found_eq,
    serves.matched_eq⟩, rfl, rfl⟩

/-! ### Sweeps are rounds -/

/-- A sweep comes to a round: from the threads that go on it has explored further threads at the
next position, behind those ahead, and it serves all of them with the best match. -/
def ComesTo (automaton : Automaton) (haystack : Array UInt8) (tracked position : Nat)
    (before : Bool) (sweeping : Sweep) (ahead going : List Thread) (best : Option Thread)
    (swept : Sweep) : Prop :=
  ∃ more, Explores (passed automaton haystack) (configurations ahead) going more ∧
    swept.Serves automaton tracked position before (ahead ++ more) best ∧
    swept.table = sweeping.table

theorem ComesTo.done (serves : sweeping.Serves automaton tracked position before ahead best) :
    ComesTo automaton haystack tracked position before sweeping ahead [] best sweeping :=
  ⟨[], .done _, by rwa [List.append_nil], rfl⟩

/-- A sweep that follows a thread first comes to a round from it and from the others. -/
theorem ComesTo.followed {going : List Thread} {best' : Option Thread} {swept : Sweep}
    (wellFormed : automaton.WellFormed)
    (serves : sweeping.Serves automaton tracked position before ahead best)
    (seated : Seated automaton sweeping.table position [thread])
    (advances : advanced? automaton haystack thread = some next)
    (others : ∀ {followed : Sweep} {ahead' : List Thread},
      followed = follow automaton haystack position sweeping thread.state next.state →
      followed.Serves automaton tracked position before ahead' best →
      followed.table = sweeping.table → followed.matched = sweeping.matched →
      ComesTo automaton haystack tracked position before followed ahead' going best' swept) :
    ComesTo automaton haystack tracked position before sweeping ahead (next :: going) best'
      swept := by
  obtain ⟨more, explores, serves, sameTable, sameMatched⟩ :=
    follow_serves wellFormed serves seated advances
  obtain ⟨others, further, serves, sameTable'⟩ := others rfl serves sameTable sameMatched
  rw [configurations_append] at further
  exact ⟨more ++ others, explores.append further, by rwa [← List.append_assoc],
    sameTable'.trans sameTable⟩

/-- **A sweep for the first match is a round.** -/
theorem sweep_first (wellFormed : automaton.WellFormed)
    (serves : sweeping.Serves automaton tracked position before ahead best)
    (seated : Seated automaton sweeping.table position layer) :
    let best' := lead automaton haystack anchor .leftmostFirst best layer
    ComesTo automaton haystack tracked position before sweeping ahead
      ((survivors automaton haystack anchor .leftmostFirst best' layer).filterMap
        (advanced? automaton haystack)) best'
      (sweep automaton haystack anchor .leftmostFirst position before (layer.map Thread.state)
        sweeping) := by
  induction layer generalizing sweeping ahead with
  | nil => exact .done serves
  | cons thread rest hypothesis =>
    obtain ⟨⟨-, here, seat⟩, rests⟩ := List.forall_mem_cons.mp seated
    rw [List.map_cons]
    by_cases final : thread.ends automaton haystack anchor = true
    · rw [sweep_ends_first here final]
      dsimp only [lead, survivors]
      rw [List.find?_cons_of_pos final, List.takeWhile_cons_of_neg (by simpa using final),
        Option.some_or]
      refine ⟨[], .done _, ⟨serves.fits, serves.tracked_eq, ?_, ?_, ?_⟩, rfl⟩
      · rw [List.append_nil]
        exact serves.next
      · rintro _ ⟨⟩
        exact seat (waits_of_ends final)
      · exact Bool.or_true _
    · have never : ¬Skips .leftmostFirst before sweeping thread.state :=
        fun skips => nomatch skips.1
      dsimp only [lead, survivors] at hypothesis ⊢
      rw [List.find?_cons_of_neg final, List.takeWhile_cons_of_pos (by simpa using final)]
      cases advances : advanced? automaton haystack thread with
      | none =>
        rw [sweep_stays here final advances, List.filterMap_cons_none advances]
        exact hypothesis serves rests
      | some next =>
        rw [sweep_advances here never advances, List.filterMap_cons_some advances]
        refine .followed wellFormed serves
          (List.forall_mem_singleton.mpr (seated thread List.mem_cons_self)) advances ?_
        rintro _ ahead' rfl serves sameTable -
        exact hypothesis serves (sameTable ▸ rests)

/-- What a sweep for the longest match needs to know of the best match so far: where it started is
stored, and it ended before the position, or else at the position and no thread that is left started
before it. -/
structure Leading (position : Nat) (matched : Bool) (rest : List Thread) (leader : Thread) :
    Prop where
  /-- Where the match started is stored. -/
  stored : leader.slots.getD 0 none = some leader.origin
  /-- A match before the position. -/
  earlier : matched = false → leader.position < position
  /-- A match at the position. -/
  now : matched = true → leader.position = position ∧ ∀ thread ∈ rest, leader.origin ≤ thread.origin

theorem Leading.tail {matched : Bool} {others : List Thread} {leader : Thread}
    (leading : Leading position matched (thread :: others) leader) :
    Leading position matched others leader :=
  ⟨leading.stored, leading.earlier, fun matched => ⟨(leading.now matched).1,
    fun thread member => (leading.now matched).2 thread (List.mem_cons_of_mem _ member)⟩⟩

/-- A sweep leaves out exactly the threads that started after the leading one. -/
theorem skips_iff (serves : sweeping.Serves automaton tracked position before ahead best)
    (enough : 0 < tracked) (inside : thread.state < automaton.size)
    (row : sweeping.table.row thread.state = thread.slots)
    (stored : thread.slots.getD 0 none = some thread.origin)
    (leading : ∀ leader ∈ best, leader.slots.getD 0 none = some leader.origin) :
    Skips .leftmostLongest before sweeping thread.state ↔
      ∃ leader, best = some leader ∧ leader.origin < thread.origin := by
  have first : sweeping.table.start thread.state = some thread.origin := by
    rw [serves.fits.start_eq inside.le (serves.tracked_eq.symm ▸ enough), row, stored]
  have matched := serves.matched_eq
  rw [Skips, first, ← Bool.or_eq_true, matched]
  cases best with
  | none => simp
  | some leader =>
    rw [serves.found_eq leader rfl, leading leader rfl]
    simp [startsAfter]

/-- The thread that leads after the rest of a round started no earlier than a thread before it that
was not left out. -/
theorem origin_le_lead {others : List Thread} {leader : Thread}
    (sorted : ∀ other ∈ others, thread.origin ≤ other.origin)
    (stays : ¬∃ leader, best = some leader ∧ leader.origin < thread.origin)
    (leads : lead automaton haystack anchor .leftmostLongest best others = some leader) :
    thread.origin ≤ leader.origin := by
  rcases choose_cases Thread.chooses_farther leads with before | ⟨member, -⟩
  · exact Nat.le_of_not_lt fun less => stays ⟨leader, before, less⟩
  · exact sorted leader member

/-- A thread that goes nowhere may be left out of those that survive. -/
theorem filterMap_survivors_of_stays (stays : advanced? automaton haystack thread = none)
    (others : List Thread) :
    (survivors automaton haystack anchor .leftmostLongest best (thread :: others)).filterMap
        (advanced? automaton haystack) =
      (survivors automaton haystack anchor .leftmostLongest best others).filterMap
        (advanced? automaton haystack) := by
  rw [survivors, survivors, List.filter_cons]
  split
  · rw [List.filterMap_cons_none stays]
  · rfl

theorem survivors_cons_of_le (survives : best.all fun leader => thread.origin ≤ leader.origin)
    (others : List Thread) :
    survivors automaton haystack anchor .leftmostLongest best (thread :: others) =
      thread :: survivors automaton haystack anchor .leftmostLongest best others := by
  rw [survivors, survivors, List.filter_cons, if_pos survives]

/-- A thread that started after the leading one neither comes to lead nor survives. -/
theorem round_cons_of_lt {leader : Thread} (after : leader.origin < thread.origin)
    (automaton : Automaton) (haystack : Array UInt8) (anchor : Anchor) (others : List Thread) :
    let best' := lead automaton haystack anchor .leftmostLongest (some leader) others
    lead automaton haystack anchor .leftmostLongest (some leader) (thread :: others) = best' ∧
      survivors automaton haystack anchor .leftmostLongest best' (thread :: others) =
        survivors automaton haystack anchor .leftmostLongest best' others := by
  intro best'
  constructor
  · by_cases final : thread.ends automaton haystack anchor = true
    · rw [lead, choose_cons_of_ends final, Thread.farther_some, if_neg (by omega)]
      rfl
    · rw [lead, choose_cons_of_not_ends final]
      rfl
  · obtain ⟨chosen, leads⟩ := Option.isSome_iff_exists.mp
      ((isSome_choose Thread.chooses_farther automaton haystack anchor (some leader) others).mpr
        (.inl rfl))
    have least := origin_le_of_choose_farther leads
    rw [show best' = some chosen from leads, survivors, survivors, List.filter_cons_of_neg]
    simp only [Option.all_some, decide_eq_true_eq]
    omega

/-- A match that ends at the position leads if none did that ends there, and starts no earlier than
the one that does otherwise. So the sweep goes on to serve the match that leads. -/
theorem serves_of_ends {others : List Thread}
    (serves : sweeping.Serves automaton tracked position before ahead best)
    (here : thread.position = position) (row : sweeping.table.row thread.state = thread.slots)
    (stored : thread.slots.getD 0 none = some thread.origin)
    (least : ∀ other ∈ others, thread.origin ≤ other.origin)
    (stays : ¬∃ leader, best = some leader ∧ leader.origin < thread.origin)
    (leading : ∀ leader ∈ best, Leading position sweeping.matched (thread :: others) leader) :
    let taken := if sweeping.matched then sweeping
      else { sweeping with found := sweeping.table.row thread.state, matched := true }
    taken.table = sweeping.table ∧
      taken.Serves automaton tracked position before ahead (Thread.farther best thread) ∧
      ∀ leader ∈ Thread.farther best thread, Leading position taken.matched others leader := by
  cases ended : sweeping.matched with
  | true =>
    -- A match that ended here already was found first.
    obtain ⟨leader, rfl⟩ : ∃ leader, best = some leader := by
      rw [← Option.isSome_iff_exists, ← serves.matched_eq, ended, Bool.or_true]
    obtain ⟨same, first⟩ := (leading leader rfl).now ended
    have notBefore := first thread List.mem_cons_self
    have kept : Thread.farther (some leader) thread = some leader := by
      rw [Thread.farther_some, if_neg (by omega)]
    rw [kept, if_pos rfl]
    exact ⟨rfl, serves, fun leader isBest => (leading leader isBest).tail⟩
  | false =>
    have taken : Thread.farther best thread = some thread := by
      cases best with
      | none => rfl
      | some leader =>
        have notAfter : thread.origin ≤ leader.origin :=
          Nat.le_of_not_lt fun less => stays ⟨leader, rfl, less⟩
        have earlier := (leading leader rfl).earlier ended
        rw [Thread.farther_some, if_pos (by omega)]
    rw [taken, if_neg Bool.false_ne_true]
    refine ⟨rfl, ⟨serves.fits, serves.tracked_eq, serves.next, ?_, Bool.or_true _⟩, ?_⟩
    · rintro _ ⟨⟩
      exact row
    · rintro _ ⟨⟩
      exact ⟨stored, nofun, fun _ => ⟨here, least⟩⟩

/-- A thread that neither ends a match nor gets over the byte has no part in a round. -/
theorem round_cons_of_stays (going : ¬thread.ends automaton haystack anchor = true)
    (stays : advanced? automaton haystack thread = none) (others : List Thread) :
    let best' := lead automaton haystack anchor .leftmostLongest best others
    lead automaton haystack anchor .leftmostLongest best (thread :: others) = best' ∧
      (survivors automaton haystack anchor .leftmostLongest best' (thread :: others)).filterMap
          (advanced? automaton haystack) =
        (survivors automaton haystack anchor .leftmostLongest best' others).filterMap
          (advanced? automaton haystack) :=
  ⟨choose_cons_of_not_ends going, filterMap_survivors_of_stays stays others⟩

/-- A thread that gets over the byte survives the round, unless it started after the match. -/
theorem round_cons_of_advances {others : List Thread}
    (least : ∀ other ∈ others, thread.origin ≤ other.origin)
    (stays : ¬∃ leader, best = some leader ∧ leader.origin < thread.origin)
    (going : ¬thread.ends automaton haystack anchor = true)
    (advances : advanced? automaton haystack thread = some next) :
    let best' := lead automaton haystack anchor .leftmostLongest best others
    lead automaton haystack anchor .leftmostLongest best (thread :: others) = best' ∧
      (survivors automaton haystack anchor .leftmostLongest best' (thread :: others)).filterMap
          (advanced? automaton haystack) =
        next :: (survivors automaton haystack anchor .leftmostLongest best' others).filterMap
          (advanced? automaton haystack) := by
  intro best'
  refine ⟨choose_cons_of_not_ends going, ?_⟩
  have survives : best'.all fun leader => thread.origin ≤ leader.origin := by
    cases leads : best' with
    | none => rfl
    | some leader => simpa using origin_le_lead least stays leads
  rw [survivors_cons_of_le survives, List.filterMap_cons_some advances]

/-- **A sweep for the longest match is a round.** -/
theorem sweep_longest (wellFormed : automaton.WellFormed) (enough : 0 < tracked)
    (serves : sweeping.Serves automaton tracked position before ahead best)
    (seated : Seated automaton sweeping.table position layer)
    (lineup : Lineup automaton position layer)
    (leading : ∀ leader ∈ best, Leading position sweeping.matched layer leader) :
    let best' := lead automaton haystack anchor .leftmostLongest best layer
    ComesTo automaton haystack tracked position before sweeping ahead
      ((survivors automaton haystack anchor .leftmostLongest best' layer).filterMap
        (advanced? automaton haystack)) best'
      (sweep automaton haystack anchor .leftmostLongest position before (layer.map Thread.state)
        sweeping) := by
  induction layer generalizing sweeping ahead best with
  | nil => exact .done serves
  | cons thread rest hypothesis =>
    obtain ⟨⟨inside, here, seat⟩, rests⟩ := List.forall_mem_cons.mp seated
    obtain ⟨least, sorted⟩ := List.pairwise_cons.mp lineup.sorted
    have lineup' : Lineup automaton position rest :=
      ⟨fun other member => lineup.tracked other (List.mem_cons_of_mem _ member),
        fun other member => lineup.origin_le other (List.mem_cons_of_mem _ member), sorted⟩
    have leading' : ∀ leader ∈ best, Leading position sweeping.matched rest leader :=
      fun leader isBest => (leading leader isBest).tail
    rw [List.map_cons]
    dsimp only at hypothesis ⊢
    by_cases waits : (automaton.state thread.state).waits
    · have stored := stored_of_waits wellFormed (lineup.tracked thread List.mem_cons_self) waits
      have skipsIff := skips_iff serves enough inside (seat waits) stored fun leader isBest =>
        (leading leader isBest).stored
      by_cases skips : Skips .leftmostLongest before sweeping thread.state
      · obtain ⟨leader, rfl, after⟩ := skipsIff.mp skips
        obtain ⟨sameLead, sameSurvivors⟩ := round_cons_of_lt after automaton haystack anchor rest
        rw [sameLead, sameSurvivors, sweep_skips skips]
        exact hypothesis serves rests lineup' leading'
      have stays := mt skipsIff.mpr skips
      by_cases final : thread.ends automaton haystack anchor = true
      · have leads : lead automaton haystack anchor .leftmostLongest best (thread :: rest) =
            lead automaton haystack anchor .leftmostLongest (Thread.farther best thread) rest :=
          choose_cons_of_ends final
        obtain ⟨sameTable, serves, leading⟩ :=
          serves_of_ends serves here (seat waits) stored least stays leading
        rw [leads, sweep_ends_longest here final skips,
          filterMap_survivors_of_stays (Thread.advanced_of_ends final)]
        obtain ⟨more, explores, serves, sameTable'⟩ :=
          hypothesis serves (sameTable.symm ▸ rests) lineup' leading
        exact ⟨more, explores, serves, sameTable'.trans sameTable⟩
      cases advances : advanced? automaton haystack thread with
      | none =>
        obtain ⟨sameLead, sameGoing⟩ := round_cons_of_stays final advances rest
        rw [sameLead, sameGoing, sweep_stays here final advances]
        exact hypothesis serves rests lineup' leading'
      | some next =>
        obtain ⟨sameLead, sameGoing⟩ := round_cons_of_advances least stays final advances
        rw [sameLead, sameGoing, sweep_advances here skips advances]
        refine .followed wellFormed serves
          (List.forall_mem_singleton.mpr (seated thread List.mem_cons_self)) advances ?_
        rintro _ ahead' rfl serves sameTable sameMatched
        exact hypothesis serves (sameTable ▸ rests) lineup' (sameMatched ▸ leading')
    · have going : ¬thread.ends automaton haystack anchor = true :=
        fun final => waits (waits_of_ends final)
      have nowhere : advanced? automaton haystack thread = none := by
        rw [Option.eq_none_iff_forall_ne_some]
        exact fun next advances => waits (waits_of_advanced advances)
      obtain ⟨sameLead, sameGoing⟩ := round_cons_of_stays going nowhere rest
      rw [sameLead, sameGoing, sweep_stays here going nowhere]
      exact hypothesis serves rests lineup' leading'

end Sweeps

end Lockstep

end Crosscheck
