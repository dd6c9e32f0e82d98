/-
**Both strategies report the same match.**

A search by backtracking explores from one start after the other and forgets in between what it has
seen. A search that lets all threads advance together explores from all starts and forgets nothing.
As long as there is no match, what was seen leads to none, so forgetting it changes nothing; and
once there is a match, the starts behind it do not count.

* `Explores.confined`: what was seen is never left;
* `lead_starts`: the thread that leads in the exploration of all starts is the one chosen at the
  first start that has a match;
* `Thread.shortened`: tracking more slots than asked for changes nothing.
-/
import Crosscheck.Proofs.Search.Lockstep

namespace Crosscheck

open Thread (successors)

section Seen

variable {automaton : Automaton} {haystack : Array UInt8} {anchor : Anchor} {kind : MatchKind}
  {seen : Set Place} {roots found : List Thread}

/-- **What was seen is never left**, once everything was explored. -/
theorem Explores.confined (explores : Explores (successors automaton haystack) seen roots found)
    (confined : Confined (successors automaton haystack) seen) :
    Confined (successors automaton haystack) (seen ∪ configurations found) := by
  have closed := explores.closed (Thread.followers automaton haystack)
    Thread.map_configuration_successors fun place inside next follows => by
      obtain ⟨thread, member, rfl⟩ := List.mem_map.mp follows
      exact .inl (confined ⟨place.1, place.2, #[]⟩ inside thread member)
  intro thread inside next follows
  refine closed _ inside _ ?_
  rw [← Thread.map_configuration_successors]
  exact List.mem_map_of_mem follows

/-- Threads that end no match may be left out. -/
theorem choose_filter {better : Option Thread → Thread → Option Thread} {best : Option Thread}
    {keep : Thread → Bool}
    (kept : ∀ thread ∈ found, thread.ends automaton haystack anchor = true → keep thread = true) :
    choose automaton haystack anchor better best (found.filter keep) =
      choose automaton haystack anchor better best found := by
  rw [choose, choose, List.filter_filter]
  refine congrArg _ (List.filter_congr fun thread member => ?_)
  cases final : thread.ends automaton haystack anchor with
  | true => rw [Bool.true_and, kept thread member final]
  | false => rw [Bool.false_and]

/-- Among threads from one start, the one that came farthest is the one that came last. -/
theorem choose_farther_of_origin {start : Nat} (together : ∀ thread ∈ found, thread.origin = start)
    (best : Option Thread) (bests : ∀ thread ∈ best, thread.origin = start) :
    choose automaton haystack anchor Thread.farther best found =
      choose automaton haystack anchor MatchKind.leftmostLongest.better best found := by
  induction found generalizing best with
  | nil => rfl
  | cons thread rest hypothesis =>
    obtain ⟨head, together⟩ := List.forall_mem_cons.mp together
    by_cases final : thread.ends automaton haystack anchor = true
    · have same : Thread.farther best thread = MatchKind.leftmostLongest.better best thread := by
        cases best with
        | none => rfl
        | some best =>
          have origin := bests best rfl
          rw [Thread.farther_some, MatchKind.better]
          simp [head, origin]
      rw [choose_cons_of_ends final, choose_cons_of_ends final, same]
      refine hypothesis together _ fun other isBetter => ?_
      rcases MatchKind.leftmostLongest.chooses.either isBetter with before | rfl
      · exact bests other before
      · exact head
    · rw [choose_cons_of_not_ends final, choose_cons_of_not_ends final]
      exact hypothesis together best bests

end Seen

/-! ### One start after the other -/

section Starts

variable {automaton : Automaton} {haystack : Array UInt8} {anchor : Anchor} {kind : MatchKind}
  {width : Nat} {seen : Set Place} {found early late : List Thread} {start : Nat}

/-- Threads that are found from starts are tracked and keep where they started. -/
theorem origins_of_fresh (wellFormed : automaton.WellFormed) (enough : 0 < width)
    (positions : List Nat)
    (explores : Explores (successors automaton haystack) seen
      (positions.map (Thread.fresh automaton width)) found) :
    ∀ thread ∈ found, ∃ position ∈ positions, thread.origin = position := by
  have origins := explores.exists_root Thread.origin
    (Thread.Tracked automaton) (fun thread member => by
      obtain ⟨position, -, rfl⟩ := List.mem_map.mp member
      exact Thread.tracked_fresh enough)
    fun thread tracked next follows => tracked.step wellFormed follows
  intro thread member
  obtain ⟨-, root, rootIn, same⟩ := origins thread member
  obtain ⟨position, positionIn, rfl⟩ := List.mem_map.mp rootIn
  exact ⟨position, positionIn, same.trans Thread.origin_fresh⟩

/-- When the first start has a match, the others do not count. -/
theorem lead_of_some (start : Nat) {chosen : Thread}
    (together : kind = .leftmostLongest → ∀ thread ∈ early, thread.origin = start)
    (after : kind = .leftmostLongest → ∀ thread ∈ late, start < thread.origin)
    (chooses : choose automaton haystack anchor kind.better none early = some chosen) :
    lead automaton haystack anchor kind none (early ++ late) = some chosen := by
  cases kind with
  | leftmostFirst =>
    rw [choose_first, Option.none_or] at chooses
    rw [lead, List.find?_append, chooses]
    rfl
  | leftmostLongest =>
    have member := (choose_cases (MatchKind.chooses _) chooses).resolve_left (by simp)
    rw [← choose_farther_of_origin (together rfl) none (by simp)] at chooses
    rw [lead, choose_append, chooses]
    refine choose_farther_of_lt fun thread isLate => ?_
    rw [together rfl chosen member.1]
    exact after rfl thread isLate

/-- When the first start has no match, the others are all that counts. -/
theorem lead_of_none
    (none : choose automaton haystack anchor kind.better none early = none) :
    lead automaton haystack anchor kind Option.none (early ++ late) =
      lead automaton haystack anchor kind Option.none late := by
  have going : early.filter (Thread.ends automaton haystack anchor) = [] := by
    refine List.filter_eq_nil_iff.mpr fun thread member final => ?_
    have some := (isSome_choose kind.chooses automaton haystack anchor Option.none early).mpr
      (.inr ⟨thread, member, final⟩)
    rw [none] at some
    cases some
  cases kind with
  | leftmostFirst =>
    rw [lead, lead, List.find?_append, List.find?_eq_none.mpr (List.filter_eq_nil_iff.mp going)]
    rfl
  | leftmostLongest =>
    rw [lead, lead, choose, List.filter_append, going]
    rfl

open Classical in
/-- **The thread that leads in the exploration of all starts** is the one chosen at the first start
that has a match. -/
theorem lead_starts (wellFormed : automaton.WellFormed) (anchor : Anchor) (kind : MatchKind)
    (enough : kind = .leftmostLongest → 0 < width) {positions : List Nat}
    (sorted : positions.Pairwise (· < ·))
    (inside : ∀ position ∈ positions, position ≤ haystack.size)
    {attempt : Nat → List Thread}
    (attempts : ∀ position ≤ haystack.size,
      Backtracking.Attempt automaton haystack width position (attempt position))
    (confined : Explores.Confined (successors automaton haystack) seen)
    (dull : ∀ thread : Thread, thread.configuration ∈ seen →
      ¬thread.ends automaton haystack anchor = true)
    (explores : Explores (successors automaton haystack) seen
      (positions.map (Thread.fresh automaton width)) found) :
    lead automaton haystack anchor kind none found = positions.findSome? fun position =>
      choose automaton haystack anchor kind.better none (attempt position) := by
  induction positions generalizing seen found with
  | nil =>
    obtain rfl := explores.deterministic (.done _)
    rw [lead_nil, List.findSome?_nil]
  | cons start rest hypothesis =>
    obtain ⟨least, sorted⟩ := List.pairwise_cons.mp sorted
    obtain ⟨startIn, inside⟩ := List.forall_mem_cons.mp inside
    obtain ⟨early, late, rfl, first, others⟩ :=
      Explores.append_of_append [Thread.fresh automaton width start] explores
    -- What was seen before is left out here, and leads to no match.
    have alone := (attempts start startIn).avoiding confined
    rw [Set.empty_union] at alone
    obtain rfl := first.deterministic alone
    have same : choose automaton haystack anchor kind.better none
          ((attempt start).filter (·.configuration ∉ seen)) =
        choose automaton haystack anchor kind.better none (attempt start) :=
      choose_filter fun thread _ final => by simpa using fun old => dull thread old final
    rw [List.findSome?_cons, ← same]
    cases chooses : choose automaton haystack anchor kind.better none
        ((attempt start).filter (·.configuration ∉ seen)) with
    | some chosen =>
      refine lead_of_some start (fun longest thread member => ?_)
        (fun longest thread member => ?_) chooses
      · obtain ⟨position, positionIn, origin⟩ :=
          origins_of_fresh wellFormed (enough longest) [start] first thread member
        rw [origin, List.mem_singleton.mp positionIn]
      · obtain ⟨position, positionIn, origin⟩ :=
          origins_of_fresh wellFormed (enough longest) rest others thread member
        rw [origin]
        exact least position positionIn
    | none =>
      rw [lead_of_none chooses]
      refine hypothesis sorted inside (first.confined confined) ?_ others
      rintro thread (old | new) final
      · exact dull thread old final
      · obtain ⟨other, member, same⟩ := mem_configurations.mp new
        have some := (isSome_choose kind.chooses automaton haystack anchor none _).mpr
          (.inr ⟨other, member, (Thread.ends_eq_of_configuration same).trans final⟩)
        rw [chooses] at some
        cases some

end Starts

/-! ### Tracking more slots than asked for -/

namespace Thread

/-- The thread with its first slots only. -/
def shortened (count : Nat) (thread : Thread) : Thread :=
  { thread with slots := thread.slots.extract 0 count }

variable {automaton : Automaton} {haystack : Array UInt8} {anchor : Anchor}

/-- Storing in a slot goes along with dropping the last ones. -/
theorem extract_setIfInBounds (slots : Slots) (count slot : Nat) (position : Option Nat) :
    (slots.setIfInBounds slot position).extract 0 count =
      Array.setIfInBounds (slots.extract 0 count) slot position := by
  refine Array.ext_getElem? fun index => ?_
  rw [Array.getElem?_extract, Array.getElem?_setIfInBounds, Array.getElem?_setIfInBounds,
    Array.getElem?_extract, Array.size_setIfInBounds, Array.size_extract]
  split_ifs <;> first | rfl | omega

/-- A thread goes on in the same way with its first slots only. -/
theorem successors_shortened (count : Nat) (thread : Thread) :
    successors automaton haystack (thread.shortened count) =
      (successors automaton haystack thread).map (shortened count) := by
  have aside : passed automaton haystack (thread.shortened count) =
      (passed automaton haystack thread).map (shortened count) := by
    simp only [passed, shortened]
    cases automaton.state thread.state with
    | goto target look =>
      cases look with
      | none => rfl
      | some look =>
        dsimp only
        rw [apply_ite (List.map _)]
        rfl
    | splits targets reverse =>
      dsimp only
      rw [List.map_map]
      rfl
    | capture target slot =>
      dsimp only
      rw [List.map_singleton, ← extract_setIfInBounds]
      rfl
    | byte | ranges | fail | accept => rfl
  have ahead : advanced? automaton haystack (thread.shortened count) =
      (advanced? automaton haystack thread).map (shortened count) := by
    rw [advanced?, advanced?, Option.map_map]
    rfl
  rw [successors, successors, aside, ahead, List.map_append, Option.toList_map]

/-- The thread that is chosen does not depend on how many slots are tracked. -/
theorem choose_map_shortened (automaton : Automaton) (haystack : Array UInt8) (anchor : Anchor)
    (kind : MatchKind) (count : Nat) (best : Option Thread)
    (found : List Thread) :
    choose automaton haystack anchor kind.better (best.map (shortened count))
        (found.map (shortened count)) =
      (choose automaton haystack anchor kind.better best found).map (shortened count) :=
  choose_map (fun _ => rfl) fun _ _ => rfl

end Thread

/-- The threads from one start, with fewer slots. -/
theorem Backtracking.Attempt.shortened {automaton : Automaton} {haystack : Array UInt8}
    {width count start : Nat} {found : List Thread} (narrow : count ≤ width)
    (attempt : Attempt automaton haystack width start found) :
    Attempt automaton haystack count start (found.map (Thread.shortened count)) := by
  have explores := Explores.map attempt (Thread.shortened count) (fun _ => rfl)
    (Thread.successors_shortened count)
  have root : (Thread.fresh automaton width start).shortened count =
      Thread.fresh automaton count start := by
    rw [Thread.shortened, Thread.fresh, Thread.fresh, Array.extract_replicate, Nat.sub_zero,
      Nat.min_eq_left narrow]
  rwa [List.map_singleton, root] at explores

/-! ### Agreement -/

/-- A search starts threads up to the last position at which a match may start. -/
theorem Lockstep.starts_zero (automaton : Automaton) (anchor : Anchor) (width length : Nat) :
    starts automaton anchor width length 0 =
      (List.range (Backtracking.lastStart anchor length + 1)).map
        (Thread.fresh automaton width) := by
  cases anchor with
  | unanchored => rw [starts, Nat.sub_zero, ← List.range_eq_range']; rfl
  | start | both => rfl

/-- The starts that a search tries are positions of the haystack. -/
theorem Backtracking.le_of_mem_starts {anchor : Anchor} {length position : Nat}
    (member : position ∈ List.range (lastStart anchor length + 1)) : position ≤ length :=
  (Nat.le_of_lt_succ (List.mem_range.mp member)).trans lastStart_le

/-- **There is something to find from all starts**, if only nothing. -/
theorem Lockstep.exists_starts {automaton : Automaton} (wellFormed : automaton.WellFormed)
    (haystack : Array UInt8) (anchor : Anchor) (width : Nat) :
    ∃ found, Explores (successors automaton haystack) ∅
      (starts automaton anchor width haystack.size 0) found := by
  refine Explores.exists_found Automaton.finite_places wellFormed.confined_places ∅ _ ?_
  intro thread member
  rw [starts_zero] at member
  obtain ⟨position, inside, rfl⟩ := List.mem_map.mp member
  exact ⟨wellFormed.start_lt, Backtracking.le_of_mem_starts inside⟩

theorem Lockstep.le_tracked (kind : MatchKind) (slotCount : Nat) :
    slotCount ≤ tracked kind slotCount := by
  cases kind with
  | leftmostFirst => exact Nat.le_refl _
  | leftmostLongest => exact Nat.le_max_left _ _

/-- **Both strategies report the same match with the same slots**, on any caches that fit. -/
theorem lockstep_eq_backtracking {automaton : Automaton} (wellFormed : automaton.WellFormed)
    {together : Lockstep.Cache} (fits : together.Fits automaton) (alone : Backtracking.Cache)
    (haystack : Array UInt8) (anchor : Anchor) (kind : MatchKind) {slotCount : Nat}
    (bound : slotCount ≤ automaton.slotCount) :
    (Lockstep.search automaton together haystack anchor kind slotCount).1 =
      (Backtracking.search automaton alone haystack anchor kind slotCount).1 := by
  obtain ⟨attempt, attempts⟩ := Backtracking.exists_attempts wellFormed haystack
    (Lockstep.tracked kind slotCount)
  obtain ⟨found, explores⟩ := Lockstep.exists_starts wellFormed haystack anchor
    (Lockstep.tracked kind slotCount)
  have exploresMap := explores
  rw [Lockstep.starts_zero] at exploresMap
  have leads := lead_starts wellFormed anchor kind
    (by rintro rfl; exact Nat.lt_of_lt_of_le Nat.two_pos (Nat.le_max_right _ _))
    List.pairwise_lt_range (fun _ => Backtracking.le_of_mem_starts) attempts
    (fun _ old => old.elim) (fun _ old => old.elim) exploresMap
  rw [(Lockstep.search_eq wellFormed fits bound explores).1, leads, List.map_findSome?,
    Backtracking.search_eq wellFormed alone (fun position =>
      (attempt position).map (Thread.shortened slotCount)) fun position inside =>
        (attempts position inside).shortened (Lockstep.le_tracked kind slotCount)]
  refine congrArg (List.findSome? · _) (funext fun position => ?_)
  have shortened := Thread.choose_map_shortened automaton haystack anchor kind slotCount none
    (attempt position)
  rw [Option.map_none] at shortened
  rw [Function.comp_apply, shortened, Option.map_map]
  rfl

end Crosscheck
