/-
**Rounds.**

A search that lets all threads advance together goes through an exploration position by position. A
round settles, for one position, which thread leads and which threads go on. A search for the first
match lets the threads before the leading one go on. A search for the longest match lets those go on
that did not start after the leading one. What leads after all rounds is what leads in the whole
exploration.

* `Thread.origin`, `Thread.Tracked`: where a thread started;
* `lead`: the thread that leads among those found;
* `survivors`: the threads of a round that go on;
* `round_first`, `round_longest`: a round leaves out nothing that could come to lead.
-/
import Crosscheck.Proofs.Search.Choice
import Crosscheck.Proofs.Search.Layers
import Mathlib.Data.List.TakeWhile

namespace Crosscheck

open Thread (advanced? passed successors)

/-! ### Where threads started -/

namespace Thread

/-- Where a thread started. As long as it has not stored that, it has not left its start. -/
def origin (thread : Thread) : Nat := (thread.slots.getD 0 none).getD thread.position

/-- A thread that has stored where it started, or is about to. -/
def Tracked (automaton : Automaton) (thread : Thread) : Prop :=
  0 < thread.slots.size ∧
    (thread.state = automaton.start ∧ thread.slots.getD 0 none = none ∨
      thread.state ≠ automaton.start ∧ ∃ start, thread.slots.getD 0 none = some start)

variable {automaton : Automaton} {haystack : Array UInt8} {thread next : Thread}

/-- A thread that has left its start has stored where that was. -/
theorem Tracked.getD_zero (tracked : thread.Tracked automaton)
    (started : thread.state ≠ automaton.start) :
    thread.slots.getD 0 none = some thread.origin := by
  obtain ⟨-, ⟨here, -⟩ | ⟨-, start, stored⟩⟩ := tracked
  · exact absurd here started
  · rw [origin, stored, Option.getD_some]

theorem getD_setIfInBounds_self {slots : Slots} {slot : Nat} (inside : slot < slots.size)
    (position : Option Nat) : (slots.setIfInBounds slot position).getD slot none = position := by
  rw [Array.getD_eq_getD_getElem?, Array.getElem?_setIfInBounds_self_of_lt inside,
    Option.getD_some]

theorem getD_setIfInBounds_ne {slots : Slots} {slot other : Nat} (different : slot ≠ other)
    (position : Option Nat) :
    (slots.setIfInBounds slot position).getD other none = slots.getD other none := by
  rw [Array.getD_eq_getD_getElem?, Array.getD_eq_getD_getElem?,
    Array.getElem?_setIfInBounds_ne different]

/-- **Threads keep where they started.** -/
theorem Tracked.step (wellFormed : automaton.WellFormed) (tracked : thread.Tracked automaton)
    (follows : next ∈ successors automaton haystack thread) :
    next.Tracked automaton ∧ next.origin = thread.origin := by
  obtain ⟨wide, tracked⟩ := tracked
  have wide' : 0 < next.slots.size := by rwa [size_slots_of_successor follows]
  have gone : next.state ≠ automaton.start := fun same =>
    wellFormed.start_unentered _ (same ▸ state_mem_targets follows)
  rcases tracked with ⟨here, unstored⟩ | ⟨started, start, stored⟩
  · obtain ⟨target, stores⟩ := wellFormed.start_stores
    rw [← here] at stores
    rw [successors_of_silent fun _ => by rw [stores]; rfl, passed, stores,
      List.mem_singleton] at follows
    have stored : next.slots.getD 0 none = some thread.position := by
      rw [follows]
      exact getD_setIfInBounds_self wide _
    refine ⟨⟨wide', .inr ⟨gone, _, stored⟩⟩, ?_⟩
    rw [origin, origin, stored, unstored]
    rfl
  · have kept : next.slots.getD 0 none = some start := by
      rcases slots_of_successor follows with same | ⟨slot, stores, -, written⟩
      · rw [same, stored]
      · have other : slot ≠ 0 := fun zero => started (wellFormed.eq_start (zero ▸ stores))
        rw [written, getD_setIfInBounds_ne other, stored]
    refine ⟨⟨wide', .inr ⟨gone, start, kept⟩⟩, ?_⟩
    rw [origin, origin, kept, stored]
    rfl

/-- A thread that has stored nothing starts where it is. -/
theorem origin_fresh {slotCount position : Nat} :
    (fresh automaton slotCount position).origin = position := by
  rw [origin, fresh, Slots.getD_blank, Option.getD_none]

theorem tracked_fresh {slotCount position : Nat} (enough : 0 < slotCount) :
    (fresh automaton slotCount position).Tracked automaton := by
  refine ⟨by rwa [fresh, Array.size_replicate], .inl ⟨rfl, ?_⟩⟩
  exact Slots.getD_blank slotCount 0

end Thread

/-- Threads at a position that are tracked and stand in the order in which they started. -/
structure Lineup (automaton : Automaton) (position : Nat) (threads : List Thread) : Prop where
  tracked : ∀ thread ∈ threads, thread.Tracked automaton
  origin_le : ∀ thread ∈ threads, thread.origin ≤ position
  sorted : threads.Pairwise fun one other => one.origin ≤ other.origin

namespace Lineup

variable {automaton : Automaton} {haystack : Array UInt8} {position : Nat}
  {roots found : List Thread}

/-- The threads of a closure stand in the order in which they started. -/
theorem closure (wellFormed : automaton.WellFormed) (lineup : Lineup automaton position roots)
    (explores : Explores (passed automaton haystack) ∅ roots found) :
    Lineup automaton position found := by
  have step : ∀ thread, thread.Tracked automaton → ∀ next ∈ passed automaton haystack thread,
      next.Tracked automaton ∧ next.origin = thread.origin := fun _ tracked _ passes =>
    tracked.step wellFormed (Thread.mem_successors.mpr (.inl passes))
  have origins := explores.exists_root _ _ lineup.tracked step
  refine ⟨fun thread member => (origins thread member).1, fun thread member => ?_,
    explores.pairwise lineup.tracked step lineup.sorted⟩
  obtain ⟨-, root, rootIn, same⟩ := origins thread member
  rw [same]
  exact lineup.origin_le root rootIn

/-- Going over a byte keeps where threads started. -/
theorem origin_of_advanced (wellFormed : automaton.WellFormed)
    (lineup : Lineup automaton position roots) {thread next : Thread} (member : thread ∈ roots)
    (advances : advanced? automaton haystack thread = some next) :
    next.Tracked automaton ∧ next.origin = thread.origin :=
  (lineup.tracked thread member).step wellFormed (Thread.mem_successors.mpr (.inr advances))

/-- The threads that get over the byte stand in the order in which they started. -/
theorem advanced (wellFormed : automaton.WellFormed) (lineup : Lineup automaton position roots) :
    Lineup automaton (position + 1) (roots.filterMap (advanced? automaton haystack)) := by
  refine ⟨fun next member => ?_, fun next member => ?_, ?_⟩
  · obtain ⟨thread, threadIn, advances⟩ := List.mem_filterMap.mp member
    exact (lineup.origin_of_advanced wellFormed threadIn advances).1
  · obtain ⟨thread, threadIn, advances⟩ := List.mem_filterMap.mp member
    rw [(lineup.origin_of_advanced wellFormed threadIn advances).2]
    exact Nat.le_succ_of_le (lineup.origin_le thread threadIn)
  · refine List.pairwise_filterMap.mpr (List.Pairwise.imp_of_mem ?_ lineup.sorted)
    intro one other oneIn otherIn order next advances next' advances'
    rw [(lineup.origin_of_advanced wellFormed oneIn advances).2,
      (lineup.origin_of_advanced wellFormed otherIn advances').2]
    exact order

/-- Some of the threads of a lineup. -/
theorem filter (lineup : Lineup automaton position roots) (keep : Thread → Bool) :
    Lineup automaton position (roots.filter keep) :=
  ⟨fun thread member => lineup.tracked thread (List.mem_of_mem_filter member),
    fun thread member => lineup.origin_le thread (List.mem_of_mem_filter member),
    lineup.sorted.filter keep⟩

/-- Those that started no later than some position come first. -/
theorem split (lineup : Lineup automaton position roots) (last : Nat) :
    roots = roots.filter (·.origin ≤ last) ++ roots.filter (last < ·.origin) := by
  obtain ⟨-, -, sorted⟩ := lineup
  induction roots with
  | nil => rfl
  | cons thread rest hypothesis =>
    obtain ⟨least, sorted⟩ := List.pairwise_cons.mp sorted
    by_cases early : thread.origin ≤ last
    · rw [List.filter_cons_of_pos (by simpa using early),
        List.filter_cons_of_neg (by simpa using early), List.cons_append, ← hypothesis sorted]
    · have late : last < thread.origin := Nat.lt_of_not_le early
      have none : (thread :: rest).filter (·.origin ≤ last) = [] :=
        List.filter_eq_nil_iff.mpr (List.forall_mem_cons.mpr ⟨by simpa using late,
          fun next member => by simpa using late.trans_le (least next member)⟩)
      rw [none, List.nil_append, List.filter_eq_self.mpr]
      exact List.forall_mem_cons.mpr ⟨by simpa using late,
        fun next member => by simpa using late.trans_le (least next member)⟩

end Lineup

/-! ### Which thread leads -/

namespace Thread

/-- The better of the best thread so far and another one, whichever was found first: the one that
started first, and of those that started together the one that came farthest. -/
def farther (best : Option Thread) (thread : Thread) : Option Thread :=
  if best.all fun best => thread.origin < best.origin ∨
    thread.origin = best.origin ∧ best.position < thread.position then some thread
  else best

theorem farther_none (thread : Thread) : farther none thread = some thread := rfl

theorem farther_some (best thread : Thread) : farther (some best) thread =
    if thread.origin < best.origin ∨
      thread.origin = best.origin ∧ best.position < thread.position then some thread
    else some best := by
  simp only [farther, Option.all_some, decide_eq_true_eq]

theorem chooses_farther : Chooses farther := by
  refine ⟨fun best thread => ?_, fun {best thread chosen} reported => ?_⟩
  · cases best with
    | none => rfl
    | some best =>
      rw [farther_some]
      split <;> rfl
  · cases best with
    | none => exact .inr (Option.some.inj reported)
    | some best =>
      rw [farther_some] at reported
      split at reported
      · exact .inr (Option.some.inj reported)
      · exact .inl reported

/-- Threads at different positions can be compared in any order. -/
theorem farther_comm {one other : Thread} (different : one.position ≠ other.position)
    (best : Option Thread) :
    farther (farther best one) other = farther (farther best other) one := by
  cases best with
  | none =>
    rw [farther_none, farther_none, farther_some, farther_some]
    split_ifs <;> first | rfl | omega
  | some best =>
    simp only [farther_some]
    split_ifs <;> simp only [farther_some] <;> split_ifs <;> first | rfl | omega

end Thread

/-- The thread that leads when threads are found while another one leads. In a search for the first
match, a thread that goes on while another one leads comes before it. -/
def lead (automaton : Automaton) (haystack : Array UInt8) (anchor : Anchor) (kind : MatchKind)
    (best : Option Thread) (found : List Thread) : Option Thread :=
  match kind with
  | .leftmostFirst => (found.find? (Thread.ends automaton haystack anchor)).or best
  | .leftmostLongest => choose automaton haystack anchor Thread.farther best found

@[simp]
theorem lead_nil {automaton : Automaton} {haystack : Array UInt8} {anchor : Anchor}
    {kind : MatchKind} {best : Option Thread} :
    lead automaton haystack anchor kind best [] = best := by
  cases kind <;> rfl

/-- The threads of a round that go on, when a thread leads after it. -/
def survivors (automaton : Automaton) (haystack : Array UInt8) (anchor : Anchor) (kind : MatchKind)
    (best : Option Thread) (layer : List Thread) : List Thread :=
  match kind with
  | .leftmostFirst => layer.takeWhile fun thread => !thread.ends automaton haystack anchor
  | .leftmostLongest => layer.filter fun thread => best.all fun best => thread.origin ≤ best.origin

section Lead

variable {automaton : Automaton} {haystack : Array UInt8} {anchor : Anchor} {position : Nat}
  {best : Option Thread} {roots later found : List Thread}

/-- A thread that ends behind the others may be compared before them. -/
theorem choose_farther_comm {thread : Thread}
    (before : ∀ other ∈ found, other.position < thread.position) :
    choose automaton haystack anchor Thread.farther (Thread.farther best thread) found =
      Thread.farther (choose automaton haystack anchor Thread.farther best found) thread := by
  induction found generalizing best with
  | nil => rfl
  | cons other rest hypothesis =>
    obtain ⟨less, before⟩ := List.forall_mem_cons.mp before
    by_cases final : other.ends automaton haystack anchor = true
    · rw [choose_cons_of_ends final, choose_cons_of_ends final,
        Thread.farther_comm less.ne', hypothesis before]
    · rw [choose_cons_of_not_ends final, choose_cons_of_not_ends final, hypothesis before]

/-- **The longest match may be looked for position by position.** -/
theorem choose_farther_layers (least : ∀ thread ∈ found, position ≤ thread.position) :
    choose automaton haystack anchor Thread.farther best found =
      choose automaton haystack anchor Thread.farther
        (choose automaton haystack anchor Thread.farther best (atPosition position found))
        (afterPosition position found) := by
  induction found generalizing best with
  | nil => rfl
  | cons thread rest hypothesis =>
    obtain ⟨least, rests⟩ := List.forall_mem_cons.mp least
    rcases least.eq_or_lt with here | behind
    · rw [atPosition_cons_of_eq here.symm, afterPosition_cons_of_eq here.symm]
      by_cases final : thread.ends automaton haystack anchor = true
      · rw [choose_cons_of_ends final, choose_cons_of_ends final, hypothesis rests]
      · rw [choose_cons_of_not_ends final, choose_cons_of_not_ends final, hypothesis rests]
    · rw [atPosition_cons_of_lt behind, afterPosition_cons_of_lt behind]
      have before : ∀ other ∈ atPosition position rest, other.position < thread.position :=
        fun other member => (mem_atPosition.mp member).2.trans_lt behind
      by_cases final : thread.ends automaton haystack anchor = true
      · rw [choose_cons_of_ends final, choose_cons_of_ends final, hypothesis rests,
          choose_farther_comm before]
      · rw [choose_cons_of_not_ends final, choose_cons_of_not_ends final, hypothesis rests]

/-- Once a thread leads, whatever leads later did not start after it. -/
theorem origin_le_of_choose_farther {leader chosen : Thread}
    (reported : choose automaton haystack anchor Thread.farther (some leader) found = some chosen) :
    chosen.origin ≤ leader.origin := by
  induction found generalizing leader with
  | nil => exact Nat.le_of_eq (congrArg Thread.origin (Option.some.inj reported)).symm
  | cons thread rest hypothesis =>
    by_cases final : thread.ends automaton haystack anchor = true
    · rw [choose_cons_of_ends final, Thread.farther_some] at reported
      split at reported
      · next better =>
        have := hypothesis reported
        omega
      · exact hypothesis reported
    · rw [choose_cons_of_not_ends final] at reported
      exact hypothesis reported

/-- Threads that started after the leading one do not come to lead. -/
theorem choose_farther_of_lt {leader : Thread}
    (after : ∀ thread ∈ found, leader.origin < thread.origin) :
    choose automaton haystack anchor Thread.farther (some leader) found = some leader := by
  induction found with
  | nil => rfl
  | cons thread rest hypothesis =>
    obtain ⟨less, after⟩ := List.forall_mem_cons.mp after
    by_cases final : thread.ends automaton haystack anchor = true
    · rw [choose_cons_of_ends final, Thread.farther_some, if_neg (by omega), hypothesis after]
    · rw [choose_cons_of_not_ends final, hypothesis after]

/-! ### Rounds -/

/-- Threads of a layer that end no match may be left out when looking for the first match. -/
theorem find?_afterPosition (least : ∀ thread ∈ found, position ≤ thread.position)
    (going : ∀ thread ∈ atPosition position found, ¬thread.ends automaton haystack anchor = true) :
    (afterPosition position found).find? (Thread.ends automaton haystack anchor) =
      found.find? (Thread.ends automaton haystack anchor) := by
  induction found with
  | nil => rfl
  | cons thread rest hypothesis =>
    obtain ⟨least, rests⟩ := List.forall_mem_cons.mp least
    rcases least.eq_or_lt with here | behind
    · rw [atPosition_cons_of_eq here.symm] at going
      obtain ⟨head, going⟩ := List.forall_mem_cons.mp going
      rw [afterPosition_cons_of_eq here.symm, List.find?_cons_of_neg head, hypothesis rests going]
    · rw [atPosition_cons_of_lt behind] at going
      rw [afterPosition_cons_of_lt behind, List.find?_cons, List.find?_cons,
        hypothesis rests going]

/-- The threads of an exploration whose later roots are behind the position of the others. -/
theorem position_le_found
    (explores : Explores (successors automaton haystack) ∅ (roots ++ later) found)
    (here : ∀ thread ∈ roots, thread.position = position)
    (behind : ∀ thread ∈ later, position < thread.position) :
    ∀ thread ∈ found, position ≤ thread.position :=
  explores.position_le fun thread member => (List.mem_append.mp member).elim
    (fun inner => (here thread inner).ge) fun outer => (behind thread outer).le

/-- **A round of a search for the first match.** The threads behind the first one that ends a match
are cut off, and no more threads are started. -/
theorem round_first
    (explores : Explores (successors automaton haystack) ∅ (roots ++ later) found)
    (here : ∀ thread ∈ roots, thread.position = position)
    (behind : ∀ thread ∈ later, position < thread.position)
    (settled : best.isSome → later = []) :
    let layer := atPosition position found
    let best' := lead automaton haystack anchor .leftmostFirst best layer
    ∃ found', Explores (successors automaton haystack) ∅
        ((survivors automaton haystack anchor .leftmostFirst best' layer).filterMap
          (advanced? automaton haystack) ++ if best'.isSome then [] else later) found' ∧
      lead automaton haystack anchor .leftmostFirst best found =
        lead automaton haystack anchor .leftmostFirst best' found' := by
  intro layer best'
  have least := position_le_found explores here behind
  simp only [survivors]
  cases first : layer.find? (Thread.ends automaton haystack anchor) with
  | none =>
    have going : ∀ thread ∈ layer, ¬thread.ends automaton haystack anchor = true := by
      simpa using first
    have same : best' = best := by
      simp only [best', lead, first, Option.none_or]
    have all : layer.takeWhile (fun thread => !thread.ends automaton haystack anchor) = layer :=
      List.takeWhile_eq_self_iff.mpr fun thread member => by simpa using going thread member
    have tail : (if best'.isSome then [] else later) = later := by
      split
      · next some => exact (settled (same ▸ some)).symm
      · rfl
    refine ⟨afterPosition position found, ?_, ?_⟩
    · rw [all, tail]
      exact (explores.layer here behind).2
    · rw [lead, lead, find?_afterPosition least going, same]
  | some stop =>
    obtain ⟨final, ahead, others, split, going⟩ := List.find?_eq_some_iff_append.mp first
    have leads : best' = some stop := by
      simp only [best', lead, first, Option.some_or]
    have kept : layer.takeWhile (fun thread => !thread.ends automaton haystack anchor) = ahead := by
      rw [split, List.takeWhile_append_of_pos going,
        List.takeWhile_cons_of_neg (by simpa using final), List.append_nil]
    obtain ⟨before, after, parts, same, cut⟩ := explores.cut here behind split
    refine ⟨afterPosition position before, ?_, ?_⟩
    · rwa [kept, leads, Option.isSome_some, if_pos rfl, List.append_nil]
    · have earlier : ∀ thread ∈ before, position ≤ thread.position := fun thread member =>
        least thread (parts ▸ List.mem_append_left _ member)
      rw [lead, lead, leads, find?_afterPosition earlier (by simpa [same] using going), parts,
        List.find?_append, List.find?_cons_of_pos final, Option.or_assoc, Option.some_or]

/-- **A round of a search for the longest match.** The threads that started after the leading one
are left out, and no more threads are started. -/
theorem round_longest (wellFormed : automaton.WellFormed)
    (explores : Explores (successors automaton haystack) ∅ (roots ++ later) found)
    (here : ∀ thread ∈ roots, thread.position = position)
    (behind : ∀ thread ∈ later, position < thread.position)
    (settled : best.isSome → later = []) (lineup : Lineup automaton position roots)
    (fresh : ∀ thread ∈ later, thread.Tracked automaton ∧ position < thread.origin) :
    let layer := atPosition position found
    let best' := lead automaton haystack anchor .leftmostLongest best layer
    ∃ found', Explores (successors automaton haystack) ∅
        ((survivors automaton haystack anchor .leftmostLongest best' layer).filterMap
          (advanced? automaton haystack) ++ if best'.isSome then [] else later) found' ∧
      lead automaton haystack anchor .leftmostLongest best found =
        lead automaton haystack anchor .leftmostLongest best' found' := by
  intro layer best'
  obtain ⟨closes, goesOn⟩ := explores.layer here behind
  have layered : Lineup automaton position layer := lineup.closure wellFormed closes
  have folded : lead automaton haystack anchor .leftmostLongest best found =
      lead automaton haystack anchor .leftmostLongest best' (afterPosition position found) :=
    choose_farther_layers (position_le_found explores here behind)
  rw [folded]
  simp only [survivors]
  cases leads : best' with
  | none => exact ⟨_, by simpa using goesOn, rfl⟩
  | some leader =>
    rw [show atPosition position found = layer from rfl, layered.split leader.origin,
      List.filterMap_append, List.append_assoc] at goesOn
    obtain ⟨kept, dropped, parts, keeps, drops⟩ := Explores.append_iff.mp goesOn
    refine ⟨kept, by simpa using keeps, ?_⟩
    -- Whatever is dropped comes of threads that started after the leading one.
    have waiting : ∀ thread ∈ later, leader.origin < thread.origin := by
      intro thread member
      rcases choose_cases Thread.chooses_farther leads with before | ⟨inLayer, -⟩
      · rw [settled (by rw [before]; rfl)] at member
        cases member
      · exact (layered.origin_le leader inLayer).trans_lt (fresh thread member).2
    have late : ∀ thread ∈ (layer.filter (leader.origin < ·.origin)).filterMap
        (advanced? automaton haystack),
        thread.Tracked automaton ∧ leader.origin < thread.origin := by
      intro next member
      obtain ⟨thread, threadIn, advances⟩ := List.mem_filterMap.mp member
      obtain ⟨inLayer, after⟩ := List.mem_filter.mp threadIn
      obtain ⟨tracked, same⟩ := layered.origin_of_advanced wellFormed inLayer advances
      exact ⟨tracked, by simpa [same] using after⟩
    have after : ∀ thread ∈ dropped, thread.Tracked automaton ∧ leader.origin < thread.origin := by
      refine drops.forall_found _ (List.forall_mem_append.mpr ⟨late, fun thread member =>
        ⟨(fresh thread member).1, waiting thread member⟩⟩) ?_
      rintro thread ⟨tracked, after⟩ next follows
      obtain ⟨tracked, same⟩ := tracked.step wellFormed follows
      exact ⟨tracked, same ▸ after⟩
    obtain ⟨chosen, reported⟩ := Option.isSome_iff_exists.mp
      ((isSome_choose Thread.chooses_farther automaton haystack anchor (some leader) kept).mpr
        (.inl rfl))
    have least := origin_le_of_choose_farther reported
    rw [parts, lead, lead, choose_append, reported]
    exact choose_farther_of_lt fun thread member => least.trans_lt (after thread member).2

/-- **A round of a search.** -/
theorem round (wellFormed : automaton.WellFormed) (anchor : Anchor) (kind : MatchKind)
    (explores : Explores (successors automaton haystack) ∅ (roots ++ later) found)
    (here : ∀ thread ∈ roots, thread.position = position)
    (behind : ∀ thread ∈ later, position < thread.position)
    (settled : best.isSome → later = [])
    (lineup : kind = .leftmostLongest → Lineup automaton position roots ∧
      ∀ thread ∈ later, thread.Tracked automaton ∧ position < thread.origin) :
    let layer := atPosition position found
    let best' := lead automaton haystack anchor kind best layer
    ∃ found', Explores (successors automaton haystack) ∅
        ((survivors automaton haystack anchor kind best' layer).filterMap
          (advanced? automaton haystack) ++ if best'.isSome then [] else later) found' ∧
      lead automaton haystack anchor kind best found =
        lead automaton haystack anchor kind best' found' := by
  cases kind with
  | leftmostFirst => exact round_first explores here behind settled
  | leftmostLongest =>
    obtain ⟨lineup, fresh⟩ := lineup rfl
    exact round_longest wellFormed explores here behind settled lineup fresh

end Lead

end Crosscheck
