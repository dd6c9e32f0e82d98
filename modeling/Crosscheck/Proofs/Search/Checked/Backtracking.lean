/-
**Backtracking reaches for nothing that is not there.**

The jobs of a search are about states, positions and slots that are there, because every target of
an intact automaton is a state. This is kept by every step, so the search with checks has the result
of the search without.

* `Trail.Inside`: trails whose jobs can be done, kept by `Trail.Inside.step`;
* `Trail.run?_eq`: one job after the other;
* `Backtracking.search?_eq`: a whole search, on any cache.
-/
import Crosscheck.Proofs.Automaton.Intact
import Crosscheck.Proofs.Search.Checked

namespace Crosscheck

variable {automaton : Automaton} {haystack : Array UInt8} {anchor : Anchor} {kind : MatchKind}
  {slotCount length : Nat} {trail : Trail}

/-! ### One job after the other -/

/-- A state of an intact automaton that offers a choice offers a way. -/
theorem Automaton.Intact.hasWay (intact : automaton.Intact) (index : Nat) :
    (automaton.state index).hasWay := by
  cases same : automaton.state index with
  | splits targets reverse =>
    have two := intact.two_le_targets same
    cases targets with
    | nil => cases two
    | cons target rest => rfl
  | byte | ranges | goto | capture | fail | accept => rfl

theorem State.mem_targets_of_branches {targets : List Nat} {reverse : Bool} {target : Nat}
    (member : target ∈ State.branches targets reverse) : target ∈ targets := by
  rw [State.branches] at member
  split at member
  · exact List.mem_reverse.mp member
  · exact member

/-- Marking a configuration keeps the size of a bitmap. -/
theorem Bitmap.frame_mark (bitmap : Bitmap) (state position : Nat) :
    (bitmap.mark state position).2.stride = bitmap.stride ∧
      (bitmap.mark state position).2.words.size = bitmap.words.size := by
  obtain ⟨words, stride⟩ := bitmap
  simp only [mark]
  split
  · next inside =>
    split
    · exact ⟨rfl, Array.size_set inside⟩
    · exact ⟨rfl, rfl⟩
  · exact ⟨rfl, rfl⟩

/-- A job about a state, a position and a slot that are there. -/
def Job.Inside (automaton : Automaton) (length slotCount : Nat) : Job → Prop
  | .visit state position => state < automaton.size ∧ position ≤ length
  | .restore slot _ => slot < slotCount

/-- **A trail whose jobs can be done**: they are about what is there, and there is a bit for every
configuration and a place for every slot. -/
structure Trail.Inside (trail : Trail) (automaton : Automaton) (length slotCount : Nat) : Prop where
  jobs : ∀ job ∈ trail.jobs, job.Inside automaton length slotCount
  stride_eq : trail.visited.stride = length + 1
  room : automaton.size * (length + 1) ≤ 32 * trail.visited.words.size
  size_slots : trail.slots.size = slotCount

namespace Trail

/-- The jobs that can be done are in range. -/
theorem Inside.inRange (intact : automaton.Intact)
    (inside : trail.Inside automaton length slotCount) {job : Job}
    (done : job.Inside automaton length slotCount) :
    job.InRange automaton slotCount trail := by
  cases job with
  | visit state position =>
    obtain ⟨inStates, inPositions⟩ := done
    have bit := Bitmap.index_lt inStates (show position < length + 1 by omega)
    have room := inside.room
    refine ⟨inStates, intact.hasWay state, ?_, inside.size_slots⟩
    rw [Bitmap.index, inside.stride_eq]
    omega
  | restore slot old => exact Nat.lt_of_lt_of_eq done inside.size_slots.symm

/-- The next job can be done, and so can those that are left. -/
theorem Inside.pop (inside : trail.Inside automaton length slotCount) {job : Job} {rest : List Job}
    (jobs : trail.jobs = job :: rest) : job.Inside automaton length slotCount ∧
      Inside { trail with jobs := rest } automaton length slotCount := by
  obtain ⟨first, others⟩ := List.forall_mem_cons.mp (jobs ▸ inside.jobs)
  exact ⟨first, others, inside.stride_eq, inside.room, inside.size_slots⟩

theorem Inside.push (inside : trail.Inside automaton length slotCount) {jobs : List Job}
    (more : ∀ job ∈ jobs, job.Inside automaton length slotCount) :
    (trail.push jobs).Inside automaton length slotCount :=
  ⟨List.forall_mem_append.mpr ⟨more, inside.jobs⟩, inside.stride_eq, inside.room,
    inside.size_slots⟩

/-- One more state to go on from. -/
theorem Inside.visit (inside : trail.Inside automaton length slotCount) {target position : Nat}
    (inStates : target < automaton.size) (inPositions : position ≤ length) :
    (trail.push [.visit target position]).Inside automaton length slotCount :=
  inside.push (List.forall_mem_singleton.mpr ⟨inStates, inPositions⟩)

theorem Inside.accept (inside : trail.Inside automaton length slotCount) (position : Nat) :
    (trail.accept position).Inside automaton length slotCount := by
  rw [Trail.accept]
  split
  · exact ⟨inside.jobs, inside.stride_eq, inside.room, inside.size_slots⟩
  · exact inside

/-- **Going through a configuration** leaves jobs that can be done. -/
theorem Inside.pass (intact : automaton.Intact)
    (inside : trail.Inside automaton haystack.size slotCount) {state position : Nat}
    (inPositions : position ≤ haystack.size) :
    (pass automaton haystack anchor trail state position).Inside automaton haystack.size
      slotCount := by
  have leads := intact.target_lt state
  rw [Trail.pass]
  cases same : automaton.state state with
  | accept =>
    dsimp only
    split
    · exact inside
    · exact inside.accept position
  | fail => exact inside
  | goto target look =>
    rw [same] at leads
    have inStates := leads target (List.mem_singleton.mpr rfl)
    cases look with
    | none => exact inside.visit inStates inPositions
    | some look =>
      dsimp only
      split
      · exact inside.visit inStates inPositions
      · exact inside
  | splits targets reverse =>
    rw [same] at leads
    refine inside.push fun job member => ?_
    obtain ⟨target, among, rfl⟩ := List.mem_map.mp member
    exact ⟨leads target (State.mem_targets_of_branches among), inPositions⟩
  | capture target slot =>
    rw [same] at leads
    have inStates := leads target (List.mem_singleton.mpr rfl)
    dsimp only
    split
    · next stored =>
      refine ⟨List.forall_mem_cons.mpr ⟨⟨inStates, inPositions⟩, List.forall_mem_cons.mpr
        ⟨?_, inside.jobs⟩⟩, inside.stride_eq, inside.room, ?_⟩
      · exact Nat.lt_of_lt_of_eq stored inside.size_slots
      · exact Array.size_setIfInBounds.trans inside.size_slots
    · exact inside.visit inStates inPositions
  | byte target value | ranges target value =>
    rw [same] at leads
    have inStates := leads target (List.mem_singleton.mpr rfl)
    dsimp only
    split
    · next next step =>
      obtain ⟨byte, here, transition⟩ := Option.bind_eq_some_iff.mp step
      have before := (Array.getElem?_eq_some_iff.mp here).choose
      obtain rfl : target = next := by
        simp only [State.transition, Option.ite_none_right_eq_some, Option.some.injEq] at transition
        exact transition.2
      exact inside.visit inStates before
    · exact inside

/-- **A job that is done leaves jobs that can be done.** -/
theorem Inside.step (intact : automaton.Intact)
    (inside : trail.Inside automaton haystack.size slotCount) {job : Job}
    (done : job.Inside automaton haystack.size slotCount) :
    (step automaton haystack anchor trail job).Inside automaton haystack.size slotCount := by
  obtain ⟨jobs, visited, slots, best⟩ := trail
  cases job with
  | restore slot old =>
    exact ⟨inside.jobs, inside.stride_eq, inside.room,
      Array.size_setIfInBounds.trans inside.size_slots⟩
  | visit state position =>
    have frame := visited.frame_mark state position
    rw [Trail.step]
    have marked : ∀ {new after}, visited.mark state position = (new, after) →
        Trail.Inside ⟨jobs, after, slots, best⟩ automaton haystack.size slotCount := by
      intro new after same
      rw [same] at frame
      exact ⟨inside.jobs, frame.1.trans inside.stride_eq, by
        rw [show after.words.size = _ from frame.2]
        exact inside.room, inside.size_slots⟩
    split
    · next after new => exact (marked new).pass intact done.2
    · next after old => exact marked old

/-- **A run of jobs stays in range.** -/
theorem run?_eq (intact : automaton.Intact) (anchor : Anchor) (kind : MatchKind)
    (inside : trail.Inside automaton haystack.size slotCount) :
    run? automaton haystack anchor kind slotCount trail =
        some (run automaton haystack anchor kind trail) ∧
      (run automaton haystack anchor kind trail).Inside automaton haystack.size slotCount := by
  fun_induction run automaton haystack anchor kind trail with
  | case1 trail found =>
    rw [run?, if_pos found]
    exact ⟨rfl, inside⟩
  | case2 trail going empty =>
    rw [run?, if_neg going]
    split
    · exact ⟨rfl, inside⟩
    · next same => rw [empty] at same; cases same
  | case3 trail going job rest jobs hypothesis =>
    obtain ⟨first, left⟩ := inside.pop jobs
    rw [run?, if_neg going]
    split
    · next same => rw [jobs] at same; cases same
    · next job' rest' same =>
      obtain ⟨rfl, rfl⟩ := List.cons.inj (jobs.symm.trans same)
      rw [if_pos (left.inRange intact first)]
      exact hypothesis (left.step intact first)

end Trail

/-! ### Whole searches -/

namespace Backtracking

/-- A cache from which paths can be followed. -/
structure Cache.Inside (cache : Cache) (automaton : Automaton) (length slotCount : Nat) :
    Prop where
  jobs : ∀ job ∈ cache.jobs, job.Inside automaton length slotCount
  stride_eq : cache.visited.stride = length + 1
  room : automaton.size * (length + 1) ≤ 32 * cache.visited.words.size
  size_slots : cache.slots.size = slotCount

/-- A cache that was prepared for a search is one. -/
theorem Cache.inside_setup (cache : Cache) :
    (cache.setup automaton haystack.size slotCount).Inside automaton haystack.size slotCount :=
  ⟨fun _ none => (List.not_mem_nil none).elim, rfl, Bitmap.room_resize .., Array.size_replicate⟩

/-- The trail with which a search sets out from a start. -/
def Cache.setOut (cache : Cache) (automaton : Automaton) (start : Nat) : Trail :=
  ⟨.visit automaton.start start :: cache.jobs, cache.visited.clear, cache.slots, none⟩

theorem Cache.Inside.setOut (intact : automaton.Intact) {cache : Cache}
    (inside : cache.Inside automaton haystack.size slotCount) {start : Nat}
    (bound : start ≤ haystack.size) :
    (cache.setOut automaton start).Inside automaton haystack.size slotCount := by
  refine ⟨List.forall_mem_cons.mpr ⟨⟨intact.start_lt, bound⟩, inside.jobs⟩, inside.stride_eq, ?_,
    inside.size_slots⟩
  rw [Cache.setOut, Bitmap.clear, Array.size_map]
  exact inside.room

theorem searchAt?_eq (intact : automaton.Intact) (anchor : Anchor) (kind : MatchKind)
    {cache : Cache} (inside : cache.Inside automaton haystack.size slotCount) {start : Nat}
    (bound : start ≤ haystack.size) :
    searchAt? automaton cache haystack anchor kind slotCount start =
        some (searchAt automaton cache haystack anchor kind start) ∧
      (searchAt automaton cache haystack anchor kind start).2.Inside automaton haystack.size
        slotCount := by
  obtain ⟨same, ended⟩ := Trail.run?_eq intact anchor kind (inside.setOut intact bound)
  obtain ⟨jobs, visited, slots⟩ := cache
  rw [Cache.setOut] at same ended
  rw [searchAt?, same]
  exact ⟨rfl, ended.jobs, ended.stride_eq, ended.room, ended.size_slots⟩

theorem searchFrom?_eq (intact : automaton.Intact) {cache : Cache}
    (inside : cache.Inside automaton haystack.size slotCount) {start count : Nat}
    (bound : start + count ≤ haystack.size) :
    searchFrom? automaton haystack anchor kind slotCount start cache count =
      some (searchFrom automaton haystack anchor kind start cache count) := by
  induction count generalizing start cache with
  | zero => exact (searchAt?_eq intact anchor kind inside bound).1
  | succ count hypothesis =>
    have here : start ≤ haystack.size := by omega
    obtain ⟨same, left⟩ := searchAt?_eq intact anchor kind inside here
    rw [searchFrom?, searchFrom, same]
    revert left
    rcases searchAt automaton cache haystack anchor kind start with ⟨_ | slots, cache⟩
    · exact fun left => hypothesis left (by omega)
    · exact fun _ => rfl

/-- **A search by backtracking stays in range**, on any cache. -/
theorem search?_eq (intact : automaton.Intact) (cache : Cache) (haystack : Array UInt8)
    (anchor : Anchor) (kind : MatchKind) (bound : slotCount ≤ automaton.slotCount) :
    search? automaton cache haystack anchor kind slotCount =
      some (search automaton cache haystack anchor kind slotCount) := by
  rw [search?, if_pos bound]
  exact searchFrom?_eq intact cache.inside_setup (by rw [Nat.zero_add]; exact lastStart_le)

end Backtracking

end Crosscheck
