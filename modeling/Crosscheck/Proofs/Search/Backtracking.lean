/-
**Backtracking explores.**

What is left to do in a search by backtracking stands for a list of threads: a visit for a thread
with the slots as they are by then, which is to say after the captures before it were undone. Doing
one job after the other explores these threads, so the paths from one start find what an exploration
finds, and the search reports what is chosen among it.

* `Job.threads`, `Job.undone`: what jobs stand for, and the slots once they are done;
* `Trail.run_explores`: the paths from one start;
* `Backtracking.search_eq`: a whole search, whatever the cache was used for before.
-/
import Crosscheck.Proofs.Search.Bitmap
import Crosscheck.Proofs.Search.Choice
import Crosscheck.Proofs.Search.Exploration
import Crosscheck.Search.Backtracking

namespace Crosscheck

open Thread (successors)

/-! ### What jobs stand for -/

namespace Job

/-- The threads that jobs go on with, when the slots are the given ones. -/
def threads : List Job → Slots → List Thread
  | [], _ => []
  | .visit state position :: rest, slots => ⟨state, position, slots⟩ :: threads rest slots
  | .restore slot old :: rest, slots => threads rest (slots.setIfInBounds slot old)

/-- The slots once jobs are done. -/
def undone : List Job → Slots → Slots
  | [], slots => slots
  | .visit .. :: rest, slots => undone rest slots
  | .restore slot old :: rest, slots => undone rest (slots.setIfInBounds slot old)

theorem threads_visits (targets : List Nat) (position : Nat) (rest : List Job) (slots : Slots) :
    threads (targets.map (.visit · position) ++ rest) slots =
      targets.map (fun target => ⟨target, position, slots⟩) ++ threads rest slots := by
  induction targets with
  | nil => rfl
  | cons target targets hypothesis => exact congrArg _ hypothesis

theorem undone_visits (targets : List Nat) (position : Nat) (rest : List Job) (slots : Slots) :
    undone (targets.map (.visit · position) ++ rest) slots = undone rest slots := by
  induction targets with
  | nil => rfl
  | cons target targets hypothesis => exact hypothesis

end Job

namespace Slots

/-- Undoing a capture brings back the slots of before. -/
theorem setIfInBounds_getD {slots : Slots} {slot : Nat} (inside : slot < slots.size)
    (position : Option Nat) :
    (slots.setIfInBounds slot position).setIfInBounds slot (slots.getD slot none) = slots := by
  have read : slots.getD slot none = slots[slot] := (Array.getElem_eq_getD none).symm
  rw [Array.setIfInBounds_setIfInBounds, read, Array.setIfInBounds_def, dif_pos inside,
    Array.set_getElem_self]

end Slots

namespace Thread

/-- What a search keeps of a thread that ends a match. -/
def ending (thread : Thread) : Nat × Slots := (thread.position, thread.slots)

end Thread

namespace Trail

variable {automaton : Automaton} {haystack : Array UInt8} {anchor : Anchor} {kind : MatchKind}

/-- **Going through a configuration** replaces its thread by those as which it goes on. -/
theorem threads_pass (trail : Trail) (state position : Nat) :
    Job.threads (pass automaton haystack anchor trail state position).jobs
        (pass automaton haystack anchor trail state position).slots =
      successors automaton haystack ⟨state, position, trail.slots⟩ ++
        Job.threads trail.jobs trail.slots := by
  cases passing : automaton.state state with
  | accept =>
    rw [Thread.successors_of_accept passing]
    simp only [pass, passing, accept]
    split
    · rfl
    · split <;> rfl
  | fail =>
    rw [Thread.successors_of_silent fun _ => by rw [passing]; rfl]
    simp only [pass, Thread.passed, passing]
    rfl
  | goto target look =>
    rw [Thread.successors_of_silent fun _ => by rw [passing]; rfl]
    cases look with
    | none =>
      simp only [pass, Thread.passed, passing]
      rfl
    | some look =>
      simp only [pass, Thread.passed, passing]
      split <;> rfl
  | splits targets reverse =>
    rw [Thread.successors_of_silent fun _ => by rw [passing]; rfl]
    simp only [pass, Thread.passed, passing]
    exact Job.threads_visits ..
  | capture target slot =>
    rw [Thread.successors_of_silent fun _ => by rw [passing]; rfl]
    simp only [pass, Thread.passed, passing]
    by_cases inside : slot < trail.slots.size
    · rw [if_pos inside]
      simp only [Job.threads, Slots.setIfInBounds_getD inside]
      rfl
    · rw [if_neg inside, Array.setIfInBounds_eq_of_size_le (Nat.le_of_not_lt inside)]
      rfl
  | byte target value =>
    simp only [pass, successors, Thread.passed, Thread.advanced?, passing]
    cases haystack[position]?.bind (State.byte target value).transition <;> rfl
  | ranges target set =>
    simp only [pass, successors, Thread.passed, Thread.advanced?, passing]
    cases haystack[position]?.bind (State.ranges target set).transition <;> rfl

/-- Going through a configuration leaves the slots as they are once everything is undone. -/
theorem undone_pass (trail : Trail) (state position : Nat) :
    Job.undone (pass automaton haystack anchor trail state position).jobs
        (pass automaton haystack anchor trail state position).slots =
      Job.undone trail.jobs trail.slots := by
  rw [pass]
  split
  · split
    · rfl
    · rw [accept]
      split <;> rfl
  · rfl
  · rfl
  · split <;> rfl
  · exact Job.undone_visits ..
  · next target slot _ =>
    by_cases inside : slot < trail.slots.size
    · rw [if_pos inside]
      simp only [Job.undone, Slots.setIfInBounds_getD inside]
    · rw [if_neg inside]
      rfl
  · split <;> rfl
  · split <;> rfl

/-- **Only a thread that ends a match** can become the best. -/
theorem best_pass (trail : Trail) {best : Option Thread}
    (same : trail.best = best.map Thread.ending) (first : kind = .leftmostFirst → best = none)
    (state position : Nat) :
    (pass automaton haystack anchor trail state position).best =
      (choose automaton haystack anchor kind.better best [⟨state, position, trail.slots⟩]).map
        Thread.ending := by
  by_cases accepts : automaton.state state = .accept
  · by_cases early : anchor = .both ∧ position < haystack.size
    · have going : ¬Thread.ends automaton haystack anchor ⟨state, position, trail.slots⟩ := by
        simp only [Thread.ends, decide_eq_true_eq, not_and]
        exact fun _ late => absurd early.2 (Nat.not_lt.mpr (late early.1))
      rw [choose_cons_of_not_ends going, choose_nil, ← same, pass, accepts]
      simp only [if_pos early]
    · have final : Thread.ends automaton haystack anchor ⟨state, position, trail.slots⟩ := by
        simp only [Thread.ends, decide_eq_true_eq]
        exact ⟨accepts, fun both => Nat.le_of_not_lt fun before => early ⟨both, before⟩⟩
      rw [choose_cons_of_ends final, choose_nil, pass, accepts]
      simp only [if_neg early]
      rw [accept, same]
      cases kind with
      | leftmostFirst =>
        rw [first rfl]
        rfl
      | leftmostLongest =>
        rw [MatchKind.better, Option.all_map]
        by_cases farther : best.all (·.position < position)
        · rw [if_pos farther]
          exact congrArg Trail.best (if_pos farther)
        · rw [if_neg farther, ← same]
          exact congrArg Trail.best (if_neg farther)
  · have going : ¬Thread.ends automaton haystack anchor ⟨state, position, trail.slots⟩ :=
      fun final => accepts (Thread.accept_of_ends final)
    rw [choose_cons_of_not_ends going, choose_nil, ← same, pass]
    split
    · next accepts' => exact absurd accepts' accepts
    · rfl
    · rfl
    · split <;> rfl
    · rfl
    · split <;> rfl
    · split <;> rfl
    · split <;> rfl

/-- Coming to an old configuration changes nothing. -/
theorem step_old (trail : Trail) {state position : Nat}
    (old : trail.visited.mark state position = (false, trail.visited)) :
    step automaton haystack anchor trail (.visit state position) = trail := by
  obtain ⟨jobs, visited, slots, best⟩ := trail
  simp only at old
  rw [step, old]

/-- Coming to a new configuration marks it and goes through it. -/
theorem step_new (trail : Trail) {state position : Nat} {after : Bitmap}
    (new : trail.visited.mark state position = (true, after)) :
    step automaton haystack anchor trail (.visit state position) =
      pass automaton haystack anchor { trail with visited := after } state position := by
  obtain ⟨jobs, visited, slots, best⟩ := trail
  simp only at new
  rw [step, new]

/-- **The paths from one start** find what an exploration finds, and the best of it is reported.
When there is no match, everything was done and undone. -/
theorem run_explores (wellFormed : automaton.WellFormed) (anchor : Anchor) (kind : MatchKind)
    (trail : Trail) {seen : Set Place} (best : Option Thread)
    (shown : trail.visited.Shows automaton.size (haystack.size + 1) seen)
    (inside : ∀ thread ∈ Job.threads trail.jobs trail.slots,
      thread.configuration ∈ automaton.places haystack)
    (same : trail.best = best.map Thread.ending) :
    let after := run automaton haystack anchor kind trail
    ∃ found, Explores (successors automaton haystack) seen
        (Job.threads trail.jobs trail.slots) found ∧
      after.best = (choose automaton haystack anchor kind.better best found).map Thread.ending ∧
      (∃ later, after.visited.Shows automaton.size (haystack.size + 1) later) ∧
      (after.best = none → after.jobs = [] ∧ after.slots = Job.undone trail.jobs trail.slots) := by
  fun_induction run automaton haystack anchor kind trail generalizing seen best with
  | case1 trail stopped =>
    obtain ⟨rfl, matched⟩ := stopped
    obtain ⟨found, explores⟩ := Explores.exists_found Automaton.finite_places
      wellFormed.confined_places seen _ inside
    obtain ⟨chosen, rfl⟩ : ∃ chosen, best = some chosen :=
      Option.isSome_iff_exists.mp (by rwa [same, Option.isSome_map] at matched)
    refine ⟨found, explores, ?_, ⟨seen, shown⟩, fun none => ?_⟩
    · rw [choose_first, same]
      rfl
    · rw [none] at matched
      cases matched
  | case2 trail _ empty =>
    rw [empty]
    exact ⟨[], .done seen, same, ⟨seen, shown⟩, fun _ => ⟨empty, rfl⟩⟩
  | case3 trail going job rest jobs hypothesis =>
    rw [jobs] at inside ⊢
    cases job with
    | restore slot old => exact hypothesis best shown inside same
    | visit state position =>
      obtain ⟨head, inside⟩ := List.forall_mem_cons.mp inside
      have inStates : state < automaton.size := head.1
      have inPositions : position < haystack.size + 1 := Nat.lt_succ_of_le head.2
      by_cases old : (state, position) ∈ seen
      · have marked := shown.mark_old inStates inPositions old
        rw [step_old { trail with jobs := rest } marked] at hypothesis ⊢
        obtain ⟨found, explores, remaining⟩ := hypothesis best shown inside same
        exact ⟨found, .drop old explores, remaining⟩
      · obtain ⟨after, marked, shown⟩ := shown.mark_new inStates inPositions old
        rw [step_new { trail with jobs := rest } marked] at hypothesis ⊢
        have first : kind = .leftmostFirst → best = none := by
          intro isFirst
          cases best with
          | none => rfl
          | some chosen => exact absurd ⟨isFirst, by rw [same]; rfl⟩ going
        obtain ⟨found, explores, chosen, fits, done⟩ := hypothesis _ (by rwa [visited_pass])
          (by
            rw [threads_pass]
            intro thread member
            rcases List.mem_append.mp member with inner | outer
            · exact wellFormed.confined_places _ head thread inner
            · exact inside thread outer)
          (best_pass ⟨rest, after, trail.slots, trail.best⟩ same first state position)
        rw [threads_pass] at explores
        rw [undone_pass] at done
        rw [← choose_append] at chosen
        exact ⟨_, .visit old explores, chosen, fits, done⟩

end Trail

/-! ### Whole searches -/

namespace Backtracking

variable {automaton : Automaton} {haystack : Array UInt8} {anchor : Anchor} {kind : MatchKind}
  {slotCount : Nat}

/-- The threads found from one start, with nothing stored yet. -/
def Attempt (automaton : Automaton) (haystack : Array UInt8) (slotCount start : Nat)
    (found : List Thread) : Prop :=
  Explores (successors automaton haystack) ∅ [Thread.fresh automaton slotCount start] found

/-- **There is always an attempt.** -/
theorem exists_attempt (wellFormed : automaton.WellFormed) {start : Nat}
    (inside : start ≤ haystack.size) : ∃ found, Attempt automaton haystack slotCount start found :=
  Explores.exists_found Automaton.finite_places wellFormed.confined_places ∅ _
    fun thread member => by
    rw [List.mem_singleton.mp member]
    exact ⟨wellFormed.start_lt, inside⟩

/-- There are attempts from all starts. -/
theorem exists_attempts (wellFormed : automaton.WellFormed) (haystack : Array UInt8)
    (slotCount : Nat) : ∃ found : Nat → List Thread, ∀ start ≤ haystack.size,
      Attempt automaton haystack slotCount start (found start) := by
  have each : ∀ start, ∃ found, start ≤ haystack.size →
      Attempt automaton haystack slotCount start found := by
    intro start
    by_cases inside : start ≤ haystack.size
    · obtain ⟨found, attempt⟩ := exists_attempt wellFormed inside
      exact ⟨found, fun _ => attempt⟩
    · exact ⟨[], fun within => absurd within inside⟩
  choose found attempts using each
  exact ⟨found, attempts⟩

theorem lastStart_le {anchor : Anchor} {length : Nat} : lastStart anchor length ≤ length := by
  cases anchor <;> simp [lastStart]

/-- A cache that was prepared for a search, or that a failed search from one start left behind. -/
structure Cache.Ready (cache : Cache) (automaton : Automaton) (haystack : Array UInt8)
    (slotCount : Nat) : Prop where
  jobs_eq : cache.jobs = []
  stride_eq : cache.visited.stride = haystack.size + 1
  room : automaton.size * (haystack.size + 1) ≤ 32 * cache.visited.words.size
  slots_eq : cache.slots = Array.replicate slotCount none

/-- Any cache can be prepared. -/
theorem Cache.ready_setup (cache : Cache) :
    (cache.setup automaton haystack.size slotCount).Ready automaton haystack slotCount :=
  ⟨rfl, rfl, Bitmap.room_resize .., rfl⟩

/-- **A search from one start** reports what is chosen among the threads that are found, and leaves
the cache ready when there is no match. -/
theorem searchAt_eq (wellFormed : automaton.WellFormed) (anchor : Anchor) (kind : MatchKind)
    {cache : Cache} (ready : cache.Ready automaton haystack slotCount) {start : Nat}
    (inside : start ≤ haystack.size) {found : List Thread}
    (attempt : Attempt automaton haystack slotCount start found) :
    let result := searchAt automaton cache haystack anchor kind start
    result.1 = (choose automaton haystack anchor kind.better none found).map Thread.slots ∧
      (result.1 = none → result.2.Ready automaton haystack slotCount) := by
  obtain ⟨jobs, visited, slots⟩ := cache
  obtain ⟨rfl, stride, room, rfl⟩ := ready
  obtain ⟨again, explores, chosen, ⟨later, shown⟩, done⟩ :=
    Trail.run_explores wellFormed anchor kind
      ⟨[.visit automaton.start start], visited.clear, Array.replicate slotCount none, none⟩ none
      (Bitmap.Shows.clear stride room) (fun thread member => by
        rw [List.mem_singleton.mp member]
        exact ⟨wellFormed.start_lt, inside⟩) rfl
  obtain rfl := attempt.deterministic explores
  refine ⟨?_, fun failed => ?_⟩
  · simp only [searchAt, chosen, Option.map_map]
    rfl
  · obtain ⟨empty, undone⟩ := done (Option.map_eq_none_iff.mp failed)
    exact ⟨empty, shown.stride_eq, shown.room, undone⟩

/-- Trying several starts reports the match of the first start that has one. -/
theorem searchFrom_eq (wellFormed : automaton.WellFormed) {found : Nat → List Thread}
    (count : Nat) {start : Nat} {cache : Cache} (ready : cache.Ready automaton haystack slotCount)
    (inside : start + count ≤ haystack.size)
    (attempts : ∀ place ≤ haystack.size, Attempt automaton haystack slotCount place (found place)) :
    (searchFrom automaton haystack anchor kind start cache count).1 =
      (List.range' start (count + 1)).findSome? fun place =>
        (choose automaton haystack anchor kind.better none (found place)).map Thread.slots := by
  induction count generalizing start cache with
  | zero =>
    rw [Nat.add_zero] at inside
    obtain ⟨chosen, -⟩ := searchAt_eq wellFormed anchor kind ready inside (attempts start inside)
    rw [searchFrom, chosen, Nat.zero_add, List.range'_one, List.findSome?_singleton]
  | succ count hypothesis =>
    have here : start ≤ haystack.size := by omega
    obtain ⟨chosen, ready⟩ := searchAt_eq wellFormed anchor kind ready here (attempts start here)
    rw [searchFrom, List.range'_succ, List.findSome?_cons]
    split
    · next slots after result =>
      rw [result] at chosen
      rw [← chosen]
    · next after result =>
      rw [result] at chosen ready
      rw [← chosen]
      exact hypothesis (ready rfl) (by omega)

/-- **A search by backtracking reports the match of the first start that has one**, whatever its
cache was used for before. -/
theorem search_eq (wellFormed : automaton.WellFormed) (cache : Cache) (found : Nat → List Thread)
    (attempts : ∀ place ≤ haystack.size, Attempt automaton haystack slotCount place (found place)) :
    (search automaton cache haystack anchor kind slotCount).1 =
      (List.range (lastStart anchor haystack.size + 1)).findSome? fun place =>
        (choose automaton haystack anchor kind.better none (found place)).map Thread.slots := by
  rw [search, searchFrom_eq wellFormed _ cache.ready_setup _ attempts, List.range_eq_range']
  cases anchor <;> simp [lastStart]

end Backtracking

end Crosscheck
