/-
**Explorations, position by position.**

No thread goes back to an earlier position, so an exploration falls apart into layers: the threads
found at one position are found by going on without consuming anything, and what is found behind the
position is found by exploring the threads that got over the byte there, in the order in which they
were found. This is why threads that advance together byte by byte reach every configuration with
the same thread as a search that follows one path at a time.

* `atPosition`, `afterPosition`: the threads of a list at a position, and behind it;
* `Explores.layer`: the layer at the position of the roots, and what lies behind it;
* `Explores.cut`: the same for the part of an exploration before one of the threads of the layer.
-/
import Crosscheck.Proofs.Search.Exploration

namespace Crosscheck

open Thread (configuration passed advanced? successors)

/-- The threads at a position. -/
def atPosition (position : Nat) (threads : List Thread) : List Thread :=
  threads.filter fun thread => thread.position = position

/-- The threads behind a position. -/
def afterPosition (position : Nat) (threads : List Thread) : List Thread :=
  threads.filter fun thread => position < thread.position

section Lists

variable {position : Nat} {thread : Thread} {threads : List Thread}

theorem atPosition_append (first second : List Thread) :
    atPosition position (first ++ second) =
      atPosition position first ++ atPosition position second := List.filter_append ..

theorem afterPosition_append (first second : List Thread) :
    afterPosition position (first ++ second) =
      afterPosition position first ++ afterPosition position second := List.filter_append ..

theorem atPosition_cons_of_eq (here : thread.position = position) :
    atPosition position (thread :: threads) = thread :: atPosition position threads :=
  List.filter_cons_of_pos (by simpa using here)

theorem atPosition_cons_of_lt (behind : position < thread.position) :
    atPosition position (thread :: threads) = atPosition position threads :=
  List.filter_cons_of_neg (by simpa using behind.ne')

theorem afterPosition_cons_of_eq (here : thread.position = position) :
    afterPosition position (thread :: threads) = afterPosition position threads :=
  List.filter_cons_of_neg (by simpa using here.le)

theorem afterPosition_cons_of_lt (behind : position < thread.position) :
    afterPosition position (thread :: threads) = thread :: afterPosition position threads :=
  List.filter_cons_of_pos (by simpa using behind)

theorem atPosition_eq_nil (behind : ∀ thread ∈ threads, position < thread.position) :
    atPosition position threads = [] :=
  List.filter_eq_nil_iff.mpr fun thread member => by simpa using (behind thread member).ne'

theorem afterPosition_eq_self (behind : ∀ thread ∈ threads, position < thread.position) :
    afterPosition position threads = threads :=
  List.filter_eq_self.mpr fun thread member => by simpa using behind thread member

theorem mem_atPosition : thread ∈ atPosition position threads ↔
    thread ∈ threads ∧ thread.position = position := by
  simp [atPosition]

theorem mem_afterPosition : thread ∈ afterPosition position threads ↔
    thread ∈ threads ∧ position < thread.position := by
  simp [afterPosition]

end Lists

namespace Explores

variable {automaton : Automaton} {haystack : Array UInt8} {position : Nat}
  {seen other : Set Place} {roots found : List Thread}

/-- Threads that consume nothing stay at their position. -/
theorem position_of_passed (explores : Explores (passed automaton haystack) seen roots found)
    (start : ∀ thread ∈ roots, thread.position = position) :
    ∀ thread ∈ found, thread.position = position :=
  explores.forall_found _ start fun _ here _ passes => (Thread.position_of_passed passes).trans here

/-- No thread is found before the roots. -/
theorem position_le (explores : Explores (successors automaton haystack) seen roots found)
    (start : ∀ thread ∈ roots, position ≤ thread.position) :
    ∀ thread ∈ found, position ≤ thread.position :=
  explores.forall_found _ start fun _ least _ follows =>
    least.trans (Thread.position_of_successor follows).1

/-- A search behind a position may forget what was seen at it. -/
theorem congr_after (explores : Explores (successors automaton haystack) seen roots found)
    (start : ∀ thread ∈ roots, position < thread.position)
    (agree : ∀ place : Place, position < place.2 → (place ∈ seen ↔ place ∈ other)) :
    Explores (successors automaton haystack) other roots found :=
  explores.congr {place | position < place.2} start
    (fun _ behind _ follows => Nat.lt_of_lt_of_le behind (Thread.position_of_successor follows).1)
    agree

/-- A closure at a position may forget what was seen behind it. -/
theorem congr_at (explores : Explores (passed automaton haystack) seen roots found)
    (start : ∀ thread ∈ roots, thread.position = position)
    (agree : ∀ place : Place, place.2 = position → (place ∈ seen ↔ place ∈ other)) :
    Explores (passed automaton haystack) other roots found :=
  explores.congr {place | place.2 = position} start
    (fun _ here _ passes => (Thread.position_of_passed passes).trans here) agree

theorem congr_after_insert {place : Place} (here : place.2 = position)
    (explores : Explores (successors automaton haystack) (insert place seen) roots found)
    (start : ∀ thread ∈ roots, position < thread.position) :
    Explores (successors automaton haystack) seen roots found := by
  refine explores.congr_after start fun other behind => ?_
  have different : other ≠ place := fun same => (same ▸ behind).ne' here
  simp [different]

theorem congr_at_insert {place : Place} (behind : position < place.2)
    (explores : Explores (passed automaton haystack) (insert place seen) roots found)
    (start : ∀ thread ∈ roots, thread.position = position) :
    Explores (passed automaton haystack) seen roots found := by
  refine explores.congr_at start fun other here => ?_
  have different : other ≠ place := fun same => (same ▸ behind).ne' here
  simp [different]

/-- A thread at the position either stays there or leaves it at once. -/
theorem successors_cases (automaton : Automaton) (haystack : Array UInt8) (thread : Thread) :
    (advanced? automaton haystack thread = none ∧
        successors automaton haystack thread = passed automaton haystack thread) ∨
      ∃ next, advanced? automaton haystack thread = some next ∧
        passed automaton haystack thread = [] ∧ successors automaton haystack thread = [next] := by
  cases advances : advanced? automaton haystack thread with
  | none => exact .inl ⟨rfl, by rw [successors, advances, Option.toList_none, List.append_nil]⟩
  | some next =>
    have nowhere := Thread.passed_of_advanced advances
    exact .inr ⟨next, rfl, nowhere, by rw [successors, advances, nowhere]; rfl⟩

/-- A thread that gets over the byte at the position is behind it. -/
theorem lt_position_of_advanced {thread next : Thread} (here : thread.position = position)
    (advances : advanced? automaton haystack thread = some next) : position < next.position := by
  have after := (Thread.position_of_advanced advances).1
  omega

/-- The closure at the position of a mixed list of threads. -/
theorem layer_at (position : Nat)
    (explores : Explores (successors automaton haystack) seen roots found)
    (start : ∀ thread ∈ roots, position ≤ thread.position) :
    Explores (passed automaton haystack) seen (atPosition position roots)
      (atPosition position found) := by
  induction explores with
  | done seen => exact .done _
  | @drop seen thread rest found old _ hypothesis =>
    obtain ⟨least, start⟩ := List.forall_mem_cons.mp start
    rcases least.eq_or_lt with here | behind
    · rw [atPosition_cons_of_eq here.symm]
      exact .drop old (hypothesis start)
    · rw [atPosition_cons_of_lt behind]
      exact hypothesis start
  | @visit seen thread rest found new explores hypothesis =>
    obtain ⟨least, start⟩ := List.forall_mem_cons.mp start
    have further : ∀ next ∈ successors automaton haystack thread ++ rest,
        position ≤ next.position := by
      intro next member
      rcases List.mem_append.mp member with inner | outer
      · exact least.trans (Thread.position_of_successor inner).1
      · exact start next outer
    have rests : ∀ next ∈ atPosition position rest, next.position = position :=
      fun next member => (mem_atPosition.mp member).2
    have tail := hypothesis further
    rw [atPosition_append] at tail
    rcases least.eq_or_lt with here | behind
    · rw [atPosition_cons_of_eq here.symm, atPosition_cons_of_eq here.symm]
      refine .visit new ?_
      rcases successors_cases automaton haystack thread with
        ⟨-, same⟩ | ⟨next, advances, nowhere, same⟩
      · have stay : atPosition position (passed automaton haystack thread) =
            passed automaton haystack thread :=
          List.filter_eq_self.mpr fun next passes => by
            simpa using (Thread.position_of_passed passes).trans here.symm
        rwa [same, stay] at tail
      · rw [same, atPosition_cons_of_lt (lt_position_of_advanced here.symm advances)] at tail
        rwa [nowhere]
    · rw [atPosition_cons_of_lt behind, atPosition_cons_of_lt behind]
      have gone : atPosition position (successors automaton haystack thread) = [] :=
        atPosition_eq_nil fun next follows =>
          Nat.lt_of_lt_of_le behind (Thread.position_of_successor follows).1
      rw [gone] at tail
      exact tail.congr_at_insert behind rests

/-- What gets over a byte comes before what stays, as there is only one of both. -/
theorem successors_append (automaton : Automaton) (haystack : Array UInt8) (thread : Thread)
    (rest : List Thread) :
    successors automaton haystack thread ++ rest =
      (advanced? automaton haystack thread).toList ++
        (passed automaton haystack thread ++ rest) := by
  rcases successors_cases automaton haystack thread with ⟨none, same⟩ | ⟨next, some, none, same⟩
  · rw [same, none]
    rfl
  · rw [same, some, none]
    rfl

/-- The threads behind a position that an exploration finds before one that stays there, or before
its end: those that come of threads already behind it, and of those that got over the byte. -/
theorem layer_after (explores : Explores (successors automaton haystack) seen roots found)
    (ahead : List Thread) {here before after : List Thread} (split : roots = ahead ++ here)
    (behind : ∀ thread ∈ ahead, position < thread.position)
    (staying : ∀ thread ∈ here, thread.position = position)
    (parts : found = before ++ after)
    (stop : ∀ thread ∈ after.head?, thread.position = position) :
    Explores (successors automaton haystack) seen
      (ahead ++ (atPosition position before).filterMap (advanced? automaton haystack))
      (afterPosition position before) := by
  induction explores generalizing ahead here before with
  | done seen =>
    obtain ⟨rfl, rfl⟩ := List.append_eq_nil_iff.mp split.symm
    obtain ⟨rfl, rfl⟩ := List.append_eq_nil_iff.mp parts.symm
    exact .done _
  | @drop seen thread rest found old _ hypothesis =>
    cases ahead with
    | nil =>
      subst split
      exact hypothesis [] rfl behind
        (fun next member => staying next (List.mem_cons_of_mem _ member)) parts
    | cons head tail =>
      obtain ⟨rfl, rfl⟩ := List.cons.inj split
      exact .drop old (hypothesis tail rfl
        (fun next member => behind next (List.mem_cons_of_mem _ member)) staying parts)
  | @visit seen thread rest found new explores hypothesis =>
    cases before with
    | nil =>
      subst parts
      cases ahead with
      | nil => exact .done _
      | cons head tail =>
        obtain ⟨rfl, rfl⟩ := List.cons.inj split
        exact absurd (stop thread rfl) (behind thread List.mem_cons_self).ne'
    | cons first before =>
      obtain ⟨rfl, rfl⟩ := List.cons.inj parts
      have gone : ∀ next ∈ (atPosition position before).filterMap (advanced? automaton haystack),
          position < next.position := by
        intro next member
        obtain ⟨source, sourceIn, advances⟩ := List.mem_filterMap.mp member
        exact lt_position_of_advanced (mem_atPosition.mp sourceIn).2 advances
      cases ahead with
      | nil =>
        subst split
        obtain ⟨stays, staying⟩ := List.forall_mem_cons.mp staying
        have beyond : ∀ next ∈ (advanced? automaton haystack thread).toList,
            position < next.position :=
          fun next member => lt_position_of_advanced stays (Option.mem_toList.mp member)
        have passing : ∀ next ∈ passed automaton haystack thread ++ rest,
            next.position = position :=
          List.forall_mem_append.mpr
            ⟨fun next passes => (Thread.position_of_passed passes).trans stays, staying⟩
        have explored := hypothesis _ (successors_append ..) beyond passing rfl
        have listed : (thread :: atPosition position before).filterMap
            (advanced? automaton haystack) = (advanced? automaton haystack thread).toList ++
              (atPosition position before).filterMap (advanced? automaton haystack) := by
          cases advances : advanced? automaton haystack thread with
          | none => exact List.filterMap_cons_none advances
          | some next => exact List.filterMap_cons_some advances
        rw [atPosition_cons_of_eq stays, afterPosition_cons_of_eq stays, List.nil_append, listed]
        exact explored.congr_after_insert stays (List.forall_mem_append.mpr ⟨beyond, gone⟩)
      | cons head tail =>
        obtain ⟨rfl, rfl⟩ := List.cons.inj split
        obtain ⟨beyond, behind⟩ := List.forall_mem_cons.mp behind
        have further : ∀ next ∈ successors automaton haystack thread ++ tail,
            position < next.position := by
          intro next member
          rcases List.mem_append.mp member with inner | outer
          · exact Nat.lt_of_lt_of_le beyond (Thread.position_of_successor inner).1
          · exact behind next outer
        have tail := hypothesis _ (List.append_assoc ..).symm further staying rfl
        rw [atPosition_cons_of_lt beyond, afterPosition_cons_of_lt beyond]
        rw [List.append_assoc] at tail
        exact .visit new tail

/-- **The layer at the position of the roots, and what lies behind it.** Threads that are explored
later start behind the position. -/
theorem layer {later : List Thread}
    (explores : Explores (successors automaton haystack) ∅ (roots ++ later) found)
    (here : ∀ thread ∈ roots, thread.position = position)
    (behind : ∀ thread ∈ later, position < thread.position) :
    Explores (passed automaton haystack) ∅ roots (atPosition position found) ∧
      Explores (successors automaton haystack) ∅
        ((atPosition position found).filterMap (advanced? automaton haystack) ++ later)
        (afterPosition position found) := by
  obtain ⟨before, after, rfl, early, late⟩ := append_iff.mp explores
  have afterBehind : ∀ thread ∈ after, position < thread.position :=
    late.position_le behind
  have atRoots : atPosition position roots = roots :=
    List.filter_eq_self.mpr fun thread member => by simpa using here thread member
  have nothing : atPosition position after = [] := atPosition_eq_nil afterBehind
  rw [atPosition_append, afterPosition_append, nothing, List.append_nil,
    afterPosition_eq_self afterBehind]
  constructor
  · have closure := early.layer_at position fun thread member => (here thread member).ge
    rwa [atRoots] at closure
  · refine append (early.layer_after [] rfl (by simp) here (List.append_nil _).symm
      (by simp)) (late.congr_after behind fun place beyond => ?_)
    simp only [Set.empty_union, mem_configurations, mem_afterPosition]
    refine exists_congr fun thread => and_congr_left fun same => ?_
    have beyond : position < thread.position := by rw [← same] at beyond; exact beyond
    simp [beyond]

/-- **The part of an exploration before a thread of the layer**: what lies behind the position comes
of the threads of the layer that were found before. -/
theorem cut {later first second : List Thread} {stop : Thread}
    (explores : Explores (successors automaton haystack) ∅ (roots ++ later) found)
    (here : ∀ thread ∈ roots, thread.position = position)
    (behind : ∀ thread ∈ later, position < thread.position)
    (split : atPosition position found = first ++ stop :: second) :
    ∃ before after, found = before ++ stop :: after ∧ atPosition position before = first ∧
      Explores (successors automaton haystack) ∅
        (first.filterMap (advanced? automaton haystack)) (afterPosition position before) := by
  obtain ⟨early, after, rfl, explores, late⟩ := append_iff.mp explores
  have nothing : atPosition position after = [] := atPosition_eq_nil (late.position_le behind)
  rw [atPosition_append, nothing, List.append_nil] at split
  obtain ⟨before, rest, rfl, same, tail⟩ := List.filter_eq_append_iff.mp split
  obtain ⟨between, after', rfl, skipped, stays, -⟩ := List.filter_eq_cons_iff.mp tail
  have stops : stop.position = position := by simpa using stays
  have none : atPosition position between = [] :=
    List.filter_eq_nil_iff.mpr skipped
  refine ⟨before ++ between, after' ++ after, by simp, ?_, ?_⟩
  · rw [atPosition_append, none, List.append_nil]
    exact same
  · have cut := explores.layer_after [] rfl (by simp) here
      (List.append_assoc before between (stop :: after')).symm (by simpa using stops)
    rwa [atPosition_append, none, List.append_nil, List.nil_append,
      show atPosition position before = first from same] at cut

end Explores

end Crosscheck
