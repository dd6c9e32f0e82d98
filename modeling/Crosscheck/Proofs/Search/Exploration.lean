/-
**Explorations.**

An exploration works off a list of threads, first one first. A thread whose configuration was seen
before is dropped; any other is found, and the threads as which it goes on take its place. What is
found, in order, is what every search comes down to: which thread reached a configuration first is
settled by the exploration alone, and not by when a strategy gets there.

* `Explores`: the threads that an exploration finds;
* `Explores.append_iff`: lists of threads are explored one after the other;
* `Explores.congr`, `Explores.avoiding`: which configurations that were seen matter;
* `Explores.closed`: nothing that can be reached is left out;
* `Explores.exists_found`: an exploration comes to an end.
-/
import Crosscheck.Proofs.Search.Thread
import Mathlib.Data.Set.Card
import Mathlib.Data.Set.Finite.Lattice

namespace Crosscheck

open Thread (configuration)

/-- The configurations of threads. -/
def configurations (threads : List Thread) : Set Place :=
  {place | place ∈ threads.map configuration}

/-- Exploring threads that go on as `follow` says, after the configurations in `seen`, finds the
threads of the last list, in order. -/
inductive Explores (follow : Thread → List Thread) :
    Set Place → List Thread → List Thread → Prop where
  /-- No thread is left. -/
  | done (seen : Set Place) : Explores follow seen [] []
  /-- A thread comes to a configuration that was seen. -/
  | drop {seen : Set Place} {thread : Thread} {rest found : List Thread} :
    thread.configuration ∈ seen → Explores follow seen rest found →
      Explores follow seen (thread :: rest) found
  /-- A thread comes to a new configuration. -/
  | visit {seen : Set Place} {thread : Thread} {rest found : List Thread} :
    thread.configuration ∉ seen →
      Explores follow (insert thread.configuration seen) (follow thread ++ rest) found →
        Explores follow seen (thread :: rest) (thread :: found)

@[simp]
theorem mem_configurations {place : Place} {threads : List Thread} :
    place ∈ configurations threads ↔ ∃ thread ∈ threads, thread.configuration = place :=
  List.mem_map

@[simp]
theorem configurations_nil : configurations [] = ∅ := by
  ext place
  simp

theorem configurations_cons (thread : Thread) (threads : List Thread) :
    configurations (thread :: threads) = insert thread.configuration (configurations threads) := by
  ext place
  simp [eq_comm]

theorem configurations_append (first second : List Thread) :
    configurations (first ++ second) = configurations first ∪ configurations second := by
  ext place
  simp [or_and_right, exists_or]

/-- Seeing one configuration more before the others. -/
theorem insert_union_configurations (thread : Thread) (threads : List Thread)
    (seen : Set Place) :
    insert thread.configuration seen ∪ configurations threads =
      seen ∪ configurations (thread :: threads) := by
  rw [configurations_cons, Set.insert_union, Set.union_insert]

namespace Explores

variable {follow : Thread → List Thread} {seen other : Set Place}
  {first second roots found : List Thread}

/-- **An exploration finds one list of threads.** -/
theorem deterministic (explores : Explores follow seen roots found) :
    ∀ {again : List Thread}, Explores follow seen roots again → again = found := by
  induction explores with
  | done seen =>
    intro again repeated
    cases repeated
    rfl
  | drop old _ hypothesis =>
    intro again repeated
    cases repeated with
    | drop _ repeated => exact hypothesis repeated
    | visit new _ => exact absurd old new
  | visit new _ hypothesis =>
    intro again repeated
    cases repeated with
    | drop old _ => exact absurd old new
    | visit _ repeated => rw [hypothesis repeated]

/-! ### One list after the other -/

theorem append_of_append (first : List Thread)
    (explores : Explores follow seen (first ++ second) found) :
    ∃ before after, found = before ++ after ∧ Explores follow seen first before ∧
      Explores follow (seen ∪ configurations before) second after := by
  generalize split : first ++ second = roots at explores
  induction explores generalizing first with
  | done seen =>
    obtain ⟨rfl, rfl⟩ := List.append_eq_nil_iff.mp split
    exact ⟨[], [], rfl, .done _, .done _⟩
  | @drop seen thread rest found old explores hypothesis =>
    cases first with
    | nil =>
      subst split
      refine ⟨[], found, rfl, .done _, ?_⟩
      rw [configurations_nil, Set.union_empty]
      exact .drop old explores
    | cons head tail =>
      obtain ⟨rfl, rfl⟩ := List.cons.inj split
      obtain ⟨before, after, rfl, early, late⟩ := hypothesis tail rfl
      exact ⟨before, after, rfl, .drop old early, late⟩
  | @visit seen thread rest found new explores hypothesis =>
    cases first with
    | nil =>
      subst split
      refine ⟨[], thread :: found, rfl, .done _, ?_⟩
      rw [configurations_nil, Set.union_empty]
      exact .visit new explores
    | cons head tail =>
      obtain ⟨rfl, rfl⟩ := List.cons.inj split
      obtain ⟨before, after, rfl, early, late⟩ := hypothesis _ (List.append_assoc _ _ _)
      rw [insert_union_configurations] at late
      exact ⟨head :: before, after, rfl, .visit new early, late⟩

theorem append {before after : List Thread} (early : Explores follow seen first before)
    (late : Explores follow (seen ∪ configurations before) second after) :
    Explores follow seen (first ++ second) (before ++ after) := by
  induction early with
  | done seen => rwa [configurations_nil, Set.union_empty] at late
  | drop old _ hypothesis => exact .drop old (hypothesis late)
  | visit new _ hypothesis =>
    rw [← insert_union_configurations] at late
    have tail := hypothesis late
    rw [List.append_assoc] at tail
    exact .visit new tail

/-- **Lists of threads are explored one after the other.** -/
theorem append_iff : Explores follow seen (first ++ second) found ↔
    ∃ before after, found = before ++ after ∧ Explores follow seen first before ∧
      Explores follow (seen ∪ configurations before) second after := by
  refine ⟨append_of_append first, ?_⟩
  rintro ⟨before, after, rfl, early, late⟩
  exact append early late

/-- Nothing is found only when there is nothing to explore. -/
theorem eq_nil_of_empty (explores : Explores follow ∅ roots []) : roots = [] := by
  cases explores with
  | done => rfl
  | drop old _ => exact absurd old (Set.notMem_empty _)

/-! ### What can be found -/

/-- What holds of the roots and goes on to hold of what follows holds of all that is found. -/
theorem forall_found (property : Thread → Prop) (explores : Explores follow seen roots found)
    (start : ∀ thread ∈ roots, property thread)
    (step : ∀ thread, property thread → ∀ next ∈ follow thread, property next) :
    ∀ thread ∈ found, property thread := by
  induction explores with
  | done seen => exact start
  | drop _ _ hypothesis =>
    exact hypothesis fun thread member => start thread (List.mem_cons_of_mem _ member)
  | @visit seen thread rest found _ _ hypothesis =>
    have head : property thread := start thread List.mem_cons_self
    refine List.forall_mem_cons.mpr ⟨head, hypothesis fun next member => ?_⟩
    rcases List.mem_append.mp member with inner | outer
    · exact step thread head next inner
    · exact start next (List.mem_cons_of_mem _ outer)

/-- Whatever is found has the key of some root, when going on keeps the key. -/
theorem exists_root (key : Thread → Nat) (property : Thread → Prop)
    (explores : Explores follow seen roots found) (start : ∀ thread ∈ roots, property thread)
    (step : ∀ thread, property thread → ∀ next ∈ follow thread,
      property next ∧ key next = key thread) :
    ∀ thread ∈ found, property thread ∧ ∃ root ∈ roots, key thread = key root :=
  explores.forall_found (fun thread => property thread ∧ ∃ root ∈ roots, key thread = key root)
    (fun thread member => ⟨start thread member, thread, member, rfl⟩)
    (fun thread ⟨holds, root, member, same⟩ next follows =>
      ⟨(step thread holds next follows).1, root, member,
        (step thread holds next follows).2.trans same⟩)

/-- **Threads are found in the order of their keys**, when the roots are in that order and going on
keeps the key. -/
theorem pairwise {key : Thread → Nat} {property : Thread → Prop}
    (explores : Explores follow seen roots found)
    (start : ∀ thread ∈ roots, property thread)
    (step : ∀ thread, property thread → ∀ next ∈ follow thread,
      property next ∧ key next = key thread)
    (sorted : roots.Pairwise fun one other => key one ≤ key other) :
    found.Pairwise fun one other => key one ≤ key other := by
  induction explores with
  | done seen => exact .nil
  | drop _ _ hypothesis =>
    exact hypothesis (fun thread member => start thread (List.mem_cons_of_mem _ member))
      (List.pairwise_cons.mp sorted).2
  | @visit seen thread rest found _ explores hypothesis =>
    obtain ⟨least, sorted⟩ := List.pairwise_cons.mp sorted
    have head : property thread := start thread List.mem_cons_self
    have start' : ∀ next ∈ follow thread ++ rest, property next := by
      intro next member
      rcases List.mem_append.mp member with inner | outer
      · exact (step thread head next inner).1
      · exact start next (List.mem_cons_of_mem _ outer)
    have least' : ∀ next ∈ follow thread ++ rest, key thread ≤ key next := by
      intro next member
      rcases List.mem_append.mp member with inner | outer
      · exact (step thread head next inner).2.ge
      · exact least next outer
    have sorted' : (follow thread ++ rest).Pairwise fun one other => key one ≤ key other := by
      refine List.pairwise_append.mpr ⟨List.pairwise_of_forall_mem_list ?_, sorted, ?_⟩
      · intro one oneIn other otherIn
        rw [(step thread head one oneIn).2, (step thread head other otherIn).2]
      · intro one oneIn other otherIn
        rw [(step thread head one oneIn).2]
        exact least other otherIn
    refine List.pairwise_cons.mpr ⟨fun next member => ?_, hypothesis start' sorted'⟩
    obtain ⟨-, root, rootIn, same⟩ := explores.exists_root key property start' step next member
    rw [same]
    exact least' root rootIn

/-! ### What was seen before -/

/-- **Only configurations that can be reached matter** among those that were seen. -/
theorem congr (reach : Set Place) (explores : Explores follow seen roots found)
    (start : ∀ thread ∈ roots, thread.configuration ∈ reach)
    (step : ∀ thread, thread.configuration ∈ reach → ∀ next ∈ follow thread,
      next.configuration ∈ reach)
    (agree : ∀ place ∈ reach, place ∈ seen ↔ place ∈ other) :
    Explores follow other roots found := by
  induction explores generalizing other with
  | done seen => exact .done _
  | @drop seen thread rest found old _ hypothesis =>
    refine .drop ((agree _ (start thread List.mem_cons_self)).mp old) (hypothesis ?_ agree)
    exact fun next member => start next (List.mem_cons_of_mem _ member)
  | @visit seen thread rest found new _ hypothesis =>
    have head := start thread List.mem_cons_self
    refine .visit (fun old => new ((agree _ head).mpr old)) (hypothesis ?_ fun place reached => ?_)
    · intro next member
      rcases List.mem_append.mp member with inner | outer
      · exact step thread head next inner
      · exact start next (List.mem_cons_of_mem _ outer)
    · simp only [Set.mem_insert_iff, agree place reached]

/-- Threads that go on into the configurations of a set alone, when they are in it. -/
def Confined (follow : Thread → List Thread) (places : Set Place) : Prop :=
  ∀ thread, thread.configuration ∈ places → ∀ next ∈ follow thread, next.configuration ∈ places

/-- Threads in configurations that were seen are dropped. -/
theorem drops (old : ∀ thread ∈ first, thread.configuration ∈ seen) :
    Explores follow seen (first ++ second) found ↔ Explores follow seen second found := by
  induction first with
  | nil => rfl
  | cons thread rest hypothesis =>
    have head := old thread List.mem_cons_self
    have tail := hypothesis fun next member => old next (List.mem_cons_of_mem _ member)
    refine ⟨fun explores => ?_, fun explores => .drop head (tail.mpr explores)⟩
    cases explores with
    | drop _ explores => exact tail.mp explores
    | visit new _ => exact absurd head new

open Classical in
/-- **Having seen a set that is never left only leaves out what lies in it.** -/
theorem avoiding (explores : Explores follow seen roots found) {dead : Set Place}
    (confined : Confined follow dead) :
    Explores follow (seen ∪ dead) roots (found.filter (·.configuration ∉ dead)) := by
  induction explores with
  | done seen => exact .done _
  | drop old _ hypothesis => exact .drop (Or.inl old) hypothesis
  | @visit seen thread rest found new _ hypothesis =>
    by_cases inside : thread.configuration ∈ dead
    · rw [List.filter_cons_of_neg (by simpa using inside)]
      have old : thread.configuration ∈ seen ∪ dead := Or.inr inside
      refine .drop old ?_
      rw [Set.insert_union, Set.insert_eq_of_mem old] at hypothesis
      exact (drops fun next member => Or.inr (confined thread inside next member)).mp hypothesis
    · rw [List.filter_cons_of_pos (by simpa using inside)]
      refine .visit (fun old => old.elim new inside) ?_
      rwa [Set.insert_union] at hypothesis

/-- The roots are among what was seen before and what is found. -/
theorem configuration_mem (explores : Explores follow seen roots found) :
    ∀ thread ∈ roots, thread.configuration ∈ seen ∪ configurations found := by
  induction explores with
  | done seen => exact fun thread member => by cases member
  | drop old _ hypothesis => exact List.forall_mem_cons.mpr ⟨Or.inl old, hypothesis⟩
  | @visit seen thread rest found _ _ hypothesis =>
    rw [insert_union_configurations] at hypothesis
    refine List.forall_mem_cons.mpr ⟨Or.inr ?_, fun next member => ?_⟩
    · exact mem_configurations.mpr ⟨thread, List.mem_cons_self, rfl⟩
    · exact hypothesis next (List.mem_append_right _ member)

/-- **An exploration leaves nothing out**: where a configuration leads was seen or found, as soon as
that held of the configurations seen before. -/
theorem closed (leads : Place → List Place) (explores : Explores follow seen roots found)
    (uniform : ∀ thread, (follow thread).map configuration = leads thread.configuration)
    (before : ∀ place ∈ seen, ∀ next ∈ leads place, next ∈ seen ∪ configurations roots) :
    ∀ place ∈ seen ∪ configurations found, ∀ next ∈ leads place,
      next ∈ seen ∪ configurations found := by
  induction explores with
  | done seen => simpa using before
  | @drop seen thread rest found old _ hypothesis =>
    refine hypothesis fun place member next leadsTo => ?_
    rcases before place member next leadsTo with inside | inside
    · exact Or.inl inside
    · rw [configurations_cons] at inside
      exact inside.elim (fun same => Or.inl (same ▸ old)) Or.inr
  | @visit seen thread rest found _ _ hypothesis =>
    rw [insert_union_configurations thread found] at hypothesis
    refine hypothesis fun place member next leadsTo => ?_
    rw [configurations_append]
    rcases member with rfl | member
    · rw [← uniform] at leadsTo
      exact Or.inr (Or.inl leadsTo)
    · rcases before place member next leadsTo with inside | inside
      · exact Or.inl (Or.inr inside)
      · rw [configurations_cons] at inside
        exact inside.elim (fun same => Or.inl (Or.inl same)) fun tail => Or.inr (Or.inr tail)

/-! ### Explorations come to an end -/

/-- **There is something to find**, if only nothing: an exploration that stays within finitely many
configurations comes to an end. -/
theorem exists_found {places : Set Place} (finite : places.Finite)
    (confined : Confined follow places) (seen : Set Place) (roots : List Thread)
    (start : ∀ thread ∈ roots, thread.configuration ∈ places) :
    ∃ found, Explores follow seen roots found := by
  -- The outer induction is on the configurations that are left, the inner one on the roots.
  induction left : (places \ seen).ncard using Nat.strong_induction_on generalizing seen roots with
  | _ room fewer =>
    induction roots with
    | nil => exact ⟨[], .done seen⟩
    | cons thread rest hypothesis =>
      obtain ⟨head, start⟩ := List.forall_mem_cons.mp start
      by_cases old : thread.configuration ∈ seen
      · obtain ⟨found, explores⟩ := hypothesis start
        exact ⟨found, .drop old explores⟩
      · have smaller : (places \ insert thread.configuration seen).ncard < room := by
          rw [← left]
          refine Set.ncard_lt_ncard ⟨Set.sdiff_subset_sdiff_right (Set.subset_insert _ _), ?_⟩
            finite.sdiff
          exact fun inside => (inside ⟨head, old⟩).2 (Set.mem_insert _ _)
        obtain ⟨found, explores⟩ := fewer _ smaller (insert thread.configuration seen)
          (follow thread ++ rest) (fun next member => by
            rcases List.mem_append.mp member with inner | outer
            · exact confined thread head next inner
            · exact start next outer) rfl
        exact ⟨thread :: found, .visit old explores⟩

/-! ### Seeing threads through a map -/

/-- A map that keeps configurations and goes along with how threads go on can be applied before or
after an exploration. -/
theorem map (explores : Explores follow seen roots found) (view : Thread → Thread)
    (keeps : ∀ thread, (view thread).configuration = thread.configuration)
    (along : ∀ thread, follow (view thread) = (follow thread).map view) :
    Explores follow seen (roots.map view) (found.map view) := by
  induction explores with
  | done seen => exact .done _
  | @drop seen thread rest found old _ hypothesis => exact .drop (by rwa [keeps]) hypothesis
  | @visit seen thread rest found new _ hypothesis =>
    refine .visit (by rwa [keeps]) ?_
    rw [keeps, along, ← List.map_append]
    exact hypothesis

end Explores

/-- The configurations of an automaton in a haystack. -/
def Automaton.places (automaton : Automaton) (haystack : Array UInt8) : Set Place :=
  {place | place.1 < automaton.size ∧ place.2 ≤ haystack.size}

namespace Automaton

variable {automaton : Automaton} {haystack : Array UInt8}

theorem finite_places : (automaton.places haystack).Finite :=
  ((Set.finite_lt_nat _).prod (Set.finite_le_nat _)).subset fun _ inside => inside

/-- Threads stay in the automaton and in the haystack. -/
theorem WellFormed.confined_places (wellFormed : automaton.WellFormed) :
    Explores.Confined (Thread.successors automaton haystack) (automaton.places haystack) :=
  fun _ inside _ follows => ⟨wellFormed.target_lt _ _ (Thread.state_mem_targets follows),
    (Thread.position_of_successor follows).2 inside.2⟩

end Automaton

end Crosscheck
