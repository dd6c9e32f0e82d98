/-
**The thread that arrives at a configuration.**

An exploration finds at most one thread at each configuration. Where all ways to a configuration
come through another one, the thread that arrives at the one is the thread that arrived at the
other, one step later. And how threads go on where everything was seen before does not matter.

* `Explores.nodup`: no configuration is found twice;
* `arrival`, `Explores.arrival_eq_some_iff`: the thread that is found at a configuration;
* `Explores.arrival_step`: the thread one step later;
* `Explores.replace`: other ways on into what was seen;
* `choose_eq_arrival`: what is chosen when matches end in one configuration only.
-/
import Crosscheck.Proofs.Search.Choice
import Crosscheck.Proofs.Search.Exploration

namespace Crosscheck

open Thread (configuration)

/-- The thread that is found at a configuration. -/
def arrival (found : List Thread) (place : Place) : Option Thread :=
  found.find? (·.configuration = place)

open Classical in
/-- Leaving out threads elsewhere does not matter. -/
theorem arrival_filter {place : Place} {dead : Set Place} (outside : place ∉ dead)
    (found : List Thread) :
    arrival (found.filter (·.configuration ∉ dead)) place = arrival found place := by
  rw [arrival, arrival, List.find?_filter]
  congr 1
  funext thread
  simp only [decide_eq_true_eq, decide_eq_decide, and_iff_right_iff_imp]
  rintro rfl
  exact outside

namespace Explores

variable {follow follow' : Thread → List Thread} {leads : Place → List Place}
  {seen dead : Set Place} {roots roots' found : List Thread} {thread : Thread} {place goal : Place}

/-! ### One thread at each configuration -/

/-- What was seen before is not found. -/
theorem not_mem_seen (explores : Explores follow seen roots found) :
    ∀ thread ∈ found, thread.configuration ∉ seen := by
  induction explores with
  | done seen => exact fun _ member => (List.not_mem_nil member).elim
  | drop _ _ hypothesis => exact hypothesis
  | visit new _ hypothesis =>
    refine List.forall_mem_cons.mpr ⟨new, fun other member old => ?_⟩
    exact hypothesis other member (Set.mem_insert_of_mem _ old)

/-- **No configuration is found twice.** -/
theorem nodup (explores : Explores follow seen roots found) :
    (found.map configuration).Nodup := by
  induction explores with
  | done seen => exact List.nodup_nil
  | drop _ _ hypothesis => exact hypothesis
  | visit _ explores hypothesis =>
    refine List.nodup_cons.mpr ⟨fun again => ?_, hypothesis⟩
    obtain ⟨other, member, same⟩ := List.mem_map.mp again
    exact explores.not_mem_seen other member (same ▸ Set.mem_insert _ _)

/-- The thread that is found at a configuration is the only one there. -/
theorem arrival_eq_some_iff (explores : Explores follow seen roots found) :
    arrival found place = some thread ↔ thread ∈ found ∧ thread.configuration = place := by
  constructor
  · intro arrives
    exact ⟨List.mem_of_find?_eq_some arrives, by simpa using List.find?_some arrives⟩
  · rintro ⟨member, here⟩
    obtain ⟨other, arrives⟩ := Option.isSome_iff_exists.mp <|
      List.find?_isSome (p := (·.configuration = place)).mpr ⟨thread, member, by simpa using here⟩
    have there : other.configuration = place := by simpa using List.find?_some arrives
    have same : other = thread := List.inj_on_of_nodup_map explores.nodup
      (List.mem_of_find?_eq_some arrives) member (there.trans here.symm)
    rwa [arrival, ← same]

/-- Whoever is found and is no root follows someone who was found. -/
theorem exists_parent (explores : Explores follow seen roots found) :
    ∀ thread ∈ found, thread ∈ roots ∨ ∃ parent ∈ found, thread ∈ follow parent := by
  induction explores with
  | done seen => exact fun _ member => (List.not_mem_nil member).elim
  | drop _ _ hypothesis =>
    exact fun thread member => (hypothesis thread member).imp_left (List.mem_cons_of_mem _)
  | @visit seen thread rest found _ _ hypothesis =>
    refine List.forall_mem_cons.mpr ⟨.inl List.mem_cons_self, fun other member => ?_⟩
    rcases hypothesis other member with root | ⟨parent, parentIn, follows⟩
    · rcases List.mem_append.mp root with follows | later
      · exact .inr ⟨thread, List.mem_cons_self, follows⟩
      · exact .inl (List.mem_cons_of_mem _ later)
    · exact .inr ⟨parent, List.mem_cons_of_mem _ parentIn, follows⟩

/-- **The thread one step later**: where all ways to a configuration come through another one, from
which there is no other way, the thread that arrives is the one that arrived there. -/
theorem arrival_step {advance : Thread → Thread} (explores : Explores follow ∅ roots found)
    (uniform : ∀ thread, (follow thread).map configuration = leads thread.configuration)
    (outside : ∀ root ∈ roots, root.configuration ≠ goal)
    (only : ∀ thread ∈ found, goal ∈ leads thread.configuration → thread.configuration = place)
    (step : ∀ thread, thread.configuration = place → follow thread = [advance thread] ∧
      (advance thread).configuration = goal) :
    arrival found goal = (arrival found place).map advance := by
  have back : ∀ thread ∈ found, thread.configuration = goal →
      ∃ parent ∈ found, parent.configuration = place ∧ advance parent = thread := by
    intro thread member here
    rcases explores.exists_parent thread member with root | ⟨parent, parentIn, follows⟩
    · exact absurd here (outside thread root)
    · have leadsTo := List.mem_map_of_mem (f := configuration) follows
      rw [uniform, here] at leadsTo
      have there := only parent parentIn leadsTo
      rw [(step parent there).1, List.mem_singleton] at follows
      exact ⟨parent, parentIn, there, follows.symm⟩
  refine Option.ext fun thread => ?_
  rw [explores.arrival_eq_some_iff, Option.map_eq_some_iff]
  constructor
  · rintro ⟨member, here⟩
    obtain ⟨parent, parentIn, there, same⟩ := back thread member here
    exact ⟨parent, explores.arrival_eq_some_iff.mpr ⟨parentIn, there⟩, same⟩
  · rintro ⟨parent, arrives, rfl⟩
    obtain ⟨parentIn, there⟩ := explores.arrival_eq_some_iff.mp arrives
    obtain ⟨follows, here⟩ := step parent there
    -- What follows was found, since nothing is left out, and it came from the same thread.
    have leadsTo : goal ∈ leads parent.configuration := by
      rw [← uniform, follows, List.map_singleton, here]
      exact List.mem_singleton_self goal
    have reached := explores.closed leads uniform (by simp) parent.configuration
      (.inr (mem_configurations.mpr ⟨parent, parentIn, rfl⟩)) goal leadsTo
    rw [Set.empty_union] at reached
    obtain ⟨thread, member, comes⟩ := mem_configurations.mp reached
    obtain ⟨other, otherIn, elsewhere, same⟩ := back thread member comes
    have one : other = parent := List.inj_on_of_nodup_map explores.nodup otherIn parentIn
      (elsewhere.trans there.symm)
    rw [one] at same
    exact ⟨same ▸ member, here⟩

/-! ### Ways on into what was seen -/

open Classical in
/-- **How threads go on into configurations that were seen does not matter**, nor which of the roots
are in such configurations. -/
theorem replace (explores : Explores follow seen roots found) (old : dead ⊆ seen)
    (agree : ∀ thread, thread.configuration ∉ dead →
      (follow' thread).filter (·.configuration ∉ dead) =
        (follow thread).filter (·.configuration ∉ dead))
    (same : roots'.filter (·.configuration ∉ dead) = roots.filter (·.configuration ∉ dead)) :
    Explores follow' seen roots' found := by
  have drop_dead : ∀ {seen : Set Place} {first second found : List Thread}, dead ⊆ seen →
      (∀ thread ∈ first, ¬decide (thread.configuration ∉ dead) = true) →
      Explores follow' seen second found → Explores follow' seen (first ++ second) found := by
    intro seen first second found old inside explores
    exact (drops fun thread member => old (by simpa using inside thread member)).mpr explores
  induction explores generalizing roots' with
  | done seen =>
    have inside := List.filter_eq_nil_iff.mp (same.trans List.filter_nil)
    rw [← List.append_nil roots']
    exact drop_dead old inside (.done _)
  | @drop seen thread rest found before _ hypothesis =>
    by_cases inside : thread.configuration ∈ dead
    · rw [List.filter_cons_of_neg (by simpa using inside)] at same
      exact hypothesis old same
    · rw [List.filter_cons_of_pos (by simpa using inside)] at same
      obtain ⟨first, second, rfl, none, -, same⟩ := List.filter_eq_cons_iff.mp same
      exact drop_dead old none (.drop before (hypothesis old same))
  | @visit seen thread rest found new _ hypothesis =>
    have inside : thread.configuration ∉ dead := fun isDead => new (old isDead)
    rw [List.filter_cons_of_pos (by simpa using inside)] at same
    obtain ⟨first, second, rfl, none, -, same⟩ := List.filter_eq_cons_iff.mp same
    refine drop_dead old none (.visit new (hypothesis (old.trans (Set.subset_insert _ _)) ?_))
    rw [List.filter_append, List.filter_append, agree thread inside, same]

end Explores

/-! ### Matches that end in one configuration -/

section Choose

variable {automaton : Automaton} {haystack : Array UInt8} {anchor : Anchor}
  {follow : Thread → List Thread} {seen : Set Place} {roots found : List Thread} {goal : Place}

theorem filter_eq_toList_arrival (nodup : (found.map configuration).Nodup) :
    found.filter (·.configuration = goal) = (arrival found goal).toList := by
  induction found with
  | nil => rfl
  | cons thread rest hypothesis =>
    obtain ⟨new, nodup⟩ := List.nodup_cons.mp nodup
    by_cases here : thread.configuration = goal
    · have none : rest.filter (·.configuration = goal) = [] := by
        refine List.filter_eq_nil_iff.mpr fun other member there => ?_
        have there := of_decide_eq_true there
        exact new (List.mem_map.mpr ⟨other, member, there.trans here.symm⟩)
      rw [List.filter_cons_of_pos (by simpa using here), none, arrival,
        List.find?_cons_of_pos (by simpa using here)]
      rfl
    · rw [List.filter_cons_of_neg (by simpa using here), hypothesis nodup, arrival, arrival,
        List.find?_cons_of_neg (by simpa using here)]

/-- **When matches end in one configuration only, both kinds of search choose the same thread**: the
one that arrives there. -/
theorem choose_eq_arrival (explores : Explores follow seen roots found)
    (only : ∀ thread ∈ found,
      thread.ends automaton haystack anchor = true ↔ thread.configuration = goal)
    (kind : MatchKind) :
    choose automaton haystack anchor kind.better none found = arrival found goal := by
  have same : found.filter (Thread.ends automaton haystack anchor) =
      (arrival found goal).toList := by
    rw [← filter_eq_toList_arrival explores.nodup]
    refine List.filter_congr fun thread member => ?_
    rw [Bool.eq_iff_iff, only thread member, decide_eq_true_iff]
  rw [choose, same]
  cases arrival found goal with
  | none => rfl
  | some thread => cases kind <;> rfl

end Choose

end Crosscheck
