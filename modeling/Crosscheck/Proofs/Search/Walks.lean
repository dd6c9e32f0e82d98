/-
**Walks.**

A walk works off a list of threads, first one first, as an exploration does, but drops none: whoever
comes to a configuration a second time goes on from there once more. Where a walk comes to an end,
no configuration leads back to itself. Then an exploration drops only threads from which no better
match comes than those that were found before, and both choose the same match.

* `Walks`: the threads that a walk finds;
* `Settled`: when no match that ends at a position can be better than the best one;
* `choose_walks`: walks and explorations choose the same match.
-/
import Crosscheck.Proofs.Search.Choice
import Crosscheck.Proofs.Search.Exploration
import Mathlib.Logic.Relation

namespace Crosscheck

open Thread (configuration followers successors)

/-- Walking on from threads as `follow` says finds the threads of the last list, in order. -/
inductive Walks (follow : Thread → List Thread) : List Thread → List Thread → Prop where
  /-- No thread is left. -/
  | done : Walks follow [] []
  /-- The first thread goes on. -/
  | step {thread : Thread} {rest found : List Thread} : Walks follow (follow thread ++ rest) found →
      Walks follow (thread :: rest) (thread :: found)

namespace Walks

variable {follow : Thread → List Thread} {first second roots found : List Thread}

theorem append_of_append (first : List Thread) (walks : Walks follow (first ++ second) found) :
    ∃ before after, found = before ++ after ∧ Walks follow first before ∧
      Walks follow second after := by
  generalize split : first ++ second = roots at walks
  induction walks generalizing first with
  | done =>
    obtain ⟨rfl, rfl⟩ := List.append_eq_nil_iff.mp split
    exact ⟨[], [], rfl, .done, .done⟩
  | @step thread rest found walks hypothesis =>
    cases first with
    | nil =>
      subst split
      exact ⟨[], _, rfl, .done, .step walks⟩
    | cons head tail =>
      obtain ⟨rfl, rfl⟩ := List.cons.inj split
      obtain ⟨before, after, rfl, early, late⟩ := hypothesis _ (List.append_assoc _ _ _)
      exact ⟨head :: before, after, rfl, .step early, late⟩

theorem append {before after : List Thread} (early : Walks follow first before)
    (late : Walks follow second after) : Walks follow (first ++ second) (before ++ after) := by
  induction early with
  | done => exact late
  | step _ hypothesis =>
    rw [List.append_assoc] at hypothesis
    exact .step hypothesis

/-- Threads that go nowhere are all that a walk from them finds. -/
theorem final (ends : ∀ thread ∈ roots, follow thread = []) : Walks follow roots roots := by
  induction roots with
  | nil => exact .done
  | cons thread rest hypothesis =>
    obtain ⟨first, others⟩ := List.forall_mem_cons.mp ends
    exact .step (by rw [first]; exact hypothesis others)

end Walks

/-! ### Reaching configurations -/

/-- There is a path from one configuration to another. -/
def Reaches (leads : Place → List Place) : Place → Place → Prop :=
  Relation.ReflTransGen fun place next => next ∈ leads place

section Reaches

variable {follow : Thread → List Thread} {leads : Place → List Place} {seen : Set Place}
  {roots found : List Thread} {place goal : Place}

/-- **Where a walk comes to an end, every path does.** -/
theorem Walks.acc (walks : Walks follow roots found)
    (uniform : ∀ thread, (follow thread).map configuration = leads thread.configuration) :
    ∀ thread ∈ roots, Acc (fun next place => next ∈ leads place) thread.configuration := by
  induction walks with
  | done => exact fun _ member => (List.not_mem_nil member).elim
  | @step thread rest found _ hypothesis =>
    refine List.forall_mem_cons.mpr ⟨⟨_, fun next leadsTo => ?_⟩, fun other member => ?_⟩
    · rw [← uniform] at leadsTo
      obtain ⟨follower, member, rfl⟩ := List.mem_map.mp leadsTo
      exact hypothesis follower (List.mem_append_left _ member)
    · exact hypothesis other (List.mem_append_right _ member)

/-- Where every path comes to an end, none leads back. -/
theorem not_reaches_of_acc (ends : Acc (fun next place => next ∈ leads place) place) :
    ∀ next ∈ leads place, ¬Reaches leads next place := by
  induction ends with
  | intro place _ hypothesis =>
    intro next leadsTo back
    rcases back.cases_head with rfl | ⟨further, step, rest⟩
    · exact hypothesis next leadsTo next leadsTo .refl
    · exact hypothesis next leadsTo further step (rest.tail leadsTo)

/-- A walk leaves nothing out. -/
theorem Walks.exists_found (walks : Walks follow roots found)
    (uniform : ∀ thread, (follow thread).map configuration = leads thread.configuration) :
    ∀ root ∈ roots, Reaches leads root.configuration goal →
      ∃ thread ∈ found, thread.configuration = goal := by
  induction walks with
  | done => exact fun _ member => (List.not_mem_nil member).elim
  | @step thread rest found _ hypothesis =>
    have within : ∀ root ∈ follow thread ++ rest, Reaches leads root.configuration goal →
        ∃ other ∈ thread :: found, other.configuration = goal := by
      intro root member path
      obtain ⟨other, otherIn, same⟩ := hypothesis root member path
      exact ⟨other, List.mem_cons_of_mem _ otherIn, same⟩
    refine List.forall_mem_cons.mpr ⟨fun path => ?_, fun root member =>
      within root (List.mem_append_right _ member)⟩
    rcases path.cases_head with rfl | ⟨next, leadsTo, path⟩
    · exact ⟨thread, List.mem_cons_self, rfl⟩
    · rw [← uniform] at leadsTo
      obtain ⟨follower, member, rfl⟩ := List.mem_map.mp leadsTo
      exact within follower (List.mem_append_left _ member) path

/-- A walk finds nothing that cannot be reached. -/
theorem Walks.exists_root (walks : Walks follow roots found)
    (uniform : ∀ thread, (follow thread).map configuration = leads thread.configuration) :
    ∀ thread ∈ found, ∃ root ∈ roots, Reaches leads root.configuration thread.configuration := by
  induction walks with
  | done => exact fun _ member => (List.not_mem_nil member).elim
  | @step thread rest found _ hypothesis =>
    refine List.forall_mem_cons.mpr ⟨⟨thread, List.mem_cons_self, .refl⟩, fun other member => ?_⟩
    obtain ⟨root, rootIn, path⟩ := hypothesis other member
    rcases List.mem_append.mp rootIn with follower | later
    · have leadsTo := List.mem_map_of_mem (f := configuration) follower
      rw [uniform] at leadsTo
      exact ⟨thread, List.mem_cons_self, path.head leadsTo⟩
    · exact ⟨root, List.mem_cons_of_mem _ later, path⟩

/-- An exploration finds nothing that cannot be reached. -/
theorem Explores.exists_reaching (explores : Explores follow seen roots found)
    (uniform : ∀ thread, (follow thread).map configuration = leads thread.configuration) :
    ∀ thread ∈ found, ∃ root ∈ roots, Reaches leads root.configuration thread.configuration := by
  refine explores.forall_found _ (fun thread member => ⟨thread, member, .refl⟩) ?_
  rintro thread ⟨root, member, path⟩ next follows
  have leadsTo := List.mem_map_of_mem (f := configuration) follows
  rw [uniform] at leadsTo
  exact ⟨root, member, path.tail leadsTo⟩

end Reaches

/-! ### Matches that need not be looked at -/

/-- No match that ends at a position is better than the best one. -/
def Settled (kind : MatchKind) (best : Option Thread) (position : Nat) : Prop :=
  match kind with
  | .leftmostFirst => best.isSome
  | .leftmostLongest => ∃ thread ∈ best, position ≤ thread.position

section Settled

variable {automaton : Automaton} {haystack : Array UInt8} {anchor : Anchor} {kind : MatchKind}
  {best : Option Thread} {thread : Thread} {found : List Thread} {position : Nat}

theorem Settled.better_eq (settled : Settled kind best thread.position) :
    kind.better best thread = best := by
  cases kind with
  | leftmostFirst => exact Option.or_of_isSome settled
  | leftmostLongest =>
    obtain ⟨leader, rfl, less⟩ := settled
    exact if_neg (by simpa using less)

theorem settled_better : Settled kind (kind.better best thread) thread.position := by
  cases kind with
  | leftmostFirst => cases best <;> rfl
  | leftmostLongest =>
    simp only [Settled, MatchKind.better]
    cases best with
    | none => exact ⟨thread, rfl, Nat.le_refl _⟩
    | some leader =>
      by_cases less : leader.position < thread.position
      · exact ⟨thread, by simp [less], Nat.le_refl _⟩
      · exact ⟨leader, by simp [less], Nat.le_of_not_lt less⟩

/-- What is settled stays settled. -/
theorem Settled.better (settled : Settled kind best position) (thread : Thread) :
    Settled kind (kind.better best thread) position := by
  cases kind with
  | leftmostFirst =>
    obtain ⟨leader, rfl⟩ := Option.isSome_iff_exists.mp settled
    rfl
  | leftmostLongest =>
    obtain ⟨leader, rfl, less⟩ := settled
    by_cases farther : leader.position < thread.position
    · exact ⟨thread, by simp [MatchKind.better, farther], by omega⟩
    · exact ⟨leader, by simp [MatchKind.better, farther], less⟩

theorem Settled.choose (settled : Settled kind best position) (found : List Thread) :
    Settled kind (choose automaton haystack anchor kind.better best found) position := by
  induction found generalizing best with
  | nil => exact settled
  | cons thread rest hypothesis =>
    by_cases final : thread.ends automaton haystack anchor = true
    · rw [choose_cons_of_ends final]
      exact hypothesis (settled.better thread)
    · rw [choose_cons_of_not_ends final]
      exact hypothesis settled

/-- Once a match was looked at, it is settled. -/
theorem settled_choose : ∀ thread ∈ found, thread.ends automaton haystack anchor = true →
    Settled kind (choose automaton haystack anchor kind.better best found) thread.position := by
  induction found generalizing best with
  | nil => exact fun _ member => (List.not_mem_nil member).elim
  | cons thread rest hypothesis =>
    refine List.forall_mem_cons.mpr ⟨fun final => ?_, fun other member final => ?_⟩
    · rw [choose_cons_of_ends final]
      exact settled_better.choose rest
    · rw [← List.singleton_append, choose_append]
      exact hypothesis other member final

/-- Settled matches change nothing. -/
theorem choose_of_settled (settled : ∀ thread ∈ found,
    thread.ends automaton haystack anchor = true → Settled kind best thread.position) :
    choose automaton haystack anchor kind.better best found = best := by
  induction found with
  | nil => rfl
  | cons thread rest hypothesis =>
    obtain ⟨first, others⟩ := List.forall_mem_cons.mp settled
    by_cases final : thread.ends automaton haystack anchor = true
    · rw [choose_cons_of_ends final, (first final).better_eq, hypothesis others]
    · rw [choose_cons_of_not_ends final, hypothesis others]

end Settled

/-! ### Walks and explorations -/

section Agreement

variable {automaton : Automaton} {haystack : Array UInt8} {anchor : Anchor} {kind : MatchKind}
  {follow : Thread → List Thread} {leads : Place → List Place} {seen : Set Place}
  {roots all found : List Thread} {best : Option Thread}

/-- An exploration takes no notice of having seen a configuration from which its roots come, where
every path comes to an end. -/
theorem Explores.forget {thread : Thread}
    (explores : Explores follow (insert thread.configuration seen) (follow thread) found)
    (uniform : ∀ thread, (follow thread).map configuration = leads thread.configuration)
    (ends : Acc (fun next place => next ∈ leads place) thread.configuration) :
    Explores follow seen (follow thread) found := by
  refine explores.congr {place | ∃ next ∈ leads thread.configuration, Reaches leads next place}
    (fun next member => ?_) (fun other reached next member => ?_) fun place reached => ?_
  · have leadsTo := List.mem_map_of_mem (f := configuration) member
    rw [uniform] at leadsTo
    exact ⟨_, leadsTo, .refl⟩
  · obtain ⟨root, leadsTo, path⟩ := reached
    have goesOn := List.mem_map_of_mem (f := configuration) member
    rw [uniform] at goesOn
    exact ⟨root, leadsTo, path.tail goesOn⟩
  · obtain ⟨root, leadsTo, path⟩ := reached
    refine or_iff_right ?_
    rintro rfl
    exact not_reaches_of_acc ends root leadsTo path

/-- **Walks and explorations choose the same match.** -/
theorem choose_walks
    (uniform : ∀ thread, (follow thread).map configuration = leads thread.configuration)
    (walks : Walks follow roots all) (explores : Explores follow seen roots found)
    (settled : ∀ place ∈ seen, ∀ thread : Thread, Reaches leads place thread.configuration →
      thread.ends automaton haystack anchor = true → Settled kind best thread.position) :
    choose automaton haystack anchor kind.better best found =
      choose automaton haystack anchor kind.better best all := by
  induction size : all.length using Nat.strongRecOn generalizing roots all found seen best with
  | _ size hypothesis =>
    cases walks with
    | done =>
      cases explores
      rfl
    | @step thread rest all walks =>
      obtain ⟨inner, outer, rfl, early, late⟩ := walks.append_of_append (follow thread)
      have whole : Walks follow [thread] (thread :: inner) := .step (by rwa [List.append_nil])
      rw [List.length_cons, List.length_append] at size
      rw [← List.cons_append, choose_append]
      cases explores with
      | drop old explores =>
        -- All matches that come of a thread that is dropped were settled before.
        have same : choose automaton haystack anchor kind.better best (thread :: inner) = best := by
          refine choose_of_settled fun other member final => ?_
          obtain ⟨root, rootIn, path⟩ := whole.exists_root uniform other member
          rw [List.mem_singleton.mp rootIn] at path
          exact settled _ old other path final
        rw [same]
        exact hypothesis outer.length (by omega) late explores settled rfl
      | visit new explores =>
        obtain ⟨inner', outer', rfl, early', late'⟩ := explores.append_of_append (follow thread)
        have ends := whole.acc uniform thread (List.mem_singleton_self _)
        have same : choose automaton haystack anchor kind.better best (thread :: inner') =
            choose automaton haystack anchor kind.better best (thread :: inner) := by
          show choose automaton haystack anchor kind.better best ([thread] ++ inner') =
            choose automaton haystack anchor kind.better best ([thread] ++ inner)
          rw [choose_append, choose_append]
          exact hypothesis inner.length (by omega) early (early'.forget uniform ends)
            (fun place old other path final => (settled place old other path final).choose _) rfl
        have reached : ∀ other : Thread, Reaches leads thread.configuration other.configuration →
            other.ends automaton haystack anchor = true →
            Settled kind (choose automaton haystack anchor kind.better best (thread :: inner))
              other.position := by
          intro other path final
          obtain ⟨twin, twinIn, twins⟩ :=
            whole.exists_found uniform thread (List.mem_singleton_self _) path
          rw [← (Prod.mk.inj twins).2]
          exact settled_choose twin twinIn ((Thread.ends_eq_of_configuration twins).trans final)
        rw [← List.cons_append, choose_append, same]
        refine hypothesis outer.length (by omega) late late'
          (fun place member other path final => ?_)
          rfl
        rcases member with (rfl | old) | new
        · exact reached other path final
        · exact (settled place old other path final).choose _
        · obtain ⟨finder, finderIn, rfl⟩ := mem_configurations.mp new
          obtain ⟨root, rootIn, way⟩ := early'.exists_reaching uniform finder finderIn
          have leadsTo := List.mem_map_of_mem (f := configuration) rootIn
          rw [uniform] at leadsTo
          exact reached other ((way.trans path).head leadsTo) final

end Agreement

end Crosscheck
