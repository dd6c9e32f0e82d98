/-
**Sparse sets remember what was inserted since they were cleared.**

Clearing a sparse set only forgets how many members it has, so both arrays keep what stood in them,
and those of a new set are full of zeros, which are places and numbers as well. None of this shows:
the members are what was inserted since the set was cleared, each once, in the order in which it
first was. They are different numbers below the capacity, so there is room for every new one.

* `SparseSet.Use`, `SparseSet.use?`: what is done with a set;
* `SparseSet.Holds.use`, `SparseSet.Holds.use_all`: what one use leaves, and any number of them;
* `SparseSet.remembers_inserted`: what a set tells after any uses.
-/
import Crosscheck.Proofs.Search.SparseSet
import Mathlib.Data.List.DropRight
import Mathlib.Data.List.Induction

namespace Crosscheck

namespace SparseSet

/-- Something that is done with a sparse set. -/
inductive Use where
  /-- A number is inserted. -/
  | insert (value : Nat)
  /-- A number is looked up. -/
  | lookUp (value : Nat)
  /-- The set is cleared. -/
  | clear
  deriving DecidableEq

/-- Whether a use is of a number below the capacity, if it is of one. -/
def Use.Fits (capacity : Nat) : Use → Prop
  | .insert value | .lookUp value => value < capacity
  | .clear => True

instance (capacity : Nat) : DecidablePred (Use.Fits capacity)
  | .insert value | .lookUp value => inferInstanceAs (Decidable (value < capacity))
  | .clear => inferInstanceAs (Decidable True)

/-- The set after a use, unless there is no room for what is inserted. -/
def use? (set : SparseSet) : Use → Option SparseSet
  | .insert value =>
    match set.insert value with
    | .present after | .added after => some after
    | .overflow _ => none
  | .lookUp _ => some set
  | .clear => some set.clear

/-- The number that a use inserts. -/
def Use.inserted? : Use → Option Nat
  | .insert value => some value
  | .lookUp _ | .clear => none

/-- What was inserted since the set was last cleared, as often as it was, in this order. -/
def insertedSince (uses : List Use) : List Nat :=
  (uses.rtakeWhile (· ≠ .clear)).filterMap Use.inserted?

theorem insertedSince_clear (uses : List Use) : insertedSince (uses ++ [.clear]) = [] := by
  rw [insertedSince, List.rtakeWhile_concat_neg _ _ _ (by decide), List.filterMap_nil]

theorem insertedSince_lookUp (uses : List Use) (value : Nat) :
    insertedSince (uses ++ [.lookUp value]) = insertedSince uses := by
  rw [insertedSince, List.rtakeWhile_concat_pos _ _ _ (by simp), List.filterMap_append]
  exact List.append_nil _

theorem insertedSince_insert (uses : List Use) (value : Nat) :
    insertedSince (uses ++ [.insert value]) = insertedSince uses ++ [value] := by
  rw [insertedSince, List.rtakeWhile_concat_pos _ _ _ (by simp), List.filterMap_append]
  rfl

/-- One more number counts only if it was not there. -/
theorem eraseDups_concat (numbers : List Nat) (value : Nat) :
    (numbers ++ [value]).eraseDups =
      if value ∈ numbers then numbers.eraseDups else numbers.eraseDups ++ [value] := by
  rw [List.eraseDups_append]
  split
  · next old => simp [List.removeAll, old]
  · next new => simp [List.removeAll, new, List.eraseDups_cons]

variable {set start : SparseSet} {capacity value : Nat} {members : List Nat} {uses : List Use}

/-- **Each use is possible and leaves a set** that holds what was inserted since it was cleared. -/
theorem Holds.use (holds : set.Holds capacity (insertedSince uses).eraseDups) {next : Use}
    (fits : next.Fits capacity) :
    ∃ after, set.use? next = some after ∧
      after.Holds capacity (insertedSince (uses ++ [next])).eraseDups := by
  cases next with
  | insert value =>
    rw [insertedSince_insert, eraseDups_concat]
    by_cases old : value ∈ insertedSince uses
    · rw [if_pos old, use?, holds.insert_old (List.mem_eraseDups.mpr old)]
      exact ⟨set, rfl, holds⟩
    · rw [if_neg old, use?]
      obtain ⟨after, added, more⟩ :=
        holds.insert_new fits fun isMember => old (List.mem_eraseDups.mp isMember)
      rw [added]
      exact ⟨after, rfl, more⟩
  | lookUp value =>
    rw [insertedSince_lookUp]
    exact ⟨set, rfl, holds⟩
  | clear =>
    rw [insertedSince_clear]
    exact ⟨set.clear, rfl, holds.clear⟩

/-- **So does any number of uses** of a set without members, whatever its arrays hold. -/
theorem Holds.use_all (empty : start.Holds capacity []) (fits : ∀ use ∈ uses, use.Fits capacity) :
    ∃ set, uses.foldlM use? start = some set ∧
      set.Holds capacity (insertedSince uses).eraseDups := by
  -- From the last use on, since it decides whether what came before it still counts.
  induction uses using List.reverseRecOn with
  | nil => exact ⟨start, rfl, empty⟩
  | append_singleton uses next hypothesis =>
    obtain ⟨fitsBefore, fitsNext⟩ := List.forall_mem_append.mp fits
    obtain ⟨middle, before, holds⟩ := hypothesis fitsBefore
    obtain ⟨after, step, more⟩ := holds.use (List.forall_mem_singleton.mp fitsNext)
    refine ⟨after, ?_, more⟩
    rw [List.foldlM_append, before, Option.bind_eq_bind, Option.bind_some, List.foldlM_cons, step]
    rfl

/-- Inserting a number changes nothing exactly if it is a member. -/
theorem Holds.present_iff (holds : set.Holds capacity members) (below : value < capacity) :
    set.insert value = .present set ↔ value ∈ members := by
  by_cases old : value ∈ members
  · exact iff_of_true (holds.insert_old old) old
  · obtain ⟨after, added, -⟩ := holds.insert_new below old
    refine iff_of_false (fun present => ?_) old
    cases added.symm.trans present

/-- A number is added exactly if it is no member: there is room for every new one. -/
theorem Holds.added_iff (holds : set.Holds capacity members) (below : value < capacity) :
    (∃ after, set.insert value = .added after) ↔ value ∉ members := by
  constructor
  · rintro ⟨after, added⟩ old
    cases (holds.insert_old old).symm.trans added
  · intro new
    obtain ⟨after, added, -⟩ := holds.insert_new below new
    exact ⟨after, added⟩

/-- **A sparse set is a set that remembers the order of insertion.** Whatever is done with a new
one, on numbers below its capacity: there always is room for what is inserted; the members are
listed as they were first inserted since the set was last cleared, each once; and a number is found,
or is no longer new when it is inserted, exactly if it was inserted since then. -/
theorem remembers_inserted (capacity : Nat) {uses : List Use}
    (fits : ∀ use ∈ uses, use.Fits capacity) :
    ∃ set, uses.foldlM use? (withCapacity capacity) = some set ∧
      set.toList = (insertedSince uses).eraseDups ∧ set.toList.Nodup ∧
      ∀ value < capacity,
        (set.contains value = true ↔ value ∈ insertedSince uses) ∧
        (set.insert value = .present set ↔ value ∈ insertedSince uses) ∧
        ((∃ after, set.insert value = .added after) ↔ value ∉ insertedSince uses) := by
  obtain ⟨set, run, holds⟩ := (holds_withCapacity capacity).use_all fits
  refine ⟨set, run, holds.toList_eq, holds.toList_eq ▸ holds.nodup, fun value below => ⟨?_, ?_, ?_⟩⟩
  · exact holds.contains_iff.trans List.mem_eraseDups
  · exact (holds.present_iff below).trans List.mem_eraseDups
  · exact (holds.added_iff below).trans (not_congr List.mem_eraseDups)

/-- A set of capacity three that was full and was cleared: its arrays still hold all three numbers,
but only those are found that were inserted again, and zero, which its arrays held from the
beginning, is not among them. -/
theorem remembers_inserted_again :
    let uses : List Use := [.insert 0, .insert 2, .insert 1, .clear, .lookUp 0, .insert 1,
      .insert 2, .insert 1]
    (∀ use ∈ uses, use.Fits 3) ∧
      ∃ set, uses.foldlM use? (withCapacity 3) = some set ∧ set.toList = [1, 2] ∧
        set.contains 0 = false ∧ set.contains 2 = true ∧
        ∃ after, set.insert 0 = .added after := by
  intro uses
  have fits : ∀ use ∈ uses, use.Fits 3 := by decide
  obtain ⟨set, run, listed, -, tells⟩ := remembers_inserted 3 fits
  have new : 0 ∉ insertedSince uses := by decide
  obtain ⟨found, -, added⟩ := tells 0 (by decide)
  exact ⟨fits, set, run, listed, Bool.eq_false_iff.mpr fun isMember => new (found.mp isMember),
    (tells 2 (by decide)).1.mpr (by decide), added.mpr new⟩

end SparseSet

end Crosscheck
