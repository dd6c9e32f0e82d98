/-
**Sparse sets are sets that remember the order of insertion.**

A number is a member when its place is below the count and holds the number. So what the arrays hold
beyond the members never matters, and there is always room for a number that is no member yet.

* `SparseSet.Holds`: which numbers a sparse set holds, in the order of insertion;
* `SparseSet.Holds.insert_new`, `SparseSet.Holds.insert_old`: what an insertion does;
* `SparseSet.Holds.clear`: a cleared set holds nothing.
-/
import Crosscheck.Search.SparseSet
import Mathlib.Data.List.Nodup

namespace Crosscheck

namespace SparseSet

/-- A sparse set for the numbers below a capacity holds the given members, in order. -/
structure Holds (set : SparseSet) (capacity : Nat) (members : List Nat) : Prop where
  dense_size : set.dense.size = capacity
  sparse_size : set.sparse.size = capacity
  count_eq : set.count = members.length
  below : ∀ member ∈ members, member < capacity
  dense_eq : ∀ {place : Nat}, (inside : place < members.length) →
    set.dense.getD place 0 = members[place]
  sparse_eq : ∀ {place : Nat}, (inside : place < members.length) →
    set.sparse.getD members[place] 0 = place

/-- Reading an array after a write. -/
theorem getD_setIfInBounds {numbers : Array Nat} {place : Nat} (inside : place < numbers.size)
    (value other : Nat) : (numbers.setIfInBounds place value).getD other 0 =
      if place = other then value else numbers.getD other 0 := by
  rw [Array.getD_eq_getD_getElem?, Array.getD_eq_getD_getElem?, Array.getElem?_setIfInBounds]
  split
  · rfl
  · rfl

/-- There are no more different numbers below a capacity than the capacity. -/
theorem length_le_of_nodup {capacity : Nat} {members : List Nat} (nodup : members.Nodup)
    (below : ∀ member ∈ members, member < capacity) : members.length ≤ capacity := by
  have inside : members ⊆ List.range capacity := fun member isMember =>
    List.mem_range.mpr (below member isMember)
  have := nodup.length_le_of_subset inside
  rwa [List.length_range] at this

namespace Holds

variable {set : SparseSet} {capacity value : Nat} {members : List Nat}

/-- No number is a member twice: two places of one number are the same. -/
theorem nodup (holds : set.Holds capacity members) : members.Nodup := by
  refine List.nodup_iff_injective_get.mpr fun one other same => Fin.ext ?_
  have first := holds.sparse_eq one.isLt
  have second := holds.sparse_eq other.isLt
  simp only [List.get_eq_getElem] at same
  rw [same] at first
  exact first.symm.trans second

/-- A number that is no member leaves room for it. -/
theorem length_lt (holds : set.Holds capacity members) (fits : value < capacity)
    (new : value ∉ members) : members.length < capacity :=
  length_le_of_nodup (List.nodup_cons.mpr ⟨new, holds.nodup⟩)
    (List.forall_mem_cons.mpr ⟨fits, holds.below⟩)

/-- **The members are listed in the order of insertion.** -/
theorem toList_eq (holds : set.Holds capacity members) : set.toList = members := by
  have bound := length_le_of_nodup holds.nodup holds.below
  have size := holds.dense_size
  refine List.ext_getElem ?_ fun place inside inside' => ?_
  · rw [toList, List.length_take, Array.length_toList, holds.count_eq, size]
    omega
  · have := holds.dense_eq inside'
    have within : place < set.dense.size := by omega
    have read : set.dense.getD place 0 = set.dense[place] := (Array.getElem_eq_getD 0).symm
    rw [← this, read]
    simp [toList]

/-- **Membership.** -/
theorem contains_iff (holds : set.Holds capacity members) :
    set.contains value = true ↔ value ∈ members := by
  rw [contains, Bool.and_eq_true, decide_eq_true_eq, beq_iff_eq, holds.count_eq]
  constructor
  · rintro ⟨inside, same⟩
    rw [holds.dense_eq inside] at same
    exact same ▸ List.getElem_mem _
  · intro isMember
    obtain ⟨place, inside, rfl⟩ := List.getElem_of_mem isMember
    rw [holds.sparse_eq inside]
    exact ⟨inside, holds.dense_eq inside⟩

/-- **Inserting a member** leaves the set as it is. -/
theorem insert_old (holds : set.Holds capacity members) (old : value ∈ members) :
    set.insert value = .present set := by
  rw [insert, if_pos (holds.contains_iff.mpr old)]

/-- **Inserting a number that is no member** adds it behind the others. -/
theorem insert_new (holds : set.Holds capacity members) (fits : value < capacity)
    (new : value ∉ members) :
    ∃ after, set.insert value = .added after ∧ after.Holds capacity (members ++ [value]) := by
  have room := holds.length_lt fits new
  have absent : ¬set.contains value = true := fun isMember => new (holds.contains_iff.mp isMember)
  have place : set.count < set.dense.size := by
    rw [holds.count_eq, holds.dense_size]
    exact room
  refine ⟨_, by rw [insert, if_neg absent, if_pos place], ?_⟩
  refine ⟨?_, ?_, ?_, ?_, ?_, ?_⟩
  · rw [Array.size_setIfInBounds, holds.dense_size]
  · rw [Array.size_setIfInBounds, holds.sparse_size]
  · rw [holds.count_eq, List.length_append, List.length_singleton]
  · intro member isMember
    rcases List.mem_append.mp isMember with isMember | isMember
    · exact holds.below member isMember
    · rwa [List.mem_singleton.mp isMember]
  · intro index inside
    rw [List.length_append, List.length_singleton] at inside
    rw [getD_setIfInBounds place, holds.count_eq]
    by_cases last : members.length = index
    · subst last
      simp
    · have inside : index < members.length := by omega
      rw [if_neg last, holds.dense_eq inside, List.getElem_append_left inside]
  · intro index inside
    rw [List.length_append, List.length_singleton] at inside
    rw [getD_setIfInBounds (by rwa [holds.sparse_size]), holds.count_eq]
    by_cases last : members.length = index
    · subst last
      simp
    · have inside : index < members.length := by omega
      rw [List.getElem_append_left inside, if_neg, holds.sparse_eq inside]
      rintro rfl
      exact new (List.getElem_mem _)

/-- **A cleared set holds nothing.** -/
theorem clear (holds : set.Holds capacity members) : set.clear.Holds capacity [] :=
  ⟨holds.dense_size, holds.sparse_size, rfl, fun _ isMember => (List.not_mem_nil isMember).elim,
    fun inside => (Nat.not_lt_zero _ inside).elim, fun inside => (Nat.not_lt_zero _ inside).elim⟩

/-- A set that holds something is not empty. -/
theorem isEmpty_iff (holds : set.Holds capacity members) : set.isEmpty = true ↔ members = [] := by
  rw [isEmpty, holds.count_eq, beq_iff_eq, List.length_eq_zero_iff]

end Holds

/-- A new set holds nothing. -/
theorem holds_withCapacity (capacity : Nat) : (withCapacity capacity).Holds capacity [] :=
  ⟨Array.size_replicate, Array.size_replicate, rfl,
    fun _ isMember => (List.not_mem_nil isMember).elim,
    fun inside => (Nat.not_lt_zero _ inside).elim, fun inside => (Nat.not_lt_zero _ inside).elim⟩

end SparseSet

end Crosscheck
