/-
**Sparse sets.**

A set of numbers below a capacity that remembers the order of insertion and is cleared in one step.
The members stand at the front of `dense`; `sparse` tells for each number where it would stand.
Whatever either array holds beyond that does not count.

* `SparseSet.insert`: adds a number and tells whether it is new;
* `SparseSet.toList`: the members, in the order of insertion.
-/

namespace Crosscheck

/-- A set of numbers below a capacity. -/
structure SparseSet where
  /-- How many members there are. -/
  count : Nat
  /-- The members, followed by what earlier ones left. -/
  dense : Array Nat
  /-- The place in `dense` of each number that is a member. -/
  sparse : Array Nat

/-- What becomes of an insertion, with the set after it. -/
inductive Insertion where
  /-- The number was a member already. -/
  | present (set : SparseSet)
  /-- The number is new. -/
  | added (set : SparseSet)
  /-- There is no room for the number. -/
  | overflow (set : SparseSet)

namespace SparseSet

/-- The empty set for numbers below a capacity. -/
def withCapacity (capacity : Nat) : SparseSet :=
  ⟨0, Array.replicate capacity 0, Array.replicate capacity 0⟩

/-- Whether the set is empty. -/
def isEmpty (set : SparseSet) : Bool := set.count == 0

/-- Whether a number is a member: its place is one of a member, and the member there is the
number. -/
def contains (set : SparseSet) (value : Nat) : Bool :=
  let place := set.sparse.getD value 0
  place < set.count && set.dense.getD place 0 == value

/-- Adds a number. -/
def insert (set : SparseSet) (value : Nat) : Insertion :=
  if set.contains value then .present set
  else if set.count < set.dense.size then
    .added ⟨set.count + 1, set.dense.setIfInBounds set.count value,
      set.sparse.setIfInBounds value set.count⟩
  else .overflow set

/-- Removes all members. -/
def clear (set : SparseSet) : SparseSet := { set with count := 0 }

/-- The members, in the order of insertion. -/
def toList (set : SparseSet) : List Nat := set.dense.toList.take set.count

/-- An insertion of a member leaves the set as it is. -/
theorem eq_of_insert_present {set after : SparseSet} {value : Nat}
    (present : set.insert value = .present after) : after = set := by
  rw [insert] at present
  split at present
  · cases present
    rfl
  · split at present <;> cases present

/-- An insertion without room leaves the set as it is. -/
theorem eq_of_insert_overflow {set after : SparseSet} {value : Nat}
    (overflow : set.insert value = .overflow after) : after = set := by
  rw [insert] at overflow
  split at overflow
  · cases overflow
  · split at overflow
    · cases overflow
    · cases overflow
      rfl

/-- How many numbers may still be added. -/
def room (set : SparseSet) : Nat := set.dense.size - set.count

/-- An insertion takes up room. -/
theorem room_of_insert {set after : SparseSet} {value : Nat}
    (added : set.insert value = .added after) : after.room < set.room := by
  rw [insert] at added
  split at added
  · cases added
  · split at added
    · next below =>
      cases added
      simp only [room, Array.size_setIfInBounds]
      omega
    · cases added

end SparseSet

end Crosscheck
