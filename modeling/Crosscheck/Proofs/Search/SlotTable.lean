/-
**Rows of slots.**

A table that was made for an automaton has a row of slots for each state and one more, in which
nothing is ever stored. Writing a row changes what is in use of that row and nothing else.

* `SlotTable.Fits`: tables that belong to an automaton;
* `SlotTable.row_write`, `SlotTable.row_write_of_ne`: what is read after a write;
* `SlotTable.write_row`: writing back what is there changes nothing.
-/
import Crosscheck.Automaton.State
import Crosscheck.Search.SlotTable

namespace Crosscheck

namespace SlotTable

/-- A table with the rows of an automaton, of which the last one is blank. -/
structure Fits (table : SlotTable) (automaton : Automaton) : Prop where
  size_rows : table.rows.size = automaton.size + 1
  size_row : ∀ index ≤ automaton.size,
    (table.rows.getD index #[]).size = automaton.slotCount
  blank : table.rows.getD automaton.size #[] = Array.replicate automaton.slotCount none
  tracked_le : table.tracked ≤ automaton.slotCount

/-- Writing what is in use of a row over the row changes nothing. -/
theorem onto_extract (whole : Slots) (count : Nat) :
    Slots.onto (whole.extract 0 count) whole = whole := by
  rw [Slots.onto, Array.size_extract, Nat.sub_zero]
  rcases Nat.le_total count whole.size with below | above
  · rw [Nat.min_eq_left below, Array.extract_append_extract, Nat.zero_min, Nat.max_eq_right below,
      Array.extract_size]
  · rw [Nat.min_eq_right above, Array.extract_eq_self_of_le above,
      Array.extract_eq_empty_of_le (Nat.min_le_right _ _), Array.append_empty]

/-- **Writing back what is there** changes nothing. -/
theorem write_row (table : SlotTable) (index : Nat) :
    table.write index (table.row index) = table := by
  obtain ⟨rows, tracked⟩ := table
  simp only [write, row, mk.injEq, and_true]
  refine Array.ext (Array.size_modify ..) fun place inside inside' => ?_
  rw [Array.getElem_modify]
  split
  · next same =>
    subst same
    have read : rows.getD index #[] = rows[index] := (Array.getElem_eq_getD #[]).symm
    simp only [read]
    exact onto_extract ..
  · rfl

theorem getD_write (table : SlotTable) (index other : Nat) (slots : Slots) :
    (table.write index slots).rows.getD other #[] =
      if index = other ∧ other < table.rows.size then slots.onto (table.rows.getD other #[])
      else table.rows.getD other #[] := by
  rw [write, Array.getD_eq_getD_getElem?, Array.getD_eq_getD_getElem?, Array.getElem?_modify]
  by_cases inside : other < table.rows.size
  · rw [Array.getElem?_eq_getElem inside]
    by_cases same : index = other <;> simp [same, inside]
  · rw [Array.getElem?_eq_none (Nat.le_of_not_lt inside)]
    simp [inside]

/-- Writing a row leaves the others as they are, also beyond the slots in use. -/
theorem getD_write_of_ne {index other : Nat} (different : index ≠ other) (table : SlotTable)
    (slots : Slots) :
    (table.write index slots).rows.getD other #[] = table.rows.getD other #[] := by
  rw [getD_write, if_neg fun ⟨same, _⟩ => different same]

/-- **Writing a row leaves the others as they are.** -/
theorem row_write_of_ne {index other : Nat} (different : index ≠ other) (table : SlotTable)
    (slots : Slots) : (table.write index slots).row other = table.row other := by
  rw [row, getD_write_of_ne different]
  rfl

/-- **What was written is read**, if the row is there. -/
theorem row_write {table : SlotTable} {index : Nat} (within : index < table.rows.size)
    {slots : Slots} (size : slots.size = table.tracked) :
    (table.write index slots).row index = slots := by
  rw [row, getD_write, if_pos ⟨rfl, within⟩]
  simp only [write, Slots.onto, ← size]
  rw [Array.extract_append_left, Array.extract_size]

namespace Fits

variable {table : SlotTable} {automaton : Automaton} {index : Nat} {slots : Slots}

/-- The rows have as many slots in use as the table says. -/
theorem size_row_tracked (fits : table.Fits automaton) (inside : index ≤ automaton.size) :
    (table.row index).size = table.tracked := by
  rw [row, Array.size_extract, fits.size_row index inside]
  have := fits.tracked_le
  omega

/-- **What was written is read.** -/
theorem row_write_self (fits : table.Fits automaton) (inside : index < automaton.size)
    (size : slots.size = table.tracked) : (table.write index slots).row index = slots := by
  refine row_write ?_ size
  rw [fits.size_rows]
  omega

/-- **A table still fits after a row of a state was written.** -/
theorem write (fits : table.Fits automaton) (inside : index < automaton.size)
    (size : slots.size = table.tracked) : (table.write index slots).Fits automaton := by
  refine ⟨?_, fun other within => ?_, ?_, fits.tracked_le⟩
  · rw [SlotTable.write, Array.size_modify, fits.size_rows]
  · have width := fits.size_row other within
    have bound := fits.tracked_le
    rw [getD_write]
    split
    · rw [Slots.onto, Array.size_append, Array.size_extract, width]
      omega
    · exact width
  · rw [getD_write, if_neg fun ⟨same, _⟩ => by omega]
    exact fits.blank

/-- The first slot of a row is the first one in use. -/
theorem start_eq (fits : table.Fits automaton) (inside : index ≤ automaton.size)
    (some : 0 < table.tracked) : table.start index = (table.row index).getD 0 none := by
  have width := fits.size_row index inside
  have bound := fits.tracked_le
  rw [start, row]
  generalize table.rows.getD index #[] = whole at width
  rw [Array.getD_eq_getD_getElem?, Array.getD_eq_getD_getElem?, Array.getElem?_extract,
    if_pos (by omega)]

/-- The row that threads start from is blank. -/
theorem row_scratch (fits : table.Fits automaton) :
    table.row table.scratch = Array.replicate table.tracked none := by
  rw [row, scratch, fits.size_rows, Nat.add_sub_cancel, fits.blank, Array.extract_replicate,
    Nat.sub_zero, Nat.min_eq_left fits.tracked_le]

/-- A table can be set to use any of the slots. -/
theorem setup (fits : table.Fits automaton) {tracked : Nat}
    (bound : tracked ≤ automaton.slotCount) : (table.setup tracked).Fits automaton :=
  ⟨fits.size_rows, fits.size_row, fits.blank, bound⟩

end Fits

/-- A new table fits. -/
theorem fits_withSize (automaton : Automaton) :
    (withSize automaton.size automaton.slotCount).Fits automaton := by
  have rows : ∀ index ≤ automaton.size,
      (withSize automaton.size automaton.slotCount).rows.getD index #[] =
        Array.replicate automaton.slotCount none := by
    intro index inside
    rw [withSize, Array.getD_eq_getD_getElem?, Array.getElem?_replicate,
      if_pos (Nat.lt_succ_of_le inside)]
    rfl
  refine ⟨Array.size_replicate, fun index inside => ?_, rows _ (Nat.le_refl _), Nat.le_refl _⟩
  rw [rows index inside, Array.size_replicate]

end SlotTable

end Crosscheck
