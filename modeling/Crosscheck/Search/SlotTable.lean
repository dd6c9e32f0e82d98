/-
**Tables of slots.**

Each state of an automaton has a row of slots: those of the thread that reached it. A search uses
only the first few slots of each row. The table has one more row at its end, from which threads
start.

* `SlotTable.row`, `SlotTable.write`: the slots in use of a row;
* `SlotTable.scratch`: the number of the last row.
-/
import Crosscheck.Search.Captures

namespace Crosscheck

namespace Slots

/-- Replaces the first slots of the second argument by those of the first. -/
def onto (slots whole : Slots) : Slots := slots ++ whole.extract slots.size whole.size

end Slots

/-- A table of slots. -/
structure SlotTable where
  /-- The rows, one for each state and one more. -/
  rows : Array Slots
  /-- How many slots of each row are in use. -/
  tracked : Nat

namespace SlotTable

/-- The table for an automaton with the given numbers of states and slots. -/
def withSize (states slots : Nat) : SlotTable :=
  ⟨Array.replicate (states + 1) (Array.replicate slots none), slots⟩

/-- Sets how many slots of each row are in use. -/
def setup (table : SlotTable) (tracked : Nat) : SlotTable := { table with tracked := tracked }

/-- The slots in use of a row. -/
def row (table : SlotTable) (index : Nat) : Slots :=
  (table.rows.getD index #[]).extract 0 table.tracked

/-- The first slot of a row. -/
def start (table : SlotTable) (index : Nat) : Option Nat :=
  (table.rows.getD index #[]).getD 0 none

/-- Replaces the slots in use of a row. -/
def write (table : SlotTable) (index : Nat) (slots : Slots) : SlotTable :=
  { table with rows := table.rows.modify index slots.onto }

/-- The number of the row from which threads start. -/
def scratch (table : SlotTable) : Nat := table.rows.size - 1

end SlotTable

end Crosscheck
