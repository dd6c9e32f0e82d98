/-
**Tables of results.**

* `Table.text`: labels to the right of their column, and two blanks between a label and its value;
* `Table.ofText`, `Table.ofTexts`, `Table.ofNat`, `Table.ofBool`, `Table.ofDraws`: values.
-/
import Crosscheck.Run.Configuration
import Crosscheck.Text.Literal

namespace Crosscheck

/-- Labels with their values. -/
abbrev Table := List (String × String)

namespace Table

/-- A text as a value. -/
def ofText (text : String) : String := Literal.ofText text

/-- Texts as a value. -/
def ofTexts (texts : List String) : String :=
  "[" ++ ", ".intercalate (texts.map Literal.ofText) ++ "]"

/-- A number as a value. -/
def ofNat (value : Nat) : String := toString value

/-- A yes or no as a value. -/
def ofBool (value : Bool) : String := if value then "true" else "false"

/-- A seed with a count as a value. -/
def ofDraws : Option Draws → String
  | some draws => s!"Some(({draws.seed}, {draws.count}))"
  | none => "None"

/-- The value of a time. Times are not measured. -/
def unmeasured : String := "_"

/-- The width of the column of labels. -/
def width (table : Table) : Nat :=
  table.foldl (fun width (label, _) => max width (label.length + 1)) 0

/-- The line of a label and its value. -/
def line (width : Nat) (label value : String) : String :=
  "".pushn ' ' (width - (label.length + 1)) ++ label ++ ":  " ++ value ++ "\n"

/-- The lines of a table. -/
def text (table : Table) : String :=
  String.join (table.map fun (label, value) => line table.width label value)

end Table

end Crosscheck
