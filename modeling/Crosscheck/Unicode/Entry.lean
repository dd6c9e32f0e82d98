/-
**Tables of named character sets.**

A property of characters is an entry of a table: the names it goes by, in lower case and without
separators, and the set of its characters as gaps and lengths (`RangeSet.ofSteps`).
-/
import Crosscheck.Text.RangeSet

namespace Crosscheck.Unicode

/-- A named set of characters. -/
structure Entry where
  /-- The names, in lower case and without blanks, hyphens and underscores. -/
  names : List String
  /-- The set, as alternating gaps and lengths over all lines. -/
  steps : List String

namespace Entry

/-- The set of an entry. -/
def set (entry : Entry) : RangeSet := .ofSteps entry.steps

/-- The set that goes by a name in a table. -/
def find? (table : List Entry) (name : String) : Option RangeSet :=
  (table.find? (·.names.contains name)).map set

end Entry

end Crosscheck.Unicode
