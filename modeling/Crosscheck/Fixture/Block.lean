/-
**Fixtures.**

A fixture keeps the results of regexps on haystacks, to be compared with those of another engine. It
is a sequence of blocks; a block has haystacks, and entries with one record for each of them.

* `Fixture`, `Fixture.Block`, `Fixture.Entry`: fixtures and their parts;
* `Fixture.regexps`: how many regexps a fixture has.
-/
import Crosscheck.Fixture.Record

namespace Crosscheck

namespace Fixture

/-- A regexp with its records. -/
structure Entry where
  /-- The regexp. -/
  regexp : String
  /-- The number of the line that introduces it, from 1 on. -/
  line : Nat
  /-- Its records, one for each haystack of the block. -/
  records : List Record
  deriving DecidableEq

/-- Haystacks and the results on them. -/
structure Block where
  /-- The haystacks. -/
  haystacks : List Bytes
  /-- The regexps with their records. -/
  entries : List Entry
  deriving DecidableEq

/-- The line that starts a block and is followed by its haystacks. -/
def haystacksHeader : Bytes := Bytes.ofText "strings"

/-- The line after the haystacks of a block. -/
def regexpsHeader : Bytes := Bytes.ofText "regexps"

end Fixture

/-- A sequence of blocks. -/
abbrev Fixture := List Fixture.Block

/-- How many regexps a fixture has. -/
def Fixture.regexps (fixture : Fixture) : Nat :=
  (fixture.flatMap (·.entries)).length

end Crosscheck
