/-
**Sets of numbers as ranges.**

Character classes and the properties of characters are sets of numbers, kept as a list of ranges. A
set made by `RangeSet.ofRanges` is in normal form: the ranges are in ascending order and no two of
them touch. The members are the codes of bytes or of characters. Codes of characters leave out the
surrogates: a range may run across them, but a range that is cut next to them ends at the character
on the near side.

* `Codes.bytes`, `Codes.chars`: the codes that there are, and which are neighbours;
* `RangeSet.difference`, `RangeSet.complement`: what is cut out of a set, and what it leaves over;
* `RangeSet.ofSteps`: a set written as alternating gaps and lengths, the form of the tables of
  character properties.
-/

namespace Crosscheck

/-- The codes that sets are made of. The least is 0. -/
structure Codes where
  /-- The greatest code. -/
  last : Nat
  /-- The code after one that is not the greatest. -/
  after : Nat → Nat
  /-- The code before one that is not the least. -/
  before : Nat → Nat

namespace Codes

/-- The bytes. -/
def bytes : Codes := ⟨0xFF, (· + 1), (· - 1)⟩

/-- The characters, among which there are no surrogates. -/
def chars : Codes where
  last := 0x10FFFF
  after code := if code = 0xD7FF then 0xE000 else code + 1
  before code := if code = 0xE000 then 0xD7FF else code - 1

end Codes

/-- The numbers from `first` to `last`, both included. -/
structure Range where
  /-- The least number. -/
  first : Nat
  /-- The greatest number. -/
  last : Nat
  deriving DecidableEq

namespace Range

/-- Whether a number lies in the range. -/
def contains (range : Range) (value : Nat) : Bool :=
  range.first ≤ value && value ≤ range.last

/-- The numbers of both ranges, if there are any. -/
def meet? (range other : Range) : Option Range :=
  let first := max range.first other.first
  let last := min range.last other.last
  if first ≤ last then some ⟨first, last⟩ else none

/-- The range of all numbers between two, which come in either order. -/
def between (bound other : Nat) : Range := ⟨min bound other, max bound other⟩

/-- What is left of the first range without the second: the part below it and the part above it. -/
def minus (codes : Codes) (range other : Range) : List Range :=
  if other.last < range.first || range.last < other.first then [range]
  else
    (if range.first < other.first then [⟨range.first, codes.before other.first⟩] else []) ++
      (if other.last < range.last then [⟨codes.after other.last, range.last⟩] else [])

/-- The order by least number, then by greatest. -/
def precedes (range other : Range) : Bool :=
  range.first < other.first || (range.first == other.first && range.last ≤ other.last)

end Range

/-- A set of numbers as a list of ranges. -/
abbrev RangeSet := List Range

namespace RangeSet

/-- Joins ranges that overlap or follow on from each other, in a list that is in order. -/
def merge : List Range → RangeSet
  | [] => []
  | [range] => [range]
  | range :: next :: rest =>
    if next.first ≤ range.last + 1 then merge (⟨range.first, max range.last next.last⟩ :: rest)
    else range :: merge (next :: rest)
termination_by ranges => ranges.length

/-- The normal form of the set of all numbers in the given ranges. -/
def ofRanges (ranges : List Range) : RangeSet :=
  merge (ranges.mergeSort Range.precedes)

/-- Whether a number is in the set. -/
def contains (set : RangeSet) (value : Nat) : Bool :=
  set.any (·.contains value)

/-- The numbers in either set. -/
def union (set other : RangeSet) : RangeSet :=
  ofRanges (set ++ other)

/-- The numbers in both sets. -/
def intersection (set other : RangeSet) : RangeSet :=
  ofRanges (set.flatMap fun range => other.filterMap range.meet?)

/-- The codes in the first set and not in the second. -/
def difference (codes : Codes) (set other : RangeSet) : RangeSet :=
  other.foldl (fun left range => left.flatMap (Range.minus codes · range)) set

/-- The codes in exactly one of the sets. -/
def symmetricDifference (codes : Codes) (set other : RangeSet) : RangeSet :=
  difference codes (union set other) (intersection set other)

/-- The gaps above a code, up to the greatest code: one before each range of the set, and one after
the last. Between ranges that only the surrogates part there is no code, and the gap comes out as
the two codes at its edges. -/
def gapsAbove (codes : Codes) (code : Nat) : RangeSet → RangeSet
  | [] => if code < codes.last then [⟨codes.after code, codes.last⟩] else []
  | range :: rest =>
    Range.between (codes.after code) (codes.before range.first) ::
      gapsAbove codes range.last rest

/-- The gaps between the ranges of a set, which hold the codes outside of it. Gaps may touch. -/
def complement (codes : Codes) : RangeSet → RangeSet
  | [] => [⟨0, codes.last⟩]
  | range :: rest =>
    (if 0 < range.first then [⟨0, codes.before range.first⟩] else []) ++
      gapsAbove codes range.last rest

/-- Whether every number of the set is at most `bound`. -/
def allAtMost (set : RangeSet) (bound : Nat) : Bool :=
  set.all (·.last ≤ bound)

/-- The number in the set, when there is exactly one. -/
def single? : RangeSet → Option Nat
  | [range] => if range.first = range.last then some range.first else none
  | _ => none

/-- The ranges given by alternating numbers: how many to leave out, then how many to take. -/
def ofGapsAndRuns (start : Nat) : List Nat → RangeSet
  | gap :: run :: rest =>
    ⟨start + gap, start + gap + run - 1⟩ :: ofGapsAndRuns (start + gap + run) rest
  | _ => []

/-- Reads a set written as alternating gaps and lengths, in decimal and separated by blanks, over
any number of lines. -/
def ofSteps (lines : List String) : RangeSet :=
  ofGapsAndRuns 0 (lines.flatMap fun line => (line.splitOn " ").filterMap (·.toNat?))

end RangeSet

end Crosscheck
