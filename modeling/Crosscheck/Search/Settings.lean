/-
**Search settings.**

A search is anchored or not, reports the first or the longest match, and is run by one of two
strategies.
-/

namespace Crosscheck

/-- Where a match has to be. -/
inductive Anchor where
  /-- Anywhere. -/
  | unanchored
  /-- At the beginning of the haystack. -/
  | start
  /-- From the beginning of the haystack to its end. -/
  | both
  deriving DecidableEq

/-- Which of several matches is reported. Both kinds report one that starts leftmost. -/
inductive MatchKind where
  /-- The one that is tried first. -/
  | leftmostFirst
  /-- The longest; among ways to match that, the one that is tried first. -/
  | leftmostLongest
  deriving DecidableEq

/-- How a search is run. -/
inductive Strategy where
  /-- All threads advance together, byte by byte. -/
  | lockstep
  /-- One path is followed at a time, and given up for the next. -/
  | backtracking
  deriving DecidableEq

/-- The settings of a search. -/
structure Search where
  /-- Where a match has to be. -/
  anchor : Anchor
  /-- Which match is reported. -/
  kind : MatchKind
  /-- How the search is run. -/
  strategy : Strategy
  deriving DecidableEq

namespace Anchor

/-- The name of an anchor. -/
def name : Anchor → String
  | unanchored => "Unanchored"
  | start => "Start"
  | both => "Both"

/-- All anchors, in the order in which they are checked. -/
def all : List Anchor := [unanchored, start, both]

end Anchor

namespace MatchKind

/-- The name of a match kind. -/
def name : MatchKind → String
  | leftmostFirst => "LeftmostFirst"
  | leftmostLongest => "LeftmostLongest"

/-- All match kinds, in the order in which they are checked. -/
def all : List MatchKind := [leftmostFirst, leftmostLongest]

end MatchKind

namespace Strategy

/-- The name of a strategy. -/
def name : Strategy → String
  | lockstep => "PikeVM"
  | backtracking => "Backtrack"

end Strategy

namespace Search

/-- An unanchored search for the first match, all threads together. -/
def standard : Search := ⟨.unanchored, .leftmostFirst, .lockstep⟩

end Search

end Crosscheck
