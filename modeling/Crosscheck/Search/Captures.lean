/-
**Matches and their groups.**

A match has an overall span, which is group 0, and a span or none for each further group.

* `Captures.ofSpans`: the match with the given groups;
* `Captures.ofSlots?`: the match that slots hold, two for each group.
-/
import Crosscheck.Violation

namespace Crosscheck

/-- Where something matched: from `start` up to, and without, `stop`. -/
structure Span where
  /-- The first position. -/
  start : Nat
  /-- The position after the last. -/
  stop : Nat
  deriving DecidableEq

/-- A match. -/
structure Captures where
  /-- The span of the whole match. -/
  overall : Span
  /-- The spans of the groups from the first on; none for a group that took no part. -/
  groups : List (Option Span)
  deriving DecidableEq

/-- The slots of a search: a position, or none where none is stored. -/
abbrev Slots := Array (Option Nat)

namespace Captures

/-- The match with the given groups, group 0 first. -/
def ofSpans : List (Option Span) → Except Violation Captures
  | some overall :: groups => .ok ⟨overall, groups⟩
  | _ => .error .noOverallSpan

/-- All groups, group 0 first. -/
def spans (captures : Captures) : List (Option Span) := some captures.overall :: captures.groups

/-- The number of groups, group 0 included. -/
def length (captures : Captures) : Nat := captures.groups.length + 1

/-- The span of a group that took part. -/
def get? (captures : Captures) (index : Nat) : Option Span := (captures.spans[index]?).join

/-- The spans of slots, taken in pairs. A group is present when both its slots hold a position. -/
def pairs : List (Option Nat) → List (Option Span)
  | some start :: some stop :: rest => some ⟨start, stop⟩ :: pairs rest
  | _ :: _ :: rest => none :: pairs rest
  | [_] => [none]
  | [] => []

/-- The match that slots hold. -/
def ofSlots? (slots : Slots) : Option Captures :=
  match pairs slots.toList with
  | some overall :: groups => some ⟨overall, groups⟩
  | _ => none

end Captures

end Crosscheck
