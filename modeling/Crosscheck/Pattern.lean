/-
**Patterns.**

A pattern is the tree of a regexp: what an automaton is built from. Its measures are the lengths of
the matches it can have and the groups it captures.

* `Pattern.minLength`, `Pattern.maxLength`: bounds on the length of a match, where they are known;
* `Pattern.groupCount`, `Pattern.maxGroup`: how many groups there are and the greatest index.
-/
import Crosscheck.Look
import Crosscheck.Text.Bytes
import Crosscheck.Text.RangeSet

namespace Crosscheck

/-- The tree of a regexp. -/
inductive Pattern where
  /-- Matches the empty string. -/
  | empty
  /-- Matches the given bytes. -/
  | literal (bytes : Bytes)
  /-- Matches one byte of a set. -/
  | byteClass (bytes : RangeSet)
  /-- Matches one character of a set. -/
  | charClass (chars : RangeSet)
  /-- Matches the empty string where an assertion holds. -/
  | look (look : Look)
  /-- Matches the empty string where a word assertion holds that knows the words of all scripts. -/
  | wideLook (look : Look)
  /-- Matches the body at least `min` and at most `max` times, as often as possible or as seldom. -/
  | repetition (min : Nat) (max : Option Nat) (greedy : Bool) (body : Pattern)
  /-- Matches the body and captures where. -/
  | group (index : Nat) (body : Pattern)
  /-- Matches the parts one after the other. -/
  | concat (parts : List Pattern)
  /-- Matches one of the branches, an earlier one rather than a later one. -/
  | alternation (branches : List Pattern)

namespace Pattern

/-- The number of bytes of a character. -/
def charLength (char : Nat) : Nat :=
  if char ≤ 0x7F then 1 else if char ≤ 0x7FF then 2 else if char ≤ 0xFFFF then 3 else 4

mutual

/-- The least length of a match. It is unknown where a class is empty, and in whatever holds a part
of which it is unknown. -/
def minLength : Pattern → Option Nat
  | empty => some 0
  | literal bytes => some bytes.length
  | byteClass bytes => if bytes.isEmpty then none else some 1
  | charClass chars => chars.head?.map (charLength ·.first)
  | look _ => some 0
  | wideLook _ => some 0
  | repetition min _ _ body => (minLength body).map (· * min)
  | group _ body => minLength body
  | concat parts => minLengthSum parts
  | alternation branches => minLengthLeast branches

/-- The least length of a match of all parts together. -/
def minLengthSum : List Pattern → Option Nat
  | [] => some 0
  | part :: rest => do return (← minLength part) + (← minLengthSum rest)

/-- The least length of a match of some branch. -/
def minLengthLeast : List Pattern → Option Nat
  | [] => none
  | [branch] => minLength branch
  | branch :: rest => do return min (← minLength branch) (← minLengthLeast rest)

end

mutual

/-- The greatest length of a match. It is unknown where there is none, where a class is empty, and
in whatever holds a part of which it is unknown. -/
def maxLength : Pattern → Option Nat
  | empty => some 0
  | literal bytes => some bytes.length
  | byteClass bytes => if bytes.isEmpty then none else some 1
  | charClass chars => chars.getLast?.map (charLength ·.last)
  | look _ => some 0
  | wideLook _ => some 0
  | repetition _ max _ body => do return (← maxLength body) * (← max)
  | group _ body => maxLength body
  | concat parts => maxLengthSum parts
  | alternation branches => maxLengthGreatest branches

/-- The greatest length of a match of all parts together. -/
def maxLengthSum : List Pattern → Option Nat
  | [] => some 0
  | part :: rest => do return (← maxLength part) + (← maxLengthSum rest)

/-- The greatest length of a match of any branch. -/
def maxLengthGreatest : List Pattern → Option Nat
  | [] => none
  | [branch] => maxLength branch
  | branch :: rest => do return max (← maxLength branch) (← maxLengthGreatest rest)

end

mutual

/-- How many groups a pattern holds. -/
def groupCount : Pattern → Nat
  | repetition _ _ _ body => groupCount body
  | group _ body => groupCount body + 1
  | concat parts => groupCounts parts
  | alternation branches => groupCounts branches
  | _ => 0

/-- How many groups the patterns of a list hold. -/
def groupCounts : List Pattern → Nat
  | [] => 0
  | part :: rest => groupCount part + groupCounts rest

end

mutual

/-- The greatest index of a group in a pattern, or zero when it holds none. -/
def maxGroup : Pattern → Nat
  | repetition _ _ _ body => maxGroup body
  | group index body => max index (maxGroup body)
  | concat parts => maxGroups parts
  | alternation branches => maxGroups branches
  | _ => 0

/-- The greatest index of a group in the patterns of a list, or zero. -/
def maxGroups : List Pattern → Nat
  | [] => 0
  | part :: rest => max (maxGroup part) (maxGroups rest)

end

mutual

/-- Whether two patterns are the same tree. -/
def same : Pattern → Pattern → Bool
  | empty, empty => true
  | literal bytes, literal other => bytes == other
  | byteClass bytes, byteClass other => bytes == other
  | charClass chars, charClass other => chars == other
  | look one, look other => one == other
  | wideLook one, wideLook other => one == other
  | repetition min max greedy body, repetition min' max' greedy' body' =>
    min == min' && max == max' && greedy == greedy' && same body body'
  | group index body, group index' body' => index == index' && same body body'
  | concat parts, concat others => sameAll parts others
  | alternation branches, alternation others => sameAll branches others
  | _, _ => false

/-- Whether two lists hold the same trees. -/
def sameAll : List Pattern → List Pattern → Bool
  | [], [] => true
  | part :: rest, other :: others => same part other && sameAll rest others
  | _, _ => false

end

end Pattern

end Crosscheck
