/-
**Simplified patterns.**

Patterns are made by constructors that simplify: a class of one member is a literal, a repetition of
what can only match the empty string is passed at most once, neighbouring literals are one literal,
single characters side by side in an alternation are one class, and what all branches of an
alternation start with is taken out in front.

* `Simplified.byteClass`, `Simplified.charClass`: classes;
* `Simplified.repetition`, `Simplified.concat`, `Simplified.alternation`: the simplified composites.
-/
import Crosscheck.Pattern

namespace Crosscheck

namespace Pattern

mutual

/-- The number of nodes of a pattern. -/
def size : Pattern → Nat
  | repetition _ _ _ body => size body + 1
  | group _ body => size body + 1
  | concat parts => sizes parts + 1
  | alternation branches => sizes branches + 1
  | _ => 1

/-- The number of nodes of the patterns of a list. -/
def sizes : List Pattern → Nat
  | [] => 0
  | part :: rest => size part + sizes rest

end

end Pattern

namespace Simplified

/-- The pattern that matches nothing. -/
def fail : Pattern := .byteClass []

/-- The pattern of the given bytes. -/
def literal (bytes : Bytes) : Pattern := if bytes.isEmpty then .empty else .literal bytes

/-- The pattern of a set of bytes. -/
def byteClass (bytes : RangeSet) : Pattern :=
  match RangeSet.single? bytes with
  | some byte => .literal [byte.toUInt8]
  | none => .byteClass bytes

/-- The pattern of a set of characters. -/
def charClass (chars : RangeSet) : Pattern :=
  if chars.isEmpty then fail
  else match RangeSet.single? chars with
    | some char => .literal (String.utf8EncodeChar (Char.ofNat char))
    | none => .charClass chars

/-- The pattern of a repetition. -/
def repetition (min : Nat) (max : Option Nat) (greedy : Bool) (body : Pattern) : Pattern :=
  let (min, max) :=
    if body.maxLength = some 0 then (Nat.min min 1, some ((max.map (Nat.min · 1)).getD 1))
    else (min, max)
  if min = 0 ∧ max = some 0 then .empty
  else if min = 1 ∧ max = some 1 then body
  else .repetition min max greedy body

/-! ### Concatenations -/

/-- What a part adds to a concatenation. -/
def partsOf : Pattern → List Pattern
  | .empty => []
  | .concat parts => parts
  | part => [part]

/-- Joins neighbouring literals. -/
def joinLiterals : List Pattern → List Pattern
  | .literal bytes :: rest =>
    match joinLiterals rest with
    | .literal more :: rest => .literal (bytes ++ more) :: rest
    | rest => .literal bytes :: rest
  | part :: rest => part :: joinLiterals rest
  | [] => []

/-- The pattern of parts one after the other. -/
def concat (parts : List Pattern) : Pattern :=
  match joinLiterals (parts.flatMap partsOf) with
  | [] => .empty
  | [part] => part
  | parts => .concat parts

/-! ### Alternations -/

/-- What a branch adds to an alternation. -/
def branchesOf : Pattern → List Pattern
  | .alternation branches => branches
  | branch => [branch]

/-- The character of a literal that holds exactly one. -/
def singleChar? : Pattern → Option Range
  | .literal bytes => do
    let char ← Bytes.firstChar? bytes
    if bytes.length = char.utf8Size then some ⟨char.toNat, char.toNat⟩ else none
  | _ => none

/-- The byte of a literal that holds exactly one. -/
def singleByte? : Pattern → Option Range
  | .literal [byte] => some ⟨byte.toNat, byte.toNat⟩
  | _ => none

/-- The members of a class as characters. Bytes beyond ASCII are no characters. -/
def classChars? : Pattern → Option RangeSet
  | .charClass chars => some chars
  | .byteClass bytes => if RangeSet.allAtMost bytes 0x7F then some bytes else none
  | _ => none

/-- The members of a class as bytes. Characters beyond ASCII are no bytes. -/
def classBytes? : Pattern → Option RangeSet
  | .byteClass bytes => some bytes
  | .charClass chars => if RangeSet.allAtMost chars 0x7F then some chars else none
  | _ => none

/-- The class that branches come to when each is a character, each is a byte, or each is a class. -/
def classOf? (branches : List Pattern) : Option Pattern :=
  ((branches.mapM singleChar?).map fun chars => charClass (.ofRanges chars)).or <|
  ((branches.mapM singleByte?).map fun bytes => byteClass (.ofRanges bytes)).or <|
  ((branches.mapM classChars?).map fun sets => charClass (.ofRanges sets.flatten)).or <|
  (branches.mapM classBytes?).map fun sets => byteClass (.ofRanges sets.flatten)

/-- The parts of a concatenation. -/
def concatParts? : Pattern → Option (List Pattern)
  | .concat parts => some parts
  | _ => none

/-- How many parts two concatenations have in common at their beginning. -/
def commonLength : List Pattern → List Pattern → Nat
  | part :: rest, other :: others =>
    if Pattern.same part other then commonLength rest others + 1 else 0
  | _, _ => 0

/-- The parts that all concatenations start with, and what follows in each. -/
def commonStart? (branches : List Pattern) : Option (List Pattern × List (List Pattern)) :=
  match branches.mapM concatParts? with
  | some (first :: others) =>
    let length := others.foldl (fun length other => min length (commonLength first other))
      first.length
    if length = 0 then none
    else some (first.take length, (first :: others).map (·.drop length))
  | _ => none

/-- The pattern of one of several branches. What all branches start with is taken out at most `fuel`
times. -/
def alternationWith : Nat → List Pattern → Pattern
  | fuel, branches =>
    match branches.flatMap branchesOf with
    | [] => fail
    | [branch] => branch
    | branches =>
      match classOf? branches with
      | some pattern => pattern
      | none =>
        match fuel, commonStart? branches with
        | fuel + 1, some (start, rests) =>
          concat (start ++ [alternationWith fuel (rests.map concat)])
        | _, _ => .alternation branches

/-- The pattern of one of several branches. -/
def alternation (branches : List Pattern) : Pattern :=
  alternationWith (Pattern.sizes branches) branches

end Simplified

end Crosscheck
