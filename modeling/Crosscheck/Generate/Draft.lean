/-
**Random programs.**

A random program grows from the empty program. At each turn it may stop, when it leaves exactly one
regexp; it is abandoned when it has grown too big to come back to one; otherwise an operator or an
atom is added, each with even odds, or nothing happens. Stopping gets likelier as atoms run out.

* `Draft.turn`: one turn, for any dice;
* `Draft.draw`: turns until the program stops or is abandoned.
-/
import Crosscheck.Generate.Program
import Crosscheck.Random.Stream

namespace Crosscheck

/-- A program on its way, with what it has used and what it leaves. -/
structure Node where
  /-- The steps, last step first. -/
  steps : List Token
  /-- How many regexps it leaves. -/
  depth : Nat
  /-- How many operators it uses. -/
  operators : Nat
  /-- How many atoms it uses. -/
  atoms : Nat
  deriving DecidableEq

namespace Node

/-- The empty program. -/
def empty : Node := ⟨[], 0, 0, 0⟩

/-- The program of a node. -/
def program (node : Node) : Program := node.steps.reverse

/-- The program with one more atom. -/
def withAtom (node : Node) (index : Nat) : Node :=
  ⟨.atom index :: node.steps, node.depth + 1, node.operators, node.atoms + 1⟩

/-- The program with one more operator of the given arity. -/
def withOperator (node : Node) (index arity : Nat) : Node :=
  ⟨.operator index :: node.steps, node.depth - arity + 1, node.operators + 1, node.atoms⟩

/-- Whether the program leaves too many regexps for the operators that may still follow. -/
def isHopeless (space : Space) (node : Node) : Bool := space.limit < node.operators + node.depth

end Node

/-- What one turn makes of a program. -/
inductive Turn where
  /-- The program stops here. -/
  | finished (program : Program)
  /-- The program is given up. -/
  | abandoned
  /-- The program goes on, longer by one step or the same. -/
  | continued (node : Node)
  deriving DecidableEq

namespace Draft

variable {σ : Type}

/-- Whether some operator may still be applied. -/
def canApply (space : Space) (node : Node) : Bool :=
  node.operators < space.maxOperators && space.arities.any (· ≤ node.depth)

/-- Whether no step can lead on from a program that does not leave one regexp. -/
def isStuck (space : Space) (node : Node) : Bool :=
  node.depth != 1 && node.atoms == space.maxAtoms && !canApply space node

/-- Decides whether a program that leaves one regexp stops. -/
def drawStop (space : Space) (dice : Dice σ) (node : Node) (state : σ) : Bool × σ :=
  if node.depth = 1 then
    let (number, state) := dice.below (space.maxAtoms - node.atoms + 1) state
    (number == 0, state)
  else (false, state)

/-- Adds an operator, if the dice say so and it finds enough operands. -/
def drawOperator (space : Space) (dice : Dice σ) (node : Node) (state : σ) : Option Node × σ :=
  if node.operators < space.maxOperators ∧ space.arities ≠ [] then
    let (heads, state) := dice.coin state
    if heads then
      let (index, state) := dice.below space.arities.length state
      let arity := space.arities.getD index 0
      if arity ≤ node.depth then (some (node.withOperator index arity), state) else (none, state)
    else (none, state)
  else (none, state)

/-- Adds an atom, if the dice say so. -/
def drawAtom (space : Space) (dice : Dice σ) (node : Node) (state : σ) : Node × σ :=
  if node.atoms < space.maxAtoms then
    let (heads, state) := dice.coin state
    if heads then
      let (index, state) := dice.below space.atoms.length state
      (node.withAtom index, state)
    else (node, state)
  else (node, state)

/-- One turn of a growing program. -/
def turn (space : Space) (dice : Dice σ) (node : Node) (state : σ) : Turn × σ :=
  let (stops, state) := drawStop space dice node state
  if stops then (.finished node.program, state)
  else if node.isHopeless space || isStuck space node then (.abandoned, state)
  else
    match drawOperator space dice node state with
    | (some longer, state) => (.continued longer, state)
    | (none, state) =>
      let (node, state) := drawAtom space dice node state
      (.continued node, state)

/-- Takes turns until the program stops or is abandoned, at most `fuel` of them. -/
def grow (space : Space) (dice : Dice σ) : Nat → Node → σ → Option Program × σ
  | 0, _, state => (none, state)
  | fuel + 1, node, state =>
    match turn space dice node state with
    | (.finished program, state) => (some program, state)
    | (.abandoned, state) => (none, state)
    | (.continued node, state) => grow space dice fuel node state

/-- Draws a program; none when it was abandoned. -/
def draw (space : Space) (dice : Dice σ) (state : σ) : Option Program × σ :=
  grow space dice Stream.patience .empty state

end Draft

end Crosscheck
