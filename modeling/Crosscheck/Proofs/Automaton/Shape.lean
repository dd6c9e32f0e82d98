/-
**Shapes of fragments.**

A pattern decides the shape of its fragment: which states there are and how they lead to each other.
Where the states stand does not matter. A shape tells of a graph that a fragment of it is entered at
a state, and that leaving the fragment leads to a state.

* `Shape.followedBy`, `Shape.optional`, `Shape.loop` and others: one shape for each way of building;
* `Pattern.shape`: the shape of the fragment of a pattern.
-/
import Crosscheck.Automaton.Build
import Mathlib.Data.List.Forall2

namespace Crosscheck

/-- The states of an automaton, by their numbers. -/
abbrev Graph := Nat → State

/-- A property of a graph, the state where a fragment is entered, and the state to which it
leads. -/
abbrev Shape := Graph → Nat → Nat → Prop

namespace Shape

variable (body : Shape) (greedy : Bool)

/-- One state. -/
def single (state : State) : Shape := fun graph first next => graph first = state.redirect next

/-- A choice between two ways, the first of which is preferred if it is greedy. -/
def Chooses (graph : Graph) (greedy : Bool) (choice one other : Nat) : Prop :=
  graph choice = .splits [one, other] (!greedy)

/-- One fragment behind the other. -/
def followedBy (one other : Shape) : Shape := fun graph first next =>
  ∃ middle, one graph first middle ∧ other graph middle next

/-- States for the bytes of a list behind a fragment. -/
def bytesAfter (whole : Shape) : Bytes → Shape
  | [] => whole
  | byte :: rest => bytesAfter (whole.followedBy (single (.byte 0 byte))) rest

/-- States for the bytes of a list. -/
def literal : Bytes → Shape
  | [] => single (.goto 0 none)
  | byte :: rest => bytesAfter (single (.byte 0 byte)) rest

/-- Copies of a body behind a fragment. -/
def copiesAfter (whole : Shape) : Nat → Shape
  | 0 => whole
  | count + 1 => copiesAfter (whole.followedBy body) count

/-- Copies of a body. -/
def exactly : Nat → Shape
  | 0 => single (.goto 0 none)
  | count + 1 => copiesAfter body body count

/-- Copies of a body, each of which may be passed over together with all that follow. -/
def optionalCopies : Nat → Shape
  | 0 => fun _ first next => first = next
  | count + 1 => fun graph first next =>
    ∃ inner middle, Chooses graph greedy first inner next ∧ body graph inner middle ∧
      optionalCopies count graph middle next

/-- A body that may be passed over. -/
def optional : Shape := (optionalCopies body greedy 1).followedBy (single (.goto 0 none))

/-- As many copies as there must be, and as many more as there may be. -/
def bounded (min max : Nat) : Shape :=
  ((exactly body min).followedBy (optionalCopies body greedy (max - min))).followedBy
    (single (.goto 0 none))

/-- A body that leads back to the choice before it. -/
def loop : Shape := fun graph first next =>
  ∃ inner, Chooses graph greedy first inner next ∧ body graph inner first

/-- A body that leads to a choice behind it. -/
def atLeastOnce : Shape := fun graph first next =>
  ∃ again, body graph first again ∧ Chooses graph greedy again first next

/-- A loop whose choice is behind its body is the loop whose choice is before it, behind the
body. -/
theorem atLeastOnce_le {graph : Graph} {first next : Nat}
    (shaped : atLeastOnce body greedy graph first next) :
    (body.followedBy (loop body greedy)) graph first next := by
  obtain ⟨again, bodied, choice⟩ := shaped
  exact ⟨again, bodied, first, choice, bodied⟩

/-- A loop of its own behind a choice. -/
def enteredLoop : Shape := optional (atLeastOnce body greedy) greedy

/-- The shape of a repetition without a greatest number. -/
def atLeast (rule : LoopRule) (minLength : Option Nat) : Nat → Shape
  | 0 => if rule.hasOwnEntry minLength then enteredLoop body greedy else loop body greedy
  | 1 => atLeastOnce body greedy
  | count + 1 => (exactly body count).followedBy (atLeastOnce body greedy)

/-- The shape of a repetition. -/
def repetition (rule : LoopRule) (minLength : Option Nat) (min : Nat) (max : Option Nat) : Shape :=
  match max with
  | none => atLeast body greedy rule minLength min
  | some max =>
    if min = 0 ∧ max = 1 then optional body greedy
    else if min = max then exactly body min
    else bounded body greedy min max

/-- A body between the states that store where it starts and ends. -/
def group (index : Nat) : Shape := fun graph first next =>
  ∃ inner last, graph first = .capture inner (index * 2) ∧ body graph inner last ∧
    graph last = .capture next (index * 2 + 1)

/-- Branches that are entered through one choice and lead to one state. -/
def branching (branches : List Shape) : Shape := fun graph first next =>
  ∃ entries, graph first = .splits entries false ∧
    List.Forall₂ (fun branch entry => branch graph entry next) branches entries

/-- Branches that are entered through one choice and left through one state. -/
def alternation (branches : List Shape) : Shape :=
  (branching branches).followedBy (single (.goto 0 none))

end Shape

namespace Pattern

mutual

/-- The shape of the fragment of a pattern. -/
def shape (rule : LoopRule) : Pattern → Shape
  | empty => Shape.single (.goto 0 none)
  | literal bytes => Shape.literal bytes
  | byteClass bytes | charClass bytes =>
    Shape.single (if bytes.isEmpty then .fail else .ranges 0 bytes)
  | look assertion => Shape.single (.goto 0 (some assertion))
  | wideLook _ => Shape.single .fail
  | repetition min max greedy body =>
    (shape rule body).repetition greedy rule body.minLength min max
  | group index body => (shape rule body).group index
  | concat [] => Shape.single (.goto 0 none)
  | concat (part :: rest) => partsShape rule (shape rule part) rest
  | alternation [] => Shape.single .fail
  | alternation [branch] => shape rule branch
  | alternation (one :: other :: rest) =>
    Shape.alternation (shape rule one :: shape rule other :: branchShapes rule rest)

/-- The shape of patterns behind a fragment. -/
def partsShape (rule : LoopRule) (whole : Shape) : List Pattern → Shape
  | [] => whole
  | part :: rest => partsShape rule (whole.followedBy (shape rule part)) rest

/-- The shapes of further branches. -/
def branchShapes (rule : LoopRule) : List Pattern → List Shape
  | [] => []
  | branch :: rest => shape rule branch :: branchShapes rule rest

end

end Pattern

end Crosscheck
