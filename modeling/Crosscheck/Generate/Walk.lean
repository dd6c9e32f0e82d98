/-
**The walk over all programs.**

Programs are visited in depth-first order: a program before its extensions, an extension by an atom
before one by an operator, each in the order of its list. The walk is suspended after every program
that leaves one regexp. So it keeps a stack of frames, one for each beginning of the program it is
at, and every frame remembers by which choice its program is extended next.

A program is not extended when it could not come back down to one regexp, even if only binary
operators followed.

* `Frame.child?`, `Frame.extend?`: one choice, and the next choice that is possible;
* `Frame.visit`: visits a program;
* `Walk.arrive`: goes on to the next program that was not visited;
* `Walk.next`: the next program that leaves one regexp;
* `Walk.next_weight`: the walk comes to an end.
-/
import Crosscheck.Generate.Program

namespace Crosscheck

namespace Space

/-- How many steps there are to choose from. -/
def choices (space : Space) : Nat := space.atoms.length + space.operators.length

/-- The step of a choice. Choices below the number of atoms are atoms, the others operators. -/
def tokenOf (space : Space) (choice : Nat) : Token :=
  if choice < space.atoms.length then .atom choice else .operator (choice - space.atoms.length)

end Space

/-! ### Frames -/

/-- What is known of a program, and how far its extensions have been tried. -/
structure Frame where
  /-- How many regexps the program leaves. -/
  depth : Nat
  /-- How many operators it uses. -/
  operators : Nat
  /-- How many atoms it uses. -/
  atoms : Nat
  /-- Whether it was visited. -/
  visited : Bool
  /-- The choice that it is extended by next. -/
  nextChoice : Nat
  deriving DecidableEq

namespace Frame

/-- The frame of a program that was not visited yet. -/
def fresh (depth operators atoms : Nat) : Frame := ⟨depth, operators, atoms, false, 0⟩

/-- Whether the program leaves too many regexps for the operators that may still follow. -/
def isHopeless (space : Space) (frame : Frame) : Bool :=
  space.limit < frame.operators + frame.depth

/-- The program is visited, and not extended if it is hopeless. -/
def visit (space : Space) (frame : Frame) : Frame :=
  { frame with
    visited := true
    nextChoice := if frame.isHopeless space then space.choices else frame.nextChoice }

/-- The frame of the program with one more step, if that is within the bounds and finds its
operands. -/
def child? (space : Space) (frame : Frame) : Token → Option Frame
  | .atom _ =>
    if frame.atoms < space.maxAtoms then
      some (.fresh (frame.depth + 1) frame.operators (frame.atoms + 1))
    else none
  | .operator index =>
    let arity := space.arities.getD index 0
    if frame.operators < space.maxOperators ∧ arity ≤ frame.depth then
      some (.fresh (frame.depth - arity + 1) (frame.operators + 1) frame.atoms)
    else none

/-- The next choice that is possible: its step, the frame of the longer program, and the frame from
which the choices after it are left. -/
def extend? (space : Space) (frame : Frame) : Option (Token × Frame × Frame) :=
  if frame.nextChoice < space.choices then
    let token := space.tokenOf frame.nextChoice
    let later := { frame with nextChoice := frame.nextChoice + 1 }
    match frame.child? space token with
    | some child => some (token, child, later)
    | none => later.extend? space
  else none
termination_by space.choices - frame.nextChoice

/-! ### What a frame is still to cost -/

/-- How many more steps the program may take. -/
def room (space : Space) (frame : Frame) : Nat :=
  (space.maxAtoms - frame.atoms) + (space.maxOperators - frame.operators)

/-- A bound on the programs that start with one choice for a program that may take `room` more
steps, when there are `choices` for each step. -/
def branchWeight (choices : Nat) : Nat → Nat
  | 0 => 0
  | room + 1 => choices * branchWeight choices room + 1

/-- A bound on the programs that are still to be visited from a frame. -/
def weight (space : Space) (frame : Frame) : Nat :=
  (space.choices - frame.nextChoice) * branchWeight space.choices (frame.room space) +
    if frame.visited then 0 else 1

theorem weight_visit_lt {space : Space} {frame : Frame} (fresh : frame.visited = false) :
    (frame.visit space).weight space < frame.weight space := by
  unfold weight
  rw [fresh]
  refine Nat.lt_succ_of_le (Nat.mul_le_mul_right _ ?_)
  show space.choices - (if frame.isHopeless space then space.choices else frame.nextChoice) ≤ _
  split <;> omega

/-- A longer program has yet to be visited, and weighs as much as one choice. -/
theorem of_child? {space : Space} {frame child : Frame} {token : Token}
    (longer : frame.child? space token = some child) :
    child.visited = false ∧ child.nextChoice = 0 ∧
      child.weight space = branchWeight space.choices (frame.room space) := by
  cases token with
  | atom index =>
    simp only [child?, Option.ite_none_right_eq_some, Option.some.injEq] at longer
    obtain ⟨below, rfl⟩ := longer
    have room : frame.room space =
        (fresh (frame.depth + 1) frame.operators (frame.atoms + 1)).room space + 1 := by
      simp only [Frame.room, fresh]
      omega
    exact ⟨rfl, rfl, by rw [room]; rfl⟩
  | operator index =>
    simp only [child?, Option.ite_none_right_eq_some, Option.some.injEq] at longer
    obtain ⟨⟨below, -⟩, rfl⟩ := longer
    have room : frame.room space =
        (fresh (frame.depth - space.arities.getD index 0 + 1) (frame.operators + 1)
          frame.atoms).room space + 1 := by
      simp only [Frame.room, fresh]
      omega
    exact ⟨rfl, rfl, by rw [room]; rfl⟩

/-- A choice that is possible takes its weight off the frame. -/
theorem of_extend? {space : Space} {frame child later : Frame} {token : Token}
    (found : frame.extend? space = some (token, child, later)) :
    child.visited = false ∧ child.nextChoice = 0 ∧
      child.weight space + later.weight space ≤ frame.weight space := by
  fun_induction extend? space frame with
  | case1 frame below step later' child' longer =>
    obtain ⟨rfl, rfl, rfl⟩ : step = token ∧ child' = child ∧ later' = later := by
      simpa using found
    obtain ⟨fresh, first, same⟩ := of_child? longer
    refine ⟨fresh, first, ?_⟩
    have split : space.choices - frame.nextChoice =
        space.choices - (frame.nextChoice + 1) + 1 := by omega
    rw [same]
    unfold weight
    rw [split, Nat.add_mul, Nat.one_mul]
    show branchWeight space.choices (frame.room space) +
        ((space.choices - (frame.nextChoice + 1)) * branchWeight space.choices (frame.room space) +
          if frame.visited then 0 else 1) ≤ _
    omega
  | case2 frame below step later' none hypothesis =>
    obtain ⟨fresh, first, less⟩ := hypothesis found
    refine ⟨fresh, first, Nat.le_trans less (Nat.add_le_add_right (Nat.mul_le_mul_right _ ?_) _)⟩
    exact Nat.sub_le_sub_left (Nat.le_succ _) _
  | case3 => cases found

end Frame

/-! ### The walk -/

/-- The walk over all programs at some point. -/
structure Walk where
  /-- The steps of the program that it is at, last step first. -/
  steps : List Token
  /-- A frame for each beginning of this program, down to that of the empty program; no frame is
  left at the end. -/
  frames : List Frame

namespace Walk

/-- The walk before the first program, the empty one. -/
def start : Walk := ⟨[], [.fresh 0 0 0]⟩

/-- Goes on to the next program that was not visited, from the given program and its frames:
extends the program by the next choice, or goes back to the beginning one step shorter when there
is none. -/
def arriveFrom (space : Space) (steps : List Token) : List Frame → Walk
  | [] => ⟨steps, []⟩
  | frame :: frames =>
    if frame.visited then
      match frame.extend? space with
      | some (token, child, later) => ⟨token :: steps, child :: later :: frames⟩
      | none => arriveFrom space steps.tail frames
    else ⟨steps, frame :: frames⟩

/-- Goes on to the next program that was not visited, if there is one. -/
def arrive (space : Space) (walk : Walk) : Walk := arriveFrom space walk.steps walk.frames

/-- A bound on the programs that are still to be visited. -/
def weight (space : Space) (walk : Walk) : Nat :=
  walk.frames.foldr (fun frame others => frame.weight space + others) 0

/-- The walk arrives at a program that was not visited, and has become no longer. -/
theorem of_arriveFrom (space : Space) (steps : List Token) (frames : List Frame) :
    (∀ frame ∈ (arriveFrom space steps frames).frames.head?, frame.visited = false) ∧
      (arriveFrom space steps frames).weight space ≤ weight space ⟨steps, frames⟩ := by
  fun_induction arriveFrom space steps frames with
  | case1 steps => simp
  | case2 steps frame frames visited token child later longer =>
    obtain ⟨fresh, -, less⟩ := Frame.of_extend? longer
    refine ⟨by simpa using fresh, ?_⟩
    simp only [weight, List.foldr_cons]
    omega
  | case3 steps frame frames visited none hypothesis =>
    refine ⟨hypothesis.1, Nat.le_trans hypothesis.2 ?_⟩
    simp only [weight, List.foldr_cons]
    omega
  | case4 steps frame frames fresh => exact ⟨by simpa using fresh, Nat.le_refl _⟩

/-- Going on to the next program makes the walk no longer. -/
theorem weight_arrive_le (space : Space) (walk : Walk) :
    (walk.arrive space).weight space ≤ walk.weight space :=
  (of_arriveFrom space walk.steps walk.frames).2

/-- A visit makes it shorter. -/
theorem weight_visit_lt {space : Space} {frame : Frame} (unvisited : frame.visited = false)
    (steps : List Token) (frames : List Frame) :
    weight space ⟨steps, frame.visit space :: frames⟩ < weight space ⟨steps, frame :: frames⟩ := by
  have lighter : (frame.visit space).weight space < frame.weight space :=
    Frame.weight_visit_lt unvisited
  simp only [weight, List.foldr_cons]
  omega

section Arrive

variable {space : Space} {walk : Walk} {steps : List Token} {frame : Frame} {frames : List Frame}
  (here : walk.arrive space = ⟨steps, frame :: frames⟩)

include here

/-- The program that the walk arrives at was not visited. -/
theorem visited_of_arrive : frame.visited = false := by
  have first := (of_arriveFrom space walk.steps walk.frames).1
  rw [show arriveFrom space walk.steps walk.frames = ⟨steps, frame :: frames⟩ from here] at first
  exact first frame rfl

/-- Visiting the program that the walk arrives at makes it shorter. -/
theorem weight_of_arrive :
    weight space ⟨steps, frame.visit space :: frames⟩ < walk.weight space := by
  have less := weight_arrive_le space walk
  rw [here] at less
  exact Nat.lt_of_lt_of_le (weight_visit_lt (visited_of_arrive here) steps frames) less

end Arrive

/-- The next program that leaves one regexp, and the walk after it. -/
def next (space : Space) (walk : Walk) : Option Program × Walk :=
  match _here : walk.arrive space with
  | ⟨steps, []⟩ => (none, ⟨steps, []⟩)
  | ⟨steps, frame :: frames⟩ =>
    let after : Walk := ⟨steps, frame.visit space :: frames⟩
    if frame.depth = 1 then (some steps.reverse, after) else next space after
termination_by walk.weight space
decreasing_by exact weight_of_arrive _here

/-- The walk comes to an end: each program that is found makes it shorter. -/
theorem next_weight {space : Space} {walk after : Walk} {program : Program}
    (step : next space walk = (some program, after)) :
    after.weight space < walk.weight space := by
  fun_induction next space walk with
  | case1 => cases step
  | case2 walk steps frame frames here later single =>
    obtain ⟨-, rfl⟩ := Prod.mk.inj step
    exact weight_of_arrive here
  | case3 walk steps frame frames here later other hypothesis =>
    exact Nat.lt_trans (hypothesis step) (weight_of_arrive here)

end Walk

end Crosscheck
