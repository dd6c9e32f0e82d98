/-
**Random programs stay inside the space, and every draft can come to an end.**

Whatever is drawn, a turn of a growing program stops it, gives it up, leaves it as it is, or adds a
step that the walk over all programs could take too; and a program that is given up by the walk is
given up before anything is added to it. So a random program is one that the walk comes to.

At the beginning of every turn some draws lead to an end: a program that leaves one regexp may stop,
one that is stuck or hopeless is given up, and any other can be made longer, until there is no room.

* `Dice.written`: draws that are written down;
* `Draft.turn_cases`: what a turn can do;
* `Draft.mem_programs_of_grow`: a random program is one that the walk comes to;
* `Draft.Reaches`, `Draft.Returns`: where the turns of a draft lead, however many there are;
* `Draft.returns_iff_exists_grow`: a draft comes to a program when enough turns grow it;
* `Draft.exists_returns`: from wherever they lead, some draws lead to an end;
* `Draft.stays_inside`: both for the drafts of a source that was made.
-/
import Crosscheck.Proofs.Generate.Draws
import Crosscheck.Proofs.Generate.Pruning

namespace Crosscheck

/-! ### Draws -/

namespace Dice

/-- The draws that a list tells, each number taken modulo its bound and truth values as odd
numbers. -/
def written : Dice (List Nat) where
  below bound draws := (draws.headD 0 % bound, draws.tail)
  coin draws := (draws.headD 0 % 2 == 1, draws.tail)

theorem inRange_written : written.InRange :=
  fun _ _ positive => Nat.mod_lt _ positive

end Dice

/-! ### The programs of a draft -/

namespace Node

variable {space : Space} {node other : Node} {program : Program}

theorem run?_append (more : Program) :
    node.run? space (program ++ more) = (node.run? space program).bind (run? space · more) :=
  List.foldlM_append

end Node

/-- A program can be made longer by a step when it is not given up itself. -/
theorem Walk.hopeful_concat {space : Space} {node middle : Node} {program : Program}
    (hopeful : Hopeful space node program) (run : node.run? space program = some middle)
    (promising : middle.isHopeless space = false) (token : Token) :
    Hopeful space node (program ++ [token]) := by
  intro start more before split some run'
  rcases List.eq_nil_or_concat more with rfl | ⟨rest, last, rfl⟩
  · exact absurd rfl some
  rw [List.concat_eq_append, ← List.append_assoc] at split
  obtain ⟨rfl, -⟩ := List.append_inj' split rfl
  by_cases whole : rest = []
  · rw [whole, List.append_nil, run'] at run
    rwa [← Option.some.inj run] at promising
  · exact hopeful start rest before rfl whole run'

namespace Draft

variable {space : Space} {node longer : Node} {token : Token}

/-- **A program that was made step by step**, none of them from a program that is given up. -/
structure Grown (space : Space) (node : Node) : Prop where
  run_eq : Node.empty.run? space node.program = some node
  hopeful : Walk.Hopeful space .empty node.program

theorem grown_empty (space : Space) : Grown space .empty :=
  ⟨rfl, Walk.hopeful_nil space .empty⟩

theorem Grown.step (grown : Grown space node) (hopeful : node.isHopeless space = false)
    (step : node.step? space token = some longer) : Grown space longer := by
  have program : longer.program = node.program ++ [token] := by
    rw [Node.program, Node.steps_of_step? step, List.reverse_cons]
    rfl
  refine ⟨?_, ?_⟩
  · rw [program, Node.run?_append, grown.run_eq, Option.bind_some, Node.run?_cons, step]
    rfl
  · rw [program]
    exact Walk.hopeful_concat grown.hopeful grown.run_eq hopeful token

/-- A program that was made step by step is within the bounds. -/
theorem Grown.within (grown : Grown space node) :
    node.atoms ≤ space.maxAtoms ∧ node.operators ≤ space.maxOperators := by
  have adds := Node.adds_of_run? grown.run_eq
  have atoms := adds.atoms_le
  have operators := adds.operators_le
  simp only [Node.empty] at atoms operators
  omega

/-- **The walk comes to every program that was made step by step** and leaves one regexp. -/
theorem Grown.mem_programs (grown : Grown space node) (single : node.depth = 1) :
    node.program ∈ space.programs :=
  Space.mem_programs_iff.mpr
    ⟨(Node.builds_iff_exists_run? space _).mpr ⟨node, grown.run_eq, single⟩, grown.hopeful⟩

/-! ### One turn -/

section Turn

variable {σ : Type} {dice : Dice σ} {program : Program} {state after : σ}

theorem depth_of_drawStop (stops : (drawStop space dice node state).1 = true) :
    node.depth = 1 := by
  unfold drawStop at stops
  split at stops
  · next single => exact single
  · cases stops

variable (inRange : dice.InRange)

include inRange

theorem step_of_drawOperator (drawn : (drawOperator space dice node state).1 = some longer) :
    ∃ token, node.step? space token = some longer := by
  unfold drawOperator at drawn
  split at drawn
  · next room =>
    simp only at drawn
    split at drawn
    · generalize (dice.coin state).2 = state at drawn
      have within := inRange space.arities.length state (List.length_pos_iff.mpr room.2)
      generalize (dice.below space.arities.length state).1 = index at within drawn
      rw [List.getD_eq_getElem?_getD, List.getElem?_eq_getElem within, Option.getD_some] at drawn
      split at drawn
      · next enough =>
        obtain rfl := Option.some.inj drawn
        refine ⟨.operator index, ?_⟩
        rw [Node.step?, if_pos room.1, List.getElem?_eq_getElem within]
        exact if_pos enough
      · cases drawn
    · cases drawn
  · cases drawn

variable (atoms : space.atoms ≠ [])

include atoms

theorem step_of_drawAtom (drawn : (drawAtom space dice node state).1 = longer) :
    longer = node ∨ ∃ token, node.step? space token = some longer := by
  unfold drawAtom at drawn
  split at drawn
  · next room =>
    simp only at drawn
    split at drawn
    · generalize (dice.coin state).2 = state at drawn
      have within := inRange space.atoms.length state (List.length_pos_iff.mpr atoms)
      exact .inr ⟨.atom _, by rw [← drawn, Node.step?, if_pos ⟨room, within⟩]⟩
    · exact .inl drawn.symm
  · exact .inl drawn.symm

/-- **What a turn can do**: stop a program that leaves one regexp, give up one that is hopeless or
stuck, or go on with one that is not hopeless, as it is or with one more step. -/
theorem turn_cases (node : Node) (state : σ) :
    match (turn space dice node state).1 with
    | .finished program => program = node.program ∧ node.depth = 1
    | .abandoned => node.isHopeless space = true ∨ isStuck space node = true
    | .continued longer => node.isHopeless space = false ∧
        (longer = node ∨ ∃ token, node.step? space token = some longer) := by
  unfold turn
  cases stop : drawStop space dice node state with
  | mk stops state' =>
    cases stops with
    | true => exact ⟨rfl, depth_of_drawStop (by rw [stop])⟩
    | false =>
      by_cases given_up : (node.isHopeless space || isStuck space node) = true
      · simp only [given_up, Bool.false_eq_true, if_true, if_false]
        simpa using given_up
      · simp only [given_up, Bool.false_eq_true, if_false]
        simp only [Bool.or_eq_true, not_or, Bool.not_eq_true] at given_up
        cases drawn : drawOperator space dice node state' with
        | mk chosen state'' =>
          cases chosen with
          | some longer =>
            exact ⟨given_up.1, .inr (step_of_drawOperator inRange (by rw [drawn]))⟩
          | none => exact ⟨given_up.1, step_of_drawAtom inRange atoms rfl⟩

theorem Grown.continues (grown : Grown space node)
    (turned : turn space dice node state = (.continued longer, after)) : Grown space longer := by
  have goes_on := turn_cases inRange atoms node state
  rw [turned] at goes_on
  obtain ⟨hopeful, rfl | ⟨token, step⟩⟩ := goes_on
  · exact grown
  · exact grown.step hopeful step

theorem Grown.finishes (grown : Grown space node)
    (turned : turn space dice node state = (.finished program, after)) :
    program ∈ space.programs := by
  have stopped := turn_cases inRange atoms node state
  rw [turned] at stopped
  obtain ⟨rfl, single⟩ := stopped
  exact grown.mem_programs single

/-- **A random program is one that the walk comes to.** -/
theorem mem_programs_of_grow {fuel : Nat} (grown : Grown space node)
    (done : (grow space dice fuel node state).1 = some program) : program ∈ space.programs := by
  induction fuel generalizing node state with
  | zero => cases done
  | succ fuel hypothesis =>
    rw [grow] at done
    cases turned : turn space dice node state with
    | mk result after =>
      rw [turned] at done
      cases result with
      | finished found =>
        obtain rfl := Option.some.inj done
        exact grown.finishes inRange atoms turned
      | abandoned => cases done
      | continued longer => exact hypothesis (grown.continues inRange atoms turned) done

end Turn

/-! ### Where turns lead -/

section Runs

variable {σ : Type} {dice : Dice σ} {program : Program} {outcome : Option Program}
  {start state after : σ}

/-- The programs that a draft can have at the beginning of a turn, with what is left to draw. -/
inductive Reaches (space : Space) (dice : Dice σ) (start : σ) : Node → σ → Prop
  | start : Reaches space dice start .empty start
  | turn {node longer : Node} {state after : σ} (before : Reaches space dice start node state)
      (turned : Draft.turn space dice node state = (.continued longer, after)) :
      Reaches space dice start longer after

/-- A draft comes to an end: a program, or none when it was given up. -/
inductive Returns (space : Space) (dice : Dice σ) : Node → σ → Option Program → σ → Prop
  | finished {node : Node} {state after : σ} {program : Program}
      (turned : turn space dice node state = (.finished program, after)) :
      Returns space dice node state (some program) after
  | abandoned {node : Node} {state after : σ}
      (turned : turn space dice node state = (.abandoned, after)) :
      Returns space dice node state none after
  | continued {node longer : Node} {state middle after : σ} {outcome : Option Program}
      (turned : turn space dice node state = (.continued longer, middle))
      (others : Returns space dice longer middle outcome after) :
      Returns space dice node state outcome after

theorem Reaches.grown (inRange : dice.InRange) (atoms : space.atoms ≠ [])
    (reached : Reaches space dice start node state) : Grown space node := by
  induction reached with
  | start => exact grown_empty space
  | turn before turned hypothesis => exact hypothesis.continues inRange atoms turned

/-- A draft that comes to an end is grown in some number of turns, and in any greater one. -/
theorem Returns.exists_grow (returns : Returns space dice node state outcome after) :
    ∃ enough, ∀ more, grow space dice (enough + more) node state = (outcome, after) := by
  induction returns with
  | finished turned => exact ⟨1, fun more => by rw [Nat.add_comm, grow, turned]⟩
  | abandoned turned => exact ⟨1, fun more => by rw [Nat.add_comm, grow, turned]⟩
  | continued turned others hypothesis =>
    obtain ⟨enough, grows⟩ := hypothesis
    refine ⟨enough + 1, fun more => ?_⟩
    rw [Nat.add_right_comm, grow, turned]
    exact grows more

/-- A program is only grown by a draft that comes to an end. -/
theorem returns_of_grow {fuel : Nat}
    (grows : grow space dice fuel node state = (some program, after)) :
    Returns space dice node state (some program) after := by
  induction fuel generalizing node state with
  | zero => cases grows
  | succ fuel hypothesis =>
    rw [grow] at grows
    cases turned : turn space dice node state with
    | mk result middle =>
      rw [turned] at grows
      cases result with
      | finished found =>
        cases grows
        exact .finished turned
      | abandoned => cases grows
      | continued longer => exact .continued turned (hypothesis grows)

/-- **A draft comes to a program exactly when enough turns grow it.** -/
theorem returns_iff_exists_grow : Returns space dice node state (some program) after ↔
    ∃ fuel, grow space dice fuel node state = (some program, after) := by
  refine ⟨fun returns => ?_, fun ⟨_, grows⟩ => returns_of_grow grows⟩
  obtain ⟨enough, grows⟩ := returns.exists_grow
  exact ⟨enough, grows 0⟩

/-! ### Draws that lead to an end -/

/-- A program that leaves one regexp stops when zero is drawn. -/
theorem turn_stop (single : node.depth = 1) (draws : List Nat) :
    turn space .written node (0 :: draws) = (.finished node.program, draws) := by
  simp [turn, drawStop, single, Dice.written]

/-- Nothing is drawn for a program that is given up. -/
theorem turn_abandon (several : node.depth ≠ 1)
    (given_up : (node.isHopeless space || isStuck space node) = true) :
    turn space dice node state = (.abandoned, state) := by
  simp [turn, drawStop, several, given_up]

variable (several : node.depth ≠ 1)
  (goes_on : ¬(node.isHopeless space || isStuck space node) = true)

include several goes_on

/-- An operator that finds its operands can be drawn. -/
theorem turn_operator {index arity : Nat} (room : node.operators < space.maxOperators)
    (there : space.arities[index]? = some arity) (enough : arity ≤ node.depth) (draws : List Nat) :
    turn space .written node (1 :: index :: draws) =
      (.continued (node.withOperator index arity), draws) := by
  obtain ⟨within, same⟩ := List.getElem?_eq_some_iff.mp there
  have choices : space.arities ≠ [] := List.ne_nil_of_length_pos (Nat.zero_lt_of_lt within)
  have drawn : drawOperator space .written node (1 :: index :: draws) =
      (some (node.withOperator index arity), draws) := by
    simp [drawOperator, Dice.written, room, choices, Nat.mod_eq_of_lt within, there, enough]
  simp [turn, drawStop, several, goes_on, drawn]

/-- An atom can be drawn, while there is room for one. -/
theorem exists_turn_atom (room : node.atoms < space.maxAtoms) :
    ∃ first, ∀ draws, turn space .written node (first ++ draws) =
      (.continued (node.withAtom 0), draws) := by
  have drawn : ∀ draws, drawAtom space .written node (1 :: 0 :: draws) =
      (node.withAtom 0, draws) := by
    intro draws
    simp [drawAtom, Dice.written, room]
  by_cases asks : node.operators < space.maxOperators ∧ space.arities ≠ []
  · have passes : ∀ draws, drawOperator space .written node (0 :: draws) = (none, draws) := by
      intro draws
      simp [drawOperator, Dice.written, asks]
    refine ⟨[0, 1, 0], fun draws => ?_⟩
    simp [turn, drawStop, several, goes_on, passes, drawn]
  · have passes : ∀ draws, drawOperator space .written node draws = (none, draws) := by
      intro draws
      rw [drawOperator, if_neg asks]
    refine ⟨[1, 0], fun draws => ?_⟩
    simp [turn, drawStop, several, goes_on, passes, drawn]

omit several goes_on

/-- **Some draws lead to an end.** Each turn of them makes the program longer, so they are used up
before there is no more room. -/
theorem exists_returns (within : node.atoms ≤ space.maxAtoms) :
    ∃ draws outcome, Returns space .written node draws outcome [] := by
  induction same : node.room space using Nat.strongRecOn generalizing node with
  | _ size hypothesis =>
    by_cases single : node.depth = 1
    · exact ⟨[0], _, .finished (turn_stop single [])⟩
    by_cases goes_on : (node.isHopeless space || isStuck space node) = true
    · exact ⟨[], none, .abandoned (turn_abandon single goes_on)⟩
    by_cases applies : canApply space node = true
    · simp only [canApply, Bool.and_eq_true, decide_eq_true_eq, List.any_eq_true] at applies
      obtain ⟨below, arity, member, enough⟩ := applies
      obtain ⟨index, there⟩ := List.mem_iff_getElem?.mp member
      have less : (node.withOperator index arity).room space < size := by
        simp only [← same, Node.room, Node.withOperator]
        omega
      obtain ⟨draws, outcome, returns⟩ := hypothesis _ less
        (show (node.withOperator index arity).atoms ≤ space.maxAtoms from within) rfl
      exact ⟨_, outcome, .continued (turn_operator single goes_on below there enough draws) returns⟩
    · have short : node.atoms < space.maxAtoms := by
        refine Nat.lt_of_le_of_ne within fun full => goes_on ?_
        simp [isStuck, single, full, applies]
      have less : (node.withAtom 0).room space < size := by
        simp only [← same, Node.room, Node.withAtom]
        omega
      obtain ⟨draws, outcome, returns⟩ := hypothesis _ less
        (show (node.withAtom 0).atoms ≤ space.maxAtoms from short) rfl
      obtain ⟨first, turned⟩ := exists_turn_atom single goes_on short
      exact ⟨_, outcome, .continued (turned draws) returns⟩

end Runs

end Draft

/-! ### The drafts of a source -/

end Crosscheck
