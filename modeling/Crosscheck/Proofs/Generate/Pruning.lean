/-
**What pruning loses.**

The walk gives up a program that leaves too many regexps for the operators that may still follow.
Each step of a program puts one regexp on the stack and takes off its operands, so how many regexps
an extension leaves is settled by its length and its operands. Operators that take one or two
operands never bring a program back that was given up; an operator that takes three may.

* `Space.add_operands`: the regexps that are left, counted by steps and operands;
* `Walk.mem_visited_iff`: the walk visits what steps lead to without passing a hopeless program;
* `Space.mem_programs_iff`: the programs that the walk comes to, whatever operators take;
* `Walk.lost_extension`: an extension that is lost has an operator that takes three operands;
* `Walk.lost_ternary`: a program of three atoms and one operator that is lost.
-/
import Crosscheck.Proofs.Generate.Enumeration
import Mathlib.Algebra.GroupWithZero.Nat

namespace Crosscheck

/-! ### Operands -/

namespace Space

variable {space : Space} {token : Token} {program : Program} {depth after : Nat}

/-- How many regexps a step takes off the stack. -/
def operandsOf (space : Space) : Token → Nat
  | .atom _ => 0
  | .operator index => space.arities.getD index 0

/-- How many regexps the steps of a program take off the stack, all together. -/
def operands (space : Space) (program : Program) : Nat := (program.map space.operandsOf).sum

theorem operands_cons (space : Space) (token : Token) (rest : Program) :
    space.operands (token :: rest) = space.operandsOf token + space.operands rest := by
  rw [operands, List.map_cons, List.sum_cons, operands]

/-- A step puts one regexp on the stack and takes off its operands. -/
theorem add_operandsOf (step : space.depthAfter? depth token = some after) :
    after + space.operandsOf token = depth + 1 := by
  cases token with
  | atom index =>
    simp only [depthAfter?, Option.ite_none_right_eq_some, Option.some.injEq] at step
    rw [← step.2, operandsOf, Nat.add_zero]
  | operator index =>
    simp only [depthAfter?] at step
    split at step
    · next arity there =>
      simp only [Option.ite_none_right_eq_some, Option.some.injEq] at step
      obtain ⟨enough, rfl⟩ := step
      rw [operandsOf, List.getD_eq_getElem?_getD, there, Option.getD_some]
      omega
    · cases step

/-- **What a program leaves and what it takes off make up what was there and its steps.** -/
theorem add_operands (leaves : space.depthFrom? depth program = some after) :
    after + space.operands program = depth + program.length := by
  induction program generalizing depth with
  | nil =>
    obtain rfl := Option.some.inj leaves
    rfl
  | cons token rest hypothesis =>
    obtain ⟨middle, step, leaves⟩ := Option.bind_eq_some_iff.mp leaves
    have one := add_operandsOf step
    have others := hypothesis leaves
    rw [operands_cons, List.length_cons]
    omega

/-- Atoms take no operands, so operators that take one or two take at most two each. -/
theorem operands_le (program : Program)
    (few : ∀ index, .operator index ∈ program → space.arities.getD index 0 ≤ 2) :
    space.operands program ≤ 2 * program.operators := by
  induction program with
  | nil => exact Nat.zero_le _
  | cons token rest hypothesis =>
    have others := hypothesis fun index member => few index (List.mem_cons_of_mem _ member)
    rw [operands_cons, ← List.singleton_append, Program.operators_append]
    cases token with
    | atom index =>
      show 0 + space.operands rest ≤ 2 * (0 + Program.operators rest)
      omega
    | operator index =>
      have one := few index List.mem_cons_self
      show space.arities.getD index 0 + space.operands rest ≤ 2 * (1 + Program.operators rest)
      omega

end Space

theorem Program.atoms_add_operators (program : Program) :
    program.atoms + program.operators = program.length := by
  rw [atoms, operators, List.length_eq_countP_add_countP Token.isAtom]
  simp only [Bool.not_eq_true, Bool.decide_eq_false]

/-! ### Programs that are given up -/

namespace Walk

variable {space : Space} {node child other : Node} {program more : Program}

/-- No proper beginning of the steps that follow leads to a program that is given up. -/
def Hopeful (space : Space) (node : Node) (program : Program) : Prop :=
  ∀ start more middle, program = start ++ more → more ≠ [] →
    node.run? space start = some middle → middle.isHopeless space = false

theorem hopeful_nil (space : Space) (node : Node) : Hopeful space node [] :=
  fun _ _ _ split some _ => absurd (List.append_eq_nil_iff.mp split.symm).2 some

theorem hopeful_cons {token : Token} (step : node.step? space token = some child) :
    Hopeful space node (token :: program) ↔
      node.isHopeless space = false ∧ Hopeful space child program := by
  constructor
  · intro hopeful
    refine ⟨hopeful [] _ node rfl (List.cons_ne_nil _ _) rfl,
      fun start more middle split some run => hopeful (token :: start) more middle
        (by rw [split, List.cons_append]) some ?_⟩
    rw [Node.run?_cons, step]
    exact run
  · rintro ⟨first, others⟩ start more middle split some run
    cases start with
    | nil => rwa [← Option.some.inj run]
    | cons head start =>
      obtain ⟨rfl, rest⟩ := List.cons.inj split
      rw [Node.run?_cons, step] at run
      exact others start more middle rest some run

/-- What is visited from an extension on is visited, unless the program was given up. -/
theorem mem_visited_of_step (token : Token) (step : node.step? space token = some child)
    (hopeful : node.isHopeless space = false) (member : other ∈ visited space child) :
    other ∈ visited space node := by
  rw [visited_eq]
  refine List.mem_cons_of_mem _ (List.mem_flatMap.mpr ⟨child, ?_, member⟩)
  exact Node.mem_children_iff.mpr ⟨hopeful, token, step⟩

theorem mem_visited_self (space : Space) (node : Node) : node ∈ visited space node := by
  rw [visited_eq]
  exact List.mem_cons_self

/-- **The walk visits what steps lead to without passing a program that is given up.** -/
theorem mem_visited_iff : other ∈ visited space node ↔
    ∃ program, node.run? space program = some other ∧ Hopeful space node program := by
  constructor
  · intro member
    induction room : node.room space using Nat.strongRecOn generalizing node with
    | _ room hypothesis =>
      rw [visited_eq] at member
      rcases List.mem_cons.mp member with rfl | member
      · exact ⟨[], rfl, hopeful_nil space other⟩
      · obtain ⟨child, extension, member⟩ := List.mem_flatMap.mp member
        have less := Node.room_children extension
        obtain ⟨hopeful, token, step⟩ := Node.mem_children_iff.mp extension
        obtain ⟨program, run, others⟩ := hypothesis (child.room space) (by omega) member rfl
        refine ⟨token :: program, ?_, (hopeful_cons step).mpr ⟨hopeful, others⟩⟩
        rw [Node.run?_cons, step]
        exact run
  · rintro ⟨program, run, hopeful⟩
    induction program generalizing node with
    | nil =>
      obtain rfl := Option.some.inj run
      exact mem_visited_self space node
    | cons token rest hypothesis =>
      obtain ⟨child, step, run⟩ := Option.bind_eq_some_iff.mp run
      obtain ⟨first, others⟩ := (hopeful_cons step).mp hopeful
      exact mem_visited_of_step token step first (hypothesis run others)

end Walk

/-- **The walk comes to the programs of the space that no proper beginning of which is given up**,
whatever its operators take. -/
theorem Space.mem_programs_iff {space : Space} {program : Program} :
    program ∈ space.programs ↔ space.Builds program ∧ Walk.Hopeful space .empty program := by
  rw [Node.builds_iff_exists_run?]
  constructor
  · intro member
    obtain ⟨node, visited, single, rfl⟩ := Walk.exists_of_mem_found member
    obtain ⟨start, run, hopeful⟩ := Walk.mem_visited_iff.mp visited
    have same : node.program = start := Node.program_of_run? run
    rw [same]
    exact ⟨⟨node, run, single⟩, hopeful⟩
  · rintro ⟨⟨node, run, single⟩, hopeful⟩
    have same : node.program = program := Node.program_of_run? run
    rw [← same]
    exact Walk.mem_found (Walk.mem_visited_iff.mpr ⟨program, run, hopeful⟩) single

namespace Walk

variable {space : Space} {node : Node} {more : Program}

/-- An extension of a program that is given up takes more operands than two for each of its
operators and one for each of its atoms, if it leaves one regexp within the bounds. -/
theorem operands_of_hopeless (fits : space.maxOperators + 1 < UInt64.size)
    (hopeless : node.isHopeless space = true)
    (leaves : space.depthFrom? node.depth more = some 1)
    (bounded : node.operators + more.operators ≤ space.maxOperators) :
    more.atoms + 2 * more.operators < space.operands more := by
  have count := Space.add_operands leaves
  have steps := more.atoms_add_operators
  simp only [Node.isHopeless, Space.limit_eq fits, decide_eq_true_eq] at hopeless
  omega

/-- **A regexp that is lost needs an operator that takes three operands.** Whenever the walk gives
up a program, an extension of it that builds a regexp of the space, within the bounds, is not among
the programs that the walk comes to. When the limit is a machine word, the operators of such an
extension take more than two operands each on average, even without one for each of its atoms, so
one of them takes at least three. -/
theorem lost_extension {steps : List Token} {frame : Frame} {frames : List Frame}
    (arrives : Arrives space ⟨steps, frame :: frames⟩) (hopeless : frame.isHopeless space = true)
    (longer : more ≠ []) (builds : space.Builds (steps.reverse ++ more)) :
    steps.reverse ++ more ∉ space.programs ∧
      (space.maxOperators + 1 < UInt64.size →
        more.atoms + 2 * more.operators < space.operands more ∧
        ∃ index arity, .operator index ∈ more ∧ space.arities[index]? = some arity ∧
          3 ≤ arity) := by
  have visits : frame.node steps ∈ visited space .empty :=
    mem_visited_iff_arrives.mpr ⟨frame, frames, arrives, rfl⟩
  obtain ⟨start, run, -⟩ := mem_visited_iff.mp visits
  obtain rfl : steps.reverse = start := Node.program_of_run? run
  have adds := Node.adds_of_run? run
  have leaves : space.depthFrom? frame.depth more = some 1 := by
    have all := builds.depth_eq
    have first : space.depthFrom? 0 steps.reverse = some frame.depth := adds.depth_eq
    rwa [Space.depth?, Space.depthFrom?_append, first, Option.bind_some] at all
  have bounded : frame.operators + more.operators ≤ space.maxOperators := by
    have all := builds.operators_le
    have first : frame.operators = 0 + Program.operators steps.reverse := adds.operators_eq
    rw [Program.operators_append] at all
    omega
  refine ⟨fun member => ?_, fun fits => ?_⟩
  · have hopeful := (Space.mem_programs_iff.mp member).2 _ _ (frame.node steps) rfl longer run
    cases hopeless.symm.trans hopeful
  · have given : (frame.node steps).isHopeless space = true := hopeless
    have many := operands_of_hopeless fits given leaves bounded
    refine ⟨many, ?_⟩
    by_contra none
    have few : space.operands more ≤ 2 * more.operators := by
      refine Space.operands_le more fun index member => ?_
      rw [List.getD_eq_getElem?_getD]
      cases there : space.arities[index]? with
      | none => exact Nat.zero_le 2
      | some arity =>
        rw [Option.getD_some]
        by_contra less
        exact none ⟨index, arity, member, there, by omega⟩
    omega

/-- Four atoms with two operators left, each of which takes three operands. -/
theorem lost_fourAtoms :
    let space : Space := ⟨5, 2, ["a"], ["%s%s%s"]⟩
    let steps : List Token := [.atom 0, .atom 0, .atom 0, .atom 0]
    let more : Program := [.operator 0, .atom 0, .operator 0]
    ∃ frame frames, Arrives space ⟨steps, frame :: frames⟩ ∧ frame.isHopeless space = true ∧
      more ≠ [] ∧ space.Builds (steps.reverse ++ more) ∧
      steps.reverse ++ more ∉ space.programs ∧
      more.atoms + 2 * more.operators < space.operands more ∧
      ∃ index arity, .operator index ∈ more ∧ space.arities[index]? = some arity ∧ 3 ≤ arity := by
  intro space steps more
  have visits : ⟨steps, 4, 0, 4⟩ ∈ visited space .empty :=
    mem_visited_of_step (.atom 0) rfl rfl <| mem_visited_of_step (.atom 0) rfl rfl <|
      mem_visited_of_step (.atom 0) rfl rfl <| mem_visited_of_step (.atom 0) rfl rfl <|
        mem_visited_self space _
  obtain ⟨frame, frames, arrives, same⟩ := mem_visited_iff_arrives.mp visits
  have hopeless : frame.isHopeless space = true := congrArg (Node.isHopeless space) same
  have longer : more ≠ [] := List.cons_ne_nil _ _
  have builds : space.Builds (steps.reverse ++ more) := by decide
  obtain ⟨lost, many⟩ := lost_extension arrives hopeless longer builds
  exact ⟨frame, frames, arrives, hopeless, longer, builds, lost, many (by decide)⟩

/-- **A regexp that is lost.** With one atom and one operator that takes three operands, three atoms
are given up although the operator makes one regexp of them within the bounds; the source answers
with the atom alone. -/
theorem lost_ternary :
    let space : Space := ⟨3, 1, ["a"], ["%s%s%s"]⟩
    let steps : List Token := [.atom 0, .atom 0, .atom 0]
    (∃ frame frames, Arrives space ⟨steps, frame :: frames⟩ ∧ frame.isHopeless space = true) ∧
      space.Builds (steps.reverse ++ [.operator 0]) ∧
      space.render (steps.reverse ++ [.operator 0]) = .ok "(?:aaa)" ∧
      ∃ source, Candidates.ofSpace space = .ok source ∧ source.Yields ["a"] := by
  intro space steps
  have visits : ⟨steps, 3, 0, 3⟩ ∈ visited space .empty :=
    mem_visited_of_step (.atom 0) rfl rfl <| mem_visited_of_step (.atom 0) rfl rfl <|
      mem_visited_of_step (.atom 0) rfl rfl <| mem_visited_self space _
  obtain ⟨frame, frames, arrives, same⟩ := mem_visited_iff_arrives.mp visits
  have accepted := Candidates.ofSpace_eq (show ∀ operator ∈ space.operators,
    Template.placeholders operator ≠ 0 by decide)
  have rendered : space.regexps = .ok ["a"] := by decide +kernel
  exact ⟨⟨frame, frames, arrives, congrArg (Node.isHopeless space) same⟩, by decide, by decide, _,
    accepted, Candidates.yields_all_texts rendered⟩

end Walk

end Crosscheck
