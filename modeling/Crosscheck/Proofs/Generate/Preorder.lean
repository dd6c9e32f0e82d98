/-
**The walk lists every program once, in order.**

From a program the walk visits the program itself and then, for each of its extensions, what it
visits from there.

* `Node.step?`, `Node.children`: one more step, and the extensions of a program;
* `Walk.visited`: the programs that are visited from a program on;
* `Walk.visited_sorted`: they are in order;
* `Walk.run?_of_mem_visited`, `Walk.mem_visited`: they are the programs that steps lead to;
* `Space.programs`: the programs that the walk from its start comes to.

A program that is not extended leaves more regexps than the operators that may follow can bring
together, when each takes one or two operands and the limit is a machine word: no step makes the sum
of regexps and operators less.
-/
import Crosscheck.Generate.Draft
import Crosscheck.Proofs.Generate.Programs

namespace Crosscheck

/-- The steps there are, in order: atoms before operators. -/
def Space.tokens (space : Space) : List Token :=
  (List.range space.atoms.length).map .atom ++ (List.range space.operators.length).map .operator

/-- The limit of a space, when it is a machine word. -/
theorem Space.limit_eq {space : Space} (fits : space.maxOperators + 1 < UInt64.size) :
    space.limit = space.maxOperators + 1 :=
  Nat.mod_eq_of_lt fits

theorem Space.tokens_sorted (space : Space) : space.tokens.Pairwise Token.Before := by
  unfold tokens
  refine List.pairwise_append.mpr ⟨?_, ?_, ?_⟩
  · exact List.pairwise_map.mpr List.pairwise_lt_range
  · exact List.pairwise_map.mpr List.pairwise_lt_range
  · intro one first other second
    obtain ⟨_, _, rfl⟩ := List.mem_map.mp first
    obtain ⟨_, _, rfl⟩ := List.mem_map.mp second
    exact trivial

namespace Node

variable {space : Space} {node child other : Node} {token : Token} {program : Program}

/-! ### Steps -/

/-- The program with one more step, when there is such a step, it finds its operands and is not one
too many. -/
def step? (space : Space) (node : Node) : Token → Option Node
  | .atom index =>
    if node.atoms < space.maxAtoms ∧ index < space.atoms.length then some (node.withAtom index)
    else none
  | .operator index =>
    if node.operators < space.maxOperators then
      match space.arities[index]? with
      | some arity => if arity ≤ node.depth then some (node.withOperator index arity) else none
      | none => none
    else none

/-- The program with more steps. -/
def run? (space : Space) (node : Node) (program : Program) : Option Node :=
  program.foldlM (step? space) node

@[simp] theorem run?_nil : node.run? space [] = some node := rfl

@[simp] theorem run?_cons {rest : Program} :
    node.run? space (token :: rest) = (node.step? space token).bind (run? space · rest) := rfl

/-- **What a step can be**: an atom of the space, or an operator that finds its operands, when one
more is within the bounds. -/
theorem step?_cases (step : node.step? space token = some child) :
    (∃ index, token = .atom index ∧ node.atoms < space.maxAtoms ∧ index < space.atoms.length ∧
      child = node.withAtom index) ∨
    (∃ index arity, token = .operator index ∧ node.operators < space.maxOperators ∧
      space.arities[index]? = some arity ∧ arity ≤ node.depth ∧
      child = node.withOperator index arity) := by
  cases token with
  | atom index =>
    simp only [step?, Option.ite_none_right_eq_some, Option.some.injEq] at step
    obtain ⟨⟨room, below⟩, rfl⟩ := step
    exact .inl ⟨index, rfl, room, below, rfl⟩
  | operator index =>
    simp only [step?, Option.ite_none_right_eq_some] at step
    obtain ⟨room, found⟩ := step
    split at found
    · next arity there =>
      simp only [Option.ite_none_right_eq_some, Option.some.injEq] at found
      obtain ⟨enough, rfl⟩ := found
      exact .inr ⟨index, arity, rfl, room, there, enough, rfl⟩
    · cases found

/-- The extensions of a program by one step, in the order in which they are visited. -/
def children (space : Space) (node : Node) : List Node :=
  if node.isHopeless space then [] else space.tokens.filterMap (node.step? space)

theorem mem_children_iff : child ∈ node.children space ↔
    node.isHopeless space = false ∧ ∃ token, node.step? space token = some child := by
  by_cases hopeless : node.isHopeless space
  · simp [children, hopeless]
  · simp only [children, hopeless, Bool.false_eq_true, if_false, List.mem_filterMap, true_and]
    refine ⟨fun ⟨token, _, step⟩ => ⟨token, step⟩, fun ⟨token, step⟩ => ⟨token, ?_, step⟩⟩
    rw [Space.tokens, List.mem_append, List.mem_map, List.mem_map]
    obtain ⟨index, rfl, _, below, _⟩ | ⟨index, arity, rfl, _, there, _⟩ := step?_cases step
    · exact .inl ⟨index, List.mem_range.mpr below, rfl⟩
    · obtain ⟨below, -⟩ := List.getElem?_eq_some_iff.mp there
      rw [Space.arities, List.length_map] at below
      exact .inr ⟨index, List.mem_range.mpr below, rfl⟩

/-- How many more steps a program may take. -/
def room (space : Space) (node : Node) : Nat :=
  (space.maxAtoms - node.atoms) + (space.maxOperators - node.operators)

/-- An extension may take one step less than what it extends. -/
theorem room_children (member : child ∈ node.children space) :
    child.room space + 1 = node.room space := by
  obtain ⟨-, token, step⟩ := mem_children_iff.mp member
  obtain ⟨index, rfl, below, _, rfl⟩ | ⟨index, arity, rfl, below, _, _, rfl⟩ := step?_cases step
  · simp only [room, withAtom]
    omega
  · simp only [room, withOperator]
    omega

theorem steps_of_step? (step : node.step? space token = some child) :
    child.steps = token :: node.steps := by
  obtain ⟨index, rfl, _, _, rfl⟩ | ⟨index, arity, rfl, _, _, _, rfl⟩ := step?_cases step
  · rfl
  · rfl

theorem program_of_run? (run : node.run? space program = some other) :
    other.program = node.program ++ program := by
  induction program generalizing node with
  | nil => simp [← Option.some.inj run]
  | cons token rest hypothesis =>
    obtain ⟨next, step, run⟩ := Option.bind_eq_some_iff.mp run
    rw [hypothesis run, Node.program, steps_of_step? step, List.reverse_cons, List.append_assoc]
    rfl

/-! ### Steps and counts -/

/-- What more steps make of a program, counted. -/
structure Adds (space : Space) (node : Node) (program : Program) (other : Node) : Prop where
  depth_eq : space.depthFrom? node.depth program = some other.depth
  atoms_eq : other.atoms = node.atoms + program.atoms
  operators_eq : other.operators = node.operators + program.operators
  atoms_le : other.atoms ≤ max node.atoms space.maxAtoms
  operators_le : other.operators ≤ max node.operators space.maxOperators

theorem Adds.trans {more : Program} (first : node.Adds space program child)
    (second : child.Adds space more other) : node.Adds space (program ++ more) other where
  depth_eq := by rw [Space.depthFrom?_append, first.depth_eq, Option.bind_some, second.depth_eq]
  atoms_eq := by
    rw [second.atoms_eq, first.atoms_eq, Program.atoms_append, Nat.add_assoc]
  operators_eq := by
    rw [second.operators_eq, first.operators_eq, Program.operators_append, Nat.add_assoc]
  atoms_le := by
    have := first.atoms_le
    have := second.atoms_le
    omega
  operators_le := by
    have := first.operators_le
    have := second.operators_le
    omega

theorem adds_of_step? (step : node.step? space token = some child) :
    node.Adds space [token] child := by
  obtain ⟨index, rfl, room, below, rfl⟩ | ⟨index, arity, rfl, room, there, enough, rfl⟩ :=
    step?_cases step
  · refine ⟨by simp [Space.depthAfter?, below, withAtom], rfl, rfl, ?_, ?_⟩
    · exact Nat.le_trans room (Nat.le_max_right _ _)
    · exact Nat.le_max_left _ _
  · refine ⟨by simp [Space.depthAfter?, there, enough, withOperator], rfl, rfl, ?_, ?_⟩
    · exact Nat.le_max_left _ _
    · exact Nat.le_trans room (Nat.le_max_right _ _)

theorem exists_step? {depth : Nat} (leaves : space.depthAfter? node.depth token = some depth)
    (atoms : node.atoms + Program.atoms [token] ≤ space.maxAtoms)
    (operators : node.operators + Program.operators [token] ≤ space.maxOperators) :
    ∃ child, node.step? space token = some child := by
  cases token with
  | atom index =>
    simp only [Space.depthAfter?, Option.ite_none_right_eq_some] at leaves
    exact ⟨_, if_pos ⟨atoms, leaves.1⟩⟩
  | operator index =>
    simp only [Space.depthAfter?] at leaves
    split at leaves
    · next arity there =>
      simp only [Option.ite_none_right_eq_some] at leaves
      refine ⟨node.withOperator index arity, ?_⟩
      rw [step?, if_pos (show node.operators < space.maxOperators from operators), there]
      exact if_pos leaves.1
    · cases leaves

theorem adds_of_run? (run : node.run? space program = some other) :
    node.Adds space program other := by
  induction program generalizing node with
  | nil =>
    obtain rfl := Option.some.inj run
    exact ⟨rfl, rfl, rfl, Nat.le_max_left _ _, Nat.le_max_left _ _⟩
  | cons token rest hypothesis =>
    obtain ⟨next, step, run⟩ := Option.bind_eq_some_iff.mp run
    exact (adds_of_step? step).trans (hypothesis run)

theorem exists_run? {depth : Nat} (leaves : space.depthFrom? node.depth program = some depth)
    (atoms : node.atoms + program.atoms ≤ space.maxAtoms)
    (operators : node.operators + program.operators ≤ space.maxOperators) :
    ∃ other, node.run? space program = some other := by
  induction program generalizing node with
  | nil => exact ⟨node, rfl⟩
  | cons token rest hypothesis =>
    obtain ⟨middle, after, leaves⟩ := Option.bind_eq_some_iff.mp leaves
    rw [← List.singleton_append, Program.atoms_append] at atoms
    rw [← List.singleton_append, Program.operators_append] at operators
    obtain ⟨child, step⟩ := exists_step? after (by omega) (by omega)
    have adds := adds_of_step? step
    have same : child.depth = middle := by
      have := adds.depth_eq
      rw [Space.depthFrom?_cons, after] at this
      exact (Option.some.inj this).symm
    rw [← same] at leaves
    obtain ⟨other, run⟩ := hypothesis leaves
      (by rw [adds.atoms_eq]; omega) (by rw [adds.operators_eq]; omega)
    exact ⟨other, by rw [run?_cons, step]; exact run⟩

/-- **The programs of a space are those that steps lead to from the empty program.** -/
theorem builds_iff_exists_run? (space : Space) (program : Program) : space.Builds program ↔
    ∃ other, empty.run? space program = some other ∧ other.depth = 1 := by
  constructor
  · intro builds
    have leaves : space.depthFrom? empty.depth program = some 1 := builds.depth_eq
    obtain ⟨other, run⟩ := exists_run? leaves
      (by simpa [empty] using builds.atoms_le) (by simpa [empty] using builds.operators_le)
    exact ⟨other, run, Option.some.inj ((adds_of_run? run).depth_eq.symm.trans leaves)⟩
  · rintro ⟨other, run, single⟩
    have adds := adds_of_run? run
    refine ⟨by rw [Space.depth?, ← single]; exact adds.depth_eq, ?_, ?_⟩
    · simpa [adds.atoms_eq, empty] using adds.atoms_le
    · simpa [adds.operators_eq, empty] using adds.operators_le

/-! ### Programs that are not extended -/

section

variable (arities : ∀ operator ∈ space.operators,
  Template.placeholders operator = 1 ∨ Template.placeholders operator = 2)

include arities

/-- **No step makes the sum of regexps and operators less**, when operators take one or two
operands. -/
theorem le_of_step? (step : node.step? space token = some child) :
    node.operators + node.depth ≤ child.operators + child.depth := by
  obtain ⟨index, rfl, _, _, rfl⟩ | ⟨index, arity, rfl, _, there, enough, rfl⟩ := step?_cases step
  · exact Nat.add_le_add_left (Nat.le_succ _) _
  · obtain ⟨operator, member, rfl⟩ := List.mem_map.mp (List.mem_of_getElem? there)
    show node.operators + node.depth ≤
      node.operators + 1 + (node.depth - Template.placeholders operator + 1)
    rcases arities operator member with one | two <;> omega

theorem le_of_run? (run : node.run? space program = some other) :
    node.operators + node.depth ≤ other.operators + other.depth := by
  induction program generalizing node with
  | nil => exact Nat.le_of_eq (by rw [Option.some.inj run])
  | cons token rest hypothesis =>
    obtain ⟨next, step, run⟩ := Option.bind_eq_some_iff.mp run
    exact Nat.le_trans (le_of_step? arities step) (hypothesis run)

end

end Node

namespace Walk

variable {space : Space} {node other : Node} {program : Program}

/-- The programs that the walk visits from a program on, in order. -/
def visited (space : Space) (node : Node) : List Node :=
  node :: (node.children space).attach.flatMap fun child => visited space child.1
termination_by node.room space
decreasing_by
  have := Node.room_children child.2
  omega

theorem visited_eq (space : Space) (node : Node) :
    visited space node = node :: (node.children space).flatMap (visited space) := by
  rw [visited, List.flatMap_def, List.attach_map_val, ← List.flatMap_def]

theorem run?_of_mem_visited (member : other ∈ visited space node) :
    ∃ program, node.run? space program = some other := by
  induction room : node.room space using Nat.strongRecOn generalizing node with
  | _ room hypothesis =>
    rw [visited_eq] at member
    rcases List.mem_cons.mp member with rfl | member
    · exact ⟨[], rfl⟩
    · obtain ⟨child, extension, member⟩ := List.mem_flatMap.mp member
      have less := Node.room_children extension
      obtain ⟨-, token, step⟩ := Node.mem_children_iff.mp extension
      obtain ⟨program, run⟩ := hypothesis (child.room space) (by omega) member rfl
      exact ⟨token :: program, by rw [Node.run?_cons, step]; exact run⟩

theorem program_of_mem_visited {child : Node} {token : Token}
    (step : node.step? space token = some child) (member : other ∈ visited space child) :
    ∃ rest, other.program = node.program ++ token :: rest := by
  obtain ⟨rest, run⟩ := run?_of_mem_visited member
  refine ⟨rest, ?_⟩
  rw [Node.program_of_run? run, Node.program, Node.steps_of_step? step, List.reverse_cons,
    List.append_assoc]
  rfl

/-- What steps lead to is visited, when the bounds leave it a chance. -/
theorem mem_visited
    (arities : ∀ operator ∈ space.operators,
      Template.placeholders operator = 1 ∨ Template.placeholders operator = 2)
    (run : node.run? space program = some other) (hopeful : other.isHopeless space = false) :
    other ∈ visited space node := by
  induction program generalizing node with
  | nil =>
    obtain rfl := Option.some.inj run
    rw [visited_eq]
    exact List.mem_cons_self
  | cons token rest hypothesis =>
    have grows := Node.le_of_run? arities run
    obtain ⟨next, step, run⟩ := Option.bind_eq_some_iff.mp run
    rw [visited_eq]
    refine List.mem_cons_of_mem _ (List.mem_flatMap.mpr ⟨next, ?_, hypothesis run⟩)
    refine Node.mem_children_iff.mpr ⟨?_, token, step⟩
    simp only [Node.isHopeless, decide_eq_false_iff_not] at hopeful ⊢
    omega

/-- **What the walk visits is in order.** -/
theorem visited_sorted (space : Space) (node : Node) :
    (visited space node).Pairwise fun one other => one.program.Before other.program := by
  induction room : node.room space using Nat.strongRecOn generalizing node with
  | _ room hypothesis =>
    rw [visited_eq]
    refine List.pairwise_cons.mpr ⟨?_, List.pairwise_flatMap.mpr ⟨?_, ?_⟩⟩
    -- a program comes before its extensions
    · intro other member
      obtain ⟨child, extension, member⟩ := List.mem_flatMap.mp member
      obtain ⟨-, token, step⟩ := Node.mem_children_iff.mp extension
      obtain ⟨rest, same⟩ := program_of_mem_visited step member
      have before := Program.before_append node.program (List.Lex.nil (a := token) (l := rest))
      rwa [List.append_nil, ← same] at before
    · intro child extension
      have less := Node.room_children extension
      exact hypothesis (child.room space) (by omega) child rfl
    -- what starts with one extension comes before what starts with a later one
    · unfold Node.children
      split
      · exact .nil
      · refine List.pairwise_filterMap.mpr (space.tokens_sorted.imp ?_)
        intro token later before child step sibling stepAside one first other second
        obtain ⟨rest, same⟩ := program_of_mem_visited step first
        obtain ⟨others, alike⟩ := program_of_mem_visited stepAside second
        rw [same, alike]
        exact Program.before_append _ (.rel before)

/-- The programs among those of nodes that leave one regexp. -/
def found (nodes : List Node) : List Program :=
  (nodes.filter (·.depth = 1)).map Node.program

theorem found_cons (node : Node) (nodes : List Node) :
    found (node :: nodes) = (if node.depth = 1 then [node.program] else []) ++ found nodes := by
  unfold found
  rw [List.filter_cons]
  by_cases single : node.depth = 1 <;> simp [single]

theorem exists_of_mem_found {nodes : List Node} (member : program ∈ found nodes) :
    ∃ other ∈ nodes, other.depth = 1 ∧ other.program = program := by
  obtain ⟨other, among, same⟩ := List.mem_map.mp member
  obtain ⟨inside, single⟩ := List.mem_filter.mp among
  exact ⟨other, inside, of_decide_eq_true single, same⟩

theorem mem_found {nodes : List Node} (member : other ∈ nodes) (single : other.depth = 1) :
    other.program ∈ found nodes :=
  List.mem_map_of_mem (List.mem_filter.mpr ⟨member, decide_eq_true single⟩)

end Walk

/-! ### All programs -/

namespace Space

variable {space : Space} {program : Program}

/-- The programs that the walk from its start comes to, in order. -/
def programs (space : Space) : List Program := Walk.found (Walk.visited space .empty)

theorem exists_of_mem_programs (member : program ∈ space.programs) :
    ∃ node, Node.empty.run? space program = some node ∧ node.depth = 1 := by
  obtain ⟨node, visited, single, rfl⟩ := Walk.exists_of_mem_found member
  obtain ⟨start, run⟩ := Walk.run?_of_mem_visited visited
  have same : node.program = start := Node.program_of_run? run
  exact ⟨node, by rw [same]; exact run, single⟩

/-- **The walk comes to nothing but programs of the space.** -/
theorem builds_of_mem_programs (member : program ∈ space.programs) : space.Builds program :=
  (Node.builds_iff_exists_run? space program).mpr (exists_of_mem_programs member)

/-- **The walk misses no program of the space**, when operators take one or two operands and the
limit is a machine word. -/
theorem mem_programs (fits : space.maxOperators + 1 < UInt64.size)
    (arities : ∀ operator ∈ space.operators,
      Template.placeholders operator = 1 ∨ Template.placeholders operator = 2)
    (builds : space.Builds program) : program ∈ space.programs := by
  obtain ⟨node, run, single⟩ := (Node.builds_iff_exists_run? space program).mp builds
  have bounded : node.operators ≤ space.maxOperators := by
    simpa [Node.empty] using (Node.adds_of_run? run).operators_le
  have hopeful : node.isHopeless space = false := by
    simp only [Node.isHopeless, decide_eq_false_iff_not, single, limit_eq fits]
    omega
  have same : node.program = program := Node.program_of_run? run
  rw [← same]
  exact Walk.mem_found (Walk.mem_visited arities run hopeful) single

/-- **The walk comes to programs in order.** -/
theorem programs_sorted (space : Space) : space.programs.Pairwise Program.Before :=
  List.pairwise_map.mpr ((Walk.visited_sorted space .empty).filter _)

theorem programs_nodup (space : Space) : space.programs.Nodup :=
  Program.nodup_of_sorted space.programs_sorted

end Space

end Crosscheck
