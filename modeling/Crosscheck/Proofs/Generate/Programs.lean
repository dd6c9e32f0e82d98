/-
**Programs that build regexps.**

What a program leaves on the stack can be counted without building anything. A program whose count
works out builds a regexp: every operator finds its operands, every template gets as many arguments
as it has placeholders, and one regexp is left.

* `Space.depth?`: how many regexps a program leaves;
* `Space.Builds`: the programs of a space, within its bounds;
* `Program.Before`: the order of programs, each before its extensions;
* `Space.exists_render`: a program that leaves one regexp can be rendered.
-/
import Crosscheck.Generate.Program
import Mathlib.Data.List.Lex

namespace Crosscheck

namespace Token

def isAtom : Token → Bool
  | atom _ => true
  | operator _ => false

/-- Atoms come before operators, and each by their places. -/
def Before : Token → Token → Prop
  | atom index, atom other => index < other
  | atom _, operator _ => True
  | operator _, atom _ => False
  | operator index, operator other => index < other

theorem Before.irrefl (token : Token) : ¬token.Before token := by
  cases token <;> exact Nat.lt_irrefl _

theorem Before.asymm : ∀ {one other : Token}, one.Before other → ¬other.Before one
  | atom _, atom _, before => Nat.lt_asymm before
  | atom _, operator _, _ => id
  | operator _, operator _, before => Nat.lt_asymm before

end Token

namespace Program

/-- The number of atoms of a program. -/
def atoms (program : Program) : Nat := program.countP Token.isAtom

/-- The number of operators of a program. -/
def operators (program : Program) : Nat := program.countP (!·.isAtom)

theorem atoms_append (one other : Program) : atoms (one ++ other) = one.atoms + other.atoms :=
  List.countP_append

theorem operators_append (one other : Program) :
    operators (one ++ other) = one.operators + other.operators :=
  List.countP_append

/-- **The order of programs**: a program comes before its extensions, and of two programs that part
ways the one whose next step comes first. -/
def Before (one other : Program) : Prop := List.Lex Token.Before one other

theorem Before.irrefl (program : Program) : ¬program.Before program :=
  List.lex_irrefl Token.Before.irrefl program

theorem Before.asymm {one other : Program} (before : one.Before other) : ¬other.Before one := by
  have asymm : Std.Asymm Token.Before := ⟨fun _ _ => Token.Before.asymm⟩
  exact (List.Lex.asymm Token.Before).asymm one other before

theorem nodup_of_sorted {programs : List Program} (sorted : programs.Pairwise Before) :
    programs.Nodup :=
  sorted.imp (by
    rintro one _ before rfl
    exact Before.irrefl one before)

/-- Programs can be put in order in one way only. -/
theorem eq_of_sorted {one other : List Program} (sorted : one.Pairwise Before)
    (alsoSorted : other.Pairwise Before) (same : ∀ program, program ∈ one ↔ program ∈ other) :
    one = other := by
  have alike : one.Perm other :=
    (List.perm_ext_iff_of_nodup (nodup_of_sorted sorted) (nodup_of_sorted alsoSorted)).mpr same
  exact alike.eq_of_pairwise (fun _ _ _ _ before after => absurd after before.asymm) sorted
    alsoSorted

theorem before_append (start : Program) {one other : Program} (before : one.Before other) :
    Before (start ++ one) (start ++ other) :=
  List.Lex.append_left _ before start

end Program

namespace Space

/-! ### Counting what is left -/

/-- How many regexps a step leaves of a given number; none when there is no such step or it finds
too few operands. -/
def depthAfter? (space : Space) (depth : Nat) : Token → Option Nat
  | .atom index => if index < space.atoms.length then some (depth + 1) else none
  | .operator index =>
    match space.arities[index]? with
    | some arity => if arity ≤ depth then some (depth - arity + 1) else none
    | none => none

/-- How many regexps a program leaves of a given number. -/
def depthFrom? (space : Space) (depth : Nat) (program : Program) : Option Nat :=
  program.foldlM space.depthAfter? depth

/-- How many regexps a program leaves. -/
def depth? (space : Space) (program : Program) : Option Nat := space.depthFrom? 0 program

@[simp] theorem depthFrom?_nil (space : Space) (depth : Nat) :
    space.depthFrom? depth [] = some depth := rfl

@[simp] theorem depthFrom?_cons (space : Space) (depth : Nat) (token : Token) (rest : Program) :
    space.depthFrom? depth (token :: rest) =
      (space.depthAfter? depth token).bind (space.depthFrom? · rest) := rfl

theorem depthFrom?_append (space : Space) (depth : Nat) (one other : Program) :
    space.depthFrom? depth (one ++ other) =
      (space.depthFrom? depth one).bind (space.depthFrom? · other) :=
  List.foldlM_append

/-- **The programs of a space**: every operator finds its operands, one regexp is left, and there
are not more atoms and operators than allowed. -/
structure Builds (space : Space) (program : Program) : Prop where
  depth_eq : space.depth? program = some 1
  atoms_le : program.atoms ≤ space.maxAtoms
  operators_le : program.operators ≤ space.maxOperators

instance (space : Space) (program : Program) : Decidable (space.Builds program) :=
  decidable_of_iff
    (space.depth? program = some 1 ∧ program.atoms ≤ space.maxAtoms ∧
      program.operators ≤ space.maxOperators)
    ⟨fun all => ⟨all.1, all.2.1, all.2.2⟩,
      fun builds => ⟨builds.depth_eq, builds.atoms_le, builds.operators_le⟩⟩

/-! ### Rendering -/

/-- A template with as many arguments as placeholders can be filled. -/
theorem exists_substitute {template : String} {arguments : List String}
    (count : Template.placeholders template = arguments.length) :
    ∃ filled, Template.substitute template arguments = .ok filled := by
  rw [Template.substitute, if_pos count]
  exact ⟨_, rfl⟩

/-- **A step that finds its operands succeeds**, and leaves as many regexps as was counted. -/
theorem exists_push {space : Space} {stack : List String} {token : Token} {depth : Nat}
    (step : space.depthAfter? stack.length token = some depth) :
    ∃ after, space.push stack token = .ok after ∧ after.length = depth := by
  cases token with
  | atom index =>
    simp only [depthAfter?, Option.ite_none_right_eq_some, Option.some.injEq] at step
    exact ⟨_, rfl, step.2⟩
  | operator index =>
    simp only [depthAfter?, arities, List.getElem?_map] at step
    cases template : space.operators[index]? with
    | none => simp [template] at step
    | some template' =>
      simp only [template, Option.map_some, Option.ite_none_right_eq_some,
        Option.some.injEq] at step
      obtain ⟨enough, rfl⟩ := step
      obtain ⟨filled, fills⟩ := exists_substitute
        (show Template.placeholders template' =
            (stack.take (Template.placeholders template')).reverse.length by
          rw [List.length_reverse, List.length_take, Nat.min_eq_left enough])
      refine ⟨("(?:" ++ filled ++ ")") :: stack.drop (Template.placeholders template'), ?_, ?_⟩
      · have read : space.operators.getD index "" = template' := by
          rw [List.getD_eq_getElem?_getD, template, Option.getD_some]
        simp only [push, read, if_neg (Nat.not_lt.mpr enough), fills, bind, Except.bind]
        rfl
      · rw [List.length_cons, List.length_drop]

theorem exists_foldlM_push {space : Space} {stack : List String} {program : Program} {depth : Nat}
    (leaves : space.depthFrom? stack.length program = some depth) :
    ∃ after, program.foldlM space.push stack = .ok after ∧ after.length = depth := by
  induction program generalizing stack with
  | nil => exact ⟨stack, rfl, Option.some.inj leaves⟩
  | cons token rest hypothesis =>
    obtain ⟨middle, step, leaves⟩ := Option.bind_eq_some_iff.mp leaves
    obtain ⟨next, pushed, rfl⟩ := exists_push step
    obtain ⟨after, run, length⟩ := hypothesis leaves
    exact ⟨after, by rw [List.foldlM_cons, pushed]; exact run, length⟩

/-- **A program that leaves one regexp can be rendered**: no operator lacks operands, every template
has as many placeholders as it gets arguments, and nothing else is left on the stack. -/
theorem exists_render {space : Space} {program : Program}
    (leaves : space.depth? program = some 1) : ∃ regexp, space.render program = .ok regexp := by
  have counted : space.depthFrom? ([] : List String).length program = some 1 := leaves
  obtain ⟨after, run, length⟩ := exists_foldlM_push counted
  obtain ⟨regexp, rfl⟩ := List.length_eq_one_iff.mp length
  refine ⟨regexp, ?_⟩
  rw [render, run]
  rfl

end Space

end Crosscheck
