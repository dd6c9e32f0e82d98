/-
**Postfix programs.**

A candidate regexp is built by a postfix program: a sequence of atoms and operators that runs on a
stack of regexps. An atom pushes itself; an operator pops as many operands as its template has
placeholders and pushes the filled template inside a group. A program that leaves exactly one regexp
builds that regexp.

* `Space`: the atoms and operators, and how many of each a program may use;
* `Space.render`: the regexp that a program builds.
-/
import Crosscheck.Template

namespace Crosscheck

/-- The candidates of a run: what programs are made of and how large they get. -/
structure Space where
  /-- The greatest number of atoms in a program. -/
  maxAtoms : Nat
  /-- The greatest number of operators in a program. -/
  maxOperators : Nat
  /-- The atoms. -/
  atoms : List String
  /-- The templates of the operators. -/
  operators : List String
  deriving DecidableEq

/-- The operators of basic regexps: concatenation, alternation, the three repetitions, and "anything
after". -/
def egrepOperators : List String := ["%s%s", "%s|%s", "%s*", "%s+", "%s?", "%s(?s:.)*"]

/-- A step of a program, by its place among the atoms or among the operators. -/
inductive Token where
  /-- Pushes an atom. -/
  | atom (index : Nat)
  /-- Applies an operator. -/
  | operator (index : Nat)
  deriving DecidableEq

/-- A postfix program. -/
abbrev Program := List Token

namespace Space

/-- The greatest sum of operators and regexps of a program that is extended. It is a machine word,
so past the largest word it starts again at zero. -/
def limit (space : Space) : Nat := (space.maxOperators + 1) % UInt64.size

/-- How many operands each operator takes. -/
def arities (space : Space) : List Nat := space.operators.map Template.placeholders

/-- Runs one step on a stack whose top is the head of the list. -/
def push (space : Space) (stack : List String) : Token → Except Violation (List String)
  | .atom index => .ok (space.atoms.getD index "" :: stack)
  | .operator index =>
    let template := space.operators.getD index ""
    let arity := Template.placeholders template
    if stack.length < arity then .error .tooFewOperands
    else do
      let filled ← Template.substitute template (stack.take arity).reverse
      return ("(?:" ++ filled ++ ")") :: stack.drop arity

/-- The regexp that a program builds. -/
def render (space : Space) (program : Program) : Except Violation String := do
  match ← program.foldlM space.push [] with
  | [regexp] => return regexp
  | stack => throw (.unbalanced stack.length)

end Space

end Crosscheck
