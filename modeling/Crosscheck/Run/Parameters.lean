/-
**Parameters of a run.**

* `Parameters.check`: whether a run with these parameters makes sense;
* `Parameters.wrap`: the regexp that is tested for a candidate;
* `Parameters.reduced`, `Parameters.reducedForRandom`: smaller parameters for a quick run;
* `Parameters.egrep`: the parameters of the four runs with the fixed outer wrappers.
-/
import Crosscheck.Failure
import Crosscheck.Generate.Program

namespace Crosscheck

/-- What is tested: the candidates, the haystacks, and what candidates are wrapped in. -/
structure Parameters where
  /-- The candidates. -/
  space : Space
  /-- The greatest number of symbols in a haystack. -/
  maxLength : Nat
  /-- The symbols that haystacks are made of. -/
  symbols : List String
  /-- A template with one placeholder that every candidate is put into; empty for none. -/
  wrapper : String
  /-- A template with one placeholder for what the wrapper gives; empty for none. -/
  topWrapper : String
  deriving DecidableEq

namespace Parameters

/-! ### Smaller parameters -/

/-- A bound less by one, but not below one. -/
def shrink (bound : Nat) : Nat := if bound > 1 then bound - 1 else bound

/-- Every bound less by one, but not below one. -/
def reduced (parameters : Parameters) : Parameters :=
  { parameters with
    space := { parameters.space with
      maxAtoms := shrink parameters.space.maxAtoms
      maxOperators := shrink parameters.space.maxOperators }
    maxLength := shrink parameters.maxLength }

/-- One atom and one operator less and haystacks half as long. No bound is below one. -/
def reducedForRandom (parameters : Parameters) : Parameters :=
  { parameters with
    space := { parameters.space with
      maxAtoms := max (parameters.space.maxAtoms - 1) 1
      maxOperators := max (parameters.space.maxOperators - 1) 1 }
    maxLength := max (parameters.maxLength / 2) 1 }

/-! ### Wrappers -/

/-- Whether a template can be a wrapper: it has exactly one placeholder, or is empty. -/
def canWrap (template : String) : Bool :=
  template.isEmpty || Template.placeholders template == 1

/-- Whether a run with the parameters makes sense. -/
def check (parameters : Parameters) : Except Misconfiguration Unit :=
  if !canWrap parameters.wrapper then .error (.wrapper parameters.wrapper)
  else if !canWrap parameters.topWrapper then .error (.topWrapper parameters.topWrapper)
  else
    match parameters.space.operators.find? (Template.placeholders · = 0) with
    | some operator => .error (.operator operator)
    | none => .ok ()

/-- Puts a regexp into a wrapper. -/
def wrapIn (template regexp : String) : Except Violation String :=
  if template.isEmpty then .ok regexp else Template.substitute template [regexp]

/-- The regexp that is tested for a candidate. -/
def wrap (parameters : Parameters) (candidate : String) : Except Violation String := do
  wrapIn parameters.topWrapper (← wrapIn parameters.wrapper candidate)

/-! ### Runs with fixed outer wrappers -/

/-- The outer wrappers: none, anchored at the start, at the end, and at both ends. -/
def egrepTops : List String := ["", "^(?:%s)", "(?:%s)$", "^(?:%s)$"]

/-- The parameters of the runs with the operators of basic regexps, one for each outer wrapper.
Every character of the two alphabets is an atom or a symbol. -/
def egrep (maxAtoms maxOperators : Nat) (atoms : String) (maxLength : Nat) (symbols : String)
    (wrapper : String) : List Parameters :=
  egrepTops.map fun top =>
    ⟨⟨maxAtoms, maxOperators, Template.explode atoms, egrepOperators⟩, maxLength,
      Template.explode symbols, wrapper, top⟩

end Parameters

end Crosscheck
