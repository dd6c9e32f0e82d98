/-
**Broken preconditions.**

Some operations state what they need of their input, and stop the whole program when it is not so.
`Violation` lists these stops and `Violation.message` says what is reported.
-/
import Crosscheck.Run.Summary
import Crosscheck.Text.Literal

namespace Crosscheck

/-- The longest quoted string, both quotes included. -/
def quotedCapacity : Nat := 512

/-- What a template has in the place of an argument. -/
def placeholder : String := "%s"

/-- A precondition that did not hold. -/
inductive Violation where
  /-- A byte string whose quoted form is too long. -/
  | quotedTooLong (bytes : Bytes)
  /-- A template that was given another number of arguments than it has placeholders. -/
  | argumentCount (template : String) (placeholders arguments : Nat)
  /-- An operator that takes no operand. -/
  | operatorWithoutOperand (operator : String)
  /-- A sum that is no machine word, where arithmetic is checked. -/
  | sumTooLarge
  /-- An operator that finds too few operands on the stack. -/
  | tooFewOperands
  /-- A program that leaves the given number of regexps and not one. -/
  | unbalanced (left : Nat)
  /-- A match without its overall span. -/
  | noOverallSpan
  /-- A test that found failures. -/
  | failuresFound (summary : Summary)
  deriving DecidableEq

namespace Violation

/-- What is reported about a broken precondition. -/
def message : Violation → String
  | quotedTooLong bytes =>
    s!"escaped form of {Literal.ofBytes bytes} exceeds {quotedCapacity} bytes"
  | argumentCount template placeholders arguments =>
    s!"assertion `left == right` failed: template {Literal.ofText template} must have exactly " ++
      s!"{arguments} {Literal.ofText placeholder} placeholder(s)\n  left: {placeholders}\n" ++
      s!" right: {arguments}"
  | operatorWithoutOperand operator => s!"operator {Literal.ofText operator} has no %s placeholder"
  | sumTooLarge => "attempt to add with overflow"
  | tooFewOperands => "attempt to subtract with overflow"
  | unbalanced left => s!"a program left {left} regexps"
  | noOverallSpan => "group 0 must always be present in a match"
  | failuresFound summary => summary.report

end Violation

end Crosscheck
