/-
**Failures.**

An operation fails for one of six causes, and a run stops on a failure or on a broken precondition.

* `Failure.message`: the text of a failure;
* `Failure.isCompileFailure`: whether the failure only says that an engine refuses a regexp;
* `Fault`: what stops a run: a failure, a broken precondition, or a test that could not run.
-/
import Crosscheck.Text.Quoted

namespace Crosscheck

/-- What an automaton cannot express. -/
inductive Unsupported where
  /-- A class with characters beyond ASCII. -/
  | wideClass
  /-- A word assertion that knows words of all scripts. -/
  | wideWordAssertion
  /-- An automaton beyond the size limit. -/
  | tooLarge
  deriving DecidableEq

namespace Unsupported

/-- The text of an unsupported feature. -/
def message : Unsupported → String
  | wideClass => "non-ASCII Unicode classes are not supported"
  | wideWordAssertion => "Unicode word boundaries are not supported"
  | tooLarge => "compiled regex exceeded size limit"

end Unsupported

/-- What is wrong with the parameters or the configuration of a run. -/
inductive Misconfiguration where
  /-- The wrapper has not exactly one placeholder. -/
  | wrapper (template : String)
  /-- The top wrapper has not exactly one placeholder. -/
  | topWrapper (template : String)
  /-- An operator has no placeholder. -/
  | operator (template : String)
  /-- A fixture was asked for together with random strings. -/
  | randomFixture
  /-- The number of bad inputs that end the test of a regexp is zero. -/
  | noBadInputs
  deriving DecidableEq

namespace Misconfiguration

/-- The text of a wrong parameter. -/
def message : Misconfiguration → String
  | wrapper template => s!"wrapper {Literal.ofText template} must have exactly one %s placeholder"
  | topWrapper template =>
    s!"top wrapper {Literal.ofText template} must have exactly one %s placeholder"
  | operator template => s!"operator {Literal.ofText template} has no %s placeholder"
  | randomFixture => "fixture logging cannot be combined with random strings"
  | noBadInputs => "max bad inputs must be at least 1"

end Misconfiguration

/-- What is wrong with a line of a fixture. -/
inductive Malformed where
  /-- A block does not start with its header. -/
  | noHeader (line : Bytes)
  /-- A block ends before its regexps. -/
  | noRegexps
  /-- A string or regexp is not in its quoted form. -/
  | quoted (line : Bytes) (defect : Quoted.Defect)
  /-- A regexp is not text. -/
  | regexpNotText
  /-- A regexp has fewer records than its block has strings. -/
  | recordsMissing (regexp : String)
  /-- A record is not text. -/
  | recordNotText (record : Bytes)
  /-- A record has another number of results than four. -/
  | resultCount (count : Nat) (record : String)
  /-- A span is not two numbers in order. -/
  | span (text : String)
  /-- A result does not start with a span. -/
  | noOverallSpan (result : String)
  deriving DecidableEq

/-- Why an operation failed. -/
inductive Failure where
  /-- A pattern is no regexp. -/
  | pattern
  /-- A regexp needs what an automaton cannot express. -/
  | unsupported (feature : Unsupported)
  /-- A run is wrongly configured. -/
  | misconfigured (cause : Misconfiguration)
  /-- A byte string is not in its quoted form. -/
  | quoted (quoted : Bytes) (defect : Quoted.Defect)
  /-- A line of a fixture is wrong. -/
  | fixture (line : Nat) (cause : Malformed)
  /-- Reading or writing failed; the text is the reason given. -/
  | io (reason : String)
  deriving DecidableEq

/-- The text of a failure to read a quoted form. -/
def quotedMessage (quoted : Bytes) (defect : Quoted.Defect) : String :=
  s!"invalid escaped string: {defect.message quoted}"

/-- The text of a wrong line. -/
def Malformed.message : Malformed → String
  | noHeader line => s!"expected 'strings', got {Literal.ofBytes line}"
  | noRegexps => "missing 'regexps' header"
  | quoted line defect => quotedMessage line defect
  | regexpNotText => "regexp is not UTF-8"
  | recordsMissing regexp => s!"regexp {Literal.ofText regexp} is missing records"
  | recordNotText record => s!"record {Literal.ofBytes record} is not UTF-8"
  | resultCount count record =>
    s!"expected 4 results separated by ';', got {count} in {Literal.ofText record}"
  | span text => s!"malformed span {Literal.ofText text}"
  | noOverallSpan result => s!"result {Literal.ofText result} has no overall match"

namespace Failure

/-- The text of a failure. -/
def message : Failure → String
  | pattern => "error parsing regexp"
  | unsupported feature => s!"unsupported regexp feature: {feature.message}"
  | misconfigured cause => s!"invalid exhaustive test configuration: {cause.message}"
  | quoted bytes defect => quotedMessage bytes defect
  | fixture line cause => s!"malformed fixture at line {line}: {cause.message}"
  | io _ => "I/O error"

/-- Whether an engine refuses the regexp. Such a regexp is skipped and counts as no failure. -/
def isCompileFailure : Failure → Bool
  | pattern | unsupported _ => true
  | _ => false

/-- Whether the run is wrongly configured. -/
def isMisconfiguration : Failure → Bool
  | misconfigured _ => true
  | _ => false

/-- Whether a further cause stands behind the failure. -/
def hasSource : Failure → Bool
  | pattern | io _ => true
  | _ => false

end Failure

/-- How a test chooses its regexps. -/
inductive Selection where
  /-- All regexps. -/
  | exhaustive
  /-- Random regexps. -/
  | random
  deriving DecidableEq

namespace Selection

/-- The name of a selection. -/
def name : Selection → String
  | exhaustive => "exhaustive"
  | random => "random"

end Selection

/-- What stops a run. -/
inductive Fault where
  /-- An operation failed. -/
  | failure (cause : Failure)
  /-- A precondition did not hold. -/
  | violation (cause : Violation)
  /-- A test that must run did not, because an operation failed. -/
  | notRunnable (selection : Selection) (cause : Failure)
  deriving DecidableEq

namespace Fault

/-- What is said about what stopped a run. -/
def message : Fault → String
  | failure cause => cause.message
  | violation cause => cause.message
  | notRunnable selection cause => s!"{selection.name} test could not run: {cause.message}"

end Fault

end Crosscheck
