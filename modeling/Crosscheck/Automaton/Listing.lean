/-
**Listings of automata.**

A listing names the pattern, then gives each state on a line of its own: its number, marked when it
is the start, what it consumes or does, and where it leads.
-/
import Crosscheck.Automaton.State
import Crosscheck.Text.Literal

namespace Crosscheck

namespace Automaton

/-- A byte in a listing. -/
def listedByte (byte : Nat) : String := Literal.ofBytes [byte.toUInt8]

/-- A state in a listing. -/
def listedState : State → String
  | .byte target byte => s!"{listedByte byte.toNat} => {target}"
  | .ranges target ranges =>
    ", ".intercalate (ranges.map fun range =>
      s!"{listedByte range.first}-{listedByte range.last} => {target}")
  | .splits targets reverse =>
    "splits(" ++ ", ".intercalate ((State.branches targets reverse).map toString) ++ ")"
  | .goto target none => s!"goto({target})"
  | .goto target (some look) => s!"{look.name} => {target}"
  | .capture target slot => s!"capture(slot={slot}) => {target}"
  | .fail => "FAIL"
  | .accept => "MATCH"

/-- A number with leading zeros, in six digits at least. -/
def sixDigits (number : Nat) : String :=
  let digits := toString number
  "".pushn '0' (6 - digits.length) ++ digits

/-- The line of a state. -/
def listedLine (automaton : Automaton) (state : State) (index : Nat) : String :=
  (if index = automaton.start then ">" else " ") ++ sixDigits index ++ ": " ++ listedState state ++
    "\n"

/-- The listing of an automaton under the text of its pattern. Every line ends with a newline. -/
def listing (automaton : Automaton) (text : String) : String :=
  s!"NFA(\npattern: {text}\n" ++
    String.join (automaton.states.toList.zipIdx.map fun (state, index) =>
      automaton.listedLine state index) ++ ")\n"

end Automaton

end Crosscheck
