/-
**Arguments of a command line.**

A command line is read argument by argument. `--name` is an option, and `--name=value` an option
with its value; `-abc` are the options `a`, `b` and `c`; everything else, and everything after
`--`, is an operand. The value of an option is what follows its name, whatever it looks like.

* `Arguments.next`: the next option or operand;
* `Arguments.value`: the value of the option that was just read;
* `Arguments.next_size`, `Arguments.value_size`: a command line is read to its end.
-/
import Crosscheck.Text.Lossy

namespace Crosscheck

/-- What stands on a command line. -/
inductive Argument where
  /-- An option of one letter. -/
  | letter (char : Char)
  /-- An option with a name. -/
  | name (name : String)
  /-- An operand. -/
  | operand (bytes : Bytes)
  deriving DecidableEq

/-- What is wrong on a command line. -/
inductive Misuse where
  /-- An option that does not exist. -/
  | invalidOption (option : String)
  /-- An operand that nobody asked for. -/
  | unexpectedOperand (bytes : Bytes)
  /-- A value after an option that takes none. -/
  | unexpectedValue (option : String) (bytes : Bytes)
  /-- An argument that must be text. -/
  | notText (bytes : Bytes)
  /-- An option without its value. -/
  | valueMissing (option : String)
  deriving DecidableEq

namespace Misuse

/-- What is reported about a wrong argument. -/
def message : Misuse → String
  | invalidOption option => s!"invalid option '{option}'"
  | unexpectedOperand bytes => s!"unexpected argument {Literal.ofArgument bytes}"
  | unexpectedValue option bytes =>
    s!"unexpected argument for option '{option}': {Literal.ofArgument bytes}"
  | notText bytes => s!"argument is invalid unicode: {Literal.ofArgument bytes}"
  | valueMissing option => s!"missing argument for option '{option}'"

end Misuse

namespace Argument

/-- An argument that is not recognized. -/
def refusal : Argument → Misuse
  | letter char => .invalidOption s!"-{char}"
  | name option => .invalidOption s!"--{option}"
  | operand bytes => .unexpectedOperand bytes

end Argument

/-- What is left of the argument at hand. -/
inductive Arguments.Pending where
  /-- Nothing. -/
  | nothing
  /-- The value of an option. -/
  | value (option : String) (bytes : Bytes)
  /-- Options of one letter, and the letter before them. -/
  | letters (last : Option Char) (bytes : Bytes)
  /-- Only operands follow. -/
  | operands
  deriving DecidableEq

/-- A command line at some point. -/
structure Arguments where
  /-- What is left of the argument at hand. -/
  pending : Arguments.Pending
  /-- The arguments after it. -/
  rest : List Bytes
  deriving DecidableEq

namespace Arguments

/-- A command line at its start. -/
def ofList (arguments : List Bytes) : Arguments := ⟨.nothing, arguments⟩

/-- The byte of a hyphen. -/
def hyphen : UInt8 := 0x2D

/-- The byte of an equals sign. -/
def equalsSign : UInt8 := 0x3D

/-- The next option of one letter. After a letter, an equals sign starts a value, which no such
option takes. -/
def nextLetter (last : Option Char) (bytes : Bytes) (rest : List Bytes) :
    Except Misuse (Argument × Arguments) :=
  match Bytes.firstChar? bytes, last with
  | some '=', some last => .error (.unexpectedValue s!"-{last}" (bytes.drop 1))
  | some char, _ => .ok (.letter char, ⟨.letters (some char) (bytes.drop char.utf8Size), rest⟩)
  | none, _ =>
    .ok (.letter Bytes.replacement, ⟨.letters (some Bytes.replacement) (bytes.drop 1), rest⟩)

/-- An option with a name, from what stands behind its two hyphens. -/
def named (bytes : Bytes) (rest : List Bytes) : Argument × Arguments :=
  let name := Bytes.lossyText (bytes.takeWhile (· != equalsSign))
  match bytes.dropWhile (· != equalsSign) with
  | _ :: value => (.name name, ⟨.value s!"--{name}" value, rest⟩)
  | [] => (.name name, ⟨.nothing, rest⟩)

/-- The next operand, when only operands follow. -/
def nextOperand : List Bytes → Option (Argument × Arguments)
  | [] => none
  | bytes :: rest => some (.operand bytes, ⟨.operands, rest⟩)

/-- The next option or operand, when nothing is left of the argument at hand. -/
def nextOf : List Bytes → Except Misuse (Option (Argument × Arguments))
  | [] => .ok none
  | [0x2D, 0x2D] :: rest => .ok (nextOperand rest)
  | (0x2D :: 0x2D :: bytes) :: rest => .ok (some (named bytes rest))
  | (0x2D :: byte :: bytes) :: rest => (nextLetter none (byte :: bytes) rest).map some
  | bytes :: rest => .ok (some (.operand bytes, ⟨.nothing, rest⟩))

/-- The next option or operand, and the command line after it. -/
def next (arguments : Arguments) : Except Misuse (Option (Argument × Arguments)) :=
  match arguments.pending with
  | .nothing | .letters _ [] => nextOf arguments.rest
  | .value option bytes => .error (.unexpectedValue option bytes)
  | .letters last (byte :: bytes) =>
    (nextLetter last (byte :: bytes) arguments.rest).map some
  | .operands => .ok (nextOperand arguments.rest)

/-- The value of an option that was just read, and the command line after it. -/
def value (arguments : Arguments) (option : String) : Except Misuse (Bytes × Arguments) :=
  match arguments.pending, arguments.rest with
  | .value _ bytes, rest => .ok (bytes, ⟨.nothing, rest⟩)
  | _, bytes :: rest => .ok (bytes, ⟨.nothing, rest⟩)
  | _, [] => .error (.valueMissing option)

/-! ### A command line is read to its end -/

/-- How many bytes are left of the argument at hand. -/
def pendingSize : Pending → Nat
  | .letters _ bytes => bytes.length
  | _ => 0

/-- How much of a command line is left. -/
def size (arguments : Arguments) : Nat :=
  pendingSize arguments.pending + (arguments.rest.flatten.length + arguments.rest.length)

theorem nextLetter_size {last : Option Char} {byte : UInt8} {bytes : Bytes} {rest : List Bytes}
    {argument : Argument} {after : Arguments}
    (step : nextLetter last (byte :: bytes) rest = .ok (argument, after)) :
    after.size < bytes.length + 1 + (rest.flatten.length + rest.length) := by
  unfold nextLetter at step
  split at step
  · cases step
  · next _ char _ _ =>
    cases step
    have := char.utf8Size_pos
    simp only [size, pendingSize, List.length_drop, List.length_cons]
    omega
  · cases step
    simp only [size, pendingSize, List.length_drop, List.length_cons]
    omega

theorem nextOperand_size {rest : List Bytes} {argument : Argument} {after : Arguments}
    (step : nextOperand rest = some (argument, after)) :
    after.size < rest.flatten.length + rest.length := by
  unfold nextOperand at step
  split at step
  · cases step
  · cases step
    simp only [size, pendingSize, List.flatten_cons, List.length_append, List.length_cons]
    omega

theorem nextOf_size {rest : List Bytes} {argument : Argument} {after : Arguments}
    (step : nextOf rest = .ok (some (argument, after))) :
    after.size < rest.flatten.length + rest.length := by
  unfold nextOf at step
  split at step
  · cases step
  · next rest =>
    have := nextOperand_size (Except.ok.inj step)
    simp only [List.flatten_cons, List.length_append, List.length_cons]
    omega
  · next bytes rest _ =>
    simp only [Except.ok.injEq, Option.some.injEq, named] at step
    split at step <;> cases step <;>
      simp only [size, pendingSize, List.flatten_cons, List.length_append, List.length_cons] <;>
        omega
  · next byte bytes rest _ _ =>
    cases found : nextLetter none (byte :: bytes) rest with
    | error misuse => rw [found] at step; cases step
    | ok pair =>
      rw [found] at step
      cases step
      have := nextLetter_size found
      simp only [List.flatten_cons, List.length_append, List.length_cons]
      omega
  · cases step
    simp only [size, pendingSize, List.flatten_cons, List.length_append, List.length_cons]
    omega

/-- Every option or operand that is read leaves less of the command line. -/
theorem next_size {arguments after : Arguments} {argument : Argument}
    (step : arguments.next = .ok (some (argument, after))) : after.size < arguments.size := by
  unfold next at step
  split at step
  · exact Nat.lt_of_lt_of_le (nextOf_size step) (Nat.le_add_left _ _)
  · exact Nat.lt_of_lt_of_le (nextOf_size step) (Nat.le_add_left _ _)
  · cases step
  · next last byte bytes pending =>
    cases found : nextLetter last (byte :: bytes) arguments.rest with
    | error misuse => rw [found] at step; cases step
    | ok pair =>
      rw [found] at step
      cases step
      have := nextLetter_size found
      simp only [size, pending, pendingSize, List.length_cons] at this ⊢
      omega
  · next pending =>
    have := nextOperand_size (Except.ok.inj step)
    exact Nat.lt_of_lt_of_le this (Nat.le_add_left _ _)

/-- Reading a value leaves no more of the command line than there was. -/
theorem value_size {arguments after : Arguments} {option : String} {bytes : Bytes}
    (step : arguments.value option = .ok (bytes, after)) : after.size ≤ arguments.size := by
  unfold value at step
  split at step
  · cases step
    simp [size, pendingSize]
  · next rest _ =>
    cases step
    simp only [size, pendingSize, *, List.flatten_cons, List.length_append, List.length_cons]
    omega
  · cases step

end Arguments

end Crosscheck
