/-
**Reading a command line.**

A command line starts with the name of a command. Then come its options and operands, each of which
changes the settings; help may be asked for anywhere.

* `Reading.command`: the command and the command line behind its name;
* `Reading.settings`: the settings that the rest of a command line makes.
-/
import Crosscheck.CommandLine.Command
import Crosscheck.CommandLine.Problem

namespace Crosscheck

namespace Reading

/-- The command at the start of a command line. -/
def command (arguments : Arguments) : Except Problem (Command × Arguments) :=
  match arguments.next with
  | .error misuse => .error (.misuse misuse)
  | .ok none | .ok (some (.letter 'h', _)) | .ok (some (.name "help", _)) =>
    .error (.help Command.overview)
  | .ok (some (.operand bytes, rest)) =>
    match Bytes.text? bytes with
    | none => .error (.misuse (.notText bytes))
    | some name =>
      match Command.named? name with
      | some command => .ok (command, rest)
      | none => .error (.unknownCommand name)
  | .ok (some (argument, _)) => .error (.misuse argument.refusal)

/-- The option of a command that an argument asks for. -/
def optionOf (command : Command) : Argument → Option CommandOption
  | .letter letter => command.options.find? (·.letter == some letter)
  | .name name => command.options.find? (·.name == name)
  | .operand _ => none

/-- The value of an option, which must be text. -/
def textValue (option : String) (bytes : Bytes) : Except Problem String :=
  match Bytes.text? bytes with
  | some text => .ok text
  | none => .error (.badValue option (.misuse (.notText bytes)))

/-- The value of an option, which must be a number. -/
def numberValue (option : String) (bytes : Bytes) : Except Problem Nat := do
  match Number.read (← textValue option bytes).toList with
  | .ok value => return value
  | .error defect => throw (.badValue option (.number defect))

/-- The settings that an option with a value makes. -/
def withValue (option : CommandOption) (bytes : Bytes) (settings : Settings) :
    Except Problem Settings :=
  match option.effect with
  | .plain set => .ok (set settings)
  | .text set => (textValue option.text bytes).map fun text => set text settings
  | .number set => (numberValue option.text bytes).map fun value => set value settings

/-- Whether an option has a value. -/
def hasValue (option : CommandOption) : Bool :=
  match option.effect with
  | .plain _ => false
  | _ => true

/-- What an argument of a command does to the settings, and the command line after it. -/
def apply (command : Command) (argument : Argument) (arguments : Arguments) (settings : Settings) :
    Except Problem (Settings × { after : Arguments // after.size ≤ arguments.size }) :=
  match optionOf command argument with
  | some option =>
    if hasValue option then
      match step : arguments.value option.text with
      | .ok (bytes, after) =>
        (withValue option bytes settings).map fun settings =>
          (settings, ⟨after, Arguments.value_size step⟩)
      | .error misuse => .error (.badValue option.text (.misuse misuse))
    else (withValue option [] settings).map fun settings =>
      (settings, ⟨arguments, Nat.le_refl _⟩)
  | none =>
    match command, argument with
    | .verify, .operand bytes =>
      if settings.path.isSome then .error .secondFixture
      else .ok ({ settings with path := some bytes }, ⟨arguments, Nat.le_refl _⟩)
    | _, _ => .error (.misuse argument.refusal)

/-- The settings that the rest of a command line makes of the given ones. -/
def settings (command : Command) (settings : Settings) (arguments : Arguments) :
    Except Problem Settings :=
  match _step : arguments.next with
  | .error misuse => .error (.misuse misuse)
  | .ok none => .ok settings
  | .ok (some (.letter 'h', _)) => .error (.help command.shortHelp)
  | .ok (some (.name "help", _)) => .error (.help command.longHelp)
  | .ok (some (argument, rest)) =>
    match apply command argument rest settings with
    | .error problem => .error problem
    | .ok (changed, ⟨after, _⟩) => Reading.settings command changed after
termination_by arguments.size
decreasing_by
  exact Nat.lt_of_le_of_lt (by assumption) (Arguments.next_size _step)

end Reading

end Crosscheck
