/-
**Commands.**

* `Command.named?`: the command of a name;
* `Command.options`: the options of a command;
* `Command.shortHelp`, `Command.longHelp`: its help texts;
* `Command.overview`: the help text on all commands.
-/
import Crosscheck.CommandLine.Help

namespace Crosscheck

/-- What the program can do. -/
inductive Command where
  /-- Runs the operators of basic regexps with each of the fixed outer wrappers. -/
  | egrep
  /-- Runs all regexps on all haystacks. -/
  | exhaustive
  /-- Writes the results of all regexps on all haystacks into a fixture. -/
  | fixture
  /-- Runs random regexps on random haystacks. -/
  | random
  /-- Replays a fixture. -/
  | verify
  deriving DecidableEq

namespace Command

/-- The name of a command. -/
def name : Command → String
  | egrep => "egrep"
  | exhaustive => "exhaustive"
  | fixture => "fixture"
  | random => "random"
  | verify => "verify"

/-- All commands. -/
def all : List Command := [egrep, exhaustive, fixture, random, verify]

/-- The command of a name. -/
def named? (name : String) : Option Command := all.find? (·.name == name)

/-- What a command does, in one line. -/
def summary : Command → String
  | egrep => "Run the egrep operators under four anchoring wrappers."
  | exhaustive => "Run every regexp against every haystack."
  | fixture => "Write the match of every regexp on every haystack to stdout."
  | random => "Run random regexps against random haystacks."
  | verify => "Replay a fixture against the built-in engine."

/-- What a command does. -/
def introduction : Command → List String
  | egrep =>
    ["Tests every regexp built with the egrep operators four times: unanchored,",
      "anchored at the start, anchored at the end and anchored at both ends. Each",
      "run prints its own summary line. Since the anchoring wrappers are fixed,",
      "--top-wrapper is rejected, and so are --ops and --sep."]
  | exhaustive =>
    ["Tests every regexp built from the given atoms and operators against every",
      "haystack built from the given symbols."]
  | fixture =>
    ["Writes a fixture to stdout: every haystack, then every regexp followed by its",
      "match on each haystack under four combinations of anchoring and match",
      "semantics. A fixture can be replayed against another regex engine."]
  | random =>
    ["Tests random regexps against random haystacks. This reaches regexps and",
      "haystacks far bigger than an exhaustive run can."]
  | verify =>
    ["Replays a fixture against the built-in engine and prints every result that",
      "differs from the one recorded."]

/-- The options of a command. -/
def options : Command → List CommandOption
  | egrep | exhaustive | random =>
    CommandOption.output ++ CommandOption.matrix ++ CommandOption.run
  | fixture =>
    CommandOption.output ++ CommandOption.matrix ++ CommandOption.run ++ CommandOption.fixture
  | verify => CommandOption.output

/-- What follows the options of a command. -/
def operand : Command → String
  | verify => " <fixture-path>"
  | _ => ""

/-- The help text of a command with its options as documented in the given lines. -/
def help (command : Command) (options : List String) : String :=
  "\n".intercalate
    (command.introduction ++
      ["", "USAGE:", s!"    regex-exhaustive {command.name} [options]{command.operand}", "", "TIP:",
        "    use -h for short docs and --help for long docs", "", "OPTIONS:"] ++ options)

/-- The help text with short descriptions. -/
def shortHelp (command : Command) : String :=
  command.help (Help.columns (Help.ordered command.options))

/-- The help text with long descriptions. -/
def longHelp (command : Command) : String :=
  command.help (Help.paragraphs (Help.ordered command.options))

/-- The width of the column of command names. -/
def nameWidth : Nat := 12

/-- The help text on all commands. -/
def overview : String :=
  "\n".intercalate
    (["Exhaustively tests a regex engine by checking that its matching strategies",
        "agree on every small regexp and every short haystack.", "", "USAGE:",
        "    regex-exhaustive <command> ...", "", "COMMANDS:"] ++
      all.map fun command =>
        "    " ++ command.name ++ "".pushn ' ' (nameWidth - command.name.length) ++ command.summary)

end Command

end Crosscheck
