/-
**Options.**

An option has a name, a description, and an effect on the settings. Some options have a value, which
is a text or a number.

* `CommandOption`: an option;
* `CommandOption.output`, `CommandOption.matrix`, `CommandOption.run`, `CommandOption.fixture`: the
  options there are, by what they are about.
-/
import Crosscheck.CommandLine.Settings
import Crosscheck.Unicode.Property

namespace Crosscheck

/-- What an option does to the settings. -/
inductive Effect where
  /-- An option without a value. -/
  | plain (set : Settings → Settings)
  /-- An option whose value is a text. -/
  | text (set : String → Settings → Settings)
  /-- An option whose value is a number. -/
  | number (set : Nat → Settings → Settings)

/-- An option. -/
structure CommandOption where
  /-- Its name, without the hyphens. -/
  name : String
  /-- Its letter, if it has one. -/
  letter : Option Char
  /-- What its value is called. -/
  valueName : Option String
  /-- The short description. -/
  summary : String
  /-- The long description. -/
  description : String
  /-- What it does. -/
  effect : Effect

namespace CommandOption

/-- How an option is written. -/
def text (option : CommandOption) : String := s!"--{option.name}"

/-- An option and its value, as they are written. -/
def withValue (option : CommandOption) : String :=
  match option.valueName with
  | some name => s!"{option.text} <{name}>"
  | none => option.text

/-- All ways to write an option. -/
def format (option : CommandOption) : String :=
  match option.letter with
  | some letter => s!"-{letter}, {option.withValue}"
  | none => option.withValue

/-- What stands between spaces, which may be nothing. The first piece starts with what was already
read, last character first. -/
def unspacedFrom (read : List Char) : List Char → List String
  | [] => [.ofList read.reverse]
  | char :: rest =>
    if Unicode.isSpace char then .ofList read.reverse :: unspacedFrom [] rest
    else unspacedFrom (char :: read) rest

/-- The words of a text, which have spaces between them. -/
def words (text : String) : List String := (unspacedFrom [] text.toList).filter (!·.isEmpty)

/-- The operators of a list in a text. -/
def operatorsOf (text : String) : List String :=
  if text = "egrep" then egrepOperators else words text

/-- The options on how much is printed. -/
def output : List CommandOption :=
  [{ name := "quiet"
     letter := some 'q'
     valueName := none
     summary := "Suppress summary lines."
     description := "Suppress the summary line printed after every run. A run with " ++
       "failures still makes the command exit with an error."
     effect := .plain fun settings => { settings with quiet := true } },
   { name := "no-table"
     letter := none
     valueName := none
     summary := "Omit the table of parameters and timings."
     description := "Every command prints a table with the parameters it ran with, the " ++
       "number of regexps and haystacks it visited and how long it took. Passing this flag " ++
       "suppresses that table."
     effect := .plain fun settings => { settings with noTable := true } }]

/-- The options on what is tested. -/
def matrix : List CommandOption :=
  [{ name := "max-atoms"
     letter := none
     valueName := some "n"
     summary := "The maximum number of atoms in a regexp."
     description := "The maximum number of atoms in a generated regexp. An atom may be " ++
       "used more than once. The default is 3."
     effect := .number fun value settings => { settings with maxAtoms := value } },
   { name := "max-ops"
     letter := none
     valueName := some "n"
     summary := "The maximum number of operators in a regexp."
     description := "The maximum number of operators applied in a generated regexp. The default " ++
       "is 2."
     effect := .number fun value settings => { settings with maxOperators := value } },
   { name := "alphabet"
     letter := none
     valueName := some "atoms"
     summary := "The atoms regexps are built from."
     description := "The atoms regexps are built from. By default, every character is one atom " ++
       "and the default is \"ab\". Use --sep to give atoms longer than one character."
     effect := .text fun value settings => { settings with atoms := value } },
   { name := "ops"
     letter := none
     valueName := some "ops"
     summary := "The operators regexps are built with."
     description := "A whitespace separated list of operator templates. Each template has " ++
       "one or two %s placeholders that are replaced by its operands, for example, " ++
       "\"%s%s\" or \"%s+\". The special value \"egrep\" selects concatenation, " ++
       "alternation, the three repetition operators and \"match anything after\". That is " ++
       "the default."
     effect := .text fun value settings =>
       { settings with operators := some (operatorsOf value) } },
   { name := "max-strlen"
     letter := none
     valueName := some "n"
     summary := "The maximum number of symbols in a haystack."
     description := "The maximum number of symbols in a generated haystack. Every haystack from " ++
       "the empty one up to this length is tested. The default is 3."
     effect := .number fun value settings => { settings with maxLength := value } },
   { name := "str-alphabet"
     letter := none
     valueName := some "symbols"
     summary := "The symbols haystacks are built from."
     description := "The symbols haystacks are built from. By default, every character is one " ++
       "symbol and the default is \"ab\"."
     effect := .text fun value settings => { settings with symbols := value } },
   { name := "sep"
     letter := none
     valueName := some "separator"
     summary := "Split alphabets on a separator."
     description := "Split --alphabet and --str-alphabet on the given separator instead of into " ++
       "single characters. For example, \"--sep , --alphabet 'a,\\b,[ab]'\" gives three atoms."
     effect := .text fun value settings => { settings with separator := value } },
   { name := "wrapper"
     letter := none
     valueName := some "template"
     summary := "A template applied to every generated regexp."
     description := "A template with exactly one %s that every generated regexp is substituted " ++
       "into, for example, \"(%s)\" to add a capture group. It is applied before --top-wrapper."
     effect := .text fun value settings => { settings with wrapper := value } },
   { name := "top-wrapper"
     letter := none
     valueName := some "template"
     summary := "A template applied after --wrapper."
     description := "A template with exactly one %s that every regexp is substituted into after " ++
       "--wrapper, for example, \"^(?:%s)$\" to anchor it at both ends."
     effect := .text fun value settings => { settings with topWrapper := value } }]

/-- The options on how a run proceeds. -/
def run : List CommandOption :=
  [{ name := "show-regexps"
     letter := none
     valueName := none
     summary := "Print every regexp as it is tested."
     description := "Print every regexp to stdout right before it is tested, overwriting the " ++
       "previous one on the same line. The fixture command prints to stderr instead, since the " ++
       "fixture itself is written to stdout."
     effect := .plain fun settings => { settings with showsRegexps := true } },
   { name := "max-bad-regexp-inputs"
     letter := none
     valueName := some "n"
     summary := "Stop testing a regexp after this many failures."
     description := "Stop testing a regexp after finding this many haystacks on which its " ++
       "matching strategies disagree. The default is 1."
     effect := .number fun value settings => { settings with maxBadInputs := value } },
   { name := "string-seed"
     letter := none
     valueName := some "seed"
     summary := "Test random haystacks drawn with this seed."
     description := "Test every regexp against random haystacks, drawn from a generator seeded " ++
       "with this value, instead of every possible haystack. The empty haystack is " ++
       "always tested too. The default seed is 200. This can't be used when writing a fixture."
     effect := .number fun value settings =>
       { settings with haystackSeed := some value.toUInt64 } },
   { name := "string-count"
     letter := none
     valueName := some "n"
     summary := "Test this many random haystacks."
     description := "The number of random haystacks tested for every regexp. Giving this flag " ++
       "enables random haystacks. The default is 100."
     effect := .number fun value settings => { settings with haystackCount := some value } },
   { name := "regexp-seed"
     letter := none
     valueName := some "seed"
     summary := "The seed of random regexps."
     description := "The seed of the generator of random regexps used by the random " ++
       "command. The default is 404."
     effect := .number fun value settings =>
       { settings with regexps := { settings.regexps with seed := value.toUInt64 } } },
   { name := "regexp-count"
     letter := none
     valueName := some "n"
     summary := "The number of random regexps."
     description := "The number of random regexps tested by the random command. The default is " ++
       "100."
     effect := .number fun value settings =>
       { settings with regexps := { settings.regexps with count := value } } },
   { name := "reduced"
     letter := none
     valueName := none
     summary := "Shrink every bound before running."
     description := "Shrink every bound before running: exhaustive runs use one atom, one " ++
       "operator and one haystack symbol fewer, when the bound is greater than one, and random " ++
       "runs halve the haystack length too."
     effect := .plain fun settings => { settings with reduced := true } }]

/-- The options on fixtures. -/
def fixture : List CommandOption :=
  [{ name := "egrep"
     letter := none
     valueName := none
     summary := "Write one block for each egrep anchoring wrapper."
     description := "Write four blocks, one for each of the anchoring wrappers of the egrep " ++
       "command, using the egrep operators. --top-wrapper, --ops and --sep are rejected."
     effect := .plain fun settings => { settings with egrep := true } }]

end CommandOption

end Crosscheck
