/-
**Settings of a command line.**

* `Settings`: all that options can set;
* `Settings.parameters`, `Settings.configuration`: what the settings ask of a run.
-/
import Crosscheck.Run.Configuration
import Crosscheck.Run.Parameters

namespace Crosscheck

/-- All that options can set. -/
structure Settings where
  /-- No summary lines. -/
  quiet : Bool
  /-- No table. -/
  noTable : Bool
  /-- The greatest number of atoms. -/
  maxAtoms : Nat
  /-- The greatest number of operators. -/
  maxOperators : Nat
  /-- The atoms, not yet divided. -/
  atoms : String
  /-- The operators, when they are given. -/
  operators : Option (List String)
  /-- The greatest number of symbols in a haystack. -/
  maxLength : Nat
  /-- The symbols, not yet divided. -/
  symbols : String
  /-- What stands between two atoms or two symbols. -/
  separator : String
  /-- What candidates are wrapped in. -/
  wrapper : String
  /-- What is around the wrapper. -/
  topWrapper : String
  /-- Whether every regexp is printed. -/
  showsRegexps : Bool
  /-- The number of failing haystacks that end the test of a regexp. -/
  maxBadInputs : Nat
  /-- The seed of random haystacks, when it is given. -/
  haystackSeed : Option UInt64
  /-- The number of random haystacks, when it is given. -/
  haystackCount : Option Nat
  /-- The random regexps. -/
  regexps : Draws
  /-- Whether all bounds are made smaller. -/
  reduced : Bool
  /-- Whether a fixture has a block for each of the fixed outer wrappers. -/
  egrep : Bool
  /-- The operand. -/
  path : Option Bytes
  deriving DecidableEq

namespace Settings

/-- The settings when there is no option. -/
def standard : Settings where
  quiet := false
  noTable := false
  maxAtoms := 3
  maxOperators := 2
  atoms := "ab"
  operators := none
  maxLength := 3
  symbols := "ab"
  separator := ""
  wrapper := ""
  topWrapper := ""
  showsRegexps := false
  maxBadInputs := 1
  haystackSeed := none
  haystackCount := none
  regexps := .regexps
  reduced := false
  egrep := false
  path := none

/-- The parameters of a run. -/
def parameters (settings : Settings) : Parameters :=
  ⟨⟨settings.maxAtoms, settings.maxOperators,
      Template.pieces settings.separator settings.atoms,
      settings.operators.getD egrepOperators⟩,
    settings.maxLength, Template.pieces settings.separator settings.symbols,
    settings.wrapper, settings.topWrapper⟩

/-- An option that is in the way of the runs with fixed outer wrappers. -/
def egrepObstacle (settings : Settings) : Option String :=
  if !settings.separator.isEmpty then some "--sep"
  else if settings.operators.isSome then some "--ops"
  else if !settings.topWrapper.isEmpty then some "--top-wrapper"
  else none

/-- The parameters of the runs with fixed outer wrappers. -/
def egrepParameters (settings : Settings) : List Parameters :=
  Parameters.egrep settings.maxAtoms settings.maxOperators settings.atoms settings.maxLength
    settings.symbols settings.wrapper

/-- The random haystacks, when a seed or a number of them is given. -/
def randomHaystacks (settings : Settings) : Option Draws :=
  if settings.haystackSeed.isSome || settings.haystackCount.isSome then
    some ⟨settings.haystackSeed.getD Draws.haystacks.seed,
      settings.haystackCount.getD Draws.haystacks.count⟩
  else none

/-- The configuration of a run. -/
def configuration (settings : Settings) : Configuration :=
  ⟨settings.showsRegexps, settings.maxBadInputs, settings.randomHaystacks, settings.reduced⟩

end Settings

end Crosscheck
