/-
**Configuration of a run.**

* `Configuration`: how a run goes about its tests;
* `Configuration.standard`: the configuration when nothing is asked for.
-/

namespace Crosscheck

/-- How random things are drawn: from a seed, and how many of them. -/
structure Draws where
  /-- The seed. -/
  seed : UInt64
  /-- How many are drawn. -/
  count : Nat
  deriving DecidableEq

/-- How a run goes about its tests. -/
structure Configuration where
  /-- Whether every regexp is printed before it is tested. -/
  showsProgress : Bool
  /-- The number of failing haystacks that end the test of a regexp. -/
  maxBadInputs : Nat
  /-- The random haystacks that take the place of all haystacks. -/
  randomHaystacks : Option Draws
  /-- Whether the parameters are made smaller. -/
  reducesScale : Bool
  deriving DecidableEq

namespace Configuration

/-- The configuration when nothing is asked for. -/
def standard : Configuration := ⟨false, 1, none, true⟩

end Configuration

namespace Draws

/-- The random haystacks when nothing else is asked for. -/
def haystacks : Draws := ⟨200, 100⟩

/-- The random regexps when nothing else is asked for. -/
def regexps : Draws := ⟨404, 100⟩

end Draws

end Crosscheck
