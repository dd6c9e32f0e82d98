/-
**Building automata.**

A pattern is built into a fragment of an automaton, with one state where it is entered and one where
it is left. States are added with a target that is set later, when it exists.

* `Build.pattern`: the fragment of a pattern;
* `Automaton.ofPattern`: the automaton of a pattern, or why there is none.
-/
import Crosscheck.Automaton.State
import Crosscheck.Failure
import Crosscheck.Pattern

namespace Crosscheck

/-- When a loop that may be passed without an iteration is entered through a choice of its own. -/
inductive LoopRule where
  /-- When its body is known to have an empty match. -/
  | bodyKnownEmpty
  /-- When its body is not known to have none. -/
  | bodyNotKnownNonempty
  deriving DecidableEq

namespace LoopRule

/-- Whether a loop is entered through a choice of its own, by the least length of its body. -/
def hasOwnEntry (rule : LoopRule) (minLength : Option Nat) : Bool :=
  match rule with
  | bodyKnownEmpty => minLength == some 0
  | bodyNotKnownNonempty => minLength.getD 0 == 0

end LoopRule

/-- A part of an automaton. -/
structure Fragment where
  /-- Where it is entered. -/
  first : Nat
  /-- Where it is left. -/
  last : Nat
  deriving DecidableEq

/-- An automaton on its way. -/
structure Builder where
  /-- The states so far. -/
  states : Array State
  /-- The bytes that the states take besides their fixed size. -/
  extra : Nat

/-- A step of building. -/
abbrev Build := StateT Builder (Except Unsupported)

namespace Build

/-! ### States and their targets -/

/-- The bytes that an automaton may take. -/
def sizeLimit : Nat := 10 * (1 <<< 20)

/-- The bytes that every state takes. -/
def stateSize : Nat := 32

/-- The bytes that a target of a split takes. -/
def targetSize : Nat := 4

/-- The bytes that a state takes besides its fixed size. -/
def extraSize : State → Nat
  | .splits targets _ => targets.length * targetSize
  | .ranges _ ranges => ranges.length * 2
  | _ => 0

/-- Refuses an automaton that is too large. -/
def checkSize (builder : Builder) : Except Unsupported Builder :=
  if sizeLimit < builder.states.size * stateSize + builder.extra then .error .tooLarge
  else .ok builder

/-- Adds a state and returns its number. -/
def add (state : State) : Build Nat := fun builder => do
  let index := builder.states.size
  let builder ← checkSize ⟨builder.states.push state, builder.extra + extraSize state⟩
  return (index, builder)

/-- Sets the target of a state, or adds a target to a split. -/
def patch (source target : Nat) : Build Unit := fun builder => do
  let extra := match builder.states[source]? with
    | some (.splits _ _) => builder.extra + targetSize
    | _ => builder.extra
  let builder ← checkSize ⟨builder.states.modify source (·.redirect target), extra⟩
  return ((), builder)

/-- Adds one state that is both entered and left. -/
def single (state : State) : Build Fragment := do
  let index ← add state
  return ⟨index, index⟩

/-- Adds a state that leads on unconditionally. -/
def addEmpty : Build Nat := add (.goto 0 none)

/-- Adds a choice without targets. A greedy one tries its first target first. -/
def addSplits (greedy : Bool) : Build Nat := add (.splits [] (!greedy))

/-! ### Leaves -/

/-- The fragment that matches the empty string. -/
def empty : Build Fragment := single (.goto 0 none)

/-- Adds the bytes behind a fragment. -/
def bytesAfter (whole : Fragment) : Bytes → Build Fragment
  | [] => return whole
  | byte :: rest => do
    let next ← single (.byte 0 byte)
    patch whole.last next.first
    bytesAfter ⟨whole.first, next.last⟩ rest

/-- The fragment that matches the given bytes. -/
def literal : Bytes → Build Fragment
  | [] => empty
  | byte :: rest => do bytesAfter (← single (.byte 0 byte)) rest

/-- The fragment that matches one byte of a set. -/
def byteClass (ranges : RangeSet) : Build Fragment :=
  if ranges.isEmpty then single .fail else single (.ranges 0 ranges)

/-- The fragment that matches one character of a set; only ASCII characters have one. -/
def charClass (chars : RangeSet) : Build Fragment :=
  if chars.allAtMost 0x7F then byteClass chars else throw .wideClass

/-! ### Repetitions of a body -/

/-- The fragment that matches the body at most once. -/
def optional (greedy : Bool) (body : Build Fragment) : Build Fragment := do
  let splits ← addSplits greedy
  let inner ← body
  let last ← addEmpty
  patch splits inner.first
  patch splits last
  patch inner.last last
  return ⟨splits, last⟩

/-- Adds `count` copies of the body behind a fragment. -/
def copiesAfter (body : Build Fragment) (whole : Fragment) : Nat → Build Fragment
  | 0 => return whole
  | count + 1 => do
    let next ← body
    patch whole.last next.first
    copiesAfter body ⟨whole.first, next.last⟩ count

/-- The fragment that matches the body exactly `count` times. -/
def exactly (body : Build Fragment) : Nat → Build Fragment
  | 0 => empty
  | count + 1 => do copiesAfter body (← body) count

/-- Adds `count` copies of the body, each of which may be passed over for the state `exit`. Returns
the state where the last copy is left. -/
def optionalCopies (greedy : Bool) (body : Build Fragment) (exit last : Nat) : Nat → Build Nat
  | 0 => return last
  | count + 1 => do
    let splits ← addSplits greedy
    let inner ← body
    patch last splits
    patch splits inner.first
    patch splits exit
    optionalCopies greedy body exit inner.last count

/-- The fragment that matches the body between `min` and `max` times. -/
def bounded (greedy : Bool) (body : Build Fragment) (min max : Nat) : Build Fragment := do
  let whole ← exactly body min
  let exit ← addEmpty
  let last ← optionalCopies greedy body exit whole.last (max - min)
  patch last exit
  return ⟨whole.first, exit⟩

/-- The fragment that matches the body any number of times, as one loop. -/
def loop (greedy : Bool) (body : Build Fragment) : Build Fragment := do
  let splits ← addSplits greedy
  let inner ← body
  patch splits inner.first
  patch inner.last splits
  return ⟨splits, splits⟩

/-- The fragment that matches the body any number of times, as a loop that is entered through a
choice of its own. A single loop would prefer an empty iteration to leaving. -/
def enteredLoop (greedy : Bool) (body : Build Fragment) : Build Fragment := do
  let inner ← body
  let again ← addSplits greedy
  patch inner.last again
  patch again inner.first
  let entry ← addSplits greedy
  let last ← addEmpty
  patch entry inner.first
  patch entry last
  patch again last
  return ⟨entry, last⟩

/-- The fragment that matches the body at least once. -/
def atLeastOnce (greedy : Bool) (body : Build Fragment) : Build Fragment := do
  let inner ← body
  let splits ← addSplits greedy
  patch inner.last splits
  patch splits inner.first
  return ⟨inner.first, splits⟩

/-- The fragment that matches the body `count` times and then at least once more. -/
def moreThan (greedy : Bool) (body : Build Fragment) (count : Nat) : Build Fragment := do
  let whole ← exactly body count
  let inner ← body
  let splits ← addSplits greedy
  patch whole.last inner.first
  patch inner.last splits
  patch splits inner.first
  return ⟨whole.first, splits⟩

/-- The fragment that matches the body at least `min` times. -/
def atLeast (rule : LoopRule) (greedy : Bool) (minLength : Option Nat) (body : Build Fragment)
    (min : Nat) : Build Fragment :=
  match min with
  | 0 => if rule.hasOwnEntry minLength then enteredLoop greedy body else loop greedy body
  | 1 => atLeastOnce greedy body
  | count + 1 => moreThan greedy body count

/-- The fragment of a repetition, from the least length of its body. -/
def repetition (rule : LoopRule) (min : Nat) (max : Option Nat) (greedy : Bool)
    (minLength : Option Nat) (body : Build Fragment) : Build Fragment :=
  match max with
  | none => atLeast rule greedy minLength body min
  | some max =>
    if min = 0 ∧ max = 1 then optional greedy body
    else if min = max then exactly body min
    else bounded greedy body min max

/-- The fragment that matches the body and stores where. -/
def group (index : Nat) (body : Build Fragment) : Build Fragment := do
  let first ← add (.capture 0 (index * 2))
  let inner ← body
  let last ← add (.capture 0 (index * 2 + 1))
  patch first inner.first
  patch inner.last last
  return ⟨first, last⟩

/-! ### Patterns -/

mutual

/-- The fragment of a pattern. -/
def pattern (rule : LoopRule) : Pattern → Build Fragment
  | .empty => empty
  | .literal bytes => literal bytes
  | .byteClass bytes => byteClass bytes
  | .charClass chars => charClass chars
  | .look look => single (.goto 0 (some look))
  | .wideLook _ => throw .wideWordAssertion
  | .repetition min max greedy body =>
    repetition rule min max greedy body.minLength (pattern rule body)
  | .group index body => group index (pattern rule body)
  | .concat [] => empty
  | .concat (part :: rest) => do partsAfter rule (← pattern rule part) rest
  | .alternation [] => single .fail
  | .alternation [branch] => pattern rule branch
  | .alternation (one :: other :: rest) => do
    let one ← pattern rule one
    let other ← pattern rule other
    let splits ← addSplits true
    let last ← addEmpty
    patch splits one.first
    patch one.last last
    patch splits other.first
    patch other.last last
    branchesInto rule splits last rest
    return ⟨splits, last⟩

/-- Adds patterns behind a fragment. -/
def partsAfter (rule : LoopRule) (whole : Fragment) : List Pattern → Build Fragment
  | [] => return whole
  | part :: rest => do
    let next ← pattern rule part
    patch whole.last next.first
    partsAfter rule ⟨whole.first, next.last⟩ rest

/-- Adds patterns as further branches of a choice that all lead to the state `last`. -/
def branchesInto (rule : LoopRule) (splits last : Nat) : List Pattern → Build Unit
  | [] => return ()
  | branch :: rest => do
    let next ← pattern rule branch
    patch splits next.first
    patch next.last last
    branchesInto rule splits last rest

end

end Build

namespace Automaton

/-- The number of groups of a pattern, the overall match included. Groups that no match can set
count too, so that their indices stay what they are. -/
def groupsOf (pattern : Pattern) : Nat := max pattern.groupCount pattern.maxGroup + 1

/-- The automaton of a pattern. -/
def ofPattern (rule : LoopRule) (pattern : Pattern) : Except Unsupported Automaton := do
  let build : Build Fragment := do
    let whole ← Build.group 0 (Build.pattern rule pattern)
    let accept ← Build.add .accept
    Build.patch whole.last accept
    return whole
  let (whole, builder) ← build ⟨#[], 0⟩
  return ⟨builder.states, whole.first, groupsOf pattern⟩

end Automaton

end Crosscheck
