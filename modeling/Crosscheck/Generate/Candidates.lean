/-
**Candidate regexps.**

A source of candidates yields the regexps that programs build: those of all programs in the order of
the walk, or those of random programs. Looking ahead computes the next regexp and keeps it.

* `Candidates.next`: the next regexp and the source after it;
* `Candidates.hasNext`: whether there is another regexp, with the source that remembers it;
* `Candidates.next_remaining`: the source runs dry.
-/
import Crosscheck.Generate.Draft
import Crosscheck.Generate.Walk

namespace Crosscheck

/-- How a source of candidates chooses programs. -/
inductive Candidates.Mode where
  /-- All programs, at some point of the walk. -/
  | exhaustive (walk : Walk)
  /-- Random programs from a seed: how many at first, the stream now, and how many are left. -/
  | random (seed : UInt64) (count : Nat) (stream : Stream) (left : Nat)

/-- A source of candidate regexps. -/
structure Candidates where
  /-- What programs are made of. -/
  space : Space
  /-- How programs are chosen. -/
  mode : Candidates.Mode
  /-- The next regexp, or that there is none, when it is already known. -/
  peeked : Option (Option String)

namespace Candidates

/-- The walk from its start. -/
def Mode.exhaustively : Mode := .exhaustive .start

/-- Random programs from the start of a seed. -/
def Mode.ofSeed (seed : UInt64) (count : Nat) : Mode := .random seed count (.ofSeed seed) count

/-- The source of all candidates of a space. Every operator must take at least one operand. -/
def ofSpace (space : Space) : Except Violation Candidates :=
  match space.operators.find? (Template.placeholders · = 0) with
  | some operator => .error (.operatorWithoutOperand operator)
  | none => .ok ⟨space, .exhaustively, none⟩

/-- Switches to at most `count` random candidates. -/
def useRandom (source : Candidates) (seed : UInt64) (count : Nat) : Candidates :=
  { source with mode := .ofSeed seed count, peeked := none }

/-- Starts the sequence again; a random one from its seed. -/
def reset (source : Candidates) : Candidates :=
  { source with
    mode := match source.mode with
      | .exhaustive _ => .exhaustively
      | .random seed count _ _ => .ofSeed seed count
    peeked := none }

/-- The first program of at most `left` random ones that is not abandoned, with the stream and the
number of programs left after it. -/
def drawProgram (space : Space) : Stream → Nat → Option Program × Stream × Nat
  | stream, 0 => (none, stream, 0)
  | stream, left + 1 =>
    match Draft.draw space Stream.dice stream with
    | (some program, stream) => (some program, stream, left)
    | (none, stream) => drawProgram space stream left

/-- The next program and the choice after it. -/
def Mode.next (space : Space) : Mode → Option Program × Mode
  | .exhaustive walk =>
    let (program, walk) := walk.next space
    (program, .exhaustive walk)
  | .random seed count stream left =>
    if space.maxAtoms = 0 ∨ space.atoms = [] then (none, .random seed count stream left)
    else
      let (program, stream, left) := drawProgram space stream left
      (program, .random seed count stream left)

/-- Computes the next regexp. -/
def advance (source : Candidates) : Except Violation (Option String × Candidates) :=
  match source.mode.next source.space with
  | (none, mode) => .ok (none, { source with mode := mode, peeked := none })
  | (some program, mode) =>
    match source.space.render program with
    | .error violation => .error violation
    | .ok regexp => .ok (some regexp, { source with mode := mode, peeked := none })

/-- The next regexp, if there is one, and the source after it. -/
def next (source : Candidates) : Except Violation (Option String × Candidates) :=
  match source.peeked with
  | some regexp => .ok (regexp, { source with peeked := none })
  | none => source.advance

/-- Whether there is another regexp, and the source that remembers it. -/
def hasNext (source : Candidates) : Except Violation (Bool × Candidates) := do
  match source.peeked with
  | some regexp => return (regexp.isSome, source)
  | none =>
    let (regexp, source) ← source.advance
    return (regexp.isSome, { source with peeked := some regexp })

/-! ### The source runs dry -/

/-- A bound on the number of programs still to come. -/
def Mode.remaining (space : Space) : Mode → Nat
  | .exhaustive walk => walk.weight space
  | .random _ _ _ left => left

/-- A bound on the number of regexps still to come. -/
def remaining (source : Candidates) : Nat :=
  source.mode.remaining source.space + if source.peeked.isSome then 1 else 0

theorem drawProgram_left {space : Space} {stream after : Stream} {left less : Nat}
    {program : Program} (step : drawProgram space stream left = (some program, after, less)) :
    less < left := by
  induction left generalizing stream with
  | zero => simp [drawProgram] at step
  | succ left hypothesis =>
    rw [drawProgram] at step
    split at step
    · simp only [Prod.mk.injEq] at step
      omega
    · exact Nat.lt_succ_of_lt (hypothesis step)

theorem Mode.next_remaining {space : Space} {mode after : Mode} {program : Program}
    (step : mode.next space = (some program, after)) :
    after.remaining space < mode.remaining space := by
  cases mode with
  | exhaustive walk =>
    simp only [Mode.next, Prod.mk.injEq] at step
    obtain ⟨found, rfl⟩ := step
    exact Walk.next_weight (Prod.ext_iff.mpr ⟨found, rfl⟩)
  | random seed count stream left =>
    rw [Mode.next] at step
    split at step
    · cases step
    · simp only [Prod.mk.injEq] at step
      obtain ⟨found, rfl⟩ := step
      exact drawProgram_left (Prod.ext_iff.mpr ⟨found, rfl⟩)

theorem advance_remaining {source after : Candidates} {regexp : String}
    (step : source.advance = .ok (some regexp, after)) :
    after.mode.remaining after.space < source.mode.remaining source.space ∧
      after.peeked = none := by
  rw [advance] at step
  split at step
  · cases step
  · next program mode found =>
    split at step
    · cases step
    · next rendered =>
      cases step
      exact ⟨Mode.next_remaining found, rfl⟩

/-- The source runs dry: each regexp that is yielded leaves less to come. -/
theorem next_remaining {source after : Candidates} {regexp : String}
    (step : source.next = .ok (some regexp, after)) : after.remaining < source.remaining := by
  rw [next] at step
  split at step
  · next known peeked =>
    simp only [Except.ok.injEq, Prod.mk.injEq] at step
    obtain ⟨-, rfl⟩ := step
    simp [remaining, peeked]
  · obtain ⟨less, unknown⟩ := advance_remaining step
    simp only [remaining, unknown, Option.isSome_none]
    simp only [Bool.false_eq_true, if_false]
    omega

end Candidates

end Crosscheck
