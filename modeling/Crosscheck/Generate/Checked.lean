/-
**Candidates where arithmetic is checked.**

The limit of a space is a sum, and a machine word. Where it is the largest word, arithmetic that is
not checked starts again at zero, and arithmetic that is checked stops the source at every program
that it would look at. For all other spaces checks make no difference.

* `Candidates.nextChecked`: the next regexp, or why there is no answer, and what is left;
* `Candidates.hasNextChecked`: whether there is another regexp;
* `Candidates.nextChecked_of_next`: where the limit is a machine word, nothing is stopped;
* `Candidates.nextChecked_ofSpace`: where it is none, the first request is.
-/
import Crosscheck.Generate.Candidates

namespace Crosscheck

namespace Candidates

/-- The next program where arithmetic is checked. Every program is measured against the limit as
soon as it is looked at: one of the walk once it is marked as visited, one that is drawn before
anything is drawn for it. -/
def Mode.nextChecked (space : Space) (mode : Mode) : Except Violation (Option Program) × Mode :=
  if space.maxOperators + 1 < UInt64.size then
    let (program, mode) := mode.next space
    (.ok program, mode)
  else
    match mode with
    | .exhaustive walk =>
      match walk.arrive space with
      | ⟨steps, []⟩ => (.ok none, .exhaustive ⟨steps, []⟩)
      | ⟨steps, frame :: frames⟩ =>
        (.error .sumTooLarge, .exhaustive ⟨steps, { frame with visited := true } :: frames⟩)
    | .random seed count stream left =>
      if space.maxAtoms = 0 ∨ space.atoms = [] ∨ left = 0 then (.ok none, mode)
      else (.error .sumTooLarge, .random seed count stream (left - 1))

/-- Computes the next regexp where arithmetic is checked. -/
def advanceChecked (source : Candidates) : Except Violation (Option String) × Candidates :=
  match source.mode.nextChecked source.space with
  | (.error violation, mode) => (.error violation, { source with mode := mode })
  | (.ok none, mode) => (.ok none, { source with mode := mode, peeked := none })
  | (.ok (some program), mode) =>
    ((source.space.render program).map some, { source with mode := mode, peeked := none })

/-- The next regexp where arithmetic is checked, if there is one, and the source after it. -/
def nextChecked (source : Candidates) : Except Violation (Option String) × Candidates :=
  match source.peeked with
  | some regexp => (.ok regexp, { source with peeked := none })
  | none => source.advanceChecked

/-- Whether there is another regexp where arithmetic is checked, and the source that remembers
it. -/
def hasNextChecked (source : Candidates) : Except Violation Bool × Candidates :=
  match source.peeked with
  | some regexp => (.ok regexp.isSome, source)
  | none =>
    match source.advanceChecked with
    | (.ok regexp, source) => (.ok regexp.isSome, { source with peeked := some regexp })
    | (.error violation, source) => (.error violation, source)

/-! ### Where the limit is a machine word -/

section Fits

variable {source after : Candidates} {regexp : Option String} {more : Bool}
  (fits : source.space.maxOperators + 1 < UInt64.size)

include fits

theorem advanceChecked_of_advance (step : source.advance = .ok (regexp, after)) :
    source.advanceChecked = (.ok regexp, after) := by
  unfold advanceChecked Mode.nextChecked
  rw [if_pos fits]
  unfold advance at step
  split at step
  · next mode found =>
    cases step
    rw [found]
  · next program mode found =>
    rw [found]
    split at step
    · cases step
    · next text rendered =>
      cases step
      simp only [rendered, Except.map]

/-- **Checks make no difference where the limit is a machine word.** -/
theorem nextChecked_of_next (step : source.next = .ok (regexp, after)) :
    source.nextChecked = (.ok regexp, after) := by
  unfold next at step
  unfold nextChecked
  cases peeked : source.peeked with
  | some known =>
    simp only [peeked] at step ⊢
    cases step
    rfl
  | none =>
    simp only [peeked] at step ⊢
    exact advanceChecked_of_advance fits step

theorem hasNextChecked_of_hasNext (step : source.hasNext = .ok (more, after)) :
    source.hasNextChecked = (.ok more, after) := by
  unfold hasNext at step
  unfold hasNextChecked
  cases peeked : source.peeked with
  | some known =>
    simp only [peeked] at step ⊢
    cases step
    rfl
  | none =>
    simp only [peeked] at step ⊢
    cases found : source.advance with
    | error violation =>
      rw [found] at step
      cases step
    | ok pair =>
      rw [found] at step
      cases step
      rw [advanceChecked_of_advance fits found]

end Fits

/-! ### Where the limit is no machine word -/

/-- **Where the limit is no machine word, checks stop the first request** for a regexp. -/
theorem nextChecked_ofSpace {space : Space} {source : Candidates}
    (made : ofSpace space = .ok source) (exceeds : ¬space.maxOperators + 1 < UInt64.size) :
    ∃ after, source.nextChecked = (.error .sumTooLarge, after) := by
  unfold ofSpace at made
  split at made
  · cases made
  · cases made
    unfold nextChecked advanceChecked Mode.nextChecked
    simp only [if_neg exceeds]
    exact ⟨_, rfl⟩

end Candidates

end Crosscheck
