/-
**Sources of candidates answer whatever they are asked.**

A source comes to programs of the walk only, also when it draws them at random, and these can be
rendered. So whatever was asked of it before, and in whatever way it chooses programs, no program
makes it fail.

* `Candidates.Mode.mem_programs_of_next`: the programs that a source comes to;
* `Candidates.Sound`: a source whose programs can be rendered, and `Candidates.Sound.answer`, which
  says that it stays one;
* `Candidates.Sound.exists_answers`: whatever a source is asked.
-/
import Crosscheck.Proofs.Generate.Drafts
import Crosscheck.Run.Configuration

namespace Crosscheck

namespace Candidates

variable {space : Space} {mode : Mode} {program : Program} {source : Candidates}

/-! ### The programs of a source -/

/-- A choice of programs that comes to programs of the walk only. A random one always does. -/
def Mode.Sound (space : Space) : Mode → Prop
  | .exhaustive walk => ∀ program ∈ walk.pending space, program ∈ space.programs
  | .random _ _ _ _ => True

theorem Mode.sound_exhaustively (space : Space) : Mode.exhaustively.Sound space :=
  fun _ member => Walk.pending_start space ▸ member

theorem mem_programs_of_drawProgram (atoms : space.atoms ≠ []) {stream : Stream} {left : Nat}
    (drawn : (drawProgram space stream left).1 = some program) : program ∈ space.programs := by
  induction left generalizing stream with
  | zero => cases drawn
  | succ left hypothesis =>
    rw [drawProgram] at drawn
    split at drawn
    · next found after done =>
      obtain rfl := Option.some.inj drawn
      have grows : (Draft.grow space Stream.dice Stream.patience .empty stream).1 = some found :=
        congrArg Prod.fst done
      exact Draft.mem_programs_of_grow Stream.inRange_dice atoms (Draft.grown_empty space) grows
    · exact hypothesis drawn

/-- **A source comes to programs of the walk only**, one at a time. -/
theorem Mode.mem_programs_of_next (sound : mode.Sound space) :
    (mode.next space).2.Sound space ∧
      ∀ program, (mode.next space).1 = some program → program ∈ space.programs := by
  cases mode with
  | exhaustive walk =>
    have turn := walk.next_pending space
    rw [Mode.next]
    cases found : walk.next space with
    | mk program after =>
      rw [found] at turn
      cases program with
      | none =>
        simp only [Mode.Sound, Walk.pending_last turn.2]
        exact ⟨fun _ none => absurd none List.not_mem_nil, fun _ none => by cases none⟩
      | some program =>
        simp only at turn
        simp only [Mode.Sound, turn, List.forall_mem_cons] at sound
        exact ⟨sound.2, fun other same => Option.some.inj same ▸ sound.1⟩
  | random seed count stream left =>
    rw [Mode.next]
    split
    · exact ⟨trivial, fun _ none => by cases none⟩
    · next some =>
      rw [not_or] at some
      exact ⟨trivial, fun program drawn => mem_programs_of_drawProgram some.2 drawn⟩

/-! ### Requests -/

/-- **A source whose programs can be rendered**: those that it comes to are programs of the walk. -/
structure Sound (space : Space) (source : Candidates) : Prop where
  space_eq : source.space = space
  mode_sound : source.mode.Sound space

theorem sound_atWalk (space : Space) : (atWalk space .start).Sound space :=
  ⟨rfl, Mode.sound_exhaustively space⟩

theorem Sound.reset (sound : source.Sound space) : source.reset.Sound space := by
  refine ⟨sound.space_eq, ?_⟩
  unfold Candidates.reset
  cases source.mode with
  | exhaustive walk => exact Mode.sound_exhaustively space
  | random => trivial

theorem Sound.useRandom (sound : source.Sound space) (seed : UInt64) (count : Nat) :
    (source.useRandom seed count).Sound space :=
  ⟨sound.space_eq, trivial⟩

theorem Sound.advance (sound : source.Sound space) :
    ∃ regexp after, source.advance = .ok (regexp, after) ∧ after.Sound space := by
  obtain ⟨rfl, mode⟩ := sound
  obtain ⟨later, inside⟩ := Mode.mem_programs_of_next mode
  unfold Candidates.advance
  cases step : source.mode.next source.space with
  | mk program after =>
    rw [step] at later inside
    cases program with
    | none => exact ⟨none, _, rfl, rfl, later⟩
    | some program =>
      have builds := Space.builds_of_mem_programs (inside program rfl)
      obtain ⟨regexp, rendered⟩ := Space.exists_render builds.depth_eq
      simp only [rendered]
      exact ⟨some regexp, _, rfl, rfl, later⟩

theorem Sound.next (sound : source.Sound space) :
    ∃ regexp after, source.next = .ok (regexp, after) ∧ after.Sound space := by
  unfold Candidates.next
  cases source.peeked with
  | some regexp => exact ⟨regexp, _, rfl, sound.space_eq, sound.mode_sound⟩
  | none => exact sound.advance

theorem Sound.of_next {regexp : Option String} {after : Candidates} (sound : source.Sound space)
    (step : source.next = .ok (regexp, after)) : after.Sound space := by
  obtain ⟨_, _, answered, later⟩ := sound.next
  rw [step] at answered
  cases answered
  exact later

theorem Sound.hasNext (sound : source.Sound space) :
    ∃ more after, source.hasNext = .ok (more, after) ∧ after.Sound space := by
  unfold Candidates.hasNext
  cases source.peeked with
  | some regexp => exact ⟨regexp.isSome, source, rfl, sound⟩
  | none =>
    obtain ⟨regexp, after, step, later⟩ := sound.advance
    rw [step]
    exact ⟨regexp.isSome, _, rfl, later.space_eq, later.mode_sound⟩

/-- Something that a source is asked. -/
inductive Request where
  | next
  | hasNext
  | reset
  | random (draws : Draws)

/-- The source after it was asked something. -/
def answer (source : Candidates) : Request → Except Violation Candidates
  | .next => return (← source.next).2
  | .hasNext => return (← source.hasNext).2
  | .reset => return source.reset
  | .random draws => return source.useRandom draws.seed draws.count

theorem Sound.answer (sound : source.Sound space) (request : Request) :
    ∃ after, source.answer request = .ok after ∧ after.Sound space := by
  cases request with
  | next =>
    obtain ⟨regexp, after, step, later⟩ := sound.next
    refine ⟨after, ?_, later⟩
    rw [Candidates.answer, step]
    rfl
  | hasNext =>
    obtain ⟨more, after, step, later⟩ := sound.hasNext
    refine ⟨after, ?_, later⟩
    rw [Candidates.answer, step]
    rfl
  | reset => exact ⟨_, rfl, sound.reset⟩
  | random draws => exact ⟨_, rfl, sound.useRandom draws.seed draws.count⟩

/-- **A source answers whatever it is asked.** -/
theorem Sound.exists_answers (sound : source.Sound space) (requests : List Request) :
    ∃ after, requests.foldlM Candidates.answer source = .ok after := by
  induction requests generalizing source with
  | nil => exact ⟨source, rfl⟩
  | cons request rest hypothesis =>
    obtain ⟨middle, answered, later⟩ := sound.answer request
    obtain ⟨after, others⟩ := hypothesis later
    refine ⟨after, ?_⟩
    rw [List.foldlM_cons, answered]
    exact others

end Candidates

end Crosscheck
