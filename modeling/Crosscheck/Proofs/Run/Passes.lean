/-
**Two passes over the same haystacks.**

A recording tester goes through its haystacks to write them, and again for the records of every
regexp. It starts them again before each pass, and leaves them wherever a write fails. No step that
it takes for a haystack looks at where the haystacks are, so each pass does what the steps for the
list of all of them do.

* `Tester.leaving`: an outcome with the haystacks left somewhere else;
* `Tester.Blind`: a step that does not look at the haystacks;
* `Tester.Follows`: a step that does what a blind one does, and leaves the haystacks anywhere;
* `Tester.follows_forEachHaystack`: one pass;
* `Tester.recordOver`, `Tester.record_eq`: a regexp and its records over a list of haystacks.
-/
import Crosscheck.Proofs.Generate.Odometer
import Crosscheck.Proofs.Run.Start

namespace Crosscheck

namespace Tester

open Fixture (Writer)

/-! ### Steps that do not look at the haystacks -/

section Blind

variable {α β : Type}

/-- A tester with its haystacks somewhere else. -/
def withHaystacks (tester : Tester) (haystacks : Haystacks) : Tester :=
  { tester with haystacks := haystacks }

/-- An outcome with the haystacks left somewhere else. -/
def leaving (haystacks : Haystacks) : EStateM.Result Fault Tester α → EStateM.Result Fault Tester α
  | .ok value tester => .ok value (tester.withHaystacks haystacks)
  | .error fault tester => .error fault (tester.withHaystacks haystacks)

/-- **A step that does not look at the haystacks** and leaves them where they are. -/
def Blind (step : Step α) : Prop :=
  ∀ tester haystacks, step (tester.withHaystacks haystacks) = leaving haystacks (step tester)

theorem leaving_leaving (one other : Haystacks) (result : EStateM.Result Fault Tester α) :
    leaving one (leaving other result) = leaving one result := by
  cases result <;> rfl

theorem Blind.leaving_eq {step : Step α} (blind : Blind step) (tester : Tester) :
    step tester = leaving tester.haystacks (step tester) :=
  blind tester tester.haystacks

theorem Blind.of_ok {step : Step α} {tester after : Tester} {value : α} (blind : Blind step)
    (run : step tester = .ok value after) : after.haystacks = tester.haystacks := by
  have stays := blind.leaving_eq tester
  rw [run] at stays
  exact (congrArg haystacks (EStateM.Result.ok.inj stays).2).trans rfl

theorem Blind.of_error {step : Step α} {tester after : Tester} {fault : Fault}
    (blind : Blind step) (run : step tester = .error fault after) :
    after.haystacks = tester.haystacks := by
  have stays := blind.leaving_eq tester
  rw [run] at stays
  exact (congrArg haystacks (EStateM.Result.error.inj stays).2).trans rfl

theorem blind_pure (value : α) : Blind (pure value) := fun _ _ => rfl

theorem Blind.bind {first : Step α} {next : α → Step β} (blind : Blind first)
    (others : ∀ value, Blind (next value)) : Blind (first >>= next) := by
  intro tester haystacks
  have now := blind tester haystacks
  cases run : first tester with
  | error fault after =>
    rw [run] at now
    rw [bind_of_error run, bind_of_error now]
    rfl
  | ok value after =>
    rw [run] at now
    rw [bind_of_ok run, bind_of_ok now, others value]

theorem blind_forM {items : List α} {step : α → Step Unit}
    (blind : ∀ item, Blind (step item)) : Blind (forM items step) := by
  induction items with
  | nil => exact blind_pure ()
  | cons item rest hypothesis =>
    rw [List.forM_cons]
    exact (blind item).bind fun _ => hypothesis

theorem blind_compile (regexp : String) : Blind (compile regexp) := by
  intro tester haystacks
  show compile regexp (tester.withHaystacks haystacks) = _
  unfold compile withHaystacks leaving
  dsimp only
  generalize tester.engine.consult regexp tester.journal = consulted
  obtain ⟨_ | _, _⟩ := consulted
  · dsimp only
    split <;> rfl
  · rfl

theorem blind_write (step : Writer.Step) : Blind (write step) := by
  rintro ⟨engine, parameters, configuration, candidates, source, task, counters, journal⟩ other
  cases task with
  | compare => rfl
  | record writer =>
    unfold write withHaystacks leaving
    dsimp only
    cases step writer <;> rfl

theorem blind_recordOn (matcher : Option Matcher) (haystack : String) :
    Blind (recordOn matcher haystack) := by
  intro tester haystacks
  exact blind_write
    (Writer.record (Matcher.record matcher (Bytes.ofText haystack) tester.journal).1)
    { tester with journal := (Matcher.record matcher (Bytes.ofText haystack) tester.journal).2 }
    haystacks

end Blind

/-! ### Writing -/

/-- Steps of the writer one after the other are steps of the tester one after the other. -/
theorem write_seq (first second : Writer.Step) :
    write (do first; second) = (do write first; write second) := by
  funext ⟨engine, parameters, configuration, candidates, source, task, counters, journal⟩
  cases task with
  | compare => rfl
  | record writer =>
    show write (EStateM.bind first fun _ => second) _ =
      EStateM.bind (write first) (fun _ => write second) _
    unfold EStateM.bind write
    dsimp only
    cases first writer with
    | ok value middle => cases second middle <;> rfl
    | error fault middle => rfl

theorem write_forM {α : Type} (items : List α) (step : α → Writer.Step) :
    forM items (fun item => write (step item)) = write (forM items step) := by
  induction items with
  | nil =>
    funext ⟨engine, parameters, configuration, candidates, source, task, counters, journal⟩
    cases task <;> rfl
  | cons item rest hypothesis => rw [List.forM_cons, List.forM_cons, write_seq, hypothesis]

/-! ### One pass -/

/-- **A step that does what a blind one does** for testers with the given haystacks, and leaves the
haystacks anywhere. -/
def Follows (source : Haystacks) (step plain : Step Unit) : Prop :=
  ∀ tester, tester.haystacks = source →
    ∃ left, left.reset = source.reset ∧ step tester = leaving left (plain tester)

section Follows

variable {source : Haystacks} {step plain first rest later plainly : Step Unit}

theorem Blind.follows (blind : Blind step) (source : Haystacks) : Follows source step step := by
  rintro tester rfl
  exact ⟨tester.haystacks, rfl, blind.leaving_eq tester⟩

theorem Follows.seq (follows : Follows source step plain) (blind : Blind plainly)
    (others : ∀ left, left.reset = source.reset → Follows left later plainly) :
    Follows source (do step; later) (do plain; plainly) := by
  intro tester here
  obtain ⟨left, same, run⟩ := follows tester here
  cases done : plain tester with
  | error fault after =>
    rw [done] at run
    exact ⟨left, same, by rw [bind_of_error run, bind_of_error done]; rfl⟩
  | ok value after =>
    rw [done] at run
    obtain ⟨last, alike, more⟩ := others left same (after.withHaystacks left) rfl
    refine ⟨last, alike.trans same, ?_⟩
    rw [bind_of_ok run, bind_of_ok done, more, blind, leaving_leaving]

/-- What is done after a blind step is done with the same haystacks. -/
theorem Blind.seq_follows (blind : Blind first) (follows : Follows source rest plain) :
    Follows source (do first; rest) (do first; plain) := by
  intro tester here
  cases done : first tester with
  | error fault after =>
    refine ⟨after.haystacks, by rw [blind.of_error done, here], ?_⟩
    rw [bind_of_error done, bind_of_error done]
    rfl
  | ok value after =>
    obtain ⟨left, same, run⟩ := follows after ((blind.of_ok done).trans here)
    exact ⟨left, same, by rw [bind_of_ok done, bind_of_ok done, run]⟩

/-- Starting the haystacks again makes no difference to a blind step. -/
theorem Follows.restart (follows : Follows source.reset step plain) (blind : Blind plain) :
    Follows source (do restart; step) plain := by
  rintro tester rfl
  obtain ⟨left, same, run⟩ := follows (tester.withHaystacks tester.haystacks.reset) rfl
  refine ⟨left, same, ?_⟩
  rw [blind, leaving_leaving] at run
  exact run

/-- **One pass** does what the steps for all haystacks of a list do. -/
theorem follows_forEachHaystack {act : String → Step Unit} (blind : ∀ text, Blind (act text))
    (source : Haystacks) : Follows source (forEachHaystack act) (forM source.toList act) := by
  rintro tester rfl
  -- the steps are followed from any point of the pass, where the haystacks are those that are left
  suffices pass : ∀ (source : Haystacks) (tester : Tester), tester.haystacks = source →
      ∃ left, left.reset = source.reset ∧ source.forEach (fun text rest => do
        modify fun tester => { tester with haystacks := rest }
        act text) tester = leaving left (forM source.toList act tester) from
    pass tester.haystacks tester rfl
  intro source tester here
  fun_induction Haystacks.forEach source (fun text rest => do
      modify fun tester => { tester with haystacks := rest }
      act text) tester with
  | case1 source tester last =>
    rw [Haystacks.toList_eq_nil last]
    exact ⟨source, rfl, by rw [← here]; rfl⟩
  | case2 source tester text rest step after done hypothesis =>
    have frame := Haystacks.next_frame step
    have again : rest.reset = source.reset := congrArg₂ Haystacks.ofAlphabet frame.1 frame.2
    have moved : act text (tester.withHaystacks rest) = .ok () after := done
    rw [blind] at moved
    cases plainly : act text tester with
    | error fault torn =>
      rw [plainly] at moved
      cases moved
    | ok value next =>
      rw [plainly] at moved
      obtain rfl : next.withHaystacks rest = after := (EStateM.Result.ok.inj moved).2
      obtain ⟨left, same, run⟩ := hypothesis rfl
      refine ⟨left, same.trans again, ?_⟩
      rw [run, Haystacks.toList_eq_cons step, List.forM_cons, bind_of_ok plainly,
        blind_forM blind, leaving_leaving]
  | case3 source tester text rest step fault after failed =>
    have frame := Haystacks.next_frame step
    have again : rest.reset = source.reset := congrArg₂ Haystacks.ofAlphabet frame.1 frame.2
    have moved : act text (tester.withHaystacks rest) = .error fault after := failed
    rw [blind] at moved
    cases plainly : act text tester with
    | ok value next =>
      rw [plainly] at moved
      cases moved
    | error other torn =>
      rw [plainly] at moved
      refine ⟨rest, again, ?_⟩
      rw [Haystacks.toList_eq_cons step, List.forM_cons, bind_of_error plainly]
      exact moved.symm

end Follows

/-! ### A regexp and its records -/

/-- Writes the haystacks of a list. -/
def writeAll (haystacks : List String) : Step Unit :=
  write (Writer.haystacks (haystacks.map Bytes.ofText))

/-- Writes a regexp and its records on the haystacks of a list. -/
def recordEntry (matcher : Option Matcher) (haystacks : List String) (regexp : String) :
    Step Unit := do
  write (Writer.regexp regexp)
  forM haystacks (recordOn matcher)

/-- Writes a regexp and its records on the haystacks of a list, and before the first one the
haystacks. -/
def recordOver (haystacks : List String) (regexp : String) : Step Unit := do
  let matcher ← compile regexp
  if !(← get).hasHaystacks then writeAll haystacks
  recordEntry matcher haystacks regexp

theorem blind_recordEntry (matcher : Option Matcher) (haystacks : List String) (regexp : String) :
    Blind (recordEntry matcher haystacks regexp) :=
  (blind_write _).bind fun _ => blind_forM (blind_recordOn matcher)

/-- The first pass writes all haystacks. -/
theorem follows_writeHaystacks (source : Haystacks) :
    Follows source writeHaystacks (writeAll source.reset.toList) := by
  have quotes : ∀ text : String, Blind (write (Writer.quoted (Bytes.ofText text))) :=
    fun _ => blind_write _
  have pass := (follows_forEachHaystack quotes source.reset).seq
    (blind_write Writer.endHaystacks) fun left _ => (blind_write _).follows left
  have opens := (blind_write Writer.beginHaystacks).seq_follows pass
  have whole := opens.restart ((blind_write _).bind fun _ =>
    (blind_forM quotes).bind fun _ => blind_write _)
  have same : writeAll source.reset.toList = (do
      write Writer.beginHaystacks
      forM source.reset.toList fun text => write (Writer.quoted (Bytes.ofText text))
      write Writer.endHaystacks) := by
    unfold writeAll Writer.haystacks
    rw [write_seq, write_seq, ← write_forM, List.forM_map]
  rw [same]
  exact whole

/-- The second pass writes a record for each haystack. -/
theorem follows_recordEntry (matcher : Option Matcher) (regexp : String) (source : Haystacks) :
    Follows source (do
      write (Writer.regexp regexp)
      restart
      forEachHaystack (recordOn matcher)) (recordEntry matcher source.reset.toList regexp) :=
  (blind_write _).seq_follows
    ((follows_forEachHaystack (blind_recordOn matcher) source.reset).restart
      (blind_forM (blind_recordOn matcher)))

/-- **Both passes are over all haystacks**, wherever they were left before. What is written for a
regexp is what the steps for the list of all haystacks write. -/
theorem record_eq (regexp : String) (tester : Tester) :
    ∃ left, left.reset = tester.recordedHaystacks ∧
      record regexp tester =
        leaving left (recordOver tester.recordedHaystacks.toList regexp tester) := by
  unfold record recordOver
  cases compiled : compile regexp tester with
  | error fault after =>
    have here := (blind_compile regexp).of_error compiled
    refine ⟨after.haystacks, by rw [here]; rfl, ?_⟩
    rw [bind_of_error compiled, bind_of_error compiled]
    rfl
  | ok matcher next =>
    have here := (blind_compile regexp).of_ok compiled
    have entry : ∀ source : Haystacks, source.reset = tester.recordedHaystacks →
        Follows source _ (recordEntry matcher tester.recordedHaystacks.toList regexp) :=
      fun source same => same ▸ follows_recordEntry matcher regexp source
    rw [bind_of_ok compiled, bind_of_ok compiled, bind_get, bind_get]
    cases next.hasHaystacks with
    | true => exact entry tester.haystacks rfl next here
    | false =>
      exact (follows_writeHaystacks tester.haystacks).seq (blind_recordEntry _ _ _)
        (fun left same => entry left same) next here

end Tester

end Crosscheck
