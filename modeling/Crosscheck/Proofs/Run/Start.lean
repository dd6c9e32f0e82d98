/-
**Testers that are accepted.**

What the checks at the start leave open can not go wrong later: candidates can be wrapped, and every
operator takes an operand.

* `Parameters.exists_wrap`: every candidate can be wrapped;
* `Tester.of_ofTask`: the state of a tester at its start;
* `Tester.handle_of_compare`, `Tester.handle_of_record`: what comes before the task of a candidate.
-/
import Crosscheck.Proofs.Generate.Enumeration
import Crosscheck.Run.Tester

namespace Crosscheck

namespace Parameters

variable {parameters : Parameters}

theorem canWrap_of_check (accepted : parameters.check = .ok ()) :
    canWrap parameters.wrapper ∧ canWrap parameters.topWrapper := by
  unfold check at accepted
  split at accepted
  · cases accepted
  · next wrapper =>
    split at accepted
    · cases accepted
    · next topWrapper => exact ⟨by simpa using wrapper, by simpa using topWrapper⟩

theorem takes_of_check (accepted : parameters.check = .ok ()) :
    ∀ operator ∈ parameters.space.operators, Template.placeholders operator ≠ 0 := by
  unfold check at accepted
  split at accepted
  · cases accepted
  · split at accepted
    · cases accepted
    · split at accepted
      · cases accepted
      · next none =>
        intro operator member
        simpa using List.find?_eq_none.mp none operator member

theorem exists_wrapIn {template : String} (wraps : canWrap template) (regexp : String) :
    ∃ wrapped, wrapIn template regexp = .ok wrapped := by
  unfold wrapIn
  split
  · exact ⟨regexp, rfl⟩
  · next written =>
    have single : Template.placeholders template = 1 := by simpa [canWrap, written] using wraps
    exact Space.exists_substitute single

/-- **Every candidate can be wrapped.** -/
theorem exists_wrap (accepted : parameters.check = .ok ()) (candidate : String) :
    ∃ regexp, parameters.wrap candidate = .ok regexp := by
  obtain ⟨inner, outer⟩ := canWrap_of_check accepted
  obtain ⟨wrapped, first⟩ := exists_wrapIn inner candidate
  obtain ⟨regexp, second⟩ := exists_wrapIn outer wrapped
  refine ⟨regexp, ?_⟩
  rw [wrap, first]
  exact second

/-- The regexps that a run with the parameters tests, in order. -/
def regexps (parameters : Parameters) : Except Violation (List String) := do
  (← parameters.space.regexps).mapM parameters.wrap

theorem exists_regexps (accepted : parameters.check = .ok ()) :
    ∃ candidates regexps, parameters.space.regexps = .ok candidates ∧
      candidates.mapM parameters.wrap = .ok regexps ∧ parameters.regexps = .ok regexps := by
  obtain ⟨candidates, rendered⟩ := parameters.space.exists_regexps
  have each : ∀ candidate ∈ candidates, ∃ regexp, parameters.wrap candidate = .ok regexp :=
    fun candidate _ => exists_wrap accepted candidate
  obtain ⟨regexps, wrapped⟩ := exists_mapM each
  refine ⟨candidates, regexps, rendered, wrapped, ?_⟩
  rw [Parameters.regexps, rendered]
  exact wrapped

end Parameters

namespace Tester

variable {engine : Engine} {parameters : Parameters} {configuration : Configuration}
  {task : Task} {journal : Journal} {tester : Tester}

theorem check_eq_ok (accepted : check parameters configuration = .ok ()) :
    parameters.check = .ok () ∧ configuration.maxBadInputs ≠ 0 := by
  unfold check at accepted
  cases checked : parameters.check with
  | error cause =>
    rw [checked] at accepted
    cases accepted
  | ok =>
    refine ⟨rfl, fun zero => ?_⟩
    rw [checked, if_pos zero] at accepted
    cases accepted

/-- A tester before its first candidate. -/
def fresh (engine : Engine) (parameters : Parameters) (configuration : Configuration) (task : Task)
    (journal : Journal) : Tester :=
  ⟨engine, parameters, configuration, .atWalk parameters.space .start,
    .ofAlphabet parameters.maxLength parameters.symbols, task, .zero, journal⟩

theorem ofTask_eq (accepted : check parameters configuration = .ok ()) :
    ofTask engine parameters configuration task journal =
      .ok (fresh engine parameters configuration task journal) := by
  obtain ⟨checked, -⟩ := check_eq_ok accepted
  unfold ofTask
  rw [accepted, Candidates.ofSpace_eq (Parameters.takes_of_check checked)]
  rfl

theorem check_of_ofTask (made : ofTask engine parameters configuration task journal = .ok tester) :
    check parameters configuration = .ok () := by
  unfold ofTask at made
  cases accepted : check parameters configuration with
  | error cause =>
    rw [accepted] at made
    cases made
  | ok => rfl

/-- **A tester at its start**: parameters and configuration are accepted, nothing is counted, and
all candidates and haystacks are still to come. -/
theorem of_ofTask (made : ofTask engine parameters configuration task journal = .ok tester) :
    parameters.check = .ok () ∧ configuration.maxBadInputs ≠ 0 ∧
      tester = fresh engine parameters configuration task journal := by
  have accepted := check_of_ofTask made
  obtain ⟨checked, limit⟩ := check_eq_ok accepted
  rw [ofTask_eq accepted] at made
  exact ⟨checked, limit, (Except.ok.inj made).symm⟩

/-! ### The first steps of a candidate -/

theorem bind_of_ok {α β : Type} {first : Step α} {next : α → Step β} {value : α}
    {tester after : Tester} (run : first tester = .ok value after) :
    (first >>= next) tester = next value after := by
  show EStateM.bind first next tester = _
  rw [EStateM.bind, run]

theorem bind_of_error {α β : Type} {first : Step α} {next : α → Step β} {fault : Fault}
    {tester after : Tester} (run : first tester = .error fault after) :
    (first >>= next) tester = .error fault after := by
  show EStateM.bind first next tester = _
  rw [EStateM.bind, run]

theorem bind_get {α : Type} (next : Tester → Step α) (tester : Tester) :
    (get >>= next) tester = next tester tester := rfl

theorem bind_modify {α : Type} (change : Tester → Tester) (next : PUnit → Step α)
    (tester : Tester) : (modify change >>= next) tester = next ⟨⟩ (change tester) := rfl

/-- The journal after the progress is shown. -/
def shownJournal (tester : Tester) (regexp : String) : Journal :=
  if tester.configuration.showsProgress then
    tester.journal.printText tester.progressChannel s!"\r{regexp}"
  else tester.journal

/-- A tester after a candidate is counted and shown. -/
def started (tester : Tester) (regexp : String) : Tester :=
  { tester with
    counters := tester.counters.addRegexp
    journal := tester.shownJournal regexp }

theorem showProgress_eq (tester : Tester) (regexp : String) :
    showProgress regexp tester = .ok () { tester with journal := tester.shownJournal regexp } := by
  unfold shownJournal
  show EStateM.Result.ok () (if tester.configuration.showsProgress then _ else _) = _
  split <;> rfl

theorem handle_eq {candidate regexp : String}
    (wrapped : tester.parameters.wrap candidate = .ok regexp) :
    handle candidate tester =
      (match tester.task with
        | .compare => compare regexp
        | .record _ => record regexp) (tester.started regexp) := by
  have wraps : wrap candidate { tester with counters := tester.counters.addRegexp } =
      .ok regexp { tester with counters := tester.counters.addRegexp } := by
    unfold wrap
    rw [wrapped]
  unfold handle
  rw [bind_modify, bind_of_ok wraps, bind_of_ok (showProgress_eq _ regexp), bind_get]
  rfl

/-- **A comparing tester compares a candidate** once it is counted, wrapped and shown. -/
theorem handle_of_compare {candidate regexp : String} (compares : tester.task = .compare)
    (wrapped : tester.parameters.wrap candidate = .ok regexp) :
    handle candidate tester = compare regexp (tester.started regexp) := by
  have handled := handle_eq wrapped
  generalize tester.started regexp = after at handled ⊢
  rwa [compares] at handled

/-- **A recording tester records a candidate** once it is counted, wrapped and shown. -/
theorem handle_of_record {candidate regexp : String} {writer : Fixture.Writer}
    (records : tester.task = .record writer)
    (wrapped : tester.parameters.wrap candidate = .ok regexp) :
    handle candidate tester = record regexp (tester.started regexp) := by
  have handled := handle_eq wrapped
  generalize tester.started regexp = after at handled ⊢
  rwa [records] at handled

/-! ### Compiling -/

section Compile

variable {regexp : String} {matcher : Matcher} {failure : Failure}

theorem compile_of_ok (tester : Tester)
    (compiled : (tester.engine.compile regexp).1 = .ok matcher) :
    compile regexp tester = .ok (some matcher)
      { tester with journal := (tester.engine.consult regexp tester.journal).2 } := by
  have consulted : tester.engine.consult regexp tester.journal =
      (.ok matcher, (tester.engine.consult regexp tester.journal).2) := by
    rw [← compiled]
    rfl
  unfold compile
  rw [consulted]

theorem compile_of_error (tester : Tester)
    (compiled : (tester.engine.compile regexp).1 = .error failure) :
    compile regexp tester =
      if failure.isCompileFailure then
        .ok none { tester with
          journal := (tester.engine.consult regexp tester.journal).2.note
            (.skipped regexp failure) }
      else .error (.failure failure)
        { tester with journal := (tester.engine.consult regexp tester.journal).2 } := by
  have consulted : tester.engine.consult regexp tester.journal =
      (.error failure, (tester.engine.consult regexp tester.journal).2) := by
    rw [← compiled]
    rfl
  unfold compile
  rw [consulted]

end Compile

end Tester

end Crosscheck
