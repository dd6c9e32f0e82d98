/-
**No template stops a tester.**

Templates are counted when a tester is made: an operator takes an operand at least, and a wrapper
takes exactly one argument. A program is rendered with as many operands as were counted, and filling
a template asks for no other number. So whatever is done with a tester that was accepted, candidates
are generated, rendered and wrapped, and what stops it is a failure, or a byte string too long to
quote.

* `Mild`: a step that keeps what holds of its state, and that no template stops;
* `Tester.Steady`, `Tester.mild_perform`: a tester that was accepted, and any use of it;
* `Tester.fills_every_template`: counting and filling agree, and what follows for a tester.
-/
import Crosscheck.Proofs.Generate.Sources
import Crosscheck.Proofs.Run.Comparing
import Crosscheck.Proofs.Text.Filling

namespace Crosscheck

/-- A fault that no template and no program is the cause of: a failure, or a byte string that is too
long to quote. -/
def Fault.Foreign (fault : Fault) : Prop :=
  ∀ violation, fault = .violation violation → ∃ bytes, violation = .quotedTooLong bytes

theorem Fault.foreign_failure (cause : Failure) : Fault.Foreign (.failure cause) :=
  fun _ same => by cases same

/-! ### Steps that no template stops -/

section Mild

variable {σ α β : Type} {holds : σ → Prop}

/-- How a mild step ends. -/
def Mild.Ends (holds : σ → Prop) : EStateM.Result Fault σ α → Prop
  | .ok _ after => holds after
  | .error fault after => fault.Foreign ∧ holds after

/-- **A mild step**: it keeps what holds of its state, whether or not it fails, and no template is
the cause when it does. -/
def Mild (holds : σ → Prop) (step : EStateM Fault σ α) : Prop :=
  ∀ state, holds state → Mild.Ends holds (step state)

theorem mild_pure (value : α) : Mild holds (pure value) := fun _ held => held

theorem mild_modify {change : σ → σ} (keeps : ∀ state, holds state → holds (change state)) :
    Mild holds (modify change) := keeps

theorem Mild.bind {first : EStateM Fault σ α} {next : α → EStateM Fault σ β}
    (mild : Mild holds first) (others : ∀ value, Mild holds (next value)) :
    Mild holds (first >>= next) := by
  intro state held
  have now := mild state held
  show Mild.Ends holds (EStateM.bind first next state)
  rw [EStateM.bind]
  cases run : first state with
  | ok value middle =>
    rw [run] at now
    exact others value middle now
  | error fault left =>
    rw [run] at now
    exact now

/-- What comes after the state is read matters for a state with what holds only. -/
theorem mild_get {next : σ → EStateM Fault σ α}
    (others : ∀ state, holds state → Mild holds (next state)) : Mild holds (get >>= next) :=
  fun state held => others state held state held

theorem mild_forEach {step : String → Haystacks → EStateM Fault σ Unit}
    (mild : ∀ text after, Mild holds (step text after)) (source : Haystacks) :
    Mild holds (source.forEach step) := by
  intro state held
  fun_induction Haystacks.forEach source step state with
  | case1 => exact held
  | case2 source state text rest found after done hypothesis =>
    have now := mild text rest state held
    rw [done] at now
    exact hypothesis now
  | case3 source state text rest found fault after failed =>
    have now := mild text rest state held
    rwa [failed] at now

end Mild

/-! ### Writing -/

namespace Fixture.Writer

theorem mild_onSink {step : EStateM Fault Sink Unit}
    (refuses : ∀ sink fault after, step sink = .error fault after → fault = Sink.refusal) :
    Mild (fun _ => True) (onSink step) := by
  intro writer _
  unfold onSink
  cases run : step writer.sink with
  | ok value sink => trivial
  | error fault sink =>
    rw [refuses writer.sink fault sink run]
    exact ⟨Fault.foreign_failure _, trivial⟩

theorem mild_put (bytes : Bytes) : Mild (fun _ => True) (put bytes) := by
  refine mild_onSink fun sink fault after run => ?_
  unfold Sink.write at run
  split at run <;> cases run
  rfl

theorem mild_flush : Mild (fun _ => True) flush := by
  refine mild_onSink fun sink fault after run => ?_
  unfold Sink.flush at run
  split at run <;> cases run
  rfl

theorem mild_line (bytes : Bytes) : Mild (fun _ => True) (line bytes) :=
  (mild_put bytes).bind fun _ => mild_put _

theorem mild_quoted (bytes : Bytes) : Mild (fun _ => True) (quoted bytes) := by
  unfold quoted Quoted.encode
  cases Quoted.encodeWithin (quotedCapacity - 2) bytes with
  | some written => exact mild_line _
  | none => exact fun _ _ => ⟨fun _ same => ⟨bytes, (Fault.violation.inj same).symm⟩, trivial⟩

theorem mild_endHaystacks : Mild (fun _ => True) endHaystacks :=
  (mild_put _).bind fun _ => mild_modify fun _ _ => trivial

end Fixture.Writer

namespace Tester

/-! ### Testers -/

/-- What is done by a use of a tester. -/
def perform : Use → Step Unit
  | .random draws => modify (useRandom · draws)
  | .handle candidate => handle candidate
  | .generate => generate

theorem use_eq (tester : Tester) (use : Use) : tester.use use = left (perform use tester) := by
  cases use <;> rfl

/-- A tester with the given parameters, whose candidates can be rendered. -/
structure Steady (parameters : Parameters) (tester : Tester) : Prop where
  parameters_eq : tester.parameters = parameters
  candidates_sound : tester.candidates.Sound parameters.space

theorem steady_fresh (engine : Engine) (parameters : Parameters) (configuration : Configuration)
    (task : Task) (journal : Journal) :
    (fresh engine parameters configuration task journal).Steady parameters :=
  ⟨rfl, Candidates.sound_atWalk parameters.space⟩

section Steps

variable {parameters : Parameters}

theorem Steady.with_candidates {tester : Tester} {candidates : Candidates}
    (steady : tester.Steady parameters) (sound : candidates.Sound parameters.space) :
    { tester with candidates := candidates }.Steady parameters :=
  ⟨steady.parameters_eq, sound⟩

theorem mild_write {step : Fixture.Writer.Step} (mild : Mild (fun _ => True) step) :
    Mild (Steady parameters) (write step) := by
  intro tester steady
  unfold write
  cases tester.task with
  | compare => exact steady
  | record writer =>
    have ended := mild writer trivial
    dsimp only
    cases run : step writer with
    | ok value after => exact ⟨steady.1, steady.2⟩
    | error fault after =>
      rw [run] at ended
      exact ⟨ended.1, steady.1, steady.2⟩

theorem mild_compile (regexp : String) : Mild (Steady parameters) (compile regexp) := by
  intro tester steady
  cases compiled : (tester.engine.compile regexp).1 with
  | ok matcher =>
    rw [compile_of_ok tester compiled]
    exact ⟨steady.1, steady.2⟩
  | error failure =>
    rw [compile_of_error tester compiled]
    split
    · exact ⟨steady.1, steady.2⟩
    · exact ⟨Fault.foreign_failure failure, steady.1, steady.2⟩

theorem mild_compare (regexp : String) : Mild (Steady parameters) (compare regexp) := by
  refine (mild_compile regexp).bind fun matcher => ?_
  cases matcher with
  | none => exact mild_pure ()
  | some matcher => exact mild_modify fun _ steady => ⟨steady.1, steady.2⟩

theorem mild_recordOn (matcher : Option Matcher) (haystack : String) :
    Mild (Steady parameters) (recordOn matcher haystack) :=
  fun _ steady => mild_write (Fixture.Writer.mild_line _) _ ⟨steady.1, steady.2⟩

theorem mild_restart : Mild (Steady parameters) restart :=
  mild_modify fun _ steady => ⟨steady.1, steady.2⟩

theorem mild_forEachHaystack {act : String → Step Unit}
    (mild : ∀ haystack, Mild (Steady parameters) (act haystack)) :
    Mild (Steady parameters) (forEachHaystack act) :=
  mild_get fun tester _ => mild_forEach (fun haystack _ =>
    (mild_modify fun _ steady => ⟨steady.1, steady.2⟩).bind fun _ => mild haystack) tester.haystacks

theorem mild_writeHaystacks : Mild (Steady parameters) writeHaystacks :=
  mild_restart.bind fun _ => (mild_write (Fixture.Writer.mild_put _)).bind fun _ =>
    (mild_forEachHaystack fun _ => mild_write (Fixture.Writer.mild_quoted _)).bind fun _ =>
      mild_write Fixture.Writer.mild_endHaystacks

theorem mild_record (regexp : String) : Mild (Steady parameters) (record regexp) := by
  refine (mild_compile regexp).bind fun matcher => mild_get fun tester _ => ?_
  have entry : Mild (Steady parameters) (do
      write (Fixture.Writer.regexp regexp)
      restart
      forEachHaystack (recordOn matcher)) :=
    (mild_write (Fixture.Writer.mild_quoted _)).bind fun _ =>
      mild_restart.bind fun _ => mild_forEachHaystack (mild_recordOn matcher)
  dsimp only
  split
  · exact mild_writeHaystacks.bind fun _ => entry
  · exact entry

variable (accepted : parameters.check = .ok ())

include accepted

/-- **Handling a candidate** stops for no template. -/
theorem mild_handle (candidate : String) : Mild (Steady parameters) (handle candidate) := by
  intro tester steady
  obtain ⟨regexp, wrapped⟩ := Parameters.exists_wrap accepted candidate
  rw [handle_eq (by rw [steady.parameters_eq]; exact wrapped)]
  have started : Steady parameters (tester.started regexp) := ⟨steady.1, steady.2⟩
  cases tester.task with
  | compare => exact mild_compare regexp _ started
  | record writer => exact mild_record regexp _ started

theorem mild_handleFrom {candidates : Candidates} (sound : candidates.Sound parameters.space) :
    Mild (Steady parameters) (handleFrom candidates) := by
  intro tester steady
  fun_induction handleFrom candidates tester with
  | case1 candidates tester violation step =>
    obtain ⟨regexp, after, answered, -⟩ := sound.next
    rw [step] at answered
    cases answered
  | case2 candidates tester rest step => exact steady.with_candidates (sound.of_next step)
  | case3 candidates tester candidate rest step after handled hypothesis =>
    have later := sound.of_next step
    have ended := mild_handle accepted candidate _ (steady.with_candidates later)
    rw [handled] at ended
    exact hypothesis later ended
  | case4 candidates tester candidate rest step fault after handled =>
    have ended := mild_handle accepted candidate _ (steady.with_candidates (sound.of_next step))
    rwa [handled] at ended

/-- **Testing all candidates** stops for no template. -/
theorem mild_generate : Mild (Steady parameters) generate :=
  mild_get fun _ steady => (mild_handleFrom accepted steady.candidates_sound.reset).bind fun _ =>
    (mild_write Fixture.Writer.mild_flush).bind fun _ => mild_get fun _ _ =>
      mild_modify fun _ steady => ⟨steady.1, steady.2⟩

theorem mild_perform (use : Use) : Mild (Steady parameters) (perform use) := by
  cases use with
  | random draws =>
    exact mild_modify fun _ steady =>
      steady.with_candidates (steady.candidates_sound.useRandom draws.seed draws.count)
  | handle candidate => exact mild_handle accepted candidate
  | generate => exact mild_generate accepted

theorem steady_uses {tester : Tester} (steady : tester.Steady parameters) (uses : List Use) :
    (uses.foldl use tester).Steady parameters := by
  induction uses generalizing tester with
  | nil => exact steady
  | cons first rest hypothesis =>
    refine hypothesis ?_
    have ended := mild_perform accepted first tester steady
    rw [use_eq]
    cases run : perform first tester with
    | ok value after =>
      rw [run] at ended
      exact ended
    | error fault after =>
      rw [run] at ended
      exact ended.2

end Steps

/-- **Counting and filling agree on every template, so no template stops a tester.**

A template has as many placeholders in its bytes as in its characters. Filling it fails exactly when
another number of arguments is given; otherwise it gives what the rules give, in which each argument
is used once, in order and word for word.

So when a tester was made, every program that is drawn, with any draws, can be rendered. Whatever
was done with the tester, it wraps every candidate, its source of candidates answers whatever it is
asked, and a further use that breaks a precondition does so for a byte string too long to quote. -/
theorem fills_every_template :
    (∀ (template : String) (arguments : List String),
      Template.placeholdersInBytes (Bytes.ofText template) = Template.placeholders template ∧
      match Template.substitute template arguments with
      | .ok text => arguments.length = Template.placeholders template ∧
          ∀ filled, Template.Fills template.toList arguments filled ↔ filled = text.toList
      | .error violation => arguments.length ≠ Template.placeholders template ∧
          violation =
            .argumentCount template (Template.placeholders template) arguments.length) ∧
    ∀ (engine : Engine) (parameters : Parameters) (configuration : Configuration) (task : Task)
      (journal : Journal) (start : Tester),
      ofTask engine parameters configuration task journal = .ok start →
      (parameters.space.atoms ≠ [] → ∀ (σ : Type) (dice : Dice σ), dice.InRange →
        ∀ fuel draws program,
          (Draft.grow parameters.space dice fuel .empty draws).1 = some program →
          ∃ regexp, parameters.space.render program = .ok regexp) ∧
      ∀ uses : List Use,
        let tester := uses.foldl use start
        (∀ candidate, ∃ regexp, tester.parameters.wrap candidate = .ok regexp) ∧
        (∀ requests : List Candidates.Request, ∃ after,
          requests.foldlM Candidates.answer tester.candidates = .ok after) ∧
        ∀ use violation after, perform use tester = .error (.violation violation) after →
          ∃ bytes, violation = .quotedTooLong bytes := by
  refine ⟨fun template arguments => ⟨Template.placeholdersInBytes_eq template,
    Template.substitute_cases template arguments⟩, ?_⟩
  intro engine parameters configuration task journal start made
  obtain ⟨accepted, -, rfl⟩ := of_ofTask made
  refine ⟨?_, fun uses => ?_⟩
  · intro atoms σ dice inRange fuel draws program grows
    have member := Draft.mem_programs_of_grow inRange atoms (Draft.grown_empty _) grows
    exact Space.exists_render (Space.builds_of_mem_programs member).depth_eq
  · have steady := steady_uses accepted (steady_fresh engine parameters configuration task journal)
      uses
    refine ⟨fun candidate => ?_, steady.candidates_sound.exists_answers, ?_⟩
    · rw [steady.parameters_eq]
      exact Parameters.exists_wrap accepted candidate
    · intro use violation after stops
      have ended := mild_perform accepted use _ steady
      rw [stops] at ended
      exact ended.1 violation rfl

/-- A wrapper, an operator and a candidate with percent signs of their own, half of a character
after one of them. -/
theorem fills_every_template_percents :
    let parameters : Parameters := ⟨⟨2, 1, ["%s"], ["%s%%%s"]⟩, 1, ["x"], "%é%%s%s%", ""⟩
    let configuration : Configuration := ⟨false, 1, none, false⟩
    let requests : List Candidates.Request := [.next, .hasNext, .random ⟨3, 5⟩, .next, .reset]
    let program : Program := [.atom 0, .atom 0, .operator 0]
    ∃ start, ofTask fussyEngine parameters configuration .compare (.empty none false) = .ok start ∧
      Template.placeholdersInBytes (Bytes.ofText "%é%%s%s%") = 1 ∧
      (∀ filled, Template.Fills "%é%%s%s%".toList ["%s"] filled ↔ filled = "%é%s%s%".toList) ∧
      (Draft.grow parameters.space .written 9 .empty [0, 1, 0, 1, 0, 1, 0, 1, 0, 0]).1 =
        some program ∧
      (∃ regexp, parameters.space.render program = .ok regexp) ∧
      let tester := [Use.generate, .random ⟨3, 5⟩].foldl use start
      (∃ regexp, tester.parameters.wrap "%s" = .ok regexp) ∧
      (∃ after, requests.foldlM Candidates.answer tester.candidates = .ok after) ∧
      ∀ violation after, perform .generate tester = .error (.violation violation) after →
        ∃ bytes, violation = .quotedTooLong bytes := by
  intro parameters configuration requests program
  have made : ofTask fussyEngine parameters configuration .compare (.empty none false) =
      .ok (fresh fussyEngine parameters configuration .compare (.empty none false)) :=
    ofTask_eq (by decide)
  obtain ⟨templates, testers⟩ := fills_every_template
  obtain ⟨counts, fills⟩ := templates "%é%%s%s%" ["%s"]
  obtain ⟨renders, others⟩ := testers _ _ _ _ _ _ made
  obtain ⟨wraps, answers, stops⟩ := others [.generate, .random ⟨3, 5⟩]
  have grows : (Draft.grow parameters.space .written 9 .empty
      [0, 1, 0, 1, 0, 1, 0, 1, 0, 0]).1 = some program := by decide
  have single : Template.placeholders "%é%%s%s%" = 1 := by decide
  have text : Template.substitute "%é%%s%s%" ["%s"] = .ok "%é%s%s%" := by decide
  rw [text] at fills
  exact ⟨_, made, counts.trans single, fills.2, grows,
    renders (List.cons_ne_nil _ _) _ _ Dice.inRange_written 9 _ program grows,
    wraps "%s", answers requests, stops .generate⟩

end Tester

end Crosscheck
