/-
**What a recording tester writes.**

A recording tester whose sink takes everything writes the haystacks before its first regexp, and for
every regexp the results of its engine on each of them. So what a run writes are the lines of a
fixture, and replaying them finds the differences to another engine.

* `Tester.Recorded`: a tester that wrote and counted so and so far;
* `Tester.record_recorded`, `Tester.handleFrom_recorded`: one regexp, and all candidates of a
  source;
* `Run.fixture_written`: a whole run;
* `Run.replay_fixture`: recording with one engine and replaying with another.
-/
import Crosscheck.Proofs.Fixture.Replaying
import Crosscheck.Proofs.Run.Passes
import Crosscheck.Run.Matrix
import Mathlib

namespace Crosscheck

/-! ### When the haystacks of a block are written -/

namespace Fixture.Writer

/-- A step that neither starts a block nor forgets that one was started. -/
def Keeps (step : Step) : Prop :=
  ∀ writer after, step writer = .ok () after → after.hasHaystacks = writer.hasHaystacks

theorem of_seq_ok {first second : Step} {writer after : Writer}
    (run : (do first; second) writer = .ok () after) :
    ∃ middle, first writer = .ok () middle ∧ second middle = .ok () after := by
  change EStateM.bind first (fun _ => second) writer = _ at run
  unfold EStateM.bind at run
  cases step : first writer with
  | ok value middle =>
    rw [step] at run
    exact ⟨middle, rfl, run⟩
  | error fault middle =>
    rw [step] at run
    cases run

theorem Keeps.seq {first second : Step} (keeps : Keeps first) (alsoKeeps : Keeps second) :
    Keeps (do first; second) := by
  intro writer after run
  obtain ⟨middle, before, later⟩ := of_seq_ok run
  rw [alsoKeeps middle after later, keeps writer middle before]

theorem keeps_onSink (step : EStateM Fault Sink Unit) : Keeps (onSink step) := by
  intro writer after run
  unfold onSink at run
  split at run
  · cases run
    rfl
  · cases run

theorem keeps_line (bytes : Bytes) : Keeps (line bytes) :=
  (keeps_onSink _).seq (keeps_onSink _)

theorem keeps_quoted (bytes : Bytes) : Keeps (quoted bytes) := by
  unfold quoted
  split
  · exact keeps_line _
  · intro writer after run
    cases run

theorem hasHaystacks_haystacks {strings : List Bytes} {writer after : Writer}
    (run : haystacks strings writer = .ok () after) : after.hasHaystacks = true := by
  obtain ⟨_, _, run⟩ := of_seq_ok run
  obtain ⟨_, _, run⟩ := of_seq_ok run
  obtain ⟨middle, _, run⟩ := of_seq_ok run
  cases run
  rfl

end Fixture.Writer

namespace Tester

open Fixture (Writer ended recordedEntry)

/-! ### What is written -/

variable {engine : Engine} {parameters : Parameters} {rule : SinkRule} {written added : Bytes}
  {begun marked : Bool} {count : Nat} {tester : Tester} {regexp : String}

/-- The haystacks of a recording. -/
def allRecorded (parameters : Parameters) : List Bytes :=
  (Haystacks.allTexts parameters.maxLength parameters.symbols).map Bytes.ofText

/-- The lines before the entries of a block. -/
def opening (haystacks : List Bytes) : List Bytes :=
  Fixture.haystacksHeader :: (haystacks.map Quoted.form ++ [Fixture.regexpsHeader])

/-- The line of a record. -/
def recordLine (engine : Engine) (regexp haystack : String) : Bytes :=
  Bytes.ofText (engine.recordOf regexp (Bytes.ofText haystack)).text ++ [Split.newline]

/-- The lines of the entries of regexps. -/
def entryLines (engine : Engine) (parameters : Parameters) (regexps : List String) : Bytes :=
  ended (regexps.flatMap fun regexp =>
    (recordedEntry engine (allRecorded parameters) regexp).lines)

theorem entryLines_cons (regexp : String) (rest : List String) :
    entryLines engine parameters (regexp :: rest) =
      ended (recordedEntry engine (allRecorded parameters) regexp).lines ++
        entryLines engine parameters rest := by
  unfold entryLines ended
  rw [List.flatMap_cons, List.flatMap_append]

theorem ended_recorded (engine : Engine) (parameters : Parameters) (regexps : List String) :
    ended (Fixture.recorded engine (allRecorded parameters) regexps).lines =
      (if regexps = [] then [] else ended (opening (allRecorded parameters))) ++
        entryLines engine parameters regexps := by
  unfold Fixture.recorded
  split
  · next none =>
    rw [none]
    rfl
  · unfold entryLines Fixture.lines Fixture.Block.lines opening ended
    rw [← List.flatMap_append]
    simp [List.flatMap_map]

/-! ### A tester on its way -/

/-- **A recording tester on its way**: what it wrote, whether that starts a block, and how many
regexps it counted. It counts no tests and no failures. -/
structure Recorded (engine : Engine) (parameters : Parameters) (rule : SinkRule) (written : Bytes)
    (begun : Bool) (regexps : Nat) (tester : Tester) : Prop where
  engine_eq : tester.engine = engine
  parameters_eq : tester.parameters = parameters
  haystacks_eq : tester.recordedHaystacks = .ofAlphabet parameters.maxLength parameters.symbols
  counters_eq : tester.counters = ⟨regexps, 0, 0⟩
  task_eq : ∃ writer, tester.task = .record writer ∧ writer.sink.rule = rule ∧
    writer.sink.bytes = written ∧ writer.hasHaystacks = begun

theorem Recorded.hasHaystacks_eq
    (recorded : Recorded engine parameters rule written begun count tester) :
    tester.hasHaystacks = begun := by
  obtain ⟨writer, task, -, -, started⟩ := recorded.task_eq
  unfold hasHaystacks
  rw [task]
  exact started

theorem Recorded.with_journal
    (recorded : Recorded engine parameters rule written begun count tester) (journal : Journal) :
    Recorded engine parameters rule written begun count { tester with journal := journal } :=
  ⟨recorded.engine_eq, recorded.parameters_eq, recorded.haystacks_eq, recorded.counters_eq,
    recorded.task_eq⟩

theorem Recorded.with_candidates
    (recorded : Recorded engine parameters rule written begun count tester)
    (candidates : Candidates) :
    Recorded engine parameters rule written begun count { tester with candidates := candidates } :=
  ⟨recorded.engine_eq, recorded.parameters_eq, recorded.haystacks_eq, recorded.counters_eq,
    recorded.task_eq⟩

theorem Recorded.with_haystacks
    (recorded : Recorded engine parameters rule written begun count tester) {left : Haystacks}
    (same : left.reset = .ofAlphabet parameters.maxLength parameters.symbols) :
    Recorded engine parameters rule written begun count (tester.withHaystacks left) :=
  ⟨recorded.engine_eq, recorded.parameters_eq, same, recorded.counters_eq, recorded.task_eq⟩

theorem Recorded.started (regexp : String)
    (recorded : Recorded engine parameters rule written begun count tester) :
    Recorded engine parameters rule written begun (count + 1) (tester.started regexp) :=
  ⟨recorded.engine_eq, recorded.parameters_eq, recorded.haystacks_eq,
    congrArg Counters.addRegexp recorded.counters_eq, recorded.task_eq⟩

/-- Compiling writes nothing, and what it gives finds the results of the engine. -/
theorem compile_recorded (refuses : engine.OnlyRefuses) (regexp : String)
    (recorded : Recorded engine parameters rule written begun count tester) :
    ∃ matcher next, compile regexp tester = .ok matcher next ∧
      Recorded engine parameters rule written begun count next ∧
      ∀ haystack journal,
        (Matcher.record matcher haystack journal).1 = engine.recordOf regexp haystack := by
  cases compiled : (engine.compile regexp).1 with
  | ok matcher =>
    have run := compile_of_ok tester (by rw [recorded.engine_eq]; exact compiled)
    exact ⟨_, _, run, recorded.with_journal _, fun _ _ => Engine.record_of_ok compiled⟩
  | error failure =>
    have run := compile_of_error tester (by rw [recorded.engine_eq]; exact compiled)
    rw [if_pos (refuses regexp failure compiled)] at run
    exact ⟨_, _, run, recorded.with_journal _, fun _ _ => Engine.record_of_error compiled⟩

theorem write_flush_recorded (flushes : ∀ attempts, rule.flushes attempts = true)
    (recorded : Recorded engine parameters rule written begun count tester) :
    ∃ next, write Writer.flush tester = .ok () next ∧
      Recorded engine parameters rule written begun count next := by
  obtain ⟨writer, task, rfl, rfl, rfl⟩ := recorded.task_eq
  have run : ∃ later, Writer.flush writer = .ok () later ∧ later.sink.rule = writer.sink.rule ∧
      later.sink.bytes = writer.sink.bytes ∧ later.hasHaystacks = writer.hasHaystacks := by
    refine ⟨{ writer with sink := { writer.sink with attempts := writer.sink.attempts + 1 } },
      ?_, rfl, rfl, rfl⟩
    simp only [Writer.flush, Writer.onSink, Sink.flush, flushes, if_true]
  obtain ⟨later, run, same⟩ := run
  refine ⟨{ tester with task := .record later }, ?_, recorded.engine_eq, recorded.parameters_eq,
    recorded.haystacks_eq, recorded.counters_eq, later, rfl, same⟩
  unfold write
  rw [task]
  simp only [run]

/-! ### One step of the writer -/

section Reliable

variable (takes : rule.TakesAll)
include takes

/-- A step of the writer writes what it puts out. -/
theorem write_recorded {step : Writer.Step} (puts : Writer.Puts step added)
    (marks : ∀ writer later, writer.hasHaystacks = begun → step writer = .ok () later →
      later.hasHaystacks = marked)
    (recorded : Recorded engine parameters rule written begun count tester) :
    ∃ next, write step tester = .ok () next ∧
      Recorded engine parameters rule (written ++ added) marked count next := by
  obtain ⟨writer, task, rfl, rfl, started⟩ := recorded.task_eq
  obtain ⟨later, run, keeps, bytes⟩ := puts writer takes
  refine ⟨{ tester with task := .record later }, ?_, recorded.engine_eq, recorded.parameters_eq,
    recorded.haystacks_eq, recorded.counters_eq, later, rfl, keeps, bytes,
    marks writer later started run⟩
  unfold write
  rw [task]
  simp only [run]

theorem write_keeping {step : Writer.Step} (puts : Writer.Puts step added)
    (keeps : Writer.Keeps step)
    (recorded : Recorded engine parameters rule written begun count tester) :
    ∃ next, write step tester = .ok () next ∧
      Recorded engine parameters rule (written ++ added) begun count next :=
  write_recorded takes puts (fun writer later same run => (keeps writer later run).trans same)
    recorded

/-! ### One regexp -/

theorem recordOn_recorded {matcher : Option Matcher}
    (finds : ∀ haystack journal,
      (Matcher.record matcher haystack journal).1 = engine.recordOf regexp haystack)
    (haystack : String) (recorded : Recorded engine parameters rule written begun count tester) :
    ∃ next, recordOn matcher haystack tester = .ok () next ∧
      Recorded engine parameters rule (written ++ recordLine engine regexp haystack) begun count
        next := by
  have puts := Writer.puts_line
    (Bytes.ofText (engine.recordOf regexp (Bytes.ofText haystack)).text)
  rw [← finds (Bytes.ofText haystack) tester.journal] at puts
  obtain ⟨next, run, after⟩ := write_keeping takes puts (Writer.keeps_line _)
    (recorded.with_journal (Matcher.record matcher (Bytes.ofText haystack) tester.journal).2)
  rw [finds] at after
  exact ⟨next, run, after⟩

theorem forM_recordOn_recorded {matcher : Option Matcher}
    (finds : ∀ haystack journal,
      (Matcher.record matcher haystack journal).1 = engine.recordOf regexp haystack)
    (haystacks : List String)
    (recorded : Recorded engine parameters rule written begun count tester) :
    ∃ next, forM haystacks (recordOn matcher) tester = .ok () next ∧
      Recorded engine parameters rule
        (written ++ haystacks.flatMap (recordLine engine regexp)) begun count next := by
  induction haystacks generalizing written tester with
  | nil => exact ⟨tester, rfl, by rwa [List.flatMap_nil, List.append_nil]⟩
  | cons haystack rest hypothesis =>
    obtain ⟨middle, first, recorded⟩ := recordOn_recorded takes finds haystack recorded
    obtain ⟨next, others, recorded⟩ := hypothesis recorded
    refine ⟨next, ?_, by rwa [List.flatMap_cons, ← List.append_assoc]⟩
    rw [List.forM_cons, bind_of_ok first, others]

variable (haystacksFit : ∀ haystack ∈ allRecorded parameters, Quoted.Fits haystack)
include haystacksFit

/-- The haystacks are written before the first regexp, and not again. -/
theorem begin_recorded
    (recorded : Recorded engine parameters rule written begun count tester) :
    ∃ next, Recorded engine parameters rule
        (written ++ if begun then [] else ended (opening (allRecorded parameters))) true count
        next ∧
      ∀ rest : Unit → Step Unit,
        (if !tester.hasHaystacks then
          writeAll (Haystacks.allTexts parameters.maxLength parameters.symbols) >>= rest
          else rest ()) tester =
        rest () next := by
  rw [recorded.hasHaystacks_eq]
  cases begun with
  | true => exact ⟨tester, by simpa using recorded, fun _ => rfl⟩
  | false =>
    obtain ⟨next, run, later⟩ := write_recorded takes (Writer.puts_haystacks haystacksFit)
      (fun _ _ _ run => Writer.hasHaystacks_haystacks run) recorded
    exact ⟨next, later, fun rest => bind_of_ok run⟩

variable (refuses : engine.OnlyRefuses)
include refuses

/-- **One regexp is recorded with the results of the engine on every haystack.** -/
theorem record_recorded (regexpFits : Quoted.Fits (Bytes.ofText regexp))
    (recorded : Recorded engine parameters rule written begun count tester) :
    ∃ next, record regexp tester = .ok () next ∧
      Recorded engine parameters rule
        (written ++ ((if begun then [] else ended (opening (allRecorded parameters))) ++
          ended (recordedEntry engine (allRecorded parameters) regexp).lines)) true count next := by
  have alike := recorded.haystacks_eq
  obtain ⟨matcher, compiled, compiles, recorded, finds⟩ :=
    compile_recorded refuses regexp recorded
  obtain ⟨started, later, begins⟩ := begin_recorded takes haystacksFit recorded
  obtain ⟨named, names, last⟩ := write_keeping takes (Writer.puts_quoted regexpFits)
    (Writer.keeps_quoted _) later
  obtain ⟨next, writes, done⟩ := forM_recordOn_recorded takes finds
    (Haystacks.allTexts parameters.maxLength parameters.symbols) last
  obtain ⟨left, same, run⟩ := record_eq regexp tester
  rw [alike, Haystacks.toList_ofAlphabet] at run
  refine ⟨next.withHaystacks left, ?_, ?_⟩
  · have plainly : recordOver (Haystacks.allTexts parameters.maxLength parameters.symbols) regexp
        tester = .ok () next := by
      unfold recordOver recordEntry
      rw [bind_of_ok compiles, bind_get]
      exact (begins _).trans ((bind_of_ok names).trans writes)
    rw [run, plainly]
    rfl
  · have lines : ended (recordedEntry engine (allRecorded parameters) regexp).lines =
        (Quoted.form (Bytes.ofText regexp) ++ [Split.newline]) ++
          (Haystacks.allTexts parameters.maxLength parameters.symbols).flatMap
            (recordLine engine regexp) := by
      unfold ended Fixture.Entry.lines recordedEntry allRecorded
      rw [List.flatMap_cons, List.map_map, List.map_map, List.flatMap_map]
      rfl
    rw [lines, ← List.append_assoc, ← List.append_assoc]
    exact done.with_haystacks (same.trans alike)

/-! ### All candidates -/

theorem handle_recorded {candidate : String} (wrapped : parameters.wrap candidate = .ok regexp)
    (regexpFits : Quoted.Fits (Bytes.ofText regexp))
    (recorded : Recorded engine parameters rule written begun count tester) :
    ∃ next, handle candidate tester = .ok () next ∧
      Recorded engine parameters rule
        (written ++ ((if begun then [] else ended (opening (allRecorded parameters))) ++
          ended (recordedEntry engine (allRecorded parameters) regexp).lines)) true (count + 1)
        next := by
  obtain ⟨writer, task, -⟩ := recorded.task_eq
  rw [handle_of_record task (by rw [recorded.parameters_eq]; exact wrapped)]
  exact record_recorded takes haystacksFit refuses regexpFits (recorded.started regexp)

/-- **All candidates of a source are recorded**, in order. -/
theorem handleFrom_recorded {source last : Candidates} {texts regexps : List String}
    (feeds : source.Feeds texts last)
    (wrapped : texts.mapM parameters.wrap = .ok regexps)
    (regexpsFit : ∀ regexp ∈ regexps, Quoted.Fits (Bytes.ofText regexp))
    (recorded : Recorded engine parameters rule written begun count tester) :
    ∃ next, handleFrom source tester = .ok () next ∧
      Recorded engine parameters rule
        (written ++
          ((if begun ∨ regexps = [] then [] else ended (opening (allRecorded parameters))) ++
            entryLines engine parameters regexps))
        (begun || regexps ≠ []) (count + regexps.length) next := by
  induction feeds generalizing regexps written begun count tester with
  | @done source after dry =>
    cases wrapped
    refine ⟨{ tester with candidates := after }, ?_, ?_⟩
    · rw [handleFrom, dry]
    · simpa [entryLines, ended] using recorded.with_candidates after
  | @more source rest after text texts step others hypothesis =>
    obtain ⟨regexp, later, first, wraps, rfl⟩ := mapM_cons_eq_ok wrapped
    obtain ⟨middle, handles, recorded⟩ := handle_recorded takes haystacksFit refuses first
      (regexpsFit regexp List.mem_cons_self) (recorded.with_candidates rest)
    obtain ⟨next, run, recorded⟩ := hypothesis wraps
      (fun other member => regexpsFit other (List.mem_cons_of_mem _ member)) recorded
    refine ⟨next, ?_, ?_⟩
    · rw [handleFrom, step]
      simp only [handles, run]
    · rw [entryLines_cons]
      simpa [Nat.add_assoc, Nat.add_comm 1] using recorded

/-! ### A whole run -/

theorem generate_recorded (flushes : ∀ attempts, rule.flushes attempts = true)
    {last : Candidates} {texts regexps : List String}
    (feeds : tester.candidates.reset.Feeds texts last)
    (wrapped : texts.mapM parameters.wrap = .ok regexps)
    (regexpsFit : ∀ regexp ∈ regexps, Quoted.Fits (Bytes.ofText regexp))
    (recorded : Recorded engine parameters rule [] false 0 tester) :
    ∃ next begun, generate tester = .ok () next ∧
      Recorded engine parameters rule
        (ended (Fixture.recorded engine (allRecorded parameters) regexps).lines) begun
        regexps.length next := by
  obtain ⟨handled, handles, recorded⟩ :=
    handleFrom_recorded takes haystacksFit refuses feeds wrapped regexpsFit recorded
  obtain ⟨next, run, recorded⟩ := write_flush_recorded flushes recorded
  refine ⟨{ next with journal := next.journal.note (.finished next.counters) }, regexps ≠ [],
    ?_, ?_⟩
  · unfold generate
    rw [bind_get, bind_of_ok handles, bind_of_ok run, bind_get]
    rfl
  · rw [ended_recorded]
    simpa using recorded.with_journal (next.journal.note (.finished next.counters))

end Reliable

end Tester

/-- A rule by which neither a write nor a flush fails. -/
structure SinkRule.Reliable (rule : SinkRule) : Prop where
  takes : rule.TakesAll
  flushes : ∀ attempts, rule.flushes attempts = true

/-- The parameters that a run goes by. -/
def Parameters.effective (parameters : Parameters) (configuration : Configuration) : Parameters :=
  if configuration.reducesScale then parameters.reduced else parameters

theorem Tester.check_effective (parameters : Parameters) (configuration : Configuration) :
    check (parameters.effective configuration) configuration = check parameters configuration := by
  unfold Parameters.effective
  split <;> rfl

namespace Run

open Tester (allRecorded)

/-- **A run writes the fixture with the results of its engine**, and counts its regexps and nothing
else. -/
theorem fixture_written {engine : Engine} {parameters : Parameters} {configuration : Configuration}
    {rule : SinkRule} {candidates regexps : List String}
    (accepted : Tester.check (parameters.effective configuration) configuration = .ok ())
    (repeatable : configuration.randomHaystacks = none) (refuses : engine.OnlyRefuses)
    (reliable : rule.Reliable)
    (haystacksFit : ∀ haystack ∈ allRecorded (parameters.effective configuration),
      Quoted.Fits haystack)
    (rendered : (parameters.effective configuration).space.regexps = .ok candidates)
    (wrapped : candidates.mapM (parameters.effective configuration).wrap = .ok regexps)
    (regexpsFit : ∀ regexp ∈ regexps, Quoted.Fits (Bytes.ofText regexp)) (journal : Journal) :
    ∃ after sink, Run.fixture engine parameters configuration (.ofRule rule) journal =
        ((.ok ⟨⟨regexps.length, 0, 0⟩, (parameters.effective configuration).maxLength,
          (parameters.effective configuration).symbols.length⟩, after), sink) ∧
      sink.bytes =
        Fixture.ended (Fixture.recorded engine (allRecorded (parameters.effective configuration))
          regexps).lines := by
  generalize effective : parameters.effective configuration = used at *
  have made : Tester.recording engine used configuration (.ofRule rule) journal =
      .ok (.fresh engine used configuration (.record (.ofSink (.ofRule rule))) journal) := by
    unfold Tester.recording
    rw [repeatable]
    exact Tester.ofTask_eq accepted
  have start : Tester.Recorded engine used rule [] false 0
      (.fresh engine used configuration (.record (.ofSink (.ofRule rule))) journal) :=
    ⟨rfl, rfl, rfl, rfl, _, rfl, rfl, rfl, rfl⟩
  obtain ⟨last, feeds, -⟩ := Candidates.feeds_all rendered
  have fed : Candidates.Feeds
      (Tester.candidates (.fresh engine used configuration (.record (.ofSink (.ofRule rule)))
        journal)).reset candidates last := feeds
  obtain ⟨next, begun, run, recorded⟩ := Tester.generate_recorded reliable.takes
    haystacksFit refuses reliable.flushes fed wrapped regexpsFit start
  obtain ⟨writer, task, -, bytes, -⟩ := recorded.task_eq
  have sink : next.sink? = some writer.sink := by
    unfold Tester.sink?
    rw [task]
  have summary : next.summary =
      ⟨⟨regexps.length, 0, 0⟩, used.maxLength, used.symbols.length⟩ := by
    unfold Tester.summary
    rw [recorded.counters_eq, recorded.parameters_eq]
  refine ⟨next.journal, writer.sink, ?_, bytes⟩
  unfold Run.fixture
  rw [show (if configuration.reducesScale then parameters.reduced else parameters) = used
    from effective]
  simp only [made, run, summary, sink, Option.getD_some]

/-- An engine that refuses one regexp, and for all others finds the first byte of a haystack. -/
def firstByteEngine (refused : String) : Engine where
  compile regexp :=
    (if regexp = refused then .error .pattern
      else .ok ⟨fun _ => (true, []),
        fun haystack _ _ => if haystack.isEmpty then none else some ⟨⟨0, 1⟩, []⟩⟩, [])

theorem onlyRefuses_firstByteEngine (refused : String) : (firstByteEngine refused).OnlyRefuses := by
  intro regexp failure failed
  unfold firstByteEngine at failed
  dsimp only at failed
  split at failed
  · cases failed
    rfl
  · cases failed

theorem orderly_firstByteEngine (refused : String) : (firstByteEngine refused).Orderly := by
  intro regexp haystack anchor kind captures found
  unfold Engine.result firstByteEngine at found
  dsimp only at found
  split at found
  · next matcher compiled =>
    split at compiled
    · cases compiled
    · cases compiled
      dsimp only at found
      split at found
      · cases found
      · cases found
        decide
  · cases found

end Run

end Crosscheck
