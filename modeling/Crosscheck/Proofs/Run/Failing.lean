/-
**Recordings with failed writes.**

A step that records stops at the first write that fails, and leaves what was written until then. The
tester can be used again, and goes on behind that, with the haystacks if they were not all written.
So what a recording tester writes for a regexp are always the first of the writes that it makes for
it, and whatever is read from its sink in the end is faithful to its engine.

* `Makes`: a step that makes writes one after the other, up to the first that fails;
* `Tester.record_appends`: what is written for one regexp;
* `Tester.handledBy`: the regexps that uses of a tester handle;
* `Tester.Guarded`, `Tester.guarded_uses`: a tester whose sink is safe, after any uses;
* `Tester.read_faithful`: what can be read from the sink.
-/
import Crosscheck.Proofs.Fixture.Tearing
import Crosscheck.Proofs.Run.Comparing
import Crosscheck.Proofs.Run.Recording

namespace Crosscheck

/-! ### Writes that may fail -/

section Makes

variable {σ : Type}

/-- How a step ends that makes the given writes one after the other, up to the first that fails:
with a state that `whole` holds of, and the bytes of all of them, or with one that `torn` holds of,
and the bytes of those before that one. -/
def Ends (torn whole : Bytes → σ → Prop) (written : Bytes) (chunks : List Bytes) :
    EStateM.Result Fault σ Unit → Prop
  | .ok () after => whole (written ++ chunks.flatten) after
  | .error _ after => ∃ done failed rest, chunks = done ++ failed :: rest ∧
      torn (written ++ done.flatten) after

/-- A step that makes the given writes, up to the first that fails. -/
def Makes (torn whole : Bytes → σ → Prop) (step : EStateM Fault σ Unit) (chunks : List Bytes) :
    Prop :=
  ∀ written state, torn written state → Ends torn whole written chunks (step state)

variable {torn whole : Bytes → σ → Prop} {first second : EStateM Fault σ Unit}
  {before after : List Bytes}

theorem Makes.seq (makes : Makes torn torn first before) (others : Makes torn whole second after) :
    Makes torn whole (do first; second) (before ++ after) := by
  intro written state held
  have now := makes written state held
  change Ends torn whole written _ (EStateM.bind first (fun _ => second) state)
  rw [EStateM.bind]
  cases run : first state with
  | error fault left =>
    rw [run] at now
    obtain ⟨done, failed, rest, rfl, held⟩ := now
    exact ⟨done, failed, rest ++ after, by simp, held⟩
  | ok value middle =>
    rw [run] at now
    have later := others _ middle now
    dsimp only
    cases more : second middle with
    | ok value last =>
      rw [more] at later
      show whole (written ++ (before ++ after).flatten) last
      rwa [List.flatten_append, ← List.append_assoc]
    | error fault left =>
      rw [more] at later
      obtain ⟨done, failed, rest, rfl, held⟩ := later
      refine ⟨before ++ done, failed, rest, by simp, ?_⟩
      rwa [List.flatten_append, ← List.append_assoc]

theorem Makes.forM {α : Type} {step : α → EStateM Fault σ Unit} {chunks : α → List Bytes}
    (makes : ∀ item, Makes torn torn (step item) (chunks item)) (items : List α) :
    Makes torn torn (forM items step) (items.flatMap chunks) := by
  induction items with
  | nil =>
    intro written state held
    show torn (written ++ []) state
    rwa [List.append_nil]
  | cons item rest hypothesis =>
    rw [List.forM_cons, List.flatMap_cons]
    exact (makes item).seq hypothesis

end Makes

namespace Fixture.Writer

variable {rule : SinkRule} {begun : Bool}

/-- A writer whose sink has taken the given bytes. -/
structure Holds (rule : SinkRule) (begun : Bool) (written : Bytes) (writer : Writer) : Prop where
  rule_eq : writer.sink.rule = rule
  bytes_eq : writer.sink.bytes = written
  begun_eq : writer.hasHaystacks = begun

theorem makes_put (bytes : Bytes) :
    Makes (Holds rule begun) (Holds rule begun) (put bytes) [bytes] := by
  rintro written writer ⟨rfl, rfl, rfl⟩
  unfold put onSink
  cases run : Sink.write bytes writer.sink with
  | ok value after =>
    have taken := Sink.bytes_write run
    unfold Sink.write at run
    split at run <;> cases run
    exact ⟨rfl, by rw [taken, List.flatten_singleton], rfl⟩
  | error fault after =>
    have kept := Sink.bytes_of_write_error run
    unfold Sink.write at run
    split at run <;> cases run
    exact ⟨[], bytes, [], rfl, rfl, by rw [kept]; exact (List.append_nil _).symm, rfl⟩

theorem makes_line (bytes : Bytes) :
    Makes (Holds rule begun) (Holds rule begun) (line bytes) (writes [bytes]) :=
  (makes_put bytes).seq (makes_put [Split.newline])

/-- A byte string that is too long to quote is as good as a write that fails. -/
theorem makes_quoted (bytes : Bytes) :
    Makes (Holds rule begun) (Holds rule begun) (quoted bytes) (writes [Quoted.form bytes]) := by
  unfold quoted
  rw [Quoted.encode_eq]
  split
  · next written same =>
    split at same <;> cases same
    exact makes_line (Quoted.form bytes)
  · intro written writer held
    exact ⟨[], Quoted.form bytes, [[Split.newline]], rfl, (List.append_nil written).symm ▸ held⟩

/-- The haystacks of a block open it when all of them are written. -/
theorem makes_haystacks (strings : List Bytes) :
    Makes (Holds rule false) (Holds rule true) (haystacks strings) (openingWrites strings) := by
  have quotes : Makes (Holds rule false) (Holds rule false) (forM strings quoted)
      (writes (strings.map Quoted.form)) := by
    rw [writes, List.flatMap_map]
    exact Makes.forM makes_quoted strings
  have marks : Makes (Holds rule false) (Holds rule true)
      (modify fun writer => { writer with hasHaystacks := true }) [] :=
    fun written writer held =>
      ⟨held.rule_eq, held.bytes_eq.trans (List.append_nil written).symm, rfl⟩
  exact (makes_put (Fixture.haystacksHeader ++ [Split.newline])).seq
    (quotes.seq ((makes_put (Fixture.regexpsHeader ++ [Split.newline])).seq marks))

end Fixture.Writer

namespace Tester

open Fixture (Writer Appends writes openingWrites recordedEntry)

variable {engine : Engine} {parameters : Parameters} {rule : SinkRule} {written : Bytes}
  {begun marked : Bool} {count : Nat} {tester : Tester} {regexp : String}

theorem Recorded.with_writer
    (recorded : Recorded engine parameters rule written begun count tester)
    {writer : Writer} {written' : Bytes} (held : Writer.Holds rule marked written' writer) :
    Recorded engine parameters rule written' marked count { tester with task := .record writer } :=
  ⟨recorded.engine_eq, recorded.parameters_eq, recorded.haystacks_eq, recorded.counters_eq,
    writer, rfl, held.rule_eq, held.bytes_eq, held.begun_eq⟩

/-- A step of the writer makes the same writes as a step of the tester. -/
theorem makes_write {step : Writer.Step} {chunks : List Bytes}
    (makes : Makes (Writer.Holds rule begun) (Writer.Holds rule marked) step chunks) :
    Makes (fun written => Recorded engine parameters rule written begun count)
      (fun written => Recorded engine parameters rule written marked count) (write step)
      chunks := by
  intro written tester recorded
  obtain ⟨writer, task, held⟩ := recorded.task_eq
  have made := makes written writer ⟨held.1, held.2.1, held.2.2⟩
  unfold write
  rw [task]
  dsimp only
  cases run : step writer with
  | ok value after =>
    rw [run] at made
    exact recorded.with_writer made
  | error fault after =>
    rw [run] at made
    obtain ⟨done, failed, rest, same, held⟩ := made
    exact ⟨done, failed, rest, same, recorded.with_writer held⟩

/-- Compiling writes nothing, and a matcher finds the results of the engine. -/
theorem compile_cases (regexp : String)
    (recorded : Recorded engine parameters rule written begun count tester) :
    match compile regexp tester with
    | .ok matcher next => Recorded engine parameters rule written begun count next ∧
        ∀ haystack journal,
          (Matcher.record matcher haystack journal).1 = engine.recordOf regexp haystack
    | .error _ next => Recorded engine parameters rule written begun count next := by
  cases compiled : (engine.compile regexp).1 with
  | ok matcher =>
    rw [compile_of_ok tester (by rw [recorded.engine_eq]; exact compiled)]
    exact ⟨recorded.with_journal _, fun _ _ => Engine.record_of_ok compiled⟩
  | error failure =>
    rw [compile_of_error tester (by rw [recorded.engine_eq]; exact compiled)]
    split
    · next same =>
      split at same <;> cases same
      exact ⟨recorded.with_journal _, fun _ _ => Engine.record_of_error compiled⟩
    · next same =>
      split at same <;> cases same
      exact recorded.with_journal _

/-- The writes of a record. -/
theorem makes_recordOn {matcher : Option Matcher}
    (finds : ∀ haystack journal,
      (Matcher.record matcher haystack journal).1 = engine.recordOf regexp haystack)
    (haystack : String) :
    Makes (fun written => Recorded engine parameters rule written begun count)
      (fun written => Recorded engine parameters rule written begun count)
      (recordOn matcher haystack)
      (writes [Bytes.ofText (engine.recordOf regexp (Bytes.ofText haystack)).text]) := by
  intro written tester recorded
  have line (text : Bytes) :
      Makes (fun written => Recorded engine parameters rule written begun count)
        (fun written => Recorded engine parameters rule written begun count)
        (write (Writer.line text)) (writes [text]) := makes_write (Writer.makes_line text)
  have makes := line (Bytes.ofText (engine.recordOf regexp (Bytes.ofText haystack)).text) written _
    (recorded.with_journal (Matcher.record matcher (Bytes.ofText haystack) tester.journal).2)
  rw [← finds (Bytes.ofText haystack) tester.journal] at makes ⊢
  exact makes

/-- The writes of a regexp and its records. -/
theorem makes_entry {matcher : Option Matcher}
    (finds : ∀ haystack journal,
      (Matcher.record matcher haystack journal).1 = engine.recordOf regexp haystack) :
    Makes (fun written => Recorded engine parameters rule written true count)
      (fun written => Recorded engine parameters rule written true count)
      (recordEntry matcher (Haystacks.allTexts parameters.maxLength parameters.symbols) regexp)
      (writes (recordedEntry engine (allRecorded parameters) regexp).lines) := by
  have records : Makes (fun written => Recorded engine parameters rule written true count)
      (fun written => Recorded engine parameters rule written true count)
      (forM (Haystacks.allTexts parameters.maxLength parameters.symbols) (recordOn matcher)) _ :=
    Makes.forM (makes_recordOn finds) _
  have lines : writes (recordedEntry engine (allRecorded parameters) regexp).lines =
      writes [Quoted.form (Bytes.ofText regexp)] ++
        (Haystacks.allTexts parameters.maxLength parameters.symbols).flatMap fun haystack =>
          writes [Bytes.ofText (engine.recordOf regexp (Bytes.ofText haystack)).text] := by
    rw [Fixture.Entry.lines, Fixture.writes_cons, recordedEntry, allRecorded, List.map_map,
      List.map_map, writes, List.flatMap_map]
    rfl
  rw [lines]
  exact (makes_write (Writer.makes_quoted (Bytes.ofText regexp))).seq records

/-- Whether or not a step fails, it made the first of its writes. -/
theorem exists_of_ends {holds : Bytes → Tester → Prop} {chunks : List Bytes}
    {result : EStateM.Result Fault Tester Unit} (ends : Ends holds holds written chunks result) :
    ∃ done rest, chunks = done ++ rest ∧ holds (written ++ done.flatten) (left result) := by
  cases result with
  | ok value after => exact ⟨chunks, [], (List.append_nil _).symm, ends⟩
  | error fault after =>
    obtain ⟨done, failed, rest, same, held⟩ := ends
    exact ⟨done, failed :: rest, same, held⟩

/-- What is written for a regexp and a list of all haystacks are the first of its writes. -/
theorem recordOver_appends (regexp : String)
    (recorded : Recorded engine parameters rule written begun count tester) :
    ∃ added marked, Appends engine (allRecorded parameters) regexp begun added marked ∧
      Recorded engine parameters rule (written ++ added) marked count
        (left (recordOver (Haystacks.allTexts parameters.maxLength parameters.symbols) regexp
          tester)) := by
  have compiles := compile_cases regexp recorded
  unfold recordOver
  cases compiled : compile regexp tester with
  | error fault next =>
    rw [compiled] at compiles
    rw [bind_of_error compiled]
    exact ⟨[], begun, .nothing begun, (List.append_nil written).symm ▸ compiles⟩
  | ok matcher next =>
    rw [compiled] at compiles
    obtain ⟨recorded, finds⟩ := compiles
    have entry {written : Bytes} {middle : Tester}
        (recorded : Recorded engine parameters rule written true count middle) :=
      exists_of_ends (makes_entry finds written middle recorded)
    rw [bind_of_ok compiled, bind_get]
    simp only [recorded.hasHaystacks_eq]
    cases begun with
    | true =>
      obtain ⟨done, rest, part, recorded⟩ := entry recorded
      exact ⟨_, true, .entry true part, recorded⟩
    | false =>
      have opens := makes_write (Writer.makes_haystacks (allRecorded parameters)) written next
        recorded
      rw [if_pos (show (!false) = true from rfl), writeAll]
      cases opened : write (Writer.haystacks (allRecorded parameters)) next with
      | error fault torn =>
        rw [opened] at opens
        obtain ⟨done, failed, rest, part, recorded⟩ := opens
        rw [allRecorded] at opened
        rw [bind_of_error opened]
        exact ⟨_, false, .opening part, recorded⟩
      | ok value middle =>
        rw [opened] at opens
        obtain ⟨done, rest, part, recorded⟩ := entry opens
        rw [allRecorded] at opened
        rw [bind_of_ok opened]
        refine ⟨_, true, .entry false part, ?_⟩
        rwa [if_neg (by simp), ← List.append_assoc]

theorem left_leaving (haystacks : Haystacks) (result : EStateM.Result Fault Tester Unit) :
    left (leaving haystacks result) = (left result).withHaystacks haystacks := by
  cases result <;> rfl

/-- **What is written for a regexp** are the first of its writes, wherever the haystacks were left
before. -/
theorem record_appends (regexp : String)
    (recorded : Recorded engine parameters rule written begun count tester) :
    ∃ added marked, Appends engine (allRecorded parameters) regexp begun added marked ∧
      Recorded engine parameters rule (written ++ added) marked count
        (left (record regexp tester)) := by
  obtain ⟨added, marked, appends, after⟩ := recordOver_appends regexp recorded
  obtain ⟨haystacks, same, run⟩ := record_eq regexp tester
  rw [recorded.haystacks_eq] at same run
  rw [run, Haystacks.toList_ofAlphabet, left_leaving]
  exact ⟨added, marked, appends, after.with_haystacks same⟩

/-! ### Any uses -/

/-- The regexp that a candidate is handled as. -/
def wrapped (tester : Tester) (candidate : String) : List String :=
  (tester.parameters.wrap candidate).toOption.toList

/-- The regexps that are handled when all candidates of a source are, up to one that fails. -/
def handledFrom (candidates : Candidates) (tester : Tester) : List String :=
  match _step : candidates.next with
  | .error _ | .ok (none, _) => []
  | .ok (some candidate, rest) =>
    tester.wrapped candidate ++
      match handle candidate { tester with candidates := rest } with
      | .ok () tester => handledFrom rest tester
      | .error .. => []
termination_by candidates.remaining
decreasing_by exact Candidates.next_remaining _step

/-- The regexps that a use of a tester handles. -/
def handled (tester : Tester) : Use → List String
  | .random _ => []
  | .handle candidate => tester.wrapped candidate
  | .generate => handledFrom tester.candidates.reset tester

/-- The regexps that uses of a tester handle, one use after the other. -/
def handledBy (tester : Tester) : List Use → List String
  | [] => []
  | use :: rest => tester.handled use ++ (tester.use use).handledBy rest

/-- **A tester whose sink is safe**, for the regexps that were handled. -/
def Guarded (engine : Engine) (parameters : Parameters) (rule : SinkRule) (regexps : List String)
    (tester : Tester) : Prop :=
  ∃ written begun count, Recorded engine parameters rule written begun count tester ∧
    Fixture.Safe engine (allRecorded parameters) regexps written begun

section Guarded

variable {regexps : List String} (accepted : parameters.check = .ok ()) (orderly : engine.Orderly)
include accepted orderly

theorem guarded_handle (guarded : Guarded engine parameters rule regexps tester)
    (candidate : String) : Guarded engine parameters rule (regexps ++ tester.wrapped candidate)
      (left (handle candidate tester)) := by
  obtain ⟨written, begun, count, recorded, safe⟩ := guarded
  obtain ⟨regexp, wraps⟩ := Parameters.exists_wrap accepted candidate
  rw [← recorded.parameters_eq] at wraps
  have single : tester.wrapped candidate = [regexp] := by
    rw [wrapped, wraps]
    rfl
  obtain ⟨writer, task, -⟩ := recorded.task_eq
  obtain ⟨added, marked, appends, recorded⟩ := record_appends regexp (recorded.started regexp)
  rw [handle_of_record task wraps, single]
  exact ⟨_, marked, _, recorded, safe.append orderly appends⟩

theorem guarded_handleFrom (candidates : Candidates)
    (guarded : Guarded engine parameters rule regexps tester) :
    Guarded engine parameters rule (regexps ++ handledFrom candidates tester)
      (left (handleFrom candidates tester)) := by
  fun_induction handleFrom candidates tester generalizing regexps with
  | case1 candidates tester violation step =>
    rw [handledFrom, step, List.append_nil]
    exact guarded
  | case2 candidates tester rest step =>
    rw [handledFrom, step, List.append_nil]
    obtain ⟨written, begun, count, recorded, safe⟩ := guarded
    exact ⟨written, begun, count, recorded.with_candidates rest, safe⟩
  | case3 candidates tester candidate rest step after handles hypothesis =>
    obtain ⟨written, begun, count, recorded, safe⟩ := guarded
    have next := guarded_handle accepted orderly
      ⟨written, begun, count, recorded.with_candidates rest, safe⟩ candidate
    rw [handles] at next
    have all := hypothesis next
    rw [handledFrom, step]
    simp only [handles]
    rwa [List.append_assoc] at all
  | case4 candidates tester candidate rest step fault after handles =>
    obtain ⟨written, begun, count, recorded, safe⟩ := guarded
    have next := guarded_handle accepted orderly
      ⟨written, begun, count, recorded.with_candidates rest, safe⟩ candidate
    rw [handles] at next
    rw [handledFrom, step]
    simp only [handles]
    rwa [List.append_nil]

omit accepted orderly in
/-- A flush writes nothing, whether or not it fails. -/
theorem recorded_flush (recorded : Recorded engine parameters rule written begun count tester) :
    Recorded engine parameters rule written begun count (left (write Writer.flush tester)) := by
  obtain ⟨writer, task, held⟩ := recorded.task_eq
  have flushed : Writer.Holds rule begun written
      { writer with sink := { writer.sink with attempts := writer.sink.attempts + 1 } } :=
    ⟨held.1, held.2.1, held.2.2⟩
  have after := recorded.with_writer flushed
  unfold write Writer.flush Writer.onSink Sink.flush
  rw [task]
  by_cases flushes : writer.sink.rule.flushes writer.sink.attempts = true
  · simp only [if_pos flushes]
    exact after
  · simp only [if_neg flushes]
    exact after

theorem guarded_generate (guarded : Guarded engine parameters rule regexps tester) :
    Guarded engine parameters rule (regexps ++ handledFrom tester.candidates.reset tester)
      (left (generate tester)) := by
  have all := guarded_handleFrom accepted orderly tester.candidates.reset guarded
  unfold generate
  rw [bind_get]
  cases run : handleFrom tester.candidates.reset tester with
  | error fault after =>
    rw [run] at all
    rw [bind_of_error run]
    exact all
  | ok value after =>
    rw [run] at all
    obtain ⟨written, begun, count, recorded, safe⟩ := all
    have flushes : Recorded engine parameters rule written begun count
        (left (write Writer.flush after)) := recorded_flush recorded
    rw [bind_of_ok run]
    cases flushed : write Writer.flush after with
    | error fault last =>
      rw [flushed] at flushes
      rw [bind_of_error flushed]
      exact ⟨written, begun, count, flushes, safe⟩
    | ok value last =>
      rw [flushed] at flushes
      rw [bind_of_ok flushed, bind_get]
      exact ⟨written, begun, count, flushes.with_journal _, safe⟩

/-- **A use of a tester keeps its sink safe.** -/
theorem guarded_use (guarded : Guarded engine parameters rule regexps tester) (use : Use) :
    Guarded engine parameters rule (regexps ++ tester.handled use) (tester.use use) := by
  cases use with
  | random draws =>
    obtain ⟨written, begun, count, recorded, safe⟩ := guarded
    rw [handled, List.append_nil]
    exact ⟨written, begun, count, recorded.with_candidates _, safe⟩
  | handle candidate => exact guarded_handle accepted orderly guarded candidate
  | generate => exact guarded_generate accepted orderly guarded

theorem guarded_uses (guarded : Guarded engine parameters rule regexps tester) (uses : List Use) :
    Guarded engine parameters rule (regexps ++ tester.handledBy uses) (uses.foldl use tester) := by
  induction uses generalizing regexps tester with
  | nil =>
    rw [handledBy, List.append_nil]
    exact guarded
  | cons first rest hypothesis =>
    have all := hypothesis (guarded_use accepted orderly guarded first)
    rwa [List.append_assoc] at all

end Guarded

/-- **Failed writes never leave a readable fixture with wrong contents.** However a recording tester
is used, and whichever writes of it fail, a fixture that can be read from its sink has one block at
most; the block has all haystacks, and entries for some of the regexps that were handled, in order;
and their records are the results of the engine on each haystack. -/
theorem read_faithful {configuration : Configuration} {journal : Journal} {start : Tester}
    (made : recording engine parameters configuration (.ofRule rule) journal = .ok start)
    (orderly : engine.Orderly) (uses : List Use) :
    ∃ sink, (uses.foldl use start).sink? = some sink ∧
      ∀ fixture, Fixture.read sink.bytes = .ok fixture →
        Fixture.Faithful engine (allRecorded parameters) (start.handledBy uses) fixture := by
  unfold recording at made
  split at made
  · cases made
  obtain ⟨accepted, -, rfl⟩ := of_ofTask made
  have blank : Guarded engine parameters rule [] (fresh engine parameters configuration
      (.record (.ofSink (.ofRule rule))) journal) :=
    ⟨[], false, 0, ⟨rfl, rfl, rfl, rfl, _, rfl, rfl, rfl, rfl⟩, .blank⟩
  obtain ⟨written, begun, count, recorded, safe⟩ := guarded_uses accepted orderly blank uses
  obtain ⟨writer, task, -, bytes, -⟩ := recorded.task_eq
  refine ⟨writer.sink, ?_, fun fixture read => ?_⟩
  · unfold sink?
    rw [task]
  · rw [bytes] at read
    exact safe.faithful orderly read

/-- A recording whose first write fails, and one in the middle of the first regexp too: nothing is
left of that regexp, and the second one is read back with its results. -/
theorem read_secondRegexp :
    let parameters : Parameters := ⟨⟨1, 1, ["a"], []⟩, 1, ["x"], "", "^%s"⟩
    let engine := Run.firstByteEngine "^["
    let rule : SinkRule := ⟨fun attempts _ _ => attempts ≠ 0 && attempts ≠ 12, fun _ => true⟩
    let span : Captures := ⟨⟨0, 1⟩, []⟩
    let fixture : Fixture := [⟨[[], [0x78]],
      [⟨"^b", 5, [.unmatched, ⟨some span, some span, some span, some span⟩]⟩]⟩]
    ∃ start, recording engine parameters .standard (.ofRule rule) (.empty none false) = .ok start ∧
      ∃ sink, ([Use.handle "a", .handle "b"].foldl use start).sink? = some sink ∧
        Fixture.read sink.bytes = .ok fixture ∧
        start.handledBy [.handle "a", .handle "b"] = ["^a", "^b"] ∧
        Fixture.Faithful engine [[], [0x78]] ["^a", "^b"] fixture := by
  intro parameters engine rule span fixture
  have accepted : check parameters .standard = .ok () := by decide
  have made : recording engine parameters .standard (.ofRule rule) (.empty none false) =
      .ok (fresh engine parameters .standard (.record (.ofSink (.ofRule rule)))
        (.empty none false)) := ofTask_eq accepted
  obtain ⟨sink, found, faithful⟩ := read_faithful made (Run.orderly_firstByteEngine "^[")
    [.handle "a", .handle "b"]
  have bytes : sink.bytes = Bytes.ofText
      "strings\n\"\"\n\"x\"\nregexps\n\"^b\"\n-;-;-;-\n0-1;0-1;0-1;0-1" := by
    have taken := congrArg (Option.map Sink.bytes) found
    refine Option.some.inj (taken.symm.trans ?_)
    cbv
  have read : Fixture.read sink.bytes = .ok fixture := by
    rw [bytes]
    cbv
  have handled : (fresh engine parameters .standard (.record (.ofSink (.ofRule rule)))
      (.empty none false)).handledBy [.handle "a", .handle "b"] = ["^a", "^b"] := by
    cbv
  have haystacks : allRecorded parameters = [[], [0x78]] := by decide
  have holds := faithful fixture read
  rw [handled, haystacks] at holds
  exact ⟨_, made, sink, found, read, handled, holds⟩

end Tester

end Crosscheck
