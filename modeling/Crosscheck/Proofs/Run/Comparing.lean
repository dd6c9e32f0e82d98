/-
**What a comparing tester asks and counts.**

However a tester was used before, a candidate is compiled once, and then tested on the haystacks in
their order up to the failure that ends the test. The tester leaves its haystacks anywhere, but
starts them again for every candidate.

* `Journal.calls`: the calls of an engine in a journal;
* `TestedPart`: the part of a list that a candidate is tested on, and `TestedPart.unique`, which
  says that it is determined;
* `Tester.Compared`: the list of its haystacks, and `Tester.Compared.unique`, which says the same;
* `Tester.testFrom_tests`: one candidate, from any haystacks on;
* `Tester.Alike`: what no use of a tester changes, and `Tester.alike_use`, one use;
* `Tester.handle_exact`: one candidate, after any uses.
-/
import Crosscheck.Proofs.Generate.Draws
import Crosscheck.Proofs.Run.Start

namespace Crosscheck

/-! ### Calls in a journal -/

def Event.call? : Event → Option Call
  | .call content => some content
  | _ => none

namespace Journal

/-- The calls of an engine, in order. -/
def calls (journal : Journal) : List Call := journal.toList.filterMap Event.call?

/-- **A journal goes on with calls of an engine**, if it keeps them, and other things. -/
structure Adds (journal : Journal) (asked : List Call) (after : Journal) : Prop where
  keeps_eq : after.keepsCalls = journal.keepsCalls
  calls_eq : after.calls = journal.calls ++ if journal.keepsCalls then asked else []

variable {journal middle after : Journal} {asked more : List Call}

theorem calls_add (journal : Journal) (event : Event) :
    (journal.add event).calls = journal.calls ++ event.call?.toList := by
  simp only [calls, toList, add, List.reverse_cons, List.filterMap_append]
  cases event <;> rfl

theorem Adds.refl (journal : Journal) : journal.Adds [] journal :=
  ⟨rfl, by simp⟩

theorem Adds.trans (first : journal.Adds asked middle) (second : middle.Adds more after) :
    journal.Adds (asked ++ more) after where
  keeps_eq := second.keeps_eq.trans first.keeps_eq
  calls_eq := by
    rw [second.calls_eq, first.calls_eq, first.keeps_eq, List.append_assoc]
    cases journal.keepsCalls <;> rfl

theorem adds_note (journal : Journal) (content : Note) :
    journal.Adds [] (journal.note content) := by
  unfold note
  split
  · exact ⟨rfl, by simp [calls_add, Event.call?]⟩
  · exact .refl journal

theorem adds_notes (journal : Journal) (contents : List Note) :
    journal.Adds [] (journal.notes contents) := by
  unfold notes
  induction contents generalizing journal with
  | nil => exact .refl journal
  | cons content rest hypothesis => exact (adds_note journal content).trans (hypothesis _)

theorem adds_print (journal : Journal) (channel : Channel) (content : String) :
    journal.Adds [] (journal.printText channel content) :=
  ⟨rfl, by simp [printText, print, calls_add, Event.call?]⟩

theorem adds_call (journal : Journal) (content : Call) :
    journal.Adds [content] (journal.call content) := by
  unfold call
  by_cases keeps : journal.keepsCalls
  · rw [if_pos keeps]
    exact ⟨rfl, by rw [calls_add, if_pos keeps]; rfl⟩
  · rw [if_neg keeps]
    exact ⟨rfl, by rw [if_neg keeps, List.append_nil]⟩

theorem adds_consult (engine : Engine) (regexp : String) (journal : Journal) :
    journal.Adds [.compile regexp] (engine.consult regexp journal).2 :=
  (adds_call journal _).trans (adds_notes _ _)

theorem adds_check (matcher : Matcher) (haystack : Bytes) (journal : Journal) :
    journal.Adds [.test haystack] (matcher.check haystack journal).2 :=
  (adds_call journal _).trans (adds_notes _ _)

end Journal

/-! ### The haystacks that are tested -/

/-- **The part of a list that is tested**: the longest beginning that holds no more failures than
allowed, and ends with the last of them if it holds as many. -/
structure TestedPart (fails : String → Bool) (limit : Nat) (haystacks tested : List String) :
    Prop where
  starts : tested <+: haystacks
  failures_le : tested.countP fails ≤ limit
  ends : tested.countP fails = limit → ∃ last, tested.getLast? = some last ∧ fails last
  whole : tested.countP fails < limit → tested = haystacks

namespace TestedPart

variable {fails : String → Bool} {limit : Nat} {haystack : String} {haystacks tested : List String}

theorem nil (positive : 0 < limit) : TestedPart fails limit [] [] where
  starts := List.nil_prefix
  failures_le := Nat.zero_le limit
  ends none := absurd none (Nat.ne_of_lt positive)
  whole _ := rfl

theorem last (failed : fails haystack) : TestedPart fails 1 (haystack :: haystacks) [haystack] where
  starts := ⟨haystacks, rfl⟩
  failures_le := by simp [failed]
  ends _ := ⟨haystack, rfl, failed⟩
  whole few := by simp [failed] at few

theorem cons (part : TestedPart fails limit haystacks tested) (haystack : String) :
    TestedPart fails (if fails haystack then limit + 1 else limit) (haystack :: haystacks)
      (haystack :: tested) where
  starts := List.cons_prefix_cons.mpr ⟨rfl, part.starts⟩
  failures_le := by
    have := part.failures_le
    rw [List.countP_cons]
    split <;> omega
  ends full := by
    have same : tested.countP fails = limit := by
      rw [List.countP_cons] at full
      split at full <;> omega
    obtain ⟨last, there, failed⟩ := part.ends same
    refine ⟨last, ?_, failed⟩
    rw [List.getLast?_cons, there, Option.getD_some]
  whole few := by
    have fewer : tested.countP fails < limit := by
      rw [List.countP_cons] at few
      split at few <;> omega
    rw [part.whole fewer]

theorem eq_of_prefix {longer : List String} (part : TestedPart fails limit haystacks tested)
    (other : TestedPart fails limit haystacks longer) (shorter : tested <+: longer) :
    tested = longer := by
  obtain ⟨more, rfl⟩ := shorter
  by_cases few : tested.countP fails < limit
  · have within := other.starts.length_le
    rw [part.whole few, List.length_append] at within
    rw [List.eq_nil_of_length_eq_zero (Nat.eq_zero_of_le_zero (by omega : more.length ≤ 0)),
      List.append_nil]
  · have bound := other.failures_le
    have reached := part.failures_le
    rw [List.countP_append] at bound
    have none : more.countP fails = 0 := by omega
    obtain ⟨last, there, failed⟩ := other.ends (by rw [List.countP_append]; omega)
    cases more with
    | nil => rw [List.append_nil]
    | cons haystack rest =>
      have inside : last ∈ haystack :: rest := by
        rw [List.getLast?_append_cons] at there
        exact List.mem_of_getLast? there
      exact absurd failed (List.countP_eq_zero.mp none last inside)

/-- **There is only one such part.** -/
theorem unique {one other : List String} (part : TestedPart fails limit haystacks one)
    (alike : TestedPart fails limit haystacks other) : one = other := by
  rcases List.prefix_or_prefix_of_prefix part.starts alike.starts with shorter | longer
  · exact part.eq_of_prefix alike shorter
  · exact (alike.eq_of_prefix part longer).symm

end TestedPart

/-- Whether the searches disagree on a haystack. -/
def Matcher.fails (matcher : Matcher) (haystack : String) : Bool :=
  !(matcher.agrees (Bytes.ofText haystack)).1

theorem Matcher.of_check {matcher : Matcher} {haystack : String} {journal after : Journal}
    {agrees : Bool} (checked : matcher.check (Bytes.ofText haystack) journal = (agrees, after)) :
    matcher.fails haystack = !agrees ∧ journal.Adds [.test (Bytes.ofText haystack)] after := by
  have adds := journal.adds_check matcher (Bytes.ofText haystack)
  rw [checked] at adds
  have same : (matcher.agrees (Bytes.ofText haystack)).1 = agrees := congrArg Prod.fst checked
  exact ⟨by rw [fails, same], adds⟩

namespace Tester

/-! ### One candidate -/

/-- What testing a matcher on haystacks changes. -/
structure Progress.Tests (matcher : Matcher) (haystacks : Haystacks) (counters : Counters)
    (journal : Journal) (tested : List String) (progress : Progress) : Prop where
  counters_eq : progress.counters = ⟨counters.regexps, counters.tests + tested.length,
    counters.failures + tested.countP matcher.fails⟩
  journal_adds : journal.Adds (tested.map fun haystack => .test (Bytes.ofText haystack))
    progress.journal
  maxLength_eq : progress.haystacks.maxLength = haystacks.maxLength
  alphabet_eq : progress.haystacks.alphabet = haystacks.alphabet

theorem Progress.Tests.cons {matcher : Matcher} {haystacks rest : Haystacks}
    {counters : Counters} {journal middle : Journal} {haystack : String} {tested : List String}
    {progress : Progress} (step : haystacks.next = some (haystack, rest))
    (asked : journal.Adds [.test (Bytes.ofText haystack)] middle)
    (tests : Tests matcher rest
      ⟨counters.regexps, counters.tests + 1,
        counters.failures + if matcher.fails haystack then 1 else 0⟩ middle tested progress) :
    Tests matcher haystacks counters journal (haystack :: tested) progress where
  counters_eq := by
    rw [tests.counters_eq, List.countP_cons, List.length_cons]
    simp only [Counters.mk.injEq, true_and]
    omega
  journal_adds := asked.trans tests.journal_adds
  maxLength_eq := tests.maxLength_eq.trans (Haystacks.next_frame step).1
  alphabet_eq := tests.alphabet_eq.trans (Haystacks.next_frame step).2

/-- **A matcher is tested on the haystacks up to the failure that ends the test.** -/
theorem testFrom_tests (matcher : Matcher) (regexp : String) (limit failed : Nat)
    (haystacks : Haystacks) (counters : Counters) (journal : Journal) (few : failed < limit) :
    ∃ tested, TestedPart matcher.fails (limit - failed) haystacks.toList tested ∧
      Progress.Tests matcher haystacks counters journal tested
        (testFrom matcher regexp limit failed haystacks counters journal) := by
  fun_induction testFrom matcher regexp limit failed haystacks counters journal with
  | case1 failed haystacks counters journal last =>
    rw [Haystacks.toList_eq_nil last]
    exact ⟨[], .nil (Nat.sub_pos_of_lt few), rfl, .refl journal, rfl, rfl⟩
  | case2 failed haystacks counters journal haystack rest step after agreed hypothesis =>
    obtain ⟨fails, asked⟩ := Matcher.of_check agreed
    obtain ⟨tested, part, tests⟩ := hypothesis few
    have longer := part.cons haystack
    rw [Haystacks.toList_eq_cons step]
    refine ⟨haystack :: tested, by simpa [fails] using longer, ?_⟩
    exact .cons step ((journal.adds_note _).trans asked) (by rw [fails]; exact tests)
  | case3 failed haystacks counters journal haystack rest step after disagreed counters' full =>
    obtain ⟨fails, asked⟩ := Matcher.of_check disagreed
    have one : limit - failed = 1 := by omega
    rw [Haystacks.toList_eq_cons step, one]
    refine ⟨[haystack], .last (by simp [fails]), .cons step ((journal.adds_note _).trans asked) ?_⟩
    exact ⟨by simp [fails]; rfl, after.adds_note _, rfl, rfl⟩
  | case4 failed haystacks counters journal haystack rest step after disagreed counters' room
      hypothesis =>
    obtain ⟨fails, asked⟩ := Matcher.of_check disagreed
    obtain ⟨tested, part, tests⟩ := hypothesis (by omega)
    have longer := part.cons haystack
    have one : limit - failed = limit - (failed + 1) + 1 := by omega
    rw [Haystacks.toList_eq_cons step, one]
    refine ⟨haystack :: tested, by simpa [fails] using longer, ?_⟩
    exact .cons step ((journal.adds_note _).trans asked) (by rw [fails]; exact tests)

/-! ### What stays the same -/

/-- **What no use of a comparing tester changes.** -/
structure Alike (start tester : Tester) : Prop where
  engine_eq : tester.engine = start.engine
  parameters_eq : tester.parameters = start.parameters
  configuration_eq : tester.configuration = start.configuration
  task_eq : tester.task = .compare
  maxLength_eq : tester.haystacks.maxLength = start.haystacks.maxLength
  alphabet_eq : tester.haystacks.alphabet = start.haystacks.alphabet
  keeps_eq : tester.journal.keepsCalls = start.journal.keepsCalls

theorem Alike.trans {start middle tester : Tester} (first : start.Alike middle)
    (second : middle.Alike tester) : start.Alike tester where
  engine_eq := second.engine_eq.trans first.engine_eq
  parameters_eq := second.parameters_eq.trans first.parameters_eq
  configuration_eq := second.configuration_eq.trans first.configuration_eq
  task_eq := second.task_eq
  maxLength_eq := second.maxLength_eq.trans first.maxLength_eq
  alphabet_eq := second.alphabet_eq.trans first.alphabet_eq
  keeps_eq := second.keeps_eq.trans first.keeps_eq

/-- A comparing tester that was accepted, whose haystacks are those of its parameters. -/
structure Ready (tester : Tester) : Prop where
  compares : tester.task = .compare
  accepted : tester.parameters.check = .ok ()
  positive : 0 < tester.configuration.maxBadInputs
  length_eq : tester.haystacks.maxLength = tester.parameters.maxLength
  alphabet_eq : tester.haystacks.alphabet = tester.parameters.symbols

theorem Ready.of_alike {start tester : Tester} (ready : start.Ready) (alike : start.Alike tester) :
    tester.Ready where
  compares := alike.task_eq
  accepted := by rw [alike.parameters_eq, ready.accepted]
  positive := by rw [alike.configuration_eq]; exact ready.positive
  length_eq := by rw [alike.maxLength_eq, alike.parameters_eq, ready.length_eq]
  alphabet_eq := by rw [alike.alphabet_eq, alike.parameters_eq, ready.alphabet_eq]

theorem ready_of_comparing {engine : Engine} {parameters : Parameters}
    {configuration : Configuration} {journal : Journal} {start : Tester}
    (made : comparing engine parameters configuration journal = .ok start) : start.Ready := by
  obtain ⟨accepted, limit, rfl⟩ := of_ofTask made
  exact ⟨rfl, accepted, Nat.pos_of_ne_zero limit, rfl, rfl⟩

/-- **The haystacks of a candidate** whose test no failure ends: an extra empty one, and then all of
them, or as many random ones as are asked for, drawn afresh from their seed. -/
inductive Compared (parameters : Parameters) (configuration : Configuration) :
    List String → Prop
  | all (none : configuration.randomHaystacks = none) :
      Compared parameters configuration
        ("" :: Haystacks.allTexts parameters.maxLength parameters.symbols)
  | random {draws : Draws} {texts : List String} {after : Stream}
      (some : configuration.randomHaystacks = some draws) (many : texts.length = draws.count)
      (drawn : Drawn (Haystacks.TextDrawn Stream.dice parameters.maxLength parameters.symbols)
        (.ofSeed draws.seed) texts after) :
      Compared parameters configuration ("" :: texts)

/-- **Parameters and a configuration determine the haystacks.** -/
theorem Compared.unique {parameters : Parameters} {configuration : Configuration}
    {one other : List String} (compared : Compared parameters configuration one)
    (alike : Compared parameters configuration other) : one = other := by
  cases compared with
  | all none =>
    cases alike with
    | all => rfl
    | random some => cases none.symm.trans some
  | random some many drawn =>
    cases alike with
    | all none => cases none.symm.trans some
    | random some' many' drawn' =>
      obtain rfl := Option.some.inj (some.symm.trans some')
      obtain ⟨rfl, -⟩ := drawn.unique Haystacks.determined_textDrawn drawn' (many.trans many'.symm)
      rfl

/-- **The haystacks of a comparison do not depend on where those of the one before were left.** -/
theorem compared_toList {tester : Tester} (ready : tester.Ready) :
    Compared tester.parameters tester.configuration tester.comparedHaystacks.toList := by
  unfold comparedHaystacks
  rw [Haystacks.reset, ready.length_eq, ready.alphabet_eq]
  cases asked : tester.configuration.randomHaystacks with
  | none =>
    show Compared _ _ (Haystacks.forceEmpty _).toList
    rw [Haystacks.toList_forceEmpty rfl, Haystacks.toList_ofAlphabet]
    exact .all asked
  | some draws =>
    show Compared _ _ (Haystacks.forceEmpty { Haystacks.ofAlphabet _ _ with
      random := some (.ofSeed draws.seed, draws.count) }).toList
    rw [Haystacks.toList_forceEmpty rfl]
    have free : (Haystacks.ofAlphabet tester.parameters.maxLength
        tester.parameters.symbols).forcedEmpty = false := rfl
    obtain ⟨texts, after, yielded, many, drawn⟩ :=
      Haystacks.drawn_toList free (.ofSeed draws.seed) draws.count
    rw [yielded]
    exact .random asked many drawn

theorem comparedHaystacks_frame (tester : Tester) :
    tester.comparedHaystacks.maxLength = tester.haystacks.maxLength ∧
      tester.comparedHaystacks.alphabet = tester.haystacks.alphabet := by
  unfold comparedHaystacks
  cases tester.configuration.randomHaystacks <;> exact ⟨rfl, rfl⟩

/-! ### One candidate, whatever came before -/

variable {tester : Tester} {candidate regexp : String}

/-- **A regexp that compiles is tested.** -/
theorem compare_of_ok (tester : Tester) {matcher : Matcher}
    (positive : 0 < tester.configuration.maxBadInputs)
    (compiled : (tester.engine.compile regexp).1 = .ok matcher) :
    ∃ tested progress, compare regexp tester = .ok () { tester with
        haystacks := progress.haystacks
        counters := progress.counters
        journal := progress.journal } ∧
      TestedPart matcher.fails tester.configuration.maxBadInputs tester.comparedHaystacks.toList
        tested ∧
      Progress.Tests matcher tester.comparedHaystacks tester.counters
        (tester.engine.consult regexp tester.journal).2 tested progress := by
  obtain ⟨tested, part, tests⟩ := testFrom_tests matcher regexp tester.configuration.maxBadInputs
    0 tester.comparedHaystacks tester.counters (tester.engine.consult regexp tester.journal).2
    positive
  refine ⟨tested, _, ?_, part, tests⟩
  unfold compare
  rw [bind_of_ok (compile_of_ok tester compiled)]
  rfl

/-- **A regexp that does not compile is left out**, or ends the run. -/
theorem compare_of_error (tester : Tester) {failure : Failure}
    (compiled : (tester.engine.compile regexp).1 = .error failure) :
    ∃ journal, tester.journal.Adds [.compile regexp] journal ∧
      compare regexp tester =
        if failure.isCompileFailure then .ok () { tester with journal := journal }
        else .error (.failure failure) { tester with journal := journal } := by
  have asked := tester.journal.adds_consult tester.engine regexp
  have run := compile_of_error tester compiled
  unfold compare
  by_cases refused : failure.isCompileFailure
  · rw [if_pos refused] at run
    refine ⟨_, asked.trans (Journal.adds_note _ (.skipped regexp failure)), ?_⟩
    rw [if_pos refused, bind_of_ok run]
    rfl
  · rw [if_neg refused] at run
    exact ⟨_, asked, by rw [if_neg refused, bind_of_error run]⟩

theorem adds_shownJournal (tester : Tester) (regexp : String) :
    tester.journal.Adds [] (tester.shownJournal regexp) := by
  unfold shownJournal
  split
  · exact tester.journal.adds_print _ _
  · exact .refl _

theorem Ready.started (ready : tester.Ready) (regexp : String) : (tester.started regexp).Ready :=
  ⟨ready.compares, ready.accepted, ready.positive, ready.length_eq, ready.alphabet_eq⟩

/-- **One candidate of a comparing tester.** -/
theorem handle_compares (ready : tester.Ready)
    (wrapped : tester.parameters.wrap candidate = .ok regexp) :
    match (tester.engine.compile regexp).1 with
    | .ok matcher => ∃ tested after, handle candidate tester = .ok () after ∧ tester.Alike after ∧
        TestedPart matcher.fails tester.configuration.maxBadInputs
          tester.comparedHaystacks.toList tested ∧
        after.counters = ⟨tester.counters.regexps + 1, tester.counters.tests + tested.length,
          tester.counters.failures + tested.countP matcher.fails⟩ ∧
        tester.journal.Adds
          (.compile regexp :: tested.map fun haystack => .test (Bytes.ofText haystack))
          after.journal
    | .error failure => ∃ after, handle candidate tester =
          (if failure.isCompileFailure then .ok () after else .error (.failure failure) after) ∧
        tester.Alike after ∧ after.counters = tester.counters.addRegexp ∧
        tester.journal.Adds [.compile regexp] after.journal := by
  have shown := adds_shownJournal tester regexp
  rw [handle_of_compare ready.compares wrapped]
  split
  · next matcher compiled =>
    obtain ⟨tested, progress, run, part, tests⟩ :=
      compare_of_ok (tester.started regexp) ready.positive compiled
    have adds := (shown.trans (Journal.adds_consult tester.engine regexp _)).trans
      tests.journal_adds
    obtain ⟨length, alphabet⟩ := comparedHaystacks_frame (tester.started regexp)
    exact ⟨tested, _, run, ⟨rfl, rfl, rfl, ready.compares, tests.maxLength_eq.trans length,
      tests.alphabet_eq.trans alphabet, adds.keeps_eq⟩, part, tests.counters_eq, adds⟩
  · next failure compiled =>
    obtain ⟨journal, adds, run⟩ := compare_of_error (tester.started regexp) compiled
    exact ⟨_, run, ⟨rfl, rfl, rfl, ready.compares, rfl, rfl, (shown.trans adds).keeps_eq⟩, rfl,
      shown.trans adds⟩

/-! ### Any uses before -/

/-- Something that is done with a tester. -/
inductive Use where
  | random (draws : Draws)
  | handle (candidate : String)
  | generate

/-- The tester that a step leaves, whether or not it failed. -/
def left : EStateM.Result Fault Tester Unit → Tester
  | .ok () tester => tester
  | .error _ tester => tester

/-- The tester after a use. -/
def use (tester : Tester) : Use → Tester
  | .random draws => tester.useRandom draws
  | .handle candidate => left (handle candidate tester)
  | .generate => left (generate tester)

theorem Ready.alike_candidates (ready : tester.Ready) (candidates : Candidates) :
    tester.Alike { tester with candidates := candidates } :=
  ⟨rfl, rfl, rfl, ready.compares, rfl, rfl, rfl⟩

theorem alike_handle (ready : tester.Ready) (candidate : String) :
    tester.Alike (left (handle candidate tester)) := by
  obtain ⟨regexp, wrapped⟩ := Parameters.exists_wrap ready.accepted candidate
  have handled := handle_compares ready wrapped
  split at handled
  · obtain ⟨tested, after, run, alike, -⟩ := handled
    rw [run]
    exact alike
  · obtain ⟨after, run, alike, -⟩ := handled
    rw [run]
    split <;> exact alike

theorem alike_handleFrom (candidates : Candidates) (ready : tester.Ready) :
    tester.Alike (left (handleFrom candidates tester)) := by
  fun_induction handleFrom candidates tester with
  | case1 => exact ready.alike_candidates _
  | case2 => exact ready.alike_candidates _
  | case3 candidates tester candidate rest step after handled hypothesis =>
    have moved := ready.alike_candidates rest
    have alike := alike_handle (ready.of_alike moved) candidate
    rw [handled] at alike
    have so_far := moved.trans alike
    exact so_far.trans (hypothesis (ready.of_alike so_far))
  | case4 candidates tester candidate rest step fault after handled =>
    have moved := ready.alike_candidates rest
    have alike := alike_handle (ready.of_alike moved) candidate
    rw [handled] at alike
    exact moved.trans alike

theorem alike_generate (ready : tester.Ready) : tester.Alike (left (generate tester)) := by
  have alike := alike_handleFrom tester.candidates.reset ready
  unfold generate
  rw [bind_get]
  cases run : handleFrom tester.candidates.reset tester with
  | error fault after =>
    rw [run] at alike
    rw [bind_of_error run]
    exact alike
  | ok value after =>
    rw [run] at alike
    have flushes : write Fixture.Writer.flush after = .ok () after := by
      unfold write
      rw [show after.task = .compare from alike.task_eq]
    have noted := after.journal.adds_note (.finished after.counters)
    rw [bind_of_ok run, bind_of_ok flushes, bind_get]
    exact alike.trans ⟨rfl, rfl, rfl, alike.task_eq, rfl, rfl, noted.keeps_eq⟩

/-- **No use changes what a comparing tester compares.** -/
theorem alike_use (ready : tester.Ready) (use : Use) : tester.Alike (tester.use use) := by
  cases use with
  | random draws => exact ready.alike_candidates _
  | handle candidate => exact alike_handle ready candidate
  | generate => exact alike_generate ready

theorem alike_uses (ready : tester.Ready) (uses : List Use) :
    tester.Alike (uses.foldl use tester) := by
  induction uses generalizing tester with
  | nil => exact ready.alike_candidates _
  | cons first rest hypothesis =>
    have alike := alike_use ready first
    exact alike.trans (hypothesis (ready.of_alike alike))

/-- **A comparing tester asks and counts exactly**, whatever was done with it before and whether or
not that failed. A candidate is counted and its regexp compiled once. When it compiles, it is tested
on its haystacks up to the failure that ends the test, and each test and each failure is counted.
When the engine refuses it, that is all; and when compiling fails for another cause, the failure is
returned. -/
theorem handle_exact {engine : Engine} {parameters : Parameters} {configuration : Configuration}
    {journal : Journal} {start : Tester}
    (made : comparing engine parameters configuration journal = .ok start) (uses : List Use)
    (candidate : String) :
    let before := uses.foldl use start
    ∃ regexp haystacks, parameters.wrap candidate = .ok regexp ∧
      Compared parameters configuration haystacks ∧
      match (engine.compile regexp).1 with
      | .ok matcher => ∃ tested after, handle candidate before = .ok () after ∧
          TestedPart matcher.fails configuration.maxBadInputs haystacks tested ∧
          after.counters = ⟨before.counters.regexps + 1, before.counters.tests + tested.length,
            before.counters.failures + tested.countP matcher.fails⟩ ∧
          after.journal.calls = before.journal.calls ++
            if journal.keepsCalls then
              .compile regexp :: tested.map fun haystack => .test (Bytes.ofText haystack)
            else []
      | .error failure => ∃ after, handle candidate before =
            (if failure.isCompileFailure then .ok () after else .error (.failure failure) after) ∧
          after.counters =
            ⟨before.counters.regexps + 1, before.counters.tests, before.counters.failures⟩ ∧
          after.journal.calls = before.journal.calls ++
            if journal.keepsCalls then [.compile regexp] else [] := by
  intro before
  have ready := ready_of_comparing made
  have alike : start.Alike before := alike_uses ready uses
  obtain ⟨accepted, -, rfl⟩ := of_ofTask made
  obtain ⟨regexp, wrapped⟩ := Parameters.exists_wrap accepted candidate
  have handled := handle_compares (ready.of_alike alike)
    (by rw [alike.parameters_eq]; exact wrapped)
  have compared := compared_toList (ready.of_alike alike)
  rw [show before.parameters = parameters from alike.parameters_eq,
    show before.configuration = configuration from alike.configuration_eq] at compared
  rw [show before.engine = engine from alike.engine_eq,
    show before.configuration = configuration from alike.configuration_eq] at handled
  have keeps : before.journal.keepsCalls = journal.keepsCalls := alike.keeps_eq
  refine ⟨regexp, _, wrapped, compared, ?_⟩
  cases compiled : (engine.compile regexp).1 with
  | ok matcher =>
    simp only [compiled] at handled
    obtain ⟨tested, after, run, -, part, counters, adds⟩ := handled
    exact ⟨tested, after, run, part, counters, keeps ▸ adds.calls_eq⟩
  | error failure =>
    simp only [compiled] at handled
    obtain ⟨after, run, -, counters, adds⟩ := handled
    exact ⟨after, run, counters, keeps ▸ adds.calls_eq⟩

/-- A regexp whose searches agree on the empty haystack alone. -/
def emptyOnly : Matcher := ⟨fun haystack => (haystack.isEmpty, []), fun _ _ _ => none⟩

/-- An engine that refuses one regexp. -/
def fussyEngine : Engine where
  compile regexp := (if regexp = "^b" then .error .pattern else .ok emptyOnly, [])

/-- After all candidates were tested, one of them refused, a regexp is compiled once and tested up
to the second failure: on all haystacks after an extra empty one, or on random ones after that. -/
theorem handle_afterGenerate :
    let parameters : Parameters := ⟨⟨1, 1, ["a", "b"], ["%s*"]⟩, 2, ["x", "y", "z"], "", "^%s"⟩
    let configuration (draws : Option Draws) : Configuration := ⟨false, 2, draws, false⟩
    let testsOn (draws : Option Draws) (haystacks : List Bytes) : Prop :=
      ∃ start, comparing fussyEngine parameters (configuration draws) (.empty none true) =
          .ok start ∧
        let before := [Use.generate, .handle "b", .random ⟨1, 3⟩].foldl use start
        ∃ after, handle "a" before = .ok () after ∧
          after.counters = ⟨before.counters.regexps + 1,
            before.counters.tests + haystacks.length, before.counters.failures + 2⟩ ∧
          after.journal.calls = before.journal.calls ++ .compile "^a" :: haystacks.map .test
    testsOn none [[], [], [0x78], [0x79]] ∧ testsOn (some ⟨1, 4⟩) [[], [0x79, 0x78], [0x7a]] := by
  intro parameters configuration testsOn
  have tests (draws : Option Draws) (haystacks tested : List String)
      (same : (fresh fussyEngine parameters (configuration draws) .compare
        (.empty none true)).comparedHaystacks.toList = haystacks)
      (part : TestedPart emptyOnly.fails 2 haystacks tested)
      (failed : tested.countP emptyOnly.fails = 2) :
      testsOn draws (tested.map Bytes.ofText) := by
    have accepted : check parameters (configuration draws) = .ok () :=
      (by decide : check parameters (configuration none) = .ok ())
    have made : comparing fussyEngine parameters (configuration draws) (.empty none true) =
        .ok (fresh fussyEngine parameters (configuration draws) .compare (.empty none true)) :=
      ofTask_eq accepted
    have compared := compared_toList (ready_of_comparing made)
    rw [same] at compared
    refine ⟨_, made, ?_⟩
    obtain ⟨regexp, others, wrapped, alike, exactly⟩ :=
      handle_exact made [Use.generate, .handle "b", .random ⟨1, 3⟩] "a"
    obtain rfl : haystacks = others := compared.unique alike
    have wraps : parameters.wrap "a" = .ok "^a" := by decide
    obtain rfl : "^a" = regexp := Except.ok.inj (wraps.symm.trans wrapped)
    have compiled : (fussyEngine.compile "^a").1 = .ok emptyOnly := rfl
    rw [compiled] at exactly
    obtain ⟨others, after, run, other, counters, calls⟩ := exactly
    obtain rfl : tested = others := part.unique other
    rw [failed] at counters
    exact ⟨after, run, by rw [counters, List.length_map], by rw [calls, List.map_map]; rfl⟩
  refine ⟨tests none ["", "", "x", "y", "z", "xx", "xy", "xz", "yx", "yy", "yz", "zx", "zy", "zz"]
    ["", "", "x", "y"] (by decide +kernel) ⟨by decide, by decide, ?_, by decide⟩ (by decide),
    tests (some ⟨1, 4⟩) ["", "yx", "z", "y", ""] ["", "yx", "z"] (by decide +kernel)
    ⟨by decide, by decide, ?_, by decide⟩ (by decide)⟩
  · exact fun _ => ⟨"y", rfl, by decide⟩
  · exact fun _ => ⟨"z", rfl, by decide⟩

end Tester

end Crosscheck
