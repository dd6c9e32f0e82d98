/-
**What a replay finds in a recording.**

When the records of a fixture are the results of one engine, replaying the fixture with another
finds exactly the settings in which the two engines differ.

* `Engine.result`, `Engine.recordOf`: what an engine finds, a regexp it refuses having no match;
* `Fixture.HoldsResults`: the records of a fixture are results of an engine;
* `Fixture.differences`: where two engines differ on a fixture;
* `Fixture.replay_eq`: a replay finds these differences and no others;
* `Fixture.recorded`: the fixture with the results of an engine;
* `Fixture.read_ended`: the lines of a fixture are read as that fixture.
-/
import Crosscheck.Fixture.Replay
import Crosscheck.Proofs.Fixture.Roundtrip

namespace Crosscheck

namespace Engine

/-- What an engine finds. There is no match for a regexp that it does not compile. -/
def result (engine : Engine) (regexp : String) (haystack : Bytes) (anchor : Anchor)
    (kind : MatchKind) : Option Captures :=
  match (engine.compile regexp).1 with
  | .ok matcher => matcher.captures haystack anchor kind
  | .error _ => none

/-- The record of a regexp on a haystack. -/
def recordOf (engine : Engine) (regexp : String) (haystack : Bytes) : Record :=
  ⟨engine.result regexp haystack .both .leftmostFirst,
    engine.result regexp haystack .unanchored .leftmostFirst,
    engine.result regexp haystack .both .leftmostLongest,
    engine.result regexp haystack .unanchored .leftmostLongest⟩

/-- An engine that fails on a regexp only by refusing it. -/
def OnlyRefuses (engine : Engine) : Prop :=
  ∀ regexp failure, (engine.compile regexp).1 = .error failure → failure.isCompileFailure

/-- An engine whose spans are in order. -/
def Orderly (engine : Engine) : Prop :=
  ∀ regexp haystack anchor kind, ∀ captures ∈ engine.result regexp haystack anchor kind,
    captures.Readable

variable {engine : Engine} {regexp : String} {haystack : Bytes} {journal : Journal}

theorem record_of_ok {matcher : Matcher} (compiled : (engine.compile regexp).1 = .ok matcher) :
    (Matcher.record (some matcher) haystack journal).1 = engine.recordOf regexp haystack := by
  simp only [Matcher.record, Matcher.find, recordOf, result, compiled]

theorem record_of_error {failure : Failure}
    (refused : (engine.compile regexp).1 = .error failure) :
    (Matcher.record none haystack journal).1 = engine.recordOf regexp haystack := by
  simp only [Matcher.record, Record.unmatched, recordOf, result, refused]

theorem readable_recordOf (orderly : engine.Orderly) (regexp : String) (haystack : Bytes) :
    (engine.recordOf regexp haystack).Readable := by
  intro result member captures found
  simp only [Record.results, recordOf, List.mem_cons, List.not_mem_nil, or_false] at member
  rcases member with rfl | rfl | rfl | rfl <;> exact orderly _ _ _ _ captures found

end Engine

namespace Fixture

/-! ### Differences -/

/-- The difference of two engines on an entry and a haystack in one setting, if they differ. -/
def difference? (recorder replayer : Engine) (entry : Entry) (haystack : Bytes)
    (settings : Anchor × MatchKind) : Option Mismatch :=
  let expected := recorder.result entry.regexp haystack settings.1 settings.2
  let reported := replayer.result entry.regexp haystack settings.1 settings.2
  if expected = reported then none
  else some ⟨entry.regexp, entry.line, haystack, settings.1, settings.2, expected, reported⟩

/-- The differences of two engines on a fixture: entry by entry, for each haystack by haystack, and
for each in the order of the settings. -/
def differences (recorder replayer : Engine) (fixture : Fixture) : List Mismatch :=
  fixture.flatMap fun block => block.entries.flatMap fun entry =>
    block.haystacks.flatMap fun haystack =>
      Record.settings.filterMap (difference? recorder replayer entry haystack)

/-- The records of a fixture are the results of an engine. -/
def HoldsResults (engine : Engine) (fixture : Fixture) : Prop :=
  ∀ block ∈ fixture, ∀ entry ∈ block.entries,
    entry.records = block.haystacks.map (engine.recordOf entry.regexp)

variable {recorder replayer : Engine}

theorem mismatches_eq (entry : Entry) (haystack : Bytes) :
    mismatches entry haystack (recorder.recordOf entry.regexp haystack)
        (replayer.recordOf entry.regexp haystack) =
      Record.settings.filterMap (difference? recorder replayer entry haystack) := rfl

/-! ### Replaying -/

theorem replayEntry_eq {matcher : Option Matcher} {entry : Entry}
    (finds : ∀ haystack journal,
      (Matcher.record matcher haystack journal).1 = replayer.recordOf entry.regexp haystack)
    (haystacks : List Bytes) (journal : Journal) :
    (replayEntry matcher entry
        (haystacks.zip (haystacks.map (recorder.recordOf entry.regexp))) journal).1 =
      haystacks.flatMap fun haystack =>
        Record.settings.filterMap (difference? recorder replayer entry haystack) := by
  induction haystacks generalizing journal with
  | nil => rfl
  | cons haystack rest hypothesis =>
    rw [List.map_cons, List.zip_cons_cons, replayEntry, List.flatMap_cons, ← mismatches_eq,
      ← finds haystack journal, ← hypothesis (Matcher.record matcher haystack journal).2]

/-- A replayer that only refuses regexps gets a matcher with its results, or none. -/
theorem exists_matcherOf (refuses : replayer.OnlyRefuses) (regexp : String) (journal : Journal) :
    ∃ matcher after, matcherOf replayer regexp journal = (.ok matcher, after) ∧
      ∀ haystack journal,
        (Matcher.record matcher haystack journal).1 = replayer.recordOf regexp haystack := by
  have consulted : replayer.consult regexp journal =
      ((replayer.compile regexp).1, (replayer.consult regexp journal).2) := rfl
  unfold matcherOf
  cases compiled : (replayer.compile regexp).1 with
  | ok matcher =>
    rw [consulted, compiled]
    exact ⟨some matcher, _, rfl, fun _ _ => Engine.record_of_ok compiled⟩
  | error failure =>
    rw [consulted, compiled]
    exact ⟨none, _, if_pos (refuses regexp failure compiled),
      fun _ _ => Engine.record_of_error compiled⟩

theorem replayEntries_eq (recorder : Engine) (refuses : replayer.OnlyRefuses)
    {entries : List (List Bytes × Entry)}
    (holds : ∀ pair ∈ entries, pair.2.records = pair.1.map (recorder.recordOf pair.2.regexp))
    (journal : Journal) :
    (replayEntries replayer entries journal).1 =
      .ok (entries.flatMap fun pair => pair.1.flatMap fun haystack =>
        Record.settings.filterMap (difference? recorder replayer pair.2 haystack)) := by
  induction entries generalizing journal with
  | nil => rfl
  | cons pair rest hypothesis =>
    obtain ⟨haystacks, entry⟩ := pair
    obtain ⟨matcher, after, asked, finds⟩ := exists_matcherOf refuses entry.regexp journal
    have records : entry.records = haystacks.map (recorder.recordOf entry.regexp) :=
      holds _ List.mem_cons_self
    have others := hypothesis (fun pair member => holds pair (List.mem_cons_of_mem _ member))
      (replayEntry matcher entry (haystacks.zip entry.records) after).2
    rw [replayEntries, asked]
    show Except.map (_ ++ ·) (replayEntries replayer rest _).1 = _
    rw [others, records, replayEntry_eq finds, List.flatMap_cons]
    rfl

/-- **A replay finds the differences of two engines and no others**, when the records of the fixture
are the results of one and the other only refuses regexps. -/
theorem replay_eq (refuses : replayer.OnlyRefuses) {fixture : Fixture}
    (holds : fixture.HoldsResults recorder) (journal : Journal) :
    (replay replayer fixture journal).1 = .ok (differences recorder replayer fixture) := by
  unfold replay differences
  rw [replayEntries_eq recorder refuses, List.flatMap_assoc]
  · simp only [List.flatMap_map]
  · intro pair member
    obtain ⟨block, inside, member⟩ := List.mem_flatMap.mp member
    obtain ⟨entry, listed, rfl⟩ := List.mem_map.mp member
    exact holds block inside entry listed

/-! ### Recordings -/

/-- An entry with the results of an engine. -/
def recordedEntry (engine : Engine) (haystacks : List Bytes) (regexp : String) : Entry :=
  ⟨regexp, 0, haystacks.map (engine.recordOf regexp)⟩

/-- The fixture with the results of an engine: one block, or none without regexps. -/
def recorded (engine : Engine) (haystacks : List Bytes) (regexps : List String) : Fixture :=
  if regexps = [] then [] else [⟨haystacks, regexps.map (recordedEntry engine haystacks)⟩]

variable {engine : Engine} {haystacks : List Bytes} {regexps : List String}

theorem writable_recorded (orderly : engine.Orderly)
    (haystacksFit : ∀ haystack ∈ haystacks, Quoted.Fits haystack)
    (regexpsFit : ∀ regexp ∈ regexps, Quoted.Fits (Bytes.ofText regexp)) :
    ∀ block ∈ recorded engine haystacks regexps, block.Writable := by
  intro block member
  unfold recorded at member
  split at member
  · cases member
  · obtain rfl := List.mem_singleton.mp member
    refine ⟨haystacksFit, fun entry listed => ?_⟩
    obtain ⟨regexp, there, rfl⟩ := List.mem_map.mp listed
    refine ⟨regexpsFit regexp there, List.length_map _, fun record found => ?_⟩
    obtain ⟨haystack, _, rfl⟩ := List.mem_map.mp found
    exact Engine.readable_recordOf orderly regexp haystack

theorem map_regexp_numberedEntries (line : Nat) (entries : List Entry) :
    (numberedEntries line entries).map (·.regexp) = entries.map (·.regexp) := by
  induction entries generalizing line with
  | nil => rfl
  | cons entry rest hypothesis => rw [numberedEntries, List.map_cons, hypothesis, List.map_cons]

theorem exists_of_mem_numberedEntries {line : Nat} {entries : List Entry} {entry : Entry}
    (member : entry ∈ numberedEntries line entries) :
    ∃ original ∈ entries, entry = { original with line := entry.line } := by
  induction entries generalizing line with
  | nil => cases member
  | cons first rest hypothesis =>
    rcases List.mem_cons.mp member with rfl | later
    · exact ⟨first, List.mem_cons_self, rfl⟩
    · obtain ⟨original, there, same⟩ := hypothesis later
      exact ⟨original, List.mem_cons_of_mem _ there, same⟩

theorem numbered_recorded (line : Nat) :
    (numbered line (recorded engine haystacks regexps)).map (fun block =>
        (block.haystacks, block.entries.map (·.regexp))) =
      if regexps = [] then [] else [(haystacks, regexps)] := by
  unfold recorded
  split
  · rfl
  · show [(haystacks, (numberedEntries _ _).map (·.regexp))] = _
    rw [map_regexp_numberedEntries, List.map_map]
    congr
    exact List.map_id regexps

theorem holdsResults_recorded (line : Nat) :
    (numbered line (recorded engine haystacks regexps)).HoldsResults engine := by
  intro block member entry listed
  unfold recorded at member
  split at member
  · cases member
  · obtain rfl := List.mem_singleton.mp member
    obtain ⟨original, there, same⟩ := exists_of_mem_numberedEntries listed
    obtain ⟨regexp, _, rfl⟩ := List.mem_map.mp there
    rw [same]
    rfl

/-- The lines of a fixture are read as that fixture. -/
theorem read_ended {fixture : Fixture} (writable : ∀ block ∈ fixture, block.Writable) :
    Fixture.read (ended fixture.lines) = .ok (numbered 1 fixture) := by
  have fresh : Reader.start.finish = .ok [] := rfl
  rw [Fixture.read, lines_ended]
  exact Reader.steps_fixture fresh writable 1

end Fixture

end Crosscheck
