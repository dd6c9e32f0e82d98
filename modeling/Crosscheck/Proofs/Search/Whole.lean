/-
**Matches of the whole haystack.**

A search for a match of the whole haystack starts at its beginning, and of the configurations where
matches end only the one at the end of the haystack counts. One thread at most arrives there, so the
first match and the longest one are the same, with the same groups, however many threads ended
matches before.

* `Automaton.Layout.ends_both_iff`: where a match of the whole haystack ends;
* `Backtracking.search_both`: the thread that a search for such a match reports;
* `search_both_kinds`: both kinds of search report the same match, and so do the records of the
  engine that compares searches.
-/
import Crosscheck.Engine.Comparison
import Crosscheck.Proofs.Fixture.Replaying
import Crosscheck.Proofs.Search.Arrivals
import Crosscheck.Proofs.Search.Narrowing

namespace Crosscheck

open Backtracking (Attempt)
open Thread (successors)

/-! ### From the beginning of the haystack -/

section Attempts

variable {automaton : Automaton} {rule : LoopRule} {pattern : Pattern} {inner finish : Nat}
  {haystack : Array UInt8} {slotCount start : Nat} {found : List Thread}

/-- Threads that are found from inside a haystack are inside it. -/
theorem Backtracking.Attempt.position_le
    (attempt : Attempt automaton haystack slotCount start found) (inside : start ≤ haystack.size) :
    ∀ thread ∈ found, thread.position ≤ haystack.size := by
  refine attempt.forall_found (·.position ≤ haystack.size) (fun thread root => ?_)
    fun thread within next follows => (Thread.position_of_successor follows).2 within
  rw [List.mem_singleton.mp root]
  exact inside

/-- **A match of the whole haystack ends in one configuration.** -/
theorem Automaton.Layout.ends_both_iff (layout : automaton.Layout rule pattern inner finish)
    {thread : Thread} (inside : thread.position ≤ haystack.size) :
    thread.ends automaton haystack .both = true ↔
      thread.configuration = (finish + 1, haystack.size) := by
  rw [Thread.ends, decide_eq_true_iff, Thread.configuration, Prod.mk.injEq]
  constructor
  · rintro ⟨accepts, whole⟩
    exact ⟨layout.eq_of_accept accepts, Nat.le_antisymm inside (whole rfl)⟩
  · rintro ⟨state, position⟩
    rw [state, position]
    exact ⟨layout.accepts, fun _ => Nat.le_refl _⟩

/-- **Whatever kind of match of the whole haystack is asked for**, it is that of the thread that
arrives at the end. -/
theorem choose_both (layout : automaton.Layout rule pattern inner finish)
    (attempt : Attempt automaton haystack slotCount 0 found) (kind : MatchKind) :
    choose automaton haystack .both kind.better none found =
      arrival found (finish + 1, haystack.size) :=
  choose_eq_arrival attempt (fun thread member =>
    layout.ends_both_iff (attempt.position_le (Nat.zero_le _) thread member)) kind

end Attempts

/-! ### Searches -/

section Searches

variable {automaton : Automaton} {rule : LoopRule} {pattern : Pattern} {inner finish : Nat}
  {haystack : Array UInt8} {slotCount : Nat} {found : List Thread}

/-- **A search for a match of the whole haystack** reports the slots of the thread that arrives at
the end. -/
theorem Backtracking.search_both (layout : automaton.Layout rule pattern inner finish)
    (wellFormed : automaton.WellFormed) (cache : Cache) (kind : MatchKind)
    (attempt : Attempt automaton haystack slotCount 0 found) :
    (search automaton cache haystack .both kind slotCount).1 =
      (arrival found (finish + 1, haystack.size)).map Thread.slots := by
  obtain ⟨others, attempts⟩ := exists_attempts wellFormed haystack slotCount
  obtain rfl := attempt.deterministic (attempts 0 (Nat.zero_le _))
  rw [search_eq wellFormed cache others attempts, lastStart, Nat.zero_add, List.range_one,
    List.findSome?_singleton, choose_both layout attempt]

/-- What is reported starts where the haystack does, and ends where it does. -/
theorem Backtracking.stored_of_search_both (layout : automaton.Layout rule pattern inner finish)
    (wellFormed : automaton.WellFormed) {cache : Cache} {kind : MatchKind} (enough : 2 ≤ slotCount)
    {slots : Slots}
    (reported : (search automaton cache haystack .both kind slotCount).1 = some slots) :
    slots.getD 0 none = some 0 ∧ slots.getD 1 none = some haystack.size := by
  obtain ⟨found, attempt⟩ := exists_attempt wellFormed (Nat.zero_le haystack.size)
  rw [search_both layout wellFormed cache kind attempt] at reported
  obtain ⟨thread, arrives, rfl⟩ := Option.map_eq_some_iff.mp reported
  obtain ⟨member, here⟩ := attempt.arrival_eq_some_iff.mp arrives
  obtain ⟨state, position⟩ := Prod.mk.inj here
  have stamped := stamped_of_attempt wellFormed enough attempt thread member
  have final : thread.ends automaton haystack .both = true :=
    (layout.ends_both_iff position.le).mpr here
  refine ⟨stamped.start_eq wellFormed final, ?_⟩
  rw [stamped.stop_eq (Thread.accept_of_ends final), position]

variable {regex : Regex} {cache other : Cache}

/-- **The kind of match does not matter for a match of the whole haystack**, with either
strategy. -/
theorem Regex.searchSlots_both (layout : regex.automaton.Layout rule pattern inner finish)
    (wellFormed : regex.automaton.WellFormed) (fits : cache.Fits regex.automaton)
    (fits' : other.Fits regex.automaton) (haystack : Bytes) (kind kind' : MatchKind)
    (strategy strategy' : Strategy) (bound : slotCount ≤ regex.automaton.slotCount) :
    (regex.searchSlots cache haystack ⟨.both, kind, strategy⟩ slotCount).1 =
      (regex.searchSlots other haystack ⟨.both, kind', strategy'⟩ slotCount).1 := by
  obtain ⟨found, attempt⟩ := Backtracking.exists_attempt wellFormed
    (Nat.zero_le haystack.toArray.size)
  rw [searchSlots_backtracking wellFormed fits haystack _ bound,
    searchSlots_backtracking wellFormed fits' haystack _ bound,
    Backtracking.search_both layout wellFormed _ kind attempt,
    Backtracking.search_both layout wellFormed _ kind' attempt]

/-- **A match of the whole haystack spans it.** -/
theorem Regex.overall_both (layout : regex.automaton.Layout rule pattern inner finish)
    (wellFormed : regex.automaton.WellFormed) (fits : cache.Fits regex.automaton) (haystack : Bytes)
    (kind : MatchKind) (strategy : Strategy) :
    ∀ captures ∈ (regex.search cache haystack ⟨.both, kind, strategy⟩).1,
      captures.overall = ⟨0, haystack.length⟩ := by
  intro captures reported
  rw [search_eq, searchSlots_backtracking wellFormed fits haystack _ le_rfl] at reported
  obtain ⟨slots, stored, same⟩ := Option.bind_eq_some_iff.mp reported
  obtain ⟨first, second⟩ :=
    Backtracking.stored_of_search_both layout wellFormed wellFormed.slots_le stored
  obtain ⟨groups, held⟩ := Captures.exists_groups first second
  obtain rfl := Option.some.inj (held.symm.trans same)
  rfl

end Searches

/-! ### Records -/

/-- **The results of the engine that compares searches** for a match of the whole haystack are those
of both kinds of search. -/
theorem Comparison.result_both (regexp : String) (haystack : Bytes) (kind kind' : MatchKind) :
    Comparison.engine.result regexp haystack .both kind =
      Comparison.engine.result regexp haystack .both kind' := by
  have opened : (Comparison.engine.compile regexp).1 = (Comparison.compile regexp).1 := rfl
  rw [Engine.result, Engine.result, opened, Comparison.compile]
  cases compiled : Regex.compile regexp with
  | error failure => rfl
  | ok regex =>
    have wellFormed := Regex.wellFormed_of_compile compiled
    rw [Regex.compile] at compiled
    split at compiled
    · next pattern _ =>
      obtain ⟨inner, finish, layout⟩ := Automaton.exists_layout (Regex.automaton_eq compiled)
      exact congrArg (·.bind Captures.ofSlots?) (Regex.searchSlots_both layout wellFormed
        regex.fits_newCache regex.fits_newCache haystack kind kind' .backtracking .backtracking
        le_rfl)
    · cases compiled

/-- The record that a run asks the engine for holds its results. -/
theorem Comparison.record_eq (regexp : String) (haystack : Bytes) (journal : Journal) :
    (Matcher.record (Comparison.engine.compile regexp).1.toOption haystack journal).1 =
      Comparison.engine.recordOf regexp haystack := by
  cases compiled : (Comparison.engine.compile regexp).1 with
  | ok matcher => exact Engine.record_of_ok compiled
  | error failure => exact Engine.record_of_error compiled

/-- **For a match of the whole haystack the two kinds of search coincide**, with either strategy and
on any caches that fit: they report the same match with the same groups, and it spans the haystack.
So the first and the third result of a record are the same, for every regexp and haystack that the
engine is asked about. -/
theorem search_both_kinds {rule : LoopRule} {text : String} {pattern : Pattern} {regex : Regex}
    (compiled : Regex.ofPattern rule text pattern = .ok regex)
    (indices : ∀ index ∈ pattern.groups, 1 ≤ index) {cache other : Cache}
    (fits : cache.Fits regex.automaton) (fits' : other.Fits regex.automaton) (haystack : Bytes) :
    (∀ strategy strategy', (regex.search cache haystack ⟨.both, .leftmostFirst, strategy⟩).1 =
      (regex.search other haystack ⟨.both, .leftmostLongest, strategy'⟩).1) ∧
    (∀ kind strategy, ∀ captures ∈ (regex.search cache haystack ⟨.both, kind, strategy⟩).1,
      captures.overall = ⟨0, haystack.length⟩) ∧
    ∀ regexp journal,
      let record :=
        (Matcher.record (Comparison.engine.compile regexp).1.toOption haystack journal).1
      record.results[0]? = record.results[2]? := by
  obtain ⟨inner, finish, layout⟩ := Automaton.exists_layout (Regex.automaton_eq compiled)
  have wellFormed := layout.wellFormed indices
  refine ⟨fun strategy strategy' => ?_, Regex.overall_both layout wellFormed fits haystack,
    fun regexp journal => ?_⟩
  · exact congrArg (·.bind Captures.ofSlots?) (Regex.searchSlots_both layout wellFormed fits fits'
      haystack _ _ strategy strategy' le_rfl)
  · rw [Comparison.record_eq]
    exact congrArg some
      (Comparison.result_both regexp haystack .leftmostFirst .leftmostLongest)

/-- A lazy loop over alternatives of which one begins with the other. The preferred thread ends a
match before the end of the haystack, which does not count. -/
theorem search_lazyLoop_both :
    Regex.ofPattern .bodyKnownEmpty "(a|ab)*?b" .lazyLoop = .ok .lazyLoop ∧
      (∀ index ∈ Pattern.lazyLoop.groups, 1 ≤ index) ∧
      Regex.lazyLoop.newCache.Fits Regex.lazyLoop.automaton ∧
      (Regex.lazyLoop.search Regex.lazyLoop.newCache [0x61, 0x62, 0x62]
        ⟨.both, .leftmostFirst, .backtracking⟩).1 = some ⟨⟨0, 3⟩, [some ⟨0, 2⟩]⟩ ∧
      (Regex.lazyLoop.search Regex.lazyLoop.newCache [0x61, 0x62, 0x62]
        ⟨.both, .leftmostLongest, .lockstep⟩).1 = some ⟨⟨0, 3⟩, [some ⟨0, 2⟩]⟩ ∧
      ∀ journal,
        let record := (Matcher.record (Comparison.engine.compile "(a|ab)*?b").1.toOption
          [0x61, 0x62, 0x62] journal).1
        record.results[0]? = record.results[2]? := by
  have compiled := Regex.ofPattern_lazyLoop .bodyKnownEmpty
  have fits := Regex.fits_newCache .lazyLoop
  have first : (Regex.lazyLoop.search Regex.lazyLoop.newCache [0x61, 0x62, 0x62]
      ⟨.both, .leftmostFirst, .backtracking⟩).1 = some ⟨⟨0, 3⟩, [some ⟨0, 2⟩]⟩ := by cbv
  obtain ⟨same, -, records⟩ :=
    search_both_kinds compiled (by decide) fits fits [0x61, 0x62, 0x62]
  exact ⟨compiled, by decide, fits, first, (same .backtracking .lockstep).symm.trans first,
    records "(a|ab)*?b"⟩

end Crosscheck
