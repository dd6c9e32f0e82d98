/-
**Captures are well-formed.**

The thread that a search reports has gone from the start of the automaton to the end of a match. The
automaton is the fragment of its pattern as group 0, so the thread has left every group that it
entered. Each group's slots then hold nothing, or a span inside that of the match.

* `Slots.Holds`: slots that hold a match with its groups;
* `Automaton.Layout.holds_of_ends`: the slots of the threads that end matches;
* `Captures.WellFormed`: captures with all their groups, inside the match;
* `search_wellFormed`: what searches report.
-/
import Crosscheck.Proofs.Automaton.Nesting
import Crosscheck.Proofs.Search.Preference
import Crosscheck.Proofs.Search.Whole

namespace Crosscheck

open Backtracking (Attempt)

/-! ### Slots and captures -/

/-- Slots that hold a match: those of group 0 hold where it starts and ends, and those of any group
hold nothing or a span in between. -/
structure Slots.Holds (slots : Slots) (start stop : Nat) : Prop where
  first : slots.getD 0 none = some start
  last : slots.getD 1 none = some stop
  whole : ∀ index, index * 2 + 1 < slots.size → slots.Whole index start stop

/-- Captures of a number of groups, group 0 included, in a haystack of a length: group 0 is there,
and every group that is there lies inside it, and it inside the haystack. -/
structure Captures.WellFormed (captures : Captures) (count length : Nat) : Prop where
  length_eq : captures.length = count
  overall_mem : captures.get? 0 = some captures.overall
  inside : ∀ index span, captures.get? index = some span →
    captures.overall.start ≤ span.start ∧ span.start ≤ span.stop ∧
      span.stop ≤ captures.overall.stop
  stop_le : captures.overall.stop ≤ length

namespace Slots

variable {slots : Slots} {index low high : Nat}

/-- The slots of a group are both set or both unset. -/
theorem Whole.isSome_eq (whole : slots.Whole index low high) :
    (slots.getD (index * 2) none).isSome = (slots.getD (index * 2 + 1) none).isSome := by
  rcases whole with ⟨first, last⟩ | ⟨start, stop, first, last, -⟩ <;>
    simp [first, last]

/-- A span that the slots of a group hold lies between the positions. -/
theorem Whole.of_span_eq {span : Span} (whole : slots.Whole index low high)
    (held : slots.span index = some span) :
    low ≤ span.start ∧ span.start ≤ span.stop ∧ span.stop ≤ high := by
  rw [Slots.span] at held
  rcases whole with ⟨first, last⟩ | ⟨start, stop, first, last, above, ordered, below⟩
  · rw [first, last] at held
    cases held
  · rw [first, last] at held
    cases held
    exact ⟨above, ordered, below⟩

/-- **Slots that hold a match are well-formed captures.** -/
theorem Holds.exists_captures {start stop count length : Nat} (holds : slots.Holds start stop)
    (size : slots.size = (count + 1) * 2) (inside : stop ≤ length) :
    ∃ captures, Captures.ofSlots? slots = some captures ∧
      captures.WellFormed (count + 1) length := by
  have shows : slots.Shows {index | index < count + 1} slots.span := by
    refine ⟨fun index below => ?_, fun _ _ => rfl⟩
    have below : index < count + 1 := below
    omega
  have overall : slots.span 0 = some ⟨start, stop⟩ := by
    rw [span, holds.first, holds.last]
  refine ⟨_, Captures.ofSlots?_eq size shows overall, ?_, rfl, fun index span present => ?_, inside⟩
  · rw [Captures.length, List.length_map, List.length_range]
  · have held : index < count + 1 ∧ slots.span index = some span := by
      rw [Captures.get?, Option.join_eq_some_iff, Captures.spans] at present
      cases index with
      | zero => exact ⟨Nat.succ_pos count, overall.trans (Option.some.inj present)⟩
      | succ index =>
        rw [List.getElem?_cons_succ, List.getElem?_map, Option.map_eq_some_iff] at present
        obtain ⟨group, there, held⟩ := present
        obtain ⟨below, rfl⟩ := List.getElem?_eq_some_iff.mp there
        rw [List.length_range] at below
        rw [List.getElem_range] at held
        exact ⟨Nat.succ_lt_succ below, held⟩
    exact (holds.whole index (by omega)).of_span_eq held.2

end Slots

/-! ### Threads that end matches -/

section Threads

variable {automaton : Automaton} {rule : LoopRule} {pattern : Pattern} {inner finish : Nat}
  {haystack : Array UInt8} {anchor : Anchor} {slotCount start : Nat} {found : List Thread}

/-- There is a path to every thread that is found. -/
theorem Backtracking.Attempt.exists_goes
    (attempt : Attempt automaton haystack slotCount start found) :
    ∀ thread ∈ found, ∃ count,
      Thread.Goes automaton haystack count (.fresh automaton slotCount start) thread := by
  refine attempt.forall_found _ (fun thread root => ?_) fun thread reached next follows => ?_
  · rw [List.mem_singleton.mp root]
    exact ⟨0, .here _⟩
  · obtain ⟨count, goes⟩ := reached
    exact ⟨count + 1, goes.snoc follows⟩

/-- **A path to where matches end** goes through the whole pattern as group 0. -/
theorem Automaton.Layout.nests_of_goes (layout : automaton.Layout rule pattern inner finish)
    (indices : ∀ index ∈ pattern.groups, 1 ≤ index) (apart : pattern.GroupsApart)
    {count : Nat} {thread : Thread} (accepts : automaton.state thread.state = .accept)
    (goes : Thread.Goes automaton haystack count (.fresh automaton slotCount start) thread) :
    (Thread.fresh automaton slotCount start).Nests Set.univ thread := by
  have starts : automaton.state (Thread.fresh automaton slotCount start).state =
      .capture inner 0 := by
    rw [← layout.starts, ← layout.start_eq]
    rfl
  obtain ⟨rest, -, inside⟩ := goes.of_capture accepts starts
  have others : ∀ index ∈ pattern.groups, index ∈ Set.univ \ {0} := fun index member =>
    ⟨trivial, Nat.one_le_iff_ne_zero.mp (indices index member)⟩
  obtain ⟨leaving, rest', rfl, -, nests, outside⟩ :=
    pattern.shape_nests rule apart others layout.shaped accepts inside
  obtain ⟨rest'', -, there⟩ := outside.of_capture accepts layout.ends
  -- The path has come to an end: no step leads on from there.
  cases there with
  | here => exact .group (Set.mem_univ 0) nests
  | step follows _ =>
    rw [Thread.successors_of_accept layout.accepts] at follows
    cases follows

/-- **The slots of a thread that ends a match** hold the match. -/
theorem Automaton.Layout.holds_of_ends (layout : automaton.Layout rule pattern inner finish)
    (indices : ∀ index ∈ pattern.groups, 1 ≤ index) (apart : pattern.GroupsApart)
    (attempt : Attempt automaton haystack slotCount start found) (enough : 2 ≤ slotCount)
    {thread : Thread} (member : thread ∈ found)
    (final : thread.ends automaton haystack anchor = true) :
    thread.slots.Holds start thread.position ∧ thread.slots.size = slotCount := by
  have wellFormed := layout.wellFormed indices
  have accepts := Thread.accept_of_ends final
  have stamped := stamped_of_attempt wellFormed enough attempt thread member
  obtain ⟨count, goes⟩ := attempt.exists_goes thread member
  have nests := layout.nests_of_goes indices apart accepts goes
  have size : thread.slots.size = slotCount := nests.size_eq.trans Array.size_replicate
  refine ⟨⟨stamped.start_eq wellFormed final, stamped.stop_eq accepts, fun index room => ?_⟩, size⟩
  refine nests.whole index trivial (nests.size_eq ▸ room) start le_rfl (.inl ?_)
  exact ⟨Slots.getD_blank _ _, Slots.getD_blank _ _⟩

end Threads

/-! ### Searches -/

/-- **Captures are always well-formed.** Whatever a search reports, with either strategy, any anchor
and of any kind: there is an entry for every group, group 0 is present, every group that is present
lies inside it and is not back to front, and the match lies inside the haystack. Of the slots that
the search comes to, which are always a match, the two of each group are both set or both unset. -/
theorem search_wellFormed {rule : LoopRule} {text : String} {pattern : Pattern} {regex : Regex}
    (compiled : Regex.ofPattern rule text pattern = .ok regex)
    (indices : ∀ index ∈ pattern.groups, 1 ≤ index) (apart : pattern.GroupsApart) {cache : Cache}
    (fits : cache.Fits regex.automaton) (haystack : Bytes) (settings : Search) :
    (∀ captures ∈ (regex.search cache haystack settings).1,
      captures.WellFormed regex.groupCount haystack.length) ∧
    ∀ slots ∈ (regex.searchSlots cache haystack settings regex.automaton.slotCount).1,
      (regex.search cache haystack settings).1.isSome ∧ slots.size = regex.groupCount * 2 ∧
      ∀ index < regex.groupCount,
        (slots.getD (index * 2) none).isSome = (slots.getD (index * 2 + 1) none).isSome := by
  obtain ⟨inner, finish, layout⟩ := Automaton.exists_layout (Regex.automaton_eq compiled)
  have wellFormed := layout.wellFormed indices
  have enough : 2 ≤ regex.groupCount * 2 := wellFormed.slots_le
  obtain ⟨count, groups⟩ : ∃ count, regex.groupCount = count + 1 :=
    Nat.exists_eq_add_of_le' (by omega)
  have held : ∀ slots, (regex.searchSlots cache haystack settings regex.automaton.slotCount).1 =
      some slots → slots.size = regex.groupCount * 2 ∧
        ∃ start stop, slots.Holds start stop ∧ stop ≤ haystack.length := by
    intro slots reported
    rw [Regex.searchSlots_backtracking wellFormed fits haystack settings le_rfl] at reported
    obtain ⟨start, found, thread, inside, attempt, member, final, rfl⟩ :=
      Backtracking.exists_thread_of_search wellFormed reported
    obtain ⟨holds, size⟩ := layout.holds_of_ends indices apart attempt enough member final
    exact ⟨size, start, thread.position, holds, attempt.position_le inside thread member⟩
  refine ⟨fun captures reported => ?_, fun slots reported => ?_⟩
  · rw [Regex.search_eq] at reported
    obtain ⟨slots, stored, same⟩ := Option.bind_eq_some_iff.mp reported
    obtain ⟨size, start, stop, holds, inside⟩ := held slots stored
    obtain ⟨captures', same', good⟩ := holds.exists_captures (groups ▸ size) inside
    obtain rfl := Option.some.inj (same'.symm.trans same)
    rwa [groups]
  · obtain ⟨size, start, stop, holds, inside⟩ := held slots reported
    obtain ⟨captures, same, -⟩ := holds.exists_captures (groups ▸ size) inside
    refine ⟨?_, size, fun index below => (holds.whole index (by omega)).isSome_eq⟩
    rw [Regex.search_eq, reported, Option.bind_some, same]
    rfl

/-- A lazy loop over a group, which is entered and left once for each iteration. -/
theorem search_lazyLoop_wellFormed :
    Regex.ofPattern .bodyKnownEmpty "(a|ab)*?b" .lazyLoop = .ok .lazyLoop ∧
      (∀ index ∈ Pattern.lazyLoop.groups, 1 ≤ index) ∧ Pattern.lazyLoop.GroupsApart ∧
      Regex.lazyLoop.newCache.Fits Regex.lazyLoop.automaton ∧
      (Regex.lazyLoop.search Regex.lazyLoop.newCache [0x61, 0x61, 0x62]
        ⟨.unanchored, .leftmostFirst, .lockstep⟩).1 = some ⟨⟨0, 3⟩, [some ⟨1, 2⟩]⟩ ∧
      Captures.WellFormed ⟨⟨0, 3⟩, [some ⟨1, 2⟩]⟩ 2 3 := by
  have compiled := Regex.ofPattern_lazyLoop .bodyKnownEmpty
  have fits := Regex.fits_newCache .lazyLoop
  have reported : (Regex.lazyLoop.search Regex.lazyLoop.newCache [0x61, 0x61, 0x62]
      ⟨.unanchored, .leftmostFirst, .lockstep⟩).1 = some ⟨⟨0, 3⟩, [some ⟨1, 2⟩]⟩ := by cbv
  have wellFormed := (search_wellFormed compiled (by decide) Pattern.lazyLoop_groupsApart fits
    [0x61, 0x61, 0x62] ⟨.unanchored, .leftmostFirst, .lockstep⟩).1
  exact ⟨compiled, by decide, Pattern.lazyLoop_groupsApart, fits, reported, wellFormed _ reported⟩

end Crosscheck
