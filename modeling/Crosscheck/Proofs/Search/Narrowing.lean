/-
**Asking for fewer slots does not change the answer.**

Whether a search has a match, and which one, does not depend on how many of its slots are asked for:
the threads of a search for fewer slots are those of a search for all of them, shortened. Nothing
decides between threads but where they are and where they started, and a search in lockstep for the
longest match tracks that even if no slot is asked for.

* `Backtracking.search_extract`, `Backtracking.stored_of_search`: the slots of one search and of
  another, and what the first two of them hold;
* `Regex.searchSlots_backtracking`: either strategy reports what backtracking does;
* `searchSlots_narrowed`: fewer slots, whether there is a match, its span and its groups.
-/
import Crosscheck.Proofs.Search.Reuse

namespace Crosscheck

/-- The first of several slots are those of before. -/
theorem Slots.getD_extract (slots : Slots) {count slot : Nat} (inside : slot < count) :
    (slots.extract 0 count).getD slot none = slots.getD slot none := by
  rw [Array.getD_eq_getD_getElem?, Array.getD_eq_getD_getElem?, Array.getElem?_extract,
    Nat.zero_add, Nat.sub_zero]
  by_cases present : slot < slots.size
  · rw [if_pos (Nat.lt_min.mpr ⟨inside, present⟩)]
  · rw [if_neg fun both => present (Nat.lt_min.mp both).2,
      Array.getElem?_eq_none (Nat.le_of_not_lt present)]

/-! ### One search by backtracking and another -/

namespace Backtracking

variable {automaton : Automaton} {haystack : Array UInt8} {anchor : Anchor} {kind : MatchKind}

/-- **A search for fewer slots reports the first slots of the match**, on whatever cache. -/
theorem search_extract (wellFormed : automaton.WellFormed) (narrow wide : Cache)
    (haystack : Array UInt8) (anchor : Anchor) (kind : MatchKind) {count slotCount : Nat}
    (fewer : count ≤ slotCount) :
    (search automaton narrow haystack anchor kind count).1 =
      (search automaton wide haystack anchor kind slotCount).1.map (·.extract 0 count) := by
  obtain ⟨found, attempts⟩ := exists_attempts wellFormed haystack slotCount
  have shortened : ∀ start ≤ haystack.size, Attempt automaton haystack count start
      ((found start).map (Thread.shortened count)) :=
    fun start inside => (attempts start inside).shortened fewer
  rw [search_eq wellFormed narrow _ shortened, search_eq wellFormed wide found attempts,
    List.map_findSome?]
  refine congrArg (List.findSome? · _) (funext fun start => ?_)
  have same := Thread.choose_map_shortened automaton haystack anchor kind count none (found start)
  rw [Option.map_none] at same
  rw [Function.comp_apply, same, Option.map_map, Option.map_map]
  rfl

/-- **What a search reports** are the slots of a thread that was found from a start and ends a match
there. -/
theorem exists_thread_of_search (wellFormed : automaton.WellFormed) {cache : Cache}
    {slotCount : Nat} {slots : Slots}
    (reported : (search automaton cache haystack anchor kind slotCount).1 = some slots) :
    ∃ start found thread, start ≤ haystack.size ∧
      Attempt automaton haystack slotCount start found ∧ thread ∈ found ∧
      thread.ends automaton haystack anchor = true ∧ thread.slots = slots := by
  obtain ⟨found, attempts⟩ := exists_attempts wellFormed haystack slotCount
  rw [search_eq wellFormed cache found attempts] at reported
  obtain ⟨start, early, first, -⟩ := findSome?_range reported
  obtain ⟨thread, chosen, same⟩ := Option.map_eq_some_iff.mp first
  obtain ⟨member, final⟩ := (choose_cases kind.chooses chosen).resolve_left (by simp)
  have inside : start ≤ haystack.size := (Nat.le_of_lt_succ early).trans lastStart_le
  exact ⟨start, found start, thread, inside, attempts start inside, member, final, same⟩

/-- **The first two slots of a match are stored**, if they are asked for. -/
theorem stored_of_search (wellFormed : automaton.WellFormed) {cache : Cache} {slotCount : Nat}
    (enough : 2 ≤ slotCount) {slots : Slots}
    (reported : (search automaton cache haystack anchor kind slotCount).1 = some slots) :
    ∃ start stop, slots.getD 0 none = some start ∧ slots.getD 1 none = some stop := by
  obtain ⟨start, found, thread, -, attempt, member, final, rfl⟩ :=
    exists_thread_of_search wellFormed reported
  have stamped := stamped_of_attempt wellFormed enough attempt thread member
  exact ⟨_, _, stamped.start_eq wellFormed final, stamped.stop_eq (Thread.accept_of_ends final)⟩

end Backtracking

/-! ### Any two searches -/

namespace Regex

variable {regex : Regex} {cache : Cache} {slotCount : Nat}

/-- **Either strategy reports what backtracking does**, on a cache that fits. -/
theorem searchSlots_backtracking (wellFormed : regex.automaton.WellFormed)
    (fits : cache.Fits regex.automaton) (haystack : Bytes) (settings : Search)
    (bound : slotCount ≤ regex.automaton.slotCount) :
    (regex.searchSlots cache haystack settings slotCount).1 =
      (Backtracking.search regex.automaton .empty haystack.toArray settings.anchor settings.kind
        slotCount).1 := by
  obtain ⟨anchor, kind, strategy⟩ := settings
  cases strategy with
  | lockstep => exact lockstep_eq_backtracking wellFormed fits _ _ _ _ bound
  | backtracking => exact Backtracking.search_congr wellFormed _ _ _ _ _ _

/-- A search for fewer slots reports the first slots that a search for more of them does. -/
theorem searchSlots_extract (wellFormed : regex.automaton.WellFormed) {narrow wide : Cache}
    (fits : narrow.Fits regex.automaton) (fits' : wide.Fits regex.automaton) (haystack : Bytes)
    (settings : Search) {count : Nat} (fewer : count ≤ slotCount)
    (bound : slotCount ≤ regex.automaton.slotCount) :
    (regex.searchSlots narrow haystack settings count).1 =
      (regex.searchSlots wide haystack settings slotCount).1.map (·.extract 0 count) := by
  rw [searchSlots_backtracking wellFormed fits haystack settings (fewer.trans bound),
    searchSlots_backtracking wellFormed fits' haystack settings bound]
  exact Backtracking.search_extract wellFormed _ _ _ _ _ fewer

/-- **The slots of a match are a match with groups**, if those of its span are among them. -/
theorem exists_captures (wellFormed : regex.automaton.WellFormed)
    (fits : cache.Fits regex.automaton) {haystack : Bytes} {settings : Search}
    (enough : 2 ≤ slotCount) (bound : slotCount ≤ regex.automaton.slotCount) {slots : Slots}
    (reported : (regex.searchSlots cache haystack settings slotCount).1 = some slots) :
    ∃ start stop groups, slots.getD 0 none = some start ∧ slots.getD 1 none = some stop ∧
      Captures.ofSlots? slots = some ⟨⟨start, stop⟩, groups⟩ := by
  rw [searchSlots_backtracking wellFormed fits haystack settings bound] at reported
  obtain ⟨start, stop, first, second⟩ := Backtracking.stored_of_search wellFormed enough reported
  obtain ⟨groups, same⟩ := Captures.exists_groups first second
  exact ⟨start, stop, groups, first, second, same⟩

/-! ### What is asked for -/

theorem search_eq (regex : Regex) (cache : Cache) (haystack : Bytes) (settings : Search) :
    (regex.search cache haystack settings).1 =
      (regex.searchSlots cache haystack settings regex.automaton.slotCount).1.bind
        Captures.ofSlots? := rfl

/-- **Searches report the same when backtracking does**, with either strategy and on any caches that
fit. -/
theorem search_congr {one other : Regex} (wellFormed : one.automaton.WellFormed)
    (wellFormed' : other.automaton.WellFormed) {cache cache' : Cache}
    (fits : cache.Fits one.automaton) (fits' : cache'.Fits other.automaton) {haystack : Bytes}
    {settings settings' : Search}
    (same : (Backtracking.search one.automaton .empty haystack.toArray settings.anchor settings.kind
        one.automaton.slotCount).1 =
      (Backtracking.search other.automaton .empty haystack.toArray settings'.anchor settings'.kind
        other.automaton.slotCount).1) :
    (one.search cache haystack settings).1 = (other.search cache' haystack settings').1 := by
  rw [search_eq, search_eq, searchSlots_backtracking wellFormed fits haystack settings le_rfl,
    searchSlots_backtracking wellFormed' fits' haystack settings' le_rfl, same]

theorem find_eq (regex : Regex) (cache : Cache) (haystack : Bytes) (settings : Search) :
    (regex.find cache haystack settings).1 =
      ((regex.searchSlots cache haystack settings 2).1.bind Captures.ofSlots?).map
        (·.overall) := rfl

theorem isMatch_eq (regex : Regex) (cache : Cache) (haystack : Bytes) (settings : Search) :
    (regex.isMatch cache haystack settings).1 =
      (regex.searchSlots cache haystack settings 0).1.isSome := rfl

/-- **There is a match with groups whenever there is a match.** -/
theorem isMatch_eq_isSome (wellFormed : regex.automaton.WellFormed) {narrow wide : Cache}
    (fits : narrow.Fits regex.automaton) (fits' : wide.Fits regex.automaton) (haystack : Bytes)
    (settings : Search) :
    (regex.isMatch narrow haystack settings).1 =
      (regex.search wide haystack settings).1.isSome := by
  have bound := Nat.le_refl regex.automaton.slotCount
  rw [isMatch_eq, search_eq,
    searchSlots_extract wellFormed fits fits' haystack settings (Nat.zero_le _) bound,
    Option.isSome_map]
  cases reported : (regex.searchSlots wide haystack settings regex.automaton.slotCount).1 with
  | none => rfl
  | some slots =>
    obtain ⟨_, _, _, -, -, captures⟩ :=
      exists_captures wellFormed fits' wellFormed.slots_le bound reported
    rw [Option.bind_some, captures]
    rfl

/-- **The span of a match is that of its group 0.** -/
theorem find_eq_overall (wellFormed : regex.automaton.WellFormed) {narrow wide : Cache}
    (fits : narrow.Fits regex.automaton) (fits' : wide.Fits regex.automaton) (haystack : Bytes)
    (settings : Search) :
    (regex.find narrow haystack settings).1 =
      (regex.search wide haystack settings).1.map (·.overall) := by
  have bound := Nat.le_refl regex.automaton.slotCount
  have extract := searchSlots_extract wellFormed fits fits' haystack settings
    wellFormed.slots_le bound
  rw [find_eq, search_eq]
  cases reported : (regex.searchSlots wide haystack settings regex.automaton.slotCount).1 with
  | none => rw [extract, reported]; rfl
  | some slots =>
    obtain ⟨start, stop, groups, first, second, captures⟩ :=
      exists_captures wellFormed fits' wellFormed.slots_le bound reported
    obtain ⟨groups', captures'⟩ := Captures.exists_groups
      ((Slots.getD_extract slots Nat.two_pos).trans first)
      ((Slots.getD_extract slots Nat.one_lt_two).trans second)
    rw [extract, reported, Option.map_some, Option.bind_some, Option.bind_some, captures, captures']
    rfl

end Regex

/-- **Asking for fewer slots never changes the answer**: with either strategy and on any caches that
fit, a search for some of the slots reports the first slots of the match that a search for all of
them does. So there is a match with groups whenever there is a match at all, its overall span is the
one that is found, and slots that hold a span are never taken for no match. -/
theorem searchSlots_narrowed {rule : LoopRule} {text : String} {pattern : Pattern} {regex : Regex}
    (compiled : Regex.ofPattern rule text pattern = .ok regex)
    (indices : ∀ index ∈ pattern.groups, 1 ≤ index) {narrow wide : Cache}
    (fits : narrow.Fits regex.automaton) (fits' : wide.Fits regex.automaton) (haystack : Bytes)
    (settings : Search) :
    (∀ count ≤ regex.automaton.slotCount,
      (regex.searchSlots narrow haystack settings count).1 =
        (regex.searchSlots wide haystack settings regex.automaton.slotCount).1.map
          (·.extract 0 count)) ∧
    (regex.isMatch narrow haystack settings).1 =
      (regex.search wide haystack settings).1.isSome ∧
    (regex.find narrow haystack settings).1 =
      (regex.search wide haystack settings).1.map (·.overall) ∧
    ∀ count, 2 ≤ count → count ≤ regex.automaton.slotCount →
      ∀ slots ∈ (regex.searchSlots narrow haystack settings count).1,
        (Captures.ofSlots? slots).isSome := by
  obtain ⟨inner, finish, layout⟩ := Automaton.exists_layout (Regex.automaton_eq compiled)
  have wellFormed := layout.wellFormed indices
  refine ⟨fun count bound => ?_, Regex.isMatch_eq_isSome wellFormed fits fits' haystack settings,
    Regex.find_eq_overall wellFormed fits fits' haystack settings,
    fun count enough bound slots reported => ?_⟩
  · exact Regex.searchSlots_extract wellFormed fits fits' haystack settings bound (Nat.le_refl _)
  · obtain ⟨_, _, _, -, -, captures⟩ :=
      Regex.exists_captures wellFormed fits enough bound reported
    rw [captures]
    rfl

/-- A search in lockstep for no slots, and one for the span, of the longest match of a lazy loop. -/
theorem searchSlots_lazyLoop :
    Regex.ofPattern .bodyKnownEmpty "(a|ab)*?b" .lazyLoop = .ok .lazyLoop ∧
      (∀ index ∈ Pattern.lazyLoop.groups, 1 ≤ index) ∧
      Regex.lazyLoop.newCache.Fits Regex.lazyLoop.automaton ∧
      (Regex.lazyLoop.isMatch Regex.lazyLoop.newCache [0x61, 0x62, 0x62]
          ⟨.unanchored, .leftmostLongest, .lockstep⟩).1 = true ∧
      (Regex.lazyLoop.find Regex.lazyLoop.newCache [0x61, 0x62, 0x62]
          ⟨.unanchored, .leftmostLongest, .lockstep⟩).1 = some ⟨0, 3⟩ := by
  have compiled := Regex.ofPattern_lazyLoop .bodyKnownEmpty
  have fits := Regex.fits_newCache .lazyLoop
  have full : (Regex.lazyLoop.search Regex.lazyLoop.newCache [0x61, 0x62, 0x62]
      ⟨.unanchored, .leftmostLongest, .lockstep⟩).1 = some ⟨⟨0, 3⟩, [some ⟨0, 2⟩]⟩ := by cbv
  obtain ⟨-, isMatch, find, -⟩ := searchSlots_narrowed compiled (by decide) fits fits
    [0x61, 0x62, 0x62] ⟨.unanchored, .leftmostLongest, .lockstep⟩
  rw [full] at isMatch find
  exact ⟨compiled, by decide, fits, isMatch, find⟩

end Crosscheck
