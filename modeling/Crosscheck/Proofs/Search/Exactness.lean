/-
**Searches find exactly what patterns match.**

The threads found from a start have been to all configurations to which there are paths from there,
and to no others. Those that end a match stand behind the fragment of the pattern, so they end where
the pattern matches. The match that is reported starts at the first position where there is one that
the anchor allows, and ends at the position where its thread stored the end of the match.

* `mem_configurations_attempt`: what is found is what there are paths to;
* `Automaton.Layout.leads_iff`: the paths through an automaton are the matches of its pattern;
* `search_backtracking_reported`: the result of a search.
-/
import Crosscheck.Proofs.Automaton.Built
import Crosscheck.Proofs.Automaton.Paths
import Crosscheck.Proofs.Search.Backtracking
import Crosscheck.Proofs.Search.Rounds
import Crosscheck.Regex

namespace Crosscheck

open Backtracking (Attempt lastStart lastStart_le)
open Thread (followers successors)

section Paths

variable {automaton : Automaton} {haystack : Array UInt8} {slotCount start : Nat}
  {found : List Thread} {place : Place}

/-- **The threads found from a start have been where there are paths to**, and nowhere else. -/
theorem mem_configurations_attempt (attempt : Attempt automaton haystack slotCount start found) :
    place ∈ configurations found ↔
      ∃ count, Leads automaton haystack count (automaton.start, start) place := by
  constructor
  · intro member
    obtain ⟨thread, inside, rfl⟩ := mem_configurations.mp member
    refine attempt.forall_found (fun thread =>
      ∃ count, Leads automaton haystack count (automaton.start, start) thread.configuration)
      (fun thread root => ?_) (fun thread leads next follows => ?_) thread inside
    · rw [List.mem_singleton.mp root]
      exact ⟨0, .here _⟩
    · obtain ⟨count, leads⟩ := leads
      have follows := List.mem_map_of_mem (f := Thread.configuration) follows
      rw [Thread.map_configuration_successors] at follows
      exact ⟨_, leads.trans (.step follows (.here _))⟩
  · rintro ⟨count, leads⟩
    have closed := attempt.closed (followers automaton haystack)
      Thread.map_configuration_successors (by simp)
    have root := attempt.configuration_mem _ (List.mem_singleton_self _)
    rw [Set.empty_union] at closed root
    change (automaton.start, start) ∈ configurations found at root
    generalize (automaton.start, start) = first at leads root
    induction leads with
    | here => exact root
    | step follows _ hypothesis => exact hypothesis (closed _ root _ follows)

end Paths

/-! ### Paths through the automaton of a pattern -/

namespace Automaton.Layout

variable {automaton : Automaton} {rule : LoopRule} {pattern : Pattern} {inner finish : Nat}
  {haystack : Array UInt8} {start stop : Nat}

/-- **The paths through an automaton are the matches of its pattern.** -/
theorem leads_iff (layout : automaton.Layout rule pattern inner finish)
    (ordered : pattern.Ordered) :
    (∃ count, Leads automaton haystack count (automaton.start, start) (finish + 1, stop)) ↔
      pattern.Matches haystack start stop := by
  have reads : (pattern.shape rule).Reads automaton haystack _ := pattern.shape_reads rule ordered
  have starts : ∀ {place : Place}, place ∈ followers automaton haystack (0, start) ↔
      place = (inner, start) := by
    rintro ⟨index, position⟩
    rw [mem_followers, layout.starts]
    simp [State.targets, State.reading, Reading.stay, eq_comm]
  have ends : ∀ {position : Nat} {place : Place},
      place ∈ followers automaton haystack (finish, position) ↔ place = (finish + 1, position) := by
    rintro position ⟨index, position'⟩
    rw [mem_followers, layout.ends]
    simp [State.targets, State.reading, Reading.stay, eq_comm]
  rw [layout.start_eq]
  constructor
  · rintro ⟨count, leads⟩
    obtain ⟨place, rest, rfl, follows, leads⟩ :=
      leads.exists_next layout.accepts (by simp [layout.starts])
    obtain rfl := starts.mp follows
    obtain ⟨position, rest, -, read, leads⟩ := reads.sound layout.shaped layout.accepts leads
    obtain ⟨place, rest, rfl, follows, leads⟩ :=
      leads.exists_next layout.accepts (by simp [layout.ends])
    obtain rfl := ends.mp follows
    cases leads with
    | here => exact read
    | step follows _ =>
      rw [mem_followers, layout.accepts] at follows
      cases follows.1
  · intro read
    obtain ⟨count, leads⟩ := reads.complete layout.shaped read
    exact ⟨_, .step (starts.mpr rfl) (leads.trans (.step (ends.mpr rfl) (.here _)))⟩

end Automaton.Layout

/-! ### What is stored where a match ends -/

/-- A thread from a start that stores the start, and the end where a match ends. -/
structure Thread.Stamped (automaton : Automaton) (start : Nat) (thread : Thread) : Prop where
  tracked : thread.Tracked automaton
  origin_eq : thread.origin = start
  wide : 2 ≤ thread.slots.size
  stop_eq : automaton.state thread.state = .accept →
    thread.slots.getD 1 none = some thread.position

theorem Thread.Stamped.step {automaton : Automaton} {haystack : Array UInt8} {start : Nat}
    {thread next : Thread} (wellFormed : automaton.WellFormed)
    (stamped : thread.Stamped automaton start)
    (follows : next ∈ successors automaton haystack thread) :
    next.Stamped automaton start := by
  obtain ⟨tracked, kept⟩ := stamped.tracked.step wellFormed follows
  have wide : 2 ≤ next.slots.size := size_slots_of_successor follows ▸ stamped.wide
  refine ⟨tracked, kept.trans stamped.origin_eq, wide, fun accepts => ?_⟩
  have stores := wellFormed.accept_stores accepts (state_mem_targets follows)
  rw [successors_of_capture stores, List.mem_singleton] at follows
  rw [follows]
  exact getD_setIfInBounds_self stamped.wide _

/-- **All threads found from a start store it**, and store the end where a match ends. -/
theorem stamped_of_attempt {automaton : Automaton} {haystack : Array UInt8} {slotCount start : Nat}
    {found : List Thread} (wellFormed : automaton.WellFormed) (enough : 2 ≤ slotCount)
    (attempt : Attempt automaton haystack slotCount start found) :
    ∀ thread ∈ found, thread.Stamped automaton start := by
  refine attempt.forall_found _ (fun thread root => ?_) fun thread stamped next follows =>
    stamped.step wellFormed follows
  rw [List.mem_singleton.mp root]
  refine ⟨Thread.tracked_fresh (by omega), Thread.origin_fresh, ?_, fun accepts => ?_⟩
  · rwa [Thread.fresh, Array.size_replicate]
  · obtain ⟨target, stores⟩ := wellFormed.start_stores
    cases stores.symm.trans accepts

/-- A thread that ends a match has stored where it started. -/
theorem Thread.Stamped.start_eq {automaton : Automaton} {haystack : Array UInt8} {anchor : Anchor}
    {start : Nat} {thread : Thread} (wellFormed : automaton.WellFormed)
    (stamped : thread.Stamped automaton start)
    (final : thread.ends automaton haystack anchor = true) :
    thread.slots.getD 0 none = some start := by
  have left : thread.state ≠ automaton.start := by
    intro here
    obtain ⟨target, stores⟩ := wellFormed.start_stores
    have accepts := accept_of_ends final
    rw [here, stores] at accepts
    cases accepts
  rw [stamped.tracked.getD_zero left, stamped.origin_eq]

/-- Slots of which the first two are stored are a match. -/
theorem Captures.exists_groups {slots : Slots} {start stop : Nat}
    (first : slots.getD 0 none = some start) (second : slots.getD 1 none = some stop) :
    ∃ groups, Captures.ofSlots? slots = some ⟨⟨start, stop⟩, groups⟩ := by
  obtain ⟨slots⟩ := slots
  match slots with
  | [] => cases first
  | [_] => cases second
  | one :: other :: rest =>
    obtain rfl : one = some start := first
    obtain rfl : other = some stop := second
    exact ⟨pairs rest, rfl⟩

/-! ### Matches that an anchor allows -/

/-- An anchor allows a match from one position to another. -/
def Anchor.Allows (anchor : Anchor) (length start stop : Nat) : Prop :=
  match anchor with
  | .unanchored => True
  | .start => start = 0
  | .both => start = 0 ∧ stop = length

/-- Of the starts that are tried, only the end decides whether a match is allowed. -/
theorem Anchor.allows_iff {anchor : Anchor} {length start stop : Nat}
    (early : start ≤ lastStart anchor length) (within : stop ≤ length) :
    anchor.Allows length start stop ↔ (anchor = .both → length ≤ stop) := by
  cases anchor with
  | unanchored => simp [Allows]
  | start => simpa [Allows] using Nat.le_zero.mp early
  | both =>
    have zero : start = 0 := Nat.le_zero.mp early
    simp only [Allows, zero, true_and, forall_const]
    omega

/-- A match of a pattern that an anchor allows. -/
structure Pattern.Admits (pattern : Pattern) (haystack : Array UInt8) (anchor : Anchor)
    (start stop : Nat) : Prop where
  /-- It starts inside the haystack. -/
  inside : start ≤ haystack.size
  /-- The anchor allows it. -/
  allowed : anchor.Allows haystack.size start stop
  /-- It is a match. -/
  matched : pattern.Matches haystack start stop

section Reported

variable {automaton : Automaton} {rule : LoopRule} {pattern : Pattern} {inner finish : Nat}
  {haystack : Array UInt8} {anchor : Anchor} {kind : MatchKind} {slotCount start stop : Nat}
  {found : List Thread} {chosen : Thread}

/-- **Where the threads found from a start end matches.** -/
theorem exists_ends_iff (layout : automaton.Layout rule pattern inner finish)
    (ordered : pattern.Ordered) (attempt : Attempt automaton haystack slotCount start found)
    (early : start ≤ lastStart anchor haystack.size) :
    (∃ thread ∈ found, thread.ends automaton haystack anchor = true ∧ thread.position = stop) ↔
      pattern.Admits haystack anchor start stop := by
  have inside : start ≤ haystack.size := early.trans lastStart_le
  constructor
  · rintro ⟨thread, member, final, rfl⟩
    have accepts := Thread.accept_of_ends final
    have here := layout.eq_of_accept accepts
    have leads :=
      (mem_configurations_attempt attempt).mp (mem_configurations.mpr ⟨thread, member, rfl⟩)
    rw [Thread.configuration, here] at leads
    have matched := (layout.leads_iff ordered).mp leads
    refine ⟨inside, ?_, matched⟩
    rw [Anchor.allows_iff early (matched.inside pattern inside).2]
    simp only [Thread.ends, decide_eq_true_eq] at final
    exact final.2
  · rintro ⟨-, allowed, matched⟩
    have member := (mem_configurations_attempt attempt).mpr ((layout.leads_iff ordered).mpr matched)
    obtain ⟨thread, member, here⟩ := mem_configurations.mp member
    obtain ⟨state, position⟩ := Prod.mk.inj here
    refine ⟨thread, member, ?_, position⟩
    rw [Anchor.allows_iff early (matched.inside pattern inside).2] at allowed
    simpa only [Thread.ends, decide_eq_true_eq, state, layout.accepts, true_and, position]

/-- Nothing is reported from a start from which there is no match. -/
theorem choose_eq_none_iff (layout : automaton.Layout rule pattern inner finish)
    (ordered : pattern.Ordered) (attempt : Attempt automaton haystack slotCount start found)
    (early : start ≤ lastStart anchor haystack.size) :
    choose automaton haystack anchor kind.better none found = none ↔
      ∀ stop, ¬pattern.Admits haystack anchor start stop := by
  rw [← Option.not_isSome_iff_eq_none, isSome_choose kind.chooses]
  constructor
  · intro nothing stop admits
    obtain ⟨thread, member, final, -⟩ := (exists_ends_iff layout ordered attempt early).mpr admits
    exact nothing (.inr ⟨thread, member, final⟩)
  · rintro never (before | ⟨thread, member, final⟩)
    · cases before
    · exact never _ ((exists_ends_iff layout ordered attempt early).mp ⟨thread, member, final, rfl⟩)

/-- **What is reported from a start** is a match, and there is no longer one if the longest is asked
for. -/
theorem choose_attempt_cases (layout : automaton.Layout rule pattern inner finish)
    (ordered : pattern.Ordered) (attempt : Attempt automaton haystack slotCount start found)
    (early : start ≤ lastStart anchor haystack.size)
    (reported : choose automaton haystack anchor kind.better none found = some chosen) :
    pattern.Admits haystack anchor start chosen.position ∧
      (kind = .leftmostLongest → ∀ stop, pattern.Admits haystack anchor start stop →
        stop ≤ chosen.position) := by
  obtain ⟨member, final⟩ := (choose_cases kind.chooses reported).resolve_left (by simp)
  refine ⟨(exists_ends_iff layout ordered attempt early).mp ⟨chosen, member, final, rfl⟩, ?_⟩
  rintro rfl stop admits
  obtain ⟨thread, member, final, rfl⟩ := (exists_ends_iff layout ordered attempt early).mpr admits
  exact (le_of_choose_longest reported).2 thread member final

end Reported

/-! ### Whole searches -/

/-- The first number with a value is the one whose value is found. -/
theorem findSome?_range {α : Type} {count : Nat} {values : Nat → Option α} {value : α}
    (first : (List.range count).findSome? values = some value) :
    ∃ index < count, values index = some value ∧ ∀ other < index, values other = none := by
  induction count with
  | zero => cases first
  | succ count hypothesis =>
    rw [List.range_succ, List.findSome?_append, Option.or_eq_some_iff] at first
    rcases first with early | ⟨none, late⟩
    · obtain ⟨index, below, found⟩ := hypothesis early
      exact ⟨index, Nat.lt_succ_of_lt below, found⟩
    · rw [List.findSome?_singleton] at late
      refine ⟨count, Nat.lt_succ_self _, late, fun other below => ?_⟩
      exact List.findSome?_eq_none_iff.mp none other (List.mem_range.mpr below)

/-- An anchor allows only the starts that are tried. -/
theorem Pattern.Admits.start_le {pattern : Pattern} {haystack : Array UInt8} {anchor : Anchor}
    {start stop : Nat} (admits : pattern.Admits haystack anchor start stop) :
    start ≤ lastStart anchor haystack.size := by
  have allowed := admits.allowed
  cases anchor with
  | unanchored => exact admits.inside
  | start => exact Nat.le_of_eq allowed
  | both => exact Nat.le_of_eq allowed.1

/-- An anchor that allows a match allows every longer one. -/
theorem Pattern.Admits.longer {pattern : Pattern} {haystack : Array UInt8} {anchor : Anchor}
    {start stop stop' : Nat} (admits : pattern.Admits haystack anchor start stop)
    (matched : pattern.Matches haystack start stop') (more : stop ≤ stop') :
    pattern.Admits haystack anchor start stop' := by
  refine ⟨admits.inside, ?_, matched⟩
  have allowed := admits.allowed
  cases anchor with
  | unanchored => trivial
  | start => exact allowed
  | both =>
    have inside := matched.inside pattern admits.inside
    exact ⟨allowed.1, Nat.le_antisymm inside.2 (allowed.2 ▸ more)⟩

/-- What a search has to report: a match, if there is one that the anchor allows, which starts first
among these; and the longest from there, if that is asked for. -/
structure Pattern.Reported (pattern : Pattern) (haystack : Array UInt8) (anchor : Anchor)
    (kind : MatchKind) (result : Option Captures) : Prop where
  /-- There is a result when there is a match. -/
  isSome_iff : result.isSome ↔ ∃ start stop, pattern.Admits haystack anchor start stop
  /-- The result is a match. -/
  admits : ∀ captures ∈ result,
    pattern.Admits haystack anchor captures.overall.start captures.overall.stop
  /-- No match starts before it. -/
  least : ∀ captures ∈ result, ∀ start stop, pattern.Admits haystack anchor start stop →
    captures.overall.start ≤ start
  /-- No match from its start is longer, when the longest is asked for. -/
  greatest : kind = .leftmostLongest → ∀ captures ∈ result, ∀ stop,
    pattern.Matches haystack captures.overall.start stop → stop ≤ captures.overall.stop

/-- **The slots that a search by backtracking reports** hold a match from the first start that has
one. -/
theorem search_slots_cases {automaton : Automaton} {rule : LoopRule} {pattern : Pattern}
    {inner finish slotCount : Nat} (layout : automaton.Layout rule pattern inner finish)
    (indices : ∀ index ∈ pattern.groups, 1 ≤ index) (ordered : pattern.Ordered)
    (cache : Backtracking.Cache) (haystack : Array UInt8) (anchor : Anchor) (kind : MatchKind)
    (enough : 2 ≤ slotCount) :
    match (Backtracking.search automaton cache haystack anchor kind slotCount).1 with
    | none => ∀ start stop, ¬pattern.Admits haystack anchor start stop
    | some slots => ∃ start stop, slots.getD 0 none = some start ∧ slots.getD 1 none = some stop ∧
        pattern.Admits haystack anchor start stop ∧
        (∀ start' < start, ∀ stop, ¬pattern.Admits haystack anchor start' stop) ∧
        (kind = .leftmostLongest → ∀ stop', pattern.Admits haystack anchor start stop' →
          stop' ≤ stop) := by
  have wellFormed := layout.wellFormed indices
  obtain ⟨found, attempt⟩ := Backtracking.exists_attempts wellFormed haystack slotCount
  have nothing : ∀ start ≤ lastStart anchor haystack.size,
      (choose automaton haystack anchor kind.better none (found start)).map Thread.slots = none →
      ∀ stop, ¬pattern.Admits haystack anchor start stop := fun start early none =>
    (choose_eq_none_iff layout ordered (attempt start (early.trans lastStart_le)) early).mp
      (Option.map_eq_none_iff.mp none)
  rw [Backtracking.search_eq wellFormed cache found attempt]
  split
  · next none =>
    intro start stop admits
    have early := admits.start_le
    exact nothing start early (List.findSome?_eq_none_iff.mp none start
      (List.mem_range.mpr (Nat.lt_succ_of_le early))) stop admits
  · next slots first =>
    obtain ⟨start, early, found, before⟩ := findSome?_range first
    obtain ⟨chosen, reported, rfl⟩ := Option.map_eq_some_iff.mp found
    have early := Nat.le_of_lt_succ early
    have attempted := attempt start (early.trans lastStart_le)
    obtain ⟨admits, longest⟩ := choose_attempt_cases layout ordered attempted early reported
    obtain ⟨member, final⟩ := (choose_cases kind.chooses reported).resolve_left (by simp)
    have stamped := stamped_of_attempt wellFormed enough attempted chosen member
    have accepts := Thread.accept_of_ends final
    refine ⟨start, chosen.position, stamped.start_eq wellFormed final, stamped.stop_eq accepts,
      admits, fun start' less => ?_, longest⟩
    exact nothing start' (less.le.trans early) (before start' less)

/-- **A search by backtracking reports what it has to.** -/
theorem Regex.reported_of_layout {regex : Regex} {rule : LoopRule} {pattern : Pattern}
    {inner finish : Nat} (layout : regex.automaton.Layout rule pattern inner finish)
    (indices : ∀ index ∈ pattern.groups, 1 ≤ index) (ordered : pattern.Ordered) (cache : Cache)
    (haystack : Bytes) (anchor : Anchor) (kind : MatchKind) :
    pattern.Reported haystack.toArray anchor kind
      (regex.search cache haystack ⟨anchor, kind, .backtracking⟩).1 := by
  have cases := search_slots_cases layout indices ordered cache.backtracking haystack.toArray anchor
    kind (layout.wellFormed indices).slots_le
  have result : (regex.search cache haystack ⟨anchor, kind, .backtracking⟩).1 =
      (Backtracking.search regex.automaton cache.backtracking haystack.toArray anchor kind
        regex.automaton.slotCount).1.bind Captures.ofSlots? := rfl
  rw [result]
  split at cases
  · next none =>
    rw [none, Option.bind_none]
    exact ⟨by simpa using cases, by simp, by simp, by simp⟩
  · next slots found =>
    obtain ⟨start, stop, first, second, admits, least, longest⟩ := cases
    obtain ⟨groups, same⟩ := Captures.exists_groups first second
    rw [found, Option.bind_some, same]
    refine ⟨by simpa using ⟨start, stop, admits⟩, ?_, ?_, fun asked => ?_⟩
    · rintro captures ⟨⟩
      exact admits
    · rintro captures ⟨⟩ start' stop' admits'
      exact Nat.le_of_not_lt fun less => least start' less stop' admits'
    · rintro captures ⟨⟩ stop' matched
      rcases Nat.le_total stop' stop with less | more
      · exact less
      · exact longest asked stop' (admits.longer matched more)

/-- A compiled regexp has the automaton of its pattern. -/
theorem Regex.automaton_eq {rule : LoopRule} {text : String} {pattern : Pattern} {regex : Regex}
    (compiled : Regex.ofPattern rule text pattern = .ok regex) :
    Automaton.ofPattern rule pattern = .ok regex.automaton := by
  rw [Regex.ofPattern] at compiled
  split at compiled
  · next automaton built =>
    cases compiled
    exact built
  · cases compiled

/-- **The engine finds exactly the matches of a pattern**, loops over bodies that match nothing
included: a search by backtracking reports what it has to, with any anchor and of any kind, and the
first match starts where the longest does and ends no later. -/
theorem search_backtracking_reported {rule : LoopRule} {text : String} {pattern : Pattern}
    {regex : Regex} (compiled : Regex.ofPattern rule text pattern = .ok regex)
    (indices : ∀ index ∈ pattern.groups, 1 ≤ index) (ordered : pattern.Ordered) (cache : Cache)
    (haystack : Bytes) (anchor : Anchor) :
    (∀ kind, pattern.Reported haystack.toArray anchor kind
      (regex.search cache haystack ⟨anchor, kind, .backtracking⟩).1) ∧
    ∀ first ∈ (regex.search cache haystack ⟨anchor, .leftmostFirst, .backtracking⟩).1,
      ∀ longest ∈ (regex.search cache haystack ⟨anchor, .leftmostLongest, .backtracking⟩).1,
        first.overall.start = longest.overall.start ∧
          first.overall.stop ≤ longest.overall.stop := by
  obtain ⟨inner, finish, layout⟩ := Automaton.exists_layout (Regex.automaton_eq compiled)
  have reported := Regex.reported_of_layout layout indices ordered cache
    haystack anchor
  refine ⟨reported, fun first isFirst longest isLongest => ?_⟩
  have admitsFirst := (reported .leftmostFirst).admits first isFirst
  have admitsLongest := (reported .leftmostLongest).admits longest isLongest
  have same : first.overall.start = longest.overall.start := by
    apply Nat.le_antisymm
    · exact (reported .leftmostFirst).least first isFirst _ _ admitsLongest
    · exact (reported .leftmostLongest).least longest isLongest _ _ admitsFirst
  refine ⟨same, (reported .leftmostLongest).greatest rfl longest isLongest _ ?_⟩
  rw [← same]
  exact admitsFirst.matched

/-- The regexp `(a|ab)*?b`. -/
def Regex.lazyLoop : Regex := ⟨"(a|ab)*?b", .lazyLoop⟩

theorem Regex.ofPattern_lazyLoop (rule : LoopRule) :
    Regex.ofPattern rule "(a|ab)*?b" .lazyLoop = .ok lazyLoop := by
  rw [Regex.ofPattern, Automaton.ofPattern_lazyLoop]
  rfl

theorem Pattern.lazyLoop_ordered : Pattern.lazyLoop.Ordered := by
  simp [Ordered, Everywhere, lazyLoop, subtrees, subtreesIn, BoundsInOrder]

/-- What is reported of a lazy loop over alternatives of which one begins with the other. -/
theorem search_lazyLoop_reported :
    Regex.ofPattern .bodyKnownEmpty "(a|ab)*?b" .lazyLoop = .ok .lazyLoop ∧
      (∀ index ∈ Pattern.lazyLoop.groups, 1 ≤ index) ∧ Pattern.lazyLoop.Ordered ∧
      Pattern.lazyLoop.Reported #[0x61, 0x62, 0x62] .unanchored .leftmostLongest
        (Regex.lazyLoop.search Regex.lazyLoop.newCache [0x61, 0x62, 0x62]
          ⟨.unanchored, .leftmostLongest, .backtracking⟩).1 :=
  ⟨Regex.ofPattern_lazyLoop _, by decide, Pattern.lazyLoop_ordered,
    (search_backtracking_reported (Regex.ofPattern_lazyLoop .bodyKnownEmpty) (by decide)
      Pattern.lazyLoop_ordered Regex.lazyLoop.newCache [0x61, 0x62, 0x62] .unanchored).1
        .leftmostLongest⟩

end Crosscheck
