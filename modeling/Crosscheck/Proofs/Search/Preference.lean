/-
**Searches report what a pattern prefers.**

From one start the matches that a search finds are those of a walk through the automaton, and so the
outcomes of the pattern in order of preference. The search reports the first of them, or the first
of those that end last, from the first start that has one at all. The slots that are reported hold
the spans that the outcome has recorded.

* `MatchKind.pick`: the preferred one of several outcomes;
* `Pattern.preferred`: the match that a pattern prefers;
* `search_backtracking_eq_preferred`: searches report this match.
-/
import Crosscheck.Proofs.Automaton.Unfolding
import Crosscheck.Proofs.Pattern.Recording
import Crosscheck.Proofs.Search.Exactness
import Mathlib.Data.List.MinMax

namespace Crosscheck

open Backtracking (Attempt lastStart lastStart_le)
open Thread (arrived successors)

/-! ### The preferred one of several -/

/-- The preferred one of a list: the first, or the first of those that end last. -/
def MatchKind.pick {α : Type} (kind : MatchKind) (stop : α → Nat) (list : List α) : Option α :=
  match kind with
  | .leftmostFirst => list.head?
  | .leftmostLongest => list.argmax stop

section Pick

variable {automaton : Automaton} {haystack : Array UInt8} {anchor : Anchor} {kind : MatchKind}
  {found : List Thread}

/-- What is chosen is the preferred one of the threads that end a match. -/
theorem choose_eq_pick : choose automaton haystack anchor kind.better none found =
    kind.pick Thread.position (found.filter (Thread.ends automaton haystack anchor)) := by
  cases kind with
  | leftmostFirst => rw [choose_first, Option.none_or, MatchKind.pick, List.head?_filter]
  | leftmostLongest =>
    have same : MatchKind.leftmostLongest.better =
        List.argAux fun one other => other.position < one.position := by
      funext best thread
      cases best with
      | none => rfl
      | some best => simp [MatchKind.better, List.argAux]
    rw [choose, same]
    rfl

theorem MatchKind.pick_map {α β : Type} (kind : MatchKind) (stop : β → Nat) (view : α → β)
    (list : List α) :
    kind.pick stop (list.map view) = (kind.pick (stop ∘ view) list).map view := by
  cases kind with
  | leftmostFirst => exact List.head?_map
  | leftmostLongest =>
    show (list.map view).argmax stop = (list.argmax (stop ∘ view)).map view
    induction list using List.reverseRecOn with
    | nil => rfl
    | append_singleton list last hypothesis =>
      rw [List.map_append, List.map_singleton, List.argmax_concat, List.argmax_concat, hypothesis]
      cases list.argmax (stop ∘ view) with
      | none => rfl
      | some best =>
        by_cases farther : stop (view best) < stop (view last) <;> simp [farther]

/-- Views that keep where outcomes end can be taken before or after the choice. -/
theorem MatchKind.pick_filter_map {α β : Type} (kind : MatchKind) (keep : Nat → Bool)
    {view : Nat × α → Nat × β} (same : ∀ outcome, (view outcome).1 = outcome.1)
    (list : List (Nat × α)) :
    kind.pick Prod.fst ((list.map view).filter fun outcome => keep outcome.1) =
      (kind.pick Prod.fst (list.filter fun outcome => keep outcome.1)).map view := by
  have ends : Prod.fst ∘ view = Prod.fst := funext same
  have keeps :
      (fun outcome : Nat × β => keep outcome.1) ∘ view = fun outcome => keep outcome.1 := by
    funext outcome
    exact congrArg keep (same outcome)
  rw [List.filter_map, keeps, MatchKind.pick_map, ends]

end Pick

/-! ### What is preferred -/

instance (anchor : Anchor) (length start stop : Nat) :
    Decidable (anchor.Allows length start stop) :=
  match anchor with
  | .unanchored => .isTrue trivial
  | .start => inferInstanceAs (Decidable (start = 0))
  | .both => inferInstanceAs (Decidable (start = 0 ∧ stop = length))

/-- The outcomes of a pattern from a position that an anchor allows. -/
def Pattern.allowed (pattern : Pattern) (haystack : Array UInt8) (anchor : Anchor) (start : Nat) :
    List (Nat × Spans) :=
  (pattern.outcomes haystack Recorder.spans start fun _ => none).filter fun outcome =>
    anchor.Allows haystack.size start outcome.1

/-- An anchor allows nothing from starts that are not tried. -/
theorem Pattern.allowed_eq_nil (pattern : Pattern) {haystack : Array UInt8} {anchor : Anchor}
    {start : Nat} (inside : start ≤ haystack.size) (late : lastStart anchor haystack.size < start) :
    pattern.allowed haystack anchor start = [] := by
  refine List.filter_eq_nil_iff.mpr fun outcome _ allows => ?_
  have allows := of_decide_eq_true allows
  cases anchor with
  | unanchored => exact absurd inside (Nat.not_le.mpr late)
  | start => exact absurd allows (Nat.ne_of_gt late)
  | both => exact absurd allows.1 (Nat.ne_of_gt late)

/-- The match that an outcome from a position is, with a number of groups. -/
def Captures.ofOutcome (count start : Nat) (outcome : Nat × Spans) : Captures :=
  ⟨⟨start, outcome.1⟩, (List.range count).map fun index => outcome.2 (index + 1)⟩

/-- **The match that a pattern prefers**: the preferred outcome from the first position from which
the anchor allows one. -/
def Pattern.preferred (pattern : Pattern) (haystack : Array UInt8) (anchor : Anchor)
    (kind : MatchKind) : Option Captures :=
  (List.range (haystack.size + 1)).findSome? fun start =>
    (kind.pick Prod.fst (pattern.allowed haystack anchor start)).map
      (Captures.ofOutcome (max pattern.groupCount pattern.maxGroup) start)

/-! ### Slots that hold captures -/

/-- Slots, taken in pairs, are the spans that they hold. -/
theorem Captures.pairs_eq (slots : List (Option Nat)) (count : Nat)
    (size : slots.length = count * 2) :
    pairs slots = (List.range count).map (Slots.span slots.toArray) := by
  induction count generalizing slots with
  | zero =>
    obtain rfl := List.eq_nil_of_length_eq_zero size
    rfl
  | succ count hypothesis =>
    obtain _ | ⟨one, _ | ⟨other, rest⟩⟩ := slots
    · cases size
    · simp at size
      omega
    · have tail : (List.range count).map (Slots.span rest.toArray) =
          (List.range count).map (Slots.span (one :: other :: rest).toArray ∘ Nat.succ) := by
        refine List.map_congr_left fun index _ => ?_
        simp [Slots.span, Nat.succ_mul, Array.getD_eq_getD_getElem?]
      rw [List.range_succ_eq_map, List.map_cons, List.map_map, ← tail,
        ← hypothesis rest (by simp at size; omega)]
      cases one <;> cases other <;> rfl

/-- Slots that hold the spans of an outcome are its captures. -/
theorem Captures.ofSlots?_eq {slots : Slots} {spans : Spans} {count start stop : Nat}
    (size : slots.size = (count + 1) * 2) (held : slots.Shows {index | index < count + 1} spans)
    (overall : spans 0 = some ⟨start, stop⟩) :
    ofSlots? slots =
      some ⟨⟨start, stop⟩, (List.range count).map fun index => spans (index + 1)⟩ := by
  have all : pairs slots.toList = (List.range (count + 1)).map spans := by
    rw [pairs_eq slots.toList (count + 1) (by simpa using size)]
    exact List.map_congr_left fun index inside => held.span_eq index (List.mem_range.mp inside)
  rw [List.range_succ_eq_map, List.map_cons, overall, List.map_map] at all
  rw [ofSlots?, all]
  rfl

/-! ### From one start -/

section Start

variable {automaton : Automaton} {rule : LoopRule} {pattern : Pattern} {inner finish : Nat}
  {haystack : Array UInt8} {anchor : Anchor} {kind : MatchKind} {slotCount start : Nat}
  {found : List Thread}

/-- Walks from a start end the matches that are outcomes of the pattern as group 0. -/
theorem exists_walk (layout : automaton.Layout rule pattern inner finish)
    (ordered : pattern.Ordered) (consume : pattern.LoopsConsume) (inside : start ≤ haystack.size) :
    ∃ all, Walks (successors automaton haystack) [Thread.fresh automaton slotCount start] all ∧
      all.filter (Thread.ends automaton haystack anchor) =
        (((Pattern.group 0 pattern).outcomes haystack Recorder.slots start
          (Array.replicate slotCount none)).map (arrived (finish + 1))).filter
            (Thread.ends automaton haystack anchor) := by
  have shaped : ((pattern.shape rule).group 0) automaton.state automaton.start (finish + 1) := by
    rw [layout.start_eq]
    exact ⟨inner, finish, layout.starts, layout.shaped, layout.ends⟩
  have yields : (pattern.shape rule).Yields automaton haystack anchor _ :=
    pattern.shape_yields rule ordered consume
  refine (Shape.yields_group yields 0).unfolds shaped inside _ (Walks.final fun thread member => ?_)
  obtain ⟨outcome, -, rfl⟩ := List.mem_map.mp member
  exact Thread.successors_of_accept layout.accepts

/-- **What is chosen from a start** is the preferred one of the outcomes that the anchor allows. -/
theorem choose_attempt_eq (layout : automaton.Layout rule pattern inner finish)
    (ordered : pattern.Ordered) (consume : pattern.LoopsConsume)
    (attempt : Attempt automaton haystack slotCount start found)
    (early : start ≤ lastStart anchor haystack.size) :
    choose automaton haystack anchor kind.better none found =
      (kind.pick Prod.fst (((Pattern.group 0 pattern).outcomes haystack Recorder.slots start
        (Array.replicate slotCount none)).filter fun outcome =>
          anchor.Allows haystack.size start outcome.1)).map (arrived (finish + 1)) := by
  have inside : start ≤ haystack.size := early.trans lastStart_le
  obtain ⟨all, walks, same⟩ := exists_walk layout ordered consume inside
  have final : ∀ outcome ∈ (Pattern.group 0 pattern).outcomes haystack Recorder.slots start
      (Array.replicate slotCount none),
      (arrived (finish + 1) outcome).ends automaton haystack anchor =
        decide (anchor.Allows haystack.size start outcome.1) := by
    intro outcome member
    have ordered' : (Pattern.group 0 pattern).Ordered := List.forall_mem_cons.mpr ⟨trivial, ordered⟩
    have within := (Pattern.inside_outcomes ordered' start inside _ outcome member).2
    rw [Bool.eq_iff_iff, Thread.ends, decide_eq_true_iff, decide_eq_true_iff,
      Anchor.allows_iff early within]
    exact and_iff_right layout.accepts
  rw [choose_walks Thread.map_configuration_successors walks attempt (by simp), choose_eq_pick,
    same, List.filter_map, MatchKind.pick_map]
  congr 2
  exact List.filter_congr final

/-- **The slots of the outcomes of a pattern as group 0** are the captures of its outcomes. -/
theorem outcomes_captures (haystack : Array UInt8) (start : Nat) {count : Nat}
    (indices : ∀ index ∈ pattern.groups, 1 ≤ index)
    (bound : ∀ index ∈ pattern.groups, index < count + 1) (apart : pattern.GroupsApart) :
    ((Pattern.group 0 pattern).outcomes haystack Recorder.slots start
        (Array.replicate ((count + 1) * 2) none)).map
          (fun outcome => (outcome.1, Captures.ofSlots? outcome.2)) =
      (pattern.outcomes haystack Recorder.spans start fun _ => none).map
        fun outcome => (outcome.1, some (Captures.ofOutcome count start outcome)) := by
  have apart' : (Pattern.group 0 pattern).GroupsApart :=
    List.forall_mem_cons.mpr ⟨fun zero => absurd (indices 0 zero) (by omega), apart⟩
  have inside : ∀ index ∈ (Pattern.group 0 pattern).groups, index ∈ {index | index < count + 1} :=
    List.forall_mem_cons.mpr ⟨Nat.succ_pos _, bound⟩
  have related :
      Outcomes.Related _ ((Pattern.group 0 pattern).outcomes haystack Recorder.slots) _ :=
    Pattern.related_outcomes _ apart' inside
  rw [← List.forall₂_eq_eq_eq, List.forall₂_map_left_iff, List.forall₂_map_right_iff]
  refine (List.forall₂_map_right_iff.mp (related start _ fun _ => none)).imp ?_
  rintro ⟨stop, slots⟩ ⟨stop', spans⟩ ⟨rfl, recording⟩
  have overall : Recorder.spans.leave 0 start stop spans 0 = some ⟨start, stop⟩ := by
    simp [Recorder.spans]
  have size : slots.size = (count + 1) * 2 := recording.size_eq.trans Array.size_replicate
  have others :
      ∀ index, Recorder.spans.leave 0 start stop spans (index + 1) = spans (index + 1) := by
    simp [Recorder.spans]
  rw [Captures.ofSlots?_eq size (recording.shows (Slots.shows_blank _)) overall]
  simp only [others]
  rfl

/-- **What is reported from a start** are the captures of the preferred outcome that the anchor
allows. -/
theorem map_slots_choose (layout : automaton.Layout rule pattern inner finish)
    (indices : ∀ index ∈ pattern.groups, 1 ≤ index) (apart : pattern.GroupsApart)
    (ordered : pattern.Ordered) (consume : pattern.LoopsConsume)
    (attempt : Attempt automaton haystack automaton.slotCount start found)
    (early : start ≤ lastStart anchor haystack.size) :
    ((choose automaton haystack anchor kind.better none found).map Thread.slots).map
        Captures.ofSlots? =
      (kind.pick Prod.fst (pattern.allowed haystack anchor start)).map fun outcome =>
        some (Captures.ofOutcome (max pattern.groupCount pattern.maxGroup) start outcome) := by
  have groups : automaton.slotCount = (max pattern.groupCount pattern.maxGroup + 1) * 2 := by
    rw [Automaton.slotCount, layout.groups_eq, Automaton.groupsOf]
  have bound : ∀ index ∈ pattern.groups, index < max pattern.groupCount pattern.maxGroup + 1 :=
    fun index member =>
      Nat.lt_succ_of_le ((pattern.le_maxGroup index member).trans (le_max_right _ _))
  have same := outcomes_captures haystack start indices bound apart
  rw [← groups] at same
  have picked := congrArg (fun list => (kind.pick Prod.fst (list.filter fun outcome =>
    anchor.Allows haystack.size start outcome.1)).map Prod.snd) same
  rw [MatchKind.pick_filter_map kind (fun stop => anchor.Allows haystack.size start stop) (by simp),
    MatchKind.pick_filter_map kind (fun stop => anchor.Allows haystack.size start stop) (by simp)]
    at picked
  rw [Option.map_map, Option.map_map] at picked
  rw [choose_attempt_eq layout ordered consume attempt early, Option.map_map, Option.map_map]
  exact picked

end Start

/-! ### Whole searches -/

/-- What never fails may be done before or after the first value is looked for. -/
theorem findSome?_bind {α β : Type} {indices : List Nat} {values : Nat → Option α}
    {next : α → Option β} {results : Nat → Option β}
    (same : ∀ index ∈ indices, (values index).map next = (results index).map some) :
    (indices.findSome? values).bind next = indices.findSome? results := by
  induction indices with
  | nil => rfl
  | cons index rest hypothesis =>
    obtain ⟨first, others⟩ := List.forall_mem_cons.mp same
    rw [List.findSome?_cons, List.findSome?_cons]
    cases value : values index with
    | none =>
      rw [value, Option.map_none, eq_comm, Option.map_eq_none_iff] at first
      rw [first]
      exact hypothesis others
    | some value' =>
      rw [value, Option.map_some, eq_comm, Option.map_eq_some_iff] at first
      obtain ⟨result, found, same⟩ := first
      rw [found]
      exact same.symm

/-- Further numbers without a value do not matter. -/
theorem findSome?_range_of_none {α : Type} {count more : Nat} {values : Nat → Option α}
    (less : count ≤ more) (nothing : ∀ index < more, count ≤ index → values index = none) :
    (List.range more).findSome? values = (List.range count).findSome? values := by
  obtain ⟨rest, rfl⟩ := Nat.exists_eq_add_of_le less
  have none : ((List.range rest).map (count + ·)).findSome? values = none := by
    rw [List.findSome?_eq_none_iff]
    intro index member
    obtain ⟨offset, below, rfl⟩ := List.mem_map.mp member
    have := List.mem_range.mp below
    exact nothing _ (by omega) (Nat.le_add_right _ _)
  rw [List.range_add, List.findSome?_append, none, Option.or_none]

/-- **Compiling and backtracking implements the ordered semantics with captures**: a search reports
the match that the pattern prefers. -/
theorem search_backtracking_eq_preferred {rule : LoopRule} {text : String} {pattern : Pattern}
    {regex : Regex} (compiled : Regex.ofPattern rule text pattern = .ok regex)
    (indices : ∀ index ∈ pattern.groups, 1 ≤ index) (apart : pattern.GroupsApart)
    (ordered : pattern.Ordered) (consume : pattern.LoopsConsume) (cache : Cache)
    (haystack : Bytes) (anchor : Anchor) (kind : MatchKind) :
    (regex.search cache haystack ⟨anchor, kind, .backtracking⟩).1 =
      pattern.preferred haystack.toArray anchor kind := by
  obtain ⟨inner, finish, layout⟩ := Automaton.exists_layout (Regex.automaton_eq compiled)
  have wellFormed := layout.wellFormed indices
  obtain ⟨found, attempt⟩ := Backtracking.exists_attempts wellFormed haystack.toArray
    regex.automaton.slotCount
  have nothing : ∀ start < haystack.toArray.size + 1,
      lastStart anchor haystack.toArray.size + 1 ≤ start →
      (kind.pick Prod.fst (pattern.allowed haystack.toArray anchor start)).map
        (Captures.ofOutcome (max pattern.groupCount pattern.maxGroup) start) = none := by
    intro start inside late
    rw [pattern.allowed_eq_nil (Nat.le_of_lt_succ inside) late, Option.map_eq_none_iff]
    cases kind <;> rfl
  show (Backtracking.search regex.automaton cache.backtracking haystack.toArray anchor kind
    regex.automaton.slotCount).1.bind Captures.ofSlots? = _
  rw [Backtracking.search_eq wellFormed _ found attempt, Pattern.preferred,
    findSome?_range_of_none (Nat.succ_le_succ lastStart_le) nothing]
  refine findSome?_bind fun start member => ?_
  have early := Nat.le_of_lt_succ (List.mem_range.mp member)
  rw [map_slots_choose layout indices apart ordered consume
    (attempt start (early.trans lastStart_le)) early, Option.map_map]
  rfl

theorem Pattern.lazyLoop_groupsApart : Pattern.lazyLoop.GroupsApart := by
  simp [GroupsApart, Everywhere, lazyLoop, subtrees, subtreesIn, GroupApart, groups, groupsIn]

theorem Pattern.lazyLoop_loopsConsume : Pattern.lazyLoop.LoopsConsume := by
  simp [LoopsConsume, Everywhere, lazyLoop, subtrees, subtreesIn, BodyConsumes, Matches, MatchesAny,
    Spells]

/-- What is preferred of a lazy loop over alternatives of which one begins with the other. -/
theorem search_lazyLoop_preferred :
    Regex.ofPattern .bodyKnownEmpty "(a|ab)*?b" .lazyLoop = .ok .lazyLoop ∧
      (∀ index ∈ Pattern.lazyLoop.groups, 1 ≤ index) ∧ Pattern.lazyLoop.GroupsApart ∧
      Pattern.lazyLoop.Ordered ∧ Pattern.lazyLoop.LoopsConsume ∧
      (Regex.lazyLoop.search Regex.lazyLoop.newCache [0x61, 0x62, 0x62]
          ⟨.unanchored, .leftmostLongest, .backtracking⟩).1 =
        Pattern.lazyLoop.preferred #[0x61, 0x62, 0x62] .unanchored .leftmostLongest ∧
      Pattern.lazyLoop.preferred #[0x61, 0x62, 0x62] .unanchored .leftmostLongest =
        some ⟨⟨0, 3⟩, [some ⟨0, 2⟩]⟩ :=
  ⟨Regex.ofPattern_lazyLoop _, by decide, Pattern.lazyLoop_groupsApart, Pattern.lazyLoop_ordered,
    Pattern.lazyLoop_loopsConsume,
    search_backtracking_eq_preferred (Regex.ofPattern_lazyLoop .bodyKnownEmpty) (by decide)
      Pattern.lazyLoop_groupsApart Pattern.lazyLoop_ordered Pattern.lazyLoop_loopsConsume
      Regex.lazyLoop.newCache [0x61, 0x62, 0x62] .unanchored .leftmostLongest,
    by decide +kernel⟩

end Crosscheck
