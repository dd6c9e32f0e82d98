/-
**Counted repetitions mean what they are short for.**

Two patterns that only differ in a hole, where the one has a counted repetition and the other has
what it is short for, have automata whose states go by common numbers. Both of them are folded onto
the automaton with one state for each number, and so searches in them report the same slots, as many
as both have.

* `Automaton.Numbered`: two automata whose states go by common numbers;
* `Automaton.Numbered.search_eq`: searches in them;
* `Regex.search_agrees`: whether there is a match, and its groups, with either strategy;
* `search_expanded`: a counted repetition and what it is short for, anywhere in a pattern.
-/
import Crosscheck.Proofs.Automaton.Counted
import Crosscheck.Proofs.Search.Folding
import Crosscheck.Proofs.Search.Preference

namespace Crosscheck

/-! ### A common automaton -/

namespace Automaton

/-- The automaton with other numbers for all targets. -/
def renamed (image : Nat → Nat) (automaton : Automaton) : Automaton :=
  { automaton with states := automaton.states.map (State.renamed image) }

theorem state_renamed (image : Nat → Nat) (automaton : Automaton) (index : Nat) :
    (automaton.renamed image).state index = (automaton.state index).renamed image := by
  rw [state, state, renamed, Array.getD_eq_getD_getElem?, Array.getD_eq_getD_getElem?,
    Array.getElem?_map]
  cases automaton.states[index]? <;> rfl

/-- There are slots for all groups of a pattern. -/
theorem lt_groupsOf {pattern : Pattern} {index : Nat} (member : index ∈ pattern.groups) :
    index < groupsOf pattern :=
  Nat.lt_succ_of_le ((pattern.le_maxGroup index member).trans (Nat.le_max_right _ _))

/-- Two automata whose states go by common numbers. -/
structure Numbered (one other : Automaton) (world : Numbering × Numbering) : Prop where
  start_eq : one.start = 0
  start_eq' : other.start = 0
  holds : ∃ extra extra', Numbering.Holds world ⟨one.states, extra⟩ ⟨other.states, extra'⟩

namespace Numbered

variable {one other : Automaton} {world : Numbering × Numbering} {haystack : Array UInt8}

/-- The first one is folded onto the automaton with one state for each number. -/
theorem folds (numbered : one.Numbered other world) (wellFormed : one.WellFormed)
    (haystack : Array UInt8) :
    one.Folds (one.renamed world.1.image) haystack world.1.image world.1.silent := by
  obtain ⟨start_eq, -, _, _, holds⟩ := numbered
  obtain ⟨-, -, -, -, zero, -, pairs⟩ := holds
  have own {start : Nat} {place : Place} (reached : place ∈ one.reached haystack start)
      (visible : place.1 ∉ world.1.silent) : world.1.image place.1 = place.1 :=
    pairs.own (Nat.zero_le _) (wellFormed.lt_of_reached reached) visible
  refine ⟨by rw [start_eq, zero]; exact start_eq.symm, fun start _ =>
    ⟨one.confined_reached haystack start, fun reached visible => ?_, fun reached isSilent => ?_,
      fun reached reached' visible visible' same => ?_⟩⟩
  · rw [own reached visible, state_renamed]
  · obtain ⟨target, later, leads, same⟩ :=
      pairs.quiet.passes (Nat.zero_le _) (wellFormed.lt_of_reached reached) isSilent
    exact ⟨target, fun _ => later, leads, same⟩
  · exact (own reached visible).symm.trans (same.trans (own reached' visible'))

/-- And so is the second one. -/
theorem folds' (numbered : one.Numbered other world) (wellFormed : other.WellFormed)
    (haystack : Array UInt8) :
    other.Folds (one.renamed world.1.image) haystack world.2.image world.2.silent := by
  obtain ⟨start_eq, start_eq', _, _, holds⟩ := numbered
  obtain ⟨-, -, -, -, -, zero, pairs⟩ := holds
  refine ⟨by rw [start_eq', zero]; exact start_eq.symm, fun start _ =>
    ⟨other.confined_reached haystack start, fun reached visible => ?_, fun reached isSilent => ?_,
      fun reached reached' visible visible' same => ?_⟩⟩
  · rw [state_renamed]
    exact (pairs.renames (Nat.zero_le _) (wellFormed.lt_of_reached reached) visible).symm
  · obtain ⟨target, later, leads, same⟩ :=
      pairs.quiet'.passes (Nat.zero_le _) (wellFormed.lt_of_reached reached) isSilent
    exact ⟨target, fun _ => later, leads, same⟩
  · exact pairs.apart (Nat.zero_le _) (wellFormed.lt_of_reached reached) visible (Nat.zero_le _)
      (wellFormed.lt_of_reached reached') visible' same

/-- **Searches in both report the same slots.** -/
theorem search_eq (numbered : one.Numbered other world) (wellFormed : one.WellFormed)
    (wellFormed' : other.WellFormed) (cache cache' : Backtracking.Cache) (haystack : Array UInt8)
    (anchor : Anchor) (kind : MatchKind) (slotCount : Nat) :
    (Backtracking.search one cache haystack anchor kind slotCount).1 =
      (Backtracking.search other cache' haystack anchor kind slotCount).1 :=
  (numbered.folds wellFormed haystack).search_common (numbered.folds' wellFormed' haystack)
    wellFormed wellFormed' cache cache' anchor kind slotCount

end Numbered

/-- What is built behind the state that stores where a match starts: the rest of group 0, and the
accepting state. -/
def behindStart (rule : LoopRule) (pattern : Pattern) : Build Fragment := do
  let whole ← Build.groupBehind 0 (Build.pattern rule pattern) 0
  let accept ← Build.add .accept
  Build.patch whole.last accept
  return whole

/-- The state that stores where a match starts. -/
def started : Builder := ⟨#[.capture 0 0], 0⟩

theorem ofPattern_eq_behindStart {rule : LoopRule} {pattern : Pattern} {automaton : Automaton}
    (compiled : ofPattern rule pattern = .ok automaton) :
    ∃ fragment finished, behindStart rule pattern started = .ok (fragment, finished) ∧
      automaton.states = finished.states := by
  simp only [ofPattern, bind, Except.bind] at compiled
  split at compiled
  · cases compiled
  · next result built =>
    obtain ⟨fragment, finished⟩ := result
    cases compiled
    refine ⟨fragment, finished, ?_, rfl⟩
    obtain ⟨middle, whole, grouped, rest⟩ := Build.bind_eq_ok.mp built
    obtain ⟨first, start, added, grouped⟩ := Build.bind_eq_ok.mp grouped
    have same : Build.add (.capture 0 0) ⟨#[], 0⟩ = .ok (0, started) := rfl
    obtain ⟨rfl, rfl⟩ := Prod.mk.inj (Except.ok.inj (same.symm.trans added))
    exact Build.bind_eq_ok.mpr ⟨middle, whole, grouped, rest⟩

/-- **Patterns that are built under common numbers** have automata whose states go by common
numbers. -/
theorem exists_numbered {rule : LoopRule} {pattern pattern' : Pattern} {one other : Automaton}
    (same : Pairing.numbered.Patterns rule pattern pattern')
    (compiled : ofPattern rule pattern = .ok one)
    (compiled' : ofPattern rule pattern' = .ok other) : ∃ world, one.Numbered other world := by
  obtain ⟨_, _, layout⟩ := exists_layout compiled
  obtain ⟨_, _, layout'⟩ := exists_layout compiled'
  obtain ⟨fragment, finished, built, states⟩ := ofPattern_eq_behindStart compiled
  obtain ⟨fragment', finished', built', states'⟩ := ofPattern_eq_behindStart compiled'
  let world : Numbering × Numbering := (⟨1, id, ∅⟩, ⟨1, id, ∅⟩)
  have holds : Numbering.Holds world started started :=
    Numbering.Holds.refl (show 0 < started.size from Nat.one_pos) (by decide)
  have alike : Pairing.numbered.Alike world Pairing.numbered.Fragments (behindStart rule pattern)
      (behindStart rule pattern') := by
    have starts : Numbering.Same world 0 0 := ⟨Nat.one_pos, Nat.one_pos, id, id, rfl, rfl⟩
    refine (Pairing.alike_groupBehind 0 same starts).bind fun later _ whole whole' added => ?_
    refine (Pairing.add_alike later fun _ member => (List.not_mem_nil member).elim).bind
      fun last grows accept accept' ends => ?_
    have added := added.mono grows
    exact .patch added.last ends.stands (.pure added)
  obtain ⟨later, -, holds, -⟩ := alike holds built built'
  exact ⟨later, layout.start_eq, layout'.start_eq, finished.extra, finished'.extra, by
    rw [states, states']
    exact holds⟩

end Automaton

/-! ### Captures -/

namespace Captures

/-- The spans of slots, taken in pairs. -/
theorem getElem?_pairs (slots : List (Option Nat)) (index : Nat) :
    (pairs slots)[index]?.join = Slots.span slots.toArray index := by
  have later (one other : Option Nat) (rest : List (Option Nat)) (index : Nat) :
      Slots.span (one :: other :: rest).toArray (index + 1) = Slots.span rest.toArray index := by
    simp [Slots.span, Nat.succ_mul, Array.getD_eq_getD_getElem?]
  induction slots using pairs.induct generalizing index with
  | case1 start stop rest hypothesis =>
    cases index with
    | zero => rfl
    | succ index => rw [pairs, List.getElem?_cons_succ, hypothesis, later]
  | case2 one other rest different hypothesis =>
    rw [pairs]
    swap
    · exact different
    cases index with
    | zero => cases one <;> cases other <;> first | rfl | exact (different _ _ rfl rfl).elim
    | succ index => rw [List.getElem?_cons_succ, hypothesis, later]
  | case3 one =>
    cases index with
    | zero => cases one <;> rfl
    | succ index => simp [pairs, Slots.span, Nat.succ_mul, Array.getD_eq_getD_getElem?]
  | case4 => rfl

/-- **The group of a match** is the span that its slots hold. -/
theorem get?_of_ofSlots? {slots : Slots} {captures : Captures}
    (read : ofSlots? slots = some captures) (index : Nat) :
    captures.get? index = slots.span index := by
  rw [ofSlots?] at read
  split at read
  · next overall groups all =>
    cases read
    rw [get?, spans, ← all, getElem?_pairs]
  · cases read

end Captures

namespace Regex

variable {one other : Regex} {cache cache' : Cache} {haystack : Bytes} {settings : Search}

/-- A search reports a match when backtracking does, with the spans that its slots hold. -/
theorem search_get? (wellFormed : one.automaton.WellFormed) (fits : cache.Fits one.automaton)
    (haystack : Bytes) (settings : Search) {slotCount : Nat} {reported : Option Slots}
    (fewer : slotCount ≤ one.automaton.slotCount)
    (same : (Backtracking.search one.automaton .empty haystack.toArray settings.anchor settings.kind
      slotCount).1 = reported) :
    (one.search cache haystack settings).1.isSome = reported.isSome ∧
      ∀ index, index * 2 + 1 < slotCount →
        (one.search cache haystack settings).1.bind (·.get? index) =
          reported.bind (·.span index) := by
  rw [← same, Backtracking.search_extract wellFormed .empty .empty _ _ _ fewer, search_eq,
    ← searchSlots_backtracking wellFormed fits haystack settings le_rfl]
  cases all : (one.searchSlots cache haystack settings one.automaton.slotCount).1 with
  | none => exact ⟨rfl, fun _ _ => rfl⟩
  | some slots =>
    obtain ⟨start, stop, groups, -, -, read⟩ :=
      exists_captures wellFormed fits wellFormed.slots_le le_rfl all
    rw [Option.bind_some, read]
    refine ⟨rfl, fun index inside => ?_⟩
    show Captures.get? _ index = Slots.span (slots.extract 0 slotCount) index
    rw [Captures.get?_of_ofSlots? read, Slots.span, Slots.span, Slots.getD_extract slots (by omega),
      Slots.getD_extract slots inside]

/-- **Regexps whose searches report the same slots** agree on whether there is a match, and on all
groups that both have. -/
theorem search_agrees (wellFormed : one.automaton.WellFormed)
    (wellFormed' : other.automaton.WellFormed) (fits : cache.Fits one.automaton)
    (fits' : cache'.Fits other.automaton) (haystack : Bytes) (settings : Search)
    (same : ∀ slotCount, (Backtracking.search one.automaton .empty haystack.toArray settings.anchor
        settings.kind slotCount).1 =
      (Backtracking.search other.automaton .empty haystack.toArray settings.anchor settings.kind
        slotCount).1) :
    (one.search cache haystack settings).1.isSome =
      (other.search cache' haystack settings).1.isSome ∧
    ∀ index < one.groupCount, index < other.groupCount →
      (one.search cache haystack settings).1.bind (·.get? index) =
        (other.search cache' haystack settings).1.bind (·.get? index) := by
  -- Both have the slots of the groups that both have.
  let common := min one.automaton.slotCount other.automaton.slotCount
  obtain ⟨found, groups⟩ :=
    search_get? wellFormed fits haystack settings (Nat.min_le_left _ _) (same common)
  obtain ⟨found', groups'⟩ :=
    search_get? wellFormed' fits' haystack settings (Nat.min_le_right _ _) rfl
  refine ⟨found.trans found'.symm, fun index inside inside' => ?_⟩
  have room : index * 2 + 1 < common := by
    have : index < one.automaton.groupCount := inside
    have : index < other.automaton.groupCount := inside'
    refine Nat.lt_min.mpr ⟨?_, ?_⟩ <;> rw [Automaton.slotCount] <;> omega
  exact (groups index room).trans (groups' index room).symm

end Regex

/-! ### Counted repetitions -/

/-- **A counted repetition means what it is short for, anywhere in a pattern.** Searches for a
pattern with a hole report a match with a counted repetition in the hole when they report one with
what it is short for, with the same span and the same groups, whatever the body is, with either
strategy and on any caches that fit. What a repetition is short for holds copies of the groups of
its body, so only the groups of the pattern and of the body themselves are compared. -/
theorem search_expanded {rule : LoopRule} {text text' : String} {context : Pattern.Context}
    {body : Pattern} {greedy : Bool} {least : Nat} {max : Option Nat} {one other : Regex}
    (counts : Pattern.Counts least max)
    (compiled : Regex.ofPattern rule text (context.fill (.repetition least max greedy body)) =
      .ok one)
    (compiled' : Regex.ofPattern rule text' (context.fill (.expanded least max greedy body)) =
      .ok other)
    (indices : ∀ index ∈ (context.fill body).groups, 1 ≤ index) {cache cache' : Cache}
    (fits : cache.Fits one.automaton) (fits' : cache'.Fits other.automaton) (haystack : Bytes)
    (settings : Search) :
    (one.search cache haystack settings).1.isSome =
      (other.search cache' haystack settings).1.isSome ∧
    ∀ index, index = 0 ∨ index ∈ (context.fill body).groups →
      (one.search cache haystack settings).1.bind (·.get? index) =
        (other.search cache' haystack settings).1.bind (·.get? index) := by
  have groups (index : Nat) : index ∈ (context.fill (.repetition least max greedy body)).groups ↔
      index ∈ (context.fill body).groups := Pattern.mem_groups_fill context Iff.rfl
  have groups' (index : Nat) : index ∈ (context.fill (.expanded least max greedy body)).groups ↔
      index ∈ (context.fill body).groups :=
    Pattern.mem_groups_fill context (Pattern.mem_groups_expanded counts)
  obtain ⟨_, _, layout⟩ := Automaton.exists_layout (Regex.automaton_eq compiled)
  obtain ⟨_, _, layout'⟩ := Automaton.exists_layout (Regex.automaton_eq compiled')
  have wellFormed := layout.wellFormed fun index member => indices index ((groups index).mp member)
  have wellFormed' :=
    layout'.wellFormed fun index member => indices index ((groups' index).mp member)
  have alike := Pairing.alike_fill context (Pairing.alike_expanded rule greedy body counts)
    (Pattern.minLength_expanded counts).symm
  obtain ⟨world, numbered⟩ := Automaton.exists_numbered alike (Regex.automaton_eq compiled)
    (Regex.automaton_eq compiled')
  obtain ⟨found, agree⟩ := Regex.search_agrees wellFormed wellFormed' fits fits' haystack settings
    fun slotCount => numbered.search_eq wellFormed wellFormed' _ _ _ _ _ slotCount
  refine ⟨found, fun index counted => agree index ?_ ?_⟩
  · rw [Regex.groupCount, layout.groups_eq]
    rcases counted with rfl | member
    · exact Nat.succ_pos _
    · exact Automaton.lt_groupsOf ((groups index).mpr member)
  · rw [Regex.groupCount, layout'.groups_eq]
    rcases counted with rfl | member
    · exact Nat.succ_pos _
    · exact Automaton.lt_groupsOf ((groups' index).mpr member)

/-- Copies that can be empty, inside a loop: the body has one group in the one automaton and two in
the other, which both store in the same slots. -/
theorem search_expanded_emptyCopies :
    let body : Pattern := .group 1 (.alternation [.literal [0x61], .empty])
    let context : Pattern.Context :=
      .repetition 0 none true (.concat [] .hole [.repetition 0 (some 1) true (.literal [0x62])])
    let one : Regex := ⟨"(?:(a|){0,2}b?)*", #[.capture 21 0, .goto 3 none, .goto 17 none,
      .splits [4, 2] false, .capture 7 2, .byte 8 0x61, .goto 8 none, .splits [5, 6] false,
      .goto 9 none, .capture 10 3, .splits [11, 2] false, .capture 14 2, .byte 15 0x61,
      .goto 15 none, .splits [12, 13] false, .goto 16 none, .capture 2 3, .splits [18, 19] false,
      .byte 19 0x62, .goto 20 none, .splits [1, 22] false, .splits [1, 22] false, .goto 23 none,
      .capture 24 1, .accept], 0, 2⟩
    let other : Regex := ⟨"(?:(a|){0,2}b?)*", #[.capture 21 0, .splits [2, 16] false, .capture 5 2,
      .byte 6 0x61, .goto 6 none, .splits [3, 4] false, .goto 7 none, .capture 8 3,
      .splits [9, 15] false, .capture 12 2, .byte 13 0x61, .goto 13 none, .splits [10, 11] false,
      .goto 14 none, .capture 15 3, .goto 16 none, .goto 17 none, .splits [18, 19] false,
      .byte 19 0x62, .goto 20 none, .splits [1, 22] false, .splits [1, 22] false, .goto 23 none,
      .capture 24 1, .accept], 0, 3⟩
    let settings : Search := ⟨.both, .leftmostLongest, .backtracking⟩
    Pattern.Counts 0 (some 2) ∧
      Regex.ofPattern .bodyKnownEmpty one.text (context.fill (.repetition 0 (some 2) true body)) =
        .ok one ∧
      Regex.ofPattern .bodyKnownEmpty other.text
        (context.fill (.expanded 0 (some 2) true body)) = .ok other ∧
      (∀ index ∈ (context.fill body).groups, 1 ≤ index) ∧ one.newCache.Fits one.automaton ∧
      other.newCache.Fits other.automaton ∧
      ((one.search one.newCache [0x61, 0x62, 0x61] settings).1.isSome =
          (other.search other.newCache [0x61, 0x62, 0x61] settings).1.isSome ∧
        ∀ index, index = 0 ∨ index ∈ (context.fill body).groups →
          (one.search one.newCache [0x61, 0x62, 0x61] settings).1.bind (·.get? index) =
            (other.search other.newCache [0x61, 0x62, 0x61] settings).1.bind (·.get? index)) ∧
      (one.search one.newCache [0x61, 0x62, 0x61] settings).1 = some ⟨⟨0, 3⟩, [some ⟨3, 3⟩]⟩ ∧
      (other.search other.newCache [0x61, 0x62, 0x61] settings).1 =
        some ⟨⟨0, 3⟩, [some ⟨3, 3⟩, none]⟩ := by
  intro body context one other settings
  have compiled : Regex.ofPattern .bodyKnownEmpty one.text
      (context.fill (.repetition 0 (some 2) true body)) = .ok one := by cbv
  have compiled' : Regex.ofPattern .bodyKnownEmpty other.text
      (context.fill (.expanded 0 (some 2) true body)) = .ok other := by cbv
  have same := search_expanded (by decide) compiled compiled' (by decide) one.fits_newCache
    other.fits_newCache [0x61, 0x62, 0x61] settings
  exact ⟨by decide, compiled, compiled', by decide, one.fits_newCache, other.fits_newCache, same,
    by cbv, by cbv⟩

end Crosscheck
