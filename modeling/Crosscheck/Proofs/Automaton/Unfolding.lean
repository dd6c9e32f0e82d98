/-
**Walks through fragments.**

A thread that enters a fragment comes out of it as several threads, one for each outcome of what the
fragment was built from, in order of preference, and with the slots that were stored on the way. So
the matches that a walk from the entry ends are those that walks from these threads end, one after
the other. For a loop the induction is on the bytes that are left, each iteration taking some.

* `Unfolds`: threads whose walks end the same matches as the walks of others;
* `Shape.Yields`: the threads that come out of a fragment;
* `Pattern.shape_yields`: the fragment of a pattern yields the outcomes of the pattern.
-/
import Crosscheck.Proofs.Automaton.Shape
import Crosscheck.Proofs.Pattern.Outcomes
import Crosscheck.Proofs.Search.Walks

namespace Crosscheck

open Thread (successors)

/-! ### Threads that stand for others -/

/-- Walks from the first threads end the same matches as walks from the others do, if these come to
an end. -/
def Unfolds (automaton : Automaton) (haystack : Array UInt8) (anchor : Anchor)
    (threads others : List Thread) : Prop :=
  ∀ found, Walks (successors automaton haystack) others found →
    ∃ found', Walks (successors automaton haystack) threads found' ∧
      found'.filter (Thread.ends automaton haystack anchor) =
        found.filter (Thread.ends automaton haystack anchor)

/-- The thread as which one comes to a state with an outcome. -/
def Thread.arrived (state : Nat) (outcome : Nat × Slots) : Thread := ⟨state, outcome.1, outcome.2⟩

namespace Unfolds

variable {automaton : Automaton} {haystack : Array UInt8} {anchor : Anchor}
  {first second third other others : List Thread}

theorem refl (threads : List Thread) : Unfolds automaton haystack anchor threads threads :=
  fun found walks => ⟨found, walks, rfl⟩

theorem trans (early : Unfolds automaton haystack anchor first second)
    (late : Unfolds automaton haystack anchor second third) :
    Unfolds automaton haystack anchor first third := by
  intro found walks
  obtain ⟨found', walks', same⟩ := late found walks
  obtain ⟨found'', walks'', same'⟩ := early found' walks'
  exact ⟨found'', walks'', same'.trans same⟩

/-- One list of threads before the other. -/
theorem append (early : Unfolds automaton haystack anchor first second)
    (late : Unfolds automaton haystack anchor other others) :
    Unfolds automaton haystack anchor (first ++ other) (second ++ others) := by
  intro found walks
  obtain ⟨before, after, rfl, walks, walks'⟩ := walks.append_of_append second
  obtain ⟨before', walks, same⟩ := early before walks
  obtain ⟨after', walks', same'⟩ := late after walks'
  exact ⟨before' ++ after', walks.append walks', by
    rw [List.filter_append, List.filter_append, same, same']⟩

/-- **A thread that ends no match** stands for those as which it goes on. -/
theorem step {thread : Thread} (going : automaton.state thread.state ≠ .accept) :
    Unfolds automaton haystack anchor [thread] (successors automaton haystack thread) := by
  intro found walks
  refine ⟨thread :: found, .step (by rwa [List.append_nil]),
    List.filter_cons_of_neg fun final => ?_⟩
  exact going (Thread.accept_of_ends final)

/-- Each thread of a list stands for others. -/
theorem flatMap {α : Type} {list : List α} {one : α → Thread} {many : α → List Thread}
    (each : ∀ member ∈ list, Unfolds automaton haystack anchor [one member] (many member)) :
    Unfolds automaton haystack anchor (list.map one) (list.flatMap many) := by
  induction list with
  | nil => exact refl []
  | cons head tail hypothesis =>
    obtain ⟨early, late⟩ := List.forall_mem_cons.mp each
    exact early.append (hypothesis late)

/-- Each thread of a list stands for one other. -/
theorem map {α : Type} {list : List α} {one other : α → Thread}
    (each : ∀ member ∈ list, Unfolds automaton haystack anchor [one member] [other member]) :
    Unfolds automaton haystack anchor (list.map one) (list.map other) := by
  rw [List.map_eq_flatMap (f := other)]
  exact flatMap each

end Unfolds

namespace Shape

/-- The threads that come out of fragments of a shape: one for each outcome, in order. -/
structure Yields (automaton : Automaton) (haystack : Array UInt8) (anchor : Anchor) (shape : Shape)
    (outcomes : Outcomes Slots) : Prop where
  /-- They stay inside the haystack. -/
  inside : outcomes.Inside haystack.size
  /-- They are what a thread that enters the fragment stands for. -/
  unfolds : ∀ {first next start : Nat} {slots : Slots}, shape automaton.state first next →
    start ≤ haystack.size → Unfolds automaton haystack anchor [⟨first, start, slots⟩]
      ((outcomes start slots).map (Thread.arrived next))

variable {automaton : Automaton} {haystack : Array UInt8} {anchor : Anchor} {shape other : Shape}
  {outcomes outcomes' : Outcomes Slots}

/-- Only outcomes inside the haystack matter. -/
theorem Yields.congr (yields : shape.Yields automaton haystack anchor outcomes)
    (same : ∀ start ≤ haystack.size, ∀ slots, outcomes start slots = outcomes' start slots) :
    shape.Yields automaton haystack anchor outcomes' := by
  refine ⟨fun start within slots outcome member => ?_, fun shaped within => ?_⟩
  · rw [← same start within] at member
    exact yields.inside start within slots outcome member
  · rw [← same _ within]
    exact yields.unfolds shaped within

/-- One state. -/
theorem yields_single {state : State} (inside : outcomes.Inside haystack.size)
    (going : ∀ next, state.redirect next ≠ .accept)
    (same : ∀ {first next start : Nat} {slots : Slots},
      automaton.state first = state.redirect next →
      successors automaton haystack ⟨first, start, slots⟩ =
        (outcomes start slots).map (Thread.arrived next)) :
    (single state).Yields automaton haystack anchor outcomes := by
  refine ⟨inside, fun {first next start slots} shaped within => ?_⟩
  have here : automaton.state first = state.redirect next := shaped
  rw [← same here]
  exact .step (here ▸ going next)

theorem yields_goto :
    (single (.goto 0 none)).Yields automaton haystack anchor Outcomes.stay :=
  yields_single .stay (by simp [State.redirect]) fun here => Thread.successors_of_goto here

theorem yields_fail : (single .fail).Yields automaton haystack anchor Outcomes.never :=
  yields_single (fun _ _ _ _ member => (List.not_mem_nil member).elim) (by simp [State.redirect])
    fun here => Thread.successors_of_fail here

/-- **One fragment behind the other.** -/
theorem Yields.followedBy (one : shape.Yields automaton haystack anchor outcomes)
    (two : other.Yields automaton haystack anchor outcomes') :
    (shape.followedBy other).Yields automaton haystack anchor (outcomes.followedBy outcomes') := by
  refine ⟨one.inside.followedBy two.inside, ?_⟩
  rintro first next start slots ⟨middle, early, late⟩ within
  refine (one.unfolds early within).trans ?_
  rw [Outcomes.followedBy, List.map_flatMap]
  exact .flatMap fun outcome member =>
    two.unfolds late (one.inside start within slots outcome member).2

/-! ### Bytes -/

theorem inside_read {length : Nat} {passes : Nat → Bool}
    (fits : ∀ start, passes start = true → start ≤ haystack.size → start + length ≤ haystack.size) :
    (Outcomes.read length passes : Outcomes Slots).Inside haystack.size := by
  intro start within slots outcome member
  rw [Outcomes.read] at member
  split at member
  · next passed =>
    rw [List.mem_singleton.mp member]
    exact ⟨Nat.le_add_right _ _, fits start passed within⟩
  · cases member

theorem yields_look (look : Look) : (single (.goto 0 (some look))).Yields automaton haystack anchor
    (Outcomes.read 0 fun start => look.holds haystack start) := by
  refine yields_single (inside_read fun _ _ within => within) (by simp [State.redirect]) ?_
  intro first next start slots here
  rw [Thread.successors_of_look here]
  by_cases holds : look.holds haystack start = true <;>
    simp [Outcomes.read, holds, Thread.moved, Thread.arrived]

theorem yields_byte (byte : UInt8) : (single (.byte 0 byte)).Yields automaton haystack anchor
    (Outcomes.read 1 fun start => haystack[start]? = some byte) := by
  refine yields_single (inside_read fun start present _ => ?_) (by simp [State.redirect]) ?_
  · exact (Array.getElem?_eq_some_iff.mp (of_decide_eq_true present)).1
  · intro first next start slots here
    rw [Thread.successors_of_byte here]
    by_cases present : haystack[start]? = some byte <;>
      simp [Outcomes.read, present, Thread.arrived]

theorem yields_class (set : RangeSet) :
    (single (if set.isEmpty then .fail else .ranges 0 set)).Yields automaton haystack anchor
      (Outcomes.read 1 fun start => haystack[start]?.any (RangeSet.contains set ·.toNat)) := by
  cases set with
  | nil =>
    refine yields_fail.congr fun start _ slots => ?_
    cases present : haystack[start]? <;>
      simp [Outcomes.read, Outcomes.never, RangeSet.contains, present]
  | cons range rest =>
    refine yields_single (inside_read fun start among _ => ?_) (by simp [State.redirect]) ?_
    · obtain ⟨-, byte, present, -⟩ := Pattern.isAmong_of_any among
      exact (Array.getElem?_eq_some_iff.mp present).1
    · intro first next start slots here
      rw [Thread.successors_of_ranges here]
      by_cases among : haystack[start]?.any (RangeSet.contains (range :: rest) ·.toNat) = true <;>
        simp [Outcomes.read, among, Thread.arrived]

/-- The bytes of a literal behind a fragment. -/
theorem yields_bytesAfter (whole : shape.Yields automaton haystack anchor outcomes)
    (bytes : Bytes) :
    (bytesAfter shape bytes).Yields automaton haystack anchor
      (outcomes.followedBy (Pattern.spelled haystack bytes)) := by
  induction bytes generalizing shape outcomes with
  | nil =>
    rw [Pattern.spelled_nil, Outcomes.followedBy_stay]
    exact whole
  | cons byte rest hypothesis =>
    rw [Pattern.spelled_cons, ← Outcomes.followedBy_assoc]
    exact hypothesis (whole.followedBy (yields_byte byte))

theorem yields_literal (bytes : Bytes) :
    (literal bytes).Yields automaton haystack anchor (Pattern.spelled haystack bytes) := by
  cases bytes with
  | nil =>
    rw [Pattern.spelled_nil]
    exact yields_goto
  | cons byte rest =>
    rw [Pattern.spelled_cons]
    exact yields_bytesAfter (yields_byte byte) rest

/-! ### Copies -/

theorem yields_copiesAfter (whole : other.Yields automaton haystack anchor outcomes')
    (body : shape.Yields automaton haystack anchor outcomes) (count : Nat) :
    (copiesAfter shape other count).Yields automaton haystack anchor
      (outcomes'.followedBy (outcomes.times count)) := by
  induction count generalizing other outcomes' with
  | zero =>
    rw [Outcomes.times.eq_def, Outcomes.followedBy_stay]
    exact whole
  | succ count hypothesis =>
    rw [Outcomes.times.eq_def, ← Outcomes.followedBy_assoc]
    exact hypothesis (whole.followedBy body)

/-- **Copies of a body.** -/
theorem yields_exactly (body : shape.Yields automaton haystack anchor outcomes) (count : Nat) :
    (exactly shape count).Yields automaton haystack anchor (outcomes.times count) := by
  cases count with
  | zero => exact yields_goto
  | succ count => exact yields_copiesAfter body body count

/-! ### Choices -/

/-- **A choice** between two ways. -/
theorem Chooses.unfolds {greedy : Bool} {choice one two start : Nat} {slots : Slots}
    {first second : List Thread} (chooses : Chooses automaton.state greedy choice one two)
    (early : Unfolds automaton haystack anchor [⟨one, start, slots⟩] first)
    (late : Unfolds automaton haystack anchor [⟨two, start, slots⟩] second) :
    Unfolds automaton haystack anchor [⟨choice, start, slots⟩]
      (if greedy then first ++ second else second ++ first) := by
  have here : automaton.state choice = .splits [one, two] (!greedy) := chooses
  refine (Unfolds.step (by simp [here])).trans ?_
  rw [Thread.successors_of_splits here]
  cases greedy with
  | true => exact early.append late
  | false => exact late.append early

variable (greedy : Bool)

theorem map_choice {start : Nat} {slots : Slots} (one two : Outcomes Slots)
    (view : Nat × Slots → Thread) : (Outcomes.choice greedy one two start slots).map view =
      if greedy then (one start slots).map view ++ (two start slots).map view
      else (two start slots).map view ++ (one start slots).map view := by
  cases greedy <;> exact List.map_append

/-- A fragment that may be passed over. -/
theorem Yields.passedOver (yields : shape.Yields automaton haystack anchor outcomes)
    (chosen : ∀ {first next : Nat}, other automaton.state first next →
      ∃ inner, Chooses automaton.state greedy first inner next ∧ shape automaton.state inner next) :
    other.Yields automaton haystack anchor (Outcomes.choice greedy outcomes Outcomes.stay) := by
  refine ⟨yields.inside.choice .stay, fun shaped within => ?_⟩
  obtain ⟨inner, chooses, inward⟩ := chosen shaped
  rw [map_choice]
  exact chooses.unfolds (yields.unfolds inward within) (.refl _)

/-- **Copies that may be passed over.** -/
theorem yields_optionalCopies (body : shape.Yields automaton haystack anchor outcomes)
    (count : Nat) :
    (optionalCopies shape greedy count).Yields automaton haystack anchor
      (outcomes.upTo greedy count) := by
  induction count with
  | zero =>
    refine ⟨.stay, ?_⟩
    rintro first next start slots rfl within
    exact .refl _
  | succ count hypothesis =>
    refine (body.followedBy hypothesis).passedOver greedy ?_
    rintro first next ⟨inner, middle, chooses, bodied, others⟩
    exact ⟨inner, chooses, middle, bodied, others⟩

theorem yields_optional (body : shape.Yields automaton haystack anchor outcomes) :
    (optional shape greedy).Yields automaton haystack anchor (outcomes.upTo greedy 1) := by
  have yields := (yields_optionalCopies greedy body 1).followedBy yields_goto
  rwa [Outcomes.followedBy_stay] at yields

theorem yields_bounded (body : shape.Yields automaton haystack anchor outcomes) (min max : Nat) :
    (bounded shape greedy min max).Yields automaton haystack anchor
      ((outcomes.times min).followedBy (outcomes.upTo greedy (max - min))) := by
  have yields := ((yields_exactly body min).followedBy
    (yields_optionalCopies greedy body (max - min))).followedBy yields_goto
  rwa [Outcomes.followedBy_stay] at yields

/-! ### Loops -/

/-- **A loop through the choice before its body**, when each iteration takes some of the
haystack. -/
theorem yields_loop (body : shape.Yields automaton haystack anchor outcomes)
    (consumes : outcomes.Consumes haystack.size) :
    (loop shape greedy).Yields automaton haystack anchor (outcomes.star greedy haystack.size) := by
  refine ⟨body.inside.star, ?_⟩
  rintro choice next start slots ⟨inner, chooses, bodied⟩ within
  induction left : haystack.size - start using Nat.strongRecOn generalizing start slots with
  | _ left hypothesis =>
    rw [Outcomes.star_eq consumes within, map_choice]
    refine chooses.unfolds ((body.unfolds bodied within).trans ?_) (.refl _)
    rw [Outcomes.followedBy, List.map_flatMap]
    refine .flatMap fun outcome member => ?_
    have further := consumes start within slots outcome member
    exact hypothesis (haystack.size - outcome.1) (by omega) further.2 rfl

/-- **A loop through the choice behind its body.** -/
theorem yields_atLeastOnce (body : shape.Yields automaton haystack anchor outcomes)
    (consumes : outcomes.Consumes haystack.size) :
    (atLeastOnce shape greedy).Yields automaton haystack anchor
      (outcomes.followedBy (outcomes.star greedy haystack.size)) := by
  have yields := body.followedBy (yields_loop greedy body consumes)
  exact ⟨yields.inside, fun shaped => yields.unfolds (atLeastOnce_le _ _ shaped)⟩

theorem yields_enteredLoop (body : shape.Yields automaton haystack anchor outcomes)
    (consumes : outcomes.Consumes haystack.size) :
    (enteredLoop shape greedy).Yields automaton haystack anchor
      (outcomes.star greedy haystack.size) := by
  refine (yields_optional greedy (yields_atLeastOnce greedy body consumes)).congr
    fun start within slots => ?_
  rw [Outcomes.star_eq consumes within]
  exact Outcomes.choice_congr (congrFun (congrFun Outcomes.followedBy_stay start) slots) rfl

/-- Repetitions without a greatest number. -/
theorem yields_atLeast (body : shape.Yields automaton haystack anchor outcomes)
    (consumes : outcomes.Consumes haystack.size) (rule : LoopRule) (minLength : Option Nat)
    (min : Nat) :
    (atLeast shape greedy rule minLength min).Yields automaton haystack anchor
      (outcomes.repetition greedy haystack.size min none) := by
  rw [Outcomes.repetition]
  rcases min with _ | _ | count
  · rw [atLeast, Outcomes.times.eq_def, Outcomes.stay_followedBy]
    split
    · exact yields_enteredLoop greedy body consumes
    · exact yields_loop greedy body consumes
  · rw [Nat.zero_add, Outcomes.times_one]
    exact yields_atLeastOnce greedy body consumes
  · rw [Outcomes.times_succ_right, Outcomes.followedBy_assoc]
    exact (yields_exactly body (count + 1)).followedBy (yields_atLeastOnce greedy body consumes)

/-- **Repetitions**, however they are built. -/
theorem yields_repetition (body : shape.Yields automaton haystack anchor outcomes)
    (rule : LoopRule) (minLength : Option Nat) (min : Nat) (max : Option Nat)
    (consumes : max = none → outcomes.Consumes haystack.size) :
    (repetition shape greedy rule minLength min max).Yields automaton haystack anchor
      (outcomes.repetition greedy haystack.size min max) := by
  cases max with
  | none => exact yields_atLeast greedy body (consumes rfl) rule minLength min
  | some max =>
    rw [repetition, Outcomes.repetition]
    split
    · next bounds =>
      obtain ⟨rfl, rfl⟩ := bounds
      rw [Outcomes.times.eq_def, Outcomes.stay_followedBy]
      exact yields_optional greedy body
    · split
      · next same =>
        rw [← same, Nat.sub_self, Outcomes.upTo.eq_def, Outcomes.followedBy_stay]
        exact yields_exactly body min
      · exact yields_bounded greedy body min max

/-! ### Groups and branches -/

/-- **A group** stores where it is entered and where it is left. -/
theorem yields_group (body : shape.Yields automaton haystack anchor outcomes) (index : Nat) :
    (group shape index).Yields automaton haystack anchor fun start slots =>
      (outcomes start (Recorder.slots.enter index start slots)).map fun outcome =>
        (outcome.1, Recorder.slots.leave index start outcome.1 outcome.2) := by
  constructor
  · intro start within slots outcome member
    obtain ⟨inner, innerIn, rfl⟩ := List.mem_map.mp member
    exact body.inside start within _ inner innerIn
  · rintro first next start slots ⟨inner, last, enters, bodied, leaves⟩ within
    have enter : Unfolds automaton haystack anchor [⟨first, start, slots⟩] _ :=
      .step (by simp [enters])
    rw [Thread.successors_of_capture enters] at enter
    refine enter.trans ((body.unfolds bodied within).trans ?_)
    rw [List.map_map]
    refine .map fun outcome member => ?_
    have leave : Unfolds automaton haystack anchor [Thread.arrived last outcome] _ :=
      .step (by simp [Thread.arrived, leaves])
    rwa [Thread.successors_of_capture leaves] at leave

theorem Yields.inside_of_mem {branches : List Shape} {results : List (Outcomes Slots)}
    (all : List.Forall₂ (Yields automaton haystack anchor) branches results) :
    ∀ outcomes ∈ results, outcomes.Inside haystack.size := by
  induction all with
  | nil => exact fun _ member => (List.not_mem_nil member).elim
  | cons yields _ hypothesis => exact List.forall_mem_cons.mpr ⟨yields.inside, hypothesis⟩

/-- The threads that come out of branches, those of an earlier branch first. -/
theorem Yields.orElse {branches : List Shape} {entries : List Nat} {next start : Nat}
    {slots : Slots} {results : List (Outcomes Slots)}
    (all : List.Forall₂ (Yields automaton haystack anchor) branches results)
    (entered :
      List.Forall₂ (fun branch entry => branch automaton.state entry next) branches entries)
    (within : start ≤ haystack.size) : Unfolds automaton haystack anchor
      (entries.map (⟨·, start, slots⟩))
      ((results.flatMap fun outcomes => outcomes start slots).map (Thread.arrived next)) := by
  induction all generalizing entries with
  | nil =>
    cases entered
    exact .refl []
  | cons yields _ hypothesis =>
    cases entered with
    | cons enters entered =>
      rw [List.flatMap_cons, List.map_append]
      exact (yields.unfolds enters within).append (hypothesis entered)

/-- **Branches** are tried one after the other. -/
theorem yields_branching {branches : List Shape} {results : List (Outcomes Slots)}
    (all : List.Forall₂ (Yields automaton haystack anchor) branches results) :
    (branching branches).Yields automaton haystack anchor fun start slots =>
      results.flatMap fun outcomes => outcomes start slots := by
  constructor
  · intro start within slots outcome member
    obtain ⟨outcomes, outcomesIn, member⟩ := List.mem_flatMap.mp member
    exact Yields.inside_of_mem all outcomes outcomesIn start within slots outcome member
  · rintro first next start slots ⟨entries, chooses, entered⟩ within
    refine (Unfolds.step (by simp [chooses])).trans ?_
    rw [Thread.successors_of_splits chooses]
    exact Yields.orElse all entered within

end Shape

/-! ### Patterns -/

namespace Pattern

variable {automaton : Automaton} {haystack : Array UInt8} {anchor : Anchor}

theorem outcomesAny_eq {σ : Type} (recorder : Recorder σ) (branches : List Pattern) :
    outcomesAny haystack recorder branches = fun start record =>
      (branches.map (outcomes haystack recorder)).flatMap fun results => results start record := by
  funext start record
  induction branches with
  | nil => rfl
  | cons branch rest hypothesis => exact congrArg _ hypothesis

mutual

/-- **The fragment of a pattern yields the outcomes of the pattern**, in order and with what is
stored of its groups, when every iteration of a loop takes some of the haystack. -/
theorem shape_yields (rule : LoopRule) : (pattern : Pattern) → pattern.Ordered →
    pattern.LoopsConsume →
    (pattern.shape rule).Yields automaton haystack anchor (pattern.outcomes haystack Recorder.slots)
  | .empty, _, _ => Shape.yields_goto
  | .literal bytes, _, _ => Shape.yields_literal bytes
  | .byteClass set, _, _ | .charClass set, _, _ => Shape.yields_class set
  | .look assertion, _, _ => Shape.yields_look assertion
  | .wideLook _, _, _ => Shape.yields_fail
  | .repetition min max greedy body, ordered, consume => by
    obtain ⟨-, inner⟩ := ordered.repetition
    obtain ⟨nonempty, within⟩ := consume.repetition
    refine Shape.yields_repetition greedy (shape_yields rule body inner within) rule
      body.minLength min max ?_
    rintro rfl
    exact consumes_outcomes inner (nonempty haystack)
  | .group index body, ordered, consume =>
    Shape.yields_group (shape_yields rule body ordered.group.2 consume.group.2) index
  | .concat [], _, _ => Shape.yields_goto
  | .concat (part :: rest), ordered, consume => by
    obtain ⟨first, others⟩ := List.forall_mem_cons.mp ordered.concat
    obtain ⟨first', others'⟩ := List.forall_mem_cons.mp consume.concat
    exact partsShape_yields rule rest others others' (shape_yields rule part first first')
  | .alternation [], _, _ => Shape.yields_fail
  | .alternation [branch], ordered, consume => by
    have yields := shape_yields rule branch (ordered.alternation _ List.mem_cons_self)
      (consume.alternation _ List.mem_cons_self)
    exact yields.congr fun start _ slots => (List.append_nil _).symm
  | .alternation (one :: other :: rest), ordered, consume => by
    have branches := branchShapes_yields rule (one :: other :: rest) ordered.alternation
      consume.alternation
    have yields := (Shape.yields_branching branches).followedBy Shape.yields_goto
    rw [Outcomes.followedBy_stay, ← outcomesAny_eq] at yields
    exact yields

theorem partsShape_yields (rule : LoopRule) : (parts : List Pattern) →
    (∀ part ∈ parts, part.Ordered) → (∀ part ∈ parts, part.LoopsConsume) → {whole : Shape} →
    {results : Outcomes Slots} → whole.Yields automaton haystack anchor results →
    (partsShape rule whole parts).Yields automaton haystack anchor
      (results.followedBy (outcomesAll haystack Recorder.slots parts))
  | [], _, _, _, _, yields => by
    rw [outcomesAll, Outcomes.followedBy_stay]
    exact yields
  | part :: rest, ordered, consume, _, _, yields => by
    obtain ⟨first, others⟩ := List.forall_mem_cons.mp ordered
    obtain ⟨first', others'⟩ := List.forall_mem_cons.mp consume
    rw [outcomesAll, ← Outcomes.followedBy_assoc]
    exact partsShape_yields rule rest others others'
      (yields.followedBy (shape_yields rule part first first'))

theorem branchShapes_yields (rule : LoopRule) : (branches : List Pattern) →
    (∀ branch ∈ branches, branch.Ordered) → (∀ branch ∈ branches, branch.LoopsConsume) →
    List.Forall₂ (Shape.Yields automaton haystack anchor) (branchShapes rule branches)
      (branches.map (outcomes haystack Recorder.slots))
  | [], _, _ => .nil
  | branch :: rest, ordered, consume => by
    obtain ⟨first, others⟩ := List.forall_mem_cons.mp ordered
    obtain ⟨first', others'⟩ := List.forall_mem_cons.mp consume
    exact .cons (shape_yields rule branch first first')
      (branchShapes_yields rule rest others others')

end

end Pattern

end Crosscheck
