/-
**Paths through fragments.**

A path of configurations through a fragment enters it at one position and leaves it at another. Each
shape decides between which positions there are paths. There is a path for every reading, and every
path that goes on to an accepting state leaves the fragment after a reading, with steps to spare:
the induction on a loop is on the steps that are left, so a body that reads nothing does no harm.

* `Leads`: paths, by their numbers of steps;
* `Shape.Reads`: between which positions there are paths through a fragment;
* `Pattern.shape_reads`: the paths through the fragment of a pattern are its matches.
-/
import Crosscheck.Proofs.Automaton.Shape
import Crosscheck.Proofs.Pattern.Matches
import Crosscheck.Proofs.Search.Thread

namespace Crosscheck

open Thread (followers)

/-- Between which positions a state is passed. -/
def State.reading (haystack : Array UInt8) : State → Reading
  | .byte _ value => fun start stop => stop = start + 1 ∧ haystack[start]? = some value
  | .ranges _ set => Pattern.IsAmong haystack set
  | .goto _ (some look) => fun start stop => start = stop ∧ look.holds haystack start = true
  | .goto _ none | .splits .. | .capture .. | .fail | .accept => Reading.stay

/-- Paths from one configuration to another, with the number of their steps. -/
inductive Leads (automaton : Automaton) (haystack : Array UInt8) : Nat → Place → Place → Prop where
  /-- The path that stays where it is. -/
  | here (place : Place) : Leads automaton haystack 0 place place
  /-- A step before a path. -/
  | step {count : Nat} {place next goal : Place} : next ∈ followers automaton haystack place →
      Leads automaton haystack count next goal → Leads automaton haystack (count + 1) place goal

section Paths

variable {automaton : Automaton} {haystack : Array UInt8}

/-- **One step**: to a target of the state, between positions between which the state is passed. -/
theorem mem_followers {index start : Nat} {next : Place} :
    next ∈ followers automaton haystack (index, start) ↔
      next.1 ∈ (automaton.state index).targets ∧
        (automaton.state index).reading haystack start next.2 := by
  obtain ⟨target, stop⟩ := next
  rw [followers]
  cases same : automaton.state index with
  | goto target look =>
    cases look with
    | none =>
      rw [Thread.successors_of_goto same]
      simp [State.targets, State.reading, Reading.stay, Thread.configuration, Thread.moved, eq_comm]
    | some look =>
      rw [Thread.successors_of_look same]
      by_cases holds : look.holds haystack start <;>
        simp [State.targets, State.reading, Thread.configuration, Thread.moved, holds, eq_comm]
  | splits targets reverse =>
    have member : target ∈ State.branches targets reverse ↔ target ∈ targets := by
      cases reverse <;> simp [State.branches]
    rw [Thread.successors_of_splits same]
    simp [State.targets, State.reading, Reading.stay, Thread.configuration, Thread.moved, member]
  | capture target slot =>
    rw [Thread.successors_of_capture same]
    simp [State.targets, State.reading, Reading.stay, Thread.configuration, eq_comm]
  | byte target value =>
    rw [Thread.successors_of_byte same]
    by_cases present : haystack[start]? = some value <;>
      simp [State.targets, State.reading, Thread.configuration, present]
  | ranges target set =>
    rw [Thread.successors_of_ranges same]
    simp only [State.targets, State.reading, Pattern.IsAmong]
    cases haystack[start]? with
    | none => simp
    | some byte =>
      by_cases inside : RangeSet.contains set byte.toNat <;> simp [Thread.configuration, inside]
  | fail =>
    rw [Thread.successors_of_fail same]
    simp [State.targets]
  | accept =>
    rw [Thread.successors_of_accept same]
    simp [State.targets]

namespace Leads

variable {place middle goal : Place} {count more : Nat}

/-- One path behind the other. -/
theorem trans (first : Leads automaton haystack count place middle)
    (second : Leads automaton haystack more middle goal) :
    Leads automaton haystack (more + count) place goal := by
  induction first with
  | here => exact second
  | step follows _ hypothesis => exact .step follows (hypothesis second)

/-- A path to elsewhere makes a step. -/
theorem exists_next_of_ne (leads : Leads automaton haystack count place goal)
    (going : place ≠ goal) :
    ∃ next rest, count = rest + 1 ∧ next ∈ followers automaton haystack place ∧
      Leads automaton haystack rest next goal := by
  cases leads with
  | here => exact absurd rfl going
  | step follows leads => exact ⟨_, _, rfl, follows, leads⟩

/-- **A path to an accepting state** makes a step from every other state. -/
theorem exists_next (leads : Leads automaton haystack count place goal)
    (accepts : automaton.state goal.1 = .accept) (going : automaton.state place.1 ≠ .accept) :
    ∃ next rest, count = rest + 1 ∧ next ∈ followers automaton haystack place ∧
      Leads automaton haystack rest next goal :=
  leads.exists_next_of_ne fun same => going (same ▸ accepts)

/-- What every step keeps, a path keeps. -/
theorem invariant (leads : Leads automaton haystack count place goal) (property : Place → Prop)
    (step : ∀ place, property place → ∀ next ∈ followers automaton haystack place, property next)
    (here : property place) : property goal := by
  induction leads with
  | here => exact here
  | step follows _ hypothesis => exact hypothesis (step _ here _ follows)

/-- A path does not lead back in the haystack. -/
theorem position_le (leads : Leads automaton haystack count place goal) : place.2 ≤ goal.2 := by
  refine leads.invariant (fun other => place.2 ≤ other.2) (fun other before next follows => ?_)
    (Nat.le_refl _)
  obtain ⟨thread, successor, rfl⟩ := List.mem_map.mp follows
  exact Nat.le_trans before (Thread.position_of_successor successor).1

end Leads

end Paths

/-! ### Shapes -/

namespace Shape

/-- Between which positions there are paths through fragments of a shape. -/
structure Reads (automaton : Automaton) (haystack : Array UInt8) (shape : Shape)
    (reading : Reading) : Prop where
  /-- There is a path for every reading. -/
  complete : ∀ {first next start stop : Nat}, shape automaton.state first next →
    reading start stop → ∃ count, Leads automaton haystack count (first, start) (next, stop)
  /-- A path to an accepting state leaves the fragment after a reading. -/
  sound : ∀ {first next start count : Nat} {goal : Place}, shape automaton.state first next →
    automaton.state goal.1 = .accept → Leads automaton haystack count (first, start) goal →
    ∃ stop rest, rest ≤ count ∧ reading start stop ∧
      Leads automaton haystack rest (next, stop) goal

variable {automaton : Automaton} {haystack : Array UInt8} {shape other : Shape}
  {reading reading' : Reading}

/-- One state that has one target, whichever it is. -/
theorem reads_single {state : State} (targets : ∀ next, (state.redirect next).targets = [next])
    (same : ∀ next, (state.redirect next).reading haystack = reading) :
    (single state).Reads automaton haystack reading := by
  constructor
  · intro first next start stop here read
    refine ⟨1, .step (mem_followers.mpr ?_) (.here _)⟩
    rw [show automaton.state first = state.redirect next from here, targets, same]
    exact ⟨List.mem_singleton_self _, read⟩
  · intro first next start count goal here accepts leads
    have going : automaton.state first ≠ .accept := by
      intro final
      have none := targets next
      rw [← show automaton.state first = state.redirect next from here, final] at none
      cases none
    obtain ⟨⟨target, stop⟩, rest, rfl, follows, leads⟩ := leads.exists_next accepts going
    rw [mem_followers, show automaton.state first = state.redirect next from here, targets, same,
      List.mem_singleton] at follows
    obtain ⟨rfl, read⟩ := follows
    exact ⟨stop, rest, Nat.le_succ _, read, leads⟩

theorem reads_goto : (single (.goto 0 none)).Reads automaton haystack Reading.stay :=
  reads_single (fun _ => rfl) fun _ => rfl

theorem reads_byte (byte : UInt8) : (single (.byte 0 byte)).Reads automaton haystack
    fun start stop => stop = start + 1 ∧ haystack[start]? = some byte :=
  reads_single (fun _ => rfl) fun _ => rfl

/-- No path leads out of a state that fails. -/
theorem reads_fail : (single .fail).Reads automaton haystack fun _ _ => False := by
  constructor
  · intro first next start stop here read
    exact read.elim
  · intro first next start count goal here accepts leads
    have fails : automaton.state first = .fail := here
    obtain ⟨place, rest, -, follows, -⟩ := leads.exists_next accepts (by simp [fails])
    simp [mem_followers, fails, State.targets] at follows

theorem reads_class (set : RangeSet) :
    (single (if set.isEmpty then .fail else .ranges 0 set)).Reads automaton haystack
      (Pattern.IsAmong haystack set) := by
  cases set with
  | nil =>
    have nothing : Pattern.IsAmong haystack [] = fun _ _ => False := by
      funext start stop
      simp [Pattern.IsAmong, RangeSet.contains]
    rw [nothing]
    exact reads_fail
  | cons range rest => exact reads_single (fun _ => rfl) fun _ => rfl

/-- **One fragment behind the other.** -/
theorem Reads.followedBy (one : shape.Reads automaton haystack reading)
    (two : other.Reads automaton haystack reading') :
    (shape.followedBy other).Reads automaton haystack (reading.followedBy reading') := by
  constructor
  · rintro first next start stop ⟨middle, early, late⟩ ⟨between, read, read'⟩
    obtain ⟨count, leads⟩ := one.complete early read
    obtain ⟨more, leads'⟩ := two.complete late read'
    exact ⟨_, leads.trans leads'⟩
  · rintro first next start count goal ⟨middle, early, late⟩ accepts leads
    obtain ⟨between, rest, less, read, leads⟩ := one.sound early accepts leads
    obtain ⟨stop, rest', less', read', leads⟩ := two.sound late accepts leads
    exact ⟨stop, rest', Nat.le_trans less' less, ⟨between, read, read'⟩, leads⟩

/-! ### Copies -/

/-- A reading before any number of readings. -/
theorem reads_bytesAfter (whole : shape.Reads automaton haystack reading) (bytes : Bytes) :
    (bytesAfter shape bytes).Reads automaton haystack
      (reading.followedBy (Pattern.Spells haystack bytes)) := by
  induction bytes generalizing shape reading with
  | nil =>
    rw [Pattern.spells_nil, Reading.followedBy_stay]
    exact whole
  | cons byte rest hypothesis =>
    rw [Pattern.spells_cons, ← Reading.followedBy_assoc]
    exact hypothesis (whole.followedBy (reads_byte byte))

/-- The bytes of a literal, one after the other. -/
theorem reads_literal (bytes : Bytes) :
    (literal bytes).Reads automaton haystack (Pattern.Spells haystack bytes) := by
  cases bytes with
  | nil =>
    rw [Pattern.spells_nil]
    exact reads_goto
  | cons byte rest =>
    rw [Pattern.spells_cons]
    exact reads_bytesAfter (reads_byte byte) rest

theorem reads_copiesAfter (whole : other.Reads automaton haystack reading')
    (body : shape.Reads automaton haystack reading) (count : Nat) :
    (copiesAfter shape other count).Reads automaton haystack
      (reading'.followedBy (reading.times count)) := by
  induction count generalizing other reading' with
  | zero =>
    rw [Reading.times, Reading.followedBy_stay]
    exact whole
  | succ count hypothesis =>
    rw [Reading.times, ← Reading.followedBy_assoc]
    exact hypothesis (whole.followedBy body)

/-- **Copies of a body** read as many times. -/
theorem reads_exactly (body : shape.Reads automaton haystack reading) (count : Nat) :
    (exactly shape count).Reads automaton haystack (reading.times count) := by
  cases count with
  | zero => exact reads_goto
  | succ count => exact reads_copiesAfter body body count

/-! ### Choices -/

namespace Chooses

variable {greedy : Bool} {choice one two start count : Nat} {goal : Place}

theorem mem_followers_iff (chooses : Chooses automaton.state greedy choice one two) {next : Place} :
    next ∈ followers automaton haystack (choice, start) ↔
      next = (one, start) ∨ next = (two, start) := by
  have same : automaton.state choice = .splits [one, two] (!greedy) := chooses
  obtain ⟨target, stop⟩ := next
  rw [mem_followers, same]
  simp only [State.targets, State.reading, Reading.stay, List.mem_cons, List.not_mem_nil, or_false,
    Prod.mk.injEq, ← or_and_right, eq_comm]

/-- A path goes the preferred way. -/
theorem leads_one (chooses : Chooses automaton.state greedy choice one two)
    (leads : Leads automaton haystack count (one, start) goal) :
    Leads automaton haystack (count + 1) (choice, start) goal :=
  .step (chooses.mem_followers_iff.mpr (.inl rfl)) leads

/-- A path goes the other way. -/
theorem leads_other (chooses : Chooses automaton.state greedy choice one two)
    (leads : Leads automaton haystack count (two, start) goal) :
    Leads automaton haystack (count + 1) (choice, start) goal :=
  .step (chooses.mem_followers_iff.mpr (.inr rfl)) leads

/-- **A path through a choice** goes one of the two ways. -/
theorem cases (chooses : Chooses automaton.state greedy choice one two)
    (accepts : automaton.state goal.1 = .accept)
    (leads : Leads automaton haystack count (choice, start) goal) :
    ∃ rest, count = rest + 1 ∧ (Leads automaton haystack rest (one, start) goal ∨
      Leads automaton haystack rest (two, start) goal) := by
  have same : automaton.state choice = .splits [one, two] (!greedy) := chooses
  obtain ⟨next, rest, rfl, follows, leads⟩ := leads.exists_next accepts (by simp [same])
  rcases chooses.mem_followers_iff.mp follows with rfl | rfl
  · exact ⟨rest, rfl, .inl leads⟩
  · exact ⟨rest, rfl, .inr leads⟩

end Chooses

variable (greedy : Bool)

/-- **Copies that may be passed over.** -/
theorem reads_optionalCopies (body : shape.Reads automaton haystack reading) (count : Nat) :
    (optionalCopies shape greedy count).Reads automaton haystack
      (reading.between 0 (some count)) := by
  induction count with
  | zero =>
    rw [Reading.between_zero_zero]
    constructor
    · rintro first next start stop rfl rfl
      exact ⟨0, .here _⟩
    · rintro first next start count goal rfl accepts leads
      exact ⟨start, count, Nat.le_refl _, rfl, leads⟩
  | succ count hypothesis =>
    constructor
    · rintro first next start stop ⟨inner, middle, choice, bodied, others⟩ read
      rcases Reading.between_zero_succ.mp read with rfl | ⟨between, once, more⟩
      · exact ⟨1, choice.leads_other (.here _)⟩
      · obtain ⟨_, leads⟩ := body.complete bodied once
        obtain ⟨_, leads'⟩ := hypothesis.complete others more
        exact ⟨_, choice.leads_one (leads.trans leads')⟩
    · rintro first next start total goal ⟨inner, middle, choice, bodied, others⟩ accepts leads
      obtain ⟨rest, rfl, leads | leads⟩ := choice.cases accepts leads
      · obtain ⟨between, rest', less, once, leads⟩ := body.sound bodied accepts leads
        obtain ⟨stop, rest'', less', more, leads⟩ := hypothesis.sound others accepts leads
        exact ⟨stop, rest'', by omega, Reading.between_zero_succ.mpr (.inr ⟨between, once, more⟩),
          leads⟩
      · exact ⟨start, rest, Nat.le_succ _, Reading.between_zero_succ.mpr (.inl rfl), leads⟩

theorem reads_optional (body : shape.Reads automaton haystack reading) :
    (optional shape greedy).Reads automaton haystack (reading.between 0 (some 1)) := by
  have reads := (reads_optionalCopies greedy body 1).followedBy reads_goto
  rwa [Reading.followedBy_stay] at reads

/-- Copies and then copies that may be passed over, whatever the bounds are. -/
theorem reads_boundedCopies (body : shape.Reads automaton haystack reading) (min max : Nat) :
    (bounded shape greedy min max).Reads automaton haystack
      ((reading.times min).followedBy (reading.between 0 (some (max - min)))) := by
  have reads := ((reads_exactly body min).followedBy
    (reads_optionalCopies greedy body (max - min))).followedBy reads_goto
  rwa [Reading.followedBy_stay] at reads

/-- Copies of which some may be passed over. -/
theorem reads_bounded (body : shape.Reads automaton haystack reading) {min max : Nat}
    (ordered : min ≤ max) :
    (bounded shape greedy min max).Reads automaton haystack (reading.between min (some max)) := by
  have within : ∀ most ∈ some max, min ≤ most := fun most same => Option.some.inj same ▸ ordered
  have same := Reading.times_followedBy_between reading 0 within
  exact same ▸ reads_boundedCopies greedy body min max

/-! ### Loops -/

/-- **A loop through the choice before its body.** -/
theorem reads_loop (body : shape.Reads automaton haystack reading) :
    (loop shape greedy).Reads automaton haystack (reading.between 0 none) := by
  constructor
  · rintro first next start stop ⟨inner, choice, bodied⟩ ⟨count, -, -, read⟩
    induction count generalizing start with
    | zero => exact ⟨1, read ▸ choice.leads_other (.here _)⟩
    | succ count hypothesis =>
      obtain ⟨middle, once, more⟩ := read
      obtain ⟨_, leads⟩ := body.complete bodied once
      obtain ⟨_, leads'⟩ := hypothesis more
      exact ⟨_, choice.leads_one (leads.trans leads')⟩
  · rintro first next start count goal ⟨inner, choice, bodied⟩ accepts leads
    -- Each way round takes a step at the choice, whatever the body reads.
    induction count using Nat.strongRecOn generalizing start with
    | _ count hypothesis =>
      obtain ⟨rest, rfl, leads | leads⟩ := choice.cases accepts leads
      · obtain ⟨middle, rest', less, once, leads⟩ := body.sound bodied accepts leads
        obtain ⟨stop, rest'', less', more, leads⟩ := hypothesis rest' (by omega) leads
        exact ⟨stop, rest'', by omega, (Reading.between_cons once more).weaken (Nat.zero_le _),
          leads⟩
      · exact ⟨start, rest, Nat.le_succ _, Reading.between_zero_refl, leads⟩

/-- **A loop through the choice behind its body.** -/
theorem reads_atLeastOnce (body : shape.Reads automaton haystack reading) :
    (atLeastOnce shape greedy).Reads automaton haystack (reading.between 1 none) := by
  have reads := body.followedBy (reads_loop greedy body)
  have within : ∀ most ∈ (none : Option Nat), 1 ≤ most := by simp
  have same := Reading.times_followedBy_between reading 0 within
  rw [Reading.times_one] at same
  rw [← show _ = reading.between 1 none from same]
  exact ⟨fun shaped => reads.complete (atLeastOnce_le _ _ shaped),
    fun shaped => reads.sound (atLeastOnce_le _ _ shaped)⟩

theorem reads_enteredLoop (body : shape.Reads automaton haystack reading) :
    (enteredLoop shape greedy).Reads automaton haystack (reading.between 0 none) := by
  rw [← Reading.between_zero_one]
  exact reads_optional greedy (reads_atLeastOnce greedy body)

/-- Repetitions without a greatest number. -/
theorem reads_atLeast (body : shape.Reads automaton haystack reading) (rule : LoopRule)
    (minLength : Option Nat) (min : Nat) :
    (atLeast shape greedy rule minLength min).Reads automaton haystack
      (reading.between min none) := by
  rcases min with _ | _ | count
  · rw [atLeast]
    split
    · exact reads_enteredLoop greedy body
    · exact reads_loop greedy body
  · exact reads_atLeastOnce greedy body
  · have within : ∀ most ∈ (none : Option Nat), count + 1 ≤ most := by simp
    have same := Reading.times_followedBy_between reading 1 within
    exact same ▸ (reads_exactly body (count + 1)).followedBy (reads_atLeastOnce greedy body)

/-- **Repetitions**, however they are built. -/
theorem reads_repetition (body : shape.Reads automaton haystack reading) (rule : LoopRule)
    (minLength : Option Nat) {min : Nat} {max : Option Nat}
    (ordered : ∀ most ∈ max, min ≤ most) :
    (repetition shape greedy rule minLength min max).Reads automaton haystack
      (reading.between min max) := by
  cases max with
  | none => exact reads_atLeast greedy body rule minLength min
  | some max =>
    rw [repetition]
    split
    · next bounds =>
      obtain ⟨rfl, rfl⟩ := bounds
      exact reads_optional greedy body
    · split
      · next same =>
        subst same
        rw [Reading.between_self]
        exact reads_exactly body min
      · exact reads_bounded greedy body (ordered max rfl)

/-! ### Groups and branches -/

/-- Captures read nothing. -/
theorem reads_group (body : shape.Reads automaton haystack reading) (index : Nat) :
    (group shape index).Reads automaton haystack reading := by
  have stores (slot : Nat) :
      (single (.capture 0 slot)).Reads automaton haystack Reading.stay :=
    reads_single (fun _ => rfl) fun _ => rfl
  have reads := ((stores (index * 2)).followedBy body).followedBy (stores (index * 2 + 1))
  rw [Reading.stay_followedBy, Reading.followedBy_stay] at reads
  constructor
  · rintro first next start stop ⟨inner, last, starts, bodied, ends⟩ read
    exact reads.complete ⟨last, ⟨inner, starts, bodied⟩, ends⟩ read
  · rintro first next start count goal ⟨inner, last, starts, bodied, ends⟩ accepts leads
    exact reads.sound ⟨last, ⟨inner, starts, bodied⟩, ends⟩ accepts leads

section Branches

variable {branches : List Shape} {readings : List Reading} {entries : List Nat} {start next : Nat}

/-- Some branch is entered for each reading. -/
theorem exists_entry (all : List.Forall₂ (Reads automaton haystack) branches readings)
    (entered :
      List.Forall₂ (fun branch entry => branch automaton.state entry next) branches entries)
    {stop : Nat} (member : reading ∈ readings) (read : reading start stop) :
    ∃ entry ∈ entries, ∃ count, Leads automaton haystack count (entry, start) (next, stop) := by
  induction all generalizing entries with
  | nil => cases member
  | cons reads _ hypothesis =>
    cases entered with
    | cons enters entered =>
      rcases List.mem_cons.mp member with rfl | member
      · exact ⟨_, List.mem_cons_self, reads.complete enters read⟩
      · obtain ⟨entry, entryIn, leads⟩ := hypothesis entered member
        exact ⟨entry, List.mem_cons_of_mem _ entryIn, leads⟩

/-- Some reading is that of the branch that was entered. -/
theorem exists_reading (all : List.Forall₂ (Reads automaton haystack) branches readings)
    (entered :
      List.Forall₂ (fun branch entry => branch automaton.state entry next) branches entries)
    {entry count : Nat} {goal : Place} (member : entry ∈ entries)
    (accepts : automaton.state goal.1 = .accept)
    (leads : Leads automaton haystack count (entry, start) goal) :
    ∃ stop rest, rest ≤ count ∧ (∃ reading ∈ readings, reading start stop) ∧
      Leads automaton haystack rest (next, stop) goal := by
  induction all generalizing entries with
  | nil =>
    cases entered
    cases member
  | cons reads _ hypothesis =>
    cases entered with
    | cons enters entered =>
      rcases List.mem_cons.mp member with rfl | member
      · obtain ⟨stop, rest, less, read, leads⟩ := reads.sound enters accepts leads
        exact ⟨stop, rest, less, ⟨_, List.mem_cons_self, read⟩, leads⟩
      · obtain ⟨stop, rest, less, ⟨reading, readingIn, read⟩, leads⟩ := hypothesis entered member
        exact ⟨stop, rest, less, ⟨reading, List.mem_cons_of_mem _ readingIn, read⟩, leads⟩

/-- **Branches** read what one of them reads. -/
theorem reads_branching (all : List.Forall₂ (Reads automaton haystack) branches readings) :
    (branching branches).Reads automaton haystack fun start stop =>
      ∃ reading ∈ readings, reading start stop := by
  constructor
  · rintro first next start stop ⟨entries, choice, entered⟩ ⟨reading, member, read⟩
    obtain ⟨entry, entryIn, count, leads⟩ := exists_entry all entered member read
    refine ⟨count + 1, .step (mem_followers.mpr ?_) leads⟩
    rw [choice]
    exact ⟨entryIn, rfl⟩
  · rintro first next start count goal ⟨entries, choice, entered⟩ accepts leads
    obtain ⟨⟨entry, stop⟩, rest, rfl, follows, leads⟩ :=
      leads.exists_next accepts (by simp [choice])
    rw [mem_followers, choice] at follows
    obtain ⟨entryIn, rfl⟩ : entry ∈ entries ∧ start = stop := follows
    obtain ⟨stop, rest', less, read, leads⟩ := exists_reading all entered entryIn accepts leads
    exact ⟨stop, rest', Nat.le_succ_of_le less, read, leads⟩

end Branches

end Shape

/-! ### Patterns -/

namespace Pattern

variable {automaton : Automaton} {haystack : Array UInt8}

theorem matchesAny_eq (branches : List Pattern) : MatchesAny haystack branches =
    fun start stop => ∃ reading ∈ branches.map (Matches haystack), reading start stop := by
  funext start stop
  induction branches with
  | nil => simp [MatchesAny]
  | cons branch rest hypothesis => simp [MatchesAny, hypothesis]

mutual

/-- **The paths through the fragment of a pattern are its matches**, loops around bodies that match
nothing included. -/
theorem shape_reads (rule : LoopRule) : (pattern : Pattern) → pattern.Ordered →
    (pattern.shape rule).Reads automaton haystack (pattern.Matches haystack)
  | .empty, _ => Shape.reads_goto
  | .literal bytes, _ => Shape.reads_literal bytes
  | .byteClass set, _ | .charClass set, _ => Shape.reads_class set
  | .look _, _ => Shape.reads_single (fun _ => rfl) fun _ => rfl
  | .wideLook _, _ => Shape.reads_fail
  | .repetition min max greedy body, ordered => by
    obtain ⟨bounds, inner⟩ := ordered.repetition
    exact Shape.reads_repetition greedy (shape_reads rule body inner) rule body.minLength bounds
  | .group index body, ordered => Shape.reads_group (shape_reads rule body ordered.group.2) index
  | .concat [], _ => Shape.reads_goto
  | .concat (part :: rest), ordered => by
    obtain ⟨first, others⟩ := List.forall_mem_cons.mp ordered.concat
    exact partsShape_reads rule rest others (shape_reads rule part first)
  | .alternation [], _ => Shape.reads_fail
  | .alternation [branch], ordered => by
    have reads := shape_reads rule branch (ordered.alternation _ List.mem_cons_self)
    have same : Matches haystack (.alternation [branch]) = Matches haystack branch := by
      funext start stop
      simp [Matches, MatchesAny]
    exact same ▸ reads
  | .alternation (one :: other :: rest), ordered => by
    have branches := branchShapes_reads rule (one :: other :: rest) ordered.alternation
    have reads := (Shape.reads_branching branches).followedBy Shape.reads_goto
    rw [Reading.followedBy_stay, ← matchesAny_eq] at reads
    exact reads

theorem partsShape_reads (rule : LoopRule) : (parts : List Pattern) →
    (∀ part ∈ parts, part.Ordered) → {whole : Shape} → {reading : Reading} →
    whole.Reads automaton haystack reading →
    (partsShape rule whole parts).Reads automaton haystack
      (reading.followedBy (MatchesAll haystack parts))
  | [], _, _, _, reads => by
    rw [MatchesAll, Reading.followedBy_stay]
    exact reads
  | part :: rest, ordered, _, _, reads => by
    obtain ⟨first, others⟩ := List.forall_mem_cons.mp ordered
    rw [MatchesAll, ← Reading.followedBy_assoc]
    exact partsShape_reads rule rest others (reads.followedBy (shape_reads rule part first))

theorem branchShapes_reads (rule : LoopRule) : (branches : List Pattern) →
    (∀ branch ∈ branches, branch.Ordered) →
    List.Forall₂ (Shape.Reads automaton haystack) (branchShapes rule branches)
      (branches.map (Matches haystack))
  | [], _ => .nil
  | branch :: rest, ordered => by
    obtain ⟨first, others⟩ := List.forall_mem_cons.mp ordered
    exact .cons (shape_reads rule branch first) (branchShapes_reads rule rest others)

end

end Pattern

end Crosscheck
