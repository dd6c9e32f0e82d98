/-
**Outcomes in order of preference.**

A pattern has a list of outcomes at a position: where its matches end, and what was recorded on the
way, the preferred outcome first. Branches are tried in order, and parts one after the other. A
repetition is as many copies as there must be, and then further copies one inside the other, each of
which is preferred to stopping or not.

* `Recorder`, `Recorder.spans`: what is recorded of groups;
* `Pattern.outcomes`: the outcomes of a pattern;
* `Outcomes.star_eq`: any number of copies is one copy before any number of copies, or none;
* `Pattern.reads_outcomes`: outcomes are matches.
-/
import Crosscheck.Proofs.Pattern.Matches
import Crosscheck.Search.Captures
import Mathlib.Data.List.Basic

namespace Crosscheck

/-- The outcomes of a pattern at a position: ends, and what was recorded up to there. -/
abbrev Outcomes (σ : Type) := Nat → σ → List (Nat × σ)

namespace Outcomes

variable {σ : Type}

/-- Nothing is read. -/
def stay : Outcomes σ := fun start record => [(start, record)]

/-- Nothing is found. -/
def never : Outcomes σ := fun _ _ => []

/-- A number of bytes are read where that is possible. -/
def read (length : Nat) (passes : Nat → Bool) : Outcomes σ := fun start record =>
  if passes start then [(start + length, record)] else []

/-- The outcomes of one behind those of the other. -/
def followedBy (one other : Outcomes σ) : Outcomes σ := fun start record =>
  (one start record).flatMap fun outcome => other outcome.1 outcome.2

/-- The outcomes of one before those of the other. -/
def orElse (one other : Outcomes σ) : Outcomes σ := fun start record =>
  one start record ++ other start record

/-- A choice that prefers its first way if it is greedy. -/
def choice (greedy : Bool) (one other : Outcomes σ) : Outcomes σ :=
  if greedy then one.orElse other else other.orElse one

/-- A number of copies one after the other. -/
def times (body : Outcomes σ) : Nat → Outcomes σ
  | 0 => stay
  | count + 1 => body.followedBy (body.times count)

/-- Optional copies, each inside the one before. -/
def upTo (body : Outcomes σ) (greedy : Bool) : Nat → Outcomes σ
  | 0 => stay
  | count + 1 => choice greedy (body.followedBy (body.upTo greedy count)) stay

/-- Any number of copies, as a haystack of the given size has bytes for: each copy takes at least
one of them. -/
def star (body : Outcomes σ) (greedy : Bool) (size : Nat) : Outcomes σ := fun start =>
  body.upTo greedy (size - start) start

/-- A repetition: the copies there must be, and then those there may be. -/
def repetition (body : Outcomes σ) (greedy : Bool) (size min : Nat) (max : Option Nat) :
    Outcomes σ :=
  (body.times min).followedBy <| match max with
    | none => body.star greedy size
    | some max => body.upTo greedy (max - min)

/-! ### Outcomes in a haystack -/

/-- All outcomes from inside a haystack end inside it. -/
def Inside (outcomes : Outcomes σ) (size : Nat) : Prop :=
  ∀ start ≤ size, ∀ record, ∀ outcome ∈ outcomes start record,
    start ≤ outcome.1 ∧ outcome.1 ≤ size

/-- All outcomes from inside a haystack take some of it. -/
def Consumes (outcomes : Outcomes σ) (size : Nat) : Prop :=
  ∀ start ≤ size, ∀ record, ∀ outcome ∈ outcomes start record,
    start < outcome.1 ∧ outcome.1 ≤ size

variable {body one other : Outcomes σ} {greedy : Bool} {size start : Nat} {record : σ}

theorem stay_followedBy : stay.followedBy other = other := by
  funext start record
  simp [followedBy, stay]

theorem followedBy_stay : one.followedBy stay = one := by
  funext start record
  simp [followedBy, stay]

theorem followedBy_assoc (first second third : Outcomes σ) :
    (first.followedBy second).followedBy third = first.followedBy (second.followedBy third) := by
  funext start record
  simp only [followedBy, List.flatMap_assoc]

theorem times_one : body.times 1 = body := followedBy_stay

theorem times_succ_right (body : Outcomes σ) (count : Nat) :
    body.times (count + 1) = (body.times count).followedBy body := by
  induction count with
  | zero => exact followedBy_stay.trans stay_followedBy.symm
  | succ count hypothesis =>
    show body.followedBy (body.times (count + 1)) =
      (body.followedBy (body.times count)).followedBy body
    rw [hypothesis, followedBy_assoc]

theorem read_followedBy_read (first second : Nat) (passes passes' : Nat → Bool) :
    (read first passes : Outcomes σ).followedBy (read second passes') =
      read (first + second) fun start => passes start && passes' (start + first) := by
  funext start record
  by_cases passed : passes start = true <;>
    simp [followedBy, read, passed, Nat.add_assoc]

/-- Only outcomes that are reached matter. -/
theorem followedBy_congr {other' : Outcomes σ} (same : ∀ outcome ∈ one start record,
    other outcome.1 outcome.2 = other' outcome.1 outcome.2) :
    one.followedBy other start record = one.followedBy other' start record :=
  List.flatMap_congr same

theorem choice_congr {one' other' : Outcomes σ} (first : one start record = one' start record)
    (second : other start record = other' start record) :
    choice greedy one other start record = choice greedy one' other' start record := by
  cases greedy <;> simp [choice, orElse, first, second]

/-- At the end of the haystack a body that consumes is never copied. -/
theorem upTo_at_end (consumes : body.Consumes size) (count : Nat) :
    body.upTo greedy count size record = [(size, record)] := by
  cases count with
  | zero => rfl
  | succ count =>
    have nothing : body size record = [] := by
      rw [List.eq_nil_iff_forall_not_mem]
      intro outcome member
      have := consumes size (Nat.le_refl _) record outcome member
      omega
    cases greedy <;> simp [upTo, choice, orElse, followedBy, stay, nothing]

/-- More copies than there are bytes left make no difference. -/
theorem upTo_congr (consumes : body.Consumes size) {count count' : Nat} (within : start ≤ size)
    (enough : size - start ≤ count) (enough' : size - start ≤ count') :
    body.upTo greedy count start record = body.upTo greedy count' start record := by
  induction count generalizing count' start record with
  | zero =>
    obtain rfl : start = size := by omega
    rw [upTo_at_end consumes, upTo_at_end consumes]
  | succ count hypothesis =>
    cases count' with
    | zero =>
      obtain rfl : start = size := by omega
      rw [upTo_at_end consumes, upTo_at_end consumes]
    | succ count' =>
      refine choice_congr (followedBy_congr fun outcome member => ?_) rfl
      have := consumes start within record outcome member
      exact hypothesis this.2 (by omega) (by omega)

/-- **Any number of copies is one copy before any number of copies, or none**, when each copy takes
some of the haystack. -/
theorem star_eq (consumes : body.Consumes size) (within : start ≤ size) :
    body.star greedy size start record =
      choice greedy (body.followedBy (body.star greedy size)) stay start record := by
  rw [star, upTo_congr consumes within (Nat.le_refl _) (Nat.le_succ _)]
  refine choice_congr (followedBy_congr fun outcome member => ?_) rfl
  have := consumes start within record outcome member
  exact upTo_congr consumes this.2 (by omega) (Nat.le_refl _)

theorem mem_choice {outcome : Nat × σ} : outcome ∈ choice greedy one other start record ↔
    outcome ∈ one start record ∨ outcome ∈ other start record := by
  cases greedy <;> simp [choice, orElse, or_comm]

/-! ### Outcomes that stay inside -/

theorem Inside.stay : (stay : Outcomes σ).Inside size := by
  intro start within record outcome member
  rw [List.mem_singleton.mp member]
  exact ⟨Nat.le_refl _, within⟩

theorem Inside.followedBy (first : one.Inside size) (second : other.Inside size) :
    (one.followedBy other).Inside size := by
  intro start within record outcome member
  obtain ⟨middle, early, late⟩ := List.mem_flatMap.mp member
  have before := first start within record middle early
  have after := second middle.1 before.2 middle.2 outcome late
  exact ⟨Nat.le_trans before.1 after.1, after.2⟩

theorem Inside.choice (first : one.Inside size) (second : other.Inside size) :
    (choice greedy one other).Inside size := by
  intro start within record outcome member
  rcases mem_choice.mp member with early | late
  · exact first start within record outcome early
  · exact second start within record outcome late

theorem Inside.upTo (inside : body.Inside size) (count : Nat) :
    (body.upTo greedy count).Inside size := by
  induction count with
  | zero => exact Inside.stay
  | succ count hypothesis => exact (inside.followedBy hypothesis).choice .stay

theorem Inside.star (inside : body.Inside size) : (body.star greedy size).Inside size :=
  fun start within record outcome member => inside.upTo _ start within record outcome member

/-! ### Outcomes are matches -/

/-- All outcomes end where something may be read to. -/
def Reads (outcomes : Outcomes σ) (reading : Reading) : Prop :=
  ∀ start record, ∀ outcome ∈ outcomes start record, reading start outcome.1

variable {reading reading' : Reading}

theorem reads_stay : (stay : Outcomes σ).Reads Reading.stay := by
  intro start record outcome member
  rw [List.mem_singleton.mp member]
  rfl

theorem reads_read {length : Nat} {passes : Nat → Bool}
    (reads : ∀ start, passes start = true → reading start (start + length)) :
    (read length passes : Outcomes σ).Reads reading := by
  intro start record outcome member
  rw [read] at member
  split at member
  · next passed =>
    rw [List.mem_singleton.mp member]
    exact reads start passed
  · cases member

theorem Reads.followedBy (first : one.Reads reading) (second : other.Reads reading') :
    (one.followedBy other).Reads (reading.followedBy reading') := by
  intro start record outcome member
  obtain ⟨middle, early, late⟩ := List.mem_flatMap.mp member
  exact ⟨middle.1, first _ _ middle early, second _ _ outcome late⟩

theorem Reads.times (reads : body.Reads reading) (count : Nat) :
    (body.times count).Reads (reading.times count) := by
  induction count with
  | zero => exact reads_stay
  | succ count hypothesis => exact reads.followedBy hypothesis

theorem Reads.upTo (reads : body.Reads reading) (count : Nat) :
    (body.upTo greedy count).Reads (reading.between 0 (some count)) := by
  induction count with
  | zero =>
    rw [Reading.between_zero_zero]
    exact reads_stay
  | succ count hypothesis =>
    intro start record outcome member
    rw [Reading.between_zero_succ]
    rcases mem_choice.mp member with more | none
    · exact .inr (reads.followedBy hypothesis _ _ outcome more)
    · exact .inl (reads_stay _ _ outcome none)

theorem Reads.star (reads : body.Reads reading) :
    (body.star greedy size).Reads (reading.between 0 none) := by
  intro start record outcome member
  obtain ⟨count, -, -, read⟩ := reads.upTo _ _ _ outcome member
  exact ⟨count, Nat.zero_le _, by simp, read⟩

theorem Reads.repetition (reads : body.Reads reading) {min : Nat} {max : Option Nat}
    (ordered : ∀ most ∈ max, min ≤ most) :
    (body.repetition greedy size min max).Reads (reading.between min max) := by
  have same := Reading.times_followedBy_between reading 0 ordered
  rw [Nat.add_zero] at same
  rw [← same]
  cases max with
  | none => exact (reads.times min).followedBy reads.star
  | some max => exact (reads.times min).followedBy (reads.upTo (max - min))

end Outcomes

/-! ### What is recorded -/

/-- How groups are recorded. -/
structure Recorder (σ : Type) where
  /-- A group is entered at a position. -/
  enter : Nat → Nat → σ → σ
  /-- A group is left that was entered at the first position and matches up to the second. -/
  leave : Nat → Nat → Nat → σ → σ

/-- The spans of groups, those of before where a group takes no further part. -/
abbrev Spans := Nat → Option Span

/-- Slots hold where a group was entered last, and where it was left last. -/
def Recorder.slots : Recorder Slots where
  enter index start slots := slots.setIfInBounds (index * 2) (some start)
  leave index _ stop slots := slots.setIfInBounds (index * 2 + 1) (some stop)

/-- A group records its span when it is left, and leaves the spans of the others alone. -/
def Recorder.spans : Recorder Spans where
  enter _ _ := id
  leave index start stop spans := Function.update spans index (some ⟨start, stop⟩)

namespace Pattern

section Outcomes

variable {σ : Type} (haystack : Array UInt8) (recorder : Recorder σ)

instance (bytes : Bytes) (start stop : Nat) : Decidable (Spells haystack bytes start stop) :=
  inferInstanceAs (Decidable (_ ∧ _))

/-- The bytes of a literal are read. -/
def spelled (bytes : Bytes) : Outcomes σ :=
  Outcomes.read bytes.length fun start => Spells haystack bytes start (start + bytes.length)

mutual

/-- The outcomes of a pattern, the preferred one first. -/
def outcomes : Pattern → Outcomes σ
  | empty => Outcomes.stay
  | literal bytes => spelled haystack bytes
  | byteClass set | charClass set =>
    Outcomes.read 1 fun start => haystack[start]?.any (RangeSet.contains set ·.toNat)
  | look assertion => Outcomes.read 0 fun start => assertion.holds haystack start
  | wideLook _ => Outcomes.never
  | repetition min max greedy body => (outcomes body).repetition greedy haystack.size min max
  | group index body => fun start record =>
    (outcomes body start (recorder.enter index start record)).map fun outcome =>
      (outcome.1, recorder.leave index start outcome.1 outcome.2)
  | concat parts => outcomesAll parts
  | alternation branches => outcomesAny branches

/-- The outcomes of parts one after the other. -/
def outcomesAll : List Pattern → Outcomes σ
  | [] => Outcomes.stay
  | part :: rest => (outcomes part).followedBy (outcomesAll rest)

/-- The outcomes of branches, those of an earlier branch first. -/
def outcomesAny : List Pattern → Outcomes σ
  | [] => Outcomes.never
  | branch :: rest => (outcomes branch).orElse (outcomesAny rest)

end

variable {haystack recorder}

theorem spelled_nil : (spelled haystack [] : Outcomes σ) = Outcomes.stay := by
  funext start record
  simp [spelled, Outcomes.read, Outcomes.stay, spells_nil, Reading.stay]

/-- A literal is read byte by byte. -/
theorem spelled_cons (byte : UInt8) (rest : Bytes) :
    (spelled haystack (byte :: rest) : Outcomes σ) =
      (Outcomes.read 1 fun start => haystack[start]? = some byte).followedBy
        (spelled haystack rest) := by
  rw [spelled, spelled, Outcomes.read_followedBy_read, List.length_cons, Nat.add_comm 1]
  congr 1
  funext start
  rw [Bool.eq_iff_iff, Bool.and_eq_true, decide_eq_true_iff, decide_eq_true_iff,
    decide_eq_true_iff, spells_cons, Nat.add_comm rest.length, ← Nat.add_assoc]
  constructor
  · rintro ⟨middle, ⟨rfl, present⟩, spells⟩
    exact ⟨present, spells⟩
  · rintro ⟨present, spells⟩
    exact ⟨start + 1, ⟨rfl, present⟩, spells⟩

theorem isAmong_of_any {set : RangeSet} {start : Nat}
    (among : haystack[start]?.any (RangeSet.contains set ·.toNat) = true) :
    IsAmong haystack set start (start + 1) := by
  cases present : haystack[start]? with
  | none => simp [present] at among
  | some byte => exact ⟨rfl, byte, present, by simpa [present] using among⟩

mutual

/-- **The outcomes of a pattern are matches of it.** -/
theorem reads_outcomes : (pattern : Pattern) → pattern.Ordered →
    (pattern.outcomes haystack recorder).Reads (pattern.Matches haystack)
  | .empty, _ => Outcomes.reads_stay
  | .literal _, _ => Outcomes.reads_read fun _ spells => by
    rw [Matches]
    exact of_decide_eq_true spells
  | .byteClass _, _ | .charClass _, _ => Outcomes.reads_read fun _ among => isAmong_of_any among
  | .look _, _ => Outcomes.reads_read fun _ holds => ⟨rfl, holds⟩
  | .wideLook _, _ => fun _ _ _ member => by cases member
  | .repetition min max greedy body, ordered =>
    (reads_outcomes body ordered.repetition.2).repetition ordered.repetition.1
  | .group index body, ordered => by
    intro start record outcome member
    obtain ⟨inner, innerIn, rfl⟩ := List.mem_map.mp member
    exact reads_outcomes body ordered.group.2 _ _ inner innerIn
  | .concat parts, ordered => reads_outcomesAll parts ordered.concat
  | .alternation branches, ordered => reads_outcomesAny branches ordered.alternation

theorem reads_outcomesAll : (parts : List Pattern) → (∀ part ∈ parts, part.Ordered) →
    (outcomesAll haystack recorder parts).Reads (MatchesAll haystack parts)
  | [], _ => Outcomes.reads_stay
  | part :: rest, ordered => by
    obtain ⟨first, others⟩ := List.forall_mem_cons.mp ordered
    exact (reads_outcomes part first).followedBy (reads_outcomesAll rest others)

theorem reads_outcomesAny : (branches : List Pattern) → (∀ branch ∈ branches, branch.Ordered) →
    (outcomesAny haystack recorder branches).Reads (MatchesAny haystack branches)
  | [], _ => fun _ _ _ member => by cases member
  | branch :: rest, ordered => by
    obtain ⟨first, others⟩ := List.forall_mem_cons.mp ordered
    intro start record outcome member
    rcases List.mem_append.mp member with one | other
    · exact .inl (reads_outcomes branch first _ _ outcome one)
    · exact .inr (reads_outcomesAny rest others _ _ outcome other)

end

/-- The body of a repetition without a greatest number never matches the empty string. -/
def BodyConsumes : Pattern → Prop
  | repetition _ none _ body => ∀ (haystack : Array UInt8), ∀ position ≤ haystack.size,
      ¬body.Matches haystack position position
  | _ => True

/-- No body of a repetition without a greatest number matches the empty string, at any position of
any haystack. -/
def LoopsConsume : Pattern → Prop := Everywhere BodyConsumes

/-- Outcomes stay inside the haystack. -/
theorem inside_outcomes {pattern : Pattern} (ordered : pattern.Ordered) :
    (pattern.outcomes haystack recorder).Inside haystack.size := by
  intro start within record outcome member
  exact (reads_outcomes pattern ordered start record outcome member).inside pattern within

/-- Outcomes of a pattern that never matches the empty string take some of the haystack. -/
theorem consumes_outcomes {pattern : Pattern} (ordered : pattern.Ordered)
    (nonempty : ∀ position ≤ haystack.size, ¬pattern.Matches haystack position position) :
    (pattern.outcomes haystack recorder).Consumes haystack.size := by
  intro start within record outcome member
  have matched := reads_outcomes pattern ordered start record outcome member
  obtain ⟨after, inside⟩ := matched.inside pattern within
  refine ⟨Nat.lt_of_le_of_ne after fun same => ?_, inside⟩
  rw [← same] at matched
  exact nonempty start within matched

end Outcomes

end Pattern

end Crosscheck
