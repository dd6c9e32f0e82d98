/-
**What counted repetitions are short for, and where they may stand.**

A body that is repeated between `min` and `max` times is `min` copies of the body, and as many
optional copies behind them, each of which holds those that follow. A body that is repeated at least
`min` times ends with a loop instead. Such a pattern may stand anywhere in another one: in a pattern
with one hole.

* `Pattern.expanded`: what a counted repetition is short for;
* `Pattern.Context`, `Pattern.Context.fill`: patterns with one hole;
* `Pattern.minLength_fill`, `Pattern.mem_groups_fill`: what is known of a pattern with something in
  its hole.
-/
import Crosscheck.Proofs.Pattern.Numbering

namespace Crosscheck

namespace Pattern

/-! ### Copies -/

/-- Patterns one after the other. -/
def sequence : List Pattern → Pattern
  | [part] => part
  | parts => .concat parts

/-- Copies of a body, each of which is optional together with those that follow. -/
def optionalCopies (greedy : Bool) (body : Pattern) : Nat → List Pattern
  | 0 => []
  | count + 1 =>
    [.repetition 0 (some 1) greedy (sequence (body :: optionalCopies greedy body count))]

/-- What a counted repetition is short for. -/
def expanded (min : Nat) (max : Option Nat) (greedy : Bool) (body : Pattern) : Pattern :=
  match max with
  | some most => sequence (List.replicate min body ++ optionalCopies greedy body (most - min))
  | none => sequence (List.replicate (min - 1) body ++ [.repetition 1 none greedy body])

/-- A counted repetition that is short for something: at least one copy is allowed, and more than
one is needed where any number of further ones is allowed. -/
def Counts (min : Nat) (max : Option Nat) : Prop :=
  match max with
  | some most => min ≤ most ∧ 1 ≤ most
  | none => 2 ≤ min

instance (min : Nat) (max : Option Nat) : Decidable (Counts min max) :=
  match max with
  | some _ => instDecidableAnd
  | none => Nat.decLe _ _

/-! ### Lengths -/

section Lengths

variable {min count length : Nat} {max : Option Nat} {greedy : Bool} {body : Pattern}
  {parts others : List Pattern}

theorem minLength_sequence (parts : List Pattern) :
    (sequence parts).minLength = minLengthSum parts := by
  match parts with
  | [] => rfl
  | [part] =>
    rw [sequence, minLengthSum]
    cases part.minLength <;> rfl
  | _ :: _ :: _ => rfl

theorem minLengthSum_append (parts others : List Pattern) :
    minLengthSum (parts ++ others) =
      (do return (← minLengthSum parts) + (← minLengthSum others)) := by
  induction parts with
  | nil =>
    rw [List.nil_append, minLengthSum]
    cases minLengthSum others <;> simp
  | cons part rest hypothesis =>
    rw [List.cons_append, minLengthSum, minLengthSum, hypothesis]
    cases part.minLength <;> cases minLengthSum rest <;> cases minLengthSum others <;>
      simp [Nat.add_assoc]

/-- Copies are as long as the body as often as it is copied. -/
theorem minLengthSum_replicate (known : body.minLength = some length) (count : Nat) :
    minLengthSum (List.replicate count body) = some (length * count) := by
  induction count with
  | zero => rfl
  | succ count hypothesis =>
    rw [List.replicate_succ, minLengthSum, known, hypothesis, Nat.mul_succ, Nat.add_comm]
    rfl

theorem minLengthSum_optionalCopies (known : body.minLength = some length) (count : Nat) :
    minLengthSum (optionalCopies greedy body count) = some 0 := by
  induction count with
  | zero => rfl
  | succ count hypothesis =>
    rw [optionalCopies, minLengthSum, minLength, minLength_sequence]
    simp only [minLengthSum, known, hypothesis]
    rfl

/-- If it is not known how long the body is, it is not known for copies either. -/
theorem minLengthSum_eq_none (unknown : body.minLength = none) (member : body ∈ parts) :
    minLengthSum parts = none := by
  induction parts with
  | nil => cases member
  | cons part rest hypothesis =>
    rw [minLengthSum]
    rcases List.mem_cons.mp member with rfl | later
    · rw [unknown]
      rfl
    · rw [hypothesis later]
      cases part.minLength <;> rfl

theorem minLengthSum_optionalCopies_eq_none (unknown : body.minLength = none) (count : Nat) :
    minLengthSum (optionalCopies greedy body (count + 1)) = none := by
  rw [optionalCopies, minLengthSum, minLength, minLength_sequence,
    minLengthSum_eq_none unknown (List.mem_cons_self ..)]
  rfl

/-- **What a counted repetition is short for** has no other least length. -/
theorem minLength_expanded (counts : Counts min max) :
    (expanded min max greedy body).minLength = (repetition min max greedy body).minLength := by
  rw [minLength]
  cases known : body.minLength with
  | none =>
    have copies {count : Nat} (more : count ≠ 0) :
        minLengthSum (List.replicate count body) = none :=
      minLengthSum_eq_none known (List.mem_replicate.mpr ⟨more, rfl⟩)
    cases max with
    | none =>
      have more : 2 ≤ min := counts
      rw [expanded, minLength_sequence, minLengthSum_append, copies (by omega)]
      rfl
    | some most =>
      obtain ⟨ordered, some⟩ : min ≤ most ∧ 1 ≤ most := counts
      rw [expanded, minLength_sequence, minLengthSum_append]
      rcases Nat.eq_zero_or_pos min with rfl | more
      · obtain ⟨count, rfl⟩ := Nat.exists_eq_succ_of_ne_zero (Nat.ne_of_gt some)
        rw [Nat.sub_zero, minLengthSum_optionalCopies_eq_none known]
        rfl
      · rw [copies (Nat.ne_of_gt more)]
        rfl
  | some length =>
    cases max with
    | none =>
      have more : 2 ≤ min := counts
      obtain ⟨count, rfl⟩ := Nat.exists_eq_succ_of_ne_zero (show min ≠ 0 by omega)
      rw [expanded, minLength_sequence, minLengthSum_append, Nat.succ_sub_one,
        minLengthSum_replicate known, minLengthSum, minLength, known, minLengthSum]
      exact congrArg some (show length * count + (length * 1 + 0) = length * (count + 1) by
        rw [Nat.mul_one, Nat.mul_succ, Nat.add_zero])
    | some most =>
      rw [expanded, minLength_sequence, minLengthSum_append, minLengthSum_replicate known,
        minLengthSum_optionalCopies known]
      rfl

end Lengths

/-! ### Groups -/

section Groups

variable {index min count : Nat} {max : Option Nat} {greedy : Bool} {body : Pattern}

theorem groups_sequence (parts : List Pattern) : (sequence parts).groups = groupsIn parts := by
  match parts with
  | [] => rfl
  | [part] => exact (List.append_nil _).symm
  | _ :: _ :: _ => rfl

theorem groupsIn_optionalCopies_subset (count : Nat) :
    groupsIn (optionalCopies greedy body count) ⊆ body.groups := by
  induction count with
  | zero => exact List.nil_subset _
  | succ count hypothesis =>
    rw [optionalCopies, groupsIn, groups, groups_sequence, groupsIn, groupsIn, List.append_nil]
    exact List.append_subset.mpr ⟨List.Subset.refl _, hypothesis⟩

theorem groupsIn_replicate_subset (count : Nat) :
    groupsIn (List.replicate count body) ⊆ body.groups := by
  intro index member
  obtain ⟨part, copied, captured⟩ := mem_groupsIn.mp member
  rwa [(List.mem_replicate.mp copied).2] at captured

/-- **What a counted repetition is short for** has the same groups. -/
theorem mem_groups_expanded (counts : Counts min max) :
    index ∈ (expanded min max greedy body).groups ↔
      index ∈ (repetition min max greedy body).groups := by
  rw [groups]
  have copies {count : Nat} (more : count ≠ 0) (captured : index ∈ body.groups) :
      index ∈ groupsIn (List.replicate count body) :=
    mem_groupsIn.mpr ⟨body, List.mem_replicate.mpr ⟨more, rfl⟩, captured⟩
  cases max with
  | none =>
    have more : 2 ≤ min := counts
    rw [expanded, groups_sequence, groupsIn_append, List.mem_append]
    refine ⟨?_, fun captured => .inl (copies (by omega) captured)⟩
    rintro (copied | looped)
    · exact groupsIn_replicate_subset _ copied
    · rwa [groupsIn, groups, groupsIn, List.append_nil] at looped
  | some most =>
    obtain ⟨ordered, some⟩ : min ≤ most ∧ 1 ≤ most := counts
    rw [expanded, groups_sequence, groupsIn_append, List.mem_append]
    refine ⟨?_, fun captured => ?_⟩
    · rintro (copied | optional)
      · exact groupsIn_replicate_subset _ copied
      · exact groupsIn_optionalCopies_subset _ optional
    · rcases Nat.eq_zero_or_pos min with rfl | more
      · obtain ⟨count, rfl⟩ := Nat.exists_eq_succ_of_ne_zero (Nat.ne_of_gt some)
        refine .inr ?_
        rw [Nat.sub_zero, optionalCopies, groupsIn, groups, groups_sequence, groupsIn]
        exact List.mem_append_left _ (List.mem_append_left _ captured)
      · exact .inl (copies (Nat.ne_of_gt more) captured)

end Groups

/-! ### Patterns with a hole -/

/-- A pattern with one hole. -/
inductive Context where
  /-- Nothing but the hole. -/
  | hole
  /-- A hole in the body of a repetition. -/
  | repetition (min : Nat) (max : Option Nat) (greedy : Bool) (body : Context)
  /-- A hole in the body of a group. -/
  | group (index : Nat) (body : Context)
  /-- A hole in a part, with the parts before and behind it. -/
  | concat (before : List Pattern) (part : Context) (behind : List Pattern)
  /-- A hole in a branch, with the branches before and behind it. -/
  | alternation (before : List Pattern) (branch : Context) (behind : List Pattern)

namespace Context

/-- The pattern with another one in its hole. -/
def fill (context : Context) (pattern : Pattern) : Pattern :=
  match context with
  | hole => pattern
  | repetition min max greedy body => .repetition min max greedy (body.fill pattern)
  | group index body => .group index (body.fill pattern)
  | concat before part behind => .concat (before ++ part.fill pattern :: behind)
  | alternation before branch behind => .alternation (before ++ branch.fill pattern :: behind)

end Context

section Filled

variable {one other : Pattern} {before behind : List Pattern}

theorem minLengthSum_congr (same : one.minLength = other.minLength) :
    minLengthSum (before ++ one :: behind) = minLengthSum (before ++ other :: behind) := by
  rw [minLengthSum_append, minLengthSum_append, minLengthSum, minLengthSum, same]

theorem minLengthLeast_cons {branch : Pattern} {rest : List Pattern} (more : rest ≠ []) :
    minLengthLeast (branch :: rest) =
      (do return min (← branch.minLength) (← minLengthLeast rest)) := by
  rw [minLengthLeast]
  exact more

theorem minLengthLeast_congr (same : one.minLength = other.minLength) :
    minLengthLeast (before ++ one :: behind) = minLengthLeast (before ++ other :: behind) := by
  induction before with
  | nil =>
    cases behind with
    | nil => rwa [List.nil_append, List.nil_append, minLengthLeast, minLengthLeast]
    | cons branch rest =>
      rw [List.nil_append, List.nil_append, minLengthLeast_cons (List.cons_ne_nil _ _),
        minLengthLeast_cons (List.cons_ne_nil _ _), same]
  | cons branch rest hypothesis =>
    rw [List.cons_append, List.cons_append, minLengthLeast_cons (by simp),
      minLengthLeast_cons (by simp), hypothesis]

/-- The least length depends on that of what is in the hole only. -/
theorem minLength_fill (context : Context) (same : one.minLength = other.minLength) :
    (context.fill one).minLength = (context.fill other).minLength := by
  induction context with
  | hole => exact same
  | repetition min max greedy body hypothesis =>
    rw [Context.fill, Context.fill, minLength, minLength, hypothesis]
  | group index body hypothesis =>
    rw [Context.fill, Context.fill, minLength, minLength, hypothesis]
  | concat before part behind hypothesis => exact minLengthSum_congr hypothesis
  | alternation before branch behind hypothesis => exact minLengthLeast_congr hypothesis

/-- The groups depend on those of what is in the hole only. -/
theorem mem_groups_fill {index : Nat} (context : Context)
    (same : index ∈ one.groups ↔ index ∈ other.groups) :
    index ∈ (context.fill one).groups ↔ index ∈ (context.fill other).groups := by
  induction context with
  | hole => exact same
  | repetition min max greedy body hypothesis => exact hypothesis
  | group number body hypothesis =>
    rw [Context.fill, Context.fill, groups, groups, List.mem_cons, List.mem_cons, hypothesis]
  | concat before part behind hypothesis | alternation before part behind hypothesis =>
    rw [Context.fill, Context.fill, groups, groups, groupsIn_append, groupsIn_append, groupsIn,
      groupsIn, List.mem_append, List.mem_append, List.mem_append, List.mem_append, hypothesis]

end Filled

end Pattern

end Crosscheck
