/-
**What the constructors make is simplified already.**

A concatenation holds no concatenation, nothing that is empty and no literals side by side, and so
it is with the patterns in it. Each constructor makes such patterns from such patterns, and so the
pattern of a regexp that is given as text is what it would be as the only part of a concatenation.

* `Simplified.Flat`: such patterns;
* `Simplified.flat_concat`, `Simplified.flat_alternation`: what the constructors make;
* `Simplified.Flat.concat_singleton`: they stay as they are in a concatenation of their own;
* `Pattern.concat_of_ofText?`: the pattern of a regexp that is given as text.
-/
import Crosscheck.Proofs.Pattern.Joining
import Mathlib.Data.List.Chain

namespace Crosscheck

namespace Simplified

/-! ### Literals apart -/

/-- Patterns that are not both literals. -/
def Apart (one other : Pattern) : Prop :=
  ∀ bytes more, one = .literal bytes → other ≠ .literal more

/-- Joining leaves no literals side by side. -/
theorem apart_joinLiterals (parts : List Pattern) : (joinLiterals parts).IsChain Apart := by
  fun_induction joinLiterals parts with
  | case1 bytes rest more others same hypothesis =>
    rw [same] at hypothesis
    rw [List.isChain_cons] at hypothesis ⊢
    exact ⟨fun next first => fun _ _ _ => hypothesis.1 next first more _ rfl, hypothesis.2⟩
  | case2 bytes rest apart hypothesis =>
    refine List.isChain_cons.mpr ⟨fun next first => fun _ more _ literal => ?_, hypothesis⟩
    obtain ⟨others, same⟩ := List.head?_eq_some_iff.mp first
    exact apart more others (literal ▸ same)
  | case3 part rest other hypothesis =>
    refine List.isChain_cons.mpr ⟨fun next first => fun bytes _ literal => ?_, hypothesis⟩
    exact absurd literal (other bytes)
  | case4 => exact .nil

/-- Where no literals are side by side there is nothing to join. -/
theorem joinLiterals_eq_self {parts : List Pattern} (apart : parts.IsChain Apart) :
    joinLiterals parts = parts := by
  induction parts with
  | nil => rfl
  | cons part rest hypothesis =>
    obtain ⟨first, later⟩ := List.isChain_cons.mp apart
    by_cases literal : ∃ bytes, part = .literal bytes
    · obtain ⟨bytes, rfl⟩ := literal
      rw [joinLiterals_literal, hypothesis later]
      intro more others same
      rw [hypothesis later] at same
      exact first (.literal more) (by rw [same]; rfl) bytes more rfl rfl
    · rw [joinLiterals_cons (not_exists.mp literal), hypothesis later]

/-! ### Flat patterns -/

/-- Patterns without concatenations of concatenations, of what is empty, of literals side by side or
of fewer than two parts. -/
inductive Flat : Pattern → Prop
  | leaf {pattern : Pattern} (single : partsOf pattern = [pattern])
    (alone : branchesOf pattern = [pattern]) : Flat pattern
  | empty : Flat .empty
  | concat {parts : List Pattern} (several : 2 ≤ parts.length) (apart : parts.IsChain Apart)
    (single : ∀ part ∈ parts, partsOf part = [part]) (flat : ∀ part ∈ parts, Flat part) :
    Flat (.concat parts)
  | alternation {branches : List Pattern} (flat : ∀ branch ∈ branches, Flat branch) :
    Flat (.alternation branches)

variable {parts branches : List Pattern} {part branch pattern : Pattern}

/-- What a flat pattern adds to a concatenation is flat and adds nothing but itself. -/
theorem Flat.of_mem_partsOf (flat : Flat pattern) (member : part ∈ partsOf pattern) :
    partsOf part = [part] ∧ Flat part := by
  cases flat with
  | leaf single alone =>
    rw [single] at member
    rw [List.mem_singleton.mp member]
    exact ⟨single, .leaf single alone⟩
  | empty => exact (List.not_mem_nil member).elim
  | concat _ _ single flat => exact ⟨single part member, flat part member⟩
  | alternation flat =>
    rw [List.mem_singleton.mp member]
    exact ⟨rfl, .alternation flat⟩

/-- The branches that a flat pattern adds to an alternation are flat. -/
theorem Flat.of_mem_branchesOf (flat : Flat pattern) (member : branch ∈ branchesOf pattern) :
    Flat branch := by
  have itself : branchesOf pattern = [pattern] → Flat branch := by
    intro alone
    rw [alone] at member
    exact List.mem_singleton.mp member ▸ flat
  cases flat with
  | leaf _ alone => exact itself alone
  | empty | concat => exact itself rfl
  | alternation flat => exact flat branch member

/-- **A concatenation of flat patterns is flat.** -/
theorem flat_concat (flat : ∀ part ∈ parts, Flat part) : Flat (concat parts) := by
  have pieces : ∀ piece ∈ joinLiterals (parts.flatMap partsOf),
      partsOf piece = [piece] ∧ Flat piece := by
    intro piece member
    by_cases literal : ∃ bytes, piece = .literal bytes
    · obtain ⟨bytes, rfl⟩ := literal
      exact ⟨rfl, .leaf rfl rfl⟩
    · obtain ⟨part, inside, adds⟩ :=
        List.mem_flatMap.mp (mem_of_mem_joinLiterals (not_exists.mp literal) member)
      exact (flat part inside).of_mem_partsOf adds
  have apart := apart_joinLiterals (parts.flatMap partsOf)
  rw [concat]
  split
  · exact .empty
  · next part single => exact (pieces part (single ▸ List.mem_singleton_self part)).2
  · next some several =>
    refine .concat ?_ apart (fun piece member => (pieces piece member).1)
      fun piece member => (pieces piece member).2
    rcases same : joinLiterals (parts.flatMap partsOf) with - | ⟨part, - | ⟨next, rest⟩⟩
    · exact absurd same some
    · exact absurd same (several part)
    · exact Nat.le_add_left 2 rest.length

/-- **A flat pattern stays as it is** in a concatenation of its own. -/
theorem Flat.concat_singleton (flat : Flat pattern) : Simplified.concat [pattern] = pattern := by
  have alone : partsOf pattern = [pattern] → Simplified.concat [pattern] = pattern := by
    intro single
    rw [Simplified.concat, List.flatMap_singleton, single,
      joinLiterals_eq_self (List.isChain_singleton pattern)]
  cases flat with
  | leaf single _ => exact alone single
  | empty => rfl
  | concat several apart single flat =>
    rw [Simplified.concat, List.flatMap_singleton, partsOf, joinLiterals_eq_self apart]
    split
    · exact absurd several (by simp)
    · exact absurd several (by simp)
    · rfl
  | alternation => exact alone rfl

/-! ### Constructors -/

theorem flat_byteClass (bytes : RangeSet) : Flat (byteClass bytes) := by
  rw [byteClass]
  split <;> exact .leaf rfl rfl

theorem flat_charClass (chars : RangeSet) : Flat (charClass chars) := by
  rw [charClass]
  split
  · exact .leaf rfl rfl
  · split <;> exact .leaf rfl rfl

theorem flat_repetition (min : Nat) (max : Option Nat) (greedy : Bool) (flat : Flat pattern) :
    Flat (repetition min max greedy pattern) := by
  rw [repetition]
  dsimp only
  generalize (if pattern.maxLength = some 0 then _ else _ : Nat × Option Nat) = bounds
  split
  · exact .empty
  · split
    · exact flat
    · exact .leaf rfl rfl

theorem flat_of_classOf? (made : classOf? branches = some pattern) : Flat pattern := by
  simp only [classOf?, Option.or_eq_some_iff, Option.map_eq_some_iff] at made
  rcases made with ⟨_, -, rfl⟩ | ⟨-, ⟨_, -, rfl⟩ | ⟨-, ⟨_, -, rfl⟩ | ⟨-, _, -, rfl⟩⟩⟩
  exacts [flat_charClass _, flat_byteClass _, flat_charClass _, flat_byteClass _]

/-- The branches that flat patterns add to an alternation are flat. -/
theorem flat_branches (flat : ∀ branch ∈ branches, Flat branch) :
    ∀ branch ∈ branches.flatMap branchesOf, Flat branch := by
  intro branch member
  obtain ⟨whole, inside, adds⟩ := List.mem_flatMap.mp member
  exact (flat whole inside).of_mem_branchesOf adds

/-- Parts of a concatenation among flat branches are flat. -/
theorem flat_of_parts (flat : ∀ branch ∈ branches, Flat branch)
    (inside : ∃ whole, .concat whole ∈ branches ∧ parts ⊆ whole) : ∀ part ∈ parts, Flat part := by
  obtain ⟨whole, isBranch, less⟩ := inside
  intro part member
  exact ((flat _ isBranch).of_mem_partsOf (less member)).2

theorem flat_alternationWith (fuel : Nat) (branches : List Pattern)
    (flat : ∀ branch ∈ branches, Flat branch) : Flat (alternationWith fuel branches) := by
  fun_induction alternationWith fuel branches with
  | case1 => exact .leaf rfl rfl
  | case2 fuel branches branch single =>
    exact flat_branches flat branch (single ▸ List.mem_singleton_self branch)
  | case3 fuel branches pattern _ _ made => exact flat_of_classOf? made
  | case4 branches fuel start rests _ _ _ common hypothesis =>
    obtain ⟨before, after⟩ := subset_of_commonStart? common
    refine flat_concat fun part member => ?_
    rcases List.mem_append.mp member with isStart | isRest
    · exact flat_of_parts (flat_branches flat) before part isStart
    · rw [List.mem_singleton.mp isRest]
      refine hypothesis fun branch isBranch => ?_
      obtain ⟨rest, isRest, rfl⟩ := List.mem_map.mp isBranch
      exact flat_concat (flat_of_parts (flat_branches flat) (after rest isRest))
  | case5 => exact .alternation (flat_branches flat)

/-- **An alternation of flat patterns is flat.** -/
theorem flat_alternation (flat : ∀ branch ∈ branches, Flat branch) : Flat (alternation branches) :=
  flat_alternationWith _ _ flat

end Simplified

/-! ### Regexps -/

namespace Meaning

open Simplified

theorem flat_classPattern (mode : Mode) (set : RangeSet) : Flat (classPattern mode set) := by
  rw [classPattern]
  split
  exacts [flat_charClass _, flat_byteClass _]

theorem flat_literal (mode : Mode) (scalar : Scalar) : Flat (literal mode scalar) := by
  simp only [literal]
  split
  · exact .leaf rfl rfl
  · split
    exacts [flat_classPattern _ _, .leaf rfl rfl]

theorem flat_assertion (mode : Mode) (written : Assertion) : Flat (assertion mode written) := by
  cases written <;> simp only [assertion, wordLook] <;>
    first | exact .leaf rfl rfl | (split <;> exact .leaf rfl rfl)

mutual

/-- **The pattern of a regexp is flat.** -/
theorem flat_of_pattern? {mode after : Mode} {pattern : Pattern} : (written : Written) →
    pattern? mode written = some (pattern, after) → Flat pattern
  | .empty, means | .flags _, means => by
    cases means
    exact .empty
  | .literal _, means => by
    cases means
    exact flat_literal _ _
  | .dot, means | .short _ _, means => by
    cases means
    exact flat_classPattern _ _
  | .assertion _, means => by
    cases means
    exact flat_assertion _ _
  | .property name negated, means => by
    obtain ⟨set, -, same⟩ := Option.bind_eq_some_iff.mp means
    cases same
    exact flat_charClass _
  | .bracketed negated set, means => by
    obtain ⟨set, -, same⟩ := Option.bind_eq_some_iff.mp means
    cases same
    exact flat_classPattern _ _
  | .repetition min max greedy body, means => by
    obtain ⟨⟨inner, middle⟩, meansBody, same⟩ := Option.bind_eq_some_iff.mp means
    cases same
    exact flat_repetition _ _ _ (flat_of_pattern? body meansBody)
  | .group (.capturing index) body, means => by
    obtain ⟨⟨inner, middle⟩, -, same⟩ := Option.bind_eq_some_iff.mp means
    cases same
    exact .leaf rfl rfl
  | .group (.plain flags) body, means => by
    obtain ⟨⟨inner, middle⟩, meansBody, same⟩ := Option.bind_eq_some_iff.mp means
    cases same
    exact flat_of_pattern? body meansBody
  | .concat parts, means => by
    obtain ⟨⟨inner, middle⟩, meansParts, same⟩ := Option.bind_eq_some_iff.mp means
    cases same
    exact flat_concat (flat_of_patterns? parts meansParts)
  | .alternation branches, means => by
    obtain ⟨⟨inner, middle⟩, meansBranches, same⟩ := Option.bind_eq_some_iff.mp means
    cases same
    exact flat_alternation (flat_of_patterns? branches meansBranches)

theorem flat_of_patterns? {mode after : Mode} {patterns : List Pattern} :
    (parts : List Written) → patterns? mode parts = some (patterns, after) →
      ∀ pattern ∈ patterns, Flat pattern
  | [], means => by
    cases means
    exact fun _ member => (List.not_mem_nil member).elim
  | part :: rest, means => by
    obtain ⟨⟨first, middle⟩, meansFirst, means⟩ := Option.bind_eq_some_iff.mp means
    obtain ⟨⟨others, last⟩, meansRest, same⟩ := Option.bind_eq_some_iff.mp means
    cases same
    intro pattern member
    rcases List.mem_cons.mp member with rfl | later
    · exact flat_of_pattern? part meansFirst
    · exact flat_of_patterns? rest meansRest pattern later

end

end Meaning

/-- **The pattern of a regexp that is given as text** is simplified already. -/
theorem Pattern.concat_of_ofText? {text : String} {pattern : Pattern}
    (means : Pattern.ofText? text = some pattern) : Simplified.concat [pattern] = pattern := by
  obtain ⟨written, -, means⟩ := Option.bind_eq_some_iff.mp means
  obtain ⟨⟨_, after⟩, means, same⟩ := Option.bind_eq_some_iff.mp means
  cases same
  exact (Meaning.flat_of_pattern? written means).concat_singleton

end Crosscheck
