/-
**Simplified concatenations with assertions.**

The constructor of concatenations leaves out what is empty, takes the parts of concatenations for
its own and joins neighbouring literals. An assertion is none of these and keeps its neighbours
apart, so beside assertions a pattern that is simplified already contributes its parts as they are.

* `Simplified.joinLiterals_look`: literals are joined on each side of an assertion;
* `Simplified.exists_parts`: the parts that a simplified pattern contributes;
* `Simplified.concat_started`, `Simplified.concat_ended`, `Simplified.concat_enclosed`: assertions
  before them, behind them, and on both sides.
-/
import Crosscheck.Proofs.Pattern.Numbering

namespace Crosscheck

namespace Simplified

variable {parts more rest : List Pattern} {part pattern : Pattern} {look : Look}

/-! ### Joining literals -/

/-- A part that is no literal stays as it is, before what is joined behind it. -/
theorem joinLiterals_cons (other : ∀ bytes, part ≠ .literal bytes) (rest : List Pattern) :
    joinLiterals (part :: rest) = part :: joinLiterals rest := by
  rw [joinLiterals]
  exact other

/-- A literal stays as it is, if no literal comes behind it. -/
theorem joinLiterals_literal (bytes : Bytes)
    (apart : ∀ more others, joinLiterals rest ≠ .literal more :: others) :
    joinLiterals (.literal bytes :: rest) = .literal bytes :: joinLiterals rest := by
  rw [joinLiterals]
  split
  · next more others joined => exact absurd joined (apart more others)
  · rfl

/-- **Literals are joined on each side of an assertion.** -/
theorem joinLiterals_look (parts more : List Pattern) (look : Look) :
    joinLiterals (parts ++ .look look :: more) =
      joinLiterals parts ++ .look look :: joinLiterals more := by
  fun_induction joinLiterals parts with
  | case1 bytes rest joined others same hypothesis =>
    rw [List.cons_append, joinLiterals, hypothesis, same]
    rfl
  | case2 bytes rest apart hypothesis =>
    rw [List.cons_append, joinLiterals_literal, hypothesis]
    · rfl
    · intro first others joined
      rw [hypothesis] at joined
      cases behind : joinLiterals rest with
      | nil =>
        rw [behind] at joined
        cases joined
      | cons next last =>
        rw [behind] at joined
        obtain ⟨rfl, -⟩ := List.cons.inj joined
        exact apart first last behind
  | case3 part rest other hypothesis =>
    rw [List.cons_append, joinLiterals_cons other, hypothesis, List.cons_append]
  | case4 => exact joinLiterals_cons (by simp) more

/-- Joining literals makes nothing but literals. -/
theorem mem_of_mem_joinLiterals (other : ∀ bytes, part ≠ .literal bytes)
    (member : part ∈ joinLiterals parts) : part ∈ parts := by
  fun_induction joinLiterals parts with
  | case1 bytes rest joined others same hypothesis =>
    rcases List.mem_cons.mp member with literal | member
    · exact absurd literal (other _)
    · rw [same] at hypothesis
      exact List.mem_cons_of_mem _ (hypothesis (List.mem_cons_of_mem _ member))
  | case2 bytes rest apart hypothesis | case3 first rest _ hypothesis =>
    rcases List.mem_cons.mp member with rfl | member
    · exact List.mem_cons_self
    · exact List.mem_cons_of_mem _ (hypothesis member)
  | case4 => exact member

/-! ### Concatenations -/

/-- Parts of which at least two are left are a concatenation. -/
theorem concat_eq {one other : Pattern}
    (joined : joinLiterals (parts.flatMap partsOf) = one :: other :: rest) :
    concat parts = .concat (one :: other :: rest) := by
  rw [concat, joined]

/-- **What a simplified pattern contributes to a concatenation**: nothing if it is empty, its parts
if it is a concatenation, or else itself. -/
theorem exists_parts (simplified : concat [pattern] = pattern) (nonempty : pattern ≠ .empty) :
    ∃ part rest, partsOf pattern = part :: rest ∧
      joinLiterals (part :: rest) = part :: rest ∧
      (pattern = .concat (part :: rest) ∨ pattern = part ∧ rest = []) := by
  have alone : ∀ part : Pattern, joinLiterals [part] = [part] := by
    intro part
    cases part <;> rfl
  cases pattern with
  | empty => exact absurd rfl nonempty
  | concat parts =>
    rw [concat, List.flatMap_singleton, partsOf] at simplified
    split at simplified
    · cases simplified
    · next part single =>
      -- The whole would be one of its own parts.
      have inside : part ∈ parts := by
        refine mem_of_mem_joinLiterals (fun bytes literal => ?_)
          (single ▸ List.mem_singleton_self _)
        rw [literal] at simplified
        cases simplified
      have smaller := List.sizeOf_lt_of_mem inside
      rw [simplified, Pattern.concat.sizeOf_spec] at smaller
      omega
    · next some _ =>
      have same : joinLiterals parts = parts := Pattern.concat.inj simplified
      cases parts with
      | nil => exact absurd rfl some
      | cons part rest => exact ⟨part, rest, rfl, same, .inl rfl⟩
  | _ => exact ⟨_, [], rfl, alone _, .inr ⟨rfl, rfl⟩⟩

section Assertions

variable (contributes : partsOf pattern = part :: rest)
  (joined : joinLiterals (part :: rest) = part :: rest)

include contributes joined

/-- **An assertion before a simplified pattern.** -/
theorem concat_started (look : Look) :
    concat [.look look, pattern] = .concat (.look look :: part :: rest) := by
  refine concat_eq ?_
  rw [List.flatMap_cons, List.flatMap_singleton, contributes]
  show joinLiterals ([] ++ .look look :: part :: rest) = _
  rw [joinLiterals_look, joined]
  rfl

/-- **An assertion behind a simplified pattern.** -/
theorem concat_ended (look : Look) :
    concat [pattern, .look look] = .concat (part :: rest ++ [.look look]) := by
  have all : joinLiterals ([pattern, .look look].flatMap partsOf) =
      part :: rest ++ [.look look] := by
    rw [List.flatMap_cons, List.flatMap_singleton, contributes]
    show joinLiterals (part :: rest ++ .look look :: []) = _
    rw [joinLiterals_look, joined]
    rfl
  rw [concat, all]
  cases rest <;> rfl

/-- **Assertions on both sides of a simplified pattern.** -/
theorem concat_enclosed (look last : Look) :
    concat [.look look, pattern, .look last] =
      .concat (.look look :: (part :: rest ++ [.look last])) := by
  refine concat_eq ?_
  rw [List.flatMap_cons, List.flatMap_cons, List.flatMap_singleton, contributes]
  show joinLiterals ([] ++ .look look :: (part :: rest ++ .look last :: [])) = _
  rw [joinLiterals_look, joinLiterals_look, joined]
  rfl

end Assertions

/-- **The parts of concatenations with assertions**, simplified or not: the pattern between the
assertions is one part, or the parts of a concatenation. -/
theorem exists_joined {join : List Pattern → Pattern}
    (joins : join = .concat ∨ join = concat ∧ concat [pattern] = pattern)
    (kept : join = .concat ∨ pattern ≠ .empty) (look last : Look) :
    ∃ part rest, (pattern = .concat (part :: rest) ∨ pattern = part ∧ rest = []) ∧
      join [.look look, pattern] = .concat (.look look :: part :: rest) ∧
      join [pattern, .look last] = .concat (part :: rest ++ [.look last]) ∧
      join [.look look, pattern, .look last] =
        .concat (.look look :: (part :: rest ++ [.look last])) := by
  by_cases raw : join = .concat
  · exact ⟨pattern, [], .inr ⟨rfl, rfl⟩, by rw [raw], by rw [raw]; rfl, by rw [raw]; rfl⟩
  · obtain ⟨rfl, simplified⟩ := joins.resolve_left raw
    obtain ⟨part, rest, contributes, joined, same⟩ :=
      exists_parts simplified (kept.resolve_left raw)
    exact ⟨part, rest, same, concat_started contributes joined look,
      concat_ended contributes joined last, concat_enclosed contributes joined look last⟩

end Simplified

end Crosscheck
