/-
**Groups are numbered from 1 on.**

Number 0 is the whole match. A reader gives the next number to each group that captures, and what
comes after it adds no group: neither the meaning of the flags nor the simplification of patterns.

* `Written.groups`: the numbers of the groups of a regexp as it is written;
* `Reader.step?_cases`: what one step of a reader can do;
* `Simplified.groups_concat`, `Simplified.groups_alternation`: simplifying adds no group;
* `Pattern.one_le_of_ofText?`: the groups of a regexp that is given as text.
-/
import Crosscheck.Pattern.Meaning
import Crosscheck.Proofs.Pattern.Matches

namespace Crosscheck

/-! ### Simplified patterns -/

namespace Pattern

theorem mem_groupsIn {parts : List Pattern} {index : Nat} :
    index ∈ groupsIn parts ↔ ∃ part ∈ parts, index ∈ part.groups := by
  induction parts with
  | nil => simp [groupsIn]
  | cons part rest hypothesis => simp [groupsIn, hypothesis]

theorem groupsIn_append (parts others : List Pattern) :
    groupsIn (parts ++ others) = groupsIn parts ++ groupsIn others := by
  induction parts with
  | nil => rfl
  | cons part rest hypothesis => rw [List.cons_append, groupsIn, hypothesis, groupsIn,
      List.append_assoc]

/-- More patterns have no fewer groups. -/
theorem groupsIn_subset {parts others : List Pattern} (less : parts ⊆ others) :
    groupsIn parts ⊆ groupsIn others := by
  intro index member
  obtain ⟨part, inside, captured⟩ := mem_groupsIn.mp member
  exact mem_groupsIn.mpr ⟨part, less inside, captured⟩

end Pattern

namespace Simplified

open Pattern (groupsIn groupsIn_append groupsIn_subset mem_groupsIn)

@[simp] theorem groups_byteClass (bytes : RangeSet) : (byteClass bytes).groups = [] := by
  rw [byteClass]
  split <;> rfl

@[simp] theorem groups_charClass (chars : RangeSet) : (charClass chars).groups = [] := by
  rw [charClass]
  split
  · rfl
  · split <;> rfl

theorem groups_repetition (min : Nat) (max : Option Nat) (greedy : Bool) (body : Pattern) :
    (repetition min max greedy body).groups ⊆ body.groups := by
  rw [repetition]
  dsimp only
  generalize (if body.maxLength = some 0 then _ else _ : Nat × Option Nat) = bounds
  split
  · exact List.nil_subset _
  · split <;> exact List.Subset.refl _

theorem groupsIn_partsOf (part : Pattern) : groupsIn (partsOf part) = part.groups := by
  unfold partsOf
  split <;> simp [groupsIn, Pattern.groups]

theorem groupsIn_flatMap_partsOf (parts : List Pattern) :
    groupsIn (parts.flatMap partsOf) = groupsIn parts := by
  induction parts with
  | nil => rfl
  | cons part rest hypothesis =>
    rw [List.flatMap_cons, groupsIn_append, hypothesis, groupsIn_partsOf, groupsIn]

/-- Literals have no groups, so joining them takes none away and adds none. -/
theorem groupsIn_joinLiterals (parts : List Pattern) :
    groupsIn (joinLiterals parts) = groupsIn parts := by
  fun_induction joinLiterals parts with
  | case1 bytes rest more others joined hypothesis =>
    rw [joined] at hypothesis
    simpa [groupsIn, Pattern.groups] using hypothesis
  | case2 bytes rest apart hypothesis => simpa [groupsIn, Pattern.groups] using hypothesis
  | case3 part rest other hypothesis => rw [groupsIn, hypothesis, groupsIn]
  | case4 => rfl

/-- **A simplified concatenation** has the groups of its parts. -/
theorem groups_concat (parts : List Pattern) : (concat parts).groups = groupsIn parts := by
  rw [← groupsIn_flatMap_partsOf parts, ← groupsIn_joinLiterals, concat]
  split
  · next nothing => rw [nothing]; rfl
  · next part single => rw [single, groupsIn, groupsIn, List.append_nil]
  · rfl

theorem groupsIn_branchesOf (branch : Pattern) : groupsIn (branchesOf branch) = branch.groups := by
  unfold branchesOf
  split <;> simp [groupsIn, Pattern.groups]

theorem groupsIn_flatMap_branchesOf (branches : List Pattern) :
    groupsIn (branches.flatMap branchesOf) = groupsIn branches := by
  induction branches with
  | nil => rfl
  | cons branch rest hypothesis =>
    rw [List.flatMap_cons, groupsIn_append, hypothesis, groupsIn_branchesOf, groupsIn]

/-- A class has no groups. -/
theorem groups_of_classOf? {branches : List Pattern} {pattern : Pattern}
    (made : classOf? branches = some pattern) : pattern.groups = [] := by
  simp only [classOf?, Option.or_eq_some_iff, Option.map_eq_some_iff] at made
  rcases made with ⟨_, -, rfl⟩ | ⟨-, ⟨_, -, rfl⟩ | ⟨-, ⟨_, -, rfl⟩ | ⟨-, _, -, rfl⟩⟩⟩ <;> simp

/-- What is read as the parts of branches are the parts of concatenations among them. -/
theorem mem_of_concatParts? {branches : List Pattern} {lists : List (List Pattern)}
    (parts : branches.mapM concatParts? = some lists) :
    ∀ list ∈ lists, .concat list ∈ branches := by
  induction branches generalizing lists with
  | nil =>
    rw [List.mapM_nil] at parts
    cases parts
    exact fun _ member => (List.not_mem_nil member).elim
  | cons branch rest hypothesis =>
    simp only [List.mapM_cons, bind, Option.bind_eq_some_iff, pure, Option.some.injEq] at parts
    obtain ⟨first, isConcat, others, remaining, rfl⟩ := parts
    have whole : .concat first = branch := by
      unfold concatParts? at isConcat
      split at isConcat <;> cases isConcat
      rfl
    intro list member
    rcases List.mem_cons.mp member with rfl | later
    · exact whole ▸ List.mem_cons_self
    · exact List.mem_cons_of_mem _ (hypothesis remaining list later)

/-- What branches start with in common, and what follows, are parts of concatenations among
them. -/
theorem subset_of_commonStart? {branches start : List Pattern} {rests : List (List Pattern)}
    (common : commonStart? branches = some (start, rests)) :
    (∃ parts, .concat parts ∈ branches ∧ start ⊆ parts) ∧
      ∀ rest ∈ rests, ∃ parts, .concat parts ∈ branches ∧ rest ⊆ parts := by
  unfold commonStart? at common
  split at common
  · next first others parts =>
    dsimp only at common
    split at common
    · cases common
    · cases common
      have inside := mem_of_concatParts? parts
      refine ⟨⟨first, inside first List.mem_cons_self, List.take_subset _ _⟩,
        fun rest member => ?_⟩
      obtain ⟨list, isList, rfl⟩ := List.mem_map.mp member
      exact ⟨list, inside list isList, List.drop_subset _ _⟩
  · cases common

/-- Parts of a concatenation among the branches have no groups but those of the branches. -/
theorem groupsIn_of_parts {branches list : List Pattern}
    (parts : ∃ parts, .concat parts ∈ branches ∧ list ⊆ parts) :
    groupsIn list ⊆ groupsIn branches := by
  obtain ⟨parts, inside, less⟩ := parts
  exact fun index member => mem_groupsIn.mpr ⟨_, inside, groupsIn_subset less member⟩

theorem groups_alternationWith (fuel : Nat) (branches : List Pattern) :
    (alternationWith fuel branches).groups ⊆ groupsIn branches := by
  rw [← groupsIn_flatMap_branchesOf branches]
  fun_induction alternationWith fuel branches with
  | case1 => exact List.nil_subset _
  | case2 fuel branches branch single =>
    rw [single, groupsIn, groupsIn, List.append_nil]
    exact List.Subset.refl _
  | case3 fuel branches pattern _ _ made =>
    rw [groups_of_classOf? made]
    exact List.nil_subset _
  | case4 branches fuel start rests _ _ _ common hypothesis =>
    obtain ⟨before, after⟩ := subset_of_commonStart? common
    rw [groups_concat, groupsIn_append, groupsIn, groupsIn, List.append_nil]
    rw [groupsIn_flatMap_branchesOf] at hypothesis
    refine List.append_subset.mpr ⟨groupsIn_of_parts before,
      List.Subset.trans hypothesis fun index member => ?_⟩
    obtain ⟨part, inside, captured⟩ := mem_groupsIn.mp member
    obtain ⟨rest, isRest, rfl⟩ := List.mem_map.mp inside
    rw [groups_concat] at captured
    exact groupsIn_of_parts (after rest isRest) captured
  | case5 => exact List.Subset.refl _

/-- **A simplified alternation** has no groups but those of its branches. -/
theorem groups_alternation (branches : List Pattern) :
    (alternation branches).groups ⊆ groupsIn branches := groups_alternationWith _ _

end Simplified

/-! ### What regexps mean -/

namespace Written

mutual

/-- The numbers of the groups of a regexp that capture. -/
def groups : Written → List Nat
  | repetition _ _ _ body => groups body
  | group (.capturing index) body => index :: groups body
  | group (.plain _) body => groups body
  | concat parts => groupsIn parts
  | alternation branches => groupsIn branches
  | _ => []

/-- The numbers of the groups of several regexps. -/
def groupsIn : List Written → List Nat
  | [] => []
  | part :: rest => groups part ++ groupsIn rest

end

theorem mem_groupsIn {parts : List Written} {index : Nat} :
    index ∈ groupsIn parts ↔ ∃ part ∈ parts, index ∈ part.groups := by
  induction parts with
  | nil => simp [groupsIn]
  | cons part rest hypothesis => simp [groupsIn, hypothesis]

theorem groups_ofParts (parts : List Written) : (ofParts parts).groups = groupsIn parts := by
  rw [ofParts.eq_def]
  split
  · rfl
  · rw [groupsIn, groupsIn, List.append_nil]
  · rfl

end Written

namespace Meaning

@[simp] theorem groups_classPattern (mode : Mode) (set : RangeSet) :
    (classPattern mode set).groups = [] := by
  rw [classPattern]
  split <;> simp

@[simp] theorem groups_literal (mode : Mode) (scalar : Scalar) :
    (literal mode scalar).groups = [] := by
  simp only [literal]
  split
  · rfl
  · split
    · exact groups_classPattern _ _
    · rfl

@[simp] theorem groups_assertion (mode : Mode) (written : Assertion) :
    (assertion mode written).groups = [] := by
  cases written <;> simp only [assertion, wordLook] <;> first | rfl | (split <;> rfl)

mutual

/-- **The pattern of a regexp** has no groups but those of the regexp. -/
theorem groups_of_pattern? {mode after : Mode} {pattern : Pattern} : (written : Written) →
    pattern? mode written = some (pattern, after) → pattern.groups ⊆ written.groups
  | .empty, means | .flags _, means => by
    cases means
    exact List.nil_subset _
  | .literal _, means | .dot, means | .assertion _, means | .short _ _, means => by
    cases means
    simp [dot]
  | .property name negated, means => by
    obtain ⟨set, -, same⟩ := Option.bind_eq_some_iff.mp means
    cases same
    simp
  | .bracketed negated set, means => by
    obtain ⟨set, -, same⟩ := Option.bind_eq_some_iff.mp means
    cases same
    simp
  | .repetition min max greedy body, means => by
    obtain ⟨⟨inner, middle⟩, meansBody, same⟩ := Option.bind_eq_some_iff.mp means
    cases same
    exact List.Subset.trans (Simplified.groups_repetition ..) (groups_of_pattern? body meansBody)
  | .group (.capturing index) body, means => by
    obtain ⟨⟨inner, middle⟩, meansBody, same⟩ := Option.bind_eq_some_iff.mp means
    cases same
    exact List.cons_subset_cons _ (groups_of_pattern? body meansBody)
  | .group (.plain flags) body, means => by
    obtain ⟨⟨inner, middle⟩, meansBody, same⟩ := Option.bind_eq_some_iff.mp means
    cases same
    exact groups_of_pattern? body meansBody
  | .concat parts, means => by
    obtain ⟨⟨inner, middle⟩, meansParts, same⟩ := Option.bind_eq_some_iff.mp means
    cases same
    rw [Simplified.groups_concat]
    exact groupsIn_of_patterns? parts meansParts
  | .alternation branches, means => by
    obtain ⟨⟨inner, middle⟩, meansBranches, same⟩ := Option.bind_eq_some_iff.mp means
    cases same
    exact List.Subset.trans (Simplified.groups_alternation _)
      (groupsIn_of_patterns? branches meansBranches)

theorem groupsIn_of_patterns? {mode after : Mode} {patterns : List Pattern} :
    (parts : List Written) → patterns? mode parts = some (patterns, after) →
      Pattern.groupsIn patterns ⊆ Written.groupsIn parts
  | [], means => by
    cases means
    exact List.nil_subset _
  | part :: rest, means => by
    obtain ⟨⟨first, middle⟩, meansFirst, means⟩ := Option.bind_eq_some_iff.mp means
    obtain ⟨⟨others, last⟩, meansRest, same⟩ := Option.bind_eq_some_iff.mp means
    cases same
    rw [Pattern.groupsIn, Written.groupsIn]
    exact List.append_subset.mpr
      ⟨List.Subset.trans (groups_of_pattern? part meansFirst) (List.subset_append_left _ _),
        List.Subset.trans (groupsIn_of_patterns? rest meansRest) (List.subset_append_right _ _)⟩

end

end Meaning

/-! ### Reading -/

namespace Reader

/-- The numbers of the groups in what a part stands in. -/
def Frame.groups : Frame → List Nat
  | .group before (.capturing index) _ => index :: Written.groupsIn before
  | .group before (.plain _) _ => Written.groupsIn before
  | .alternation branches => Written.groupsIn branches

namespace State

/-- The numbers of the groups that were read so far. -/
def numbers (state : State) : List Nat :=
  Written.groupsIn state.parts ++ state.stack.flatMap Frame.groups

theorem groups_whole (state : State) : state.whole.groups ⊆ Written.groupsIn state.parts := by
  rw [whole, Written.groups_ofParts]
  intro index member
  obtain ⟨part, inside, captured⟩ := Written.mem_groupsIn.mp member
  exact Written.mem_groupsIn.mpr ⟨part, List.mem_reverse.mp inside, captured⟩

/-- What a group holds, and what it stands in, have no numbers but those read so far. -/
theorem numbers_contents (state : State) :
    state.contents.1.groups ++ state.contents.2.flatMap Frame.groups ⊆ state.numbers := by
  have whole := state.groups_whole
  rw [contents, numbers]
  split
  · next branches stack inside =>
    rw [inside, List.flatMap_cons]
    intro index member
    simp only [Written.groups, Frame.groups, List.mem_append, Written.mem_groupsIn,
      List.mem_reverse, List.mem_cons] at member ⊢
    rcases member with ⟨part, rfl | isBranch, captured⟩ | outside
    · exact .inl (Written.mem_groupsIn.mp (whole captured))
    · exact .inr (.inl ⟨part, isBranch, captured⟩)
    · exact .inr (.inr outside)
  · exact List.append_subset.mpr ⟨List.Subset.trans whole (List.subset_append_left _ _),
      List.subset_append_right _ _⟩

theorem numbers_endBranch (state : State) : state.endBranch.numbers ⊆ state.numbers := by
  have whole := state.groups_whole
  rw [endBranch, numbers, numbers]
  split
  · next branches stack inside =>
    rw [inside]
    intro index member
    simp only [Frame.groups, Written.groupsIn, List.flatMap_cons, List.nil_append,
      List.mem_append] at member ⊢
    rcases member with (captured | isBranch) | outside
    · exact .inl (whole captured)
    · exact .inr (.inl isBranch)
    · exact .inr (.inr outside)
  · intro index member
    simp only [Frame.groups, Written.groupsIn, List.flatMap_cons, List.nil_append,
      List.append_nil, List.mem_append] at member ⊢
    exact member.imp_left (whole ·)

theorem numbers_add {state : State} {part : Written} (plain : part.groups = []) :
    (state.add part).numbers = state.numbers := by
  rw [add, numbers, numbers, Written.groupsIn, plain, List.nil_append]

/-- Opening a group gives it the next number, if it captures. -/
theorem numbers_of_enter? {state after : State} {opening : Opening}
    (enters : state.enter? opening = some after) :
    after.numbers ⊆ (state.groups + 1) :: state.numbers := by
  cases opening with
  | directive flags =>
    cases enters
    exact List.subset_cons_self _ _
  | plain flags =>
    cases enters
    exact List.subset_cons_self _ _
  | capturing name =>
    rw [enter?] at enters
    split at enters
    · cases enters
    · cases enters
      exact List.Subset.refl _

theorem numbers_of_leave? {state after : State} (leaves : state.leave? = some after) :
    after.numbers ⊆ state.numbers := by
  refine List.Subset.trans ?_ state.numbers_contents
  rw [leave?] at leaves
  split at leaves
  · next body before kind blanks stack holds =>
    cases leaves
    rw [holds, numbers, List.flatMap_cons, Written.groupsIn]
    intro index member
    cases kind with
    | capturing number =>
      simp only [Written.groups, Frame.groups, List.mem_append, List.mem_cons] at member ⊢
      grind
    | plain flags =>
      simp only [Written.groups, Frame.groups, List.mem_append] at member ⊢
      grind
  · cases leaves

theorem numbers_of_repeatLast? {state after : State} {min : Nat} {max : Option Nat} {greedy : Bool}
    (repeats : state.repeatLast? min max greedy = some after) : after.numbers = state.numbers := by
  rw [repeatLast?] at repeats
  split at repeats
  · next part before parts =>
    split at repeats
    · cases repeats
      rw [numbers, numbers, parts]
      rfl
    · cases repeats
  · cases repeats

end State

theorem repeatLast?_of_uncounted? {state after : State} {min : Nat} {max : Option Nat}
    {chars rest : Chars} (reads : uncounted? state min max chars = some (after, rest)) :
    ∃ min max greedy, state.repeatLast? min max greedy = some after := by
  obtain ⟨_, repeats, same⟩ := Option.bind_eq_some_iff.mp reads
  cases same
  exact ⟨_, _, _, repeats⟩

theorem groups_partOf (primitive : Primitive) : (partOf primitive).groups = [] := by
  cases primitive <;> rfl

/-- **What a reader can do in one step**: it opens a group, sets flags, closes a group, ends a
branch, repeats the last part or adds a part without a group. -/
theorem step?_cases {state after : State} {chars rest : Chars}
    (step : step? state chars = some (after, rest)) :
    (∃ opening, state.enter? opening = some after) ∨ state.leave? = some after ∨
      after = state.endBranch ∨
      (∃ min max greedy, state.repeatLast? min max greedy = some after) ∨
      ∃ part, part.groups = [] ∧ after = state.add part := by
  obtain ⟨char, -, step⟩ := Option.bind_eq_some_iff.mp step
  split at step
  · obtain ⟨⟨opening, _⟩, -, step⟩ := Option.bind_eq_some_iff.mp step
    obtain ⟨_, enters, same⟩ := Option.bind_eq_some_iff.mp step
    cases same
    exact .inl ⟨opening, enters⟩
  · obtain ⟨_, leaves, same⟩ := Option.bind_eq_some_iff.mp step
    cases same
    exact .inr (.inl leaves)
  · cases step
    exact .inr (.inr (.inl rfl))
  · obtain ⟨⟨part, _⟩, bracketed, same⟩ := Option.bind_eq_some_iff.mp step
    obtain ⟨⟨negated, set, _⟩, -, isPart⟩ := Option.bind_eq_some_iff.mp bracketed
    cases same
    cases isPart
    exact .inr (.inr (.inr (.inr ⟨_, rfl, rfl⟩)))
  · exact .inr (.inr (.inr (.inl (repeatLast?_of_uncounted? step))))
  · exact .inr (.inr (.inr (.inl (repeatLast?_of_uncounted? step))))
  · exact .inr (.inr (.inr (.inl (repeatLast?_of_uncounted? step))))
  · obtain ⟨⟨⟨min, max, greedy⟩, _⟩, -, step⟩ := Option.bind_eq_some_iff.mp step
    obtain ⟨_, repeats, same⟩ := Option.bind_eq_some_iff.mp step
    cases same
    exact .inr (.inr (.inr (.inl ⟨min, max, greedy, repeats⟩)))
  · obtain ⟨⟨primitive, _⟩, -, same⟩ := Option.bind_eq_some_iff.mp step
    cases same
    exact .inr (.inr (.inr (.inr ⟨_, groups_partOf primitive, rfl⟩)))
  all_goals
    cases step
    exact .inr (.inr (.inr (.inr ⟨_, rfl, rfl⟩)))

/-- A step of a reader adds at most the next number. -/
theorem numbers_of_step? {state after : State} {chars rest : Chars}
    (step : step? state chars = some (after, rest)) :
    after.numbers ⊆ (state.groups + 1) :: state.numbers := by
  have kept : state.numbers ⊆ (state.groups + 1) :: state.numbers := List.subset_cons_self _ _
  rcases step?_cases step with ⟨opening, enters⟩ | leaves | rfl | ⟨min, max, greedy, repeats⟩ |
    ⟨part, plain, rfl⟩
  · exact State.numbers_of_enter? enters
  · exact List.Subset.trans (State.numbers_of_leave? leaves) kept
  · exact List.Subset.trans state.numbers_endBranch kept
  · rw [State.numbers_of_repeatLast? repeats]
    exact kept
  · rw [State.numbers_add plain]
    exact kept

/-- **A reader gives no group the number 0.** -/
theorem one_le_of_all? {fuel : Nat} {state : State} {chars : Chars} {written : Written}
    (positive : ∀ index ∈ state.numbers, 1 ≤ index)
    (reads : all? fuel state chars = some written) : ∀ index ∈ written.groups, 1 ≤ index := by
  induction fuel generalizing state chars with
  | zero => cases reads
  | succ fuel hypothesis =>
    rw [all?] at reads
    split at reads
    · rw [State.finish?] at reads
      split at reads
      · next whole ends =>
        cases reads
        intro index member
        have inside := state.numbers_contents
        rw [ends] at inside
        exact positive index (inside (List.mem_append_left _ member))
      · cases reads
    · obtain ⟨⟨after, rest⟩, step, reads⟩ := Option.bind_eq_some_iff.mp reads
      refine hypothesis (fun index member => ?_) reads
      rcases List.mem_cons.mp (numbers_of_step? step member) with rfl | before
      · exact Nat.succ_pos _
      · exact positive index before

end Reader

/-- **The groups of a regexp that is given as text are numbered from 1 on.** -/
theorem Pattern.one_le_of_ofText? {text : String} {pattern : Pattern}
    (means : Pattern.ofText? text = some pattern) : ∀ index ∈ pattern.groups, 1 ≤ index := by
  obtain ⟨written, read, means⟩ := Option.bind_eq_some_iff.mp means
  obtain ⟨⟨_, after⟩, means, same⟩ := Option.bind_eq_some_iff.mp means
  cases same
  obtain ⟨_, reads, shallow⟩ := Option.bind_eq_some_iff.mp read
  split at shallow
  · cases shallow
  · cases shallow
    have fresh : ∀ index ∈ Reader.State.initial.numbers, 1 ≤ index :=
      fun _ member => (List.not_mem_nil member).elim
    exact fun index member => Reader.one_le_of_all? fresh reads index
      (Meaning.groups_of_pattern? written means member)

end Crosscheck
