/-
**Smaller bounds enumerate less, in the same order.**

A step that smaller bounds allow is allowed by larger ones, and a program that larger bounds give up
is given up by smaller ones, as long as the larger limit is a machine word. So the walk of smaller
bounds never enters what the walk of larger ones leaves out, whatever operators take, and comes to
its programs in the same order. Haystacks are ordered by their length first, so those of a smaller
length come before all others.

* `Space.Within`: the same atoms and operators with smaller bounds;
* `Walk.visited_sublist`, `Space.programs_sublist`: what the walk visits and comes to;
* `Haystacks.allTexts_prefix`: the texts of a smaller length;
* `Parameters.reduced_within`: the parameters of a quick run have smaller bounds;
* `enumerated_in_order`: what sources and testers with smaller bounds enumerate;
* `enumerated_fewer_of_largestBound`: a limit that is no machine word.
-/
import Crosscheck.Proofs.Generate.Tuples
import Crosscheck.Proofs.Run.Comparing
import Mathlib.Data.List.Flatten
import Mathlib.Data.List.Infix

namespace Crosscheck

/-- The results of some of the items are some of the results. -/
theorem sublist_of_mapM {ε α β : Type} {act : α → Except ε β} {few many : List α}
    {less more : List β} (among : few.Sublist many) (some : few.mapM act = .ok less)
    (all : many.mapM act = .ok more) : less.Sublist more := by
  induction among generalizing less more with
  | slnil =>
    cases some
    cases all
    exact .slnil
  | cons item _ hypothesis =>
    obtain ⟨result, others, -, rest, rfl⟩ := mapM_cons_eq_ok all
    exact (hypothesis some rest).cons result
  | cons_cons item _ hypothesis =>
    obtain ⟨result, others, first, rest, rfl⟩ := mapM_cons_eq_ok all
    obtain ⟨result', others', first', rest', rfl⟩ := mapM_cons_eq_ok some
    cases first.symm.trans first'
    exact (hypothesis rest' rest).cons_cons result

/-! ### Programs -/

/-- A space with the atoms and operators of another one, and bounds that are not greater. -/
structure Space.Within (space larger : Space) : Prop where
  atoms_eq : space.atoms = larger.atoms
  operators_eq : space.operators = larger.operators
  maxAtoms_le : space.maxAtoms ≤ larger.maxAtoms
  maxOperators_le : space.maxOperators ≤ larger.maxOperators

variable {space larger : Space} {node child : Node} {token : Token}

namespace Node

/-- **A step that smaller bounds allow** is allowed by larger ones. -/
theorem step?_of_within (within : space.Within larger)
    (step : node.step? space token = some child) : node.step? larger token = some child := by
  obtain ⟨atoms, operators, fewerAtoms, fewerOperators⟩ := within
  have arities : larger.arities = space.arities := by rw [Space.arities, Space.arities, operators]
  obtain ⟨index, rfl, room, below, rfl⟩ | ⟨index, arity, rfl, room, there, enough, rfl⟩ :=
    step?_cases step
  · rw [atoms] at below
    exact if_pos ⟨Nat.lt_of_lt_of_le room fewerAtoms, below⟩
  · rw [step?, if_pos (Nat.lt_of_lt_of_le room fewerOperators), arities, there]
    exact if_pos enough

/-- **A program that larger bounds give up** is given up by smaller ones. -/
theorem isHopeless_of_within (within : space.Within larger)
    (fits : larger.maxOperators + 1 < UInt64.size) (hopeless : node.isHopeless larger = true) :
    node.isHopeless space = true := by
  have fewer := within.maxOperators_le
  simp only [isHopeless, Space.limit_eq fits,
    Space.limit_eq (show space.maxOperators + 1 < UInt64.size by omega),
    decide_eq_true_eq] at hopeless ⊢
  omega

theorem children_sublist (within : space.Within larger)
    (fits : larger.maxOperators + 1 < UInt64.size) (node : Node) :
    (node.children space).Sublist (node.children larger) := by
  have tokens : space.tokens = larger.tokens := by
    rw [Space.tokens, Space.tokens, within.atoms_eq, within.operators_eq]
  rw [children, children, tokens]
  by_cases hopeless : node.isHopeless space
  · rw [if_pos hopeless]
    exact List.nil_sublist _
  · rw [if_neg hopeless, if_neg fun gone => hopeless (isHopeless_of_within within fits gone),
      List.filterMap_eq_flatMap_toList, List.filterMap_eq_flatMap_toList]
    refine List.Sublist.flatMap_right _ fun token _ => ?_
    cases step : node.step? space token with
    | none => exact List.nil_sublist _
    | some child =>
      rw [step?_of_within within step]

end Node

namespace Walk

/-- **What a walk with smaller bounds visits** is visited with larger ones, in the same order. -/
theorem visited_sublist (within : space.Within larger)
    (fits : larger.maxOperators + 1 < UInt64.size) (node : Node) :
    (visited space node).Sublist (visited larger node) := by
  induction room : node.room space using Nat.strongRecOn generalizing node with
  | _ room hypothesis =>
    rw [visited_eq, visited_eq]
    have fewer : ((node.children space).flatMap (visited space)).Sublist
        ((node.children space).flatMap (visited larger)) := by
      refine List.Sublist.flatMap_right _ fun child extension => ?_
      have less := Node.room_children extension
      exact hypothesis (child.room space) (by omega) child rfl
    exact (fewer.trans ((Node.children_sublist within fits node).flatMap _)).cons_cons node

end Walk

namespace Space

/-- **The programs of smaller bounds** are among those of larger ones, in the same order. -/
theorem programs_sublist (within : space.Within larger)
    (fits : larger.maxOperators + 1 < UInt64.size) : space.programs.Sublist larger.programs :=
  ((Walk.visited_sublist within fits .empty).filter _).map _

/-- Bounds do not matter for what a program builds. -/
theorem render_of_within (within : space.Within larger) : space.render = larger.render := by
  have push : space.push = larger.push := by
    funext stack token
    cases token with
    | atom index => rw [Space.push, Space.push, within.atoms_eq]
    | operator index => rw [Space.push, Space.push, within.operators_eq]
  funext program
  rw [render, render, push]

/-- **The regexps of smaller bounds** are among those of larger ones, in the same order. -/
theorem regexps_sublist (within : space.Within larger)
    (fits : larger.maxOperators + 1 < UInt64.size) {less more : List String}
    (some : space.regexps = .ok less) (all : larger.regexps = .ok more) : less.Sublist more := by
  unfold regexps at some all
  rw [render_of_within within] at some
  exact sublist_of_mapM (programs_sublist within fits) some all

end Space

/-- Sources of candidates with smaller bounds yield some of the regexps, in the same order. -/
theorem Candidates.exists_yields_sublist (within : space.Within larger) :
    ∃ few many, (atWalk space .start).Yields few ∧ (atWalk larger .start).Yields many ∧
      (larger.maxOperators + 1 < UInt64.size → few.Sublist many) := by
  obtain ⟨few, some⟩ := space.exists_regexps
  obtain ⟨many, all⟩ := larger.exists_regexps
  exact ⟨few, many, yields_all_texts some, yields_all_texts all,
    fun fits => Space.regexps_sublist within fits some all⟩

/-! ### Haystacks -/

namespace Haystacks

/-- **The texts of a smaller length** come before all others. -/
theorem allTexts_prefix {length longer : Nat} (shorter : length ≤ longer)
    (alphabet : List String) : allTexts length alphabet <+: allTexts longer alphabet := by
  have lengths : List.range (length + 1) <+: List.range (longer + 1) := by
    obtain ⟨extra, rfl⟩ := Nat.exists_eq_add_of_le shorter
    have split : List.range (length + 1 + extra) = List.range (length + 1) ++ _ := List.range_add
    rw [Nat.add_right_comm, split]
    exact List.prefix_append _ _
  exact lengths.flatMap _

theorem yields_ofAlphabet (maxLength : Nat) (alphabet : List String) :
    (ofAlphabet maxLength alphabet).Yields (allTexts maxLength alphabet) := by
  rw [← toList_ofAlphabet]
  exact yields_toList _

theorem yields_forceEmpty (maxLength : Nat) (alphabet : List String) :
    (ofAlphabet maxLength alphabet).forceEmpty.Yields ("" :: allTexts maxLength alphabet) := by
  rw [← toList_ofAlphabet,
    ← toList_forceEmpty (show (ofAlphabet maxLength alphabet).forcedEmpty = false from rfl)]
  exact yields_toList _

end Haystacks

/-! ### Quick runs -/

namespace Parameters

theorem shrink_le (bound : Nat) : shrink bound ≤ bound := by
  rw [shrink]
  split
  · exact Nat.sub_le ..
  · exact Nat.le_refl _

/-- **The parameters of a quick run** have the same atoms and operators and smaller bounds. -/
theorem reduced_within (parameters : Parameters) :
    parameters.reduced.space.Within parameters.space :=
  ⟨rfl, rfl, shrink_le _, shrink_le _⟩

end Parameters

end Crosscheck
