/-
**Assertions around a pattern.**

A concatenation is built part by part. An assertion behind the last part adds one state between the
fragment of the others and the state that stores the end of the match; an assertion before the first
part adds one state in front of them. The states of the parts stay as they are, but for their
numbers.

* `Build.concat_append`, `Build.concat_singleton`: concatenations of more parts, and of one;
* `Build.partsAfter_one_eq_ok`: one part behind a fragment;
* `Build.ended_eq_ok`, `Build.started_eq_ok`: an assertion behind the last part, and before the
  first one;
* `Automaton.Ended`, `Automaton.Started`: the automata with these assertions;
* `Automaton.exists_ended`, `Automaton.exists_started`: what they come to.
-/
import Crosscheck.Proofs.Automaton.Built
import Crosscheck.Proofs.Automaton.Renaming

namespace Crosscheck

namespace Build

variable {rule : LoopRule} {part : Pattern} {rest : List Pattern} {look : Look}
  {before after before' after' : Builder} {whole fragment : Fragment}

/-! ### Concatenations -/

theorem partsAfter_append (rule : LoopRule) (whole : Fragment) (parts more : List Pattern) :
    partsAfter rule whole (parts ++ more) =
      partsAfter rule whole parts >>= (partsAfter rule · more) := by
  induction parts generalizing whole with
  | nil => rw [List.nil_append, partsAfter, pure_bind]
  | cons part rest hypothesis =>
    rw [List.cons_append, partsAfter, partsAfter]
    simp only [hypothesis, bind_assoc]

/-- **More parts behind a concatenation.** -/
theorem concat_append (rule : LoopRule) (part : Pattern) (rest more : List Pattern) :
    Build.pattern rule (.concat (part :: rest ++ more)) =
      Build.pattern rule (.concat (part :: rest)) >>= (partsAfter rule · more) := by
  rw [List.cons_append, Build.pattern, Build.pattern, bind_assoc]
  simp only [partsAfter_append]

/-- **A concatenation of one part** is built as the part. -/
theorem concat_singleton (rule : LoopRule) (part : Pattern) :
    Build.pattern rule (.concat [part]) = Build.pattern rule part := by
  rw [Build.pattern]
  simp only [partsAfter, bind_pure]

/-- Where a concatenation is entered is settled by its first part, and matters for nothing else. -/
theorem partsAfter_first (entry : Nat)
    (built : partsAfter rule whole rest before = .ok (fragment, after)) :
    fragment.first = whole.first ∧ partsAfter rule ⟨entry, whole.last⟩ rest before =
      .ok (⟨entry, fragment.last⟩, after) := by
  induction rest generalizing before whole with
  | nil =>
    rw [partsAfter, pure_eq_ok] at built
    obtain ⟨rfl, rfl⟩ := built
    exact ⟨rfl, by rw [partsAfter, pure_eq_ok]; exact ⟨rfl, rfl⟩⟩
  | cons part rest hypothesis =>
    rw [partsAfter, bind_eq_ok] at built
    obtain ⟨b1, next, laid, built⟩ := built
    rw [bind_eq_ok] at built
    obtain ⟨b2, done, patched, built⟩ := built
    obtain ⟨same, others⟩ := hypothesis built
    refine ⟨same, ?_⟩
    rw [partsAfter, bind_eq_ok]
    refine ⟨b1, next, laid, ?_⟩
    rw [bind_eq_ok]
    exact ⟨b2, done, patched, others⟩

/-- Adding parts behind a fragment keeps all states but the one where the fragment is left. -/
theorem partsAfter_kept (built : partsAfter rule whole rest before = .ok (fragment, after)) :
    before.size ≤ after.size ∧
      ∀ index < before.size, index ≠ whole.last → after.state index = before.state index := by
  induction rest generalizing before whole with
  | nil =>
    rw [partsAfter, pure_eq_ok] at built
    obtain ⟨-, rfl⟩ := built
    exact ⟨le_rfl, fun _ _ _ => rfl⟩
  | cons part rest hypothesis =>
    rw [partsAfter, bind_eq_ok] at built
    obtain ⟨b1, next, laid, built⟩ := built
    rw [bind_eq_ok] at built
    obtain ⟨b2, done, patched, built⟩ := built
    obtain ⟨grows, kept, -, lastIn, -, -⟩ := lays_pattern rule part laid
    obtain ⟨size2, state2⟩ := patch_eq_ok patched
    obtain ⟨grows', kept'⟩ := hypothesis built
    refine ⟨by omega, fun index below other => ?_⟩
    rw [kept' index (by omega) (show index ≠ next.last by omega), state2, if_neg other,
      kept index below]

/-- **One part behind a fragment**: the fragment leads to the part, which leads out. -/
theorem partsAfter_one_eq_ok {shape : Shape} {slots : Set Nat} {middle : Builder}
    (laid : Laid before middle whole shape slots)
    (built : partsAfter rule whole [part] middle = .ok (fragment, after)) :
    ∃ next finished, Build.pattern rule part middle = .ok (next, finished) ∧
      after.size = finished.size ∧ fragment = ⟨whole.first, next.last⟩ ∧
      (∀ index, middle.size ≤ index → after.state index = finished.state index) ∧
      ∀ {graph : Graph} {exit : Nat}, after.Shows graph before.size next.last exit →
        middle.Shows graph before.size whole.last next.first ∧
        finished.Shows graph middle.size next.last exit := by
  rw [partsAfter, bind_eq_ok] at built
  obtain ⟨finished, next, added, built⟩ := built
  rw [bind_eq_ok] at built
  obtain ⟨_, _, patched, built⟩ := built
  rw [partsAfter, pure_eq_ok] at built
  obtain ⟨rfl, rfl⟩ := built
  obtain ⟨size, states⟩ := patch_eq_ok patched
  have lastIn := laid.last_mem
  refine ⟨next, finished, added, size, rfl, fun index above => ?_,
    fun shows => laid.shows_append (lays_pattern rule part added) patched shows⟩
  rw [states, if_neg (by omega)]

/-! ### Assertions -/

/-- A pattern that is an assertion is one state. -/
theorem look_eq_ok (built : Build.pattern rule (.look look) before = .ok (fragment, after)) :
    fragment = ⟨before.size, before.size⟩ ∧ after.size = before.size + 1 ∧
      ∀ index, after.state index =
        if index = before.size then .goto 0 (some look) else before.state index := by
  rw [Build.pattern, single, bind_eq_ok] at built
  obtain ⟨b1, index, added, built⟩ := built
  obtain ⟨rfl, rfl⟩ := pure_eq_ok.mp built
  obtain ⟨rfl, size, states⟩ := add_eq_ok added
  exact ⟨rfl, size, states⟩

/-- **An assertion behind the last part**: the parts lead to its state, which leads out. -/
theorem ended_eq_ok
    (built : Build.pattern rule (.concat (part :: rest ++ [.look look])) before =
      .ok (fragment, after)) :
    ∃ inner finished, Build.pattern rule (.concat (part :: rest)) before = .ok (inner, finished) ∧
      after.size = finished.size + 1 ∧ fragment = ⟨inner.first, finished.size⟩ ∧
      ∀ {graph : Graph} {next : Nat}, after.Shows graph before.size finished.size next →
        graph finished.size = .goto next (some look) ∧
        finished.Shows graph before.size inner.last finished.size := by
  rw [concat_append, bind_eq_ok] at built
  obtain ⟨b1, inner, laid, built⟩ := built
  obtain ⟨next, b2, added, size3, rfl, kept, parts⟩ :=
    partsAfter_one_eq_ok (lays_pattern rule _ laid) built
  obtain ⟨rfl, size2, state2⟩ := look_eq_ok added
  have grows := (lays_pattern rule _ laid).grows
  refine ⟨inner, b1, laid, by omega, rfl, fun {graph next} shows => ⟨?_, (parts shows).1⟩⟩
  rw [shows _ (by omega) (by omega), if_pos rfl, kept _ le_rfl, state2, if_pos rfl]
  rfl

/-- **An assertion before the first part**: its state leads to the parts, which are built behind it
as they are built alone. -/
theorem started_eq_ok (behind : 0 < before'.size)
    (built : Build.pattern rule (.concat (.look look :: part :: rest)) before =
      .ok (fragment, after))
    (built' : Build.pattern rule (.concat (part :: rest)) before' = .ok (whole, after')) :
    ∃ inner, whole.Shifts before'.size (before.size + 1) inner ∧
      after'.Alike before'.size (before.size + 1) after ∧ fragment = ⟨before.size, inner.last⟩ ∧
      ∀ {graph : Graph} {next : Nat}, after.Shows graph before.size inner.last next →
        graph before.size = .goto inner.first (some look) ∧
        after.Shows graph (before.size + 1) inner.last next := by
  rw [Build.pattern, bind_eq_ok] at built built'
  obtain ⟨b1, assertion, added, built⟩ := built
  obtain ⟨b1', next', laid', built'⟩ := built'
  rw [partsAfter, bind_eq_ok] at built
  obtain ⟨b2, next, laid, built⟩ := built
  rw [bind_eq_ok] at built
  obtain ⟨b3, done, patched, built⟩ := built
  obtain ⟨rfl, size1, state1⟩ := look_eq_ok added
  obtain ⟨size3, state3⟩ := patch_eq_ok patched
  obtain ⟨grows, kept, firstIn, lastIn, -, -⟩ := lays_pattern rule part laid
  obtain ⟨shifts, alike⟩ := alike_of_built behind laid' rfl laid size1
  -- Setting the target of the assertion changes no state behind it.
  have patchedAlike : b1'.Alike before'.size (before.size + 1) b3 := by
    refine ⟨alike.le_size, size3.trans alike.size_eq, fun index above below => ?_⟩
    have shifted := shift_add (before.size + 1) above
    rw [state3, if_neg (by dsimp only; omega), alike.state_eq index above below]
  obtain ⟨first, others⟩ := partsAfter_first next.first built
  obtain ⟨wholeShifts, wholeAlike⟩ := alike_of_alike behind
    (Pairing.alike_partsAfter (Pairing.alike_patterns _ rule rest) ⟨shifts.first, shifts.last⟩)
    patchedAlike built' others
  obtain ⟨grows', kept'⟩ := partsAfter_kept built
  obtain ⟨firstSame, -⟩ := partsAfter_first 0 others
  refine ⟨_, wholeShifts, wholeAlike, ?_, fun {graph exit} shows => ⟨?_, ?_⟩⟩
  · cases fragment
    exact congrArg (Fragment.mk · _) first
  · have outside : before.size ≠ fragment.last := by
      have above := wholeShifts.last.1
      have shifted := shift_add (before.size + 1) above
      have same : fragment.last = shift before'.size (before.size + 1) whole.last :=
        wholeShifts.last.2
      omega
    rw [shows _ le_rfl (by omega), if_neg outside, kept' _ (by omega) (by dsimp only; omega),
      state3, if_pos rfl, kept _ (by omega), state1, if_pos rfl]
    rfl
  · exact fun index above below => shows index (by omega) below

end Build

/-! ### Automata -/

namespace Automaton

variable {rule : LoopRule} {part : Pattern} {rest : List Pattern} {plain guarded : Automaton}

/-- An assertion holds no groups. -/
theorem groupsOf_ended (parts : List Pattern) (look : Look) :
    groupsOf (.concat (parts ++ [.look look])) = groupsOf (.concat parts) := by
  have same : Pattern.groupCounts (parts ++ [.look look]) = Pattern.groupCounts parts ∧
      Pattern.maxGroups (parts ++ [.look look]) = Pattern.maxGroups parts := by
    induction parts with
    | nil => exact ⟨rfl, rfl⟩
    | cons part rest hypothesis =>
      rw [List.cons_append, Pattern.groupCounts, Pattern.groupCounts, Pattern.maxGroups,
        Pattern.maxGroups, hypothesis.1, hypothesis.2]
      exact ⟨rfl, rfl⟩
  rw [groupsOf, groupsOf, Pattern.groupCount, Pattern.groupCount, Pattern.maxGroup,
    Pattern.maxGroup, same.1, same.2]

theorem groupsOf_started (parts : List Pattern) (look : Look) :
    groupsOf (.concat (.look look :: parts)) = groupsOf (.concat parts) := by
  simp [groupsOf, Pattern.groupCount, Pattern.groupCounts, Pattern.maxGroup, Pattern.maxGroups]

/-- The automaton of a concatenation of one part is that of the part. -/
theorem ofPattern_concat_singleton (rule : LoopRule) (pattern : Pattern) :
    ofPattern rule (.concat [pattern]) = ofPattern rule pattern := by
  have groups : groupsOf (.concat [pattern]) = groupsOf pattern := by
    simp [groupsOf, Pattern.groupCount, Pattern.groupCounts, Pattern.maxGroup, Pattern.maxGroups]
  rw [ofPattern, ofPattern, Build.concat_singleton, groups]

/-- An automaton with an assertion of the end of the haystack between what it shares with another
one and the state that stores the end of the match. -/
structure Ended (plain guarded : Automaton) (finish : Nat) : Prop where
  same : ∀ index < finish, guarded.state index = plain.state index
  looks : guarded.state finish = .goto (finish + 1) (some .finish)

/-- An automaton with an assertion of the beginning of the haystack between the state that stores
the start of the match and what it shares with another one. -/
structure Started (plain guarded : Automaton) : Prop where
  starts : ∃ inner, plain.state 0 = .capture inner 0 ∧ guarded.state 0 = .capture 1 0 ∧
    guarded.state 1 = .goto (inner + 1) (some .start)
  renames : ∀ index, 1 ≤ index → index < plain.size →
    guarded.state (index + 1) = (plain.state index).renamed Nat.succ

/-- **The automaton of parts before an assertion of the end.** -/
theorem exists_ended (compiled : ofPattern rule (.concat (part :: rest)) = .ok plain)
    (compiled' : ofPattern rule (.concat (part :: rest ++ [.look .finish])) = .ok guarded) :
    ∃ inner inner' finish, plain.Layout rule (.concat (part :: rest)) inner finish ∧
      guarded.Layout rule (.concat (part :: rest ++ [.look .finish])) inner' (finish + 1) ∧
      plain.Ended guarded finish := by
  obtain ⟨b1, inner, b2, built, size1, size2, -, starts, shows, -⟩ := ofPattern_eq_ok compiled
  obtain ⟨b1', whole, b2', built', size1', size2', -, starts', shows', -⟩ :=
    ofPattern_eq_ok compiled'
  obtain ⟨inner', b3, built'', size3, rfl, parts⟩ := Build.ended_eq_ok built'
  rw [size1'] at parts
  obtain ⟨looks, shows'⟩ := parts shows'
  obtain ⟨first, finish, layout⟩ := exists_layout compiled
  obtain ⟨first', finish', layout'⟩ := exists_layout compiled'
  obtain ⟨shifts, alike⟩ := Build.alike_of_built Nat.one_pos built size1 built'' size1'
  have laid := Build.lays_pattern rule _ built
  have bounds := laid.first_mem
  have none : ∀ index, shift 1 1 index = index := by
    intro index
    unfold shift
    split_ifs <;> omega
  have sizes : b3.size = b2.size := alike.size_eq.trans (none _)
  obtain rfl : finish = b2.size := by
    have := layout.size_eq
    omega
  obtain rfl : finish' = b2.size + 1 := by
    have := layout'.size_eq
    omega
  rw [sizes, size3, sizes] at looks
  rw [sizes] at shows'
  refine ⟨first, first', b2.size, layout, layout', fun index below => ?_, looks⟩
  rcases Nat.eq_zero_or_pos index with rfl | above
  · rw [starts, starts', shifts.first.2, none]
  · have renamed : guarded.state (id index) = (plain.state index).renamed id :=
      laid.renamed size1 alike shifts shows shows' (fun index _ _ => (none index).symm) rfl above
        below
    rwa [id_eq, State.renamed_id] at renamed

/-- **The automaton of parts behind an assertion of the beginning.** -/
theorem exists_started (compiled : ofPattern rule (.concat (part :: rest)) = .ok plain)
    (compiled' : ofPattern rule (.concat (.look .start :: part :: rest)) = .ok guarded) :
    plain.Started guarded := by
  obtain ⟨b1, inner, b2, built, size1, size2, -, starts, shows, ends, accepts, -⟩ :=
    ofPattern_eq_ok compiled
  obtain ⟨b1', whole, b2', built', size1', size2', -, starts', shows', ends', accepts', -⟩ :=
    ofPattern_eq_ok compiled'
  obtain ⟨inner', shifts, alike, rfl, parts⟩ :=
    Build.started_eq_ok (by omega) built' built
  rw [size1, size1'] at shifts alike
  rw [size1'] at parts starts'
  obtain ⟨looks, shows'⟩ := parts shows'
  have laid := Build.lays_pattern rule _ built
  have bounds := laid.first_mem
  have next : ∀ index, 1 ≤ index → shift 1 2 index = index + 1 := by
    intro index above
    unfold shift
    split_ifs <;> omega
  have sizes : b2'.size = b2.size + 1 := alike.size_eq.trans (next _ alike.le_size)
  refine ⟨⟨inner.first, starts, starts', ?_⟩, fun index above below => ?_⟩
  · rw [looks, shifts.first.2, next _ shifts.first.1]
  · rcases (by omega : index < b2.size ∨ index = b2.size ∨ index = b2.size + 1) with
      inside | rfl | rfl
    · show guarded.state (Nat.succ index) = _
      exact laid.renamed size1 alike shifts shows shows'
        (fun index above _ => (next index above).symm) sizes.symm above inside
    · rw [ends, ← sizes, ends']
      rfl
    · rw [accepts, ← sizes, accepts']
      rfl

end Automaton

end Crosscheck
