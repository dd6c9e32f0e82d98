/-
**Which thread is reported.**

Of the threads that a search finds, those compete that end a match. A search for the first match
reports the first of them. A search for the longest match takes each one that ends behind the best
so far, so it reports the first of those that end last.

* `MatchKind.better`, `Chooses`: the better of two threads;
* `choose`: the thread that is reported;
* `choose_first`, `le_of_choose_longest`: what the two kinds of search choose;
* `choose_map`: what is chosen in view of a map.
-/
import Crosscheck.Proofs.Search.Thread

namespace Crosscheck

/-- The better of the best thread so far and one that was found later. -/
def MatchKind.better (kind : MatchKind) (best : Option Thread) (thread : Thread) : Option Thread :=
  match kind with
  | .leftmostFirst => best.or (some thread)
  | .leftmostLongest => if best.all (·.position < thread.position) then some thread else best

/-- The better of two threads is one of them. -/
structure Chooses (better : Option Thread → Thread → Option Thread) : Prop where
  /-- There is a better one. -/
  isSome : ∀ best thread, (better best thread).isSome
  /-- It is one of the two. -/
  either : ∀ {best thread chosen}, better best thread = some chosen →
    best = some chosen ∨ thread = chosen

theorem MatchKind.chooses (kind : MatchKind) : Chooses kind.better := by
  cases kind with
  | leftmostFirst =>
    refine ⟨fun best thread => by cases best <;> rfl, fun {best thread chosen} reported => ?_⟩
    rw [better, Option.or_eq_some_iff] at reported
    exact reported.imp_right fun ⟨_, same⟩ => Option.some.inj same
  | leftmostLongest =>
    refine ⟨fun best thread => ?_, fun {best thread chosen} reported => ?_⟩
    · cases best with
      | none => rfl
      | some best =>
        simp only [better]
        split <;> rfl
    · simp only [better] at reported
      split at reported
      · exact .inr (Option.some.inj reported)
      · exact .inl reported

/-- The thread that is reported when others are found after the best so far, given which is the
better of two. -/
def choose (automaton : Automaton) (haystack : Array UInt8) (anchor : Anchor)
    (better : Option Thread → Thread → Option Thread) (best : Option Thread) (found : List Thread) :
    Option Thread :=
  (found.filter (Thread.ends automaton haystack anchor)).foldl better best

section Choose

variable {automaton : Automaton} {haystack : Array UInt8} {anchor : Anchor} {kind : MatchKind}
  {better : Option Thread → Thread → Option Thread} {best : Option Thread} {thread : Thread}
  {found : List Thread}

@[simp]
theorem choose_nil : choose automaton haystack anchor better best [] = best := rfl

theorem choose_cons_of_ends (final : thread.ends automaton haystack anchor = true) :
    choose automaton haystack anchor better best (thread :: found) =
      choose automaton haystack anchor better (better best thread) found := by
  rw [choose, List.filter_cons_of_pos final, List.foldl_cons]
  rfl

theorem choose_cons_of_not_ends (going : ¬thread.ends automaton haystack anchor = true) :
    choose automaton haystack anchor better best (thread :: found) =
      choose automaton haystack anchor better best found := by
  rw [choose, List.filter_cons_of_neg going]
  rfl

theorem choose_append (first second : List Thread) :
    choose automaton haystack anchor better best (first ++ second) =
      choose automaton haystack anchor better (choose automaton haystack anchor better best first)
        second := by
  rw [choose, List.filter_append, List.foldl_append]
  rfl

/-- What is reported was the best before, or was found and ends a match. -/
theorem choose_cases (chooses : Chooses better) {chosen : Thread}
    (reported : choose automaton haystack anchor better best found = some chosen) :
    best = some chosen ∨ chosen ∈ found ∧ chosen.ends automaton haystack anchor = true := by
  induction found generalizing best with
  | nil => exact .inl reported
  | cons thread rest hypothesis =>
    by_cases final : thread.ends automaton haystack anchor = true
    · rw [choose_cons_of_ends final] at reported
      rcases hypothesis reported with now | ⟨member, ends⟩
      · rcases chooses.either now with before | rfl
        · exact .inl before
        · exact .inr ⟨List.mem_cons_self, final⟩
      · exact .inr ⟨List.mem_cons_of_mem _ member, ends⟩
    · rw [choose_cons_of_not_ends final] at reported
      exact (hypothesis reported).imp_right fun ⟨member, ends⟩ =>
        ⟨List.mem_cons_of_mem _ member, ends⟩

/-- **A match is reported as soon as one was found.** -/
theorem isSome_choose (chooses : Chooses better) (automaton : Automaton) (haystack : Array UInt8)
    (anchor : Anchor) (best : Option Thread) (found : List Thread) :
    (choose automaton haystack anchor better best found).isSome ↔
      best.isSome ∨ ∃ thread ∈ found, thread.ends automaton haystack anchor = true := by
  induction found generalizing best with
  | nil => simp
  | cons thread rest hypothesis =>
    by_cases final : thread.ends automaton haystack anchor = true
    · rw [choose_cons_of_ends final, hypothesis]
      exact iff_of_true (.inl (chooses.isSome ..)) (.inr ⟨thread, List.mem_cons_self, final⟩)
    · rw [choose_cons_of_not_ends final, hypothesis]
      simp [final]

/-- **A search for the first match** reports the first thread that ends one. -/
theorem choose_first : choose automaton haystack anchor MatchKind.leftmostFirst.better best found =
    best.or (found.find? (Thread.ends automaton haystack anchor)) := by
  induction found generalizing best with
  | nil => rw [choose_nil, List.find?_nil, Option.or_none]
  | cons thread rest hypothesis =>
    by_cases final : thread.ends automaton haystack anchor = true
    · rw [choose_cons_of_ends final, hypothesis, List.find?_cons_of_pos final]
      cases best <;> rfl
    · rw [choose_cons_of_not_ends final, hypothesis, List.find?_cons_of_neg final]

/-- **A search for the longest match** reports a thread behind which none ends a match. -/
theorem le_of_choose_longest {chosen : Thread}
    (reported : choose automaton haystack anchor MatchKind.leftmostLongest.better best found =
      some chosen) :
    (∀ thread ∈ best, thread.position ≤ chosen.position) ∧
      ∀ thread ∈ found, thread.ends automaton haystack anchor = true →
        thread.position ≤ chosen.position := by
  induction found generalizing best with
  | nil =>
    obtain rfl : best = some chosen := reported
    exact ⟨fun thread same => Nat.le_of_eq (congrArg Thread.position (Option.some.inj same)).symm,
      fun _ member => (List.not_mem_nil member).elim⟩
  | cons thread rest hypothesis =>
    by_cases final : thread.ends automaton haystack anchor = true
    · rw [choose_cons_of_ends final] at reported
      obtain ⟨earlier, later⟩ := hypothesis reported
      simp only [MatchKind.better] at earlier
      split at earlier
      · next farther =>
        have here := earlier thread rfl
        refine ⟨fun before same => ?_, List.forall_mem_cons.mpr ⟨fun _ => here, later⟩⟩
        have less : before.position < thread.position := by
          rw [Option.mem_def.mp same] at farther
          simpa using farther
        omega
      · next nearer =>
        refine ⟨earlier, List.forall_mem_cons.mpr ⟨fun _ => ?_, later⟩⟩
        cases best with
        | none => exact absurd rfl nearer
        | some before =>
          have less : thread.position ≤ before.position := by simpa using nearer
          exact Nat.le_trans less (earlier before rfl)
    · rw [choose_cons_of_not_ends final] at reported
      obtain ⟨earlier, later⟩ := hypothesis reported
      exact ⟨earlier, List.forall_mem_cons.mpr ⟨fun ends => absurd ends final, later⟩⟩

/-- **What is chosen can be viewed before or after the choice**, through a map that keeps where
threads are and whether they end a match. -/
theorem choose_map {other : Automaton} {view : Thread → Thread}
    (keeps : ∀ thread, (view thread).position = thread.position)
    (ends : ∀ thread ∈ found,
      (view thread).ends other haystack anchor = thread.ends automaton haystack anchor) :
    choose other haystack anchor kind.better (best.map view) (found.map view) =
      (choose automaton haystack anchor kind.better best found).map view := by
  induction found generalizing best with
  | nil => rfl
  | cons thread rest hypothesis =>
    obtain ⟨same, others⟩ := List.forall_mem_cons.mp ends
    rw [List.map_cons]
    by_cases final : thread.ends automaton haystack anchor = true
    · have better :
          kind.better (best.map view) (view thread) = (kind.better best thread).map view := by
        cases kind with
        | leftmostFirst => cases best <;> rfl
        | leftmostLongest =>
          simp only [MatchKind.better, Option.all_map, keeps]
          rw [apply_ite (Option.map _)]
          rfl
      rw [choose_cons_of_ends final, choose_cons_of_ends (same.trans final), better,
        hypothesis others]
    · rw [choose_cons_of_not_ends final, choose_cons_of_not_ends (same ▸ final), hypothesis others]

end Choose

end Crosscheck
