/-
**Bitmaps remember what was visited since they were cleared.**

One bitmap serves all searches by backtracking with an automaton. Each search prepares it for a
haystack of its own length, which changes where the bit of a configuration stands and leaves in the
words whatever they held. Since a bitmap is cleared before a configuration is visited, it tells for
each visit whether there was one of the same configuration since then, and never of another one.

* `Bitmap.Use`, `Bitmap.Stage`: what is done with a bitmap, and in which order;
* `Bitmap.Stage.Serves`: what a bitmap is good for at a stage, kept by `Bitmap.Stage.Serves.use`;
* `Bitmap.hasVisited_iff`: what a bitmap tells, whatever it was used for before.
-/
import Crosscheck.Proofs.Search.Bitmap
import Mathlib.Data.List.Induction

namespace Crosscheck

namespace Bitmap

/-- Something that is done with a bitmap. -/
inductive Use where
  /-- It is prepared for a search in a haystack of the given length. -/
  | setup (length : Nat)
  /-- It is cleared. -/
  | clear
  /-- A configuration is visited. -/
  | visit (state position : Nat)
  deriving DecidableEq

/-- The bitmap of an automaton with the given number of states after it was used. -/
def use (states : Nat) (bitmap : Bitmap) : Use → Bitmap
  | .setup length => bitmap.resize states (length + 1)
  | .clear => bitmap.clear
  | .visit state position => (bitmap.mark state position).2

/-- What a search is told when it visits a configuration: whether it has visited it before. -/
def hasVisited (bitmap : Bitmap) (state position : Nat) : Bool := !(bitmap.mark state position).1

/-- How far the use of a bitmap has come. -/
inductive Stage where
  /-- It was not prepared yet. -/
  | unprepared
  /-- It was prepared for a haystack of the given length. -/
  | prepared (length : Nat)
  /-- It was prepared, and cleared after that. -/
  | cleared (length : Nat)

/-- The stage after a use. Configurations are visited only when the bitmap was cleared since it was
prepared, and only those with a state of the automaton and a position of the haystack, its end
included. -/
def Stage.next? (states : Nat) : Stage → Use → Option Stage
  | _, .setup length => some (.prepared length)
  | .unprepared, .clear => some .unprepared
  | .prepared length, .clear | .cleared length, .clear => some (.cleared length)
  | .cleared length, .visit state position =>
    if state < states ∧ position ≤ length then some (.cleared length) else none
  | .unprepared, .visit .. | .prepared _, .visit .. => none

/-- Whether a bitmap may be used like that, one use after the other. -/
def Allowed (states : Nat) (uses : List Use) : Prop :=
  (uses.foldlM (Stage.next? states) .unprepared).isSome

instance (states : Nat) (uses : List Use) : Decidable (Allowed states uses) :=
  inferInstanceAs (Decidable (_ = true))

/-- The uses since the bitmap was last cleared. -/
def sinceClear (uses : List Use) : List Use :=
  (uses.reverse.takeWhile (· ≠ .clear)).reverse

/-- The configurations that were visited since the bitmap was last cleared. -/
def visitedSince (uses : List Use) : Set Place :=
  {place | .visit place.1 place.2 ∈ sinceClear uses}

variable {states : Nat} {bitmap : Bitmap} {uses : List Use} {stage after : Stage}

theorem visitedSince_clear (uses : List Use) : visitedSince (uses ++ [.clear]) = ∅ := by
  ext place
  simp [visitedSince, sinceClear]

theorem visitedSince_visit (uses : List Use) (state position : Nat) :
    visitedSince (uses ++ [.visit state position]) =
      insert (state, position) (visitedSince uses) := by
  ext ⟨state', position'⟩
  simp [visitedSince, sinceClear, or_comm]

/-- What a bitmap is good for at a stage: there is a bit for every configuration once it was
prepared, and it shows the visited ones once it was cleared. -/
def Stage.Serves (states : Nat) (bitmap : Bitmap) (visited : Set Place) : Stage → Prop
  | .unprepared => True
  | .prepared length =>
    bitmap.stride = length + 1 ∧ states * (length + 1) ≤ 32 * bitmap.words.size
  | .cleared length => bitmap.Shows states (length + 1) visited

/-- **Each use leaves a bitmap that serves**, and one that shows exactly one configuration more
after a visit. -/
theorem Stage.Serves.use (serves : stage.Serves states bitmap (visitedSince uses)) {next : Use}
    (allowed : stage.next? states next = some after) :
    after.Serves states (bitmap.use states next) (visitedSince (uses ++ [next])) := by
  cases next with
  | setup length =>
    cases stage <;> cases allowed <;> exact ⟨rfl, room_resize ..⟩
  | clear =>
    rw [visitedSince_clear]
    cases stage with
    | unprepared =>
      cases allowed
      exact trivial
    | prepared length =>
      cases allowed
      exact .clear serves.1 serves.2
    | cleared length =>
      cases allowed
      exact .clear (Shows.stride_eq serves) (Shows.room serves)
  | visit state position =>
    rw [visitedSince_visit]
    cases stage with
    | unprepared | prepared => cases allowed
    | cleared length =>
      obtain ⟨⟨inStates, inHaystack⟩, same⟩ := Option.ite_none_right_eq_some.mp allowed
      cases same
      have inPositions : position < length + 1 := Nat.lt_succ_of_le inHaystack
      by_cases old : (state, position) ∈ visitedSince uses
      · rw [Set.insert_eq_of_mem old, Bitmap.use, Shows.mark_old serves inStates inPositions old]
        exact serves
      · obtain ⟨marked, new, shown⟩ := Shows.mark_new serves inStates inPositions old
        rw [Bitmap.use, new]
        exact shown

/-- **A bitmap serves after any number of uses**, whatever it held before. -/
theorem serves_of_allowed (bitmap : Bitmap)
    (allowed : uses.foldlM (Stage.next? states) .unprepared = some stage) :
    stage.Serves states (uses.foldl (use states) bitmap) (visitedSince uses) := by
  induction uses using List.reverseRecOn generalizing stage with
  | nil =>
    cases allowed
    exact trivial
  | append_singleton uses next hypothesis =>
    rw [List.foldlM_append] at allowed
    obtain ⟨middle, before, last⟩ := Option.bind_eq_some_iff.mp allowed
    obtain ⟨after, step, same⟩ := Option.bind_eq_some_iff.mp last
    cases same
    rw [List.foldl_append]
    exact (hypothesis before).use step

/-- **A bitmap is an exact set of configurations.** Whatever a bitmap held and whatever it was used
for, as long as it is cleared between its preparation for a haystack and the first visit: each visit
finds the word of its configuration inside the bitmap, and is told that there was one before exactly
if the same configuration was visited since the bitmap was last cleared. -/
theorem hasVisited_iff (bitmap : Bitmap) {before later : List Use} {state position : Nat}
    (allowed : Allowed states (before ++ .visit state position :: later)) :
    let current := before.foldl (use states) bitmap
    current.index state position / 32 < current.words.size ∧
      (current.hasVisited state position = true ↔ .visit state position ∈ sinceClear before) := by
  intro current
  obtain ⟨last, whole⟩ := Option.isSome_iff_exists.mp allowed
  rw [List.foldlM_append] at whole
  obtain ⟨stage, start, rest⟩ := Option.bind_eq_some_iff.mp whole
  rw [List.foldlM_cons] at rest
  obtain ⟨after, visit, -⟩ := Option.bind_eq_some_iff.mp rest
  have serves := serves_of_allowed bitmap start
  cases stage with
  | unprepared | prepared => cases visit
  | cleared length =>
    obtain ⟨⟨inStates, inHaystack⟩, -⟩ := Option.ite_none_right_eq_some.mp visit
    have inPositions : position < length + 1 := Nat.lt_succ_of_le inHaystack
    refine ⟨Shows.word_lt serves inStates inPositions, ?_⟩
    change _ ↔ (state, position) ∈ visitedSince before
    by_cases old : (state, position) ∈ visitedSince before
    · rw [hasVisited, Shows.mark_old serves inStates inPositions old]
      exact iff_of_true rfl old
    · obtain ⟨marked, new, -⟩ := Shows.mark_new serves inStates inPositions old
      rw [hasVisited, new]
      exact iff_of_false Bool.false_ne_true old

/-- A bitmap of three states that was used for a longer haystack and then for one of one byte: the
end of that haystack in one state has a bit of its own, next to that of its start in the next state,
and what was visited before it was cleared is forgotten. -/
theorem hasVisited_shorter :
    let before : List Use := [.setup 40, .clear, .visit 2 40, .visit 0 1, .setup 1, .clear,
      .visit 1 0, .visit 2 1]
    let current := before.foldl (use 3) .empty
    Allowed 3 (before ++ .visit 0 1 :: [.visit 1 0]) ∧
      current.index 0 1 / 32 < current.words.size ∧
      (current.hasVisited 0 1 = true ↔ .visit 0 1 ∈ sinceClear before) ∧
      current.hasVisited 0 1 = false := by
  intro before current
  have allowed : Allowed 3 (before ++ .visit 0 1 :: [.visit 1 0]) := by decide
  obtain ⟨inside, told⟩ := hasVisited_iff .empty allowed
  have new : .visit 0 1 ∉ sinceClear before := by decide
  exact ⟨allowed, inside, told, Bool.eq_false_iff.mpr fun visited => new (told.mp visited)⟩

end Bitmap

end Crosscheck
