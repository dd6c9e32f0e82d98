/-
**One automaton folded onto another.**

States of one automaton stand for states of another one that go the same ways. Some may be silent:
they only lead on to a state that stands for the same one, and do not go round among themselves. No
two configurations that a search reaches stand for the same one otherwise. Then whatever a search
finds in the one automaton stands for what it finds in the other, in the same order, with the same
slots.

* `Thread.successors_renamed`: ways on, seen in the other automaton;
* `Folding`: what an exploration needs of one automaton folded onto another;
* `Explores.folded`: what is found in the other automaton;
* `Automaton.Folds`, `Automaton.Folds.search_eq`: searches in the two automata.
-/
import Crosscheck.Proofs.Automaton.Renaming
import Crosscheck.Proofs.Search.Narrowing

namespace Crosscheck

open Backtracking (Attempt lastStart_le)
open Thread (followers successors)

/-! ### Threads in the other automaton -/

namespace Thread

/-- The thread in the state that its own state stands for. -/
def renamed (image : Nat → Nat) (thread : Thread) : Thread := thread.moved (image thread.state)

variable {one other : Automaton} {haystack : Array UInt8} {image : Nat → Nat} {thread : Thread}

/-- **A thread goes the same ways in a state that its own state stands for.** -/
theorem successors_renamed
    (same : other.state (image thread.state) = (one.state thread.state).renamed image) :
    successors other haystack (thread.renamed image) =
      (successors one haystack thread).map (renamed image) := by
  have aside : passed other haystack (thread.renamed image) =
      (passed one haystack thread).map (renamed image) := by
    simp only [passed, renamed, moved, same]
    cases one.state thread.state with
    | goto target look =>
      cases look with
      | none => rfl
      | some look =>
        dsimp only [State.renamed]
        rw [apply_ite (List.map _)]
        rfl
    | splits targets reverse =>
      dsimp only [State.renamed]
      rw [State.map_branches, List.map_map, List.map_map]
      rfl
    | capture | byte | ranges | fail | accept => rfl
  have ahead : advanced? other haystack (thread.renamed image) =
      (advanced? one haystack thread).map (renamed image) := by
    simp only [advanced?, renamed, moved, same]
    cases haystack[thread.position]? with
    | none => rfl
    | some byte =>
      rw [Option.bind_some, Option.bind_some, State.transition_renamed, Option.map_map,
        Option.map_map]
      rfl
  rw [successors, successors, aside, ahead, List.map_append, Option.toList_map]

/-- It ends a match there when it ends one here. -/
theorem ends_renamed {anchor : Anchor}
    (same : other.state (image thread.state) = (one.state thread.state).renamed image) :
    (thread.renamed image).ends other haystack anchor = thread.ends one haystack anchor := by
  rw [ends, ends, renamed, moved, same]
  cases one.state thread.state <;> rfl

end Thread

/-- The configuration that a configuration stands for. -/
def Place.renamed (image : Nat → Nat) (place : Place) : Place := (image place.1, place.2)

/-! ### Explorations -/

/-- What an exploration needs of one automaton folded onto another, in the configurations that it
comes to. -/
structure Folding (one other : Automaton) (haystack : Array UInt8) (image : Nat → Nat)
    (silent : Set Nat) (reach : Set Place) : Prop where
  /-- It comes to no others. -/
  confined : Explores.Confined (successors one haystack) reach
  /-- A state that is not silent goes the ways of the state that it stands for. -/
  renames : ∀ {state position}, (state, position) ∈ reach → state ∉ silent →
    other.state (image state) = (one.state state).renamed image
  /-- A silent state leads to one that stands for the same state, and that is not silent itself or
  comes later. -/
  passes : ∀ {state position}, (state, position) ∈ reach → state ∈ silent →
    ∃ target, (target ∈ silent → state < target) ∧ one.state state = .goto target none ∧
      image target = image state
  /-- Different states that are not silent stand for different states. -/
  apart : ∀ {state state' position}, (state, position) ∈ reach → (state', position) ∈ reach →
    state ∉ silent → state' ∉ silent → image state = image state' → state = state'

/-- What was seen in the one automaton stands for what was seen in the other. Behind a silent state
the thread that is explored next may still have to see it; it is then in a later state, if that is
silent as well. -/
structure Sees (image : Nat → Nat) (silent : Set Nat) (reach seen seen' : Set Place)
    (roots : List Thread) : Prop where
  visible : ∀ place ∈ reach, place.1 ∉ silent → (place ∈ seen ↔ place.renamed image ∈ seen')
  behind : ∀ place ∈ reach, place.1 ∈ silent → place ∈ seen → place.renamed image ∈ seen' ∨
    ∃ thread rest, roots = thread :: rest ∧ (thread.state ∈ silent → place.1 < thread.state) ∧
      thread.configuration.renamed image = place.renamed image

section Folded

variable {one other : Automaton} {haystack : Array UInt8} {image : Nat → Nat} {silent : Set Nat}
  {reach seen seen' : Set Place} {thread : Thread} {roots rest found : List Thread} {place : Place}

theorem Sees.behind_cons (sees : Sees image silent reach seen seen' (thread :: rest))
    (reached : place ∈ reach) (isSilent : place.1 ∈ silent) (old : place ∈ seen) :
    place.renamed image ∈ seen' ∨ (thread.state ∈ silent → place.1 < thread.state) ∧
      thread.configuration.renamed image = place.renamed image := by
  refine (sees.behind place reached isSilent old).imp_right ?_
  rintro ⟨first, others, same, later, stands⟩
  obtain ⟨rfl, rfl⟩ := List.cons.inj same
  exact ⟨later, stands⟩

/-- A thread that is dropped in the one automaton is dropped in the other. -/
theorem Sees.drop (sees : Sees image silent reach seen seen' (thread :: rest))
    (here : thread.configuration ∈ reach) (old : thread.configuration ∈ seen) :
    thread.configuration.renamed image ∈ seen' ∧ Sees image silent reach seen seen' rest := by
  have old' : thread.configuration.renamed image ∈ seen' := by
    by_cases isSilent : thread.state ∈ silent
    · exact (sees.behind_cons here isSilent old).resolve_right fun ⟨later, _⟩ =>
        Nat.lt_irrefl _ (later isSilent)
    · exact (sees.visible _ here isSilent).mp old
  refine ⟨old', sees.visible, fun place reached isSilent before => .inl ?_⟩
  rcases sees.behind_cons reached isSilent before with seen | ⟨-, same⟩
  · exact seen
  · exact same ▸ old'

/-- A thread that comes to a silent state goes on as one that stands for the same thread. -/
theorem Sees.pass (sees : Sees image silent reach seen seen' (thread :: rest)) {target : Nat}
    (isSilent : thread.state ∈ silent) (later : target ∈ silent → thread.state < target)
    (same : image target = image thread.state) :
    Sees image silent reach (insert thread.configuration seen) seen'
      (thread.moved target :: rest) := by
  refine ⟨fun place reached outside => ?_, fun place reached isSilent' before => ?_⟩
  · have different : place ≠ thread.configuration := fun same => outside (same ▸ isSilent)
    rw [Set.mem_insert_iff, or_iff_right different]
    exact sees.visible place reached outside
  · have moved : (thread.moved target).configuration.renamed image =
        thread.configuration.renamed image := congrArg (·, thread.position) same
    rcases before with rfl | before
    · exact .inr ⟨_, _, rfl, later, moved⟩
    · refine (sees.behind_cons reached isSilent' before).imp_right fun ⟨earlier, stands⟩ => ?_
      exact ⟨_, _, rfl, fun silent => (earlier isSilent).trans (later silent),
        moved.trans stands⟩

/-- A thread that comes to a new configuration does so in both automata. -/
theorem Sees.visit (folding : Folding one other haystack image silent reach)
    (sees : Sees image silent reach seen seen' (thread :: rest))
    (here : thread.configuration ∈ reach) (outside : thread.state ∉ silent) :
    Sees image silent reach (insert thread.configuration seen)
      (insert (thread.configuration.renamed image) seen') roots := by
  refine ⟨fun place reached outside' => ⟨?_, ?_⟩, fun place reached isSilent before => .inl ?_⟩
  · rintro (rfl | before)
    · exact .inl rfl
    · exact .inr ((sees.visible place reached outside').mp before)
  · rintro (same | before)
    · obtain ⟨state, position⟩ := place
      obtain ⟨stands, rfl⟩ := Prod.mk.inj same
      exact .inl (congrArg (·, thread.position)
        (folding.apart reached here outside' outside stands))
    · exact .inr ((sees.visible place reached outside').mpr before)
  · rcases before with rfl | before
    · exact absurd isSilent outside
    · exact (sees.behind_cons reached isSilent before).elim .inr fun ⟨_, same⟩ => .inl same.symm

open Classical in
/-- **What is found in the one automaton stands for what is found in the other.** -/
theorem Explores.folded (folding : Folding one other haystack image silent reach)
    (explores : Explores (successors one haystack) seen roots found)
    (inside : ∀ thread ∈ roots, thread.configuration ∈ reach)
    (sees : Sees image silent reach seen seen' roots) :
    Explores (successors other haystack) seen' (roots.map (Thread.renamed image))
      ((found.filter (·.state ∉ silent)).map (Thread.renamed image)) := by
  induction explores generalizing seen' with
  | done seen => exact .done _
  | @drop seen thread rest found old explores hypothesis =>
    obtain ⟨here, others⟩ := List.forall_mem_cons.mp inside
    obtain ⟨old', sees⟩ := sees.drop here old
    exact .drop old' (hypothesis others sees)
  | @visit seen thread rest found new explores hypothesis =>
    obtain ⟨here, others⟩ := List.forall_mem_cons.mp inside
    have inside' : ∀ next ∈ successors one haystack thread ++ rest,
        next.configuration ∈ reach := by
      intro next member
      rcases List.mem_append.mp member with follows | later
      · exact folding.confined thread here next follows
      · exact others next later
    by_cases isSilent : thread.state ∈ silent
    · -- The other automaton has no such state, so nothing is explored there yet.
      obtain ⟨target, later, leads, same⟩ := folding.passes here isSilent
      rw [Thread.successors_of_goto leads, List.singleton_append] at inside' hypothesis
      have again := hypothesis inside' (sees.pass isSilent later same)
      have moved : (thread.moved target).renamed image = thread.renamed image := by
        simp only [Thread.renamed, Thread.moved, same]
      rw [List.map_cons, moved] at again
      rwa [List.filter_cons_of_neg (by simpa using isSilent)]
    · rw [List.filter_cons_of_pos (by simpa using isSilent)]
      have again := hypothesis inside' (sees.visit folding here isSilent)
      rw [List.map_append, ← Thread.successors_renamed (folding.renames here isSilent)] at again
      exact .visit (fun old => new ((sees.visible _ here isSilent).mpr old)) again

end Folded

/-! ### Searches -/

/-- The configurations that a search from a start comes to. -/
def Automaton.reached (automaton : Automaton) (haystack : Array UInt8) (start : Nat) : Set Place :=
  {place | ∃ count, Leads automaton haystack count (automaton.start, start) place}

/-- What is reached goes on to what is reached. -/
theorem Automaton.confined_reached (automaton : Automaton) (haystack : Array UInt8) (start : Nat) :
    Explores.Confined (successors automaton haystack) (automaton.reached haystack start) := by
  rintro thread ⟨count, leads⟩ next follows
  have follows := List.mem_map_of_mem (f := Thread.configuration) follows
  rw [Thread.map_configuration_successors] at follows
  exact ⟨_, leads.trans (.step follows (.here _))⟩

/-- What holds of a start and goes on to hold of what follows holds of all that is reached. -/
theorem Automaton.reached_induction {automaton : Automaton} {haystack : Array UInt8} {start : Nat}
    (property : Place → Prop) (first : property (automaton.start, start))
    (step : ∀ place, property place → ∀ next ∈ followers automaton haystack place, property next) :
    ∀ place ∈ automaton.reached haystack start, property place :=
  fun _ ⟨_, leads⟩ => leads.invariant property step first

/-- Only states are reached. -/
theorem Automaton.WellFormed.lt_of_reached {automaton : Automaton}
    (wellFormed : automaton.WellFormed) {haystack : Array UInt8} {start : Nat} {place : Place}
    (reached : place ∈ automaton.reached haystack start) : place.1 < automaton.size :=
  automaton.reached_induction (fun place => place.1 < automaton.size) wellFormed.start_lt
    (fun _ _ _ follows => wellFormed.target_lt _ _ (mem_followers.mp follows).1) place reached

/-- **One automaton folded onto another**, in the configurations that searches come to. -/
structure Automaton.Folds (one other : Automaton) (haystack : Array UInt8) (image : Nat → Nat)
    (silent : Set Nat) : Prop where
  /-- The start stands for the start. -/
  start_eq : image one.start = other.start
  /-- Searches from a start can be seen in the other automaton. -/
  folding : ∀ start ≤ haystack.size,
    Folding one other haystack image silent (one.reached haystack start)

namespace Automaton.Folds

variable {one other : Automaton} {haystack : Array UInt8} {image : Nat → Nat} {silent : Set Nat}

open Classical in
/-- The threads that are found from a start, seen in the other automaton. -/
theorem attempt (folds : one.Folds other haystack image silent) {slotCount start : Nat}
    {found : List Thread} (inside : start ≤ haystack.size)
    (attempt : Attempt one haystack slotCount start found) :
    Attempt other haystack slotCount start
      ((found.filter (·.state ∉ silent)).map (Thread.renamed image)) := by
  have roots : [Thread.fresh one slotCount start].map (Thread.renamed image) =
      [Thread.fresh other slotCount start] := by
    rw [List.map_singleton, Thread.renamed, Thread.moved, Thread.fresh, folds.start_eq]
    rfl
  have nothing : Sees image silent (one.reached haystack start) ∅ ∅
      [Thread.fresh one slotCount start] :=
    ⟨fun _ _ _ => Iff.rfl, fun _ _ _ old => old.elim⟩
  have explored := Explores.folded (folds.folding start inside) attempt ?_ nothing
  · rwa [roots] at explored
  · intro thread root
    rw [List.mem_singleton.mp root]
    exact ⟨0, .here _⟩

open Classical in
/-- What is chosen of the threads from a start, seen in the other automaton. -/
theorem choose_eq (folds : one.Folds other haystack image silent) {anchor : Anchor}
    {kind : MatchKind} {slotCount start : Nat} {found : List Thread}
    (inside : start ≤ haystack.size) (attempt : Attempt one haystack slotCount start found) :
    choose other haystack anchor kind.better none
        ((found.filter (·.state ∉ silent)).map (Thread.renamed image)) =
      (choose one haystack anchor kind.better none found).map (Thread.renamed image) := by
  have folding := folds.folding start inside
  have reached : ∀ thread ∈ found, thread.configuration ∈ one.reached haystack start :=
    fun thread member => (mem_configurations_attempt attempt).mp
      (mem_configurations.mpr ⟨thread, member, rfl⟩)
  have visible : ∀ thread ∈ found, thread.ends one haystack anchor = true →
      decide (thread.state ∉ silent) = true := by
    intro thread member final
    refine decide_eq_true fun isSilent => ?_
    obtain ⟨target, -, leads, -⟩ := folding.passes (reached thread member) isSilent
    cases leads.symm.trans (Thread.accept_of_ends final)
  rw [← choose_filter visible]
  show choose other haystack anchor kind.better (Option.map (Thread.renamed image) none) _ = _
  refine choose_map (fun _ => rfl) fun thread member => ?_
  obtain ⟨member, outside⟩ := List.mem_filter.mp member
  exact Thread.ends_renamed (folding.renames (reached thread member) (of_decide_eq_true outside))

/-- Only the values of items that are looked at matter. -/
theorem findSome?_congr {α β : Type} {items : List α} {values values' : α → Option β}
    (same : ∀ item ∈ items, values item = values' item) :
    items.findSome? values = items.findSome? values' := by
  induction items with
  | nil => rfl
  | cons item rest hypothesis =>
    obtain ⟨first, others⟩ := List.forall_mem_cons.mp same
    rw [List.findSome?_cons, List.findSome?_cons, first, hypothesis others]

/-- Every automaton is folded onto itself. -/
theorem refl (automaton : Automaton) (haystack : Array UInt8) :
    automaton.Folds automaton haystack id ∅ :=
  ⟨rfl, fun start _ => ⟨automaton.confined_reached haystack start,
    fun _ _ => (State.renamed_id _).symm, fun _ nothing => nothing.elim,
    fun _ _ _ _ same => same⟩⟩

/-- **Searches in two automata that are folded onto one report the same slots.** -/
theorem search_common {third : Automaton} {image' : Nat → Nat} {silent' : Set Nat}
    (folds : one.Folds third haystack image silent)
    (folds' : other.Folds third haystack image' silent') (wellFormed : one.WellFormed)
    (wellFormed' : other.WellFormed) (cache cache' : Backtracking.Cache) (anchor : Anchor)
    (kind : MatchKind) (slotCount : Nat) :
    (Backtracking.search one cache haystack anchor kind slotCount).1 =
      (Backtracking.search other cache' haystack anchor kind slotCount).1 := by
  classical
  obtain ⟨found, attempts⟩ := Backtracking.exists_attempts wellFormed haystack slotCount
  obtain ⟨found', attempts'⟩ := Backtracking.exists_attempts wellFormed' haystack slotCount
  rw [Backtracking.search_eq wellFormed cache found attempts,
    Backtracking.search_eq wellFormed' cache' found' attempts']
  refine findSome?_congr fun start member => ?_
  have inside : start ≤ haystack.size :=
    (Nat.le_of_lt_succ (List.mem_range.mp member)).trans lastStart_le
  have same := (folds.attempt inside (attempts start inside)).deterministic
    (folds'.attempt inside (attempts' start inside))
  have chosen : (choose one haystack anchor kind.better none (found start)).map
      (Thread.renamed image) = (choose other haystack anchor kind.better none (found' start)).map
      (Thread.renamed image') := by
    rw [← folds.choose_eq inside (attempts start inside), ← same,
      folds'.choose_eq inside (attempts' start inside)]
  have slots := congrArg (Option.map Thread.slots) chosen
  rwa [Option.map_map, Option.map_map] at slots

/-- **Searches in both automata report the same slots.** -/
theorem search_eq (folds : one.Folds other haystack image silent) (wellFormed : one.WellFormed)
    (wellFormed' : other.WellFormed) (cache cache' : Backtracking.Cache) (anchor : Anchor)
    (kind : MatchKind) (slotCount : Nat) :
    (Backtracking.search one cache haystack anchor kind slotCount).1 =
      (Backtracking.search other cache' haystack anchor kind slotCount).1 :=
  folds.search_common (refl other haystack) wellFormed wellFormed' cache cache' anchor kind
    slotCount

end Automaton.Folds

/-- **Regexps whose automata are folded onto each other report the same**, with either strategy and
on any caches that fit. -/
theorem Regex.search_folds {one other : Regex} {haystack : Bytes} {image : Nat → Nat}
    {silent : Set Nat} (folds : one.automaton.Folds other.automaton haystack.toArray image silent)
    (wellFormed : one.automaton.WellFormed) (wellFormed' : other.automaton.WellFormed)
    (groups : one.automaton.groupCount = other.automaton.groupCount) {cache cache' : Cache}
    (fits : cache.Fits one.automaton) (fits' : cache'.Fits other.automaton) (settings : Search) :
    (one.search cache haystack settings).1 = (other.search cache' haystack settings).1 := by
  have slots : one.automaton.slotCount = other.automaton.slotCount :=
    congrArg (· * 2) groups
  refine search_congr wellFormed wellFormed' fits fits' ?_
  rw [slots, folds.search_eq wellFormed wellFormed' .empty .empty]

end Crosscheck
