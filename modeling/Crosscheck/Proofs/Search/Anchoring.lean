/-
**Anchors are assertions around a pattern.**

An anchor of the end is looked at where a match ends; an assertion of the end stops threads before
they store the end of the match. Up to there both searches find the same threads, and one thread at
most gets to the end of the haystack. An assertion of the beginning stops all threads that do not
start there, and those that do go on as they do without it.

* `Automaton.Layout.arrival_accept`: the thread that arrives where matches end;
* `Automaton.Ended.search_eq`: an assertion of the end instead of an anchor;
* `Automaton.Started.search_eq`: an assertion of the beginning instead of an anchor;
* `search_anchored`: both, for all patterns and both ways of joining them with assertions.
-/
import Crosscheck.Proofs.Automaton.Guards
import Crosscheck.Proofs.Pattern.Flatness
import Crosscheck.Proofs.Search.Folding
import Crosscheck.Proofs.Search.Preference
import Crosscheck.Proofs.Search.Whole

namespace Crosscheck

open Backtracking (Attempt lastStart_le)
open Thread (followers successors)

/-- Threads go the same ways from states that are the same. -/
theorem Thread.successors_congr {one other : Automaton} {haystack : Array UInt8} {thread : Thread}
    (same : other.state thread.state = one.state thread.state) :
    successors other haystack thread = successors one haystack thread := by
  rw [successors, successors, passed, passed, advanced?, advanced?, same]

/-! ### Behind the fragment -/

/-- The configurations in later states. -/
def Automaton.beyond (index : Nat) : Set Place := {place | index < place.1}

namespace Automaton.Layout

variable {automaton : Automaton} {rule : LoopRule} {pattern : Pattern} {inner finish : Nat}
  {haystack : Array UInt8} {slotCount start : Nat} {found : List Thread}

/-- A state before the end of the fragment leads no further than there. -/
theorem le_of_leads (layout : automaton.Layout rule pattern inner finish) {index target : Nat}
    (before : index < finish) (leads : target ∈ (automaton.state index).targets) :
    target ≤ finish := by
  have bounds := layout.inner_mem
  rcases Nat.eq_zero_or_pos index with rfl | above
  · rw [layout.starts] at leads
    have := List.mem_singleton.mp leads
    omega
  · rcases (layout.inside index above before).2 target leads with inside | same <;> omega

/-- Behind the fragment only the state that stores the end of the match leads anywhere. -/
theorem eq_of_leads (layout : automaton.Layout rule pattern inner finish) {index target : Nat}
    (behind : finish ≤ index) (leads : target ∈ (automaton.state index).targets) :
    index = finish ∧ target = finish + 1 := by
  have bounds := layout.inner_mem
  rcases layout.cases index with zero | inside | rfl | rfl | nothing
  · omega
  · omega
  · rw [layout.ends] at leads
    exact ⟨rfl, List.mem_singleton.mp leads⟩
  · rw [layout.accepts] at leads
    exact (List.not_mem_nil leads).elim
  · rw [nothing] at leads
    exact (List.not_mem_nil leads).elim

/-- What is behind the fragment is never left. -/
theorem confined_beyond (layout : automaton.Layout rule pattern inner finish) {low : Nat}
    (behind : finish ≤ low + 1) :
    Explores.Confined (successors automaton haystack) (beyond low) := by
  intro thread above next follows
  have above : low < thread.state := above
  have onward := layout.eq_of_leads (by omega) (Thread.state_mem_targets follows)
  show low < next.state
  omega

/-- Searches start before every other state. -/
theorem configuration_fresh_ne (layout : automaton.Layout rule pattern inner finish) {place : Place}
    (behind : 0 < place.1) :
    ∀ root ∈ [Thread.fresh automaton slotCount start], root.configuration ≠ place := by
  rintro root member rfl
  rw [List.mem_singleton.mp member] at behind
  exact absurd behind (layout.start_eq ▸ Nat.lt_irrefl automaton.start)

/-- **The thread that arrives where matches end** has stored the end of the match. -/
theorem arrival_accept (layout : automaton.Layout rule pattern inner finish)
    (attempt : Attempt automaton haystack slotCount start found) (position : Nat) :
    arrival found (finish + 1, position) = (arrival found (finish, position)).map fun thread =>
      ⟨finish + 1, position, thread.slots.setIfInBounds 1 (some position)⟩ := by
  refine attempt.arrival_step Thread.map_configuration_successors
    (layout.configuration_fresh_ne (Nat.succ_pos finish)) (fun thread _ leads => ?_)
    fun thread here => ?_
  · obtain ⟨leads, reads⟩ := mem_followers.mp leads
    have here : thread.state = finish := by
      rcases Nat.lt_or_ge thread.state finish with before | behind
      · exact absurd (layout.le_of_leads before leads) (Nat.not_succ_le_self finish)
      · exact (layout.eq_of_leads behind leads).1
    rw [here, layout.ends] at reads
    exact Prod.ext here reads
  · obtain ⟨state, rfl⟩ := Prod.mk.inj here
    have stores : automaton.state thread.state = .capture (finish + 1) 1 := by
      rw [state, layout.ends]
    rw [Thread.successors_of_capture stores]
    exact ⟨rfl, rfl⟩

end Automaton.Layout

/-! ### An assertion of the end -/

namespace Automaton.Ended

variable {plain guarded : Automaton} {rule : LoopRule} {pattern pattern' : Pattern}
  {inner inner' finish : Nat} {haystack : Array UInt8} {slotCount : Nat}
  {found found' : List Thread}

open Classical in
/-- **Up to the end of the fragment both searches find the same threads.** -/
theorem filter_found (ended : plain.Ended guarded finish)
    (layout : plain.Layout rule pattern inner finish)
    (layout' : guarded.Layout rule pattern' inner' (finish + 1))
    (attempt : Attempt plain haystack slotCount 0 found)
    (attempt' : Attempt guarded haystack slotCount 0 found') :
    found'.filter (·.configuration ∉ beyond finish) =
      found.filter (·.configuration ∉ beyond finish) := by
  have alone := Explores.avoiding attempt (layout.confined_beyond (Nat.le_succ finish))
  have alone' := Explores.avoiding attempt' (layout'.confined_beyond le_rfl)
  refine (alone.replace Set.subset_union_right (fun thread outside => ?_) ?_).deterministic alone'
  · have within : thread.state ≤ finish := Nat.not_lt.mp outside
    rcases Nat.lt_or_eq_of_le within with before | here
    · rw [Thread.successors_congr (ended.same _ before)]
    · -- Both ways on lead behind the fragment, which is left out.
      have dropped : ∀ automaton : Automaton,
          (∀ target ∈ (automaton.state finish).targets, finish < target) →
          (successors automaton haystack thread).filter (·.configuration ∉ beyond finish) = [] := by
        intro automaton behind
        refine List.filter_eq_nil_iff.mpr fun next follows inside => ?_
        exact of_decide_eq_true inside (behind _ (here ▸ Thread.state_mem_targets follows))
      rw [dropped guarded, dropped plain]
      · rw [layout.ends]
        exact List.forall_mem_singleton.mpr (Nat.lt_succ_self _)
      · rw [ended.looks]
        exact List.forall_mem_singleton.mpr (Nat.lt_succ_self _)
  · rw [Thread.fresh, Thread.fresh, layout.start_eq, layout'.start_eq]

/-- At the end of the fragment the same thread arrives. -/
theorem arrival_finish (ended : plain.Ended guarded finish)
    (layout : plain.Layout rule pattern inner finish)
    (layout' : guarded.Layout rule pattern' inner' (finish + 1))
    (attempt : Attempt plain haystack slotCount 0 found)
    (attempt' : Attempt guarded haystack slotCount 0 found') (position : Nat) :
    arrival found' (finish, position) = arrival found (finish, position) := by
  have outside : (finish, position) ∉ beyond finish := Nat.lt_irrefl finish
  rw [← arrival_filter outside found', ← arrival_filter outside found,
    ended.filter_found layout layout' attempt attempt']

/-- **The assertion is passed at the end of the haystack.** -/
theorem arrival_look (ended : plain.Ended guarded finish)
    (layout : plain.Layout rule pattern inner finish)
    (layout' : guarded.Layout rule pattern' inner' (finish + 1))
    (attempt : Attempt guarded haystack slotCount 0 found) :
    arrival found (finish + 1, haystack.size) =
      (arrival found (finish, haystack.size)).map (·.moved (finish + 1)) := by
  refine attempt.arrival_step Thread.map_configuration_successors
    (layout'.configuration_fresh_ne (Nat.succ_pos finish)) (fun thread _ leads => ?_)
    fun thread here => ?_
  · obtain ⟨leads, reads⟩ := mem_followers.mp leads
    have here : thread.state = finish := by
      rcases Nat.lt_trichotomy thread.state finish with before | here | behind
      · rw [ended.same _ before] at leads
        exact absurd (layout.le_of_leads before leads) (Nat.not_succ_le_self finish)
      · exact here
      · obtain ⟨-, same⟩ := layout'.eq_of_leads behind leads
        omega
    rw [here, ended.looks] at reads
    exact Prod.ext here reads.1
  · obtain ⟨state, position⟩ := Prod.mk.inj here
    have looks : guarded.state thread.state = .goto (finish + 1) (some .finish) := by
      rw [state, ended.looks]
    have holds : Look.holds .finish haystack thread.position = true := by
      simp [Look.holds, position]
    rw [Thread.successors_of_look looks, if_pos holds]
    exact ⟨rfl, Prod.ext rfl position⟩

/-- Behind the assertion threads are at the end of the haystack. -/
theorem position_eq (ended : plain.Ended guarded finish)
    (layout : plain.Layout rule pattern inner finish)
    (layout' : guarded.Layout rule pattern' inner' (finish + 1))
    (attempt : Attempt guarded haystack slotCount 0 found) :
    ∀ thread ∈ found, finish < thread.state → thread.position = haystack.size := by
  refine attempt.forall_found _ (fun thread root behind => ?_)
    fun thread already next follows behind => ?_
  · rw [List.mem_singleton.mp root] at behind
    exact absurd (layout'.start_eq ▸ behind) (Nat.not_lt_zero finish)
  · have leads := Thread.state_mem_targets follows
    rcases Nat.lt_trichotomy thread.state finish with before | here | beyond
    · rw [ended.same _ before] at leads
      exact absurd (layout.le_of_leads before leads) (Nat.not_le.mpr behind)
    · rw [Thread.successors_of_look (here ▸ ended.looks)] at follows
      split at follows
      · next holds =>
        rw [List.mem_singleton.mp follows]
        exact eq_of_beq holds
      · cases follows
    · obtain ⟨stores, -⟩ := layout'.eq_of_leads beyond leads
      rw [Thread.successors_of_capture (stores ▸ layout'.ends)] at follows
      rw [List.mem_singleton.mp follows]
      exact already beyond

/-- **What is chosen is the same**, but for the state in which the match ends. -/
theorem choose_eq (ended : plain.Ended guarded finish)
    (layout : plain.Layout rule pattern inner finish)
    (layout' : guarded.Layout rule pattern' inner' (finish + 1))
    (attempt : Attempt plain haystack slotCount 0 found)
    (attempt' : Attempt guarded haystack slotCount 0 found') (kind : MatchKind) :
    (choose guarded haystack .start kind.better none found').map Thread.slots =
      (choose plain haystack .both kind.better none found).map Thread.slots := by
  have ends : ∀ thread ∈ found', thread.ends guarded haystack .start = true ↔
      thread.configuration = (finish + 1 + 1, haystack.size) := by
    intro thread member
    rw [Thread.ends, decide_eq_true_iff, Thread.configuration, Prod.mk.injEq]
    constructor
    · rintro ⟨accepts, -⟩
      have here := layout'.eq_of_accept accepts
      exact ⟨here, ended.position_eq layout layout' attempt' thread member (by omega)⟩
    · rintro ⟨here, -⟩
      exact ⟨here ▸ layout'.accepts, by simp⟩
  rw [choose_eq_arrival attempt' ends, layout'.arrival_accept attempt',
    ended.arrival_look layout layout' attempt',
    ended.arrival_finish layout layout' attempt attempt', choose_both layout attempt,
    layout.arrival_accept attempt, Option.map_map, Option.map_map, Option.map_map]
  rfl

/-- **An assertion of the end instead of an anchor**: searches report the same slots. -/
theorem search_eq (ended : plain.Ended guarded finish)
    (layout : plain.Layout rule pattern inner finish)
    (layout' : guarded.Layout rule pattern' inner' (finish + 1)) (wellFormed : plain.WellFormed)
    (wellFormed' : guarded.WellFormed) (cache cache' : Backtracking.Cache)
    (haystack : Array UInt8) (kind : MatchKind) (slotCount : Nat) :
    (Backtracking.search plain cache haystack .both kind slotCount).1 =
      (Backtracking.search guarded cache' haystack .start kind slotCount).1 := by
  obtain ⟨found, attempts⟩ := Backtracking.exists_attempts wellFormed haystack slotCount
  obtain ⟨found', attempts'⟩ := Backtracking.exists_attempts wellFormed' haystack slotCount
  have first : 0 ≤ haystack.size := Nat.zero_le _
  rw [Backtracking.search_eq wellFormed cache found attempts,
    Backtracking.search_eq wellFormed' cache' found' attempts', Backtracking.lastStart,
    Backtracking.lastStart, Nat.zero_add, List.range_one, List.findSome?_singleton,
    List.findSome?_singleton,
    ended.choose_eq layout layout' (attempts 0 first) (attempts' 0 first)]

end Automaton.Ended

/-! ### An assertion of the beginning -/

namespace Automaton.Started

variable {plain guarded : Automaton} {haystack : Array UInt8} {anchor : Anchor} {kind : MatchKind}
  {slotCount start : Nat} {found found' : List Thread}

/-- The configurations behind the start of an automaton. -/
def onward (plain : Automaton) : Set Place := {place | 1 ≤ place.1 ∧ place.1 < plain.size}

/-- Behind the start the automaton is a part of the other one. -/
theorem folding (started : plain.Started guarded) (wellFormed : plain.WellFormed)
    (start_eq : plain.start = 0) :
    Folding plain guarded haystack Nat.succ ∅ (onward plain) := by
  refine ⟨fun thread _ next follows => ?_, fun reached _ => started.renames _ reached.1 reached.2,
    fun _ nothing => nothing.elim, fun _ _ _ _ same => Nat.succ.inj same⟩
  have leads := Thread.state_mem_targets follows
  refine ⟨Nat.one_le_iff_ne_zero.mpr fun zero => ?_, wellFormed.target_lt _ _ leads⟩
  exact wellFormed.start_unentered thread.state (by rwa [start_eq, ← zero])

/-- The thread behind the state that stores the start of the match. -/
def entered (slotCount state start : Nat) : Thread :=
  ⟨state, start, Array.setIfInBounds (Array.replicate slotCount none) 0 (some start)⟩

/-- No match ends where a search starts. -/
theorem not_ends {automaton : Automaton} {inner : Nat} (start_eq : automaton.start = 0)
    (starts : automaton.state 0 = .capture inner 0) :
    ¬(Thread.fresh automaton slotCount start).ends automaton haystack anchor = true := by
  intro final
  have accepts : automaton.state automaton.start = .accept := Thread.accept_of_ends final
  rw [start_eq, starts] at accepts
  cases accepts

/-- No match ends at an assertion. -/
theorem not_ends_entered {automaton : Automaton} {target : Nat} {look : Look}
    (looks : automaton.state 1 = .goto target (some look)) :
    ¬(entered slotCount 1 start).ends automaton haystack anchor = true :=
  fun final => by cases looks.symm.trans (Thread.accept_of_ends final)

/-- What is found from a start is found behind the state that stores it. -/
theorem attempt_cases {automaton : Automaton} {inner : Nat} (start_eq : automaton.start = 0)
    (starts : automaton.state 0 = .capture inner 0)
    (attempt : Attempt automaton haystack slotCount start found) :
    ∃ later, found = Thread.fresh automaton slotCount start :: later ∧
      Explores (successors automaton haystack) {(0, start)} [entered slotCount inner start]
        later := by
  have stores : automaton.state (Thread.fresh automaton slotCount start).state =
      .capture inner 0 := by
    rw [← starts, ← start_eq]
    rfl
  have place : (Thread.fresh automaton slotCount start).configuration = (0, start) :=
    congrArg (·, start) start_eq
  cases attempt with
  | drop old _ => exact absurd old (Set.notMem_empty _)
  | visit _ explores =>
    rw [Thread.successors_of_capture stores, place, insert_empty_eq] at explores
    exact ⟨_, rfl, explores⟩

/-- **From the beginning of the haystack both searches find the same threads**, but for the numbers
of their states and for those that have not come to the pattern yet. -/
theorem found_eq (started : plain.Started guarded) (wellFormed : plain.WellFormed)
    (start_eq : plain.start = 0) (start_eq' : guarded.start = 0)
    (attempt : Attempt plain haystack slotCount 0 found)
    (attempt' : Attempt guarded haystack slotCount 0 found') :
    ∃ later, found = Thread.fresh plain slotCount 0 :: later ∧
      found' = Thread.fresh guarded slotCount 0 :: entered slotCount 1 0 ::
        later.map (Thread.renamed Nat.succ) ∧
      ∀ thread ∈ later, thread.configuration ∈ onward plain := by
  classical
  obtain ⟨inner, starts, starts', looks⟩ := started.starts
  obtain ⟨later, rfl, explores⟩ := attempt_cases start_eq starts attempt
  obtain ⟨later', rfl, explores'⟩ := attempt_cases start_eq' starts' attempt'
  have inside : ∀ thread ∈ [entered slotCount inner 0], thread.configuration ∈ onward plain := by
    intro thread root
    have leads : inner ∈ (plain.state 0).targets := by
      rw [starts]
      exact List.mem_singleton_self inner
    rw [List.mem_singleton.mp root]
    refine ⟨Nat.one_le_iff_ne_zero.mpr fun zero => ?_, wellFormed.target_lt 0 inner leads⟩
    rw [show inner = plain.start from zero.trans start_eq.symm] at leads
    exact wellFormed.start_unentered 0 leads
  have sees : Sees Nat.succ ∅ (onward plain) {(0, 0)} {(1, 0), (0, 0)}
      [entered slotCount inner 0] := by
    refine ⟨fun place reached _ => ?_, fun _ _ nothing => nothing.elim⟩
    have behind : 1 ≤ place.1 := reached.1
    simp only [Set.mem_singleton_iff, Set.mem_insert_iff, Place.renamed, Prod.ext_iff]
    omega
  have folding : Folding plain guarded haystack Nat.succ ∅ _ :=
    started.folding wellFormed start_eq
  have folded := explores.folded folding inside sees
  have passes : Look.holds .start haystack (entered slotCount 1 0).position = true := rfl
  have whole : Explores (successors guarded haystack) {(0, 0)} [entered slotCount 1 0]
      (entered slotCount 1 0 :: later.map (Thread.renamed Nat.succ)) := by
    refine .visit (by simp [entered, Thread.configuration]) ?_
    rw [Thread.successors_of_look looks, if_pos passes, List.append_nil]
    rwa [List.filter_eq_self.mpr (by simp)] at folded
  exact ⟨later, rfl, congrArg _ (whole.deterministic explores'),
    explores.forall_found _ inside folding.confined⟩

/-- **From any other start the assertion stops all threads.** -/
theorem choose_eq_none (started : plain.Started guarded) (start_eq' : guarded.start = 0)
    (attempt : Attempt guarded haystack slotCount start found) (behind : 0 < start) :
    choose guarded haystack anchor kind.better none found = none := by
  obtain ⟨inner, -, starts', looks⟩ := started.starts
  obtain ⟨later, rfl, explores⟩ := attempt_cases start_eq' starts' attempt
  have fails : ¬Look.holds .start haystack (entered slotCount 1 start).position = true :=
    fun holds => behind.ne' (eq_of_beq holds)
  have alone : Explores (successors guarded haystack) {(0, start)} [entered slotCount 1 start]
      [entered slotCount 1 start] := by
    refine .visit (by simp [entered, Thread.configuration]) ?_
    rw [Thread.successors_of_look looks, if_neg fails]
    exact .done _
  obtain rfl := alone.deterministic explores
  rw [choose_cons_of_not_ends (not_ends start_eq' starts'),
    choose_cons_of_not_ends (not_ends_entered looks), choose_nil]

/-- **What is chosen from the beginning is the same**, but for the state in which the match ends. -/
theorem choose_eq (started : plain.Started guarded) (wellFormed : plain.WellFormed)
    (start_eq : plain.start = 0) (start_eq' : guarded.start = 0)
    (attempt : Attempt plain haystack slotCount 0 found)
    (attempt' : Attempt guarded haystack slotCount 0 found') :
    (choose guarded haystack anchor kind.better none found').map Thread.slots =
      (choose plain haystack anchor kind.better none found).map Thread.slots := by
  obtain ⟨inner, starts, starts', looks⟩ := started.starts
  obtain ⟨later, rfl, rfl, behind⟩ :=
    started.found_eq wellFormed start_eq start_eq' attempt attempt'
  have same : choose guarded haystack anchor kind.better (Option.map _ none) (later.map _) =
      (choose plain haystack anchor kind.better none later).map (Thread.renamed Nat.succ) :=
    choose_map (fun _ => rfl) fun thread member =>
      Thread.ends_renamed (started.renames _ (behind thread member).1 (behind thread member).2)
  rw [Option.map_none] at same
  rw [choose_cons_of_not_ends (not_ends start_eq' starts'),
    choose_cons_of_not_ends (not_ends_entered looks),
    choose_cons_of_not_ends (not_ends start_eq starts), same, Option.map_map]
  rfl

/-- **An assertion of the beginning instead of an anchor**: searches report the same slots. -/
theorem search_eq (started : plain.Started guarded) (wellFormed : plain.WellFormed)
    (wellFormed' : guarded.WellFormed) (start_eq : plain.start = 0) (start_eq' : guarded.start = 0)
    (cache cache' : Backtracking.Cache) (haystack : Array UInt8) (kind : MatchKind)
    (slotCount : Nat) :
    (Backtracking.search plain cache haystack .start kind slotCount).1 =
      (Backtracking.search guarded cache' haystack .unanchored kind slotCount).1 := by
  obtain ⟨found, attempts⟩ := Backtracking.exists_attempts wellFormed haystack slotCount
  obtain ⟨found', attempts'⟩ := Backtracking.exists_attempts wellFormed' haystack slotCount
  have first : 0 ≤ haystack.size := Nat.zero_le _
  have nothing : ∀ start < haystack.size + 1, 1 ≤ start →
      (choose guarded haystack .unanchored kind.better none (found' start)).map Thread.slots =
        none := by
    intro start inside behind
    rw [started.choose_eq_none start_eq' (attempts' start (Nat.le_of_lt_succ inside)) behind]
    rfl
  rw [Backtracking.search_eq wellFormed cache found attempts,
    Backtracking.search_eq wellFormed' cache' found' attempts', Backtracking.lastStart,
    Backtracking.lastStart, findSome?_range_of_none (Nat.succ_le_succ first) nothing, Nat.zero_add,
    List.range_one, List.findSome?_singleton, List.findSome?_singleton,
    started.choose_eq wellFormed start_eq start_eq' (attempts 0 first) (attempts' 0 first)]
  have same : Thread.ends plain haystack .start = Thread.ends plain haystack .unanchored := by
    funext thread
    simp [Thread.ends]
  rw [choose, choose, same]

end Automaton.Started

/-! ### Regexps -/

namespace Regex

/-- A concatenation of one part is compiled as the part. -/
theorem ofPattern_concat_singleton (rule : LoopRule) (text : String) (pattern : Pattern) :
    ofPattern rule text (.concat [pattern]) = ofPattern rule text pattern := by
  rw [ofPattern, Automaton.ofPattern_concat_singleton, ofPattern]

variable {rule : LoopRule} {part : Pattern} {rest : List Pattern} {plain guarded : Regex}
  {text text' : String} {cache cache' : Cache}

/-- **Parts before an assertion of the end.** -/
theorem search_ended (compiled : ofPattern rule text (.concat (part :: rest)) = .ok plain)
    (compiled' : ofPattern rule text' (.concat (part :: rest ++ [.look .finish])) = .ok guarded)
    (indices : ∀ index ∈ Pattern.groupsIn (part :: rest), 1 ≤ index)
    (fits : cache.Fits plain.automaton) (fits' : cache'.Fits guarded.automaton) (haystack : Bytes)
    (kind : MatchKind) (strategy : Strategy) :
    (plain.search cache haystack ⟨.both, kind, strategy⟩).1 =
      (guarded.search cache' haystack ⟨.start, kind, strategy⟩).1 := by
  obtain ⟨inner, inner', finish, layout, layout', ended⟩ :=
    Automaton.exists_ended (automaton_eq compiled) (automaton_eq compiled')
  have indices' : ∀ index ∈ (Pattern.concat (part :: rest ++ [.look .finish])).groups,
      1 ≤ index := by
    rw [Pattern.groups, Pattern.groupsIn_append]
    simpa [Pattern.groupsIn, Pattern.groups] using indices
  have wellFormed := layout.wellFormed indices
  have wellFormed' := layout'.wellFormed indices'
  have slots : plain.automaton.slotCount = guarded.automaton.slotCount := by
    rw [Automaton.slotCount, Automaton.slotCount, layout.groups_eq, layout'.groups_eq,
      Automaton.groupsOf_ended]
  refine search_congr wellFormed wellFormed' fits fits' ?_
  rw [slots]
  exact ended.search_eq layout layout' wellFormed wellFormed' _ _ _ _ _

/-- **Parts behind an assertion of the beginning.** -/
theorem search_started (compiled : ofPattern rule text (.concat (part :: rest)) = .ok plain)
    (compiled' : ofPattern rule text' (.concat (.look .start :: part :: rest)) = .ok guarded)
    (indices : ∀ index ∈ Pattern.groupsIn (part :: rest), 1 ≤ index)
    (fits : cache.Fits plain.automaton) (fits' : cache'.Fits guarded.automaton) (haystack : Bytes)
    (kind : MatchKind) (strategy : Strategy) :
    (plain.search cache haystack ⟨.start, kind, strategy⟩).1 =
      (guarded.search cache' haystack ⟨.unanchored, kind, strategy⟩).1 := by
  obtain ⟨inner, finish, layout⟩ := Automaton.exists_layout (automaton_eq compiled)
  obtain ⟨inner', finish', layout'⟩ := Automaton.exists_layout (automaton_eq compiled')
  have started := Automaton.exists_started (automaton_eq compiled) (automaton_eq compiled')
  have wellFormed := layout.wellFormed indices
  have wellFormed' := layout'.wellFormed indices
  have slots : plain.automaton.slotCount = guarded.automaton.slotCount := by
    rw [Automaton.slotCount, Automaton.slotCount, layout.groups_eq, layout'.groups_eq,
      Automaton.groupsOf_started]
  refine search_congr wellFormed wellFormed' fits fits' ?_
  rw [slots]
  exact started.search_eq wellFormed wellFormed' layout.start_eq layout'.start_eq _ _ _ _ _

end Regex

/-! ### Nothing but an assertion -/

namespace Automaton

/-- The numbers of states without the one at `low`. -/
def skip (low index : Nat) : Nat := if index ≤ low then index else index - 1

/-- A state that only leads to the next one may be left out. -/
theorem folds_skip {one other : Automaton} {low : Nat} (wellFormed : one.WellFormed)
    (skips : one.state low = .goto (low + 1) none) (start_eq : skip low one.start = other.start)
    (renames : ∀ index < one.size, index ≠ low →
      other.state (skip low index) = (one.state index).renamed (skip low))
    (haystack : Array UInt8) : one.Folds other haystack (skip low) {low} := by
  refine ⟨start_eq, fun start _ => ⟨one.confined_reached haystack start, fun reached visible =>
    renames _ (wellFormed.lt_of_reached reached) visible, fun {state _} _ isSilent => ?_,
    fun {state state' _} _ _ visible visible' same => ?_⟩⟩
  · obtain rfl : state = low := isSilent
    exact ⟨state + 1, by simp, skips, by simp [skip]⟩
  · have outside : state ≠ low := visible
    have outside' : state' ≠ low := visible'
    unfold skip at same
    split_ifs at same <;> omega

/-- The automaton of an assertion. -/
def looking (look : Look) : Automaton :=
  ⟨#[.capture 1 0, .goto 2 (some look), .capture 3 1, .accept], 0, 1⟩

/-- The automaton of an assertion before nothing. -/
def lookingFirst (look : Look) : Automaton :=
  ⟨#[.capture 1 0, .goto 2 (some look), .goto 3 none, .capture 4 1, .accept], 0, 1⟩

/-- The automaton of an assertion behind nothing. -/
def lookingLast (look : Look) : Automaton :=
  ⟨#[.capture 1 0, .goto 2 none, .goto 3 (some look), .capture 4 1, .accept], 0, 1⟩

theorem ofPattern_look (rule : LoopRule) (look : Look) :
    ofPattern rule (.look look) = .ok (looking look) := by
  cbv

theorem ofPattern_lookFirst (rule : LoopRule) (look : Look) :
    ofPattern rule (.concat [.look look, .empty]) = .ok (lookingFirst look) := by
  cbv

theorem ofPattern_lookLast (rule : LoopRule) (look : Look) :
    ofPattern rule (.concat [.empty, .look look]) = .ok (lookingLast look) := by
  cbv

/-- Patterns of groups from one on are compiled to well-formed automata. -/
theorem wellFormed_of_ofPattern {rule : LoopRule} {pattern : Pattern} {automaton : Automaton}
    (compiled : ofPattern rule pattern = .ok automaton)
    (indices : ∀ index ∈ pattern.groups, 1 ≤ index) : automaton.WellFormed := by
  obtain ⟨inner, finish, layout⟩ := exists_layout compiled
  exact layout.wellFormed indices

theorem looking_wellFormed (look : Look) : (looking look).WellFormed :=
  wellFormed_of_ofPattern (ofPattern_look .bodyKnownEmpty look) (by simp [Pattern.groups])

theorem lookingFirst_wellFormed (look : Look) : (lookingFirst look).WellFormed :=
  wellFormed_of_ofPattern (ofPattern_lookFirst .bodyKnownEmpty look)
    (by simp [Pattern.groups, Pattern.groupsIn])

theorem lookingLast_wellFormed (look : Look) : (lookingLast look).WellFormed :=
  wellFormed_of_ofPattern (ofPattern_lookLast .bodyKnownEmpty look)
    (by simp [Pattern.groups, Pattern.groupsIn])

/-- Nothing behind an assertion may be left out. -/
theorem folds_lookingFirst (look : Look) (haystack : Array UInt8) :
    (lookingFirst look).Folds (looking look) haystack (skip 2) {2} :=
  folds_skip (lookingFirst_wellFormed look) (by rfl) (by rfl) (by cases look <;> decide) haystack

/-- Nothing before an assertion may be left out. -/
theorem folds_lookingLast (look : Look) (haystack : Array UInt8) :
    (lookingLast look).Folds (looking look) haystack (skip 1) {1} :=
  folds_skip (lookingLast_wellFormed look) (by rfl) (by rfl) (by cases look <;> decide) haystack

end Automaton

namespace Regex

variable {rule : LoopRule} {plain guarded : Regex} {text text' : String} {cache cache' : Cache}

/-- An assertion is compiled to its automaton. -/
theorem eq_looking {look : Look} (compiled : ofPattern rule text (.look look) = .ok guarded) :
    guarded = ⟨text, .looking look⟩ := by
  rw [ofPattern, Automaton.ofPattern_look] at compiled
  exact (Except.ok.inj compiled).symm

/-- An assertion of the end alone. -/
theorem search_finish (compiled : ofPattern rule text .empty = .ok plain)
    (compiled' : ofPattern rule text' (.look .finish) = .ok guarded)
    (fits : cache.Fits plain.automaton) (fits' : cache'.Fits guarded.automaton) (haystack : Bytes)
    (kind : MatchKind) (strategy : Strategy) :
    (plain.search cache haystack ⟨.both, kind, strategy⟩).1 =
      (guarded.search cache' haystack ⟨.start, kind, strategy⟩).1 := by
  let middle : Regex := ⟨text', .lookingLast .finish⟩
  have made : ofPattern rule text' (.concat [.empty, .look .finish]) = .ok middle := by
    rw [ofPattern, Automaton.ofPattern_lookLast]
  rw [← ofPattern_concat_singleton] at compiled
  obtain rfl := eq_looking compiled'
  rw [search_ended compiled made (by simp [Pattern.groupsIn, Pattern.groups]) fits
    middle.fits_newCache]
  exact search_folds (Automaton.folds_lookingLast .finish _)
    (Automaton.lookingLast_wellFormed .finish) (Automaton.looking_wellFormed .finish) (by rfl)
    middle.fits_newCache fits' _

/-- An assertion of the beginning alone. -/
theorem search_beginning (compiled : ofPattern rule text .empty = .ok plain)
    (compiled' : ofPattern rule text' (.look .start) = .ok guarded)
    (fits : cache.Fits plain.automaton) (fits' : cache'.Fits guarded.automaton) (haystack : Bytes)
    (kind : MatchKind) (strategy : Strategy) :
    (plain.search cache haystack ⟨.start, kind, strategy⟩).1 =
      (guarded.search cache' haystack ⟨.unanchored, kind, strategy⟩).1 := by
  let middle : Regex := ⟨text', .lookingFirst .start⟩
  have made : ofPattern rule text' (.concat [.look .start, .empty]) = .ok middle := by
    rw [ofPattern, Automaton.ofPattern_lookFirst]
  rw [← ofPattern_concat_singleton] at compiled
  obtain rfl := eq_looking compiled'
  rw [search_started compiled made (by simp [Pattern.groupsIn, Pattern.groups]) fits
    middle.fits_newCache]
  exact search_folds (Automaton.folds_lookingFirst .start _)
    (Automaton.lookingFirst_wellFormed .start) (Automaton.looking_wellFormed .start) (by rfl)
    middle.fits_newCache fits' _

end Regex

/-! ### Anchors and assertions -/

/-- A loop whose body may match nothing, `(a*)*`. -/
def Pattern.nestedLoop : Pattern :=
  .repetition 0 none true (.group 1 (.repetition 0 none true (.literal [0x61])))

/-- The regex `(a*)*`. -/
def Regex.nestedLoop : Regex :=
  ⟨"(a*)*", #[.capture 6 0, .capture 2 2, .splits [3, 4] false, .byte 2 0x61, .capture 5 3,
    .splits [1, 7] false, .splits [1, 7] false, .goto 8 none, .capture 9 1, .accept], 0, 2⟩

/-- The regex `\A(a*)*`. -/
def Regex.nestedLoopStarted : Regex :=
  ⟨"\\A(a*)*", #[.capture 1 0, .goto 7 (some .start), .capture 3 2, .splits [4, 5] false,
    .byte 3 0x61, .capture 6 3, .splits [2, 8] false, .splits [2, 8] false, .goto 9 none,
    .capture 10 1, .accept], 0, 2⟩

/-- The regex `(a*)*\z`. -/
def Regex.nestedLoopEnded : Regex :=
  ⟨"(a*)*\\z", #[.capture 6 0, .capture 2 2, .splits [3, 4] false, .byte 2 0x61, .capture 5 3,
    .splits [1, 7] false, .splits [1, 7] false, .goto 8 none, .goto 9 (some .finish),
    .capture 10 1, .accept], 0, 2⟩

/-- The regex `\A(a*)*\z`. -/
def Regex.nestedLoopEnclosed : Regex :=
  ⟨"\\A(a*)*\\z", #[.capture 1 0, .goto 7 (some .start), .capture 3 2, .splits [4, 5] false,
    .byte 3 0x61, .capture 6 3, .splits [2, 8] false, .splits [2, 8] false, .goto 9 none,
    .goto 10 (some .finish), .capture 11 1, .accept], 0, 2⟩

/-- **Anchors mean the same as explicit assertions of the text.** A search from the beginning only
finds what a search from anywhere finds with an assertion of the beginning before the pattern, and a
search for matches of the whole haystack finds what is found with an assertion of the end behind it,
and with both. This is so for concatenations as they stand, and for simplified ones if the pattern
is simplified, as all are that the constructors make (`Simplified.Flat.concat_singleton`). -/
theorem search_anchored {rule : LoopRule} {pattern : Pattern} {join : List Pattern → Pattern}
    (joins : join = .concat ∨ join = Simplified.concat ∧ Simplified.concat [pattern] = pattern)
    (indices : ∀ index ∈ pattern.groups, 1 ≤ index) {plain started ended enclosed : Regex}
    {text textStarted textEnded textEnclosed : String}
    (compiled : Regex.ofPattern rule text pattern = .ok plain)
    (compiledStarted : Regex.ofPattern rule textStarted (join [.look .start, pattern]) =
      .ok started)
    (compiledEnded : Regex.ofPattern rule textEnded (join [pattern, .look .finish]) = .ok ended)
    (compiledEnclosed : Regex.ofPattern rule textEnclosed
      (join [.look .start, pattern, .look .finish]) = .ok enclosed)
    {cache cacheStarted cacheEnded cacheEnclosed : Cache}
    (fits : cache.Fits plain.automaton) (fitsStarted : cacheStarted.Fits started.automaton)
    (fitsEnded : cacheEnded.Fits ended.automaton)
    (fitsEnclosed : cacheEnclosed.Fits enclosed.automaton) (haystack : Bytes) (kind : MatchKind)
    (strategy : Strategy) :
    (plain.search cache haystack ⟨.start, kind, strategy⟩).1 =
        (started.search cacheStarted haystack ⟨.unanchored, kind, strategy⟩).1 ∧
      (plain.search cache haystack ⟨.both, kind, strategy⟩).1 =
        (ended.search cacheEnded haystack ⟨.start, kind, strategy⟩).1 ∧
      (plain.search cache haystack ⟨.both, kind, strategy⟩).1 =
        (enclosed.search cacheEnclosed haystack ⟨.unanchored, kind, strategy⟩).1 := by
  have alone : Regex.ofPattern rule text (.concat [pattern]) = .ok plain :=
    (Regex.ofPattern_concat_singleton rule text pattern).trans compiled
  by_cases kept : join = .concat ∨ pattern ≠ .empty
  · obtain ⟨part, rest, same, isStarted, isEnded, isEnclosed⟩ :=
      Simplified.exists_joined joins kept .start .finish
    rw [isStarted] at compiledStarted
    rw [isEnded] at compiledEnded
    rw [isEnclosed] at compiledEnclosed
    have whole : Regex.ofPattern rule text (.concat (part :: rest)) = .ok plain := by
      rcases same with rfl | ⟨rfl, rfl⟩
      exacts [compiled, alone]
    have groups : pattern.groups = Pattern.groupsIn (part :: rest) := by
      rcases same with rfl | ⟨rfl, rfl⟩
      exacts [rfl, by simp [Pattern.groupsIn]]
    rw [groups] at indices
    have indicesEnded : ∀ index ∈ Pattern.groupsIn (part :: (rest ++ [.look .finish])),
        1 ≤ index := by
      rw [← List.cons_append, Pattern.groupsIn_append]
      simpa [Pattern.groupsIn, Pattern.groups] using indices
    have last := Regex.search_ended whole compiledEnded indices fits fitsEnded haystack kind
      strategy
    exact ⟨Regex.search_started whole compiledStarted indices fits fitsStarted haystack kind
      strategy, last, last.trans (Regex.search_started compiledEnded compiledEnclosed indicesEnded
        fitsEnded fitsEnclosed haystack kind strategy)⟩
  · -- Nothing is left of the pattern: the assertions stand alone, or side by side.
    obtain ⟨notRaw, isEmpty⟩ := not_or.mp kept
    obtain rfl : join = Simplified.concat := (joins.resolve_left notRaw).1
    obtain rfl : pattern = .empty := not_not.mp isEmpty
    have single : Regex.ofPattern rule textEnded (.concat [.look .finish]) = .ok ended :=
      (Regex.ofPattern_concat_singleton rule textEnded _).trans compiledEnded
    have last := Regex.search_finish compiled compiledEnded fits fitsEnded haystack kind strategy
    exact ⟨Regex.search_beginning compiled compiledStarted fits fitsStarted haystack kind strategy,
      last, last.trans (Regex.search_started single compiledEnclosed
        (by simp [Pattern.groupsIn, Pattern.groups]) fitsEnded fitsEnclosed haystack kind strategy)⟩

/-- A loop over a loop, in a haystack that it matches as a whole. -/
theorem search_nestedLoop_anchored :
    Simplified.concat [.nestedLoop] = .nestedLoop ∧
      (∀ index ∈ Pattern.nestedLoop.groups, 1 ≤ index) ∧
      Regex.ofPattern .bodyKnownEmpty "(a*)*" .nestedLoop = .ok .nestedLoop ∧
      Regex.ofPattern .bodyKnownEmpty "\\A(a*)*" (Simplified.concat [.look .start, .nestedLoop]) =
        .ok .nestedLoopStarted ∧
      Regex.ofPattern .bodyKnownEmpty "(a*)*\\z" (Simplified.concat [.nestedLoop, .look .finish]) =
        .ok .nestedLoopEnded ∧
      Regex.ofPattern .bodyKnownEmpty "\\A(a*)*\\z"
        (Simplified.concat [.look .start, .nestedLoop, .look .finish]) = .ok .nestedLoopEnclosed ∧
      (Regex.nestedLoopStarted.search Regex.nestedLoopStarted.newCache [0x61, 0x61]
        ⟨.unanchored, .leftmostFirst, .backtracking⟩).1 = some ⟨⟨0, 2⟩, [some ⟨0, 2⟩]⟩ ∧
      (Regex.nestedLoopEnded.search Regex.nestedLoopEnded.newCache [0x61, 0x61]
        ⟨.start, .leftmostFirst, .backtracking⟩).1 = some ⟨⟨0, 2⟩, [some ⟨0, 2⟩]⟩ ∧
      (Regex.nestedLoopEnclosed.search Regex.nestedLoopEnclosed.newCache [0x61, 0x61]
        ⟨.unanchored, .leftmostFirst, .backtracking⟩).1 = some ⟨⟨0, 2⟩, [some ⟨0, 2⟩]⟩ := by
  have simplified : Simplified.concat [.nestedLoop] = .nestedLoop := by rfl
  have indices : ∀ index ∈ Pattern.nestedLoop.groups, 1 ≤ index := by decide
  have compiled : Regex.ofPattern .bodyKnownEmpty "(a*)*" .nestedLoop = .ok .nestedLoop := by cbv
  have compiledStarted : Regex.ofPattern .bodyKnownEmpty "\\A(a*)*"
      (Simplified.concat [.look .start, .nestedLoop]) = .ok .nestedLoopStarted := by cbv
  have compiledEnded : Regex.ofPattern .bodyKnownEmpty "(a*)*\\z"
      (Simplified.concat [.nestedLoop, .look .finish]) = .ok .nestedLoopEnded := by cbv
  have compiledEnclosed : Regex.ofPattern .bodyKnownEmpty "\\A(a*)*\\z"
      (Simplified.concat [.look .start, .nestedLoop, .look .finish]) =
        .ok .nestedLoopEnclosed := by cbv
  have fromStart : (Regex.nestedLoop.search Regex.nestedLoop.newCache [0x61, 0x61]
      ⟨.start, .leftmostFirst, .backtracking⟩).1 = some ⟨⟨0, 2⟩, [some ⟨0, 2⟩]⟩ := by cbv
  have whole : (Regex.nestedLoop.search Regex.nestedLoop.newCache [0x61, 0x61]
      ⟨.both, .leftmostFirst, .backtracking⟩).1 = some ⟨⟨0, 2⟩, [some ⟨0, 2⟩]⟩ := by cbv
  obtain ⟨isStarted, isEnded, isEnclosed⟩ :=
    search_anchored (.inr ⟨rfl, simplified⟩) indices compiled compiledStarted compiledEnded
      compiledEnclosed (Regex.fits_newCache _) (Regex.fits_newCache _) (Regex.fits_newCache _)
      (Regex.fits_newCache _) [0x61, 0x61] .leftmostFirst .backtracking
  exact ⟨simplified, indices, compiled, compiledStarted, compiledEnded, compiledEnclosed,
    isStarted.symm.trans fromStart, isEnded.symm.trans whole, isEnclosed.symm.trans whole⟩

end Crosscheck
