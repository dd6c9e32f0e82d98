/-
**Counted repetitions are built like what they are short for.**

Copies that must be there are built in the same way in both, and so is a loop behind them, but for
the order in which targets are set. Optional copies are built in a row, and all lead to one exit. In
what a counted repetition is short for they stand inside each other, and each of them is left
through a state of its own, which leads to that of the copy around it. Only the last of these states
has the place of the exit; the others are silent.

* `Build.patch_comm`: the order in which targets are set;
* `Build.nested_eq_ok`: optional copies inside each other, against optional copies in a row;
* `Numbering.Holds.optional`: both of them under common numbers;
* `Pairing.alike_expanded`, `Pairing.alike_fill`: counted repetitions, and what stands in a hole.
-/
import Crosscheck.Proofs.Automaton.Guards
import Crosscheck.Proofs.Automaton.Numbering
import Crosscheck.Proofs.Pattern.Contexts

namespace Crosscheck

namespace Build

/-! ### The order of targets -/

/-- The bytes that a target takes, if it is one of a split. -/
def gained (builder : Builder) (source : Nat) : Nat :=
  match builder.states[source]? with
  | some (.splits _ _) => targetSize
  | _ => 0

/-- The automaton with another target of a state. -/
def redirected (builder : Builder) (source target : Nat) : Builder :=
  ⟨builder.states.modify source (·.redirect target), builder.extra + gained builder source⟩

theorem patch_apply (source target : Nat) (builder : Builder) :
    patch source target builder =
      (checkSize (redirected builder source target)).map fun builder => ((), builder) := by
  have checked (builder : Builder) : (do return ((), ← checkSize builder) : Except Unsupported _) =
      (checkSize builder).map fun builder => ((), builder) := by
    cases checkSize builder <;> rfl
  rw [← checked, redirected, gained, patch]
  cases builder.states[source]? with
  | none => rfl
  | some state => cases state <;> rfl

/-- Targets of different states may be set in any order. -/
theorem redirected_comm {source source' : Nat} (different : source ≠ source') (target target' : Nat)
    (builder : Builder) :
    redirected (redirected builder source target) source' target' =
      redirected (redirected builder source' target') source target := by
  have other {one two : Nat} (different : one ≠ two) (target : Nat) :
      gained (redirected builder one target) two = gained builder two := by
    rw [gained, gained, redirected, Array.getElem?_modify, if_neg different]
  have states : (redirected (redirected builder source target) source' target').states =
      (redirected (redirected builder source' target') source target).states := by
    refine Array.ext_getElem? fun index => ?_
    simp only [redirected, Array.getElem?_modify]
    split_ifs with first second
    · exact absurd (second.trans first.symm) different
    · rfl
    · rfl
    · rfl
  have extra : (redirected (redirected builder source target) source' target').extra =
      (redirected (redirected builder source' target') source target).extra := by
    show builder.extra + gained builder source + gained _ source' =
      builder.extra + gained builder source' + gained _ source
    rw [other different, other different.symm, Nat.add_right_comm]
  cases one : redirected (redirected builder source target) source' target'
  cases two : redirected (redirected builder source' target') source target
  rw [one, two] at states extra
  exact congrArg₂ Builder.mk states extra

/-- Two targets are set if there is room for both. -/
theorem patch_bind_patch (source source' target target' : Nat) (builder : Builder) :
    (patch source target >>= fun _ => patch source' target') builder =
      (checkSize (redirected (redirected builder source target) source' target')).map
        fun builder => ((), builder) := by
  change Except.bind (patch source target builder) _ = _
  have less : (redirected builder source target).states.size * stateSize +
      (redirected builder source target).extra ≤
      (redirected (redirected builder source target) source' target').states.size * stateSize +
      (redirected (redirected builder source target) source' target').extra := by
    simp only [redirected, Array.size_modify]
    omega
  rw [patch_apply, checkSize]
  split
  · rw [checkSize, if_pos (by omega)]
    rfl
  · exact patch_apply source' target' _

/-- **Targets of different states** may be set in any order. -/
theorem patch_comm {source source' : Nat} (different : source ≠ source') (target target' : Nat) :
    (patch source target >>= fun _ => patch source' target') =
      (patch source' target' >>= fun _ => patch source target) := by
  funext builder
  rw [patch_bind_patch, patch_bind_patch, redirected_comm different]

/-- Two targets that were set one after the other could have been set the other way round. -/
theorem patch_swap {source source' target target' : Nat} {before middle after : Builder}
    {done done' : Unit} (different : source ≠ source')
    (first : patch source target before = .ok (done, middle))
    (second : patch source' target' middle = .ok (done', after)) :
    ∃ between, patch source' target' before = .ok ((), between) ∧
      patch source target between = .ok ((), after) := by
  have both : (patch source target >>= fun _ => patch source' target') before =
      .ok ((), after) := bind_eq_ok.mpr ⟨middle, done, first, second⟩
  rw [patch_comm different] at both
  obtain ⟨between, _, first, second⟩ := bind_eq_ok.mp both
  exact ⟨between, first, second⟩

/-! ### Copies -/

section Copies

variable {rule : LoopRule} {greedy : Bool} {body : Pattern}

theorem pattern_sequence (rule : LoopRule) (parts : List Pattern) :
    Build.pattern rule (Pattern.sequence parts) = Build.pattern rule (.concat parts) := by
  match parts with
  | [] | _ :: _ :: _ => rfl
  | [part] => exact (concat_singleton rule part).symm

/-- Copies behind a fragment are parts behind it. -/
theorem partsAfter_replicate (rule : LoopRule) (body : Pattern) (whole : Fragment) (count : Nat) :
    partsAfter rule whole (List.replicate count body) =
      copiesAfter (Build.pattern rule body) whole count := by
  induction count generalizing whole with
  | zero => rw [List.replicate_zero, partsAfter, copiesAfter]
  | succ count hypothesis =>
    rw [List.replicate_succ, partsAfter, copiesAfter]
    simp only [hypothesis]

/-- **Copies are a concatenation.** -/
theorem concat_replicate (rule : LoopRule) (body : Pattern) (count : Nat) :
    Build.pattern rule (.concat (List.replicate count body)) =
      exactly (Build.pattern rule body) count := by
  cases count with
  | zero => rw [List.replicate_zero, Build.pattern, exactly]
  | succ count =>
    rw [List.replicate_succ, Build.pattern, exactly]
    simp only [partsAfter_replicate]

theorem concat_replicate_append (rule : LoopRule) (body : Pattern) (count : Nat)
    (more : List Pattern) :
    Build.pattern rule (.concat (List.replicate (count + 1) body ++ more)) =
      exactly (Build.pattern rule body) (count + 1) >>= (partsAfter rule · more) := by
  rw [List.replicate_succ, concat_append, ← concat_replicate, List.replicate_succ]

/-- **Copies and a loop** are built as one repetition, which sets the same targets in another
order. -/
theorem moreThan_of_concat {count : Nat} {before after : Builder} {fragment : Fragment}
    (built : Build.pattern rule (.concat (List.replicate (count + 1) body ++
      [.repetition 1 none greedy body])) before = .ok (fragment, after)) :
    moreThan greedy (Build.pattern rule body) (count + 1) before = .ok (fragment, after) := by
  have lays := lays_pattern rule body
  rw [concat_replicate_append] at built
  simp only [partsAfter, Build.pattern, repetition, atLeast, atLeastOnce, bind_eq_ok,
    pure_eq_ok] at built
  obtain ⟨b1, whole, wholeLaid, b2, _, ⟨b3, inner, laid, b4, choice, added, b5, _, loops, b6, _,
    repeats, rfl, rfl⟩, b7, _, enters, rfl, rfl⟩ := built
  have wholeIn := (lays_exactly lays _ wholeLaid).last_mem
  have innerIn := (lays laid).last_mem
  have grows := (lays laid).grows
  obtain ⟨rfl, -, -⟩ := add_eq_ok added
  obtain ⟨b6', enters, repeats⟩ := patch_swap (show b3.size ≠ whole.last by omega) repeats enters
  obtain ⟨b5', enters, loops⟩ := patch_swap (show inner.last ≠ whole.last by omega) loops enters
  simp only [moreThan, bind_eq_ok, pure_eq_ok]
  exact ⟨b1, whole, wholeLaid, b3, inner, laid, b4, b3.size, added, b5', (), enters, b6', (), loops,
    b7, (), repeats, rfl, rfl⟩

/-- One optional copy of a body and those behind it. -/
theorem optionalCopies_succ_eq_ok {body : Build Fragment} {shape : Shape} {slots : Set Nat}
    {exit last last' count : Nat} {before after : Builder} (lays : body.Lays shape slots)
    (built : optionalCopies greedy body exit last (count + 1) before = .ok (last', after))
    (lastIn : last < before.size) :
    ∃ started inner finished middle, body started = .ok (inner, finished) ∧
      started.size = before.size + 1 ∧ middle.size = finished.size ∧
      optionalCopies greedy body exit inner.last count middle = .ok (last', after) ∧
      ∀ {graph : Graph}, after.Shows graph before.size last' exit →
        Shape.Chooses graph greedy before.size inner.first exit ∧
        finished.Shows graph started.size inner.last (if count = 0 then exit else middle.size) ∧
        (count ≠ 0 → after.Shows graph middle.size last' exit) := by
  simp only [optionalCopies, bind_eq_ok] at built
  obtain ⟨b1, choice, added, b2, inner, laid, b3, _, patched3, b4, _, patched4, b5, _, patched5,
    built⟩ := built
  have copied := copied_of_steps lays added laid patched3 patched4 patched5 lastIn
  have growsBody := (lays laid).grows
  have innerIn := (lays laid).last_mem
  obtain ⟨rfl, size1, -⟩ := add_eq_ok added
  obtain ⟨size3, state3⟩ := patch_eq_ok patched3
  obtain ⟨size4, state4⟩ := patch_eq_ok patched4
  obtain ⟨size5, state5⟩ := patch_eq_ok patched5
  have same {index : Nat} (above : b1.size ≤ index) : b5.state index = b2.state index := by
    rw [state5, if_neg (by omega), state4, if_neg (by omega), state3, if_neg (by omega)]
  have chosen := copied.chosen
  refine ⟨b1, inner, b2, b5, laid, size1, by omega, built, fun {graph} shows => ?_⟩
  rcases chained_optionalCopies greedy lays count built copied.last_mem.2 with
    ⟨rfl, rfl, rfl⟩ | ⟨grows, redirected, kept, lastMem, -, -⟩
  · refine ⟨copied.chooses ?_, fun index above below => ?_, fun more => absurd rfl more⟩
    · rw [shows _ le_rfl (by omega), if_neg (by omega)]
    · rw [shows _ (by omega) (by omega), same above, if_pos rfl]
  · have more : count ≠ 0 := by
      rintro rfl
      obtain ⟨rfl, rfl⟩ := pure_eq_ok.mp built
      omega
    refine ⟨copied.chooses ?_, fun index above below => ?_, fun _ index above below => ?_⟩
    · rw [shows _ le_rfl (by omega), if_neg (by omega), kept _ (by omega) (by omega)]
    · rw [shows _ (by omega) (by omega), if_neg (by omega), if_neg more]
      split
      · next here => rw [here, redirected, same (by omega)]
      · next elsewhere => rw [kept _ (by omega) elsewhere, same above]
    · exact shows _ (by omega) below

/-- A pattern takes as many states wherever it is built. -/
theorem size_of_built {started started' finished finished' : Builder} {inner inner' : Fragment}
    (behind : 0 < started.size)
    (built : Build.pattern rule body started = .ok (inner, finished))
    (built' : Build.pattern rule body started' = .ok (inner', finished')) :
    finished'.size + started.size = finished.size + started'.size := by
  obtain ⟨-, alike⟩ := alike_of_built behind built rfl built' rfl
  rw [alike.size_eq, shift_add _ alike.le_size]

/-- **A copy behind a choice**, built behind some states and behind others: its states go the same
ways, if what it leads to stands for what it leads to there. -/
theorem copy_renamed {low low' exit exit' next next' : Nat}
    {started started' finished finished' : Builder} {inner inner' : Fragment}
    {graph graph' : Graph} {image : Nat → Nat}
    (built : Build.pattern rule body started = .ok (inner, finished))
    (size : started.size = low + 1)
    (built' : Build.pattern rule body started' = .ok (inner', finished'))
    (size' : started'.size = low' + 1)
    (chooses : Shape.Chooses graph greedy low inner.first exit)
    (shows : finished.Shows graph started.size inner.last next)
    (chooses' : Shape.Chooses graph' greedy low' inner'.first exit')
    (shows' : finished'.Shows graph' started'.size inner'.last next')
    (agree : ∀ index, low' ≤ index → index < finished'.size → image index + low' = index + low)
    (leaves : image exit' = exit) (leads : image next' = next) {index : Nat} (above : low' ≤ index)
    (below : index < finished'.size) : graph (image index) = (graph' index).renamed image := by
  obtain ⟨fragments, alike⟩ := alike_of_built (by omega) built' size' built size
  have laid := lays_pattern rule body built'
  have firstIn := laid.first_mem
  rcases above.eq_or_lt with rfl | above
  · have here := agree _ le_rfl below
    have first := agree inner'.first (by omega) (by omega)
    have shifted := shift_add (low + 1) fragments.first.1
    rw [← fragments.first.2] at shifted
    rw [show image low' = low by omega, show graph low = _ from chooses,
      show graph' low' = _ from chooses', State.renamed, List.map_cons, List.map_singleton, leaves,
      show image inner'.first = inner.first by omega]
  · rw [size'] at shows'
    rw [size] at shows
    refine laid.renamed size' alike fragments shows' shows (fun index above below => ?_) leads above
      below
    have := agree index (by omega) below
    have := shift_add (low + 1) above
    omega

/-- **Optional copies inside each other** are optional copies one behind the other, but for the
states through which they are left: these lead on to each other. -/
theorem nested_eq_ok {exit count : Nat} {before after before' after' : Builder} {last last' : Nat}
    {fragment : Fragment}
    (built : optionalCopies greedy (Build.pattern rule body) exit last (count + 1) before =
      .ok (last', after)) (lastIn : last < before.size)
    (built' : Build.pattern rule (.repetition 0 (some 1) greedy
      (Pattern.sequence (body :: Pattern.optionalCopies greedy body count))) before' =
      .ok (fragment, after')) :
    before.size < after.size ∧ after'.size + before.size = after.size + before'.size + (count + 1) ∧
      fragment = ⟨before'.size, after'.size - 1⟩ ∧
      ∀ {graph graph' : Graph} {image : Nat → Nat} {next : Nat},
        after.Shows graph before.size last' exit →
        after'.Shows graph' before'.size (after'.size - 1) next →
        (∀ index, before'.size ≤ index → index + before.size < after.size + before'.size →
          image index + before'.size = index + before.size) →
        (∀ index, after.size + before'.size ≤ index + before.size → index < after'.size →
          image index = exit) →
        (∀ index, before'.size ≤ index → index + before.size < after.size + before'.size →
          graph (image index) = (graph' index).renamed image) ∧
        (∀ index, after.size + before'.size ≤ index + before.size → index + 1 < after'.size →
          graph' index = .goto (index + 1) none) ∧
        graph' (after'.size - 1) = .goto next none := by
  have lays := lays_pattern rule body
  induction count generalizing before before' last after' fragment with
  | zero =>
    obtain ⟨started, inner, finished, middle, laid, size, sizes, rest, parts⟩ :=
      optionalCopies_succ_eq_ok lays built lastIn
    obtain ⟨rfl, rfl⟩ := pure_eq_ok.mp rest
    rw [Build.pattern, repetition, if_pos ⟨rfl, rfl⟩, Pattern.optionalCopies,
      Pattern.sequence] at built'
    obtain ⟨started', inner', finished', laid', size', sizes', rfl, -, -, parts'⟩ :=
      optional_eq_ok lays built'
    have grows := (lays laid).grows
    have same := size_of_built (by omega) laid laid'
    rw [sizes', Nat.add_sub_cancel]
    refine ⟨by omega, by omega, rfl, fun {graph graph' image next} shows shows' agree leaves => ?_⟩
    obtain ⟨chooses, shows, -⟩ := parts shows
    obtain ⟨chooses', exits', shows'⟩ := parts' shows'
    have left : image finished'.size = exit := leaves _ (by omega) (by omega)
    refine ⟨fun index above below => ?_, fun index above below => by omega, exits'⟩
    exact copy_renamed laid size laid' size' chooses shows chooses' shows'
      (fun index above below => agree index above (by omega)) left left above (by omega)
  | succ count hypothesis =>
    obtain ⟨started, inner, finished, middle, laid, size, sizes, rest, parts⟩ :=
      optionalCopies_succ_eq_ok lays built lastIn
    rw [Build.pattern, repetition, if_pos ⟨rfl, rfl⟩, Pattern.optionalCopies] at built'
    obtain ⟨started', inner', finished', both, size', sizes', rfl, -, -, parts'⟩ :=
      optional_eq_ok (lays_pattern rule _) built'
    rw [pattern_sequence, Build.pattern, bind_eq_ok] at both
    obtain ⟨b2, copy, laid', both⟩ := both
    obtain ⟨others, b3, nested, size4, rfl, -, showsBoth⟩ := partsAfter_one_eq_ok (lays laid') both
    have grows := (lays laid).grows
    have innerIn := (lays laid).last_mem
    have same := size_of_built (by omega) laid laid'
    obtain ⟨more, sizes3, rfl, renames⟩ := hypothesis rest (by omega) nested
    rw [sizes', Nat.add_sub_cancel]
    refine ⟨by omega, by omega, rfl, fun {graph graph' image next} shows shows' agree leaves => ?_⟩
    obtain ⟨chooses, shows, showsOthers⟩ := parts shows
    rw [if_neg (Nat.succ_ne_zero count)] at shows
    obtain ⟨chooses', exits', shows'⟩ := parts' shows'
    obtain ⟨shows', showsOthers'⟩ := showsBoth shows'
    have left : image finished'.size = exit := leaves _ (by omega) (by omega)
    have entered : image b2.size = middle.size := by
      have := agree b2.size (by omega) (by omega)
      omega
    obtain ⟨renames, chain, ends⟩ := renames (showsOthers (Nat.succ_ne_zero count)) showsOthers'
      (fun index above below => by have := agree index (by omega) (by omega); omega)
      (fun index above below => leaves index (by omega) (by omega))
    refine ⟨fun index above below => ?_, fun index above below => ?_, exits'⟩
    · rcases Nat.lt_or_ge index b2.size with early | late
      · exact copy_renamed laid size laid' size' chooses shows chooses' shows'
          (fun index above below => agree index above (by omega)) left entered above early
      · exact renames index late (by omega)
    · rcases Nat.lt_or_ge (index + 1) b3.size with early | late
      · exact chain index (by omega) early
      · rw [show index = b3.size - 1 by omega, ends, show finished'.size = b3.size - 1 + 1 by omega]

/-- Nested optional copies are left through a state that has no target yet. -/
theorem nested_unset {parts : List Pattern} {before after : Builder} {fragment : Fragment}
    (built : Build.pattern rule (.repetition 0 (some 1) greedy (Pattern.sequence parts)) before =
      .ok (fragment, after)) : after.state fragment.last = .goto 0 none := by
  rw [Build.pattern, repetition, if_pos ⟨rfl, rfl⟩] at built
  obtain ⟨_, _, _, -, -, -, rfl, -, unset, -⟩ := optional_eq_ok (lays_pattern rule _) built
  exact unset

end Copies

end Build

/-! ### Optional copies under common numbers -/

/-- By which numbers the states of nested optional copies go, from `entry` on: theirs by those of
optional copies in a row behind the state `exit`, those before them by those of the states before
that, and those from `finish` on, through which they are left, by that of the exit. -/
def rowImage (low low' entry exit finish index : Nat) : Nat :=
  if index < low' then index
  else if index < entry then index - low' + low
  else if index < finish then index - entry + (exit + 1)
  else exit

section Row

variable {low low' entry exit finish index : Nat}

theorem rowImage_of_lt (old : index < low') : rowImage low low' entry exit finish index = index :=
  if_pos old

theorem rowImage_before (above : low' ≤ index) (below : index < entry) :
    rowImage low low' entry exit finish index + low' = index + low := by
  rw [rowImage, if_neg (by omega), if_pos below]
  omega

theorem rowImage_copy (inside : low' ≤ entry) (above : entry ≤ index) (below : index < finish) :
    rowImage low low' entry exit finish index + entry = index + (exit + 1) := by
  rw [rowImage, if_neg (by omega), if_neg (by omega), if_pos below]
  omega

theorem rowImage_exit (inside : low' ≤ entry) (ordered : entry ≤ finish) (above : finish ≤ index) :
    rowImage low low' entry exit finish index = exit := by
  rw [rowImage, if_neg (by omega), if_neg (by omega), if_neg (by omega)]

end Row

section Optional

variable {rule : LoopRule} {greedy : Bool} {body : Pattern} {world : Numbering × Numbering}
  {one other one' other' : Builder} {first first' exit entry finish : Nat} {shape shape' : Shape}
  {slots slots' : Set Nat} {image : Nat → Nat}

/-- **Fragments that end in optional copies**, in a row and inside each other. Those that stand
inside each other are left through the last states. -/
theorem Numbering.Holds.lay_copies (holds : Numbering.Holds world one other)
    (laid : Laid one one' ⟨first, exit⟩ shape slots)
    (laid' : Laid other other' ⟨first', other'.size - 1⟩ shape' slots')
    (unset : one'.state exit = .goto 0 none)
    (unset' : other'.state (other'.size - 1) = .goto 0 none)
    (view : image = rowImage one.size other.size entry exit finish)
    (entered : other.size ≤ entry) (ordered : entry ≤ finish) (left : finish < other'.size)
    (sizes : one'.size + entry = finish + (exit + 1))
    (room : entry + one.size ≤ exit + other.size)
    (renames : ∀ index, other.size ≤ index → index < finish →
      one'.state (image index) = (other'.state index).renamed image)
    (chain : ∀ index, finish ≤ index → index + 1 < other'.size →
      other'.state index = .goto (index + 1) none)
    (numbers : Numbering) (zero : numbers.image 0 = 0)
    (passes : ∀ index, one.size ≤ index → index < one'.size → index ∈ numbers.silent →
      ∃ target, index < target ∧ one'.state index = .goto target none ∧
        numbers.image target = numbers.image index)
    (own : ∀ index, one.size ≤ index → index < one'.size → index ∉ numbers.silent →
      numbers.image index = index)
    (visible : ∀ index, other.size ≤ index → index < other'.size → image index ∉ numbers.silent)
    (enters : numbers.image first = image first') :
    ∃ later, world ≤ later ∧ Numbering.Holds later one' other' ∧
      Pairing.numbered.Fragments later ⟨first, exit⟩ ⟨first', other'.size - 1⟩ := by
  have sizeOther := holds.size_eq'
  have pos' := holds.pos'
  obtain ⟨exitAbove, exitBelow⟩ := laid.last_mem
  have lead {index : Nat} (above : one.size ≤ index) (below : index < one'.size) :=
    laid.target_mem_or_eq_zero unset above below
  have lead' {index : Nat} (above : other.size ≤ index) (below : index < other'.size) :=
    laid'.target_mem_or_eq_zero unset' above below
  have imageZero : image 0 = 0 := by
    rw [view, rowImage_of_lt (by omega)]
  have leaves {index : Nat} (above : finish ≤ index) : image index = exit := by
    rw [view, rowImage_exit entered ordered above]
  have inside {index : Nat} (above : other.size ≤ index) :
      one.size ≤ image index ∧ image index < one'.size := by
    rw [view, rowImage]
    split_ifs <;> omega
  let silent : Set Nat := {index | finish ≤ index ∧ index + 1 < other'.size}
  have shown {index : Nat} (outside : index ∉ silent) (below : index < other'.size) :
      index < finish ∨ index = other'.size - 1 := by
    by_contra neither
    exact outside ⟨by omega, by omega⟩
  refine holds.lay laid laid' unset unset' zero imageZero (?_ :
    Numbering.Pairs (numbers, ⟨other'.size, image, silent⟩) one.size other.size one' other') enters
    (fun ⟨_, below⟩ => by dsimp only at below; omega) (leaves (by dsimp only; omega))
  refine ⟨⟨fun {index} above below target member => ?_, fun above below => passes _ above below⟩,
    ⟨fun {index} above below target member => ?_, fun {index} above below isSilent => ?_⟩,
    fun above below => own _ above below, fun {index} above below outside => ?_,
    fun {index index'} above below outside above' below' outside' same => ?_,
    fun {index} above below outside => ?_⟩
  · have := lead above below target member
    omega
  · have := lead' above below target member
    omega
  · obtain ⟨further, below⟩ := isSilent
    refine ⟨index + 1, Nat.lt_succ_self _, chain index further below, ?_⟩
    exact (leaves (by omega)).trans (leaves further).symm
  · obtain ⟨new, old⟩ := inside above
    exact ⟨new, old, visible index above below⟩
  · have early := shown outside below
    have late := shown outside' below'
    dsimp only at same
    rw [view, rowImage, rowImage] at same
    split_ifs at same <;> omega
  · have same : one'.state (image index) = (other'.state index).renamed image := by
      rcases shown outside below with inner | rfl
      · exact renames index above inner
      · rw [leaves (by omega), unset, unset', State.renamed, imageZero]
    dsimp only
    rw [same, State.renamed_renamed]
    refine State.renamed_congr fun target member => ?_
    rcases lead' above below target member with ⟨new, old⟩ | rfl
    · obtain ⟨above, below⟩ := inside new
      exact (own _ above below (visible target new old)).symm
    · rw [Function.comp_apply, imageZero, zero]

end Optional

namespace Pairing

variable {rule : LoopRule} {greedy : Bool} {body : Pattern}

/-- **Copies and optional ones** behind them. -/
theorem alike_bounded_succ {least most count : Nat} (more : most - (least + 1) = count + 1) :
    numbered.AddAlike (Build.bounded greedy (Build.pattern rule body) (least + 1) most)
      (Build.pattern rule (.concat (List.replicate (least + 1) body ++
        Pattern.optionalCopies greedy body (count + 1)))) := by
  intro world one other holds one' other' fragment fragment' built built'
  have lays := Build.lays_pattern rule body
  have laid := Build.lays_bounded greedy lays _ _ built
  have laid' := Build.lays_pattern rule _ built'
  have behind : 0 < other.size := holds.size_eq' ▸ holds.pos'
  obtain ⟨whole, finished, middle, last, copied, early, size, copies, sizes, rfl, -, unset,
    split⟩ := Build.bounded_eq_ok lays built
  obtain ⟨shows, -, showsCopies⟩ := split (Builder.shows_self unset)
  rw [more] at copies
  rw [if_neg (by omega)] at shows
  replace showsCopies := showsCopies (by omega)
  rw [Build.concat_replicate_append, Build.bind_eq_ok] at built'
  obtain ⟨finished', whole', early', late⟩ := built'
  have wholeLaid' := Build.lays_exactly lays _ early'
  have wholeIn := (Build.lays_exactly lays _ early).last_mem
  have firstIn' := wholeLaid'.first_mem
  obtain ⟨others, nested, behindWhole, sizes', rfl, kept, parts⟩ :=
    Build.partsAfter_one_eq_ok wholeLaid' late
  have unset' : other'.state others.last = .goto 0 none :=
    (kept _ (Build.lays_pattern rule _ behindWhole).last_mem.1).trans
      (Build.nested_unset behindWhole)
  obtain ⟨showsWhole, showsOthers⟩ := parts (Builder.shows_self unset')
  obtain ⟨grows, sizesNested, rfl, renames⟩ := Build.nested_eq_ok copies (by omega) behindWhole
  obtain ⟨fragments, alike⟩ := Build.alike_of_sizes behind
    (alike_exactly (alike_pattern _ rule body) (least + 1)) early' rfl early rfl
  have offset := shift_add one.size alike.le_size
  rw [← alike.size_eq] at offset
  have first := shift_add one.size fragments.first.1
  rw [← fragments.first.2] at first
  dsimp only at laid' showsWhole showsOthers unset'
  rw [← sizes'] at laid' unset' showsOthers renames sizesNested ⊢
  obtain ⟨finish, finishes⟩ : ∃ finish, finish + middle.size = copied.size + finished'.size :=
    ⟨copied.size - middle.size + finished'.size, by omega⟩
  let image := rowImage one.size other.size finished'.size finished.size finish
  have before {index : Nat} (above : other.size ≤ index) (below : index < finished'.size) :
      image index + other.size = index + one.size := rowImage_before above below
  have copy {index : Nat} (above : finished'.size ≤ index) (below : index < finish) :
      image index + finished'.size = index + middle.size := by
    rw [size]
    exact rowImage_copy wholeLaid'.grows above below
  have exit {index : Nat} (above : finish ≤ index) : image index = finished.size :=
    rowImage_exit wholeLaid'.grows (by omega) above
  obtain ⟨renames, chain, -⟩ := renames showsCopies showsOthers
    (fun index above below => copy above (by omega))
    (fun index above _ => show image index = _ from exit (by omega))
  refine holds.lay_copies laid laid' unset unset' (show image = _ from rfl) wholeLaid'.grows
    (show finished'.size ≤ finish by omega) (by omega) (by omega) (by omega)
    (fun index above below => ?_)
    (fun index above below => chain index (by omega) below) ⟨one'.size, id, ∅⟩ rfl
    (fun _ _ _ isSilent => isSilent.elim) (fun _ _ _ _ => rfl) (fun _ _ _ => id) ?_
  · rcases Nat.lt_or_ge index finished'.size with early | late
    · have entered := copy le_rfl (show finished'.size < finish by omega)
      refine wholeLaid'.renamed rfl alike fragments showsWhole shows (fun index above below => ?_)
        (Nat.add_right_cancel (entered.trans (Nat.add_comm _ _))) above early
      have := shift_add one.size above
      have := before above below
      omega
    · exact renames index late (by omega)
  · show whole.first = image whole'.first
    have := before firstIn'.1 firstIn'.2
    omega

/-- **Only optional copies.** Before those in a row stands a state that only leads to them. -/
theorem alike_bounded_zero (rule : LoopRule) (greedy : Bool) (body : Pattern) (count : Nat) :
    numbered.AddAlike (Build.bounded greedy (Build.pattern rule body) 0 (count + 1))
      (Build.pattern rule (.repetition 0 (some 1) greedy
        (Pattern.sequence (body :: Pattern.optionalCopies greedy body count)))) := by
  intro world one other holds one' other' fragment fragment' built built'
  have lays := Build.lays_pattern rule body
  have laid := Build.lays_bounded greedy lays _ _ built
  have laid' := Build.lays_pattern rule _ built'
  have pos := holds.pos
  have sizeOne := holds.size_eq
  obtain ⟨whole, finished, middle, last, copied, early, size, copies, sizes, rfl, -, unset,
    split⟩ := Build.bounded_eq_ok lays built
  obtain ⟨shows, -, showsCopies⟩ := split (Builder.shows_self unset)
  rw [Nat.sub_zero] at copies
  rw [if_neg (by omega)] at shows
  replace showsCopies := showsCopies (by omega)
  rw [Build.exactly, Build.empty, Build.single, Build.bind_eq_ok] at early
  obtain ⟨_, entry, added, early⟩ := early
  obtain ⟨rfl, rfl⟩ := Build.pure_eq_ok.mp early
  obtain ⟨rfl, size1, state1⟩ := Build.add_eq_ok added
  have unset' := Build.nested_unset built'
  obtain ⟨grows, sizesNested, rfl, renames⟩ :=
    Build.nested_eq_ok copies (by dsimp only; omega) built'
  have enters : one'.state one.size = .goto middle.size none := by
    rw [shows _ le_rfl (by omega), if_pos rfl, state1, if_pos rfl]
    rfl
  obtain ⟨finish, finishes⟩ : ∃ finish, finish + middle.size = copied.size + other.size :=
    ⟨copied.size - middle.size + other.size, by omega⟩
  let image := rowImage one.size other.size other.size (one.size + 1) finish
  have copy {index : Nat} (above : other.size ≤ index) (below : index < finish) :
      image index + other.size = index + middle.size := by
    rw [size, size1]
    exact rowImage_copy le_rfl above below
  have exit {index : Nat} (above : finish ≤ index) : image index = one.size + 1 :=
    rowImage_exit le_rfl (by omega) above
  obtain ⟨renames, chain, -⟩ := renames showsCopies (Builder.shows_self unset')
    (fun index above below => copy above (by omega))
    (fun index above _ => (exit (by omega)).trans size1.symm)
  let numbers : Numbering :=
    ⟨one'.size, fun index => if index = one.size then middle.size else index, {one.size}⟩
  refine holds.lay_copies laid laid' unset unset' (by rw [size1]) le_rfl (by omega) (by omega)
    (by omega) (by omega) (fun index above below => renames index above (by omega))
    (fun index above below => chain index (by omega) below) numbers (if_neg (by omega))
    (fun index above below isSilent => ?_) (fun index _ _ visible => if_neg visible)
    (fun index above below isSilent => ?_) ?_
  · obtain rfl : index = one.size := isSilent
    refine ⟨middle.size, by omega, enters, ?_⟩
    exact (if_neg (by omega)).trans (if_pos rfl).symm
  · have stands : image index = one.size := isSilent
    rcases Nat.lt_or_ge index finish with inner | outer
    · have := copy above inner
      omega
    · have := exit outer
      omega
  · have := copy le_rfl (show other.size < finish by omega)
    refine (if_pos rfl).trans ?_
    omega

/-- **A counted repetition is built like what it is short for.** -/
theorem alike_expanded (rule : LoopRule) {least : Nat} {max : Option Nat} (greedy : Bool)
    (body : Pattern) (counts : Pattern.Counts least max) :
    numbered.Patterns rule (.repetition least max greedy body)
      (Pattern.expanded least max greedy body) := by
  cases max with
  | none =>
    obtain ⟨count, rfl⟩ : ∃ count, least = count + 2 := Nat.exists_eq_add_of_le' counts
    rw [Patterns, Pattern.expanded, Build.pattern_sequence, Build.pattern]
    intro world one other holds one' other' fragment fragment' built built'
    exact alike_moreThan greedy (alike_pattern _ rule body) (count + 1) world holds built
      (Build.moreThan_of_concat built')
  | some most =>
    obtain ⟨ordered, some⟩ : least ≤ most ∧ 1 ≤ most := counts
    by_cases once : least = 0 ∧ most = 1
    · -- An optional body is short for itself.
      obtain ⟨rfl, rfl⟩ := once
      exact alike_pattern _ rule _
    · rw [Patterns, Pattern.expanded, Build.pattern_sequence, Build.pattern, Build.repetition,
        if_neg once]
      split
      · next same =>
        rw [same, Nat.sub_self, Pattern.optionalCopies, List.append_nil, Build.concat_replicate]
        exact alike_exactly (alike_pattern _ rule body) most
      · next different =>
        cases least with
        | zero =>
          obtain ⟨count, rfl⟩ := Nat.exists_eq_succ_of_ne_zero (Nat.ne_of_gt some)
          rw [List.replicate_zero, List.nil_append, Nat.sub_zero, Pattern.optionalCopies,
            Build.concat_singleton]
          exact alike_bounded_zero rule greedy body count
        | succ least =>
          obtain ⟨count, more⟩ : ∃ count, most - (least + 1) = count + 1 :=
            Nat.exists_eq_succ_of_ne_zero (by omega)
          rw [more]
          exact alike_bounded_succ more

/-- **Whatever stands in the hole**: a pattern with a hole is built alike with patterns that are. -/
theorem alike_fill {World : Type} [Preorder World] {pairing : Pairing World} {rule : LoopRule}
    {one other : Pattern} (context : Pattern.Context) (same : pairing.Patterns rule one other)
    (lengths : one.minLength = other.minLength) :
    pairing.Patterns rule (context.fill one) (context.fill other) := by
  induction context with
  | hole => exact same
  | repetition min max greedy body hypothesis =>
    rw [Pattern.Context.fill, Pattern.Context.fill, Patterns, Build.pattern, Build.pattern]
    exact alike_repetition min max greedy (by rw [Pattern.minLength_fill body lengths]) hypothesis
  | group index body hypothesis =>
    rw [Pattern.Context.fill, Pattern.Context.fill, Patterns, Build.pattern, Build.pattern]
    exact alike_group index hypothesis
  | concat before part behind hypothesis =>
    exact alike_concat (List.rel_append (alike_patterns pairing rule before)
      (.cons hypothesis (alike_patterns pairing rule behind)))
  | alternation before branch behind hypothesis =>
    exact alike_alternation (List.rel_append (alike_patterns pairing rule before)
      (.cons hypothesis (alike_patterns pairing rule behind)))

end Pairing

end Crosscheck
