/-
**Every pattern is laid with its shape.**

Building a pattern lays a fragment of the pattern's shape, by induction on the pattern. The
automaton of a pattern is this fragment between the captures of group 0, with an accepting state
behind it. So an automaton whose pattern has no further group 0 is well-formed.

* `Build.lays_pattern`: patterns are laid;
* `Automaton.Layout`, `Automaton.exists_layout`: where everything stands in the automaton of a
  pattern;
* `Automaton.Layout.wellFormed`: searches have what they need.
-/
import Crosscheck.Proofs.Automaton.Choices
import Crosscheck.Proofs.Pattern.Matches

namespace Crosscheck

namespace Pattern

/-- The slots of the groups of a pattern. -/
def slots (pattern : Pattern) : Set Nat := {slot | slot / 2 ∈ pattern.groups}

end Pattern

/-- A laid fragment may be taken to store in more slots. -/
theorem Laid.mono {before after : Builder} {fragment : Fragment} {shape : Shape}
    {slots slots' : Set Nat} (laid : Laid before after fragment shape slots)
    (more : slots ⊆ slots') : Laid before after fragment shape slots' :=
  ⟨laid.grows, laid.kept, laid.first_mem, laid.last_mem, laid.shaped,
    fun shows index above below => (laid.inside shows index above below).widen more (Nat.le_refl _)
      (Nat.le_refl _) (.inr rfl)⟩

namespace Build

/-- What further branches come to between two builders. -/
structure Branched (rule : LoopRule) (branches : List Pattern) (slots : Set Nat) (choice last : Nat)
    (before after : Builder) (entries more : List Nat) : Prop where
  grows : before.size ≤ after.size
  chosen : after.state choice = .splits (entries ++ more) false
  kept : ∀ index < before.size, index ≠ choice → after.state index = before.state index
  more_mem : ∀ entry ∈ more, before.size ≤ entry ∧ entry < after.size
  shaped : ∀ {graph : Graph},
    (∀ index, before.size ≤ index → index < after.size → graph index = after.state index) →
      List.Forall₂ (fun branch entry => branch graph entry last)
        (Pattern.branchShapes rule branches)
        more
  inside : ∀ {graph : Graph},
    (∀ index, before.size ≤ index → index < after.size → graph index = after.state index) →
      ∀ index, before.size ≤ index → index < after.size →
        graph.Within slots before.size after.size last index

/-- **One more branch.** -/
theorem Branched.cons {rule : LoopRule} {branch : Pattern} {rest : List Pattern} {slots : Set Nat}
    {choice last : Nat} {b0 b1 b2 b3 b4 : Builder} {next : Fragment} {entries : List Nat}
    {done done' : Unit} (laid : Laid b0 b1 next (branch.shape rule) slots)
    (patched : patch choice next.first b1 = .ok (done, b2))
    (patched' : patch next.last last b2 = .ok (done', b3)) (choiceIn : choice < b0.size)
    (chosen : b0.state choice = .splits entries false)
    (branched : b3.state choice = .splits (entries ++ [next.first]) false →
      ∃ more, Branched rule rest slots choice last b3 b4 (entries ++ [next.first]) more) :
    ∃ more, Branched rule (branch :: rest) slots choice last b0 b4 entries more := by
  obtain ⟨grows, kept, firstIn, nextIn, shaped, inside⟩ := laid
  obtain ⟨size2, state2⟩ := patch_eq_ok patched
  obtain ⟨size3, state3⟩ := patch_eq_ok patched'
  have chosen3 : b3.state choice = .splits (entries ++ [next.first]) false := by
    rw [state3, if_neg (by omega), state2, if_pos rfl, kept _ choiceIn, chosen]
    rfl
  obtain ⟨more, growsMore, chosenMore, keptMore, moreIn, shapedMore, insideMore⟩ :=
    branched chosen3
  have part : ∀ {graph : Graph},
      (∀ index, b0.size ≤ index → index < b4.size → graph index = b4.state index) →
        b1.Shows graph b0.size next.last last := by
    intro graph same index above below
    rw [same _ above (by omega), keptMore _ (by omega) (by omega), state3, state2,
      if_neg (show ¬index = choice by omega)]
  refine ⟨next.first :: more, by omega, by rw [chosenMore, List.append_assoc]; rfl,
    fun index old different => ?_, List.forall_mem_cons.mpr ⟨by omega, fun entry member => ?_⟩,
    fun same => ?_,
    fun same index above below => ?_⟩
  · rw [keptMore _ (by omega) different, state3, if_neg (by omega), state2, if_neg different,
      kept _ old]
  · have := moreIn entry member
    omega
  · rw [Pattern.branchShapes]
    exact .cons (shaped (part same)) (shapedMore fun index above below => same _ (by omega) below)
  · rcases Nat.lt_or_ge index b1.size with early | late
    · exact (inside (part same) index above early).widen subset_rfl (Nat.le_refl _) (by omega)
        (.inr rfl)
    · exact (insideMore (fun index above below => same _ (by omega) below) index (by omega)
        below).widen subset_rfl (by omega) (Nat.le_refl _) (.inr rfl)

/-- **Two branches or more.** -/
theorem lays_alternation {rule : LoopRule} {one other : Pattern} {rest : List Pattern}
    {slots : Set Nat} (laysOne : (pattern rule one).Lays (one.shape rule) slots)
    (laysOther : (pattern rule other).Lays (other.shape rule) slots)
    (branches : ∀ {choice last : Nat} {before after : Builder} {entries : List Nat} {done : Unit},
      branchesInto rule choice last rest before = .ok (done, after) → choice < before.size →
      before.state choice = .splits entries false →
      ∃ more, Branched rule rest slots choice last before after entries more) :
    (pattern rule (.alternation (one :: other :: rest))).Lays
      (Pattern.shape rule (.alternation (one :: other :: rest))) slots := by
  intro b0 b9 fragment built
  rw [pattern] at built
  simp only [bind_eq_ok, pure_eq_ok] at built
  obtain ⟨b1, first, firstLaid, b2, second, secondLaid, b3, choice, added3, b4, last, added4, b5, _,
    patched5, b6, _, patched6, b7, _, patched7, b8, _, patched8, b9, _, more, rfl, rfl⟩ := built
  obtain ⟨grows1, kept1, firstIn1, lastIn1, shaped1, inside1⟩ := laysOne firstLaid
  obtain ⟨grows2, kept2, firstIn2, lastIn2, shaped2, inside2⟩ := laysOther secondLaid
  obtain ⟨rfl, size3, state3⟩ := add_eq_ok added3
  obtain ⟨rfl, size4, state4⟩ := add_eq_ok added4
  obtain ⟨size5, state5⟩ := patch_eq_ok patched5
  obtain ⟨size6, state6⟩ := patch_eq_ok patched6
  obtain ⟨size7, state7⟩ := patch_eq_ok patched7
  obtain ⟨size8, state8⟩ := patch_eq_ok patched8
  have state : ∀ index, b8.state index = if index = b2.size then
      .splits [first.first, second.first] false else if index = b3.size then .goto 0 none
      else if index = first.last ∨ index = second.last then (b2.state index).redirect b3.size
      else b2.state index := by
    intro index
    simp only [state8, state7, state6, state5, state4, state3]
    split_ifs <;> grind [State.redirect]
  obtain ⟨others, grows, chosen, kept, othersIn, shaped, inside⟩ :=
    branches more (by omega) (by rw [state, if_pos rfl])
  have parts : ∀ {graph : Graph} {next : Nat}, b9.Shows graph b0.size b3.size next →
      graph b2.size = .splits (first.first :: second.first :: others) false ∧
      graph b3.size = .goto next none ∧ b1.Shows graph b0.size first.last b3.size ∧
      b2.Shows graph b1.size second.last b3.size ∧
      ∀ index, b8.size ≤ index → index < b9.size → graph index = b9.state index := by
    intro graph next shows
    refine ⟨?_, ?_, shows.part (by omega) (by omega) (by omega) fun index above below => ?_,
      shows.part (by omega) (by omega) (by omega) fun index above below => ?_,
      fun index above below => ?_⟩
    · rw [shows _ (by omega) (by omega), if_neg (by omega), chosen]
      rfl
    · rw [shows _ (by omega) (by omega), if_pos rfl, kept _ (by omega) (by omega), state,
        if_neg (by omega), if_pos rfl]
      rfl
    · rw [kept _ (by omega) (by omega), state, if_neg (by omega), if_neg (by omega), kept2 _ below]
      exact if_congr (or_iff_left (by omega)) rfl rfl
    · rw [kept _ (by omega) (by omega), state, if_neg (by omega), if_neg (by omega)]
      exact if_congr (or_iff_right (by omega)) rfl rfl
    · rw [shows _ (by omega) (by omega), if_neg (by omega)]
  refine ⟨by omega, fun index old => ?_, by dsimp only; omega, by dsimp only; omega,
    fun shows => ?_, fun {graph next} shows index above below => ?_⟩
  · rw [kept _ (by omega) (by omega), state, if_neg (by omega), if_neg (by omega),
      if_neg (by omega),
      kept2 _ (by omega), kept1 _ old]
  · obtain ⟨choice, last, one, other, more⟩ := parts shows
    rw [Pattern.shape]
    exact ⟨_, ⟨_, choice, .cons (shaped1 one) (.cons (shaped2 other) (shaped more))⟩, last⟩
  · obtain ⟨choice, last, one, other, more⟩ := parts shows
    rcases (by omega : index = b2.size ∨ index = b3.size ∨ b0.size ≤ index ∧ index < b1.size ∨
      b1.size ≤ index ∧ index < b2.size ∨ b8.size ≤ index ∧ index < b9.size) with
      rfl | rfl | ⟨above', below'⟩ | ⟨above', below'⟩ | ⟨above', below'⟩
    · rw [Graph.Within, choice]
      refine ⟨by simp [State.Allowed], fun target member => .inl ?_⟩
      rcases List.mem_cons.mp member with rfl | member
      · omega
      · rcases List.mem_cons.mp member with rfl | member
        · omega
        · have := othersIn target member
          omega
    · exact .goto last (.inr rfl)
    · exact (inside1 one index above' below').widen subset_rfl (by omega) (by omega) (by omega)
    · exact (inside2 other index above' below').widen subset_rfl (by omega) (by omega) (by omega)
    · exact (inside more index above' below').widen subset_rfl (by omega) (by omega) (by omega)

mutual

/-- **Building a pattern lays a fragment of its shape.** -/
theorem lays_pattern (rule : LoopRule) : (pattern : Pattern) →
    (Build.pattern rule pattern).Lays (pattern.shape rule) pattern.slots
  | .empty => by
    rw [Build.pattern, Pattern.shape]
    exact lays_empty
  | .literal bytes => by
    rw [Build.pattern, Pattern.shape]
    exact lays_literal bytes
  | .byteClass bytes => by
    rw [Build.pattern, Pattern.shape]
    exact lays_byteClass bytes
  | .charClass chars => by
    rw [Build.pattern, Pattern.shape, charClass]
    split
    · exact lays_byteClass chars
    · exact fun _ _ _ built => nomatch built
  | .look assertion => by
    rw [Build.pattern, Pattern.shape]
    exact lays_single fun _ => by exact ⟨trivial, fun _ => List.mem_singleton.mp⟩
  | .wideLook _ => by
    rw [Build.pattern]
    exact fun _ _ _ built => nomatch built
  | .repetition min max greedy body => by
    rw [Build.pattern, Pattern.shape]
    exact lays_repetition rule min max greedy body.minLength (lays_pattern rule body)
  | .group index body => by
    rw [Build.pattern, Pattern.shape]
    intro before after fragment built
    refine (lays_group index (lays_pattern rule body) built).mono fun slot inside => ?_
    exact List.mem_cons.mpr inside
  | .concat [] => by
    rw [Build.pattern, Pattern.shape]
    exact lays_empty
  | .concat (part :: rest) => by
    rw [Build.pattern, Pattern.shape]
    intro before after fragment built
    obtain ⟨middle, whole, laid, built⟩ := bind_eq_ok.mp built
    refine lays_partsAfter rule rest ((lays_pattern rule part laid).mono fun slot inside => ?_)
      (fun slot inside => ?_) built
    · exact List.mem_append_left _ inside
    · exact List.mem_append_right _ inside
  | .alternation [] => by
    rw [Build.pattern, Pattern.shape]
    exact lays_single fun _ => by exact ⟨trivial, fun _ member => (List.not_mem_nil member).elim⟩
  | .alternation [branch] => by
    rw [Build.pattern, Pattern.shape]
    intro before after fragment built
    refine (lays_pattern rule branch built).mono fun slot inside => ?_
    exact List.mem_append_left _ inside
  | .alternation (one :: other :: rest) => by
    refine lays_alternation (fun _ _ _ built => (lays_pattern rule one built).mono ?_)
      (fun _ _ _ built => (lays_pattern rule other built).mono ?_)
      fun built choiceIn chosen => branched_branchesInto rule rest ?_ built choiceIn chosen
    · exact fun slot inside => List.mem_append_left _ inside
    · exact fun slot inside => List.mem_append_right _ (List.mem_append_left _ inside)
    · exact fun slot inside => List.mem_append_right _ (List.mem_append_right _ inside)

theorem lays_partsAfter (rule : LoopRule) : (parts : List Pattern) → {b0 b1 b2 : Builder} →
    {whole fragment : Fragment} → {shape : Shape} → {slots : Set Nat} →
    Laid b0 b1 whole shape slots → (∀ slot, slot / 2 ∈ Pattern.groupsIn parts → slot ∈ slots) →
    partsAfter rule whole parts b1 = .ok (fragment, b2) →
    Laid b0 b2 fragment (Pattern.partsShape rule shape parts) slots
  | [], _, _, _, _, _, _, _, laid, _, built => by
    rw [partsAfter] at built
    obtain ⟨rfl, rfl⟩ := pure_eq_ok.mp built
    rw [Pattern.partsShape]
    exact laid
  | part :: rest, _, _, _, _, _, _, _, laid, more, built => by
    rw [partsAfter] at built
    simp only [bind_eq_ok] at built
    obtain ⟨_, _, next, _, _, patched, built⟩ := built
    rw [Pattern.partsShape]
    refine lays_partsAfter rule rest (laid.append ((lays_pattern rule part next).mono ?_) patched)
      (fun slot inside => ?_) built
    · exact fun slot inside => more slot (List.mem_append_left _ inside)
    · exact more slot (List.mem_append_right _ inside)

theorem branched_branchesInto (rule : LoopRule) : (branches : List Pattern) → {slots : Set Nat} →
    (∀ slot, slot / 2 ∈ Pattern.groupsIn branches → slot ∈ slots) →
    {choice last : Nat} → {before after : Builder} → {entries : List Nat} → {done : Unit} →
    branchesInto rule choice last branches before = .ok (done, after) → choice < before.size →
    before.state choice = .splits entries false →
    ∃ more, Branched rule branches slots choice last before after entries more
  | [], _, _, _, _, _, _, _, _, built, _, chosen => by
    rw [branchesInto] at built
    obtain ⟨-, rfl⟩ := pure_eq_ok.mp built
    refine ⟨[], Nat.le_refl _, by rwa [List.append_nil], fun _ _ _ => rfl,
      fun _ member => (List.not_mem_nil member).elim, fun _ => ?_, fun _ index above below => ?_⟩
    · rw [Pattern.branchShapes]
      exact .nil
    · omega
  | branch :: rest, _, slotsIn, choice, _, _, _, _, _, built, choiceIn, chosen => by
    rw [branchesInto] at built
    simp only [bind_eq_ok] at built
    obtain ⟨b1, next, nextLaid, b2, _, patched, b3, _, patched', built⟩ := built
    have laid := (lays_pattern rule branch nextLaid).mono fun slot inside =>
      slotsIn slot (List.mem_append_left _ inside)
    have choiceIn' : choice < b3.size := by
      rw [(patch_eq_ok patched').1, (patch_eq_ok patched).1]
      exact Nat.lt_of_lt_of_le choiceIn laid.grows
    exact Branched.cons laid patched patched' choiceIn chosen (branched_branchesInto rule rest
      (fun slot inside => slotsIn slot (List.mem_append_right _ inside)) built choiceIn')

end

end Build

/-! ### Whole automata -/

/-- Where everything stands in the automaton of a pattern: first the capture that starts group 0,
then the fragment of the pattern, the capture that ends group 0, and the accepting state. -/
structure Automaton.Layout (automaton : Automaton) (rule : LoopRule) (pattern : Pattern)
    (inner finish : Nat) : Prop where
  /-- The accepting state is the last one. -/
  size_eq : automaton.size = finish + 2
  /-- The start is the first state. -/
  start_eq : automaton.start = 0
  /-- The start stores the start of the match. -/
  starts : automaton.state 0 = .capture inner 0
  /-- The fragment is entered behind the start. -/
  inner_mem : 1 ≤ inner ∧ inner < finish
  /-- The fragment has the shape of the pattern. -/
  shaped : pattern.shape rule automaton.state inner finish
  /-- The fragment leads to where the end of the match is stored. -/
  ends : automaton.state finish = .capture (finish + 1) 1
  /-- A match ends behind it. -/
  accepts : automaton.state (finish + 1) = .accept
  /-- The states of the fragment stay among themselves. -/
  inside : ∀ index, 1 ≤ index → index < finish →
    Graph.Within automaton.state pattern.slots 1 finish finish index
  /-- There are slots for all groups. -/
  groups_eq : automaton.groupCount = Automaton.groupsOf pattern

namespace Automaton

variable {automaton : Automaton} {rule : LoopRule} {pattern : Pattern} {inner finish : Nat}

/-- What the automaton of a pattern comes to: the fragment of the pattern between the captures of
group 0, and the accepting state. -/
theorem ofPattern_eq_ok (compiled : ofPattern rule pattern = .ok automaton) :
    ∃ started inner finished, Build.pattern rule pattern started = .ok (inner, finished) ∧
      started.size = 1 ∧ automaton.size = finished.size + 2 ∧ automaton.start = 0 ∧
      automaton.state 0 = .capture inner.first 0 ∧
      finished.Shows automaton.state 1 inner.last finished.size ∧
      automaton.state finished.size = .capture (finished.size + 1) 1 ∧
      automaton.state (finished.size + 1) = .accept ∧
      automaton.groupCount = groupsOf pattern := by
  simp only [ofPattern, bind, Except.bind] at compiled
  split at compiled
  · cases compiled
  · next result built =>
    obtain ⟨fragment, b3⟩ := result
    cases compiled
    obtain ⟨b1, whole, grouped, built⟩ := Build.bind_eq_ok.mp built
    obtain ⟨b2, accept, added, built⟩ := Build.bind_eq_ok.mp built
    obtain ⟨b3, _, patched, built⟩ := Build.bind_eq_ok.mp built
    obtain ⟨rfl, rfl⟩ := Build.pure_eq_ok.mp built
    obtain ⟨started, inner, finished, laid, size, size1, rfl, -, parts⟩ :=
      Build.group_eq_ok (Build.lays_pattern rule pattern) grouped
    obtain ⟨rfl, size2, state2⟩ := Build.add_eq_ok added
    obtain ⟨size3, state3⟩ := Build.patch_eq_ok patched
    have empty : (⟨#[], 0⟩ : Builder).size = 0 := rfl
    rw [empty] at size parts
    have shows : b1.Shows b3.state 0 finished.size b1.size := fun index _ below => by
      rw [state3, state2, if_neg (show ¬index = b1.size by omega)]
    obtain ⟨starts, ends, within⟩ := parts shows
    rw [size] at within
    refine ⟨started, inner, finished, laid, size, ?_, rfl, starts, within, ?_, ?_, rfl⟩
    · exact size3.trans (size2.trans (congrArg Nat.succ size1))
    · rw [← size1]
      exact ends
    · rw [← size1]
      change b3.state b1.size = .accept
      rw [state3, if_neg (show ¬b1.size = finished.size by omega), state2, if_pos rfl]

/-- **The automaton of a pattern has the layout of the pattern.** -/
theorem exists_layout (compiled : ofPattern rule pattern = .ok automaton) :
    ∃ inner finish, automaton.Layout rule pattern inner finish := by
  obtain ⟨started, inner, finished, built, size, size', start, starts, shows, ends, accepts,
    groups⟩ := ofPattern_eq_ok compiled
  obtain ⟨-, -, firstIn, lastIn, shaped, inside⟩ := Build.lays_pattern rule pattern built
  rw [size] at shaped inside firstIn
  refine ⟨inner.first, finished.size, size', start, starts, firstIn, shaped shows, ends, accepts,
    inside shows, groups⟩

/-- The states of an automaton in the layout of a pattern: one of the four at its ends, one of the
fragment, or none. -/
theorem Layout.cases (layout : automaton.Layout rule pattern inner finish) (index : Nat) :
    index = 0 ∨ (1 ≤ index ∧ index < finish) ∨ index = finish ∨ index = finish + 1 ∨
      automaton.state index = .fail := by
  rcases Nat.lt_or_ge index automaton.size with inside | outside
  · have := layout.size_eq
    have := layout.inner_mem
    omega
  · rw [state, Array.getD_eq_getD_getElem?, Array.getElem?_eq_none outside]
    exact .inr (.inr (.inr (.inr rfl)))

/-- Wherever a state leads, it does not lead to the start, and it leads to a state. -/
theorem Layout.target_mem (layout : automaton.Layout rule pattern inner finish)
    {index target : Nat} (leads : target ∈ (automaton.state index).targets) :
    1 ≤ target ∧ target < finish + 2 := by
  have bounds := layout.inner_mem
  rcases layout.cases index with rfl | ⟨above, below⟩ | rfl | rfl | nothing
  · rw [layout.starts] at leads
    rw [List.mem_singleton.mp leads]
    omega
  · rcases (layout.inside index above below).2 target leads with inner | rfl <;> omega
  · rw [layout.ends] at leads
    rw [List.mem_singleton.mp leads]
    omega
  · rw [layout.accepts] at leads
    exact (List.not_mem_nil leads).elim
  · rw [nothing] at leads
    exact (List.not_mem_nil leads).elim

/-- Only the state behind the fragment accepts. -/
theorem Layout.eq_of_accept (layout : automaton.Layout rule pattern inner finish) {index : Nat}
    (accepts : automaton.state index = .accept) : index = finish + 1 := by
  rcases layout.cases index with rfl | ⟨above, below⟩ | rfl | rfl | nothing
  · rw [layout.starts] at accepts
    cases accepts
  · have allowed := (layout.inside index above below).1
    rw [accepts] at allowed
    exact allowed.elim
  · rw [layout.ends] at accepts
    cases accepts
  · rfl
  · rw [nothing] at accepts
    cases accepts

/-- **The automaton of a pattern is well-formed**, unless the pattern has a group 0 of its own. -/
theorem Layout.wellFormed (layout : automaton.Layout rule pattern inner finish)
    (indices : ∀ index ∈ pattern.groups, 1 ≤ index) : automaton.WellFormed := by
  refine ⟨fun index target leads => ?_, ?_, ⟨inner, ?_⟩, fun {index target} stores => ?_,
    fun index enters => ?_, fun {index source} accepts leads => ?_, ?_⟩
  · rw [layout.size_eq]
    exact (layout.target_mem leads).2
  · rw [layout.size_eq, layout.start_eq]
    omega
  · rw [layout.start_eq, layout.starts]
  · rw [layout.start_eq]
    rcases layout.cases index with rfl | ⟨above, below⟩ | rfl | rfl | nothing
    · rfl
    · have allowed := (layout.inside index above below).1
      rw [stores] at allowed
      exact absurd (indices 0 allowed) (Nat.not_succ_le_zero 0)
    · rw [layout.ends] at stores
      cases stores
    · rw [layout.accepts] at stores
      cases stores
    · rw [nothing] at stores
      cases stores
  · rw [layout.start_eq] at enters
    exact absurd (layout.target_mem enters).1 (Nat.not_succ_le_zero 0)
  · obtain rfl := layout.eq_of_accept accepts
    have bounds := layout.inner_mem
    rcases layout.cases source with rfl | ⟨above, below⟩ | rfl | rfl | nothing
    · rw [layout.starts] at leads
      have := List.mem_singleton.mp leads
      omega
    · rcases (layout.inside source above below).2 _ leads with inside | same <;> omega
    · exact layout.ends
    · rw [layout.accepts] at leads
      exact (List.not_mem_nil leads).elim
    · rw [nothing] at leads
      exact (List.not_mem_nil leads).elim
  · rw [slotCount, layout.groups_eq, groupsOf]
    omega

end Automaton

deriving instance DecidableEq for Automaton

/-- Results can be compared when their reasons and values can. -/
instance Result.decidableEq {ε α : Type} [DecidableEq ε] [DecidableEq α] :
    DecidableEq (Except ε α)
  | .error one, .error other => decidable_of_iff (one = other) (by simp)
  | .error _, .ok _ => isFalse (by simp)
  | .ok _, .error _ => isFalse (by simp)
  | .ok one, .ok other => decidable_of_iff (one = other) (by simp)

/-- The tree of the regexp `(a|ab)*?b`. -/
def Pattern.lazyLoop : Pattern :=
  .concat [.repetition 0 none false
    (.group 1 (.alternation [.literal [0x61], .literal [0x61, 0x62]])), .literal [0x62]]

/-- Its automaton. -/
def Automaton.lazyLoop : Automaton where
  states := #[.capture 1 0, .splits [2, 9] true, .capture 6 2, .byte 7 0x61, .byte 5 0x61,
    .byte 7 0x62, .splits [3, 4] false, .goto 8 none, .capture 1 3, .byte 10 0x62, .capture 11 1,
    .accept]
  start := 0
  groupCount := 2

theorem Automaton.ofPattern_lazyLoop (rule : LoopRule) :
    ofPattern rule Pattern.lazyLoop = .ok lazyLoop := by
  cases rule <;> decide +kernel

end Crosscheck
