/-
**Choices and captures are laid.**

Repetitions and groups add choices and captures around their bodies. Each of them is laid with its
shape when its body is.

* `Build.optional_eq_ok`, `Build.bounded_eq_ok`: what bodies that may be passed over come to;
* `Build.lays_optional`, `Build.lays_bounded`: bodies that may be passed over are laid;
* `Build.lays_loop`, `Build.lays_enteredLoop`, `Build.lays_atLeastOnce`, `Build.lays_moreThan`:
  loops;
* `Build.lays_repetition`: any repetition;
* `Build.lays_group`: groups.
-/
import Crosscheck.Proofs.Automaton.Laying

namespace Crosscheck

namespace Build

variable {body : Build Fragment} {shape : Shape} {slots : Set Nat}

/-! ### Choices -/

section Choices

variable {greedy : Bool} {before after : Builder} {fragment : Fragment}

/-- What an optional body comes to: a choice that leads to the body or out, and the body leads
out. -/
theorem optional_eq_ok (lays : body.Lays shape slots)
    (built : optional greedy body before = .ok (fragment, after)) :
    ∃ started inner finished, body started = .ok (inner, finished) ∧
      started.size = before.size + 1 ∧ after.size = finished.size + 1 ∧
      fragment = ⟨before.size, finished.size⟩ ∧
      (∀ index < before.size, after.state index = before.state index) ∧
      after.state finished.size = .goto 0 none ∧
      ∀ {graph : Graph} {next : Nat}, after.Shows graph before.size finished.size next →
        Shape.Chooses graph greedy before.size inner.first finished.size ∧
        graph finished.size = .goto next none ∧
        finished.Shows graph started.size inner.last finished.size := by
  simp only [optional, bind_eq_ok, pure_eq_ok] at built
  obtain ⟨b1, choice, added, b2, inner, laid, b3, last, added', b4, _, patched, b5, _, patched', b6,
    _, patched'', rfl, rfl⟩ := built
  obtain ⟨rfl, size1, state1⟩ := add_eq_ok added
  obtain ⟨rfl, size3, state3⟩ := add_eq_ok added'
  obtain ⟨size4, state4⟩ := patch_eq_ok patched
  obtain ⟨size5, state5⟩ := patch_eq_ok patched'
  obtain ⟨size6, state6⟩ := patch_eq_ok patched''
  obtain ⟨grows, kept, firstIn, lastIn, -, -⟩ := lays laid
  have state : ∀ index, b6.state index = if index = before.size then
      .splits [inner.first, b2.size] (!greedy) else if index = b2.size then .goto 0 none
      else if index = inner.last then (b2.state index).redirect b2.size else b2.state index := by
    intro index
    simp only [state6, state5, state4, state3]
    split_ifs <;> grind [State.redirect]
  have unset : b6.state b2.size = .goto 0 none := by
    rw [state, if_neg (by omega), if_pos rfl]
  refine ⟨b1, inner, b2, laid, size1, by omega, rfl, fun index old => ?_, unset,
    fun {graph next} shows => ⟨?_, ?_,
      shows.part (by omega) (by omega) (by omega) fun index above below => ?_⟩⟩
  · rw [state, if_neg (by omega), if_neg (by omega), if_neg (by omega), kept _ (by omega), state1,
      if_neg (by omega)]
  · rw [Shape.Chooses, shows _ (by omega) (by omega), if_neg (by omega), state, if_pos rfl]
  · rw [shows _ (by omega) (by omega), if_pos rfl, unset]
    rfl
  · rw [state, if_neg (by omega), if_neg (by omega)]

/-- **A body behind a choice.** -/
theorem lays_optional (greedy : Bool) (lays : body.Lays shape slots) :
    (optional greedy body).Lays (shape.optional greedy) slots := by
  intro before after fragment built
  obtain ⟨started, inner, finished, laid, size, size', rfl, kept, -, parts⟩ :=
    optional_eq_ok lays built
  obtain ⟨grows, -, firstIn, lastIn, shaped, inside⟩ := lays laid
  refine ⟨by omega, kept, by dsimp only; omega, by dsimp only; omega,
    fun shows => ?_, fun {graph next} shows index above below => ?_⟩
  · obtain ⟨choice, last, inner⟩ := parts shows
    exact ⟨_, ⟨_, _, choice, shaped inner, rfl⟩, last⟩
  · obtain ⟨choice, last, inner⟩ := parts shows
    rcases (by omega : index = before.size ∨ index = finished.size ∨
      started.size ≤ index ∧ index < finished.size) with rfl | rfl | ⟨above', below'⟩
    · exact .choice choice (by omega) (by omega)
    · exact .goto last (.inr rfl)
    · exact (inside inner index above' below').widen subset_rfl (by omega) (by omega) (by omega)

/-- What one loop comes to: a choice that leads to the body or out, and the body leads back. -/
theorem loop_eq_ok (lays : body.Lays shape slots)
    (built : loop greedy body before = .ok (fragment, after)) :
    ∃ started inner finished, body started = .ok (inner, finished) ∧
      started.size = before.size + 1 ∧ after.size = finished.size ∧
      fragment = ⟨before.size, before.size⟩ ∧
      (∀ index < before.size, after.state index = before.state index) ∧
      ∀ {graph : Graph} {next : Nat}, after.Shows graph before.size before.size next →
        Shape.Chooses graph greedy before.size inner.first next ∧
        finished.Shows graph started.size inner.last before.size := by
  simp only [loop, bind_eq_ok, pure_eq_ok] at built
  obtain ⟨b1, choice, added, b2, inner, laid, b3, _, patched, b4, _, patched', rfl, rfl⟩ := built
  obtain ⟨rfl, size1, state1⟩ := add_eq_ok added
  obtain ⟨size3, state3⟩ := patch_eq_ok patched
  obtain ⟨size4, state4⟩ := patch_eq_ok patched'
  obtain ⟨grows, kept, firstIn, lastIn, -, -⟩ := lays laid
  have state : ∀ index, b4.state index = if index = before.size then
      .splits [inner.first] (!greedy)
      else if index = inner.last then (b2.state index).redirect before.size
      else b2.state index := by
    intro index
    simp only [state4, state3]
    split_ifs <;> grind [State.redirect]
  refine ⟨b1, inner, b2, laid, size1, by omega, rfl, fun index old => ?_,
    fun {graph next} shows => ⟨?_,
      shows.part (by omega) (by omega) (by omega) fun index above below => ?_⟩⟩
  · rw [state, if_neg (by omega), if_neg (by omega), kept _ (by omega), state1, if_neg (by omega)]
  · rw [Shape.Chooses, shows _ (by omega) (by omega), if_pos rfl, state, if_pos rfl]
    rfl
  · rw [state, if_neg (by omega)]

/-- **One loop.** -/
theorem lays_loop (greedy : Bool) (lays : body.Lays shape slots) :
    (loop greedy body).Lays (shape.loop greedy) slots := by
  intro before after fragment built
  obtain ⟨started, inner, finished, laid, size, size', rfl, kept, parts⟩ := loop_eq_ok lays built
  obtain ⟨grows, -, firstIn, lastIn, shaped, inside⟩ := lays laid
  refine ⟨by omega, kept, by dsimp only; omega, by dsimp only; omega,
    fun shows => ?_, fun {graph next} shows index above below => ?_⟩
  · obtain ⟨choice, inner⟩ := parts shows
    exact ⟨_, choice, shaped inner⟩
  · obtain ⟨choice, inner⟩ := parts shows
    rcases (by omega : index = before.size ∨ started.size ≤ index ∧ index < finished.size) with
      rfl | ⟨above', below'⟩
    · exact .choice choice (by omega) (.inr rfl)
    · exact (inside inner index above' below').widen subset_rfl (by omega) (by omega) (by omega)

/-- What a loop with at least one iteration comes to: the body leads to a choice, which leads back
or out. -/
theorem atLeastOnce_eq_ok (lays : body.Lays shape slots)
    (built : atLeastOnce greedy body before = .ok (fragment, after)) :
    ∃ inner finished, body before = .ok (inner, finished) ∧ after.size = finished.size + 1 ∧
      fragment = ⟨inner.first, finished.size⟩ ∧
      (∀ index < before.size, after.state index = before.state index) ∧
      ∀ {graph : Graph} {next : Nat}, after.Shows graph before.size finished.size next →
        Shape.Chooses graph greedy finished.size inner.first next ∧
        finished.Shows graph before.size inner.last finished.size := by
  simp only [atLeastOnce, bind_eq_ok, pure_eq_ok] at built
  obtain ⟨b1, inner, laid, b2, choice, added, b3, _, patched, b4, _, patched', rfl, rfl⟩ := built
  obtain ⟨rfl, size2, state2⟩ := add_eq_ok added
  obtain ⟨size3, state3⟩ := patch_eq_ok patched
  obtain ⟨size4, state4⟩ := patch_eq_ok patched'
  obtain ⟨grows, kept, firstIn, lastIn, -, -⟩ := lays laid
  have state : ∀ index, b4.state index = if index = b1.size then
      .splits [inner.first] (!greedy)
      else if index = inner.last then (b1.state index).redirect b1.size else b1.state index := by
    intro index
    simp only [state4, state3, state2]
    split_ifs <;> grind [State.redirect]
  refine ⟨inner, b1, laid, by omega, rfl, fun index old => ?_, fun {graph next} shows => ⟨?_,
    shows.part (by omega) (by omega) (by omega) fun index above below => ?_⟩⟩
  · rw [state, if_neg (by omega), if_neg (by omega), kept _ old]
  · rw [Shape.Chooses, shows _ (by omega) (by omega), if_pos rfl, state, if_pos rfl]
    rfl
  · rw [state, if_neg (by omega)]

/-- **A loop with at least one iteration.** -/
theorem lays_atLeastOnce (greedy : Bool) (lays : body.Lays shape slots) :
    (atLeastOnce greedy body).Lays (shape.atLeastOnce greedy) slots := by
  intro before after fragment built
  obtain ⟨inner, finished, laid, size, rfl, kept, parts⟩ := atLeastOnce_eq_ok lays built
  obtain ⟨grows, -, firstIn, lastIn, shaped, inside⟩ := lays laid
  refine ⟨by omega, kept, by dsimp only; omega, by dsimp only; omega,
    fun shows => ?_, fun {graph next} shows index above below => ?_⟩
  · obtain ⟨choice, inner⟩ := parts shows
    exact ⟨_, shaped inner, choice⟩
  · obtain ⟨choice, inner⟩ := parts shows
    rcases (by omega : index = finished.size ∨ before.size ≤ index ∧ index < finished.size) with
      rfl | ⟨above', below'⟩
    · exact .choice choice (by omega) (.inr rfl)
    · exact (inside inner index above' below').widen subset_rfl (by omega) (by omega) (by omega)

/-- What a loop with an entry of its own comes to: a loop with at least one iteration, and a choice
behind it that leads to the loop or out. -/
theorem enteredLoop_eq_ok (lays : body.Lays shape slots)
    (built : enteredLoop greedy body before = .ok (fragment, after)) :
    ∃ inner finished, body before = .ok (inner, finished) ∧ after.size = finished.size + 3 ∧
      fragment = ⟨finished.size + 1, finished.size + 2⟩ ∧
      (∀ index < before.size, after.state index = before.state index) ∧
      ∀ {graph : Graph} {next : Nat}, after.Shows graph before.size (finished.size + 2) next →
        Shape.Chooses graph greedy (finished.size + 1) inner.first (finished.size + 2) ∧
        graph (finished.size + 2) = .goto next none ∧
        Shape.Chooses graph greedy finished.size inner.first (finished.size + 2) ∧
        finished.Shows graph before.size inner.last finished.size := by
  simp only [enteredLoop, bind_eq_ok, pure_eq_ok] at built
  obtain ⟨b1, inner, laid, b2, again, added, b3, _, patched3, b4, _, patched4, b5, entry, added5,
    b6, last, added6, b7, _, patched7, b8, _, patched8, b9, _, patched9, rfl, rfl⟩ := built
  -- Its first steps are those of a loop with at least one iteration.
  have once : atLeastOnce greedy body before = .ok (⟨inner.first, again⟩, b4) := by
    simp only [atLeastOnce, bind_eq_ok, pure_eq_ok]
    exact ⟨b1, inner, laid, b2, again, added, b3, _, patched3, b4, _, patched4, rfl, rfl⟩
  obtain ⟨inner', finished, laid', size4, same, kept, parts⟩ := atLeastOnce_eq_ok lays once
  obtain ⟨rfl, rfl⟩ := Prod.mk.inj (Except.ok.inj (laid.symm.trans laid'))
  obtain rfl : again = b1.size := congrArg Fragment.last same
  obtain ⟨rfl, size5, state5⟩ := add_eq_ok added5
  obtain ⟨rfl, size6, state6⟩ := add_eq_ok added6
  obtain ⟨size7, state7⟩ := patch_eq_ok patched7
  obtain ⟨size8, state8⟩ := patch_eq_ok patched8
  obtain ⟨size9, state9⟩ := patch_eq_ok patched9
  obtain ⟨grows, -, -, -, -, -⟩ := lays laid
  have state : ∀ index, b9.state index = if index = b1.size + 1 then
      .splits [inner.first, b1.size + 2] (!greedy) else if index = b1.size + 2 then .goto 0 none
      else if index = b1.size then (b4.state index).redirect (b1.size + 2)
      else b4.state index := by
    intro index
    simp only [state9, state8, state7, state6, state5, size5, size4]
    split_ifs <;> grind [State.redirect]
  refine ⟨inner, b1, laid, by omega, ?_, fun index old => ?_, fun {graph next} shows => ?_⟩
  · rw [size5, size4]
  · rw [state, if_neg (by omega), if_neg (by omega), if_neg (by omega), kept _ old]
  · have loop : b4.Shows graph before.size b1.size (b1.size + 2) :=
      shows.part (by omega) (by omega) (by omega) fun index above below => by
        rw [state, if_neg (by omega), if_neg (by omega)]
    obtain ⟨choice, body⟩ := parts loop
    refine ⟨?_, ?_, choice, body⟩
    · rw [Shape.Chooses, shows _ (by omega) (by omega), if_neg (by omega), state, if_pos rfl]
    · rw [shows _ (by omega) (by omega), if_pos rfl, state, if_neg (by omega), if_pos rfl]
      rfl

/-- **A loop behind a choice of its own.** -/
theorem lays_enteredLoop (greedy : Bool) (lays : body.Lays shape slots) :
    (enteredLoop greedy body).Lays (shape.enteredLoop greedy) slots := by
  intro before after fragment built
  obtain ⟨inner, finished, laid, size, rfl, kept, parts⟩ := enteredLoop_eq_ok lays built
  obtain ⟨grows, -, firstIn, lastIn, shaped, inside⟩ := lays laid
  refine ⟨by omega, kept, by dsimp only; omega, by dsimp only; omega,
    fun shows => ?_, fun {graph next} shows index above below => ?_⟩
  · obtain ⟨entry, last, again, inner⟩ := parts shows
    exact ⟨_, ⟨_, _, entry, ⟨_, shaped inner, again⟩, rfl⟩, last⟩
  · obtain ⟨entry, last, again, inner⟩ := parts shows
    rcases (by omega : index = finished.size + 1 ∨ index = finished.size + 2 ∨
      index = finished.size ∨ before.size ≤ index ∧ index < finished.size) with
      rfl | rfl | rfl | ⟨above', below'⟩
    · exact .choice entry (by omega) (by omega)
    · exact .goto last (.inr rfl)
    · exact .choice again (by omega) (by omega)
    · exact (inside inner index above' below').widen subset_rfl (by omega) (by omega) (by omega)

end Choices

/-- **Copies of a body and then a loop with at least one iteration.** -/
theorem lays_moreThan (greedy : Bool) (lays : body.Lays shape slots) (count : Nat) :
    (moreThan greedy body count).Lays
      ((shape.exactly count).followedBy (shape.atLeastOnce greedy)) slots := by
  intro b0 b6 fragment built
  simp only [moreThan, bind_eq_ok, pure_eq_ok] at built
  obtain ⟨b1, whole, wholeLaid, b2, inner, innerLaid, b3, choice, added, b4, _, patched4, b5, _,
    patched5, b6, _, patched6, rfl, rfl⟩ := built
  obtain ⟨grows1, kept1, firstIn1, lastIn1, shaped1, inside1⟩ := lays_exactly lays count wholeLaid
  obtain ⟨grows2, kept2, firstIn2, lastIn2, shaped2, inside2⟩ := lays innerLaid
  obtain ⟨rfl, size3, state3⟩ := add_eq_ok added
  obtain ⟨size4, state4⟩ := patch_eq_ok patched4
  obtain ⟨size5, state5⟩ := patch_eq_ok patched5
  obtain ⟨size6, state6⟩ := patch_eq_ok patched6
  have state : ∀ index, b6.state index = if index = b2.size then
      .splits [inner.first] (!greedy)
      else if index = inner.last then (b2.state index).redirect b2.size
      else if index = whole.last then (b2.state index).redirect inner.first
      else b2.state index := by
    intro index
    simp only [state6, state5, state4, state3]
    split_ifs <;> grind [State.redirect]
  have parts : ∀ {graph : Graph} {next : Nat}, b6.Shows graph b0.size b2.size next →
      Shape.Chooses graph greedy b2.size inner.first next ∧
      b1.Shows graph b0.size whole.last inner.first ∧
      b2.Shows graph b1.size inner.last b2.size := by
    intro graph next shows
    refine ⟨?_, shows.part (by omega) (by omega) (by omega) fun index above below => ?_,
      shows.part (by omega) (by omega) (by omega) fun index above below => ?_⟩
    · rw [Shape.Chooses, shows _ (by omega) (by omega), if_pos rfl, state, if_pos rfl]
      rfl
    · rw [state, if_neg (by omega), if_neg (by omega), kept2 _ below]
    · rw [state, if_neg (by omega), if_neg (c := index = whole.last) (by omega)]
  refine ⟨by omega, fun index old => ?_, by dsimp only; omega, by dsimp only; omega,
    fun shows => ?_, fun {graph next} shows index above below => ?_⟩
  · rw [state, if_neg (by omega), if_neg (by omega), if_neg (by omega), kept2 _ (by omega),
      kept1 _ old]
  · obtain ⟨choice, whole, inner⟩ := parts shows
    exact ⟨_, shaped1 whole, _, shaped2 inner, choice⟩
  · obtain ⟨choice, whole, inner⟩ := parts shows
    rcases (by omega : index = b2.size ∨ b0.size ≤ index ∧ index < b1.size ∨
      b1.size ≤ index ∧ index < b2.size) with rfl | ⟨above', below'⟩ | ⟨above', below'⟩
    · exact .choice choice (by omega) (.inr rfl)
    · exact (inside1 whole index above' below').widen subset_rfl (by omega) (by omega) (by omega)
    · exact (inside2 inner index above' below').widen subset_rfl (by omega) (by omega) (by omega)

/-- What one optional copy comes to between two builders: the state behind which it was put leads to
a choice, which is the first new state, and the choice leads to the copy or to the exit. -/
structure Copied (shape : Shape) (slots : Set Nat) (greedy : Bool) (exit : Nat)
    (before after : Builder) (last : Nat) (inner : Fragment) : Prop where
  grows : before.size < after.size
  redirected : after.state last = (before.state last).redirect before.size
  kept : ∀ index < before.size, index ≠ last → after.state index = before.state index
  chosen : after.state before.size = .splits [inner.first, exit] (!greedy)
  first_mem : before.size < inner.first ∧ inner.first < after.size
  last_mem : before.size < inner.last ∧ inner.last < after.size
  shaped : ∀ {graph : Graph} {next : Nat},
    after.Shows graph (before.size + 1) inner.last next → shape graph inner.first next
  inside : ∀ {graph : Graph} {next : Nat},
    after.Shows graph (before.size + 1) inner.last next →
      ∀ index, before.size < index → index < after.size →
        graph.Within slots (before.size + 1) after.size next index

/-- One optional copy is put behind a state. -/
theorem copied_of_steps {greedy : Bool} {exit last choice : Nat} {b0 b1 b2 b3 b4 b5 : Builder}
    {inner : Fragment} {done done' done'' : Unit} (lays : body.Lays shape slots)
    (added : addSplits greedy b0 = .ok (choice, b1)) (built : body b1 = .ok (inner, b2))
    (patched : patch last choice b2 = .ok (done, b3))
    (patched' : patch choice inner.first b3 = .ok (done', b4))
    (patched'' : patch choice exit b4 = .ok (done'', b5)) (lastIn : last < b0.size) :
    Copied shape slots greedy exit b0 b5 last inner := by
  obtain ⟨rfl, size1, state1⟩ := add_eq_ok added
  obtain ⟨size3, state3⟩ := patch_eq_ok patched
  obtain ⟨size4, state4⟩ := patch_eq_ok patched'
  obtain ⟨size5, state5⟩ := patch_eq_ok patched''
  obtain ⟨grows, kept, firstIn, lastIn', shaped, inside⟩ := lays built
  have state : ∀ index, b5.state index = if index = b0.size then
      .splits [inner.first, exit] (!greedy)
      else if index = last then (b2.state index).redirect b0.size else b2.state index := by
    intro index
    simp only [state5, state4, state3]
    split_ifs <;> grind [State.redirect]
  have part : ∀ {graph : Graph} {next : Nat}, b5.Shows graph (b0.size + 1) inner.last next →
      b2.Shows graph b1.size inner.last next := by
    intro graph next shows index above below
    have same : b5.state index = b2.state index := by
      rw [state, if_neg (by omega), if_neg (by omega)]
    rw [shows _ (by omega) (by omega), same]
  refine ⟨by omega, ?_, fun index old different => ?_, by rw [state, if_pos rfl], by omega,
    by omega, fun shows => shaped (part shows), fun shows index above below => ?_⟩
  · rw [state, if_neg (by omega), if_pos rfl, kept _ (by omega), state1, if_neg (by omega)]
  · rw [state, if_neg (by omega), if_neg different, kept _ (by omega), state1, if_neg (by omega)]
  · have within := inside (part shows) index (by omega) (by omega)
    rwa [size1, ← size3, ← size4, ← size5] at within

/-- What optional copies come to between two builders: the state behind which they were put leads to
the first of them, and each of them leads to the next one or to the exit. -/
structure Chained (shape : Shape) (slots : Set Nat) (greedy : Bool) (exit count : Nat)
    (before after : Builder) (last last' : Nat) : Prop where
  grows : before.size < after.size
  redirected : after.state last = (before.state last).redirect before.size
  kept : ∀ index < before.size, index ≠ last → after.state index = before.state index
  last_mem : before.size ≤ last' ∧ last' < after.size
  shaped : ∀ {graph : Graph}, after.Shows graph before.size last' exit →
    shape.optionalCopies greedy count graph before.size exit
  inside : ∀ {graph : Graph}, after.Shows graph before.size last' exit →
    ∀ index, before.size ≤ index → index < after.size →
      graph.Within slots before.size after.size exit index

section Copies

variable {greedy : Bool} {exit count last last' : Nat} {before middle after : Builder}
  {inner : Fragment} {graph : Graph}

/-- The choice of a copy in a graph that has the state. -/
theorem Copied.chooses (copied : Copied shape slots greedy exit before middle last inner)
    (same : graph before.size = middle.state before.size) :
    Shape.Chooses graph greedy before.size inner.first exit := by
  rw [Shape.Chooses, same, copied.chosen]

/-- One copy is a chain. -/
theorem Copied.alone (copied : Copied shape slots greedy exit before after last inner) :
    Chained shape slots greedy exit 1 before after last inner.last := by
  obtain ⟨firstIn, lastIn⟩ := And.intro copied.first_mem copied.last_mem
  have parts : ∀ {graph : Graph}, after.Shows graph before.size inner.last exit →
      Shape.Chooses graph greedy before.size inner.first exit ∧
      after.Shows graph (before.size + 1) inner.last exit := by
    intro graph shows
    refine ⟨copied.chooses ?_, fun index above below => shows index (by omega) below⟩
    rw [shows _ (by omega) copied.grows, if_neg (by omega)]
  refine ⟨copied.grows, copied.redirected, copied.kept, by omega, fun shows => ?_,
    fun shows index above below => ?_⟩
  · obtain ⟨chooses, inner⟩ := parts shows
    exact ⟨_, _, chooses, copied.shaped inner, rfl⟩
  · obtain ⟨chooses, inner⟩ := parts shows
    rcases above.eq_or_lt with rfl | behind
    · exact .choice chooses (by omega) (.inr rfl)
    · exact (copied.inside inner index behind below).widen subset_rfl (by omega) (by omega)
        (.inr rfl)

/-- A copy before a chain is a chain. -/
theorem Copied.chain (copied : Copied shape slots greedy exit before middle last inner)
    (chained : Chained shape slots greedy exit count middle after inner.last last')
    (lastIn : last < before.size) :
    Chained shape slots greedy exit (count + 1) before after last last' := by
  obtain ⟨firstIn, innerIn⟩ := And.intro copied.first_mem copied.last_mem
  obtain ⟨growsMore, redirectedMore, keptMore, lastMem, shapedMore, insideMore⟩ := chained
  have parts : ∀ {graph : Graph}, after.Shows graph before.size last' exit →
      Shape.Chooses graph greedy before.size inner.first exit ∧
      middle.Shows graph (before.size + 1) inner.last middle.size ∧
      after.Shows graph middle.size last' exit := by
    intro graph shows
    refine ⟨copied.chooses ?_, shows.part (by omega) (by omega) (by omega)
      fun index above below => ?_, fun index above below => shows index (by omega) below⟩
    · rw [shows _ (by omega) (by omega), if_neg (by omega), keptMore _ copied.grows (by omega)]
    · split
      · next here => rw [here, redirectedMore]
      · next elsewhere => rw [keptMore _ below elsewhere]
  refine ⟨by omega, ?_, fun index old different => ?_, by omega, fun shows => ?_,
    fun shows index above below => ?_⟩
  · rw [keptMore _ (by omega) (by omega), copied.redirected]
  · rw [keptMore _ (by omega) (by omega), copied.kept _ old different]
  · obtain ⟨chooses, inner, others⟩ := parts shows
    exact ⟨_, _, chooses, copied.shaped inner, shapedMore others⟩
  · obtain ⟨chooses, inner, others⟩ := parts shows
    rcases above.eq_or_lt with rfl | behind
    · exact .choice chooses (by omega) (.inr rfl)
    · rcases Nat.lt_or_ge index middle.size with early | late
      · exact (copied.inside inner index behind early).widen subset_rfl (by omega) (by omega)
          (by omega)
      · exact (insideMore others index late below).widen subset_rfl (by omega) (by omega)
          (.inr rfl)

end Copies

/-- **Copies of a body that may be passed over.** -/
theorem chained_optionalCopies (greedy : Bool) (lays : body.Lays shape slots) {exit : Nat}
    (count : Nat) {before after : Builder} {last last' : Nat}
    (built : optionalCopies greedy body exit last count before = .ok (last', after))
    (lastIn : last < before.size) :
    count = 0 ∧ last' = last ∧ after = before ∨
      Chained shape slots greedy exit count before after last last' := by
  induction count generalizing before last with
  | zero =>
    obtain ⟨rfl, rfl⟩ := pure_eq_ok.mp built
    exact .inl ⟨rfl, rfl, rfl⟩
  | succ count hypothesis =>
    simp only [optionalCopies, bind_eq_ok] at built
    obtain ⟨b1, choice, added, b2, inner, laid, b3, _, patched3, b4, _, patched4, b5, _, patched5,
      built⟩ := built
    have copied := copied_of_steps lays added laid patched3 patched4 patched5 lastIn
    rcases hypothesis built copied.last_mem.2 with ⟨rfl, rfl, rfl⟩ | chained
    · exact .inr copied.alone
    · exact .inr (copied.chain chained lastIn)

/-- Only copies take states. -/
theorem ne_zero_of_optionalCopies {greedy : Bool} {exit last last' count : Nat}
    {before after : Builder}
    (built : optionalCopies greedy body exit last count before = .ok (last', after))
    (grows : before.size < after.size) : count ≠ 0 := by
  rintro rfl
  obtain ⟨-, rfl⟩ := pure_eq_ok.mp built
  exact absurd grows (Nat.lt_irrefl _)

/-- What a bounded repetition comes to: copies, the exit, and the optional copies behind it, which
all lead to it. Without any the copies before it lead to the exit themselves. -/
theorem bounded_eq_ok {greedy : Bool} {min max : Nat} {before after : Builder}
    {fragment : Fragment} (lays : body.Lays shape slots)
    (built : bounded greedy body min max before = .ok (fragment, after)) :
    ∃ whole finished middle last copied, exactly body min before = .ok (whole, finished) ∧
      middle.size = finished.size + 1 ∧
      optionalCopies greedy body finished.size whole.last (max - min) middle = .ok (last, copied) ∧
      after.size = copied.size ∧ fragment = ⟨whole.first, finished.size⟩ ∧
      (∀ index < before.size, after.state index = before.state index) ∧
      after.state finished.size = .goto 0 none ∧
      ∀ {graph : Graph} {next : Nat}, after.Shows graph before.size finished.size next →
        finished.Shows graph before.size whole.last
          (if max - min = 0 then finished.size else middle.size) ∧
        graph finished.size = .goto next none ∧
        (max - min ≠ 0 → copied.Shows graph middle.size last finished.size) := by
  simp only [bounded, bind_eq_ok, pure_eq_ok] at built
  obtain ⟨b1, whole, laid, b2, exit, added, b3, last, copies, b4, _, patched, rfl, rfl⟩ := built
  obtain ⟨grows, kept, firstIn, lastIn, -, -⟩ := lays_exactly lays min laid
  obtain ⟨rfl, size2, state2⟩ := add_eq_ok added
  obtain ⟨size4, state4⟩ := patch_eq_ok patched
  have old {index : Nat} (below : index < b1.size) : b2.state index = b1.state index := by
    rw [state2, if_neg (by omega)]
  rcases chained_optionalCopies greedy lays (max - min) copies (by omega) with
    ⟨nothing, rfl, rfl⟩ | ⟨more, redirected, keptMore, lastMem, -, -⟩
  · have unset : b4.state b1.size = .goto 0 none := by
      rw [state4, if_neg (by omega), state2, if_pos rfl]
    refine ⟨whole, b1, b3, _, b3, laid, size2, copies, size4, rfl, fun index below => ?_, unset,
      fun shows => ⟨shows.part (by omega) (by omega) (by omega) fun index above below => ?_, ?_,
        fun more => absurd nothing more⟩⟩
    · rw [state4, if_neg (by omega), old (by omega), kept _ below]
    · rw [state4, old below, if_pos nothing]
    · rw [shows _ (by omega) (by omega), if_pos rfl, unset]
      rfl
  · have several := ne_zero_of_optionalCopies copies (by omega)
    have unset : b4.state b1.size = .goto 0 none := by
      rw [state4, if_neg (by omega), keptMore _ (by omega) (by omega), state2, if_pos rfl]
    refine ⟨whole, b1, b2, last, b3, laid, size2, copies, size4, rfl, fun index below => ?_, unset,
      fun shows => ⟨shows.part (by omega) (by omega) (by omega) fun index above below => ?_, ?_,
        fun _ => shows.part (by omega) (by omega) (by omega) fun index above below =>
          state4 index⟩⟩
    · rw [state4, if_neg (by omega), keptMore _ (by omega) (by omega), old (by omega), kept _ below]
    · rw [state4, if_neg (by omega), if_neg several]
      split
      · next here => rw [here, redirected, old (by omega)]
      · next elsewhere => rw [keptMore _ (by omega) elsewhere, old below]
    · rw [shows _ (by omega) (by omega), if_pos rfl, unset]
      rfl

/-- **A bounded repetition.** -/
theorem lays_bounded (greedy : Bool) (lays : body.Lays shape slots) (min max : Nat) :
    (bounded greedy body min max).Lays (shape.bounded greedy min max) slots := by
  intro before after fragment built
  obtain ⟨whole, finished, middle, last, copied, laid, size, copies, sizes, rfl, kept, -, parts⟩ :=
    bounded_eq_ok lays built
  obtain ⟨grows, -, firstIn, lastIn, shaped, inside⟩ := lays_exactly lays min laid
  -- The copies are entered at `entry`, which is the exit when there are none.
  obtain ⟨entry, growsMore, entryIn, split⟩ : ∃ entry, middle.size ≤ copied.size ∧
      (before.size ≤ entry ∧ entry < copied.size) ∧
      ∀ {graph : Graph} {next : Nat}, after.Shows graph before.size finished.size next →
        finished.Shows graph before.size whole.last entry ∧
        shape.optionalCopies greedy (max - min) graph entry finished.size ∧
        ∀ index, middle.size ≤ index → index < copied.size →
          graph.Within slots middle.size copied.size finished.size index := by
    rcases chained_optionalCopies greedy lays (max - min) copies (by omega) with
      ⟨nothing, rfl, rfl⟩ | ⟨growsMore, -, -, lastMem, shapedMore, insideMore⟩
    · refine ⟨finished.size, le_rfl, by omega, fun shows => ⟨?_, ?_, fun index above below => ?_⟩⟩
      · simpa only [if_pos nothing] using (parts shows).1
      · rw [nothing]
        rfl
      · omega
    · have several := ne_zero_of_optionalCopies copies (by omega)
      refine ⟨middle.size, by omega, by omega, fun shows => ?_⟩
      obtain ⟨early, -, late⟩ := parts shows
      rw [if_neg several] at early
      exact ⟨early, shapedMore (late several), insideMore (late several)⟩
  refine ⟨by omega, kept, by dsimp only; omega, by dsimp only; omega,
    fun shows => ?_, fun {graph next} shows index above below => ?_⟩
  · obtain ⟨early, late, -⟩ := split shows
    exact ⟨_, ⟨_, shaped early, late⟩, (parts shows).2.1⟩
  · obtain ⟨early, -, late⟩ := split shows
    rcases (by omega : index = finished.size ∨ before.size ≤ index ∧ index < finished.size ∨
      middle.size ≤ index ∧ index < copied.size) with rfl | ⟨above', below'⟩ | ⟨above', below'⟩
    · exact .goto (parts shows).2.1 (.inr rfl)
    · exact (inside early index above' below').widen subset_rfl (by omega) (by omega) (by omega)
    · exact (late index above' below').widen subset_rfl (by omega) (by omega) (by omega)

/-- **Any repetition.** -/
theorem lays_repetition (rule : LoopRule) (min : Nat) (max : Option Nat) (greedy : Bool)
    (minLength : Option Nat) (lays : body.Lays shape slots) :
    (repetition rule min max greedy minLength body).Lays
      (shape.repetition greedy rule minLength min max) slots := by
  cases max with
  | none =>
    rw [repetition, Shape.repetition]
    rcases min with _ | _ | count
    · rw [atLeast, Shape.atLeast]
      split
      · exact lays_enteredLoop greedy lays
      · exact lays_loop greedy lays
    · exact lays_atLeastOnce greedy lays
    · exact lays_moreThan greedy lays (count + 1)
  | some max =>
    rw [repetition, Shape.repetition]
    split
    · exact lays_optional greedy lays
    · split
      · exact lays_exactly lays min
      · exact lays_bounded greedy lays min max

/-! ### Groups -/

/-- What a group comes to: two captures with the body between them. -/
theorem group_eq_ok {index : Nat} {before after : Builder} {fragment : Fragment}
    (lays : body.Lays shape slots) (built : group index body before = .ok (fragment, after)) :
    ∃ started inner finished, body started = .ok (inner, finished) ∧
      started.size = before.size + 1 ∧ after.size = finished.size + 1 ∧
      fragment = ⟨before.size, finished.size⟩ ∧
      (∀ place < before.size, after.state place = before.state place) ∧
      ∀ {graph : Graph} {next : Nat}, after.Shows graph before.size finished.size next →
        graph before.size = .capture inner.first (index * 2) ∧
        graph finished.size = .capture next (index * 2 + 1) ∧
        finished.Shows graph started.size inner.last finished.size := by
  simp only [group, bind_eq_ok, pure_eq_ok] at built
  obtain ⟨b1, first, added, b2, inner, laid, b3, last, added', b4, _, patched, b5, _, patched', rfl,
    rfl⟩ := built
  obtain ⟨rfl, size1, state1⟩ := add_eq_ok added
  obtain ⟨rfl, size3, state3⟩ := add_eq_ok added'
  obtain ⟨size4, state4⟩ := patch_eq_ok patched
  obtain ⟨size5, state5⟩ := patch_eq_ok patched'
  obtain ⟨grows, kept, firstIn, lastIn, -, -⟩ := lays laid
  have state : ∀ place, b5.state place = if place = before.size then
      .capture inner.first (index * 2)
      else if place = b2.size then .capture 0 (index * 2 + 1)
      else if place = inner.last then (b2.state place).redirect b2.size else b2.state place := by
    intro place
    simp only [state5, state4, state3]
    split_ifs <;> grind [State.redirect]
  refine ⟨b1, inner, b2, laid, size1, by omega, rfl, fun place old => ?_,
    fun {graph next} shows => ⟨?_, ?_,
      shows.part (by omega) (by omega) (by omega) fun place above below => ?_⟩⟩
  · rw [state, if_neg (by omega), if_neg (by omega), if_neg (by omega), kept _ (by omega), state1,
      if_neg (by omega)]
  · rw [shows _ (by omega) (by omega), if_neg (by omega), state, if_pos rfl]
  · rw [shows _ (by omega) (by omega), if_pos rfl, state, if_neg (by omega), if_pos rfl]
    rfl
  · rw [state, if_neg (by omega), if_neg (by omega)]

/-- **A body between two captures.** -/
theorem lays_group (index : Nat) (lays : body.Lays shape slots) :
    (group index body).Lays (shape.group index) {slot | slot / 2 = index ∨ slot ∈ slots} := by
  intro before after fragment built
  obtain ⟨started, inner, finished, laid, size, size', rfl, kept, parts⟩ := group_eq_ok lays built
  obtain ⟨grows, -, firstIn, lastIn, shaped, inside⟩ := lays laid
  refine ⟨by omega, kept, by dsimp only; omega, by dsimp only; omega,
    fun shows => ?_, fun {graph next} shows place above below => ?_⟩
  · obtain ⟨first, last, within⟩ := parts shows
    exact ⟨_, _, first, shaped within, last⟩
  · obtain ⟨first, last, within⟩ := parts shows
    rcases (by omega : place = before.size ∨ place = finished.size ∨
      started.size ≤ place ∧ place < finished.size) with rfl | rfl | ⟨above', below'⟩
    · exact .capture first (.inl (by omega)) (by omega)
    · exact .capture last (.inl (by omega)) (.inr rfl)
    · exact (inside within place above' below').widen (fun _ => .inr) (by omega) (by omega)
        (by omega)

end Build

end Crosscheck
