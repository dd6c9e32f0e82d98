/-
**Any number of copies is at least one copy, or none.**

A repetition without a least number is built as one loop, or as a loop that is entered through a
choice of its own. The latter has the states of an optional loop with at least one iteration, in
another order. The former has one choice where that has two, which makes a difference only if an
iteration can be empty: then the second choice is come to where the first one was.

* `Automaton.OptionalLoop`, `Automaton.EnteredLoop`, `Automaton.SingleLoop`: the three automata;
* `Automaton.OptionalLoop.folds_enteredLoop`, `Automaton.OptionalLoop.folds_singleLoop`: how the
  first one is folded onto the others;
* `search_anyNumber_eq`: searches report the same with all of them.
-/
import Crosscheck.Proofs.Pattern.Emptiness
import Crosscheck.Proofs.Search.Folding

namespace Crosscheck

open Thread (followers)

/-! ### The automata -/

namespace Automaton

/-- The automaton of an optional loop with at least one iteration: an entry that leads to the body
or out, the body, a choice that leads back or out, and where both lead out. -/
structure OptionalLoop (automaton : Automaton) (greedy : Bool) (inner : Fragment)
    (finished : Builder) : Prop where
  size_eq : automaton.size = finished.size + 4
  start_eq : automaton.start = 0
  starts : automaton.state 0 = .capture 1 0
  enters : Shape.Chooses automaton.state greedy 1 inner.first (finished.size + 1)
  body : finished.Shows automaton.state 2 inner.last finished.size
  repeats : Shape.Chooses automaton.state greedy finished.size inner.first (finished.size + 1)
  leaves : automaton.state (finished.size + 1) = .goto (finished.size + 2) none
  ends : automaton.state (finished.size + 2) = .capture (finished.size + 3) 1
  accepts : automaton.state (finished.size + 3) = .accept

/-- The automaton of a loop with an entry of its own: the body, a choice that leads back or out, the
entry, and where both lead out. -/
structure EnteredLoop (automaton : Automaton) (greedy : Bool) (inner : Fragment)
    (finished : Builder) : Prop where
  size_eq : automaton.size = finished.size + 5
  start_eq : automaton.start = 0
  starts : automaton.state 0 = .capture (finished.size + 1) 0
  body : finished.Shows automaton.state 1 inner.last finished.size
  repeats : Shape.Chooses automaton.state greedy finished.size inner.first (finished.size + 2)
  enters : Shape.Chooses automaton.state greedy (finished.size + 1) inner.first (finished.size + 2)
  leaves : automaton.state (finished.size + 2) = .goto (finished.size + 3) none
  ends : automaton.state (finished.size + 3) = .capture (finished.size + 4) 1
  accepts : automaton.state (finished.size + 4) = .accept

/-- The automaton of one loop: a choice that leads to the body or out, and the body, which leads
back. -/
structure SingleLoop (automaton : Automaton) (greedy : Bool) (inner : Fragment)
    (finished : Builder) : Prop where
  size_eq : automaton.size = finished.size + 2
  start_eq : automaton.start = 0
  starts : automaton.state 0 = .capture 1 0
  enters : Shape.Chooses automaton.state greedy 1 inner.first finished.size
  body : finished.Shows automaton.state 2 inner.last 1
  ends : automaton.state finished.size = .capture (finished.size + 1) 1
  accepts : automaton.state (finished.size + 1) = .accept

variable {automaton : Automaton} {rule : LoopRule} {greedy : Bool} {body : Pattern}

theorem exists_optionalLoop (compiled : ofPattern rule
      (.repetition 0 (some 1) greedy (.repetition 1 none greedy body)) = .ok automaton) :
    ∃ started inner finished, Build.pattern rule body started = .ok (inner, finished) ∧
      started.size = 2 ∧ automaton.OptionalLoop greedy inner finished := by
  obtain ⟨b1, whole, b4, built, size1, size, start, starts, shows, ends, accepts, -⟩ :=
    ofPattern_eq_ok compiled
  rw [Build.pattern, Build.repetition, if_pos ⟨rfl, rfl⟩] at built
  obtain ⟨b2, again, b3, made, size2, size4, rfl, -, -, parts⟩ :=
    Build.optional_eq_ok (Build.lays_pattern rule (.repetition 1 none greedy body)) built
  rw [size1] at size2 shows starts parts
  obtain ⟨enters, leaves, shows⟩ := parts shows
  rw [Build.pattern, Build.repetition, Build.atLeast] at made
  obtain ⟨inner, finished, laid, size3, rfl, -, parts⟩ :=
    Build.atLeastOnce_eq_ok (Build.lays_pattern rule body) made
  rw [size2] at shows parts
  obtain ⟨repeats, shows⟩ := parts shows
  rw [size3] at size4 enters leaves repeats
  rw [size4] at size leaves ends accepts
  exact ⟨b2, inner, finished, laid, size2, size, start, starts, enters, shows, repeats, leaves,
    ends, accepts⟩

theorem exists_enteredLoop
    (compiled : ofPattern rule (.repetition 0 none greedy body) = .ok automaton)
    (entered : rule.hasOwnEntry body.minLength = true) :
    ∃ started inner finished, Build.pattern rule body started = .ok (inner, finished) ∧
      started.size = 1 ∧ automaton.EnteredLoop greedy inner finished := by
  obtain ⟨b1, whole, b2, built, size1, size, start, starts, shows, ends, accepts, -⟩ :=
    ofPattern_eq_ok compiled
  rw [Build.pattern, Build.repetition, Build.atLeast, if_pos entered] at built
  obtain ⟨inner, finished, laid, size2, rfl, -, parts⟩ :=
    Build.enteredLoop_eq_ok (Build.lays_pattern rule body) built
  rw [size1] at parts
  obtain ⟨enters, leaves, repeats, shows⟩ := parts shows
  rw [size2] at size leaves ends accepts
  exact ⟨b1, inner, finished, laid, size1, size, start, starts, shows, repeats, enters, leaves,
    ends, accepts⟩

theorem exists_singleLoop
    (compiled : ofPattern rule (.repetition 0 none greedy body) = .ok automaton)
    (single : rule.hasOwnEntry body.minLength = false) :
    ∃ started inner finished, Build.pattern rule body started = .ok (inner, finished) ∧
      started.size = 2 ∧ automaton.SingleLoop greedy inner finished := by
  obtain ⟨b1, whole, b2, built, size1, size, start, starts, shows, ends, accepts, -⟩ :=
    ofPattern_eq_ok compiled
  rw [Build.pattern, Build.repetition, Build.atLeast, if_neg (by simp [single])] at built
  obtain ⟨b1', inner, finished, laid, size1', size2, rfl, -, parts⟩ :=
    Build.loop_eq_ok (Build.lays_pattern rule body) built
  rw [size1] at starts size1' shows parts
  obtain ⟨enters, shows⟩ := parts shows
  rw [size1'] at shows
  rw [size2] at size enters ends accepts
  exact ⟨b1', inner, finished, laid, size1', size, start, starts, enters, shows, ends, accepts⟩

/-! ### An optional loop is a loop with an entry of its own -/

/-- Where the states of an optional loop stand in a loop with an entry of its own. -/
def enteredImage (finish index : Nat) : Nat :=
  if index = 1 then finish else if 2 ≤ index ∧ index ≤ finish then index - 1 else index

section Folds

variable {one other : Automaton} {rule : LoopRule} {greedy : Bool} {body : Pattern}
  {started started' finished finished' : Builder} {inner inner' : Fragment}

/-- The states of an optional loop. -/
theorem OptionalLoop.cases (optional : one.OptionalLoop greedy inner finished) {index : Nat}
    (inside : index < one.size) : index = 0 ∨ index = 1 ∨ 2 ≤ index ∧ index < finished.size ∨
      index = finished.size ∨ index = finished.size + 1 ∨ index = finished.size + 2 ∨
      index = finished.size + 3 := by
  have size := optional.size_eq
  omega

/-- **An optional loop is a loop with an entry of its own**, with the states in another order. -/
theorem OptionalLoop.folds_enteredLoop (optional : one.OptionalLoop greedy inner finished)
    (wellFormed : one.WellFormed)
    (built : Build.pattern rule body started = .ok (inner, finished)) (size : started.size = 2)
    (entered : other.EnteredLoop greedy inner' finished')
    (built' : Build.pattern rule body started' = .ok (inner', finished'))
    (size' : started'.size = 1) (haystack : Array UInt8) :
    one.Folds other haystack (enteredImage finished.size) ∅ := by
  obtain ⟨fragments, alike⟩ := Build.alike_of_built Nat.two_pos built size built' size'
  have laid := Build.lays_pattern rule body built
  have firstIn := laid.first_mem
  have finish := shift_add 1 alike.le_size
  have first := shift_add 1 fragments.first.1
  rw [← alike.size_eq] at finish
  rw [← fragments.first.2] at first
  have entry : enteredImage finished.size 1 = finished'.size + 1 := by
    unfold enteredImage
    split_ifs <;> omega
  have before : ∀ {index}, 2 ≤ index → index ≤ finished.size →
      enteredImage finished.size index = index - 1 := by
    intro index above below
    unfold enteredImage
    split_ifs <;> omega
  have behind : ∀ {index}, finished.size < index → enteredImage finished.size index = index := by
    intro index above
    unfold enteredImage
    split_ifs <;> omega
  have renames : ∀ index < one.size, other.state (enteredImage finished.size index) =
      (one.state index).renamed (enteredImage finished.size) := by
    intro index inside
    have start : enteredImage finished.size inner.first = inner'.first := by
      rw [before (by omega) (by omega)]
      omega
    have exit : enteredImage finished.size (finished.size + 1) = finished'.size + 2 := by
      rw [behind (by omega)]
      omega
    rcases optional.cases inside with rfl | rfl | ⟨above, below⟩ | rfl | rfl | rfl | rfl
    · rw [optional.starts, State.renamed, entry]
      exact entered.starts
    · rw [entry, show one.state 1 = _ from optional.enters, State.renamed, List.map_cons,
        List.map_singleton, start, exit]
      exact entered.enters
    · refine laid.renamed size alike fragments optional.body entered.body
        (fun index above below => ?_) ?_ above below
      · rw [before above below.le, shift, if_neg (by omega)]
        omega
      · rw [before (by omega) le_rfl]
        omega
    · rw [before (by omega) le_rfl, show one.state finished.size = _ from optional.repeats,
        State.renamed, List.map_cons, List.map_singleton, start, exit,
        show finished.size - 1 = finished'.size by omega]
      exact entered.repeats
    · rw [exit, optional.leaves, State.renamed, behind (by omega),
        show finished.size + 2 = finished'.size + 3 by omega]
      exact entered.leaves
    · rw [behind (by omega), optional.ends, State.renamed, behind (by omega),
        show finished.size + 2 = finished'.size + 3 by omega,
        show finished.size + 3 = finished'.size + 4 by omega]
      exact entered.ends
    · rw [behind (by omega), optional.accepts, State.renamed,
        show finished.size + 3 = finished'.size + 4 by omega]
      exact entered.accepts
  refine ⟨by rw [optional.start_eq, entered.start_eq]; rfl, fun start _ =>
    ⟨one.confined_reached haystack start, fun reached _ =>
      renames _ (wellFormed.lt_of_reached reached), fun _ nothing => nothing.elim,
      fun {state state' position} _ _ _ _ same => ?_⟩⟩
  unfold enteredImage at same
  split_ifs at same <;> omega

/-! ### An optional loop is one loop, if no iteration is empty -/

/-- Where the states of an optional loop stand in one loop: its two choices are one there, and what
they lead to is where the match ends. -/
def loopImage (finish index : Nat) : Nat :=
  if index < finish then index else if index = finish then 1
  else if index = finish + 1 then finish else index - 2

variable {haystack : Array UInt8} {start position : Nat}

/-- Only the start leads to the entry of an optional loop. -/
theorem OptionalLoop.eq_zero_of_target (optional : one.OptionalLoop greedy inner finished)
    (built : Build.pattern rule body started = .ok (inner, finished)) (size : started.size = 2)
    {index target : Nat} (inside : index < one.size)
    (leads : target ∈ (one.state index).targets) (early : target ≤ 1) : index = 0 := by
  have laid := Build.lays_pattern rule body built
  have firstIn := laid.first_mem
  rcases optional.cases inside with rfl | rfl | ⟨above, below⟩ | rfl | rfl | rfl | rfl
  · rfl
  · rw [show one.state 1 = _ from optional.enters] at leads
    simp [State.targets] at leads
    omega
  · rw [← size] at above
    have within := (laid.inside (size ▸ optional.body) index above below).2 target leads
    omega
  · rw [show one.state finished.size = _ from optional.repeats] at leads
    simp [State.targets] at leads
    omega
  · rw [optional.leaves] at leads
    simp [State.targets] at leads
    omega
  · rw [optional.ends] at leads
    simp [State.targets] at leads
    omega
  · rw [optional.accepts] at leads
    cases leads

/-- **The entry of an optional loop is only reached where a search starts.** -/
theorem OptionalLoop.eq_of_reached_entry (optional : one.OptionalLoop greedy inner finished)
    (wellFormed : one.WellFormed)
    (built : Build.pattern rule body started = .ok (inner, finished)) (size : started.size = 2)
    (reached : (1, position) ∈ one.reached haystack start) : position = start := by
  refine (one.reached_induction (fun place => place.1 < one.size ∧ (place.1 ≤ 1 → place.2 = start))
    ⟨wellFormed.start_lt, fun _ => rfl⟩ ?_ _ reached).2 le_rfl
  rintro ⟨index, position⟩ ⟨inside, here⟩ ⟨target, position'⟩ follows
  obtain ⟨leads, read⟩ := mem_followers.mp follows
  refine ⟨wellFormed.target_lt _ _ leads, fun early => ?_⟩
  obtain rfl := optional.eq_zero_of_target built size inside leads early
  rw [optional.starts] at read
  exact (show position = position' from read) ▸ here (Nat.zero_le _)

/-- Nothing that an optional loop leads to leads back into it. -/
theorem OptionalLoop.lt_of_leads (optional : one.OptionalLoop greedy inner finished) {count : Nat}
    {place : Place} (leads : Leads one haystack count (finished.size + 1, start) place) :
    finished.size < place.1 := by
  refine (leads.invariant (fun place => finished.size < place.1 ∧ place.1 < finished.size + 4)
    ?_ (by omega)).1
  rintro ⟨index, position⟩ ⟨above, below⟩ ⟨target, position'⟩ follows
  obtain ⟨leads, -⟩ := mem_followers.mp follows
  dsimp only at above below
  rcases (by omega : index = finished.size + 1 ∨ index = finished.size + 2 ∨
    index = finished.size + 3) with rfl | rfl | rfl
  · rw [optional.leaves] at leads
    simp [State.targets] at leads
    omega
  · rw [optional.ends] at leads
    simp [State.targets] at leads
    omega
  · rw [optional.accepts] at leads
    cases leads

/-- From the choice behind the body there is a path to the end of a match. -/
theorem OptionalLoop.leads_accept (optional : one.OptionalLoop greedy inner finished) :
    Leads one haystack 3 (finished.size, position) (finished.size + 3, position) := by
  have leaves : (finished.size + 2, position) ∈
      followers one haystack (finished.size + 1, position) := by
    rw [mem_followers, optional.leaves]
    exact ⟨List.mem_singleton_self _, rfl⟩
  have ends : (finished.size + 3, position) ∈
      followers one haystack (finished.size + 2, position) := by
    rw [mem_followers, optional.ends]
    exact ⟨List.mem_singleton_self _, rfl⟩
  exact optional.repeats.leads_other (.step leaves (.step ends (.here _)))

/-- **The choice behind an iteration that is not empty** is only reached behind the start. -/
theorem OptionalLoop.lt_of_reached_choice (optional : one.OptionalLoop greedy inner finished)
    (built : Build.pattern rule body started = .ok (inner, finished)) (size : started.size = 2)
    (never : ¬body.CanBeEmpty haystack start)
    (reached : (finished.size, position) ∈ one.reached haystack start) : start < position := by
  have laid := Build.lays_pattern rule body built
  have firstIn := laid.first_mem
  have shaped := laid.shaped (size ▸ optional.body)
  obtain ⟨reading, reads, onward⟩ : (body.shape rule).Onward one haystack _ :=
    body.onward_shape rule
  obtain ⟨count, leads⟩ := reached
  rw [optional.start_eq] at leads
  obtain ⟨place, count, -, follows, leads⟩ :=
    leads.exists_next_of_ne fun same => by have := congrArg Prod.fst same; omega
  obtain rfl : place = (1, start) := by
    rw [followers, Thread.successors_of_capture optional.starts] at follows
    exact List.mem_singleton.mp follows
  obtain ⟨place, count, -, follows, leads⟩ :=
    leads.exists_next_of_ne fun same => by have := congrArg Prod.fst same; omega
  rcases optional.enters.mem_followers_iff.mp follows with rfl | rfl
  · -- The path goes on to the end of a match, so it leaves the body before.
    have out : Leads one haystack _ (finished.size, position) _ := optional.leads_accept
    obtain ⟨stop, rest, -, read, leads⟩ := reads.sound shaped optional.accepts (leads.trans out)
    obtain ⟨before, allowed⟩ := onward start stop read
    have after : stop ≤ position := leads.position_le
    have different : start ≠ stop := fun same => never (allowed same)
    omega
  · exact absurd (optional.lt_of_leads leads) (Nat.lt_irrefl _)

/-- **An optional loop is one loop**, if no iteration is empty. -/
theorem OptionalLoop.folds_singleLoop (optional : one.OptionalLoop greedy inner finished)
    (wellFormed : one.WellFormed)
    (built : Build.pattern rule body started = .ok (inner, finished)) (size : started.size = 2)
    (single : other.SingleLoop greedy inner' finished')
    (built' : Build.pattern rule body started' = .ok (inner', finished'))
    (size' : started'.size = 2)
    (never : ∀ position ≤ haystack.size, ¬body.CanBeEmpty haystack position) :
    one.Folds other haystack (loopImage finished.size) {finished.size + 1} := by
  obtain ⟨fragments, alike⟩ := Build.alike_of_built Nat.two_pos built size built' size'
  have laid := Build.lays_pattern rule body built
  have firstIn := laid.first_mem
  have finish := shift_add 2 alike.le_size
  have first := shift_add 2 fragments.first.1
  rw [← alike.size_eq] at finish
  rw [← fragments.first.2] at first
  have before : ∀ {index}, index < finished.size → loopImage finished.size index = index :=
    fun below => if_pos below
  have again : loopImage finished.size finished.size = 1 := by
    simp [loopImage]
  have exit : loopImage finished.size (finished.size + 1) = finished.size := by
    simp [loopImage]
  have behind : ∀ {index}, finished.size + 1 < index →
      loopImage finished.size index = index - 2 := by
    intro index above
    unfold loopImage
    split_ifs <;> omega
  have renames : ∀ index < one.size, index ≠ finished.size + 1 →
      other.state (loopImage finished.size index) =
        (one.state index).renamed (loopImage finished.size) := by
    intro index inside visible
    have start : loopImage finished.size inner.first = inner'.first := by
      rw [before (by omega)]
      omega
    have exit : loopImage finished.size (finished.size + 1) = finished'.size := by
      rw [exit]
      omega
    rcases optional.cases inside with rfl | rfl | ⟨above, below⟩ | rfl | rfl | rfl | rfl
    · rw [before (by omega), optional.starts, State.renamed, before (by omega)]
      exact single.starts
    · rw [before (by omega), show one.state 1 = _ from optional.enters, State.renamed,
        List.map_cons, List.map_singleton, start, exit]
      exact single.enters
    · refine laid.renamed size alike fragments optional.body single.body
        (fun index above below => ?_) again above below
      rw [before below, shift, if_neg (by omega)]
      omega
    · rw [again, show one.state finished.size = _ from optional.repeats, State.renamed,
        List.map_cons, List.map_singleton, start, exit]
      exact single.enters
    · exact absurd rfl visible
    · rw [behind (by omega), optional.ends, State.renamed, behind (by omega),
        show finished.size + 2 - 2 = finished'.size by omega,
        show finished.size + 3 - 2 = finished'.size + 1 by omega]
      exact single.ends
    · rw [behind (by omega), optional.accepts, State.renamed,
        show finished.size + 3 - 2 = finished'.size + 1 by omega]
      exact single.accepts
  refine ⟨?_, fun start startIn => ⟨one.confined_reached haystack start, fun reached visible =>
    renames _ (wellFormed.lt_of_reached reached) visible, fun {state position} _ isSilent => ?_,
    fun {state state' position} reached reached' visible visible' same => ?_⟩⟩
  · rw [optional.start_eq, single.start_eq, before (by omega)]
  · rw [isSilent]
    refine ⟨finished.size + 2, by simp, optional.leaves, ?_⟩
    rw [behind (by omega), exit]
    rfl
  · -- Only the two choices stand for one state, and they are not reached at one position.
    have entry : (1, position) ∈ one.reached haystack start → position = start :=
      optional.eq_of_reached_entry wellFormed built size
    have choice : (finished.size, position) ∈ one.reached haystack start → start < position :=
      optional.lt_of_reached_choice built size (never start startIn)
    by_contra different
    have both : state = 1 ∧ state' = finished.size ∨ state = finished.size ∧ state' = 1 := by
      have outside : state ≠ finished.size + 1 := visible
      have outside' : state' ≠ finished.size + 1 := visible'
      unfold loopImage at same
      split_ifs at same <;> omega
    rcases both with ⟨rfl, rfl⟩ | ⟨rfl, rfl⟩
    · exact absurd (entry reached) (choice reached').ne'
    · exact absurd (entry reached') (choice reached).ne'

end Folds

end Automaton

/-! ### Searches -/

/-- A loop that is not entered through a choice of its own has a body that cannot be empty, unless
the least length of the body is not known and the rule does not take care of that. -/
theorem Pattern.not_canBeEmpty_of_single {rule : LoopRule} {body : Pattern}
    {haystack : Array UInt8} {position : Nat}
    (single : rule.hasOwnEntry body.minLength = false)
    (known : rule = .bodyKnownEmpty → body.minLength = none →
      ¬body.CanBeEmpty haystack position) : ¬body.CanBeEmpty haystack position := by
  intro canBeEmpty
  have zero := CanBeEmpty.minLength_eq body canBeEmpty
  cases length : body.minLength with
  | none =>
    rw [length] at single
    cases rule with
    | bodyKnownEmpty => exact known rfl length canBeEmpty
    | bodyNotKnownNonempty => cases single
  | some least =>
    rw [length, zero least length] at single
    cases rule <;> cases single

/-- **Any number of copies is at least one copy, or none**: searches for the one and for the other
report the same match with the same groups, whatever the body is and with either strategy. The
exception are bodies that can be empty and whose least length is not known, if the rule builds one
loop for them. -/
theorem search_anyNumber_eq {rule : LoopRule} {text text' : String} {greedy : Bool} {body : Pattern}
    {one other : Regex}
    (compiled : Regex.ofPattern rule text (.repetition 0 none greedy body) = .ok one)
    (compiled' : Regex.ofPattern rule text'
      (.repetition 0 (some 1) greedy (.repetition 1 none greedy body)) = .ok other)
    (indices : ∀ index ∈ body.groups, 1 ≤ index) (haystack : Bytes)
    (known : rule = .bodyKnownEmpty → body.minLength = none →
      ∀ position ≤ haystack.length, ¬body.CanBeEmpty haystack.toArray position)
    {cache cache' : Cache} (fits : cache.Fits one.automaton) (fits' : cache'.Fits other.automaton)
    (settings : Search) :
    (one.search cache haystack settings).1 = (other.search cache' haystack settings).1 := by
  obtain ⟨_, _, layout⟩ := Automaton.exists_layout (Regex.automaton_eq compiled)
  obtain ⟨_, _, layout'⟩ := Automaton.exists_layout (Regex.automaton_eq compiled')
  have wellFormed := layout.wellFormed indices
  have wellFormed' := layout'.wellFormed indices
  have groups : other.automaton.groupCount = one.automaton.groupCount :=
    layout'.groups_eq.trans layout.groups_eq.symm
  obtain ⟨started, inner, finished, built, size, optional⟩ :=
    Automaton.exists_optionalLoop (Regex.automaton_eq compiled')
  cases own : rule.hasOwnEntry body.minLength with
  | true =>
    obtain ⟨started', inner', finished', built', size', entered⟩ :=
      Automaton.exists_enteredLoop (Regex.automaton_eq compiled) own
    exact (Regex.search_folds (optional.folds_enteredLoop wellFormed' built size entered built'
      size' _) wellFormed' wellFormed groups fits' fits settings).symm
  | false =>
    obtain ⟨started', inner', finished', built', size', single⟩ :=
      Automaton.exists_singleLoop (Regex.automaton_eq compiled) own
    refine (Regex.search_folds (optional.folds_singleLoop wellFormed' built size single built'
      size' fun position inside => ?_) wellFormed' wellFormed groups fits' fits settings).symm
    exact Pattern.not_canBeEmpty_of_single own fun isKnown none =>
      known isKnown none position (by simpa using inside)

/-- A body whose least length is not known, since one of its branches never matches, but that is
never empty. -/
theorem search_anyNumber_failingBranch :
    let body : Pattern := .group 1 (.alternation [.literal [0x61], .byteClass []])
    let one : Regex := ⟨"(a|[a&&b])*", #[.capture 1 0, .splits [2, 8] false, .capture 5 2,
      .byte 6 0x61, .fail, .splits [3, 4] false, .goto 7 none, .capture 1 3, .capture 9 1,
      .accept], 0, 2⟩
    let other : Regex := ⟨"(?:(a|[a&&b])+)?", #[.capture 1 0, .splits [2, 9] false, .capture 5 2,
      .byte 6 0x61, .fail, .splits [3, 4] false, .goto 7 none, .capture 8 3, .splits [2, 9] false,
      .goto 10 none, .capture 11 1, .accept], 0, 2⟩
    Regex.ofPattern .bodyKnownEmpty "(a|[a&&b])*" (.repetition 0 none true body) = .ok one ∧
      Regex.ofPattern .bodyKnownEmpty "(?:(a|[a&&b])+)?"
        (.repetition 0 (some 1) true (.repetition 1 none true body)) = .ok other ∧
      (∀ index ∈ body.groups, 1 ≤ index) ∧ body.minLength = none ∧
      (∀ position ≤ 2, ¬body.CanBeEmpty #[0x61, 0x61] position) ∧
      one.newCache.Fits one.automaton ∧ other.newCache.Fits other.automaton ∧
      (one.search one.newCache [0x61, 0x61] ⟨.unanchored, .leftmostFirst, .lockstep⟩).1 =
        (other.search other.newCache [0x61, 0x61]
          ⟨.unanchored, .leftmostFirst, .lockstep⟩).1 ∧
      (other.search other.newCache [0x61, 0x61] ⟨.unanchored, .leftmostFirst, .lockstep⟩).1 =
        some ⟨⟨0, 2⟩, [some ⟨1, 2⟩]⟩ := by
  intro body one other
  have compiled : Regex.ofPattern .bodyKnownEmpty one.text (.repetition 0 none true body) =
      .ok one := by cbv
  have compiled' : Regex.ofPattern .bodyKnownEmpty other.text
      (.repetition 0 (some 1) true (.repetition 1 none true body)) = .ok other := by cbv
  have never : ∀ position ≤ 2, ¬body.CanBeEmpty #[0x61, 0x61] position := by
    intro position _
    simp [body, Pattern.CanBeEmpty, Pattern.AnyCanBeEmpty]
  have same := search_anyNumber_eq compiled compiled' (by decide) [0x61, 0x61] (fun _ _ => never)
    one.fits_newCache other.fits_newCache ⟨.unanchored, .leftmostFirst, .lockstep⟩
  exact ⟨compiled, compiled', by decide, by decide, never, one.fits_newCache, other.fits_newCache,
    same, by cbv⟩

/-- A body that prefers to be empty, and whose least length is not known: built as one loop, it goes
on where it should stop. -/
theorem search_anyNumber_ne :
    let body : Pattern := .alternation [.empty, .literal [0x61], .byteClass []]
    let one : Regex := ⟨"(?:|a|[a&&b])*", #[.capture 1 0, .splits [4, 7] false, .goto 5 none,
      .byte 5 0x61, .splits [2, 3, 6] false, .goto 1 none, .fail, .capture 8 1, .accept], 0, 1⟩
    let other : Regex := ⟨"(?:(?:|a|[a&&b])+)?", #[.capture 1 0, .splits [4, 8] false,
      .goto 5 none, .byte 5 0x61, .splits [2, 3, 6] false, .goto 7 none, .fail,
      .splits [4, 8] false, .goto 9 none, .capture 10 1, .accept], 0, 1⟩
    Pattern.ofText? one.text = some (.repetition 0 none true body) ∧
      Pattern.ofText? other.text =
        some (.repetition 0 (some 1) true (.repetition 1 none true body)) ∧
      (∀ index ∈ body.groups, 1 ≤ index) ∧
      Regex.ofPattern .bodyKnownEmpty one.text (.repetition 0 none true body) = .ok one ∧
      Regex.ofPattern .bodyKnownEmpty other.text
        (.repetition 0 (some 1) true (.repetition 1 none true body)) = .ok other ∧
      (one.search one.newCache [0x61] ⟨.start, .leftmostFirst, .backtracking⟩).1 =
        some ⟨⟨0, 1⟩, []⟩ ∧
      (other.search other.newCache [0x61] ⟨.start, .leftmostFirst, .backtracking⟩).1 =
        some ⟨⟨0, 0⟩, []⟩ := by
  intro body one other
  exact ⟨by cbv, by cbv, by decide, by cbv, by cbv, by cbv, by cbv⟩

end Crosscheck
