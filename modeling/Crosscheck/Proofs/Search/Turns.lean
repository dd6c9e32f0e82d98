/-
**The loops of a search take one turn after the other.**

A search consists of loops: backtracking does one job after the other, a closure one step after the
other, and a search in lockstep goes from one position to the next, where it starts closures. What
one turn of a loop does is written down here together with what it is about, and each loop is the
turns that it takes until there is no other.

* `Loops`: turns of a loop, with what each of them was about;
* `Trail.run_loops`, `Closure.run_loops`, `Lockstep.advance_loops`: the loops of a search;
* `Lockstep.Round.seeds`, `Lockstep.Round.follows`: the closures that are started at a position;
* `Lockstep.Round.swept_frame`: they are all that a search does to its active states there.
-/
import Crosscheck.Proofs.Search.Tour

namespace Crosscheck

/-! ### Loops -/

/-- **A loop**: turns are taken one after the other until there is none to take. Each of them is
about something. -/
inductive Loops {σ ε : Type} (turn? : σ → Option (ε × σ)) : σ → List ε → σ → Prop where
  /-- There is no turn to take. -/
  | done {last : σ} : turn? last = none → Loops turn? last [] last
  /-- One more turn is taken. -/
  | more {start middle last : σ} {event : ε} {events : List ε} :
    turn? start = some (event, middle) → Loops turn? middle events last →
      Loops turn? start (event :: events) last

namespace Loops

variable {σ ε : Type} {turn? : σ → Option (ε × σ)} {start last : σ} {events : List ε}

/-- A loop ends where there is no turn to take. -/
theorem stops (loops : Loops turn? start events last) : turn? last = none := by
  induction loops with
  | done none => exact none
  | more _ _ hypothesis => exact hypothesis

/-- What every turn keeps holds at the end, and each turn is about what it then can be about. -/
theorem keeps {P : σ → Prop} {Q : ε → Prop}
    (kept : ∀ {start event after}, turn? start = some (event, after) → P start → Q event ∧ P after)
    (loops : Loops turn? start events last) (holds : P start) :
    (∀ event ∈ events, Q event) ∧ P last := by
  induction loops with
  | done => exact ⟨fun _ none => (List.not_mem_nil none).elim, holds⟩
  | more turn _ hypothesis =>
    obtain ⟨about, holds⟩ := kept turn holds
    obtain ⟨others, ended⟩ := hypothesis holds
    exact ⟨List.forall_mem_cons.mpr ⟨about, others⟩, ended⟩

end Loops

/-! ### Backtracking -/

namespace Trail

/-- The configuration that a job passes, if it comes to one that was not visited before. -/
def passes (trail : Trail) : Job → Option Place
  | .visit state position =>
    if (trail.visited.mark state position).1 then some (state, position) else none
  | .restore .. => none

variable (automaton : Automaton) (haystack : Array UInt8) (anchor : Anchor) (kind : MatchKind)

/-- Does one more job, if there is one and no first match was found. -/
def turn? (trail : Trail) : Option (Option Place × Trail) :=
  if kind = .leftmostFirst ∧ trail.best.isSome then none
  else
    match trail.jobs with
    | [] => none
    | job :: rest =>
      let trail := { trail with jobs := rest }
      some (trail.passes job, step automaton haystack anchor trail job)

/-- **The jobs of a search from one start come to an end.** -/
theorem run_loops (trail : Trail) :
    ∃ passed, Loops (turn? automaton haystack anchor kind) trail passed
      (run automaton haystack anchor kind trail) := by
  fun_induction run automaton haystack anchor kind trail with
  | case1 trail found => exact ⟨[], .done (if_pos found)⟩
  | case2 trail going empty => exact ⟨[], .done (by rw [turn?, if_neg going, empty])⟩
  | case3 trail going job rest jobs hypothesis =>
    obtain ⟨passed, loops⟩ := hypothesis
    exact ⟨_, .more (by rw [turn?, if_neg going, jobs]) loops⟩

end Trail

/-! ### Closures -/

namespace Closure

/-- The state that a step adds, if it comes to one that was not active before. -/
def adds (closure : Closure) : Pending → Option Nat
  | .explore state =>
    match closure.active.set.insert state with
    | .added _ => some state
    | .present _ | .overflow _ => none
  | .restore .. => none

variable (automaton : Automaton) (haystack : Array UInt8) (position : Nat)

/-- Takes one more step, if there is anything left to do. -/
def turn? (closure : Closure) : Option (Option Nat × Closure) :=
  match closure.stack with
  | [] => none
  | pending :: rest =>
    let closure := { closure with stack := rest }
    some (closure.adds pending, step automaton haystack position closure pending)

/-- **The steps of a closure come to an end.** -/
theorem run_loops (closure : Closure) :
    ∃ added, Loops (turn? automaton haystack position) closure added
      (run automaton haystack position closure) := by
  fun_induction run automaton haystack position closure with
  | case1 closure empty => exact ⟨[], .done (by rw [turn?, empty])⟩
  | case2 closure pending rest stack hypothesis =>
    obtain ⟨added, loops⟩ := hypothesis
    exact ⟨_, .more (by rw [turn?, stack]) loops⟩

end Closure

/-! ### Closures of a search in lockstep -/

/-- Where a closure starts. -/
structure Closing where
  /-- The slots of the thread. -/
  slots : Slots
  /-- The state that the thread comes to. -/
  state : Nat

/-- Adds one closure after the other. -/
def Active.closeAll (automaton : Automaton) (haystack : Array UInt8) (position : Nat)
    (active : Active) (closings : List Closing) : Active :=
  closings.foldl (fun active closing =>
    (active.close automaton haystack position closing.slots closing.state).2) active

namespace Lockstep

variable (automaton : Automaton) (haystack : Array UInt8) (anchor : Anchor) (kind : MatchKind)

/-- The closures that a sweep starts at the next position, one for each thread that it follows. -/
def followed (position : Nat) (matchedBefore : Bool) : List Nat → Sweep → List Closing
  | [], _ => []
  | state :: rest, sweeping =>
    if kind = .leftmostLongest ∧ (matchedBefore ∨ sweeping.matched) ∧
        startsAfter (sweeping.table.start state) (sweeping.found.getD 0 none) then
      followed position matchedBefore rest sweeping
    else
      match automaton.state state with
      | .accept =>
        if anchor = .both ∧ position < haystack.size then
          followed position matchedBefore rest sweeping
        else
          match kind with
          | .leftmostFirst => []
          | .leftmostLongest =>
            if sweeping.matched then followed position matchedBefore rest sweeping
            else
              followed position matchedBefore rest
                { sweeping with found := sweeping.table.row state, matched := true }
      | other =>
        match haystack[position]?.bind other.transition with
        | none => followed position matchedBefore rest sweeping
        | some target =>
          ⟨sweeping.table.row state, target⟩ ::
            followed position matchedBefore rest
              (follow automaton haystack position sweeping state target)

/-- **Following a thread** adds a closure, and leaves the row of the thread as it was. -/
theorem follow_eq (position : Nat) (sweep : Sweep) (state target : Nat) :
    follow automaton haystack position sweep state target =
      { sweep with next := (sweep.next.close automaton haystack (position + 1)
          (sweep.table.row state) target).2 } := by
  obtain ⟨table, next, found, matched⟩ := sweep
  simp only [follow, Active.close_restores, SlotTable.write_row]

/-- **A sweep starts closures and nothing else**: the rows that it follows threads from are left as
they were. -/
theorem sweep_frame (position : Nat) (matchedBefore : Bool) (states : List Nat)
    (sweeping : Sweep) :
    let swept := sweep automaton haystack anchor kind position matchedBefore states sweeping
    swept.table = sweeping.table ∧ swept.next = sweeping.next.closeAll automaton haystack
      (position + 1)
      (followed automaton haystack anchor kind position matchedBefore states sweeping) := by
  -- One case for each way in which a sweep goes on; only the last one starts a closure.
  fun_induction sweep automaton haystack anchor kind position matchedBefore states sweeping with
  | case1 sweeping => exact ⟨rfl, rfl⟩
  | case2 state rest sweeping skips hypothesis =>
    unfold followed
    rwa [if_pos skips]
  | case3 state rest sweeping going accepts early hypothesis =>
    unfold followed
    rw [if_neg going]
    simp only [accepts, if_pos early]
    exact hypothesis
  | case4 state rest sweeping going accepts late isFirst =>
    unfold followed
    rw [if_neg going]
    simp only [accepts, if_neg late, isFirst]
    exact ⟨trivial, rfl⟩
  | case5 state rest sweeping going accepts late longest matched hypothesis =>
    unfold followed
    rw [if_neg going]
    simp only [accepts, if_neg late, longest, if_pos matched]
    exact longest ▸ hypothesis
  | case6 state rest sweeping going accepts late longest unmatched hypothesis =>
    unfold followed
    rw [if_neg going]
    simp only [accepts, if_neg late, longest, if_neg unmatched]
    exact longest ▸ hypothesis
  | case7 state rest sweeping going continues nowhere hypothesis =>
    unfold followed
    rw [if_neg going]
    split
    · next accepts => exact absurd accepts continues
    · rw [nowhere]
      exact hypothesis
  | case8 state rest sweeping going target continues step hypothesis =>
    unfold followed
    rw [if_neg going]
    split
    · next accepts => exact absurd accepts continues
    · rw [step]
      dsimp only
      rw [follow_eq] at hypothesis ⊢
      exact hypothesis

/-- A closure is only started for a thread in one of the states, and at a target of it. -/
theorem mem_followed {position : Nat} {matchedBefore : Bool} {states : List Nat}
    {sweeping : Sweep} {closing : Closing}
    (member : closing ∈ followed automaton haystack anchor kind position matchedBefore states
      sweeping) :
    ∃ state ∈ states, closing.slots = sweeping.table.row state ∧
      closing.state ∈ (automaton.state state).targets := by
  have later : ∀ {state : Nat} {rest : List Nat} {table : SlotTable},
      (∃ among ∈ rest, closing.slots = table.row among ∧
        closing.state ∈ (automaton.state among).targets) →
      ∃ among ∈ state :: rest, closing.slots = table.row among ∧
        closing.state ∈ (automaton.state among).targets :=
    fun ⟨among, inRest, follows⟩ => ⟨among, List.mem_cons_of_mem _ inRest, follows⟩
  fun_induction followed automaton haystack anchor kind position matchedBefore states sweeping with
  | case1 => cases member
  | case2 state rest sweeping skips hypothesis => exact later (hypothesis member)
  | case3 state rest sweeping going accepts early hypothesis => exact later (hypothesis member)
  | case4 => cases member
  | case5 state rest sweeping going accepts late longest matched hypothesis =>
    exact later (hypothesis (longest ▸ member))
  | case6 state rest sweeping going accepts late longest unmatched hypothesis =>
    exact later (hypothesis (longest ▸ member))
  | case7 state rest sweeping going continues nowhere hypothesis =>
    exact later (hypothesis member)
  | case8 state rest sweeping going target continues step hypothesis =>
    rw [follow_eq] at hypothesis member
    rcases List.mem_cons.mp member with rfl | member
    · obtain ⟨byte, -, transition⟩ := Option.bind_eq_some_iff.mp step
      exact ⟨state, List.mem_cons_self, rfl, mem_targets_of_transition transition⟩
    · exact later (hypothesis member)

/-- **Starting a thread** adds a closure, and leaves the row that it starts from as it was. -/
theorem seed_eq (position : Nat) (cache : Cache) :
    seed automaton haystack position cache =
      ⟨cache.current.closeAll automaton haystack position
        [⟨cache.next.table.row cache.next.table.scratch, automaton.start⟩],
        cache.next, cache.found⟩ := by
  obtain ⟨current, ⟨set, table⟩, found⟩ := cache
  simp only [seed, Active.close_restores, SlotTable.write_row]
  rfl

/-- **A sweep over all active states** starts closures at the next position, and leaves the active
states as they were. -/
theorem sweepAll_frame (position : Nat) (matched : Bool) (cache : Cache) :
    let swept := (sweepAll automaton haystack anchor kind position matched cache).2
    swept.current = cache.current ∧
      swept.next = cache.next.closeAll automaton haystack (position + 1)
        (followed automaton haystack anchor kind position matched cache.current.set.toList
          ⟨cache.current.table, cache.next, cache.found, false⟩) := by
  obtain ⟨⟨set, table⟩, next, found⟩ := cache
  obtain ⟨rows, closed⟩ := sweep_frame automaton haystack anchor kind position matched set.toList
    ⟨table, next, found, false⟩
  exact ⟨congrArg (Active.mk set) rows, closed⟩

/-! ### Rounds -/

/-- A search that comes to a position. -/
structure Round where
  /-- The position. -/
  position : Nat
  /-- Whether a match was found before. -/
  matched : Bool
  /-- What the search works on. -/
  cache : Cache

namespace Round

/-- Whether the search has come to an end. -/
def Stops (round : Round) : Prop :=
  round.cache.current.set.isEmpty ∧ (round.matched ∨ (anchor ≠ .unanchored ∧ 0 < round.position))

/-- Whether the search starts a thread. -/
def Starts (round : Round) : Prop :=
  ¬round.matched ∧ (¬anchor ≠ .unanchored ∨ round.position = 0)

instance (round : Round) : Decidable (round.Stops anchor) :=
  inferInstanceAs (Decidable (round.cache.current.set.isEmpty ∧
    (round.matched ∨ (anchor ≠ .unanchored ∧ 0 < round.position))))

instance (round : Round) : Decidable (round.Starts anchor) :=
  inferInstanceAs (Decidable (¬round.matched ∧ (¬anchor ≠ .unanchored ∨ round.position = 0)))

/-- The closures that are started at the position: that of the start, if a thread is started. -/
def seeds (round : Round) : List Closing :=
  if round.Starts anchor then
    [⟨round.cache.next.table.row round.cache.next.table.scratch, automaton.start⟩]
  else []

/-- What the search works on once it has started a thread, if it does. -/
def seeded (round : Round) : Cache :=
  if round.Starts anchor then seed automaton haystack round.position round.cache else round.cache

/-- The closures that are started at the next position. -/
def follows (round : Round) : List Closing :=
  let current := (round.seeded automaton haystack anchor).current
  followed automaton haystack anchor kind round.position round.matched current.set.toList
    ⟨current.table, round.cache.next, round.cache.found, false⟩

/-- What becomes of it in a sweep over all active states, and whether a match ends here. -/
def swept (round : Round) : Bool × Cache :=
  sweepAll automaton haystack anchor kind round.position round.matched
    (round.seeded automaton haystack anchor)

theorem seeded_eq (round : Round) : round.seeded automaton haystack anchor =
    ⟨round.cache.current.closeAll automaton haystack round.position (round.seeds automaton anchor),
      round.cache.next, round.cache.found⟩ := by
  rw [seeded, seeds]
  split
  · exact seed_eq ..
  · rfl

/-- **What a search does to its active states at a position**: it starts closures there and at the
next position. -/
theorem swept_frame (round : Round) :
    let swept := (round.swept automaton haystack anchor kind).2
    swept.current = round.cache.current.closeAll automaton haystack round.position
        (round.seeds automaton anchor) ∧
      swept.next = round.cache.next.closeAll automaton haystack (round.position + 1)
        (round.follows automaton haystack anchor kind) := by
  obtain ⟨current, next⟩ := sweepAll_frame automaton haystack anchor kind round.position
    round.matched (round.seeded automaton haystack anchor)
  refine ⟨current.trans ?_, next.trans ?_⟩
  · rw [seeded_eq]
  · rw [follows, seeded_eq]

end Round

/-- A search on its way. -/
inductive Course where
  /-- It comes to a position. -/
  | going (round : Round)
  /-- It has come to an end. -/
  | ended (matched : Bool) (cache : Cache)

/-- Goes on by one position. -/
def Course.turn? : Course → Option (Round × Course)
  | .ended .. => none
  | .going round =>
    if round.Stops anchor then some (round, .ended round.matched round.cache)
    else
      let (here, cache) := round.swept automaton haystack anchor kind
      some (round,
        if haystack.size ≤ round.position then .ended (round.matched || here) cache
        else .going ⟨round.position + 1, round.matched || here,
          ⟨cache.next, cache.current.clear, cache.found⟩⟩)

/-- A search that does not stop sweeps over the active states. -/
theorem Course.turn?_of_swept (round : Round) (going : ¬round.Stops anchor) {here : Bool}
    {swept : Cache} (sweeps : round.swept automaton haystack anchor kind = (here, swept)) :
    turn? automaton haystack anchor kind (.going round) =
      some (round, if haystack.size ≤ round.position then .ended (round.matched || here) swept
        else .going ⟨round.position + 1, round.matched || here,
          ⟨swept.next, swept.current.clear, swept.found⟩⟩) := by
  rw [turn?, if_neg going, sweeps]

/-- A search comes to an end at a position, or goes on with the active states at the next one. -/
theorem Course.turn?_cases {course after : Course} {round : Round}
    (turn : turn? automaton haystack anchor kind course = some (round, after)) :
    let swept := (round.swept automaton haystack anchor kind).2
    course = .going round ∧
      ((∃ matched cache, after = .ended matched cache ∧ (cache = round.cache ∨ cache = swept)) ∨
        ∃ matched, after =
          .going ⟨round.position + 1, matched, ⟨swept.next, swept.current.clear, swept.found⟩⟩) := by
  intro swept
  cases course with
  | ended => cases turn
  | going start =>
    by_cases stops : start.Stops anchor
    · rw [turn?, if_pos stops] at turn
      cases turn
      exact ⟨rfl, .inl ⟨_, _, rfl, .inl rfl⟩⟩
    · rw [turn?_of_swept _ _ _ _ _ stops rfl] at turn
      cases turn
      refine ⟨rfl, ?_⟩
      split
      · exact .inl ⟨_, _, rfl, .inr rfl⟩
      · exact .inr ⟨_, rfl⟩

/-- **The positions of a search come to an end**, and it comes to no more of them than there are. -/
theorem advance_loops (position : Nat) (matched : Bool) (cache : Cache) :
    ∃ rounds, Loops (Course.turn? automaton haystack anchor kind)
        (.going ⟨position, matched, cache⟩) rounds
        (.ended (advance automaton haystack anchor kind position matched cache).1
          (advance automaton haystack anchor kind position matched cache).2) ∧
      rounds.length ≤ haystack.size - position + 1 := by
  fun_induction advance automaton haystack anchor kind position matched cache with
  | case1 position matched cache anchored finished =>
    exact ⟨_, .more (if_pos finished) (.done rfl), Nat.le_add_left ..⟩
  | case2 position matched cache anchored going seeded ended swept sweeps last =>
    have turn := Course.turn?_of_swept automaton haystack anchor kind
      ⟨position, matched, cache⟩ going sweeps
    rw [if_pos last] at turn
    exact ⟨_, .more turn (.done rfl), Nat.le_add_left ..⟩
  | case3 position matched cache anchored going seeded ended swept sweeps more hypothesis =>
    obtain ⟨rounds, loops, bound⟩ := hypothesis
    have turn := Course.turn?_of_swept automaton haystack anchor kind
      ⟨position, matched, cache⟩ going sweeps
    rw [if_neg more] at turn
    refine ⟨_, .more turn loops, ?_⟩
    rw [List.length_cons]
    omega

end Lockstep

end Crosscheck
