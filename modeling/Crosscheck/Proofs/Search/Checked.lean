/-
**Searches that check what they reach for.**

A search reads states, rows of slots, words of a bitmap and places of a sparse set by their numbers.
Here every step is taken only when all that it reaches for is there, and a search that reaches for
anything else has no result. The steps are those of the searches without checks.

* `Job.InRange`, `Pending.InRange`, `Lockstep.Sweep.InRange`: what a step reaches for;
* `Backtracking.search?`, `Lockstep.search?`: whole searches;
* `Regex.answers?`: queries one after the other, all on one cache.
-/
import Crosscheck.Proofs.Search.Reuse

namespace Crosscheck

/-- Whether a state that offers a choice offers any way. -/
def State.hasWay : State → Bool
  | .splits targets _ => !targets.isEmpty
  | .byte .. | .ranges .. | .goto .. | .capture .. | .fail | .accept => true

/-! ### Checked searches by backtracking -/

/-- Whether all that a job reaches for is there: the state with a way out of it, the word of the
bitmap, and slots to copy to those of the match; or the slot that is undone. -/
def Job.InRange (automaton : Automaton) (slotCount : Nat) (trail : Trail) : Job → Prop
  | .visit state position =>
    state < automaton.size ∧ (automaton.state state).hasWay ∧
      trail.visited.index state position / 32 < trail.visited.words.size ∧
      trail.slots.size = slotCount
  | .restore slot _ => slot < trail.slots.size

instance (automaton : Automaton) (slotCount : Nat) (trail : Trail) (job : Job) :
    Decidable (job.InRange automaton slotCount trail) := by
  cases job <;> unfold Job.InRange <;> infer_instance

/-- Does one job after the other, as long as they are in range. -/
def Trail.run? (automaton : Automaton) (haystack : Array UInt8) (anchor : Anchor)
    (kind : MatchKind) (slotCount : Nat) (trail : Trail) : Option Trail :=
  if kind = .leftmostFirst ∧ trail.best.isSome then some trail
  else
    match _jobs : trail.jobs with
    | [] => some trail
    | job :: rest =>
      if job.InRange automaton slotCount { trail with jobs := rest } then
        run? automaton haystack anchor kind slotCount
          (step automaton haystack anchor { trail with jobs := rest } job)
      else none
termination_by (trail.visited.room, trail.jobs.length)
decreasing_by
  rcases room_step automaton haystack anchor { trail with jobs := rest } job with
    less | ⟨same, jobs⟩
  · exact Prod.Lex.left _ _ less
  · rw [same, jobs, _jobs]
    exact Prod.Lex.right _ (Nat.lt_succ_self _)

namespace Backtracking

/-- Follows all paths from one start, in range. -/
def searchAt? (automaton : Automaton) (cache : Cache) (haystack : Array UInt8) (anchor : Anchor)
    (kind : MatchKind) (slotCount start : Nat) : Option (Option Slots × Cache) :=
  match cache with
  | ⟨jobs, visited, slots⟩ => do
    let trail ← Trail.run? automaton haystack anchor kind slotCount
      ⟨.visit automaton.start start :: jobs, visited.clear, slots, none⟩
    return (trail.best.map (·.2), ⟨trail.jobs, trail.visited, trail.slots⟩)

/-- Tries one start after the other, in range. -/
def searchFrom? (automaton : Automaton) (haystack : Array UInt8) (anchor : Anchor)
    (kind : MatchKind) (slotCount start : Nat) (cache : Cache) :
    Nat → Option (Option Slots × Cache)
  | 0 => searchAt? automaton cache haystack anchor kind slotCount start
  | count + 1 =>
    match searchAt? automaton cache haystack anchor kind slotCount start with
    | none => none
    | some (some slots, cache) => some (some slots, cache)
    | some (none, cache) =>
      searchFrom? automaton haystack anchor kind slotCount (start + 1) cache count

/-- A whole search in range, for no more slots than there are. -/
def search? (automaton : Automaton) (cache : Cache) (haystack : Array UInt8) (anchor : Anchor)
    (kind : MatchKind) (slotCount : Nat) : Option (Option Slots × Cache) :=
  if slotCount ≤ automaton.slotCount then
    searchFrom? automaton haystack anchor kind slotCount 0
      (cache.setup automaton haystack.size slotCount) (lastStart anchor haystack.size)
  else none

end Backtracking

/-! ### Checked searches in lockstep -/

/-- Whether the places that an insertion reads and writes are there. -/
def SparseSet.HasPlace (set : SparseSet) (value : Nat) : Prop :=
  value < set.sparse.size ∧ set.count ≤ set.dense.size ∧
    (set.contains value ∨ set.count < set.dense.size)

instance (set : SparseSet) (value : Nat) : Decidable (set.HasPlace value) := by
  unfold SparseSet.HasPlace
  infer_instance

/-- Whether the slots in use of a row are there. -/
def SlotTable.HasRow (table : SlotTable) (index : Nat) : Prop :=
  index < table.rows.size ∧ table.tracked ≤ (table.rows.getD index #[]).size

instance (table : SlotTable) (index : Nat) : Decidable (table.HasRow index) := by
  unfold SlotTable.HasRow
  infer_instance

/-- Whether all that something to do in a closure reaches for is there: the state with a way out of
it, its place in the set, and its row for as many slots; or the slot that is undone. -/
def Pending.InRange (automaton : Automaton) (closure : Closure) : Pending → Prop
  | .explore state =>
    state < automaton.size ∧ (automaton.state state).hasWay ∧
      closure.active.set.HasPlace state ∧ closure.active.table.HasRow state ∧
      closure.slots.size = closure.active.table.tracked
  | .restore slot _ => slot < closure.slots.size

instance (automaton : Automaton) (closure : Closure) (pending : Pending) :
    Decidable (pending.InRange automaton closure) := by
  cases pending <;> unfold Pending.InRange <;> infer_instance

/-- Steps until nothing is left to do, as long as the steps are in range. -/
def Closure.run? (automaton : Automaton) (haystack : Array UInt8) (position : Nat)
    (closure : Closure) : Option Closure :=
  match _rest : closure.stack with
  | [] => some closure
  | pending :: rest =>
    if pending.InRange automaton { closure with stack := rest } then
      run? automaton haystack position
        (step automaton haystack position { closure with stack := rest } pending)
    else none
termination_by (closure.active.set.room, closure.stack.length)
decreasing_by
  rcases room_step automaton haystack position { closure with stack := rest } pending with
    less | ⟨same, stack⟩
  · exact Prod.Lex.left _ _ less
  · rw [same, stack, _rest]
    exact Prod.Lex.right _ (Nat.lt_succ_self _)

/-- Adds the closure of a state to the active states, in range. -/
def Active.close? (automaton : Automaton) (haystack : Array UInt8) (position : Nat)
    (active : Active) (slots : Slots) (state : Nat) : Option (Slots × Active) := do
  let closure ← Closure.run? automaton haystack position ⟨[.explore state], slots, active⟩
  return (closure.slots, closure.active)

namespace Lockstep

/-- Follows a thread over the byte at the position, in range. -/
def follow? (automaton : Automaton) (haystack : Array UInt8) (position : Nat) (sweep : Sweep)
    (state target : Nat) : Option Sweep :=
  match sweep with
  | ⟨table, next, found, matched⟩ => do
    let (slots, next) ←
      next.close? automaton haystack (position + 1) (table.row state) target
    return ⟨table.write state slots, next, found, matched⟩

/-- Whether all that a sweep reaches for at an active state is there: the state, its row, as many
slots of the match, and the first of them in a search for the longest. -/
def Sweep.InRange (automaton : Automaton) (kind : MatchKind) (sweep : Sweep) (state : Nat) : Prop :=
  state < automaton.size ∧ sweep.table.HasRow state ∧ sweep.found.size = sweep.table.tracked ∧
    (kind = .leftmostLongest → 0 < sweep.table.tracked)

instance (automaton : Automaton) (kind : MatchKind) (sweep : Sweep) (state : Nat) :
    Decidable (sweep.InRange automaton kind state) := by
  unfold Sweep.InRange
  infer_instance

/-- Lets the active states advance over the byte at the position, in range. -/
def sweep? (automaton : Automaton) (haystack : Array UInt8) (anchor : Anchor) (kind : MatchKind)
    (position : Nat) (matchedBefore : Bool) : List Nat → Sweep → Option Sweep
  | [], sweeping => some sweeping
  | state :: rest, sweeping =>
    if sweeping.InRange automaton kind state then
      if kind = .leftmostLongest ∧ (matchedBefore ∨ sweeping.matched) ∧
          startsAfter (sweeping.table.start state) (sweeping.found.getD 0 none) then
        sweep? automaton haystack anchor kind position matchedBefore rest sweeping
      else
        match automaton.state state with
        | .accept =>
          if anchor = .both ∧ position < haystack.size then
            sweep? automaton haystack anchor kind position matchedBefore rest sweeping
          else
            match kind with
            | .leftmostFirst =>
              some { sweeping with found := sweeping.table.row state, matched := true }
            | .leftmostLongest =>
              if sweeping.matched then
                sweep? automaton haystack anchor kind position matchedBefore rest sweeping
              else
                sweep? automaton haystack anchor kind position matchedBefore rest
                  { sweeping with found := sweeping.table.row state, matched := true }
        | other =>
          match haystack[position]?.bind other.transition with
          | none => sweep? automaton haystack anchor kind position matchedBefore rest sweeping
          | some target => do
            let sweeping ← follow? automaton haystack position sweeping state target
            sweep? automaton haystack anchor kind position matchedBefore rest sweeping
    else none

/-- Starts a thread at the position, in range. -/
def seed? (automaton : Automaton) (haystack : Array UInt8) (position : Nat) (cache : Cache) :
    Option Cache :=
  match cache with
  | ⟨current, ⟨set, table⟩, found⟩ =>
    if table.HasRow table.scratch then do
      let (slots, current) ←
        current.close? automaton haystack position (table.row table.scratch) automaton.start
      return ⟨current, ⟨set, table.write table.scratch slots⟩, found⟩
    else none

/-- Lets the active states advance over the byte at the position, in range, and tells whether a
match ended there. -/
def sweepAll? (automaton : Automaton) (haystack : Array UInt8) (anchor : Anchor)
    (kind : MatchKind) (position : Nat) (matched : Bool) (cache : Cache) :
    Option (Bool × Cache) :=
  match cache with
  | ⟨⟨set, table⟩, next, found⟩ =>
    if set.count ≤ set.dense.size then do
      let swept ← sweep? automaton haystack anchor kind position matched set.toList
        ⟨table, next, found, false⟩
      return (swept.matched, ⟨⟨set, swept.table⟩, swept.next, swept.found⟩)
    else none

/-- Starts a thread if one is started, and sweeps, in range. -/
def turn? (automaton : Automaton) (haystack : Array UInt8) (anchor : Anchor) (kind : MatchKind)
    (position : Nat) (matched : Bool) (starts : Prop) [Decidable starts] (cache : Cache) :
    Option (Bool × Cache) :=
  (if starts then seed? automaton haystack position cache else some cache).bind
    (sweepAll? automaton haystack anchor kind position matched)

/-- Searches from a position on, in range. -/
def advance? (automaton : Automaton) (haystack : Array UInt8) (anchor : Anchor)
    (kind : MatchKind) (position : Nat) (matched : Bool) (cache : Cache) :
    Option (Bool × Cache) :=
  let anchored := anchor ≠ .unanchored
  if cache.current.set.isEmpty ∧ (matched ∨ (anchored ∧ 0 < position)) then some (matched, cache)
  else do
    let (ended, cache) ← turn? automaton haystack anchor kind position matched
      (¬matched ∧ (¬anchored ∨ position = 0)) cache
    if haystack.size ≤ position then some (matched || ended, cache)
    else
      advance? automaton haystack anchor kind (position + 1) (matched || ended)
        ⟨cache.next, cache.current.clear, cache.found⟩
termination_by haystack.size - position

/-- A whole search in range, for no more slots than there are. -/
def search? (automaton : Automaton) (cache : Cache) (haystack : Array UInt8) (anchor : Anchor)
    (kind : MatchKind) (slotCount : Nat) : Option (Option Slots × Cache) :=
  if slotCount ≤ automaton.slotCount ∧ tracked kind slotCount ≤ automaton.slotCount then do
    let (matched, cache) ← advance? automaton haystack anchor kind 0 false
      (cache.setup (tracked kind slotCount))
    if matched then
      if slotCount ≤ cache.found.size then some (some (cache.found.extract 0 slotCount), cache)
      else none
    else some (none, cache)
  else none

end Lockstep

namespace Regex

/-- Searches in range for a match and returns its first `slotCount` slots. -/
def searchSlots? (regex : Regex) (cache : Cache) (haystack : Bytes) (search : Search)
    (slotCount : Nat) : Option (Option Slots × Cache) :=
  match search.strategy with
  | .lockstep => do
    let (slots, lockstep) ← Lockstep.search? regex.automaton cache.lockstep haystack.toArray
      search.anchor search.kind slotCount
    return (slots, { cache with lockstep := lockstep })
  | .backtracking => do
    let (slots, backtracking) ← Backtracking.search? regex.automaton cache.backtracking
      haystack.toArray search.anchor search.kind slotCount
    return (slots, { cache with backtracking := backtracking })

/-- Answers a query in range. -/
def answer? (regex : Regex) (cache : Cache) (query : Query) : Option (Answer × Cache) := do
  let (slots, cache) ← regex.searchSlots? cache query.haystack query.settings
    (query.slotCount regex.automaton)
  return (query.read slots, cache)

/-- Answers queries one after the other, in range, each on the cache that the one before left. -/
def answers? (regex : Regex) (cache : Cache) : List Query → Option (List Answer × Cache)
  | [] => some ([], cache)
  | query :: rest => do
    let (first, cache) ← regex.answer? cache query
    let (others, cache) ← regex.answers? cache rest
    return (first :: others, cache)

end Regex

end Crosscheck
