/-
**Searching by backtracking.**

From one start at a time, paths are followed in the order of preference. A path ends where it
cannot go on or where it comes to a configuration that an earlier path has been through: whatever
follows from there has been tried. The captures of a path are undone before the next path is taken.

* `Trail.step`: goes on with one path by one state, or undoes one capture;
* `Trail.run`: all paths from one start, or those up to the first match;
* `Backtracking.search`: a whole search.
-/
import Crosscheck.Automaton.State
import Crosscheck.Search.Bitmap
import Crosscheck.Search.Captures
import Crosscheck.Search.Settings

namespace Crosscheck

/-- What is left to do in a search by backtracking. -/
inductive Job where
  /-- Go on from a state at a position. -/
  | visit (state position : Nat)
  /-- Undo a capture. -/
  | restore (slot : Nat) (position : Option Nat)
  deriving DecidableEq

/-- The paths from one start, so far. -/
structure Trail where
  /-- What is left to do, next thing first. -/
  jobs : List Job
  /-- The configurations that paths have been through. -/
  visited : Bitmap
  /-- The slots of the current path. -/
  slots : Slots
  /-- The end and the slots of the best match so far. -/
  best : Option (Nat × Slots)

namespace Trail

/-- Goes on with the given jobs. -/
def push (trail : Trail) (jobs : List Job) : Trail := { trail with jobs := jobs ++ trail.jobs }

/-- Notes that the current path ends a match here. A later match has to be longer than the best. -/
def accept (trail : Trail) (position : Nat) : Trail :=
  if trail.best.all (·.1 < position) then { trail with best := some (position, trail.slots) }
  else trail

/-- Goes through a configuration that is new. -/
def pass (automaton : Automaton) (haystack : Array UInt8) (anchor : Anchor) (trail : Trail)
    (state position : Nat) : Trail :=
  match automaton.state state with
  | .accept =>
    if anchor = .both ∧ position < haystack.size then trail else trail.accept position
  | .fail => trail
  | .goto target none => trail.push [.visit target position]
  | .goto target (some look) =>
    if look.holds haystack position then trail.push [.visit target position] else trail
  | .splits targets reverse =>
    trail.push ((State.branches targets reverse).map (.visit · position))
  | .capture target slot =>
    if slot < trail.slots.size then
      let old := trail.slots.getD slot none
      { trail with
        slots := trail.slots.setIfInBounds slot (some position)
        jobs := .visit target position :: .restore slot old :: trail.jobs }
    else trail.push [.visit target position]
  | .byte target value =>
    match haystack[position]?.bind (State.byte target value).transition with
    | some target => trail.push [.visit target (position + 1)]
    | none => trail
  | .ranges target set =>
    match haystack[position]?.bind (State.ranges target set).transition with
    | some target => trail.push [.visit target (position + 1)]
    | none => trail

/-- Does the given job. -/
def step (automaton : Automaton) (haystack : Array UInt8) (anchor : Anchor) (trail : Trail)
    (job : Job) : Trail :=
  match job, trail with
  | .restore slot old, ⟨jobs, visited, slots, best⟩ =>
    ⟨jobs, visited, slots.setIfInBounds slot old, best⟩
  | .visit state position, ⟨jobs, visited, slots, best⟩ =>
    match visited.mark state position with
    | (true, visited) =>
      pass automaton haystack anchor ⟨jobs, visited, slots, best⟩ state position
    | (false, visited) => ⟨jobs, visited, slots, best⟩

/-- Going through a configuration marks no others. -/
theorem visited_pass (automaton : Automaton) (haystack : Array UInt8) (anchor : Anchor)
    (trail : Trail) (state position : Nat) :
    (pass automaton haystack anchor trail state position).visited = trail.visited := by
  rw [pass]
  split
  · split
    · rfl
    · rw [accept]
      split <;> rfl
  · rfl
  · rfl
  · split <;> rfl
  · rfl
  · split <;> rfl
  · split <;> rfl
  · split <;> rfl

/-- A step either marks a configuration, or adds no jobs. -/
theorem room_step (automaton : Automaton) (haystack : Array UInt8) (anchor : Anchor)
    (trail : Trail) (job : Job) :
    (step automaton haystack anchor trail job).visited.room < trail.visited.room ∨
      (step automaton haystack anchor trail job).visited = trail.visited ∧
        (step automaton haystack anchor trail job).jobs = trail.jobs := by
  obtain ⟨jobs, visited, slots, best⟩ := trail
  cases job with
  | restore slot old => exact .inr ⟨rfl, rfl⟩
  | visit state position =>
    rw [step]
    split
    · next after new =>
      left
      rw [visited_pass]
      exact Bitmap.room_of_mark new
    · next after old => exact .inr ⟨Bitmap.eq_of_mark old, rfl⟩

/-- Does one job after the other until none is left, or until the first match if that is what is
asked for. -/
def run (automaton : Automaton) (haystack : Array UInt8) (anchor : Anchor) (kind : MatchKind)
    (trail : Trail) : Trail :=
  if kind = .leftmostFirst ∧ trail.best.isSome then trail
  else
    match _jobs : trail.jobs with
    | [] => trail
    | job :: rest =>
      run automaton haystack anchor kind
        (step automaton haystack anchor { trail with jobs := rest } job)
termination_by (trail.visited.room, trail.jobs.length)
decreasing_by
  rcases room_step automaton haystack anchor { trail with jobs := rest } job with
    less | ⟨same, jobs⟩
  · exact Prod.Lex.left _ _ less
  · rw [same, jobs, _jobs]
    exact Prod.Lex.right _ (Nat.lt_succ_self _)

end Trail

namespace Backtracking

/-- What a search works on. Nothing in it matters for the next search. -/
structure Cache where
  /-- What was left to do. -/
  jobs : List Job
  /-- The configurations that paths have been through. -/
  visited : Bitmap
  /-- The slots of the current path. -/
  slots : Slots

namespace Cache

/-- A cache that was not used yet. -/
def empty : Cache := ⟨[], .empty, #[]⟩

/-- Prepares a search in a haystack of the given length that stores the given number of slots. -/
def setup (cache : Cache) (automaton : Automaton) (length slotCount : Nat) : Cache :=
  ⟨[], cache.visited.resize automaton.size (length + 1), Array.replicate slotCount none⟩

end Cache

/-- Follows all paths from one start. Returns the slots of the match, if there is one. -/
def searchAt (automaton : Automaton) (cache : Cache) (haystack : Array UInt8) (anchor : Anchor)
    (kind : MatchKind) (start : Nat) : Option Slots × Cache :=
  match cache with
  | ⟨jobs, visited, slots⟩ =>
    let trail := Trail.run automaton haystack anchor kind
      ⟨.visit automaton.start start :: jobs, visited.clear, slots, none⟩
    (trail.best.map (·.2), ⟨trail.jobs, trail.visited, trail.slots⟩)

/-- Tries `count` starts from one on, and the one after them, until there is a match. -/
def searchFrom (automaton : Automaton) (haystack : Array UInt8) (anchor : Anchor)
    (kind : MatchKind) (start : Nat) (cache : Cache) : Nat → Option Slots × Cache
  | 0 => searchAt automaton cache haystack anchor kind start
  | count + 1 =>
    match searchAt automaton cache haystack anchor kind start with
    | (some slots, cache) => (some slots, cache)
    | (none, cache) => searchFrom automaton haystack anchor kind (start + 1) cache count

/-- The last position at which a match may start. -/
def lastStart (anchor : Anchor) (length : Nat) : Nat :=
  match anchor with
  | .unanchored => length
  | .start | .both => 0

/-- Searches the whole haystack. Returns the first `slotCount` slots of the match, if there is
one. -/
def search (automaton : Automaton) (cache : Cache) (haystack : Array UInt8) (anchor : Anchor)
    (kind : MatchKind) (slotCount : Nat) : Option Slots × Cache :=
  searchFrom automaton haystack anchor kind 0 (cache.setup automaton haystack.size slotCount)
    (lastStart anchor haystack.size)

end Backtracking

end Crosscheck
