/-
**Caches carry nothing from one search to the next.**

A search leaves behind rows of slots, places in sparse sets, marked configurations and jobs that
were not done; and the next search may track another number of slots in a haystack of another
length. Still a search reports the same on every cache that fits, and leaves one that fits.

* `Query`, `Regex.answer`: what can be asked of a compiled regexp, and what is answered;
* `Regex.answers`: queries one after the other, all on one cache;
* `Cache.Fits`: what a search needs of a cache;
* `Regex.searchSlots_eq`: any two caches that fit give the same result;
* `answers_newCache`: the answers on one cache are those on new caches.
-/
import Crosscheck.Proofs.Pattern.Numbering
import Crosscheck.Proofs.Search.Agreement
import Crosscheck.Proofs.Search.Exactness
import Mathlib

namespace Crosscheck

/-! ### Queries -/

/-- What can be asked of a compiled regexp. -/
inductive Query where
  | search (haystack : Bytes) (settings : Search)
  | find (haystack : Bytes) (settings : Search)
  | isMatch (haystack : Bytes) (settings : Search)

/-- The answer to a query: a match with its groups, its span, or whether there is one. -/
inductive Answer where
  | captures (found : Option Captures)
  | span (found : Option Span)
  | truth (found : Bool)
  deriving DecidableEq

namespace Query

def haystack : Query → Bytes
  | search haystack _ | find haystack _ | isMatch haystack _ => haystack

def settings : Query → Search
  | search _ settings | find _ settings | isMatch _ settings => settings

/-- How many slots of an automaton the answer needs. -/
def slotCount (automaton : Automaton) : Query → Nat
  | search .. => automaton.slotCount
  | find .. => 2
  | isMatch .. => 0

/-- The answer that the slots of a match give. -/
def read : Query → Option Slots → Answer
  | search .., slots => .captures (slots.bind Captures.ofSlots?)
  | find .., slots => .span ((slots.bind Captures.ofSlots?).map (·.overall))
  | isMatch .., slots => .truth slots.isSome

end Query

namespace Regex

/-- Answers a query. -/
def answer (regex : Regex) (cache : Cache) : Query → Answer × Cache
  | .search haystack settings =>
    let (found, cache) := regex.search cache haystack settings
    (.captures found, cache)
  | .find haystack settings =>
    let (found, cache) := regex.find cache haystack settings
    (.span found, cache)
  | .isMatch haystack settings =>
    let (found, cache) := regex.isMatch cache haystack settings
    (.truth found, cache)

/-- Answers queries one after the other, each on the cache that the one before left. -/
def answers (regex : Regex) (cache : Cache) : List Query → List Answer × Cache
  | [] => ([], cache)
  | query :: rest =>
    let (first, cache) := regex.answer cache query
    let (others, cache) := regex.answers cache rest
    (first :: others, cache)

/-- An answer is read off the slots that a search reports. -/
theorem answer_eq (regex : Regex) (cache : Cache) (query : Query) :
    regex.answer cache query =
      let result := regex.searchSlots cache query.haystack query.settings
        (query.slotCount regex.automaton)
      (query.read result.1, result.2) := by
  cases query <;> rfl

end Regex

/-! ### One search -/

/-- What a search with an automaton needs of a cache. A search by backtracking needs nothing. -/
def Cache.Fits (cache : Cache) (automaton : Automaton) : Prop := cache.lockstep.Fits automaton

theorem Regex.fits_newCache (regex : Regex) : regex.newCache.Fits regex.automaton :=
  Lockstep.Cache.fits_ofAutomaton _

namespace Lockstep

variable {automaton : Automaton} {one other : Cache} {slotCount : Nat}

theorem search_congr (wellFormed : automaton.WellFormed) (fits : one.Fits automaton)
    (fits' : other.Fits automaton) (haystack : Array UInt8) (anchor : Anchor) (kind : MatchKind)
    (bound : slotCount ≤ automaton.slotCount) :
    (search automaton one haystack anchor kind slotCount).1 =
      (search automaton other haystack anchor kind slotCount).1 := by
  obtain ⟨found, explores⟩ := exists_starts wellFormed haystack anchor (tracked kind slotCount)
  rw [(search_eq wellFormed fits bound explores).1, (search_eq wellFormed fits' bound explores).1]

theorem search_fits (wellFormed : automaton.WellFormed) (fits : one.Fits automaton)
    (haystack : Array UInt8) (anchor : Anchor) (kind : MatchKind)
    (bound : slotCount ≤ automaton.slotCount) :
    (search automaton one haystack anchor kind slotCount).2.Fits automaton := by
  obtain ⟨found, explores⟩ := exists_starts wellFormed haystack anchor (tracked kind slotCount)
  exact (search_eq wellFormed fits bound explores).2

end Lockstep

theorem Backtracking.search_congr {automaton : Automaton} (wellFormed : automaton.WellFormed)
    (one other : Cache) (haystack : Array UInt8) (anchor : Anchor) (kind : MatchKind)
    (slotCount : Nat) :
    (search automaton one haystack anchor kind slotCount).1 =
      (search automaton other haystack anchor kind slotCount).1 := by
  obtain ⟨found, attempts⟩ := exists_attempts wellFormed haystack slotCount
  rw [search_eq wellFormed one found attempts, search_eq wellFormed other found attempts]

namespace Regex

variable {regex : Regex} {cache other : Cache} {slotCount : Nat}

/-- **A search reports the same on all caches that fit**, with either strategy. -/
theorem searchSlots_eq (wellFormed : regex.automaton.WellFormed) (fits : cache.Fits regex.automaton)
    (fits' : other.Fits regex.automaton) (haystack : Bytes) (settings : Search)
    (bound : slotCount ≤ regex.automaton.slotCount) :
    (regex.searchSlots cache haystack settings slotCount).1 =
      (regex.searchSlots other haystack settings slotCount).1 := by
  obtain ⟨anchor, kind, strategy⟩ := settings
  cases strategy with
  | lockstep => exact Lockstep.search_congr wellFormed fits fits' _ _ _ bound
  | backtracking => exact Backtracking.search_congr wellFormed _ _ _ _ _ _

/-- **A search leaves a cache that fits.** -/
theorem searchSlots_fits (wellFormed : regex.automaton.WellFormed)
    (fits : cache.Fits regex.automaton) (haystack : Bytes) (settings : Search)
    (bound : slotCount ≤ regex.automaton.slotCount) :
    (regex.searchSlots cache haystack settings slotCount).2.Fits regex.automaton := by
  obtain ⟨anchor, kind, strategy⟩ := settings
  cases strategy with
  | lockstep => exact Lockstep.search_fits wellFormed fits _ _ _ bound
  | backtracking => exact fits

/-! ### Several queries -/

theorem slotCount_le (wellFormed : regex.automaton.WellFormed) (query : Query) :
    query.slotCount regex.automaton ≤ regex.automaton.slotCount := by
  cases query with
  | search => exact Nat.le_refl _
  | find => exact wellFormed.slots_le
  | isMatch => exact Nat.zero_le _

/-- **Each of several answers is the one on any other cache that fits.** -/
theorem answers_eq (wellFormed : regex.automaton.WellFormed) (fits : cache.Fits regex.automaton)
    (fits' : other.Fits regex.automaton) (queries : List Query) :
    (regex.answers cache queries).1 = queries.map fun query => (regex.answer other query).1 := by
  induction queries generalizing cache with
  | nil => rfl
  | cons query rest hypothesis =>
    have bound := slotCount_le wellFormed query
    have first : (regex.answer cache query).1 = (regex.answer other query).1 := by
      rw [answer_eq, answer_eq]
      exact congrArg query.read (searchSlots_eq wellFormed fits fits' _ _ bound)
    have left : (regex.answer cache query).2.Fits regex.automaton := by
      rw [answer_eq]
      exact searchSlots_fits wellFormed fits _ _ bound
    rw [answers, List.map_cons, ← first, ← hypothesis left]

/-- What was compiled from a text has a well-formed automaton. -/
theorem wellFormed_of_compile {text : String} (compiled : Regex.compile text = .ok regex) :
    regex.automaton.WellFormed := by
  rw [compile] at compiled
  split at compiled
  · next pattern means =>
    obtain ⟨inner, finish, layout⟩ := Automaton.exists_layout (automaton_eq compiled)
    exact layout.wellFormed (Pattern.one_le_of_ofText? means)
  · cases compiled

end Regex

/-- **A cache carries nothing from one search to the next**: queries that share a cache get the
answers that they get on a new one, whatever their haystacks and settings. -/
theorem answers_newCache {text : String} {regex : Regex}
    (compiled : Regex.compile text = .ok regex) (queries : List Query) :
    (regex.answers regex.newCache queries).1 =
      queries.map fun query => (regex.answer regex.newCache query).1 :=
  Regex.answers_eq (Regex.wellFormed_of_compile compiled) regex.fits_newCache regex.fits_newCache
    queries

theorem Regex.compile_lazyLoop : Regex.compile "(a|ab)*?b" = .ok .lazyLoop := by
  have means : Pattern.ofText? "(a|ab)*?b" = some .lazyLoop := by cbv
  rw [compile, means]
  exact ofPattern_lazyLoop _

/-- Queries of both strategies on one cache, about haystacks that grow and shrink. -/
theorem answers_lazyLoop :
    Regex.compile "(a|ab)*?b" = .ok .lazyLoop ∧
      (Regex.lazyLoop.answers Regex.lazyLoop.newCache
        [.isMatch [] ⟨.both, .leftmostLongest, .lockstep⟩,
          .search [0x61, 0x62, 0x62] ⟨.unanchored, .leftmostLongest, .lockstep⟩,
          .search [0x61, 0x62, 0x62] ⟨.start, .leftmostFirst, .backtracking⟩,
          .find [0x62] ⟨.unanchored, .leftmostFirst, .lockstep⟩]).1 =
        [.truth false, .captures (some ⟨⟨0, 3⟩, [some ⟨0, 2⟩]⟩),
          .captures (some ⟨⟨0, 2⟩, [some ⟨0, 1⟩]⟩), .span (some ⟨0, 1⟩)] := by
  refine ⟨Regex.compile_lazyLoop, (answers_newCache Regex.compile_lazyLoop _).trans ?_⟩
  cbv

end Crosscheck
