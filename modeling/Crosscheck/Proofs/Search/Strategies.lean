/-
**The two strategies are equivalent.**

A compiled automaton is well-formed, so both strategies report the same match in every haystack,
with the same slots, however many of them are asked for.

* `search_lockstep_eq_backtracking`: both strategies on fresh caches.
-/
import Crosscheck.Proofs.Automaton.Built
import Crosscheck.Proofs.Search.Agreement

namespace Crosscheck

/-- **Both strategies report the same match with the same slots**, with any anchor and of any kind,
for every compiled pattern without a group 0 of its own. -/
theorem search_lockstep_eq_backtracking {rule : LoopRule} {pattern : Pattern}
    {automaton : Automaton} (compiled : Automaton.ofPattern rule pattern = .ok automaton)
    (indices : ∀ index ∈ pattern.groups, 1 ≤ index) (haystack : Array UInt8) (anchor : Anchor)
    (kind : MatchKind) {slotCount : Nat} (bound : slotCount ≤ automaton.slotCount) :
    (Lockstep.search automaton (.ofAutomaton automaton) haystack anchor kind slotCount).1 =
      (Backtracking.search automaton .empty haystack anchor kind slotCount).1 := by
  obtain ⟨inner, finish, layout⟩ := Automaton.exists_layout compiled
  exact lockstep_eq_backtracking (layout.wellFormed indices) (Lockstep.Cache.fits_ofAutomaton _) _
    haystack anchor kind bound

/-- The strategies agree on a lazy loop over alternatives of which one begins with the other. -/
theorem search_lazyLoop_eq :
    Automaton.ofPattern .bodyKnownEmpty Pattern.lazyLoop = .ok Automaton.lazyLoop ∧
      (∀ index ∈ Pattern.lazyLoop.groups, 1 ≤ index) ∧ 4 ≤ Automaton.lazyLoop.slotCount ∧
      (Lockstep.search Automaton.lazyLoop (.ofAutomaton Automaton.lazyLoop) #[0x61, 0x62, 0x62]
          .unanchored .leftmostLongest 4).1 =
        (Backtracking.search Automaton.lazyLoop .empty #[0x61, 0x62, 0x62] .unanchored
          .leftmostLongest 4).1 :=
  ⟨Automaton.ofPattern_lazyLoop _, by decide, by decide, search_lockstep_eq_backtracking
    (Automaton.ofPattern_lazyLoop .bodyKnownEmpty) (by decide) _ _ _ (by decide)⟩

end Crosscheck
