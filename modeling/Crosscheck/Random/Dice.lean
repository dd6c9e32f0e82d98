/-
**Random draws.**

A source of random draws is a state and two ways to draw from it. Whatever is generated at random is
a function of the dice, so it can be followed for every sequence of draws.
-/

namespace Crosscheck

/-- How to draw from a source of type `σ`. -/
structure Dice (σ : Type) where
  /-- Draws a number below the given one. -/
  below : Nat → σ → Nat × σ
  /-- Draws a truth value, with even odds. -/
  coin : σ → Bool × σ

end Crosscheck
