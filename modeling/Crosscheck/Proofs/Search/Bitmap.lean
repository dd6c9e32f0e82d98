/-
**Bitmaps show sets of configurations.**

Every configuration of an automaton and a haystack has a bit of its own, inside the words of a
bitmap that was made for them. So a bitmap shows exactly the configurations that were marked since
it was cleared, whatever its words held before.

* `Bitmap.Shows`: which configurations a bitmap shows;
* `Bitmap.Shows.clear`: none after it was cleared;
* `Bitmap.Shows.mark_new`, `Bitmap.Shows.mark_old`: what marking a configuration does.
-/
import Crosscheck.Search.Bitmap
import Crosscheck.Proofs.Search.Thread
import Mathlib.Data.Nat.Bitwise
import Mathlib.Data.Set.Insert

namespace Crosscheck

namespace Bitmap

/-- Whether the bit of a configuration is set. -/
def marked (bitmap : Bitmap) (state position : Nat) : Bool :=
  (bitmap.words.getD (bitmap.index state position / 32) 0).toNat.testBit
    (bitmap.index state position % 32)

/-- A bitmap with room for the given numbers of states and positions shows the configurations of a
set. -/
structure Shows (bitmap : Bitmap) (states positions : Nat) (seen : Set Place) : Prop where
  stride_eq : bitmap.stride = positions
  room : states * positions ≤ 32 * bitmap.words.size
  marked_iff : ∀ {state position : Nat}, state < states → position < positions →
    (bitmap.marked state position = true ↔ (state, position) ∈ seen)

theorem toNat_bit (index : Nat) : (bit index).toNat = 2 ^ (index % 32) := by
  have all : ∀ place : Fin 32, ((1 : UInt32) <<< place.val.toUInt32).toNat = 2 ^ place.val := by
    decide
  exact all ⟨index % 32, Nat.mod_lt _ (by decide)⟩

/-- A word has no bit in common with a single bit exactly when that bit is not set. -/
theorem and_bit_eq_zero_iff (word : UInt32) (index : Nat) :
    word &&& bit index = 0 ↔ word.toNat.testBit (index % 32) = false := by
  rw [← UInt32.toNat_inj, UInt32.toNat_and, toNat_bit, Nat.and_two_pow, UInt32.toNat_zero]
  cases word.toNat.testBit (index % 32) <;> simp

theorem index_lt {states positions state position : Nat} (inStates : state < states)
    (inPositions : position < positions) : state * positions + position < states * positions := by
  calc state * positions + position < state * positions + positions := by omega
    _ = (state + 1) * positions := (Nat.succ_mul _ _).symm
    _ ≤ states * positions := Nat.mul_le_mul_right _ inStates

theorem index_injective {positions state position state' position' : Nat}
    (bound : position < positions) (bound' : position' < positions)
    (same : state * positions + position = state' * positions + position') :
    state = state' ∧ position = position' := by
  have positive : 0 < positions := Nat.zero_lt_of_lt bound
  have states := congrArg (· / positions) same
  have rests := congrArg (· % positions) same
  simp only [Nat.mul_comm _ positions, Nat.mul_add_div positive, Nat.mul_add_mod,
    Nat.div_eq_of_lt bound, Nat.div_eq_of_lt bound', Nat.mod_eq_of_lt bound,
    Nat.mod_eq_of_lt bound', Nat.add_zero] at states rests
  exact ⟨states, rests⟩

theorem marked_eq {bitmap : Bitmap} {state position : Nat}
    (inside : bitmap.index state position / 32 < bitmap.words.size) :
    bitmap.marked state position =
      bitmap.words[bitmap.index state position / 32].toNat.testBit
        (bitmap.index state position % 32) := by
  rw [marked, Array.getElem_eq_getD 0]

namespace Shows

variable {bitmap : Bitmap} {states positions state position : Nat} {seen : Set Place}

/-- The word of a configuration is there. -/
theorem word_lt (shown : bitmap.Shows states positions seen) (inStates : state < states)
    (inPositions : position < positions) :
    bitmap.index state position / 32 < bitmap.words.size := by
  have inside := index_lt inStates inPositions
  have room := shown.room
  rw [index, shown.stride_eq]
  omega

/-- **Marking a configuration that was not marked** adds it and nothing else. -/
theorem mark_new (shown : bitmap.Shows states positions seen) (inStates : state < states)
    (inPositions : position < positions) (new : (state, position) ∉ seen) :
    ∃ after, bitmap.mark state position = (true, after) ∧
      after.Shows states positions (insert (state, position) seen) := by
  have inside := shown.word_lt inStates inPositions
  have unset : bitmap.marked state position = false := by
    rwa [← Bool.not_eq_true, shown.marked_iff inStates inPositions]
  rw [marked_eq inside, ← and_bit_eq_zero_iff] at unset
  obtain ⟨words, stride⟩ := bitmap
  obtain rfl : stride = positions := shown.stride_eq
  refine ⟨⟨words.set (index ⟨words, stride⟩ state position / 32)
    (words[index ⟨words, stride⟩ state position / 32] |||
      bit (index ⟨words, stride⟩ state position)), stride⟩, ?_, rfl, ?_, ?_⟩
  · simp only [mark]
    rw [dif_pos inside, if_pos unset]
  · rw [Array.size_set]
    exact shown.room
  · intro state' position' inStates' inPositions'
    have inside' := shown.word_lt inStates' inPositions'
    rw [Set.mem_insert_iff, ← shown.marked_iff inStates' inPositions', marked_eq inside',
      marked_eq (by rwa [Array.size_set]), Prod.mk.injEq]
    simp only [index] at inside inside' ⊢
    by_cases here : state' = state ∧ position' = position
    · obtain ⟨rfl, rfl⟩ := here
      simp [toNat_bit]
    · have apart : state * stride + position ≠ state' * stride + position' := by
        intro same
        obtain ⟨rfl, rfl⟩ := index_injective inPositions inPositions' same
        exact here ⟨rfl, rfl⟩
      simp only [here, false_or]
      rw [Array.getElem_set]
      split
      · next sameWord =>
        have otherBit : (state * stride + position) % 32 ≠ (state' * stride + position') % 32 := by
          omega
        rw [UInt32.toNat_or, Nat.testBit_or, toNat_bit, Nat.testBit_two_pow_of_ne otherBit,
          Bool.or_false]
        simp only [sameWord]
      · rfl

/-- **Marking a configuration again** tells that it was marked. -/
theorem mark_old (shown : bitmap.Shows states positions seen) (inStates : state < states)
    (inPositions : position < positions) (old : (state, position) ∈ seen) :
    bitmap.mark state position = (false, bitmap) := by
  have inside := shown.word_lt inStates inPositions
  have set : bitmap.marked state position = true :=
    (shown.marked_iff inStates inPositions).mpr old
  have common : ¬bitmap.words[bitmap.index state position / 32] &&&
      bit (bitmap.index state position) = 0 := by
    rw [and_bit_eq_zero_iff, ← marked_eq inside, set]
    decide
  obtain ⟨words, stride⟩ := bitmap
  simp only [mark]
  rw [dif_pos inside, if_neg common]

/-- **A cleared bitmap shows nothing.** -/
theorem clear (stride : bitmap.stride = positions)
    (room : states * positions ≤ 32 * bitmap.words.size) :
    bitmap.clear.Shows states positions ∅ := by
  refine ⟨stride, by rwa [Bitmap.clear, Array.size_map], fun {state position} _ _ => ?_⟩
  simp only [marked, Bitmap.clear, Array.getD_eq_getD_getElem?, Array.getElem?_map,
    Set.mem_empty_iff_false, iff_false, Bool.not_eq_true]
  generalize bitmap.words[_ / 32]? = word
  cases word <;> exact Nat.zero_testBit _

end Shows

/-- A bitmap that was made for the configurations has room for them, whatever it was before. -/
theorem room_resize (bitmap : Bitmap) (states positions : Nat) :
    states * positions ≤ 32 * (bitmap.resize states positions).words.size := by
  simp only [resize, Array.size_append, Array.size_extract, Array.size_replicate]
  omega

end Bitmap

end Crosscheck
