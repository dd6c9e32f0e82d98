/-
**Bitmaps of configurations.**

A configuration is a state of an automaton at a position of the haystack. A bitmap has one bit for
each configuration, packed into words of 32 bits.

* `Bitmap.mark`: marks a configuration and tells whether it is new;
* `Bitmap.room_of_mark`: marking a new one leaves less room.
-/

namespace Crosscheck

/-- A set of configurations. -/
structure Bitmap where
  /-- The words that hold the bits. -/
  words : Array UInt32
  /-- The number of positions of each state. -/
  stride : Nat

namespace Bitmap

/-- A bitmap for nothing. -/
def empty : Bitmap := ⟨#[], 0⟩

/-- Makes room for all configurations of the given numbers of states and positions. Words that are
kept are kept as they are. -/
def resize (bitmap : Bitmap) (states positions : Nat) : Bitmap :=
  let count := (states * positions + 31) / 32
  ⟨bitmap.words.extract 0 count ++ Array.replicate (count - bitmap.words.size) 0, positions⟩

/-- Unmarks all configurations. -/
def clear (bitmap : Bitmap) : Bitmap := { bitmap with words := bitmap.words.map fun _ => 0 }

/-- The number of the bit of a configuration. -/
def index (bitmap : Bitmap) (state position : Nat) : Nat := state * bitmap.stride + position

/-- The word with a single bit. -/
def bit (index : Nat) : UInt32 := 1 <<< (index % 32).toUInt32

/-- Marks a configuration. Tells whether it was not marked before. -/
def mark (bitmap : Bitmap) (state position : Nat) : Bool × Bitmap :=
  let index := bitmap.index state position
  match bitmap with
  | ⟨words, stride⟩ =>
    if inside : index / 32 < words.size then
      let word := words[index / 32]
      if word &&& bit index = 0 then (true, ⟨words.set (index / 32) (word ||| bit index), stride⟩)
      else (false, ⟨words, stride⟩)
    else (false, ⟨words, stride⟩)

/-- A bound on the number of bits that may still be set in words. -/
def roomIn : List UInt32 → Nat
  | [] => 0
  | word :: rest => (UInt32.size - word.toNat) + roomIn rest

/-- A bound on the number of configurations that may still be marked. -/
def room (bitmap : Bitmap) : Nat := roomIn bitmap.words.toList

theorem bit_ne_zero (index : Nat) : bit index ≠ 0 := by
  have all : ∀ place : Fin 32, (1 : UInt32) <<< place.val.toUInt32 ≠ 0 := by decide
  exact all ⟨index % 32, Nat.mod_lt _ (by decide)⟩

/-- Setting a bit that was not set makes a word greater. -/
theorem lt_or_of_and_eq_zero {word flag : UInt32} (apart : word &&& flag = 0)
    (nonzero : flag ≠ 0) : word.toNat < (word ||| flag).toNat := by
  refine Nat.lt_of_le_of_ne ?_ ?_
  · rw [UInt32.toNat_or]
    exact Nat.left_le_or
  · intro same
    have same : word = word ||| flag := UInt32.toNat_inj.mp same
    refine nonzero (UInt32.toNat_inj.mp (Nat.eq_of_testBit_eq fun place => ?_))
    have apartAt := congrArg (fun value => value.toNat.testBit place) apart
    have sameAt := congrArg (fun value => value.toNat.testBit place) same
    simp only [UInt32.toNat_and, UInt32.toNat_or, Nat.testBit_and, Nat.testBit_or,
      UInt32.toNat_zero, Nat.zero_testBit] at apartAt sameAt ⊢
    revert apartAt sameAt
    cases word.toNat.testBit place <;> cases flag.toNat.testBit place <;> decide

/-- A greater word leaves less room. -/
theorem roomIn_set_lt {words : List UInt32} {place : Nat} {word : UInt32}
    (inside : place < words.length) (greater : words[place].toNat < word.toNat) :
    roomIn (words.set place word) < roomIn words := by
  induction words generalizing place with
  | nil => simp at inside
  | cons head tail hypothesis =>
    have bounded := word.toNat_lt
    cases place with
    | zero =>
      simp only [List.getElem_cons_zero] at greater
      simp only [List.set_cons_zero, roomIn, UInt32.size]
      omega
    | succ place =>
      simp only [List.set_cons_succ, roomIn]
      have := hypothesis (Nat.lt_of_succ_lt_succ inside) greater
      omega

/-- Marking a new configuration leaves less room. -/
theorem room_of_mark {bitmap after : Bitmap} {state position : Nat}
    (new : bitmap.mark state position = (true, after)) : after.room < bitmap.room := by
  obtain ⟨words, stride⟩ := bitmap
  simp only [mark] at new
  split at new
  · next inside =>
    split at new
    · next apart =>
      cases new
      have greater := lt_or_of_and_eq_zero apart (bit_ne_zero _)
      simp only [room, Array.toList_set]
      refine roomIn_set_lt (by simpa using inside) ?_
      rwa [Array.getElem_toList]
    · cases new
  · cases new

/-- Marking an old configuration changes nothing. -/
theorem eq_of_mark {bitmap after : Bitmap} {state position : Nat}
    (old : bitmap.mark state position = (false, after)) : after = bitmap := by
  obtain ⟨words, stride⟩ := bitmap
  simp only [mark] at old
  split at old
  · split at old <;> cases old
    rfl
  · cases old
    rfl

end Bitmap

end Crosscheck
