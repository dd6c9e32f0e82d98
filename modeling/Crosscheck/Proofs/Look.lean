/-
**Look-around assertions come in mirrored pairs.**

An assertion sees no more than the two bytes next to its position, either of which may be missing.
In a haystack that is read backwards the two have changed sides, so what one assertion tells of the
one side, another tells of the other side. A carriage return and a line feed are one end of a line
in this order only: for the assertions that know them as such, the two are exchanged as well.

* `Look.mirror`, `Look.reflection`: an assertion and its haystack, read backwards;
* `Look.holds_eq_holdsBetween`: an assertion sees only the bytes next to its position;
* `Look.holdsBetween_mirror`: the mirror of an assertion sees the same on the other side;
* `Look.holds?_eq`: an assertion reads only bytes of the haystack;
* `Look.holds_mirror`: both together, at every position of every haystack.
-/
import Crosscheck.Look
import Mathlib.Logic.Equiv.Basic

namespace Crosscheck

namespace Look

/-- The assertion that says the same of a haystack that is read backwards. -/
def mirror : Look → Look
  | start => finish
  | finish => start
  | startLF => endLF
  | endLF => startLF
  | startCRLF => endCRLF
  | endCRLF => startCRLF
  | word => word
  | wordNegate => wordNegate
  | wordStart => wordEnd
  | wordEnd => wordStart
  | wordStartHalf => wordEndHalf
  | wordEndHalf => wordStartHalf

/-- What becomes of each byte when a haystack is read backwards: most assertions take it as it is,
but to some a carriage return before a line feed is what the two are in the other order. -/
def reflection : Look → UInt8 → UInt8
  | startCRLF | endCRLF => Equiv.swap carriageReturn lineFeed
  | _ => id

variable {haystack : Array UInt8} {position : Nat}

/-! ### The bytes next to a position -/

/-- The byte before a position, if there is one. -/
def before? (haystack : Array UInt8) (position : Nat) : Option UInt8 :=
  if position = 0 then none else haystack[position - 1]?

theorem exists_before (inside : position ≤ haystack.size) (later : position ≠ 0) :
    ∃ byte, before? haystack position = some byte ∧ haystack[position - 1]? = some byte := by
  have read : haystack[position - 1]? = some haystack[position - 1] :=
    Array.getElem?_eq_getElem (by omega)
  exact ⟨_, (if_neg later).trans read, read⟩

theorem exists_after (inside : position ≤ haystack.size) (earlier : position ≠ haystack.size) :
    ∃ byte, haystack[position]? = some byte :=
  ⟨_, Array.getElem?_eq_getElem (Nat.lt_of_le_of_ne inside earlier)⟩

/-- Nothing stands before the beginning, and a byte before every other position. -/
theorem before?_cases (inside : position ≤ haystack.size) :
    before? haystack position = none ∧ (position == 0) = true ∧ ¬0 < position ∨
      ∃ byte, before? haystack position = some byte ∧ haystack[position - 1]? = some byte ∧
        (position == 0) = false ∧ 0 < position := by
  by_cases beginning : position = 0
  · exact .inl ⟨if_pos beginning, beq_iff_eq.mpr beginning, beginning ▸ Nat.lt_irrefl 0⟩
  · obtain ⟨byte, before, read⟩ := exists_before inside beginning
    exact .inr ⟨byte, before, read, beq_eq_false_iff_ne.mpr beginning,
      Nat.pos_of_ne_zero beginning⟩

/-- Nothing stands at the end, and a byte at every other position. -/
theorem after?_cases (inside : position ≤ haystack.size) :
    haystack[position]? = none ∧ (position == haystack.size) = true ∧ haystack.size ≤ position ∨
      ∃ byte, haystack[position]? = some byte ∧ (position == haystack.size) = false ∧
        position < haystack.size := by
  by_cases ending : position = haystack.size
  · have beyond : haystack.size ≤ position := Nat.le_of_eq ending.symm
    exact .inl ⟨Array.getElem?_eq_none beyond, beq_iff_eq.mpr ending, beyond⟩
  · obtain ⟨byte, after⟩ := exists_after inside ending
    exact .inr ⟨byte, after, beq_eq_false_iff_ne.mpr ending, Nat.lt_of_le_of_ne inside ending⟩

/-- Whether an assertion holds between two bytes, either of which may be missing. -/
def holdsBetween (before after : Option UInt8) : Look → Bool
  | start => before.isNone
  | finish => after.isNone
  | startLF => before.all (· == lineFeed)
  | endLF => after.all (· == lineFeed)
  | startCRLF =>
    before.all (· == lineFeed) || (before.any (· == carriageReturn) && !after.any (· == lineFeed))
  | endCRLF =>
    after.all (· == carriageReturn) ||
      (after.any (· == lineFeed) && !before.any (· == carriageReturn))
  | word => before.any isWordByte != after.any isWordByte
  | wordNegate => before.any isWordByte == after.any isWordByte
  | wordStart => !before.any isWordByte && after.any isWordByte
  | wordEnd => before.any isWordByte && !after.any isWordByte
  | wordStartHalf => !before.any isWordByte
  | wordEndHalf => !after.any isWordByte

/-- **An assertion sees only the two bytes next to its position.** -/
theorem holds_eq_holdsBetween (look : Look) (inside : position ≤ haystack.size) :
    look.holds haystack position =
      look.holdsBetween (before? haystack position) haystack[position]? := by
  -- A byte may be missing on either side: both are in the empty haystack.
  rcases before?_cases inside with ⟨before, beginning, _⟩ | ⟨_, before, read, beginning, _⟩ <;>
  rcases after?_cases inside with ⟨after, ending, _⟩ | ⟨_, after, ending, _⟩ <;>
  cases look <;>
  simp [holds, holdsBetween, wordBefore, wordAfter, bne, Nat.not_le_of_gt, *]

/-! ### Reading backwards -/

theorem exchange_beq_lineFeed (byte : UInt8) :
    (Equiv.swap carriageReturn lineFeed byte == lineFeed) = (byte == carriageReturn) := by
  rw [Bool.eq_iff_iff, beq_iff_eq, beq_iff_eq, Equiv.swap_apply_eq_iff, Equiv.swap_apply_right]

theorem exchange_beq_carriageReturn (byte : UInt8) :
    (Equiv.swap carriageReturn lineFeed byte == carriageReturn) = (byte == lineFeed) := by
  rw [Bool.eq_iff_iff, beq_iff_eq, beq_iff_eq, Equiv.swap_apply_eq_iff, Equiv.swap_apply_left]

/-- **The mirror of an assertion sees the same** when the two bytes have changed sides. -/
theorem holdsBetween_mirror (look : Look) (before after : Option UInt8) :
    look.mirror.holdsBetween (after.map look.reflection) (before.map look.reflection) =
      look.holdsBetween before after := by
  cases look with
  | startCRLF | endCRLF =>
    simp only [mirror, reflection, holdsBetween, Option.any_map, Option.all_map,
      exchange_beq_lineFeed, exchange_beq_carriageReturn]
  | start | finish | startLF | endLF | wordStartHalf | wordEndHalf =>
    simp only [mirror, reflection, holdsBetween, Option.map_id, id]
  | word =>
    simp only [mirror, reflection, holdsBetween, Option.map_id, id]
    exact bne_comm
  | wordNegate =>
    simp only [mirror, reflection, holdsBetween, Option.map_id, id]
    exact Bool.beq_comm
  | wordStart | wordEnd =>
    simp only [mirror, reflection, holdsBetween, Option.map_id, id]
    exact Bool.and_comm ..

/-- What stands before a position backwards stands behind it forwards. -/
theorem before?_reverse (reflection : UInt8 → UInt8) (inside : position ≤ haystack.size) :
    before? (haystack.reverse.map reflection) (haystack.size - position) =
      haystack[position]?.map reflection := by
  rcases Nat.lt_or_eq_of_le inside with within | rfl
  · have place : haystack.size - 1 - (haystack.size - position - 1) = position := by omega
    rw [before?, if_neg (by omega), Array.getElem?_map, Array.getElem?_reverse (by omega), place]
  · rw [before?, if_pos (Nat.sub_self _), Array.getElem?_eq_none (Nat.le_refl _), Option.map_none]

/-- What stands behind a position backwards stands before it forwards. -/
theorem after?_reverse (reflection : UInt8 → UInt8) (inside : position ≤ haystack.size) :
    (haystack.reverse.map reflection)[haystack.size - position]? =
      (before? haystack position).map reflection := by
  rw [Array.getElem?_map, before?]
  rcases Nat.eq_zero_or_pos position with rfl | positive
  · rw [if_pos rfl, Array.getElem?_eq_none (by simp)]
  · have place : haystack.size - 1 - (haystack.size - position) = position - 1 := by omega
    rw [if_neg (Nat.ne_of_gt positive), Array.getElem?_reverse (by omega), place]

/-! ### Reading nothing but the haystack -/

/-- The first operand decides alone if it is true. -/
def either? (first : Bool) (second : Option Bool) : Option Bool :=
  if first then some true else second

/-- The first operand decides alone if it is false. -/
def both? (first : Bool) (second : Option Bool) : Option Bool :=
  if first then second else some false

/-- Whether an assertion holds at a position, if all bytes are there that are read to find out.
Whether word bytes stand next to the position is looked up for every assertion. -/
def holds? (look : Look) (haystack : Array UInt8) (position : Nat) : Option Bool := do
  let before := before? haystack position
  let after := haystack[position]?
  let wordBefore ← both? (0 < position) (return isWordByte (← before))
  let wordAfter ← both? (position < haystack.size) (return isWordByte (← after))
  match look with
  | start => return position == 0
  | finish => return position == haystack.size
  | startLF => either? (position == 0) (return (← before) == lineFeed)
  | endLF => either? (position == haystack.size) (return (← after) == lineFeed)
  | startCRLF =>
    either? (position == 0) do
      either? ((← before) == lineFeed) do
        both? ((← before) == carriageReturn) do
          either? (haystack.size ≤ position) (return (← after) != lineFeed)
  | endCRLF =>
    either? (position == haystack.size) do
      either? ((← after) == carriageReturn) do
        both? ((← after) == lineFeed) do
          either? (position == 0) (return (← before) != carriageReturn)
  | word => return wordBefore != wordAfter
  | wordNegate => return wordBefore == wordAfter
  | wordStart => return !wordBefore && wordAfter
  | wordEnd => return wordBefore && !wordAfter
  | wordStartHalf => return !wordBefore
  | wordEndHalf => return !wordAfter

section Operands

variable {first value : Bool} {second : Option Bool}

theorem either?_eq (needed : first = false → second = some value) :
    either? first second = some (first || value) := by
  cases first with
  | true => rfl
  | false => exact needed rfl

theorem both?_eq (needed : first = true → second = some value) :
    both? first second = some (first && value) := by
  cases first with
  | true => exact needed rfl
  | false => rfl

end Operands

/-- Whether a word byte stands before is found out by reading the byte there, if there is one. -/
theorem both?_wordBefore (inside : position ≤ haystack.size) :
    both? (0 < position) (return isWordByte (← before? haystack position)) =
      some (wordBefore haystack position) := by
  refine both?_eq fun later => ?_
  obtain ⟨byte, before, read⟩ := exists_before inside (Nat.ne_of_gt (of_decide_eq_true later))
  rw [before, read]
  rfl

/-- Whether a word byte stands behind is found out by reading the byte there, if there is one. -/
theorem both?_wordAfter (inside : position ≤ haystack.size) :
    both? (position < haystack.size) (return isWordByte (← haystack[position]?)) =
      some (wordAfter haystack position) := by
  refine both?_eq fun earlier => ?_
  obtain ⟨byte, after⟩ := exists_after inside (Nat.ne_of_lt (of_decide_eq_true earlier))
  rw [after]
  rfl

/-- **An assertion reads only bytes of the haystack** at its positions, the end included. -/
theorem holds?_eq_some (look : Look) (inside : position ≤ haystack.size) :
    look.holds? haystack position = some (look.holds haystack position) := by
  rw [holds?, both?_wordBefore inside, both?_wordAfter inside]
  -- No byte is read on a side before the position is known not to be at that end.
  cases look with
  | start | finish | word | wordNegate | wordStart | wordEnd | wordStartHalf | wordEndHalf => rfl
  | startLF =>
    refine either?_eq fun later => ?_
    obtain ⟨byte, before, read⟩ := exists_before inside (beq_eq_false_iff_ne.mp later)
    rw [before, read]
    rfl
  | endLF =>
    refine either?_eq fun earlier => ?_
    obtain ⟨byte, after⟩ := exists_after inside (beq_eq_false_iff_ne.mp earlier)
    rw [after]
    rfl
  | startCRLF =>
    rw [holds, Bool.or_assoc]
    refine either?_eq fun later => ?_
    obtain ⟨byte, before, read⟩ := exists_before inside (beq_eq_false_iff_ne.mp later)
    rw [before, read]
    refine either?_eq fun _ => both?_eq fun _ => either?_eq fun earlier => ?_
    obtain ⟨next, after⟩ := exists_after inside fun ending =>
      of_decide_eq_false earlier (Nat.le_of_eq ending.symm)
    rw [after]
    rfl
  | endCRLF =>
    rw [holds, Bool.or_assoc]
    refine either?_eq fun earlier => ?_
    obtain ⟨next, after⟩ := exists_after inside (beq_eq_false_iff_ne.mp earlier)
    rw [after]
    refine either?_eq fun _ => both?_eq fun _ => either?_eq fun later => ?_
    obtain ⟨byte, before, read⟩ := exists_before inside (beq_eq_false_iff_ne.mp later)
    rw [before, read]
    rfl

/-- **An assertion is decided at the positions of the haystack** and nowhere else. -/
theorem holds?_eq (look : Look) (haystack : Array UInt8) (position : Nat) :
    look.holds? haystack position =
      if position ≤ haystack.size then some (look.holds haystack position) else none := by
  split
  · next inside => exact holds?_eq_some look inside
  · next beyond =>
    have nothing : before? haystack position = none := by
      rw [before?, if_neg (by omega), Array.getElem?_eq_none (by omega)]
    have later : decide (0 < position) = true := decide_eq_true (by omega)
    rw [holds?, nothing, later]
    rfl

/-! ### Both together -/

/-- **Every assertion has a mirror.** At each position of a haystack, its end included, an assertion
is decided by bytes of the haystack alone; and it holds exactly if its mirror holds at the same
place of the haystack read backwards, where carriage returns and line feeds are exchanged for the
assertions that take the one before the other as a single end of a line. -/
theorem holds_mirror (look : Look) {haystack : Array UInt8} {position : Nat}
    (inside : position ≤ haystack.size) :
    look.holds? haystack position = some (look.holds haystack position) ∧
      (look.holds haystack position = true ↔
        look.mirror.holds (haystack.reverse.map look.reflection)
          (haystack.size - position) = true) := by
  have inside' : haystack.size - position ≤ (haystack.reverse.map look.reflection).size := by
    rw [Array.size_map, Array.size_reverse]
    exact Nat.sub_le ..
  refine ⟨(holds?_eq look haystack position).trans (if_pos inside), ?_⟩
  rw [holds_eq_holdsBetween look inside, holds_eq_holdsBetween look.mirror inside',
    before?_reverse _ inside, after?_reverse _ inside, holdsBetween_mirror]

/-- No line begins between a carriage return and a line feed. Read backwards, none ends there once
the two are exchanged, and one would if they were not. -/
theorem holds_mirror_lineEnd :
    let haystack : Array UInt8 := #[0x61, carriageReturn, lineFeed]
    2 ≤ haystack.size ∧ startCRLF.holds? haystack 2 = some false ∧
      (startCRLF.holds haystack 2 = true ↔
        endCRLF.holds (haystack.reverse.map (Equiv.swap carriageReturn lineFeed)) 1 = true) ∧
      endCRLF.holds (haystack.reverse.map (Equiv.swap carriageReturn lineFeed)) 1 = false ∧
      endCRLF.holds haystack.reverse 1 = true := by
  intro haystack
  have inside : 2 ≤ haystack.size := by decide
  obtain ⟨read, same⟩ := holds_mirror startCRLF inside
  have fails : startCRLF.holds haystack 2 = false := by decide
  have backwards : haystack.reverse = #[lineFeed, carriageReturn, 0x61] := by simp [haystack]
  refine ⟨inside, read.trans (congrArg some fails), same, ?_, by rw [backwards]; decide⟩
  exact Bool.eq_false_iff.mpr fun holds => Bool.eq_false_iff.mp fails (same.mpr holds)

end Look

end Crosscheck
