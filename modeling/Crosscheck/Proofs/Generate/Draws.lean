/-
**Random texts.**

Whatever a text is made of is drawn from a stream one thing after the other, each where the one
before left the stream: texts of a length up to the greatest one, and for each of them its length
and then a place in the alphabet for every symbol. So the seed determines all texts.

* `Dice.InRange`: draws below their bounds, and `Stream.inRange_dice`, those of a stream;
* `Drawn`: things that are drawn in turn, and `Drawn.unique`, which says that they are determined;
* `Haystacks.SymbolDrawn`, `Haystacks.TextDrawn`: one symbol and one text;
* `Haystacks.drawn_toList`: a source of random texts yields texts drawn in turn.
-/
import Crosscheck.Proofs.Generate.Odometer

namespace Crosscheck

variable {σ α : Type}

/-! ### Draws in range -/

/-- Every number that is drawn is below its bound. Nothing else is known of the draws. -/
def Dice.InRange (dice : Dice σ) : Prop :=
  ∀ bound state, 0 < bound → (dice.below bound state).1 < bound

namespace Stream

theorem drawWithin_lt {bound : Nat} (positive : 0 < bound) (zone fuel : Nat) (stream : Stream) :
    (drawWithin bound zone fuel stream).1 < bound := by
  induction fuel generalizing stream with
  | zero => exact positive
  | succ fuel hypothesis =>
    rw [drawWithin]
    simp only
    split
    · refine Nat.div_lt_of_lt_mul ?_
      exact Nat.mul_lt_mul_of_pos_right stream.next.1.toNat_lt positive
    · exact hypothesis _

/-- The numbers that a stream gives are below their bounds. -/
theorem inRange_dice : dice.InRange := by
  intro bound stream positive
  show (below bound stream).1 < bound
  rw [below]
  split
  · next all =>
    rw [eq_of_beq all]
    exact stream.next.1.toNat_lt
  · exact drawWithin_lt positive _ _ stream

end Stream

/-! ### Draws in turn -/

/-- **Things that are drawn in turn**, each where the one before left the state. -/
inductive Drawn (draw : σ → α → σ → Prop) : σ → List α → σ → Prop
  | none (state : σ) : Drawn draw state [] state
  | more {state middle after : σ} {first : α} {others : List α} (step : draw state first middle)
      (rest : Drawn draw middle others after) : Drawn draw state (first :: others) after

/-- A state determines what is drawn and what it leaves. -/
def Determined (draw : σ → α → σ → Prop) : Prop :=
  ∀ ⦃state after last : σ⦄ ⦃one other : α⦄,
    draw state one after → draw state other last → one = other ∧ after = last

/-- **As many things that are drawn in turn are determined.** -/
theorem Drawn.unique {draw : σ → α → σ → Prop} (determined : Determined draw)
    {state after last : σ} {one other : List α} (drawn : Drawn draw state one after)
    (alike : Drawn draw state other last) (many : one.length = other.length) :
    one = other ∧ after = last := by
  induction drawn generalizing other with
  | none state =>
    cases alike with
    | none => exact ⟨rfl, rfl⟩
    | more => cases many
  | more step rest hypothesis =>
    cases alike with
    | none => cases many
    | more step' rest' =>
      obtain ⟨rfl, rfl⟩ := determined step step'
      obtain ⟨rfl, rfl⟩ := hypothesis rest' (Nat.succ.inj many)
      exact ⟨rfl, rfl⟩

/-! ### Symbols and texts -/

namespace Haystacks

/-- A symbol is drawn as a place in the alphabet. -/
def SymbolDrawn (dice : Dice σ) (alphabet : List String) (state : σ) (symbol : String)
    (after : σ) : Prop :=
  ∃ place, dice.below alphabet.length state = (place, after) ∧ alphabet[place]? = some symbol

/-- **A text is drawn** as its length, up to the greatest one, and then as many symbols. Where there
are no symbols it is empty, and nothing is drawn. -/
inductive TextDrawn (dice : Dice σ) (maxLength : Nat) (alphabet : List String) :
    σ → String → σ → Prop
  | blank (none : alphabet = []) (state : σ) : TextDrawn dice maxLength alphabet state "" state
  | spelled {state middle after : σ} {symbols : List String} (some : alphabet ≠ [])
      (length : dice.below (maxLength + 1) state = (symbols.length, middle))
      (spelling : Drawn (SymbolDrawn dice alphabet) middle symbols after) :
      TextDrawn dice maxLength alphabet state (String.join symbols) after

variable {dice : Dice σ} {maxLength : Nat} {alphabet : List String}

theorem determined_symbolDrawn : Determined (SymbolDrawn dice alphabet) := by
  rintro state after last one other ⟨place, draw, there⟩ ⟨place', draw', there'⟩
  obtain ⟨rfl, rfl⟩ := Prod.mk.inj (draw.symm.trans draw')
  exact ⟨Option.some.inj (there.symm.trans there'), rfl⟩

theorem determined_textDrawn : Determined (TextDrawn dice maxLength alphabet) := by
  intro state after last one other drawn alike
  cases drawn with
  | blank none =>
    cases alike with
    | blank => exact ⟨rfl, rfl⟩
    | spelled some => exact absurd none some
  | spelled some length spelling =>
    cases alike with
    | blank none => exact absurd none some
    | spelled _ length' spelling' =>
      obtain ⟨many, rfl⟩ := Prod.mk.inj (length.symm.trans length')
      obtain ⟨rfl, rfl⟩ := spelling.unique determined_symbolDrawn spelling' many
      exact ⟨rfl, rfl⟩

/-! ### What a source draws -/

theorem drawn_drawSymbols (inRange : dice.InRange) (some : alphabet ≠ []) (state : σ)
    (count : Nat) : ∃ symbols, symbols.length = count ∧
      Drawn (SymbolDrawn dice alphabet) state symbols
        (drawSymbols dice alphabet state count).2 ∧
      (drawSymbols dice alphabet state count).1 = String.join symbols := by
  induction count generalizing state with
  | zero => exact ⟨[], rfl, .none state, rfl⟩
  | succ count hypothesis =>
    have below := inRange alphabet.length state (List.length_pos_iff.mpr some)
    obtain ⟨symbols, many, spelling, joined⟩ := hypothesis (dice.below alphabet.length state).2
    refine ⟨alphabet[(dice.below alphabet.length state).1] :: symbols, congrArg (· + 1) many,
      .more ⟨_, rfl, List.getElem?_eq_getElem below⟩ spelling, ?_⟩
    have spelled : alphabet.getD (dice.below alphabet.length state).1 "" =
        alphabet[(dice.below alphabet.length state).1] := by
      rw [List.getD_eq_getElem?_getD, List.getElem?_eq_getElem below, Option.getD_some]
    rw [String.join_cons, ← joined, ← spelled]
    rfl

theorem textDrawn_drawText (inRange : dice.InRange) (state : σ) :
    TextDrawn dice maxLength alphabet state (drawText dice maxLength alphabet state).1
      (drawText dice maxLength alphabet state).2 := by
  unfold drawText
  split
  · next none => exact .blank none state
  · next some =>
    obtain ⟨symbols, many, spelling, joined⟩ := drawn_drawSymbols inRange some
      (dice.below (maxLength + 1) state).2 (dice.below (maxLength + 1) state).1
    simp only [joined]
    exact .spelled some (by rw [many]) spelling

/-- **A source of random texts yields as many texts, drawn in turn.** -/
theorem drawn_toList {source : Haystacks} (free : source.forcedEmpty = false) (stream : Stream)
    (count : Nat) : ∃ texts after, { source with random := some (stream, count) }.toList = texts ∧
      texts.length = count ∧
      Drawn (TextDrawn Stream.dice source.maxLength source.alphabet) stream texts after := by
  induction count generalizing stream with
  | zero => exact ⟨[], stream, toList_eq_nil (by simp [Haystacks.next, free]), rfl, .none stream⟩
  | succ count hypothesis =>
    have first : TextDrawn Stream.dice source.maxLength source.alphabet stream _ _ :=
      textDrawn_drawText Stream.inRange_dice stream
    cases drawing : drawText Stream.dice source.maxLength source.alphabet stream with
    | mk text middle =>
      rw [drawing] at first
      have step : { source with random := some (stream, count + 1) }.next =
          some (text, { source with random := some (middle, count) }) := by
        simp [Haystacks.next, free, drawing]
      obtain ⟨texts, after, yielded, many, others⟩ := hypothesis middle
      exact ⟨text :: texts, after, by rw [toList_eq_cons step, yielded],
        congrArg (· + 1) many, .more first others⟩

end Haystacks

end Crosscheck
