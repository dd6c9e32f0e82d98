/-
**Haystacks.**

A source of haystacks yields the texts over an alphabet of symbols: by default every text of at most
a given number of symbols, short ones first, and among texts of one length the last symbol changes
fastest. It can be told to yield an extra empty text first, or random texts instead.

* `Haystacks.next`: the next text and the source after it;
* `Haystacks.toList`: all texts still to come;
* `Haystacks.forEach`: a step for each text, in turn;
* `Haystacks.next_remaining`: each text that is yielded is one less to come.
-/
import Crosscheck.Random.Stream

namespace Crosscheck

/-- A source of haystacks. -/
structure Haystacks where
  /-- The greatest number of symbols. -/
  maxLength : Nat
  /-- The symbols. -/
  alphabet : List String
  /-- The places in the alphabet of the symbols of the next text, last symbol first. -/
  digits : List Nat
  /-- Whether the enumeration goes on. -/
  more : Bool
  /-- Whether an extra empty text comes first. -/
  forcedEmpty : Bool
  /-- Where the random texts come from, if there are any, and how many are left. -/
  random : Option (Stream × Nat)

namespace Haystacks

/-- The source of all texts of at most `maxLength` symbols. -/
def ofAlphabet (maxLength : Nat) (alphabet : List String) : Haystacks :=
  ⟨maxLength, alphabet, [], true, false, none⟩

/-- Starts the enumeration again, without an extra empty text and without random texts. -/
def reset (source : Haystacks) : Haystacks := ofAlphabet source.maxLength source.alphabet

/-- Puts an extra empty text first. -/
def forceEmpty (source : Haystacks) : Haystacks := { source with forcedEmpty := true }

/-- Replaces what is left by `count` random texts. -/
def useRandom (source : Haystacks) (seed : UInt64) (count : Nat) : Haystacks :=
  { source with random := some (.ofSeed seed, count) }

/-- Whether there is another text. -/
def hasNext (source : Haystacks) : Bool :=
  source.forcedEmpty ||
    match source.random with
    | some (_, left) => 0 < left
    | none => source.more

/-! ### Enumeration -/

/-- The text that the digits stand for. -/
def textOf (alphabet : List String) (digits : List Nat) : String :=
  String.join (digits.reverse.map fun digit => alphabet.getD digit "")

/-- The next digits of the same length: the last symbol moves on, and past the end of the alphabet
it starts again and the symbol before it moves on. -/
def successor (size : Nat) : List Nat → Option (List Nat)
  | [] => none
  | digit :: rest =>
    if digit + 1 < size then some ((digit + 1) :: rest)
    else (successor size rest).map (0 :: ·)

/-- The next digits: those of the same length, then the first ones that are one longer. -/
def following (source : Haystacks) : Option (List Nat) :=
  match successor source.alphabet.length source.digits with
  | some digits => some digits
  | none =>
    if source.digits.length < source.maxLength ∧ source.alphabet ≠ [] then
      some (List.replicate (source.digits.length + 1) 0)
    else none

/-! ### Random texts -/

/-- Draws the given number of symbols. -/
def drawSymbols {σ : Type} (dice : Dice σ) (alphabet : List String) (state : σ) :
    Nat → String × σ
  | 0 => ("", state)
  | count + 1 =>
    let (digit, state) := dice.below alphabet.length state
    let (rest, state) := drawSymbols dice alphabet state count
    (alphabet.getD digit "" ++ rest, state)

/-- Draws a text: its length first, then its symbols. -/
def drawText {σ : Type} (dice : Dice σ) (maxLength : Nat) (alphabet : List String) (state : σ) :
    String × σ :=
  if alphabet = [] then ("", state)
  else
    let (length, state) := dice.below (maxLength + 1) state
    drawSymbols dice alphabet state length

/-! ### The sequence -/

/-- The next text, and the source after it. -/
def next (source : Haystacks) : Option (String × Haystacks) :=
  if source.forcedEmpty then some ("", { source with forcedEmpty := false })
  else
    match source.random with
    | some (_, 0) => none
    | some (stream, left + 1) =>
      let (text, stream) := drawText Stream.dice source.maxLength source.alphabet stream
      some (text, { source with random := some (stream, left) })
    | none =>
      if source.more then
        let text := textOf source.alphabet source.digits
        match following source with
        | some digits => some (text, { source with digits := digits })
        | none => some (text, { source with digits := [], more := false })
      else none

/-! ### What is left -/

/-- How many more texts of the same length follow the one that the digits stand for. -/
def followingOfLength (size : Nat) : List Nat → Nat
  | [] => 0
  | digit :: rest => (size - 1 - digit) + size * followingOfLength size rest

/-- How many texts have a given length. -/
def ofLength (size : Nat) : Nat → Nat
  | 0 => 1
  | length + 1 => size * ofLength size length

/-- How many texts have more than `length` and at most `length + extra` symbols. -/
def longerBy (size length : Nat) : Nat → Nat
  | 0 => 0
  | extra + 1 => ofLength size (length + 1) + longerBy size (length + 1) extra

/-- How many texts are still to come. -/
def remaining (source : Haystacks) : Nat :=
  (if source.forcedEmpty then 1 else 0) +
    match source.random with
    | some (_, left) => left
    | none =>
      if source.more then
        1 + followingOfLength source.alphabet.length source.digits +
          longerBy source.alphabet.length source.digits.length
            (source.maxLength - source.digits.length)
      else 0

theorem followingOfLength_successor {size : Nat} (positive : 0 < size) {digits after : List Nat}
    (step : successor size digits = some after) :
    followingOfLength size digits = followingOfLength size after + 1 ∧
      after.length = digits.length := by
  induction digits generalizing after with
  | nil => simp [successor] at step
  | cons digit rest hypothesis =>
    rw [successor] at step
    split at step
    · next below =>
      cases step
      simp only [followingOfLength, List.length_cons, and_true]
      omega
    · next atEnd =>
      obtain ⟨tail, tailStep, rfl⟩ := Option.map_eq_some_iff.mp step
      obtain ⟨count, length⟩ := hypothesis tailStep
      simp only [followingOfLength, List.length_cons, length, and_true, count, Nat.mul_add]
      omega

theorem successor_zero (digits : List Nat) : successor 0 digits = none := by
  induction digits with
  | nil => rfl
  | cons digit rest hypothesis => simp [successor, hypothesis]

/-- The last digits of a length are followed by no others. -/
theorem followingOfLength_last {size : Nat} {digits : List Nat}
    (last : successor size digits = none) : followingOfLength size digits = 0 := by
  induction digits with
  | nil => rfl
  | cons digit rest hypothesis =>
    rw [successor] at last
    split at last
    · cases last
    · next atEnd =>
      simp only [Option.map_eq_none_iff] at last
      simp only [followingOfLength, hypothesis last]
      omega

theorem ofLength_pos {size : Nat} (positive : 0 < size) (length : Nat) :
    0 < ofLength size length := by
  induction length with
  | zero => exact Nat.one_pos
  | succ length hypothesis => exact Nat.mul_pos positive hypothesis

theorem followingOfLength_zeros (size length : Nat) :
    followingOfLength size (List.replicate length 0) = ofLength size length - 1 := by
  induction length with
  | zero => rfl
  | succ length hypothesis =>
    simp only [List.replicate_succ, followingOfLength, hypothesis, ofLength, Nat.mul_sub]
    rcases Nat.eq_zero_or_pos size with rfl | positive
    · simp
    · have := Nat.le_mul_of_pos_right size (ofLength_pos positive length)
      omega

/-- Moving on to the next digits leaves one text less. -/
theorem remaining_following {source : Haystacks} {digits : List Nat}
    (step : following source = some digits) :
    followingOfLength source.alphabet.length source.digits +
        longerBy source.alphabet.length source.digits.length
          (source.maxLength - source.digits.length) =
      1 + followingOfLength source.alphabet.length digits +
        longerBy source.alphabet.length digits.length (source.maxLength - digits.length) := by
  rw [following] at step
  split at step
  · next after same =>
    cases step
    have positive : 0 < source.alphabet.length := by
      rcases Nat.eq_zero_or_pos source.alphabet.length with empty | positive
      · rw [empty, successor_zero] at same
        cases same
      · exact positive
    obtain ⟨count, length⟩ := followingOfLength_successor positive same
    rw [count, length]
    omega
  · next last =>
    split at step
    · next room =>
      cases step
      have positive : 0 < source.alphabet.length := List.length_pos_iff.mpr room.2
      have positiveCount := ofLength_pos positive (source.digits.length + 1)
      rw [followingOfLength_last last, followingOfLength_zeros, List.length_replicate]
      have extra : source.maxLength - source.digits.length =
          (source.maxLength - (source.digits.length + 1)) + 1 := by omega
      rw [extra, longerBy]
      omega
    · cases step

theorem longerBy_zero (length extra : Nat) : longerBy 0 length extra = 0 := by
  induction extra generalizing length with
  | zero => rfl
  | succ extra hypothesis => simp [longerBy, ofLength, hypothesis]

/-- Nothing is left after the last digits. -/
theorem remaining_last {source : Haystacks} (last : following source = none) :
    followingOfLength source.alphabet.length source.digits +
      longerBy source.alphabet.length source.digits.length
        (source.maxLength - source.digits.length) = 0 := by
  rw [following] at last
  split at last
  · cases last
  · next noSuccessor =>
    split at last
    · cases last
    · next full =>
      rw [followingOfLength_last noSuccessor]
      rcases Nat.eq_zero_or_pos source.alphabet.length with empty | positive
      · rw [empty, longerBy_zero]
      · have long : source.maxLength ≤ source.digits.length := by
          apply Nat.le_of_not_lt
          exact fun short => full ⟨short, List.length_pos_iff.mp positive⟩
        rw [Nat.sub_eq_zero_of_le long, longerBy]

/-- Each text that is yielded is one less to come. -/
theorem next_remaining {source after : Haystacks} {text : String}
    (step : source.next = some (text, after)) : source.remaining = after.remaining + 1 := by
  rw [next] at step
  split at step
  · next forced =>
    cases step
    simp only [remaining, forced]
    simp; omega
  · next free =>
    split at step
    · cases step
    · next stream left random =>
      cases step
      simp [remaining, free, random]
    · next random =>
      split at step
      · next more =>
        split at step
        · next digits same =>
          cases step
          have count := remaining_following same
          simp only [remaining, free, random, more]
          simp; omega
        · next last =>
          cases step
          have := remaining_last last
          simp [remaining, free, random, more]
          omega
      · cases step

/-- All texts still to come, in order. -/
def toList (source : Haystacks) : List String :=
  match _step : source.next with
  | none => []
  | some (text, after) => text :: toList after
termination_by source.remaining
decreasing_by rw [next_remaining _step]; exact Nat.lt_succ_self _

/-- Takes a step for each text still to come, in order, up to the first that fails. A step is told
the source after its text. -/
def forEach {ε σ : Type} (source : Haystacks) (act : String → Haystacks → EStateM ε σ Unit) :
    EStateM ε σ Unit := fun state =>
  match _step : source.next with
  | none => .ok () state
  | some (text, after) =>
    match act text after state with
    | .ok () state => after.forEach act state
    | .error fault state => .error fault state
termination_by source.remaining
decreasing_by rw [next_remaining _step]; exact Nat.lt_succ_self _

/-- The next texts, at most `count` of them, and the source after them. -/
def take (source : Haystacks) : Nat → List String × Haystacks
  | 0 => ([], source)
  | count + 1 =>
    match source.next with
    | none => ([], source)
    | some (text, after) =>
      let (texts, after) := after.take count
      (text :: texts, after)

end Haystacks

end Crosscheck
