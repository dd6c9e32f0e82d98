/-
**The texts that a source of haystacks yields.**

The digits of a source move like an odometer: the last symbol fastest, and when all digits of a
length are used up the next length starts over. Read in this order they spell the texts of each
length, every text followed by each symbol in turn.

* `Haystacks.textsOf`, `Haystacks.allTexts`: the texts of one length, and of all lengths up to one;
* `Haystacks.onwards`: the digits that follow given ones among those of the same length;
* `Haystacks.toList_ofAlphabet`: a source yields all texts, short ones first.
-/
import Crosscheck.Generate.Haystacks
import Mathlib.Data.List.Basic

namespace Crosscheck

namespace Haystacks

/-- The texts of a number of symbols: each text with one symbol less, followed by each symbol. -/
def textsOf (alphabet : List String) : Nat → List String
  | 0 => [""]
  | length + 1 => (textsOf alphabet length).flatMap fun text => alphabet.map (text ++ ·)

/-- The texts of at most a number of symbols, short ones first. -/
def allTexts (maxLength : Nat) (alphabet : List String) : List String :=
  (List.range (maxLength + 1)).flatMap (textsOf alphabet)

/-! ### Digits of one length -/

/-- The digits of a length, last symbol first and fastest. -/
def digitsOf (size : Nat) : Nat → List (List Nat)
  | 0 => [[]]
  | length + 1 => (digitsOf size length).flatMap fun rest => (List.range size).map (· :: rest)

/-- The digits from given ones on, among those of the same length. -/
def onwards (size : Nat) : List Nat → List (List Nat)
  | [] => [[]]
  | digit :: rest =>
    (List.range' digit (size - digit)).map (· :: rest) ++
      (onwards size rest).tail.flatMap fun rest => (List.range size).map (· :: rest)

variable {size maxLength : Nat} {digits : List Nat} {alphabet : List String}

theorem onwards_cons (below : ∀ digit ∈ digits, digit < size) :
    onwards size digits = digits :: (onwards size digits).tail := by
  cases digits with
  | nil => rfl
  | cons digit rest =>
    have less := below digit List.mem_cons_self
    rw [onwards, show size - digit = size - (digit + 1) + 1 by omega, List.range'_succ]
    rfl

theorem length_successor {after : List Nat} (step : successor size digits = some after) :
    after.length = digits.length := by
  rcases Nat.eq_zero_or_pos size with rfl | positive
  · rw [successor_zero] at step
    cases step
  · exact (followingOfLength_successor positive step).2

theorem below_successor {after : List Nat} (below : ∀ digit ∈ digits, digit < size)
    (step : successor size digits = some after) : ∀ digit ∈ after, digit < size := by
  induction digits generalizing after with
  | nil => cases step
  | cons digit rest hypothesis =>
    obtain ⟨less, others⟩ := List.forall_mem_cons.mp below
    rw [successor] at step
    split at step
    · next room =>
      cases step
      exact List.forall_mem_cons.mpr ⟨room, others⟩
    · next full =>
      obtain ⟨tail, next, rfl⟩ := Option.map_eq_some_iff.mp step
      exact List.forall_mem_cons.mpr ⟨by omega, hypothesis others next⟩

/-- **The odometer**: what comes from given digits on is these digits and what comes from the next
ones on. -/
theorem onwards_eq (below : ∀ digit ∈ digits, digit < size) :
    onwards size digits = digits :: ((successor size digits).map (onwards size)).getD [] := by
  induction digits with
  | nil => rfl
  | cons digit rest hypothesis =>
    obtain ⟨less, below⟩ := List.forall_mem_cons.mp below
    have others := hypothesis below
    have first : List.range' digit (size - digit) =
        digit :: List.range' (digit + 1) (size - (digit + 1)) := by
      rw [show size - digit = size - (digit + 1) + 1 by omega, List.range'_succ]
    rw [onwards, first, List.map_cons, List.cons_append, successor]
    congr 1
    split
    · next room => rfl
    · next full =>
      rw [Nat.sub_eq_zero_of_le (Nat.le_of_not_lt full)]
      cases next : successor size rest with
      | none =>
        rw [next] at others
        rw [others]
        rfl
      | some after =>
        -- the digits before start again, so all of theirs come once more
        rw [next] at others
        rw [others]
        show (onwards size after).flatMap _ = onwards size (0 :: after)
        rw [onwards_cons (below_successor below next), onwards, List.flatMap_cons,
          List.range_eq_range', Nat.sub_zero]

theorem onwards_zeros (positive : 0 < size) (length : Nat) :
    onwards size (List.replicate length 0) = digitsOf size length := by
  induction length with
  | zero => rfl
  | succ length hypothesis =>
    have below : ∀ digit ∈ List.replicate length 0, digit < size := by
      intro digit member
      rw [List.eq_of_mem_replicate member]
      exact positive
    rw [List.replicate_succ, onwards, digitsOf, ← hypothesis, Nat.sub_zero,
      ← List.range_eq_range']
    conv_rhs => rw [onwards_cons below, List.flatMap_cons]

theorem digitsOf_zero (length : Nat) : digitsOf 0 (length + 1) = [] := by
  rw [digitsOf]
  exact List.flatMap_eq_nil_iff.mpr fun _ _ => rfl

theorem textOf_cons (alphabet : List String) (digit : Nat) (rest : List Nat) :
    textOf alphabet (digit :: rest) = textOf alphabet rest ++ alphabet.getD digit "" := by
  simp [textOf]

theorem map_textOf (alphabet : List String) (length : Nat) :
    (digitsOf alphabet.length length).map (textOf alphabet) = textsOf alphabet length := by
  induction length with
  | zero => rfl
  | succ length hypothesis =>
    rw [digitsOf, textsOf, ← hypothesis, List.map_flatMap, List.flatMap_map]
    congr 1
    funext rest
    rw [List.map_map]
    refine List.ext_getElem (by simp) fun index within _ => ?_
    have there : index < alphabet.length := by simpa using within
    simp [textOf_cons, there]

/-! ### A source that enumerates -/

/-- The source whose next text is spelled by the digits. -/
def atDigits (maxLength : Nat) (alphabet : List String) (digits : List Nat) : Haystacks :=
  ⟨maxLength, alphabet, digits, true, false, none⟩

theorem toList_eq_nil {source : Haystacks} (last : source.next = none) : source.toList = [] := by
  rw [toList, last]

theorem toList_eq_cons {source after : Haystacks} {text : String}
    (step : source.next = some (text, after)) : source.toList = text :: after.toList := by
  rw [toList, step]

/-- What a source yields texts over does not change. -/
theorem next_frame {source after : Haystacks} {text : String}
    (step : source.next = some (text, after)) :
    after.maxLength = source.maxLength ∧ after.alphabet = source.alphabet := by
  unfold next at step
  split at step
  · cases step
    exact ⟨rfl, rfl⟩
  · split at step
    · cases step
    · cases step
      exact ⟨rfl, rfl⟩
    · split at step
      · split at step <;> cases step <;> exact ⟨rfl, rfl⟩
      · cases step

theorem next_atDigits (maxLength : Nat) (alphabet : List String) {after : List Nat}
    (step : following (atDigits maxLength alphabet digits) = some after) :
    (atDigits maxLength alphabet digits).next =
      some (textOf alphabet digits, atDigits maxLength alphabet after) := by
  unfold Haystacks.next
  rw [step]
  rfl

theorem toList_atDigits_last
    (last : following (atDigits maxLength alphabet digits) = none) :
    (atDigits maxLength alphabet digits).toList = [textOf alphabet digits] := by
  have step : (atDigits maxLength alphabet digits).next =
      some (textOf alphabet digits, ⟨maxLength, alphabet, [], false, false, none⟩) := by
    unfold Haystacks.next
    rw [last]
    rfl
  rw [toList_eq_cons step, toList_eq_nil rfl]

/-- **A source goes through the digits of one length and then through the longer ones.** -/
theorem toList_atDigits (maxLength : Nat) (alphabet : List String) (digits : List Nat)
    (below : ∀ digit ∈ digits, digit < alphabet.length) :
    (atDigits maxLength alphabet digits).toList =
      (onwards alphabet.length digits ++
        (List.range' (digits.length + 1) (maxLength - digits.length)).flatMap
          (digitsOf alphabet.length)).map (textOf alphabet) := by
  rw [onwards_eq below, List.cons_append, List.map_cons]
  cases same : successor alphabet.length digits with
  | some after =>
    have step := next_atDigits maxLength alphabet
      (show following (atDigits maxLength alphabet digits) = some after by
        simp [following, atDigits, same])
    have less := next_remaining step
    rw [toList_eq_cons step, toList_atDigits maxLength alphabet after (below_successor below same),
      length_successor same]
    rfl
  | none =>
    show _ = textOf alphabet digits :: _
    by_cases longer : digits.length < maxLength ∧ alphabet ≠ []
    · have step := next_atDigits maxLength alphabet
        (show following (atDigits maxLength alphabet digits) =
            some (List.replicate (digits.length + 1) 0) by
          simp [following, atDigits, same, longer])
      have less := next_remaining step
      have positive : 0 < alphabet.length := List.length_pos_iff.mpr longer.2
      have zeros : ∀ digit ∈ List.replicate (digits.length + 1) 0, digit < alphabet.length := by
        intro digit member
        rw [List.eq_of_mem_replicate member]
        exact positive
      rw [toList_eq_cons step, toList_atDigits maxLength alphabet _ zeros, onwards_zeros positive,
        List.length_replicate,
        show maxLength - digits.length = maxLength - (digits.length + 1) + 1 by omega,
        List.range'_succ, List.flatMap_cons]
      rfl
    · have last : following (atDigits maxLength alphabet digits) = none := by
        simp only [following, atDigits, same]
        exact if_neg longer
      -- either no longer text is wanted or, without symbols, there is none
      have none : (List.range' (digits.length + 1) (maxLength - digits.length)).flatMap
          (digitsOf alphabet.length) = [] := by
        by_cases empty : alphabet = []
        · refine List.flatMap_eq_nil_iff.mpr fun length member => ?_
          obtain ⟨less, rfl⟩ := Nat.exists_eq_add_of_lt (List.mem_range'_1.mp member).1
          rw [empty]
          exact digitsOf_zero _
        · rw [Nat.sub_eq_zero_of_le (Nat.le_of_not_lt fun short => longer ⟨short, empty⟩)]
          rfl
      rw [toList_atDigits_last last, none]
      rfl
termination_by (atDigits maxLength alphabet digits).remaining
decreasing_by all_goals omega

/-- **A source yields every text of at most the given number of symbols**, short ones first. -/
theorem toList_ofAlphabet (maxLength : Nat) (alphabet : List String) :
    (ofAlphabet maxLength alphabet).toList = allTexts maxLength alphabet := by
  show (atDigits maxLength alphabet []).toList = _
  rw [toList_atDigits maxLength alphabet [] (by simp), allTexts, List.range_eq_range',
    List.range'_succ, List.flatMap_cons, List.map_append, List.map_flatMap]
  simp only [map_textOf]
  rfl

example : allTexts 2 ["a", "b"] = ["", "a", "b", "aa", "ab", "ba", "bb"] := by decide

/-! ### An extra text -/

theorem toList_forceEmpty {source : Haystacks} (free : source.forcedEmpty = false) :
    source.forceEmpty.toList = "" :: source.toList := by
  have same : { source with forcedEmpty := false } = source := by rw [← free]
  have step : source.forceEmpty.next = some ("", { source with forcedEmpty := false }) := rfl
  rw [toList_eq_cons step, same]

end Haystacks

end Crosscheck
