/-
**The texts of a source are the tuples of indices, in order.**

A text is spelled by a tuple of places in the alphabet. With repeated symbols, or symbols that run
into each other, two tuples may spell the same text, so what is listed once is the tuple. Tuples are
ordered by their length and, among those of one length, by the first place at which they differ.

* `Haystacks.tuples`: the tuples of at most a number of indices;
* `Haystacks.tuples_sorted`, `Haystacks.mem_tuples_iff`: they are in order, and none is missing;
* `Haystacks.Yields`: what a source answers, however often it is asked;
* `Haystacks.yields_tuples`: a source at its start yields what the tuples spell.
-/
import Crosscheck.Proofs.Generate.Odometer
import Mathlib.Data.List.Shortlex

namespace Crosscheck

namespace Haystacks

variable {size length maxLength : Nat} {digits tuple : List Nat} {alphabet : List String}

/-! ### Tuples of one length -/

theorem mem_digitsOf_iff :
    digits ∈ digitsOf size length ↔ digits.length = length ∧ ∀ digit ∈ digits, digit < size := by
  induction length generalizing digits with
  | zero =>
    simp only [digitsOf, List.mem_singleton, List.length_eq_zero_iff]
    exact ⟨fun none => ⟨none, by simp [none]⟩, And.left⟩
  | succ length hypothesis =>
    simp only [digitsOf, List.mem_flatMap, List.mem_map, List.mem_range, hypothesis]
    constructor
    · rintro ⟨rest, ⟨rfl, below⟩, digit, less, rfl⟩
      exact ⟨rfl, List.forall_mem_cons.mpr ⟨less, below⟩⟩
    · rintro ⟨long, below⟩
      obtain ⟨digit, rest, rfl⟩ := List.exists_cons_of_length_eq_add_one long
      obtain ⟨less, others⟩ := List.forall_mem_cons.mp below
      exact ⟨rest, ⟨Nat.succ.inj long, others⟩, digit, less, rfl⟩

/-- What comes first of two lists of one length comes first whatever follows them. -/
theorem lex_append {one other : List Nat} (before : List.Lex (· < ·) one other)
    (alike : one.length = other.length) (more others : List Nat) :
    List.Lex (· < ·) (one ++ more) (other ++ others) := by
  induction before with
  | nil => cases alike
  | cons _ hypothesis => exact .cons (hypothesis (Nat.succ.inj alike))
  | rel less => exact .rel less

/-- **Digits of one length are in order**, when they are read from the first symbol on. -/
theorem digitsOf_sorted (size length : Nat) :
    (digitsOf size length).Pairwise fun one other =>
      List.Lex (· < ·) one.reverse other.reverse := by
  induction length with
  | zero => exact List.pairwise_singleton _ _
  | succ length hypothesis =>
    refine List.pairwise_flatMap.mpr ⟨fun rest _ => ?_, ?_⟩
    -- the last symbol changes fastest
    · refine List.pairwise_map.mpr (List.pairwise_lt_range.imp fun less => ?_)
      rw [List.reverse_cons, List.reverse_cons]
      exact List.Lex.append_left _ (.rel less) _
    · refine (List.Pairwise.and_mem.mp hypothesis).imp ?_
      rintro one other ⟨first, second, before⟩ digits start others begin
      obtain ⟨digit, _, rfl⟩ := List.mem_map.mp start
      obtain ⟨digit', _, rfl⟩ := List.mem_map.mp begin
      have alike : one.reverse.length = other.reverse.length := by
        rw [List.length_reverse, List.length_reverse, (mem_digitsOf_iff.mp first).1,
          (mem_digitsOf_iff.mp second).1]
      rw [List.reverse_cons, List.reverse_cons]
      exact lex_append before alike _ _

/-! ### Tuples of all lengths -/

/-- The tuples of at most a number of indices, short ones first. -/
def tuples (size maxLength : Nat) : List (List Nat) :=
  (List.range (maxLength + 1)).flatMap fun length => (digitsOf size length).map List.reverse

theorem mem_map_reverse_iff : tuple ∈ (digitsOf size length).map List.reverse ↔
    tuple.length = length ∧ ∀ index ∈ tuple, index < size := by
  rw [List.mem_map]
  constructor
  · rintro ⟨digits, member, rfl⟩
    simpa using mem_digitsOf_iff.mp member
  · intro inside
    exact ⟨tuple.reverse, mem_digitsOf_iff.mpr (by simpa using inside), tuple.reverse_reverse⟩

/-- **No tuple is missing**, and there are no others. -/
theorem mem_tuples_iff : tuple ∈ tuples size maxLength ↔
    tuple.length ≤ maxLength ∧ ∀ index ∈ tuple, index < size := by
  simp only [tuples, List.mem_flatMap, List.mem_range, mem_map_reverse_iff, Nat.lt_succ_iff]
  exact ⟨fun ⟨_, short, same, below⟩ => ⟨same ▸ short, below⟩,
    fun ⟨short, below⟩ => ⟨_, short, rfl, below⟩⟩

/-- **Tuples are in order**, by length first. -/
theorem tuples_sorted (size maxLength : Nat) :
    (tuples size maxLength).Pairwise (List.Shortlex (· < ·)) := by
  refine List.pairwise_flatMap.mpr ⟨fun length _ => ?_, List.pairwise_lt_range.imp ?_⟩
  · refine List.pairwise_map.mpr ?_
    refine (List.Pairwise.and_mem.mp (digitsOf_sorted size length)).imp ?_
    rintro one other ⟨first, second, before⟩
    refine .of_lex ?_ before
    rw [List.length_reverse, List.length_reverse, (mem_digitsOf_iff.mp first).1,
      (mem_digitsOf_iff.mp second).1]
  · intro shorter longer less one first other second
    refine .of_length_lt ?_
    rwa [(mem_map_reverse_iff.mp first).1, (mem_map_reverse_iff.mp second).1]

theorem tuples_nodup (size maxLength : Nat) : (tuples size maxLength).Nodup :=
  (tuples_sorted size maxLength).imp (by
    rintro tuple _ before rfl
    exact irrefl_of (List.Shortlex (· < ·)) tuple before)

/-- Without symbols there is the empty tuple alone. -/
theorem tuples_zero (maxLength : Nat) : tuples 0 maxLength = [[]] := by
  have longer : (List.range' 1 maxLength).flatMap
      (fun length => (digitsOf 0 length).map List.reverse) = [] := by
    refine List.flatMap_eq_nil_iff.mpr fun length member => ?_
    obtain ⟨less, rfl⟩ := Nat.exists_eq_add_of_le' (List.mem_range'_1.mp member).1
    rw [digitsOf_zero, List.map_nil]
  rw [tuples, List.range_eq_range', List.range'_succ, List.flatMap_cons, longer]
  rfl

/-- The text that a tuple of places in the alphabet spells. -/
def spell (alphabet : List String) (tuple : List Nat) : String :=
  String.join (tuple.map fun index => alphabet.getD index "")

/-- **All texts are what the tuples spell**, in the same order. -/
theorem map_spell_tuples (maxLength : Nat) (alphabet : List String) :
    (tuples alphabet.length maxLength).map (spell alphabet) = allTexts maxLength alphabet := by
  rw [tuples, allTexts, List.map_flatMap]
  congr 1
  funext length
  rw [← map_textOf, List.map_map]
  rfl

/-! ### What a source yields -/

/-- The answers to a number of requests for the next text. -/
def ask (source : Haystacks) : Nat → List (Option String)
  | 0 => []
  | count + 1 =>
    match source.next with
    | none => none :: source.ask count
    | some (text, after) => some text :: after.ask count

/-- A source answers with the texts, in order, and then that there are no more, however often it is
asked. -/
def Yields (source : Haystacks) (texts : List String) : Prop :=
  ∀ count, source.ask count = (texts.map some ++ List.replicate count none).take count

/-- **A source yields its list.** -/
theorem yields_toList (source : Haystacks) : source.Yields source.toList := by
  intro count
  induction count generalizing source with
  | zero => rfl
  | succ count hypothesis =>
    cases step : source.next with
    | none =>
      have dry := hypothesis source
      rw [toList_eq_nil step, List.map_nil, List.nil_append, List.take_replicate,
        Nat.min_self] at dry
      rw [ask, step, toList_eq_nil step, List.map_nil, List.nil_append, List.take_replicate,
        Nat.min_self, List.replicate_succ]
      exact congrArg (none :: ·) dry
    | some answer =>
      obtain ⟨text, after⟩ := answer
      -- one more answer is replicated than can be taken
      have enough : min (count - after.toList.length) (count + 1) =
          min (count - after.toList.length) count := by omega
      rw [ask, step, toList_eq_cons step]
      simp only [List.map_cons, List.cons_append, List.take_succ_cons, hypothesis after,
        List.take_append, List.length_map, List.take_replicate, enough]

/-- **A source at its start yields what the tuples of indices spell**: those of at most as many
indices as it has symbols in a text, each of them once, short ones first and those of one length in
the order of their first difference; then there are no more. A source is at its start when it is
made and, wherever it was before, when it is started again. One extra empty text comes first when
that is asked for. -/
theorem yields_tuples (source : Haystacks) :
    let all := tuples source.alphabet.length source.maxLength
    all.Pairwise (List.Shortlex (· < ·)) ∧ all.Nodup ∧
      (∀ tuple, tuple ∈ all ↔ tuple.length ≤ source.maxLength ∧
        ∀ index ∈ tuple, index < source.alphabet.length) ∧
      (source.alphabet = [] → all = [[]]) ∧
      ∀ start ∈ [ofAlphabet source.maxLength source.alphabet, source.reset],
        start.Yields (all.map (spell source.alphabet)) ∧
        start.forceEmpty.Yields ("" :: all.map (spell source.alphabet)) := by
  intro all
  refine ⟨tuples_sorted _ _, tuples_nodup _ _, fun _ => mem_tuples_iff, fun none => ?_,
    fun start member => ?_⟩
  · show tuples source.alphabet.length source.maxLength = [[]]
    rw [none]
    exact tuples_zero _
  · have same : start = ofAlphabet source.maxLength source.alphabet := by
      simpa [reset] using member
    have listed : start.toList = all.map (spell source.alphabet) := by
      rw [same, toList_ofAlphabet, map_spell_tuples]
    rw [← listed, ← toList_forceEmpty (show start.forcedEmpty = false by rw [same]; rfl)]
    exact ⟨yields_toList start, yields_toList start.forceEmpty⟩

/-- A source that is started again in the middle of random texts. Its symbols run into each other,
so some texts come more than once. -/
theorem yields_runningSymbols :
    let source : Haystacks := ⟨2, ["a", "aa"], [1, 0], true, true, some (.ofSeed 7, 3)⟩
    source.reset.Yields ["", "a", "aa", "aa", "aaa", "aaa", "aaaa"] ∧
      source.reset.forceEmpty.Yields ["", "", "a", "aa", "aa", "aaa", "aaa", "aaaa"] := by
  intro source
  have spelled : (tuples 2 2).map (spell ["a", "aa"]) =
      ["", "a", "aa", "aa", "aaa", "aaa", "aaaa"] := by decide
  obtain ⟨-, -, -, -, yields⟩ := yields_tuples source
  have started := yields source.reset (by simp)
  rwa [show source.alphabet = ["a", "aa"] from rfl, show source.maxLength = 2 from rfl,
    show ["a", "aa"].length = 2 from rfl, spelled] at started

end Haystacks

end Crosscheck
