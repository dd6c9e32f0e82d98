/-
**Numerals, pieces and lines read back.**

* `Number.read_toDigits`: the decimal digits of a number spell it;
* `Split.pieces_intercalate`: pieces without the separator are found again;
* `Split.lines_flatMap`: so are lines that hold no newline and end in no carriage return;
* `Bytes.printable_ofText`: a text without control characters has no control byte.
-/
import Crosscheck.Text.Number
import Crosscheck.Text.Split

namespace Crosscheck

/-! ### Numerals -/

namespace Number

/-- Digits spell the number they stand for, when it is not too large. -/
theorem readDigits_eq {digits : List Char} {value : Nat} (decimal : ∀ digit ∈ digits, digit.isDigit)
    (small : Nat.ofDigitChars 10 digits value ≤ greatest) :
    readDigits value digits = .ok (Nat.ofDigitChars 10 digits value) := by
  induction digits generalizing value with
  | nil => rw [readDigits, Nat.ofDigitChars_nil]
  | cons digit rest hypothesis =>
    rw [Nat.ofDigitChars_cons, Nat.mul_comm] at small ⊢
    -- The number that is read so far only grows with the digits to come.
    have here : value * 10 + (digit.toNat - '0'.toNat) ≤ greatest := by
      refine Nat.le_trans ?_ small
      rw [Nat.ofDigitChars_eq_ofDigitChars_zero]
      exact Nat.le_trans (Nat.le_mul_of_pos_left _ (Nat.pow_pos (by decide))) (Nat.le_add_right _ _)
    rw [readDigits, if_pos (decimal digit List.mem_cons_self)]
    simp only [if_pos here]
    exact hypothesis (fun digit member => decimal digit (List.mem_cons_of_mem _ member)) small

/-- **The decimal digits of a number spell it.** -/
theorem read_toDigits {number : Nat} (small : number ≤ greatest) :
    read (Nat.toDigits 10 number) = .ok number := by
  have decimal : ∀ digit ∈ Nat.toDigits 10 number, digit.isDigit := fun digit member =>
    Nat.isDigit_of_mem_toDigits (by decide) (by decide) member
  have spelled : readDigits 0 (Nat.toDigits 10 number) = .ok number := by
    have whole : Nat.ofDigitChars 10 (Nat.toDigits 10 number) 0 = number :=
      Nat.ofDigitChars_ten_toDigits
    rw [readDigits_eq decimal (by rwa [whole]), whole]
  -- A numeral starts with a digit, so it is neither empty nor starts with a sign.
  unfold read
  split
  · exact absurd ‹_› Nat.toDigits_ne_nil
  · rename_i sign
    exact absurd (decimal '+' (by rw [sign]; exact List.mem_cons_self)) (by decide)
  · rename_i sign
    exact absurd (decimal '+' (by rw [sign]; exact List.mem_cons_self)) (by decide)
  · exact spelled

end Number

namespace Split

/-! ### Pieces -/

/-- The pieces are those of the library. -/
theorem pieces_eq_splitOn {α : Type} [DecidableEq α] (separator : α) (items : List α) :
    pieces separator items = items.splitOn separator := by
  have general : ∀ read : List α, piecesFrom separator read items =
      items.splitOnPPrepend (· == separator) read := by
    induction items with
    | nil => exact fun read => rfl
    | cons item rest hypothesis =>
      intro read
      rw [piecesFrom, List.splitOnPPrepend_cons_eq_if, hypothesis, hypothesis,
        List.splitOnPPrepend_nil_right]
      simp only [beq_iff_eq]
  rw [pieces, general, List.splitOnPPrepend_nil_right, List.splitOn_eq_splitOnP]

theorem pieces_intercalate {α : Type} [DecidableEq α] {separator : α} {parts : List (List α)}
    (apart : ∀ part ∈ parts, separator ∉ part) (nonempty : parts ≠ []) :
    pieces separator ([separator].intercalate parts) = parts := by
  rw [pieces_eq_splitOn, List.splitOn_intercalate separator apart nonempty]

/-- What stands between pieces is one of their items or the separator. -/
theorem mem_of_mem_intercalate {α : Type} {separator item : α} {parts : List (List α)}
    (member : item ∈ [separator].intercalate parts) :
    item = separator ∨ ∃ part ∈ parts, item ∈ part := by
  induction parts with
  | nil => cases member
  | cons part rest hypothesis =>
    cases rest with
    | nil => exact .inr ⟨part, List.mem_cons_self, by simpa using member⟩
    | cons next later =>
      rw [List.intercalate_cons_cons, List.mem_append, List.mem_append,
        List.mem_singleton] at member
      rcases member with (first | between) | others
      · exact .inr ⟨part, List.mem_cons_self, first⟩
      · exact .inl between
      · rcases hypothesis others with between | ⟨other, inside, found⟩
        · exact .inl between
        · exact .inr ⟨other, List.mem_cons_of_mem _ inside, found⟩

/-! ### Lines -/

/-- The byte before the end of a line that is not part of it. -/
def carriageReturn : UInt8 := 0x0D

/-- A line that splitting leaves as it is: it has no newline and does not end with a carriage
return. -/
structure Whole (line : Bytes) : Prop where
  /-- It is one line. -/
  unbroken : newline ∉ line
  /-- Its last byte belongs to it. -/
  closed : line.getLast? ≠ some carriageReturn

theorem Whole.append {line more : Bytes} (unbroken : newline ∉ line) (whole : Whole more)
    (nonempty : more ≠ []) : Whole (line ++ more) where
  unbroken broken := (List.mem_append.mp broken).elim unbroken whole.unbroken
  closed := by
    rw [List.getLast?_append, List.getLast?_eq_some_getLast nonempty, Option.some_or,
      ← List.getLast?_eq_some_getLast nonempty]
    exact whole.closed

/-- What stands up to the first newline is the first line. -/
theorem linesFrom_append {line : Bytes} (unbroken : newline ∉ line) (read rest : Bytes) :
    linesFrom read (line ++ newline :: rest) =
      endedLine (line.reverse ++ read) :: linesFrom [] rest := by
  induction line generalizing read with
  | nil => rw [List.nil_append, linesFrom, if_pos rfl, List.reverse_nil, List.nil_append]
  | cons byte more hypothesis =>
    rw [List.mem_cons, not_or] at unbroken
    obtain ⟨other, later⟩ := unbroken
    rw [List.cons_append, linesFrom, if_neg (Ne.symm other), hypothesis later, List.reverse_cons,
      List.append_assoc, List.singleton_append]

/-- Only a carriage return at its end is taken from a line. -/
theorem endedLine_reverse {line : Bytes} (closed : line.getLast? ≠ some carriageReturn) :
    endedLine line.reverse = line := by
  unfold endedLine
  split
  · rename_i rest ended
    refine absurd ?_ closed
    rw [List.getLast?_eq_head?_reverse, ended]
    rfl
  · exact List.reverse_reverse line

theorem lines_append {line : Bytes} (whole : Whole line) (rest : Bytes) :
    lines (line ++ newline :: rest) = line :: lines rest := by
  rw [lines, linesFrom_append whole.unbroken, List.append_nil, endedLine_reverse whole.closed]
  rfl

/-- Whole lines with a newline behind each are the first lines. -/
theorem lines_flatMap_append {texts : List Bytes} (whole : ∀ line ∈ texts, Whole line)
    (rest : Bytes) : lines (texts.flatMap (· ++ [newline]) ++ rest) = texts ++ lines rest := by
  induction texts with
  | nil => rfl
  | cons line more hypothesis =>
    rw [List.flatMap_cons, List.append_assoc, List.append_assoc, List.singleton_append,
      lines_append (whole line List.mem_cons_self),
      hypothesis fun line member => whole line (List.mem_cons_of_mem _ member), List.cons_append]

/-- **Whole lines are found again when a newline follows each.** -/
theorem lines_flatMap {texts : List Bytes} (whole : ∀ line ∈ texts, Whole line) :
    lines (texts.flatMap (· ++ [newline])) = texts := by
  have same := lines_flatMap_append whole []
  rwa [List.append_nil, show lines [] = [] from rfl, List.append_nil] at same

theorem linesFrom_of_unbroken {line : Bytes} (unbroken : newline ∉ line) (read : Bytes) :
    linesFrom read line =
      if (line.reverse ++ read).isEmpty then [] else [(line.reverse ++ read).reverse] := by
  induction line generalizing read with
  | nil => rfl
  | cons byte rest hypothesis =>
    rw [List.mem_cons, not_or] at unbroken
    rw [linesFrom, if_neg (Ne.symm unbroken.1), hypothesis unbroken.2, List.reverse_cons,
      List.append_assoc, List.singleton_append]

/-- A last line without its newline is a line as it is. -/
theorem lines_of_unbroken {line : Bytes} (unbroken : newline ∉ line) (nonempty : line ≠ []) :
    lines line = [line] := by
  rw [lines, linesFrom_of_unbroken unbroken, List.append_nil, List.reverse_reverse,
    if_neg (by simpa using nonempty)]

/-- Only what is added to a line can be taken from it. -/
theorem exists_endedLine {line : Bytes} (closed : line.getLast? ≠ some carriageReturn)
    (added : Bytes) : ∃ after, endedLine (line ++ added).reverse = line ++ after := by
  rcases List.eq_nil_or_concat added with rfl | ⟨before, last, same⟩
  · exact ⟨[], by rw [List.append_nil, endedLine_reverse closed]⟩
  · rw [same, List.concat_eq_append]
    by_cases returns : last = carriageReturn
    · refine ⟨before, ?_⟩
      rw [returns, ← List.append_assoc, List.reverse_append]
      show (line ++ before).reverse.reverse = line ++ before
      exact List.reverse_reverse _
    · exact ⟨before ++ [last], endedLine_reverse (by simpa [← List.append_assoc] using returns)⟩

/-- Whatever is added to a whole line, the first line begins with it. -/
theorem exists_lines_append {line : Bytes} (whole : Whole line) (nonempty : line ≠ [])
    (added : Bytes) : ∃ after rest, lines (line ++ added) = (line ++ after) :: rest := by
  by_cases broken : newline ∈ added
  · obtain ⟨before, rest, rfl, unbroken⟩ := List.eq_append_cons_of_mem broken
    have apart : newline ∉ line ++ before := by
      rw [List.mem_append, not_or]
      exact ⟨whole.unbroken, unbroken⟩
    obtain ⟨after, ended⟩ := exists_endedLine whole.closed before
    refine ⟨after, linesFrom [] rest, ?_⟩
    rw [lines, ← List.append_assoc, linesFrom_append apart, List.append_nil, ended]
  · refine ⟨added, [], lines_of_unbroken ?_ (by simp [nonempty])⟩
    rw [List.mem_append, not_or]
    exact ⟨whole.unbroken, broken⟩

end Split

/-! ### The bytes of a text -/

namespace Bytes

/-- Bytes are read as a text exactly when they are its bytes. -/
theorem text?_eq_some_iff {bytes : Bytes} {text : String} :
    text? bytes = some text ↔ bytes = ofText text := by
  constructor
  · intro read
    rw [text?, String.fromUTF8?] at read
    split at read
    · cases read
      rfl
    · cases read
  · rintro rfl
    exact text?_ofText text

theorem ofText_eq_flatMap (text : String) :
    ofText text = text.toList.flatMap String.utf8EncodeChar := by
  rw [ofText, ← String.utf8Encode_toList, List.utf8Encode, List.data_toByteArray]

theorem utf8EncodeChar_ascii {char : Char} (ascii : char.toNat < 0x80) :
    String.utf8EncodeChar char = [char.toNat.toUInt8] := by
  unfold String.utf8EncodeChar
  exact if_pos (Nat.le_of_lt_succ ascii)

/-- Text of printable ASCII characters has only the bytes of those. -/
theorem printable_ofText {text : String}
    (printable : ∀ char ∈ text.toList, 0x20 ≤ char.toNat ∧ char.toNat < 0x80) :
    ∀ byte ∈ ofText text, 0x20 ≤ byte := by
  intro byte member
  rw [ofText_eq_flatMap] at member
  obtain ⟨char, inside, encoded⟩ := List.mem_flatMap.mp member
  obtain ⟨least, ascii⟩ := printable char inside
  rw [utf8EncodeChar_ascii ascii, List.mem_singleton] at encoded
  have small : char.toNat < UInt8.size := Nat.lt_trans ascii (by decide)
  rw [encoded, UInt8.le_iff_toNat_le, Nat.toUInt8, UInt8.toNat_ofNat_of_lt' small]
  exact least

end Bytes

end Crosscheck
