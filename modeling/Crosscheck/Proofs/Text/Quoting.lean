/-
**Quoted forms read back.**

Encoding refuses a byte string only for the length of its quoted form, so the form itself is
defined for every byte string.

* `Quoted.form`: the quoted form, of any length;
* `Quoted.encode_eq`: encoding gives the form exactly when the form is not too long;
* `Quoted.decode_form`: decoding undoes the form;
* `Quoted.decode_form_append`: a form with anything behind it cannot be decoded;
* `Quoted.newline_not_mem_form`: the form stands on one line;
* `Quoted.eq_form_of_decode`: on one line, decoding accepts nothing else;
* `Quoted.encode_decode`: encoding and decoding are inverse, up to the capacity.
-/
import Crosscheck.Text.Quoted
import Crosscheck.Text.Split
import Mathlib.Tactic.SplitIfs

namespace Crosscheck

namespace Quoted

/-- The quoted form of a byte string, whether or not it is too long. -/
def form (bytes : Bytes) : Bytes := quote :: (bytes.flatMap encodeByte ++ [quote])

/-- A byte string whose quoted form is not too long. -/
def Fits (bytes : Bytes) : Prop := (form bytes).length ≤ quotedCapacity

instance (bytes : Bytes) : Decidable (Fits bytes) :=
  inferInstanceAs (Decidable ((form bytes).length ≤ quotedCapacity))

/-! ### Encoding -/

/-- Encoding within a room succeeds exactly when the room holds all written bytes. -/
theorem encodeWithin_eq (room : Nat) (bytes : Bytes) :
    encodeWithin room bytes =
      if (bytes.flatMap encodeByte).length ≤ room then some (bytes.flatMap encodeByte)
      else none := by
  induction bytes generalizing room with
  | nil => simp [encodeWithin]
  | cons byte rest hypothesis =>
    have total : ((byte :: rest).flatMap encodeByte).length =
        (encodeByte byte).length + (rest.flatMap encodeByte).length := by
      rw [List.flatMap_cons, List.length_append]
    rw [total, List.flatMap_cons]
    simp only [encodeWithin, hypothesis]
    by_cases narrow : room < (encodeByte byte).length
    · rw [if_pos narrow, if_neg (by omega)]
    · by_cases fits : (rest.flatMap encodeByte).length ≤ room - (encodeByte byte).length
      · rw [if_neg narrow, if_pos fits, if_pos (by omega), Option.map_some]
      · rw [if_neg narrow, if_neg fits, if_neg (by omega), Option.map_none]

/-- **Encoding gives the quoted form, and refuses exactly the forms beyond the capacity.** -/
theorem encode_eq (bytes : Bytes) :
    encode bytes =
      if Fits bytes then .ok (form bytes) else .error (.quotedTooLong bytes) := by
  have length : (form bytes).length = (bytes.flatMap encodeByte).length + 2 := by
    simp [form]
  rw [encode, encodeWithin_eq]
  by_cases fits : (bytes.flatMap encodeByte).length ≤ quotedCapacity - 2
  · rw [if_pos fits, if_pos (by unfold Fits quotedCapacity at *; omega), form]
  · rw [if_neg fits, if_neg (by unfold Fits quotedCapacity at *; omega)]

/-! ### Decoding -/

/-- Decoding reads the written form of a byte as that byte. -/
theorem decodeInside_encodeByte (byte : UInt8) (rest : Bytes) :
    decodeInside (encodeByte byte ++ rest) = (byte :: ·) <$> decodeInside rest := by
  unfold encodeByte
  split_ifs with escaped feed
  · rw [List.cons_append, List.cons_append, List.nil_append, decodeInside, if_pos rfl]
    simp only [if_pos escaped]
    cases decodeInside rest <;> rfl
  · rw [List.cons_append, List.cons_append, List.nil_append, decodeInside, if_pos rfl]
    simp only [if_neg (show ¬(letterN = backslash ∨ letterN = quote) by decide), if_true, feed]
    cases decodeInside rest <;> rfl
  · rw [not_or] at escaped
    rw [List.cons_append, List.nil_append, decodeInside.eq_def]
    simp only [if_neg escaped.1, if_neg escaped.2]
    cases decodeInside rest <;> rfl

/-- Bytes that follow written ones are decoded behind them. -/
theorem decodeInside_flatMap_append (bytes rest : Bytes) :
    decodeInside (bytes.flatMap encodeByte ++ rest) = (bytes ++ ·) <$> decodeInside rest := by
  induction bytes with
  | nil =>
    rw [List.flatMap_nil, List.nil_append]
    cases decodeInside rest <;> rfl
  | cons byte more hypothesis =>
    rw [List.flatMap_cons, List.append_assoc, decodeInside_encodeByte, hypothesis]
    cases decodeInside rest <;> rfl

theorem decodeInside_flatMap (bytes : Bytes) :
    decodeInside (bytes.flatMap encodeByte) = .ok bytes := by
  have same := decodeInside_flatMap_append bytes []
  rw [List.append_nil] at same
  rw [same]
  exact congrArg Except.ok (List.append_nil bytes)

/-- **Decoding undoes the quoted form.** -/
theorem decode_form (bytes : Bytes) : decode (form bytes) = .ok bytes := by
  have inside : inside? (form bytes) = some (bytes.flatMap encodeByte) := by
    rw [form, inside?, if_pos ⟨rfl, by rw [List.getLast?_concat]⟩, List.dropLast_concat]
  rw [decode, inside]
  exact decodeInside_flatMap bytes

/-- **A form with anything behind it is none**: its last quote follows no backslash. -/
theorem decode_form_append (bytes : Bytes) {more : Bytes} (nonempty : more ≠ []) :
    ∃ defect, decode (form bytes ++ more) = .error defect := by
  rw [decode, form, List.cons_append, inside?]
  split
  · exact ⟨_, rfl⟩
  · next inner found =>
    obtain ⟨-, same⟩ := Option.ite_none_right_eq_some.mp found
    rw [List.append_assoc, List.dropLast_append_of_ne_nil (by simp), List.singleton_append,
      List.dropLast_cons_of_ne_nil nonempty] at same
    obtain rfl := Option.some.inj same
    have bare : decodeInside (quote :: more.dropLast) = .error .bareQuote := by
      rw [decodeInside.eq_def]
      simp only [if_neg (show quote ≠ backslash by decide), if_true]
    refine ⟨.bareQuote, ?_⟩
    rw [decodeInside_flatMap_append, bare]
    rfl

/-! ### The line of a form -/

theorem newline_not_mem_encodeByte (byte : UInt8) : Split.newline ∉ encodeByte byte := by
  unfold encodeByte
  split_ifs with escaped feed
  · rintro (_ | ⟨_, _ | ⟨_, inside⟩⟩)
    · exact absurd escaped (by decide)
    · cases inside
  · decide
  · rw [List.mem_singleton]
    exact fun equal => feed equal.symm

/-- **A quoted form has no newline.** -/
theorem newline_not_mem_form (bytes : Bytes) : Split.newline ∉ form bytes := by
  intro broken
  rcases List.mem_cons.mp broken with first | later
  · exact absurd first (by decide)
  rcases List.mem_append.mp later with inside | last
  · obtain ⟨byte, _, written⟩ := List.mem_flatMap.mp inside
    exact newline_not_mem_encodeByte byte written
  · exact absurd last (by decide)

theorem getLast?_form (bytes : Bytes) : (form bytes).getLast? = some quote := by
  rw [form, ← List.cons_append, List.getLast?_concat]

/-! ### What decoding accepts -/

theorem encodeByte_of_escaped {byte : UInt8} (escaped : byte = backslash ∨ byte = quote) :
    encodeByte byte = [backslash, byte] := by
  rw [encodeByte, if_pos escaped]

theorem encodeByte_lineFeed : encodeByte lineFeed = [backslash, letterN] := rfl

/-- The decoded rest of an accepted string. -/
theorem exists_decodeInside_rest {byte : UInt8} {rest bytes : Bytes}
    (accepted : (do return byte :: (← decodeInside rest)) = (.ok bytes : Except Defect Bytes)) :
    ∃ decoded, decodeInside rest = .ok decoded ∧ bytes = byte :: decoded := by
  cases inside : decodeInside rest with
  | error defect =>
    rw [inside] at accepted
    cases accepted
  | ok decoded =>
    rw [inside] at accepted
    cases accepted
    exact ⟨decoded, rfl, rfl⟩

/-- What decoding accepts on one line between the quotes is the written form of what it reads. -/
theorem eq_flatMap_of_decodeInside {inner bytes : Bytes} (accepted : decodeInside inner = .ok bytes)
    (line : Split.newline ∉ inner) : inner = bytes.flatMap encodeByte := by
  fun_induction decodeInside inner generalizing bytes with
  | case1 =>
    cases accepted
    rfl
  | case2 => cases accepted
  | case3 escaped rest special hypothesis =>
    obtain ⟨decoded, same, rfl⟩ := exists_decodeInside_rest accepted
    rw [List.mem_cons, List.mem_cons, not_or, not_or] at line
    rw [List.flatMap_cons, encodeByte_of_escaped special, hypothesis same line.2.2]
    rfl
  | case4 rest plain hypothesis =>
    obtain ⟨decoded, same, rfl⟩ := exists_decodeInside_rest accepted
    rw [List.mem_cons, List.mem_cons, not_or, not_or] at line
    rw [List.flatMap_cons, encodeByte_lineFeed, hypothesis same line.2.2]
    rfl
  | case5 => cases accepted
  | case6 => cases accepted
  | case7 byte rest unescaped unquoted hypothesis =>
    obtain ⟨decoded, same, rfl⟩ := exists_decodeInside_rest accepted
    rw [List.mem_cons, not_or] at line
    -- A line feed would be the newline, which is not on the line.
    have written : encodeByte byte = [byte] := by
      rw [encodeByte, if_neg (not_or.mpr ⟨unescaped, unquoted⟩),
        if_neg (fun feed => line.1 feed.symm)]
    rw [List.flatMap_cons, written, hypothesis same line.2]
    rfl

/-- **Decoding accepts only quoted forms on one line.** -/
theorem eq_form_of_decode {quoted bytes : Bytes} (accepted : decode quoted = .ok bytes)
    (line : Split.newline ∉ quoted) : quoted = form bytes := by
  unfold decode at accepted
  split at accepted
  · cases accepted
  · next inner found =>
    unfold inside? at found
    split at found
    · cases found
    · next byte rest =>
      obtain ⟨⟨rfl, last⟩, same⟩ := Option.ite_none_right_eq_some.mp found
      obtain ⟨front, rfl⟩ := List.getLast?_eq_some_iff.mp last
      rw [List.dropLast_concat] at same
      obtain rfl := Option.some.inj same
      have apart : Split.newline ∉ front := fun inside =>
        line (List.mem_cons_of_mem quote (List.mem_append_left [quote] inside))
      rw [form, ← eq_flatMap_of_decodeInside accepted apart]

/-- A byte that is written as two bytes. -/
def NeedsEscape (byte : UInt8) : Prop := byte = backslash ∨ byte = quote ∨ byte = lineFeed

instance : DecidablePred NeedsEscape := fun _ => inferInstanceAs (Decidable (_ ∨ _ ∨ _))

theorem length_encodeByte (byte : UInt8) :
    (encodeByte byte).length = 1 + if NeedsEscape byte then 1 else 0 := by
  unfold encodeByte NeedsEscape
  split_ifs <;> simp_all

/-- The quoted form has two bytes for each byte that is escaped, one for each other, and the
quotes. -/
theorem length_form (bytes : Bytes) :
    (form bytes).length = bytes.length + bytes.countP (NeedsEscape ·) + 2 := by
  have inside : (bytes.flatMap encodeByte).length =
      bytes.length + bytes.countP (NeedsEscape ·) := by
    induction bytes with
    | nil => rfl
    | cons byte rest hypothesis =>
      rw [List.flatMap_cons, List.length_append, hypothesis, length_encodeByte, List.length_cons,
        List.countP_cons]
      simp only [decide_eq_true_eq]
      omega
  rw [form, List.length_cons, List.length_append, inside, List.length_singleton]

theorem fits_iff (bytes : Bytes) :
    Fits bytes ↔ bytes.length + bytes.countP (NeedsEscape ·) + 2 ≤ quotedCapacity := by
  rw [Fits, length_form]

/-- **Encoding gives exactly the strings on one line within the capacity that decode.** -/
theorem encode_eq_ok_iff (bytes quoted : Bytes) :
    encode bytes = .ok quoted ↔
      Split.newline ∉ quoted ∧ quoted.length ≤ quotedCapacity ∧ decode quoted = .ok bytes := by
  rw [encode_eq]
  constructor
  · intro encoded
    by_cases fits : Fits bytes
    · rw [if_pos fits] at encoded
      cases encoded
      exact ⟨newline_not_mem_form bytes, fits, decode_form bytes⟩
    · rw [if_neg fits] at encoded
      cases encoded
  · rintro ⟨line, room, accepted⟩
    obtain rfl := eq_form_of_decode accepted line
    rw [if_pos (show Fits bytes from room)]

/-- **Encoding and decoding are inverse to each other on single lines, up to the capacity.**
Encoding refuses exactly the byte strings whose quoted form would be beyond the capacity. Every
other one has a quoted form of the counted length and without a newline, which decodes to it. And a
string on one line within the capacity decodes to a byte string exactly when encoding gives it for
that byte string. -/
theorem encode_decode (bytes : Bytes) :
    let length := bytes.length + bytes.countP (NeedsEscape ·) + 2
    (encode bytes = .error (.quotedTooLong bytes) ↔ quotedCapacity < length) ∧
    ((∃ quoted, encode bytes = .ok quoted ∧ quoted.length = length ∧ Split.newline ∉ quoted ∧
      decode quoted = .ok bytes) ↔ length ≤ quotedCapacity) ∧
    ∀ quoted, encode bytes = .ok quoted ↔
      Split.newline ∉ quoted ∧ quoted.length ≤ quotedCapacity ∧ decode quoted = .ok bytes := by
  intro length
  have fits : Fits bytes ↔ length ≤ quotedCapacity := fits_iff bytes
  refine ⟨?_, ?_, encode_eq_ok_iff bytes⟩
  · rw [encode_eq]
    by_cases short : Fits bytes
    · have within := fits.mp short
      simp only [if_pos short, reduceCtorEq, false_iff]
      omega
    · have beyond := mt fits.mpr short
      simp only [if_neg short, true_iff]
      omega
  · constructor
    · rintro ⟨quoted, encoded, counted, -, -⟩
      have room := ((encode_eq_ok_iff bytes quoted).mp encoded).2.1
      omega
    · intro within
      have encoded : encode bytes = .ok (form bytes) := by
        rw [encode_eq, if_pos (fits.mpr within)]
      obtain ⟨line, -, accepted⟩ := (encode_eq_ok_iff bytes (form bytes)).mp encoded
      exact ⟨form bytes, encoded, length_form bytes, line, accepted⟩

end Quoted

end Crosscheck
