/-
**Records read back.**

A record mixes three uses of the hyphen: a result without a match, a group that took no part, and
the middle of a span. The text of every record is read as that record when its spans are in order.

* `Span.Readable`, `Captures.Readable`, `Record.Readable`: what the text of a span, of a match and
  of a record must have to be read;
* `Record.readToken_tokenText`, `Record.readResult_resultText`: tokens and results read back;
* `Record.read_text`: so do records;
* `Record.whole_text`: the text of a record is a whole line.
-/
import Crosscheck.Fixture.Record
import Crosscheck.Proofs.Text.Splitting

namespace Crosscheck

/-- A span in order, whose ends are numbers that can be read. Every position in memory is one. -/
structure Span.Readable (span : Span) : Prop where
  /-- It does not end before it starts. -/
  ordered : span.start ≤ span.stop
  /-- Its end has 64 bits. -/
  small : span.stop ≤ Number.greatest

instance (span : Span) : Decidable span.Readable :=
  decidable_of_iff (span.start ≤ span.stop ∧ span.stop ≤ Number.greatest)
    ⟨fun both => ⟨both.1, both.2⟩, fun readable => ⟨readable.ordered, readable.small⟩⟩

/-- A match all of whose spans can be read. -/
def Captures.Readable (captures : Captures) : Prop :=
  ∀ group ∈ captures.spans, ∀ span ∈ group, span.Readable

instance (captures : Captures) : Decidable captures.Readable :=
  inferInstanceAs (Decidable (∀ group ∈ captures.spans, ∀ span ∈ group, span.Readable))

namespace Record

/-- A record all of whose spans can be read. -/
def Readable (record : Record) : Prop :=
  ∀ result ∈ record.results, ∀ captures ∈ result, captures.Readable

instance (record : Record) : Decidable record.Readable :=
  inferInstanceAs (Decidable (∀ result ∈ record.results, ∀ captures ∈ result, captures.Readable))

/-! ### Tokens -/

theorem toList_tokenText (span : Span) :
    (tokenText (some span)).toList =
      Nat.toDigits 10 span.start ++ '-' :: Nat.toDigits 10 span.stop := by
  simp [tokenText, toString]

/-- A token has only digits and hyphens. -/
theorem mem_tokenText {group : Option Span} {char : Char}
    (member : char ∈ (tokenText group).toList) : char.isDigit ∨ char = '-' := by
  cases group with
  | none => exact .inr (List.mem_singleton.mp member)
  | some span =>
    rw [toList_tokenText, List.mem_append, List.mem_cons] at member
    rcases member with first | hyphen | second
    · exact .inl (Nat.isDigit_of_mem_toDigits (by decide) (by decide) first)
    · exact .inr hyphen
    · exact .inl (Nat.isDigit_of_mem_toDigits (by decide) (by decide) second)

/-- What has no hyphen ends at the first hyphen. -/
theorem atHyphen_append {before : List Char} (apart : '-' ∉ before) (after : List Char) :
    atHyphen (before ++ '-' :: after) = some (before, after) := by
  induction before with
  | nil => rfl
  | cons char rest hypothesis =>
    rw [List.mem_cons, not_or] at apart
    rw [List.cons_append, atHyphen, hypothesis apart.2, Option.map_some]
    exact fun equal => apart.1 equal.symm

theorem readSpan?_tokenText {span : Span} (readable : span.Readable) :
    readSpan? (tokenText (some span)).toList = some span := by
  have apart : '-' ∉ Nat.toDigits 10 span.start := fun member =>
    absurd (Nat.isDigit_of_mem_toDigits (by decide) (by decide) member) (by decide)
  simp only [readSpan?, toList_tokenText, atHyphen_append apart,
    Number.read_toDigits (Nat.le_trans readable.ordered readable.small),
    Number.read_toDigits readable.small, if_pos readable.ordered]

theorem tokenText_ne_hyphen (span : Span) : (tokenText (some span)).toList ≠ ['-'] := by
  rw [toList_tokenText]
  intro equal
  have length := congrArg List.length equal
  have start : 0 < (Nat.toDigits 10 span.start).length := Nat.length_toDigits_pos
  rw [List.length_append, List.length_cons, List.length_singleton] at length
  omega

/-- **The token of a group is read as that group.** -/
theorem readToken_tokenText {group : Option Span} (readable : ∀ span ∈ group, span.Readable) :
    readToken (tokenText group).toList = .ok group := by
  cases group with
  | none => rfl
  | some span =>
    rw [readToken, if_neg (tokenText_ne_hyphen span), readSpan?_tokenText (readable span rfl)]

/-! ### Results -/

/-- The text of a match has the tokens of its groups between blanks. -/
theorem toList_resultText (captures : Captures) :
    (resultText (some captures)).toList =
      [' '].intercalate (captures.spans.map fun group => (tokenText group).toList) := by
  rw [resultText, String.toList_intercalate, List.map_map]
  rfl

theorem blank_not_mem_tokens (groups : List (Option Span)) :
    ∀ token ∈ groups.map fun group => (tokenText group).toList, ' ' ∉ token := by
  intro token member blank
  obtain ⟨group, _, rfl⟩ := List.mem_map.mp member
  exact absurd (mem_tokenText blank) (by decide)

theorem pieces_resultText (captures : Captures) :
    Split.pieces ' ' (resultText (some captures)).toList =
      captures.spans.map fun group => (tokenText group).toList := by
  rw [toList_resultText, Split.pieces_intercalate (blank_not_mem_tokens captures.spans)]
  rw [Captures.spans, List.map_cons]
  exact List.cons_ne_nil _ _

/-- The tokens of groups are read one by one. -/
theorem mapM_readToken {groups : List (Option Span)}
    (readable : ∀ group ∈ groups, ∀ span ∈ group, span.Readable) :
    (groups.map fun group => (tokenText group).toList).mapM readToken = .ok groups := by
  induction groups with
  | nil => rfl
  | cons group rest hypothesis =>
    rw [List.map_cons, List.mapM_cons, readToken_tokenText (readable group List.mem_cons_self),
      hypothesis fun group member => readable group (List.mem_cons_of_mem _ member)]
    rfl

/-- The text of a match is more than a hyphen. -/
theorem resultText_ne_hyphen (captures : Captures) :
    (resultText (some captures)).toList ≠ ['-'] := by
  intro equal
  have tokens := pieces_resultText captures
  rw [equal, Captures.spans, List.map_cons] at tokens
  -- One hyphen alone is one token, and the first token of a match is that of a span.
  exact tokenText_ne_hyphen captures.overall (List.cons.inj tokens).1.symm

/-- **The text of a result is read as that result.** -/
theorem readResult_resultText {result : Option Captures}
    (readable : ∀ captures ∈ result, captures.Readable) :
    readResult (resultText result).toList = .ok result := by
  cases result with
  | none => rfl
  | some captures =>
    rw [readResult, if_neg (resultText_ne_hyphen captures), pieces_resultText,
      mapM_readToken (readable captures rfl)]
    rfl

/-- A result has only digits, hyphens and blanks. -/
theorem mem_resultText {result : Option Captures} {char : Char}
    (member : char ∈ (resultText result).toList) : char.isDigit ∨ char = '-' ∨ char = ' ' := by
  cases result with
  | none => exact .inr (.inl (List.mem_singleton.mp member))
  | some captures =>
    rw [toList_resultText] at member
    rcases Split.mem_of_mem_intercalate member with blank | ⟨token, found, inside⟩
    · exact .inr (.inr blank)
    · obtain ⟨group, _, rfl⟩ := List.mem_map.mp found
      exact (mem_tokenText inside).imp_right .inl

/-! ### Records -/

theorem toList_text (record : Record) :
    record.text.toList =
      [';'].intercalate (record.results.map fun result => (resultText result).toList) := by
  rw [text, String.toList_intercalate, List.map_map]
  rfl

theorem pieces_text (record : Record) :
    Split.pieces ';' record.text.toList =
      record.results.map fun result => (resultText result).toList := by
  rw [toList_text]
  refine Split.pieces_intercalate ?_ (List.cons_ne_nil _ _)
  intro field member semicolon
  obtain ⟨result, _, rfl⟩ := List.mem_map.mp member
  exact absurd (mem_resultText semicolon) (by decide)

theorem readText_text {record : Record} (readable : record.Readable) :
    readText record.text = .ok record := by
  have each : ∀ result ∈ record.results, readResult (resultText result).toList = .ok result :=
    fun result member => readResult_resultText (readable result member)
  simp only [results, List.forall_mem_cons] at each
  obtain ⟨first, second, third, fourth, _⟩ := each
  simp only [readText, pieces_text, results, List.map_cons, List.map_nil, first, second, third,
    fourth]
  rfl

/-- **The line of a record is read as that record.** -/
theorem read_text {record : Record} (readable : record.Readable) :
    read (Bytes.ofText record.text) = .ok record := by
  rw [read, Bytes.text?_ofText]
  exact readText_text readable

/-- A record has only printable characters. -/
theorem printable_text {record : Record} :
    ∀ char ∈ record.text.toList, 0x20 ≤ char.toNat ∧ char.toNat < 0x80 := by
  intro char member
  rw [toList_text] at member
  have digit : char.isDigit → 0x20 ≤ char.toNat ∧ char.toNat < 0x80 := by
    intro digit
    rw [Char.isDigit, Bool.and_eq_true, decide_eq_true_eq, decide_eq_true_eq] at digit
    exact ⟨Nat.le_trans (by decide) digit.1, Nat.lt_of_le_of_lt digit.2 (by decide)⟩
  rcases Split.mem_of_mem_intercalate member with rfl | ⟨field, found, inside⟩
  · decide
  obtain ⟨result, _, rfl⟩ := List.mem_map.mp found
  rcases mem_resultText inside with decimal | rfl | rfl
  · exact digit decimal
  · decide
  · decide

/-- **The text of a record is a whole line.** -/
theorem whole_text (record : Record) : Split.Whole (Bytes.ofText record.text) where
  unbroken broken := absurd (Bytes.printable_ofText printable_text _ broken) (by decide)
  closed ended :=
    absurd (Bytes.printable_ofText printable_text _ (List.mem_of_getLast? ended)) (by decide)

end Record

end Crosscheck
