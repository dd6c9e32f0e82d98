/-
**What spells a record.**

The reader of records cuts a line at its semicolons, a result at its blanks and a token at its first
hyphen, and reads what it has got. The lines it accepts are those that are put together from parts
that spell something: numbers to spans, spans and hyphens to results, and results to records.

* `Number.Spells`, `Record.SpellsSpan`, `Record.SpellsResult`, `Record.SpellsRecord`: what spells a
  number, a span, a result and a record;
* `Split.pieces_eq_iff`: the pieces of a list are the parts it is put together from;
* `Record.exists_read_iff`: a line is read as a record exactly when it spells one.
-/
import Crosscheck.Proofs.Fixture.Records
import Mathlib.Data.List.Basic

namespace Crosscheck

/-! ### Numbers -/

namespace Number

/-- Characters that spell a number: digits, and a plus sign before them or not. -/
def Spells (text : List Char) (value : Nat) : Prop :=
  ∃ sign digits, (sign = [] ∨ sign = ['+']) ∧ digits ≠ [] ∧ (∀ digit ∈ digits, digit.isDigit) ∧
    text = sign ++ digits ∧ value = Nat.ofDigitChars 10 digits 0 ∧ value ≤ greatest

/-- What digits are read as after others. -/
theorem readDigits_eq_ok_iff {digits : List Char} {value result : Nat} (small : value ≤ greatest) :
    readDigits value digits = .ok result ↔ (∀ digit ∈ digits, digit.isDigit) ∧
      result = Nat.ofDigitChars 10 digits value ∧ result ≤ greatest := by
  constructor
  · intro read
    induction digits generalizing value with
    | nil =>
      cases read
      exact ⟨by simp, Nat.ofDigitChars_nil.symm, small⟩
    | cons digit rest hypothesis =>
      rw [readDigits] at read
      split at read
      · next decimal =>
        dsimp only at read
        split at read
        · next still =>
          obtain ⟨others, equal, bound⟩ := hypothesis still read
          rw [Nat.ofDigitChars_cons, Nat.mul_comm]
          exact ⟨List.forall_mem_cons.mpr ⟨decimal, others⟩, equal, bound⟩
        · cases read
      · cases read
  · rintro ⟨decimal, rfl, bound⟩
    exact readDigits_eq decimal bound

/-- **Characters are read as the number they spell.** -/
theorem read_eq_ok_iff {text : List Char} {value : Nat} :
    read text = .ok value ↔ Spells text value := by
  have digits : ∀ {digits : List Char}, readDigits 0 digits = .ok value ↔
      (∀ digit ∈ digits, digit.isDigit) ∧ value = Nat.ofDigitChars 10 digits 0 ∧
        value ≤ greatest := readDigits_eq_ok_iff (Nat.zero_le _)
  constructor
  · intro spelled
    rw [read.eq_def] at spelled
    split at spelled
    · cases spelled
    · cases spelled
    · next rest nonempty =>
      obtain ⟨decimal, equal, bound⟩ := digits.mp spelled
      exact ⟨['+'], rest, .inr rfl, by rintro rfl; exact nonempty rfl, decimal, rfl, equal, bound⟩
    · next nonempty _ _ =>
      obtain ⟨decimal, equal, bound⟩ := digits.mp spelled
      exact ⟨[], text, .inl rfl, nonempty, decimal, rfl, equal, bound⟩
  · rintro ⟨sign, rest, signs, nonempty, decimal, rfl, equal, bound⟩
    have spelled := digits.mpr ⟨decimal, equal, bound⟩
    obtain ⟨digit, more, rfl⟩ := List.exists_cons_of_ne_nil nonempty
    rcases signs with rfl | rfl
    · have unsigned : digit ≠ '+' := by
        rintro rfl
        exact absurd (decimal '+' List.mem_cons_self) (by decide)
      rw [List.nil_append, read.eq_def]
      split
      · next empty => cases empty
      · next signed => exact absurd (List.cons.inj signed).1 unsigned
      · next signed => exact absurd (List.cons.inj signed).1 unsigned
      · exact spelled
    · exact spelled

/-- What spells a number has only digits and plus signs. -/
theorem Spells.mem {text : List Char} {value : Nat} (spells : Spells text value) {char : Char}
    (member : char ∈ text) : char.isDigit ∨ char = '+' := by
  obtain ⟨sign, digits, signs, -, decimal, rfl, -⟩ := spells
  rcases List.mem_append.mp member with first | second
  · rcases signs with rfl | rfl
    · cases first
    · exact .inr (List.mem_singleton.mp first)
  · exact .inl (decimal char second)

end Number

/-! ### Pieces -/

namespace Split

variable {α : Type} [DecidableEq α] {separator : α}

/-- No piece holds the separator. -/
theorem not_mem_of_mem_piecesFrom {items read part : List α} (apart : separator ∉ read)
    (member : part ∈ piecesFrom separator read items) : separator ∉ part := by
  induction items generalizing read with
  | nil =>
    rw [List.mem_singleton.mp member, List.mem_reverse]
    exact apart
  | cons item rest hypothesis =>
    rw [piecesFrom] at member
    split at member
    · rcases List.mem_cons.mp member with rfl | later
      · rwa [List.mem_reverse]
      · exact hypothesis List.not_mem_nil later
    · next other =>
      exact hypothesis (List.not_mem_cons_of_ne_of_not_mem (Ne.symm other) apart) member

theorem piecesFrom_ne_nil (read items : List α) : piecesFrom separator read items ≠ [] := by
  induction items generalizing read with
  | nil => exact List.cons_ne_nil _ _
  | cons item rest hypothesis =>
    rw [piecesFrom]
    split
    · exact List.cons_ne_nil _ _
    · exact hypothesis _

/-- **The pieces of a list are the parts without the separator that it is put together from.** -/
theorem pieces_eq_iff {items : List α} {parts : List (List α)} :
    pieces separator items = parts ↔ parts ≠ [] ∧ (∀ part ∈ parts, separator ∉ part) ∧
      items = [separator].intercalate parts := by
  constructor
  · rintro rfl
    refine ⟨piecesFrom_ne_nil _ _, fun part => not_mem_of_mem_piecesFrom List.not_mem_nil, ?_⟩
    rw [pieces_eq_splitOn, List.intercalate_splitOn]
  · rintro ⟨nonempty, apart, rfl⟩
    exact pieces_intercalate apart nonempty

end Split

/-! ### Records -/

namespace Record

/-- A token that spells a span: two numbers in order with a hyphen between them. -/
def SpellsSpan (token : List Char) : Prop :=
  ∃ first second start stop, Number.Spells first start ∧ Number.Spells second stop ∧
    start ≤ stop ∧ token = first ++ '-' :: second

/-- A token that spells a group: a hyphen or a span. -/
def SpellsGroup (token : List Char) : Prop := token = ['-'] ∨ SpellsSpan token

/-- A field that spells a result: a hyphen, or tokens with blanks between them, of which the first
spells a span and the others spell groups. -/
def SpellsResult (field : List Char) : Prop :=
  field = ['-'] ∨ ∃ overall groups, SpellsSpan overall ∧ (∀ group ∈ groups, SpellsGroup group) ∧
    field = [' '].intercalate (overall :: groups)

/-- A line that spells a record: four results with semicolons between them. -/
def SpellsRecord (line : Bytes) : Prop :=
  ∃ fields : List (List Char), fields.length = 4 ∧ (∀ field ∈ fields, SpellsResult field) ∧
    line = Bytes.ofText (.ofList ([';'].intercalate fields))

theorem atHyphen_eq_some_iff {chars before after : List Char} :
    atHyphen chars = some (before, after) ↔ '-' ∉ before ∧ chars = before ++ '-' :: after := by
  constructor
  · intro found
    induction chars generalizing before with
    | nil => cases found
    | cons char rest hypothesis =>
      rw [atHyphen.eq_def] at found
      split at found
      · next empty => cases empty
      · next same =>
        cases found
        exact ⟨List.not_mem_nil, same⟩
      · next other same =>
        obtain ⟨rfl, rfl⟩ := List.cons.inj same
        obtain ⟨⟨more, after⟩, found, same⟩ := Option.map_eq_some_iff.mp found
        cases same
        obtain ⟨apart, rfl⟩ := hypothesis found
        exact ⟨List.not_mem_cons_of_ne_of_not_mem (fun hyphen => other hyphen.symm) apart, rfl⟩
  · rintro ⟨apart, rfl⟩
    exact atHyphen_append apart after

/-- **A token is read as a span exactly when it spells one.** -/
theorem isSome_readSpan?_iff {token : List Char} :
    (readSpan? token).isSome ↔ SpellsSpan token := by
  constructor
  · intro read
    rw [readSpan?] at read
    split at read
    · next before after cut =>
      split at read
      · next start stop first second =>
        split at read
        · next ordered =>
          exact ⟨before, after, start, stop, Number.read_eq_ok_iff.mp first,
            Number.read_eq_ok_iff.mp second, ordered, (atHyphen_eq_some_iff.mp cut).2⟩
        · cases read
      · cases read
    · cases read
  · rintro ⟨before, after, start, stop, first, second, ordered, rfl⟩
    have apart : '-' ∉ before := fun member => absurd (first.mem member) (by decide)
    rw [readSpan?, atHyphen_append apart]
    simp only [Number.read_eq_ok_iff.mpr first, Number.read_eq_ok_iff.mpr second, if_pos ordered]
    rfl

theorem SpellsSpan.ne_hyphen {token : List Char} (spells : SpellsSpan token) : token ≠ ['-'] := by
  obtain ⟨first, second, start, stop, ⟨sign, digits, -, nonempty, -, rfl, -⟩, -, -, rfl⟩ := spells
  intro same
  have length := congrArg List.length same
  simp only [List.length_append, List.length_cons, List.length_nil] at length
  have positive := List.length_pos_iff.mpr nonempty
  omega

/-- A token is read as a group that took part exactly when it spells a span. -/
theorem exists_readToken_span_iff {token : List Char} :
    (∃ span, readToken token = .ok (some span)) ↔ SpellsSpan token := by
  rw [← isSome_readSpan?_iff, readToken]
  constructor
  · rintro ⟨span, read⟩
    split at read
    · cases read
    · split at read
      · next found => rw [found]; rfl
      · cases read
  · intro isSpan
    obtain ⟨span, found⟩ := Option.isSome_iff_exists.mp isSpan
    refine ⟨span, ?_⟩
    rw [if_neg (isSome_readSpan?_iff.mp isSpan).ne_hyphen, found]

/-- A token is read as a group exactly when it spells one. -/
theorem exists_readToken_iff {token : List Char} :
    (∃ group, readToken token = .ok group) ↔ SpellsGroup token := by
  constructor
  · rintro ⟨_ | span, read⟩
    · rw [readToken] at read
      split at read
      · next same => exact .inl same
      · split at read <;> cases read
    · exact .inr (exists_readToken_span_iff.mp ⟨span, read⟩)
  · rintro (rfl | spells)
    · exact ⟨none, if_pos rfl⟩
    · obtain ⟨span, read⟩ := exists_readToken_span_iff.mpr spells
      exact ⟨some span, read⟩

/-- Tokens are read as groups exactly when each spells one. -/
theorem exists_mapM_readToken_iff {tokens : List (List Char)} :
    (∃ groups, tokens.mapM readToken = .ok groups) ↔ ∀ token ∈ tokens, SpellsGroup token := by
  induction tokens with
  | nil => exact iff_of_true ⟨[], rfl⟩ (by simp)
  | cons token rest hypothesis =>
    rw [List.forall_mem_cons, ← hypothesis, ← exists_readToken_iff]
    simp only [List.mapM_cons]
    cases readToken token <;> cases rest.mapM readToken <;>
      simp [bind, Except.bind, pure, Except.pure]

/-- What spells a group has only digits, hyphens and plus signs. -/
theorem SpellsSpan.mem {token : List Char} (spells : SpellsSpan token) {char : Char}
    (member : char ∈ token) : char.isDigit ∨ char = '+' ∨ char = '-' := by
  obtain ⟨first, second, start, stop, spellsFirst, spellsSecond, -, rfl⟩ := spells
  rcases List.mem_append.mp member with before | rest
  · exact (spellsFirst.mem before).imp_right .inl
  · rcases List.mem_cons.mp rest with hyphen | after
    · exact .inr (.inr hyphen)
    · exact (spellsSecond.mem after).imp_right .inl

theorem SpellsGroup.mem {token : List Char} (spells : SpellsGroup token) {char : Char}
    (member : char ∈ token) : char.isDigit ∨ char = '+' ∨ char = '-' := by
  rcases spells with rfl | spells
  · exact .inr (.inr (List.mem_singleton.mp member))
  · exact spells.mem member

/-- The tokens of a match: the first one spells a span, and the others spell groups. -/
theorem exists_mapM_overall_iff {tokens : List (List Char)} :
    (∃ overall groups, tokens.mapM readToken = .ok (some overall :: groups)) ↔
      ∃ first rest, tokens = first :: rest ∧ SpellsSpan first ∧
        ∀ token ∈ rest, SpellsGroup token := by
  constructor
  · rintro ⟨overall, groups, read⟩
    cases tokens with
    | nil => cases read
    | cons first rest =>
      rw [List.mapM_cons] at read
      cases one : readToken first with
      | error => rw [one] at read; cases read
      | ok group =>
        cases others : rest.mapM readToken with
        | error => rw [one, others] at read; cases read
        | ok more =>
          rw [one, others] at read
          cases read
          exact ⟨first, rest, rfl, exists_readToken_span_iff.mp ⟨overall, one⟩,
            exists_mapM_readToken_iff.mp ⟨groups, others⟩⟩
  · rintro ⟨first, rest, rfl, spells, others⟩
    obtain ⟨overall, one⟩ := exists_readToken_span_iff.mpr spells
    obtain ⟨groups, more⟩ := exists_mapM_readToken_iff.mpr others
    refine ⟨overall, groups, ?_⟩
    rw [List.mapM_cons, one, more]
    rfl

/-- **A field is read as a result exactly when it spells one.** -/
theorem exists_readResult_iff {field : List Char} :
    (∃ result, readResult field = .ok result) ↔ SpellsResult field := by
  constructor
  · rintro ⟨result, read⟩
    rw [readResult] at read
    split at read
    · next hyphen => exact .inl hyphen
    · split at read
      · next overall groups tokens =>
        obtain ⟨first, rest, cut, spells, others⟩ := exists_mapM_overall_iff.mp ⟨_, _, tokens⟩
        exact .inr ⟨first, rest, spells, others, (Split.pieces_eq_iff.mp cut).2.2⟩
      · cases read
      · cases read
  · rintro (rfl | ⟨first, rest, spells, others, rfl⟩)
    · exact ⟨none, if_pos rfl⟩
    · have all : ∀ token ∈ first :: rest, SpellsGroup token :=
        List.forall_mem_cons.mpr ⟨.inr spells, others⟩
      have apart : ∀ token ∈ first :: rest, ' ' ∉ token := fun token inside blank =>
        absurd ((all token inside).mem blank) (by decide)
      obtain ⟨overall, groups, read⟩ := exists_mapM_overall_iff.mpr ⟨_, _, rfl, spells, others⟩
      have cut := Split.pieces_intercalate apart (List.cons_ne_nil first rest)
      rw [readResult]
      split
      · exact ⟨_, rfl⟩
      · rw [cut, read]
        exact ⟨_, rfl⟩

/-- What spells a result has only digits, hyphens, plus signs and blanks. -/
theorem SpellsResult.mem {field : List Char} (spells : SpellsResult field) {char : Char}
    (member : char ∈ field) : char.isDigit ∨ char = '+' ∨ char = '-' ∨ char = ' ' := by
  rcases spells with rfl | ⟨first, rest, spells, others, rfl⟩
  · exact .inr (.inr (.inl (List.mem_singleton.mp member)))
  · have all : ∀ token ∈ first :: rest, SpellsGroup token :=
      List.forall_mem_cons.mpr ⟨.inr spells, others⟩
    rcases Split.mem_of_mem_intercalate member with blank | ⟨token, inside, member⟩
    · exact .inr (.inr (.inr blank))
    · exact ((all token inside).mem member).imp_right (.imp_right .inl)

/-- A text is read as a record exactly when it is put together from four results. -/
theorem exists_readText_iff {text : String} :
    (∃ record, readText text = .ok record) ↔ ∃ fields : List (List Char), fields.length = 4 ∧
      (∀ field ∈ fields, SpellsResult field) ∧ text = .ofList ([';'].intercalate fields) := by
  constructor
  · rintro ⟨record, read⟩
    rw [readText] at read
    split at read
    · next one two three four cut =>
      refine ⟨[one, two, three, four], rfl, ?_, ?_⟩
      · simp only [List.forall_mem_cons, ← exists_readResult_iff]
        cases first : readResult one <;> cases second : readResult two <;>
          cases third : readResult three <;> cases fourth : readResult four <;>
          simp_all [bind, Except.bind]
      · rw [← (Split.pieces_eq_iff.mp cut).2.2, String.ofList_toList]
    · cases read
  · rintro ⟨fields, length, spells, rfl⟩
    obtain ⟨one, two, three, four, rfl⟩ := List.length_eq_four.mp length
    have apart : ∀ field ∈ [one, two, three, four], ';' ∉ field := fun field inside semicolon =>
      absurd ((spells field inside).mem semicolon) (by decide)
    have cut := Split.pieces_intercalate apart (List.cons_ne_nil one [two, three, four])
    simp only [List.forall_mem_cons, ← exists_readResult_iff] at spells
    obtain ⟨⟨_, first⟩, ⟨_, second⟩, ⟨_, third⟩, ⟨_, fourth⟩, -⟩ := spells
    rw [readText, String.toList_ofList, cut]
    simp only [first, second, third, fourth]
    exact ⟨_, rfl⟩

end Record

/-- **A line is read as a record exactly when it spells one.** -/
theorem Record.exists_read_iff {line : Bytes} :
    (∃ record, Record.read line = .ok record) ↔ Record.SpellsRecord line := by
  constructor
  · rintro ⟨record, read⟩
    rw [Record.read] at read
    split at read
    · next text isText =>
      obtain ⟨fields, length, spells, rfl⟩ := exists_readText_iff.mp ⟨record, read⟩
      exact ⟨fields, length, spells, Bytes.text?_eq_some_iff.mp isText⟩
    · cases read
  · rintro ⟨fields, length, spells, rfl⟩
    rw [Record.read, Bytes.text?_ofText]
    exact exists_readText_iff.mpr ⟨fields, length, spells, rfl⟩

/-- What spells a record has no double quote. -/
theorem Record.SpellsRecord.quote_not_mem {line : Bytes} (spells : SpellsRecord line) :
    (0x22 : UInt8) ∉ line := by
  obtain ⟨fields, -, results, rfl⟩ := spells
  intro member
  rw [Bytes.ofText_eq_flatMap, String.toList_ofList] at member
  obtain ⟨char, inside, encoded⟩ := List.mem_flatMap.mp member
  have plain : char.toNat < 0x80 ∧ char.toNat ≠ 0x22 := by
    rcases Split.mem_of_mem_intercalate inside with rfl | ⟨field, listed, inside⟩
    · decide
    rcases (results field listed).mem inside with digit | rfl | rfl | rfl
    · rw [Char.isDigit, Bool.and_eq_true, decide_eq_true_eq, decide_eq_true_eq] at digit
      have least : 0x30 ≤ char.toNat := digit.1
      have greatest : char.toNat ≤ 0x39 := digit.2
      omega
    · decide
    · decide
    · decide
  rw [Bytes.utf8EncodeChar_ascii plain.1, List.mem_singleton] at encoded
  have same := congrArg UInt8.toNat encoded
  rw [Nat.toUInt8, UInt8.toNat_ofNat_of_lt' (Nat.lt_trans plain.1 (by decide))] at same
  exact plain.2 same.symm

end Crosscheck
