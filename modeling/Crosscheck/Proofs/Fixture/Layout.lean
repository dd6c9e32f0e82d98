/-
**What is written of a fixture.**

A fixture is a list of lines. A writer whose sink takes every write puts out exactly those lines,
each with its newline.

* `Fixture.Entry.lines`, `Fixture.Block.lines`, `Fixture.lines`: the lines of a fixture;
* `Fixture.Entry.Writable`, `Fixture.Block.Writable`: what can be written and read back;
* `Fixture.Writer.entry`, `Fixture.Writer.block`, `Fixture.Writer.blocks`: writing a fixture;
* `Fixture.Writer.puts_blocks`: what that puts out.
-/
import Crosscheck.Fixture.Writer
import Crosscheck.Proofs.Fixture.Records
import Crosscheck.Proofs.Text.Quoting

namespace Crosscheck

/-- A rule by which no write fails. -/
def SinkRule.TakesAll (rule : SinkRule) : Prop :=
  ∀ attempts taken added, rule.takes attempts taken added = true

namespace Fixture

/-! ### The lines of a fixture -/

/-- The lines of an entry: its regexp and its records. -/
def Entry.lines (entry : Entry) : List Bytes :=
  Quoted.form (Bytes.ofText entry.regexp) ::
    entry.records.map fun record => Bytes.ofText record.text

/-- The lines of a block. -/
def Block.lines (block : Block) : List Bytes :=
  haystacksHeader ::
    (block.haystacks.map Quoted.form ++ regexpsHeader :: block.entries.flatMap Entry.lines)

/-- The lines of a fixture. -/
def lines (fixture : Fixture) : List Bytes := fixture.flatMap Block.lines

/-- Lines, each with its newline. -/
def ended (texts : List Bytes) : Bytes := texts.flatMap (· ++ [Split.newline])

theorem ended_append (first second : List Bytes) :
    ended (first ++ second) = ended first ++ ended second := List.flatMap_append

theorem ended_flatMap {α : Type} (items : List α) (texts : α → List Bytes) :
    ended (items.flatMap texts) = items.flatMap fun item => ended (texts item) := by
  rw [ended, List.flatMap_assoc]
  rfl

theorem ended_map {α : Type} (items : List α) (text : α → Bytes) :
    ended (items.map text) = items.flatMap fun item => text item ++ [Split.newline] := by
  rw [ended, List.flatMap_map]

/-! ### What can be written and read back -/

/-- An entry for a block with the given number of haystacks whose lines can be read. -/
structure Entry.Legible (haystacks : Nat) (entry : Entry) : Prop where
  /-- It has a record for each haystack. -/
  complete : entry.records.length = haystacks
  /-- Its records can be read. -/
  readable : ∀ record ∈ entry.records, record.Readable

/-- An entry for a block with the given number of haystacks, written and read back. -/
structure Entry.Writable (haystacks : Nat) (entry : Entry) : Prop where
  /-- Its regexp can be quoted. -/
  quotable : Quoted.Fits (Bytes.ofText entry.regexp)
  /-- It has a record for each haystack. -/
  complete : entry.records.length = haystacks
  /-- Its records can be read. -/
  readable : ∀ record ∈ entry.records, record.Readable

theorem Entry.Writable.legible {haystacks : Nat} {entry : Entry}
    (writable : entry.Writable haystacks) : entry.Legible haystacks :=
  ⟨writable.complete, writable.readable⟩

instance (haystacks : Nat) (entry : Entry) : Decidable (entry.Writable haystacks) :=
  decidable_of_iff
    (Quoted.Fits (Bytes.ofText entry.regexp) ∧ entry.records.length = haystacks ∧
      ∀ record ∈ entry.records, record.Readable)
    ⟨fun all => ⟨all.1, all.2.1, all.2.2⟩,
      fun writable => ⟨writable.quotable, writable.complete, writable.readable⟩⟩

/-- A block that can be written and read back. -/
structure Block.Writable (block : Block) : Prop where
  /-- Its haystacks can be quoted. -/
  quotable : ∀ haystack ∈ block.haystacks, Quoted.Fits haystack
  /-- Its entries can be written and read back. -/
  entries : ∀ entry ∈ block.entries, entry.Writable block.haystacks.length

instance (block : Block) : Decidable block.Writable :=
  decidable_of_iff
    ((∀ haystack ∈ block.haystacks, Quoted.Fits haystack) ∧
      ∀ entry ∈ block.entries, entry.Writable block.haystacks.length)
    ⟨fun both => ⟨both.1, both.2⟩, fun writable => ⟨writable.quotable, writable.entries⟩⟩

/-! ### Every line is whole -/

/-- A quoted form is a whole line. -/
theorem whole_form (bytes : Bytes) : Split.Whole (Quoted.form bytes) where
  unbroken := Quoted.newline_not_mem_form bytes
  closed := by
    rw [Quoted.getLast?_form]
    decide

theorem whole_headers : Split.Whole haystacksHeader ∧ Split.Whole regexpsHeader :=
  ⟨⟨by decide, by decide⟩, ⟨by decide, by decide⟩⟩

/-- The lines of an entry are whole. -/
theorem Entry.whole_lines (entry : Entry) : ∀ line ∈ entry.lines, Split.Whole line := by
  intro line member
  rcases List.mem_cons.mp member with rfl | later
  · exact whole_form _
  · obtain ⟨record, _, rfl⟩ := List.mem_map.mp later
    exact record.whole_text

/-- **The lines of a fixture are whole**, so they are found again in its bytes. -/
theorem whole_lines (fixture : Fixture) : ∀ line ∈ fixture.lines, Split.Whole line := by
  intro line member
  obtain ⟨block, _, inside⟩ := List.mem_flatMap.mp member
  rcases List.mem_cons.mp inside with rfl | later
  · exact whole_headers.1
  rcases List.mem_append.mp later with haystack | later
  · obtain ⟨bytes, _, rfl⟩ := List.mem_map.mp haystack
    exact whole_form bytes
  rcases List.mem_cons.mp later with rfl | entries
  · exact whole_headers.2
  · obtain ⟨entry, _, inside⟩ := List.mem_flatMap.mp entries
    exact entry.whole_lines line inside

namespace Writer

/-! ### Writing a fixture -/

/-- Writes an entry. -/
def entry (entry : Entry) : Step := do
  regexp entry.regexp
  forM entry.records record

/-- Writes a block. -/
def block (block : Block) : Step := do
  haystacks block.haystacks
  forM block.entries entry

/-- Writes the blocks of a fixture. The lines that its entries name have no part in this. -/
def blocks (fixture : Fixture) : Step := forM fixture block

/-! ### What a step puts out -/

/-- A step that puts out exactly the given bytes when no write fails. -/
def Puts (step : Step) (added : Bytes) : Prop :=
  ∀ writer : Writer, writer.sink.rule.TakesAll →
    ∃ after, step writer = .ok () after ∧ after.sink.rule = writer.sink.rule ∧
      after.sink.bytes = writer.sink.bytes ++ added

theorem puts_pure : Puts (pure ()) [] :=
  fun writer _ => ⟨writer, rfl, rfl, (List.append_nil _).symm⟩

/-- What two steps put out stands one after the other. -/
theorem Puts.seq {first second : Step} {before after : Bytes} (putsFirst : Puts first before)
    (putsSecond : Puts second after) :
    Puts (do first; second) (before ++ after) := by
  intro writer takes
  obtain ⟨middle, run, rule, bytes⟩ := putsFirst writer takes
  obtain ⟨last, more, keeps, total⟩ := putsSecond middle (by rwa [rule])
  refine ⟨last, ?_, keeps.trans rule, by rw [total, bytes, List.append_assoc]⟩
  show EStateM.bind first (fun _ => second) writer = _
  simp only [EStateM.bind, run, more]

/-- What steps over a list put out stands in the order of the list. -/
theorem puts_forM {α : Type} {items : List α} {step : α → Step} {text : α → Bytes}
    (each : ∀ item ∈ items, Puts (step item) (text item)) :
    Puts (forM items step) (items.flatMap text) := by
  induction items with
  | nil => exact puts_pure
  | cons item rest hypothesis =>
    rw [List.forM_cons, List.flatMap_cons]
    exact (each item List.mem_cons_self).seq
      (hypothesis fun item member => each item (List.mem_cons_of_mem _ member))

theorem puts_put (bytes : Bytes) : Puts (put bytes) bytes := by
  intro writer takes
  have run : put bytes writer = .ok ()
      ⟨⟨writer.sink.rule, writer.sink.attempts + 1, writer.sink.taken + bytes.length,
        bytes :: writer.sink.chunks⟩, writer.hasHaystacks⟩ := by
    simp only [put, onSink, Sink.write, takes _ _ _, if_true]
  exact ⟨_, run, rfl, by simp [Sink.bytes]⟩

theorem puts_line (bytes : Bytes) : Puts (line bytes) (bytes ++ [Split.newline]) :=
  (puts_put bytes).seq (puts_put _)

/-- A byte string that fits is put out in its quoted form. -/
theorem puts_quoted {bytes : Bytes} (fits : Quoted.Fits bytes) :
    Puts (quoted bytes) (Quoted.form bytes ++ [Split.newline]) := by
  rw [quoted, Quoted.encode_eq, if_pos fits]
  exact puts_line _

/-- The beginning of a block is put out with its headers. -/
theorem puts_haystacks {strings : List Bytes} (fits : ∀ haystack ∈ strings, Quoted.Fits haystack) :
    Puts (haystacks strings)
      (ended (haystacksHeader :: (strings.map Quoted.form ++ [regexpsHeader]))) := by
  have marks : Puts (modify fun writer => { writer with hasHaystacks := true }) [] :=
    fun writer _ => ⟨_, rfl, rfl, (List.append_nil _).symm⟩
  have whole := (puts_put (haystacksHeader ++ [Split.newline])).seq
    ((puts_forM fun haystack member => puts_quoted (fits haystack member)).seq
      ((puts_put (regexpsHeader ++ [Split.newline])).seq marks))
  rw [← ended_map, List.append_nil] at whole
  rw [ended, List.flatMap_cons, List.flatMap_append, List.flatMap_singleton]
  exact whole

theorem puts_entry {haystacks : Nat} {entry : Entry} (writable : entry.Writable haystacks) :
    Puts (Writer.entry entry) (ended entry.lines) := by
  have records : Puts (forM entry.records record)
      (ended (entry.records.map fun record => Bytes.ofText record.text)) := by
    rw [ended_map]
    exact puts_forM fun record _ => puts_line _
  rw [ended, Entry.lines, List.flatMap_cons]
  exact (puts_quoted writable.quotable).seq records

/-- A block is put out line by line. -/
theorem puts_block {block : Block} (writable : block.Writable) :
    Puts (Writer.block block) (ended block.lines) := by
  have entries : Puts (forM block.entries entry) (ended (block.entries.flatMap Entry.lines)) := by
    rw [ended_flatMap]
    exact puts_forM fun entry member => puts_entry (writable.entries entry member)
  have whole := (puts_haystacks writable.quotable).seq entries
  rw [ended, ended, ← List.flatMap_append] at whole
  rw [List.cons_append, List.append_assoc, List.singleton_append] at whole
  exact whole

/-- **Writing a fixture puts out its lines.** -/
theorem puts_blocks {fixture : Fixture} (writable : ∀ block ∈ fixture, block.Writable) :
    Puts (blocks fixture) (ended fixture.lines) := by
  rw [lines, ended_flatMap]
  exact puts_forM fun block member => puts_block (writable block member)

end Writer

end Fixture

end Crosscheck
