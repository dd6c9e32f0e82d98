/-
**Reading a fixture undoes writing it.**

A block says neither how many haystacks it has nor how many entries. The reader tells a header from
a quoted line by its first byte, and takes as many records after a regexp as there were haystacks.

* `Fixture.numbered`: a fixture whose entries name the lines of their regexps;
* `Fixture.Reader.steps_entries`, `Fixture.Reader.steps_block`: what a reader makes of the lines of
  entries and of a block;
* `Fixture.line_of_numbered`: on the line that an entry names stands its regexp;
* `Fixture.read_written`: what was written is read, with the numbers of its lines.
-/
import Crosscheck.Fixture.Reader
import Crosscheck.Proofs.Fixture.Layout

namespace Crosscheck

namespace Fixture

/-! ### Numbers of lines -/

/-- Entries that name the lines of their regexps, the first of which has the given number. -/
def numberedEntries (line : Nat) : List Entry → List Entry
  | [] => []
  | entry :: rest =>
    { entry with line := line } :: numberedEntries (line + entry.lines.length) rest

/-- A block whose entries name the lines of their regexps, when its header has the given number. -/
def Block.numbered (line : Nat) (block : Block) : Block :=
  { block with entries := numberedEntries (line + block.haystacks.length + 2) block.entries }

/-- A fixture whose entries name the lines of their regexps, when its first line has the given
number. -/
def numbered (line : Nat) : Fixture → Fixture
  | [] => []
  | block :: rest => block.numbered line :: numbered (line + block.lines.length) rest

/-- On the line that a numbered entry names stands its regexp. -/
theorem line_of_numberedEntries {number : Nat} {entries : List Entry} {entry : Entry}
    (member : entry ∈ numberedEntries number entries) :
    ∃ index, entry.line = number + index ∧
      (entries.flatMap Entry.lines)[index]? = some (Quoted.form (Bytes.ofText entry.regexp)) := by
  induction entries generalizing number with
  | nil => cases member
  | cons first rest hypothesis =>
    rcases List.mem_cons.mp member with rfl | later
    · exact ⟨0, rfl, rfl⟩
    · obtain ⟨index, named, stands⟩ := hypothesis later
      refine ⟨first.lines.length + index, by rw [named, Nat.add_assoc], ?_⟩
      rw [List.flatMap_cons, List.getElem?_append_right (Nat.le_add_right _ _),
        Nat.add_sub_cancel_left, stands]

/-- On the line that an entry of a numbered block names stands its regexp. -/
theorem line_of_numberedBlock {number : Nat} {block : Block} {entry : Entry}
    (member : entry ∈ (block.numbered number).entries) :
    ∃ index, entry.line = number + index ∧
      block.lines[index]? = some (Quoted.form (Bytes.ofText entry.regexp)) := by
  obtain ⟨index, named, stands⟩ := line_of_numberedEntries member
  refine ⟨block.haystacks.length + 2 + index, by omega, ?_⟩
  have shifted : block.haystacks.length + 2 + index =
      block.haystacks.length + (index + 1) + 1 := by
    omega
  rw [Block.lines, shifted, List.getElem?_cons_succ,
    List.getElem?_append_right (by rw [List.length_map]; omega), List.length_map,
    Nat.add_sub_cancel_left, List.getElem?_cons_succ, stands]

/-- **On the line that an entry of a numbered fixture names stands its regexp.** -/
theorem line_of_numbered {number : Nat} {fixture : Fixture} {block : Block}
    (inside : block ∈ numbered number fixture) {entry : Entry} (member : entry ∈ block.entries) :
    ∃ index, entry.line = number + index ∧
      fixture.lines[index]? = some (Quoted.form (Bytes.ofText entry.regexp)) := by
  induction fixture generalizing number with
  | nil => cases inside
  | cons first rest hypothesis =>
    rcases List.mem_cons.mp inside with rfl | later
    · obtain ⟨index, named, stands⟩ := line_of_numberedBlock member
      have short : index < first.lines.length := (List.getElem?_eq_some_iff.mp stands).1
      refine ⟨index, named, ?_⟩
      rw [lines, List.flatMap_cons, List.getElem?_append_left short, stands]
    · obtain ⟨index, named, stands⟩ := hypothesis later
      refine ⟨first.lines.length + index, by rw [named, Nat.add_assoc], ?_⟩
      rw [lines, List.flatMap_cons, List.getElem?_append_right (Nat.le_add_right _ _),
        Nat.add_sub_cancel_left]
      exact stands

/-! ### What a reader makes of lines -/

theorem form_ne_header (bytes : Bytes) :
    Quoted.form bytes ≠ haystacksHeader ∧ Quoted.form bytes ≠ regexpsHeader := by
  have first : haystacksHeader.head? ≠ some Quoted.quote ∧
      regexpsHeader.head? ≠ some Quoted.quote := by decide
  exact ⟨fun equal => first.1 (by rw [← equal]; rfl), fun equal => first.2 (by rw [← equal]; rfl)⟩

namespace Reader

/-- What two steps of reading give is what the second one makes of what the first one does. -/
theorem bind_eq_ok {α β : Type} {first : Except Failure α} {second : α → Except Failure β}
    {result : β} (both : first >>= second = .ok result) :
    ∃ middle, first = .ok middle ∧ second middle = .ok result := by
  cases first with
  | error => cases both
  | ok middle => exact ⟨middle, rfl, both⟩

theorem bind_eq_error {α β : Type} {first : Except Failure α} {second : α → Except Failure β}
    {failure : Failure} (both : first >>= second = .error failure) :
    first = .error failure ∨ ∃ middle, first = .ok middle ∧ second middle = .error failure := by
  cases first with
  | error => exact .inl (by cases both; rfl)
  | ok middle => exact .inr ⟨middle, rfl, both⟩

theorem quotedLine_eq_ok_iff {number : Nat} {line bytes : Bytes} :
    quotedLine number line = .ok bytes ↔ Quoted.decode line = .ok bytes := by
  rw [quotedLine]
  cases Quoted.decode line <;> simp

theorem regexpLine_eq_ok_iff {number : Nat} {line : Bytes} {regexp : String} :
    regexpLine number line = .ok regexp ↔ Quoted.decode line = .ok (Bytes.ofText regexp) := by
  rw [regexpLine, quotedLine]
  cases Quoted.decode line with
  | error => exact ⟨fun read => (by cases read), fun read => (by cases read)⟩
  | ok bytes =>
    rw [Except.ok.injEq, ← Bytes.text?_eq_some_iff]
    simp only [bind, Except.bind]
    cases Bytes.text? bytes with
    | none => exact ⟨fun read => (by cases read), fun read => (by cases read)⟩
    | some text => exact ⟨fun read => (by cases read; rfl), fun read => (by cases read; rfl)⟩

theorem recordLine_eq_ok_iff {number : Nat} {line : Bytes} {record : Record} :
    recordLine number line = .ok record ↔ Record.read line = .ok record := by
  rw [recordLine]
  cases Record.read line <;> simp

theorem steps_append (reader : Reader) (number : Nat) (before after : List Bytes) :
    reader.steps number (before ++ after) =
      reader.steps number before >>= fun middle => middle.steps (number + before.length) after := by
  induction before generalizing reader number with
  | nil => rfl
  | cons line rest hypothesis =>
    rw [List.cons_append, steps, steps]
    cases reader.step number line with
    | error failure => rfl
    | ok next =>
      show next.steps (number + 1) (rest ++ after) = _
      rw [hypothesis, List.length_cons, Nat.add_assoc, Nat.add_comm 1]
      rfl

/-- Where lines are read, so is the line behind the first of them. -/
theorem exists_step {reader middle last : Reader} {number : Nat} {before after : List Bytes}
    {line : Bytes} (run : reader.steps number (before ++ line :: after) = .ok last)
    (first : reader.steps number before = .ok middle) :
    ∃ next, middle.step (number + before.length) line = .ok next := by
  rw [steps_append, first] at run
  obtain ⟨_, same, run⟩ := bind_eq_ok run
  cases same
  obtain ⟨next, read, -⟩ := bind_eq_ok run
  exact ⟨next, read⟩

/-- Quoted lines are read as the haystacks of a block. -/
theorem steps_haystacks (blocks : List Block) (header : Nat) (read haystacks : List Bytes)
    (number : Nat) :
    steps ⟨blocks, .haystacks header read⟩ number (haystacks.map Quoted.form) =
      .ok ⟨blocks, .haystacks header (haystacks.reverse ++ read)⟩ := by
  induction haystacks generalizing read number with
  | nil => rfl
  | cons haystack rest hypothesis =>
    have next : step ⟨blocks, .haystacks header read⟩ number (Quoted.form haystack) =
        .ok ⟨blocks, .haystacks header (haystack :: read)⟩ := by
      simp only [step, if_neg (form_ne_header haystack).2, quotedLine, Quoted.decode_form]
      rfl
    rw [List.map_cons, steps, next, List.reverse_cons, List.append_assoc, List.singleton_append]
    exact hypothesis _ _

/-- Lines of records are read as the first of the records that a regexp lacks. -/
theorem steps_records (blocks : List Block) (haystacks : List Bytes) (read : List Entry)
    (regexp : String) (first : Nat) (done : List Record) {records : List Record}
    (readable : ∀ record ∈ records, record.Readable) (missing number : Nat) :
    steps ⟨blocks, afterRecord haystacks read regexp first done (records.length + missing)⟩ number
        (records.map fun record => Bytes.ofText record.text) =
      .ok ⟨blocks, afterRecord haystacks read regexp first (records.reverse ++ done) missing⟩ := by
  induction records generalizing done number with
  | nil =>
    rw [List.length_nil, Nat.zero_add]
    rfl
  | cons record rest hypothesis =>
    have next : step ⟨blocks, .records haystacks read regexp first done (rest.length + missing)⟩
        number (Bytes.ofText record.text) =
        .ok ⟨blocks,
          afterRecord haystacks read regexp first (record :: done) (rest.length + missing)⟩ := by
      simp only [step, recordLine, Record.read_text (readable record List.mem_cons_self)]
      rfl
    rw [List.length_cons, Nat.add_right_comm, afterRecord, List.map_cons, steps, next]
    refine (hypothesis (record :: done)
      (fun record member => readable record (List.mem_cons_of_mem _ member)) _).trans ?_
    rw [List.reverse_cons, List.append_assoc, List.singleton_append]

/-- The line of a regexp is read as one that lacks all its records. -/
theorem step_regexp (blocks : List Block) (haystacks : List Bytes) (read : List Entry)
    (regexp : String) (number : Nat) :
    step ⟨blocks, .entries haystacks read⟩ number (Quoted.form (Bytes.ofText regexp)) =
      .ok ⟨blocks, afterRecord haystacks read regexp number [] haystacks.length⟩ := by
  simp only [step, if_neg (form_ne_header _).1, regexpLine, quotedLine, Quoted.decode_form,
    bind, Except.bind, Bytes.text?_ofText]
  rfl

/-- The lines of an entry are read as that entry, which names the first of them. -/
theorem steps_entry (blocks : List Block) {haystacks : List Bytes} (read : List Entry)
    {entry : Entry} (legible : entry.Legible haystacks.length) (number : Nat) :
    steps ⟨blocks, .entries haystacks read⟩ number entry.lines =
      .ok ⟨blocks, .entries haystacks ({ entry with line := number } :: read)⟩ := by
  rw [Entry.lines, steps, step_regexp, ← legible.complete]
  refine (steps_records blocks haystacks read entry.regexp number [] legible.readable 0 _).trans ?_
  rw [List.append_nil, afterRecord, List.reverse_reverse]

/-- The lines of entries are read as those entries, with the numbers of their lines. -/
theorem steps_entries (blocks : List Block) {haystacks : List Bytes} (read : List Entry)
    {entries : List Entry} (legible : ∀ entry ∈ entries, entry.Legible haystacks.length)
    (number : Nat) :
    steps ⟨blocks, .entries haystacks read⟩ number (entries.flatMap Entry.lines) =
      .ok ⟨blocks, .entries haystacks ((numberedEntries number entries).reverse ++ read)⟩ := by
  induction entries generalizing read number with
  | nil => rfl
  | cons entry rest hypothesis =>
    rw [List.flatMap_cons, steps_append,
      steps_entry blocks read (legible entry List.mem_cons_self)]
    refine (hypothesis ({ entry with line := number } :: read)
      (fun entry member => legible entry (List.mem_cons_of_mem _ member)) _).trans ?_
    rw [numberedEntries, List.reverse_cons, List.append_assoc, List.singleton_append]

/-- Where a reader could stop, the header of a block ends the block at hand. -/
theorem step_header {reader : Reader} {done : Fixture} (stops : reader.finish = .ok done)
    (number : Nat) :
    reader.step number haystacksHeader = .ok ⟨done.reverse, .haystacks number []⟩ := by
  rcases reader with ⟨blocks, _ | ⟨header, read⟩ | ⟨haystacks, read⟩ | _⟩
  · cases stops
    rw [List.reverse_reverse]
    rfl
  · cases stops
  · cases stops
    rw [List.reverse_reverse]
    rfl
  · cases stops

/-- The lines before the entries of a block are read as its haystacks, wherever a reader could
stop. -/
theorem steps_opening {reader : Reader} {done : Fixture} (stops : reader.finish = .ok done)
    (haystacks : List Bytes) (number : Nat) :
    reader.steps number (haystacksHeader :: (haystacks.map Quoted.form ++ [regexpsHeader])) =
      .ok ⟨done.reverse, .entries haystacks []⟩ := by
  have last : ∀ line, step ⟨done.reverse, .haystacks number haystacks.reverse⟩ line
      regexpsHeader = .ok ⟨done.reverse, .entries haystacks []⟩ := by
    simp only [step, if_true, List.reverse_reverse, implies_true]
  rw [steps, step_header stops]
  show steps ⟨done.reverse, .haystacks number []⟩ (number + 1) _ = _
  rw [steps_append, steps_haystacks, List.append_nil]
  show steps ⟨done.reverse, .haystacks number haystacks.reverse⟩
    (number + 1 + (haystacks.map Quoted.form).length) [regexpsHeader] = _
  rw [steps, last]
  rfl

/-- **The lines of a block are read as that block**, wherever a reader could stop, and there it
could stop again. -/
theorem steps_block {reader : Reader} {done : Fixture} (stops : reader.finish = .ok done)
    {block : Block} (writable : block.Writable) (number : Nat) :
    ∃ after, reader.steps number block.lines = .ok after ∧
      after.finish = .ok (done ++ [block.numbered number]) := by
  have split : block.lines =
      (haystacksHeader :: (block.haystacks.map Quoted.form ++ [regexpsHeader])) ++
        block.entries.flatMap Entry.lines := by
    simp [Block.lines]
  have line : number + (haystacksHeader ::
      (block.haystacks.map Quoted.form ++ [regexpsHeader])).length =
      number + block.haystacks.length + 2 := by
    simp only [List.length_cons, List.length_append, List.length_map, List.length_nil]
    omega
  refine ⟨⟨done.reverse, .entries block.haystacks
    ((numberedEntries (number + block.haystacks.length + 2) block.entries).reverse ++ [])⟩, ?_, ?_⟩
  · rw [split, steps_append, steps_opening stops, line]
    exact steps_entries done.reverse []
      (fun entry inside => (writable.entries entry inside).legible) _
  · simp only [finish, List.append_nil, List.reverse_cons, List.reverse_reverse]
    rfl

/-- **The lines of a fixture are read as that fixture**, after the blocks read before. -/
theorem steps_fixture {reader : Reader} {done : Fixture} (stops : reader.finish = .ok done)
    {fixture : Fixture} (writable : ∀ block ∈ fixture, block.Writable) (number : Nat) :
    (reader.steps number fixture.lines >>= finish) = .ok (done ++ numbered number fixture) := by
  induction fixture generalizing reader done number with
  | nil =>
    rw [numbered, List.append_nil]
    exact stops
  | cons block rest hypothesis =>
    obtain ⟨after, run, stopsAgain⟩ :=
      steps_block stops (writable block List.mem_cons_self) number
    rw [lines, List.flatMap_cons, steps_append, run]
    refine (hypothesis stopsAgain
      (fun block member => writable block (List.mem_cons_of_mem _ member)) _).trans ?_
    rw [numbered, List.append_assoc, List.singleton_append]

end Reader

/-! ### Writing and reading -/

theorem lines_ended (fixture : Fixture) : Split.lines (ended fixture.lines) = fixture.lines :=
  Split.lines_flatMap (whole_lines fixture)

/-- **Reading undoes writing.** When no write fails, a fixture whose strings can be quoted, and
whose records are complete and have their spans in order, is written to the end. What was written
is read as the same fixture, except that each entry names the line its regexp stands on. -/
theorem read_written {rule : SinkRule} (takes : rule.TakesAll) {fixture : Fixture}
    (writable : ∀ block ∈ fixture, block.Writable) :
    ∃ writer, Writer.blocks fixture (.ofSink (.ofRule rule)) = .ok () writer ∧
      Fixture.read writer.sink.bytes = .ok (numbered 1 fixture) ∧
      ∀ block ∈ numbered 1 fixture, ∀ entry ∈ block.entries, ∃ index, entry.line = index + 1 ∧
        (Split.lines writer.sink.bytes)[index]? =
          some (Quoted.form (Bytes.ofText entry.regexp)) := by
  obtain ⟨writer, run, -, bytes⟩ :=
    Writer.puts_blocks writable (.ofSink (.ofRule rule)) takes
  have written : Split.lines writer.sink.bytes = fixture.lines := by
    rw [bytes]
    exact lines_ended fixture
  refine ⟨writer, run, ?_, ?_⟩
  · have fresh : Reader.start.finish = .ok [] := rfl
    rw [Fixture.read, written]
    exact Reader.steps_fixture fresh writable 1
  · intro block inside entry member
    obtain ⟨index, named, stands⟩ := line_of_numbered inside member
    exact ⟨index, by rw [named, Nat.add_comm], by rw [written, stands]⟩

/-- Two blocks, with strings that look like lines of a fixture and a block without haystacks. -/
def twoBlocks : Fixture :=
  [⟨[[], [0x22, 0x0A, 0x5C, 0xFF, 0x0D]],
      [⟨"(a)|\n", 0,
        [.unmatched, ⟨none, some ⟨⟨0, 0⟩, [none]⟩, none, some ⟨⟨0, 1⟩, [some ⟨0, 1⟩]⟩⟩]⟩]⟩,
    ⟨[], [⟨"strings", 0, []⟩, ⟨"regexps", 0, []⟩]⟩]

/-- The two blocks are written and read back, and their regexps stand on the lines 5, 10 and 11. -/
theorem read_twoBlocks :
    ∃ writer, Writer.blocks twoBlocks (.ofSink (.ofRule .reliable)) = .ok () writer ∧
      Fixture.read writer.sink.bytes = .ok (numbered 1 twoBlocks) ∧
      (numbered 1 twoBlocks).map (fun block => block.entries.map (·.line)) = [[5], [10, 11]] := by
  have writable : ∀ block ∈ twoBlocks, block.Writable := by decide
  have takes : SinkRule.reliable.TakesAll := fun _ _ _ => rfl
  obtain ⟨writer, run, back, _⟩ := read_written takes writable
  exact ⟨writer, run, back, by decide⟩

end Fixture

end Crosscheck
