/-
**What torn writing leaves.**

When a write fails, a fixture is left torn: among its haystacks, before all records of a regexp, or
at a line that lacks its newline. What is written later goes on right there, with the header of a
block or with a quoted regexp. None of these can stand where writing was torn: what is read then
fails at that line, whatever follows it. So only what was written before the first tear is ever
read, and that holds nothing but results of the engine.

* `Fixture.Appends`: what handling a regexp may add to a fixture;
* `Fixture.Faithful`: a fixture with nothing but results of an engine;
* `Fixture.Hopeless`: bytes that cannot become a fixture again;
* `Fixture.Safe`: bytes from which only faithful fixtures are read, now or later;
* `Fixture.Safe.append`: what handling a regexp adds keeps them so.
-/
import Crosscheck.Proofs.Fixture.Replaying
import Crosscheck.Proofs.Fixture.Spelling

namespace Crosscheck

namespace Fixture

/-! ### What is written -/

/-- The writes of lines, each of which is followed by its newline. -/
def writes (lines : List Bytes) : List Bytes :=
  lines.flatMap fun line => [line, [Split.newline]]

/-- The writes before the entries of a block. A header and its newline are one write. -/
def openingWrites (haystacks : List Bytes) : List Bytes :=
  (haystacksHeader ++ [Split.newline]) ::
    (writes (haystacks.map Quoted.form) ++ [regexpsHeader ++ [Split.newline]])

/-- The lines before the entries of a block. -/
def openingLines (haystacks : List Bytes) : List Bytes :=
  haystacksHeader :: (haystacks.map Quoted.form ++ [regexpsHeader])

/-- What handling a regexp adds to a fixture, and whether its block is opened before and after. It
stops with the first write that fails. -/
inductive Appends (engine : Engine) (haystacks : List Bytes) (regexp : String) :
    Bool → Bytes → Bool → Prop where
  | nothing (opened : Bool) : Appends engine haystacks regexp opened [] opened
  | opening {done rest : List Bytes} {failed : Bytes}
    (torn : openingWrites haystacks = done ++ failed :: rest) :
    Appends engine haystacks regexp false done.flatten false
  | entry (opened : Bool) {done rest : List Bytes}
    (part : writes (recordedEntry engine haystacks regexp).lines = done ++ rest) :
    Appends engine haystacks regexp opened
      ((if opened then [] else (openingWrites haystacks).flatten) ++ done.flatten) true

/-- What is written first for the next regexp. -/
def Begins : Bool → Bytes → Prop
  | false, chunk => chunk = haystacksHeader
  | true, chunk => ∃ bytes, chunk = Quoted.form bytes

theorem writes_cons (line : Bytes) (rest : List Bytes) :
    writes (line :: rest) = line :: [Split.newline] :: writes rest := rfl

theorem flatten_writes (lines : List Bytes) : (writes lines).flatten = ended lines := by
  induction lines with
  | nil => rfl
  | cons line rest hypothesis =>
    rw [writes, ended] at hypothesis
    rw [writes, List.flatMap_cons, List.flatten_append, hypothesis, ended, List.flatMap_cons]
    simp

theorem flatten_openingWrites (haystacks : List Bytes) :
    (openingWrites haystacks).flatten = ended (openingLines haystacks) := by
  rw [openingWrites, List.flatten_cons, List.flatten_append, flatten_writes, openingLines, ended,
    ended, List.flatMap_cons, List.flatMap_append]
  simp

/-- The first writes of lines are those of the first lines, and of another one without its
newline. -/
theorem flatten_of_writes {lines done rest : List Bytes} (part : writes lines = done ++ rest) :
    ∃ before after, lines = before ++ after ∧
      (done.flatten = ended before ∨
        ∃ line more, after = line :: more ∧ done.flatten = ended before ++ line) := by
  induction lines generalizing done with
  | nil =>
    obtain ⟨rfl, -⟩ := List.append_eq_nil_iff.mp part.symm
    exact ⟨[], [], rfl, .inl rfl⟩
  | cons line later hypothesis =>
    match done with
    | [] => exact ⟨[], _, rfl, .inl rfl⟩
    | [first] =>
      obtain ⟨rfl, -⟩ := List.cons.inj part
      exact ⟨[], _, rfl, .inr ⟨_, _, rfl, by simp [ended]⟩⟩
    | first :: second :: done =>
      rw [writes_cons, List.cons_append, List.cons_append, List.cons.injEq, List.cons.injEq] at part
      obtain ⟨rfl, rfl, part⟩ := part
      obtain ⟨before, after, rfl, flat⟩ := hypothesis part
      refine ⟨line :: before, after, rfl, ?_⟩
      rw [List.flatten_cons, List.flatten_cons, ended, List.flatMap_cons]
      rcases flat with whole | ⟨last, more, rfl, torn⟩
      · exact .inl (by rw [whole, List.append_assoc, ended])
      · exact .inr ⟨last, more, rfl, by rw [torn, ended]; simp⟩

/-- **What is added begins with the header of a block or with a regexp**, unless it is nothing. -/
theorem Appends.begins {engine : Engine} {haystacks : List Bytes} {regexp : String}
    {opened opened' : Bool} {added : Bytes}
    (appends : Appends engine haystacks regexp opened added opened') :
    added = [] ∧ opened' = opened ∨ ∃ chunk more, Begins opened chunk ∧ added = chunk ++ more := by
  cases appends with
  | nothing => exact .inl ⟨rfl, rfl⟩
  | @opening done rest failed torn =>
    cases done with
    | nil => exact .inl ⟨rfl, rfl⟩
    | cons first done =>
      obtain ⟨rfl, -⟩ := List.cons.inj torn
      exact .inr ⟨_, [Split.newline] ++ done.flatten, rfl, by simp⟩
  | @entry _ done rest part =>
    cases opened with
    | false =>
      exact .inr ⟨_, [Split.newline] ++ ((openingWrites haystacks).tail.flatten ++ done.flatten),
        rfl, by simp [openingWrites]⟩
    | true =>
      cases done with
      | nil => exact .inl ⟨rfl, rfl⟩
      | cons first done =>
        obtain ⟨rfl, -⟩ := List.cons.inj (show Quoted.form _ :: _ = first :: _ from part)
        exact .inr ⟨_, done.flatten, ⟨_, rfl⟩, rfl⟩

/-! ### Faithful fixtures -/

/-- **A fixture with nothing but results of an engine**: it has one block at most, with all
haystacks, and with entries for some of the regexps, in order. -/
structure Faithful (engine : Engine) (haystacks : List Bytes) (regexps : List String)
    (fixture : Fixture) : Prop where
  /-- It has one block at most. -/
  single : fixture.length ≤ 1
  /-- A block has all haystacks. -/
  complete : ∀ block ∈ fixture, block.haystacks = haystacks
  /-- Its entries are for some of the regexps, in order. -/
  sublist : ∀ block ∈ fixture, (block.entries.map (·.regexp)).Sublist regexps
  /-- Their records are the results on the haystacks. -/
  results : ∀ block ∈ fixture, ∀ entry ∈ block.entries,
    entry.records = haystacks.map (engine.recordOf entry.regexp)

section Faithful

variable {engine : Engine} {haystacks : List Bytes} {regexps kept : List String}

theorem Faithful.mono {fixture : Fixture} {more : List String}
    (faithful : Faithful engine haystacks regexps fixture) (sub : regexps.Sublist more) :
    Faithful engine haystacks more fixture :=
  ⟨faithful.single, faithful.complete,
    fun block inside => (faithful.sublist block inside).trans sub, faithful.results⟩

/-- Entries with the results of an engine make a faithful block. -/
theorem faithful_numbered (sub : kept.Sublist regexps) (line : Nat) :
    Faithful engine haystacks regexps
      [⟨haystacks, numberedEntries line (kept.map (recordedEntry engine haystacks))⟩] where
  single := Nat.le_refl _
  complete block inside := by rw [List.mem_singleton.mp inside]
  sublist block inside := by
    rw [List.mem_singleton.mp inside, map_regexp_numberedEntries, List.map_map]
    exact (List.map_id kept).symm ▸ sub
  results block inside entry listed := by
    rw [List.mem_singleton.mp inside] at listed
    obtain ⟨original, there, same⟩ := exists_of_mem_numberedEntries listed
    obtain ⟨regexp, -, rfl⟩ := List.mem_map.mp there
    rw [same]
    rfl

/-- The lines of a block with the results of an engine for some regexps. -/
def keptLines (engine : Engine) (haystacks : List Bytes) (kept : List String) : List Bytes :=
  openingLines haystacks ++ (kept.map (recordedEntry engine haystacks)).flatMap Entry.lines

theorem keptLines_append (kept : List String) (regexp : String) :
    keptLines engine haystacks (kept ++ [regexp]) =
      keptLines engine haystacks kept ++ (recordedEntry engine haystacks regexp).lines := by
  simp [keptLines]

theorem whole_keptLines (kept : List String) :
    ∀ line ∈ keptLines engine haystacks kept, Split.Whole line := by
  have same : keptLines engine haystacks kept =
      lines [⟨haystacks, kept.map (recordedEntry engine haystacks)⟩] := by
    simp [keptLines, openingLines, lines, Block.lines]
  rw [same]
  exact whole_lines _

theorem legible_recordedEntry (orderly : engine.Orderly) (regexp : String) :
    (recordedEntry engine haystacks regexp).Legible haystacks.length := by
  refine ⟨List.length_map _, fun record found => ?_⟩
  obtain ⟨haystack, -, rfl⟩ := List.mem_map.mp found
  exact Engine.readable_recordOf orderly regexp haystack

/-- The lines of a block are read as one to which entries may be added. -/
theorem Reader.steps_keptLines (orderly : engine.Orderly) (haystacks : List Bytes)
    (kept : List String) :
    ∃ line, start.steps 1 (keptLines engine haystacks kept) =
      .ok ⟨[], .entries haystacks
        (numberedEntries line (kept.map (recordedEntry engine haystacks))).reverse⟩ := by
  refine ⟨1 + (openingLines haystacks).length, ?_⟩
  have opening : start.steps 1 (openingLines haystacks) = .ok ⟨[], .entries haystacks []⟩ :=
    steps_opening (show start.finish = .ok [] from rfl) haystacks 1
  rw [keptLines, steps_append, opening]
  refine (steps_entries [] [] (fun entry inside => ?_) _).trans ?_
  · obtain ⟨regexp, -, rfl⟩ := List.mem_map.mp inside
    exact legible_recordedEntry orderly regexp
  · rw [List.append_nil]

/-- What is read of whole entries is faithful. -/
theorem faithful_keptLines (orderly : engine.Orderly) (sub : kept.Sublist regexps) {bytes : Bytes}
    (split : Split.lines bytes = keptLines engine haystacks kept) {fixture : Fixture}
    (accepted : read bytes = .ok fixture) : Faithful engine haystacks regexps fixture := by
  obtain ⟨line, run⟩ := Reader.steps_keptLines orderly haystacks kept
  rw [read, split, run] at accepted
  obtain rfl : _ = fixture := Except.ok.inj accepted
  rw [List.reverse_reverse]
  exact faithful_numbered sub line

end Faithful

/-! ### Hopeless bytes -/

/-- **Bytes that cannot become a fixture again**, whatever is added to them. -/
def Hopeless (written : Bytes) : Prop := ∀ added fixture, read (written ++ added) ≠ .ok fixture

theorem Hopeless.append {written : Bytes} (hopeless : Hopeless written) (added : Bytes) :
    Hopeless (written ++ added) := by
  intro more
  rw [List.append_assoc]
  exact hopeless _

/-- A line that cannot be read, whatever is added to it, leaves no hope. -/
theorem hopeless_of_line {lines : List Bytes} {line : Bytes} {reader : Reader}
    (whole : ∀ line ∈ lines, Split.Whole line) (run : Reader.start.steps 1 lines = .ok reader)
    (isWhole : Split.Whole line) (nonempty : line ≠ [])
    (wrong : ∀ number added next, reader.step number (line ++ added) ≠ .ok next) :
    Hopeless (ended lines ++ line) := by
  intro added fixture accepted
  obtain ⟨after, rest, first⟩ := Split.exists_lines_append isWhole nonempty added
  have split : Split.lines (ended lines ++ line ++ added) = lines ++ (line ++ after) :: rest := by
    rw [List.append_assoc, ended, Split.lines_flatMap_append whole, first]
  obtain ⟨last, all, -⟩ := Reader.bind_eq_ok accepted
  rw [split] at all
  obtain ⟨next, taken⟩ := Reader.exists_step all run
  exact wrong _ _ next taken

/-- No haystack can be read of the header of a block, also behind a haystack on the same line. -/
theorem Reader.step_haystacks_ne_ok {torn : Bytes}
    (haystack : torn = [] ∨ ∃ bytes, torn = Quoted.form bytes) (blocks : List Block) (header : Nat)
    (done : List Bytes) (number : Nat) (added : Bytes) (next : Reader) :
    step ⟨blocks, .haystacks header done⟩ number (torn ++ haystacksHeader ++ added) ≠
      .ok next := by
  have other : torn ++ haystacksHeader ++ added ≠ regexpsHeader := by
    rcases haystack with rfl | ⟨bytes, rfl⟩
    · exact ne_of_apply_ne List.head?
        (show haystacksHeader.head? ≠ regexpsHeader.head? by decide)
    · exact ne_of_apply_ne List.head?
        (show some Quoted.quote ≠ regexpsHeader.head? by decide)
  have wrong : ∃ defect, Quoted.decode (torn ++ haystacksHeader ++ added) = .error defect := by
    rcases haystack with rfl | ⟨bytes, rfl⟩
    · exact ⟨.unwrapped, rfl⟩
    · rw [List.append_assoc]
      exact Quoted.decode_form_append bytes (List.cons_ne_nil _ _)
  intro taken
  simp only [step, if_neg other] at taken
  obtain ⟨bytes, quoted, -⟩ := bind_eq_ok taken
  obtain ⟨defect, wrong⟩ := wrong
  cases wrong.symm.trans (quotedLine_eq_ok_iff.mp quoted)

/-- No regexp can be read of two on the same line. -/
theorem Reader.step_entries_ne_ok (bytes : Bytes) {more : Bytes} (nonempty : more ≠ [])
    (blocks : List Block) (haystacks : List Bytes) (done : List Entry) (number : Nat)
    (next : Reader) :
    step ⟨blocks, .entries haystacks done⟩ number (Quoted.form bytes ++ more) ≠ .ok next := by
  have other : Quoted.form bytes ++ more ≠ haystacksHeader :=
    ne_of_apply_ne List.head? (show some Quoted.quote ≠ haystacksHeader.head? by decide)
  intro taken
  simp only [step, if_neg other] at taken
  obtain ⟨regexp, quoted, -⟩ := bind_eq_ok taken
  obtain ⟨defect, wrong⟩ := Quoted.decode_form_append bytes nonempty
  cases wrong.symm.trans (regexpLine_eq_ok_iff.mp quoted)

/-- No record can be read of a line with a double quote. -/
theorem Reader.step_records_ne_ok {line : Bytes} (quoted : Quoted.quote ∈ line)
    (blocks : List Block) (haystacks : List Bytes) (done : List Entry) (regexp : String)
    (first : Nat) (records : List Record) (missing number : Nat) (next : Reader) :
    step ⟨blocks, .records haystacks done regexp first records missing⟩ number line ≠
      .ok next := by
  intro taken
  obtain ⟨record, isRecord, -⟩ := bind_eq_ok taken
  have spells := Record.exists_read_iff.mp ⟨record, recordLine_eq_ok_iff.mp isRecord⟩
  exact spells.quote_not_mem quoted

/-! ### Safe bytes -/

/-- **Bytes from which only faithful fixtures are read**, now and after whatever is added next. -/
inductive Safe (engine : Engine) (haystacks : List Bytes) (regexps : List String) :
    Bytes → Bool → Prop where
  /-- Nothing was written. -/
  | blank : Safe engine haystacks regexps [] false
  /-- All was written of some regexps, and nothing of others. -/
  | whole {kept : List String} (sub : kept.Sublist regexps) :
    Safe engine haystacks regexps (ended (keptLines engine haystacks kept)) true
  /-- Writing was torn, and there is no hope for what is written next. -/
  | torn {written : Bytes} {opened : Bool}
    (faithful : ∀ fixture, read written = .ok fixture → Faithful engine haystacks regexps fixture)
    (hopeless : ∀ chunk, Begins opened chunk → Hopeless (written ++ chunk)) :
    Safe engine haystacks regexps written opened

section Safe

variable {engine : Engine} {haystacks : List Bytes} {regexps kept : List String}
  {written : Bytes} {opened : Bool}

theorem Safe.mono {more : List String} (safe : Safe engine haystacks regexps written opened)
    (sub : regexps.Sublist more) : Safe engine haystacks more written opened := by
  cases safe with
  | blank => exact .blank
  | whole kept => exact .whole (kept.trans sub)
  | torn faithful hopeless =>
    exact .torn (fun fixture accepted => (faithful fixture accepted).mono sub) hopeless

theorem Hopeless.safe (hopeless : Hopeless written) :
    Safe engine haystacks regexps written opened := by
  refine .torn (fun fixture accepted => ?_) fun chunk _ => hopeless.append chunk
  have rejected := hopeless [] fixture
  rw [List.append_nil] at rejected
  exact absurd accepted rejected

/-- **Only faithful fixtures are read** from safe bytes. -/
theorem Safe.faithful (orderly : engine.Orderly)
    (safe : Safe engine haystacks regexps written opened) {fixture : Fixture}
    (accepted : read written = .ok fixture) : Faithful engine haystacks regexps fixture := by
  cases safe with
  | blank =>
    obtain rfl : [] = fixture := Except.ok.inj accepted
    exact ⟨Nat.zero_le _, by simp, by simp, by simp⟩
  | whole sub =>
    exact faithful_keptLines orderly sub (Split.lines_flatMap (whole_keptLines _)) accepted
  | torn faithful _ => exact faithful fixture accepted

/-! ### Torn haystacks -/

theorem Reader.steps_haystackLines (done : List Bytes) :
    start.steps 1 (haystacksHeader :: done.map Quoted.form) =
      .ok ⟨[], .haystacks 1 done.reverse⟩ := by
  have all := steps_haystacks [] 1 [] done 2
  rw [List.append_nil] at all
  exact all

/-- Haystacks without the end of their list, and one more of them without its newline or not. -/
theorem safe_haystackLines (done : List Bytes) {torn : Bytes}
    (haystack : torn = [] ∨ ∃ bytes, torn = Quoted.form bytes) :
    Safe engine haystacks regexps (ended (haystacksHeader :: done.map Quoted.form) ++ torn)
      false := by
  have whole : ∀ line ∈ haystacksHeader :: done.map Quoted.form, Split.Whole line := by
    refine List.forall_mem_cons.mpr ⟨whole_headers.1, fun line inside => ?_⟩
    obtain ⟨bytes, -, rfl⟩ := List.mem_map.mp inside
    exact whole_form bytes
  refine .torn (fun fixture accepted => ?_) ?_
  · have split : ∃ all : List Bytes,
        Split.lines (ended (haystacksHeader :: done.map Quoted.form) ++ torn) =
          haystacksHeader :: all.map Quoted.form := by
      rw [ended, Split.lines_flatMap_append whole]
      rcases haystack with rfl | ⟨bytes, rfl⟩
      · exact ⟨done, List.append_nil _⟩
      · refine ⟨done ++ [bytes], ?_⟩
        rw [Split.lines_of_unbroken (Quoted.newline_not_mem_form bytes) (List.cons_ne_nil _ _),
          List.map_append, List.cons_append]
        rfl
    obtain ⟨all, split⟩ := split
    rw [read, split, Reader.steps_haystackLines] at accepted
    cases accepted
  · rintro chunk rfl
    rw [List.append_assoc]
    have unbroken : Split.newline ∉ torn := by
      rcases haystack with rfl | ⟨bytes, rfl⟩
      · exact List.not_mem_nil
      · exact Quoted.newline_not_mem_form bytes
    have nonempty : haystacksHeader ≠ [] := by decide
    exact hopeless_of_line whole (Reader.steps_haystackLines done)
      (.append unbroken whole_headers.1 nonempty)
      (List.append_ne_nil_of_right_ne_nil _ nonempty)
      fun number added next => Reader.step_haystacks_ne_ok haystack [] 1 _ number added next

/-- Haystacks without the end of their list are torn. -/
theorem safe_haystacks {done rest : List Bytes} {failed : Bytes}
    (torn : openingWrites haystacks = done ++ failed :: rest) :
    Safe engine haystacks regexps done.flatten false := by
  cases done with
  | nil => exact .blank
  | cons header done =>
    obtain ⟨rfl, later⟩ := List.cons.inj torn
    have part := congrArg List.dropLast later
    rw [List.dropLast_concat, List.append_eq, List.dropLast_append_of_ne_nil (by simp)] at part
    obtain ⟨before, after, same, flat⟩ := flatten_of_writes part
    obtain ⟨early, late, -, rfl, rfl⟩ := List.map_eq_append_iff.mp same
    have opened : ended (haystacksHeader :: early.map Quoted.form) =
        haystacksHeader ++ [Split.newline] ++ ended (early.map Quoted.form) := rfl
    rw [List.flatten_cons]
    rcases flat with whole | ⟨line, more, isLine, flat⟩
    · rw [whole, ← opened, ← List.append_nil (ended _)]
      exact safe_haystackLines early (.inl rfl)
    · obtain ⟨bytes, rest, -, rfl, -⟩ := List.map_eq_cons_iff.mp isLine
      rw [flat, ← List.append_assoc, ← opened]
      exact safe_haystackLines early (.inr ⟨bytes, rfl⟩)

/-! ### Torn entries -/

/-- After the first lines of an entry records are missing. -/
theorem Reader.steps_front (orderly : engine.Orderly) {regexp : String} {front back : List Bytes}
    (split : (recordedEntry engine haystacks regexp).lines = front ++ back) (begun : front ≠ [])
    (lacking : back ≠ []) (done : List Entry) (number : Nat) :
    ∃ records missing, steps ⟨[], .entries haystacks done⟩ number front =
      .ok ⟨[], .records haystacks done regexp number records missing⟩ := by
  obtain ⟨first, lines, rfl⟩ := List.exists_cons_of_ne_nil begun
  obtain ⟨rfl, others⟩ := List.cons.inj split
  obtain ⟨early, late, same, rfl, rfl⟩ := List.map_eq_append_iff.mp others
  have readable : ∀ record ∈ early, record.Readable := fun record inside =>
    (legible_recordedEntry orderly regexp).readable record
      (same ▸ List.mem_append_left late inside)
  obtain ⟨missing, lacks⟩ : ∃ missing, late.length = missing + 1 :=
    Nat.exists_eq_succ_of_ne_zero fun none => lacking (by simp [List.eq_nil_of_length_eq_zero none])
  have length : haystacks.length = early.length + (missing + 1) := by
    rw [← (legible_recordedEntry orderly regexp).complete, same, List.length_append, lacks]
  refine ⟨early.reverse ++ [], missing, ?_⟩
  show steps _ number (Quoted.form (Bytes.ofText regexp) :: _) = _
  rw [steps, step_regexp, length]
  exact steps_records [] haystacks done regexp number [] readable (missing + 1) _

theorem Reader.steps_keptLines_front (orderly : engine.Orderly) (kept : List String)
    {regexp : String} {front back : List Bytes}
    (split : (recordedEntry engine haystacks regexp).lines = front ++ back) (begun : front ≠ [])
    (lacking : back ≠ []) : ∃ done line records missing,
      start.steps 1 (keptLines engine haystacks kept ++ front) =
        .ok ⟨[], .records haystacks done regexp line records missing⟩ := by
  obtain ⟨line, run⟩ := steps_keptLines orderly haystacks kept
  obtain ⟨records, missing, more⟩ := steps_front orderly split begun lacking
    (numberedEntries line (kept.map (recordedEntry engine haystacks))).reverse
    (1 + (keptLines engine haystacks kept).length)
  have all := steps_append start 1 (keptLines engine haystacks kept) front
  rw [run] at all
  exact ⟨_, _, records, missing, all.trans more⟩

/-- No fixture is read while records are missing. -/
theorem read_front_ne_ok (orderly : engine.Orderly) {regexp : String} {front back : List Bytes}
    (split : (recordedEntry engine haystacks regexp).lines = front ++ back) (begun : front ≠ [])
    (lacking : back ≠ []) {bytes : Bytes}
    (lines : Split.lines bytes = keptLines engine haystacks kept ++ front) (fixture : Fixture) :
    read bytes ≠ .ok fixture := by
  obtain ⟨done, line, records, missing, run⟩ :=
    Reader.steps_keptLines_front orderly kept split begun lacking
  intro accepted
  rw [read, lines, run] at accepted
  cases accepted

/-- There is no hope for a regexp behind the first lines of an entry, or on the line behind. -/
theorem hopeless_front (orderly : engine.Orderly) (kept : List String) {regexp : String}
    {front back : List Bytes}
    (split : (recordedEntry engine haystacks regexp).lines = front ++ back) {torn : Bytes}
    (here : torn = [] ∧ front ≠ [] ∧ back ≠ [] ∨ ∃ more, back = torn :: more) (bytes : Bytes) :
    Hopeless (ended (keptLines engine haystacks kept ++ front) ++ torn ++ Quoted.form bytes) := by
  have whole : ∀ line ∈ keptLines engine haystacks kept ++ front, Split.Whole line := by
    intro line inside
    rcases List.mem_append.mp inside with first | second
    · exact whole_keptLines kept line first
    · exact Entry.whole_lines _ line (split ▸ List.mem_append_left back second)
  have unbroken : Split.newline ∉ torn := by
    rcases here with ⟨rfl, -⟩ | ⟨more, rfl⟩
    · exact List.not_mem_nil
    · have inside : torn ∈ (recordedEntry engine haystacks regexp).lines := by simp [split]
      exact (Entry.whole_lines _ torn inside).unbroken
  have isWhole : Split.Whole (torn ++ Quoted.form bytes) :=
    .append unbroken (whole_form bytes) (List.cons_ne_nil _ _)
  have nonempty : torn ++ Quoted.form bytes ≠ [] :=
    List.append_ne_nil_of_right_ne_nil _ (List.cons_ne_nil _ _)
  rw [List.append_assoc]
  by_cases begun : front = []
  · -- The line has two regexps.
    obtain ⟨more, rfl⟩ := here.resolve_left fun torn => torn.2.1 begun
    obtain rfl := begun
    obtain ⟨rfl, -⟩ := List.cons.inj split
    obtain ⟨line, run⟩ := Reader.steps_keptLines orderly haystacks kept
    rw [List.append_nil] at whole ⊢
    refine hopeless_of_line whole run isWhole nonempty fun number added next => ?_
    rw [List.append_assoc]
    exact Reader.step_entries_ne_ok _ (List.append_ne_nil_of_left_ne_nil (List.cons_ne_nil _ _) _)
      _ _ _ number next
  · -- A record must stand on the line, which has double quotes.
    have lacking : back ≠ [] := by
      rcases here with ⟨-, -, lacking⟩ | ⟨more, rfl⟩
      · exact lacking
      · exact List.cons_ne_nil _ _
    obtain ⟨done, line, records, missing, run⟩ :=
      Reader.steps_keptLines_front orderly kept split begun lacking
    refine hopeless_of_line whole run isWhole nonempty fun number added next => ?_
    exact Reader.step_records_ne_ok (by simp [Quoted.form]) _ _ _ _ _ _ _ number next

/-- No line of an entry is empty. -/
theorem line_ne_nil (orderly : engine.Orderly) {regexp : String} {line : Bytes}
    (inside : line ∈ (recordedEntry engine haystacks regexp).lines) : line ≠ [] := by
  rcases List.mem_cons.mp inside with rfl | later
  · exact List.cons_ne_nil _ _
  · obtain ⟨record, found, rfl⟩ := List.mem_map.mp later
    have reads := Record.read_text ((legible_recordedEntry orderly regexp).readable record found)
    intro empty
    rw [empty] at reads
    cases reads

/-- An entry of which something is missing is torn. -/
theorem safe_entry (orderly : engine.Orderly) (sub : kept.Sublist regexps) {regexp : String}
    {done rest : List Bytes}
    (part : writes (recordedEntry engine haystacks regexp).lines = done ++ rest) :
    Safe engine haystacks (regexps ++ [regexp])
      (ended (keptLines engine haystacks kept) ++ done.flatten) true := by
  obtain ⟨front, back, split, flat⟩ := flatten_of_writes part
  have added : (kept ++ [regexp]).Sublist (regexps ++ [regexp]) := sub.append (.refl _)
  have whole : ∀ line ∈ keptLines engine haystacks kept ++ (front ++ back), Split.Whole line := by
    rw [← split, ← keptLines_append]
    exact whole_keptLines (kept ++ [regexp])
  have wholeFront : ∀ line ∈ keptLines engine haystacks kept ++ front, Split.Whole line :=
    fun line inside => whole line (by
      rw [← List.append_assoc]
      exact List.mem_append_left back inside)
  rcases flat with flat | ⟨line, more, rfl, flat⟩
  · rw [flat, ← ended_append]
    by_cases complete : back = []
    · rw [complete, List.append_nil] at split
      rw [← split, ← keptLines_append]
      exact .whole added
    by_cases begun : front = []
    · rw [begun, List.append_nil]
      exact .whole (sub.trans (List.sublist_append_left _ _))
    refine .torn (fun fixture accepted => ?_) ?_
    · exact absurd accepted (read_front_ne_ok orderly split begun complete
        (Split.lines_flatMap wholeFront) fixture)
    · rintro chunk ⟨bytes, rfl⟩
      have hopeless := hopeless_front orderly kept split
        (.inl ⟨rfl, begun, complete⟩) bytes
      rwa [List.append_nil] at hopeless
  · have inside : line ∈ (recordedEntry engine haystacks regexp).lines := by simp [split]
    have nonempty := line_ne_nil orderly inside
    rw [flat, ← List.append_assoc, ← ended_append]
    refine .torn (fun fixture accepted => ?_) ?_
    · have lines : Split.lines (ended (keptLines engine haystacks kept ++ front) ++ line) =
          keptLines engine haystacks kept ++ (front ++ [line]) := by
        rw [ended, Split.lines_flatMap_append wholeFront,
          Split.lines_of_unbroken (whole line (by simp)).unbroken nonempty, List.append_assoc]
      have next : (recordedEntry engine haystacks regexp).lines = front ++ [line] ++ more := by
        rw [split, List.append_assoc, List.singleton_append]
      by_cases complete : more = []
      · rw [complete, List.append_nil] at next
        rw [← next, ← keptLines_append] at lines
        exact faithful_keptLines orderly added lines accepted
      · exact absurd accepted
          (read_front_ne_ok orderly next (by simp) complete lines fixture)
    · rintro chunk ⟨bytes, rfl⟩
      exact hopeless_front orderly _ split (.inr ⟨more, rfl⟩) bytes

/-! ### Any writing -/

/-- **What handling a regexp adds keeps bytes safe.** -/
theorem Safe.append (orderly : engine.Orderly)
    (safe : Safe engine haystacks regexps written opened) {regexp : String} {added : Bytes}
    {opened' : Bool} (appends : Appends engine haystacks regexp opened added opened') :
    Safe engine haystacks (regexps ++ [regexp]) (written ++ added) opened' := by
  have sub : regexps.Sublist (regexps ++ [regexp]) := List.sublist_append_left _ _
  cases safe with
  | blank =>
    cases appends with
    | nothing => exact .blank
    | opening torn => exact safe_haystacks torn
    | entry _ part =>
      have same : ended (openingLines haystacks) = ended (keptLines engine haystacks []) := by
        simp [keptLines]
      rw [List.nil_append, if_neg (by simp), flatten_openingWrites, same]
      exact safe_entry orderly (List.nil_sublist _) part
  | whole kept =>
    cases appends with
    | nothing => exact List.append_nil _ ▸ .whole (kept.trans sub)
    | entry _ part => exact safe_entry orderly kept part
  | torn faithful hopeless =>
    rcases appends.begins with ⟨rfl, rfl⟩ | ⟨chunk, more, begins, rfl⟩
    · rw [List.append_nil]
      exact (Safe.torn faithful hopeless).mono sub
    · rw [← List.append_assoc]
      exact ((hopeless chunk begins).append more).safe

end Safe

end Fixture

end Crosscheck
