/-
**What is read as a fixture.**

The same line may stand in one place of a fixture and not in another: whether it is a haystack, a
regexp or a record depends on how many haystacks the block has, and on how many records were read.
The reader accepts the lines that are put together from blocks, and those from entries; and the line
that it reports is the first one that makes it impossible to go on to such lines, or, when it is
just that lines are missing, the one they are missing after.

* `Fixture.FormEntry`, `Fixture.FormBlock`, `Fixture.WellFormed`: the grammar of lines;
* `Fixture.EndsEarly`: lines that break off, and the line after which others are missing;
* `Fixture.Reached`: what was read when the reader is in a place;
* `Fixture.Reader.Passes`: lines that lead from one stage of reading to another;
* `Fixture.read_exact`: what is accepted, and which line is reported otherwise.
-/
import Crosscheck.Proofs.Fixture.Roundtrip
import Crosscheck.Proofs.Fixture.Spelling

namespace Crosscheck

namespace Fixture

/-! ### The grammar -/

/-- A line that spells a string: it can be decoded. -/
def SpellsString (line : Bytes) : Prop := ∃ bytes, Quoted.decode line = .ok bytes

/-- A line that spells a regexp: it can be decoded to text. -/
def SpellsRegexp (line : Bytes) : Prop :=
  ∃ regexp, Quoted.decode line = .ok (Bytes.ofText regexp)

/-- Lines that form an entry of a block with `count` haystacks: a regexp and as many records. -/
def FormEntry (count : Nat) (lines : List Bytes) : Prop :=
  ∃ regexp records, SpellsRegexp regexp ∧ (∀ record ∈ records, Record.SpellsRecord record) ∧
    records.length = count ∧ lines = regexp :: records

/-- Lines that form a block with `count` haystacks. -/
def FormBlock (count : Nat) (lines : List Bytes) : Prop :=
  ∃ (haystacks : List Bytes) (entries : List (List Bytes)),
    (∀ haystack ∈ haystacks, SpellsString haystack) ∧ haystacks.length = count ∧
    (∀ entry ∈ entries, FormEntry count entry) ∧
    lines = haystacksHeader :: (haystacks ++ regexpsHeader :: entries.flatten)

/-- Lines that form a sequence of blocks. -/
def WellFormed (lines : List Bytes) : Prop :=
  ∃ blocks : List (List Bytes), (∀ block ∈ blocks, ∃ count, FormBlock count block) ∧
    lines = blocks.flatten

/-- Lines that well-formed lines begin with. -/
def Viable (lines : List Bytes) : Prop := ∃ rest, WellFormed (lines ++ rest)

/-- Lines that break off inside a block, and the number of the line that others are missing after:
the header of the block if there are only haystacks, or else the last regexp. -/
inductive EndsEarly : List Bytes → Nat → Prop where
  | haystacks {done haystacks : List Bytes} (before : WellFormed done)
    (strings : ∀ haystack ∈ haystacks, SpellsString haystack) :
    EndsEarly (done ++ haystacksHeader :: haystacks) (done.length + 1)
  | records {done block records : List Bytes} {regexp : Bytes} {count : Nat}
    (before : WellFormed done) (opened : FormBlock count block) (isRegexp : SpellsRegexp regexp)
    (spelled : ∀ record ∈ records, Record.SpellsRecord record) (fewer : records.length < count) :
    EndsEarly (done ++ block ++ regexp :: records) ((done ++ block).length + 1)

/-- No header spells a string. -/
theorem SpellsString.ne_header {line : Bytes} (spells : SpellsString line) :
    line ≠ haystacksHeader ∧ line ≠ regexpsHeader := by
  obtain ⟨bytes, decodes⟩ := spells
  have wrong : Quoted.decode haystacksHeader = .error .unwrapped ∧
      Quoted.decode regexpsHeader = .error .unwrapped := ⟨rfl, rfl⟩
  constructor <;> rintro rfl
  · cases decodes.symm.trans wrong.1
  · cases decodes.symm.trans wrong.2

theorem wellFormed_nil : WellFormed [] := ⟨[], by simp, rfl⟩

/-- A block may follow well-formed lines. -/
theorem WellFormed.append {done block : List Bytes} {count : Nat} (before : WellFormed done)
    (opened : FormBlock count block) : WellFormed (done ++ block) := by
  obtain ⟨blocks, formed, rfl⟩ := before
  refine ⟨blocks ++ [block], ?_, by simp⟩
  rintro other inside
  rcases List.mem_append.mp inside with first | last
  · exact formed other first
  · exact ⟨count, List.mem_singleton.mp last ▸ opened⟩

/-- An entry may follow the lines of a block. -/
theorem FormBlock.append {block entry : List Bytes} {count : Nat} (opened : FormBlock count block)
    (formed : FormEntry count entry) : FormBlock count (block ++ entry) := by
  obtain ⟨haystacks, entries, strings, length, others, rfl⟩ := opened
  refine ⟨haystacks, entries ++ [entry], strings, length, ?_, by simp⟩
  rintro other inside
  rcases List.mem_append.mp inside with first | last
  · exact others other first
  · exact List.mem_singleton.mp last ▸ formed

/-- A block may have no entries. -/
theorem formBlock_haystacks {haystacks : List Bytes}
    (strings : ∀ haystack ∈ haystacks, SpellsString haystack) :
    FormBlock haystacks.length (haystacksHeader :: haystacks ++ [regexpsHeader]) :=
  ⟨haystacks, [], strings, rfl, by simp, by simp⟩

/-- Records may be blank, so they can always be completed. -/
theorem spellsRecord_blank : Record.SpellsRecord (Bytes.ofText "-;-;-;-") :=
  ⟨List.replicate 4 ['-'], rfl, fun _ inside => .inl (List.eq_of_mem_replicate inside), rfl⟩

/-- **Lines that break off can be completed.** -/
theorem EndsEarly.viable {lines : List Bytes} {number : Nat} (early : EndsEarly lines number) :
    Viable lines := by
  cases early with
  | @haystacks done haystacks before strings =>
    refine ⟨[regexpsHeader], ?_⟩
    rw [List.append_assoc]
    exact before.append (formBlock_haystacks strings)
  | @records done block records regexp count before opened isRegexp spelled fewer =>
    refine ⟨List.replicate (count - records.length) (Bytes.ofText "-;-;-;-"), ?_⟩
    rw [List.append_assoc, List.append_assoc]
    refine before.append (opened.append
      ⟨regexp, records ++ List.replicate _ _, isRegexp, ?_, ?_, rfl⟩)
    · intro record inside
      rcases List.mem_append.mp inside with first | last
      · exact spelled record first
      · exact List.eq_of_mem_replicate last ▸ spellsRecord_blank
    · rw [List.length_append, List.length_replicate]
      omega

/-! ### What was read -/

/-- What was read when the reader is in a place. -/
inductive Reached : List Bytes → Place → Prop where
  | start : Reached [] .start
  | haystacks {done haystacks read : List Bytes} (before : WellFormed done)
    (strings : ∀ haystack ∈ haystacks, SpellsString haystack)
    (length : read.length = haystacks.length) :
    Reached (done ++ haystacksHeader :: haystacks) (.haystacks (done.length + 1) read)
  | entries {done block haystacks : List Bytes} {read : List Entry} (before : WellFormed done)
    (opened : FormBlock haystacks.length block) : Reached (done ++ block) (.entries haystacks read)
  | records {done block recordLines haystacks : List Bytes} {regexpLine : Bytes}
    {read : List Entry} {regexp : String} {records : List Record} {missing : Nat}
    (before : WellFormed done) (opened : FormBlock haystacks.length block)
    (isRegexp : SpellsRegexp regexpLine)
    (spelled : ∀ record ∈ recordLines, Record.SpellsRecord record)
    (lacking : recordLines.length + (missing + 1) = haystacks.length) :
    Reached (done ++ block ++ regexpLine :: recordLines)
      (.records haystacks read regexp ((done ++ block).length + 1) records missing)

/-- What was read after a regexp and some of its records. -/
theorem reached_afterRecord {done block recordLines haystacks : List Bytes} {regexpLine : Bytes}
    {missing : Nat} (before : WellFormed done) (opened : FormBlock haystacks.length block)
    (isRegexp : SpellsRegexp regexpLine)
    (spelled : ∀ record ∈ recordLines, Record.SpellsRecord record)
    (lacking : recordLines.length + missing = haystacks.length) (read : List Entry)
    (regexp : String) (records : List Record) :
    Reached (done ++ block ++ regexpLine :: recordLines)
      (Reader.afterRecord haystacks read regexp ((done ++ block).length + 1) records missing) := by
  cases missing with
  | zero =>
    rw [List.append_assoc]
    exact .entries before (opened.append ⟨regexpLine, recordLines, isRegexp, spelled, lacking, rfl⟩)
  | succ missing => exact .records before opened isRegexp spelled lacking

namespace Reader

/-! ### One line -/

/-- **What is read with one more line.** -/
theorem reached_step {reader next : Reader} {lines : List Bytes} {line : Bytes}
    (reached : Reached lines reader.place)
    (read : reader.step (lines.length + 1) line = .ok next) :
    Reached (lines ++ [line]) next.place := by
  obtain ⟨blocks, place⟩ := reader
  cases reached with
  | start =>
    simp only [step] at read
    split at read
    · next header =>
      cases read
      exact header ▸ .haystacks wellFormed_nil (by simp) rfl
    · cases read
  | haystacks before strings length =>
    simp only [step] at read
    split at read
    · next header =>
      cases read
      rw [List.append_assoc, header]
      refine .entries before ?_
      rw [List.length_reverse, length]
      exact formBlock_haystacks strings
    · obtain ⟨bytes, quoted, rest⟩ := bind_eq_ok read
      cases rest
      rw [List.append_assoc, List.cons_append]
      refine .haystacks before ?_ (by simp [length])
      intro haystack inside
      rcases List.mem_append.mp inside with first | last
      · exact strings haystack first
      · exact List.mem_singleton.mp last ▸ ⟨bytes, quotedLine_eq_ok_iff.mp quoted⟩
  | entries before opened =>
    simp only [step] at read
    split at read
    · next header =>
      cases read
      rw [header]
      exact .haystacks (before.append opened) (by simp) rfl
    · obtain ⟨regexp, spells, rest⟩ := bind_eq_ok read
      cases rest
      exact reached_afterRecord before opened ⟨regexp, regexpLine_eq_ok_iff.mp spells⟩ (by simp)
        (Nat.zero_add _) _ _ _
  | @records done block recordLines haystacks _ _ _ _ _ before opened isRegexp spelled lacking =>
    obtain ⟨record, spells, rest⟩ := bind_eq_ok read
    cases rest
    rw [List.append_assoc, List.cons_append]
    refine reached_afterRecord before opened isRegexp ?_ ?_ _ _ _
    · intro other inside
      rcases List.mem_append.mp inside with first | last
      · exact spelled other first
      · exact List.mem_singleton.mp last ▸
          Record.exists_read_iff.mp ⟨record, recordLine_eq_ok_iff.mp spells⟩
    · rw [List.length_append, List.length_singleton]
      omega

/-- A line that cannot be read is reported with its number. -/
theorem step_error {reader : Reader} {number : Nat} {line : Bytes} {failure : Failure}
    (read : reader.step number line = .error failure) :
    ∃ cause, failure = .fixture number cause := by
  have quoted : ∀ {failure}, quotedLine number line = .error failure →
      ∃ cause, failure = .fixture number cause := by
    intro failure read
    rw [quotedLine] at read
    split at read <;> cases read
    exact ⟨_, rfl⟩
  obtain ⟨blocks, place⟩ := reader
  cases place with
  | start =>
    simp only [step] at read
    split at read <;> cases read
    exact ⟨_, rfl⟩
  | haystacks header done =>
    simp only [step] at read
    split at read
    · cases read
    · rcases bind_eq_error read with wrong | ⟨bytes, -, wrong⟩
      · exact quoted wrong
      · cases wrong
  | entries haystacks done =>
    simp only [step] at read
    split at read
    · cases read
    · rcases bind_eq_error read with wrong | ⟨regexp, -, wrong⟩
      · rcases bind_eq_error wrong with wrong | ⟨bytes, -, wrong⟩
        · exact quoted wrong
        · split at wrong <;> cases wrong
          exact ⟨_, rfl⟩
      · cases wrong
  | records haystacks done regexp first records missing =>
    simp only [step] at read
    rcases bind_eq_error read with wrong | ⟨record, -, wrong⟩
    · rw [recordLine] at wrong
      split at wrong <;> cases wrong
      exact ⟨_, rfl⟩
    · cases wrong

/-! ### All lines -/

/-- **What is read with some lines more**, up to the first one that cannot be read. -/
theorem steps_cases {reader : Reader} {before : List Bytes} (reached : Reached before reader.place)
    (lines : List Bytes) :
    match reader.steps (before.length + 1) lines with
    | .ok next => Reached (before ++ lines) next.place
    | .error failure => ∃ done line rest middle, lines = done ++ line :: rest ∧
        reader.steps (before.length + 1) done = .ok middle ∧
        Reached (before ++ done) middle.place ∧
        middle.step ((before ++ done).length + 1) line = .error failure := by
  induction lines generalizing reader before with
  | nil => exact (List.append_nil before).symm ▸ reached
  | cons line rest hypothesis =>
    rw [steps]
    cases read : reader.step (before.length + 1) line with
    | error failure =>
      refine ⟨[], line, rest, reader, rfl, rfl, ?_, ?_⟩ <;> rw [List.append_nil]
      · exact reached
      · exact read
    | ok next =>
      have after := hypothesis (reached_step reached read)
      rw [List.length_append, List.length_singleton] at after
      show match next.steps (before.length + 1 + 1) rest with
        | .ok last => _
        | .error failure => _
      split at after
      · rwa [List.append_assoc] at after
      · next failure run =>
        obtain ⟨done, wrong, later, middle, rfl, readDone, reachedDone, failed⟩ := after
        refine ⟨line :: done, wrong, later, middle, rfl, ?_, ?_, ?_⟩
        · rw [steps, read]
          exact readDone
        · rwa [List.append_assoc] at reachedDone
        · rwa [List.append_assoc] at failed

/-- **What is read when no line is left** is well-formed, or else breaks off. -/
theorem finish_cases {reader : Reader} {lines : List Bytes} (reached : Reached lines reader.place) :
    match reader.finish with
    | .ok _ => WellFormed lines
    | .error failure => ∃ number cause, failure = .fixture number cause ∧
        EndsEarly lines number := by
  obtain ⟨blocks, place⟩ := reader
  cases reached with
  | start => exact wellFormed_nil
  | haystacks before strings length => exact ⟨_, _, rfl, .haystacks before strings⟩
  | entries before opened => exact before.append opened
  | records before opened isRegexp spelled lacking =>
    exact ⟨_, _, rfl, .records before opened isRegexp spelled (by omega)⟩

/-! ### Well-formed lines are read -/

/-- Where a reader is, without what it has read. -/
inductive Stage where
  | start
  | haystacks (count : Nat)
  | entries (count : Nat)
  | records (count missing : Nat)

/-- The stage of a place. -/
def stage : Place → Stage
  | .start => .start
  | .haystacks _ read => .haystacks read.length
  | .entries haystacks _ => .entries haystacks.length
  | .records haystacks _ _ _ _ missing => .records haystacks.length missing

/-- Lines that lead from one stage to another, whatever was read before. -/
def Passes (lines : List Bytes) (first last : Stage) : Prop :=
  ∀ (reader : Reader) (number : Nat), stage reader.place = first →
    ∃ next, reader.steps number lines = .ok next ∧ stage next.place = last

theorem passes_nil (here : Stage) : Passes [] here here := fun reader _ same => ⟨reader, rfl, same⟩

theorem Passes.append {before after : List Bytes} {first middle last : Stage}
    (early : Passes before first middle) (late : Passes after middle last) :
    Passes (before ++ after) first last := by
  intro reader number same
  obtain ⟨between, run, same⟩ := early reader number same
  obtain ⟨next, more, same⟩ := late between (number + before.length) same
  refine ⟨next, ?_, same⟩
  rw [steps_append, run]
  exact more

/-- A line leads to where reading it does. -/
theorem passes_line {line : Bytes} {first last : Stage}
    (reads : ∀ (reader : Reader) (number : Nat), stage reader.place = first →
      ∃ next, reader.step number line = .ok next ∧ stage next.place = last) :
    Passes [line] first last := by
  intro reader number same
  obtain ⟨next, read, same⟩ := reads reader number same
  refine ⟨next, ?_, same⟩
  rw [steps, read]
  rfl

/-- The stage after a regexp and some of its records. -/
def stageAfter (count : Nat) : Nat → Stage
  | 0 => .entries count
  | missing + 1 => .records count missing

theorem stage_afterRecord (haystacks : List Bytes) (read : List Entry) (regexp : String)
    (line : Nat) (records : List Record) (missing : Nat) :
    stage (afterRecord haystacks read regexp line records missing) =
      stageAfter haystacks.length missing := by
  cases missing <;> rfl

theorem passes_haystack {line : Bytes} (spells : SpellsString line) (count : Nat) :
    Passes [line] (.haystacks count) (.haystacks (count + 1)) := by
  refine passes_line fun reader number same => ?_
  obtain ⟨blocks, _ | ⟨header, read⟩ | _ | _⟩ := reader <;> cases same
  have other := spells.ne_header.2
  obtain ⟨bytes, decodes⟩ := spells
  refine ⟨⟨blocks, .haystacks header (bytes :: read)⟩, ?_, rfl⟩
  simp only [step, if_neg other, quotedLine_eq_ok_iff.mpr decodes]
  rfl

theorem passes_haystacks {haystacks : List Bytes}
    (spell : ∀ haystack ∈ haystacks, SpellsString haystack) (count : Nat) :
    Passes haystacks (.haystacks count) (.haystacks (count + haystacks.length)) := by
  induction haystacks generalizing count with
  | nil => exact passes_nil _
  | cons haystack rest hypothesis =>
    obtain ⟨first, others⟩ := List.forall_mem_cons.mp spell
    have later := hypothesis others (count + 1)
    rw [Nat.add_assoc, Nat.add_comm 1] at later
    exact (passes_haystack first count).append later

theorem passes_regexpsHeader (count : Nat) :
    Passes [regexpsHeader] (.haystacks count) (.entries count) := by
  refine passes_line fun reader number same => ?_
  obtain ⟨blocks, _ | ⟨header, read⟩ | _ | _⟩ := reader <;> cases same
  refine ⟨⟨blocks, .entries read.reverse []⟩, by simp [step], ?_⟩
  rw [stage, List.length_reverse]

theorem passes_regexp {line : Bytes} (spells : SpellsRegexp line) (count : Nat) :
    Passes [line] (.entries count) (stageAfter count count) := by
  refine passes_line fun reader number same => ?_
  obtain ⟨blocks, _ | _ | ⟨haystacks, read⟩ | _⟩ := reader <;> cases same
  obtain ⟨regexp, decodes⟩ := spells
  refine ⟨⟨blocks, afterRecord haystacks read regexp number [] haystacks.length⟩, ?_,
    stage_afterRecord ..⟩
  simp only [step, if_neg (SpellsString.ne_header ⟨_, decodes⟩).1,
    regexpLine_eq_ok_iff.mpr decodes]
  rfl

theorem passes_record {line : Bytes} (spells : Record.SpellsRecord line) (count missing : Nat) :
    Passes [line] (.records count missing) (stageAfter count missing) := by
  refine passes_line fun reader number same => ?_
  obtain ⟨blocks, _ | _ | _ | ⟨haystacks, read, regexp, first, records, missing⟩⟩ := reader <;>
    cases same
  obtain ⟨record, reads⟩ := Record.exists_read_iff.mpr spells
  refine ⟨⟨blocks, afterRecord haystacks read regexp first (record :: records) missing⟩, ?_,
    stage_afterRecord ..⟩
  simp only [step, recordLine_eq_ok_iff.mpr reads]
  rfl

theorem passes_records {records : List Bytes}
    (spell : ∀ record ∈ records, Record.SpellsRecord record) (count : Nat) :
    Passes records (stageAfter count records.length) (.entries count) := by
  induction records with
  | nil => exact passes_nil _
  | cons record rest hypothesis =>
    obtain ⟨first, others⟩ := List.forall_mem_cons.mp spell
    exact (passes_record first count rest.length).append (hypothesis others)

/-- The lines of an entry lead from one entry to the next. -/
theorem passes_entry {count : Nat} {entry : List Bytes} (formed : FormEntry count entry) :
    Passes entry (.entries count) (.entries count) := by
  obtain ⟨regexp, records, spells, others, rfl, rfl⟩ := formed
  exact (passes_regexp spells _).append (passes_records others _)

theorem passes_entries {count : Nat} {entries : List (List Bytes)}
    (formed : ∀ entry ∈ entries, FormEntry count entry) :
    Passes entries.flatten (.entries count) (.entries count) := by
  induction entries with
  | nil => exact passes_nil _
  | cons entry rest hypothesis =>
    obtain ⟨first, others⟩ := List.forall_mem_cons.mp formed
    exact (passes_entry first).append (hypothesis others)

/-- A stage in which no line need follow. -/
def Stage.Stops : Stage → Prop
  | .start | .entries _ => True
  | .haystacks _ | .records .. => False

theorem passes_haystacksHeader {first : Stage} (stops : first.Stops) :
    Passes [haystacksHeader] first (.haystacks 0) := by
  refine passes_line fun reader number same => ?_
  obtain ⟨blocks, _ | _ | ⟨haystacks, read⟩ | _⟩ := reader
  · exact ⟨⟨blocks, .haystacks number []⟩, by simp [step], rfl⟩
  · cases same
    exact stops.elim
  · exact ⟨⟨⟨haystacks, read.reverse⟩ :: blocks, .haystacks number []⟩, by simp [step], rfl⟩
  · cases same
    exact stops.elim

/-- The lines of a block lead from where one may start to its end. -/
theorem passes_block {count : Nat} {block : List Bytes} (formed : FormBlock count block)
    {first : Stage} (stops : first.Stops) : Passes block first (.entries count) := by
  obtain ⟨haystacks, entries, spell, rfl, others, rfl⟩ := formed
  have strings := passes_haystacks spell 0
  rw [Nat.zero_add] at strings
  exact (passes_haystacksHeader stops).append (strings.append
    ((passes_regexpsHeader _).append (passes_entries others)))

/-- **Well-formed lines lead to where no line need follow.** -/
theorem passes_blocks {blocks : List (List Bytes)}
    (formed : ∀ block ∈ blocks, ∃ count, FormBlock count block) {first : Stage}
    (stops : first.Stops) : ∃ last : Stage, last.Stops ∧ Passes blocks.flatten first last := by
  induction blocks generalizing first with
  | nil => exact ⟨first, stops, passes_nil first⟩
  | cons block rest hypothesis =>
    obtain ⟨⟨count, form⟩, others⟩ := List.forall_mem_cons.mp formed
    obtain ⟨last, stopsAgain, passes⟩ :=
      hypothesis others (show (Stage.entries count).Stops from trivial)
    exact ⟨last, stopsAgain, (passes_block form stops).append passes⟩

/-- **Well-formed lines are read**, to the last one. -/
theorem steps_wellFormed {lines : List Bytes} (formed : WellFormed lines) :
    ∃ reader fixture, start.steps 1 lines = .ok reader ∧ reader.finish = .ok fixture := by
  obtain ⟨blocks, each, rfl⟩ := formed
  obtain ⟨last, stops, passes⟩ := passes_blocks each (show Stage.start.Stops from trivial)
  obtain ⟨reader, run, rfl⟩ := passes start 1 rfl
  obtain ⟨read, _ | _ | ⟨haystacks, entries⟩ | _⟩ := reader
  · exact ⟨_, _, run, rfl⟩
  · exact stops.elim
  · exact ⟨_, _, run, rfl⟩
  · exact stops.elim

end Reader

/-! ### Whole fixtures -/

/-- Lines that were read can be completed. -/
theorem Reached.viable {lines : List Bytes} {place : Place} (reached : Reached lines place) :
    Viable lines := by
  cases reached with
  | start => exact ⟨[], wellFormed_nil⟩
  | haystacks before strings length => exact (EndsEarly.haystacks before strings).viable
  | entries before opened => exact ⟨[], by simpa using before.append opened⟩
  | records before opened isRegexp spelled lacking =>
    exact (EndsEarly.records before opened isRegexp spelled (by omega)).viable

/-- **The first line that cannot be read** makes it impossible to go on to well-formed lines, and is
the first one to do so. -/
theorem Reader.located {lines : List Bytes} {failure : Failure}
    (stuck : start.steps 1 lines = .error failure) :
    ∃ done line rest cause, lines = done ++ line :: rest ∧
      failure = .fixture (done.length + 1) cause ∧ Viable done ∧ ¬Viable (done ++ [line]) := by
  have run := steps_cases (show Reached [] start.place from .start) lines
  rw [List.length_nil, Nat.zero_add, stuck] at run
  obtain ⟨done, line, rest, middle, rfl, readDone, reached, failed⟩ := run
  obtain ⟨cause, rfl⟩ := step_error failed
  refine ⟨done, line, rest, cause, rfl, rfl, reached.viable, ?_⟩
  rintro ⟨more, formed⟩
  obtain ⟨reader, fixture, run, -⟩ := steps_wellFormed formed
  rw [List.append_assoc] at run
  obtain ⟨next, read⟩ := exists_step run readDone
  rw [List.nil_append, Nat.add_comm] at failed
  cases failed.symm.trans read

/-- **Fixtures are read exactly where the grammar has them, and the first error is located.** Bytes
are read as a fixture exactly when their lines are well-formed. Otherwise the number that is
reported is that of the first line with which the lines up to it stop being the beginning of
well-formed ones; or, when there is no such line, of the line that others are missing after. -/
theorem read_exact (bytes : Bytes) :
    ((∃ fixture, read bytes = .ok fixture) ↔ WellFormed (Split.lines bytes)) ∧
    ∀ failure, read bytes = .error failure → ∃ number cause, failure = .fixture number cause ∧
      ((∃ done line rest, Split.lines bytes = done ++ line :: rest ∧ number = done.length + 1 ∧
          Viable done ∧ ¬Viable (done ++ [line])) ∨
        Viable (Split.lines bytes) ∧ EndsEarly (Split.lines bytes) number) := by
  have ended : ∀ {reader}, Reader.start.steps 1 (Split.lines bytes) = .ok reader →
      Reached (Split.lines bytes) reader.place := by
    intro reader run
    have reached :=
      Reader.steps_cases (show Reached [] Reader.start.place from .start) (Split.lines bytes)
    rwa [List.length_nil, Nat.zero_add, run] at reached
  constructor
  · constructor
    · rintro ⟨fixture, accepted⟩
      obtain ⟨reader, run, finish⟩ := Reader.bind_eq_ok accepted
      have formed := Reader.finish_cases (ended run)
      rwa [finish] at formed
    · intro formed
      obtain ⟨reader, fixture, run, finish⟩ := Reader.steps_wellFormed formed
      refine ⟨fixture, ?_⟩
      rw [read, run]
      exact finish
  · intro failure rejected
    rcases Reader.bind_eq_error rejected with stuck | ⟨reader, run, finish⟩
    · obtain ⟨done, line, rest, cause, same, rfl, viable, never⟩ := Reader.located stuck
      exact ⟨_, cause, rfl, .inl ⟨done, line, rest, same, rfl, viable, never⟩⟩
    · have early := Reader.finish_cases (ended run)
      rw [finish] at early
      obtain ⟨number, cause, rfl, early⟩ := early
      exact ⟨number, cause, rfl, .inr ⟨early.viable, early⟩⟩

/-- A regexp without its record is reported with its own line, not with the last one. -/
example : read (Bytes.ofText "strings\n\"\"\n\"a\"\nregexps\n\"a\"\n-;-;-;-\n") =
    .error (.fixture 5 (.recordsMissing "a")) := by cbv

end Fixture

end Crosscheck
