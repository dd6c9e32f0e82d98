/-
**Reading fixtures.**

A fixture is read line by line. What a line must be depends on its place: the header of a block, a
haystack or the end of the haystacks, a regexp or the next header, or one of the records that a
regexp still lacks.

* `Fixture.Reader.step`: what a line does, or why it is wrong there;
* `Fixture.read`: the fixture of a byte string, or the first line that is wrong.
-/
import Crosscheck.Fixture.Block

namespace Crosscheck

namespace Fixture

/-- Where a reader is. Lists have what was read last first. -/
inductive Place where
  /-- Before the first block. -/
  | start
  /-- Among the haystacks of the block whose header has the given number. -/
  | haystacks (header : Nat) (read : List Bytes)
  /-- Where a regexp may stand. -/
  | entries (haystacks : List Bytes) (read : List Entry)
  /-- Where a record must stand: the regexp lacks one more record than `missing`. -/
  | records (haystacks : List Bytes) (read : List Entry) (regexp : String) (line : Nat)
    (records : List Record) (missing : Nat)

/-- A fixture that is being read. -/
structure Reader where
  /-- The blocks before the one at hand, the last one first. -/
  blocks : List Block
  /-- Where the reader is. -/
  place : Place

namespace Reader

/-- The reader before the first line. -/
def start : Reader := ⟨[], .start⟩

/-- The place after a regexp with the given records, with as many records missing as given. -/
def afterRecord (haystacks : List Bytes) (read : List Entry) (regexp : String) (line : Nat)
    (records : List Record) : Nat → Place
  | 0 => .entries haystacks (⟨regexp, line, records.reverse⟩ :: read)
  | missing + 1 => .records haystacks read regexp line records missing

/-- A quoted byte string on a line. -/
def quotedLine (number : Nat) (line : Bytes) : Except Failure Bytes :=
  match Quoted.decode line with
  | .ok bytes => .ok bytes
  | .error defect => .error (.fixture number (.quoted line defect))

/-- A regexp on a line. -/
def regexpLine (number : Nat) (line : Bytes) : Except Failure String := do
  match Bytes.text? (← quotedLine number line) with
  | some regexp => return regexp
  | none => throw (.fixture number .regexpNotText)

/-- A record on a line. -/
def recordLine (number : Nat) (line : Bytes) : Except Failure Record :=
  match Record.read line with
  | .ok record => .ok record
  | .error cause => .error (.fixture number cause)

/-- Reads the next line. -/
def step (reader : Reader) (number : Nat) (line : Bytes) : Except Failure Reader :=
  match reader.place with
  | .start =>
    if line = haystacksHeader then .ok { reader with place := .haystacks number [] }
    else .error (.fixture number (.noHeader line))
  | .haystacks header read =>
    if line = regexpsHeader then .ok { reader with place := .entries read.reverse [] }
    else do
      return { reader with place := .haystacks header ((← quotedLine number line) :: read) }
  | .entries haystacks read =>
    if line = haystacksHeader then
      .ok ⟨⟨haystacks, read.reverse⟩ :: reader.blocks, .haystacks number []⟩
    else do
      let regexp ← regexpLine number line
      return { reader with place := afterRecord haystacks read regexp number [] haystacks.length }
  | .records haystacks read regexp first records missing => do
    let record ← recordLine number line
    return { reader with
      place := afterRecord haystacks read regexp first (record :: records) missing }

/-- Reads lines, the first of which has the given number. -/
def steps (reader : Reader) (number : Nat) : List Bytes → Except Failure Reader
  | [] => .ok reader
  | line :: rest => do steps (← reader.step number line) (number + 1) rest

/-- The fixture that has been read when no line is left. -/
def finish (reader : Reader) : Except Failure Fixture :=
  match reader.place with
  | .start => .ok reader.blocks.reverse
  | .haystacks header _ => .error (.fixture header .noRegexps)
  | .entries haystacks read => .ok (⟨haystacks, read.reverse⟩ :: reader.blocks).reverse
  | .records _ _ regexp line _ _ => .error (.fixture line (.recordsMissing regexp))

end Reader

/-- The fixture of a byte string. -/
def read (bytes : Bytes) : Except Failure Fixture := do
  (← Reader.start.steps 1 (Split.lines bytes)).finish

end Fixture

end Crosscheck
