/-
**The journal of a run.**

A journal holds what a run leaves behind beside its result, in order: its notes down to the level
that is asked for, its calls of an engine when they are asked for, and what it prints.

* `Journal.note`, `Journal.call`, `Journal.print`: what is added;
* `Journal.toList`: all events, in order.
-/
import Crosscheck.Journal.Note

namespace Crosscheck

/-- A call of an engine. -/
inductive Call where
  /-- A regexp is compiled. -/
  | compile (regexp : String)
  /-- A haystack is tested. -/
  | test (haystack : Bytes)
  /-- A match is asked for. -/
  | captures (haystack : Bytes) (anchor : Anchor) (kind : MatchKind)
  deriving DecidableEq

/-- Where a run prints. -/
inductive Channel where
  /-- Where results go. -/
  | output
  /-- Where notes and errors go. -/
  | error
  deriving DecidableEq

/-- An event of a journal. -/
inductive Event where
  /-- A note. -/
  | note (content : Note)
  /-- A call of an engine. -/
  | call (content : Call)
  /-- Bytes that were printed. -/
  | print (channel : Channel) (content : Bytes)

/-- What a run leaves behind beside its result. -/
structure Journal where
  /-- The last level of notes that are kept; none for no notes at all. -/
  verbosity : Option Level
  /-- Whether calls of an engine are kept. -/
  keepsCalls : Bool
  /-- The events, the last one first. -/
  events : List Event

namespace Journal

/-- The journal without events. -/
def empty (verbosity : Option Level) (keepsCalls : Bool) : Journal := ⟨verbosity, keepsCalls, []⟩

/-- Whether notes of a level are kept. -/
def keeps (journal : Journal) (level : Level) : Bool :=
  match journal.verbosity with
  | some last => level.rank ≤ last.rank
  | none => false

/-- Adds an event. -/
def add (journal : Journal) (event : Event) : Journal :=
  { journal with events := event :: journal.events }

/-- Adds a note, when its level is kept. -/
def note (journal : Journal) (content : Note) : Journal :=
  if journal.keeps content.level then journal.add (.note content) else journal

/-- Adds notes, in order. -/
def notes (journal : Journal) (contents : List Note) : Journal := contents.foldl note journal

/-- Adds a call, when calls are kept. -/
def call (journal : Journal) (content : Call) : Journal :=
  if journal.keepsCalls then journal.add (.call content) else journal

/-- Adds bytes that are printed. -/
def print (journal : Journal) (channel : Channel) (content : Bytes) : Journal :=
  journal.add (.print channel content)

/-- Adds a text that is printed. -/
def printText (journal : Journal) (channel : Channel) (content : String) : Journal :=
  journal.print channel (Bytes.ofText content)

/-- All events, in order. -/
def toList (journal : Journal) : List Event := journal.events.reverse

end Journal

end Crosscheck
