/-
**Writing fixtures.**

A writer puts a fixture into a sink, line by line. A line and its newline are two writes. Writing
stops at the first write that fails and at the first byte string too long to quote, and leaves in
the sink what was written before.

* `Fixture.Writer.haystacks`: starts a block with its haystacks;
* `Fixture.Writer.regexp`, `Fixture.Writer.record`: an entry and its records.
-/
import Crosscheck.Fixture.Block
import Crosscheck.Fixture.Sink

namespace Crosscheck

namespace Fixture

/-- A fixture on its way. -/
structure Writer where
  /-- Where it goes. -/
  sink : Sink
  /-- Whether the haystacks of a block have been written. -/
  hasHaystacks : Bool

namespace Writer

/-- A writer that has written nothing. -/
def ofSink (sink : Sink) : Writer := ⟨sink, false⟩

/-- A step of writing. -/
abbrev Step := EStateM Fault Writer Unit

/-- A step of the sink. -/
def onSink (step : EStateM Fault Sink Unit) : Step := fun writer =>
  match step writer.sink with
  | .ok () sink => .ok () { writer with sink := sink }
  | .error fault sink => .error fault { writer with sink := sink }

/-- Writes bytes. -/
def put (bytes : Bytes) : Step := onSink (Sink.write bytes)

/-- Writes a line. -/
def line (bytes : Bytes) : Step := do
  put bytes
  put [Split.newline]

/-- Writes a byte string on a line, quoted. -/
def quoted (bytes : Bytes) : Step :=
  match Quoted.encode bytes with
  | .ok written => line written
  | .error violation => throw (.violation violation)

/-- Starts a block. The lines of its haystacks must follow. -/
def beginHaystacks : Step := put (haystacksHeader ++ [Split.newline])

/-- Goes on from the haystacks of a block to its regexps. -/
def endHaystacks : Step := do
  put (regexpsHeader ++ [Split.newline])
  modify fun writer => { writer with hasHaystacks := true }

/-- Starts a block with its haystacks. -/
def haystacks (strings : List Bytes) : Step := do
  beginHaystacks
  forM strings quoted
  endHaystacks

/-- Writes the line of a regexp. A record for each haystack of the block must follow. -/
def regexp (text : String) : Step := quoted (Bytes.ofText text)

/-- Writes the next record of a regexp. -/
def record (results : Record) : Step := line (Bytes.ofText results.text)

/-- Makes sure that what was written is kept. -/
def flush : Step := onSink Sink.flush

end Writer

end Fixture

end Crosscheck
