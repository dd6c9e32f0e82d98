/-
**Where a fixture is written.**

A sink takes each write as a whole or not at all, and keeps what it took.

* `Sink.write`, `Sink.flush`: what is done with a sink, which may fail;
* `Sink.bytes`: all that a sink took;
* `Sink.bytes_write`: a write that does not fail appends its bytes.
-/
import Crosscheck.Failure

namespace Crosscheck

/-- When a sink fails. -/
structure SinkRule where
  /-- Whether a write is taken, by the number of attempts before it, the number of bytes taken so
  far and the number of bytes to be taken. -/
  takes : (attempts taken added : Nat) → Bool
  /-- Whether a flush succeeds, by the number of attempts before it. -/
  flushes : (attempts : Nat) → Bool

/-- The rule of a sink that never fails. -/
def SinkRule.reliable : SinkRule := ⟨fun _ _ _ => true, fun _ => true⟩

/-- What takes the bytes of a fixture. -/
structure Sink where
  /-- When it fails. -/
  rule : SinkRule
  /-- How many writes and flushes were attempted. -/
  attempts : Nat
  /-- How many bytes were taken. -/
  taken : Nat
  /-- The writes that were taken, the last one first. -/
  chunks : List Bytes

namespace Sink

/-- A sink that took nothing yet. -/
def ofRule (rule : SinkRule) : Sink := ⟨rule, 0, 0, []⟩

/-- All bytes that were taken, in order. -/
def bytes (sink : Sink) : Bytes := sink.chunks.reverse.flatten

/-- The failure of a sink. -/
def refusal : Fault := .failure (.io "write failed")

/-- Writes bytes, all of them or none. -/
def write (added : Bytes) : EStateM Fault Sink Unit := fun sink =>
  let attempted := { sink with attempts := sink.attempts + 1 }
  if sink.rule.takes sink.attempts sink.taken added.length then
    .ok () { attempted with taken := sink.taken + added.length, chunks := added :: sink.chunks }
  else .error refusal attempted

/-- Makes sure that what was taken is kept. -/
def flush : EStateM Fault Sink Unit := fun sink =>
  let attempted := { sink with attempts := sink.attempts + 1 }
  if sink.rule.flushes sink.attempts then .ok () attempted else .error refusal attempted

/-- A write that does not fail appends its bytes. -/
theorem bytes_write {added : Bytes} {sink after : Sink} (step : write added sink = .ok () after) :
    after.bytes = sink.bytes ++ added := by
  rw [write] at step
  split at step
  · cases step
    simp [bytes]
  · cases step

/-- A write that fails leaves the bytes as they are. -/
theorem bytes_of_write_error {added : Bytes} {sink after : Sink} {fault : Fault}
    (step : write added sink = .error fault after) : after.bytes = sink.bytes := by
  rw [write] at step
  split at step
  · cases step
  · cases step
    rfl

end Sink

end Crosscheck
