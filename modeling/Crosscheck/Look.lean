/-
**Look-around assertions.**

An assertion holds or fails at a position of a haystack, by the bytes on both sides of the position.

* `Look.holds`: whether an assertion holds at a position.
-/

namespace Crosscheck

/-- A look-around assertion. -/
inductive Look where
  /-- The beginning of the haystack. -/
  | start
  /-- The end of the haystack. -/
  | finish
  /-- The beginning of a line that ends with a line feed. -/
  | startLF
  /-- The end of a line that ends with a line feed. -/
  | endLF
  /-- The beginning of a line that ends with a line feed, a carriage return or both. -/
  | startCRLF
  /-- The end of a line that ends with a line feed, a carriage return or both. -/
  | endCRLF
  /-- The edge of a word. -/
  | word
  /-- Anywhere but the edge of a word. -/
  | wordNegate
  /-- The beginning of a word. -/
  | wordStart
  /-- The end of a word. -/
  | wordEnd
  /-- Not after a word byte. -/
  | wordStartHalf
  /-- Not before a word byte. -/
  | wordEndHalf
  deriving DecidableEq

namespace Look

/-- The name of an assertion. -/
def name : Look → String
  | start => "Start"
  | finish => "End"
  | startLF => "StartLF"
  | endLF => "EndLF"
  | startCRLF => "StartCRLF"
  | endCRLF => "EndCRLF"
  | word => "Word"
  | wordNegate => "WordNegate"
  | wordStart => "WordStart"
  | wordEnd => "WordEnd"
  | wordStartHalf => "WordStartHalf"
  | wordEndHalf => "WordEndHalf"

/-- The line feed. -/
def lineFeed : UInt8 := 0x0A

/-- The carriage return. -/
def carriageReturn : UInt8 := 0x0D

/-- Whether a byte belongs to words: an ASCII letter, a digit or the underscore. -/
def isWordByte (byte : UInt8) : Bool :=
  byte == 0x5F || (0x30 ≤ byte && byte ≤ 0x39) || (0x61 ≤ byte && byte ≤ 0x7A) ||
    (0x41 ≤ byte && byte ≤ 0x5A)

/-- Whether a word byte stands before the position. -/
def wordBefore (haystack : Array UInt8) (position : Nat) : Bool :=
  0 < position && haystack[position - 1]?.any isWordByte

/-- Whether a word byte stands at the position. -/
def wordAfter (haystack : Array UInt8) (position : Nat) : Bool :=
  position < haystack.size && haystack[position]?.any isWordByte

/-- Whether the assertion holds at a position of the haystack. -/
def holds (look : Look) (haystack : Array UInt8) (position : Nat) : Bool :=
  match look with
  | start => position == 0
  | finish => position == haystack.size
  | startLF => position == 0 || haystack[position - 1]? == some lineFeed
  | endLF => position == haystack.size || haystack[position]? == some lineFeed
  | startCRLF =>
    position == 0 || haystack[position - 1]? == some lineFeed ||
      (haystack[position - 1]? == some carriageReturn &&
        (haystack.size ≤ position || haystack[position]? != some lineFeed))
  | endCRLF =>
    position == haystack.size || haystack[position]? == some carriageReturn ||
      (haystack[position]? == some lineFeed &&
        (position == 0 || haystack[position - 1]? != some carriageReturn))
  | word => wordBefore haystack position != wordAfter haystack position
  | wordNegate => wordBefore haystack position == wordAfter haystack position
  | wordStart => !wordBefore haystack position && wordAfter haystack position
  | wordEnd => wordBefore haystack position && !wordAfter haystack position
  | wordStartHalf => !wordBefore haystack position
  | wordEndHalf => !wordAfter haystack position

end Look

end Crosscheck
