/-
**Quoted strings.**

A quoted string keeps any byte string on one line: it stands between double quotes, a backslash and
a double quote follow a backslash, and a line feed is written as a backslash and the letter n. Every
other byte stands for itself.

* `Quoted.encode`: the quoted form, refused when it is longer than `quotedCapacity`;
* `Quoted.decode`: the byte string of a quoted form, or what is wrong with it.
-/
import Crosscheck.Violation

namespace Crosscheck

namespace Quoted

/-- The double quote. -/
def quote : UInt8 := 0x22

/-- The backslash. -/
def backslash : UInt8 := 0x5C

/-- The line feed. -/
def lineFeed : UInt8 := 0x0A

/-- The letter that stands for a line feed after a backslash. -/
def letterN : UInt8 := 0x6E

/-- Why a byte string is not a quoted form. -/
inductive Defect where
  /-- It does not stand between two double quotes. -/
  | unwrapped
  /-- A backslash is followed by a byte that has no meaning there. -/
  | unknownEscape (byte : UInt8)
  /-- A backslash is the last byte inside the quotes. -/
  | unterminated
  /-- A double quote inside the quotes follows no backslash. -/
  | bareQuote
  deriving DecidableEq

/-- The written form of one byte. -/
def encodeByte (byte : UInt8) : Bytes :=
  if byte = backslash ∨ byte = quote then [backslash, byte]
  else if byte = lineFeed then [backslash, letterN]
  else [byte]

/-- The written form of all bytes, when it takes at most `room` bytes. -/
def encodeWithin (room : Nat) : Bytes → Option Bytes
  | [] => some []
  | byte :: rest =>
    let written := encodeByte byte
    if room < written.length then none
    else (encodeWithin (room - written.length) rest).map (written ++ ·)

/-- The quoted form of a byte string. -/
def encode (bytes : Bytes) : Except Violation Bytes :=
  match encodeWithin (quotedCapacity - 2) bytes with
  | some written => .ok (quote :: (written ++ [quote]))
  | none => .error (.quotedTooLong bytes)

/-- What stands between the quotes of a quoted form. -/
def inside? : Bytes → Option Bytes
  | [] => none
  | byte :: rest =>
    if byte = quote ∧ rest.getLast? = some quote then some rest.dropLast else none

/-- Reads what stands between the quotes. -/
def decodeInside : Bytes → Except Defect Bytes
  | [] => .ok []
  | byte :: rest =>
    if byte = backslash then
      match rest with
      | [] => .error .unterminated
      | escaped :: rest =>
        if escaped = backslash ∨ escaped = quote then return escaped :: (← decodeInside rest)
        else if escaped = letterN then return lineFeed :: (← decodeInside rest)
        else .error (.unknownEscape escaped)
    else if byte = quote then .error .bareQuote
    else return byte :: (← decodeInside rest)

/-- Reads a quoted form. -/
def decode (quoted : Bytes) : Except Defect Bytes :=
  match inside? quoted with
  | none => .error .unwrapped
  | some inner => decodeInside inner

/-- A byte after a backslash as a message shows it, taken as the character of that number. -/
def escapedByteText (byte : UInt8) : String :=
  if byte == 0x09 then "\\t"
  else if byte == 0x0A then "\\n"
  else if byte == 0x0D then "\\r"
  else if byte == 0x22 then "\\\""
  else if byte == 0x27 then "\\'"
  else if byte == 0x5C then "\\\\"
  else if 0x20 ≤ byte && byte < 0x7F then (Char.ofNat byte.toNat).toString
  else Literal.numbered (Char.ofNat byte.toNat)

/-- What is reported about a byte string that is not a quoted form. -/
def Defect.message (quoted : Bytes) : Defect → String
  | unwrapped => s!"{Literal.ofBytes quoted} is not wrapped in double quotes"
  | unknownEscape byte =>
    s!"unknown escape sequence '\\{escapedByteText byte}' in {Literal.ofBytes quoted}"
  | unterminated => s!"unterminated escape sequence in {Literal.ofBytes quoted}"
  | bareQuote => s!"unescaped double quote in {Literal.ofBytes quoted}"

end Quoted

end Crosscheck
