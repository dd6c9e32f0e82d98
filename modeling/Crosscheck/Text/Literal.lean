/-
**Text and bytes shown as literals.**

Messages show a text or a byte string between double quotes, with whatever a reader could not see
written as an escape.

* `Literal.ofText`: a text; a single quote stands for itself;
* `Literal.ofBytes`: a byte string; a byte that belongs to no character is a hexadecimal escape;
* `Literal.ofByte`: one byte, written for the inside of a literal.
-/
import Crosscheck.Text.Bytes
import Crosscheck.Unicode.Property

namespace Crosscheck

namespace Literal

/-- A number in lower case hexadecimal. -/
def hexadecimal (value : Nat) : String := .ofList (Nat.toDigits 16 value)

/-- The escape of a character by its number. -/
def numbered (char : Char) : String := "\\u\x7b" ++ hexadecimal char.toNat ++ "\x7d"

/-- A character that is not ASCII: as it is when it stands for itself on a page. -/
def wideChar (char : Char) : String :=
  if Unicode.extendsGrapheme char || !Unicode.isPrintable char then numbered char
  else char.toString

/-- A character of a text. -/
def textChar (char : Char) : String :=
  match char with
  | '\x00' => "\\0"
  | '\t' => "\\t"
  | '\n' => "\\n"
  | '\r' => "\\r"
  | '"' => "\\\""
  | '\\' => "\\\\"
  | _ =>
    if 0x20 ≤ char.toNat && char.toNat < 0x7F then char.toString
    else if char.toNat < 0x80 then numbered char
    else wideChar char

/-- A text as a literal. -/
def ofText (text : String) : String :=
  "\"" ++ String.join (text.toList.map textChar) ++ "\""

/-- A byte by its number, in two hexadecimal digits. -/
def numberedByte (byte : UInt8) : String :=
  "\\x" ++ .ofList [Nat.digitChar (byte.toNat / 16), Nat.digitChar (byte.toNat % 16)]

/-- A byte inside a literal: printable ASCII as it is, quotes and backslashes behind a backslash,
and all else as an escape. -/
def ofByte (byte : UInt8) : String :=
  if byte == 0x09 then "\\t"
  else if byte == 0x0A then "\\n"
  else if byte == 0x0D then "\\r"
  else if byte == 0x22 then "\\\""
  else if byte == 0x27 then "\\'"
  else if byte == 0x5C then "\\\\"
  else if 0x20 ≤ byte && byte < 0x7F then (Char.ofNat byte.toNat).toString
  else numberedByte byte

/-- A character of a byte string. -/
def bytesChar (char : Char) : String :=
  if char == '\x00' then "\\0"
  else if char.toNat < 0x80 then ofByte char.toNat.toUInt8
  else wideChar char

/-- The inside of the literal of a byte string. Bytes that are in no character stand alone. -/
def bytesInside : Bytes → String
  | [] => ""
  | byte :: rest =>
    match Bytes.firstChar? (byte :: rest) with
    | some char => bytesChar char ++ bytesInside (rest.drop (char.utf8Size - 1))
    | none => numberedByte byte ++ bytesInside rest
termination_by bytes => bytes.length
decreasing_by
  · simp only [List.length_drop, List.length_cons]
    omega
  · exact Nat.lt_succ_self _

/-- A byte string as a literal. -/
def ofBytes (bytes : Bytes) : String := "\"" ++ bytesInside bytes ++ "\""

end Literal

end Crosscheck
