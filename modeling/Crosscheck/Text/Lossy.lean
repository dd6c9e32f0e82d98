/-
**Bytes read as text with losses.**

Bytes that are in no valid character are replaced: a sequence that starts like a character and
breaks off is replaced as a whole, any other byte on its own.

* `Bytes.lossyText`: the text with a replacement character in their place;
* `Literal.ofArgument`: a literal that shows them as escapes.
-/
import Crosscheck.Text.Literal

namespace Crosscheck

namespace Bytes

/-- Whether a byte can stand second in a character that starts with the given byte. -/
def fitsSecond (first second : UInt8) : Bool :=
  if first < 0xC2 || 0xF4 < first then false
  else if first == 0xE0 then 0xA0 ≤ second && second ≤ 0xBF
  else if first == 0xED then 0x80 ≤ second && second ≤ 0x9F
  else if first == 0xF0 then 0x90 ≤ second && second ≤ 0xBF
  else if first == 0xF4 then 0x80 ≤ second && second ≤ 0x8F
  else 0x80 ≤ second && second ≤ 0xBF

/-- Whether a byte can stand third or fourth in a character. -/
def fitsLater (byte : UInt8) : Bool := 0x80 ≤ byte && byte ≤ 0xBF

/-- How many bytes at the front are replaced together, when no character stands there. -/
def brokenLength : Bytes → Nat
  | first :: second :: rest =>
    if !fitsSecond first second then 1
    else if first < 0xF0 then 2
    else
      match rest with
      | third :: _ => if fitsLater third then 3 else 2
      | [] => 2
  | _ => 1

theorem brokenLength_pos (bytes : Bytes) : 0 < brokenLength bytes := by
  unfold brokenLength
  split
  · split
    · decide
    · split
      · decide
      · split
        · split <;> decide
        · decide
  · decide

/-- What stands in the place of bytes that are in no character. -/
def replacement : Char := '\ufffd'

/-- The text of bytes, with a replacement character for what is in no character. -/
def lossyText : Bytes → String
  | [] => ""
  | byte :: rest =>
    match firstChar? (byte :: rest) with
    | some char => char.toString ++ lossyText (rest.drop (char.utf8Size - 1))
    | none =>
      replacement.toString ++ lossyText ((byte :: rest).drop (brokenLength (byte :: rest)))
termination_by bytes => bytes.length
decreasing_by
  · rw [List.length_drop, List.length_cons]
    omega
  · have := brokenLength_pos (byte :: rest)
    rw [List.length_drop, List.length_cons]
    omega

end Bytes

namespace Literal

/-- A byte by its number, in two upper case hexadecimal digits. -/
def upperNumberedByte (byte : UInt8) : String :=
  "\\x" ++ .ofList
    [(Nat.digitChar (byte.toNat / 16)).toUpper, (Nat.digitChar (byte.toNat % 16)).toUpper]

/-- The inside of the literal of an argument. -/
def argumentInside : Bytes → String
  | [] => ""
  | byte :: rest =>
    match Bytes.firstChar? (byte :: rest) with
    | some char => textChar char ++ argumentInside (rest.drop (char.utf8Size - 1))
    | none => upperNumberedByte byte ++ argumentInside rest
termination_by bytes => bytes.length
decreasing_by
  · simp only [List.length_drop, List.length_cons]
    omega
  · exact Nat.lt_succ_self _

/-- An argument of a command line as a literal. -/
def ofArgument (bytes : Bytes) : String := "\"" ++ argumentInside bytes ++ "\""

end Literal

end Crosscheck
