/-
**Numbers in text.**

A number is written with decimal digits, and may have a plus sign before them.

* `Number.read`: the number that characters spell, or the first thing that is wrong with them.
-/

namespace Crosscheck

namespace Number

/-- The greatest number that can be read. -/
def greatest : Nat := UInt64.size - 1

/-- Why characters spell no number. -/
inductive Defect where
  /-- There is no character. -/
  | empty
  /-- A character is not a digit. -/
  | notDigit
  /-- The number is too large. -/
  | tooLarge
  deriving DecidableEq

namespace Defect

/-- The text of a defect. -/
def message : Defect → String
  | empty => "cannot parse integer from empty string"
  | notDigit => "invalid digit found in string"
  | tooLarge => "number too large to fit in target type"

end Defect

/-- The number that digits spell after the ones that spelled `value`. -/
def readDigits (value : Nat) : List Char → Except Defect Nat
  | [] => .ok value
  | char :: rest =>
    if char.isDigit then
      let value := value * 10 + (char.toNat - '0'.toNat)
      if value ≤ greatest then readDigits value rest else .error .tooLarge
    else .error .notDigit

/-- The number that characters spell. -/
def read : List Char → Except Defect Nat
  | [] => .error .empty
  | ['+'] => .error .notDigit
  | '+' :: digits => readDigits 0 digits
  | digits => readDigits 0 digits

end Number

end Crosscheck
