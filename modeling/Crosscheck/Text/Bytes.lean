/-
**Byte strings.**

Haystacks, quoted strings and fixture lines are strings of bytes that need not be valid text. This
module holds the type, its relation to text, and the two readings of text in it:

* `Bytes.ofText` and `Bytes.text?`: the bytes of a text, and the text of bytes that are valid;
* `Bytes.firstChar?`: the character at the front, when a valid one stands there;
* `Bytes.contains`: the substring test.
-/

namespace Crosscheck

/-- A string of bytes. -/
abbrev Bytes := List UInt8

namespace Bytes

/-- The UTF-8 bytes of a text. -/
def ofText (text : String) : Bytes := text.toByteArray.data.toList

/-- The text that the bytes encode, when they are valid UTF-8. -/
def text? (bytes : Bytes) : Option String := String.fromUTF8? ⟨bytes.toArray⟩

/-- The character that the bytes start with, when they start with a valid encoding of one. Four
bytes are enough to tell. -/
def firstChar? (bytes : Bytes) : Option Char :=
  ByteArray.utf8DecodeChar? ⟨(bytes.take 4).toArray⟩ 0

/-- Whether the second byte string occurs in the first. -/
def contains (bytes part : Bytes) : Bool :=
  match bytes with
  | [] => part.isEmpty
  | byte :: rest => part.isPrefixOf (byte :: rest) || contains rest part

/-- Reading back the bytes of a text gives the text. -/
theorem text?_ofText (text : String) : text? (ofText text) = some text := by
  have valid : (⟨(ofText text).toArray⟩ : ByteArray).IsValidUTF8 := by
    simpa only [ofText, Array.toArray_toList] using text.isValidUTF8
  simp only [text?, String.fromUTF8?, dif_pos valid]
  rfl

end Bytes

end Crosscheck
