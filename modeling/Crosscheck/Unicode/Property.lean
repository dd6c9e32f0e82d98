/-
**Properties of characters by name.**

Resolves the name of a property to the set of its characters. Names are compared without regard to
case, blanks, hyphens and underscores, and a leading `is` does not count.

* `Property.named?`: a property that goes by one name (`L`, `Greek`, `White_Space`, `any`);
* `Property.valued?`: a value of a property that has values (`gc=Lu`, `sc=Greek`, `age=3.0`);
* `decimalDigits`, `spaces`, `wordChars`: the sets behind the short class names;
* `isAlphabetic`, `isAlphanumeric`, `isSpace`, `isPrintable`, `extendsGrapheme`: tests of a
  character.
-/
import Crosscheck.Unicode.Category
import Crosscheck.Unicode.Script
import Crosscheck.Unicode.ScriptExtension
import Crosscheck.Unicode.Binary
import Crosscheck.Unicode.Age
import Crosscheck.Unicode.Break
import Crosscheck.Unicode.Newest

namespace Crosscheck.Unicode

namespace Property

/-- The form in which names are compared: a leading `is` goes first, then all that is no ASCII
character, and the blanks, hyphens and underscores. -/
def normalized (name : String) : String :=
  let lower := name.toList.map Char.toLower
  let kept := fun chars : List Char => chars.filter fun char =>
    char.toNat < 128 && char != ' ' && char != '_' && char != '-'
  match lower with
  | 'i' :: 's' :: rest =>
    -- `isc` is the short name of another property and not a prefixed `c`.
    if kept rest == ['c'] then "isc" else .ofList (kept rest)
  | _ => .ofList (kept lower)

/-- The categories that together make up a group of categories. -/
def categoryGroups : List (List String × List String) := [
  (["l", "letter"], ["lu", "ll", "lt", "lm", "lo"]),
  (["lc", "casedletter"], ["lu", "ll", "lt"]),
  (["m", "mark", "combiningmark"], ["mn", "mc", "me"]),
  (["n", "number"], ["nd", "nl", "no"]),
  (["p", "punctuation", "punct"], ["pc", "pd", "ps", "pe", "pi", "pf", "po"]),
  (["s", "symbol"], ["sm", "sc", "sk", "so"]),
  (["z", "separator"], ["zs", "zl", "zp"])]

/-- The union of the categories with the given names. -/
def categoryUnion (names : List String) : RangeSet :=
  .ofRanges (names.flatMap fun name => (Entry.find? categories name).getD [])

/-- The characters that no category but *unassigned* holds. -/
def unassigned : RangeSet :=
  .complement .chars (.ofRanges (categories.flatMap Entry.set))

/-- The surrogates. They are no characters, but the group of their category runs across them. -/
def surrogates : RangeSet := [⟨0xD800, 0xDFFF⟩]

/-- The set of a general category or group of categories, by its normalized name. -/
def category? (name : String) : Option RangeSet :=
  if name == "any" then some (.complement .chars [])
  else if name == "assigned" then some (.complement .chars unassigned)
  else if name == "ascii" then some [⟨0, 0x7F⟩]
  else if name == "cn" || name == "unassigned" then some unassigned
  else if name == "c" || name == "other" then
    some (.ofRanges (unassigned ++ surrogates ++ categoryUnion ["cc", "cf", "co"]))
  else match categoryGroups.find? (·.1.contains name) with
    | some (_, members) => some (categoryUnion members)
    | none => Entry.find? categories name

/-- The set of a property that is named alone. The short names `cf`, `sc` and `lc` mean categories;
otherwise a binary property comes first, then a category, then a script. -/
def named? (name : String) : Option RangeSet :=
  let name := normalized name
  if name == "cf" || name == "sc" || name == "lc" then category? name
  else (Entry.find? binaryProperties name).or ((category? name).or (Entry.find? scripts name))

/-- The characters that a version of the character set has: its own and those of the older ones. -/
def age? (version : String) : Option RangeSet :=
  (ages.findIdx? (·.names.contains version)).map fun index =>
    .ofRanges ((ages.take (index + 1)).flatMap Entry.set)

/-- The set of a property that is named together with a value. -/
def valued? (name value : String) : Option RangeSet :=
  let value := normalized value
  match normalized name with
  | "gc" | "generalcategory" => category? value
  | "sc" | "script" => Entry.find? scripts value
  | "scx" | "scriptextensions" => Entry.find? scriptExtensions value
  | "age" => age? value
  | "gcb" | "graphemeclusterbreak" => Entry.find? graphemeBreaks value
  | "wb" | "wordbreak" => Entry.find? wordBreaks value
  | "sb" | "sentencebreak" => Entry.find? sentenceBreaks value
  | _ => none

end Property

/-- The decimal digits. -/
def decimalDigits : RangeSet := Property.categoryUnion ["nd"]

/-- The characters that count as white space. -/
def spaces : RangeSet := (Property.named? "White_Space").getD []

/-- The alphabetic characters. -/
def alphabetic : RangeSet := (Property.named? "Alphabetic").getD []

/-- The characters of words: letters, marks, decimal digits, connectors and joiners. -/
def wordChars : RangeSet :=
  .ofRanges (alphabetic ++ Property.categoryUnion ["mn", "mc", "me", "nd", "pc"] ++
    (Property.named? "Join_Control").getD [])

/-- Whether a character is alphabetic. -/
def isAlphabetic (char : Char) : Bool :=
  if char.toNat < 128 then char.isAlpha
  else alphabetic.contains char.toNat || newestLetters.contains char.toNat

/-- The characters that are numbers. -/
def numbers : RangeSet := .ofRanges (Property.categoryUnion ["nd", "nl", "no"] ++ newestNumbers)

/-- Whether a character is alphabetic or a number. -/
def isAlphanumeric (char : Char) : Bool :=
  if char.toNat < 128 then char.isAlphanum
  else isAlphabetic char || numbers.contains char.toNat

/-- Whether a character is white space. -/
def isSpace (char : Char) : Bool := spaces.contains char.toNat

/-- The characters that stand for themselves on a page: letters, marks, numbers, punctuation,
symbols and the blank, but for those that a page leaves out. -/
def printable : RangeSet :=
  .difference .chars
    (.ofRanges (⟨0x20, 0x20⟩ :: newest ++ ["l", "m", "n", "p", "s"].flatMap fun name =>
      (Property.category? name).getD []))
    ((Property.named? "Default_Ignorable_Code_Point").getD [])

/-- Whether a character stands for itself on a page. -/
def isPrintable (char : Char) : Bool := printable.contains char.toNat

/-- The characters that join the one before them. The two halfwidth sound marks would, but have a
width of their own. -/
def graphemeExtenders : RangeSet :=
  .difference .chars (.ofRanges ((Property.named? "Grapheme_Extend").getD [] ++ newestMarks))
    [⟨0xFF9E, 0xFF9F⟩]

/-- Whether a character joins the one before it. -/
def extendsGrapheme (char : Char) : Bool := graphemeExtenders.contains char.toNat

end Crosscheck.Unicode
