/-
**Regexps as they are written.**

The tree of a regexp with everything its text says: flags, classes with their set operations,
escapes. What it means depends on the flags in force and is worked out elsewhere.

* `Written`: the tree;
* `Written.nesting`: how deep it is nested, which is limited.
-/

namespace Crosscheck

/-- A flag of a regexp. -/
inductive Flag where
  /-- Letters match in either case. -/
  | ignoreCase
  /-- Line assertions hold at every line. -/
  | multiLine
  /-- The dot matches line ends too. -/
  | dotAll
  /-- Greedy and lazy repetitions change places. -/
  | swapGreed
  /-- Classes hold characters and not bytes. -/
  | unicode
  /-- Lines may end with a carriage return. -/
  | crlf
  /-- Blanks and comments do not count. -/
  | ignoreBlanks
  deriving DecidableEq

/-- A list of flags: those that are set and those that are unset. -/
structure Flags where
  /-- The flags before the minus sign. -/
  set : List Flag
  /-- The flags after the minus sign. -/
  unset : List Flag
  deriving DecidableEq

namespace Flags

/-- No flags. -/
def none : Flags := ⟨[], []⟩

/-- What the list says about a flag, if anything. -/
def state? (flags : Flags) (flag : Flag) : Option Bool :=
  if flags.set.contains flag then some true
  else if flags.unset.contains flag then some false
  else Option.none

end Flags

/-- A character that stands for itself, or a byte. -/
structure Scalar where
  /-- The character. -/
  char : Char
  /-- Whether it was written as a hexadecimal escape of two digits, which may mean a byte. -/
  isHexPair : Bool
  deriving DecidableEq

/-- An assertion as it is written. -/
inductive Assertion where
  /-- A circumflex. -/
  | startLine
  /-- A dollar sign. -/
  | endLine
  /-- The beginning of the haystack. -/
  | startText
  /-- The end of the haystack. -/
  | endText
  /-- The edge of a word. -/
  | word
  /-- Anywhere but the edge of a word. -/
  | wordNegate
  /-- The beginning of a word. -/
  | wordStart
  /-- The end of a word. -/
  | wordEnd
  /-- Not after a word character. -/
  | wordStartHalf
  /-- Not before a word character. -/
  | wordEndHalf
  deriving DecidableEq

/-- A class with a short name. -/
inductive ShortClass where
  /-- Decimal digits. -/
  | digit
  /-- White space. -/
  | space
  /-- Word characters. -/
  | word
  deriving DecidableEq

/-- A property of characters as it is written. -/
inductive PropertyName where
  /-- A property without a value. -/
  | plain (name : String)
  /-- A property with a value. -/
  | valued (name value : String)
  deriving DecidableEq

/-- What may stand for one character, in a class or outside. -/
inductive ClassAtom where
  /-- A character. -/
  | scalar (scalar : Scalar)
  /-- A range of characters. -/
  | range (first last : Scalar)
  /-- A named class of ASCII characters. -/
  | ascii (name : String) (negated : Bool)
  /-- A class with a short name. -/
  | short (kind : ShortClass) (negated : Bool)
  /-- The characters with a property. -/
  | property (name : PropertyName) (negated : Bool)
  deriving DecidableEq

/-- An operation on two sets. -/
inductive SetOperation where
  /-- What is in both. -/
  | intersection
  /-- What is in the first and not in the second. -/
  | difference
  /-- What is in exactly one. -/
  | symmetricDifference
  deriving DecidableEq

/-- A class between brackets. -/
inductive ClassSet where
  /-- One atom. -/
  | atom (atom : ClassAtom)
  /-- A class between brackets of its own. -/
  | bracketed (negated : Bool) (set : ClassSet)
  /-- Several items side by side, or none. -/
  | union (items : List ClassSet)
  /-- An operation on two sets. -/
  | operation (kind : SetOperation) (left right : ClassSet)

/-- A group. -/
inductive GroupKind where
  /-- A group that captures, with its index. -/
  | capturing (index : Nat)
  /-- A group that does not, with the flags it sets. -/
  | plain (flags : Flags)
  deriving DecidableEq

/-- A regexp as it is written. -/
inductive Written where
  /-- Nothing. -/
  | empty
  /-- Flags for what follows in the same group. -/
  | flags (flags : Flags)
  /-- A character. -/
  | literal (scalar : Scalar)
  /-- A dot. -/
  | dot
  /-- An assertion. -/
  | assertion (assertion : Assertion)
  /-- A class with a short name. -/
  | short (kind : ShortClass) (negated : Bool)
  /-- The characters with a property. -/
  | property (name : PropertyName) (negated : Bool)
  /-- A class between brackets. -/
  | bracketed (negated : Bool) (set : ClassSet)
  /-- A repetition. -/
  | repetition (min : Nat) (max : Option Nat) (greedy : Bool) (body : Written)
  /-- A group. -/
  | group (kind : GroupKind) (body : Written)
  /-- Parts one after the other, two at least. -/
  | concat (parts : List Written)
  /-- Branches, two at least. -/
  | alternation (branches : List Written)

namespace ClassSet

/-- The items of a union as one set; a single item stands for itself. -/
def ofItems : List ClassSet → ClassSet
  | [item] => item
  | items => union items

mutual

/-- How deep a class is nested. -/
def nesting : ClassSet → Nat
  | atom _ => 0
  | bracketed _ set => nesting set + 1
  | union [] => 0
  | union (item :: items) => max (nesting item) (nestings items) + 1
  | operation _ left right => max (nesting left) (nesting right) + 1

/-- How deep the deepest of several classes is nested. -/
def nestings : List ClassSet → Nat
  | [] => 0
  | item :: items => max (nesting item) (nestings items)

end

end ClassSet

namespace Written

/-- Parts one after the other; a single part stands for itself. -/
def ofParts : List Written → Written
  | [] => empty
  | [part] => part
  | parts => concat parts

mutual

/-- How deep a regexp is nested. -/
def nesting : Written → Nat
  | bracketed _ set => set.nesting + 1
  | repetition _ _ _ body => nesting body + 1
  | group _ body => nesting body + 1
  | concat parts => nestings parts + 1
  | alternation branches => nestings branches + 1
  | _ => 0

/-- How deep the deepest of several regexps is nested. -/
def nestings : List Written → Nat
  | [] => 0
  | part :: rest => max (nesting part) (nestings rest)

end

/-- How deep a regexp may be nested. -/
def nestLimit : Nat := 250

end Written

end Crosscheck
