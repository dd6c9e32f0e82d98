/-
**What regexps mean.**

The pattern of a regexp depends on the flags in force where each part stands. A directive changes
them for what follows in its group, later branches included; a group's own flags end with the group.

* `Meaning.set?`: the members of a class between brackets;
* `Meaning.pattern?`: the pattern of a regexp and the flags after it;
* `Pattern.ofText?`: the pattern of a regexp given as text.
-/
import Crosscheck.Pattern.Reader
import Crosscheck.Pattern.Simplified
import Crosscheck.Unicode.Folding

namespace Crosscheck

/-- The flags in force. -/
structure Mode where
  /-- Letters match in either case. -/
  ignoreCase : Bool
  /-- Line assertions hold at every line. -/
  multiLine : Bool
  /-- The dot matches line ends too. -/
  dotAll : Bool
  /-- Greedy and lazy repetitions change places. -/
  swapGreed : Bool
  /-- Classes hold characters and not bytes. -/
  unicode : Bool
  /-- Lines may end with a carriage return. -/
  crlf : Bool
  deriving DecidableEq

namespace Mode

/-- The flags at the beginning of a regexp: none. -/
def initial : Mode := ⟨false, false, false, false, false, false⟩

/-- The flags with those of a list set and unset. -/
def change (mode : Mode) (flags : Flags) : Mode where
  ignoreCase := (flags.state? .ignoreCase).getD mode.ignoreCase
  multiLine := (flags.state? .multiLine).getD mode.multiLine
  dotAll := (flags.state? .dotAll).getD mode.dotAll
  swapGreed := (flags.state? .swapGreed).getD mode.swapGreed
  unicode := (flags.state? .unicode).getD mode.unicode
  crlf := (flags.state? .crlf).getD mode.crlf

end Mode

namespace Meaning

/-! ### Sets of characters and bytes -/

/-- What classes are made of. -/
def codes (mode : Mode) : Codes := if mode.unicode then .chars else .bytes

/-- The decimal digits of ASCII. -/
def asciiDigits : RangeSet := [⟨0x30, 0x39⟩]

/-- The white space of ASCII. -/
def asciiSpaces : RangeSet := [⟨0x09, 0x0D⟩, ⟨0x20, 0x20⟩]

/-- The word characters of ASCII. -/
def asciiWordChars : RangeSet := [⟨0x30, 0x39⟩, ⟨0x41, 0x5A⟩, ⟨0x5F, 0x5F⟩, ⟨0x61, 0x7A⟩]

/-- The members of a named class of ASCII characters. -/
def asciiClass (name : String) : RangeSet :=
  match name with
  | "alnum" => [⟨0x30, 0x39⟩, ⟨0x41, 0x5A⟩, ⟨0x61, 0x7A⟩]
  | "alpha" => [⟨0x41, 0x5A⟩, ⟨0x61, 0x7A⟩]
  | "ascii" => [⟨0x00, 0x7F⟩]
  | "blank" => [⟨0x09, 0x09⟩, ⟨0x20, 0x20⟩]
  | "cntrl" => [⟨0x00, 0x1F⟩, ⟨0x7F, 0x7F⟩]
  | "digit" => asciiDigits
  | "graph" => [⟨0x21, 0x7E⟩]
  | "lower" => [⟨0x61, 0x7A⟩]
  | "print" => [⟨0x20, 0x7E⟩]
  | "punct" => [⟨0x21, 0x2F⟩, ⟨0x3A, 0x40⟩, ⟨0x5B, 0x60⟩, ⟨0x7B, 0x7E⟩]
  | "space" => asciiSpaces
  | "upper" => [⟨0x41, 0x5A⟩]
  | "word" => asciiWordChars
  | _ => [⟨0x30, 0x39⟩, ⟨0x41, 0x46⟩, ⟨0x61, 0x66⟩]

/-- The set of bytes with the other case of every ASCII letter. -/
def asciiClosure (set : RangeSet) : RangeSet :=
  let upper := RangeSet.intersection set [⟨0x41, 0x5A⟩]
  let lower := RangeSet.intersection set [⟨0x61, 0x7A⟩]
  .ofRanges <| set ++ upper.map (fun range => ⟨range.first + 0x20, range.last + 0x20⟩) ++
    lower.map fun range => ⟨range.first - 0x20, range.last - 0x20⟩

/-- The set with all case variants of its members. -/
def closure (mode : Mode) (set : RangeSet) : RangeSet :=
  if mode.unicode then Unicode.Folding.closure set else asciiClosure set

/-- What is not in the set. -/
def complement (mode : Mode) (set : RangeSet) : RangeSet := .complement (codes mode) set

/-- The set with case variants where case is ignored, and then its complement if it is negated. -/
def foldAndNegate (mode : Mode) (negated : Bool) (set : RangeSet) : RangeSet :=
  let set := if mode.ignoreCase then closure mode set else set
  if negated then complement mode set else set

/-- The members of a class with a short name. -/
def shortClass (mode : Mode) (kind : ShortClass) (negated : Bool) : RangeSet :=
  let set :=
    match kind, mode.unicode with
    | .digit, true => Unicode.decimalDigits
    | .space, true => Unicode.spaces
    | .word, true => Unicode.wordChars
    | .digit, false => asciiDigits
    | .space, false => asciiSpaces
    | .word, false => asciiWordChars
  if negated then complement mode set else set

/-- The characters with a property. Bytes have no properties. -/
def property? (mode : Mode) (name : PropertyName) (negated : Bool) : Option RangeSet :=
  if mode.unicode then
    let set :=
      match name with
      | .plain name => Unicode.Property.named? name
      | .valued name value => Unicode.Property.valued? name value
    set.map (foldAndNegate mode negated)
  else none

/-- The number of a member of a class. Where classes hold bytes it has to be ASCII, or to be written
as a byte. -/
def member? (mode : Mode) (scalar : Scalar) : Option Nat :=
  if mode.unicode || scalar.isHexPair || scalar.char.toNat ≤ 0x7F then some scalar.char.toNat
  else none

/-- The members of an atom of a class. -/
def atom? (mode : Mode) : ClassAtom → Option RangeSet
  | .scalar scalar => do
    let value ← member? mode scalar
    return [⟨value, value⟩]
  | .range first last => do return [⟨← member? mode first, ← member? mode last⟩]
  | .ascii name negated => some (foldAndNegate mode negated (asciiClass name))
  | .short kind negated => some (shortClass mode kind negated)
  | .property name negated => property? mode name negated

/-- The result of an operation on sets. -/
def operate (mode : Mode) : SetOperation → RangeSet → RangeSet → RangeSet
  | .intersection => .intersection
  | .difference => .difference (codes mode)
  | .symmetricDifference => .symmetricDifference (codes mode)

mutual

/-- The members of a class. -/
def set? (mode : Mode) : ClassSet → Option RangeSet
  | .atom atom => (atom? mode atom).map .ofRanges
  | .bracketed negated set =>
    (set? mode set).map fun set => .ofRanges (foldAndNegate mode negated set)
  | .union items => (sets? mode items).map .ofRanges
  | .operation kind left right => do
    let left ← set? mode left
    let right ← set? mode right
    if mode.ignoreCase then return operate mode kind (closure mode left) (closure mode right)
    else return operate mode kind left right

/-- The members of several classes together. -/
def sets? (mode : Mode) : List ClassSet → Option (List Range)
  | [] => some []
  | item :: items => do return (← set? mode item) ++ (← sets? mode items)

end

/-! ### Patterns -/

/-- The pattern of a class. -/
def classPattern (mode : Mode) (set : RangeSet) : Pattern :=
  if mode.unicode then Simplified.charClass set else Simplified.byteClass set

/-- Whether a character matches in either case. -/
def hasVariants (mode : Mode) (char : Char) : Bool :=
  mode.ignoreCase && if mode.unicode then Unicode.Folding.hasVariants char else char.isAlpha

/-- The pattern of a character that stands for itself. -/
def literal (mode : Mode) (scalar : Scalar) : Pattern :=
  let value := scalar.char.toNat
  if !mode.unicode && scalar.isHexPair && 0x7F < value then .literal [value.toUInt8]
  else if hasVariants mode scalar.char then classPattern mode (closure mode [⟨value, value⟩])
  else .literal (String.utf8EncodeChar scalar.char)

/-- The pattern of a dot. -/
def dot (mode : Mode) : Pattern :=
  classPattern mode <| complement mode <|
    if mode.dotAll then []
    else if mode.crlf then [⟨0x0A, 0x0A⟩, ⟨0x0D, 0x0D⟩]
    else [⟨0x0A, 0x0A⟩]

/-- The pattern of a word assertion. -/
def wordLook (mode : Mode) (look : Look) : Pattern :=
  if mode.unicode then .wideLook look else .look look

/-- The pattern of an assertion. -/
def assertion (mode : Mode) : Assertion → Pattern
  | .startLine =>
    .look (if mode.multiLine then if mode.crlf then .startCRLF else .startLF else .start)
  | .endLine => .look (if mode.multiLine then if mode.crlf then .endCRLF else .endLF else .finish)
  | .startText => .look .start
  | .endText => .look .finish
  | .word => wordLook mode .word
  | .wordNegate => wordLook mode .wordNegate
  | .wordStart => wordLook mode .wordStart
  | .wordEnd => wordLook mode .wordEnd
  | .wordStartHalf => wordLook mode .wordStartHalf
  | .wordEndHalf => wordLook mode .wordEndHalf

mutual

/-- The pattern of a regexp and the flags in force after it, from the flags before it. -/
def pattern? (mode : Mode) : Written → Option (Pattern × Mode)
  | .empty => some (.empty, mode)
  | .flags flags => some (.empty, mode.change flags)
  | .literal scalar => some (literal mode scalar, mode)
  | .dot => some (dot mode, mode)
  | .assertion written => some (assertion mode written, mode)
  | .short kind negated => some (classPattern mode (shortClass mode kind negated), mode)
  | .property name negated => do
    return (Simplified.charClass (← property? mode name negated), mode)
  | .bracketed negated set => do
    return (classPattern mode (foldAndNegate mode negated (← set? mode set)), mode)
  | .repetition min max greedy body => do
    let (body, mode) ← pattern? mode body
    return (Simplified.repetition min max (greedy != mode.swapGreed) body, mode)
  | .group (.capturing index) body => do
    let (body, _) ← pattern? mode body
    return (.group index body, mode)
  | .group (.plain flags) body => do
    let (body, _) ← pattern? (mode.change flags) body
    return (body, mode)
  | .concat parts => do
    let (parts, mode) ← patterns? mode parts
    return (Simplified.concat parts, mode)
  | .alternation branches => do
    let (branches, mode) ← patterns? mode branches
    return (Simplified.alternation branches, mode)

/-- The patterns of several regexps one after the other, and the flags in force after them. -/
def patterns? (mode : Mode) : List Written → Option (List Pattern × Mode)
  | [] => some ([], mode)
  | part :: rest => do
    let (pattern, mode) ← pattern? mode part
    let (patterns, mode) ← patterns? mode rest
    return (pattern :: patterns, mode)

end

end Meaning

namespace Pattern

/-- The pattern of a regexp, if the text is one. -/
def ofText? (text : String) : Option Pattern := do
  let written ← Written.read? text
  let (pattern, _) ← Meaning.pattern? .initial written
  return pattern

end Pattern

end Crosscheck
