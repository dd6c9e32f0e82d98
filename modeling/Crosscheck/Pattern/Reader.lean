/-
**Reading regexps.**

Reads the text of a regexp into its tree, or refuses it. Where blanks are ignored, they and
comments are passed over nearly everywhere.

* `Reader.escape?`: what a backslash starts;
* `Reader.bracketed?`: a class between brackets;
* `Written.read?`: a whole regexp.

Every function takes the characters from its first one on, and returns what is left of them.
-/
import Crosscheck.Pattern.Written
import Crosscheck.Unicode.Property

namespace Crosscheck

namespace Reader

/-- The characters that are still to be read. -/
abbrev Chars := List Char

/-! ### Blanks -/

/-- Passes over blanks and comments, inside a comment or outside. -/
def skipFrom : Bool → Chars → Chars
  | _, [] => []
  | true, char :: rest => skipFrom (char != '\n') rest
  | false, char :: rest =>
    if Unicode.isSpace char then skipFrom false rest
    else if char = '#' then skipFrom true rest
    else char :: rest

/-- Passes over blanks and comments where they are ignored. -/
def skip (blanks : Bool) (chars : Chars) : Chars := if blanks then skipFrom false chars else chars

/-- Passes over one character, and over what is ignored after it. -/
def next (blanks : Bool) (chars : Chars) : Chars := skip blanks chars.tail

/-- The next character that is no blank, where blanks are ignored. Once a comment has begun, its
first character that is no blank counts. -/
def peekFrom : Bool → Chars → Option Char
  | _, [] => none
  | inComment, char :: rest =>
    if Unicode.isSpace char then peekFrom inComment rest
    else if !inComment && char = '#' then peekFrom true rest
    else some char

/-- The character after the current one, not counting what is ignored. -/
def peek? (blanks : Bool) (chars : Chars) : Option Char :=
  if blanks then (peekFrom false chars.tail).or chars.tail.head? else chars.tail.head?

/-! ### Numbers -/

/-- Reads digits, and passes over what is ignored after each. -/
def digits (blanks : Bool) : Nat → Chars → List Char × Chars
  | 0, chars => ([], chars)
  | fuel + 1, chars =>
    match chars with
    | char :: _ =>
      if char.isDigit then
        let (more, rest) := digits blanks fuel (next blanks chars)
        (char :: more, rest)
      else ([], chars)
    | [] => ([], [])

/-- The greatest count of a repetition. -/
def maxCount : Nat := UInt32.size - 1

/-- Reads a count, with blanks around it. -/
def count? (blanks : Bool) (chars : Chars) : Option (Nat × Chars) :=
  let chars := chars.dropWhile Unicode.isSpace
  let (digits, chars) := digits blanks chars.length chars
  let chars := skip blanks (chars.dropWhile Unicode.isSpace)
  let value := Nat.ofDigitChars 10 digits 0
  if digits.isEmpty || maxCount < value then none else some (value, chars)

/-- The value of a hexadecimal digit. -/
def hexDigit? (char : Char) : Option Nat :=
  if char.isDigit then some (char.toNat - 0x30)
  else if 'a' ≤ char ∧ char ≤ 'f' then some (char.toNat - 0x61 + 10)
  else if 'A' ≤ char ∧ char ≤ 'F' then some (char.toNat - 0x41 + 10)
  else none

/-- The character with a number, if there is one. -/
def scalar? (isHexPair : Bool) (value : Nat) : Option Scalar :=
  if value.isValidChar then some ⟨Char.ofNat value, isHexPair⟩ else none

/-- Reads the given number of hexadecimal digits. -/
def hexDigits? (blanks : Bool) (value : Nat) : Nat → Chars → Option (Nat × Chars)
  | 0, chars => some (value, chars)
  | count + 1, chars => do
    let char ← chars.head?
    let digit ← hexDigit? char
    hexDigits? blanks (value * 16 + digit) count (next blanks chars)

/-- Reads hexadecimal digits up to a closing brace. -/
def hexBraced? (blanks : Bool) (value : Nat) (some : Bool) : Nat → Chars → Option (Nat × Chars)
  | 0, _ => none
  | fuel + 1, chars => do
    let char ← chars.head?
    if char = '}' then if some then return (value, next blanks chars) else none
    else
      let digit ← hexDigit? char
      hexBraced? blanks (value * 16 + digit) true fuel (next blanks chars)

/-- Reads a hexadecimal escape from its letter on. -/
def hex? (blanks : Bool) (chars : Chars) : Option (Scalar × Chars) := do
  let letter ← chars.head?
  let chars := next blanks chars
  if chars.head? = some '{' then
    let chars := next blanks chars
    let (value, chars) ← hexBraced? blanks 0 false (chars.length + 1) chars
    return (← scalar? false value, chars)
  else
    let count := if letter = 'x' then 2 else if letter = 'u' then 4 else 8
    let (value, chars) ← hexDigits? blanks 0 count chars
    return (← scalar? (letter = 'x') value, chars)

/-! ### Escapes -/

/-- What may stand for one position of a regexp. -/
inductive Primitive where
  /-- A character. -/
  | scalar (scalar : Scalar)
  /-- An assertion. -/
  | assertion (assertion : Assertion)
  /-- A class with a short name. -/
  | short (kind : ShortClass) (negated : Bool)
  /-- The characters with a property. -/
  | property (name : PropertyName) (negated : Bool)

/-- Reads characters up to a closing brace, which is left standing. -/
def braced? (blanks : Bool) : Nat → Chars → Option (List Char × Chars)
  | 0, _ => none
  | fuel + 1, chars => do
    let char ← chars.head?
    if char = '}' then return ([], chars)
    else
      let (more, rest) ← braced? blanks fuel (next blanks chars)
      return (char :: more, rest)

/-- The parts of a text before and after the first occurrence of a separator. -/
def splitAt? (separator : List Char) : List Char → Option (List Char × List Char)
  | [] => none
  | char :: rest =>
    if separator.isPrefixOf (char :: rest) then
      some ([], (char :: rest).drop separator.length)
    else (splitAt? separator rest).map fun (before, after) => (char :: before, after)

/-- The property that the text between braces names, and whether the text asks for the characters
without it. -/
def propertyName (name : List Char) : PropertyName × Bool :=
  match splitAt? ['!', '='] name with
  | some (property, value) => (.valued (.ofList property) (.ofList value), true)
  | none =>
    match (splitAt? [':'] name).or (splitAt? ['='] name) with
    | some (property, value) => (.valued (.ofList property) (.ofList value), false)
    | none => (.plain (.ofList name), false)

/-- Reads a property from its letter on. -/
def property? (blanks : Bool) (chars : Chars) : Option (Primitive × Chars) := do
  let negated := chars.head? == some 'P'
  let chars := next blanks chars
  let char ← chars.head?
  if char = '{' then
    let chars := next blanks chars
    let (name, chars) ← braced? blanks (chars.length + 1) chars
    let (name, excluded) := propertyName name
    return (.property name (negated != excluded), chars.tail)
  else if char = '\\' then none
  else return (.property (.plain char.toString) negated, next blanks chars)

/-- Whether a character may stand in the name of a word assertion. -/
def isWordNameChar (char : Char) : Bool := char.isAlpha || char = '-'

/-- Reads the name of a word assertion. -/
def wordName (blanks : Bool) : Nat → Chars → List Char × Chars
  | 0, chars => ([], chars)
  | fuel + 1, chars =>
    match chars with
    | char :: _ =>
      if isWordNameChar char then
        let (more, rest) := wordName blanks fuel (next blanks chars)
        (char :: more, rest)
      else ([], chars)
    | [] => ([], [])

/-- Reads what follows the escape of a word edge. A brace and a name make it a special one; a brace
before anything else starts a repetition and is left standing. -/
def wordEdge? (blanks : Bool) (chars : Chars) : Option (Assertion × Chars) :=
  if chars.head? ≠ some '{' then some (.word, chars)
  else
    let inside := next blanks chars
    match inside with
    | [] => none
    | char :: _ =>
      if !isWordNameChar char then some (.word, chars)
      else
        let (name, rest) := wordName blanks inside.length inside
        if rest.head? ≠ some '}' then none
        else
          let name := String.ofList name
          if name == "start" then some (.wordStart, rest.tail)
          else if name == "end" then some (.wordEnd, rest.tail)
          else if name == "start-half" then some (.wordStartHalf, rest.tail)
          else if name == "end-half" then some (.wordEndHalf, rest.tail)
          else none

/-- The character that an escaped letter stands for. -/
def controlChar? (letter : Char) : Option Char :=
  match letter with
  | 'a' => some '\x07'
  | 'f' => some '\x0C'
  | 't' => some '\t'
  | 'n' => some '\n'
  | 'r' => some '\r'
  | 'v' => some '\x0B'
  | _ => none

/-- The assertion that an escaped character stands for. -/
def escapedAssertion? (char : Char) : Option Assertion :=
  match char with
  | 'A' => some .startText
  | 'z' => some .endText
  | 'B' => some .wordNegate
  | '<' => some .wordStart
  | '>' => some .wordEnd
  | _ => none

/-- Whether a backslash before the character leaves it as it is. -/
def isEscapable (char : Char) : Bool :=
  char.toNat < 0x80 && !char.isAlphanum && char != '<' && char != '>'

/-- Reads an escape from its backslash on. -/
def escape? (blanks : Bool) (chars : Chars) : Option (Primitive × Chars) := do
  let chars := chars.tail
  let char ← chars.head?
  match char with
  | 'x' | 'u' | 'U' =>
    let (scalar, rest) ← hex? blanks chars
    return (.scalar scalar, rest)
  | 'p' | 'P' => property? blanks chars
  | 'd' => return (.short .digit false, chars.tail)
  | 'D' => return (.short .digit true, chars.tail)
  | 's' => return (.short .space false, chars.tail)
  | 'S' => return (.short .space true, chars.tail)
  | 'w' => return (.short .word false, chars.tail)
  | 'W' => return (.short .word true, chars.tail)
  | 'b' =>
    let (assertion, rest) ← wordEdge? blanks chars.tail
    return (.assertion assertion, rest)
  | _ =>
    if isEscapable char then return (.scalar ⟨char, false⟩, chars.tail)
    else
      match controlChar? char, escapedAssertion? char with
      | some control, _ => return (.scalar ⟨control, false⟩, chars.tail)
      | none, some assertion => return (.assertion assertion, chars.tail)
      | none, none => none

/-! ### Classes between brackets -/

/-- The names of the classes of ASCII characters. -/
def asciiNames : List String :=
  ["alnum", "alpha", "ascii", "blank", "cntrl", "digit", "graph", "lower", "print", "punct",
    "space", "upper", "word", "xdigit"]

/-- Reads a named class of ASCII characters from its bracket on, if there is one. -/
def asciiClass? (chars : Chars) : Option (ClassSet × Chars) :=
  match chars with
  | '[' :: ':' :: rest =>
    let negated := rest.head? == some '^'
    let rest := if negated then rest.tail else rest
    let name := String.ofList (rest.takeWhile (· != ':'))
    match rest.dropWhile (· != ':') with
    | ':' :: ']' :: after =>
      if asciiNames.contains name then some (.atom (.ascii name negated), after) else none
    | _ => none
  | _ => none

/-- Reads one item of a class that is no bracket. -/
def classPrimitive? (blanks : Bool) (chars : Chars) : Option (Primitive × Chars) := do
  let char ← chars.head?
  if char = '\\' then escape? blanks chars else return (.scalar ⟨char, false⟩, chars.tail)

/-- The item of a class that a primitive is. Assertions are none. -/
def classAtom? : Primitive → Option ClassAtom
  | .scalar scalar => some (.scalar scalar)
  | .short kind negated => some (.short kind negated)
  | .property name negated => some (.property name negated)
  | .assertion _ => none

/-- The character that a primitive is. -/
def scalarOf? : Primitive → Option Scalar
  | .scalar scalar => some scalar
  | _ => none

/-- Reads one item of a class, or a range. -/
def classRange? (blanks : Bool) (chars : Chars) : Option (ClassSet × Chars) := do
  let (first, chars) ← classPrimitive? blanks chars
  let chars := skip blanks chars
  let char ← chars.head?
  let following := peek? blanks chars
  if char ≠ '-' ∨ following = some ']' ∨ following = some '-' then
    return (.atom (← classAtom? first), chars)
  else
    let (last, chars) ← classPrimitive? blanks (next blanks chars)
    let first ← scalarOf? first
    let last ← scalarOf? last
    if first.char ≤ last.char then return (.atom (.range first last), chars) else none

/-- What a class that is being read stands in. -/
inductive ClassFrame where
  /-- A bracket: the items before it, last first, and whether the class in it is negated. -/
  | bracket (items : List ClassSet) (negated : Bool)
  /-- The left side of an operation. -/
  | operation (kind : SetOperation) (left : ClassSet)

/-- Completes an operation with its right side, if one has begun. -/
def closeOperation (set : ClassSet) : List ClassFrame → ClassSet × List ClassFrame
  | .operation kind left :: stack => (.operation kind left set, stack)
  | stack => (set, stack)

/-- Reads the hyphens at the beginning of a class. -/
def leadingHyphens (blanks : Bool) : Nat → Chars → List ClassSet × Chars
  | 0, chars => ([], chars)
  | fuel + 1, chars =>
    if chars.head? = some '-' then
      let (more, rest) := leadingHyphens blanks fuel (next blanks chars)
      (.atom (.scalar ⟨'-', false⟩) :: more, rest)
    else ([], chars)

/-- Opens a class at its bracket. Returns whether it is negated, and the items that are read with
the opening: hyphens, or a closing bracket in the first place. -/
def openBracket? (blanks : Bool) (chars : Chars) : Option (Bool × List ClassSet × Chars) := do
  let chars := next blanks chars
  let char ← chars.head?
  let negated := char == '^'
  let chars := if negated then next blanks chars else chars
  let (hyphens, chars) := leadingHyphens blanks chars.length chars
  let char ← chars.head?
  if hyphens.isEmpty ∧ char = ']' then
    let chars := next blanks chars
    if chars.isEmpty then none
    else return (negated, [.atom (.scalar ⟨']', false⟩)], chars)
  else return (negated, hyphens, chars)

/-- The operation that two equal characters stand for. -/
def setOperation? : Chars → Option SetOperation
  | '&' :: '&' :: _ => some .intersection
  | '-' :: '-' :: _ => some .difference
  | '~' :: '~' :: _ => some .symmetricDifference
  | _ => none

/-- Reads the items of a class up to the bracket that closes the outermost one. -/
def classItems? (blanks : Bool) :
    Nat → List ClassFrame → List ClassSet → Chars → Option (Bool × ClassSet × Chars)
  | 0, _, _, _ => none
  | fuel + 1, stack, items, chars => do
    let chars := skip blanks chars
    let char ← chars.head?
    if char = '[' then
      match if stack.isEmpty then none else asciiClass? chars with
      | some (item, rest) => classItems? blanks fuel stack (item :: items) rest
      | none =>
        let (negated, opening, rest) ← openBracket? blanks chars
        classItems? blanks fuel (.bracket items negated :: stack) opening.reverse rest
    else if char = ']' then
      let (set, stack) := closeOperation (.ofItems items.reverse) stack
      match stack with
      | [.bracket _ negated] => return (negated, set, chars.tail)
      | .bracket before negated :: outer =>
        classItems? blanks fuel outer (.bracketed negated set :: before) chars.tail
      | _ => none
    else
      match setOperation? chars with
      | some kind =>
        let (left, stack) := closeOperation (.ofItems items.reverse) stack
        classItems? blanks fuel (.operation kind left :: stack) [] (chars.drop 2)
      | none =>
        let (item, rest) ← classRange? blanks chars
        classItems? blanks fuel stack (item :: items) rest

/-- Reads a class from its bracket on. -/
def bracketed? (blanks : Bool) (chars : Chars) : Option (Written × Chars) := do
  let (negated, set, rest) ← classItems? blanks (chars.length + 1) [] [] chars
  return (.bracketed negated set, rest)

/-! ### Groups and flags -/

/-- The flag with a letter. -/
def flag? (letter : Char) : Option Flag :=
  match letter with
  | 'i' => some .ignoreCase
  | 'm' => some .multiLine
  | 's' => some .dotAll
  | 'U' => some .swapGreed
  | 'u' => some .unicode
  | 'R' => some .crlf
  | 'x' => some .ignoreBlanks
  | _ => none

/-- Reads flags up to a colon or a closing parenthesis, which is left standing. A flag may be named
once, and a minus sign has to be followed by one. -/
def flags? (flags : Flags) (minus dangling : Bool) : Chars → Option (Flags × Chars)
  | [] => none
  | char :: rest =>
    if char = ':' ∨ char = ')' then if dangling then none else some (flags, char :: rest)
    else if char = '-' then if minus then none else flags? flags true true rest
    else do
      let flag ← flag? char
      if (flags.state? flag).isSome then none
      else if minus then flags? { flags with unset := flag :: flags.unset } minus false rest
      else flags? { flags with set := flag :: flags.set } minus false rest

/-- Whether a character may stand in the name of a group. -/
def isNameChar (isFirst : Bool) (char : Char) : Bool :=
  char == '_' ||
    if isFirst then Unicode.isAlphabetic char
    else char == '.' || char == '[' || char == ']' || Unicode.isAlphanumeric char

/-- Reads the name of a group, with the angle bracket that closes it. -/
def groupName? (chars : Chars) : Option (String × Chars) :=
  let name := chars.takeWhile (· != '>')
  match name, chars.dropWhile (· != '>') with
  | first :: others, _ :: rest =>
    if isNameChar true first && others.all (isNameChar false) then some (.ofList name, rest)
    else none
  | _, _ => none

/-- What a parenthesis opens. -/
inductive Opening where
  /-- Flags for what follows in the same group. -/
  | directive (flags : Flags)
  /-- A group that captures, perhaps under a name. -/
  | capturing (name : Option String)
  /-- A group that does not capture. -/
  | plain (flags : Flags)

/-- Reads what a parenthesis opens. -/
def opening? (blanks : Bool) (chars : Chars) : Option (Opening × Chars) :=
  let chars := next blanks chars
  match chars with
  | '?' :: '=' :: _ | '?' :: '!' :: _ | '?' :: '<' :: '=' :: _ | '?' :: '<' :: '!' :: _ => none
  | '?' :: 'P' :: '<' :: rest | '?' :: '<' :: rest => do
    let (name, rest) ← groupName? rest
    return (.capturing (some name), rest)
  | '?' :: rest => do
    let (flags, rest) ← flags? .none false false rest
    if rest.head? = some ':' then return (.plain flags, rest.tail)
    else if flags = .none then none
    else return (.directive flags, rest.tail)
  | _ => some (.capturing none, chars)

/-! ### Repetitions -/

/-- Whether something may be repeated. -/
def isRepeatable : Written → Bool
  | .empty | .flags _ => false
  | _ => true

/-- Reads a counted repetition from its brace on: the bounds, and whether it is greedy. -/
def counted? (blanks : Bool) (chars : Chars) : Option ((Nat × Option Nat × Bool) × Chars) := do
  let chars := next blanks chars
  let _ ← chars.head?
  let (min, chars) ← count? blanks chars
  let (max, chars) ←
    if chars.head? = some ',' then
      let chars := next blanks chars
      let char ← chars.head?
      if char = '}' then pure (none, chars)
      else
        let (max, chars) ← count? blanks chars
        pure (some max, chars)
    else pure (some min, chars)
  if chars.head? ≠ some '}' then none
  else
    let chars := next blanks chars
    let isLazy := chars.head? = some '?'
    if max.any (· < min) then none
    else return ((min, max, !isLazy), if isLazy then chars.tail else chars)

/-! ### Whole regexps -/

/-- What the part that is being read stands in. -/
inductive Frame where
  /-- A group: the parts before it, last first, and whether blanks were ignored there. -/
  | group (before : List Written) (kind : GroupKind) (blanks : Bool)
  /-- An alternation: the branches so far, last first. -/
  | alternation (branches : List Written)

/-- The state of reading a regexp. -/
structure State where
  /-- What the current part stands in, innermost first. -/
  stack : List Frame
  /-- The parts of the current concatenation, last first. -/
  parts : List Written
  /-- Whether blanks are ignored. -/
  blanks : Bool
  /-- How many groups there are so far. -/
  groups : Nat
  /-- The names of groups so far. -/
  names : List String

namespace State

/-- The state before anything is read. -/
def initial : State := ⟨[], [], false, 0, []⟩

/-- Adds a part. -/
def add (state : State) (part : Written) : State := { state with parts := part :: state.parts }

/-- The parts of the current concatenation as one. -/
def whole (state : State) : Written := .ofParts state.parts.reverse

/-- Ends a branch of an alternation. -/
def endBranch (state : State) : State :=
  match state.stack with
  | .alternation branches :: stack =>
    { state with stack := .alternation (state.whole :: branches) :: stack, parts := [] }
  | stack => { state with stack := .alternation [state.whole] :: stack, parts := [] }

/-- What the current group holds, and what it stands in. -/
def contents (state : State) : Written × List Frame :=
  match state.stack with
  | .alternation branches :: stack => (.alternation (state.whole :: branches).reverse, stack)
  | stack => (state.whole, stack)

/-- Opens a group or sets flags. -/
def enter? (state : State) : Opening → Option State
  | .directive flags =>
    some { state.add (.flags flags) with
      blanks := (flags.state? .ignoreBlanks).getD state.blanks }
  | .plain flags =>
    some { state with
      stack := .group state.parts (.plain flags) state.blanks :: state.stack
      parts := []
      blanks := (flags.state? .ignoreBlanks).getD state.blanks }
  | .capturing name =>
    if name.any state.names.contains then none
    else some { state with
      stack := .group state.parts (.capturing (state.groups + 1)) state.blanks :: state.stack
      parts := []
      groups := state.groups + 1
      names := name.toList ++ state.names }

/-- Closes a group. -/
def leave? (state : State) : Option State :=
  match state.contents with
  | (body, .group before kind blanks :: stack) =>
    some { state with stack := stack, parts := .group kind body :: before, blanks := blanks }
  | _ => none

/-- Repeats the last part. -/
def repeatLast? (state : State) (min : Nat) (max : Option Nat) (greedy : Bool) : Option State :=
  match state.parts with
  | part :: before =>
    if isRepeatable part then
      some { state with parts := .repetition min max greedy part :: before }
    else none
  | [] => none

/-- The regexp that was read, when no group is open. -/
def finish? (state : State) : Option Written :=
  match state.contents with
  | (whole, []) => some whole
  | _ => none

end State

/-- Reads a repetition that is one character, and the question mark that makes it lazy. -/
def uncounted? (state : State) (min : Nat) (max : Option Nat) (chars : Chars) :
    Option (State × Chars) := do
  let isLazy := chars.tail.head? = some '?'
  let state ← state.repeatLast? min max !isLazy
  return (state, chars.drop (if isLazy then 2 else 1))

/-- The part that a primitive is. -/
def partOf : Primitive → Written
  | .scalar scalar => .literal scalar
  | .assertion assertion => .assertion assertion
  | .short kind negated => .short kind negated
  | .property name negated => .property name negated

/-- Reads one thing. -/
def step? (state : State) (chars : Chars) : Option (State × Chars) := do
  let char ← chars.head?
  match char with
  | '(' =>
    let (opening, rest) ← opening? state.blanks chars
    return (← state.enter? opening, rest)
  | ')' => return (← state.leave?, chars.tail)
  | '|' => return (state.endBranch, chars.tail)
  | '[' =>
    let (part, rest) ← bracketed? state.blanks chars
    return (state.add part, rest)
  | '?' => uncounted? state 0 (some 1) chars
  | '*' => uncounted? state 0 none chars
  | '+' => uncounted? state 1 none chars
  | '{' =>
    let ((min, max, greedy), rest) ← counted? state.blanks chars
    return (← state.repeatLast? min max greedy, rest)
  | '\\' =>
    let (primitive, rest) ← escape? state.blanks chars
    return (state.add (partOf primitive), rest)
  | '.' => return (state.add .dot, chars.tail)
  | '^' => return (state.add (.assertion .startLine), chars.tail)
  | '$' => return (state.add (.assertion .endLine), chars.tail)
  | _ => return (state.add (.literal ⟨char, false⟩), chars.tail)

/-- Reads all that is left, at most `fuel` things. -/
def all? : Nat → State → Chars → Option Written
  | 0, _, _ => none
  | fuel + 1, state, chars =>
    match skip state.blanks chars with
    | [] => state.finish?
    | chars => do
      let (state, chars) ← step? state chars
      all? fuel state chars

end Reader

/-- Reads a regexp. One that is nested too deep is refused. -/
def Written.read? (text : String) : Option Written := do
  let written ← Reader.all? (text.length + 1) .initial text.toList
  if nestLimit < written.nesting then none else return written

end Crosscheck
