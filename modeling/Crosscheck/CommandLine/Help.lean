/-
**Help texts.**

Options are documented in two ways: in two columns with their short descriptions, or one after the
other with their long descriptions, which are filled into lines of limited width.

* `Help.columns`, `Help.paragraphs`: the two ways;
* `Help.fill`: a text as lines.
-/
import Crosscheck.CommandLine.Option
import Crosscheck.Text.Split

namespace Crosscheck

namespace Help

/-! ### Filling lines -/

/-- The parts of a word, which may stand on different lines: a word may be divided after a hyphen
between two letters or digits. The first part starts with what was already read, last character
first. -/
def partsFrom (read : List Char) : List Char → List String
  | [] => [.ofList read.reverse]
  | '-' :: char :: rest =>
    if (read.head?.any Char.isAlphanum) && char.isAlphanum then
      .ofList ('-' :: read).reverse :: partsFrom [] (char :: rest)
    else partsFrom ('-' :: read) (char :: rest)
  | char :: rest => partsFrom (char :: read) rest

/-- The parts of a text, each with the number of blanks before it. -/
def parts (text : String) : List (Nat × String) :=
  (Split.pieces ' ' text.toList).flatMap fun word =>
    match partsFrom [] word with
    | first :: rest => (1, first) :: rest.map fun part => (0, part)
    | [] => []

/-- Puts parts on lines, the first of which starts with what is on it already. -/
def fillFrom (width : Nat) (line : String) : List (Nat × String) → List String
  | [] => [line]
  | (blanks, part) :: rest =>
    if width < line.length + blanks + part.length then line :: fillFrom width part rest
    else fillFrom width (line ++ "".pushn ' ' blanks ++ part) rest

/-- A text as lines of limited width. -/
def fill (width : Nat) (text : String) : List String :=
  match parts text with
  | [] => []
  | (_, part) :: rest => fillFrom width part rest

/-! ### Documenting options -/

/-- The options in the order of their names. -/
def ordered (options : List CommandOption) : List CommandOption :=
  options.mergeSort fun first second => decide (first.withValue ≤ second.withValue)

/-- The width of the column of options. -/
def columnWidth (options : List CommandOption) : Nat :=
  options.foldl (fun width option => max width option.format.length) 0

/-- Options with their short descriptions, in two columns. -/
def columns (options : List CommandOption) : List String :=
  options.map fun option =>
    "    " ++ option.format ++ "".pushn ' ' (columnWidth options - option.format.length + 2) ++
      option.summary

/-- An option with its long description. -/
def paragraph (option : CommandOption) : List String :=
  ("    " ++ option.format) :: (fill (79 - 8) option.description).map ("        " ++ ·)

/-- Options with their long descriptions and empty lines between them. -/
def paragraphs (options : List CommandOption) : List String :=
  [""].intercalate (options.map paragraph)

end Help

end Crosscheck
