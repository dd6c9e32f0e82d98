/-
**Pieces and lines.**

* `Split.pieces`: what stands between the occurrences of a separator, one piece more than there are
  separators;
* `Split.lines`: the lines of a byte string. A line ends with a newline, which is not part of it,
  and neither is one carriage return before it; the last line may lack its newline.
-/
import Crosscheck.Text.Bytes

namespace Crosscheck

namespace Split

/-- The pieces of a list, the first of which starts with what was already read, last item first. -/
def piecesFrom {α : Type} [DecidableEq α] (separator : α) (read : List α) :
    List α → List (List α)
  | [] => [read.reverse]
  | item :: rest =>
    if item = separator then read.reverse :: piecesFrom separator [] rest
    else piecesFrom separator (item :: read) rest

/-- The pieces between the separators of a list. -/
def pieces {α : Type} [DecidableEq α] (separator : α) (items : List α) : List (List α) :=
  piecesFrom separator [] items

/-- The byte that ends a line. -/
def newline : UInt8 := 0x0A

/-- A line without the carriage return at its end, from its bytes in reverse. -/
def endedLine : Bytes → Bytes
  | 0x0D :: rest => rest.reverse
  | bytes => bytes.reverse

/-- The lines of a byte string, the first of which starts with what was already read, last byte
first. -/
def linesFrom (read : Bytes) : Bytes → List Bytes
  | [] => if read.isEmpty then [] else [read.reverse]
  | byte :: rest =>
    if byte = newline then endedLine read :: linesFrom [] rest
    else linesFrom (byte :: read) rest

/-- The lines of a byte string. -/
def lines (bytes : Bytes) : List Bytes := linesFrom [] bytes

end Split

end Crosscheck
