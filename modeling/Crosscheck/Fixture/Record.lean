/-
**Records.**

A record holds four results of one regexp on one haystack. Its text has the four results with a
semicolon between any two. A result is `-` when there is no match; otherwise it has a token for each
group, group 0 first, with blanks between them: `-` for a group that took no part, and `start-stop`.

* `Record.text`: the text of a record;
* `Record.read`: the record of a line, or what is wrong with the line.
-/
import Crosscheck.Failure
import Crosscheck.Search.Captures
import Crosscheck.Search.Settings
import Crosscheck.Text.Number
import Crosscheck.Text.Split

namespace Crosscheck

/-- The results of one regexp on one haystack. -/
structure Record where
  /-- The first match that is the whole haystack. -/
  wholeFirst : Option Captures
  /-- The first match anywhere. -/
  anywhereFirst : Option Captures
  /-- The longest match that is the whole haystack. -/
  wholeLongest : Option Captures
  /-- The longest match anywhere. -/
  anywhereLongest : Option Captures
  deriving DecidableEq

namespace Record

/-- How the results of a record are searched for, in order. -/
def settings : List (Anchor × MatchKind) :=
  [(.both, .leftmostFirst), (.unanchored, .leftmostFirst),
    (.both, .leftmostLongest), (.unanchored, .leftmostLongest)]

/-- The results, in the order of `settings`. -/
def results (record : Record) : List (Option Captures) :=
  [record.wholeFirst, record.anywhereFirst, record.wholeLongest, record.anywhereLongest]

/-- The record without a match. -/
def unmatched : Record := ⟨none, none, none, none⟩

/-! ### Writing -/

/-- The token of a group. -/
def tokenText : Option Span → String
  | some span => s!"{span.start}-{span.stop}"
  | none => "-"

/-- The text of a result. -/
def resultText : Option Captures → String
  | some captures => " ".intercalate (captures.spans.map tokenText)
  | none => "-"

/-- The text of a record. -/
def text (record : Record) : String := ";".intercalate (record.results.map resultText)

/-! ### Reading -/

/-- What stands before the first hyphen and what stands after it. -/
def atHyphen : List Char → Option (List Char × List Char)
  | [] => none
  | '-' :: rest => some ([], rest)
  | char :: rest => (atHyphen rest).map fun (before, after) => (char :: before, after)

/-- The span that a token spells: two numbers in order. -/
def readSpan? (token : List Char) : Option Span :=
  match atHyphen token with
  | some (before, after) =>
    match Number.read before, Number.read after with
    | .ok start, .ok stop => if start ≤ stop then some ⟨start, stop⟩ else none
    | _, _ => none
  | none => none

/-- The group of a token. -/
def readToken (token : List Char) : Except Malformed (Option Span) :=
  if token = ['-'] then .ok none
  else
    match readSpan? token with
    | some span => .ok (some span)
    | none => .error (.span (.ofList token))

/-- The result of a field. -/
def readResult (field : List Char) : Except Malformed (Option Captures) :=
  if field = ['-'] then .ok none
  else
    match (Split.pieces ' ' field).mapM readToken with
    | .ok (some overall :: groups) => .ok (some ⟨overall, groups⟩)
    | .ok _ => .error (.noOverallSpan (.ofList field))
    | .error defect => .error defect

/-- The record of a text. -/
def readText (text : String) : Except Malformed Record :=
  match Split.pieces ';' text.toList with
  | [wholeFirst, anywhereFirst, wholeLongest, anywhereLongest] => do
    return ⟨← readResult wholeFirst, ← readResult anywhereFirst, ← readResult wholeLongest,
      ← readResult anywhereLongest⟩
  | fields => .error (.resultCount fields.length text)

/-- The record of a line. -/
def read (line : Bytes) : Except Malformed Record :=
  match Bytes.text? line with
  | some text => readText text
  | none => .error (.recordNotText line)

end Record

end Crosscheck
