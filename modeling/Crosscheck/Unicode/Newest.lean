/-
**The newest characters.**

The properties that regexps name know the characters up to version 16.0 of the character set. What
is printed and what may be the name of a group follows version 17.0, and these are the characters
that it adds, as gaps and lengths (`RangeSet.ofSteps`).

* `newest`: all of them;
* `newestLetters`, `newestNumbers`, `newestMarks`: those that are letters, that are numbers, and
  that join the character before them.
-/
import Crosscheck.Text.RangeSet

namespace Crosscheck.Unicode

/-- The newest characters. -/
def newest : RangeSet := .ofSteps
  ["2191 1 972 1 127 1 3570 15 2 12 1493 1 2772 1 31799 2 2 1 1 1 28 1 21457 16 445 2 54 7",
   "2929 26 1387 3 8 9 33 2 3172 8 584 44 4 10 20662 25 2 25 286 5 6145 8 1289 22 97 115",
   "16135 3 445 23 15 17 6095 31 1 22 8 2 4056 1 158 4 341 9 379 4 50 1 3 1 57 1 4 1 28 1 4",
   "1 266 1 47935 6 5986 12 21762 4298"]

/-- The newest characters that are alphabetic. -/
def newestLetters : RangeSet := .ofSteps
  ["2191 1 972 1 127 1 39665 2 2 1 1 1 28 1 24910 26 1387 3 50 2 3172 8 584 44 20676 25 2",
   "25 286 5 6145 8 1289 22 97 115 22733 31 1 22 8 2 53306 6 5986 12 21762 4298"]

/-- The newest characters that are numbers. -/
def newestNumbers : RangeSet := .ofSteps
  ["73184 10 21002 3"]

/-- The newest characters that join the one before them. -/
def newestMarks : RangeSet := .ofSteps
  ["6863 15 2 12 62478 2 3172 1 1 3 1 1 52092 1 2 1 7 2 5 1"]

end Crosscheck.Unicode
