/-
**Templates.**

A template is a text with placeholders `%s`, read from left to right; `%%` stands for one percent
sign, and a percent sign before anything else stands for itself.

* `Template.placeholders`: how many placeholders a template has;
* `Template.substitute`: the template with its placeholders replaced by arguments, in order.
-/
import Crosscheck.Violation

namespace Crosscheck

namespace Template

/-- The number of placeholders in the characters of a template. Whatever follows a percent sign is
read with it. -/
def placeholdersIn : List Char → Nat
  | '%' :: 's' :: rest => placeholdersIn rest + 1
  | '%' :: _ :: rest => placeholdersIn rest
  | _ :: rest => placeholdersIn rest
  | [] => 0

/-- The number of placeholders in a template. -/
def placeholders (template : String) : Nat := placeholdersIn template.toList

/-- The characters of a template with its placeholders filled. A placeholder without an argument is
filled with nothing. -/
def fill : List Char → List String → List Char
  | '%' :: 's' :: rest, arguments =>
    (arguments.headD "").toList ++ fill rest arguments.tail
  | '%' :: '%' :: rest, arguments => '%' :: fill rest arguments
  | char :: rest, arguments => char :: fill rest arguments
  | [], _ => []

/-- The template with each placeholder replaced by the next argument. -/
def substitute (template : String) (arguments : List String) : Except Violation String :=
  if placeholders template = arguments.length then
    .ok (.ofList (fill template.toList arguments))
  else
    .error (.argumentCount template (placeholders template) arguments.length)

/-- The one-character texts of a text. -/
def explode (text : String) : List String := text.toList.map Char.toString

/-- The pieces of a text between the occurrences of a separator; an empty separator stands between
any two characters. -/
def pieces (separator text : String) : List String :=
  if separator.isEmpty then explode text else text.splitOn separator

end Template

end Crosscheck
