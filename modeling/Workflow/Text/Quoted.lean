import Workflow.Text.Digit
import Workflow.Text.Printable

/-!
# Quoted texts

A text shown inside a message stands between quotation marks, so that blanks at its ends
and an empty text can be seen. The mark is the apostrophe; a text that holds apostrophes
and no double quotation mark is put between double ones instead. The mark in use, the
backslash and whatever is not printable are escaped.
-/

namespace Workflow.Text

/-- The mark that encloses a text: an apostrophe, unless that alone would have to be
escaped. -/
def quoteMark (cs : List Char) : Char :=
  if cs.contains '\'' && !cs.contains '"' then '"' else '\''

/-- A character as it stands between two marks. Line feed, carriage return and tab have
short forms; the other characters that are not printable are written with two, four or
eight hexadecimal digits, as many as they need. -/
def escapeIn (mark : Char) (c : Char) : List Char :=
  if c = mark || c = '\\' then ['\\', c]
  else if c = '\n' then ['\\', 'n']
  else if c = '\r' then ['\\', 'r']
  else if c = '\t' then ['\\', 't']
  else if isPrintable c then [c]
  else if c.toNat < 0x100 then '\\' :: 'x' :: hexPadded 2 c.toNat
  else if c.toNat < 0x10000 then '\\' :: 'u' :: hexPadded 4 c.toNat
  else '\\' :: 'U' :: hexPadded 8 c.toNat

/-- A text between quotation marks. -/
def quoted (s : String) : String :=
  let cs := s.toList
  let mark := quoteMark cs
  String.ofList (mark :: cs.flatMap (escapeIn mark) ++ [mark])

end Workflow.Text
