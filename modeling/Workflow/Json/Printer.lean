import Workflow.Json
import Workflow.Double.Shortest
import Workflow.Text.Digit

/-!
# Writing JSON

`Json.print` writes a value on one line in ASCII: other characters are written as one
escaped unit of four hexadecimal digits, or as two such units where the code point needs
more. Numbers that are not finite are written as their names.
-/

namespace Workflow

namespace Json

open Workflow.Text

/-- An escaped unit of sixteen bits. -/
def printUnit (n : Nat) : List Char :=
  '\\' :: 'u' :: hexPadded 4 n

/-- A character as it stands between quotation marks. -/
def printChar (c : Char) : List Char :=
  if c = '"' ∨ c = '\\' then ['\\', c]
  else if c = '\n' then ['\\', 'n']
  else if c = '\r' then ['\\', 'r']
  else if c = '\t' then ['\\', 't']
  else
    let n := c.toNat
    if 0x20 ≤ n ∧ n < 0x7F then [c]
    else if n < 0x10000 then printUnit n
    else printUnit (0xD800 + (n - 0x10000) / 0x400) ++ printUnit (0xDC00 + (n - 0x10000) % 0x400)

/-- A text between quotation marks. -/
def printText (s : String) : String :=
  String.ofList ('"' :: s.toList.flatMap printChar ++ ['"'])

/-- A number with a fraction, an infinity or the undefined value. -/
def printDouble : Double → String
  | .nan => "NaN"
  | .infinity false => "Infinity"
  | .infinity true => "-Infinity"
  | x => x.text

mutual

/-- The text of a value. -/
def print : Json → String
  | .null => "null"
  | .bool true => "true"
  | .bool false => "false"
  | .int n => toString n
  | .float x => printDouble x
  | .str s => printText s
  | .arr items => "[" ++ ", ".intercalate (printItems items) ++ "]"
  | .obj members => "\x7b" ++ ", ".intercalate (printMembers members) ++ "\x7d"

/-- The texts of the items of a list. -/
def printItems : List Json → List String
  | [] => []
  | x :: xs => print x :: printItems xs

/-- The texts of the members of an object. -/
def printMembers : List (String × Json) → List String
  | [] => []
  | (k, x) :: xs => (printText k ++ ": " ++ print x) :: printMembers xs

end

end Json

end Workflow
