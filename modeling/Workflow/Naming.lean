import Workflow.Failure
import Workflow.Json.Display
import Workflow.Text.Blank
import Workflow.Text.Case

/-!
# Names as identifiers

A display name such as "Fetch User!" becomes an identifier such as `fetch_user`: lower case,
words joined by bars, everything but ASCII letters and digits dropped. `snakeCase` does this
step, and `numbered` makes the result different from identifiers that are taken already by
adding the least number from two on that is free.

A slug is the identifier by which templates refer to a node, and has to begin with a letter.
-/

namespace Workflow

namespace Naming

open Workflow.Text

/-- The characters that are kept: ASCII small letters, digits and bars, and blanks, at which
words are cut. -/
def isKept (c : Char) : Bool :=
  ('a' ≤ c && c ≤ 'z') || isAsciiDigit c || c == '_' || isBlank c
where
  /-- The ASCII digits. -/
  isAsciiDigit (c : Char) : Bool := '0' ≤ c && c ≤ '9'

/-- The words of a name, in lower case and without the characters that are dropped. -/
def nameWords (name : List Char) : List (List Char) :=
  words ((lower name).filter isKept)

/-- **A display name as an identifier.** -/
def snakeCase (name : String) : String :=
  String.ofList (List.intercalate ['_'] (nameWords name.toList))

/-- An identifier with a number. -/
def withNumber (base : String) (n : Nat) : String :=
  base ++ "_" ++ toString n

/-- The least number from `start` on whose candidate is free. Among one more candidates than
there are names taken one is free. -/
def firstFree (isTaken : Nat → Bool) (start bound : Nat) : Nat :=
  ((List.range' start (bound + 1)).find? fun n => !isTaken n).getD start

/-- **An identifier that is not taken**: the base itself, or the base with the least free
number from two on. -/
def numbered (base : String) (taken : List String) : String :=
  if taken.contains base then
    withNumber base (firstFree (fun n => taken.contains (withNumber base n)) 2 taken.length)
  else base

/-- A value that is not taken: the value itself, or an identifier made from it. -/
def numberedValue (base : Json) (taken : List Json) : Outcome Json := do
  if !base.isKey then throw .unusableKey
  if taken.any (Json.same base) then
    let shown ← base.display
    let isTaken (n : Nat) := (taken.filterMap Json.text?).contains (withNumber shown n)
    return .str (withNumber shown (firstFree isTaken 2 taken.length))
  else return base

/-- Whether the first character is an ASCII small letter. -/
def beginsWithLetter (s : String) : Bool :=
  match s.toList with
  | c :: _ => 'a' ≤ c && c ≤ 'z'
  | [] => false

/-- The identifier of a node before it is told from others. -/
def slugBase (name : String) : String :=
  let base := snakeCase name
  if base = "" then "node" else if beginsWithLetter base then base else "node_" ++ base

/-- **A slug for a node of the given name** that none of the taken ones equals. -/
def slug (name : String) (taken : List String) : String :=
  numbered (slugBase name) taken

/-- **A tool name for a trigger of the given name** that none of the taken ones equals. -/
def toolName (name : String) (taken : List String) : String :=
  let base := snakeCase name
  numbered (if base = "" then "tool" else base) taken

end Naming

end Workflow
