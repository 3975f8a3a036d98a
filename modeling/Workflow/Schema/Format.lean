import Workflow.Text.Blank
import Workflow.Text.Digit

/-!
# Formats of texts

Some texts show by their form what they are: a point in time, a day, a mail address, a web
address or an identifier. `Format.detect` names the first of these forms that a text has.

A form is given by a pattern of characters, one for each character of the text, in which a
nine stands for any decimal digit and a zero for any hexadecimal one. Forms that describe
the whole text tolerate one line feed after it.
-/

namespace Workflow

namespace Format

open Workflow.Text

/-- Whether a character of the text fits a character of a pattern. -/
def fits (pattern c : Char) : Bool :=
  if pattern = '9' then isDecimal c
  else if pattern = '0' then (hexValue? c).isSome
  else pattern == c

/-- What follows a stretch of the text that fits the pattern, if the text begins with
one. -/
def after? : List Char → List Char → Option (List Char)
  | [], cs => some cs
  | _ :: _, [] => none
  | p :: ps, c :: cs => if fits p c then after? ps cs else none

/-- Whether nothing is left but at most one line feed. -/
def atEnd : List Char → Bool
  | [] => true
  | ['\n'] => true
  | _ => false

/-- Whether the text begins with a stretch that fits the pattern. -/
def begins (pattern : String) (cs : List Char) : Bool :=
  (after? pattern.toList cs).isSome

/-- Whether the text as a whole fits the pattern. -/
def whole (pattern : String) (cs : List Char) : Bool :=
  (after? pattern.toList cs).any atEnd

/-- A text without one line feed at its end. -/
def withoutLineEnd (cs : List Char) : List Char :=
  if cs.getLast? = some '\n' then cs.dropLast else cs

/-- A mail address: two parts around an at sign, without blanks, the second with a point
that is neither its first nor its last character. -/
def isMail (cs : List Char) : Bool :=
  match cutAt '@' (withoutLineEnd cs) with
  | [name, host] =>
    !name.isEmpty && !name.any isBlank && !host.any isBlank &&
      ((host.drop 1).dropLast).contains '.'
  | _ => false

/-- The forms, in the order in which they are tried, with their names. -/
def forms : List (String × (List Char → Bool)) := [
  ("date-time", begins "9999-99-99T99:99:99"),
  ("date", whole "9999-99-99"),
  ("email", isMail),
  ("uri", fun cs => begins "http://" cs || begins "https://" cs),
  ("uuid", whole "00000000-0000-0000-0000-000000000000")]

/-- **The format of a text**: the name of the first form that it has. -/
def detect (s : String) : Option String :=
  (forms.find? fun form => form.2 s.toList).map Prod.fst

end Format

end Workflow
