import Workflow.Text.Blank
import Workflow.Text.Composed
import Workflow.Text.Direction
import Workflow.Text.Joining
import Workflow.Text.Label
import Workflow.Text.Punycode
import Workflow.Text.Quoted
import Workflow.Text.Spans

/-!
# Host names

A host name is a row of labels with points between them. A label may be written in any script,
but it is sent in letters, digits and hyphens: after the sign `xn--` follows what
`Punycode.encode` makes of it. `HostName.encode` finds the form that is sent, and
`HostName.decode` reads it.

Both refuse a label that is not legal. Its characters must be letters, digits and marks of
which no other form is preferred; a few characters are legal next to certain others alone; and
where letters are written from right to left, the characters of the label must not mix
directions. `LabelFault.message` says what is wrong.
-/

namespace Workflow

open Workflow.Text

/-- Why a host name is refused. -/
inductive LabelFault where
  /-- The name has too many characters. -/
  | longName
  /-- A label without characters. -/
  | empty
  /-- A label that has too many characters when it is sent. -/
  | long
  /-- Nothing follows the sign of an encoded label. -/
  | nothingEncoded
  /-- An encoded label ends with a hyphen. -/
  | encodedHyphen
  /-- A label that has the sign of an encoded label and is none. -/
  | notEncoded
  /-- A label of which another form is preferred. -/
  | notComposed
  /-- Two hyphens where the sign of an encoded label has them. -/
  | innerHyphens
  /-- A hyphen at an end of the label. -/
  | outerHyphen
  /-- A mark at the beginning of the label. -/
  | leadingMark
  /-- A character that no label may hold. -/
  | character (c : Char) (place : Nat) (label : String)
  /-- A character that is not legal where it stands. -/
  | misplaced (c : Char) (place : Nat) (label : String)
  /-- An invisible character that is not legal where it stands. -/
  | joiner (c : Char) (place : Nat) (label : String)
  /-- A letter of which the direction is not known. -/
  | undirected (place : Nat) (label : String)
  /-- A label with letters written from right to left that begins with no letter. -/
  | noLetterFirst (label : String)
  /-- A character in a label written from right to left that does not go with it. -/
  | notRight (place : Nat)
  /-- A character in a label written from left to right that does not go with it. -/
  | notLeft (place : Nat)
  /-- Digits of two kinds. -/
  | mixedDigits
  /-- A label with letters written from right to left that ends with neither a letter nor a
  digit. -/
  | badEnd
  deriving DecidableEq, Inhabited

/-- The number of a character as it is written in messages. -/
def LabelFault.codeOf (c : Char) : String :=
  let digits := Nat.toDigits 16 c.toNat
  "U+" ++ String.ofList (List.replicate (4 - digits.length) '0' ++ digits.map Char.toUpper)

/-- What is wrong with a host name. -/
def LabelFault.message : LabelFault → String
  | .longName => "Domain too long"
  | .empty => "Empty Label"
  | .long => "Label too long"
  | .nothingEncoded => "Malformed A-label, no Punycode eligible content found"
  | .encodedHyphen => "A-label must not end with a hyphen"
  | .notEncoded => "Invalid A-label"
  | .notComposed => "Label must be in Normalization Form C"
  | .innerHyphens => "Label has disallowed hyphens in 3rd and 4th position"
  | .outerHyphen => "Label must not start or end with a hyphen"
  | .leadingMark => "Label begins with an illegal combining character"
  | .character c place label =>
    "Codepoint " ++ codeOf c ++ " at position " ++ toString place ++ " of " ++ quoted label
      ++ " not allowed"
  | .misplaced c place label =>
    "Codepoint " ++ codeOf c ++ " not allowed at position " ++ toString place ++ " in "
      ++ quoted label
  | .joiner c place label =>
    "Unknown codepoint adjacent to joiner " ++ codeOf c ++ " at position " ++ toString place
      ++ " in " ++ quoted label
  | .undirected place label =>
    "Unknown directionality in label " ++ quoted label ++ " at position " ++ toString place
  | .noLetterFirst label =>
    "First codepoint in label " ++ quoted label ++ " must be directionality L, R or AL"
  | .notRight place =>
    "Invalid direction for codepoint at position " ++ toString place
      ++ " in a right-to-left label"
  | .notLeft place =>
    "Invalid direction for codepoint at position " ++ toString place
      ++ " in a left-to-right label"
  | .mixedDigits => "Can not mix numeral types in a right-to-left label"
  | .badEnd => "Label ends with illegal codepoint directionality"

namespace HostName

/-! ## Characters in their places -/

/-- Characters that tell where they may stand. -/
inductive Guarded where
  /-- An invisible character after a letter that lost its vowel. -/
  | joiner
  /-- An invisible character there, or between letters that would join without it. -/
  | nonJoiner
  /-- A point between two letters l. -/
  | middlePoint
  /-- A sign before a Greek letter. -/
  | greekSign
  /-- A sign after a Hebrew letter. -/
  | hebrewSign
  /-- A point in a label with Japanese or Han letters. -/
  | katakanaPoint
  /-- A digit that excludes those of a kind that looks the same. -/
  | arabicDigit (others : Nat × Nat)
  deriving DecidableEq

/-- Which of the characters that tell where they may stand a character is. -/
def guarded? (c : Char) : Option Guarded :=
  let n := c.toNat
  if n = 0x200D then some .joiner
  else if n = 0x200C then some .nonJoiner
  else if n = 0xB7 then some .middlePoint
  else if n = 0x375 then some .greekSign
  else if n = 0x5F3 || n = 0x5F4 then some .hebrewSign
  else if n = 0x30FB then some .katakanaPoint
  else if 0x660 ≤ n && n ≤ 0x669 then some (.arabicDigit (0x6F0, 0x6F9))
  else if 0x6F0 ≤ n && n ≤ 0x6F9 then some (.arabicDigit (0x660, 0x669))
  else none

/-- Whether the first character that letters do not join across satisfies a test. -/
def reaches (test : Char → Bool) (cs : List Char) : Bool :=
  ((cs.dropWhile isTransparent).head?).any test

/-- Whether such a character may stand between the characters `before` it, the nearest of
them first, and those after it. -/
def Guarded.fits (g : Guarded) (before after : List Char) : Bool :=
  let silenced := before.head?.any fun c => combiningClass c == viramaClass
  match g with
  | .joiner => silenced
  | .nonJoiner => silenced || (reaches joinsAfter before && reaches joinsBefore after)
  | .middlePoint => before.head? == some 'l' && after.head? == some 'l'
  | .greekSign => after.head?.any fun c => greekSpans.has c.toNat
  | .hebrewSign => before.head?.any fun c => hebrewSpans.has c.toNat
  | .katakanaPoint =>
    (before ++ after).any fun c =>
      hiraganaSpans.has c.toNat || katakanaSpans.has c.toNat || hanSpans.has c.toNat
  | .arabicDigit others =>
    (before ++ after).all fun c => !(others.1 ≤ c.toNat && c.toNat ≤ others.2)

/-- The check of the characters of a label, those before them in reverse. -/
def checkCharacters (label : List Char) (before : List Char) :
    List Char → Except LabelFault Unit
  | [] => .ok ()
  | c :: cs =>
    let place := before.length + 1
    match guarded? c with
    | some g =>
      if g.fits before cs then checkCharacters label (c :: before) cs
      else if g = .joiner ∨ g = .nonJoiner then
        .error (.joiner c place (String.ofList label))
      else .error (.misplaced c place (String.ofList label))
    | none =>
      if isLabelChar c || direction c = .unknown then checkCharacters label (c :: before) cs
      else .error (.character c place (String.ofList label))

/-! ## Directions -/

/-- Whether a character with this direction asks for a check of directions. -/
def asksForCheck : Direction → Bool
  | .right | .arabic | .arabicDigit => true
  | _ => false

/-- The check of the directions in a label written from right to left, from the place `place`
on, with the kind of its digits so far. -/
def checkRight (digits : Option Direction) (place : Nat) :
    List Direction → Except LabelFault Unit
  | [] => .ok ()
  | .left :: _ => .error (.notRight place)
  | d :: ds =>
    if d = .digit ∨ d = .arabicDigit then
      match digits with
      | some kind => if kind = d then checkRight digits (place + 1) ds else .error .mixedDigits
      | none => checkRight (some d) (place + 1) ds
    else checkRight digits (place + 1) ds

/-- The check of the directions in a label written from left to right. -/
def checkLeft (place : Nat) : List Direction → Except LabelFault Unit
  | [] => .ok ()
  | d :: ds => if asksForCheck d then .error (.notLeft place) else checkLeft (place + 1) ds

/-- Whether a label may end with a character of this direction. -/
def mayEnd (isRight : Bool) : Direction → Bool
  | .left => !isRight
  | .right | .arabic | .arabicDigit => isRight
  | .digit => true
  | .mark | .neutral | .unknown => false

/-- The check of the directions in a label. -/
def checkDirections (label : List Char) : Except LabelFault Unit := do
  let directions := label.map direction
  if directions.contains .unknown then
    throw (.undirected (directions.idxOf .unknown + 1) (String.ofList label))
  if directions.any asksForCheck then
    let isRight ← match directions.head? with
      | some .right | some .arabic => pure true
      | some .left => pure false
      | _ => throw (.noLetterFirst (String.ofList label))
    if isRight then checkRight none 1 directions else checkLeft 1 directions
    match directions.reverse.dropWhile (· = .mark) with
    | d :: _ => if !mayEnd isRight d then throw .badEnd
    | [] => throw .badEnd

/-! ## Labels -/

/-- The check of a label in its own script. -/
def checkLabel (label : List Char) : Except LabelFault Unit := do
  if label.isEmpty then throw .empty
  if !isComposed label then throw .notComposed
  if (label.drop 2).take 2 = ['-', '-'] then throw .innerHyphens
  if label.head? = some '-' ∨ label.getLast? = some '-' then throw .outerHyphen
  if label.head?.any isMark then throw .leadingMark
  checkCharacters label [] label
  checkDirections label

/-- How an encoded label begins. -/
def sign : List Char := ['x', 'n', '-', '-']

/-- **The label in its own script** that a label in ASCII stands for. -/
def decodeLabel (label : List Char) : Except LabelFault (List Char) := do
  let label := label.map Char.toLower
  if sign.isPrefixOf label then
    let digits := label.drop 4
    if digits.isEmpty then throw .nothingEncoded
    if digits.getLast? = some '-' then throw .encodedHyphen
    match Punycode.decode? digits with
    | some label => checkLabel label; return label
    | none => throw .notEncoded
  else checkLabel label; return label

/-- The most characters that a label may have when it is sent. -/
def maxLabel : Nat := 63

/-- **The form in which a label is sent.** -/
def encodeLabel (label : List Char) : Except LabelFault (List Char) := do
  let sent ←
    if label.all (·.toNat < 0x80) then do
      let _ ← decodeLabel label
      pure label
    else do
      checkLabel label
      pure (sign ++ Punycode.encode label)
  if maxLabel < sent.length then throw .long
  return sent

/-! ## Names -/

/-- The points between the labels of a name. -/
def isPoint (c : Char) : Bool :=
  c == '.' || c == '\u3002' || c == '\uff0e' || c == '\uff61'

/-- The most characters that a name may have, one for a point at the end included. -/
def maxName : Nat := 254

/-- The labels of a name, and whether a point follows them. -/
def labels (name : List Char) : List (List Char) × Bool :=
  let labels := cutAt '.' (name.map fun c => if isPoint c then '.' else c)
  if labels.getLast? = some [] then (labels.dropLast, true) else (labels, false)

/-- Labels as a name. -/
def join (labels : List (List Char)) (isClosed : Bool) : List Char :=
  ['.'].intercalate labels ++ (if isClosed then ['.'] else [])

/-- A name with each of its labels read or written. -/
def convert (label : List Char → Except LabelFault (List Char)) (name : List Char) :
    Except LabelFault (List Char) := do
  if maxName < name.length then throw .longName
  let (parts, isClosed) := labels name
  return join (← parts.mapM label) isClosed

/-- **The form in which a name is sent.** -/
def encode (name : List Char) : Except LabelFault (List Char) := do
  let sent ← convert encodeLabel name
  if maxName - 1 < sent.length - (if sent.getLast? = some '.' then 1 else 0) then
    throw .longName
  return sent

/-- **The name that is sent in a given form.** -/
def decode (sent : List Char) : Except LabelFault (List Char) :=
  convert decodeLabel sent

end HostName

end Workflow
