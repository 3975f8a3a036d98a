import Workflow.Json
import Workflow.Text.Numeral

/-!
# Reading JSON

`Json.read` reads a text as one JSON value with blanks around it. Blanks are space, tab,
line feed and carriage return. Beyond the standard, the three names of the numbers that are
not finite are accepted, and a number too large for a double is infinite. A key that stands
twice in an object keeps its first place and its last value.

A text that is no value is refused with the place where reading stopped. Inside the reader
a place is the number of characters that are left there, which needs no counting; `read`
turns it into an offset. The functions are given a bound on their nesting, and twice the
length of the text is always enough, since of two nested calls one reads a character.

An integer with too many digits and lists and objects that are nested too deeply are refused in
ways of their own, at once when reading gets there.
-/

namespace Workflow

namespace Json

open Workflow.Text

/-- **Why a text is not read.** -/
inductive ReadFault where
  /-- It is no value; reading stopped at a place. -/
  | malformed (place : Nat)
  /-- It has an integer with too many digits. -/
  | oversized
  /-- Its lists and objects are nested too deeply. -/
  | tooDeep
  deriving DecidableEq, Inhabited

/-- The fault with its place counted in another way. -/
def ReadFault.mapPlace (f : Nat → Nat) : ReadFault → ReadFault
  | .malformed place => .malformed (f place)
  | fault => fault

/-- The outcome of reading a part: the result and the rest of the text, or why it is not read,
where a place is how many characters were left there. -/
abbrev Part (α : Type) := Except ReadFault (α × List Char)

/-- Reading stopped with so many characters left. -/
def stopped {α : Type} (left : Nat) : Part α :=
  .error (.malformed left)

/-- The characters that may stand between two tokens. -/
def isGap (c : Char) : Bool :=
  c == ' ' || c == '\t' || c == '\n' || c == '\r'

/-- Drops the characters that may stand before a token. -/
def skipGap (cs : List Char) : List Char :=
  cs.dropWhile isGap

/-- Four hexadecimal digits, together with what follows them. -/
def unit? : List Char → Option (Nat × List Char)
  | a :: b :: c :: d :: rest => do
    let a ← hexValue? a
    let b ← hexValue? b
    let c ← hexValue? c
    let d ← hexValue? d
    return (((a * 16 + b) * 16 + c) * 16 + d, rest)
  | _ => none

/-- The character that a letter after a backslash stands for. -/
def shortEscape? (c : Char) : Option Char :=
  match c with
  | '"' => some '"'
  | '\\' => some '\\'
  | '/' => some '/'
  | 'b' => some '\x08'
  | 'f' => some '\x0c'
  | 'n' => some '\n'
  | 'r' => some '\r'
  | 't' => some '\t'
  | _ => none

/-- The escaped unit that may follow a first half, if it is a second half and not the end
of the text. -/
def secondHalf? : List Char → Option (Nat × List Char)
  | '\\' :: 'u' :: rest =>
    match unit? rest with
    | some (low, rest) =>
      if 0xDC00 ≤ low ∧ low < 0xE000 ∧ !rest.isEmpty then some (low, rest) else none
    | none => none
  | _ => none

/-- Whether an escape that follows a first half is malformed. -/
def brokenSecondHalf : List Char → Bool
  | '\\' :: 'u' :: rest => !(rest.drop 4).isEmpty && (unit? rest).isNone
  | _ => false

/-- A text after its opening mark; `start` is what was left at that mark and `acc` holds the
characters read so far, backwards. A half of a pair that stands alone is replaced by
U+FFFD. -/
def readText (start acc : List Char) : Nat → List Char → Part String
  | 0, _ => stopped start.length
  | _, [] => stopped start.length
  | fuel + 1, c :: cs =>
    if c = '"' then .ok (String.ofList acc.reverse, cs)
    else if c.toNat < 0x20 then stopped (cs.length + 1)
    else if c ≠ '\\' then readText start (c :: acc) fuel cs
    else
      match cs with
      | [] => stopped start.length
      | 'u' :: rest =>
        match unit? rest with
        | none => stopped (rest.length + 1)
        | some (high, after) =>
          if after.isEmpty then stopped (rest.length + 1)
          else if 0xD800 ≤ high ∧ high < 0xDC00 then
            match secondHalf? after with
            | some (low, after') =>
              let code := 0x10000 + (high - 0xD800) * 0x400 + (low - 0xDC00)
              readText start (Char.ofNat code :: acc) fuel after'
            | none =>
              if brokenSecondHalf after then stopped (after.length - 1)
              else readText start ('\uFFFD' :: acc) fuel after
          else if 0xDC00 ≤ high ∧ high < 0xE000 then readText start ('\uFFFD' :: acc) fuel after
          else readText start (Char.ofNat high :: acc) fuel after
      | e :: rest =>
        match shortEscape? e with
        | some c => readText start (c :: acc) fuel rest
        | none => stopped (rest.length + 2)

/-- The whole part of a number: a zero alone, or digits that do not begin with one. -/
def wholePart? : List Char → Option (List Char × List Char)
  | [] => none
  | c :: cs =>
    if c = '0' then some (['0'], cs)
    else if isAsciiDigit c then
      some (c :: cs.takeWhile isAsciiDigit, cs.dropWhile isAsciiDigit)
    else none

/-- The fraction of a number, if one follows: a point and at least one digit. -/
def fractionPart : List Char → List Char × List Char
  | '.' :: cs =>
    let digits := cs.takeWhile isAsciiDigit
    if digits.isEmpty then ([], '.' :: cs) else (digits, cs.dropWhile isAsciiDigit)
  | cs => ([], cs)

/-- The exponent of a number, if one follows: a letter, an optional sign and at least one
digit. -/
def exponentPart : List Char → Option Int × List Char
  | [] => (none, [])
  | c :: cs =>
    if c = 'e' ∨ c = 'E' then
      let (negative, body) := Numeral.signed cs
      let digits := body.takeWhile isAsciiDigit
      if digits.isEmpty then (none, c :: cs)
      else
        let n := Numeral.ofDigits (digits.filterMap Numeral.asciiDigit?)
        (some (Numeral.withSign negative n), body.dropWhile isAsciiDigit)
    else (none, c :: cs)

/-- A number. Without fraction and exponent it is an integer. -/
def readNumber (cs : List Char) : Part Json :=
  let (negative, body) :=
    match cs with
    | '-' :: rest => (true, rest)
    | rest => (false, rest)
  match wholePart? body with
  | none => stopped cs.length
  | some (whole, rest) =>
    let (fraction, rest') := fractionPart rest
    let (power, rest'') := exponentPart rest'
    if fraction.isEmpty && power.isNone then
      if Numeral.maxDigits < whole.length then .error .oversized
      else
        let n := Numeral.ofDigits (whole.filterMap Numeral.asciiDigit?)
        .ok (.int (Numeral.withSign negative n), rest)
    else
      let m := Numeral.ofDigits ((whole ++ fraction).filterMap Numeral.asciiDigit?)
      .ok (.float (.ofDecimal negative m (power.getD 0 - fraction.length)), rest'')

/-- What follows a word, if the text begins with it. -/
def afterWord? (word : String) (cs : List Char) : Option (List Char) :=
  let w := word.toList
  if w.isPrefixOf cs then some (cs.drop w.length) else none

/-- The words that are values by themselves. -/
def words : List (String × Json) := [
  ("null", .null), ("true", .bool true), ("false", .bool false), ("NaN", .float .nan),
  ("Infinity", .float (.infinity false)), ("-Infinity", .float (.infinity true))]

/-- A value that is a word or a number. -/
def readPlain (cs : List Char) : Part Json :=
  match words.findSome? fun (word, v) => (afterWord? word cs).map fun rest => (v, rest) with
  | some result => .ok result
  | none => readNumber cs

mutual

/-- A value, with nothing before it, that may be nested `room` levels deep. -/
def readValue (room : Nat) : Nat → List Char → Part Json
  | 0, cs => stopped cs.length
  | _, [] => stopped 0
  | fuel + 1, c :: cs =>
    if room = 0 ∧ (c = '[' ∨ c = '\x7b') then .error .tooDeep
    else if c = '"' then
      match readText (c :: cs) [] fuel cs with
      | .ok (s, rest) => .ok (.str s, rest)
      | .error fault => .error fault
    else if c = '[' then
      match skipGap cs with
      | ']' :: rest => .ok (.arr [], rest)
      | rest =>
        match readItems (room - 1) fuel rest with
        | .ok (items, rest) => .ok (.arr items, rest)
        | .error fault => .error fault
    else if c = '\x7b' then
      match skipGap cs with
      | '\x7d' :: rest => .ok (.obj [], rest)
      | rest =>
        match readMembers (room - 1) fuel [] rest with
        | .ok (members, rest) => .ok (.obj members, rest)
        | .error fault => .error fault
    else readPlain (c :: cs)

/-- The items of a list up to its closing bracket. -/
def readItems (room : Nat) : Nat → List Char → Part (List Json)
  | 0, cs => stopped cs.length
  | fuel + 1, cs =>
    match readValue room fuel cs with
    | .error fault => .error fault
    | .ok (v, rest) =>
      match skipGap rest with
      | ']' :: rest => .ok ([v], rest)
      | ',' :: rest =>
        match readItems room fuel (skipGap rest) with
        | .ok (items, rest) => .ok (v :: items, rest)
        | .error fault => .error fault
      | rest => stopped rest.length

/-- The members of an object up to its closing brace, put into those read before. -/
def readMembers (room : Nat) : Nat → List (String × Json) → List Char → Part (List (String × Json))
  | 0, _, cs => stopped cs.length
  | fuel + 1, before, cs =>
    match cs with
    | '"' :: body =>
      match readText cs [] fuel body with
      | .error fault => .error fault
      | .ok (key, rest) =>
        match skipGap rest with
        | ':' :: rest =>
          match readValue room fuel (skipGap rest) with
          | .error fault => .error fault
          | .ok (v, rest) =>
            let members := Entries.put before key v
            match skipGap rest with
            | '\x7d' :: rest => .ok (members, rest)
            | ',' :: rest => readMembers room fuel members (skipGap rest)
            | rest => stopped rest.length
        | rest => stopped rest.length
    | _ => stopped cs.length

end

/-- How deeply lists and objects may be nested in a text. -/
def readingBound : Nat := 960

/-- **Reads a text as one value**, or says at which character reading stopped. -/
def readChars (cs : List Char) : Except ReadFault Json :=
  let stoppedAt (left : Nat) : Nat := cs.length - left
  if cs.head? = some '\uFEFF' then .error (.malformed 0)
  else
    match readValue readingBound (2 * cs.length + 2) (skipGap cs) with
    | .error fault => .error (fault.mapPlace stoppedAt)
    | .ok (v, rest) =>
      match skipGap rest with
      | [] => .ok v
      | rest => .error (.malformed (stoppedAt rest.length))

/-- **Reads a text as one value.** -/
def read (s : String) : Except ReadFault Json :=
  readChars s.toList

end Json

end Workflow
