import Workflow.Charset.Decoding
import Workflow.Text.Digit
import Workflow.Text.Punycode

/-!
# Characters written with others

Sets in which characters are written with those of ASCII: with escapes that begin with a backslash,
or with the letters and digits of Punycode. Other bytes stand for themselves.
-/

namespace Workflow

namespace Charset

open Workflow.Text

/-! ## Backslashes -/

/-- The character of a byte. -/
def byteChar (b : UInt8) : Char := Char.ofNat b.toNat

/-- The number that some hexadecimal digits stand for, or how many digits there are before
something else. -/
def hexNumber (n : Nat) : Nat → List UInt8 → Nat ⊕ Nat
  | 0, _ => .inl n
  | _ + 1, [] => .inr 0
  | count + 1, b :: bytes =>
    match hexValue? (byteChar b) with
    | some digit =>
      match hexNumber (16 * n + digit) count bytes with
      | .inl n => .inl n
      | .inr digits => .inr (digits + 1)
    | none => .inr 0

/-- The character of a number in an escape. One half of two units is shown as the replacement. -/
def escapedChar? (n : Nat) : Option Char :=
  if n < 0x110000 then some ((ofCode? n).getD replacement) else none

/-- A step after a backslash and a letter that so many hexadecimal digits follow. -/
def hexStep (count : Nat) (bytes : List UInt8) : Step Unit :=
  match hexNumber 0 count bytes with
  | .inl n =>
    match escapedChar? n with
    | some c => .chars [c] (count + 2) ()
    | none => .bad (count + 2)
  | .inr digits => if digits = bytes.length then .short else .bad (digits + 2)

/-- How many octal digits there are at the beginning, three at most. -/
def octalCount (bytes : List UInt8) : Nat :=
  ((bytes.take 3).takeWhile fun b => 0x30 ≤ b && b ≤ 0x37).length

/-- The number of octal digits. -/
def octalNumber (bytes : List UInt8) : Nat :=
  bytes.foldl (fun n b => 8 * n + (b.toNat - 0x30)) 0

/-- The characters that letters after a backslash stand for. A line feed stands for none. -/
def letterEscapes : List (Char × List Char) := [
  ('\n', []), ('\\', ['\\']), ('\x27', ['\x27']), ('"', ['"']), ('b', ['\x08']), ('f', ['\x0c']),
  ('t', ['\t']), ('n', ['\n']), ('r', ['\r']), ('v', ['\x0b']), ('a', ['\x07'])]

/-- A step after a backslash and the letter for a name in braces. No name is known. -/
def nameStep (bytes : List UInt8) : Step Unit :=
  match bytes with
  | [] => .short
  | b :: rest =>
    if b ≠ 0x7B then .bad 2
    else
      let name := rest.takeWhile (· != 0x7D)
      if name.length = rest.length then .short
      else if name.isEmpty then .bad 3
      else .bad (name.length + 4)

/-- A step of reading escapes. -/
def escapeStep (_ : Unit) (bytes : List UInt8) : Step Unit :=
  match bytes with
  | [] => .short
  | 0x5C :: rest =>
    match rest with
    | [] => .short
    | b :: after =>
      match letterEscapes.find? fun entry => entry.1 == byteChar b with
      | some entry => .chars entry.2 2 ()
      | none =>
        if 0 < octalCount rest then
          let digits := rest.take (octalCount rest)
          .chars [Char.ofNat (octalNumber digits)] (digits.length + 1) ()
        else if b = 0x78 then hexStep 2 after
        else if b = 0x75 then hexStep 4 after
        else if b = 0x55 then hexStep 8 after
        else if b = 0x4E then nameStep after
        else .chars ['\\', byteChar b] 2 ()
  | b :: _ => .chars [byteChar b] 1 ()

/-- A step of reading escapes of code points alone. -/
def codeEscapeStep (_ : Unit) (bytes : List UInt8) : Step Unit :=
  match bytes with
  | 0x5C :: b :: after =>
    if b = 0x75 then hexStep 4 after
    else if b = 0x55 then hexStep 8 after
    else .chars ['\\', byteChar b] 2 ()
  | b :: _ => .chars [byteChar b] 1 ()
  | [] => .short

/-! ## Punycode -/

/-- The first byte that is none of ASCII, with its position from a position on. -/
def firstNotAscii? (position : Nat) : List UInt8 → Option Fault
  | [] => none
  | b :: bytes =>
    if b < 0x80 then firstNotAscii? (position + 1) bytes
    else some (.notAscii b.toNat position)

/-- Puts in the characters that numbers stand for. It stops where no number can be read, and a code
point that is too great starts again from that of a question mark. -/
def insertWhile (bias : Nat) (isFirst : Bool) (code place : Nat) (text : List Char)
    (digits : List Char) : List Char :=
  match digits with
  | [] => text
  | c :: cs =>
    match _h : Punycode.number? bias 0 1 (c :: cs) with
    | none => text
    | some (n, rest) =>
      let length := text.length + 1
      let next := code + (place + n) / length
      let code := if next < 0x110000 then next else '?'.toNat
      let place := (place + n) % length
      insertWhile (Punycode.adapt n isFirst length) false code (place + 1)
        (text.take place ++ (ofCode? code).getD replacement :: text.drop place) rest
termination_by digits.length
decreasing_by exact Punycode.length_of_number? (by assumption)

/-- The bytes before the last hyphen, and those after it, which are all if there is none. -/
def cutAtHyphen (bytes : List UInt8) : List UInt8 × List UInt8 :=
  let after := (bytes.reverse.takeWhile (· != 0x2D)).reverse
  (bytes.take (bytes.length - after.length - 1), after)

/-- Reads Punycode. The numbers must be ASCII. -/
def readPunycode (bytes : List UInt8) : Except Fault Decoded :=
  let (plain, digits) := cutAtHyphen bytes
  match firstNotAscii? 0 digits with
  | some fault => .error fault
  | none =>
    let start := plain.map fun b => if b < 0x80 then byteChar b else replacement
    .ok ((insertWhile 72 true 0x80 0 start (digits.map byteChar)).map some)

/-- Reads Punycode in which nothing is wrong. -/
def exactPunycode? (bytes : List UInt8) : Option (List Char) :=
  if (firstNotAscii? 0 bytes).isSome then none else Punycode.decode? (bytes.map byteChar)

end Charset

end Workflow
