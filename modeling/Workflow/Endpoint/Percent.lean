import Workflow.Charset.Unicode
import Workflow.Text.Digit

/-!
# Percent signs in addresses

A byte may stand in an address as a percent sign and two hexadecimal digits.
`Percent.decode` resolves these escapes; the bytes are read as UTF-8. `Percent.encode` writes
them for characters that must not stand in an address as they are. A percent sign is never
escaped itself, so that nothing is escaped twice.
-/

namespace Workflow

namespace Percent

open Workflow.Text

/-- The bytes of a text with its escapes resolved, of which the first `skip` characters belong
to an escape that has been resolved already. A percent sign without two digits stands for
itself. -/
def bytesFrom : Nat → List Char → List UInt8
  | _, [] => []
  | skip + 1, _ :: cs => bytesFrom skip cs
  | 0, c :: cs =>
    match c, cs with
    | '%', a :: b :: _ =>
      match hexValue? a, hexValue? b with
      | some m, some n => UInt8.ofNat (16 * m + n) :: bytesFrom 2 cs
      | _, _ => bytes (String.singleton c) ++ bytesFrom 0 cs
    | _, _ => bytes (String.singleton c) ++ bytesFrom 0 cs

/-- A text with its escapes resolved, each to one character. The first `skip` characters belong
to an escape that has been resolved already. -/
def charsFrom : Nat → List Char → List Char
  | _, [] => []
  | skip + 1, _ :: cs => charsFrom skip cs
  | 0, c :: cs =>
    match c, cs with
    | '%', a :: b :: _ =>
      match hexValue? a, hexValue? b with
      | some m, some n => Char.ofNat (16 * m + n) :: charsFrom 2 cs
      | _, _ => c :: charsFrom 0 cs
    | _, _ => c :: charsFrom 0 cs

/-- A character as the escapes of its bytes. -/
def escape (c : Char) : List Char :=
  (bytes (String.singleton c)).flatMap fun b =>
    '%' :: (hexPadded 2 b.toNat).map Char.toUpper

/-- **A text with all characters escaped that do not pass a test.** -/
def encode (isPlain : Char → Bool) (cs : List Char) : List Char :=
  cs.flatMap fun c => if isPlain c then [c] else escape c

/-- **A text with its escapes resolved.** -/
def decode (cs : List Char) : List Char :=
  (Charset.readUtf8 (bytesFrom 0 cs)).text

end Percent

end Workflow
