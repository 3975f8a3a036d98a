/-!
# Reading bytes

A character set says which characters a row of bytes stands for. Bytes that stand for none do not
stop the reading: what is wrong is one place without a character, `none`, and reading goes on after
as many bytes as the set says.

A set with several bytes for a character is given by a step: what the first bytes of a row stand
for, and how many they are. A step may depend on a state that earlier bytes have left.

`Charset.Fault` lists the reasons for which a whole row of bytes cannot be read.
-/

namespace Workflow

namespace Charset

/-- **What bytes stand for**: characters, and `none` at each place where something is wrong. -/
abbrev Decoded := List (Option Char)

/-- The character that stands for bytes without a meaning. -/
def replacement : Char := '\ufffd'

/-- The text of what was read. -/
def Decoded.text (d : Decoded) : List Char :=
  d.map fun c => c.getD replacement

/-- The text of what was read if nothing is wrong. -/
def Decoded.whole? (d : Decoded) : Option (List Char) :=
  d.mapM fun c => c

/-- The character with a code point, none if there is none. -/
def ofCode? (n : Nat) : Option Char :=
  if n.isValidChar then some (Char.ofNat n) else none

/-- **Why bytes cannot be read.** -/
inductive Fault where
  /-- A mark must tell the order of the bytes in units of so many bits and there is none. -/
  | unmarked (bits : Nat)
  /-- Too many bytes at the end may be the beginning of something. -/
  | overlong
  /-- A byte, at a position, is none of ASCII where only those are read. -/
  | notAscii (byte position : Nat)
  /-- The bytes refer to a set that cannot be read there. -/
  | stuck
  /-- The set only reads bytes without anything wrong. -/
  | exactOnly
  /-- The set only reads bytes without anything wrong, and makes bytes of them. -/
  | bytesOnly
  /-- The set makes a text of a text. -/
  | textOnly
  /-- The set reads nothing at all. -/
  | readsNothing
  /-- The name of the set has a zero in it. -/
  | zeroInName
  deriving DecidableEq, Inhabited

/-- The wording of a fault. -/
def Fault.message : Fault → String
  | .unmarked bits => "UTF-" ++ toString bits ++ " stream does not start with BOM"
  | .overlong => "pending buffer overflow"
  | .notAscii byte position =>
    "'ascii' codec can't decode byte 0x" ++ String.ofList (Nat.toDigits 16 byte) ++
      " in position " ++ toString position ++ ": ordinal not in range(128)"
  | .stuck => "internal codec error"
  | .exactOnly => "Unsupported error handling replace"
  | .bytesOnly => "the set makes bytes of bytes"
  | .textOnly => "the set makes a text of a text"
  | .readsNothing => "undefined encoding"
  | .zeroInName => "embedded null character"

/-- **What a row of bytes begins with.** -/
inductive Step (σ : Type) where
  /-- So many bytes stand for some characters, and leave a state. -/
  | chars (cs : List Char) (length : Nat) (state : σ)
  /-- So many bytes stand for nothing. -/
  | bad (length : Nat)
  /-- The bytes refer to a set that cannot be read there. -/
  | stuck
  /-- The bytes may be the beginning of something, but end too soon. -/
  | short
  deriving Inhabited

variable {σ : Type}

/-- Reads bytes step by step, of which the first `skip` ones have already been read. -/
def stepsFrom (step : σ → List UInt8 → Step σ) : Nat → σ → List UInt8 → Decoded
  | _, _, [] => []
  | skip + 1, state, _ :: bytes => stepsFrom step skip state bytes
  | 0, state, b :: bytes =>
    match step state (b :: bytes) with
    | .chars cs length state => cs.map some ++ stepsFrom step (length - 1) state bytes
    | .bad length => none :: stepsFrom step (length - 1) state bytes
    | .stuck | .short => [none]

/-- **Reads bytes** step by step. -/
def steps (step : σ → List UInt8 → Step σ) (start : σ) (bytes : List UInt8) : Decoded :=
  stepsFrom step 0 start bytes

/-- What stands against reading bytes at all, of which the first `skip` ones have already been
read. -/
def faultFrom (step : σ → List UInt8 → Step σ) : Nat → σ → List UInt8 → Option Fault
  | _, _, [] => none
  | skip + 1, state, _ :: bytes => faultFrom step skip state bytes
  | 0, state, b :: bytes =>
    match step state (b :: bytes) with
    | .chars _ length state => faultFrom step (length - 1) state bytes
    | .bad length => faultFrom step (length - 1) state bytes
    | .stuck => some .stuck
    | .short => if 8 ≤ bytes.length then some .overlong else none

/-- One character for so many bytes; one byte is skipped if there is none. -/
def Step.one (length : Nat) : Option Char → Step Unit
  | some c => .chars [c] length ()
  | none => .bad 1

end Charset

end Workflow
