import Workflow.Charset.Unicode

/-!
# UTF-7

All characters with the bytes of ASCII alone. A plus sign begins digits of six bits each, which
make up units of two bytes as in UTF-16, and a byte that is no digit ends them; a minus sign there
is left out. A plus sign before a minus sign stands for itself.
-/

namespace Workflow

namespace Charset

namespace Utf7

/-- The six bits of a digit. -/
def digit? (b : UInt8) : Option Nat :=
  if 0x41 ≤ b ∧ b ≤ 0x5A then some (b.toNat - 0x41)
  else if 0x61 ≤ b ∧ b ≤ 0x7A then some (b.toNat - 0x61 + 26)
  else if 0x30 ≤ b ∧ b ≤ 0x39 then some (b.toNat - 0x30 + 52)
  else if b = 0x2B then some 62
  else if b = 0x2F then some 63
  else none

/-- **What digits have left.** -/
structure Bits where
  /-- How many bits no unit has been made of. -/
  count : Nat := 0
  /-- The number of these bits. -/
  value : Nat := 0
  /-- A unit that is the first of two. -/
  half : Option Nat := none
  deriving DecidableEq, Inhabited

/-- The character of a unit. One half of two units alone is shown as the replacement. -/
def unitChar (n : Nat) : Option Char := some ((ofCode? n).getD replacement)

/-- The half that has remained alone. -/
def Bits.alone (s : Bits) : Decoded :=
  (s.half.map unitChar).toList

/-- The characters that a unit completes, and the half that it may be. -/
def Bits.join (s : Bits) (n : Nat) : Decoded × Option Nat :=
  match s.half with
  | some h =>
    if isLow n then ([unitChar (0x10000 + (h - 0xD800) * 0x400 + (n - 0xDC00))], none)
    else if isHigh n then (s.alone, some n)
    else (s.alone ++ [unitChar n], none)
  | none => if isHigh n then ([], some n) else ([unitChar n], none)

/-- The bits after a digit, and the characters that it completes. -/
def Bits.add (s : Bits) (digit : Nat) : Decoded × Bits :=
  let count := s.count + 6
  let value := s.value * 64 + digit
  if 16 ≤ count then
    let rest := if count = 16 then 1 else if count = 18 then 4 else 16
    let (done, half) := s.join (value / rest)
    (done, { count := count - 16, value := value % rest, half })
  else ([], { s with count, value })

/-- Whether digits may end here: no whole digit is left, and the bits that are left are zero. -/
def Bits.isClosed (s : Bits) : Bool := s.count < 6 && s.value == 0

/-- Whether a byte stands for itself. -/
def isPlain (b : UInt8) : Bool := b < 0x80 && b != 0x2B

/-- A byte outside digits. -/
def plain (b : UInt8) : Option Char :=
  if isPlain b then some (Char.ofNat b.toNat) else none

/-- What is being read. -/
inductive State where
  /-- Characters that stand for themselves. -/
  | outside
  /-- A plus sign has been read. -/
  | opened
  /-- Digits. -/
  | digits (s : Bits)
  deriving DecidableEq, Inhabited

/-- Reads bytes from a state on. -/
def readFrom : State → List UInt8 → Decoded
  | .outside, [] | .opened, [] => []
  | .digits s, [] => if s.half.isNone && s.isClosed then [] else [none]
  | .outside, b :: bytes =>
    if b = 0x2B then readFrom .opened bytes else plain b :: readFrom .outside bytes
  | .opened, b :: bytes =>
    match digit? b with
    | some n => let (_, s) := Bits.add {} n; readFrom (.digits s) bytes
    | none =>
      if b = 0x2D then some '+' :: readFrom .outside bytes else none :: readFrom .outside bytes
  | .digits s, b :: bytes =>
    match digit? b with
    | some n => let (done, s) := s.add n; done ++ readFrom (.digits s) bytes
    | none =>
      if !s.isClosed then none :: readFrom .outside bytes
      else
        (if isPlain b then s.alone else []) ++
          (if b = 0x2D then [] else [plain b]) ++ readFrom .outside bytes

end Utf7

/-- Reads UTF-7. -/
def readUtf7 (bytes : List UInt8) : Decoded :=
  Utf7.readFrom .outside bytes

end Charset

end Workflow
