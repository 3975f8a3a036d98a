import Workflow.Charset.Decoding

/-!
# Sets of all characters

UTF-8, UTF-16 and UTF-32. Where bytes stand for no character, as many of them as could have begun
one are one place without a character.
-/

namespace Workflow

namespace Charset

/-! ## UTF-8 -/

/-- A character of which some bytes have been read: how many are owed, the bits so far, and
the bounds of the next byte. -/
structure Pending where
  /-- How many bytes are owed. -/
  owed : Nat
  /-- The bits read so far. -/
  bits : Nat
  /-- The least byte that may follow. -/
  low : Nat := 0x80
  /-- The greatest byte that may follow. -/
  high : Nat := 0xBF

/-- What the first byte of a character says: a character, none, or what is owed. -/
def leadByte (b : Nat) : Option Char ⊕ Pending :=
  if b < 0x80 then .inl (some (Char.ofNat b))
  else if b < 0xC2 then .inl none
  else if b < 0xE0 then .inr { owed := 1, bits := b - 0xC0 }
  else if b < 0xF0 then
    .inr {
      owed := 2, bits := b - 0xE0, low := if b = 0xE0 then 0xA0 else 0x80,
      high := if b = 0xED then 0x9F else 0xBF }
  else if b < 0xF5 then
    .inr {
      owed := 3, bits := b - 0xF0, low := if b = 0xF0 then 0x90 else 0x80,
      high := if b = 0xF4 then 0x8F else 0xBF }
  else .inl none

/-- Reads UTF-8, in the middle of a character or between two. -/
def utf8From : Option Pending → List UInt8 → Decoded
  | none, [] => []
  | some _, [] => [none]
  | state, b :: bs =>
    let lead (_ : Unit) : Decoded :=
      match leadByte b.toNat with
      | .inl c => c :: utf8From none bs
      | .inr p => utf8From (some p) bs
    match state with
    | none => lead ()
    | some p =>
      if p.low ≤ b.toNat ∧ b.toNat ≤ p.high then
        let bits := p.bits * 64 + (b.toNat - 0x80)
        if p.owed ≤ 1 then ofCode? bits :: utf8From none bs
        else utf8From (some { owed := p.owed - 1, bits }) bs
      else none :: lead ()

/-- Reads UTF-8. -/
def readUtf8 (bytes : List UInt8) : Decoded :=
  utf8From none bytes

/-- The mark at the beginning of UTF-8. -/
def utf8Mark : List UInt8 := [0xEF, 0xBB, 0xBF]

/-- Bytes without the mark at their beginning. -/
def withoutMark (bytes : List UInt8) : List UInt8 :=
  if utf8Mark.isPrefixOf bytes then bytes.drop 3 else bytes

/-- Reads UTF-8 after a mark, of which even a beginning is left out if nothing follows. -/
def readMarkedUtf8 (bytes : List UInt8) : Decoded :=
  if bytes.isPrefixOf utf8Mark then [] else readUtf8 (withoutMark bytes)

/-! ## Units of several bytes -/

/-- The order of the bytes of a unit. -/
inductive ByteOrder where
  /-- The least significant byte comes first. -/
  | little
  /-- The most significant byte comes first. -/
  | big
  /-- A mark at the beginning tells. -/
  | marked
  deriving DecidableEq, Inhabited

/-- The number of some bytes. -/
def unit (big : Bool) (bytes : List UInt8) : Nat :=
  let ordered := if big then bytes else bytes.reverse
  ordered.foldl (fun n b => n * 256 + b.toNat) 0

/-- The units of two bytes, and whether a byte is left over. -/
def units16 (big : Bool) : List UInt8 → List Nat × Bool
  | a :: b :: rest =>
    let (units, odd) := units16 big rest
    (unit big [a, b] :: units, odd)
  | [_] => ([], true)
  | [] => ([], false)

/-- The units of four bytes, and whether bytes are left over. -/
def units32 (big : Bool) : List UInt8 → List Nat × Bool
  | a :: b :: c :: d :: rest =>
    let (units, odd) := units32 big rest
    (unit big [a, b, c, d] :: units, odd)
  | [] => ([], false)
  | _ => ([], true)

/-- Whether a unit is the first of two that stand for one character. -/
def isHigh (n : Nat) : Bool := 0xD800 ≤ n && n < 0xDC00

/-- Whether a unit is the second of two that stand for one character. -/
def isLow (n : Nat) : Bool := 0xDC00 ≤ n && n < 0xE000

/-- Joins units of two bytes, after a unit that is the first of two if there is one. -/
def join16 : Option Nat → List Nat → Decoded
  | none, [] => []
  | some _, [] => [none]
  | none, n :: rest =>
    if isHigh n then join16 (some n) rest else ofCode? n :: join16 none rest
  | some h, n :: rest =>
    if isLow n then
      ofCode? (0x10000 + (h - 0xD800) * 0x400 + (n - 0xDC00)) :: join16 none rest
    else if isHigh n then none :: join16 (some n) rest
    else none :: ofCode? n :: join16 none rest

/-- The place for what is left over. A pair that lacks its second half takes it with it. -/
def closing (odd open_ : Bool) : Decoded :=
  if odd && !open_ then [none] else []

/-- Whether the most significant byte comes first, and the bytes without a mark. Fewer bytes
than a mark has are no unit in either order. -/
def unmark (order : ByteOrder) (width : Nat) (bytes : List UInt8) :
    Option (Bool × List UInt8) :=
  match order with
  | .little => some (false, bytes)
  | .big => some (true, bytes)
  | .marked =>
    if bytes.length < width then some (false, bytes)
    else if unit false (bytes.take width) = 0xFEFF then some (false, bytes.drop width)
    else if unit true (bytes.take width) = 0xFEFF then some (true, bytes.drop width)
    else none

/-- Reads UTF-16. It cannot be read if a mark is missing. -/
def decode16 (order : ByteOrder) (bytes : List UInt8) : Option Decoded := do
  let (big, bytes) ← unmark order 2 bytes
  let (units, odd) := units16 big bytes
  return join16 none units ++ closing odd (units.getLast?.any isHigh)

/-- Reads UTF-32. It cannot be read if a mark is missing. -/
def decode32 (order : ByteOrder) (bytes : List UInt8) : Option Decoded := do
  let (big, bytes) ← unmark order 4 bytes
  let (units, odd) := units32 big bytes
  return units.map ofCode? ++ closing odd false

/-- Reads units of two bytes of which none may be left over. -/
def whole16? (big : Bool) (bytes : List UInt8) : Option (List Char) :=
  match units16 big bytes with
  | (units, false) => some (join16 none units).text
  | (_, true) => none

/-- Reads units of four bytes of which none may be left over, nor lie beyond all characters. -/
def whole32? (big : Bool) (bytes : List UInt8) : Option (List Char) :=
  match units32 big bytes with
  | (units, false) =>
    if units.all (· < 0x110000) then some (Decoded.text (units.map ofCode?)) else none
  | (_, true) => none

end Charset

/-- The bytes of a text in UTF-8. -/
def Text.bytes (s : String) : List UInt8 :=
  s.toUTF8.toList

end Workflow
