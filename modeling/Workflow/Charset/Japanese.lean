import Workflow.Charset.Chinese
import Workflow.Charset.Table.JisX0208
import Workflow.Charset.Table.JisX0212
import Workflow.Charset.Table.JisX0213
import Workflow.Charset.Table.Windows932

/-!
# Japanese sets

JIS X 0208 has the common characters and JIS X 0212 rarer ones; JIS X 0213 adds to the first in a
plane of its own and in a second one, and its edition of 2004 adds a few more. EUC writes them with
bytes from 161 on, and Shift JIS moves the rows so that there is room for small katakana, which have
single bytes.
-/

namespace Workflow

namespace Charset

/-- The editions of JIS X 0213. -/
inductive Edition where
  /-- The first edition. -/
  | of2000
  /-- The second edition. -/
  | of2004
  deriving DecidableEq, Inhabited

/-! ## Planes -/

/-- The places of the first plane that the second edition has added. -/
def addedPlaces : List (Nat × Nat) := [
  (0x2E, 0x21), (0x2F, 0x7E), (0x4F, 0x54), (0x4F, 0x7E), (0x74, 0x27), (0x7E, 0x7A),
  (0x7E, 0x7B), (0x7E, 0x7C), (0x7E, 0x7D), (0x7E, 0x7E)]

/-- The places of the first plane that stand for two characters, the second of which is a mark. -/
def markedPlaces : List ((Nat × Nat) × List Char) := [
  ((0x24, 0x77), ['\u304b', '\u309a']), ((0x24, 0x78), ['\u304d', '\u309a']),
  ((0x24, 0x79), ['\u304f', '\u309a']), ((0x24, 0x7A), ['\u3051', '\u309a']),
  ((0x24, 0x7B), ['\u3053', '\u309a']), ((0x25, 0x77), ['\u30ab', '\u309a']),
  ((0x25, 0x78), ['\u30ad', '\u309a']), ((0x25, 0x79), ['\u30af', '\u309a']),
  ((0x25, 0x7A), ['\u30b1', '\u309a']), ((0x25, 0x7B), ['\u30b3', '\u309a']),
  ((0x25, 0x7C), ['\u30bb', '\u309a']), ((0x25, 0x7D), ['\u30c4', '\u309a']),
  ((0x25, 0x7E), ['\u30c8', '\u309a']), ((0x26, 0x78), ['\u31f7', '\u309a']),
  ((0x2B, 0x44), ['\u00e6', '\u0300']), ((0x2B, 0x48), ['\u0254', '\u0300']),
  ((0x2B, 0x49), ['\u0254', '\u0301']), ((0x2B, 0x4A), ['\u028c', '\u0300']),
  ((0x2B, 0x4B), ['\u028c', '\u0301']), ((0x2B, 0x4C), ['\u0259', '\u0300']),
  ((0x2B, 0x4D), ['\u0259', '\u0301']), ((0x2B, 0x4E), ['\u025a', '\u0300']),
  ((0x2B, 0x4F), ['\u025a', '\u0301']), ((0x2B, 0x65), ['\u02e9', '\u02e5']),
  ((0x2B, 0x66), ['\u02e5', '\u02e9'])]

/-- The characters at a place of the first plane of JIS X 0213. -/
def firstPlane? (edition : Edition) (row place : Nat) : Option (List Char) :=
  if edition = .of2000 ∧ addedPlaces.contains (row, place) then none
  else
    match markedPlaces.find? fun entry => entry.1 == (row, place) with
    | some entry => some entry.2
    | none =>
      ((jisX0208.at? row place).or (jisX0213First.at? row place)).map fun c => [c]

/-- The place of the wide tilde in the first plane. -/
def tildePlace : Nat × Nat := (0x22, 0x32)

/-- The place of the wide backslash in the first plane. -/
def backslashPlace : Nat × Nat := (0x21, 0x40)

/-- The characters at a place of the first plane, the tilde as it is in ASCII. -/
def narrowFirstPlane? (edition : Edition) (row place : Nat) : Option (List Char) :=
  if (row, place) = tildePlace then some ['~'] else firstPlane? edition row place

/-- The character at a place of the second plane of JIS X 0213. -/
def secondPlane? (edition : Edition) (row place : Nat) : Option Char :=
  if edition = .of2000 ∧ row = 0x7D ∧ place = 0x3B then some '\u9b1d'
  else jisX0213Second.at? row place

/-! ## EUC -/

/-- A small katakana by its byte. -/
def smallKatakana? (b : Nat) : Option Char :=
  if 0xA1 ≤ b ∧ b ≤ 0xDF then ofCode? (0xFEC0 + b) else none

/-- Some characters for so many bytes; one byte is skipped if there are none. -/
def Step.some (length : Nat) : Option (List Char) → Step Unit
  | .some cs => .chars cs length ()
  | none => .bad 1

/-- A step that reads a place of JIS X 0208. -/
def commonStep (row place : Nat) : Step Unit :=
  Step.one 2 (jisX0208.at? row place)

/-- A step that reads a place of the first plane of JIS X 0213. Both bytes are skipped at a place
that the second edition has added. -/
def firstPlaneStep (edition : Edition) (row place : Nat) : Step Unit :=
  if edition = .of2000 ∧ addedPlaces.contains (row, place) then .bad 2
  else Step.some 2 (firstPlane? edition row place)

/-- A step of EUC. The sets are given for two bytes and for three, all from 161 on, and less 128. -/
def eucStep (two : Nat → Nat → Step Unit) (three? : Nat → Nat → Option Char)
    (_ : Unit) (bytes : List UInt8) : Step Unit :=
  let less (b : UInt8) : Nat := if 0x80 ≤ b then b.toNat - 0x80 else 0
  match bytes with
  | [] => .short
  | a :: rest =>
    if a < 0x80 then .chars [Char.ofNat a.toNat] 1 ()
    else
      match rest with
      | [] => .short
      | b :: rest =>
        if a = 0x8E then Step.one 2 (smallKatakana? b.toNat)
        else if a = 0x8F then
          match rest with
          | [] => .short
          | c :: _ => Step.one 3 (three? (less b) (less c))
        else two (less a) (less b)

/-- A step of EUC-JP. -/
def eucJpStep : Unit → List UInt8 → Step Unit :=
  eucStep commonStep jisX0212.at?

/-- A step of EUC with JIS X 0213. -/
def euc0213Step (edition : Edition) : Unit → List UInt8 → Step Unit :=
  eucStep (firstPlaneStep edition) fun a b => (secondPlane? edition a b).or (jisX0212.at? a b)

/-! ## Shift JIS -/

/-- The row and the place of two bytes, rows counted from zero on. -/
def shifted? (a b : Nat) : Option (Nat × Nat) :=
  if ((0x81 ≤ a ∧ a ≤ 0x9F) ∨ (0xE0 ≤ a ∧ a ≤ 0xFC)) ∧ 0x40 ≤ b ∧ b ≠ 0x7F ∧ b ≤ 0xFC then
    let row := 2 * (if a < 0xE0 then a - 0x81 else a - 0xC1)
    let place := if b < 0x80 then b - 0x40 else b - 0x41
    if place < 0x5E then some (row, place + 0x21) else some (row + 1, place - 0x5E + 0x21)
  else none

/-- Whether a byte is the first one of two. -/
def isShiftLead (a : UInt8) : Bool :=
  (0x81 ≤ a && a ≤ 0x9F) || (0xE0 ≤ a && a ≤ 0xFC)

/-- A step of Shift JIS, given what single bytes stand for and what a row and a place do. -/
def shiftStep (single? : Nat → Option Char) (double : Nat → Nat → Step Unit)
    (_ : Unit) (bytes : List UInt8) : Step Unit :=
  match bytes with
  | [] => .short
  | a :: rest =>
    match single? a.toNat with
    | some c => .chars [c] 1 ()
    | none =>
      if !isShiftLead a then .bad 1
      else
        match rest with
        | [] => .short
        | b :: _ =>
          match shifted? a.toNat b.toNat with
          | some (row, place) => double row place
          | none => .bad 1

/-- A single byte: ASCII or a small katakana. -/
def asciiKatakana? (b : Nat) : Option Char :=
  if b < 0x80 then some (Char.ofNat b) else smallKatakana? b

/-- A single byte in a set that has a sign for the Yen and an overline. -/
def romanKatakana? (b : Nat) : Option Char :=
  if b = 0x5C then some '\u00a5' else if b = 0x7E then some '\u203e' else asciiKatakana? b

/-- A step of Shift JIS. -/
def shiftJisStep : Unit → List UInt8 → Step Unit :=
  shiftStep asciiKatakana? fun row place => commonStep (row + 0x21) place

/-- A row that lies beyond the first plane, in the second one. -/
def secondRow (row : Nat) : Nat :=
  if 0x67 ≤ row then row + 0x07
  else if 0x63 ≤ row ∨ row = 0x5F then row - 0x37
  else row - 0x3D

/-- A step of Shift JIS with JIS X 0213, which has the tilde and the backslash of ASCII in the place
of the wide ones. -/
def shift0213Step (edition : Edition) : Unit → List UInt8 → Step Unit :=
  shiftStep romanKatakana? fun row place =>
    if row < 0x5E then
      if (row + 0x21, place) = tildePlace then .chars ['~'] 2 ()
      else if (row + 0x21, place) = backslashPlace then .chars ['\\'] 2 ()
      else firstPlaneStep edition (row + 0x21) place
    else Step.one 2 (secondPlane? edition (secondRow row) place)

/-! ## The Windows set -/

/-- A single byte in the Windows set. -/
def windows932Single? (b : Nat) : Option Char :=
  if b ≤ 0x80 then some (Char.ofNat b)
  else if b = 0xA0 then some '\uf8f0'
  else if 0xFD ≤ b then ofCode? (0xF8F1 + (b - 0xFD))
  else smallKatakana? b

/-- Two bytes in the Windows set. -/
def windows932Pair? (a b : Nat) : Option Char :=
  if 0xF0 ≤ a ∧ a ≤ 0xF9 ∧ 0x40 ≤ b ∧ b ≠ 0x7F ∧ b ≤ 0xFC then
    ofCode? (0xE000 + 188 * (a - 0xF0) + (if b < 0x80 then b - 0x40 else b - 0x41))
  else (windows932.pair? a b).or
    ((shifted? a b).bind fun (row, place) => jisX0208.at? (row + 0x21) place)

/-- A step of the Japanese Windows set. -/
def windows932Step (_ : Unit) (bytes : List UInt8) : Step Unit :=
  match bytes with
  | [] => .short
  | a :: rest =>
    match windows932Single? a.toNat with
    | some c => .chars [c] 1 ()
    | none =>
      match rest with
      | [] => .short
      | b :: _ => Step.one 2 (windows932Pair? a.toNat b.toNat)

end Charset

end Workflow
