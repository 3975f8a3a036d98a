import Workflow.Charset.Decoding
import Workflow.Charset.Table.Big5
import Workflow.Charset.Table.Big5More
import Workflow.Charset.Table.Gb18030
import Workflow.Charset.Table.Gb2312
import Workflow.Charset.Table.Gbk

/-!
# Chinese sets

The sets of the mainland are GB 2312, GBK, which adds characters to it, and GB 18030, which adds all
the others with codes of four bytes; HZ writes GB 2312 with the bytes of ASCII alone. The sets of
Taiwan and Hong Kong are Big5 and what adds to it.
-/

namespace Workflow

namespace Charset

/-- Reads a byte below 128 as it is, and two bytes otherwise. -/
def asciiOrPair (pair? : Nat → Nat → Option Char) : List UInt8 → Step Unit
  | [] => .short
  | a :: rest =>
    if a < 0x80 then .chars [Char.ofNat a.toNat] 1 ()
    else
      match rest with
      | [] => .short
      | b :: _ => Step.one 2 (pair? a.toNat b.toNat)

/-! ## The mainland -/

/-- A character of GB 2312 by its bytes, both from 161 on. -/
def gb2312Pair? (a b : Nat) : Option Char :=
  if 0x80 ≤ a ∧ 0x80 ≤ b then gb2312.at? (a - 0x80) (b - 0x80) else none

/-- A step of GB 2312. -/
def gb2312Step (_ : Unit) (bytes : List UInt8) : Step Unit :=
  asciiOrPair gb2312Pair? bytes

/-- A character of GBK. -/
def gbkPair? (a b : Nat) : Option Char :=
  (gbkMore.pair? a b).or (gb2312Pair? a b)

/-- A step of GBK. -/
def gbkStep (_ : Unit) (bytes : List UInt8) : Step Unit :=
  asciiOrPair gbkPair? bytes

/-- A character of GB 18030 for private use. -/
def privatePair? (a b : Nat) : Option Char :=
  if 0xAA ≤ a ∧ a ≤ 0xAF ∧ 0xA1 ≤ b ∧ b ≤ 0xFE then ofCode? (0xE000 + 94 * (a - 0xAA) + (b - 0xA1))
  else if 0xF8 ≤ a ∧ a ≤ 0xFE ∧ 0xA1 ≤ b ∧ b ≤ 0xFE then
    ofCode? (0xE234 + 94 * (a - 0xF8) + (b - 0xA1))
  else if 0xA1 ≤ a ∧ a ≤ 0xA7 ∧ 0x40 ≤ b ∧ b ≤ 0xA0 ∧ b ≠ 0x7F then
    ofCode? (0xE4C6 + 96 * (a - 0xA1) + (if b < 0x7F then b - 0x40 else b - 0x41))
  else none

/-- A character that GB 18030 adds with two bytes. -/
def addedPair? (a b : Nat) : Option Char :=
  let n := a * 256 + b
  match gb18030Runs.find? fun run => run.1 ≤ n && n < run.1 + run.2.2 with
  | some run => ofCode? (run.2.1 + (n - run.1))
  | none => none

/-- A character of GB 18030 with two bytes. -/
def gb18030Pair? (a b : Nat) : Option Char :=
  ((gbkPair? a b).or (privatePair? a b)).or (addedPair? a b)

/-- The character of four bytes, by their place from the first four bytes on. -/
def gb18030Linear? (n : Nat) : Option Char :=
  if n < 39420 then
    match gb18030Starts.reverse.find? fun start => start.1 ≤ n with
    | some start => ofCode? (start.2 + (n - start.1))
    | none => none
  else if n < 15 * 12600 then none
  else ofCode? (0x10000 + (n - 15 * 12600))

/-- The character of four bytes. -/
def gb18030Four? (a b c d : Nat) : Option Char :=
  if 0x81 ≤ a ∧ a ≤ 0xFE ∧ 0x81 ≤ c ∧ c ≤ 0xFE ∧ 0x30 ≤ d ∧ d ≤ 0x39 then
    gb18030Linear? ((((a - 0x81) * 10 + (b - 0x30)) * 126 + (c - 0x81)) * 10 + (d - 0x30))
  else none

/-- A step of GB 18030. A digit as the second byte says that there are four. -/
def gb18030Step (_ : Unit) (bytes : List UInt8) : Step Unit :=
  match bytes with
  | a :: b :: rest =>
    if 0x80 ≤ a ∧ 0x30 ≤ b ∧ b ≤ 0x39 then
      match rest with
      | c :: d :: _ => Step.one 4 (gb18030Four? a.toNat b.toNat c.toNat d.toNat)
      | _ => .short
    else asciiOrPair gb18030Pair? bytes
  | _ => asciiOrPair gb18030Pair? bytes

/-- A step of HZ. The state is whether two bytes make up a character. A tilde begins an escape: a
tilde itself, the switch to two bytes and back, or a line feed that is left out. -/
def hzStep (double : Bool) (bytes : List UInt8) : Step Bool :=
  match bytes with
  | [] => .short
  | a :: rest =>
    if a = 0x7E then
      match rest with
      | [] => .short
      | b :: _ =>
        if b = 0x7E ∧ !double then .chars ['~'] 2 double
        else if b = 0x7B ∧ !double then .chars [] 2 true
        else if b = 0x0A ∧ !double then .chars [] 2 double
        else if b = 0x7D ∧ double then .chars [] 2 false
        else .bad 1
    else if 0x80 ≤ a then .bad 1
    else if !double then .chars [Char.ofNat a.toNat] 1 double
    else
      match rest with
      | [] => .short
      | b :: _ =>
        match gb2312.at? a.toNat b.toNat with
        | some c => .chars [c] 2 double
        | none => .bad 1

/-! ## Taiwan and Hong Kong -/

/-- A step of Big5. -/
def big5Step (_ : Unit) (bytes : List UInt8) : Step Unit :=
  asciiOrPair big5.pair? bytes

/-- A step of the Taiwanese Windows set. -/
def windows950Step (_ : Unit) (bytes : List UInt8) : Step Unit :=
  asciiOrPair (fun a b => (windows950.pair? a b).or (big5.pair? a b)) bytes

/-- The codes of the Hong Kong set that stand for a letter with a mark of its own. -/
def hongKongMarked : List (Nat × List Char) := [
  (0x8862, ['\u00ca', '\u0304']), (0x8864, ['\u00ca', '\u030c']),
  (0x88A3, ['\u00ea', '\u0304']), (0x88A5, ['\u00ea', '\u030c'])]

/-- The codes of Big5 that the Hong Kong set leaves out. -/
def hongKongAbsent : List Nat := [0xC6CF, 0xC6D3, 0xC6D5, 0xC6D7, 0xC6DE, 0xC6DF]

/-- The characters of two bytes in the Hong Kong set. -/
def hongKongPair? (a b : Nat) : Option (List Char) :=
  let n := a * 256 + b
  match hongKongMarked.find? fun entry => entry.1 == n with
  | some entry => some entry.2
  | none =>
    if hongKongAbsent.contains n then none
    else ((hongKong.pair? a b).or (big5.pair? a b)).map fun c => [c]

/-- A step of the Hong Kong set. -/
def hongKongStep (_ : Unit) (bytes : List UInt8) : Step Unit :=
  match bytes with
  | a :: b :: _ =>
    if a < 0x80 then .chars [Char.ofNat a.toNat] 1 ()
    else
      match hongKongPair? a.toNat b.toNat with
      | some cs => .chars cs 2 ()
      | none => .bad 1
  | _ => asciiOrPair (fun _ _ => none) bytes

end Charset

end Workflow
