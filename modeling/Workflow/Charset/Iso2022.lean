import Workflow.Charset.Japanese
import Workflow.Charset.Korean

/-!
# Sets that are switched by escapes

With ISO 2022 an escape designates the set that the bytes after it are read in. There are three
places for a set: the first one is in use at the beginning, shift characters switch to the second
one and back, and the third one is used for single characters. A line feed switches back.

`Iso2022.step` reads one character or one escape. A byte from 128 on stands for nothing, and an
escape of another kind is read as characters up to its end.
-/

namespace Workflow

namespace Charset

namespace Iso2022

/-- The name of a set in an escape. -/
structure Mark where
  /-- Whether the codes of the set have two bytes. -/
  double : Bool
  /-- The last byte of the escape. -/
  final : UInt8
  deriving DecidableEq, Inhabited

/-- The mark of ASCII. -/
def Mark.ascii : Mark := ⟨false, 0x42⟩

/-- The mark of the upper half of Latin 1. -/
def Mark.latin : Mark := ⟨false, 0x41⟩

/-- The mark of the upper half of the Greek set of ISO 8859. -/
def Mark.greek : Mark := ⟨false, 0x46⟩

/-- The places for a set. -/
inductive Place where
  /-- The set in use at the beginning. -/
  | first
  /-- The set that a shift switches to. -/
  | second
  /-- The set for single characters. -/
  | third
  deriving DecidableEq, Inhabited

/-- **What escapes and shifts have left.** -/
structure State where
  /-- The set in the first place. -/
  first : Mark := .ascii
  /-- The set in the second place. -/
  second : Mark := .ascii
  /-- The set in the third place. -/
  third : Mark := .ascii
  /-- Whether a shift has switched to the second place. -/
  shifted : Bool := false
  /-- Whether an escape of another kind is read. -/
  through : Bool := false
  deriving DecidableEq, Inhabited

/-- The state after a set has been put in a place. -/
def State.put (s : State) (place : Place) (m : Mark) : State :=
  match place with
  | .first => { s with first := m }
  | .second => { s with second := m }
  | .third => { s with third := m }

/-- **What may be designated and how.** -/
structure Rules where
  /-- The sets beside ASCII, each with what one or two bytes stand for. -/
  sets : List (Mark × (Nat → Nat → Option (List Char)))
  /-- Whether there are shift characters. -/
  shifts : Bool
  /-- Whether there is a third place. -/
  hasThird : Bool

/-- Whether an escape may be announced as one for a revised set, where there are no shifts. -/
def Rules.announced (r : Rules) : Bool := !r.shifts

/-- Whether a set may be designated. -/
def Rules.knows (r : Rules) (m : Mark) : Bool :=
  m == .ascii || r.sets.any fun entry => entry.1 == m

/-! ## Escapes -/

/-- The byte with which an escape begins. -/
def escapeByte : UInt8 := 0x1B

/-- Whether an escape ends with a byte. -/
def isFinal (b : UInt8) : Bool := 0x40 ≤ b && b ≤ 0x5A

/-- Whether the second byte of an escape says that it designates a set. -/
def isDesignating (b : UInt8) : Bool := [0x24, 0x26, 0x28, 0x29, 0x2E].contains b

/-- Where an escape ends. -/
inductive EscapeEnd where
  /-- After so many bytes. -/
  | after (length : Nat)
  /-- Not within the bytes that an escape may have. -/
  | never
  /-- The bytes end before. -/
  | later
  deriving DecidableEq, Inhabited

/-- How many bytes an escape may have. -/
def longest : Nat := 16

/-- Where an escape ends, given its bytes from a position on, of which `skip` ones are not looked
at. -/
def escapeEnd (announced : Bool) : Nat → Nat → List UInt8 → EscapeEnd
  | skip, position, [] => if longest ≤ position + skip then .never else .later
  | skip + 1, position, _ :: bytes => escapeEnd announced skip (position + 1) bytes
  | 0, position, b :: bytes =>
    if longest ≤ position then .never
    else if isFinal b then .after (position + 1)
    else if announced && b == 0x26 && bytes.head? == some 0x40 then
      escapeEnd announced 2 (position + 1) bytes
    else escapeEnd announced 0 (position + 1) bytes

/-- The place and the set that a whole escape names. -/
def designation? (r : Rules) (escape : List UInt8) : Option (Place × Mark) :=
  match escape with
  | [_, 0x24, final] => some (.first, ⟨true, final⟩)
  | [_, 0x28, final] => some (.first, ⟨false, final⟩)
  | [_, 0x29, final] => some (.second, ⟨false, final⟩)
  | [_, 0x2E, final] => if r.hasThird then some (.third, ⟨false, final⟩) else none
  | [_, 0x24, 0x28, final] => some (.first, ⟨true, final⟩)
  | [_, 0x24, 0x29, final] => some (.second, ⟨true, final⟩)
  | [_, _, _, 0x1B, 0x24, 0x42] => if r.announced then some (.first, ⟨true, 0x42⟩) else none
  | _ => none

/-- A step that designates a set. -/
def designate (r : Rules) (s : State) (bytes : List UInt8) : Step State :=
  match escapeEnd r.announced 0 1 (bytes.drop 1) with
  | .never => .bad 1
  | .later => .short
  | .after length =>
    match designation? r (bytes.take length) with
    | some (place, m) => if r.knows m then .chars [] length (s.put place m) else .bad length
    | none => .bad length

/-! ## Characters -/

/-- The upper half of the Greek set, which leaves out what later editions have added. -/
def greek? (n : Nat) : Option Char :=
  if n < 0xA0 then ofCode? n
  else if n = 0xA1 then some '\u2018'
  else if n = 0xA2 then some '\u2019'
  else if n = 0xAF then some '\u2015'
  else if [0xA0, 0xA3, 0xA6, 0xA7, 0xA8, 0xA9, 0xAB, 0xAC, 0xAD, 0xB0, 0xB1, 0xB2, 0xB3, 0xB7, 0xBB,
      0xBD].contains n then ofCode? n
  else if 0xB4 ≤ n ∧ n ≤ 0xFE ∧ n ≠ 0xD2 then ofCode? (0x2D0 + n)
  else none

/-- A step that reads a single character of the set in the third place, which comes third after
two bytes that say so. -/
def single (s : State) (b : UInt8) : Step State :=
  let read (c : Option Char) : Step State :=
    match c with
    | some c => .chars [c] 3 s
    | none => .bad 3
  if s.third = .latin then read (if b < 0x80 then ofCode? (b.toNat + 0x80) else none)
  else if s.third = .greek then
    read (greek? (if b < 0x80 then b.toNat + 0x80 else b.toNat - 0x80))
  else if s.third = .ascii then read (if b < 0x80 then ofCode? b.toNat else none)
  else .stuck

/-- A step that reads a character of the set in use. -/
def graphic (r : Rules) (s : State) (b : UInt8) (bytes : List UInt8) : Step State :=
  let m := if s.shifted then s.second else s.first
  match r.sets.find? fun entry => entry.1 == m with
  | none => .chars [Char.ofNat b.toNat] 1 s
  | some (_, read) =>
    if m.double then
      match bytes with
      | [] => .short
      | c :: _ =>
        match read b.toNat c.toNat with
        | some cs => .chars cs 2 s
        | none => .bad 2
    else
      match read b.toNat 0 with
      | some cs => .chars cs 1 s
      | none => .bad 1

/-- **A step** of reading. -/
def step (r : Rules) (s : State) (bytes : List UInt8) : Step State :=
  match bytes with
  | [] => .short
  | b :: rest =>
    if s.through then .chars [Char.ofNat b.toNat] 1 { s with through := !isFinal b }
    else if b = escapeByte then
      match rest with
      | [] => .short
      | c :: rest =>
        if isDesignating c then designate r s bytes
        else if r.hasThird ∧ c = 0x4E then
          match rest with
          | [] => .short
          | d :: _ => single s d
        else .chars [Char.ofNat b.toNat] 1 { s with through := true }
    else if b = 0x0F ∧ r.shifts then .chars [] 1 { s with shifted := false }
    else if b = 0x0E ∧ r.shifts then .chars [] 1 { s with shifted := true }
    else if b = 0x0A then .chars ['\n'] 1 { s with shifted := false }
    else if b < 0x20 then .chars [Char.ofNat b.toNat] 1 s
    else if 0x80 ≤ b then .bad 1
    else graphic r s b rest

/-! ## The sets of a language -/

/-- A set of single characters with two bytes each. -/
def pairs (f : Nat → Nat → Option Char) (a b : Nat) : Option (List Char) :=
  (f a b).map fun c => [c]

/-- The set for Korean. -/
def korean : Rules where
  sets := [(⟨true, 0x43⟩, pairs ksX1001.at?)]
  shifts := true
  hasThird := false

/-- JIS X 0208 by its mark. -/
def common : Mark × (Nat → Nat → Option (List Char)) := (⟨true, 0x42⟩, pairs jisX0208.at?)

/-- The first edition of JIS X 0208 by its mark. -/
def commonFirst : Mark × (Nat → Nat → Option (List Char)) := (⟨true, 0x40⟩, pairs jisX0208.at?)

/-- JIS X 0212 by its mark. -/
def rare : Mark × (Nat → Nat → Option (List Char)) := (⟨true, 0x44⟩, pairs jisX0212.at?)

/-- The set like ASCII with signs for the Yen and an overline, by its mark. -/
def roman : Mark × (Nat → Nat → Option (List Char)) :=
  (⟨false, 0x4A⟩, fun a _ => (romanKatakana? a).map fun c => [c])

/-- The set of small katakana by its mark. -/
def katakana : Mark × (Nat → Nat → Option (List Char)) :=
  (⟨false, 0x49⟩, fun a _ => (smallKatakana? (a + 0x80)).map fun c => [c])

/-- Sets for Japanese. -/
def japanese (sets : List (Mark × (Nat → Nat → Option (List Char)))) : Rules where
  sets
  shifts := false
  hasThird := false

/-- The common characters of Japanese. -/
def japaneseCommon : Rules := japanese [common, roman, commonFirst]

/-- The common and the rare characters of Japanese. -/
def japaneseRare : Rules := japanese [common, rare, roman, commonFirst]

/-- Japanese, Chinese, Korean and Greek together. -/
def multilingual : Rules where
  sets := [
    common, rare, (⟨true, 0x43⟩, pairs ksX1001.at?), (⟨true, 0x41⟩, pairs gb2312.at?), roman,
    commonFirst, (.latin, fun _ _ => none), (.greek, fun _ _ => none)]
  shifts := false
  hasThird := true

/-- The second plane of JIS X 0213 by its mark. -/
def second : Mark × (Nat → Nat → Option (List Char)) :=
  (⟨true, 0x50⟩, pairs (secondPlane? .of2004))

/-- The first edition of JIS X 0213, with the second plane of the other one. -/
def japanese2000 : Rules := japanese [common, (⟨true, 0x4F⟩, narrowFirstPlane? .of2000), second]

/-- The second edition of JIS X 0213. -/
def japanese2004 : Rules := japanese [common, (⟨true, 0x51⟩, narrowFirstPlane? .of2004), second]

/-- The common and the rare characters of Japanese with small katakana. -/
def japaneseKatakana : Rules := japanese [common, rare, roman, katakana, commonFirst]

end Iso2022

end Charset

end Workflow
