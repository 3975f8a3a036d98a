import Workflow.Charset.Chinese
import Workflow.Charset.Table.KsX1001
import Workflow.Charset.Table.Windows949

/-!
# Korean sets

KS X 1001 has the syllables that are in use; those that it lacks are written with their letters
(EUC-KR), or have codes of their own (the Korean Windows set). Johab puts a syllable together from
three groups of five bits, one for each of its letters.
-/

namespace Workflow

namespace Charset

/-! ## Syllables -/

/-- The letters with which a syllable may begin, as they stand alone. -/
def initialLetters : List Nat := [
  0x3131, 0x3132, 0x3134, 0x3137, 0x3138, 0x3139, 0x3141, 0x3142, 0x3143, 0x3145, 0x3146, 0x3147,
  0x3148, 0x3149, 0x314A, 0x314B, 0x314C, 0x314D, 0x314E]

/-- The first of the vowels, as they stand alone. -/
def firstVowel : Nat := 0x314F

/-- How many vowels there are. -/
def vowelCount : Nat := 21

/-- The letters with which a syllable may end, as they stand alone. -/
def finalLetters : List Nat := [
  0x3131, 0x3132, 0x3133, 0x3134, 0x3135, 0x3136, 0x3137, 0x3139, 0x313A, 0x313B, 0x313C, 0x313D,
  0x313E, 0x313F, 0x3140, 0x3141, 0x3142, 0x3144, 0x3145, 0x3146, 0x3147, 0x3148, 0x314A, 0x314B,
  0x314C, 0x314D, 0x314E]

/-- The syllable of three letters, given by their places; the place zero at the end is none. -/
def syllable? (initial vowel final : Nat) : Option Char :=
  ofCode? (0xAC00 + (initial * vowelCount + vowel) * 28 + final)

/-! ## EUC-KR and the Windows set -/

/-- A character of KS X 1001 by its bytes, both from 161 on. -/
def ksX1001Pair? (a b : Nat) : Option Char :=
  if 0x80 ≤ a ∧ 0x80 ≤ b then ksX1001.at? (a - 0x80) (b - 0x80) else none

/-- The first byte of letters. -/
def letterByte : UInt8 := 0xA4

/-- The second byte of the letter that stands for none. -/
def fillerByte : UInt8 := 0xD4

/-- The place of a letter, given by its second byte, in a list of letters. -/
def letterPlace? (letters : List Nat) (b : UInt8) : Option Nat :=
  if 0xA1 ≤ b then letters.findIdx? (· == 0x3131 + (b.toNat - 0xA1)) else none

/-- A syllable that is written with its letters. -/
def spelled? (initial vowel final : UInt8) : Option Char := do
  let i ← letterPlace? initialLetters initial
  let v ← if 0xBF ≤ vowel ∧ vowel ≤ 0xD3 then some (vowel.toNat - 0xBF) else none
  let f ← if final = fillerByte then some 0 else (letterPlace? finalLetters final).map (· + 1)
  syllable? i v f

/-- A step of EUC-KR. -/
def eucKrStep (_ : Unit) (bytes : List UInt8) : Step Unit :=
  match bytes with
  | a :: b :: rest =>
    if a = letterByte ∧ b = fillerByte then
      match rest with
      | c :: initial :: d :: vowel :: e :: final :: _ =>
        if c = letterByte ∧ d = letterByte ∧ e = letterByte then
          Step.one 8 (spelled? initial vowel final)
        else .bad 1
      | _ => .short
    else asciiOrPair ksX1001Pair? bytes
  | _ => asciiOrPair ksX1001Pair? bytes

/-- A step of the Korean Windows set. -/
def windows949Step (_ : Unit) (bytes : List UInt8) : Step Unit :=
  asciiOrPair (fun a b => (ksX1001Pair? a b).or (windows949.pair? a b)) bytes

/-! ## Johab -/

/-- A group of five bits for a letter: none, or a place. -/
inductive Group where
  /-- There is no letter. -/
  | filler
  /-- The letter at a place. -/
  | letter (place : Nat)
  deriving DecidableEq, Inhabited

/-- The group for the first letter. -/
def initialGroup? (n : Nat) : Option Group :=
  if n = 1 then some .filler
  else if 2 ≤ n ∧ n ≤ 20 then some (.letter (n - 2))
  else none

/-- The group for the vowel. -/
def vowelGroup? (n : Nat) : Option Group :=
  if n = 2 then some .filler
  else if 3 ≤ n ∧ n ≤ 7 then some (.letter (n - 3))
  else if 10 ≤ n ∧ n ≤ 15 then some (.letter (n - 5))
  else if 18 ≤ n ∧ n ≤ 23 then some (.letter (n - 7))
  else if 26 ≤ n ∧ n ≤ 29 then some (.letter (n - 9))
  else none

/-- The group for the last letter. -/
def finalGroup? (n : Nat) : Option Group :=
  if n = 1 then some .filler
  else if 2 ≤ n ∧ n ≤ 17 then some (.letter (n - 2))
  else if 19 ≤ n ∧ n ≤ 29 then some (.letter (n - 3))
  else none

/-- The character of three groups: a syllable, or a letter alone. -/
def ofGroups? : Group → Group → Group → Option Char
  | .filler, .filler, .filler => some '\u3000'
  | .filler, .filler, .letter f => (finalLetters[f]?).bind ofCode?
  | .filler, .letter v, .filler => ofCode? (firstVowel + v)
  | .letter i, .filler, .filler => (initialLetters[i]?).bind ofCode?
  | .letter i, .letter v, .filler => syllable? i v 0
  | .letter i, .letter v, .letter f => syllable? i v (f + 1)
  | _, _, _ => none

/-- A syllable or a letter in Johab. -/
def johabHangul? (a b : Nat) : Option Char := do
  let initial ← initialGroup? (a / 4 % 32)
  let vowel ← vowelGroup? (a % 4 * 8 + b / 32)
  let final ← finalGroup? (b % 32)
  ofGroups? initial vowel final

/-- Any other character in Johab, which is one of KS X 1001. -/
def johabOther? (a b : Nat) : Option Char :=
  if a = 0xDF ∨ 0xF9 < a ∨ a < 0xD9 ∨ b < 0x31 ∨ (0x80 ≤ b ∧ b < 0x91) ∨ b % 128 = 0x7F ∨
      (a = 0xDA ∧ 0xA1 ≤ b ∧ b ≤ 0xD3) then none
  else
    let row := if a < 0xE0 then 2 * (a - 0xD9) else 2 * a - 0x197
    let place := if b < 0x91 then b - 0x31 else b - 0x43
    if place < 0x5E then ksX1001.at? (row + 0x21) (place + 0x21)
    else ksX1001.at? (row + 0x22) (place - 0x5E + 0x21)

/-- A step of Johab. -/
def johabStep (_ : Unit) (bytes : List UInt8) : Step Unit :=
  asciiOrPair (fun a b => if a < 0xD8 then johabHangul? a b else johabOther? a b) bytes

end Charset

end Workflow
