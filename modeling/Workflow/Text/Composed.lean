import Workflow.Text.CombiningClass
import Workflow.Text.Composition

/-!
# Composed texts

The same letter with the same marks can be written in several ways: as one character, as a
letter and marks, and with the marks in any order if they do not touch each other. Of these
the composed form is preferred. It comes about in three steps: each character is taken apart
as far as possible, marks that do not touch each other are put in the order of their classes,
and each character is joined with those after it as far as possible.

`isComposed` tells whether a text is in this form already.
-/

namespace Workflow.Text

/-! ## Hangul

A syllable of Hangul is composed of two or three letters, and the syllables are numbered by
their letters.
-/

/-- The first syllable. -/
def syllableBase : Nat := 0xAC00

/-- The first of the 19 leading consonants. -/
def leadBase : Nat := 0x1100

/-- The first of the 21 vowels. -/
def vowelBase : Nat := 0x1161

/-- The place before the first of the 27 trailing consonants. -/
def tailBase : Nat := 0x11A7

/-- The two parts of a syllable: a syllable without a trailing consonant and that consonant,
or a leading consonant and a vowel. -/
def syllableParts? (c : Char) : Option (Char × Char) :=
  let n := c.toNat - syllableBase
  if c.toNat < syllableBase || 19 * 21 * 28 ≤ n then none
  else if n % 28 = 0 then
    some (Char.ofNat (leadBase + n / 28 / 21), Char.ofNat (vowelBase + n / 28 % 21))
  else some (Char.ofNat (syllableBase + n / 28 * 28), Char.ofNat (tailBase + n % 28))

/-- The syllable that two characters are joined to. -/
def joinSyllable? (a b : Char) : Option Char :=
  let lead := a.toNat - leadBase
  let vowel := b.toNat - vowelBase
  let n := a.toNat - syllableBase
  let tail := b.toNat - tailBase
  if leadBase ≤ a.toNat && lead < 19 && vowelBase ≤ b.toNat && vowel < 21 then
    some (Char.ofNat (syllableBase + (lead * 21 + vowel) * 28))
  else if syllableBase ≤ a.toNat && n < 19 * 21 * 28 && n % 28 = 0 && tailBase < b.toNat
      && tail < 28 then
    some (Char.ofNat (a.toNat + tail))
  else none

/-! ## Parts and wholes -/

/-- The two parts of a character that is composed. -/
def parts? (c : Char) : Option (Char × Char) :=
  if c.toNat < 0xC0 then none
  else (syllableParts? c).or
    ((compositions.find? fun entry => entry.2.2 == c).map fun entry => (entry.1, entry.2.1))

/-- The character that two characters are joined to. -/
def join? (a b : Char) : Option Char :=
  (joinSyllable? a b).or
    ((compositions.find? fun entry => entry.1 == a && entry.2.1 == b).map fun entry =>
      entry.2.2)

/-- The most times that the first part of a character is composed itself. -/
def deepestParts : Nat := 4

/-- A character taken apart, its first part so many times. -/
def takeApart : Nat → Char → List Char
  | 0, c => [c]
  | depth + 1, c =>
    match parts? c with
    | some (a, b) => takeApart depth a ++ [b]
    | none => [c]

/-- A mark put behind a text that stands in reverse, before the marks of higher classes. -/
def putMark (c : Char) : List Char → List Char
  | [] => [c]
  | d :: rest =>
    if 0 < combiningClass c && combiningClass c < combiningClass d then d :: putMark c rest
    else c :: d :: rest

/-- A text with its marks in the order of their classes. -/
def orderMarks (cs : List Char) : List Char :=
  (cs.foldl (fun done c => putMark c done) []).reverse

/-- Joins each character with those after it. `base` is the last character that marks gather
around, `marks` are those after it that were not joined, in reverse. A character is joined
with `base` if none of the marks between them is of its own class or a higher one. -/
def joinFrom (base : Option Char) (marks : List Char) : List Char → List Char
  | [] => base.toList ++ marks.reverse
  | c :: cs =>
    let isFree :=
      match marks with
      | [] => true
      | mark :: _ => combiningClass mark < combiningClass c
    match base.bind fun b => if isFree then join? b c else none with
    | some whole => joinFrom (some whole) marks cs
    | none =>
      if combiningClass c = 0 then base.toList ++ marks.reverse ++ joinFrom (some c) [] cs
      else joinFrom base (c :: marks) cs

/-- A text taken apart and joined again. -/
def recomposed (cs : List Char) : List Char :=
  joinFrom none [] (orderMarks (cs.flatMap (takeApart deepestParts)))

/-- **Whether a text is in its composed form.** -/
def isComposed (cs : List Char) : Bool :=
  cs.all (·.toNat < 0x300) ||
    (cs.all (fun c => !unpreferredSpans.has c.toNat) && recomposed cs == cs)

end Workflow.Text
