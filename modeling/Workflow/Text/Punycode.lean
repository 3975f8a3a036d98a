import Workflow.Text.Digit

/-!
# Texts in letters, digits and hyphens

A text in any script can be written with ASCII letters, digits and hyphens alone. First come
its ASCII characters and a hyphen, then a row of numbers, one for each other character in the
order of their code points. A number tells how far the reader goes on before the character
comes: through the places of the text so far, and, from its end, from its beginning again
with the next code point.

The numbers have digits with a base of 36, the least significant first. How many digits a
number takes on average depends on the numbers before it: the bounds below which a digit is
the last one of its number are moved after each of them.
-/

namespace Workflow.Text.Punycode

/-- The base of the digits. -/
def base : Nat := 36

/-- The bound below which the digit at a place is the last one. -/
def bound (bias place : Nat) : Nat :=
  min 26 (max 1 (base * (place + 1) - bias))

theorem bound_pos (bias place : Nat) : 0 < bound bias place := by
  unfold bound
  omega

/-- The letter or numeral for a digit. -/
def digit (n : Nat) : Char :=
  if n < 26 then Char.ofNat (0x61 + n) else Char.ofNat (0x30 + (n - 26))

/-- The digit of a letter or numeral. -/
def digit? (c : Char) : Option Nat :=
  if 'a' ≤ c ∧ c ≤ 'z' then some (c.toNat - 0x61)
  else if 'A' ≤ c ∧ c ≤ 'Z' then some (c.toNat - 0x41)
  else if isAsciiDigit c then some (c.toNat - 0x30 + 26)
  else none

/-- How often a number is divided by 35 until at most 455 is left, and what is left. -/
def shrink (n : Nat) : Nat × Nat :=
  if 455 < n then
    let (times, rest) := shrink (n / 35)
    (times + 1, rest)
  else (0, n)
termination_by n
decreasing_by exact Nat.div_lt_self (by omega) (by omega)

/-- The bias after a number, of which the first one is damped, in a text that has so many
characters with the one that the number stands for. -/
def adapt (number : Nat) (isFirst : Bool) (length : Nat) : Nat :=
  let halved := if isFirst then number / 700 else number / 2
  let (times, rest) := shrink (halved + halved / length)
  base * times + base * rest / (rest + 38)

/-! ## Writing -/

/-- The digits of a number from a place on. -/
def digitsFrom (bias place n : Nat) : List Char :=
  if n < bound bias place then [digit n]
  else
    digit (bound bias place + (n - bound bias place) % (base - bound bias place)) ::
      digitsFrom bias (place + 1) ((n - bound bias place) / (base - bound bias place))
termination_by n
decreasing_by
  have := bound_pos bias place
  exact Nat.lt_of_le_of_lt (Nat.div_le_self _ _) (by omega)

/-- What has been written for the characters so far. -/
structure Draft where
  /-- The digits, in reverse. -/
  digits : List Char := []
  /-- How far the reader goes on before the next character comes. -/
  distance : Nat := 0
  /-- How many characters are written. -/
  written : Nat
  /-- Whether no number is written yet. -/
  isFresh : Bool := true
  /-- The bias. -/
  bias : Nat := 72

/-- Passes by a character of the text while the characters with a code point are written. -/
def Draft.pass (code : Nat) (d : Draft) (c : Char) : Draft :=
  if c.toNat < code then { d with distance := d.distance + 1 }
  else if c.toNat = code then
    { digits := (digitsFrom d.bias 0 d.distance).reverse ++ d.digits
      distance := 0
      written := d.written + 1
      isFresh := false
      bias := adapt d.distance d.isFresh (d.written + 1) }
  else d

/-- Writes the characters with the given code points, in order, after those with a code point
below `next`. -/
def Draft.writeAll (text : List Char) : Nat → List Nat → Draft → Draft
  | _, [], d => d
  | next, code :: codes, d =>
    let start := { d with distance := d.distance + (code - next) * (d.written + 1) }
    let done := text.foldl (Draft.pass code) start
    writeAll text (code + 1) codes { done with distance := done.distance + 1 }

/-- **A text in letters, digits and hyphens.** -/
def encode (text : List Char) : List Char :=
  let plain := text.filter (·.toNat < 0x80)
  let codes := distinct ((text.map Char.toNat).filter (0x80 ≤ ·)).mergeSort
  let digits := (Draft.writeAll text 0x80 codes { written := plain.length }).digits.reverse
  (if plain.isEmpty then [] else plain ++ ['-']) ++ digits
where
  /-- A sorted row without repetitions. -/
  distinct : List Nat → List Nat
  | a :: b :: rest => if a = b then distinct (b :: rest) else a :: distinct (b :: rest)
  | rest => rest

/-! ## Reading -/

/-- Reads a number: what comes of the digits from a place on, each counted `weight` times, and
what follows them. -/
def number? (bias place weight : Nat) : List Char → Option (Nat × List Char)
  | [] => none
  | c :: cs =>
    match digit? c with
    | none => none
    | some n =>
      if n < bound bias place then some (n * weight, cs)
      else
        (number? bias (place + 1) (weight * (base - bound bias place)) cs).map fun (m, rest) =>
          (n * weight + m, rest)

theorem length_of_number? {bias place weight : Nat} {cs rest : List Char} {n : Nat}
    (h : number? bias place weight cs = some (n, rest)) : rest.length < cs.length := by
  induction cs generalizing place weight n with
  | nil => simp [number?] at h
  | cons c cs ih =>
    simp only [number?] at h
    split at h
    · simp at h
    · split at h
      · simp only [Option.some.injEq, Prod.mk.injEq] at h
        simp [← h.2]
      · simp only [Option.map_eq_some_iff, Prod.mk.injEq] at h
        obtain ⟨⟨m, rest'⟩, found, -, same⟩ := h
        subst same
        exact Nat.lt_succ_of_lt (ih found)

/-- Puts in the characters that the numbers stand for, at the earliest at the place `place` and
with the code point `code`. -/
def insertAll (bias : Nat) (isFirst : Bool) (code place : Nat) (text : List Char)
    (digits : List Char) : Option (List Char) :=
  match digits with
  | [] => some text
  | c :: cs =>
    match _h : number? bias 0 1 (c :: cs) with
    | none => none
    | some (n, rest) =>
      let length := text.length + 1
      let code := code + (place + n) / length
      let place := (place + n) % length
      if code.isValidChar then
        insertAll (adapt n isFirst length) false code (place + 1)
          (text.take place ++ Char.ofNat code :: text.drop place) rest
      else none
termination_by digits.length
decreasing_by exact length_of_number? (by assumption)

/-- **The text that is written in letters, digits and hyphens**, if there is one. -/
def decode? (written : List Char) : Option (List Char) :=
  let digits := (written.reverse.takeWhile (· != '-')).reverse
  let plain := written.take (written.length - digits.length - 1)
  insertAll 72 true 0x80 0 plain digits

end Workflow.Text.Punycode
