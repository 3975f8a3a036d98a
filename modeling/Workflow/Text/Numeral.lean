import Workflow.Text.Blank
import Workflow.Text.Digit
import Workflow.Double

/-!
# Numbers in text

Two kinds of text hold a number. What a user types in the place of a number, such as a
timeout, is read leniently by `Numeral.int?`: white space around it, digits of any script
and bars between digits are accepted. What stands as a text where a document has a number is
read by `Numeral.whole` and `Numeral.real?`, which know ASCII digits alone and, for a real
number, the usual forms with a point, an exponent or the name of an infinity.
-/

namespace Workflow

/-- The double nearest to the decimal `± m · 10 ^ p`. Powers far outside the range of the
format are decided by the count of digits alone. -/
def Double.ofDecimal (negative : Bool) (m : Nat) (p : Int) : Double :=
  if m = 0 then .zero negative
  else
    let top := p + (Nat.toDigits 10 m).length
    if 310 < top then .infinity negative
    else if top < -330 then .zero negative
    else .ofRatio negative (m * Nat.pow 10 p.toNat) (Nat.pow 10 (-p).toNat)

namespace Numeral

open Workflow.Text

/-- The number that a row of decimal digits writes. -/
def ofDigits (ds : List Nat) : Nat :=
  ds.foldl (fun n d => 10 * n + d) 0

/-- The value of an ASCII digit. -/
def asciiDigit? (c : Char) : Option Nat :=
  if isAsciiDigit c then some (c.toNat - 0x30) else none

/-- A row of digits from first to last character, with single bars allowed between two
digits. An empty row is none. -/
def grouped? (digit? : Char → Option Nat) : List Char → Option (List Nat)
  | [] => none
  | c :: cs =>
    match digit? c, cs with
    | none, _ => none
    | some d, [] => some [d]
    | some d, '_' :: next :: rest => (grouped? digit? (next :: rest)).map (d :: ·)
    | some d, next :: rest => (grouped? digit? (next :: rest)).map (d :: ·)

/-- An optional sign and what follows it; the flag says whether it was a minus. -/
def signed : List Char → Bool × List Char
  | '-' :: cs => (true, cs)
  | '+' :: cs => (false, cs)
  | cs => (false, cs)

/-- No integer is read from more than this many digits. -/
def maxDigits : Nat := 4300

/-- The integer with a sign and an absolute value. -/
def withSign (negative : Bool) (n : Nat) : Int :=
  if negative then -n else n

/-- White space proper, without the separator controls. -/
def isWhiteSpace (c : Char) : Bool :=
  isBlank c && !(28 ≤ c.toNat && c.toNat ≤ 31)

/-- **An integer typed by a user**: white space around it is ignored, digits may be of any
script, and single bars may separate them. -/
def int? (cs : List Char) : Option Int :=
  let (negative, body) := signed (stripWhere isWhiteSpace cs)
  match grouped? digitValue? body with
  | some ds => if ds.length ≤ maxDigits then some (withSign negative (ofDigits ds)) else none
  | none => none

/-- What a document says in the place of an integer when it holds a text. -/
inductive Whole where
  /-- The text writes this integer. -/
  | number (n : Int)
  /-- The text is too long to be read. -/
  | tooLong
  /-- The text writes no integer. -/
  | malformed

/-- Whether digits with a sign are too many to be read. Zeros in front do not count, and the
sign of a negative number counts as a digit. -/
def isTooLong (negative : Bool) (digits : List Nat) : Bool :=
  maxDigits < (digits.dropWhile (· == 0)).length + (if negative then 1 else 0)

/-- Whether what stands after the digits of an integer is nothing, or a fraction made of
zeros. -/
def isZeroFraction (cs : List Char) : Bool :=
  cs.isEmpty || (cs.head? == some '.' && 1 < cs.length && (cs.drop 1).all (· == '0'))

/-- **An integer written as a text in a document**: white space around it is ignored, bars
may separate digits, and a fraction made of zeros may follow. A text that begins with too many
digits is too long, whatever follows. -/
def whole (cs : List Char) : Whole :=
  let (negative, body) := signed (stripWhere isWhiteSpace cs)
  let digits := body.takeWhile (· != '.')
  match grouped? asciiDigit? digits, isZeroFraction (body.dropWhile (· != '.')) with
  | some ds, true =>
    if isTooLong negative ds then .tooLong else .number (withSign negative (ofDigits ds))
  | _, _ =>
    let front := body.takeWhile isAsciiDigit
    if front.head? != some '0' && isTooLong negative (front.filterMap asciiDigit?) then .tooLong
    else .malformed

/-- The exponent part of a real number: nothing, or the letter, an optional sign and
digits to the end. -/
def exponent? : List Char → Option Int
  | [] => some 0
  | c :: cs =>
    if c = 'e' ∨ c = 'E' then
      let (negative, digits) := signed cs
      if !digits.isEmpty && digits.all isAsciiDigit then
        some (withSign negative (ofDigits (digits.filterMap asciiDigit?)))
      else none
    else none

/-- A real number without its sign: digits with at most one point among or around them and
an exponent, or a name. -/
def unsignedReal? (negative : Bool) (cs : List Char) : Option Double :=
  let name := String.ofList (cs.map Char.toLower)
  if name = "inf" ∨ name = "infinity" then some (.infinity negative)
  else if name = "nan" then some .nan
  else
    let front := cs.takeWhile isAsciiDigit
    let rest := cs.dropWhile isAsciiDigit
    let (back, rest) :=
      match rest with
      | '.' :: r => (r.takeWhile isAsciiDigit, r.dropWhile isAsciiDigit)
      | r => ([], r)
    if front.isEmpty && back.isEmpty then none
    else
      (exponent? rest).map fun p =>
        .ofDecimal negative (ofDigits ((front ++ back).filterMap asciiDigit?)) (p - back.length)

/-- A real number with an optional sign and nothing around it. -/
def plainReal? (cs : List Char) : Option Double :=
  let (negative, body) := signed cs
  unsignedReal? negative body

/-- Whether two bars stand side by side. -/
def doubleBar : List Char → Bool
  | '_' :: '_' :: _ => true
  | _ :: cs => doubleBar cs
  | [] => false

/-- **A real number written as a text in a document.** White space around it is ignored; a
text with single bars inside it, and no white space around it, is read without them. -/
def real? (cs : List Char) : Option Double :=
  match plainReal? (stripWhere isWhiteSpace cs) with
  | some x => some x
  | none =>
    if cs.head? = some '_' || cs.getLast? = some '_' || doubleBar cs then none
    else plainReal? (cs.filter (· != '_'))

end Numeral

end Workflow
