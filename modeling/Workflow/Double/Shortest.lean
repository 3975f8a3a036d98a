import Workflow.Double

/-!
# The shortest decimal form

A double is written with the fewest digits that read back as the same double, and of those
with the digits nearest to it. `Double.shortest` finds them: it walks through the decimal
grids from coarse to fine and stops at the first one that has a point among the reals that
round to the number. Of a grid only the two neighbours of the number have to be tested.

`Double.text` lays the digits out. Numbers of a moderate size are written positionally and
keep at least one digit after the point, others with a power of ten.
-/

namespace Workflow

namespace Double

/-- The reals that round to a positive double, as numerators over one denominator: the
number itself, the least and the greatest of them, and whether these two belong. -/
structure Interval where
  /-- The numerator of the least real. -/
  low : Nat
  /-- The numerator of the number. -/
  mid : Nat
  /-- The numerator of the greatest real. -/
  high : Nat
  /-- The common denominator. -/
  den : Nat
  /-- Whether the least and the greatest real round to the number themselves. -/
  closed : Bool

/-- The reals that round to `m · 2 ^ e`. They reach half way to the two neighbours; below a
power of two the neighbour is half as far away. -/
def interval (m : Nat) (e : Int) : Interval :=
  let unit := Nat.pow 2 e.toNat
  let lowGap := if m = Nat.pow 2 52 ∧ e ≠ -1074 then 1 else 2
  { low := (4 * m - lowGap) * unit
    mid := 4 * m * unit
    high := (4 * m + 2) * unit
    den := 4 * Nat.pow 2 (-e).toNat
    closed := m % 2 == 0 }

/-- Whether the real `n / d` lies in the interval. -/
def Interval.has (i : Interval) (n d : Nat) : Bool :=
  let x := n * i.den
  if i.closed then i.low * d ≤ x && x ≤ i.high * d else i.low * d < x && x < i.high * d

/-- The exponent `p` with `10 ^ p ≤ num / den < 10 ^ (p + 1)`. The binary logarithm gives it
up to one, and the bounds decide. -/
def decimalExponent (num den : Nat) : Int :=
  let guess := (((num.log2 : Int) - den.log2) * 30103).fdiv 100000
  let reaches (p : Int) : Bool := den * Nat.pow 10 p.toNat ≤ num * Nat.pow 10 (-p).toNat
  if reaches (guess + 1) then guess + 1 else if reaches guess then guess else guess - 1

/-- The point of the grid of multiples of `10 ^ p` that stands for the number, if that grid
has one in the interval: the neighbour below or above, the nearer if both are in it, and of
two equally near ones the even. -/
def onGrid? (i : Interval) (p : Int) : Option Nat :=
  let up := Nat.pow 10 (-p).toNat
  let down := Nat.pow 10 p.toNat
  let n := i.mid * up
  let d := i.den * down
  let below := n / d
  let inside (k : Nat) : Bool := i.has (k * down) up
  match inside below, inside (below + 1) with
  | true, true => some (roundDiv n d)
  | true, false => some below
  | false, true => some (below + 1)
  | false, false => none

/-- The first grid from `digits` digits on that has a point in the interval. -/
def firstGrid (i : Interval) (top : Int) : Nat → Nat → Nat × Int
  | 0, _ => (0, 0)
  | fuel + 1, digits =>
    let p := top + 1 - digits
    match onGrid? i p with
    | some k => (k, p)
    | none => firstGrid i top fuel (digits + 1)

/-- The digits and the power of ten of the shortest decimal that rounds to `m · 2 ^ e`. No
double needs more than seventeen digits. -/
def shortest (m : Nat) (e : Int) : Nat × Int :=
  let i := interval m e
  firstGrid i (decimalExponent i.mid i.den) 17 1

/-- **How numbers are laid out.** -/
structure Layout where
  /-- The least decimal exponent that is written positionally. -/
  positionalFrom : Int
  /-- The first decimal exponent that is not written positionally any more. -/
  positionalTo : Int
  /-- The least number of digits in a written exponent. -/
  exponentWidth : Nat

/-- Positional from one ten-thousandth up to ten quadrillions; exponents have at least two
digits. -/
def layout : Layout := ⟨-4, 16, 2⟩

/-- The digits of a natural number, at least `width` of them. -/
def padded (width n : Nat) : List Char :=
  let ds := Nat.toDigits 10 n
  List.replicate (width - ds.length) '0' ++ ds

/-- The digits `k` with the decimal point so that the number is `k · 10 ^ p`. -/
def layOut (l : Layout) (k : Nat) (p : Int) : List Char :=
  let all := Nat.toDigits 10 k
  let ds := (all.reverse.dropWhile (· == '0')).reverse
  let top := p + all.length - 1
  if l.positionalFrom ≤ top ∧ top < l.positionalTo then
    if top < 0 then
      '0' :: '.' :: (List.replicate (-top - 1).toNat '0' ++ ds)
    else
      let whole := top.toNat + 1
      let front := ds.take whole ++ List.replicate (whole - ds.length) '0'
      let fraction := ds.drop whole
      front ++ '.' :: (if fraction.isEmpty then ['0'] else fraction)
  else
    let front := ds.take 1
    let fraction := ds.drop 1
    let significand := if fraction.isEmpty then front else front ++ '.' :: fraction
    significand ++ 'e' :: (if top < 0 then '-' else '+') :: padded l.exponentWidth top.natAbs

/-- **The decimal form of a double.** -/
def text : Double → String
  | .nan => "nan"
  | .infinity false => "inf"
  | .infinity true => "-inf"
  | .finite s m e _ =>
    let sign := if s then ['-'] else []
    if m = 0 then String.ofList (sign ++ ['0', '.', '0'])
    else
      let (k, p) := shortest m e
      String.ofList (sign ++ layOut layout k p)

end Double

end Workflow
