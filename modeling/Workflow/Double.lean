/-!
# Binary floating point

Coordinates of nodes and numbers with a fraction in parameters are double precision
numbers. A `Double` is kept as what it means: a sign, a significand and a power of two,
in the one form that fits the format. Every operation on them is exact arithmetic on
integers followed by one rounding, `Double.ofRatio`, to the nearest double with ties going
to the even significand.

The two infinities and the one undefined value complete the type. Zero keeps its sign.
-/

namespace Workflow

/-- Whether a significand and an exponent are in the form the format stores: fewer than 54
bits, and all 53 of them unless the exponent is the least one. -/
def Double.Fits (m : Nat) (e : Int) : Prop :=
  m < Nat.pow 2 53 ∧ -1074 ≤ e ∧ e ≤ 971 ∧ (Nat.pow 2 52 ≤ m ∨ e = -1074)

instance (m : Nat) (e : Int) : Decidable (Double.Fits m e) :=
  inferInstanceAs (Decidable (_ ∧ _ ∧ _ ∧ _))

/-- **A double precision number.** -/
inductive Double where
  /-- The undefined value. -/
  | nan
  /-- An infinity. -/
  | infinity (negative : Bool)
  /-- The number `± m · 2 ^ e`. -/
  | finite (negative : Bool) (m : Nat) (e : Int) (fits : Double.Fits m e)
  deriving DecidableEq

namespace Double

/-- A zero of the given sign. -/
def zero (negative : Bool) : Double :=
  .finite negative 0 (-1074) (by decide)

instance : Inhabited Double := ⟨zero false⟩

/-- Whether the number is neither infinite nor undefined. -/
def isFinite : Double → Bool
  | .finite .. => true
  | _ => false

/-- Whether the number is a zero, of either sign. -/
def isZero : Double → Bool
  | .finite _ m _ _ => m == 0
  | _ => false

/-- The quotient rounded to the nearest integer, a tie to the even one. -/
def roundDiv (n d : Nat) : Nat :=
  let q := n / d
  let r := n % d
  if 2 * r < d then q else if d < 2 * r then q + 1 else q + q % 2

/-- The double with a given significand and exponent; an infinity where they do not fit. -/
def pack (negative : Bool) (m : Nat) (e : Int) : Double :=
  if h : Fits m e then .finite negative m e h else .infinity negative

/-- The greatest exponent, not below the least one of the format, for which the significand
of `num / den` keeps 53 bits. -/
def exponentOf (num den : Nat) : Int :=
  let k : Int := (num.log2 : Int) - den.log2
  let below := num * Nat.pow 2 (-k).toNat < den * Nat.pow 2 k.toNat
  max (k - 52 - if below then 1 else 0) (-1074)

/-- **The double nearest to `± num / den`**, a tie going to the even significand. -/
def ofRatio (negative : Bool) (num den : Nat) : Double :=
  if num = 0 then zero negative
  else
    let e := exponentOf num den
    let q := roundDiv (num * Nat.pow 2 (-e).toNat) (den * Nat.pow 2 e.toNat)
    if q = Nat.pow 2 53 then pack negative (Nat.pow 2 52) (e + 1) else pack negative q e

/-- The double nearest to an integer. -/
def ofInt (n : Int) : Double :=
  ofRatio (n < 0) n.natAbs 1

/-- The signed numerator and the denominator of a finite number. -/
def ratio (negative : Bool) (m : Nat) (e : Int) : Int × Nat :=
  let n : Int := m * Nat.pow 2 e.toNat
  (if negative then -n else n, Nat.pow 2 (-e).toNat)

/-- The sum, rounded. Two infinities of opposite sign have none, and an exact zero is
negative only as the sum of two negative zeros. -/
def add : Double → Double → Double
  | .nan, _ | _, .nan => .nan
  | .infinity s, .infinity t => if s = t then .infinity s else .nan
  | .infinity s, _ | _, .infinity s => .infinity s
  | .finite s m e _, .finite t m' e' _ =>
    let (n, d) := ratio s m e
    let (n', d') := ratio t m' e'
    let sum := n * d' + n' * d
    if sum = 0 then zero (s && t) else ofRatio (sum < 0) sum.natAbs (d * d')

/-- Half of the number, rounded. -/
def half : Double → Double
  | .finite s m e _ => ofRatio s (m * Nat.pow 2 e.toNat) (Nat.pow 2 (-e).toNat * 2)
  | x => x

/-- The midpoint of two coordinates: their rounded sum, halved. -/
def midpoint (x y : Double) : Double :=
  (x.add y).half

/-- The number without its fraction, where it is finite. -/
def truncate? : Double → Option Int
  | .finite s m e _ =>
    let n : Int := m * Nat.pow 2 e.toNat / Nat.pow 2 (-e).toNat
    some (if s then -n else n)
  | _ => none

/-- The least integer that is not below the number, where it is finite. -/
def ceiling? : Double → Option Int
  | .finite s m e _ =>
    let (n, d) := ratio s m e
    some (-(-n / d))
  | _ => none

/-- The integer that the number is, where it is one. -/
def toInt? : Double → Option Int
  | .finite s m e _ =>
    let (n, d) := ratio s m e
    if n % d = 0 then some (n / d) else none
  | _ => none

/-- Equality of values: the two zeros are the same and the undefined value differs from
everything. -/
def same (x y : Double) : Bool :=
  match x, y with
  | .nan, _ | _, .nan => false
  | _, _ => (x.isZero && y.isZero) || x == y

/-- Whether the number is exactly the given integer. -/
def isInt (x : Double) (n : Int) : Bool :=
  x.toInt? == some n

end Double

end Workflow
