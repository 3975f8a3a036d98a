import Workflow.Entries
import Workflow.Double

/-!
# JSON values

The parameters of a node, samples of responses and the values that stand in for what other
nodes give are not restricted to any form, so they are kept as JSON values. Integers are exact
and of any size; numbers with a fraction or an exponent are double precision numbers. The
two kinds of number print differently but compare by value. Texts, here and everywhere else, are
made of Unicode scalar values: half a surrogate pair, which a document can hold by an escape, is not
one.

`Json.isTruthy` says which values count as given, `Json.same` when two values are equal.
-/

namespace Workflow

/-- **A JSON value.** The members of an object stand in order of insertion. -/
inductive Json where
  /-- The null value. -/
  | null
  /-- A truth value. -/
  | bool (b : Bool)
  /-- An integer. -/
  | int (n : Int)
  /-- A number written with a fraction or an exponent. -/
  | float (x : Double)
  /-- A text. -/
  | str (s : String)
  /-- A list. -/
  | arr (items : List Json)
  /-- An object. -/
  | obj (members : List (String × Json))
  deriving Inhabited

namespace Json

/-- Whether the value counts as given: null, false, zero and the empty text, list and
object do not. -/
def isTruthy : Json → Bool
  | .null => false
  | .bool b => b
  | .int n => n != 0
  | .float x => !x.isZero
  | .str s => s != ""
  | .arr items => !items.isEmpty
  | .obj members => !members.isEmpty

/-- The text that the value is, if it is one. -/
def text? : Json → Option String
  | .str s => some s
  | _ => none

/-- The members of an object, none for any other value. -/
def members? : Json → Option (Entries Json)
  | .obj es => some es
  | _ => none

/-- The number that a value stands for: truth values are 0 and 1. -/
def asInt? : Json → Option Int
  | .bool b => some (if b then 1 else 0)
  | .int n => some n
  | _ => none

/-- Equality of two values that are neither lists nor objects. Numbers and truth values
compare by value. -/
def sameScalar (a b : Json) : Bool :=
  match a, b with
  | .null, .null => true
  | .str s, .str t => s == t
  | .float x, .float y => x.same y
  | .float x, b => match b.asInt? with
    | some n => x.isInt n
    | none => false
  | a, .float y => match a.asInt? with
    | some n => y.isInt n
    | none => false
  | a, b => match a.asInt?, b.asInt? with
    | some m, some n => m == n
    | _, _ => false

mutual

/-- **Equality of values.** Lists are equal item by item, objects when they have the same
keys with equal values, in whatever order, and numbers by value. -/
def same : Json → Json → Bool
  | .arr xs, .arr ys => sameItems xs ys
  | .obj xs, .obj ys => xs.length == ys.length && sameMembers xs ys
  | a, b => sameScalar a b

/-- Equality of lists, item by item. -/
def sameItems : List Json → List Json → Bool
  | [], [] => true
  | x :: xs, y :: ys => same x y && sameItems xs ys
  | _, _ => false

/-- Whether every member of the first object has an equal counterpart in the second. -/
def sameMembers : List (String × Json) → List (String × Json) → Bool
  | [], _ => true
  | (k, x) :: xs, ys =>
    (match Entries.get? ys k with
      | some y => same x y
      | none => false) && sameMembers xs ys

end

/-- Whether a value can be a key: lists and objects cannot. -/
def isKey : Json → Bool
  | .arr _ | .obj _ => false
  | _ => true

mutual

/-- The value as it is kept in a written document: numbers that are not finite have no
written form and become null. -/
def written : Json → Json
  | .float x => if x.isFinite then .float x else .null
  | .arr items => .arr (writtenItems items)
  | .obj members => .obj (writtenMembers members)
  | v => v

/-- The items of a list as they are kept in a written document. -/
def writtenItems : List Json → List Json
  | [] => []
  | x :: xs => written x :: writtenItems xs

/-- The members of an object as they are kept in a written document. -/
def writtenMembers : List (String × Json) → List (String × Json)
  | [] => []
  | (k, x) :: xs => (k, written x) :: writtenMembers xs

end

/-! ## How deep values are -/

mutual

/-- How many lists and objects stand inside one another. -/
def nesting : Json → Nat
  | .arr items => itemsNesting items + 1
  | .obj members => membersNesting members + 1
  | _ => 0

/-- The greatest nesting of the items of a list. -/
def itemsNesting : List Json → Nat
  | [] => 0
  | x :: xs => max (nesting x) (itemsNesting xs)

/-- The greatest nesting of the members of an object. -/
def membersNesting : List (String × Json) → Nat
  | [] => 0
  | (_, x) :: xs => max (nesting x) (membersNesting xs)

end

mutual

/-- How many values stand inside one another, the outermost and the innermost included. -/
def height : Json → Nat
  | .arr items => itemsHeight items + 1
  | .obj members => membersHeight members + 1
  | _ => 1

/-- The greatest height of the items of a list. -/
def itemsHeight : List Json → Nat
  | [] => 0
  | x :: xs => max (height x) (itemsHeight xs)

/-- The greatest height of the members of an object. -/
def membersHeight : List (String × Json) → Nat
  | [] => 0
  | (_, x) :: xs => max (height x) (membersHeight xs)

end

/-- The height from which on a value cannot be written. -/
def heightBound : Nat := 256

/-- Whether a value is flat enough to be written. -/
def isWritable (v : Json) : Bool :=
  v.height < heightBound

/-! ## What can be read back -/

/-- The nesting of the deepest documents that can be read back. -/
def nestingBound : Nat := 200

/-- The length of the longest integers that can be read back. The sign of a negative one counts. -/
def lengthBound : Nat := 4300

mutual

/-- Whether all integers in a value are short enough to be read back. -/
def isLegible : Json → Bool
  | .int n => (toString n).length ≤ lengthBound
  | .arr items => itemsLegible items
  | .obj members => membersLegible members
  | _ => true

/-- Whether all integers in the items of a list are short enough. -/
def itemsLegible : List Json → Bool
  | [] => true
  | x :: xs => isLegible x && itemsLegible xs

/-- Whether all integers in the members of an object are short enough. -/
def membersLegible : List (String × Json) → Bool
  | [] => true
  | (_, x) :: xs => isLegible x && membersLegible xs

end

/-- **Whether a written value can be read back**: it is not nested too deeply, and no integer in it
is too long. -/
def isReadable (v : Json) : Bool :=
  v.nesting ≤ nestingBound && v.isLegible

/-! ## Texts -/

/-- A text or null. -/
def ofText? : Option String → Json
  | some s => .str s
  | none => .null

/-- A list of texts. -/
def ofTexts (xs : List String) : Json :=
  .arr (xs.map .str)

end Json

end Workflow
