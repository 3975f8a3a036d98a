/-!
# Tables of characters

A large set of characters is kept in pieces of 64 characters. The number of a character is 64 times
the number of its piece and its place in the piece. Pieces without characters are left out, and the
replacement character stands where there is none.
-/

namespace Workflow

namespace Charset

/-- **A table of characters**: pieces with their numbers. -/
abbrev CharTable := List (Nat × String)

/-- The character with a number. -/
def CharTable.char? (t : CharTable) (n : Nat) : Option Char :=
  match t.find? fun piece => piece.1 == n / 64 with
  | some piece => (piece.2.toList[n % 64]?).filter (· != '\ufffd')
  | none => none

/-- The character at a place of a grid of 94 rows with 94 places each, counted from 33 on. -/
def CharTable.at? (t : CharTable) (row place : Nat) : Option Char :=
  if 0x21 ≤ row ∧ row ≤ 0x7E ∧ 0x21 ≤ place ∧ place ≤ 0x7E then
    t.char? ((row - 0x21) * 94 + (place - 0x21))
  else none

/-- The character of two bytes. -/
def CharTable.pair? (t : CharTable) (first second : Nat) : Option Char :=
  t.char? (first * 256 + second)

end Charset

end Workflow
