import Workflow.Text.Blank
import Workflow.Text.Digit

/-!
# Addresses of four bytes

Such an address is a number below 2^32. `IPv4.quad?` reads the strict form: four decimal
bytes, separated by points, without leading zeros. `IPv4.loose?` reads whatever a resolver
takes for an address: one to four numbers, each decimal, octal after a zero or hexadecimal
after `0x`, of which the last one fills all the bytes that are left.

A `Block` is a range of addresses that agree in their leading bits.
-/

namespace Workflow

/-- A range of addresses: all that differ from the base in the lowest bits alone. -/
structure Block where
  /-- The least address of the range. -/
  base : Nat
  /-- How many of the lowest bits are free. -/
  bits : Nat
  deriving DecidableEq, Inhabited

/-- Whether an address lies in a range. -/
def Block.has (b : Block) (address : Nat) : Bool :=
  address / Nat.pow 2 b.bits == b.base / Nat.pow 2 b.bits

namespace IPv4

open Workflow.Text

/-- The number that digits of some base write; none if one of them is no digit. -/
def digits? (base : Nat) : Nat → List Char → Option Nat
  | n, [] => some n
  | n, c :: cs =>
    match hexValue? c with
    | some d => if d < base then digits? base (base * n + d) cs else none
    | none => none

/-- A number from first to last character: hexadecimal, octal or decimal. -/
def number? : List Char → Option Nat
  | [] => none
  | '0' :: 'x' :: c :: cs => digits? 16 0 (c :: cs)
  | '0' :: 'X' :: c :: cs => digits? 16 0 (c :: cs)
  | '0' :: cs => digits? 8 0 cs
  | cs => digits? 10 0 cs

/-- The address of one to four numbers. All but the last are bytes, and the last fills the
bytes that are left. -/
def ofParts? : Nat → List Nat → Option Nat
  | room, [n] => if n < Nat.pow 256 room then some n else none
  | room + 1, n :: rest =>
    if n < 256 then (ofParts? room rest).map (n * Nat.pow 256 room + ·) else none
  | _, _ => none

/-- The blanks of ASCII. -/
def isSpace (c : Char) : Bool :=
  c == ' ' || (9 ≤ c.toNat && c.toNat ≤ 13)

/-- **Any spelling of an address** that a resolver takes. What follows a blank is ignored. -/
def loose? (cs : List Char) : Option Nat := do
  let body := cs.takeWhile fun c => !isSpace c
  ofParts? 4 (← (cutAt '.' body).mapM number?)

/-- A byte in strict form. -/
def byte? (cs : List Char) : Option Nat :=
  if cs.length ≤ 3 && cs.all isAsciiDigit && !(cs.length > 1 && cs.head? == some '0') then
    if cs.isEmpty then none else (digits? 10 0 cs).filter (· < 256)
  else none

/-- **The strict form of an address.** -/
def quad? (cs : List Char) : Option Nat := do
  match ← (cutAt '.' cs).mapM byte? with
  | [a, b, c, d] => some (((a * 256 + b) * 256 + c) * 256 + d)
  | _ => none

/-- The address of four bytes. -/
def ofBytes (a b c d : Nat) : Nat :=
  ((a * 256 + b) * 256 + c) * 256 + d

/-- The ranges whose addresses are reached from inside a network alone, those kept for
documentation and tests included. -/
def privateBlocks : List Block := [
  ⟨ofBytes 0 0 0 0, 24⟩, ⟨ofBytes 10 0 0 0, 24⟩, ⟨ofBytes 127 0 0 0, 24⟩,
  ⟨ofBytes 169 254 0 0, 16⟩, ⟨ofBytes 172 16 0 0, 20⟩, ⟨ofBytes 192 0 0 0, 8⟩,
  ⟨ofBytes 192 0 0 170, 1⟩, ⟨ofBytes 192 0 2 0, 8⟩, ⟨ofBytes 192 168 0 0, 16⟩,
  ⟨ofBytes 198 18 0 0, 17⟩, ⟨ofBytes 198 51 100 0, 8⟩, ⟨ofBytes 203 0 113 0, 8⟩,
  ⟨ofBytes 240 0 0 0, 28⟩, ⟨ofBytes 255 255 255 255, 0⟩]

/-- The addresses inside those ranges that can be reached from everywhere. -/
def publicExceptions : List Block :=
  [⟨ofBytes 192 0 0 9, 0⟩, ⟨ofBytes 192 0 0 10, 0⟩]

/-- The range of addresses that stand for groups of hosts. -/
def multicast : Block := ⟨ofBytes 224 0 0 0, 28⟩

/-- **Whether a live test must not call an address.** -/
def isInternal (address : Nat) : Bool :=
  (privateBlocks.any (·.has address) && !publicExceptions.any (·.has address))
    || multicast.has address

end IPv4

end Workflow
