import Workflow.Endpoint.IPv4

/-!
# Addresses of sixteen bytes

Such an address is a number below 2^128, written as eight groups of hexadecimal digits
between colons. Two colons stand for a run of zero groups, the last two groups may be
written as an address of four bytes, and a percent sign with the name of a zone may follow,
which does not belong to the number.
-/

namespace Workflow

namespace IPv6

open Workflow.Text

/-- A group of one to four hexadecimal digits. -/
def group? (cs : List Char) : Option Nat :=
  if cs.isEmpty || cs.length > 4 then none else IPv4.digits? 16 0 cs

/-- The number of a row of groups. -/
def ofGroups (groups : List Nat) : Nat :=
  groups.foldl (fun n g => n * 65536 + g) 0

/-- The pieces between colons with an address of four bytes at the end replaced by the two
groups that it stands for. -/
def widen? (pieces : List (List Char)) : Option (List (List Char)) :=
  match pieces.getLast? with
  | none => some pieces
  | some last =>
    if last.contains '.' then do
      let n ← IPv4.quad? last
      return pieces.dropLast ++ [hexPadded 4 (n / 65536), hexPadded 4 (n % 65536)]
    else some pieces

/-- The pieces on one side of two colons. An empty piece alone is an end of the address. -/
def side (pieces : List (List Char)) : List (List Char) :=
  if pieces = [[]] then [] else pieces

/-- The place of two colons among pieces: that of the first empty piece that is neither the
first nor the last. -/
def gap? (pieces : List (List Char)) : Option Nat :=
  ((pieces.drop 1).dropLast.findIdx? List.isEmpty).map (· + 1)

/-- The number that pieces between colons write. -/
def ofPieces? (pieces : List (List Char)) : Option Nat :=
  match gap? pieces with
  | some i => do
    let high ← (side (pieces.take i)).mapM group?
    let low ← (side (pieces.drop (i + 1))).mapM group?
    if high.length + low.length ≤ 7 then
      some (ofGroups high * Nat.pow 65536 (8 - high.length) + ofGroups low)
    else none
  | none => do
    let groups ← pieces.mapM group?
    if groups.length = 8 then some (ofGroups groups) else none

/-- An address without its zone; none where the zone is malformed. -/
def withoutZone? (cs : List Char) : Option (List Char) :=
  match cutAt '%' cs with
  | [address] => some address
  | [address, _ :: _] => some address
  | _ => none

/-- **The number of an address**, its zone left out. -/
def ofText? (cs : List Char) : Option Nat := do
  if cs.contains '/' then none
  let pieces := cutAt ':' (← withoutZone? cs)
  if pieces.length < 3 then none
  ofPieces? (← widen? pieces)

/-- The address of four bytes that an address stands for, if it is a mapped one. -/
def mapped? (address : Nat) : Option Nat :=
  if address / 0x100000000 = 0xFFFF then some (address % 0x100000000) else none

/-- The range of the addresses that begin with some groups and of which `length` leading bits
are fixed. -/
def beginning (groups : List Nat) (length : Nat) : Block :=
  ⟨ofGroups groups * Nat.pow 65536 (8 - groups.length), 128 - length⟩

/-- The ranges whose addresses are reached from inside a network alone, those kept for
documentation and tests included. -/
def privateBlocks : List Block := [
  ⟨1, 0⟩, ⟨0, 0⟩, beginning [0, 0, 0, 0, 0, 0xFFFF] 96, beginning [0x64, 0xFF9B, 1] 48,
  beginning [0x100] 64, beginning [0x2001] 23, beginning [0x2001, 0xDB8] 32,
  beginning [0x2002] 16, beginning [0xFC00] 7, beginning [0xFE80] 10]

/-- The addresses inside those ranges that can be reached from everywhere. -/
def publicExceptions : List Block := [
  beginning [0x2001, 1, 0, 0, 0, 0, 0, 1] 128, beginning [0x2001, 1, 0, 0, 0, 0, 0, 2] 128,
  beginning [0x2001, 3] 32, beginning [0x2001, 4, 0x112] 48, beginning [0x2001, 0x20] 28,
  beginning [0x2001, 0x30] 28]

/-- The range of addresses that stand for groups of hosts. -/
def multicast : Block := beginning [0xFF00] 8

/-- The ranges that are not given out. -/
def reserved : List Block := [
  beginning [0] 8, beginning [0x100] 8, beginning [0x200] 7, beginning [0x400] 6,
  beginning [0x800] 5, beginning [0x1000] 4, beginning [0x4000] 3, beginning [0x6000] 3,
  beginning [0x8000] 3, beginning [0xA000] 3, beginning [0xC000] 3, beginning [0xE000] 4,
  beginning [0xF000] 5, beginning [0xF800] 6, beginning [0xFE00] 9]

/-- **Whether a live test must not call an address.** A mapped address is judged as the one
it stands for. -/
def isInternal (address : Nat) : Bool :=
  match mapped? address with
  | some inner => IPv4.isInternal inner
  | none =>
    (privateBlocks.any (·.has address) && !publicExceptions.any (·.has address))
      || multicast.has address || reserved.any (·.has address)

end IPv6

end Workflow
