import Workflow.Compression.Bits

/-!
# Prefix codes

A prefix code is told by the lengths of its codewords alone. The codewords of one length are
numbers that follow each other, in the order of what they stand for, and those of the next length
begin where these would go on. So a code is kept as how many codewords there are of each length,
and what they stand for in the order of the codewords.
-/

namespace Workflow

namespace Compression

/-- The length of the longest codewords that there may be. -/
def maxLength : Nat := 15

/-- **A prefix code.** -/
structure PrefixCode where
  /-- How many codewords there are of each length from one on, up to the greatest. -/
  counts : List Nat
  /-- What the codewords stand for, in order. -/
  symbols : List Nat
  deriving Inhabited

namespace PrefixCode

/-- How many codewords there are of each length. -/
def countsOf (lengths : List Nat) : List Nat :=
  (List.range' 1 maxLength).map fun n => lengths.count n

/-- What the codewords stand for: what has the shorter codeword first. -/
def symbolsOf (lengths : List Nat) : List Nat :=
  (List.range' 1 maxLength).flatMap fun n =>
    (lengths.zipIdx.filter fun entry => entry.1 == n).map Prod.snd

/-- How many codewords of the greatest length are still free, none if too many are in use. -/
def free : Nat → List Nat → Option Nat
  | left, [] => some left
  | left, count :: rest => if 2 * left < count then none else free (2 * left - count) rest

/-- Whether there are no codewords but one, of one bit. -/
def isSingle (counts : List Nat) : Bool :=
  counts.getD 0 0 == 1 && (counts.drop 1).all (· == 0)

/-- **The code of some lengths**, where zero stands for no codeword. All codewords must be in use,
unless there are none; a `loose` code may also have a single one of one bit. -/
def ofLengths? (loose : Bool) (lengths : List Nat) : Option PrefixCode :=
  let counts := countsOf lengths
  let code : PrefixCode :=
    ⟨(counts.reverse.dropWhile (· == 0)).reverse, symbolsOf lengths⟩
  match free 1 counts with
  | none => none
  | some 0 => some code
  | some _ =>
    if code.counts.isEmpty || loose && isSingle counts then some code else none

/-- Reads a codeword of which some bits have been read: their number, the number of the first
codeword of that length, and how many shorter codewords there are. -/
def readFrom (code : PrefixCode) (word first index : Nat) : List Nat → BitReader (Option Nat)
  | [] => BitReader.pure none
  | count :: rest => do
    let word := word + (← BitReader.natural 1)
    if word < first + count then return code.symbols[index + (word - first)]?
    else readFrom code (2 * word) (2 * (first + count)) (index + count) rest

/-- **Reads a codeword.** Bits that are none come to nothing, at once if there are no longer
codewords. -/
def read? (code : PrefixCode) : BitReader (Option Nat) :=
  if code.counts.isEmpty then do
    let _ ← BitReader.natural 1
    return none
  else readFrom code 0 0 0 code.counts

/-- Reads a codeword, which must be one. -/
def read (code : PrefixCode) (fault : DataFault) : BitReader Nat := do
  match ← code.read? with
  | some symbol => return symbol
  | none => BitReader.fail fault

end PrefixCode

end Compression

end Workflow
