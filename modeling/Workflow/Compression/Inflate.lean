import Workflow.Compression.PrefixCode

/-!
# Inflating

Deflated data is a row of blocks. A block is stored as it is, or it is a row of codewords, each of
which stands for a byte, for the end of the block, or for the length of a piece that is copied from
some distance back. The two codes of a block are fixed ones, or they are told in front of it by the
lengths of their codewords, which are in a code of their own.

The functions are given a bound on how many codewords there are; one more than there are bits is
always enough.
-/

namespace Workflow

namespace Compression

/-! ## Codes -/

/-- The code for bytes and lengths and the code for distances. -/
structure Codes where
  /-- The code for bytes, for the end of the block and for lengths. -/
  literals : PrefixCode
  /-- The code for distances. -/
  distances : PrefixCode
  deriving Inhabited

/-- The lengths of the codewords of the fixed code for bytes and lengths. -/
def fixedLengths : List Nat :=
  List.replicate 144 8 ++ List.replicate 112 9 ++ List.replicate 24 7 ++ List.replicate 8 8

/-- The fixed codes. -/
def fixedCodes : Codes where
  literals := (PrefixCode.ofLengths? false fixedLengths).getD default
  distances := (PrefixCode.ofLengths? false (List.replicate 32 5)).getD default

/-- The order in which the lengths of the codewords for lengths are told. -/
def lengthOrder : List Nat :=
  [16, 17, 18, 0, 8, 7, 9, 6, 10, 5, 11, 4, 12, 3, 13, 2, 14, 1, 15]

/-- The lengths in the order of what they belong to. -/
def inOrder (told : List Nat) : List Nat :=
  let entries := lengthOrder.zip told
  (List.range 19).map fun i => ((entries.find? fun e => e.1 == i).map Prod.snd).getD 0

/-- A length again so many times. -/
def repeated (length least width : Nat) : BitReader (List Nat) := do
  return List.replicate (least + (← BitReader.natural width)) length

/-- What a codeword for lengths adds to the lengths before it, the last of which comes first. -/
def lengthsFor (before : List Nat) (symbol : Nat) : BitReader (List Nat) :=
  match symbol with
  | 16 => do
    let times := 3 + (← BitReader.natural 2)
    match before with
    | [] => BitReader.fail .lengthRepeat
    | last :: _ => return List.replicate times last
  | 17 => repeated 0 3 3
  | 18 => repeated 0 11 7
  | length => pure [length]

/-- Reads so many lengths in a code, in reverse order after those before them. -/
def readLengths (code : PrefixCode) (total : Nat) : Nat → List Nat → BitReader (List Nat)
  | 0, before => pure before
  | fuel + 1, before =>
    if total ≤ before.length then pure before
    else do
      let more ← lengthsFor before ((← code.read?).getD 0)
      BitReader.require (before.length + more.length ≤ total) .lengthRepeat
      readLengths code total fuel (more ++ before)

/-- Reads the codes of a block. -/
def readCodes : BitReader Codes := do
  let literalCount := (← BitReader.natural 5) + 257
  let distanceCount := (← BitReader.natural 5) + 1
  let lengthCount := (← BitReader.natural 4) + 4
  BitReader.require (literalCount ≤ 286 && distanceCount ≤ 30) .symbolCount
  let told ← BitReader.times (BitReader.natural 3) lengthCount
  match PrefixCode.ofLengths? false (inOrder told) with
  | none => BitReader.fail .lengthCode
  | some code =>
    let total := literalCount + distanceCount
    let lengths := (← readLengths code total total []).reverse
    BitReader.require (lengths.getD 256 0 != 0) .endMissing
    match PrefixCode.ofLengths? true (lengths.take literalCount) with
    | none => BitReader.fail .literalCode
    | some literals =>
      match PrefixCode.ofLengths? true (lengths.drop literalCount) with
      | none => BitReader.fail .distanceCode
      | some distances => return { literals, distances }

/-! ## Lengths and distances -/

/-- The least length that a codeword from 257 on stands for, and how many bits tell how much it is
more. -/
def lengthBases : List (Nat × Nat) := [
  (3, 0), (4, 0), (5, 0), (6, 0), (7, 0), (8, 0), (9, 0), (10, 0), (11, 1), (13, 1), (15, 1),
  (17, 1), (19, 2), (23, 2), (27, 2), (31, 2), (35, 3), (43, 3), (51, 3), (59, 3), (67, 4),
  (83, 4), (99, 4), (115, 4), (131, 5), (163, 5), (195, 5), (227, 5), (258, 0)]

/-- The least distance that a codeword stands for, and how many bits tell how much it is more. -/
def distanceBases : List (Nat × Nat) := [
  (1, 0), (2, 0), (3, 0), (4, 0), (5, 1), (7, 1), (9, 2), (13, 2), (17, 3), (25, 3), (33, 4),
  (49, 4), (65, 5), (97, 5), (129, 6), (193, 6), (257, 7), (385, 7), (513, 8), (769, 8),
  (1025, 9), (1537, 9), (2049, 10), (3073, 10), (4097, 11), (6145, 11), (8193, 12), (12289, 12),
  (16385, 13), (24577, 13)]

/-- Reads what follows a codeword with a base. -/
def readBased (bases : List (Nat × Nat)) (fault : DataFault) (i : Nat) : BitReader Nat :=
  match bases[i]? with
  | some (base, width) => do return base + (← BitReader.natural width)
  | none => BitReader.fail fault

/-! ## Blocks -/

/-- A token of a block. -/
inductive Token where
  /-- A byte. -/
  | byte (b : UInt8)
  /-- The end of the block. -/
  | stop
  /-- A piece of what came before. -/
  | copy (length distance : Nat)
  deriving DecidableEq, Inhabited

/-- Reads a token. -/
def readToken (codes : Codes) : BitReader Token := do
  let symbol ← codes.literals.read .literal
  if symbol < 256 then return .byte (UInt8.ofNat symbol)
  else if symbol = 256 then return .stop
  else
    let length ← readBased lengthBases .literal (symbol - 257)
    let distance ← readBased distanceBases .distance (← codes.distances.read .distance)
    return .copy length distance

/-- How inflating comes to an end. -/
inductive Ending where
  /-- The last block has ended before some bits. -/
  | finished (rest : Bits)
  /-- The bits end too soon. -/
  | short
  /-- The data is wrong. -/
  | bad (fault : DataFault)
  deriving Inhabited

/-- **What data is inflated to**: the bytes that were made, and how it came to an end. -/
structure Inflated where
  /-- The bytes. -/
  output : Array UInt8
  /-- The end. -/
  ending : Ending
  deriving Inhabited

/-- Copies so many bytes from a distance back. -/
def copyBack (output : Array UInt8) (distance : Nat) : Nat → Array UInt8
  | 0 => output
  | n + 1 => copyBack (output.push (output.getD (output.size - distance) 0)) distance n

/-- Reads the tokens of a block. -/
def inflateTokens (codes : Codes) : Nat → Array UInt8 → Bits → Inflated
  | 0, output, _ => ⟨output, .short⟩
  | fuel + 1, output, bits =>
    match readToken codes bits with
    | .short => ⟨output, .short⟩
    | .bad fault => ⟨output, .bad fault⟩
    | .value (.byte b) rest => inflateTokens codes fuel (output.push b) rest
    | .value .stop rest => ⟨output, .finished rest⟩
    | .value (.copy length distance) rest =>
      if output.size < distance then ⟨output, .bad .farDistance⟩
      else inflateTokens codes fuel (copyBack output distance length) rest

/-- Takes so many bytes as they are. -/
def takeStored : Nat → Array UInt8 → Bits → Inflated
  | 0, output, bits => ⟨output, .finished bits⟩
  | n + 1, output, bits =>
    match BitReader.byte bits with
    | .value b rest => takeStored n (output.push b) rest
    | _ => ⟨output, .short⟩

/-- The length of a stored block. -/
def storedLength : BitReader Nat := do
  BitReader.align
  let lengths ← BitReader.take 32
  let length := number (lengths.take 16)
  BitReader.require (number (lengths.drop 16) + length == 0xFFFF) .storedLength
  return length

/-- What kind a block is of. -/
inductive BlockKind where
  /-- So many bytes as they are. -/
  | stored (length : Nat)
  /-- Codewords. -/
  | coded (codes : Codes)
  deriving Inhabited

/-- Reads the beginning of a block: whether it is the last one, and of what kind it is. -/
def readHead : BitReader (Bool × BlockKind) := do
  let last ← BitReader.natural 1
  let kind ← BitReader.natural 2
  match kind with
  | 0 => return (last == 1, .stored (← storedLength))
  | 1 => return (last == 1, .coded fixedCodes)
  | 2 => return (last == 1, .coded (← readCodes))
  | _ => BitReader.fail .block

/-- Inflates a block. -/
def inflateBlock (kind : BlockKind) (output : Array UInt8) (bits : Bits) : Inflated :=
  match kind with
  | .stored length => takeStored length output bits
  | .coded codes => inflateTokens codes (bits.length + 1) output bits

/-- Inflates blocks after what came before. -/
def inflateFrom : Nat → Array UInt8 → Bits → Inflated
  | 0, output, _ => ⟨output, .short⟩
  | fuel + 1, output, bits =>
    match readHead bits with
    | .short => ⟨output, .short⟩
    | .bad fault => ⟨output, .bad fault⟩
    | .value (last, kind) rest =>
      match inflateBlock kind output rest with
      | ⟨output, .finished rest⟩ =>
        if last then ⟨output, .finished rest⟩ else inflateFrom fuel output rest
      | stopped => stopped

/-- **Inflates data.** -/
def inflate (bits : Bits) : Inflated :=
  inflateFrom (bits.length + 1) #[] bits

end Compression

end Workflow
