import Workflow.Compression.Inflate

/-!
# Formats of compressed data

Deflated data stands alone or between a header and a checksum, of which there are two formats.
What follows the end is not looked at, and data that ends too soon gives as much as there is.
-/

namespace Workflow

namespace Compression

/-! ## Checksums -/

/-- A step of the checksum of the short format: a sum of bytes and a sum of sums. -/
def adlerStep (state : Nat × Nat) (b : UInt8) : Nat × Nat :=
  let low := (state.1 + b.toNat) % 65521
  (low, (state.2 + low) % 65521)

/-- The checksum of the short format. -/
def adler (bytes : Array UInt8) : Nat :=
  let (low, high) := bytes.foldl adlerStep (1, 0)
  high * 65536 + low

/-- A step of the checksum of the long format for one bit. -/
def crcBit (crc : UInt32) : UInt32 :=
  if crc &&& 1 == 1 then (crc >>> 1) ^^^ 0xEDB88320 else crc >>> 1

/-- A step of the checksum of the long format. -/
def crcStep (crc : UInt32) (b : UInt8) : UInt32 :=
  (List.range 8).foldl (fun crc _ => crcBit crc) (crc ^^^ b.toUInt32)

/-- The checksum of the long format. -/
def crc (bytes : Array UInt8) : Nat :=
  (bytes.foldl crcStep 0xFFFFFFFF ^^^ 0xFFFFFFFF).toNat

/-! ## Formats -/

/-- **How compressed data is wrapped.** -/
inductive Format where
  /-- Not at all. -/
  | bare
  /-- With the short header. -/
  | short
  /-- With the long header. -/
  | long
  deriving DecidableEq, Inhabited

/-- The number of bits with the most significant byte first. -/
def bigNumber (bits : Bits) : Nat :=
  number (bits.drop 24) + 256 * number ((bits.drop 16).take 8)
    + 65536 * number ((bits.drop 8).take 8) + 16777216 * number (bits.take 8)

/-- Reads the short header. -/
def readShortHeader : BitReader Unit := do
  let head ← BitReader.take 16
  let first := number (head.take 8)
  let second := number (head.drop 8)
  BitReader.require ((first * 256 + second) % 31 == 0) .header
  BitReader.require (first % 16 == 8) .method
  BitReader.require (first / 16 ≤ 7) .window
  if second.testBit 5 then
    let _ ← BitReader.take 32
    BitReader.fail .dictionary

/-- Reads bytes up to a zero. -/
def readName : Nat → BitReader (List UInt8)
  | 0 => fun _ => .short
  | fuel + 1 => do
    let b ← BitReader.byte
    if b = 0 then return [b] else return b :: (← readName fuel)

/-- Reads what has a flag, the bytes of it. -/
def readIf (flag : Bool) (r : BitReader (List UInt8)) : BitReader (List UInt8) :=
  if flag then r else pure []

/-- Reads the long header, of at most so many bytes. -/
def readLongHeader (bound : Nat) : BitReader Unit := do
  let bytes (n : Nat) := BitReader.times BitReader.byte n
  let mark ← bytes 2
  BitReader.require (mark == [0x1F, 0x8B]) .header
  let info ← bytes 2
  let flags := (info.getD 1 0).toNat
  BitReader.require (info.getD 0 0 == 8) .method
  BitReader.require (flags < 32) .flags
  let about ← bytes 6
  let extra ← readIf (flags.testBit 2) do
    let size ← bytes 2
    let length := (size.getD 0 0).toNat + 256 * (size.getD 1 0).toNat
    return size ++ (← bytes length)
  let name ← readIf (flags.testBit 3) (readName bound)
  let comment ← readIf (flags.testBit 4) (readName bound)
  if flags.testBit 1 then
    let sum ← BitReader.natural 16
    let header := mark ++ info ++ about ++ extra ++ name ++ comment
    BitReader.require (sum == crc header.toArray % 65536) .headerChecksum

/-- Reads what stands in front of the data. -/
def readHeader (format : Format) (bound : Nat) : BitReader Unit :=
  match format with
  | .bare => pure ()
  | .short => readShortHeader
  | .long => readLongHeader bound

/-- Reads what follows the data. -/
def readTrailer (format : Format) (output : Array UInt8) : BitReader Unit :=
  match format with
  | .bare => pure ()
  | .short => do
    BitReader.align
    let sum ← BitReader.take 32
    BitReader.require (bigNumber sum == adler output) .checksum
  | .long => do
    BitReader.align
    let sum ← BitReader.natural 32
    BitReader.require (sum == crc output) .checksum
    let length ← BitReader.natural 32
    BitReader.require (length == output.size % 4294967296) .length

/-- **The data that was compressed**, as far as it is there. -/
def unwrap (format : Format) (bytes : List UInt8) : Except DataFault (List UInt8) :=
  match readHeader format bytes.length (bitsOf bytes) with
  | .short => .ok []
  | .bad fault => .error fault
  | .value _ bits =>
    match inflate bits with
    | ⟨_, .bad fault⟩ => .error fault
    | ⟨output, .short⟩ => .ok output.toList
    | ⟨output, .finished rest⟩ =>
      match readTrailer format output rest with
      | .bad fault => .error fault
      | _ => .ok output.toList

end Compression

end Workflow
