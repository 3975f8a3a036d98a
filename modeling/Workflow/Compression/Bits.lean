/-!
# Reading bits

Compressed data is a row of bits. The bits of a byte come from the least significant one on, and
so do those of a number that takes several bits.

Reading may run out of bits, which is no error: what was made so far is kept. Data that is wrong
is a `DataFault`. `BitReader` tells the three outcomes apart.
-/

namespace Workflow

namespace Compression

/-- **What is wrong with compressed data.** -/
inductive DataFault where
  /-- The first bytes are not those of the format. -/
  | header
  /-- The method is not known. -/
  | method
  /-- The window is larger than there may be. -/
  | window
  /-- A flag of the header is not known. -/
  | flags
  /-- The checksum of the header is another one. -/
  | headerChecksum
  /-- The data continues a text that was to be agreed on before. -/
  | dictionary
  /-- A block is of no known kind. -/
  | block
  /-- The length of a stored block and its complement do not fit. -/
  | storedLength
  /-- A block has too many codewords. -/
  | symbolCount
  /-- The code for lengths is no code. -/
  | lengthCode
  /-- A length is repeated where there is none, or too often. -/
  | lengthRepeat
  /-- No codeword ends the block. -/
  | endMissing
  /-- The code for bytes and lengths is no code. -/
  | literalCode
  /-- The code for distances is no code. -/
  | distanceCode
  /-- Some bits are no codeword for a byte or a length. -/
  | literal
  /-- Some bits are no codeword for a distance. -/
  | distance
  /-- A distance leads to before the beginning. -/
  | farDistance
  /-- The checksum of the data is another one. -/
  | checksum
  /-- The length of the data is another one. -/
  | length
  deriving DecidableEq, Inhabited

/-- What a fault is called. -/
def DataFault.name : DataFault → String
  | .header => "incorrect header check"
  | .method => "unknown compression method"
  | .window => "invalid window size"
  | .flags => "unknown header flags set"
  | .headerChecksum => "header crc mismatch"
  | .dictionary => ""
  | .block => "invalid block type"
  | .storedLength => "invalid stored block lengths"
  | .symbolCount => "too many length or distance symbols"
  | .lengthCode => "invalid code lengths set"
  | .lengthRepeat => "invalid bit length repeat"
  | .endMissing => "invalid code -- missing end-of-block"
  | .literalCode => "invalid literal/lengths set"
  | .distanceCode => "invalid distances set"
  | .literal => "invalid literal/length code"
  | .distance => "invalid distance code"
  | .farDistance => "invalid distance too far back"
  | .checksum => "incorrect data check"
  | .length => "incorrect length check"

/-- What is wrong with compressed data. -/
def DataFault.message : DataFault → String
  | .dictionary => "Error 2 while decompressing data"
  | fault => "Error -3 while decompressing data: " ++ fault.name

/-- A row of bits. -/
abbrev Bits := List Bool

/-- The bits of a byte, the least significant one first. -/
def bitsOfByte (b : UInt8) : Bits :=
  (List.range 8).map fun i => b.toNat.testBit i

/-- The bits of some bytes. -/
def bitsOf (bytes : List UInt8) : Bits :=
  bytes.flatMap bitsOfByte

/-- The number of some bits. -/
def number : Bits → Nat
  | [] => 0
  | b :: bs => b.toNat + 2 * number bs

/-- **The outcome of reading**: a value and the bits after it, no more bits, or a fault. -/
inductive Taken (α : Type) where
  /-- A value, and the bits that follow. -/
  | value (a : α) (rest : Bits)
  /-- The bits end too soon. -/
  | short
  /-- The data is wrong. -/
  | bad (fault : DataFault)
  deriving Inhabited

/-- **What reads a value off a row of bits.** -/
abbrev BitReader (α : Type) := Bits → Taken α

namespace BitReader

variable {α β : Type}

/-- Reads nothing. -/
def pure (a : α) : BitReader α :=
  .value a

/-- Reads one value and then another one. -/
def bind (r : BitReader α) (next : α → BitReader β) : BitReader β := fun bits =>
  match r bits with
  | .value a rest => next a rest
  | .short => .short
  | .bad fault => .bad fault

instance : Monad BitReader where
  pure := pure
  bind := bind

/-- Stops with a fault. -/
def fail (fault : DataFault) : BitReader α := fun _ =>
  .bad fault

/-- Stops with a fault unless a condition holds. -/
def require (condition : Bool) (fault : DataFault) : BitReader Unit :=
  if condition then pure () else fail fault

/-- The next so many bits. -/
def take : Nat → BitReader Bits
  | 0 => pure []
  | n + 1 => fun
    | [] => .short
    | b :: bits => bind (take n) (fun bs => pure (b :: bs)) bits

/-- The number of the next so many bits. -/
def natural (n : Nat) : BitReader Nat := do
  return number (← take n)

/-- The next byte. -/
def byte : BitReader UInt8 := do
  return UInt8.ofNat (← natural 8)

/-- Drops the bits up to the next byte. -/
def align : BitReader Unit := fun bits =>
  .value () (bits.drop (bits.length % 8))

/-- Does something so many times. -/
def times (r : BitReader α) : Nat → BitReader (List α)
  | 0 => pure []
  | n + 1 => do return (← r) :: (← times r n)

end BitReader

end Compression

end Workflow
