import Workflow.Charset.Decoding

/-!
# Code pages

A code page gives every byte one character, or none. The bytes below the first one that it lists
stand for themselves.
-/

namespace Workflow

namespace Charset

/-- **A code page.** -/
structure CodePage where
  /-- The names, with bars between their parts. -/
  names : List String
  /-- The first byte that is listed. -/
  first : Nat
  /-- The characters from there on, with the replacement character where there is none. -/
  chars : String
  deriving DecidableEq, Inhabited

/-- The character of a byte. -/
def CodePage.char? (p : CodePage) (b : Nat) : Option Char :=
  if b < p.first then some (Char.ofNat b)
  else (p.chars.toList[b - p.first]?).filter (· != replacement)

/-- Reads bytes. -/
def CodePage.decode (p : CodePage) (bytes : List UInt8) : Decoded :=
  bytes.map fun b => p.char? b.toNat

/-- The set in which bytes below 128 stand for themselves and the others for nothing. -/
def asciiPage : CodePage :=
  ⟨["ascii", "646", "ansi_x3.4_1968", "ansi_x3_4_1968", "ansi_x3.4_1986", "cp367", "csascii",
    "ibm367", "iso646_us", "iso_646.irv_1991", "iso_ir_6", "us", "us_ascii"], 128, ""⟩

/-- The set in which all bytes stand for themselves. -/
def latinPage : CodePage :=
  ⟨["latin_1", "8859", "cp819", "csisolatin1", "ibm819", "iso8859", "iso8859_1", "iso_8859_1",
    "iso_8859_1_1987", "iso_ir_100", "l1", "latin", "latin1", "charmap"], 256, ""⟩

end Charset

end Workflow
