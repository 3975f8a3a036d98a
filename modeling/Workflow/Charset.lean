import Workflow.Charset.Escape
import Workflow.Charset.Iso2022
import Workflow.Charset.Page.Dos
import Workflow.Charset.Page.Ebcdic
import Workflow.Charset.Page.Iso
import Workflow.Charset.Page.Koi
import Workflow.Charset.Page.Mac
import Workflow.Charset.Page.Windows
import Workflow.Charset.Unicode
import Workflow.Charset.Utf7

/-!
# Character sets

A content type may name the character set in which a body is to be read. `Charset.ofName?` finds the
set by one of its names, and `Charset.decode` reads bytes: where they stand for no character there
is the replacement character. A few names belong to transformations of another kind, which read
nothing and say why.
-/

namespace Workflow

/-- **A character set.** -/
structure Charset where
  /-- The names, the first of which is its own; points may stand for the bars of the others. -/
  names : List String
  /-- What bytes stand for. -/
  read : List UInt8 → Except Charset.Fault Charset.Decoded
  /-- The characters of bytes that are the whole text and in which nothing is wrong. -/
  exact : List UInt8 → Except Charset.Fault (Option (List Char))

namespace Charset

/-! ## Kinds of sets -/

/-- A set that reads all bytes. -/
def total (names : List String) (f : List UInt8 → Decoded) : Charset where
  names
  read bytes := .ok (f bytes)
  exact bytes := .ok (f bytes).whole?

/-- A set with a character for every byte. -/
def CodePage.charset (p : CodePage) : Charset := total p.names p.decode

/-- A set that is read step by step. -/
def stepped {σ : Type} (names : List String) (step : σ → List UInt8 → Step σ) (start : σ) :
    Charset where
  names
  read bytes :=
    match faultFrom step 0 start bytes with
    | some fault => .error fault
    | none => .ok (steps step start bytes)
  exact bytes :=
    let d := steps step start bytes
    if faultFrom step 0 start bytes = some .stuck ∧ d.dropLast.all Option.isSome then
      .error .stuck
    else .ok d.whole?

/-- A set of units with so many bits, whose order a mark may have to tell. Without one the least
significant byte comes first in a whole text. -/
def united (names : List String) (bits : Nat)
    (f : ByteOrder → List UInt8 → Option Decoded) (order : ByteOrder) : Charset where
  names
  read bytes :=
    match f order bytes with
    | some d => .ok d
    | none => .error (.unmarked bits)
  exact bytes := .ok (((f order bytes).or (f .little bytes)).bind Decoded.whole?)

/-- A name for what reads no bytes. -/
def refusing (names : List String) (fault : Fault) : Charset where
  names
  read _ := .error fault
  exact _ := .ok none

/-! ## The sets -/

/-- UTF-8. -/
def utf8 : Charset :=
  total ["utf_8", "u8", "utf", "utf8", "utf8_ucs2", "utf8_ucs4", "cp65001"] readUtf8

/-- UTF-8 after a mark, which need not be there. -/
def markedUtf8 : Charset where
  names := ["utf_8_sig"]
  read bytes := .ok (readMarkedUtf8 bytes)
  exact bytes := .ok (readUtf8 (withoutMark bytes)).whole?

/-- The sets of all characters. -/
def universal : List Charset := [
  utf8,
  markedUtf8,
  united ["utf_16", "u16", "utf16"] 16 decode16 .marked,
  united ["utf_16_le", "utf_16le", "unicodelittleunmarked"] 16 decode16 .little,
  united ["utf_16_be", "utf_16be", "unicodebigunmarked"] 16 decode16 .big,
  united ["utf_32", "u32", "utf32"] 32 decode32 .marked,
  united ["utf_32_le", "utf_32le"] 32 decode32 .little,
  united ["utf_32_be", "utf_32be"] 32 decode32 .big,
  total ["utf_7", "u7", "utf7", "unicode_1_1_utf_7"] readUtf7,
  total ["unicode_escape"] (steps escapeStep ()),
  total ["raw_unicode_escape"] (steps codeEscapeStep ()),
  { names := ["punycode"], read := readPunycode, exact := fun bytes => .ok (exactPunycode? bytes) }]

/-- The sets with a character for every byte. -/
def paged : List Charset :=
  ([asciiPage, latinPage] ++ isoPages ++ windowsPages ++ dosPages ++ koiPages ++ macPages ++
    mainframePages).map CodePage.charset

/-- The sets for Chinese. -/
def chinese : List Charset := [
  stepped ["gb2312", "chinese", "csiso58gb231280", "euc_cn", "euccn", "eucgb2312_cn",
    "gb2312_1980", "gb2312_80", "iso_ir_58", "x_mac_simp_chinese"] gb2312Step (),
  stepped ["gbk", "936", "cp936", "ms936"] gbkStep (),
  stepped ["gb18030", "gb18030_2000"] gb18030Step (),
  stepped ["hz", "hzgb", "hz_gb", "hz_gb_2312"] hzStep false,
  stepped ["big5", "big5_tw", "csbig5", "x_mac_trad_chinese"] big5Step (),
  stepped ["cp950", "950", "ms950"] windows950Step (),
  stepped ["big5hkscs", "big5_hkscs", "hkscs"] hongKongStep ()]

/-- The sets for Korean. -/
def korean : List Charset := [
  stepped ["euc_kr", "euckr", "korean", "ksc5601", "ks_c_5601", "ks_c_5601_1987", "ksx1001",
    "ks_x_1001", "x_mac_korean"] eucKrStep (),
  stepped ["cp949", "949", "ms949", "uhc"] windows949Step (),
  stepped ["johab", "cp1361", "ms1361"] johabStep ()]

/-- The sets for Japanese. -/
def japanese : List Charset := [
  stepped ["euc_jp", "eucjp", "ujis", "u_jis"] eucJpStep (),
  stepped ["euc_jisx0213", "eucjisx0213"] (euc0213Step .of2000) (),
  stepped ["euc_jis_2004", "jisx0213", "eucjis2004", "euc_jis2004"] (euc0213Step .of2004) (),
  stepped ["shift_jis", "csshiftjis", "shiftjis", "sjis", "s_jis", "x_mac_japanese"]
    shiftJisStep (),
  stepped ["shift_jisx0213", "shiftjisx0213", "sjisx0213", "s_jisx0213"]
    (shift0213Step .of2000) (),
  stepped ["shift_jis_2004", "shiftjis2004", "sjis_2004", "s_jis_2004"]
    (shift0213Step .of2004) (),
  stepped ["cp932", "932", "ms932", "mskanji", "ms_kanji"] windows932Step ()]

/-- The sets that are switched by escapes. -/
def switched : List Charset := [
  stepped ["iso2022_kr", "csiso2022kr", "iso2022kr", "iso_2022_kr"]
    (Iso2022.step Iso2022.korean) {},
  stepped ["iso2022_jp", "csiso2022jp", "iso2022jp", "iso_2022_jp"]
    (Iso2022.step Iso2022.japaneseCommon) {},
  stepped ["iso2022_jp_1", "iso2022jp_1", "iso_2022_jp_1"] (Iso2022.step Iso2022.japaneseRare) {},
  stepped ["iso2022_jp_2", "iso2022jp_2", "iso_2022_jp_2"] (Iso2022.step Iso2022.multilingual) {},
  stepped ["iso2022_jp_3", "iso2022jp_3", "iso_2022_jp_3"] (Iso2022.step Iso2022.japanese2000) {},
  stepped ["iso2022_jp_2004", "iso_2022_jp_2004", "iso2022jp_2004"]
    (Iso2022.step Iso2022.japanese2004) {},
  stepped ["iso2022_jp_ext", "iso2022jp_ext", "iso_2022_jp_ext"]
    (Iso2022.step Iso2022.japaneseKatakana) {}]

/-- Domain names as a set. It only reads bytes without anything wrong. -/
def domainNames : Charset where
  names := ["idna"]
  read _ := .error .exactOnly
  exact bytes := .ok (asciiPage.decode bytes).whole?

/-- The names for what reads no bytes. -/
def refused : List Charset := [
  domainNames,
  refusing ["undefined"] .readsNothing,
  refusing ["rot_13", "rot13"] .textOnly,
  refusing ["base64_codec", "base64", "base_64"] .bytesOnly,
  refusing ["bz2_codec", "bz2"] .bytesOnly,
  refusing ["hex_codec", "hex"] .bytesOnly,
  refusing ["quopri_codec", "quopri", "quoted_printable", "quotedprintable"] .bytesOnly,
  refusing ["uu_codec", "uu"] .bytesOnly,
  refusing ["zlib_codec", "zip", "zlib"] .bytesOnly]

/-- **All character sets.** -/
def all : List Charset :=
  universal ++ paged ++ chinese ++ korean ++ japanese ++ switched ++ refused

/-! ## Names -/

/-- A name in lower case, in which a bar stands for other characters than letters, digits and
points between two of those. The flag says whether one is before. -/
def normalizedFrom (afterOne : Bool) : List Char → List Char
  | [] => []
  | c :: cs =>
    if c.isAlphanum || c == '.' then c.toLower :: normalizedFrom true cs
    else
      match normalizedFrom false cs with
      | [] => []
      | rest => if afterOne then '_' :: rest else rest

/-- A name as it is looked up. -/
def normalized (name : String) : String :=
  String.ofList (normalizedFrom false name.toList)

/-- Whether a set has a name, which is given as it is looked up. -/
def isNamed (name : String) (c : Charset) : Bool :=
  c.names.contains name ||
    (c.names.drop 1).contains (name.map fun x => if x = '.' then '_' else x)

/-- **The character set of a name.** A name with a zero in it cannot be looked up. -/
def ofName? (name : String) : Except Fault (Option Charset) :=
  if name.contains '\x00' then .error .zeroInName
  else .ok (all.find? (isNamed (normalized name)))

/-- **Reads bytes** in a character set. -/
def decode (c : Charset) (bytes : List UInt8) : Except Fault (List Char) :=
  (c.read bytes).map Decoded.text

end Charset

end Workflow
