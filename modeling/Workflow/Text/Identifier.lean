import Workflow.Text.Digit
import Workflow.Text.Mark

/-!
# Identifiers

A name in a formal text begins with a letter of any script or a bar, and goes on with letters,
marks, digits and a few signs. The table lists the letters in stretches; characters that are
not printable, marks and digits may fall into a stretch but do not belong to it.
-/

namespace Workflow.Text

/-- Stretches of the letters with which a name may begin. -/
def letterSpans : Spans := [
  (0x41, 0x5A), (0x61, 0x7A), (0xAA, 0xAA), (0xB5, 0xB5), (0xBA, 0xBA), (0xC0, 0xD6),
  (0xD8, 0xF6), (0xF8, 0x2C1), (0x2C6, 0x2D1), (0x2E0, 0x2E4), (0x2EC, 0x2EC), (0x2EE, 0x2EE),
  (0x370, 0x374), (0x376, 0x377), (0x37B, 0x37D), (0x37F, 0x37F), (0x386, 0x386), (0x388, 0x3F5),
  (0x3F7, 0x481), (0x48A, 0x559), (0x560, 0x588), (0x5D0, 0x5F2), (0x620, 0x64A), (0x66E, 0x6D3),
  (0x6D5, 0x6D5), (0x6E5, 0x6E6), (0x6EE, 0x6FC), (0x6FF, 0x6FF), (0x710, 0x7F5), (0x7FA, 0x7FA),
  (0x800, 0x828), (0x840, 0x858), (0x860, 0x887), (0x889, 0x961), (0x971, 0x9F1), (0x9FC, 0x9FC),
  (0xA05, 0xA74), (0xA85, 0xAE1), (0xAF9, 0xB61), (0xB71, 0xB71), (0xB83, 0xBD0), (0xC05, 0xC61),
  (0xC80, 0xC80), (0xC85, 0xD4E), (0xD54, 0xD56), (0xD5F, 0xD61), (0xD7A, 0xDC6), (0xE01, 0xE32),
  (0xE40, 0xE46), (0xE81, 0xEB2), (0xEBD, 0xF00), (0xF40, 0xF6C), (0xF88, 0xF8C),
  (0x1000, 0x103F), (0x1050, 0x108E), (0x10A0, 0x10FA), (0x10FC, 0x135A), (0x1380, 0x138F),
  (0x13A0, 0x13FD), (0x1401, 0x166C), (0x166F, 0x169A), (0x16A0, 0x16EA), (0x16EE, 0x1731),
  (0x1740, 0x17B3), (0x17D7, 0x17D7), (0x17DC, 0x17DC), (0x1820, 0x191E), (0x1950, 0x19C9),
  (0x1A00, 0x1A16), (0x1A20, 0x1A54), (0x1AA7, 0x1AA7), (0x1B05, 0x1B4C), (0x1B83, 0x1BE5),
  (0x1C00, 0x1C23), (0x1C4D, 0x1C7D), (0x1C80, 0x1CBF), (0x1CE9, 0x1FBC), (0x1FBE, 0x1FBE),
  (0x1FC2, 0x1FCC), (0x1FD0, 0x1FDB), (0x1FE0, 0x1FEC), (0x1FF2, 0x1FFC), (0x2071, 0x2071),
  (0x207F, 0x207F), (0x2090, 0x209C), (0x2102, 0x2102), (0x2107, 0x2107), (0x210A, 0x2113),
  (0x2115, 0x2115), (0x2118, 0x211D), (0x2124, 0x2124), (0x2126, 0x2126), (0x2128, 0x2128),
  (0x212A, 0x2139), (0x213C, 0x213F), (0x2145, 0x2149), (0x214E, 0x214E), (0x2160, 0x2188),
  (0x2C00, 0x2CE4), (0x2CEB, 0x2CF3), (0x2D00, 0x2D6F), (0x2D80, 0x2DDE), (0x3005, 0x3007),
  (0x3021, 0x3029), (0x3031, 0x3035), (0x3038, 0x303C), (0x3041, 0x3096), (0x309D, 0x309F),
  (0x30A1, 0x30FA), (0x30FC, 0x318E), (0x31A0, 0x31BF), (0x31F0, 0x31FF), (0x3400, 0x4DBF),
  (0x4E00, 0xA48C), (0xA4D0, 0xA4FD), (0xA500, 0xA60C), (0xA610, 0xA66E), (0xA67F, 0xA6EF),
  (0xA717, 0xA71F), (0xA722, 0xA788), (0xA78B, 0xA822), (0xA840, 0xA873), (0xA882, 0xA8B3),
  (0xA8F2, 0xA8F7), (0xA8FB, 0xA8FB), (0xA8FD, 0xA925), (0xA930, 0xA946), (0xA960, 0xA9B2),
  (0xA9CF, 0xA9CF), (0xA9E0, 0xAA4B), (0xAA60, 0xAA76), (0xAA7A, 0xAADD), (0xAAE0, 0xAAEA),
  (0xAAF2, 0xAB5A), (0xAB5C, 0xAB69), (0xAB70, 0xABE2), (0xAC00, 0xFB28), (0xFB2A, 0xFBB1),
  (0xFBD3, 0xFC5D), (0xFC64, 0xFD3D), (0xFD50, 0xFDC7), (0xFDF0, 0xFDF9), (0xFE71, 0xFE71),
  (0xFE73, 0xFE73), (0xFE77, 0xFE77), (0xFE79, 0xFE79), (0xFE7B, 0xFE7B), (0xFE7D, 0xFE7D),
  (0xFE7F, 0xFEFC), (0xFF21, 0xFF3A), (0xFF41, 0xFF5A), (0xFF66, 0xFF9D), (0xFFA0, 0xFFDC),
  (0x10000, 0x100FA), (0x10140, 0x10174), (0x10280, 0x102D0), (0x10300, 0x1031F),
  (0x1032D, 0x1039D), (0x103A0, 0x103CF), (0x103D1, 0x10563), (0x10570, 0x10855),
  (0x10860, 0x10876), (0x10880, 0x1089E), (0x108E0, 0x108F5), (0x10900, 0x10915),
  (0x10920, 0x10939), (0x10980, 0x109B7), (0x109BE, 0x109BF), (0x10A00, 0x10A35),
  (0x10A60, 0x10A7C), (0x10A80, 0x10A9C), (0x10AC0, 0x10AC7), (0x10AC9, 0x10AE4),
  (0x10B00, 0x10B35), (0x10B40, 0x10B55), (0x10B60, 0x10B72), (0x10B80, 0x10B91),
  (0x10C00, 0x10CF2), (0x10D00, 0x10D23), (0x10E80, 0x10EA9), (0x10EB0, 0x10F1C),
  (0x10F27, 0x10F45), (0x10F70, 0x10F81), (0x10FB0, 0x10FC4), (0x10FE0, 0x11037),
  (0x11071, 0x110AF), (0x110D0, 0x11126), (0x11144, 0x11172), (0x11176, 0x111C4),
  (0x111DA, 0x111DA), (0x111DC, 0x111DC), (0x11200, 0x1122B), (0x11280, 0x112A8),
  (0x112B0, 0x1144A), (0x1145F, 0x114C5), (0x114C7, 0x115AE), (0x115D8, 0x1162F),
  (0x11644, 0x11644), (0x11680, 0x116B8), (0x11700, 0x1171A), (0x11740, 0x1182B),
  (0x118A0, 0x118DF), (0x118FF, 0x11941), (0x119A0, 0x119E1), (0x119E3, 0x11A3A),
  (0x11A50, 0x11A89), (0x11A9D, 0x11A9D), (0x11AB0, 0x11C40), (0x11C72, 0x11EF2),
  (0x11FB0, 0x11FB0), (0x12000, 0x1246E), (0x12480, 0x12FF0), (0x13000, 0x16A5E),
  (0x16A70, 0x16AED), (0x16B00, 0x16B2F), (0x16B40, 0x16B43), (0x16B63, 0x16E7F),
  (0x16F00, 0x16FE1), (0x16FE3, 0x1BC99), (0x1D400, 0x1D6C0), (0x1D6C2, 0x1D6DA),
  (0x1D6DC, 0x1D6FA), (0x1D6FC, 0x1D714), (0x1D716, 0x1D734), (0x1D736, 0x1D74E),
  (0x1D750, 0x1D76E), (0x1D770, 0x1D788), (0x1D78A, 0x1D7A8), (0x1D7AA, 0x1D7C2),
  (0x1D7C4, 0x1D7CB), (0x1DF00, 0x1E14E), (0x1E290, 0x1E2EB), (0x1E7E0, 0x1E8C4),
  (0x1E900, 0x1E94B), (0x1EE00, 0x1EEBB), (0x20000, 0x3134A)]

/-- The signs within a name that are neither letters nor marks nor digits. -/
def connectorSpans : Spans := [
  (0x5F, 0x5F), (0xB7, 0xB7), (0x387, 0x387), (0xE33, 0xE33), (0xEB3, 0xEB3), (0x1369, 0x1371),
  (0x19DA, 0x19DA), (0x203F, 0x2040), (0x2054, 0x2054), (0xFE33, 0xFE34), (0xFE4D, 0xFE4F),
  (0xFF3F, 0xFF3F), (0xFF9E, 0xFF9F)]

/-- The marks that stand around a character, which a name must not hold. -/
def enclosingSpans : Spans := [
  (0x488, 0x489), (0x1ABE, 0x1ABE), (0x20DD, 0x20E0), (0x20E2, 0x20E4), (0xA670, 0xA672)]

/-- Whether a name may begin with a character. -/
def startsIdentifier (c : Char) : Bool :=
  if c.toNat < 0x80 then c.isAlpha || c == '_'
  else
    c == '\u1885' || c == '\u1886' ||
      (letterSpans.has c.toNat && isPrintable c && !isMark c && !isDecimal c)

/-- Whether a name may go on with a character. -/
def continuesIdentifier (c : Char) : Bool :=
  startsIdentifier c || isDecimal c || connectorSpans.has c.toNat ||
    (isMark c && !enclosingSpans.has c.toNat)

/-- Whether a text has the form of a name. -/
def isIdentifier : List Char → Bool
  | [] => false
  | c :: cs => startsIdentifier c && cs.all continuesIdentifier

end Workflow.Text
