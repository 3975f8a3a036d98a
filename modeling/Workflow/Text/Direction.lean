import Workflow.Text.Mark

/-!
# Writing directions

Letters of some scripts are written from right to left. Digits, hyphens and marks have no
direction of their own but fall in with what stands around them. The tables tell about the
characters that a label of a host name may hold, and about no others.
-/

namespace Workflow.Text

/-- **The part that a character plays in the direction of a text.** -/
inductive Direction where
  /-- Letters that are written from left to right. -/
  | left
  /-- Letters that are written from right to left. -/
  | right
  /-- Letters of the Arabic kind, which are written from right to left. -/
  | arabic
  /-- Digits of the European kind. -/
  | digit
  /-- Digits of the Arabic kind. -/
  | arabicDigit
  /-- Marks, which go with the letter before them. -/
  | mark
  /-- Characters without a direction. -/
  | neutral
  /-- Letters of which the direction is not known. -/
  | unknown
  deriving DecidableEq, Inhabited

/-- The letters that are written from right to left, apart from those of the Arabic kind. -/
def rightSpans : Spans := [
  (0x5D0, 0x5F4), (0x7C0, 0x7EA), (0x7F4, 0x7F5), (0x800, 0x815), (0x81A, 0x81A), (0x824, 0x824),
  (0x828, 0x828), (0x840, 0x858), (0x10800, 0x10A00), (0x10A10, 0x10A35), (0x10A60, 0x10AE4),
  (0x10B00, 0x10CF2), (0x10E80, 0x10EA9), (0x10EB0, 0x10F27), (0x10F70, 0x10F81),
  (0x10FB0, 0x10FF6), (0x1E800, 0x1E8C4), (0x1E922, 0x1E943), (0x1E94B, 0x1E959)]

/-- The letters of the Arabic kind. -/
def arabicSpans : Spans := [
  (0x620, 0x64A), (0x66E, 0x66F), (0x671, 0x6D5), (0x6E5, 0x6E6), (0x6EE, 0x6EF), (0x6FA, 0x710),
  (0x712, 0x72F), (0x74D, 0x7A5), (0x7B1, 0x7B1), (0x860, 0x88E), (0x8A0, 0x8C9),
  (0xFE73, 0xFE73), (0x10D00, 0x10D23), (0x10F30, 0x10F45)]

/-- The digits of the European kind. -/
def digitSpans : Spans := [(0x30, 0x39), (0x6F0, 0x6F9)]

/-- The digits of the Arabic kind. -/
def arabicDigitSpans : Spans := [(0x660, 0x669), (0x10D30, 0x10D39)]

/-- The characters without a direction: the hyphen, the joiners and some signs. -/
def neutralSpans : Spans := [
  (0x2D, 0x2D), (0xB7, 0xB7), (0x2B9, 0x2BA), (0x2C6, 0x2CF), (0x2EC, 0x2EC), (0x375, 0x375),
  (0x200C, 0x200D), (0x2E2F, 0x2E2F), (0x30FB, 0x30FB), (0xA67F, 0xA67F), (0xA717, 0xA71F),
  (0xA788, 0xA788)]

/-- Letters that a label may hold although their direction is not known. -/
def undirectedSpans : Spans := [
  (0x88F, 0x88F), (0x897, 0x897), (0xC5C, 0xC5C), (0xCDC, 0xCDC), (0xCF3, 0xCF3), (0xECE, 0xECE),
  (0x1ACF, 0x1ADD), (0x1AE0, 0x1AEB), (0x1C8A, 0x1C8A), (0xA7CD, 0xA7CD), (0xA7CF, 0xA7CF),
  (0xA7DB, 0xA7DB), (0x105C0, 0x105F3), (0x10940, 0x10959), (0x10D40, 0x10D4F),
  (0x10D69, 0x10D6D), (0x10D6F, 0x10D85), (0x10EC2, 0x10EC7), (0x10EFA, 0x10EFF),
  (0x1123F, 0x11241), (0x11380, 0x11389), (0x1138B, 0x1138B), (0x1138E, 0x1138E),
  (0x11390, 0x113B5), (0x113B7, 0x113C0), (0x113C2, 0x113C2), (0x113C5, 0x113C5),
  (0x113C7, 0x113CA), (0x113CC, 0x113D3), (0x113E1, 0x113E2), (0x116D0, 0x116E3),
  (0x11B60, 0x11B67), (0x11BC0, 0x11BE0), (0x11BF0, 0x11BF9), (0x11DB0, 0x11DDB),
  (0x11DE0, 0x11DE9), (0x11F00, 0x11F10), (0x11F12, 0x11F3A), (0x11F3E, 0x11F42),
  (0x11F50, 0x11F5A), (0x1342F, 0x1342F), (0x13440, 0x13455), (0x13460, 0x143FA),
  (0x16100, 0x16139), (0x16D40, 0x16D6C), (0x16D70, 0x16D79), (0x16EBB, 0x16ED3),
  (0x16FF2, 0x16FF3), (0x187F8, 0x187FF), (0x18CFF, 0x18CFF), (0x18D09, 0x18D1E),
  (0x18D80, 0x18DF2), (0x1B132, 0x1B132), (0x1B155, 0x1B155), (0x1DF25, 0x1DF2A),
  (0x1E08F, 0x1E08F), (0x1E4D0, 0x1E4F9), (0x1E5D0, 0x1E5FA), (0x1E6C0, 0x1E6DE),
  (0x1E6E0, 0x1E6F5), (0x1E6FE, 0x1E6FF), (0x2B739, 0x2B73F), (0x2CEA2, 0x2CEAD),
  (0x2EBF0, 0x2EE5D), (0x31350, 0x33479)]

/-- The marks that count as letters. -/
def letterMarks : List Nat := [0xCBF, 0xCC6, 0x11A07, 0x11A08, 0x11C3F]

/-- The part that a character plays. -/
def direction (c : Char) : Direction :=
  let n := c.toNat
  if digitSpans.has n then .digit
  else if arabicDigitSpans.has n then .arabicDigit
  else if neutralSpans.has n then .neutral
  else if rightSpans.has n then .right
  else if arabicSpans.has n then .arabic
  else if undirectedSpans.has n then .unknown
  else if isNonspacing c && !letterMarks.contains n then .mark
  else .left

end Workflow.Text
