import Workflow.Charset.CharTable

/-!
# GB 18030

What GB 18030 has beside GBK. Numbers of codes are given in runs, in which both the codes and the
characters follow each other.
-/

namespace Workflow

namespace Charset

/-- Two bytes as a number, the character of them, and how many follow in the same way. -/
def gb18030Runs : List (Nat × Nat × Nat) := [
  (0xA2AB, 0xE766, 6), (0xA2E3, 0x20AC, 1), (0xA2E4, 0xE76D, 1), (0xA2EF, 0xE76E, 2),
  (0xA2FD, 0xE770, 2), (0xA4F4, 0xE772, 11), (0xA5F7, 0xE77D, 8), (0xA6B9, 0xE785, 8),
  (0xA6D9, 0xE78D, 7), (0xA6EC, 0xE794, 2), (0xA6F3, 0xE796, 1), (0xA6F6, 0xE797, 9),
  (0xA7C2, 0xE7A0, 15), (0xA7F2, 0xE7AF, 13), (0xA896, 0xE7BC, 11), (0xA8BC, 0xE7C7, 1),
  (0xA8BF, 0x1F9, 1), (0xA8C1, 0xE7C9, 4), (0xA8EA, 0xE7CD, 21), (0xA958, 0xE7E2, 1),
  (0xA95B, 0xE7E3, 1), (0xA95D, 0xE7E4, 3), (0xA989, 0x303E, 1), (0xA98A, 0x2FF0, 12),
  (0xA997, 0xE7F4, 13), (0xA9F0, 0xE801, 15), (0xD7FA, 0xE810, 5), (0xFE50, 0x2E81, 1),
  (0xFE51, 0xE816, 3), (0xFE54, 0x2E84, 1), (0xFE55, 0x3473, 1), (0xFE56, 0x3447, 1),
  (0xFE57, 0x2E88, 1), (0xFE58, 0x2E8B, 1), (0xFE59, 0xE81E, 1), (0xFE5A, 0x359E, 1),
  (0xFE5B, 0x361A, 1), (0xFE5C, 0x360E, 1), (0xFE5D, 0x2E8C, 1), (0xFE5E, 0x2E97, 1),
  (0xFE5F, 0x396E, 1), (0xFE60, 0x3918, 1), (0xFE61, 0xE826, 1), (0xFE62, 0x39CF, 1),
  (0xFE63, 0x39DF, 1), (0xFE64, 0x3A73, 1), (0xFE65, 0x39D0, 1), (0xFE66, 0xE82B, 2),
  (0xFE68, 0x3B4E, 1), (0xFE69, 0x3C6E, 1), (0xFE6A, 0x3CE0, 1), (0xFE6B, 0x2EA7, 1),
  (0xFE6C, 0xE831, 2), (0xFE6E, 0x2EAA, 1), (0xFE6F, 0x4056, 1), (0xFE70, 0x415F, 1),
  (0xFE71, 0x2EAE, 1), (0xFE72, 0x4337, 1), (0xFE73, 0x2EB3, 1), (0xFE74, 0x2EB6, 2),
  (0xFE76, 0xE83B, 1), (0xFE77, 0x43B1, 1), (0xFE78, 0x43AC, 1), (0xFE79, 0x2EBB, 1),
  (0xFE7A, 0x43DD, 1), (0xFE7B, 0x44D6, 1), (0xFE7C, 0x4661, 1), (0xFE7D, 0x464C, 1),
  (0xFE7E, 0xE843, 1), (0xFE80, 0x4723, 1), (0xFE81, 0x4729, 1), (0xFE82, 0x477C, 1),
  (0xFE83, 0x478D, 1), (0xFE84, 0x2ECA, 1), (0xFE85, 0x4947, 1), (0xFE86, 0x497A, 1),
  (0xFE87, 0x497D, 1), (0xFE88, 0x4982, 2), (0xFE8A, 0x4985, 2), (0xFE8C, 0x499F, 1),
  (0xFE8D, 0x499B, 1), (0xFE8E, 0x49B7, 1), (0xFE8F, 0x49B6, 1), (0xFE90, 0xE854, 2),
  (0xFE92, 0x4CA3, 1), (0xFE93, 0x4C9F, 3), (0xFE96, 0x4C77, 1), (0xFE97, 0x4CA2, 1),
  (0xFE98, 0x4D13, 7), (0xFE9F, 0x4DAE, 1), (0xFEA0, 0xE864, 1)]

/-- Where runs of four bytes begin, counted from the first four bytes on, and the characters with
which they begin. -/
def gb18030Starts : List (Nat × Nat) := [
  (0, 0x80), (36, 0xA5), (38, 0xA9), (45, 0xB2), (50, 0xB8), (81, 0xD8), (89, 0xE2), (95, 0xEB),
  (96, 0xEE), (100, 0xF4), (103, 0xF8), (104, 0xFB), (105, 0xFD), (109, 0x102), (126, 0x114),
  (133, 0x11C), (148, 0x12C), (172, 0x145), (175, 0x149), (179, 0x14E), (208, 0x16C),
  (306, 0x1CF), (307, 0x1D1), (308, 0x1D3), (309, 0x1D5), (310, 0x1D7), (311, 0x1D9),
  (312, 0x1DB), (313, 0x1DD), (341, 0x1FA), (428, 0x252), (443, 0x262), (544, 0x2C8),
  (545, 0x2CC), (558, 0x2DA), (741, 0x3A2), (742, 0x3AA), (749, 0x3C2), (750, 0x3CA),
  (805, 0x402), (819, 0x450), (820, 0x452), (7922, 0x2011), (7924, 0x2017), (7925, 0x201A),
  (7927, 0x201E), (7934, 0x2027), (7943, 0x2031), (7944, 0x2034), (7945, 0x2036), (7950, 0x203C),
  (8062, 0x20AD), (8148, 0x2104), (8149, 0x2106), (8152, 0x210A), (8164, 0x2117), (8174, 0x2122),
  (8236, 0x216C), (8240, 0x217A), (8262, 0x2194), (8264, 0x219A), (8374, 0x2209), (8380, 0x2210),
  (8381, 0x2212), (8384, 0x2216), (8388, 0x221B), (8390, 0x2221), (8392, 0x2224), (8393, 0x2226),
  (8394, 0x222C), (8396, 0x222F), (8401, 0x2238), (8406, 0x223E), (8416, 0x2249), (8419, 0x224D),
  (8424, 0x2253), (8437, 0x2262), (8439, 0x2268), (8445, 0x2270), (8482, 0x2296), (8485, 0x229A),
  (8496, 0x22A6), (8521, 0x22C0), (8603, 0x2313), (8936, 0x246A), (8946, 0x249C), (9046, 0x254C),
  (9050, 0x2574), (9063, 0x2590), (9066, 0x2596), (9076, 0x25A2), (9092, 0x25B4), (9100, 0x25BE),
  (9108, 0x25C8), (9111, 0x25CC), (9113, 0x25D0), (9131, 0x25E6), (9162, 0x2607), (9164, 0x260A),
  (9218, 0x2641), (9219, 0x2643), (11329, 0x2E82), (11331, 0x2E85), (11334, 0x2E89),
  (11336, 0x2E8D), (11346, 0x2E98), (11361, 0x2EA8), (11363, 0x2EAB), (11366, 0x2EAF),
  (11370, 0x2EB4), (11372, 0x2EB8), (11375, 0x2EBC), (11389, 0x2ECB), (11682, 0x2FFC),
  (11686, 0x3004), (11687, 0x3018), (11692, 0x301F), (11694, 0x302A), (11714, 0x303F),
  (11716, 0x3094), (11723, 0x309F), (11725, 0x30F7), (11730, 0x30FF), (11736, 0x312A),
  (11982, 0x322A), (11989, 0x3232), (12102, 0x32A4), (12336, 0x3390), (12348, 0x339F),
  (12350, 0x33A2), (12384, 0x33C5), (12393, 0x33CF), (12395, 0x33D3), (12397, 0x33D6),
  (12510, 0x3448), (12553, 0x3474), (12851, 0x359F), (12962, 0x360F), (12973, 0x361B),
  (13738, 0x3919), (13823, 0x396F), (13919, 0x39D1), (13933, 0x39E0), (14080, 0x3A74),
  (14298, 0x3B4F), (14585, 0x3C6F), (14698, 0x3CE1), (15583, 0x4057), (15847, 0x4160),
  (16318, 0x4338), (16434, 0x43AD), (16438, 0x43B2), (16481, 0x43DE), (16729, 0x44D7),
  (17102, 0x464D), (17122, 0x4662), (17315, 0x4724), (17320, 0x472A), (17402, 0x477D),
  (17418, 0x478E), (17859, 0x4948), (17909, 0x497B), (17911, 0x497E), (17915, 0x4984),
  (17916, 0x4987), (17936, 0x499C), (17939, 0x49A0), (17961, 0x49B8), (18664, 0x4C78),
  (18703, 0x4CA4), (18814, 0x4D1A), (18962, 0x4DAF), (19043, 0x9FA6), (33469, 0xE76C),
  (33470, 0xE7C8), (33471, 0xE7E7), (33484, 0xE815), (33485, 0xE819), (33490, 0xE81F),
  (33497, 0xE827), (33501, 0xE82D), (33505, 0xE833), (33513, 0xE83C), (33520, 0xE844),
  (33536, 0xE856), (33550, 0xE865), (37845, 0xF92D), (37921, 0xF97A), (37948, 0xF996),
  (38029, 0xF9E8), (38038, 0xF9F2), (38064, 0xFA10), (38065, 0xFA12), (38066, 0xFA15),
  (38069, 0xFA19), (38075, 0xFA22), (38076, 0xFA25), (38078, 0xFA2A), (39108, 0xFE32),
  (39109, 0xFE45), (39113, 0xFE53), (39114, 0xFE58), (39115, 0xFE67), (39116, 0xFE6C),
  (39265, 0xFF5F), (39394, 0xFFE6)]

end Charset

end Workflow
