import Teller.Text.CodePoints

/-!
# Composed characters

A letter with marks can be written as one code point or as several. The composed form (Unicode
normal form C) takes marks in a fixed order and as few code points as there are.

* `combiningClass`: the class of a mark; zero for letters.
* `composites`: the code points that stand for two others; Hangul syllables follow a rule instead.
* `composed`: the composed form of a text whose code points have no other form than these.
-/

namespace Teller.Text

/-- The combining classes, and how many code points in a row have each. -/
def classRuns : String :=
  (" ".intercalate [
    "0 lc 6e l 6g 1 64 4 6g 1 60 1 64 5 5m 2 64 4 5m 2 64 b 1 5 64 4 6e a 64 3 6e 3 64 3 6e 3 64",
    "4 6e 1 6g 1 64 2 6e 1 6h 1 6i 2 6h 1 6i 2 6h 1 6e e 0 7m 6e 5 0 7d 64 1 6e 4 64 1 6e 3 66 1",
    "64 1 6e 6 64 6 6e 2 64 1 6e 2 66 1 6c 1 6e 1 a 1 b 1 c 1 d 1 e 1 f 1 g 1 h 1 i 1 j 2 k 1 l 1",
    "m 1 0 1 n 1 0 1 o 1 p 1 0 1 6e 1 64 1 0 1 i 9 0 1s 6e 8 u 1 v 1 w 1 0 1c r 1 s 1 t 1 u 1 v 1",
    "w 1 x 1 y 1 6e 2 64 2 6e 5 64 1 6e 2 64 1 0 g z 1 0 2t 6e 8 0 1 6e 4 64 1 6e 1 0 2 6e 2 0 1",
    "64 1 6e 2 64 1 0 z 10 1 0 u 6e 1 64 1 6e 2 64 1 6e 2 64 3 6e 1 64 2 6e 1 64 1 6e 3 64 1 6e 1",
    "64 1 6e 1 64 1 6e 1 64 1 6e 4 0 4e 6e 7 64 1 6e 1 0 9 64 1 0 o 6e 4 0 1 6e 9 0 1 6e 3 0 1 6e",
    "7 0 15 64 5 0 1m 6e 1 64 3 6e 4 0 16 6e 5 64 5 6e f 64 1 6e 2 64 1 6e 2 64 1 6e 3 64 3 r 1 s",
    "1 t 1 6e 3 64 1 6e 2 64 2 6e 5 0 1o 7 1 0 g 9 1 0 3 6e 1 64 1 6e 2 0 2v 7 1 0 g 9 1 0 1c 6e",
    "3 0 1n 7 2 0 f 9 4 0 2z 7 1 0 g 9 3 0 30 7 1 0 g 9 8 0 3c 9 3 0 30 7 1 0 g 9 8 2c 1 2j 2 0",
    "2s 7 1 0 g 9 8 0 2u 9 2 0 g 9 1 0 3g 9 5 0 2x 2v 2 9 5 0 9 2z 4 0 30 3a 2 9 1 0 d 3e 4 0 24",
    "64 2 0 r 64 1 0 1 64 1 0 1 60 1 0 1j 3l 1 3m 2 3o 6 3m 4 0 2 3m 2 6e 2 9 1 0 1 6e 2 0 1q 64",
    "1 0 34 7 1 0 1 9 2 0 2a 64 1 0 jz 6e 3 0 qc 9 b 0 l 9 1 0 4d 9 1 0 a 6e 3 0 5l 6c 1 0 3z 66",
    "1 6e 1 64 5 0 5z 6e 1 64 1 0 1z 9 1 0 k 6e a 64 1 0 1c 6e 5 64 6 6e 2 64 1 0 1 64 2 6e 2 64",
    "2 6e 5 64 1 6e 1h 0 1g 7 1 0 f 9 1 0 12 6e 1 64 1 6e 7 0 1i 9 2 0 1m 7 1 0 b 9 a 0 1n 7 4 0",
    "45 6e 3 0 1 1 1 64 5 6e 2 64 4 6e 1 0 1 1 7 0 4 64 1 0 6 6e 1 0 3 6e 2 0 5i 6e 2 64 1 6e 7",
    "64 1 6e 2 6i 1 5y 1 64 1 5m 1 6e 11 6g 1 6c 2 64 1 62 1 6e 1 6h 1 64 1 6e 1 64 2 0 jz 6e 2 1",
    "2 6e 4 1 3 6e 2 0 4 6e 1 0 3 1 2 6e 1 64 1 6e 1 1 2 64 4 6e k 0 2cr 6e 4 0 3w 9 1 0 2o 6e w",
    "0 fe 62 1 6c 1 6g 1 66 1 68 2 0 2x 8 4 0 n9u 6e 1 0 4 6e a 0 w 6e 2 0 28 6e 2 0 7o 9 1 0 11",
    "9 4 0 44 9 1 0 r 6e i 0 1l 64 3 0 11 9 c 0 2c 7 1 0 c 9 1 0 6n 6e 1 0 1 6e 2 64 1 0 2 6e 2 0",
    "5 6e 2 0 1 6e 1 0 1g 9 b 0 6k 9 3 0 fn2 q 44 0 ha 6e 7 64 7 6e n 0 qg 64 3n 0 2o 64 1 0 45",
    "6e a 0 1al 64 1 0 1 6e 1 0 14 6e 1 1 1 64 5 9 1 0 4l 6e 1 64 5 0 ft 6e c 0 aj 6e 2 0 49 64 2",
    "6e 3 64 1 6e 1 64 4 0 1d 6e 1 64 1 6e 1 64 1 0 5c 9 1 0 15 9 1 0 e 9 1 0 1l 9 1 7 1 0 1x 6e",
    "3 0 1c 9 3 0 1p 7 1 0 24 9 1 0 9 7 1 0 2y 9 1 7 1 0 4y 7 1 9 6 0 23 7 2 0 g 9 3 0 m 6e 4a 0",
    "1u 9 1 0 3 7 1 0 n 6e 1 0 2r 9 1 7 1 0 6z 9 1 7 1 0 3i 9 1 0 3a 9 1 7 1 0 37 9 5 0 7d 9 1 7",
    "1 0 76 9 2 0 4 7 1 0 4c 9 1 0 2b 9 1 0 i 9 9 0 21 9 1 0 bp 9 1 0 76 7 1 0 1 9 2 0 29 9 1 0",
    "fa0 1 5 0 1n 6e 7 0 xl 6 g 0 f4u 1 1 0 43q 60 2 1 3 0 3 6a 1 60 d 64 8 0 2 6e 5 64 2 0 u 6e",
    "4 0 44 6e 3 0 2pn 6e 74 0 1c 6e 7 0 af 6e i 0 18 6e 4 0 15s 64 2a 0 y 6e 6 7 1 0 l705"])

/-- Composite code points, each with its two parts. -/
def compositeTriples : List (List (Nat × Nat × Nat)) :=
  [[(0xE0, 0x61, 0x300), (0xE1, 0x61, 0x301), (0xE2, 0x61, 0x302), (0xE3, 0x61, 0x303)],
   [(0xE4, 0x61, 0x308), (0xE5, 0x61, 0x30A), (0xE7, 0x63, 0x327), (0xE8, 0x65, 0x300)],
   [(0xE9, 0x65, 0x301), (0xEA, 0x65, 0x302), (0xEB, 0x65, 0x308), (0xEC, 0x69, 0x300)],
   [(0xED, 0x69, 0x301), (0xEE, 0x69, 0x302), (0xEF, 0x69, 0x308), (0xF1, 0x6E, 0x303)],
   [(0xF2, 0x6F, 0x300), (0xF3, 0x6F, 0x301), (0xF4, 0x6F, 0x302), (0xF5, 0x6F, 0x303)],
   [(0xF6, 0x6F, 0x308), (0xF9, 0x75, 0x300), (0xFA, 0x75, 0x301), (0xFB, 0x75, 0x302)],
   [(0xFC, 0x75, 0x308), (0xFD, 0x79, 0x301), (0xFF, 0x79, 0x308), (0x101, 0x61, 0x304)],
   [(0x103, 0x61, 0x306), (0x105, 0x61, 0x328), (0x107, 0x63, 0x301), (0x109, 0x63, 0x302)],
   [(0x10B, 0x63, 0x307), (0x10D, 0x63, 0x30C), (0x10F, 0x64, 0x30C), (0x113, 0x65, 0x304)],
   [(0x115, 0x65, 0x306), (0x117, 0x65, 0x307), (0x119, 0x65, 0x328), (0x11B, 0x65, 0x30C)],
   [(0x11D, 0x67, 0x302), (0x11F, 0x67, 0x306), (0x121, 0x67, 0x307), (0x123, 0x67, 0x327)],
   [(0x125, 0x68, 0x302), (0x129, 0x69, 0x303), (0x12B, 0x69, 0x304), (0x12D, 0x69, 0x306)],
   [(0x12F, 0x69, 0x328), (0x135, 0x6A, 0x302), (0x137, 0x6B, 0x327), (0x13A, 0x6C, 0x301)],
   [(0x13C, 0x6C, 0x327), (0x13E, 0x6C, 0x30C), (0x144, 0x6E, 0x301), (0x146, 0x6E, 0x327)],
   [(0x148, 0x6E, 0x30C), (0x14D, 0x6F, 0x304), (0x14F, 0x6F, 0x306), (0x151, 0x6F, 0x30B)],
   [(0x155, 0x72, 0x301), (0x157, 0x72, 0x327), (0x159, 0x72, 0x30C), (0x15B, 0x73, 0x301)],
   [(0x15D, 0x73, 0x302), (0x15F, 0x73, 0x327), (0x161, 0x73, 0x30C), (0x163, 0x74, 0x327)],
   [(0x165, 0x74, 0x30C), (0x169, 0x75, 0x303), (0x16B, 0x75, 0x304), (0x16D, 0x75, 0x306)],
   [(0x16F, 0x75, 0x30A), (0x171, 0x75, 0x30B), (0x173, 0x75, 0x328), (0x175, 0x77, 0x302)],
   [(0x177, 0x79, 0x302), (0x17A, 0x7A, 0x301), (0x17C, 0x7A, 0x307), (0x17E, 0x7A, 0x30C)],
   [(0x1A1, 0x6F, 0x31B), (0x1B0, 0x75, 0x31B), (0x1CE, 0x61, 0x30C), (0x1D0, 0x69, 0x30C)],
   [(0x1D2, 0x6F, 0x30C), (0x1D4, 0x75, 0x30C), (0x1D6, 0xFC, 0x304), (0x1D8, 0xFC, 0x301)],
   [(0x1DA, 0xFC, 0x30C), (0x1DC, 0xFC, 0x300), (0x1DF, 0xE4, 0x304), (0x1E1, 0x227, 0x304)],
   [(0x1E3, 0xE6, 0x304), (0x1E7, 0x67, 0x30C), (0x1E9, 0x6B, 0x30C), (0x1EB, 0x6F, 0x328)],
   [(0x1ED, 0x1EB, 0x304), (0x1EF, 0x292, 0x30C), (0x1F0, 0x6A, 0x30C), (0x1F5, 0x67, 0x301)],
   [(0x1F9, 0x6E, 0x300), (0x1FB, 0xE5, 0x301), (0x1FD, 0xE6, 0x301), (0x1FF, 0xF8, 0x301)],
   [(0x201, 0x61, 0x30F), (0x203, 0x61, 0x311), (0x205, 0x65, 0x30F), (0x207, 0x65, 0x311)],
   [(0x209, 0x69, 0x30F), (0x20B, 0x69, 0x311), (0x20D, 0x6F, 0x30F), (0x20F, 0x6F, 0x311)],
   [(0x211, 0x72, 0x30F), (0x213, 0x72, 0x311), (0x215, 0x75, 0x30F), (0x217, 0x75, 0x311)],
   [(0x219, 0x73, 0x326), (0x21B, 0x74, 0x326), (0x21F, 0x68, 0x30C), (0x227, 0x61, 0x307)],
   [(0x229, 0x65, 0x327), (0x22B, 0xF6, 0x304), (0x22D, 0xF5, 0x304), (0x22F, 0x6F, 0x307)],
   [(0x231, 0x22F, 0x304), (0x233, 0x79, 0x304), (0x390, 0x3CA, 0x301), (0x3AC, 0x3B1, 0x301)],
   [(0x3AD, 0x3B5, 0x301), (0x3AE, 0x3B7, 0x301), (0x3AF, 0x3B9, 0x301), (0x3B0, 0x3CB, 0x301)],
   [(0x3CA, 0x3B9, 0x308), (0x3CB, 0x3C5, 0x308), (0x3CC, 0x3BF, 0x301), (0x3CD, 0x3C5, 0x301)],
   [(0x3CE, 0x3C9, 0x301), (0x439, 0x438, 0x306), (0x450, 0x435, 0x300), (0x451, 0x435, 0x308)],
   [(0x453, 0x433, 0x301), (0x457, 0x456, 0x308), (0x45C, 0x43A, 0x301), (0x45D, 0x438, 0x300)],
   [(0x45E, 0x443, 0x306), (0x477, 0x475, 0x30F), (0x4C2, 0x436, 0x306), (0x4D1, 0x430, 0x306)],
   [(0x4D3, 0x430, 0x308), (0x4D7, 0x435, 0x306), (0x4DB, 0x4D9, 0x308), (0x4DD, 0x436, 0x308)],
   [(0x4DF, 0x437, 0x308), (0x4E3, 0x438, 0x304), (0x4E5, 0x438, 0x308), (0x4E7, 0x43E, 0x308)],
   [(0x4EB, 0x4E9, 0x308), (0x4ED, 0x44D, 0x308), (0x4EF, 0x443, 0x304), (0x4F1, 0x443, 0x308)],
   [(0x4F3, 0x443, 0x30B), (0x4F5, 0x447, 0x308), (0x4F9, 0x44B, 0x308), (0x622, 0x627, 0x653)],
   [(0x623, 0x627, 0x654), (0x624, 0x648, 0x654), (0x625, 0x627, 0x655), (0x626, 0x64A, 0x654)],
   [(0x6C0, 0x6D5, 0x654), (0x6C2, 0x6C1, 0x654), (0x6D3, 0x6D2, 0x654), (0x929, 0x928, 0x93C)],
   [(0x931, 0x930, 0x93C), (0x934, 0x933, 0x93C), (0x9CB, 0x9C7, 0x9BE), (0x9CC, 0x9C7, 0x9D7)],
   [(0xB48, 0xB47, 0xB56), (0xB4B, 0xB47, 0xB3E), (0xB4C, 0xB47, 0xB57), (0xB94, 0xB92, 0xBD7)],
   [(0xBCA, 0xBC6, 0xBBE), (0xBCB, 0xBC7, 0xBBE), (0xBCC, 0xBC6, 0xBD7), (0xC48, 0xC46, 0xC56)],
   [(0xCC0, 0xCBF, 0xCD5), (0xCC7, 0xCC6, 0xCD5), (0xCC8, 0xCC6, 0xCD6), (0xCCA, 0xCC6, 0xCC2)],
   [(0xCCB, 0xCCA, 0xCD5), (0xD4A, 0xD46, 0xD3E), (0xD4B, 0xD47, 0xD3E), (0xD4C, 0xD46, 0xD57)],
   [(0xDDA, 0xDD9, 0xDCA), (0xDDC, 0xDD9, 0xDCF), (0xDDD, 0xDDC, 0xDCA), (0xDDE, 0xDD9, 0xDDF)],
   [(0x1026, 0x1025, 0x102E), (0x1B06, 0x1B05, 0x1B35), (0x1B08, 0x1B07, 0x1B35)],
   [(0x1B0A, 0x1B09, 0x1B35), (0x1B0C, 0x1B0B, 0x1B35), (0x1B0E, 0x1B0D, 0x1B35)],
   [(0x1B12, 0x1B11, 0x1B35), (0x1B3B, 0x1B3A, 0x1B35), (0x1B3D, 0x1B3C, 0x1B35)],
   [(0x1B40, 0x1B3E, 0x1B35), (0x1B41, 0x1B3F, 0x1B35), (0x1B43, 0x1B42, 0x1B35)],
   [(0x1E01, 0x61, 0x325), (0x1E03, 0x62, 0x307), (0x1E05, 0x62, 0x323), (0x1E07, 0x62, 0x331)],
   [(0x1E09, 0xE7, 0x301), (0x1E0B, 0x64, 0x307), (0x1E0D, 0x64, 0x323), (0x1E0F, 0x64, 0x331)],
   [(0x1E11, 0x64, 0x327), (0x1E13, 0x64, 0x32D), (0x1E15, 0x113, 0x300), (0x1E17, 0x113, 0x301)],
   [(0x1E19, 0x65, 0x32D), (0x1E1B, 0x65, 0x330), (0x1E1D, 0x229, 0x306), (0x1E1F, 0x66, 0x307)],
   [(0x1E21, 0x67, 0x304), (0x1E23, 0x68, 0x307), (0x1E25, 0x68, 0x323), (0x1E27, 0x68, 0x308)],
   [(0x1E29, 0x68, 0x327), (0x1E2B, 0x68, 0x32E), (0x1E2D, 0x69, 0x330), (0x1E2F, 0xEF, 0x301)],
   [(0x1E31, 0x6B, 0x301), (0x1E33, 0x6B, 0x323), (0x1E35, 0x6B, 0x331), (0x1E37, 0x6C, 0x323)],
   [(0x1E39, 0x1E37, 0x304), (0x1E3B, 0x6C, 0x331), (0x1E3D, 0x6C, 0x32D), (0x1E3F, 0x6D, 0x301)],
   [(0x1E41, 0x6D, 0x307), (0x1E43, 0x6D, 0x323), (0x1E45, 0x6E, 0x307), (0x1E47, 0x6E, 0x323)],
   [(0x1E49, 0x6E, 0x331), (0x1E4B, 0x6E, 0x32D), (0x1E4D, 0xF5, 0x301), (0x1E4F, 0xF5, 0x308)],
   [(0x1E51, 0x14D, 0x300), (0x1E53, 0x14D, 0x301), (0x1E55, 0x70, 0x301), (0x1E57, 0x70, 0x307)],
   [(0x1E59, 0x72, 0x307), (0x1E5B, 0x72, 0x323), (0x1E5D, 0x1E5B, 0x304), (0x1E5F, 0x72, 0x331)],
   [(0x1E61, 0x73, 0x307), (0x1E63, 0x73, 0x323), (0x1E65, 0x15B, 0x307), (0x1E67, 0x161, 0x307)],
   [(0x1E69, 0x1E63, 0x307), (0x1E6B, 0x74, 0x307), (0x1E6D, 0x74, 0x323), (0x1E6F, 0x74, 0x331)],
   [(0x1E71, 0x74, 0x32D), (0x1E73, 0x75, 0x324), (0x1E75, 0x75, 0x330), (0x1E77, 0x75, 0x32D)],
   [(0x1E79, 0x169, 0x301), (0x1E7B, 0x16B, 0x308), (0x1E7D, 0x76, 0x303), (0x1E7F, 0x76, 0x323)],
   [(0x1E81, 0x77, 0x300), (0x1E83, 0x77, 0x301), (0x1E85, 0x77, 0x308), (0x1E87, 0x77, 0x307)],
   [(0x1E89, 0x77, 0x323), (0x1E8B, 0x78, 0x307), (0x1E8D, 0x78, 0x308), (0x1E8F, 0x79, 0x307)],
   [(0x1E91, 0x7A, 0x302), (0x1E93, 0x7A, 0x323), (0x1E95, 0x7A, 0x331), (0x1E96, 0x68, 0x331)],
   [(0x1E97, 0x74, 0x308), (0x1E98, 0x77, 0x30A), (0x1E99, 0x79, 0x30A), (0x1EA1, 0x61, 0x323)],
   [(0x1EA3, 0x61, 0x309), (0x1EA5, 0xE2, 0x301), (0x1EA7, 0xE2, 0x300), (0x1EA9, 0xE2, 0x309)],
   [(0x1EAB, 0xE2, 0x303), (0x1EAD, 0x1EA1, 0x302), (0x1EAF, 0x103, 0x301), (0x1EB1, 0x103, 0x300)],
   [(0x1EB3, 0x103, 0x309), (0x1EB5, 0x103, 0x303), (0x1EB7, 0x1EA1, 0x306), (0x1EB9, 0x65, 0x323)],
   [(0x1EBB, 0x65, 0x309), (0x1EBD, 0x65, 0x303), (0x1EBF, 0xEA, 0x301), (0x1EC1, 0xEA, 0x300)],
   [(0x1EC3, 0xEA, 0x309), (0x1EC5, 0xEA, 0x303), (0x1EC7, 0x1EB9, 0x302), (0x1EC9, 0x69, 0x309)],
   [(0x1ECB, 0x69, 0x323), (0x1ECD, 0x6F, 0x323), (0x1ECF, 0x6F, 0x309), (0x1ED1, 0xF4, 0x301)],
   [(0x1ED3, 0xF4, 0x300), (0x1ED5, 0xF4, 0x309), (0x1ED7, 0xF4, 0x303), (0x1ED9, 0x1ECD, 0x302)],
   [(0x1EDB, 0x1A1, 0x301), (0x1EDD, 0x1A1, 0x300), (0x1EDF, 0x1A1, 0x309), (0x1EE1, 0x1A1, 0x303)],
   [(0x1EE3, 0x1A1, 0x323), (0x1EE5, 0x75, 0x323), (0x1EE7, 0x75, 0x309), (0x1EE9, 0x1B0, 0x301)],
   [(0x1EEB, 0x1B0, 0x300), (0x1EED, 0x1B0, 0x309), (0x1EEF, 0x1B0, 0x303), (0x1EF1, 0x1B0, 0x323)],
   [(0x1EF3, 0x79, 0x300), (0x1EF5, 0x79, 0x323), (0x1EF7, 0x79, 0x309), (0x1EF9, 0x79, 0x303)],
   [(0x1F00, 0x3B1, 0x313), (0x1F01, 0x3B1, 0x314), (0x1F02, 0x1F00, 0x300)],
   [(0x1F03, 0x1F01, 0x300), (0x1F04, 0x1F00, 0x301), (0x1F05, 0x1F01, 0x301)],
   [(0x1F06, 0x1F00, 0x342), (0x1F07, 0x1F01, 0x342), (0x1F10, 0x3B5, 0x313)],
   [(0x1F11, 0x3B5, 0x314), (0x1F12, 0x1F10, 0x300), (0x1F13, 0x1F11, 0x300)],
   [(0x1F14, 0x1F10, 0x301), (0x1F15, 0x1F11, 0x301), (0x1F20, 0x3B7, 0x313)],
   [(0x1F21, 0x3B7, 0x314), (0x1F22, 0x1F20, 0x300), (0x1F23, 0x1F21, 0x300)],
   [(0x1F24, 0x1F20, 0x301), (0x1F25, 0x1F21, 0x301), (0x1F26, 0x1F20, 0x342)],
   [(0x1F27, 0x1F21, 0x342), (0x1F30, 0x3B9, 0x313), (0x1F31, 0x3B9, 0x314)],
   [(0x1F32, 0x1F30, 0x300), (0x1F33, 0x1F31, 0x300), (0x1F34, 0x1F30, 0x301)],
   [(0x1F35, 0x1F31, 0x301), (0x1F36, 0x1F30, 0x342), (0x1F37, 0x1F31, 0x342)],
   [(0x1F40, 0x3BF, 0x313), (0x1F41, 0x3BF, 0x314), (0x1F42, 0x1F40, 0x300)],
   [(0x1F43, 0x1F41, 0x300), (0x1F44, 0x1F40, 0x301), (0x1F45, 0x1F41, 0x301)],
   [(0x1F50, 0x3C5, 0x313), (0x1F51, 0x3C5, 0x314), (0x1F52, 0x1F50, 0x300)],
   [(0x1F53, 0x1F51, 0x300), (0x1F54, 0x1F50, 0x301), (0x1F55, 0x1F51, 0x301)],
   [(0x1F56, 0x1F50, 0x342), (0x1F57, 0x1F51, 0x342), (0x1F60, 0x3C9, 0x313)],
   [(0x1F61, 0x3C9, 0x314), (0x1F62, 0x1F60, 0x300), (0x1F63, 0x1F61, 0x300)],
   [(0x1F64, 0x1F60, 0x301), (0x1F65, 0x1F61, 0x301), (0x1F66, 0x1F60, 0x342)],
   [(0x1F67, 0x1F61, 0x342), (0x1F70, 0x3B1, 0x300), (0x1F72, 0x3B5, 0x300)],
   [(0x1F74, 0x3B7, 0x300), (0x1F76, 0x3B9, 0x300), (0x1F78, 0x3BF, 0x300), (0x1F7A, 0x3C5, 0x300)],
   [(0x1F7C, 0x3C9, 0x300), (0x1FB0, 0x3B1, 0x306), (0x1FB1, 0x3B1, 0x304), (0x1FB6, 0x3B1, 0x342)],
   [(0x1FC6, 0x3B7, 0x342), (0x1FD0, 0x3B9, 0x306), (0x1FD1, 0x3B9, 0x304), (0x1FD2, 0x3CA, 0x300)],
   [(0x1FD6, 0x3B9, 0x342), (0x1FD7, 0x3CA, 0x342), (0x1FE0, 0x3C5, 0x306), (0x1FE1, 0x3C5, 0x304)],
   [(0x1FE2, 0x3CB, 0x300), (0x1FE4, 0x3C1, 0x313), (0x1FE5, 0x3C1, 0x314), (0x1FE6, 0x3C5, 0x342)],
   [(0x1FE7, 0x3CB, 0x342), (0x1FF6, 0x3C9, 0x342), (0x219A, 0x2190, 0x338)],
   [(0x219B, 0x2192, 0x338), (0x21AE, 0x2194, 0x338), (0x21CD, 0x21D0, 0x338)],
   [(0x21CE, 0x21D4, 0x338), (0x21CF, 0x21D2, 0x338), (0x2204, 0x2203, 0x338)],
   [(0x2209, 0x2208, 0x338), (0x220C, 0x220B, 0x338), (0x2224, 0x2223, 0x338)],
   [(0x2226, 0x2225, 0x338), (0x2241, 0x223C, 0x338), (0x2244, 0x2243, 0x338)],
   [(0x2247, 0x2245, 0x338), (0x2249, 0x2248, 0x338), (0x2260, 0x3D, 0x338)],
   [(0x2262, 0x2261, 0x338), (0x226D, 0x224D, 0x338), (0x226E, 0x3C, 0x338), (0x226F, 0x3E, 0x338)],
   [(0x2270, 0x2264, 0x338), (0x2271, 0x2265, 0x338), (0x2274, 0x2272, 0x338)],
   [(0x2275, 0x2273, 0x338), (0x2278, 0x2276, 0x338), (0x2279, 0x2277, 0x338)],
   [(0x2280, 0x227A, 0x338), (0x2281, 0x227B, 0x338), (0x2284, 0x2282, 0x338)],
   [(0x2285, 0x2283, 0x338), (0x2288, 0x2286, 0x338), (0x2289, 0x2287, 0x338)],
   [(0x22AC, 0x22A2, 0x338), (0x22AD, 0x22A8, 0x338), (0x22AE, 0x22A9, 0x338)],
   [(0x22AF, 0x22AB, 0x338), (0x22E0, 0x227C, 0x338), (0x22E1, 0x227D, 0x338)],
   [(0x22E2, 0x2291, 0x338), (0x22E3, 0x2292, 0x338), (0x22EA, 0x22B2, 0x338)],
   [(0x22EB, 0x22B3, 0x338), (0x22EC, 0x22B4, 0x338), (0x22ED, 0x22B5, 0x338)],
   [(0x304C, 0x304B, 0x3099), (0x304E, 0x304D, 0x3099), (0x3050, 0x304F, 0x3099)],
   [(0x3052, 0x3051, 0x3099), (0x3054, 0x3053, 0x3099), (0x3056, 0x3055, 0x3099)],
   [(0x3058, 0x3057, 0x3099), (0x305A, 0x3059, 0x3099), (0x305C, 0x305B, 0x3099)],
   [(0x305E, 0x305D, 0x3099), (0x3060, 0x305F, 0x3099), (0x3062, 0x3061, 0x3099)],
   [(0x3065, 0x3064, 0x3099), (0x3067, 0x3066, 0x3099), (0x3069, 0x3068, 0x3099)],
   [(0x3070, 0x306F, 0x3099), (0x3071, 0x306F, 0x309A), (0x3073, 0x3072, 0x3099)],
   [(0x3074, 0x3072, 0x309A), (0x3076, 0x3075, 0x3099), (0x3077, 0x3075, 0x309A)],
   [(0x3079, 0x3078, 0x3099), (0x307A, 0x3078, 0x309A), (0x307C, 0x307B, 0x3099)],
   [(0x307D, 0x307B, 0x309A), (0x3094, 0x3046, 0x3099), (0x309E, 0x309D, 0x3099)],
   [(0x30AC, 0x30AB, 0x3099), (0x30AE, 0x30AD, 0x3099), (0x30B0, 0x30AF, 0x3099)],
   [(0x30B2, 0x30B1, 0x3099), (0x30B4, 0x30B3, 0x3099), (0x30B6, 0x30B5, 0x3099)],
   [(0x30B8, 0x30B7, 0x3099), (0x30BA, 0x30B9, 0x3099), (0x30BC, 0x30BB, 0x3099)],
   [(0x30BE, 0x30BD, 0x3099), (0x30C0, 0x30BF, 0x3099), (0x30C2, 0x30C1, 0x3099)],
   [(0x30C5, 0x30C4, 0x3099), (0x30C7, 0x30C6, 0x3099), (0x30C9, 0x30C8, 0x3099)],
   [(0x30D0, 0x30CF, 0x3099), (0x30D1, 0x30CF, 0x309A), (0x30D3, 0x30D2, 0x3099)],
   [(0x30D4, 0x30D2, 0x309A), (0x30D6, 0x30D5, 0x3099), (0x30D7, 0x30D5, 0x309A)],
   [(0x30D9, 0x30D8, 0x3099), (0x30DA, 0x30D8, 0x309A), (0x30DC, 0x30DB, 0x3099)],
   [(0x30DD, 0x30DB, 0x309A), (0x30F4, 0x30A6, 0x3099), (0x30F7, 0x30EF, 0x3099)],
   [(0x30F8, 0x30F0, 0x3099), (0x30F9, 0x30F1, 0x3099), (0x30FA, 0x30F2, 0x3099)],
   [(0x30FE, 0x30FD, 0x3099), (0x1109A, 0x11099, 0x110BA), (0x1109C, 0x1109B, 0x110BA)],
   [(0x110AB, 0x110A5, 0x110BA), (0x1112E, 0x11131, 0x11127), (0x1112F, 0x11132, 0x11127)],
   [(0x1134B, 0x11347, 0x1133E), (0x1134C, 0x11347, 0x11357), (0x114BB, 0x114B9, 0x114BA)],
   [(0x114BC, 0x114B9, 0x114B0), (0x114BE, 0x114B9, 0x114BD), (0x115BA, 0x115B8, 0x115AF)],
   [(0x115BB, 0x115B9, 0x115AF), (0x11938, 0x11935, 0x11930)]]

/-- The code points with a class that is not zero, as ranges with their class. -/
def classRangesFrom (first : Nat) : List Nat → List (Nat × Nat × Nat)
  | cls :: n :: rest =>
    if cls = 0 then classRangesFrom (first + n) rest
    else (first, first + n, cls) :: classRangesFrom (first + n) rest
  | _ => []

/-- The code points with a class that is not zero: first one, one behind the last, class. -/
def classRanges : List (Nat × Nat × Nat) := classRangesFrom 0 (numbers classRuns)

/-- The combining class of a character. -/
def combiningClass (c : Char) : Nat :=
  if c.toNat < 0x300 then 0
  else match classRanges.find? fun (_, last, _) => c.toNat < last with
    | some (first, _, cls) => if first ≤ c.toNat then cls else 0
    | none => 0

/-- A code point that stands for two others. -/
structure Composite where
  whole : Char
  front : Char
  back : Char

/-- The composites outside Hangul. -/
def composites : List Composite :=
  compositeTriples.flatten.map fun (whole, front, back) =>
    ⟨Char.ofNat whole, Char.ofNat front, Char.ofNat back⟩

namespace Hangul

/-- The parts of a syllable: its leading consonant with the vowel, or these and a final one. -/
def parts? (c : Char) : Option (Char × Char) :=
  let i := c.toNat - 0xAC00
  if c.toNat < 0xAC00 ∨ 0xD7A3 < c.toNat then none
  else if i % 28 = 0 then
    some (Char.ofNat (0x1100 + i / 588), Char.ofNat (0x1161 + i % 588 / 28))
  else some (Char.ofNat (c.toNat - i % 28), Char.ofNat (0x11A7 + i % 28))

/-- The syllable of two parts. -/
def syllable? (a b : Char) : Option Char :=
  let m := a.toNat
  let n := b.toNat
  if 0x1100 ≤ m ∧ m < 0x1113 ∧ 0x1161 ≤ n ∧ n < 0x1176 then
    some (Char.ofNat (0xAC00 + ((m - 0x1100) * 21 + (n - 0x1161)) * 28))
  else if 0xAC00 ≤ m ∧ m ≤ 0xD7A3 ∧ (m - 0xAC00) % 28 = 0 ∧ 0x11A7 < n ∧ n < 0x11C3 then
    some (Char.ofNat (m + (n - 0x11A7)))
  else none

end Hangul

/-- The two parts of a composite character. -/
def parts? (c : Char) : Option (Char × Char) :=
  if c.toNat < 0xC0 then none
  else match Hangul.parts? c with
    | some p => some p
    | none => (composites.find? (·.whole == c)).map fun p => (p.front, p.back)

/-- The composite of two characters. -/
def whole? (a b : Char) : Option Char :=
  if b.toNat < 0x300 then none
  else match Hangul.syllable? a b with
    | some c => some c
    | none => (composites.find? fun p => p.front == a && p.back == b).map (·.whole)

/-- The parts of a character that are no composites, taken apart `depth` times at most. -/
def taken (depth : Nat) (c : Char) : List Char :=
  match depth, parts? c with
  | depth + 1, some (a, b) => taken depth a ++ [b]
  | _, _ => [c]

/-- No composite has parts nested deeper than this. -/
def nesting : Nat := 4

/-- Puts a mark in front of the marks behind it that have a greater class. -/
def insertMark (c : Char) : List Char → List Char
  | [] => [c]
  | d :: ds =>
    if combiningClass d ≠ 0 ∧ combiningClass d < combiningClass c then d :: insertMark c ds
    else c :: d :: ds

/-- The marks of each letter in rising order of their class; marks of one class keep theirs. -/
def ordered (cs : List Char) : List Char :=
  cs.foldr (fun c ds => if combiningClass c = 0 then c :: ds else insertMark c ds) []

/-- Joins what can be joined to the letter `letter`, behind which the marks `held` (in reverse)
already stand. A mark reaches the letter unless one of its own class or a greater one is between. -/
def joinTo (letter : Char) (held : List Char) : List Char → List Char
  | [] => letter :: held.reverse
  | c :: cs =>
    let reaches := match held with
      | [] => true
      | d :: _ => combiningClass d < combiningClass c
    match if reaches then whole? letter c else none with
    | some w => joinTo w held cs
    | none =>
      if combiningClass c = 0 then letter :: held.reverse ++ joinTo c [] cs
      else joinTo letter (c :: held) cs

/-- Joins parts to composites; marks in front of the first letter stay. -/
def joined : List Char → List Char
  | [] => []
  | c :: cs => if combiningClass c = 0 then joinTo c [] cs else c :: joined cs

/-- The composed form of a text. -/
def composed (cs : List Char) : List Char := joined (ordered (cs.flatMap (taken nesting)))

end Teller.Text
