import Tabular.Text.CharacterClass

set_option autoImplicit false

/-! # Collation elements

The weights by which text is ordered. An element has a primary weight (the letter), a secondary
one (its marks) and a tertiary one (its case and form). Punctuation and blanks are *variable*:
they count only where everything else is equal. The tables hold the Latin, Greek and Cyrillic
letters, the marks that combine with them, and samples of other scripts; ideographs have weights
computed from their code points.
-/

namespace Tabular.Collation

open Text

/-- The weights of a part of a character. -/
structure Element where
  isVariable : Bool
  primary : Nat
  secondary : Nat
  tertiary : Nat
deriving DecidableEq, Repr

/-- Punctuation and blanks, with their primary weights. -/
def punctuation : List (Nat × Nat) := [
  (0x9, 0x100), (0xA, 0x101), (0xB, 0x102), (0xC, 0x103), (0xD, 0x104), (0x20, 0x108),
  (0x21, 0x167), (0x22, 0x231), (0x23, 0x2C0), (0x25, 0x2C1), (0x26, 0x2BD), (0x27, 0x22E),
  (0x28, 0x234), (0x29, 0x235), (0x2A, 0x2B5), (0x2C, 0x123), (0x2D, 0x10C), (0x2E, 0x180),
  (0x2F, 0x2BA), (0x3A, 0x140), (0x3B, 0x13A), (0x3F, 0x16E), (0x40, 0x2B4), (0x5B, 0x236),
  (0x5C, 0x2BB), (0x5D, 0x237), (0x5F, 0x10A), (0x7B, 0x238), (0x7D, 0x239), (0x85, 0x105),
  (0xA0, 0x108), (0xA1, 0x168), (0xA7, 0x2A6), (0xB6, 0x2A8), (0xB7, 0x195), (0xBF, 0x16F),
  (0x2003, 0x108)]

/-- Digits, small letters and symbols, with their primary weights. -/
def letters : List (Nat × Nat) := [
  (0x24, 0x1D71), (0x2B, 0x5A6), (0x30, 0x1FA0), (0x31, 0x1FA1), (0x32, 0x1FA2), (0x33, 0x1FA3),
  (0x34, 0x1FA4), (0x35, 0x1FA5), (0x36, 0x1FA6), (0x37, 0x1FA7), (0x38, 0x1FA8), (0x39, 0x1FA9),
  (0x3C, 0x5AA), (0x3D, 0x5AB), (0x3E, 0x5AC), (0x5E, 0x3D5), (0x60, 0x3D2), (0x61, 0x20A9),
  (0x62, 0x20C3), (0x63, 0x20DD), (0x64, 0x20F3), (0x65, 0x2110), (0x66, 0x214B), (0x67, 0x215A),
  (0x68, 0x2181), (0x69, 0x219C), (0x6A, 0x21B8), (0x6B, 0x21D1), (0x6C, 0x21E5), (0x6D, 0x221E),
  (0x6E, 0x222D), (0x6F, 0x2254), (0x70, 0x2284), (0x71, 0x2299), (0x72, 0x22AC), (0x73, 0x22EE),
  (0x74, 0x2318), (0x75, 0x233B), (0x76, 0x236B), (0x77, 0x237D), (0x78, 0x2387), (0x79, 0x2393),
  (0x7A, 0x23A9), (0x7C, 0x5AE), (0x7E, 0x5B0), (0xA3, 0x1D72), (0xA5, 0x1D73), (0xA6, 0x5AF),
  (0xA8, 0x3D9), (0xA9, 0x512), (0xAC, 0x5AD), (0xAE, 0x514), (0xAF, 0x3D6), (0xB0, 0x455),
  (0xB1, 0x5A7), (0xB4, 0x3D3), (0xB8, 0x3DC), (0xD7, 0x5A9), (0xF7, 0x5A8), (0xFE, 0x23D9),
  (0x131, 0x21A0), (0x138, 0x22A8), (0x14B, 0x224C), (0x167, 0x231D), (0x180, 0x20CB),
  (0x183, 0x20D8), (0x185, 0x23FA), (0x188, 0x20E8), (0x18C, 0x2105), (0x192, 0x2154),
  (0x195, 0x2189), (0x199, 0x21D7), (0x19A, 0x21F0), (0x19B, 0x2210), (0x19E, 0x223C),
  (0x1A3, 0x217A), (0x1A5, 0x228D), (0x1A8, 0x23F2), (0x1AA, 0x2306), (0x1AB, 0x2323),
  (0x1AD, 0x2327), (0x1B4, 0x239F), (0x1B6, 0x23AE), (0x1B9, 0x23CB), (0x1BA, 0x23D0),
  (0x1BB, 0x23EB), (0x1BD, 0x23F6), (0x1BF, 0x23DF), (0x1C0, 0x2422), (0x1C1, 0x2426),
  (0x1C2, 0x242A), (0x1C3, 0x242E), (0x1DD, 0x211E), (0x1E5, 0x2167), (0x21D, 0x23A5),
  (0x221, 0x2109), (0x223, 0x227E), (0x225, 0x23B4), (0x234, 0x2206), (0x235, 0x2246),
  (0x236, 0x232F), (0x237, 0x21BC), (0x23C, 0x20E2), (0x23F, 0x22FA), (0x240, 0x23C0),
  (0x242, 0x2402), (0x247, 0x2117), (0x249, 0x21C1), (0x24B, 0x22A4), (0x24D, 0x22B8),
  (0x24F, 0x239B), (0x371, 0x2451), (0x373, 0x2472), (0x375, 0x3E4), (0x377, 0x244E),
  (0x37B, 0x2467), (0x37C, 0x2466), (0x37D, 0x2468), (0x384, 0x3D3), (0x3B1, 0x2447),
  (0x3B2, 0x2448), (0x3B3, 0x2449), (0x3B4, 0x244B), (0x3B5, 0x244C), (0x3B6, 0x2450),
  (0x3B7, 0x2452), (0x3B8, 0x2453), (0x3B9, 0x2454), (0x3BA, 0x2456), (0x3BB, 0x2457),
  (0x3BC, 0x2459), (0x3BD, 0x245A), (0x3BE, 0x245B), (0x3BF, 0x245C), (0x3C0, 0x245D),
  (0x3C1, 0x2462), (0x3C3, 0x2465), (0x3C4, 0x2469), (0x3C5, 0x246A), (0x3C6, 0x246B),
  (0x3C7, 0x246C), (0x3C8, 0x246D), (0x3C9, 0x246F), (0x3D9, 0x2461), (0x3DB, 0x244F),
  (0x3DD, 0x244D), (0x3DF, 0x2460), (0x3E1, 0x2471), (0x3E3, 0x2493), (0x3E5, 0x2498),
  (0x3E7, 0x2499), (0x3E9, 0x249C), (0x3EB, 0x24A3), (0x3ED, 0x24A6), (0x3EF, 0x24AA),
  (0x3F3, 0x2455), (0x3F6, 0x5A1), (0x3F8, 0x2473), (0x3FB, 0x245F), (0x3FC, 0x2464),
  (0x430, 0x24B0), (0x431, 0x24BC), (0x432, 0x24C0), (0x433, 0x24C4), (0x434, 0x24D8),
  (0x435, 0x24E8), (0x436, 0x24F0), (0x437, 0x24FA), (0x438, 0x250E), (0x43A, 0x2524),
  (0x43B, 0x253E), (0x43C, 0x2551), (0x43D, 0x255A), (0x43E, 0x2575), (0x43F, 0x257D),
  (0x440, 0x258A), (0x441, 0x2593), (0x442, 0x259C), (0x443, 0x25AB), (0x444, 0x25BC),
  (0x445, 0x25C0), (0x446, 0x25E7), (0x447, 0x25F2), (0x448, 0x2611), (0x449, 0x2616),
  (0x44A, 0x261D), (0x44B, 0x2622), (0x44C, 0x2626), (0x44D, 0x2633), (0x44E, 0x2637),
  (0x44F, 0x263D), (0x452, 0x24DE), (0x454, 0x24EC), (0x455, 0x2502), (0x456, 0x2516),
  (0x458, 0x251F), (0x459, 0x254A), (0x45A, 0x2570), (0x45B, 0x25A7), (0x45F, 0x260D),
  (0x461, 0x25D6), (0x463, 0x262E), (0x465, 0x2642), (0x467, 0x2646), (0x469, 0x2650),
  (0x46B, 0x264B), (0x46D, 0x2655), (0x46F, 0x2659), (0x471, 0x265D), (0x473, 0x2661),
  (0x475, 0x2665), (0x479, 0x25B8), (0x47B, 0x25E3), (0x47D, 0x25DF), (0x47F, 0x25DA),
  (0x481, 0x2586), (0x482, 0x456), (0x48B, 0x2512), (0x48D, 0x262A), (0x48F, 0x258E),
  (0x493, 0x24C8), (0x495, 0x24D0), (0x497, 0x24F6), (0x499, 0x24E4), (0x49B, 0x2528),
  (0x49D, 0x2538), (0x49F, 0x2534), (0x4A1, 0x2530), (0x4A3, 0x2563), (0x4A5, 0x256C),
  (0x4A7, 0x2582), (0x4A9, 0x266A), (0x4AB, 0x2598), (0x4AD, 0x25A2), (0x4AF, 0x25AF),
  (0x4B1, 0x25B3), (0x4B3, 0x25CC), (0x4B5, 0x25ED), (0x4B7, 0x25F8), (0x4B9, 0x2600),
  (0x4BB, 0x25D0), (0x4BD, 0x2605), (0x4BF, 0x2609), (0x4C4, 0x252C), (0x4C6, 0x2543),
  (0x4C8, 0x2567), (0x4CA, 0x255F), (0x4CC, 0x25FC), (0x4CE, 0x2555), (0x4CF, 0x266F),
  (0x4D5, 0x24B8), (0x4D9, 0x24B4), (0x4E1, 0x2507), (0x4E9, 0x2579), (0x4F7, 0x24D4),
  (0x4FB, 0x24CC), (0x4FD, 0x25C4), (0x4FF, 0x25C8), (0x501, 0x24DC), (0x503, 0x24E3),
  (0x505, 0x24FF), (0x507, 0x250C), (0x509, 0x254F), (0x50B, 0x2574), (0x50D, 0x2597),
  (0x50F, 0x25A1), (0x511, 0x2500), (0x513, 0x2548), (0x515, 0x2550), (0x517, 0x2592),
  (0x519, 0x2641), (0x51B, 0x253D), (0x51D, 0x266E), (0x51F, 0x253C), (0x521, 0x2549),
  (0x523, 0x256B), (0x525, 0x2581), (0x527, 0x25D4), (0x529, 0x255E), (0x52B, 0x24F4),
  (0x52D, 0x25F6), (0x52F, 0x2547), (0x663, 0x1FA3), (0x1100, 0x4323), (0x1102, 0x4325),
  (0x1112, 0x4335), (0x1161, 0x43A1), (0x11A8, 0x43FF), (0x11AB, 0x4402), (0x20AC, 0x1D8F),
  (0x2764, 0xAE2), (0x1F600, 0x1888), (0x1F601, 0x1889)]

/-- Capital letters, with the primary weights of their small letters. -/
def capitals : List (Nat × Nat) := [
  (0x41, 0x20A9), (0x42, 0x20C3), (0x43, 0x20DD), (0x44, 0x20F3), (0x45, 0x2110), (0x46, 0x214B),
  (0x47, 0x215A), (0x48, 0x2181), (0x49, 0x219C), (0x4A, 0x21B8), (0x4B, 0x21D1), (0x4C, 0x21E5),
  (0x4D, 0x221E), (0x4E, 0x222D), (0x4F, 0x2254), (0x50, 0x2284), (0x51, 0x2299), (0x52, 0x22AC),
  (0x53, 0x22EE), (0x54, 0x2318), (0x55, 0x233B), (0x56, 0x236B), (0x57, 0x237D), (0x58, 0x2387),
  (0x59, 0x2393), (0x5A, 0x23A9), (0xDE, 0x23D9), (0x14A, 0x224C), (0x166, 0x231D), (0x181, 0x20D4),
  (0x182, 0x20D8), (0x184, 0x23FA), (0x186, 0x2267), (0x187, 0x20E8), (0x189, 0x20FC),
  (0x18A, 0x2100), (0x18B, 0x2105), (0x18E, 0x211E), (0x18F, 0x2123), (0x190, 0x2128),
  (0x191, 0x2154), (0x193, 0x216C), (0x194, 0x2176), (0x196, 0x21B2), (0x197, 0x21AB),
  (0x198, 0x21D7), (0x19C, 0x235C), (0x19D, 0x2238), (0x19F, 0x2274), (0x1A2, 0x217A),
  (0x1A4, 0x228D), (0x1A6, 0x22B1), (0x1A7, 0x23F2), (0x1A9, 0x2300), (0x1AC, 0x2327),
  (0x1AE, 0x232B), (0x1B1, 0x2366), (0x1B2, 0x2372), (0x1B3, 0x239F), (0x1B5, 0x23AE),
  (0x1B7, 0x23C6), (0x1B8, 0x23CB), (0x1BC, 0x23F6), (0x1E4, 0x2167), (0x1F6, 0x2189),
  (0x1F7, 0x23DF), (0x21C, 0x23A5), (0x220, 0x223C), (0x222, 0x227E), (0x224, 0x23B4),
  (0x23A, 0x20AE), (0x23B, 0x20E2), (0x23D, 0x21F0), (0x23E, 0x2321), (0x241, 0x2402),
  (0x243, 0x20CB), (0x244, 0x2346), (0x245, 0x2379), (0x246, 0x2117), (0x248, 0x21C1),
  (0x24A, 0x22A4), (0x24C, 0x22B8), (0x24E, 0x239B), (0x370, 0x2451), (0x372, 0x2472),
  (0x376, 0x244E), (0x37F, 0x2455), (0x391, 0x2447), (0x392, 0x2448), (0x393, 0x2449),
  (0x394, 0x244B), (0x395, 0x244C), (0x396, 0x2450), (0x397, 0x2452), (0x398, 0x2453),
  (0x399, 0x2454), (0x39A, 0x2456), (0x39B, 0x2457), (0x39C, 0x2459), (0x39D, 0x245A),
  (0x39E, 0x245B), (0x39F, 0x245C), (0x3A0, 0x245D), (0x3A1, 0x2462), (0x3A3, 0x2465),
  (0x3A4, 0x2469), (0x3A5, 0x246A), (0x3A6, 0x246B), (0x3A7, 0x246C), (0x3A8, 0x246D),
  (0x3A9, 0x246F), (0x3D8, 0x2461), (0x3DA, 0x244F), (0x3DC, 0x244D), (0x3DE, 0x2460),
  (0x3E0, 0x2471), (0x3E2, 0x2493), (0x3E4, 0x2498), (0x3E6, 0x2499), (0x3E8, 0x249C),
  (0x3EA, 0x24A3), (0x3EC, 0x24A6), (0x3EE, 0x24AA), (0x3F7, 0x2473), (0x3FA, 0x245F),
  (0x3FD, 0x2467), (0x3FE, 0x2466), (0x3FF, 0x2468), (0x402, 0x24DE), (0x404, 0x24EC),
  (0x405, 0x2502), (0x406, 0x2516), (0x408, 0x251F), (0x409, 0x254A), (0x40A, 0x2570),
  (0x40B, 0x25A7), (0x40F, 0x260D), (0x410, 0x24B0), (0x411, 0x24BC), (0x412, 0x24C0),
  (0x413, 0x24C4), (0x414, 0x24D8), (0x415, 0x24E8), (0x416, 0x24F0), (0x417, 0x24FA),
  (0x418, 0x250E), (0x41A, 0x2524), (0x41B, 0x253E), (0x41C, 0x2551), (0x41D, 0x255A),
  (0x41E, 0x2575), (0x41F, 0x257D), (0x420, 0x258A), (0x421, 0x2593), (0x422, 0x259C),
  (0x423, 0x25AB), (0x424, 0x25BC), (0x425, 0x25C0), (0x426, 0x25E7), (0x427, 0x25F2),
  (0x428, 0x2611), (0x429, 0x2616), (0x42A, 0x261D), (0x42B, 0x2622), (0x42C, 0x2626),
  (0x42D, 0x2633), (0x42E, 0x2637), (0x42F, 0x263D), (0x460, 0x25D6), (0x462, 0x262E),
  (0x464, 0x2642), (0x466, 0x2646), (0x468, 0x2650), (0x46A, 0x264B), (0x46C, 0x2655),
  (0x46E, 0x2659), (0x470, 0x265D), (0x472, 0x2661), (0x474, 0x2665), (0x478, 0x25B8),
  (0x47A, 0x25E3), (0x47C, 0x25DF), (0x47E, 0x25DA), (0x480, 0x2586), (0x48A, 0x2512),
  (0x48C, 0x262A), (0x48E, 0x258E), (0x492, 0x24C8), (0x494, 0x24D0), (0x496, 0x24F6),
  (0x498, 0x24E4), (0x49A, 0x2528), (0x49C, 0x2538), (0x49E, 0x2534), (0x4A0, 0x2530),
  (0x4A2, 0x2563), (0x4A4, 0x256C), (0x4A6, 0x2582), (0x4A8, 0x266A), (0x4AA, 0x2598),
  (0x4AC, 0x25A2), (0x4AE, 0x25AF), (0x4B0, 0x25B3), (0x4B2, 0x25CC), (0x4B4, 0x25ED),
  (0x4B6, 0x25F8), (0x4B8, 0x2600), (0x4BA, 0x25D0), (0x4BC, 0x2605), (0x4BE, 0x2609),
  (0x4C0, 0x266F), (0x4C3, 0x252C), (0x4C5, 0x2543), (0x4C7, 0x2567), (0x4C9, 0x255F),
  (0x4CB, 0x25FC), (0x4CD, 0x2555), (0x4D4, 0x24B8), (0x4D8, 0x24B4), (0x4E0, 0x2507),
  (0x4E8, 0x2579), (0x4F6, 0x24D4), (0x4FA, 0x24CC), (0x4FC, 0x25C4), (0x4FE, 0x25C8),
  (0x500, 0x24DC), (0x502, 0x24E3), (0x504, 0x24FF), (0x506, 0x250C), (0x508, 0x254F),
  (0x50A, 0x2574), (0x50C, 0x2597), (0x50E, 0x25A1), (0x510, 0x2500), (0x512, 0x2548),
  (0x514, 0x2550), (0x516, 0x2592), (0x518, 0x2641), (0x51A, 0x253D), (0x51C, 0x266E),
  (0x51E, 0x253C), (0x520, 0x2549), (0x522, 0x256B), (0x524, 0x2581), (0x526, 0x25D4),
  (0x528, 0x255E), (0x52A, 0x24F4), (0x52C, 0x25F6), (0x52E, 0x2547)]

/-- Marks that combine with the letter before them, with their secondary weights. -/
def marks : List (Nat × Nat) := [
  (0x300, 0x25), (0x301, 0x24), (0x302, 0x27), (0x303, 0x2D), (0x304, 0x32), (0x305, 0x3A),
  (0x306, 0x26), (0x307, 0x2E), (0x308, 0x2B), (0x309, 0x3B), (0x30A, 0x29), (0x30B, 0x2C),
  (0x30C, 0x28), (0x30D, 0x33), (0x30E, 0x33), (0x30F, 0x3C), (0x310, 0x3D), (0x311, 0x3E),
  (0x312, 0x33), (0x313, 0x22), (0x314, 0x23), (0x315, 0x33), (0x316, 0x34), (0x317, 0x34),
  (0x318, 0x34), (0x319, 0x34), (0x31A, 0x33), (0x31B, 0x3F), (0x31C, 0x34), (0x31D, 0x34),
  (0x31E, 0x34), (0x31F, 0x34), (0x320, 0x34), (0x321, 0x40), (0x322, 0x41), (0x323, 0x42),
  (0x324, 0x43), (0x325, 0x44), (0x326, 0x45), (0x327, 0x30), (0x328, 0x31), (0x329, 0x34),
  (0x32A, 0x34), (0x32B, 0x34), (0x32C, 0x34), (0x32D, 0x46), (0x32E, 0x47), (0x32F, 0x34),
  (0x330, 0x48), (0x331, 0x49), (0x332, 0x21), (0x333, 0x34), (0x334, 0x4A), (0x335, 0x39),
  (0x336, 0x35), (0x337, 0x35), (0x338, 0x2F), (0x339, 0x4B), (0x33A, 0x34), (0x33B, 0x34),
  (0x33C, 0x34), (0x33D, 0x33), (0x33E, 0x33), (0x33F, 0x33), (0x342, 0x2A), (0x345, 0x4C),
  (0x346, 0x33), (0x347, 0x34), (0x348, 0x34), (0x349, 0x34), (0x34A, 0x33), (0x34B, 0x33),
  (0x34C, 0x33), (0x34D, 0x34), (0x34E, 0x34), (0x350, 0x33), (0x351, 0x33), (0x352, 0x33),
  (0x353, 0x34), (0x354, 0x34), (0x355, 0x34), (0x356, 0x34), (0x357, 0x33), (0x358, 0x4D),
  (0x359, 0x34), (0x35A, 0x34), (0x35B, 0x33), (0x35C, 0x34), (0x35D, 0x33), (0x35E, 0x33),
  (0x35F, 0x34), (0x360, 0x4E), (0x361, 0x4F), (0x362, 0x34), (0x483, 0x50), (0x484, 0x33),
  (0x485, 0x23), (0x486, 0x22), (0x487, 0x33)]

/-- Characters without weight. -/
def weightless : CodeRanges := [
  (0x0, 0x8), (0xE, 0x1F), (0x7F, 0x84), (0x86, 0x9F), (0xAD, 0xAD), (0x34F, 0x34F), (0x488, 0x489)]

/-- Characters that are ordered as several others, or with a form of their own. -/
def composites : List (Nat × List Element) := [
  (0xAA, [⟨false, 0x20A9, 0x20, 0x14⟩]), (0xB2, [⟨false, 0x1FA2, 0x20, 0x14⟩]),
  (0xB3, [⟨false, 0x1FA3, 0x20, 0x14⟩]), (0xB5, [⟨false, 0x2459, 0x20, 0x4⟩]),
  (0xB9, [⟨false, 0x1FA1, 0x20, 0x14⟩]), (0xBA, [⟨false, 0x2254, 0x20, 0x14⟩]),
  (0xBC, [⟨false, 0x1FA1, 0x20, 0x1E⟩, ⟨false, 0x5B6, 0x20, 0x1E⟩, ⟨false, 0x1FA4, 0x20, 0x1E⟩]),
  (0xBD, [⟨false, 0x1FA1, 0x20, 0x1E⟩, ⟨false, 0x5B6, 0x20, 0x1E⟩, ⟨false, 0x1FA2, 0x20, 0x1E⟩]),
  (0xBE, [⟨false, 0x1FA3, 0x20, 0x1E⟩, ⟨false, 0x5B6, 0x20, 0x1E⟩, ⟨false, 0x1FA4, 0x20, 0x1E⟩]),
  (0xC6, [⟨false, 0x20A9, 0x20, 0xA⟩, ⟨false, 0x0, 0x11C, 0x4⟩, ⟨false, 0x2110, 0x20, 0xA⟩]),
  (0xD0, [⟨false, 0x20F3, 0x20, 0xA⟩, ⟨false, 0x0, 0x11C, 0x4⟩]),
  (0xD8, [⟨false, 0x2254, 0x20, 0x8⟩, ⟨false, 0x0, 0x2F, 0x2⟩]),
  (0xDF, [⟨false, 0x22EE, 0x20, 0x4⟩, ⟨false, 0x0, 0x11C, 0x4⟩, ⟨false, 0x22EE, 0x20, 0x4⟩]),
  (0xE6, [⟨false, 0x20A9, 0x20, 0x4⟩, ⟨false, 0x0, 0x11C, 0x4⟩, ⟨false, 0x2110, 0x20, 0x4⟩]),
  (0xF0, [⟨false, 0x20F3, 0x20, 0x4⟩, ⟨false, 0x0, 0x11C, 0x4⟩]),
  (0xF8, [⟨false, 0x2254, 0x20, 0x2⟩, ⟨false, 0x0, 0x2F, 0x2⟩]),
  (0x110, [⟨false, 0x20F3, 0x20, 0x8⟩, ⟨false, 0x0, 0x39, 0x2⟩]),
  (0x111, [⟨false, 0x20F3, 0x20, 0x2⟩, ⟨false, 0x0, 0x39, 0x2⟩]),
  (0x126, [⟨false, 0x2181, 0x20, 0x8⟩, ⟨false, 0x0, 0x39, 0x2⟩]),
  (0x127, [⟨false, 0x2181, 0x20, 0x2⟩, ⟨false, 0x0, 0x39, 0x2⟩]),
  (0x132, [⟨false, 0x219C, 0x20, 0xA⟩, ⟨false, 0x21B8, 0x20, 0xA⟩]),
  (0x133, [⟨false, 0x219C, 0x20, 0x4⟩, ⟨false, 0x21B8, 0x20, 0x4⟩]),
  (0x13F, [⟨false, 0x21E5, 0x20, 0x8⟩, ⟨false, 0x0, 0x11C, 0x2⟩]),
  (0x140, [⟨false, 0x21E5, 0x20, 0x2⟩, ⟨false, 0x0, 0x11C, 0x2⟩]),
  (0x141, [⟨false, 0x21E5, 0x20, 0x8⟩, ⟨false, 0x0, 0x39, 0x2⟩]),
  (0x142, [⟨false, 0x21E5, 0x20, 0x2⟩, ⟨false, 0x0, 0x39, 0x2⟩]),
  (0x149, [⟨false, 0x2407, 0x20, 0x4⟩, ⟨false, 0x222D, 0x20, 0x4⟩]),
  (0x152, [⟨false, 0x2254, 0x20, 0xA⟩, ⟨false, 0x0, 0x11C, 0x4⟩, ⟨false, 0x2110, 0x20, 0xA⟩]),
  (0x153, [⟨false, 0x2254, 0x20, 0x4⟩, ⟨false, 0x0, 0x11C, 0x4⟩, ⟨false, 0x2110, 0x20, 0x4⟩]),
  (0x17F, [⟨false, 0x22EE, 0x20, 0x4⟩, ⟨false, 0x0, 0x11D, 0x4⟩]),
  (0x18D, [⟨false, 0x23A9, 0x20, 0x4⟩, ⟨false, 0x237D, 0x20, 0x4⟩]),
  (0x1BE, [⟨false, 0x2318, 0x20, 0x4⟩, ⟨false, 0x22EE, 0x20, 0x4⟩]),
  (0x1C4, [⟨false, 0x20F3, 0x20, 0xA⟩, ⟨false, 0x23A9, 0x20, 0xA⟩, ⟨false, 0x0, 0x28, 0x4⟩]),
  (0x1C5, [⟨false, 0x20F3, 0x20, 0xA⟩, ⟨false, 0x23A9, 0x20, 0x4⟩, ⟨false, 0x0, 0x28, 0x4⟩]),
  (0x1C6, [⟨false, 0x20F3, 0x20, 0x4⟩, ⟨false, 0x23A9, 0x20, 0x4⟩, ⟨false, 0x0, 0x28, 0x4⟩]),
  (0x1C7, [⟨false, 0x21E5, 0x20, 0xA⟩, ⟨false, 0x21B8, 0x20, 0xA⟩]),
  (0x1C8, [⟨false, 0x21E5, 0x20, 0xA⟩, ⟨false, 0x21B8, 0x20, 0x4⟩]),
  (0x1C9, [⟨false, 0x21E5, 0x20, 0x4⟩, ⟨false, 0x21B8, 0x20, 0x4⟩]),
  (0x1CA, [⟨false, 0x222D, 0x20, 0xA⟩, ⟨false, 0x21B8, 0x20, 0xA⟩]),
  (0x1CB, [⟨false, 0x222D, 0x20, 0xA⟩, ⟨false, 0x21B8, 0x20, 0x4⟩]),
  (0x1CC, [⟨false, 0x222D, 0x20, 0x4⟩, ⟨false, 0x21B8, 0x20, 0x4⟩]),
  (0x1F1, [⟨false, 0x20F3, 0x20, 0xA⟩, ⟨false, 0x23A9, 0x20, 0xA⟩]),
  (0x1F2, [⟨false, 0x20F3, 0x20, 0xA⟩, ⟨false, 0x23A9, 0x20, 0x4⟩]),
  (0x1F3, [⟨false, 0x20F3, 0x20, 0x4⟩, ⟨false, 0x23A9, 0x20, 0x4⟩]),
  (0x238, [⟨false, 0x20F3, 0x20, 0x4⟩, ⟨false, 0x20C3, 0x20, 0x4⟩]),
  (0x239, [⟨false, 0x2299, 0x20, 0x4⟩, ⟨false, 0x2284, 0x20, 0x4⟩]),
  (0x363, [⟨false, 0x20A9, 0x20, 0x4⟩]), (0x364, [⟨false, 0x2110, 0x20, 0x4⟩]),
  (0x365, [⟨false, 0x219C, 0x20, 0x4⟩]), (0x366, [⟨false, 0x2254, 0x20, 0x4⟩]),
  (0x367, [⟨false, 0x233B, 0x20, 0x4⟩]), (0x368, [⟨false, 0x20DD, 0x20, 0x4⟩]),
  (0x369, [⟨false, 0x20F3, 0x20, 0x4⟩]), (0x36A, [⟨false, 0x2181, 0x20, 0x4⟩]),
  (0x36B, [⟨false, 0x221E, 0x20, 0x4⟩]), (0x36C, [⟨false, 0x22AC, 0x20, 0x4⟩]),
  (0x36D, [⟨false, 0x2318, 0x20, 0x4⟩]), (0x36E, [⟨false, 0x236B, 0x20, 0x4⟩]),
  (0x36F, [⟨false, 0x2387, 0x20, 0x4⟩]), (0x37A, [⟨false, 0x2454, 0x20, 0x4⟩]),
  (0x3C2, [⟨false, 0x2465, 0x20, 0x19⟩]),
  (0x3CF, [⟨false, 0x2456, 0x20, 0xA⟩, ⟨false, 0x2447, 0x20, 0x4⟩, ⟨false, 0x2454, 0x20, 0x4⟩]),
  (0x3D0, [⟨false, 0x2448, 0x20, 0x4⟩]), (0x3D1, [⟨false, 0x2453, 0x20, 0x4⟩]),
  (0x3D2, [⟨false, 0x246A, 0x20, 0xA⟩]), (0x3D5, [⟨false, 0x246B, 0x20, 0x4⟩]),
  (0x3D6, [⟨false, 0x245D, 0x20, 0x4⟩]),
  (0x3D7, [⟨false, 0x2456, 0x20, 0x4⟩, ⟨false, 0x2447, 0x20, 0x4⟩, ⟨false, 0x2454, 0x20, 0x4⟩]),
  (0x3F0, [⟨false, 0x2456, 0x20, 0x4⟩]), (0x3F1, [⟨false, 0x2462, 0x20, 0x4⟩]),
  (0x3F2, [⟨false, 0x2465, 0x20, 0x4⟩]), (0x3F4, [⟨false, 0x2453, 0x20, 0xA⟩]),
  (0x3F5, [⟨false, 0x244C, 0x20, 0x4⟩]), (0x3F9, [⟨false, 0x2465, 0x20, 0xA⟩]),
  (0x490, [⟨false, 0x24C4, 0x20, 0xA⟩, ⟨false, 0x0, 0x11D, 0x4⟩]),
  (0x491, [⟨false, 0x24C4, 0x20, 0x4⟩, ⟨false, 0x0, 0x11D, 0x4⟩]),
  (0x1E9E, [⟨false, 0x22EE, 0x20, 0xA⟩, ⟨false, 0x0, 0x11C, 0x4⟩, ⟨false, 0x22EE, 0x20, 0xA⟩]),
  (0x2460, [⟨false, 0x1FA1, 0x20, 0x6⟩]), (0x3131, [⟨false, 0x4323, 0x20, 0x4⟩]),
  (0xFB01, [⟨false, 0x214B, 0x20, 0x4⟩, ⟨false, 0x219C, 0x20, 0x4⟩])]

/-- Pairs of characters with weights of their own: an `l` and the middle dot after it, and the
short `й`, which is a letter. -/
def contractions : List ((Nat × Nat) × List Element) := [
  ((0x4C, 0xB7), [⟨false, 0x21E5, 0x20, 0x8⟩, ⟨false, 0x0, 0x11C, 0x2⟩]),
  ((0x6C, 0xB7), [⟨false, 0x21E5, 0x20, 0x2⟩, ⟨false, 0x0, 0x11C, 0x2⟩]),
  ((0x418, 0x306), [⟨false, 0x251B, 0x20, 0x8⟩]), ((0x438, 0x306), [⟨false, 0x251B, 0x20, 0x2⟩])]

def Element.letter (primary : Nat) : Element := ⟨false, primary, 0x20, 0x2⟩

def Element.capital (primary : Nat) : Element := ⟨false, primary, 0x20, 0x8⟩

def Element.mark (secondary : Nat) : Element := ⟨false, 0, secondary, 0x2⟩

def Element.variable (primary : Nat) : Element := ⟨true, primary, 0x20, 0x2⟩

/-- The elements of a character without an entry: weights that keep the order of code points,
ideographs before everything else. -/
def implicit (n : Nat) : List Element :=
  let lead := if 0x4E00 ≤ n ∧ n ≤ 0x9FFF then 0xFB40 else 0xFBC0
  [⟨false, lead + n / 0x8000, 0x20, 0x2⟩, ⟨false, n % 0x8000 + 0x8000, 0, 0⟩]

def elementsOf (c : Char) : List Element :=
  let n := c.toNat
  match letters.lookup n, capitals.lookup n, punctuation.lookup n, marks.lookup n with
  | some p, _, _, _ => [.letter p]
  | _, some p, _, _ => [.capital p]
  | _, _, some p, _ => [.variable p]
  | _, _, _, some s => [.mark s]
  | none, none, none, none =>
    if weightless.has c then [⟨false, 0, 0, 0⟩]
    else (composites.lookup n).getD (implicit n)

/-- The elements of a text, the longest entry first. -/
def elements : List Char → List Element
  | c :: d :: rest => match contractions.lookup (c.toNat, d.toNat) with
    | some es => es ++ elements rest
    | none => elementsOf c ++ elements (d :: rest)
  | [c] => elementsOf c
  | [] => []

end Tabular.Collation
