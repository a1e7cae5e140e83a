/-!
# Characters that stand for others in host names

Letters, digits and signs that stand for a single other one, apart from the ideographs and from
those that lie in runs.
-/

namespace PreviewServer.Url

/-- The characters, in order, each with the one it stands for. -/
def mappedLetters : List (Nat × Nat) :=
  [(0xA0, 0x20), (0xAA, 0x61), (0xB5, 0x3BC), (0xB9, 0x31), (0xBA, 0x6F), (0x178, 0xFF),
   (0x17F, 0x73), (0x181, 0x253), (0x186, 0x254), (0x187, 0x188), (0x18B, 0x18C), (0x18E, 0x1DD),
   (0x18F, 0x259), (0x190, 0x25B), (0x191, 0x192), (0x193, 0x260), (0x194, 0x263), (0x196, 0x269),
   (0x197, 0x268), (0x198, 0x199), (0x19C, 0x26F), (0x19D, 0x272), (0x19F, 0x275), (0x1A6, 0x280),
   (0x1A7, 0x1A8), (0x1A9, 0x283), (0x1AC, 0x1AD), (0x1AE, 0x288), (0x1AF, 0x1B0), (0x1B7, 0x292),
   (0x1B8, 0x1B9), (0x1BC, 0x1BD), (0x1F4, 0x1F5), (0x1F6, 0x195), (0x1F7, 0x1BF), (0x220, 0x19E),
   (0x23A, 0x2C65), (0x23B, 0x23C), (0x23D, 0x19A), (0x23E, 0x2C66), (0x241, 0x242),
   (0x243, 0x180), (0x244, 0x289), (0x245, 0x28C), (0x2B1, 0x266), (0x2B3, 0x72), (0x2B4, 0x279),
   (0x2B5, 0x27B), (0x2B6, 0x281), (0x2B7, 0x77), (0x2B8, 0x79), (0x2E0, 0x263), (0x2E1, 0x6C),
   (0x2E2, 0x73), (0x2E3, 0x78), (0x2E4, 0x295), (0x343, 0x313), (0x345, 0x3B9), (0x374, 0x2B9),
   (0x376, 0x377), (0x37E, 0x3B), (0x37F, 0x3F3), (0x386, 0x3AC), (0x387, 0xB7), (0x38C, 0x3CC),
   (0x3CF, 0x3D7), (0x3D0, 0x3B2), (0x3D1, 0x3B8), (0x3D2, 0x3C5), (0x3D3, 0x3CD), (0x3D4, 0x3CB),
   (0x3D5, 0x3C6), (0x3D6, 0x3C0), (0x3F0, 0x3BA), (0x3F1, 0x3C1), (0x3F2, 0x3C3), (0x3F4, 0x3B8),
   (0x3F5, 0x3B5), (0x3F7, 0x3F8), (0x3F9, 0x3C3), (0x3FA, 0x3FB), (0x4C0, 0x4CF), (0xF0C, 0xF0B),
   (0x10C7, 0x2D27), (0x10CD, 0x2D2D), (0x10FC, 0x10DC), (0x1C80, 0x432), (0x1C81, 0x434),
   (0x1C82, 0x43E), (0x1C85, 0x442), (0x1C86, 0x44A), (0x1C87, 0x463), (0x1C88, 0xA64B),
   (0x1C89, 0x1C8A), (0x1D2C, 0x61), (0x1D2D, 0xE6), (0x1D32, 0x1DD), (0x1D3C, 0x6F),
   (0x1D3D, 0x223), (0x1D3E, 0x70), (0x1D3F, 0x72), (0x1D42, 0x77), (0x1D43, 0x61),
   (0x1D46, 0x1D02), (0x1D47, 0x62), (0x1D4A, 0x259), (0x1D4D, 0x67), (0x1D4F, 0x6B),
   (0x1D51, 0x14B), (0x1D53, 0x254), (0x1D56, 0x70), (0x1D59, 0x1D1D), (0x1D5A, 0x26F),
   (0x1D5B, 0x76), (0x1D5C, 0x1D25), (0x1D62, 0x69), (0x1D63, 0x72), (0x1D68, 0x3C1),
   (0x1D78, 0x43D), (0x1D9B, 0x252), (0x1D9C, 0x63), (0x1D9D, 0x255), (0x1D9E, 0xF0),
   (0x1D9F, 0x25C), (0x1DA0, 0x66), (0x1DA1, 0x25F), (0x1DA2, 0x261), (0x1DA3, 0x265),
   (0x1DA7, 0x1D7B), (0x1DA8, 0x29D), (0x1DA9, 0x26D), (0x1DAA, 0x1D85), (0x1DAB, 0x29F),
   (0x1DAC, 0x271), (0x1DAD, 0x270), (0x1DB2, 0x278), (0x1DB5, 0x1AB), (0x1DB8, 0x1D1C),
   (0x1DBB, 0x7A), (0x1DBF, 0x3B8), (0x1E9B, 0x1E61), (0x1E9E, 0xDF), (0x1F71, 0x3AC),
   (0x1F73, 0x3AD), (0x1F75, 0x3AE), (0x1F77, 0x3AF), (0x1F79, 0x3CC), (0x1F7B, 0x3CD),
   (0x1F7D, 0x3CE), (0x1FBA, 0x1F70), (0x1FBB, 0x3AC), (0x1FBE, 0x3B9), (0x1FC9, 0x3AD),
   (0x1FCB, 0x3AE), (0x1FD3, 0x390), (0x1FDA, 0x1F76), (0x1FDB, 0x3AF), (0x1FE3, 0x3B0),
   (0x1FEA, 0x1F7A), (0x1FEB, 0x3CD), (0x1FEC, 0x1FE5), (0x1FEF, 0x60), (0x1FF8, 0x1F78),
   (0x1FFA, 0x1F7C), (0x2000, 0x20), (0x2001, 0x20), (0x2002, 0x20), (0x2003, 0x20),
   (0x2004, 0x20), (0x2005, 0x20), (0x2006, 0x20), (0x2007, 0x20), (0x2008, 0x20), (0x2009, 0x20),
   (0x200A, 0x20), (0x2011, 0x2010), (0x202F, 0x20), (0x205F, 0x20), (0x2070, 0x30),
   (0x2071, 0x69), (0x207A, 0x2B), (0x207B, 0x2212), (0x207C, 0x3D), (0x207F, 0x6E),
   (0x208A, 0x2B), (0x208B, 0x2212), (0x208C, 0x3D), (0x2090, 0x61), (0x2091, 0x65),
   (0x2092, 0x6F), (0x2093, 0x78), (0x2094, 0x259), (0x2095, 0x68), (0x209A, 0x70),
   (0x2102, 0x63), (0x2107, 0x25B), (0x210C, 0x68), (0x210D, 0x68), (0x210E, 0x68),
   (0x210F, 0x127), (0x2110, 0x69), (0x2111, 0x69), (0x2112, 0x6C), (0x211C, 0x72),
   (0x211D, 0x72), (0x2124, 0x7A), (0x2126, 0x3C9), (0x2128, 0x7A), (0x212A, 0x6B),
   (0x212B, 0xE5), (0x212F, 0x65), (0x2132, 0x214E), (0x2133, 0x6D), (0x2134, 0x6F),
   (0x2139, 0x69), (0x213C, 0x3C0), (0x213D, 0x3B3), (0x213E, 0x3B3), (0x213F, 0x3C0),
   (0x2140, 0x2211), (0x2145, 0x64), (0x2160, 0x69), (0x2164, 0x76), (0x2169, 0x78),
   (0x216C, 0x6C), (0x216F, 0x6D), (0x2170, 0x69), (0x2174, 0x76), (0x2179, 0x78), (0x217C, 0x6C),
   (0x217F, 0x6D), (0x2183, 0x2184), (0x24EA, 0x30), (0x2C60, 0x2C61), (0x2C62, 0x26B),
   (0x2C63, 0x1D7D), (0x2C64, 0x27D), (0x2C6D, 0x251), (0x2C6E, 0x271), (0x2C6F, 0x250),
   (0x2C70, 0x252), (0x2C72, 0x2C73), (0x2C75, 0x2C76), (0x2C7C, 0x6A), (0x2C7D, 0x76),
   (0x2CF2, 0x2CF3), (0x2D6F, 0x2D61), (0x3000, 0x20), (0x3002, 0x2E), (0x3134, 0x1102),
   (0x3136, 0x11AD), (0x3140, 0x111A), (0x3144, 0x1121), (0x3169, 0x11CC), (0x316A, 0x11CE),
   (0x316B, 0x11D3), (0x316C, 0x11D7), (0x316D, 0x11D9), (0x316E, 0x111C), (0x316F, 0x11DD),
   (0x3170, 0x11DF), (0x3173, 0x1120), (0x3176, 0x1127), (0x3177, 0x1129), (0x317D, 0x1132),
   (0x317E, 0x1136), (0x317F, 0x1140), (0x3180, 0x1147), (0x3181, 0x114C), (0x3189, 0x1188),
   (0x318C, 0x1194), (0x318D, 0x119E), (0x318E, 0x11A1), (0x3260, 0x1100), (0x3266, 0x1109),
   (0xA69C, 0x44A), (0xA69D, 0x44C), (0xA770, 0xA76F), (0xA77D, 0x1D79), (0xA78B, 0xA78C),
   (0xA78D, 0x265), (0xA7AA, 0x266), (0xA7AB, 0x25C), (0xA7AC, 0x261), (0xA7AD, 0x26C),
   (0xA7AE, 0x26A), (0xA7B0, 0x29E), (0xA7B1, 0x287), (0xA7B2, 0x29D), (0xA7B3, 0xAB53),
   (0xA7C4, 0xA794), (0xA7C5, 0x282), (0xA7C6, 0x1D8E), (0xA7CB, 0x264), (0xA7DC, 0x19B),
   (0xA7F1, 0x73), (0xA7F2, 0x63), (0xA7F3, 0x66), (0xA7F4, 0x71), (0xA7F5, 0xA7F6),
   (0xA7F8, 0x127), (0xA7F9, 0x153), (0xAB5C, 0xA727), (0xAB5D, 0xAB37), (0xAB5E, 0x26B),
   (0xAB5F, 0xAB52), (0xAB69, 0x28D), (0xFB20, 0x5E2), (0xFB21, 0x5D0), (0xFB27, 0x5E8),
   (0xFB28, 0x5EA), (0xFB29, 0x2B), (0xFB50, 0x671), (0xFB51, 0x671), (0xFB52, 0x67B),
   (0xFB53, 0x67B), (0xFB54, 0x67B), (0xFB55, 0x67B), (0xFB56, 0x67E), (0xFB57, 0x67E),
   (0xFB5C, 0x680), (0xFB5D, 0x680), (0xFB5E, 0x67A), (0xFB5F, 0x67A), (0xFB60, 0x67A),
   (0xFB61, 0x67A), (0xFB62, 0x67F), (0xFB63, 0x67F), (0xFB64, 0x67F), (0xFB65, 0x67F),
   (0xFB66, 0x679), (0xFB67, 0x679), (0xFB68, 0x679), (0xFB69, 0x679), (0xFB6A, 0x6A4),
   (0xFB6B, 0x6A4), (0xFB70, 0x6A6), (0xFB71, 0x6A6), (0xFB72, 0x684), (0xFB73, 0x684),
   (0xFB74, 0x684), (0xFB75, 0x684), (0xFB76, 0x683), (0xFB77, 0x683), (0xFB78, 0x683),
   (0xFB79, 0x683), (0xFB7A, 0x686), (0xFB7B, 0x686), (0xFB7C, 0x686), (0xFB7F, 0x687),
   (0xFB80, 0x687), (0xFB81, 0x687), (0xFB82, 0x68D), (0xFB83, 0x68D), (0xFB88, 0x688),
   (0xFB89, 0x688), (0xFB8A, 0x698), (0xFB8B, 0x698), (0xFB8C, 0x691), (0xFB8D, 0x691),
   (0xFB8E, 0x6A9), (0xFB8F, 0x6A9), (0xFB90, 0x6A9), (0xFB91, 0x6A9), (0xFB92, 0x6AF),
   (0xFB93, 0x6AF), (0xFB94, 0x6AF), (0xFB95, 0x6AF), (0xFB96, 0x6B3), (0xFB97, 0x6B3),
   (0xFB98, 0x6B3), (0xFB99, 0x6B3), (0xFB9A, 0x6B1), (0xFB9B, 0x6B1), (0xFB9C, 0x6B1),
   (0xFB9D, 0x6B1), (0xFB9E, 0x6BA), (0xFBA1, 0x6BB), (0xFBA2, 0x6BB), (0xFBA3, 0x6BB),
   (0xFBA4, 0x6C0), (0xFBA7, 0x6C1), (0xFBA8, 0x6C1), (0xFBA9, 0x6C1), (0xFBAA, 0x6BE),
   (0xFBAB, 0x6BE), (0xFBAC, 0x6BE), (0xFBAD, 0x6BE), (0xFBAE, 0x6D2), (0xFBB1, 0x6D3),
   (0xFBD3, 0x6AD), (0xFBD4, 0x6AD), (0xFBD5, 0x6AD), (0xFBD6, 0x6AD), (0xFBD7, 0x6C7),
   (0xFBD8, 0x6C7), (0xFBDE, 0x6CB), (0xFBDF, 0x6CB), (0xFBE0, 0x6C5), (0xFBE1, 0x6C5),
   (0xFBE2, 0x6C9), (0xFBE3, 0x6C9), (0xFBE4, 0x6D0), (0xFBE5, 0x6D0), (0xFBE6, 0x6D0),
   (0xFBE7, 0x6D0), (0xFBE8, 0x649), (0xFBE9, 0x649), (0xFBFC, 0x6CC), (0xFBFD, 0x6CC),
   (0xFBFE, 0x6CC), (0xFBFF, 0x6CC), (0xFE10, 0x2C), (0xFE11, 0x3001), (0xFE15, 0x21),
   (0xFE16, 0x3F), (0xFE31, 0x2014), (0xFE32, 0x2013), (0xFE33, 0x5F), (0xFE34, 0x5F),
   (0xFE37, 0x7B), (0xFE38, 0x7D), (0xFE47, 0x5B), (0xFE48, 0x5D), (0xFE4D, 0x5F), (0xFE4E, 0x5F),
   (0xFE4F, 0x5F), (0xFE50, 0x2C), (0xFE51, 0x3001), (0xFE54, 0x3B), (0xFE55, 0x3A),
   (0xFE56, 0x3F), (0xFE57, 0x21), (0xFE58, 0x2014), (0xFE5B, 0x7B), (0xFE5C, 0x7D),
   (0xFE5F, 0x23), (0xFE60, 0x26), (0xFE63, 0x2D), (0xFE64, 0x3C), (0xFE65, 0x3E), (0xFE66, 0x3D),
   (0xFE68, 0x5C), (0xFE6B, 0x40), (0xFE8A, 0x626), (0xFE8B, 0x626), (0xFE90, 0x628),
   (0xFE91, 0x628), (0xFE96, 0x62A), (0xFE97, 0x62A), (0xFE9A, 0x62B), (0xFE9B, 0x62B),
   (0xFE9E, 0x62C), (0xFE9F, 0x62C), (0xFEA2, 0x62D), (0xFEA3, 0x62D), (0xFEA6, 0x62E),
   (0xFEA7, 0x62E), (0xFEB2, 0x633), (0xFEB3, 0x633), (0xFEB6, 0x634), (0xFEB7, 0x634),
   (0xFEBA, 0x635), (0xFEBB, 0x635), (0xFEBE, 0x636), (0xFEBF, 0x636), (0xFEC2, 0x637),
   (0xFEC3, 0x637), (0xFEC6, 0x638), (0xFEC7, 0x638), (0xFECA, 0x639), (0xFECB, 0x639),
   (0xFECE, 0x63A), (0xFECF, 0x63A), (0xFED0, 0x63A), (0xFED1, 0x641), (0xFED2, 0x641),
   (0xFED3, 0x641), (0xFED6, 0x642), (0xFED7, 0x642), (0xFEDA, 0x643), (0xFEDB, 0x643),
   (0xFEDE, 0x644), (0xFEDF, 0x644), (0xFEE2, 0x645), (0xFEE3, 0x645), (0xFEE6, 0x646),
   (0xFEE7, 0x646), (0xFEEA, 0x647), (0xFEEB, 0x647), (0xFEF2, 0x64A), (0xFEF3, 0x64A),
   (0xFEF4, 0x64A), (0xFF61, 0x2E), (0xFF64, 0x3001), (0xFF65, 0x30FB), (0xFF66, 0x30F2),
   (0xFF67, 0x30A1), (0xFF68, 0x30A3), (0xFF69, 0x30A5), (0xFF6A, 0x30A7), (0xFF6B, 0x30A9),
   (0xFF6C, 0x30E3), (0xFF6D, 0x30E5), (0xFF6E, 0x30E7), (0xFF6F, 0x30C3), (0xFF70, 0x30FC),
   (0xFF71, 0x30A2), (0xFF72, 0x30A4), (0xFF73, 0x30A6), (0xFF74, 0x30A8), (0xFF77, 0x30AD),
   (0xFF78, 0x30AF), (0xFF79, 0x30B1), (0xFF7A, 0x30B3), (0xFF7B, 0x30B5), (0xFF7C, 0x30B7),
   (0xFF7D, 0x30B9), (0xFF7E, 0x30BB), (0xFF7F, 0x30BD), (0xFF80, 0x30BF), (0xFF81, 0x30C1),
   (0xFF82, 0x30C4), (0xFF83, 0x30C6), (0xFF84, 0x30C8), (0xFF8B, 0x30D2), (0xFF8C, 0x30D5),
   (0xFF8D, 0x30D8), (0xFF8E, 0x30DB), (0xFF94, 0x30E4), (0xFF95, 0x30E6), (0xFF9C, 0x30EF),
   (0xFF9D, 0x30F3), (0xFFA4, 0x1102), (0xFFA6, 0x11AD), (0xFFB0, 0x111A), (0xFFB4, 0x1121),
   (0xFFE2, 0xAC), (0xFFE4, 0xA6), (0xFFE5, 0xA5), (0xFFE6, 0x20A9), (0xFFE8, 0x2502),
   (0xFFED, 0x25A0), (0xFFEE, 0x25CB), (0x10595, 0x105BC), (0x10783, 0xE6), (0x10784, 0x299),
   (0x10785, 0x253), (0x10788, 0xAB66), (0x1078A, 0x2A4), (0x1078D, 0x1D91), (0x1078E, 0x258),
   (0x1078F, 0x25E), (0x10790, 0x2A9), (0x10791, 0x264), (0x10792, 0x262), (0x10793, 0x260),
   (0x10794, 0x29B), (0x10795, 0x127), (0x10796, 0x29C), (0x10797, 0x267), (0x10798, 0x284),
   (0x1079B, 0x26C), (0x1079C, 0x1DF04), (0x1079D, 0xA78E), (0x1079E, 0x26E), (0x1079F, 0x1DF05),
   (0x107A0, 0x28E), (0x107A1, 0x1DF06), (0x107A2, 0xF8), (0x107A5, 0x71), (0x107A6, 0x27A),
   (0x107A7, 0x1DF08), (0x107AA, 0x280), (0x107AB, 0x2A8), (0x107AC, 0x2A6), (0x107AD, 0xAB67),
   (0x107AE, 0x2A7), (0x107AF, 0x288), (0x107B0, 0x2C71), (0x107B2, 0x28F), (0x107B5, 0x298),
   (0x107B9, 0x1DF0A), (0x107BA, 0x1DF1E), (0x1D49F, 0x64), (0x1D4A2, 0x67), (0x1D546, 0x6F),
   (0x1D6A4, 0x131), (0x1D6A5, 0x237), (0x1D6B9, 0x3B8), (0x1D6C1, 0x2207), (0x1D6D3, 0x3C3),
   (0x1D6DB, 0x2202), (0x1D6DC, 0x3B5), (0x1D6DD, 0x3B8), (0x1D6DE, 0x3BA), (0x1D6DF, 0x3C6),
   (0x1D6E0, 0x3C1), (0x1D6E1, 0x3C0), (0x1D6F3, 0x3B8), (0x1D6FB, 0x2207), (0x1D70D, 0x3C3),
   (0x1D715, 0x2202), (0x1D716, 0x3B5), (0x1D717, 0x3B8), (0x1D718, 0x3BA), (0x1D719, 0x3C6),
   (0x1D71A, 0x3C1), (0x1D71B, 0x3C0), (0x1D72D, 0x3B8), (0x1D735, 0x2207), (0x1D747, 0x3C3),
   (0x1D74F, 0x2202), (0x1D750, 0x3B5), (0x1D751, 0x3B8), (0x1D752, 0x3BA), (0x1D753, 0x3C6),
   (0x1D754, 0x3C1), (0x1D755, 0x3C0), (0x1D767, 0x3B8), (0x1D76F, 0x2207), (0x1D781, 0x3C3),
   (0x1D789, 0x2202), (0x1D78A, 0x3B5), (0x1D78B, 0x3B8), (0x1D78C, 0x3BA), (0x1D78D, 0x3C6),
   (0x1D78E, 0x3C1), (0x1D78F, 0x3C0), (0x1D7A1, 0x3B8), (0x1D7A9, 0x2207), (0x1D7BB, 0x3C3),
   (0x1D7C3, 0x2202), (0x1D7C4, 0x3B5), (0x1D7C5, 0x3B8), (0x1D7C6, 0x3BA), (0x1D7C7, 0x3C6),
   (0x1D7C8, 0x3C1), (0x1D7C9, 0x3C0), (0x1D7CA, 0x3DD), (0x1D7CB, 0x3DD), (0x1E047, 0x44B),
   (0x1E04A, 0xA689), (0x1E04B, 0x4D9), (0x1E04C, 0x456), (0x1E04D, 0x458), (0x1E04E, 0x4E9),
   (0x1E04F, 0x4AF), (0x1E050, 0x4CF), (0x1E05E, 0x441), (0x1E067, 0x491), (0x1E068, 0x456),
   (0x1E069, 0x455), (0x1E06A, 0x45F), (0x1E06B, 0x4AB), (0x1E06C, 0xA651), (0x1E06D, 0x4B1),
   (0x1EE02, 0x62C), (0x1EE03, 0x62F), (0x1EE05, 0x648), (0x1EE06, 0x632), (0x1EE07, 0x62D),
   (0x1EE08, 0x637), (0x1EE09, 0x64A), (0x1EE0E, 0x633), (0x1EE0F, 0x639), (0x1EE10, 0x641),
   (0x1EE11, 0x635), (0x1EE12, 0x642), (0x1EE13, 0x631), (0x1EE14, 0x634), (0x1EE17, 0x62E),
   (0x1EE18, 0x630), (0x1EE19, 0x636), (0x1EE1A, 0x638), (0x1EE1B, 0x63A), (0x1EE1C, 0x66E),
   (0x1EE1D, 0x6BA), (0x1EE1E, 0x6A1), (0x1EE1F, 0x66F), (0x1EE21, 0x628), (0x1EE22, 0x62C),
   (0x1EE24, 0x647), (0x1EE27, 0x62D), (0x1EE29, 0x64A), (0x1EE2E, 0x633), (0x1EE2F, 0x639),
   (0x1EE30, 0x641), (0x1EE31, 0x635), (0x1EE32, 0x642), (0x1EE34, 0x634), (0x1EE37, 0x62E),
   (0x1EE39, 0x636), (0x1EE3B, 0x63A), (0x1EE42, 0x62C), (0x1EE47, 0x62D), (0x1EE49, 0x64A),
   (0x1EE4E, 0x633), (0x1EE4F, 0x639), (0x1EE51, 0x635), (0x1EE52, 0x642), (0x1EE54, 0x634),
   (0x1EE57, 0x62E), (0x1EE59, 0x636), (0x1EE5B, 0x63A), (0x1EE5D, 0x6BA), (0x1EE5F, 0x66F),
   (0x1EE61, 0x628), (0x1EE62, 0x62C), (0x1EE64, 0x647), (0x1EE67, 0x62D), (0x1EE68, 0x637),
   (0x1EE69, 0x64A), (0x1EE6D, 0x646), (0x1EE6E, 0x633), (0x1EE6F, 0x639), (0x1EE70, 0x641),
   (0x1EE71, 0x635), (0x1EE72, 0x642), (0x1EE74, 0x634), (0x1EE77, 0x62E), (0x1EE79, 0x636),
   (0x1EE7A, 0x638), (0x1EE7B, 0x63A), (0x1EE7C, 0x66E), (0x1EE7E, 0x6A1), (0x1EE82, 0x62C),
   (0x1EE83, 0x62F), (0x1EE86, 0x632), (0x1EE87, 0x62D), (0x1EE88, 0x637), (0x1EE89, 0x64A),
   (0x1EE8E, 0x633), (0x1EE8F, 0x639), (0x1EE90, 0x641), (0x1EE91, 0x635), (0x1EE92, 0x642),
   (0x1EE93, 0x631), (0x1EE94, 0x634), (0x1EE97, 0x62E), (0x1EE98, 0x630), (0x1EE99, 0x636),
   (0x1EE9A, 0x638), (0x1EE9B, 0x63A), (0x1EEA1, 0x628), (0x1EEA2, 0x62C), (0x1EEA3, 0x62F),
   (0x1EEA5, 0x648), (0x1EEA6, 0x632), (0x1EEA7, 0x62D), (0x1EEA8, 0x637), (0x1EEA9, 0x64A),
   (0x1EEAE, 0x633), (0x1EEAF, 0x639), (0x1EEB0, 0x641), (0x1EEB1, 0x635), (0x1EEB2, 0x642),
   (0x1EEB3, 0x631), (0x1EEB4, 0x634), (0x1EEB7, 0x62E), (0x1EEB8, 0x630), (0x1EEB9, 0x636),
   (0x1EEBA, 0x638), (0x1EEBB, 0x63A), (0x1F12B, 0x63), (0x1F12C, 0x72), (0x1F202, 0x30B5),
   (0x1F210, 0x624B), (0x1F211, 0x5B57), (0x1F212, 0x53CC), (0x1F213, 0x30C7), (0x1F214, 0x4E8C),
   (0x1F215, 0x591A), (0x1F216, 0x89E3), (0x1F217, 0x5929), (0x1F218, 0x4EA4), (0x1F219, 0x6620),
   (0x1F21A, 0x7121), (0x1F21B, 0x6599), (0x1F21C, 0x524D), (0x1F21D, 0x5F8C), (0x1F21E, 0x518D),
   (0x1F21F, 0x65B0), (0x1F220, 0x521D), (0x1F221, 0x7D42), (0x1F222, 0x751F), (0x1F223, 0x8CA9),
   (0x1F224, 0x58F0), (0x1F225, 0x5439), (0x1F226, 0x6F14), (0x1F227, 0x6295), (0x1F228, 0x6355),
   (0x1F229, 0x4E00), (0x1F22A, 0x4E09), (0x1F22B, 0x904A), (0x1F22C, 0x5DE6), (0x1F22D, 0x4E2D),
   (0x1F22E, 0x53F3), (0x1F22F, 0x6307), (0x1F230, 0x8D70), (0x1F231, 0x6253), (0x1F232, 0x7981),
   (0x1F233, 0x7A7A), (0x1F234, 0x5408), (0x1F235, 0x6E80), (0x1F236, 0x6709), (0x1F237, 0x6708),
   (0x1F238, 0x7533), (0x1F239, 0x5272), (0x1F23A, 0x55B6), (0x1F23B, 0x914D), (0x1F250, 0x5F97),
   (0x1F251, 0x53EF)]

end PreviewServer.Url
