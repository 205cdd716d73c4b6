namespace TestImpact.Web.Domain

/-- The rows of an alphabet that are spelt as another row, as the capitals are: first and last code
    point, the step from one to the next, and what the first is spelt as. -/
def respeltRows : Array (Nat × Nat × Nat × Nat) :=
  #[(0xC0, 0xD6, 1, 0xE0), (0xD8, 0xDE, 1, 0xF8), (0x100, 0x12E, 2, 0x101),
   (0x139, 0x13D, 2, 0x13A), (0x141, 0x147, 2, 0x142), (0x14A, 0x176, 2, 0x14B),
   (0x179, 0x17D, 2, 0x17A), (0x1A0, 0x1A4, 2, 0x1A1), (0x1CD, 0x1DB, 2, 0x1CE),
   (0x1DE, 0x1EE, 2, 0x1DF), (0x1F8, 0x21E, 2, 0x1F9), (0x222, 0x232, 2, 0x223),
   (0x246, 0x24E, 2, 0x247), (0x388, 0x38A, 1, 0x3AD), (0x391, 0x3A1, 1, 0x3B1),
   (0x3A3, 0x3AB, 1, 0x3C3), (0x3D8, 0x3EE, 2, 0x3D9), (0x3FD, 0x3FF, 1, 0x37B),
   (0x400, 0x40F, 1, 0x450), (0x410, 0x42F, 1, 0x430), (0x460, 0x480, 2, 0x461),
   (0x48A, 0x4BE, 2, 0x48B), (0x4C1, 0x4CD, 2, 0x4C2), (0x4D0, 0x52E, 2, 0x4D1),
   (0x531, 0x556, 1, 0x561), (0x10A0, 0x10C5, 1, 0x2D00), (0x13F8, 0x13FD, 1, 0x13F0),
   (0x1C90, 0x1CBA, 1, 0x10D0), (0x1CBD, 0x1CBF, 1, 0x10FD), (0x1D31, 0x1D39, 2, 0x65),
   (0x1D34, 0x1D3A, 2, 0x68), (0x1D5D, 0x1D5F, 1, 0x3B2), (0x1DA4, 0x1DA6, 1, 0x268),
   (0x1DAE, 0x1DB1, 1, 0x272), (0x1DBC, 0x1DBE, 1, 0x290), (0x1E00, 0x1E94, 2, 0x1E01),
   (0x1EA0, 0x1EFE, 2, 0x1EA1), (0x1F08, 0x1F0F, 1, 0x1F00), (0x1F18, 0x1F1D, 1, 0x1F10),
   (0x1F28, 0x1F2F, 1, 0x1F20), (0x1F38, 0x1F3F, 1, 0x1F30), (0x1F48, 0x1F4D, 1, 0x1F40),
   (0x1F59, 0x1F5F, 2, 0x1F51), (0x1F68, 0x1F6F, 1, 0x1F60), (0x2074, 0x2079, 1, 0x34),
   (0x2080, 0x2089, 1, 0x30), (0x2096, 0x2099, 1, 0x6B), (0x2119, 0x211B, 1, 0x70),
   (0x2135, 0x2138, 1, 0x5D0), (0x2460, 0x2468, 1, 0x31), (0x24B6, 0x24CF, 1, 0x61),
   (0x24D0, 0x24E9, 1, 0x61), (0x2C00, 0x2C2F, 1, 0x2C30), (0x2C67, 0x2C6B, 2, 0x2C68),
   (0x2C80, 0x2CE2, 2, 0x2C81), (0x3137, 0x3139, 1, 0x1103), (0x313A, 0x313F, 1, 0x11B0),
   (0x3141, 0x3143, 1, 0x1106), (0x3145, 0x314E, 1, 0x1109), (0x314F, 0x3163, 1, 0x1161),
   (0x3178, 0x317C, 1, 0x112B), (0x3184, 0x3186, 1, 0x1157), (0x3263, 0x3265, 1, 0x1105),
   (0x3269, 0x326D, 1, 0x110E), (0x32E4, 0x32E9, 1, 0x30CA), (0x32EE, 0x32F2, 1, 0x30DE),
   (0x32F5, 0x32FA, 1, 0x30E8), (0x32FB, 0x32FE, 1, 0x30EF), (0xA640, 0xA66C, 2, 0xA641),
   (0xA680, 0xA69A, 2, 0xA681), (0xA722, 0xA72E, 2, 0xA723), (0xA732, 0xA76E, 2, 0xA733),
   (0xA77E, 0xA786, 2, 0xA77F), (0xA796, 0xA7A8, 2, 0xA797), (0xA7B4, 0xA7C2, 2, 0xA7B5),
   (0xA7CC, 0xA7DA, 2, 0xA7CD), (0xAB70, 0xABBF, 1, 0x13A0), (0xFB24, 0xFB26, 1, 0x5DB),
   (0xFE41, 0xFE44, 1, 0x300C), (0xFF01, 0xFF20, 1, 0x21), (0xFF21, 0xFF3A, 1, 0x61),
   (0xFF3B, 0xFF5E, 1, 0x5B), (0xFF85, 0xFF8A, 1, 0x30CA), (0xFF8F, 0xFF93, 1, 0x30DE),
   (0xFF96, 0xFF9B, 1, 0x30E8), (0xFFA7, 0xFFA9, 1, 0x1103), (0xFFAA, 0xFFAF, 1, 0x11B0),
   (0xFFB1, 0xFFB3, 1, 0x1106), (0xFFB5, 0xFFBE, 1, 0x1109), (0xFFC2, 0xFFC7, 1, 0x1161),
   (0xFFCA, 0xFFCF, 1, 0x1167), (0xFFD2, 0xFFD7, 1, 0x116D), (0xFFDA, 0xFFDC, 1, 0x1173),
   (0xFFE9, 0xFFEC, 1, 0x2190), (0x10400, 0x10427, 1, 0x10428), (0x104B0, 0x104D3, 1, 0x104D8),
   (0x10570, 0x10594, 2, 0x10597), (0x10571, 0x10579, 2, 0x10598), (0x1057D, 0x10589, 2, 0x105A4),
   (0x1058D, 0x10591, 2, 0x105B4), (0x107B6, 0x107B8, 1, 0x1C0), (0x10C80, 0x10CB2, 1, 0x10CC0),
   (0x10D50, 0x10D65, 1, 0x10D70), (0x118A0, 0x118BF, 1, 0x118C0), (0x16E40, 0x16E5F, 1, 0x16E60),
   (0x16EA0, 0x16EB8, 1, 0x16EBB), (0x1CCD6, 0x1CCEF, 1, 0x61), (0x1CCF0, 0x1CCF9, 1, 0x30),
   (0x1D400, 0x1D419, 1, 0x61), (0x1D41A, 0x1D433, 1, 0x61), (0x1D434, 0x1D44D, 1, 0x61),
   (0x1D44E, 0x1D466, 2, 0x61), (0x1D44F, 0x1D453, 2, 0x62), (0x1D457, 0x1D467, 2, 0x6A),
   (0x1D468, 0x1D481, 1, 0x61), (0x1D482, 0x1D49B, 1, 0x61), (0x1D4A9, 0x1D4AC, 1, 0x6E),
   (0x1D4AE, 0x1D4B5, 1, 0x73), (0x1D4B6, 0x1D4B9, 1, 0x61), (0x1D4BB, 0x1D4CF, 2, 0x66),
   (0x1D4BE, 0x1D4C2, 2, 0x69), (0x1D4C6, 0x1D4CE, 2, 0x71), (0x1D4D0, 0x1D4E9, 1, 0x61),
   (0x1D4EA, 0x1D503, 1, 0x61), (0x1D505, 0x1D509, 2, 0x62), (0x1D50D, 0x1D514, 1, 0x6A),
   (0x1D516, 0x1D51C, 1, 0x73), (0x1D51E, 0x1D537, 1, 0x61), (0x1D539, 0x1D53D, 2, 0x62),
   (0x1D53C, 0x1D546, 2, 0x65), (0x1D54A, 0x1D550, 1, 0x73), (0x1D552, 0x1D56B, 1, 0x61),
   (0x1D56C, 0x1D585, 1, 0x61), (0x1D586, 0x1D59F, 1, 0x61), (0x1D5A0, 0x1D5B9, 1, 0x61),
   (0x1D5BA, 0x1D5D3, 1, 0x61), (0x1D5D4, 0x1D5ED, 1, 0x61), (0x1D5EE, 0x1D607, 1, 0x61),
   (0x1D608, 0x1D621, 1, 0x61), (0x1D622, 0x1D63B, 1, 0x61), (0x1D63C, 0x1D655, 1, 0x61),
   (0x1D656, 0x1D66F, 1, 0x61), (0x1D670, 0x1D689, 1, 0x61), (0x1D68A, 0x1D6A3, 1, 0x61),
   (0x1D6A8, 0x1D6B8, 1, 0x3B1), (0x1D6BA, 0x1D6C0, 1, 0x3C3), (0x1D6C2, 0x1D6D2, 1, 0x3B1),
   (0x1D6D4, 0x1D6DA, 1, 0x3C3), (0x1D6E2, 0x1D6F2, 1, 0x3B1), (0x1D6F4, 0x1D6FA, 1, 0x3C3),
   (0x1D6FC, 0x1D70C, 1, 0x3B1), (0x1D70E, 0x1D714, 1, 0x3C3), (0x1D71C, 0x1D72C, 1, 0x3B1),
   (0x1D72E, 0x1D734, 1, 0x3C3), (0x1D736, 0x1D746, 1, 0x3B1), (0x1D748, 0x1D74E, 1, 0x3C3),
   (0x1D756, 0x1D766, 1, 0x3B1), (0x1D768, 0x1D76E, 1, 0x3C3), (0x1D770, 0x1D780, 1, 0x3B1),
   (0x1D782, 0x1D788, 1, 0x3C3), (0x1D790, 0x1D7A0, 1, 0x3B1), (0x1D7A2, 0x1D7A8, 1, 0x3C3),
   (0x1D7AA, 0x1D7BA, 1, 0x3B1), (0x1D7BC, 0x1D7C2, 1, 0x3C3), (0x1D7CE, 0x1D7D7, 1, 0x30),
   (0x1D7D8, 0x1D7E1, 1, 0x30), (0x1D7E2, 0x1D7EB, 1, 0x30), (0x1D7EC, 0x1D7F5, 1, 0x30),
   (0x1D7F6, 0x1D7FF, 1, 0x30), (0x1E030, 0x1E038, 1, 0x430), (0x1E039, 0x1E03B, 1, 0x43A),
   (0x1E03C, 0x1E046, 1, 0x43E), (0x1E051, 0x1E059, 1, 0x430), (0x1E05F, 0x1E064, 1, 0x443),
   (0x1E900, 0x1E921, 1, 0x1E922), (0x1EE0A, 0x1EE0D, 1, 0x643), (0x1EE2A, 0x1EE2D, 1, 0x643),
   (0x1EE8B, 0x1EE8D, 1, 0x644), (0x1EEAB, 0x1EEAD, 1, 0x644), (0x1F130, 0x1F149, 1, 0x61),
   (0x1FBF0, 0x1FBF9, 1, 0x30)]

def respeltLetters : Array (Nat × Array Nat) :=
  #[(0xA0, #[0x20]), (0xAA, #[0x61]), (0xB2, #[0x32, 0x33]), (0xB5, #[0x3BC]),
   (0xB9, #[0x31, 0x6F]), (0x134, #[0x135]), (0x136, #[0x137]), (0x178, #[0xFF]), (0x17F, #[0x73]),
   (0x181, #[0x253, 0x183]), (0x184, #[0x185]), (0x186, #[0x254, 0x188]),
   (0x189, #[0x256, 0x257, 0x18C]), (0x18E, #[0x1DD, 0x259, 0x25B, 0x192]),
   (0x193, #[0x260, 0x263]), (0x196, #[0x269, 0x268, 0x199]), (0x19C, #[0x26F, 0x272]),
   (0x19F, #[0x275]), (0x1A6, #[0x280, 0x1A8]), (0x1A9, #[0x283]), (0x1AC, #[0x1AD]),
   (0x1AE, #[0x288, 0x1B0]), (0x1B1, #[0x28A, 0x28B, 0x1B4]), (0x1B5, #[0x1B6]),
   (0x1B7, #[0x292, 0x1B9]), (0x1BC, #[0x1BD]), (0x1F4, #[0x1F5]), (0x1F6, #[0x195, 0x1BF]),
   (0x220, #[0x19E]), (0x23A, #[0x2C65, 0x23C]), (0x23D, #[0x19A, 0x2C66]), (0x241, #[0x242]),
   (0x243, #[0x180, 0x289, 0x28C]),
   (0x2B0, #[0x68, 0x266, 0x6A, 0x72, 0x279, 0x27B, 0x281, 0x77, 0x79]),
   (0x2E0, #[0x263, 0x6C, 0x73, 0x78, 0x295]), (0x340, #[0x300, 0x301]), (0x343, #[0x313]),
   (0x345, #[0x3B9]), (0x370, #[0x371]), (0x372, #[0x373]), (0x374, #[0x2B9]), (0x376, #[0x377]),
   (0x37E, #[0x3B, 0x3F3]), (0x386, #[0x3AC, 0xB7]), (0x38C, #[0x3CC]), (0x38E, #[0x3CD, 0x3CE]),
   (0x3CF, #[0x3D7, 0x3B2, 0x3B8, 0x3C5, 0x3CD, 0x3CB, 0x3C6, 0x3C0]),
   (0x3F0, #[0x3BA, 0x3C1, 0x3C3]), (0x3F4, #[0x3B8, 0x3B5]), (0x3F7, #[0x3F8]),
   (0x3F9, #[0x3C3, 0x3FB]), (0x4C0, #[0x4CF]), (0xF0C, #[0xF0B]), (0x10C7, #[0x2D27]),
   (0x10CD, #[0x2D2D]), (0x10FC, #[0x10DC]),
   (0x1C80, #[0x432, 0x434, 0x43E, 0x441, 0x442, 0x442, 0x44A, 0x463, 0xA64B, 0x1C8A]),
   (0x1D2C, #[0x61, 0xE6, 0x62]), (0x1D30, #[0x64]), (0x1D32, #[0x1DD]),
   (0x1D3C, #[0x6F, 0x223, 0x70, 0x72, 0x74, 0x75, 0x77, 0x61, 0x250, 0x251, 0x1D02, 0x62, 0x64,
     0x65, 0x259, 0x25B, 0x25C, 0x67]),
   (0x1D4F, #[0x6B, 0x6D, 0x14B, 0x6F, 0x254, 0x1D16, 0x1D17, 0x70, 0x74, 0x75, 0x1D1D, 0x26F, 0x76,
     0x1D25]), (0x1D60, #[0x3C6, 0x3C7, 0x69, 0x72, 0x75, 0x76, 0x3B2, 0x3B3, 0x3C1, 0x3C6, 0x3C7]),
   (0x1D78, #[0x43D]), (0x1D9B, #[0x252, 0x63, 0x255, 0xF0, 0x25C, 0x66, 0x25F, 0x261, 0x265]),
   (0x1DA7, #[0x1D7B, 0x29D, 0x26D, 0x1D85, 0x29F, 0x271, 0x270]),
   (0x1DB2, #[0x278, 0x282, 0x283, 0x1AB, 0x289, 0x28A, 0x1D1C, 0x28B, 0x28C, 0x7A]),
   (0x1DBF, #[0x3B8]), (0x1E9B, #[0x1E61]), (0x1E9E, #[0xDF]), (0x1F71, #[0x3AC]),
   (0x1F73, #[0x3AD]), (0x1F75, #[0x3AE]), (0x1F77, #[0x3AF]), (0x1F79, #[0x3CC]),
   (0x1F7B, #[0x3CD]), (0x1F7D, #[0x3CE]), (0x1FB8, #[0x1FB0, 0x1FB1, 0x1F70, 0x3AC]),
   (0x1FBE, #[0x3B9]), (0x1FC8, #[0x1F72, 0x3AD, 0x1F74, 0x3AE]), (0x1FD3, #[0x390]),
   (0x1FD8, #[0x1FD0, 0x1FD1, 0x1F76, 0x3AF]), (0x1FE3, #[0x3B0]),
   (0x1FE8, #[0x1FE0, 0x1FE1, 0x1F7A, 0x3CD, 0x1FE5]), (0x1FEF, #[0x60]),
   (0x1FF8, #[0x1F78, 0x3CC, 0x1F7C, 0x3CE]),
   (0x2000, #[0x20, 0x20, 0x20, 0x20, 0x20, 0x20, 0x20, 0x20, 0x20, 0x20, 0x20]),
   (0x2011, #[0x2010]), (0x202F, #[0x20]), (0x205F, #[0x20]), (0x2070, #[0x30, 0x69]),
   (0x207A, #[0x2B, 0x2212, 0x3D, 0x28, 0x29, 0x6E]), (0x208A, #[0x2B, 0x2212, 0x3D, 0x28, 0x29]),
   (0x2090, #[0x61, 0x65, 0x6F, 0x78, 0x259, 0x68]), (0x209A, #[0x70, 0x73, 0x74]),
   (0x2102, #[0x63]), (0x2107, #[0x25B]),
   (0x210A, #[0x67, 0x68, 0x68, 0x68, 0x68, 0x127, 0x69, 0x69, 0x6C, 0x6C]), (0x2115, #[0x6E]),
   (0x211C, #[0x72, 0x72]), (0x2124, #[0x7A]), (0x2126, #[0x3C9]), (0x2128, #[0x7A]),
   (0x212A, #[0x6B, 0xE5, 0x62, 0x63]), (0x212F, #[0x65, 0x65, 0x66, 0x214E, 0x6D, 0x6F]),
   (0x2139, #[0x69]), (0x213C, #[0x3C0, 0x3B3, 0x3B3, 0x3C0, 0x2211]),
   (0x2145, #[0x64, 0x64, 0x65, 0x69, 0x6A]), (0x2160, #[0x69]), (0x2164, #[0x76]),
   (0x2169, #[0x78]), (0x216C, #[0x6C, 0x63, 0x64, 0x6D, 0x69]), (0x2174, #[0x76]),
   (0x2179, #[0x78]), (0x217C, #[0x6C, 0x63, 0x64, 0x6D]), (0x2183, #[0x2184]),
   (0x2329, #[0x3008, 0x3009]), (0x24EA, #[0x30]), (0x2C60, #[0x2C61]),
   (0x2C62, #[0x26B, 0x1D7D, 0x27D]), (0x2C6D, #[0x251, 0x271, 0x250, 0x252]), (0x2C72, #[0x2C73]),
   (0x2C75, #[0x2C76]), (0x2C7C, #[0x6A, 0x76, 0x23F, 0x240]), (0x2CEB, #[0x2CEC]),
   (0x2CED, #[0x2CEE]), (0x2CF2, #[0x2CF3]), (0x2D6F, #[0x2D61]), (0x3000, #[0x20]),
   (0x3002, #[0x2E]), (0x3036, #[0x3012]),
   (0x3131, #[0x1100, 0x1101, 0x11AA, 0x1102, 0x11AC, 0x11AD]), (0x3140, #[0x111A]),
   (0x3144, #[0x1121]),
   (0x3165, #[0x1114, 0x1115, 0x11C7, 0x11C8, 0x11CC, 0x11CE, 0x11D3, 0x11D7, 0x11D9, 0x111C,
     0x11DD, 0x11DF, 0x111D, 0x111E, 0x1120, 0x1122, 0x1123, 0x1127, 0x1129]),
   (0x317D, #[0x1132, 0x1136, 0x1140, 0x1147, 0x114C, 0x11F1, 0x11F2]),
   (0x3187, #[0x1184, 0x1185, 0x1188, 0x1191, 0x1192, 0x1194, 0x119E, 0x11A1]),
   (0x3260, #[0x1100, 0x1102, 0x1103]), (0x3266, #[0x1109, 0x110B, 0x110C]),
   (0x326E, #[0xAC00, 0xB098, 0xB2E4, 0xB77C, 0xB9C8, 0xBC14, 0xC0AC, 0xC544, 0xC790, 0xCC28,
     0xCE74, 0xD0C0, 0xD30C, 0xD558]), (0x327E, #[0xC6B0]),
   (0x32D0, #[0x30A2, 0x30A4, 0x30A6, 0x30A8, 0x30AA, 0x30AB, 0x30AD, 0x30AF, 0x30B1, 0x30B3,
     0x30B5, 0x30B7, 0x30B9, 0x30BB, 0x30BD, 0x30BF, 0x30C1, 0x30C4, 0x30C6, 0x30C8]),
   (0x32EA, #[0x30D2, 0x30D5, 0x30D8, 0x30DB]), (0x32F3, #[0x30E4, 0x30E6]),
   (0xA69C, #[0x44A, 0x44C]), (0xA770, #[0xA76F]), (0xA779, #[0xA77A]), (0xA77B, #[0xA77C]),
   (0xA77D, #[0x1D79]), (0xA78B, #[0xA78C]), (0xA78D, #[0x265]), (0xA790, #[0xA791]),
   (0xA792, #[0xA793]), (0xA7AA, #[0x266, 0x25C, 0x261, 0x26C, 0x26A]),
   (0xA7B0, #[0x29E, 0x287, 0x29D, 0xAB53]), (0xA7C4, #[0xA794, 0x282, 0x1D8E, 0xA7C8]),
   (0xA7C9, #[0xA7CA]), (0xA7CB, #[0x264]), (0xA7DC, #[0x19B]),
   (0xA7F1, #[0x73, 0x63, 0x66, 0x71, 0xA7F6]), (0xA7F8, #[0x127, 0x153]),
   (0xAB5C, #[0xA727, 0xAB37, 0x26B, 0xAB52]), (0xAB69, #[0x28D]),
   (0xFB20, #[0x5E2, 0x5D0, 0x5D3, 0x5D4]), (0xFB27, #[0x5E8, 0x5EA, 0x2B]),
   (0xFB50, #[0x671, 0x671, 0x67B, 0x67B, 0x67B, 0x67B, 0x67E, 0x67E, 0x67E, 0x67E, 0x680, 0x680,
     0x680, 0x680, 0x67A, 0x67A, 0x67A, 0x67A, 0x67F, 0x67F, 0x67F, 0x67F, 0x679, 0x679, 0x679,
     0x679, 0x6A4, 0x6A4, 0x6A4, 0x6A4, 0x6A6, 0x6A6, 0x6A6, 0x6A6, 0x684, 0x684, 0x684, 0x684,
     0x683, 0x683, 0x683, 0x683, 0x686, 0x686, 0x686, 0x686, 0x687, 0x687]),
   (0xFB80, #[0x687, 0x687, 0x68D, 0x68D, 0x68C, 0x68C, 0x68E, 0x68E, 0x688, 0x688, 0x698, 0x698,
     0x691, 0x691, 0x6A9, 0x6A9, 0x6A9, 0x6A9, 0x6AF, 0x6AF, 0x6AF, 0x6AF, 0x6B3, 0x6B3, 0x6B3,
     0x6B3, 0x6B1, 0x6B1, 0x6B1, 0x6B1, 0x6BA, 0x6BA, 0x6BB, 0x6BB, 0x6BB, 0x6BB, 0x6C0, 0x6C0,
     0x6C1, 0x6C1, 0x6C1, 0x6C1, 0x6BE, 0x6BE, 0x6BE, 0x6BE, 0x6D2, 0x6D2]),
   (0xFBB0, #[0x6D3, 0x6D3]),
   (0xFBD3, #[0x6AD, 0x6AD, 0x6AD, 0x6AD, 0x6C7, 0x6C7, 0x6C6, 0x6C6, 0x6C8, 0x6C8]),
   (0xFBDE, #[0x6CB, 0x6CB, 0x6C5, 0x6C5, 0x6C9, 0x6C9, 0x6D0, 0x6D0, 0x6D0, 0x6D0, 0x649, 0x649]),
   (0xFBFC, #[0x6CC, 0x6CC, 0x6CC, 0x6CC]), (0xFE10, #[0x2C, 0x3001]),
   (0xFE13, #[0x3A, 0x3B, 0x21, 0x3F, 0x3016, 0x3017]),
   (0xFE31, #[0x2014, 0x2013, 0x5F, 0x5F, 0x28, 0x29, 0x7B, 0x7D, 0x3014, 0x3015, 0x3010, 0x3011,
     0x300A, 0x300B, 0x3008, 0x3009]), (0xFE47, #[0x5B, 0x5D]),
   (0xFE4D, #[0x5F, 0x5F, 0x5F, 0x2C, 0x3001]),
   (0xFE54, #[0x3B, 0x3A, 0x3F, 0x21, 0x2014, 0x28, 0x29, 0x7B, 0x7D, 0x3014, 0x3015, 0x23, 0x26,
     0x2A, 0x2B, 0x2D, 0x3C, 0x3E, 0x3D]), (0xFE68, #[0x5C, 0x24, 0x25, 0x40]),
   (0xFE80, #[0x621, 0x622, 0x622, 0x623, 0x623, 0x624, 0x624, 0x625, 0x625, 0x626, 0x626, 0x626,
     0x626, 0x627, 0x627, 0x628, 0x628, 0x628, 0x628, 0x629, 0x629, 0x62A, 0x62A, 0x62A, 0x62A,
     0x62B, 0x62B, 0x62B, 0x62B, 0x62C, 0x62C, 0x62C, 0x62C, 0x62D, 0x62D, 0x62D, 0x62D, 0x62E,
     0x62E, 0x62E, 0x62E, 0x62F, 0x62F, 0x630, 0x630, 0x631, 0x631, 0x632]),
   (0xFEB0, #[0x632, 0x633, 0x633, 0x633, 0x633, 0x634, 0x634, 0x634, 0x634, 0x635, 0x635, 0x635,
     0x635, 0x636, 0x636, 0x636, 0x636, 0x637, 0x637, 0x637, 0x637, 0x638, 0x638, 0x638, 0x638,
     0x639, 0x639, 0x639, 0x639, 0x63A, 0x63A, 0x63A, 0x63A, 0x641, 0x641, 0x641, 0x641, 0x642,
     0x642, 0x642, 0x642, 0x643, 0x643, 0x643, 0x643, 0x644, 0x644, 0x644]),
   (0xFEE0, #[0x644, 0x645, 0x645, 0x645, 0x645, 0x646, 0x646, 0x646, 0x646, 0x647, 0x647, 0x647,
     0x647, 0x648, 0x648, 0x649, 0x649, 0x64A, 0x64A, 0x64A, 0x64A]),
   (0xFF5F, #[0x2985, 0x2986, 0x2E, 0x300C, 0x300D, 0x3001, 0x30FB, 0x30F2, 0x30A1, 0x30A3, 0x30A5,
     0x30A7, 0x30A9, 0x30E3, 0x30E5, 0x30E7, 0x30C3, 0x30FC, 0x30A2, 0x30A4, 0x30A6, 0x30A8, 0x30AA,
     0x30AB, 0x30AD, 0x30AF, 0x30B1, 0x30B3, 0x30B5, 0x30B7, 0x30B9, 0x30BB, 0x30BD, 0x30BF, 0x30C1,
     0x30C4, 0x30C6, 0x30C8]), (0xFF8B, #[0x30D2, 0x30D5, 0x30D8, 0x30DB]),
   (0xFF94, #[0x30E4, 0x30E6]), (0xFF9C, #[0x30EF, 0x30F3, 0x3099, 0x309A]),
   (0xFFA1, #[0x1100, 0x1101, 0x11AA, 0x1102, 0x11AC, 0x11AD]), (0xFFB0, #[0x111A]),
   (0xFFB4, #[0x1121]), (0xFFE0, #[0xA2, 0xA3, 0xAC]), (0xFFE4, #[0xA6, 0xA5, 0x20A9]),
   (0xFFE8, #[0x2502]), (0xFFED, #[0x25A0, 0x25CB]), (0x10595, #[0x105BC]),
   (0x10781, #[0x2D0, 0x2D1, 0xE6, 0x299, 0x253]),
   (0x10787, #[0x2A3, 0xAB66, 0x2A5, 0x2A4, 0x256, 0x257, 0x1D91, 0x258, 0x25E, 0x2A9, 0x264, 0x262,
     0x260, 0x29B, 0x127, 0x29C, 0x267, 0x284, 0x2AA, 0x2AB, 0x26C, 0x1DF04, 0xA78E, 0x26E, 0x1DF05,
     0x28E, 0x1DF06, 0xF8, 0x276, 0x277, 0x71, 0x27A, 0x1DF08, 0x27D, 0x27E, 0x280, 0x2A8, 0x2A6,
     0xAB67, 0x2A7, 0x288, 0x2C71]), (0x107B2, #[0x28F, 0x2A1, 0x2A2, 0x298]),
   (0x107B9, #[0x1DF0A, 0x1DF1E]), (0x1D49C, #[0x61]), (0x1D49E, #[0x63, 0x64]), (0x1D4A2, #[0x67]),
   (0x1D4A5, #[0x6A, 0x6B]), (0x1D504, #[0x61]), (0x1D508, #[0x65]), (0x1D50A, #[0x67]),
   (0x1D538, #[0x61]), (0x1D541, #[0x6A]), (0x1D543, #[0x6C]), (0x1D6A4, #[0x131, 0x237]),
   (0x1D6B9, #[0x3B8]), (0x1D6C1, #[0x2207]), (0x1D6D3, #[0x3C3]),
   (0x1D6DB, #[0x2202, 0x3B5, 0x3B8, 0x3BA, 0x3C6, 0x3C1, 0x3C0]), (0x1D6F3, #[0x3B8]),
   (0x1D6FB, #[0x2207]), (0x1D70D, #[0x3C3]),
   (0x1D715, #[0x2202, 0x3B5, 0x3B8, 0x3BA, 0x3C6, 0x3C1, 0x3C0]), (0x1D72D, #[0x3B8]),
   (0x1D735, #[0x2207]), (0x1D747, #[0x3C3]),
   (0x1D74F, #[0x2202, 0x3B5, 0x3B8, 0x3BA, 0x3C6, 0x3C1, 0x3C0]), (0x1D767, #[0x3B8]),
   (0x1D76F, #[0x2207]), (0x1D781, #[0x3C3]),
   (0x1D789, #[0x2202, 0x3B5, 0x3B8, 0x3BA, 0x3C6, 0x3C1, 0x3C0]), (0x1D7A1, #[0x3B8]),
   (0x1D7A9, #[0x2207]), (0x1D7BB, #[0x3C3]),
   (0x1D7C3, #[0x2202, 0x3B5, 0x3B8, 0x3BA, 0x3C6, 0x3C1, 0x3C0, 0x3DD, 0x3DD]),
   (0x1E047, #[0x44B, 0x44D, 0x44E, 0xA689, 0x4D9, 0x456, 0x458, 0x4E9, 0x4AF, 0x4CF]),
   (0x1E05A, #[0x43A, 0x43B, 0x43E, 0x43F, 0x441]),
   (0x1E065, #[0x44A, 0x44B, 0x491, 0x456, 0x455, 0x45F, 0x4AB, 0xA651, 0x4B1]),
   (0x1EE00, #[0x627, 0x628, 0x62C, 0x62F]), (0x1EE05, #[0x648, 0x632, 0x62D, 0x637, 0x64A]),
   (0x1EE0E, #[0x633, 0x639, 0x641, 0x635, 0x642, 0x631, 0x634, 0x62A, 0x62B, 0x62E, 0x630, 0x636,
     0x638, 0x63A, 0x66E, 0x6BA, 0x6A1, 0x66F]), (0x1EE21, #[0x628, 0x62C]), (0x1EE24, #[0x647]),
   (0x1EE27, #[0x62D]), (0x1EE29, #[0x64A]), (0x1EE2E, #[0x633, 0x639, 0x641, 0x635, 0x642]),
   (0x1EE34, #[0x634, 0x62A, 0x62B, 0x62E]), (0x1EE39, #[0x636]), (0x1EE3B, #[0x63A]),
   (0x1EE42, #[0x62C]), (0x1EE47, #[0x62D]), (0x1EE49, #[0x64A]), (0x1EE4B, #[0x644]),
   (0x1EE4D, #[0x646, 0x633, 0x639]), (0x1EE51, #[0x635, 0x642]), (0x1EE54, #[0x634]),
   (0x1EE57, #[0x62E]), (0x1EE59, #[0x636]), (0x1EE5B, #[0x63A]), (0x1EE5D, #[0x6BA]),
   (0x1EE5F, #[0x66F]), (0x1EE61, #[0x628, 0x62C]), (0x1EE64, #[0x647]),
   (0x1EE67, #[0x62D, 0x637, 0x64A, 0x643]),
   (0x1EE6C, #[0x645, 0x646, 0x633, 0x639, 0x641, 0x635, 0x642]),
   (0x1EE74, #[0x634, 0x62A, 0x62B, 0x62E]), (0x1EE79, #[0x636, 0x638, 0x63A, 0x66E]),
   (0x1EE7E, #[0x6A1]),
   (0x1EE80, #[0x627, 0x628, 0x62C, 0x62F, 0x647, 0x648, 0x632, 0x62D, 0x637, 0x64A]),
   (0x1EE8E, #[0x633, 0x639, 0x641, 0x635, 0x642, 0x631, 0x634, 0x62A, 0x62B, 0x62E, 0x630, 0x636,
     0x638, 0x63A]), (0x1EEA1, #[0x628, 0x62C, 0x62F]),
   (0x1EEA5, #[0x648, 0x632, 0x62D, 0x637, 0x64A]),
   (0x1EEAE, #[0x633, 0x639, 0x641, 0x635, 0x642, 0x631, 0x634, 0x62A, 0x62B, 0x62E, 0x630, 0x636,
     0x638, 0x63A]), (0x1F12B, #[0x63, 0x72]), (0x1F202, #[0x30B5]), (0x1F213, #[0x30C7])]

end TestImpact.Web.Domain
