/-!
# Tables of character properties

The classes of the characters above U+007F, and how these are written in the other case.
-/

namespace RestFlow.Text

/-!
## The code points above U+007F with the Alphabetic property

Letters, letter numbers and the marks that take part in words. A run `(first, last, step)` stands
for `first`, `first + step`, … up to `last`; the runs are in increasing order and do not overlap.
-/

/-- Runs `(first, last, step)` of the code points with the Alphabetic property. -/
def alphabeticRuns : List (Nat × Nat × Nat) := [
    (0xAA, 0xAA, 1), (0xB5, 0xB5, 1), (0xBA, 0xBA, 1), (0xC0, 0xD6, 1), (0xD8, 0xF6, 1),
    (0xF8, 0x2C1, 1), (0x2C6, 0x2D1, 1), (0x2E0, 0x2E4, 1), (0x2EC, 0x2EE, 2), (0x345, 0x345, 1),
    (0x363, 0x36F, 1), (0x370, 0x374, 1), (0x376, 0x377, 1), (0x37A, 0x37D, 1), (0x37F, 0x37F, 1),
    (0x386, 0x388, 2), (0x389, 0x38A, 1), (0x38C, 0x38E, 2), (0x38F, 0x3A1, 1), (0x3A3, 0x3F5, 1),
    (0x3F7, 0x481, 1), (0x48A, 0x52F, 1), (0x531, 0x556, 1), (0x559, 0x559, 1), (0x560, 0x588, 1),
    (0x5B0, 0x5BD, 1), (0x5BF, 0x5C1, 2), (0x5C2, 0x5C4, 2), (0x5C5, 0x5C7, 2), (0x5D0, 0x5EA, 1),
    (0x5EF, 0x5F2, 1), (0x610, 0x61A, 1), (0x620, 0x657, 1), (0x659, 0x65F, 1), (0x66E, 0x6D3, 1),
    (0x6D5, 0x6DC, 1), (0x6E1, 0x6E8, 1), (0x6ED, 0x6EF, 1), (0x6FA, 0x6FC, 1), (0x6FF, 0x6FF, 1),
    (0x710, 0x73F, 1), (0x74D, 0x7B1, 1), (0x7CA, 0x7EA, 1), (0x7F4, 0x7F5, 1), (0x7FA, 0x7FA, 1),
    (0x800, 0x817, 1), (0x81A, 0x82C, 1), (0x840, 0x858, 1), (0x860, 0x86A, 1), (0x870, 0x887, 1),
    (0x889, 0x88E, 1), (0x897, 0x897, 1), (0x8A0, 0x8C9, 1), (0x8D4, 0x8DF, 1), (0x8E3, 0x8E9, 1),
    (0x8F0, 0x93B, 1), (0x93D, 0x94C, 1), (0x94E, 0x950, 1), (0x955, 0x963, 1), (0x971, 0x983, 1),
    (0x985, 0x98C, 1), (0x98F, 0x990, 1), (0x993, 0x9A8, 1), (0x9AA, 0x9B0, 1), (0x9B2, 0x9B2, 1),
    (0x9B6, 0x9B9, 1), (0x9BD, 0x9C4, 1), (0x9C7, 0x9C8, 1), (0x9CB, 0x9CC, 1), (0x9CE, 0x9CE, 1),
    (0x9D7, 0x9D7, 1), (0x9DC, 0x9DD, 1), (0x9DF, 0x9E3, 1), (0x9F0, 0x9F1, 1), (0x9FC, 0x9FC, 1),
    (0xA01, 0xA03, 1), (0xA05, 0xA0A, 1), (0xA0F, 0xA10, 1), (0xA13, 0xA28, 1), (0xA2A, 0xA30, 1),
    (0xA32, 0xA33, 1), (0xA35, 0xA36, 1), (0xA38, 0xA39, 1), (0xA3E, 0xA42, 1), (0xA47, 0xA48, 1),
    (0xA4B, 0xA4C, 1), (0xA51, 0xA51, 1), (0xA59, 0xA5C, 1), (0xA5E, 0xA5E, 1), (0xA70, 0xA75, 1),
    (0xA81, 0xA83, 1), (0xA85, 0xA8D, 1), (0xA8F, 0xA91, 1), (0xA93, 0xAA8, 1), (0xAAA, 0xAB0, 1),
    (0xAB2, 0xAB3, 1), (0xAB5, 0xAB9, 1), (0xABD, 0xAC5, 1), (0xAC7, 0xAC9, 1), (0xACB, 0xACC, 1),
    (0xAD0, 0xAD0, 1), (0xAE0, 0xAE3, 1), (0xAF9, 0xAFC, 1), (0xB01, 0xB03, 1), (0xB05, 0xB0C, 1),
    (0xB0F, 0xB10, 1), (0xB13, 0xB28, 1), (0xB2A, 0xB30, 1), (0xB32, 0xB33, 1), (0xB35, 0xB39, 1),
    (0xB3D, 0xB44, 1), (0xB47, 0xB48, 1), (0xB4B, 0xB4C, 1), (0xB56, 0xB57, 1), (0xB5C, 0xB5D, 1),
    (0xB5F, 0xB63, 1), (0xB71, 0xB71, 1), (0xB82, 0xB83, 1), (0xB85, 0xB8A, 1), (0xB8E, 0xB90, 1),
    (0xB92, 0xB95, 1), (0xB99, 0xB9A, 1), (0xB9C, 0xB9E, 2), (0xB9F, 0xB9F, 1), (0xBA3, 0xBA4, 1),
    (0xBA8, 0xBAA, 1), (0xBAE, 0xBB9, 1), (0xBBE, 0xBC2, 1), (0xBC6, 0xBC8, 1), (0xBCA, 0xBCC, 1),
    (0xBD0, 0xBD0, 1), (0xBD7, 0xBD7, 1), (0xC00, 0xC0C, 1), (0xC0E, 0xC10, 1), (0xC12, 0xC28, 1),
    (0xC2A, 0xC39, 1), (0xC3D, 0xC44, 1), (0xC46, 0xC48, 1), (0xC4A, 0xC4C, 1), (0xC55, 0xC56, 1),
    (0xC58, 0xC5A, 1), (0xC5D, 0xC5D, 1), (0xC60, 0xC63, 1), (0xC80, 0xC83, 1), (0xC85, 0xC8C, 1),
    (0xC8E, 0xC90, 1), (0xC92, 0xCA8, 1), (0xCAA, 0xCB3, 1), (0xCB5, 0xCB9, 1), (0xCBD, 0xCC4, 1),
    (0xCC6, 0xCC8, 1), (0xCCA, 0xCCC, 1), (0xCD5, 0xCD6, 1), (0xCDD, 0xCDE, 1), (0xCE0, 0xCE3, 1),
    (0xCF1, 0xCF3, 1), (0xD00, 0xD0C, 1), (0xD0E, 0xD10, 1), (0xD12, 0xD3A, 1), (0xD3D, 0xD44, 1),
    (0xD46, 0xD48, 1), (0xD4A, 0xD4C, 1), (0xD4E, 0xD4E, 1), (0xD54, 0xD57, 1), (0xD5F, 0xD63, 1),
    (0xD7A, 0xD7F, 1), (0xD81, 0xD83, 1), (0xD85, 0xD96, 1), (0xD9A, 0xDB1, 1), (0xDB3, 0xDBB, 1),
    (0xDBD, 0xDBD, 1), (0xDC0, 0xDC6, 1), (0xDCF, 0xDD4, 1), (0xDD6, 0xDD8, 2), (0xDD9, 0xDDF, 1),
    (0xDF2, 0xDF3, 1), (0xE01, 0xE3A, 1), (0xE40, 0xE46, 1), (0xE4D, 0xE4D, 1), (0xE81, 0xE82, 1),
    (0xE84, 0xE86, 2), (0xE87, 0xE8A, 1), (0xE8C, 0xEA3, 1), (0xEA5, 0xEA7, 2), (0xEA8, 0xEB9, 1),
    (0xEBB, 0xEBD, 1), (0xEC0, 0xEC4, 1), (0xEC6, 0xEC6, 1), (0xECD, 0xECD, 1), (0xEDC, 0xEDF, 1),
    (0xF00, 0xF00, 1), (0xF40, 0xF47, 1), (0xF49, 0xF6C, 1), (0xF71, 0xF83, 1), (0xF88, 0xF97, 1),
    (0xF99, 0xFBC, 1), (0x1000, 0x1036, 1), (0x1038, 0x1038, 1), (0x103B, 0x103F, 1),
    (0x1050, 0x108F, 1), (0x109A, 0x109D, 1), (0x10A0, 0x10C5, 1), (0x10C7, 0x10C7, 1),
    (0x10CD, 0x10CD, 1), (0x10D0, 0x10FA, 1), (0x10FC, 0x1248, 1), (0x124A, 0x124D, 1),
    (0x1250, 0x1256, 1), (0x1258, 0x125A, 2), (0x125B, 0x125D, 1), (0x1260, 0x1288, 1),
    (0x128A, 0x128D, 1), (0x1290, 0x12B0, 1), (0x12B2, 0x12B5, 1), (0x12B8, 0x12BE, 1),
    (0x12C0, 0x12C2, 2), (0x12C3, 0x12C5, 1), (0x12C8, 0x12D6, 1), (0x12D8, 0x1310, 1),
    (0x1312, 0x1315, 1), (0x1318, 0x135A, 1), (0x1380, 0x138F, 1), (0x13A0, 0x13F5, 1),
    (0x13F8, 0x13FD, 1), (0x1401, 0x166C, 1), (0x166F, 0x167F, 1), (0x1681, 0x169A, 1),
    (0x16A0, 0x16EA, 1), (0x16EE, 0x16F8, 1), (0x1700, 0x1713, 1), (0x171F, 0x1733, 1),
    (0x1740, 0x1753, 1), (0x1760, 0x176C, 1), (0x176E, 0x1770, 1), (0x1772, 0x1773, 1),
    (0x1780, 0x17B3, 1), (0x17B6, 0x17C8, 1), (0x17D7, 0x17D7, 1), (0x17DC, 0x17DC, 1),
    (0x1820, 0x1878, 1), (0x1880, 0x18AA, 1), (0x18B0, 0x18F5, 1), (0x1900, 0x191E, 1),
    (0x1920, 0x192B, 1), (0x1930, 0x1938, 1), (0x1950, 0x196D, 1), (0x1970, 0x1974, 1),
    (0x1980, 0x19AB, 1), (0x19B0, 0x19C9, 1), (0x1A00, 0x1A1B, 1), (0x1A20, 0x1A5E, 1),
    (0x1A61, 0x1A74, 1), (0x1AA7, 0x1AA7, 1), (0x1ABF, 0x1AC0, 1), (0x1ACC, 0x1ACE, 1),
    (0x1B00, 0x1B33, 1), (0x1B35, 0x1B43, 1), (0x1B45, 0x1B4C, 1), (0x1B80, 0x1BA9, 1),
    (0x1BAC, 0x1BAF, 1), (0x1BBA, 0x1BE5, 1), (0x1BE7, 0x1BF1, 1), (0x1C00, 0x1C36, 1),
    (0x1C4D, 0x1C4F, 1), (0x1C5A, 0x1C7D, 1), (0x1C80, 0x1C8A, 1), (0x1C90, 0x1CBA, 1),
    (0x1CBD, 0x1CBF, 1), (0x1CE9, 0x1CEC, 1), (0x1CEE, 0x1CF3, 1), (0x1CF5, 0x1CF6, 1),
    (0x1CFA, 0x1CFA, 1), (0x1D00, 0x1DBF, 1), (0x1DD3, 0x1DF4, 1), (0x1E00, 0x1F15, 1),
    (0x1F18, 0x1F1D, 1), (0x1F20, 0x1F45, 1), (0x1F48, 0x1F4D, 1), (0x1F50, 0x1F57, 1),
    (0x1F59, 0x1F5F, 2), (0x1F60, 0x1F7D, 1), (0x1F80, 0x1FB4, 1), (0x1FB6, 0x1FBC, 1),
    (0x1FBE, 0x1FBE, 1), (0x1FC2, 0x1FC4, 1), (0x1FC6, 0x1FCC, 1), (0x1FD0, 0x1FD3, 1),
    (0x1FD6, 0x1FDB, 1), (0x1FE0, 0x1FEC, 1), (0x1FF2, 0x1FF4, 1), (0x1FF6, 0x1FFC, 1),
    (0x2071, 0x2071, 1), (0x207F, 0x207F, 1), (0x2090, 0x209C, 1), (0x2102, 0x2102, 1),
    (0x2107, 0x2107, 1), (0x210A, 0x2113, 1), (0x2115, 0x2115, 1), (0x2119, 0x211D, 1),
    (0x2124, 0x212A, 2), (0x212B, 0x212D, 1), (0x212F, 0x2139, 1), (0x213C, 0x213F, 1),
    (0x2145, 0x2149, 1), (0x214E, 0x214E, 1), (0x2160, 0x2188, 1), (0x24B6, 0x24E9, 1),
    (0x2C00, 0x2CE4, 1), (0x2CEB, 0x2CEE, 1), (0x2CF2, 0x2CF3, 1), (0x2D00, 0x2D25, 1),
    (0x2D27, 0x2D27, 1), (0x2D2D, 0x2D2D, 1), (0x2D30, 0x2D67, 1), (0x2D6F, 0x2D6F, 1),
    (0x2D80, 0x2D96, 1), (0x2DA0, 0x2DA6, 1), (0x2DA8, 0x2DAE, 1), (0x2DB0, 0x2DB6, 1),
    (0x2DB8, 0x2DBE, 1), (0x2DC0, 0x2DC6, 1), (0x2DC8, 0x2DCE, 1), (0x2DD0, 0x2DD6, 1),
    (0x2DD8, 0x2DDE, 1), (0x2DE0, 0x2DFF, 1), (0x2E2F, 0x2E2F, 1), (0x3005, 0x3007, 1),
    (0x3021, 0x3029, 1), (0x3031, 0x3035, 1), (0x3038, 0x303C, 1), (0x3041, 0x3096, 1),
    (0x309D, 0x309F, 1), (0x30A1, 0x30FA, 1), (0x30FC, 0x30FF, 1), (0x3105, 0x312F, 1),
    (0x3131, 0x318E, 1), (0x31A0, 0x31BF, 1), (0x31F0, 0x31FF, 1), (0x3400, 0x4DBF, 1),
    (0x4E00, 0xA48C, 1), (0xA4D0, 0xA4FD, 1), (0xA500, 0xA60C, 1), (0xA610, 0xA61F, 1),
    (0xA62A, 0xA62B, 1), (0xA640, 0xA66E, 1), (0xA674, 0xA67B, 1), (0xA67F, 0xA6EF, 1),
    (0xA717, 0xA71F, 1), (0xA722, 0xA788, 1), (0xA78B, 0xA7CD, 1), (0xA7D0, 0xA7D1, 1),
    (0xA7D3, 0xA7D5, 2), (0xA7D6, 0xA7DC, 1), (0xA7F2, 0xA805, 1), (0xA807, 0xA827, 1),
    (0xA840, 0xA873, 1), (0xA880, 0xA8C3, 1), (0xA8C5, 0xA8C5, 1), (0xA8F2, 0xA8F7, 1),
    (0xA8FB, 0xA8FD, 2), (0xA8FE, 0xA8FF, 1), (0xA90A, 0xA92A, 1), (0xA930, 0xA952, 1),
    (0xA960, 0xA97C, 1), (0xA980, 0xA9B2, 1), (0xA9B4, 0xA9BF, 1), (0xA9CF, 0xA9CF, 1),
    (0xA9E0, 0xA9EF, 1), (0xA9FA, 0xA9FE, 1), (0xAA00, 0xAA36, 1), (0xAA40, 0xAA4D, 1),
    (0xAA60, 0xAA76, 1), (0xAA7A, 0xAABE, 1), (0xAAC0, 0xAAC2, 2), (0xAADB, 0xAADD, 1),
    (0xAAE0, 0xAAEF, 1), (0xAAF2, 0xAAF5, 1), (0xAB01, 0xAB06, 1), (0xAB09, 0xAB0E, 1),
    (0xAB11, 0xAB16, 1), (0xAB20, 0xAB26, 1), (0xAB28, 0xAB2E, 1), (0xAB30, 0xAB5A, 1),
    (0xAB5C, 0xAB69, 1), (0xAB70, 0xABEA, 1), (0xAC00, 0xD7A3, 1), (0xD7B0, 0xD7C6, 1),
    (0xD7CB, 0xD7FB, 1), (0xF900, 0xFA6D, 1), (0xFA70, 0xFAD9, 1), (0xFB00, 0xFB06, 1),
    (0xFB13, 0xFB17, 1), (0xFB1D, 0xFB28, 1), (0xFB2A, 0xFB36, 1), (0xFB38, 0xFB3C, 1),
    (0xFB3E, 0xFB40, 2), (0xFB41, 0xFB43, 2), (0xFB44, 0xFB46, 2), (0xFB47, 0xFBB1, 1),
    (0xFBD3, 0xFD3D, 1), (0xFD50, 0xFD8F, 1), (0xFD92, 0xFDC7, 1), (0xFDF0, 0xFDFB, 1),
    (0xFE70, 0xFE74, 1), (0xFE76, 0xFEFC, 1), (0xFF21, 0xFF3A, 1), (0xFF41, 0xFF5A, 1),
    (0xFF66, 0xFFBE, 1), (0xFFC2, 0xFFC7, 1), (0xFFCA, 0xFFCF, 1), (0xFFD2, 0xFFD7, 1),
    (0xFFDA, 0xFFDC, 1), (0x10000, 0x1000B, 1), (0x1000D, 0x10026, 1), (0x10028, 0x1003A, 1),
    (0x1003C, 0x1003D, 1), (0x1003F, 0x1004D, 1), (0x10050, 0x1005D, 1), (0x10080, 0x100FA, 1),
    (0x10140, 0x10174, 1), (0x10280, 0x1029C, 1), (0x102A0, 0x102D0, 1), (0x10300, 0x1031F, 1),
    (0x1032D, 0x1034A, 1), (0x10350, 0x1037A, 1), (0x10380, 0x1039D, 1), (0x103A0, 0x103C3, 1),
    (0x103C8, 0x103CF, 1), (0x103D1, 0x103D5, 1), (0x10400, 0x1049D, 1), (0x104B0, 0x104D3, 1),
    (0x104D8, 0x104FB, 1), (0x10500, 0x10527, 1), (0x10530, 0x10563, 1), (0x10570, 0x1057A, 1),
    (0x1057C, 0x1058A, 1), (0x1058C, 0x10592, 1), (0x10594, 0x10595, 1), (0x10597, 0x105A1, 1),
    (0x105A3, 0x105B1, 1), (0x105B3, 0x105B9, 1), (0x105BB, 0x105BC, 1), (0x105C0, 0x105F3, 1),
    (0x10600, 0x10736, 1), (0x10740, 0x10755, 1), (0x10760, 0x10767, 1), (0x10780, 0x10785, 1),
    (0x10787, 0x107B0, 1), (0x107B2, 0x107BA, 1), (0x10800, 0x10805, 1), (0x10808, 0x1080A, 2),
    (0x1080B, 0x10835, 1), (0x10837, 0x10838, 1), (0x1083C, 0x1083C, 1), (0x1083F, 0x10855, 1),
    (0x10860, 0x10876, 1), (0x10880, 0x1089E, 1), (0x108E0, 0x108F2, 1), (0x108F4, 0x108F5, 1),
    (0x10900, 0x10915, 1), (0x10920, 0x10939, 1), (0x10980, 0x109B7, 1), (0x109BE, 0x109BF, 1),
    (0x10A00, 0x10A03, 1), (0x10A05, 0x10A06, 1), (0x10A0C, 0x10A13, 1), (0x10A15, 0x10A17, 1),
    (0x10A19, 0x10A35, 1), (0x10A60, 0x10A7C, 1), (0x10A80, 0x10A9C, 1), (0x10AC0, 0x10AC7, 1),
    (0x10AC9, 0x10AE4, 1), (0x10B00, 0x10B35, 1), (0x10B40, 0x10B55, 1), (0x10B60, 0x10B72, 1),
    (0x10B80, 0x10B91, 1), (0x10C00, 0x10C48, 1), (0x10C80, 0x10CB2, 1), (0x10CC0, 0x10CF2, 1),
    (0x10D00, 0x10D27, 1), (0x10D4A, 0x10D65, 1), (0x10D69, 0x10D69, 1), (0x10D6F, 0x10D85, 1),
    (0x10E80, 0x10EA9, 1), (0x10EAB, 0x10EAC, 1), (0x10EB0, 0x10EB1, 1), (0x10EC2, 0x10EC4, 1),
    (0x10EFC, 0x10EFC, 1), (0x10F00, 0x10F1C, 1), (0x10F27, 0x10F27, 1), (0x10F30, 0x10F45, 1),
    (0x10F70, 0x10F81, 1), (0x10FB0, 0x10FC4, 1), (0x10FE0, 0x10FF6, 1), (0x11000, 0x11045, 1),
    (0x11071, 0x11075, 1), (0x11080, 0x110B8, 1), (0x110C2, 0x110C2, 1), (0x110D0, 0x110E8, 1),
    (0x11100, 0x11132, 1), (0x11144, 0x11147, 1), (0x11150, 0x11172, 1), (0x11176, 0x11176, 1),
    (0x11180, 0x111BF, 1), (0x111C1, 0x111C4, 1), (0x111CE, 0x111CF, 1), (0x111DA, 0x111DC, 2),
    (0x11200, 0x11211, 1), (0x11213, 0x11234, 1), (0x11237, 0x11237, 1), (0x1123E, 0x11241, 1),
    (0x11280, 0x11286, 1), (0x11288, 0x1128A, 2), (0x1128B, 0x1128D, 1), (0x1128F, 0x1129D, 1),
    (0x1129F, 0x112A8, 1), (0x112B0, 0x112E8, 1), (0x11300, 0x11303, 1), (0x11305, 0x1130C, 1),
    (0x1130F, 0x11310, 1), (0x11313, 0x11328, 1), (0x1132A, 0x11330, 1), (0x11332, 0x11333, 1),
    (0x11335, 0x11339, 1), (0x1133D, 0x11344, 1), (0x11347, 0x11348, 1), (0x1134B, 0x1134C, 1),
    (0x11350, 0x11350, 1), (0x11357, 0x11357, 1), (0x1135D, 0x11363, 1), (0x11380, 0x11389, 1),
    (0x1138B, 0x1138B, 1), (0x1138E, 0x11390, 2), (0x11391, 0x113B5, 1), (0x113B7, 0x113C0, 1),
    (0x113C2, 0x113C2, 1), (0x113C5, 0x113C7, 2), (0x113C8, 0x113CA, 1), (0x113CC, 0x113CD, 1),
    (0x113D1, 0x113D3, 2), (0x11400, 0x11441, 1), (0x11443, 0x11445, 1), (0x11447, 0x1144A, 1),
    (0x1145F, 0x11461, 1), (0x11480, 0x114C1, 1), (0x114C4, 0x114C5, 1), (0x114C7, 0x114C7, 1),
    (0x11580, 0x115B5, 1), (0x115B8, 0x115BE, 1), (0x115D8, 0x115DD, 1), (0x11600, 0x1163E, 1),
    (0x11640, 0x11640, 1), (0x11644, 0x11644, 1), (0x11680, 0x116B5, 1), (0x116B8, 0x116B8, 1),
    (0x11700, 0x1171A, 1), (0x1171D, 0x1172A, 1), (0x11740, 0x11746, 1), (0x11800, 0x11838, 1),
    (0x118A0, 0x118DF, 1), (0x118FF, 0x11906, 1), (0x11909, 0x11909, 1), (0x1190C, 0x11913, 1),
    (0x11915, 0x11916, 1), (0x11918, 0x11935, 1), (0x11937, 0x11938, 1), (0x1193B, 0x1193C, 1),
    (0x1193F, 0x11942, 1), (0x119A0, 0x119A7, 1), (0x119AA, 0x119D7, 1), (0x119DA, 0x119DF, 1),
    (0x119E1, 0x119E3, 2), (0x119E4, 0x119E4, 1), (0x11A00, 0x11A32, 1), (0x11A35, 0x11A3E, 1),
    (0x11A50, 0x11A97, 1), (0x11A9D, 0x11A9D, 1), (0x11AB0, 0x11AF8, 1), (0x11BC0, 0x11BE0, 1),
    (0x11C00, 0x11C08, 1), (0x11C0A, 0x11C36, 1), (0x11C38, 0x11C3E, 1), (0x11C40, 0x11C40, 1),
    (0x11C72, 0x11C8F, 1), (0x11C92, 0x11CA7, 1), (0x11CA9, 0x11CB6, 1), (0x11D00, 0x11D06, 1),
    (0x11D08, 0x11D09, 1), (0x11D0B, 0x11D36, 1), (0x11D3A, 0x11D3C, 2), (0x11D3D, 0x11D3F, 2),
    (0x11D40, 0x11D41, 1), (0x11D43, 0x11D43, 1), (0x11D46, 0x11D47, 1), (0x11D60, 0x11D65, 1),
    (0x11D67, 0x11D68, 1), (0x11D6A, 0x11D8E, 1), (0x11D90, 0x11D91, 1), (0x11D93, 0x11D96, 1),
    (0x11D98, 0x11D98, 1), (0x11EE0, 0x11EF6, 1), (0x11F00, 0x11F10, 1), (0x11F12, 0x11F3A, 1),
    (0x11F3E, 0x11F40, 1), (0x11FB0, 0x11FB0, 1), (0x12000, 0x12399, 1), (0x12400, 0x1246E, 1),
    (0x12480, 0x12543, 1), (0x12F90, 0x12FF0, 1), (0x13000, 0x1342F, 1), (0x13441, 0x13446, 1),
    (0x13460, 0x143FA, 1), (0x14400, 0x14646, 1), (0x16100, 0x1612E, 1), (0x16800, 0x16A38, 1),
    (0x16A40, 0x16A5E, 1), (0x16A70, 0x16ABE, 1), (0x16AD0, 0x16AED, 1), (0x16B00, 0x16B2F, 1),
    (0x16B40, 0x16B43, 1), (0x16B63, 0x16B77, 1), (0x16B7D, 0x16B8F, 1), (0x16D40, 0x16D6C, 1),
    (0x16E40, 0x16E7F, 1), (0x16F00, 0x16F4A, 1), (0x16F4F, 0x16F87, 1), (0x16F8F, 0x16F9F, 1),
    (0x16FE0, 0x16FE1, 1), (0x16FE3, 0x16FE3, 1), (0x16FF0, 0x16FF1, 1), (0x17000, 0x187F7, 1),
    (0x18800, 0x18CD5, 1), (0x18CFF, 0x18D08, 1), (0x1AFF0, 0x1AFF3, 1), (0x1AFF5, 0x1AFFB, 1),
    (0x1AFFD, 0x1AFFE, 1), (0x1B000, 0x1B122, 1), (0x1B132, 0x1B132, 1), (0x1B150, 0x1B152, 1),
    (0x1B155, 0x1B155, 1), (0x1B164, 0x1B167, 1), (0x1B170, 0x1B2FB, 1), (0x1BC00, 0x1BC6A, 1),
    (0x1BC70, 0x1BC7C, 1), (0x1BC80, 0x1BC88, 1), (0x1BC90, 0x1BC99, 1), (0x1BC9E, 0x1BC9E, 1),
    (0x1D400, 0x1D454, 1), (0x1D456, 0x1D49C, 1), (0x1D49E, 0x1D49F, 1), (0x1D4A2, 0x1D4A2, 1),
    (0x1D4A5, 0x1D4A6, 1), (0x1D4A9, 0x1D4AC, 1), (0x1D4AE, 0x1D4B9, 1), (0x1D4BB, 0x1D4BD, 2),
    (0x1D4BE, 0x1D4C3, 1), (0x1D4C5, 0x1D505, 1), (0x1D507, 0x1D50A, 1), (0x1D50D, 0x1D514, 1),
    (0x1D516, 0x1D51C, 1), (0x1D51E, 0x1D539, 1), (0x1D53B, 0x1D53E, 1), (0x1D540, 0x1D544, 1),
    (0x1D546, 0x1D546, 1), (0x1D54A, 0x1D550, 1), (0x1D552, 0x1D6A5, 1), (0x1D6A8, 0x1D6C0, 1),
    (0x1D6C2, 0x1D6DA, 1), (0x1D6DC, 0x1D6FA, 1), (0x1D6FC, 0x1D714, 1), (0x1D716, 0x1D734, 1),
    (0x1D736, 0x1D74E, 1), (0x1D750, 0x1D76E, 1), (0x1D770, 0x1D788, 1), (0x1D78A, 0x1D7A8, 1),
    (0x1D7AA, 0x1D7C2, 1), (0x1D7C4, 0x1D7CB, 1), (0x1DF00, 0x1DF1E, 1), (0x1DF25, 0x1DF2A, 1),
    (0x1E000, 0x1E006, 1), (0x1E008, 0x1E018, 1), (0x1E01B, 0x1E021, 1), (0x1E023, 0x1E024, 1),
    (0x1E026, 0x1E02A, 1), (0x1E030, 0x1E06D, 1), (0x1E08F, 0x1E08F, 1), (0x1E100, 0x1E12C, 1),
    (0x1E137, 0x1E13D, 1), (0x1E14E, 0x1E14E, 1), (0x1E290, 0x1E2AD, 1), (0x1E2C0, 0x1E2EB, 1),
    (0x1E4D0, 0x1E4EB, 1), (0x1E5D0, 0x1E5ED, 1), (0x1E5F0, 0x1E5F0, 1), (0x1E7E0, 0x1E7E6, 1),
    (0x1E7E8, 0x1E7EB, 1), (0x1E7ED, 0x1E7EE, 1), (0x1E7F0, 0x1E7FE, 1), (0x1E800, 0x1E8C4, 1),
    (0x1E900, 0x1E943, 1), (0x1E947, 0x1E947, 1), (0x1E94B, 0x1E94B, 1), (0x1EE00, 0x1EE03, 1),
    (0x1EE05, 0x1EE1F, 1), (0x1EE21, 0x1EE22, 1), (0x1EE24, 0x1EE24, 1), (0x1EE27, 0x1EE29, 2),
    (0x1EE2A, 0x1EE32, 1), (0x1EE34, 0x1EE37, 1), (0x1EE39, 0x1EE3B, 2), (0x1EE42, 0x1EE42, 1),
    (0x1EE47, 0x1EE4D, 2), (0x1EE4E, 0x1EE4F, 1), (0x1EE51, 0x1EE52, 1), (0x1EE54, 0x1EE54, 1),
    (0x1EE57, 0x1EE61, 2), (0x1EE62, 0x1EE64, 2), (0x1EE67, 0x1EE6A, 1), (0x1EE6C, 0x1EE72, 1),
    (0x1EE74, 0x1EE77, 1), (0x1EE79, 0x1EE7C, 1), (0x1EE7E, 0x1EE80, 2), (0x1EE81, 0x1EE89, 1),
    (0x1EE8B, 0x1EE9B, 1), (0x1EEA1, 0x1EEA3, 1), (0x1EEA5, 0x1EEA9, 1), (0x1EEAB, 0x1EEBB, 1),
    (0x1F130, 0x1F149, 1), (0x1F150, 0x1F169, 1), (0x1F170, 0x1F189, 1), (0x20000, 0x2A6DF, 1),
    (0x2A700, 0x2B739, 1), (0x2B740, 0x2B81D, 1), (0x2B820, 0x2CEA1, 1), (0x2CEB0, 0x2EBE0, 1),
    (0x2EBF0, 0x2EE5D, 1), (0x2F800, 0x2FA1D, 1), (0x30000, 0x3134A, 1), (0x31350, 0x323AF, 1)]

/-!
## The code points above U+007F with the Case_Ignorable property

Characters that casing looks through when it asks for the neighbouring letter. A run `(first,
last, step)` stands for `first`, `first + step`, … up to `last`; the runs are in increasing order
and do not overlap.
-/

/-- Runs `(first, last, step)` of the code points with the Case_Ignorable property. -/
def caseIgnorableRuns : List (Nat × Nat × Nat) := [
    (0xA8, 0xA8, 1), (0xAD, 0xAF, 2), (0xB4, 0xB4, 1), (0xB7, 0xB8, 1), (0x2B0, 0x36F, 1),
    (0x374, 0x375, 1), (0x37A, 0x37A, 1), (0x384, 0x385, 1), (0x387, 0x387, 1), (0x483, 0x489, 1),
    (0x559, 0x559, 1), (0x55F, 0x55F, 1), (0x591, 0x5BD, 1), (0x5BF, 0x5C1, 2), (0x5C2, 0x5C4, 2),
    (0x5C5, 0x5C7, 2), (0x5F4, 0x5F4, 1), (0x600, 0x605, 1), (0x610, 0x61A, 1), (0x61C, 0x61C, 1),
    (0x640, 0x640, 1), (0x64B, 0x65F, 1), (0x670, 0x670, 1), (0x6D6, 0x6DD, 1), (0x6DF, 0x6E8, 1),
    (0x6EA, 0x6ED, 1), (0x70F, 0x711, 2), (0x730, 0x74A, 1), (0x7A6, 0x7B0, 1), (0x7EB, 0x7F5, 1),
    (0x7FA, 0x7FA, 1), (0x7FD, 0x7FD, 1), (0x816, 0x82D, 1), (0x859, 0x85B, 1), (0x888, 0x888, 1),
    (0x890, 0x891, 1), (0x897, 0x89F, 1), (0x8C9, 0x902, 1), (0x93A, 0x93C, 2), (0x941, 0x948, 1),
    (0x94D, 0x94D, 1), (0x951, 0x957, 1), (0x962, 0x963, 1), (0x971, 0x971, 1), (0x981, 0x981, 1),
    (0x9BC, 0x9BC, 1), (0x9C1, 0x9C4, 1), (0x9CD, 0x9CD, 1), (0x9E2, 0x9E3, 1), (0x9FE, 0x9FE, 1),
    (0xA01, 0xA02, 1), (0xA3C, 0xA3C, 1), (0xA41, 0xA42, 1), (0xA47, 0xA48, 1), (0xA4B, 0xA4D, 1),
    (0xA51, 0xA51, 1), (0xA70, 0xA71, 1), (0xA75, 0xA75, 1), (0xA81, 0xA82, 1), (0xABC, 0xABC, 1),
    (0xAC1, 0xAC5, 1), (0xAC7, 0xAC8, 1), (0xACD, 0xACD, 1), (0xAE2, 0xAE3, 1), (0xAFA, 0xAFF, 1),
    (0xB01, 0xB01, 1), (0xB3C, 0xB3C, 1), (0xB3F, 0xB41, 2), (0xB42, 0xB44, 1), (0xB4D, 0xB4D, 1),
    (0xB55, 0xB56, 1), (0xB62, 0xB63, 1), (0xB82, 0xB82, 1), (0xBC0, 0xBC0, 1), (0xBCD, 0xBCD, 1),
    (0xC00, 0xC00, 1), (0xC04, 0xC04, 1), (0xC3C, 0xC3E, 2), (0xC3F, 0xC40, 1), (0xC46, 0xC48, 1),
    (0xC4A, 0xC4D, 1), (0xC55, 0xC56, 1), (0xC62, 0xC63, 1), (0xC81, 0xC81, 1), (0xCBC, 0xCBC, 1),
    (0xCBF, 0xCBF, 1), (0xCC6, 0xCC6, 1), (0xCCC, 0xCCD, 1), (0xCE2, 0xCE3, 1), (0xD00, 0xD01, 1),
    (0xD3B, 0xD3C, 1), (0xD41, 0xD44, 1), (0xD4D, 0xD4D, 1), (0xD62, 0xD63, 1), (0xD81, 0xD81, 1),
    (0xDCA, 0xDCA, 1), (0xDD2, 0xDD4, 1), (0xDD6, 0xDD6, 1), (0xE31, 0xE31, 1), (0xE34, 0xE3A, 1),
    (0xE46, 0xE4E, 1), (0xEB1, 0xEB1, 1), (0xEB4, 0xEBC, 1), (0xEC6, 0xEC8, 2), (0xEC9, 0xECE, 1),
    (0xF18, 0xF19, 1), (0xF35, 0xF39, 2), (0xF71, 0xF7E, 1), (0xF80, 0xF84, 1), (0xF86, 0xF87, 1),
    (0xF8D, 0xF97, 1), (0xF99, 0xFBC, 1), (0xFC6, 0xFC6, 1), (0x102D, 0x1030, 1),
    (0x1032, 0x1037, 1), (0x1039, 0x103A, 1), (0x103D, 0x103E, 1), (0x1058, 0x1059, 1),
    (0x105E, 0x1060, 1), (0x1071, 0x1074, 1), (0x1082, 0x1082, 1), (0x1085, 0x1086, 1),
    (0x108D, 0x108D, 1), (0x109D, 0x109D, 1), (0x10FC, 0x10FC, 1), (0x135D, 0x135F, 1),
    (0x1712, 0x1714, 1), (0x1732, 0x1733, 1), (0x1752, 0x1753, 1), (0x1772, 0x1773, 1),
    (0x17B4, 0x17B5, 1), (0x17B7, 0x17BD, 1), (0x17C6, 0x17C6, 1), (0x17C9, 0x17D3, 1),
    (0x17D7, 0x17D7, 1), (0x17DD, 0x17DD, 1), (0x180B, 0x180F, 1), (0x1843, 0x1843, 1),
    (0x1885, 0x1886, 1), (0x18A9, 0x18A9, 1), (0x1920, 0x1922, 1), (0x1927, 0x1928, 1),
    (0x1932, 0x1932, 1), (0x1939, 0x193B, 1), (0x1A17, 0x1A18, 1), (0x1A1B, 0x1A1B, 1),
    (0x1A56, 0x1A58, 2), (0x1A59, 0x1A5E, 1), (0x1A60, 0x1A62, 2), (0x1A65, 0x1A6C, 1),
    (0x1A73, 0x1A7C, 1), (0x1A7F, 0x1A7F, 1), (0x1AA7, 0x1AA7, 1), (0x1AB0, 0x1ACE, 1),
    (0x1B00, 0x1B03, 1), (0x1B34, 0x1B36, 2), (0x1B37, 0x1B3A, 1), (0x1B3C, 0x1B3C, 1),
    (0x1B42, 0x1B42, 1), (0x1B6B, 0x1B73, 1), (0x1B80, 0x1B81, 1), (0x1BA2, 0x1BA5, 1),
    (0x1BA8, 0x1BA9, 1), (0x1BAB, 0x1BAD, 1), (0x1BE6, 0x1BE8, 2), (0x1BE9, 0x1BE9, 1),
    (0x1BED, 0x1BEF, 2), (0x1BF0, 0x1BF1, 1), (0x1C2C, 0x1C33, 1), (0x1C36, 0x1C37, 1),
    (0x1C78, 0x1C7D, 1), (0x1CD0, 0x1CD2, 1), (0x1CD4, 0x1CE0, 1), (0x1CE2, 0x1CE8, 1),
    (0x1CED, 0x1CED, 1), (0x1CF4, 0x1CF4, 1), (0x1CF8, 0x1CF9, 1), (0x1D2C, 0x1D6A, 1),
    (0x1D78, 0x1D78, 1), (0x1D9B, 0x1DFF, 1), (0x1FBD, 0x1FBF, 2), (0x1FC0, 0x1FC1, 1),
    (0x1FCD, 0x1FCF, 1), (0x1FDD, 0x1FDF, 1), (0x1FED, 0x1FEF, 1), (0x1FFD, 0x1FFE, 1),
    (0x200B, 0x200F, 1), (0x2018, 0x2019, 1), (0x2024, 0x2024, 1), (0x2027, 0x2027, 1),
    (0x202A, 0x202E, 1), (0x2060, 0x2064, 1), (0x2066, 0x206F, 1), (0x2071, 0x2071, 1),
    (0x207F, 0x207F, 1), (0x2090, 0x209C, 1), (0x20D0, 0x20F0, 1), (0x2C7C, 0x2C7D, 1),
    (0x2CEF, 0x2CF1, 1), (0x2D6F, 0x2D6F, 1), (0x2D7F, 0x2D7F, 1), (0x2DE0, 0x2DFF, 1),
    (0x2E2F, 0x2E2F, 1), (0x3005, 0x3005, 1), (0x302A, 0x302D, 1), (0x3031, 0x3035, 1),
    (0x303B, 0x303B, 1), (0x3099, 0x309E, 1), (0x30FC, 0x30FE, 1), (0xA015, 0xA015, 1),
    (0xA4F8, 0xA4FD, 1), (0xA60C, 0xA60C, 1), (0xA66F, 0xA672, 1), (0xA674, 0xA67D, 1),
    (0xA67F, 0xA67F, 1), (0xA69C, 0xA69F, 1), (0xA6F0, 0xA6F1, 1), (0xA700, 0xA721, 1),
    (0xA770, 0xA770, 1), (0xA788, 0xA78A, 1), (0xA7F2, 0xA7F4, 1), (0xA7F8, 0xA7F9, 1),
    (0xA802, 0xA802, 1), (0xA806, 0xA806, 1), (0xA80B, 0xA80B, 1), (0xA825, 0xA826, 1),
    (0xA82C, 0xA82C, 1), (0xA8C4, 0xA8C5, 1), (0xA8E0, 0xA8F1, 1), (0xA8FF, 0xA8FF, 1),
    (0xA926, 0xA92D, 1), (0xA947, 0xA951, 1), (0xA980, 0xA982, 1), (0xA9B3, 0xA9B3, 1),
    (0xA9B6, 0xA9B9, 1), (0xA9BC, 0xA9BD, 1), (0xA9CF, 0xA9CF, 1), (0xA9E5, 0xA9E6, 1),
    (0xAA29, 0xAA2E, 1), (0xAA31, 0xAA32, 1), (0xAA35, 0xAA36, 1), (0xAA43, 0xAA43, 1),
    (0xAA4C, 0xAA4C, 1), (0xAA70, 0xAA70, 1), (0xAA7C, 0xAA7C, 1), (0xAAB0, 0xAAB2, 2),
    (0xAAB3, 0xAAB4, 1), (0xAAB7, 0xAAB8, 1), (0xAABE, 0xAABF, 1), (0xAAC1, 0xAAC1, 1),
    (0xAADD, 0xAADD, 1), (0xAAEC, 0xAAED, 1), (0xAAF3, 0xAAF4, 1), (0xAAF6, 0xAAF6, 1),
    (0xAB5B, 0xAB5F, 1), (0xAB69, 0xAB6B, 1), (0xABE5, 0xABE5, 1), (0xABE8, 0xABE8, 1),
    (0xABED, 0xABED, 1), (0xFB1E, 0xFB1E, 1), (0xFBB2, 0xFBC2, 1), (0xFE00, 0xFE0F, 1),
    (0xFE13, 0xFE13, 1), (0xFE20, 0xFE2F, 1), (0xFE52, 0xFE52, 1), (0xFE55, 0xFE55, 1),
    (0xFEFF, 0xFEFF, 1), (0xFF07, 0xFF07, 1), (0xFF0E, 0xFF0E, 1), (0xFF1A, 0xFF1A, 1),
    (0xFF3E, 0xFF40, 2), (0xFF70, 0xFF70, 1), (0xFF9E, 0xFF9F, 1), (0xFFE3, 0xFFE3, 1),
    (0xFFF9, 0xFFFB, 1), (0x101FD, 0x101FD, 1), (0x102E0, 0x102E0, 1), (0x10376, 0x1037A, 1),
    (0x10780, 0x10785, 1), (0x10787, 0x107B0, 1), (0x107B2, 0x107BA, 1), (0x10A01, 0x10A03, 1),
    (0x10A05, 0x10A06, 1), (0x10A0C, 0x10A0F, 1), (0x10A38, 0x10A3A, 1), (0x10A3F, 0x10A3F, 1),
    (0x10AE5, 0x10AE6, 1), (0x10D24, 0x10D27, 1), (0x10D4E, 0x10D4E, 1), (0x10D69, 0x10D6D, 1),
    (0x10D6F, 0x10D6F, 1), (0x10EAB, 0x10EAC, 1), (0x10EFC, 0x10EFF, 1), (0x10F46, 0x10F50, 1),
    (0x10F82, 0x10F85, 1), (0x11001, 0x11001, 1), (0x11038, 0x11046, 1), (0x11070, 0x11070, 1),
    (0x11073, 0x11074, 1), (0x1107F, 0x11081, 1), (0x110B3, 0x110B6, 1), (0x110B9, 0x110BA, 1),
    (0x110BD, 0x110BD, 1), (0x110C2, 0x110C2, 1), (0x110CD, 0x110CD, 1), (0x11100, 0x11102, 1),
    (0x11127, 0x1112B, 1), (0x1112D, 0x11134, 1), (0x11173, 0x11173, 1), (0x11180, 0x11181, 1),
    (0x111B6, 0x111BE, 1), (0x111C9, 0x111CC, 1), (0x111CF, 0x111CF, 1), (0x1122F, 0x11231, 1),
    (0x11234, 0x11236, 2), (0x11237, 0x11237, 1), (0x1123E, 0x1123E, 1), (0x11241, 0x11241, 1),
    (0x112DF, 0x112DF, 1), (0x112E3, 0x112EA, 1), (0x11300, 0x11301, 1), (0x1133B, 0x1133C, 1),
    (0x11340, 0x11340, 1), (0x11366, 0x1136C, 1), (0x11370, 0x11374, 1), (0x113BB, 0x113C0, 1),
    (0x113CE, 0x113D2, 2), (0x113E1, 0x113E2, 1), (0x11438, 0x1143F, 1), (0x11442, 0x11444, 1),
    (0x11446, 0x11446, 1), (0x1145E, 0x1145E, 1), (0x114B3, 0x114B8, 1), (0x114BA, 0x114BA, 1),
    (0x114BF, 0x114C0, 1), (0x114C2, 0x114C3, 1), (0x115B2, 0x115B5, 1), (0x115BC, 0x115BD, 1),
    (0x115BF, 0x115C0, 1), (0x115DC, 0x115DD, 1), (0x11633, 0x1163A, 1), (0x1163D, 0x1163F, 2),
    (0x11640, 0x11640, 1), (0x116AB, 0x116AD, 2), (0x116B0, 0x116B5, 1), (0x116B7, 0x116B7, 1),
    (0x1171D, 0x1171F, 2), (0x11722, 0x11725, 1), (0x11727, 0x1172B, 1), (0x1182F, 0x11837, 1),
    (0x11839, 0x1183A, 1), (0x1193B, 0x1193C, 1), (0x1193E, 0x1193E, 1), (0x11943, 0x11943, 1),
    (0x119D4, 0x119D7, 1), (0x119DA, 0x119DB, 1), (0x119E0, 0x119E0, 1), (0x11A01, 0x11A0A, 1),
    (0x11A33, 0x11A38, 1), (0x11A3B, 0x11A3E, 1), (0x11A47, 0x11A47, 1), (0x11A51, 0x11A56, 1),
    (0x11A59, 0x11A5B, 1), (0x11A8A, 0x11A96, 1), (0x11A98, 0x11A99, 1), (0x11C30, 0x11C36, 1),
    (0x11C38, 0x11C3D, 1), (0x11C3F, 0x11C3F, 1), (0x11C92, 0x11CA7, 1), (0x11CAA, 0x11CB0, 1),
    (0x11CB2, 0x11CB3, 1), (0x11CB5, 0x11CB6, 1), (0x11D31, 0x11D36, 1), (0x11D3A, 0x11D3C, 2),
    (0x11D3D, 0x11D3F, 2), (0x11D40, 0x11D45, 1), (0x11D47, 0x11D47, 1), (0x11D90, 0x11D91, 1),
    (0x11D95, 0x11D97, 2), (0x11EF3, 0x11EF4, 1), (0x11F00, 0x11F01, 1), (0x11F36, 0x11F3A, 1),
    (0x11F40, 0x11F42, 2), (0x11F5A, 0x11F5A, 1), (0x13430, 0x13440, 1), (0x13447, 0x13455, 1),
    (0x1611E, 0x16129, 1), (0x1612D, 0x1612F, 1), (0x16AF0, 0x16AF4, 1), (0x16B30, 0x16B36, 1),
    (0x16B40, 0x16B43, 1), (0x16D40, 0x16D42, 1), (0x16D6B, 0x16D6C, 1), (0x16F4F, 0x16F4F, 1),
    (0x16F8F, 0x16F9F, 1), (0x16FE0, 0x16FE1, 1), (0x16FE3, 0x16FE4, 1), (0x1AFF0, 0x1AFF3, 1),
    (0x1AFF5, 0x1AFFB, 1), (0x1AFFD, 0x1AFFE, 1), (0x1BC9D, 0x1BC9E, 1), (0x1BCA0, 0x1BCA3, 1),
    (0x1CF00, 0x1CF2D, 1), (0x1CF30, 0x1CF46, 1), (0x1D167, 0x1D169, 1), (0x1D173, 0x1D182, 1),
    (0x1D185, 0x1D18B, 1), (0x1D1AA, 0x1D1AD, 1), (0x1D242, 0x1D244, 1), (0x1DA00, 0x1DA36, 1),
    (0x1DA3B, 0x1DA6C, 1), (0x1DA75, 0x1DA75, 1), (0x1DA84, 0x1DA84, 1), (0x1DA9B, 0x1DA9F, 1),
    (0x1DAA1, 0x1DAAF, 1), (0x1E000, 0x1E006, 1), (0x1E008, 0x1E018, 1), (0x1E01B, 0x1E021, 1),
    (0x1E023, 0x1E024, 1), (0x1E026, 0x1E02A, 1), (0x1E030, 0x1E06D, 1), (0x1E08F, 0x1E08F, 1),
    (0x1E130, 0x1E13D, 1), (0x1E2AE, 0x1E2AE, 1), (0x1E2EC, 0x1E2EF, 1), (0x1E4EB, 0x1E4EF, 1),
    (0x1E5EE, 0x1E5EF, 1), (0x1E8D0, 0x1E8D6, 1), (0x1E944, 0x1E94B, 1), (0x1F3FB, 0x1F3FF, 1),
    (0xE0001, 0xE0001, 1), (0xE0020, 0xE007F, 1), (0xE0100, 0xE01EF, 1)]

/-!
## The code points above U+007F with the Uppercase property

Capital letters, with the capital letter numbers and circled capitals. A run `(first, last, step)`
stands for `first`, `first + step`, … up to `last`; the runs are in increasing order and do not
overlap.
-/

/-- Runs `(first, last, step)` of the code points with the Uppercase property. -/
def uppercaseRuns : List (Nat × Nat × Nat) := [
    (0xC0, 0xD6, 1), (0xD8, 0xDE, 1), (0x100, 0x136, 2), (0x139, 0x147, 2), (0x14A, 0x178, 2),
    (0x179, 0x17D, 2), (0x181, 0x182, 1), (0x184, 0x186, 2), (0x187, 0x189, 2), (0x18A, 0x18B, 1),
    (0x18E, 0x191, 1), (0x193, 0x194, 1), (0x196, 0x198, 1), (0x19C, 0x19D, 1), (0x19F, 0x1A0, 1),
    (0x1A2, 0x1A6, 2), (0x1A7, 0x1A9, 2), (0x1AC, 0x1AE, 2), (0x1AF, 0x1B1, 2), (0x1B2, 0x1B3, 1),
    (0x1B5, 0x1B7, 2), (0x1B8, 0x1B8, 1), (0x1BC, 0x1BC, 1), (0x1C4, 0x1C4, 1), (0x1C7, 0x1C7, 1),
    (0x1CA, 0x1CA, 1), (0x1CD, 0x1DB, 2), (0x1DE, 0x1EE, 2), (0x1F1, 0x1F1, 1), (0x1F4, 0x1F6, 2),
    (0x1F7, 0x1F8, 1), (0x1FA, 0x232, 2), (0x23A, 0x23B, 1), (0x23D, 0x23E, 1), (0x241, 0x243, 2),
    (0x244, 0x246, 1), (0x248, 0x24E, 2), (0x370, 0x372, 2), (0x376, 0x376, 1), (0x37F, 0x37F, 1),
    (0x386, 0x388, 2), (0x389, 0x38A, 1), (0x38C, 0x38E, 2), (0x38F, 0x391, 2), (0x392, 0x3A1, 1),
    (0x3A3, 0x3AB, 1), (0x3CF, 0x3CF, 1), (0x3D2, 0x3D4, 1), (0x3D8, 0x3EE, 2), (0x3F4, 0x3F4, 1),
    (0x3F7, 0x3F9, 2), (0x3FA, 0x3FA, 1), (0x3FD, 0x42F, 1), (0x460, 0x480, 2), (0x48A, 0x4C0, 2),
    (0x4C1, 0x4CD, 2), (0x4D0, 0x52E, 2), (0x531, 0x556, 1), (0x10A0, 0x10C5, 1),
    (0x10C7, 0x10C7, 1), (0x10CD, 0x10CD, 1), (0x13A0, 0x13F5, 1), (0x1C89, 0x1C89, 1),
    (0x1C90, 0x1CBA, 1), (0x1CBD, 0x1CBF, 1), (0x1E00, 0x1E94, 2), (0x1E9E, 0x1EFE, 2),
    (0x1F08, 0x1F0F, 1), (0x1F18, 0x1F1D, 1), (0x1F28, 0x1F2F, 1), (0x1F38, 0x1F3F, 1),
    (0x1F48, 0x1F4D, 1), (0x1F59, 0x1F5F, 2), (0x1F68, 0x1F6F, 1), (0x1FB8, 0x1FBB, 1),
    (0x1FC8, 0x1FCB, 1), (0x1FD8, 0x1FDB, 1), (0x1FE8, 0x1FEC, 1), (0x1FF8, 0x1FFB, 1),
    (0x2102, 0x2102, 1), (0x2107, 0x2107, 1), (0x210B, 0x210D, 1), (0x2110, 0x2112, 1),
    (0x2115, 0x2115, 1), (0x2119, 0x211D, 1), (0x2124, 0x212A, 2), (0x212B, 0x212D, 1),
    (0x2130, 0x2133, 1), (0x213E, 0x213F, 1), (0x2145, 0x2145, 1), (0x2160, 0x216F, 1),
    (0x2183, 0x2183, 1), (0x24B6, 0x24CF, 1), (0x2C00, 0x2C2F, 1), (0x2C60, 0x2C62, 2),
    (0x2C63, 0x2C64, 1), (0x2C67, 0x2C6D, 2), (0x2C6E, 0x2C70, 1), (0x2C72, 0x2C72, 1),
    (0x2C75, 0x2C75, 1), (0x2C7E, 0x2C80, 1), (0x2C82, 0x2CE2, 2), (0x2CEB, 0x2CED, 2),
    (0x2CF2, 0x2CF2, 1), (0xA640, 0xA66C, 2), (0xA680, 0xA69A, 2), (0xA722, 0xA72E, 2),
    (0xA732, 0xA76E, 2), (0xA779, 0xA77D, 2), (0xA77E, 0xA786, 2), (0xA78B, 0xA78D, 2),
    (0xA790, 0xA792, 2), (0xA796, 0xA7AA, 2), (0xA7AB, 0xA7AE, 1), (0xA7B0, 0xA7B4, 1),
    (0xA7B6, 0xA7C4, 2), (0xA7C5, 0xA7C7, 1), (0xA7C9, 0xA7CB, 2), (0xA7CC, 0xA7CC, 1),
    (0xA7D0, 0xA7D0, 1), (0xA7D6, 0xA7DC, 2), (0xA7F5, 0xA7F5, 1), (0xFF21, 0xFF3A, 1),
    (0x10400, 0x10427, 1), (0x104B0, 0x104D3, 1), (0x10570, 0x1057A, 1), (0x1057C, 0x1058A, 1),
    (0x1058C, 0x10592, 1), (0x10594, 0x10595, 1), (0x10C80, 0x10CB2, 1), (0x10D50, 0x10D65, 1),
    (0x118A0, 0x118BF, 1), (0x16E40, 0x16E5F, 1), (0x1D400, 0x1D419, 1), (0x1D434, 0x1D44D, 1),
    (0x1D468, 0x1D481, 1), (0x1D49C, 0x1D49E, 2), (0x1D49F, 0x1D49F, 1), (0x1D4A2, 0x1D4A2, 1),
    (0x1D4A5, 0x1D4A6, 1), (0x1D4A9, 0x1D4AC, 1), (0x1D4AE, 0x1D4B5, 1), (0x1D4D0, 0x1D4E9, 1),
    (0x1D504, 0x1D505, 1), (0x1D507, 0x1D50A, 1), (0x1D50D, 0x1D514, 1), (0x1D516, 0x1D51C, 1),
    (0x1D538, 0x1D539, 1), (0x1D53B, 0x1D53E, 1), (0x1D540, 0x1D544, 1), (0x1D546, 0x1D546, 1),
    (0x1D54A, 0x1D550, 1), (0x1D56C, 0x1D585, 1), (0x1D5A0, 0x1D5B9, 1), (0x1D5D4, 0x1D5ED, 1),
    (0x1D608, 0x1D621, 1), (0x1D63C, 0x1D655, 1), (0x1D670, 0x1D689, 1), (0x1D6A8, 0x1D6C0, 1),
    (0x1D6E2, 0x1D6FA, 1), (0x1D71C, 0x1D734, 1), (0x1D756, 0x1D76E, 1), (0x1D790, 0x1D7A8, 1),
    (0x1D7CA, 0x1D7CA, 1), (0x1E900, 0x1E921, 1), (0x1F130, 0x1F149, 1), (0x1F150, 0x1F169, 1),
    (0x1F170, 0x1F189, 1)]

/-!
## The code points above U+007F with the Lowercase property

Small letters, with the modifier letters, small letter numbers and circled small letters. A run
`(first, last, step)` stands for `first`, `first + step`, … up to `last`; the runs are in
increasing order and do not overlap.
-/

/-- Runs `(first, last, step)` of the code points with the Lowercase property. -/
def lowercaseRuns : List (Nat × Nat × Nat) := [
    (0xAA, 0xAA, 1), (0xB5, 0xB5, 1), (0xBA, 0xBA, 1), (0xDF, 0xF6, 1), (0xF8, 0xFF, 1),
    (0x101, 0x137, 2), (0x138, 0x148, 2), (0x149, 0x177, 2), (0x17A, 0x17E, 2), (0x17F, 0x180, 1),
    (0x183, 0x185, 2), (0x188, 0x188, 1), (0x18C, 0x18D, 1), (0x192, 0x192, 1), (0x195, 0x195, 1),
    (0x199, 0x19B, 1), (0x19E, 0x19E, 1), (0x1A1, 0x1A5, 2), (0x1A8, 0x1AA, 2), (0x1AB, 0x1AD, 2),
    (0x1B0, 0x1B0, 1), (0x1B4, 0x1B6, 2), (0x1B9, 0x1BA, 1), (0x1BD, 0x1BF, 1), (0x1C6, 0x1C6, 1),
    (0x1C9, 0x1C9, 1), (0x1CC, 0x1DC, 2), (0x1DD, 0x1EF, 2), (0x1F0, 0x1F0, 1), (0x1F3, 0x1F5, 2),
    (0x1F9, 0x233, 2), (0x234, 0x239, 1), (0x23C, 0x23C, 1), (0x23F, 0x240, 1), (0x242, 0x242, 1),
    (0x247, 0x24F, 2), (0x250, 0x293, 1), (0x295, 0x2B8, 1), (0x2C0, 0x2C1, 1), (0x2E0, 0x2E4, 1),
    (0x345, 0x345, 1), (0x371, 0x373, 2), (0x377, 0x377, 1), (0x37A, 0x37D, 1), (0x390, 0x390, 1),
    (0x3AC, 0x3CE, 1), (0x3D0, 0x3D1, 1), (0x3D5, 0x3D7, 1), (0x3D9, 0x3EF, 2), (0x3F0, 0x3F3, 1),
    (0x3F5, 0x3F5, 1), (0x3F8, 0x3F8, 1), (0x3FB, 0x3FC, 1), (0x430, 0x45F, 1), (0x461, 0x481, 2),
    (0x48B, 0x4BF, 2), (0x4C2, 0x4CE, 2), (0x4CF, 0x52F, 2), (0x560, 0x588, 1),
    (0x10D0, 0x10FA, 1), (0x10FC, 0x10FF, 1), (0x13F8, 0x13FD, 1), (0x1C80, 0x1C88, 1),
    (0x1C8A, 0x1C8A, 1), (0x1D00, 0x1DBF, 1), (0x1E01, 0x1E95, 2), (0x1E96, 0x1E9D, 1),
    (0x1E9F, 0x1EFF, 2), (0x1F00, 0x1F07, 1), (0x1F10, 0x1F15, 1), (0x1F20, 0x1F27, 1),
    (0x1F30, 0x1F37, 1), (0x1F40, 0x1F45, 1), (0x1F50, 0x1F57, 1), (0x1F60, 0x1F67, 1),
    (0x1F70, 0x1F7D, 1), (0x1F80, 0x1F87, 1), (0x1F90, 0x1F97, 1), (0x1FA0, 0x1FA7, 1),
    (0x1FB0, 0x1FB4, 1), (0x1FB6, 0x1FB7, 1), (0x1FBE, 0x1FBE, 1), (0x1FC2, 0x1FC4, 1),
    (0x1FC6, 0x1FC7, 1), (0x1FD0, 0x1FD3, 1), (0x1FD6, 0x1FD7, 1), (0x1FE0, 0x1FE7, 1),
    (0x1FF2, 0x1FF4, 1), (0x1FF6, 0x1FF7, 1), (0x2071, 0x2071, 1), (0x207F, 0x207F, 1),
    (0x2090, 0x209C, 1), (0x210A, 0x210A, 1), (0x210E, 0x210F, 1), (0x2113, 0x2113, 1),
    (0x212F, 0x212F, 1), (0x2134, 0x2134, 1), (0x2139, 0x2139, 1), (0x213C, 0x213D, 1),
    (0x2146, 0x2149, 1), (0x214E, 0x214E, 1), (0x2170, 0x217F, 1), (0x2184, 0x2184, 1),
    (0x24D0, 0x24E9, 1), (0x2C30, 0x2C5F, 1), (0x2C61, 0x2C61, 1), (0x2C65, 0x2C66, 1),
    (0x2C68, 0x2C6C, 2), (0x2C71, 0x2C73, 2), (0x2C74, 0x2C76, 2), (0x2C77, 0x2C7D, 1),
    (0x2C81, 0x2CE3, 2), (0x2CE4, 0x2CE4, 1), (0x2CEC, 0x2CEE, 2), (0x2CF3, 0x2CF3, 1),
    (0x2D00, 0x2D25, 1), (0x2D27, 0x2D27, 1), (0x2D2D, 0x2D2D, 1), (0xA641, 0xA66D, 2),
    (0xA681, 0xA69B, 2), (0xA69C, 0xA69D, 1), (0xA723, 0xA72F, 2), (0xA730, 0xA731, 1),
    (0xA733, 0xA76F, 2), (0xA770, 0xA778, 1), (0xA77A, 0xA77C, 2), (0xA77F, 0xA787, 2),
    (0xA78C, 0xA78E, 2), (0xA791, 0xA793, 2), (0xA794, 0xA795, 1), (0xA797, 0xA7A9, 2),
    (0xA7AF, 0xA7AF, 1), (0xA7B5, 0xA7C3, 2), (0xA7C8, 0xA7CA, 2), (0xA7CD, 0xA7CD, 1),
    (0xA7D1, 0xA7DB, 2), (0xA7F2, 0xA7F4, 1), (0xA7F6, 0xA7F8, 2), (0xA7F9, 0xA7FA, 1),
    (0xAB30, 0xAB5A, 1), (0xAB5C, 0xAB69, 1), (0xAB70, 0xABBF, 1), (0xFB00, 0xFB06, 1),
    (0xFB13, 0xFB17, 1), (0xFF41, 0xFF5A, 1), (0x10428, 0x1044F, 1), (0x104D8, 0x104FB, 1),
    (0x10597, 0x105A1, 1), (0x105A3, 0x105B1, 1), (0x105B3, 0x105B9, 1), (0x105BB, 0x105BC, 1),
    (0x10780, 0x10780, 1), (0x10783, 0x10785, 1), (0x10787, 0x107B0, 1), (0x107B2, 0x107BA, 1),
    (0x10CC0, 0x10CF2, 1), (0x10D70, 0x10D85, 1), (0x118C0, 0x118DF, 1), (0x16E60, 0x16E7F, 1),
    (0x1D41A, 0x1D433, 1), (0x1D44E, 0x1D454, 1), (0x1D456, 0x1D467, 1), (0x1D482, 0x1D49B, 1),
    (0x1D4B6, 0x1D4B9, 1), (0x1D4BB, 0x1D4BD, 2), (0x1D4BE, 0x1D4C3, 1), (0x1D4C5, 0x1D4CF, 1),
    (0x1D4EA, 0x1D503, 1), (0x1D51E, 0x1D537, 1), (0x1D552, 0x1D56B, 1), (0x1D586, 0x1D59F, 1),
    (0x1D5BA, 0x1D5D3, 1), (0x1D5EE, 0x1D607, 1), (0x1D622, 0x1D63B, 1), (0x1D656, 0x1D66F, 1),
    (0x1D68A, 0x1D6A5, 1), (0x1D6C2, 0x1D6DA, 1), (0x1D6DC, 0x1D6E1, 1), (0x1D6FC, 0x1D714, 1),
    (0x1D716, 0x1D71B, 1), (0x1D736, 0x1D74E, 1), (0x1D750, 0x1D755, 1), (0x1D770, 0x1D788, 1),
    (0x1D78A, 0x1D78F, 1), (0x1D7AA, 0x1D7C2, 1), (0x1D7C4, 0x1D7C9, 1), (0x1D7CB, 0x1D7CB, 1),
    (0x1DF00, 0x1DF09, 1), (0x1DF0B, 0x1DF1E, 1), (0x1DF25, 0x1DF2A, 1), (0x1E030, 0x1E06D, 1),
    (0x1E922, 0x1E943, 1)]

/-!
## Case mappings above U+007F

A run `(first, last, step, image)` sends `first + k * step` to `image + k * step` for every `k` up
to `last`. Characters whose image has more than one character are listed one by one.
-/

/-- The one-character lower-case images. -/
def lowerRuns : List (Nat × Nat × Nat × Nat) := [
    (0xC0, 0xD6, 1, 0xE0), (0xD8, 0xDE, 1, 0xF8), (0x100, 0x12E, 2, 0x101),
    (0x132, 0x136, 2, 0x133), (0x139, 0x147, 2, 0x13A), (0x14A, 0x176, 2, 0x14B),
    (0x178, 0x178, 1, 0xFF), (0x179, 0x17D, 2, 0x17A), (0x181, 0x181, 1, 0x253),
    (0x182, 0x184, 2, 0x183), (0x186, 0x186, 1, 0x254), (0x187, 0x187, 1, 0x188),
    (0x189, 0x18A, 1, 0x256), (0x18B, 0x18B, 1, 0x18C), (0x18E, 0x18E, 1, 0x1DD),
    (0x18F, 0x18F, 1, 0x259), (0x190, 0x190, 1, 0x25B), (0x191, 0x191, 1, 0x192),
    (0x193, 0x193, 1, 0x260), (0x194, 0x194, 1, 0x263), (0x196, 0x196, 1, 0x269),
    (0x197, 0x197, 1, 0x268), (0x198, 0x198, 1, 0x199), (0x19C, 0x19C, 1, 0x26F),
    (0x19D, 0x19D, 1, 0x272), (0x19F, 0x19F, 1, 0x275), (0x1A0, 0x1A4, 2, 0x1A1),
    (0x1A6, 0x1A6, 1, 0x280), (0x1A7, 0x1A7, 1, 0x1A8), (0x1A9, 0x1A9, 1, 0x283),
    (0x1AC, 0x1AC, 1, 0x1AD), (0x1AE, 0x1AE, 1, 0x288), (0x1AF, 0x1AF, 1, 0x1B0),
    (0x1B1, 0x1B2, 1, 0x28A), (0x1B3, 0x1B5, 2, 0x1B4), (0x1B7, 0x1B7, 1, 0x292),
    (0x1B8, 0x1B8, 1, 0x1B9), (0x1BC, 0x1BC, 1, 0x1BD), (0x1C4, 0x1C4, 1, 0x1C6),
    (0x1C5, 0x1C5, 1, 0x1C6), (0x1C7, 0x1C7, 1, 0x1C9), (0x1C8, 0x1C8, 1, 0x1C9),
    (0x1CA, 0x1CA, 1, 0x1CC), (0x1CB, 0x1DB, 2, 0x1CC), (0x1DE, 0x1EE, 2, 0x1DF),
    (0x1F1, 0x1F1, 1, 0x1F3), (0x1F2, 0x1F4, 2, 0x1F3), (0x1F6, 0x1F6, 1, 0x195),
    (0x1F7, 0x1F7, 1, 0x1BF), (0x1F8, 0x21E, 2, 0x1F9), (0x220, 0x220, 1, 0x19E),
    (0x222, 0x232, 2, 0x223), (0x23A, 0x23A, 1, 0x2C65), (0x23B, 0x23B, 1, 0x23C),
    (0x23D, 0x23D, 1, 0x19A), (0x23E, 0x23E, 1, 0x2C66), (0x241, 0x241, 1, 0x242),
    (0x243, 0x243, 1, 0x180), (0x244, 0x244, 1, 0x289), (0x245, 0x245, 1, 0x28C),
    (0x246, 0x24E, 2, 0x247), (0x370, 0x372, 2, 0x371), (0x376, 0x376, 1, 0x377),
    (0x37F, 0x37F, 1, 0x3F3), (0x386, 0x386, 1, 0x3AC), (0x388, 0x38A, 1, 0x3AD),
    (0x38C, 0x38C, 1, 0x3CC), (0x38E, 0x38F, 1, 0x3CD), (0x391, 0x3A1, 1, 0x3B1),
    (0x3A3, 0x3AB, 1, 0x3C3), (0x3CF, 0x3CF, 1, 0x3D7), (0x3D8, 0x3EE, 2, 0x3D9),
    (0x3F4, 0x3F4, 1, 0x3B8), (0x3F7, 0x3F7, 1, 0x3F8), (0x3F9, 0x3F9, 1, 0x3F2),
    (0x3FA, 0x3FA, 1, 0x3FB), (0x3FD, 0x3FF, 1, 0x37B), (0x400, 0x40F, 1, 0x450),
    (0x410, 0x42F, 1, 0x430), (0x460, 0x480, 2, 0x461), (0x48A, 0x4BE, 2, 0x48B),
    (0x4C0, 0x4C0, 1, 0x4CF), (0x4C1, 0x4CD, 2, 0x4C2), (0x4D0, 0x52E, 2, 0x4D1),
    (0x531, 0x556, 1, 0x561), (0x10A0, 0x10C5, 1, 0x2D00), (0x10C7, 0x10C7, 1, 0x2D27),
    (0x10CD, 0x10CD, 1, 0x2D2D), (0x13A0, 0x13EF, 1, 0xAB70), (0x13F0, 0x13F5, 1, 0x13F8),
    (0x1C89, 0x1C89, 1, 0x1C8A), (0x1C90, 0x1CBA, 1, 0x10D0), (0x1CBD, 0x1CBF, 1, 0x10FD),
    (0x1E00, 0x1E94, 2, 0x1E01), (0x1E9E, 0x1E9E, 1, 0xDF), (0x1EA0, 0x1EFE, 2, 0x1EA1),
    (0x1F08, 0x1F0F, 1, 0x1F00), (0x1F18, 0x1F1D, 1, 0x1F10), (0x1F28, 0x1F2F, 1, 0x1F20),
    (0x1F38, 0x1F3F, 1, 0x1F30), (0x1F48, 0x1F4D, 1, 0x1F40), (0x1F59, 0x1F5F, 2, 0x1F51),
    (0x1F68, 0x1F6F, 1, 0x1F60), (0x1F88, 0x1F8F, 1, 0x1F80), (0x1F98, 0x1F9F, 1, 0x1F90),
    (0x1FA8, 0x1FAF, 1, 0x1FA0), (0x1FB8, 0x1FB9, 1, 0x1FB0), (0x1FBA, 0x1FBB, 1, 0x1F70),
    (0x1FBC, 0x1FBC, 1, 0x1FB3), (0x1FC8, 0x1FCB, 1, 0x1F72), (0x1FCC, 0x1FCC, 1, 0x1FC3),
    (0x1FD8, 0x1FD9, 1, 0x1FD0), (0x1FDA, 0x1FDB, 1, 0x1F76), (0x1FE8, 0x1FE9, 1, 0x1FE0),
    (0x1FEA, 0x1FEB, 1, 0x1F7A), (0x1FEC, 0x1FEC, 1, 0x1FE5), (0x1FF8, 0x1FF9, 1, 0x1F78),
    (0x1FFA, 0x1FFB, 1, 0x1F7C), (0x1FFC, 0x1FFC, 1, 0x1FF3), (0x2126, 0x2126, 1, 0x3C9),
    (0x212A, 0x212A, 1, 0x6B), (0x212B, 0x212B, 1, 0xE5), (0x2132, 0x2132, 1, 0x214E),
    (0x2160, 0x216F, 1, 0x2170), (0x2183, 0x2183, 1, 0x2184), (0x24B6, 0x24CF, 1, 0x24D0),
    (0x2C00, 0x2C2F, 1, 0x2C30), (0x2C60, 0x2C60, 1, 0x2C61), (0x2C62, 0x2C62, 1, 0x26B),
    (0x2C63, 0x2C63, 1, 0x1D7D), (0x2C64, 0x2C64, 1, 0x27D), (0x2C67, 0x2C6B, 2, 0x2C68),
    (0x2C6D, 0x2C6D, 1, 0x251), (0x2C6E, 0x2C6E, 1, 0x271), (0x2C6F, 0x2C6F, 1, 0x250),
    (0x2C70, 0x2C70, 1, 0x252), (0x2C72, 0x2C72, 1, 0x2C73), (0x2C75, 0x2C75, 1, 0x2C76),
    (0x2C7E, 0x2C7F, 1, 0x23F), (0x2C80, 0x2CE2, 2, 0x2C81), (0x2CEB, 0x2CED, 2, 0x2CEC),
    (0x2CF2, 0x2CF2, 1, 0x2CF3), (0xA640, 0xA66C, 2, 0xA641), (0xA680, 0xA69A, 2, 0xA681),
    (0xA722, 0xA72E, 2, 0xA723), (0xA732, 0xA76E, 2, 0xA733), (0xA779, 0xA77B, 2, 0xA77A),
    (0xA77D, 0xA77D, 1, 0x1D79), (0xA77E, 0xA786, 2, 0xA77F), (0xA78B, 0xA78B, 1, 0xA78C),
    (0xA78D, 0xA78D, 1, 0x265), (0xA790, 0xA792, 2, 0xA791), (0xA796, 0xA7A8, 2, 0xA797),
    (0xA7AA, 0xA7AA, 1, 0x266), (0xA7AB, 0xA7AB, 1, 0x25C), (0xA7AC, 0xA7AC, 1, 0x261),
    (0xA7AD, 0xA7AD, 1, 0x26C), (0xA7AE, 0xA7AE, 1, 0x26A), (0xA7B0, 0xA7B0, 1, 0x29E),
    (0xA7B1, 0xA7B1, 1, 0x287), (0xA7B2, 0xA7B2, 1, 0x29D), (0xA7B3, 0xA7B3, 1, 0xAB53),
    (0xA7B4, 0xA7C2, 2, 0xA7B5), (0xA7C4, 0xA7C4, 1, 0xA794), (0xA7C5, 0xA7C5, 1, 0x282),
    (0xA7C6, 0xA7C6, 1, 0x1D8E), (0xA7C7, 0xA7C9, 2, 0xA7C8), (0xA7CB, 0xA7CB, 1, 0x264),
    (0xA7CC, 0xA7CC, 1, 0xA7CD), (0xA7D0, 0xA7D0, 1, 0xA7D1), (0xA7D6, 0xA7DA, 2, 0xA7D7),
    (0xA7DC, 0xA7DC, 1, 0x19B), (0xA7F5, 0xA7F5, 1, 0xA7F6), (0xFF21, 0xFF3A, 1, 0xFF41),
    (0x10400, 0x10427, 1, 0x10428), (0x104B0, 0x104D3, 1, 0x104D8),
    (0x10570, 0x1057A, 1, 0x10597), (0x1057C, 0x1058A, 1, 0x105A3),
    (0x1058C, 0x10592, 1, 0x105B3), (0x10594, 0x10595, 1, 0x105BB),
    (0x10C80, 0x10CB2, 1, 0x10CC0), (0x10D50, 0x10D65, 1, 0x10D70),
    (0x118A0, 0x118BF, 1, 0x118C0), (0x16E40, 0x16E5F, 1, 0x16E60), (0x1E900, 0x1E921, 1, 0x1E922)]

/-- The lower-case images of several characters. -/
def lowerExpansions : List (Nat × List Nat) := [
    (0x130, [0x69, 0x307])]

/-- The one-character upper-case images. -/
def upperRuns : List (Nat × Nat × Nat × Nat) := [
    (0xB5, 0xB5, 1, 0x39C), (0xE0, 0xF6, 1, 0xC0), (0xF8, 0xFE, 1, 0xD8), (0xFF, 0xFF, 1, 0x178),
    (0x101, 0x12F, 2, 0x100), (0x131, 0x131, 1, 0x49), (0x133, 0x137, 2, 0x132),
    (0x13A, 0x148, 2, 0x139), (0x14B, 0x177, 2, 0x14A), (0x17A, 0x17E, 2, 0x179),
    (0x17F, 0x17F, 1, 0x53), (0x180, 0x180, 1, 0x243), (0x183, 0x185, 2, 0x182),
    (0x188, 0x188, 1, 0x187), (0x18C, 0x18C, 1, 0x18B), (0x192, 0x192, 1, 0x191),
    (0x195, 0x195, 1, 0x1F6), (0x199, 0x199, 1, 0x198), (0x19A, 0x19A, 1, 0x23D),
    (0x19B, 0x19B, 1, 0xA7DC), (0x19E, 0x19E, 1, 0x220), (0x1A1, 0x1A5, 2, 0x1A0),
    (0x1A8, 0x1A8, 1, 0x1A7), (0x1AD, 0x1AD, 1, 0x1AC), (0x1B0, 0x1B0, 1, 0x1AF),
    (0x1B4, 0x1B6, 2, 0x1B3), (0x1B9, 0x1B9, 1, 0x1B8), (0x1BD, 0x1BD, 1, 0x1BC),
    (0x1BF, 0x1BF, 1, 0x1F7), (0x1C5, 0x1C5, 1, 0x1C4), (0x1C6, 0x1C6, 1, 0x1C4),
    (0x1C8, 0x1C8, 1, 0x1C7), (0x1C9, 0x1C9, 1, 0x1C7), (0x1CB, 0x1CB, 1, 0x1CA),
    (0x1CC, 0x1CC, 1, 0x1CA), (0x1CE, 0x1DC, 2, 0x1CD), (0x1DD, 0x1DD, 1, 0x18E),
    (0x1DF, 0x1EF, 2, 0x1DE), (0x1F2, 0x1F2, 1, 0x1F1), (0x1F3, 0x1F3, 1, 0x1F1),
    (0x1F5, 0x1F5, 1, 0x1F4), (0x1F9, 0x21F, 2, 0x1F8), (0x223, 0x233, 2, 0x222),
    (0x23C, 0x23C, 1, 0x23B), (0x23F, 0x240, 1, 0x2C7E), (0x242, 0x242, 1, 0x241),
    (0x247, 0x24F, 2, 0x246), (0x250, 0x250, 1, 0x2C6F), (0x251, 0x251, 1, 0x2C6D),
    (0x252, 0x252, 1, 0x2C70), (0x253, 0x253, 1, 0x181), (0x254, 0x254, 1, 0x186),
    (0x256, 0x257, 1, 0x189), (0x259, 0x259, 1, 0x18F), (0x25B, 0x25B, 1, 0x190),
    (0x25C, 0x25C, 1, 0xA7AB), (0x260, 0x260, 1, 0x193), (0x261, 0x261, 1, 0xA7AC),
    (0x263, 0x263, 1, 0x194), (0x264, 0x264, 1, 0xA7CB), (0x265, 0x265, 1, 0xA78D),
    (0x266, 0x266, 1, 0xA7AA), (0x268, 0x268, 1, 0x197), (0x269, 0x269, 1, 0x196),
    (0x26A, 0x26A, 1, 0xA7AE), (0x26B, 0x26B, 1, 0x2C62), (0x26C, 0x26C, 1, 0xA7AD),
    (0x26F, 0x26F, 1, 0x19C), (0x271, 0x271, 1, 0x2C6E), (0x272, 0x272, 1, 0x19D),
    (0x275, 0x275, 1, 0x19F), (0x27D, 0x27D, 1, 0x2C64), (0x280, 0x280, 1, 0x1A6),
    (0x282, 0x282, 1, 0xA7C5), (0x283, 0x283, 1, 0x1A9), (0x287, 0x287, 1, 0xA7B1),
    (0x288, 0x288, 1, 0x1AE), (0x289, 0x289, 1, 0x244), (0x28A, 0x28B, 1, 0x1B1),
    (0x28C, 0x28C, 1, 0x245), (0x292, 0x292, 1, 0x1B7), (0x29D, 0x29D, 1, 0xA7B2),
    (0x29E, 0x29E, 1, 0xA7B0), (0x345, 0x345, 1, 0x399), (0x371, 0x373, 2, 0x370),
    (0x377, 0x377, 1, 0x376), (0x37B, 0x37D, 1, 0x3FD), (0x3AC, 0x3AC, 1, 0x386),
    (0x3AD, 0x3AF, 1, 0x388), (0x3B1, 0x3C1, 1, 0x391), (0x3C2, 0x3C2, 1, 0x3A3),
    (0x3C3, 0x3CB, 1, 0x3A3), (0x3CC, 0x3CC, 1, 0x38C), (0x3CD, 0x3CE, 1, 0x38E),
    (0x3D0, 0x3D0, 1, 0x392), (0x3D1, 0x3D1, 1, 0x398), (0x3D5, 0x3D5, 1, 0x3A6),
    (0x3D6, 0x3D6, 1, 0x3A0), (0x3D7, 0x3D7, 1, 0x3CF), (0x3D9, 0x3EF, 2, 0x3D8),
    (0x3F0, 0x3F0, 1, 0x39A), (0x3F1, 0x3F1, 1, 0x3A1), (0x3F2, 0x3F2, 1, 0x3F9),
    (0x3F3, 0x3F3, 1, 0x37F), (0x3F5, 0x3F5, 1, 0x395), (0x3F8, 0x3F8, 1, 0x3F7),
    (0x3FB, 0x3FB, 1, 0x3FA), (0x430, 0x44F, 1, 0x410), (0x450, 0x45F, 1, 0x400),
    (0x461, 0x481, 2, 0x460), (0x48B, 0x4BF, 2, 0x48A), (0x4C2, 0x4CE, 2, 0x4C1),
    (0x4CF, 0x4CF, 1, 0x4C0), (0x4D1, 0x52F, 2, 0x4D0), (0x561, 0x586, 1, 0x531),
    (0x10D0, 0x10FA, 1, 0x1C90), (0x10FD, 0x10FF, 1, 0x1CBD), (0x13F8, 0x13FD, 1, 0x13F0),
    (0x1C80, 0x1C80, 1, 0x412), (0x1C81, 0x1C81, 1, 0x414), (0x1C82, 0x1C82, 1, 0x41E),
    (0x1C83, 0x1C84, 1, 0x421), (0x1C85, 0x1C85, 1, 0x422), (0x1C86, 0x1C86, 1, 0x42A),
    (0x1C87, 0x1C87, 1, 0x462), (0x1C88, 0x1C88, 1, 0xA64A), (0x1C8A, 0x1C8A, 1, 0x1C89),
    (0x1D79, 0x1D79, 1, 0xA77D), (0x1D7D, 0x1D7D, 1, 0x2C63), (0x1D8E, 0x1D8E, 1, 0xA7C6),
    (0x1E01, 0x1E95, 2, 0x1E00), (0x1E9B, 0x1E9B, 1, 0x1E60), (0x1EA1, 0x1EFF, 2, 0x1EA0),
    (0x1F00, 0x1F07, 1, 0x1F08), (0x1F10, 0x1F15, 1, 0x1F18), (0x1F20, 0x1F27, 1, 0x1F28),
    (0x1F30, 0x1F37, 1, 0x1F38), (0x1F40, 0x1F45, 1, 0x1F48), (0x1F51, 0x1F57, 2, 0x1F59),
    (0x1F60, 0x1F67, 1, 0x1F68), (0x1F70, 0x1F71, 1, 0x1FBA), (0x1F72, 0x1F75, 1, 0x1FC8),
    (0x1F76, 0x1F77, 1, 0x1FDA), (0x1F78, 0x1F79, 1, 0x1FF8), (0x1F7A, 0x1F7B, 1, 0x1FEA),
    (0x1F7C, 0x1F7D, 1, 0x1FFA), (0x1FB0, 0x1FB1, 1, 0x1FB8), (0x1FBE, 0x1FBE, 1, 0x399),
    (0x1FD0, 0x1FD1, 1, 0x1FD8), (0x1FE0, 0x1FE1, 1, 0x1FE8), (0x1FE5, 0x1FE5, 1, 0x1FEC),
    (0x214E, 0x214E, 1, 0x2132), (0x2170, 0x217F, 1, 0x2160), (0x2184, 0x2184, 1, 0x2183),
    (0x24D0, 0x24E9, 1, 0x24B6), (0x2C30, 0x2C5F, 1, 0x2C00), (0x2C61, 0x2C61, 1, 0x2C60),
    (0x2C65, 0x2C65, 1, 0x23A), (0x2C66, 0x2C66, 1, 0x23E), (0x2C68, 0x2C6C, 2, 0x2C67),
    (0x2C73, 0x2C73, 1, 0x2C72), (0x2C76, 0x2C76, 1, 0x2C75), (0x2C81, 0x2CE3, 2, 0x2C80),
    (0x2CEC, 0x2CEE, 2, 0x2CEB), (0x2CF3, 0x2CF3, 1, 0x2CF2), (0x2D00, 0x2D25, 1, 0x10A0),
    (0x2D27, 0x2D27, 1, 0x10C7), (0x2D2D, 0x2D2D, 1, 0x10CD), (0xA641, 0xA66D, 2, 0xA640),
    (0xA681, 0xA69B, 2, 0xA680), (0xA723, 0xA72F, 2, 0xA722), (0xA733, 0xA76F, 2, 0xA732),
    (0xA77A, 0xA77C, 2, 0xA779), (0xA77F, 0xA787, 2, 0xA77E), (0xA78C, 0xA78C, 1, 0xA78B),
    (0xA791, 0xA793, 2, 0xA790), (0xA794, 0xA794, 1, 0xA7C4), (0xA797, 0xA7A9, 2, 0xA796),
    (0xA7B5, 0xA7C3, 2, 0xA7B4), (0xA7C8, 0xA7CA, 2, 0xA7C7), (0xA7CD, 0xA7CD, 1, 0xA7CC),
    (0xA7D1, 0xA7D1, 1, 0xA7D0), (0xA7D7, 0xA7DB, 2, 0xA7D6), (0xA7F6, 0xA7F6, 1, 0xA7F5),
    (0xAB53, 0xAB53, 1, 0xA7B3), (0xAB70, 0xABBF, 1, 0x13A0), (0xFF41, 0xFF5A, 1, 0xFF21),
    (0x10428, 0x1044F, 1, 0x10400), (0x104D8, 0x104FB, 1, 0x104B0),
    (0x10597, 0x105A1, 1, 0x10570), (0x105A3, 0x105B1, 1, 0x1057C),
    (0x105B3, 0x105B9, 1, 0x1058C), (0x105BB, 0x105BC, 1, 0x10594),
    (0x10CC0, 0x10CF2, 1, 0x10C80), (0x10D70, 0x10D85, 1, 0x10D50),
    (0x118C0, 0x118DF, 1, 0x118A0), (0x16E60, 0x16E7F, 1, 0x16E40), (0x1E922, 0x1E943, 1, 0x1E900)]

/-- The upper-case images of several characters. -/
def upperExpansions : List (Nat × List Nat) := [
    (0xDF, [0x53, 0x53]), (0x149, [0x2BC, 0x4E]), (0x1F0, [0x4A, 0x30C]),
    (0x390, [0x399, 0x308, 0x301]), (0x3B0, [0x3A5, 0x308, 0x301]), (0x587, [0x535, 0x552]),
    (0x1E96, [0x48, 0x331]), (0x1E97, [0x54, 0x308]), (0x1E98, [0x57, 0x30A]),
    (0x1E99, [0x59, 0x30A]), (0x1E9A, [0x41, 0x2BE]), (0x1F50, [0x3A5, 0x313]),
    (0x1F52, [0x3A5, 0x313, 0x300]), (0x1F54, [0x3A5, 0x313, 0x301]),
    (0x1F56, [0x3A5, 0x313, 0x342]), (0x1F80, [0x1F08, 0x399]), (0x1F81, [0x1F09, 0x399]),
    (0x1F82, [0x1F0A, 0x399]), (0x1F83, [0x1F0B, 0x399]), (0x1F84, [0x1F0C, 0x399]),
    (0x1F85, [0x1F0D, 0x399]), (0x1F86, [0x1F0E, 0x399]), (0x1F87, [0x1F0F, 0x399]),
    (0x1F88, [0x1F08, 0x399]), (0x1F89, [0x1F09, 0x399]), (0x1F8A, [0x1F0A, 0x399]),
    (0x1F8B, [0x1F0B, 0x399]), (0x1F8C, [0x1F0C, 0x399]), (0x1F8D, [0x1F0D, 0x399]),
    (0x1F8E, [0x1F0E, 0x399]), (0x1F8F, [0x1F0F, 0x399]), (0x1F90, [0x1F28, 0x399]),
    (0x1F91, [0x1F29, 0x399]), (0x1F92, [0x1F2A, 0x399]), (0x1F93, [0x1F2B, 0x399]),
    (0x1F94, [0x1F2C, 0x399]), (0x1F95, [0x1F2D, 0x399]), (0x1F96, [0x1F2E, 0x399]),
    (0x1F97, [0x1F2F, 0x399]), (0x1F98, [0x1F28, 0x399]), (0x1F99, [0x1F29, 0x399]),
    (0x1F9A, [0x1F2A, 0x399]), (0x1F9B, [0x1F2B, 0x399]), (0x1F9C, [0x1F2C, 0x399]),
    (0x1F9D, [0x1F2D, 0x399]), (0x1F9E, [0x1F2E, 0x399]), (0x1F9F, [0x1F2F, 0x399]),
    (0x1FA0, [0x1F68, 0x399]), (0x1FA1, [0x1F69, 0x399]), (0x1FA2, [0x1F6A, 0x399]),
    (0x1FA3, [0x1F6B, 0x399]), (0x1FA4, [0x1F6C, 0x399]), (0x1FA5, [0x1F6D, 0x399]),
    (0x1FA6, [0x1F6E, 0x399]), (0x1FA7, [0x1F6F, 0x399]), (0x1FA8, [0x1F68, 0x399]),
    (0x1FA9, [0x1F69, 0x399]), (0x1FAA, [0x1F6A, 0x399]), (0x1FAB, [0x1F6B, 0x399]),
    (0x1FAC, [0x1F6C, 0x399]), (0x1FAD, [0x1F6D, 0x399]), (0x1FAE, [0x1F6E, 0x399]),
    (0x1FAF, [0x1F6F, 0x399]), (0x1FB2, [0x1FBA, 0x399]), (0x1FB3, [0x391, 0x399]),
    (0x1FB4, [0x386, 0x399]), (0x1FB6, [0x391, 0x342]), (0x1FB7, [0x391, 0x342, 0x399]),
    (0x1FBC, [0x391, 0x399]), (0x1FC2, [0x1FCA, 0x399]), (0x1FC3, [0x397, 0x399]),
    (0x1FC4, [0x389, 0x399]), (0x1FC6, [0x397, 0x342]), (0x1FC7, [0x397, 0x342, 0x399]),
    (0x1FCC, [0x397, 0x399]), (0x1FD2, [0x399, 0x308, 0x300]), (0x1FD3, [0x399, 0x308, 0x301]),
    (0x1FD6, [0x399, 0x342]), (0x1FD7, [0x399, 0x308, 0x342]), (0x1FE2, [0x3A5, 0x308, 0x300]),
    (0x1FE3, [0x3A5, 0x308, 0x301]), (0x1FE4, [0x3A1, 0x313]), (0x1FE6, [0x3A5, 0x342]),
    (0x1FE7, [0x3A5, 0x308, 0x342]), (0x1FF2, [0x1FFA, 0x399]), (0x1FF3, [0x3A9, 0x399]),
    (0x1FF4, [0x38F, 0x399]), (0x1FF6, [0x3A9, 0x342]), (0x1FF7, [0x3A9, 0x342, 0x399]),
    (0x1FFC, [0x3A9, 0x399]), (0xFB00, [0x46, 0x46]), (0xFB01, [0x46, 0x49]),
    (0xFB02, [0x46, 0x4C]), (0xFB03, [0x46, 0x46, 0x49]), (0xFB04, [0x46, 0x46, 0x4C]),
    (0xFB05, [0x53, 0x54]), (0xFB06, [0x53, 0x54]), (0xFB13, [0x544, 0x546]),
    (0xFB14, [0x544, 0x535]), (0xFB15, [0x544, 0x53B]), (0xFB16, [0x54E, 0x546]),
    (0xFB17, [0x544, 0x53D])]

end RestFlow.Text
