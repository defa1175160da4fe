import SelectorNavigation.Host.Mapping.Basic

/-!
# Images of East Asian characters

The images of radicals, kana and enclosed or squared characters.  A radical becomes
the ideograph it stands for, and a squared word becomes its letters.
-/

namespace SelectorNavigation

namespace Host

/-- The images of radicals, kana, enclosed and squared characters. -/
def eastImages : List ImageBlock :=
  [⟨0x2E9F, [[0x6BCD]]⟩, ⟨0x2EF3, [[0x9F9F]]⟩, ⟨0x2F00, [[0x4E00], [0x4E28], [0x4E36], [0x4E3F],
      [0x4E59], [0x4E85], [0x4E8C], [0x4EA0], [0x4EBA], [0x513F], [0x5165], [0x516B], [0x5182],
      [0x5196], [0x51AB], [0x51E0], [0x51F5], [0x5200], [0x529B], [0x52F9], [0x5315], [0x531A],
      [0x5338], [0x5341], [0x535C], [0x5369], [0x5382], [0x53B6], [0x53C8], [0x53E3], [0x56D7],
      [0x571F], [0x58EB], [0x5902], [0x590A], [0x5915], [0x5927], [0x5973], [0x5B50], [0x5B80],
      [0x5BF8], [0x5C0F], [0x5C22], [0x5C38], [0x5C6E], [0x5C71], [0x5DDB], [0x5DE5], [0x5DF1],
      [0x5DFE], [0x5E72], [0x5E7A], [0x5E7F], [0x5EF4], [0x5EFE], [0x5F0B], [0x5F13], [0x5F50],
      [0x5F61], [0x5F73], [0x5FC3], [0x6208], [0x6236], [0x624B], [0x652F], [0x6534], [0x6587],
      [0x6597], [0x65A4], [0x65B9], [0x65E0], [0x65E5], [0x66F0], [0x6708], [0x6728], [0x6B20],
      [0x6B62], [0x6B79], [0x6BB3], [0x6BCB], [0x6BD4], [0x6BDB], [0x6C0F], [0x6C14], [0x6C34],
      [0x706B], [0x722A], [0x7236], [0x723B], [0x723F], [0x7247], [0x7259], [0x725B], [0x72AC],
      [0x7384], [0x7389], [0x74DC], [0x74E6], [0x7518], [0x751F], [0x7528], [0x7530], [0x758B],
      [0x7592], [0x7676], [0x767D], [0x76AE], [0x76BF], [0x76EE], [0x77DB], [0x77E2], [0x77F3],
      [0x793A], [0x79B8], [0x79BE], [0x7A74], [0x7ACB], [0x7AF9], [0x7C73], [0x7CF8], [0x7F36],
      [0x7F51], [0x7F8A], [0x7FBD], [0x8001], [0x800C], [0x8012], [0x8033], [0x807F], [0x8089],
      [0x81E3], [0x81EA], [0x81F3], [0x81FC], [0x820C], [0x821B], [0x821F], [0x826E], [0x8272],
      [0x8278], [0x864D], [0x866B], [0x8840], [0x884C], [0x8863], [0x897E], [0x898B], [0x89D2],
      [0x8A00], [0x8C37], [0x8C46], [0x8C55], [0x8C78], [0x8C9D], [0x8D64], [0x8D70], [0x8DB3],
      [0x8EAB], [0x8ECA], [0x8F9B], [0x8FB0], [0x8FB5], [0x9091], [0x9149], [0x91C6], [0x91CC],
      [0x91D1], [0x9577], [0x9580], [0x961C], [0x96B6], [0x96B9], [0x96E8], [0x9751], [0x975E],
      [0x9762], [0x9769], [0x97CB], [0x97ED], [0x97F3], [0x9801], [0x98A8], [0x98DB], [0x98DF],
      [0x9996], [0x9999], [0x99AC], [0x9AA8], [0x9AD8], [0x9ADF], [0x9B25], [0x9B2F], [0x9B32],
      [0x9B3C], [0x9B5A], [0x9CE5], [0x9E75], [0x9E7F], [0x9EA5], [0x9EBB], [0x9EC3], [0x9ECD],
      [0x9ED1], [0x9EF9], [0x9EFD], [0x9F0E], [0x9F13], [0x9F20], [0x9F3B], [0x9F4A], [0x9F52],
      [0x9F8D], [0x9F9C], [0x9FA0]]⟩, ⟨0x3000, [[0x20]]⟩, ⟨0x3002, [[0x2E]]⟩, ⟨0x3036,
      [[0x3012]]⟩, ⟨0x3038, [[0x5341], [0x5344], [0x5345]]⟩, ⟨0x309B, [[0x20, 0x3099],
      [0x20, 0x309A]]⟩, ⟨0x309F, [[0x3088, 0x308A]]⟩, ⟨0x30FF, [[0x30B3, 0x30C8]]⟩, ⟨0x3131,
      [[0x1100], [0x1101], [0x11AA], [0x1102], [0x11AC], [0x11AD]]⟩, ⟨0x3140, [[0x111A]]⟩,
    ⟨0x3144, [[0x1121]]⟩, ⟨0x3165, [[0x1114], [0x1115], [0x11C7], [0x11C8], [0x11CC], [0x11CE],
      [0x11D3], [0x11D7], [0x11D9], [0x111C], [0x11DD], [0x11DF], [0x111D], [0x111E], [0x1120],
      [0x1122], [0x1123], [0x1127], [0x1129]]⟩, ⟨0x317D, [[0x1132], [0x1136], [0x1140], [0x1147],
      [0x114C], [0x11F1], [0x11F2]]⟩, ⟨0x3187, [[0x1184], [0x1185], [0x1188], [0x1191], [0x1192],
      [0x1194], [0x119E], [0x11A1]]⟩, ⟨0x3192, [[0x4E00], [0x4E8C], [0x4E09], [0x56DB], [0x4E0A],
      [0x4E2D], [0x4E0B], [0x7532], [0x4E59], [0x4E19], [0x4E01], [0x5929], [0x5730], [0x4EBA]]⟩,
    ⟨0x3200, [[0x28, 0x1100, 0x29], [0x28, 0x1102, 0x29], [0x28, 0x1103, 0x29],
      [0x28, 0x1105, 0x29], [0x28, 0x1106, 0x29], [0x28, 0x1107, 0x29], [0x28, 0x1109, 0x29],
      [0x28, 0x110B, 0x29], [0x28, 0x110C, 0x29], [0x28, 0x110E, 0x29], [0x28, 0x110F, 0x29],
      [0x28, 0x1110, 0x29], [0x28, 0x1111, 0x29], [0x28, 0x1112, 0x29], [0x28, 0xAC00, 0x29],
      [0x28, 0xB098, 0x29], [0x28, 0xB2E4, 0x29], [0x28, 0xB77C, 0x29], [0x28, 0xB9C8, 0x29],
      [0x28, 0xBC14, 0x29], [0x28, 0xC0AC, 0x29], [0x28, 0xC544, 0x29], [0x28, 0xC790, 0x29],
      [0x28, 0xCC28, 0x29], [0x28, 0xCE74, 0x29], [0x28, 0xD0C0, 0x29], [0x28, 0xD30C, 0x29],
      [0x28, 0xD558, 0x29], [0x28, 0xC8FC, 0x29], [0x28, 0xC624, 0xC804, 0x29],
      [0x28, 0xC624, 0xD6C4, 0x29]]⟩, ⟨0x3220, [[0x28, 0x4E00, 0x29], [0x28, 0x4E8C, 0x29],
      [0x28, 0x4E09, 0x29], [0x28, 0x56DB, 0x29], [0x28, 0x4E94, 0x29], [0x28, 0x516D, 0x29],
      [0x28, 0x4E03, 0x29], [0x28, 0x516B, 0x29], [0x28, 0x4E5D, 0x29], [0x28, 0x5341, 0x29],
      [0x28, 0x6708, 0x29], [0x28, 0x706B, 0x29], [0x28, 0x6C34, 0x29], [0x28, 0x6728, 0x29],
      [0x28, 0x91D1, 0x29], [0x28, 0x571F, 0x29], [0x28, 0x65E5, 0x29], [0x28, 0x682A, 0x29],
      [0x28, 0x6709, 0x29], [0x28, 0x793E, 0x29], [0x28, 0x540D, 0x29], [0x28, 0x7279, 0x29],
      [0x28, 0x8CA1, 0x29], [0x28, 0x795D, 0x29], [0x28, 0x52B4, 0x29], [0x28, 0x4EE3, 0x29],
      [0x28, 0x547C, 0x29], [0x28, 0x5B66, 0x29], [0x28, 0x76E3, 0x29], [0x28, 0x4F01, 0x29],
      [0x28, 0x8CC7, 0x29], [0x28, 0x5354, 0x29], [0x28, 0x796D, 0x29], [0x28, 0x4F11, 0x29],
      [0x28, 0x81EA, 0x29], [0x28, 0x81F3, 0x29], [0x554F], [0x5E7C], [0x6587], [0x7B8F]]⟩,
    ⟨0x3250, [[0x70, 0x74, 0x65], [0x32, 0x31], [0x32, 0x32], [0x32, 0x33], [0x32, 0x34],
      [0x32, 0x35], [0x32, 0x36], [0x32, 0x37], [0x32, 0x38], [0x32, 0x39], [0x33, 0x30],
      [0x33, 0x31], [0x33, 0x32], [0x33, 0x33], [0x33, 0x34], [0x33, 0x35], [0x1100], [0x1102],
      [0x1103]]⟩, ⟨0x3266, [[0x1109], [0x110B], [0x110C]]⟩, ⟨0x326E, [[0xAC00], [0xB098],
      [0xB2E4], [0xB77C], [0xB9C8], [0xBC14], [0xC0AC], [0xC544], [0xC790], [0xCC28], [0xCE74],
      [0xD0C0], [0xD30C], [0xD558], [0xCC38, 0xACE0], [0xC8FC, 0xC758], [0xC6B0]]⟩, ⟨0x3280,
      [[0x4E00], [0x4E8C], [0x4E09], [0x56DB], [0x4E94], [0x516D], [0x4E03], [0x516B], [0x4E5D],
      [0x5341], [0x6708], [0x706B], [0x6C34], [0x6728], [0x91D1], [0x571F], [0x65E5], [0x682A],
      [0x6709], [0x793E], [0x540D], [0x7279], [0x8CA1], [0x795D], [0x52B4], [0x79D8], [0x7537],
      [0x5973], [0x9069], [0x512A], [0x5370], [0x6CE8], [0x9805], [0x4F11], [0x5199], [0x6B63],
      [0x4E0A], [0x4E2D], [0x4E0B], [0x5DE6], [0x53F3], [0x533B], [0x5B97], [0x5B66], [0x76E3],
      [0x4F01], [0x8CC7], [0x5354], [0x591C], [0x33, 0x36], [0x33, 0x37], [0x33, 0x38],
      [0x33, 0x39], [0x34, 0x30], [0x34, 0x31], [0x34, 0x32], [0x34, 0x33], [0x34, 0x34],
      [0x34, 0x35], [0x34, 0x36], [0x34, 0x37], [0x34, 0x38], [0x34, 0x39], [0x35, 0x30],
      [0x31, 0x6708], [0x32, 0x6708], [0x33, 0x6708], [0x34, 0x6708], [0x35, 0x6708],
      [0x36, 0x6708], [0x37, 0x6708], [0x38, 0x6708], [0x39, 0x6708], [0x31, 0x30, 0x6708],
      [0x31, 0x31, 0x6708], [0x31, 0x32, 0x6708], [0x68, 0x67], [0x65, 0x72, 0x67], [0x65, 0x76],
      [0x6C, 0x74, 0x64], [0x30A2], [0x30A4], [0x30A6], [0x30A8], [0x30AA], [0x30AB], [0x30AD],
      [0x30AF], [0x30B1], [0x30B3], [0x30B5], [0x30B7], [0x30B9], [0x30BB], [0x30BD], [0x30BF],
      [0x30C1], [0x30C4], [0x30C6], [0x30C8]]⟩, ⟨0x32EA, [[0x30D2], [0x30D5], [0x30D8],
      [0x30DB]]⟩, ⟨0x32F3, [[0x30E4], [0x30E6]]⟩, ⟨0x32FF, [[0x4EE4, 0x548C],
      [0x30A2, 0x30D1, 0x30FC, 0x30C8], [0x30A2, 0x30EB, 0x30D5, 0x30A1],
      [0x30A2, 0x30F3, 0x30DA, 0x30A2], [0x30A2, 0x30FC, 0x30EB],
      [0x30A4, 0x30CB, 0x30F3, 0x30B0], [0x30A4, 0x30F3, 0x30C1], [0x30A6, 0x30A9, 0x30F3],
      [0x30A8, 0x30B9, 0x30AF, 0x30FC, 0x30C9], [0x30A8, 0x30FC, 0x30AB, 0x30FC],
      [0x30AA, 0x30F3, 0x30B9], [0x30AA, 0x30FC, 0x30E0], [0x30AB, 0x30A4, 0x30EA],
      [0x30AB, 0x30E9, 0x30C3, 0x30C8], [0x30AB, 0x30ED, 0x30EA, 0x30FC],
      [0x30AC, 0x30ED, 0x30F3], [0x30AC, 0x30F3, 0x30DE], [0x30AE, 0x30AC],
      [0x30AE, 0x30CB, 0x30FC], [0x30AD, 0x30E5, 0x30EA, 0x30FC],
      [0x30AE, 0x30EB, 0x30C0, 0x30FC], [0x30AD, 0x30ED],
      [0x30AD, 0x30ED, 0x30B0, 0x30E9, 0x30E0], [0x30AD, 0x30ED, 0x30E1, 0x30FC, 0x30C8, 0x30EB],
      [0x30AD, 0x30ED, 0x30EF, 0x30C3, 0x30C8], [0x30B0, 0x30E9, 0x30E0],
      [0x30B0, 0x30E9, 0x30E0, 0x30C8, 0x30F3], [0x30AF, 0x30EB, 0x30BC, 0x30A4, 0x30ED],
      [0x30AF, 0x30ED, 0x30FC, 0x30CD], [0x30B1, 0x30FC, 0x30B9], [0x30B3, 0x30EB, 0x30CA],
      [0x30B3, 0x30FC, 0x30DD], [0x30B5, 0x30A4, 0x30AF, 0x30EB],
      [0x30B5, 0x30F3, 0x30C1, 0x30FC, 0x30E0], [0x30B7, 0x30EA, 0x30F3, 0x30B0],
      [0x30BB, 0x30F3, 0x30C1], [0x30BB, 0x30F3, 0x30C8], [0x30C0, 0x30FC, 0x30B9],
      [0x30C7, 0x30B7], [0x30C9, 0x30EB], [0x30C8, 0x30F3], [0x30CA, 0x30CE],
      [0x30CE, 0x30C3, 0x30C8], [0x30CF, 0x30A4, 0x30C4],
      [0x30D1, 0x30FC, 0x30BB, 0x30F3, 0x30C8], [0x30D1, 0x30FC, 0x30C4],
      [0x30D0, 0x30FC, 0x30EC, 0x30EB], [0x30D4, 0x30A2, 0x30B9, 0x30C8, 0x30EB],
      [0x30D4, 0x30AF, 0x30EB], [0x30D4, 0x30B3], [0x30D3, 0x30EB],
      [0x30D5, 0x30A1, 0x30E9, 0x30C3, 0x30C9], [0x30D5, 0x30A3, 0x30FC, 0x30C8],
      [0x30D6, 0x30C3, 0x30B7, 0x30A7, 0x30EB], [0x30D5, 0x30E9, 0x30F3],
      [0x30D8, 0x30AF, 0x30BF, 0x30FC, 0x30EB], [0x30DA, 0x30BD], [0x30DA, 0x30CB, 0x30D2],
      [0x30D8, 0x30EB, 0x30C4], [0x30DA, 0x30F3, 0x30B9], [0x30DA, 0x30FC, 0x30B8],
      [0x30D9, 0x30FC, 0x30BF], [0x30DD, 0x30A4, 0x30F3, 0x30C8], [0x30DC, 0x30EB, 0x30C8],
      [0x30DB, 0x30F3], [0x30DD, 0x30F3, 0x30C9], [0x30DB, 0x30FC, 0x30EB],
      [0x30DB, 0x30FC, 0x30F3], [0x30DE, 0x30A4, 0x30AF, 0x30ED], [0x30DE, 0x30A4, 0x30EB],
      [0x30DE, 0x30C3, 0x30CF], [0x30DE, 0x30EB, 0x30AF],
      [0x30DE, 0x30F3, 0x30B7, 0x30E7, 0x30F3], [0x30DF, 0x30AF, 0x30ED, 0x30F3],
      [0x30DF, 0x30EA], [0x30DF, 0x30EA, 0x30D0, 0x30FC, 0x30EB], [0x30E1, 0x30AC],
      [0x30E1, 0x30AC, 0x30C8, 0x30F3], [0x30E1, 0x30FC, 0x30C8, 0x30EB],
      [0x30E4, 0x30FC, 0x30C9], [0x30E4, 0x30FC, 0x30EB], [0x30E6, 0x30A2, 0x30F3],
      [0x30EA, 0x30C3, 0x30C8, 0x30EB], [0x30EA, 0x30E9], [0x30EB, 0x30D4, 0x30FC],
      [0x30EB, 0x30FC, 0x30D6, 0x30EB], [0x30EC, 0x30E0],
      [0x30EC, 0x30F3, 0x30C8, 0x30B2, 0x30F3], [0x30EF, 0x30C3, 0x30C8], [0x30, 0x70B9],
      [0x31, 0x70B9], [0x32, 0x70B9], [0x33, 0x70B9], [0x34, 0x70B9], [0x35, 0x70B9],
      [0x36, 0x70B9], [0x37, 0x70B9], [0x38, 0x70B9], [0x39, 0x70B9], [0x31, 0x30, 0x70B9],
      [0x31, 0x31, 0x70B9], [0x31, 0x32, 0x70B9], [0x31, 0x33, 0x70B9], [0x31, 0x34, 0x70B9],
      [0x31, 0x35, 0x70B9], [0x31, 0x36, 0x70B9], [0x31, 0x37, 0x70B9], [0x31, 0x38, 0x70B9],
      [0x31, 0x39, 0x70B9], [0x32, 0x30, 0x70B9], [0x32, 0x31, 0x70B9], [0x32, 0x32, 0x70B9],
      [0x32, 0x33, 0x70B9], [0x32, 0x34, 0x70B9], [0x68, 0x70, 0x61], [0x64, 0x61], [0x61, 0x75],
      [0x62, 0x61, 0x72], [0x6F, 0x76], [0x70, 0x63], [0x64, 0x6D], [0x64, 0x6D, 0x32],
      [0x64, 0x6D, 0x33], [0x69, 0x75], [0x5E73, 0x6210], [0x662D, 0x548C], [0x5927, 0x6B63],
      [0x660E, 0x6CBB], [0x682A, 0x5F0F, 0x4F1A, 0x793E], [0x70, 0x61], [0x6E, 0x61],
      [0x3BC, 0x61], [0x6D, 0x61], [0x6B, 0x61], [0x6B, 0x62], [0x6D, 0x62], [0x67, 0x62],
      [0x63, 0x61, 0x6C], [0x6B, 0x63, 0x61, 0x6C], [0x70, 0x66], [0x6E, 0x66], [0x3BC, 0x66],
      [0x3BC, 0x67], [0x6D, 0x67], [0x6B, 0x67], [0x68, 0x7A], [0x6B, 0x68, 0x7A],
      [0x6D, 0x68, 0x7A], [0x67, 0x68, 0x7A], [0x74, 0x68, 0x7A], [0x3BC, 0x6C], [0x6D, 0x6C],
      [0x64, 0x6C], [0x6B, 0x6C], [0x66, 0x6D], [0x6E, 0x6D], [0x3BC, 0x6D], [0x6D, 0x6D],
      [0x63, 0x6D], [0x6B, 0x6D], [0x6D, 0x6D, 0x32], [0x63, 0x6D, 0x32], [0x6D, 0x32],
      [0x6B, 0x6D, 0x32], [0x6D, 0x6D, 0x33], [0x63, 0x6D, 0x33], [0x6D, 0x33],
      [0x6B, 0x6D, 0x33], [0x6D, 0x2215, 0x73], [0x6D, 0x2215, 0x73, 0x32], [0x70, 0x61],
      [0x6B, 0x70, 0x61], [0x6D, 0x70, 0x61], [0x67, 0x70, 0x61], [0x72, 0x61, 0x64],
      [0x72, 0x61, 0x64, 0x2215, 0x73], [0x72, 0x61, 0x64, 0x2215, 0x73, 0x32], [0x70, 0x73],
      [0x6E, 0x73], [0x3BC, 0x73], [0x6D, 0x73], [0x70, 0x76], [0x6E, 0x76], [0x3BC, 0x76],
      [0x6D, 0x76], [0x6B, 0x76], [0x6D, 0x76], [0x70, 0x77], [0x6E, 0x77], [0x3BC, 0x77],
      [0x6D, 0x77], [0x6B, 0x77], [0x6D, 0x77], [0x6B, 0x3C9], [0x6D, 0x3C9]]⟩, ⟨0x33C3,
      [[0x62, 0x71], [0x63, 0x63], [0x63, 0x64], [0x63, 0x2215, 0x6B, 0x67]]⟩, ⟨0x33C8,
      [[0x64, 0x62], [0x67, 0x79], [0x68, 0x61], [0x68, 0x70], [0x69, 0x6E], [0x6B, 0x6B],
      [0x6B, 0x6D], [0x6B, 0x74], [0x6C, 0x6D], [0x6C, 0x6E], [0x6C, 0x6F, 0x67], [0x6C, 0x78],
      [0x6D, 0x62], [0x6D, 0x69, 0x6C], [0x6D, 0x6F, 0x6C], [0x70, 0x68]]⟩, ⟨0x33D9,
      [[0x70, 0x70, 0x6D], [0x70, 0x72], [0x73, 0x72], [0x73, 0x76], [0x77, 0x62],
      [0x76, 0x2215, 0x6D], [0x61, 0x2215, 0x6D], [0x31, 0x65E5], [0x32, 0x65E5], [0x33, 0x65E5],
      [0x34, 0x65E5], [0x35, 0x65E5], [0x36, 0x65E5], [0x37, 0x65E5], [0x38, 0x65E5],
      [0x39, 0x65E5], [0x31, 0x30, 0x65E5], [0x31, 0x31, 0x65E5], [0x31, 0x32, 0x65E5],
      [0x31, 0x33, 0x65E5], [0x31, 0x34, 0x65E5], [0x31, 0x35, 0x65E5], [0x31, 0x36, 0x65E5],
      [0x31, 0x37, 0x65E5], [0x31, 0x38, 0x65E5], [0x31, 0x39, 0x65E5], [0x32, 0x30, 0x65E5],
      [0x32, 0x31, 0x65E5], [0x32, 0x32, 0x65E5], [0x32, 0x33, 0x65E5], [0x32, 0x34, 0x65E5],
      [0x32, 0x35, 0x65E5], [0x32, 0x36, 0x65E5], [0x32, 0x37, 0x65E5], [0x32, 0x38, 0x65E5],
      [0x32, 0x39, 0x65E5], [0x33, 0x30, 0x65E5], [0x33, 0x31, 0x65E5], [0x67, 0x61, 0x6C]]⟩,
    ⟨0xA69C, [[0x44A], [0x44C]]⟩, ⟨0xA770, [[0xA76F]]⟩, ⟨0xA779, [[0xA77A]]⟩, ⟨0xA77B,
      [[0xA77C]]⟩, ⟨0xA77D, [[0x1D79]]⟩, ⟨0xA78B, [[0xA78C]]⟩, ⟨0xA78D, [[0x265]]⟩, ⟨0xA790,
      [[0xA791]]⟩, ⟨0xA792, [[0xA793]]⟩, ⟨0xA7AA, [[0x266], [0x25C], [0x261], [0x26C], [0x26A]]⟩,
    ⟨0xA7B0, [[0x29E], [0x287], [0x29D], [0xAB53]]⟩, ⟨0xA7C4, [[0xA794], [0x282], [0x1D8E],
      [0xA7C8]]⟩, ⟨0xA7C9, [[0xA7CA]]⟩, ⟨0xA7CB, [[0x264]]⟩, ⟨0xA7DC, [[0x19B]]⟩, ⟨0xA7F1,
      [[0x73], [0x63], [0x66], [0x71], [0xA7F6]]⟩, ⟨0xA7F8, [[0x127], [0x153]]⟩, ⟨0xAB5C,
      [[0xA727], [0xAB37], [0x26B], [0xAB52]]⟩, ⟨0xAB69, [[0x28D]]⟩]

end Host

end SelectorNavigation
