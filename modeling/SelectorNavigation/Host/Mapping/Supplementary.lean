import SelectorNavigation.Host.Mapping.Basic

/-!
# Images beyond the basic plane

The images of characters beyond the basic plane other than ideographs.
-/

namespace SelectorNavigation

namespace Host

/-- The images of characters beyond the basic plane other than ideographs. -/
def supplementaryImages : List ImageBlock :=
  [⟨0x10595, [[0x105BC]]⟩, ⟨0x10781, [[0x2D0], [0x2D1], [0xE6], [0x299], [0x253]]⟩, ⟨0x10787,
      [[0x2A3], [0xAB66], [0x2A5], [0x2A4], [0x256], [0x257], [0x1D91], [0x258], [0x25E], [0x2A9],
      [0x264], [0x262], [0x260], [0x29B], [0x127], [0x29C], [0x267], [0x284], [0x2AA], [0x2AB],
      [0x26C], [0x1DF04], [0xA78E], [0x26E], [0x1DF05], [0x28E], [0x1DF06], [0xF8], [0x276],
      [0x277], [0x71], [0x27A], [0x1DF08], [0x27D], [0x27E], [0x280], [0x2A8], [0x2A6], [0xAB67],
      [0x2A7], [0x288], [0x2C71]]⟩, ⟨0x107B2, [[0x28F], [0x2A1], [0x2A2], [0x298]]⟩, ⟨0x107B9,
      [[0x1DF0A], [0x1DF1E]]⟩, ⟨0x1D15E, [[0x1D157, 0x1D165], [0x1D158, 0x1D165],
      [0x1D158, 0x1D165, 0x1D16E], [0x1D158, 0x1D165, 0x1D16F], [0x1D158, 0x1D165, 0x1D170],
      [0x1D158, 0x1D165, 0x1D171], [0x1D158, 0x1D165, 0x1D172]]⟩, ⟨0x1D1BB, [[0x1D1B9, 0x1D165],
      [0x1D1BA, 0x1D165], [0x1D1B9, 0x1D165, 0x1D16E], [0x1D1BA, 0x1D165, 0x1D16E],
      [0x1D1B9, 0x1D165, 0x1D16F], [0x1D1BA, 0x1D165, 0x1D16F]]⟩, ⟨0x1D49C, [[0x61]]⟩, ⟨0x1D49E,
      [[0x63], [0x64]]⟩, ⟨0x1D4A2, [[0x67]]⟩, ⟨0x1D4A5, [[0x6A], [0x6B]]⟩, ⟨0x1D504, [[0x61]]⟩,
    ⟨0x1D508, [[0x65]]⟩, ⟨0x1D50A, [[0x67]]⟩, ⟨0x1D538, [[0x61]]⟩, ⟨0x1D541, [[0x6A]]⟩, ⟨0x1D543,
      [[0x6C]]⟩, ⟨0x1D6A4, [[0x131], [0x237]]⟩, ⟨0x1D6B9, [[0x3B8]]⟩, ⟨0x1D6C1, [[0x2207]]⟩,
    ⟨0x1D6D3, [[0x3C3]]⟩, ⟨0x1D6DB, [[0x2202], [0x3B5], [0x3B8], [0x3BA], [0x3C6], [0x3C1],
      [0x3C0]]⟩, ⟨0x1D6F3, [[0x3B8]]⟩, ⟨0x1D6FB, [[0x2207]]⟩, ⟨0x1D70D, [[0x3C3]]⟩, ⟨0x1D715,
      [[0x2202], [0x3B5], [0x3B8], [0x3BA], [0x3C6], [0x3C1], [0x3C0]]⟩, ⟨0x1D72D, [[0x3B8]]⟩,
    ⟨0x1D735, [[0x2207]]⟩, ⟨0x1D747, [[0x3C3]]⟩, ⟨0x1D74F, [[0x2202], [0x3B5], [0x3B8], [0x3BA],
      [0x3C6], [0x3C1], [0x3C0]]⟩, ⟨0x1D767, [[0x3B8]]⟩, ⟨0x1D76F, [[0x2207]]⟩, ⟨0x1D781,
      [[0x3C3]]⟩, ⟨0x1D789, [[0x2202], [0x3B5], [0x3B8], [0x3BA], [0x3C6], [0x3C1], [0x3C0]]⟩,
    ⟨0x1D7A1, [[0x3B8]]⟩, ⟨0x1D7A9, [[0x2207]]⟩, ⟨0x1D7BB, [[0x3C3]]⟩, ⟨0x1D7C3, [[0x2202],
      [0x3B5], [0x3B8], [0x3BA], [0x3C6], [0x3C1], [0x3C0], [0x3DD], [0x3DD]]⟩, ⟨0x1E047,
      [[0x44B], [0x44D], [0x44E], [0xA689], [0x4D9], [0x456], [0x458], [0x4E9], [0x4AF],
      [0x4CF]]⟩, ⟨0x1E05A, [[0x43A], [0x43B], [0x43E], [0x43F], [0x441]]⟩, ⟨0x1E065, [[0x44A],
      [0x44B], [0x491], [0x456], [0x455], [0x45F], [0x4AB], [0xA651], [0x4B1]]⟩, ⟨0x1EE00,
      [[0x627], [0x628], [0x62C], [0x62F]]⟩, ⟨0x1EE05, [[0x648], [0x632], [0x62D], [0x637],
      [0x64A]]⟩, ⟨0x1EE0E, [[0x633], [0x639], [0x641], [0x635], [0x642], [0x631], [0x634],
      [0x62A], [0x62B], [0x62E], [0x630], [0x636], [0x638], [0x63A], [0x66E], [0x6BA], [0x6A1],
      [0x66F]]⟩, ⟨0x1EE21, [[0x628], [0x62C]]⟩, ⟨0x1EE24, [[0x647]]⟩, ⟨0x1EE27, [[0x62D]]⟩,
    ⟨0x1EE29, [[0x64A]]⟩, ⟨0x1EE2E, [[0x633], [0x639], [0x641], [0x635], [0x642]]⟩, ⟨0x1EE34,
      [[0x634], [0x62A], [0x62B], [0x62E]]⟩, ⟨0x1EE39, [[0x636]]⟩, ⟨0x1EE3B, [[0x63A]]⟩, ⟨0x1EE42,
      [[0x62C]]⟩, ⟨0x1EE47, [[0x62D]]⟩, ⟨0x1EE49, [[0x64A]]⟩, ⟨0x1EE4B, [[0x644]]⟩, ⟨0x1EE4D,
      [[0x646], [0x633], [0x639]]⟩, ⟨0x1EE51, [[0x635], [0x642]]⟩, ⟨0x1EE54, [[0x634]]⟩, ⟨0x1EE57,
      [[0x62E]]⟩, ⟨0x1EE59, [[0x636]]⟩, ⟨0x1EE5B, [[0x63A]]⟩, ⟨0x1EE5D, [[0x6BA]]⟩, ⟨0x1EE5F,
      [[0x66F]]⟩, ⟨0x1EE61, [[0x628], [0x62C]]⟩, ⟨0x1EE64, [[0x647]]⟩, ⟨0x1EE67, [[0x62D],
      [0x637], [0x64A], [0x643]]⟩, ⟨0x1EE6C, [[0x645], [0x646], [0x633], [0x639], [0x641],
      [0x635], [0x642]]⟩, ⟨0x1EE74, [[0x634], [0x62A], [0x62B], [0x62E]]⟩, ⟨0x1EE79, [[0x636],
      [0x638], [0x63A], [0x66E]]⟩, ⟨0x1EE7E, [[0x6A1]]⟩, ⟨0x1EE80, [[0x627], [0x628], [0x62C],
      [0x62F], [0x647], [0x648], [0x632], [0x62D], [0x637], [0x64A]]⟩, ⟨0x1EE8E, [[0x633],
      [0x639], [0x641], [0x635], [0x642], [0x631], [0x634], [0x62A], [0x62B], [0x62E], [0x630],
      [0x636], [0x638], [0x63A]]⟩, ⟨0x1EEA1, [[0x628], [0x62C], [0x62F]]⟩, ⟨0x1EEA5, [[0x648],
      [0x632], [0x62D], [0x637], [0x64A]]⟩, ⟨0x1EEAE, [[0x633], [0x639], [0x641], [0x635],
      [0x642], [0x631], [0x634], [0x62A], [0x62B], [0x62E], [0x630], [0x636], [0x638], [0x63A]]⟩,
    ⟨0x1F101, [[0x30, 0x2C], [0x31, 0x2C], [0x32, 0x2C], [0x33, 0x2C], [0x34, 0x2C], [0x35, 0x2C],
      [0x36, 0x2C], [0x37, 0x2C], [0x38, 0x2C], [0x39, 0x2C]]⟩, ⟨0x1F110, [[0x28, 0x61, 0x29],
      [0x28, 0x62, 0x29], [0x28, 0x63, 0x29], [0x28, 0x64, 0x29], [0x28, 0x65, 0x29],
      [0x28, 0x66, 0x29], [0x28, 0x67, 0x29], [0x28, 0x68, 0x29], [0x28, 0x69, 0x29],
      [0x28, 0x6A, 0x29], [0x28, 0x6B, 0x29], [0x28, 0x6C, 0x29], [0x28, 0x6D, 0x29],
      [0x28, 0x6E, 0x29], [0x28, 0x6F, 0x29], [0x28, 0x70, 0x29], [0x28, 0x71, 0x29],
      [0x28, 0x72, 0x29], [0x28, 0x73, 0x29], [0x28, 0x74, 0x29], [0x28, 0x75, 0x29],
      [0x28, 0x76, 0x29], [0x28, 0x77, 0x29], [0x28, 0x78, 0x29], [0x28, 0x79, 0x29],
      [0x28, 0x7A, 0x29], [0x3014, 0x73, 0x3015], [0x63], [0x72], [0x63, 0x64], [0x77, 0x7A]]⟩,
    ⟨0x1F14A, [[0x68, 0x76], [0x6D, 0x76], [0x73, 0x64], [0x73, 0x73], [0x70, 0x70, 0x76],
      [0x77, 0x63]]⟩, ⟨0x1F16A, [[0x6D, 0x63], [0x6D, 0x64], [0x6D, 0x72]]⟩, ⟨0x1F190,
      [[0x64, 0x6A]]⟩, ⟨0x1F200, [[0x307B, 0x304B], [0x30B3, 0x30B3], [0x30B5]]⟩, ⟨0x1F210,
      [[0x624B], [0x5B57], [0x53CC], [0x30C7], [0x4E8C], [0x591A], [0x89E3], [0x5929], [0x4EA4],
      [0x6620], [0x7121], [0x6599], [0x524D], [0x5F8C], [0x518D], [0x65B0], [0x521D], [0x7D42],
      [0x751F], [0x8CA9], [0x58F0], [0x5439], [0x6F14], [0x6295], [0x6355], [0x4E00], [0x4E09],
      [0x904A], [0x5DE6], [0x4E2D], [0x53F3], [0x6307], [0x8D70], [0x6253], [0x7981], [0x7A7A],
      [0x5408], [0x6E80], [0x6709], [0x6708], [0x7533], [0x5272], [0x55B6], [0x914D]]⟩, ⟨0x1F240,
      [[0x3014, 0x672C, 0x3015], [0x3014, 0x4E09, 0x3015], [0x3014, 0x4E8C, 0x3015],
      [0x3014, 0x5B89, 0x3015], [0x3014, 0x70B9, 0x3015], [0x3014, 0x6253, 0x3015],
      [0x3014, 0x76D7, 0x3015], [0x3014, 0x52DD, 0x3015], [0x3014, 0x6557, 0x3015]]⟩, ⟨0x1F250,
      [[0x5F97], [0x53EF]]⟩]

end Host

end SelectorNavigation
