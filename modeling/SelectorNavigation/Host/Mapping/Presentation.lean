import SelectorNavigation.Host.Mapping.Basic

/-!
# Images of presentation forms

Letters in the form they take inside a word become the letters themselves, and narrow
and wide forms become the ordinary ones.
-/

namespace SelectorNavigation

namespace Host

/-- The images of presentation, narrow and wide forms. -/
def presentationImages : List ImageBlock :=
  [⟨0xFB00, [[0x66, 0x66], [0x66, 0x69], [0x66, 0x6C], [0x66, 0x66, 0x69], [0x66, 0x66, 0x6C],
      [0x73, 0x74], [0x73, 0x74]]⟩, ⟨0xFB13, [[0x574, 0x576], [0x574, 0x565], [0x574, 0x56B],
      [0x57E, 0x576], [0x574, 0x56D]]⟩, ⟨0xFB1D, [[0x5D9, 0x5B4]]⟩, ⟨0xFB1F, [[0x5F2, 0x5B7],
      [0x5E2], [0x5D0], [0x5D3], [0x5D4]]⟩, ⟨0xFB27, [[0x5E8], [0x5EA], [0x2B], [0x5E9, 0x5C1],
      [0x5E9, 0x5C2], [0x5E9, 0x5BC, 0x5C1], [0x5E9, 0x5BC, 0x5C2], [0x5D0, 0x5B7],
      [0x5D0, 0x5B8], [0x5D0, 0x5BC], [0x5D1, 0x5BC], [0x5D2, 0x5BC], [0x5D3, 0x5BC],
      [0x5D4, 0x5BC], [0x5D5, 0x5BC], [0x5D6, 0x5BC]]⟩, ⟨0xFB38, [[0x5D8, 0x5BC], [0x5D9, 0x5BC],
      [0x5DA, 0x5BC], [0x5DB, 0x5BC], [0x5DC, 0x5BC]]⟩, ⟨0xFB3E, [[0x5DE, 0x5BC]]⟩, ⟨0xFB40,
      [[0x5E0, 0x5BC], [0x5E1, 0x5BC]]⟩, ⟨0xFB43, [[0x5E3, 0x5BC], [0x5E4, 0x5BC]]⟩, ⟨0xFB46,
      [[0x5E6, 0x5BC], [0x5E7, 0x5BC], [0x5E8, 0x5BC], [0x5E9, 0x5BC], [0x5EA, 0x5BC],
      [0x5D5, 0x5B9], [0x5D1, 0x5BF], [0x5DB, 0x5BF], [0x5E4, 0x5BF], [0x5D0, 0x5DC], [0x671],
      [0x671], [0x67B], [0x67B], [0x67B], [0x67B], [0x67E], [0x67E], [0x67E], [0x67E], [0x680],
      [0x680], [0x680], [0x680], [0x67A], [0x67A], [0x67A], [0x67A], [0x67F], [0x67F], [0x67F],
      [0x67F], [0x679], [0x679], [0x679], [0x679], [0x6A4], [0x6A4], [0x6A4], [0x6A4], [0x6A6],
      [0x6A6], [0x6A6], [0x6A6], [0x684], [0x684], [0x684], [0x684], [0x683], [0x683], [0x683],
      [0x683], [0x686], [0x686], [0x686], [0x686], [0x687], [0x687], [0x687], [0x687], [0x68D],
      [0x68D], [0x68C], [0x68C], [0x68E], [0x68E], [0x688], [0x688], [0x698], [0x698], [0x691],
      [0x691], [0x6A9], [0x6A9], [0x6A9], [0x6A9], [0x6AF], [0x6AF], [0x6AF], [0x6AF], [0x6B3],
      [0x6B3], [0x6B3], [0x6B3], [0x6B1], [0x6B1], [0x6B1], [0x6B1], [0x6BA], [0x6BA], [0x6BB],
      [0x6BB], [0x6BB], [0x6BB], [0x6C0], [0x6C0], [0x6C1], [0x6C1], [0x6C1], [0x6C1], [0x6BE],
      [0x6BE], [0x6BE], [0x6BE], [0x6D2], [0x6D2], [0x6D3], [0x6D3]]⟩, ⟨0xFBD3, [[0x6AD], [0x6AD],
      [0x6AD], [0x6AD], [0x6C7], [0x6C7], [0x6C6], [0x6C6], [0x6C8], [0x6C8], [0x6C7, 0x674],
      [0x6CB], [0x6CB], [0x6C5], [0x6C5], [0x6C9], [0x6C9], [0x6D0], [0x6D0], [0x6D0], [0x6D0],
      [0x649], [0x649], [0x626, 0x627], [0x626, 0x627], [0x626, 0x6D5], [0x626, 0x6D5],
      [0x626, 0x648], [0x626, 0x648], [0x626, 0x6C7], [0x626, 0x6C7], [0x626, 0x6C6],
      [0x626, 0x6C6], [0x626, 0x6C8], [0x626, 0x6C8], [0x626, 0x6D0], [0x626, 0x6D0],
      [0x626, 0x6D0], [0x626, 0x649], [0x626, 0x649], [0x626, 0x649], [0x6CC], [0x6CC], [0x6CC],
      [0x6CC], [0x626, 0x62C], [0x626, 0x62D], [0x626, 0x645], [0x626, 0x649], [0x626, 0x64A],
      [0x628, 0x62C], [0x628, 0x62D], [0x628, 0x62E], [0x628, 0x645], [0x628, 0x649],
      [0x628, 0x64A], [0x62A, 0x62C], [0x62A, 0x62D], [0x62A, 0x62E], [0x62A, 0x645],
      [0x62A, 0x649], [0x62A, 0x64A], [0x62B, 0x62C], [0x62B, 0x645], [0x62B, 0x649],
      [0x62B, 0x64A], [0x62C, 0x62D], [0x62C, 0x645], [0x62D, 0x62C], [0x62D, 0x645],
      [0x62E, 0x62C], [0x62E, 0x62D], [0x62E, 0x645], [0x633, 0x62C], [0x633, 0x62D],
      [0x633, 0x62E], [0x633, 0x645], [0x635, 0x62D], [0x635, 0x645], [0x636, 0x62C],
      [0x636, 0x62D], [0x636, 0x62E], [0x636, 0x645], [0x637, 0x62D], [0x637, 0x645],
      [0x638, 0x645], [0x639, 0x62C], [0x639, 0x645], [0x63A, 0x62C], [0x63A, 0x645],
      [0x641, 0x62C], [0x641, 0x62D], [0x641, 0x62E], [0x641, 0x645], [0x641, 0x649],
      [0x641, 0x64A], [0x642, 0x62D], [0x642, 0x645], [0x642, 0x649], [0x642, 0x64A],
      [0x643, 0x627], [0x643, 0x62C], [0x643, 0x62D], [0x643, 0x62E], [0x643, 0x644],
      [0x643, 0x645], [0x643, 0x649], [0x643, 0x64A], [0x644, 0x62C], [0x644, 0x62D],
      [0x644, 0x62E], [0x644, 0x645], [0x644, 0x649], [0x644, 0x64A], [0x645, 0x62C],
      [0x645, 0x62D], [0x645, 0x62E], [0x645, 0x645], [0x645, 0x649], [0x645, 0x64A],
      [0x646, 0x62C], [0x646, 0x62D], [0x646, 0x62E], [0x646, 0x645], [0x646, 0x649],
      [0x646, 0x64A], [0x647, 0x62C], [0x647, 0x645], [0x647, 0x649], [0x647, 0x64A],
      [0x64A, 0x62C], [0x64A, 0x62D], [0x64A, 0x62E], [0x64A, 0x645], [0x64A, 0x649],
      [0x64A, 0x64A], [0x630, 0x670], [0x631, 0x670], [0x649, 0x670], [0x20, 0x64C, 0x651],
      [0x20, 0x64D, 0x651], [0x20, 0x64E, 0x651], [0x20, 0x64F, 0x651], [0x20, 0x650, 0x651],
      [0x20, 0x651, 0x670], [0x626, 0x631], [0x626, 0x632], [0x626, 0x645], [0x626, 0x646],
      [0x626, 0x649], [0x626, 0x64A], [0x628, 0x631], [0x628, 0x632], [0x628, 0x645],
      [0x628, 0x646], [0x628, 0x649], [0x628, 0x64A], [0x62A, 0x631], [0x62A, 0x632],
      [0x62A, 0x645], [0x62A, 0x646], [0x62A, 0x649], [0x62A, 0x64A], [0x62B, 0x631],
      [0x62B, 0x632], [0x62B, 0x645], [0x62B, 0x646], [0x62B, 0x649], [0x62B, 0x64A],
      [0x641, 0x649], [0x641, 0x64A], [0x642, 0x649], [0x642, 0x64A], [0x643, 0x627],
      [0x643, 0x644], [0x643, 0x645], [0x643, 0x649], [0x643, 0x64A], [0x644, 0x645],
      [0x644, 0x649], [0x644, 0x64A], [0x645, 0x627], [0x645, 0x645], [0x646, 0x631],
      [0x646, 0x632], [0x646, 0x645], [0x646, 0x646], [0x646, 0x649], [0x646, 0x64A],
      [0x649, 0x670], [0x64A, 0x631], [0x64A, 0x632], [0x64A, 0x645], [0x64A, 0x646],
      [0x64A, 0x649], [0x64A, 0x64A], [0x626, 0x62C], [0x626, 0x62D], [0x626, 0x62E],
      [0x626, 0x645], [0x626, 0x647], [0x628, 0x62C], [0x628, 0x62D], [0x628, 0x62E],
      [0x628, 0x645], [0x628, 0x647], [0x62A, 0x62C], [0x62A, 0x62D], [0x62A, 0x62E],
      [0x62A, 0x645], [0x62A, 0x647], [0x62B, 0x645], [0x62C, 0x62D], [0x62C, 0x645],
      [0x62D, 0x62C], [0x62D, 0x645], [0x62E, 0x62C], [0x62E, 0x645], [0x633, 0x62C],
      [0x633, 0x62D], [0x633, 0x62E], [0x633, 0x645], [0x635, 0x62D], [0x635, 0x62E],
      [0x635, 0x645], [0x636, 0x62C], [0x636, 0x62D], [0x636, 0x62E], [0x636, 0x645],
      [0x637, 0x62D], [0x638, 0x645], [0x639, 0x62C], [0x639, 0x645], [0x63A, 0x62C],
      [0x63A, 0x645], [0x641, 0x62C], [0x641, 0x62D], [0x641, 0x62E], [0x641, 0x645],
      [0x642, 0x62D], [0x642, 0x645], [0x643, 0x62C], [0x643, 0x62D], [0x643, 0x62E],
      [0x643, 0x644], [0x643, 0x645], [0x644, 0x62C], [0x644, 0x62D], [0x644, 0x62E],
      [0x644, 0x645], [0x644, 0x647], [0x645, 0x62C], [0x645, 0x62D], [0x645, 0x62E],
      [0x645, 0x645], [0x646, 0x62C], [0x646, 0x62D], [0x646, 0x62E], [0x646, 0x645],
      [0x646, 0x647], [0x647, 0x62C], [0x647, 0x645], [0x647, 0x670], [0x64A, 0x62C],
      [0x64A, 0x62D], [0x64A, 0x62E], [0x64A, 0x645], [0x64A, 0x647], [0x626, 0x645],
      [0x626, 0x647], [0x628, 0x645], [0x628, 0x647], [0x62A, 0x645], [0x62A, 0x647],
      [0x62B, 0x645], [0x62B, 0x647], [0x633, 0x645], [0x633, 0x647], [0x634, 0x645],
      [0x634, 0x647], [0x643, 0x644], [0x643, 0x645], [0x644, 0x645], [0x646, 0x645],
      [0x646, 0x647], [0x64A, 0x645], [0x64A, 0x647], [0x640, 0x64E, 0x651],
      [0x640, 0x64F, 0x651], [0x640, 0x650, 0x651], [0x637, 0x649], [0x637, 0x64A],
      [0x639, 0x649], [0x639, 0x64A], [0x63A, 0x649], [0x63A, 0x64A], [0x633, 0x649],
      [0x633, 0x64A], [0x634, 0x649], [0x634, 0x64A], [0x62D, 0x649], [0x62D, 0x64A],
      [0x62C, 0x649], [0x62C, 0x64A], [0x62E, 0x649], [0x62E, 0x64A], [0x635, 0x649],
      [0x635, 0x64A], [0x636, 0x649], [0x636, 0x64A], [0x634, 0x62C], [0x634, 0x62D],
      [0x634, 0x62E], [0x634, 0x645], [0x634, 0x631], [0x633, 0x631], [0x635, 0x631],
      [0x636, 0x631], [0x637, 0x649], [0x637, 0x64A], [0x639, 0x649], [0x639, 0x64A],
      [0x63A, 0x649], [0x63A, 0x64A], [0x633, 0x649], [0x633, 0x64A], [0x634, 0x649],
      [0x634, 0x64A], [0x62D, 0x649], [0x62D, 0x64A], [0x62C, 0x649], [0x62C, 0x64A],
      [0x62E, 0x649], [0x62E, 0x64A], [0x635, 0x649], [0x635, 0x64A], [0x636, 0x649],
      [0x636, 0x64A], [0x634, 0x62C], [0x634, 0x62D], [0x634, 0x62E], [0x634, 0x645],
      [0x634, 0x631], [0x633, 0x631], [0x635, 0x631], [0x636, 0x631], [0x634, 0x62C],
      [0x634, 0x62D], [0x634, 0x62E], [0x634, 0x645], [0x633, 0x647], [0x634, 0x647],
      [0x637, 0x645], [0x633, 0x62C], [0x633, 0x62D], [0x633, 0x62E], [0x634, 0x62C],
      [0x634, 0x62D], [0x634, 0x62E], [0x637, 0x645], [0x638, 0x645], [0x627, 0x64B],
      [0x627, 0x64B]]⟩, ⟨0xFD50, [[0x62A, 0x62C, 0x645], [0x62A, 0x62D, 0x62C],
      [0x62A, 0x62D, 0x62C], [0x62A, 0x62D, 0x645], [0x62A, 0x62E, 0x645], [0x62A, 0x645, 0x62C],
      [0x62A, 0x645, 0x62D], [0x62A, 0x645, 0x62E], [0x62C, 0x645, 0x62D], [0x62C, 0x645, 0x62D],
      [0x62D, 0x645, 0x64A], [0x62D, 0x645, 0x649], [0x633, 0x62D, 0x62C], [0x633, 0x62C, 0x62D],
      [0x633, 0x62C, 0x649], [0x633, 0x645, 0x62D], [0x633, 0x645, 0x62D], [0x633, 0x645, 0x62C],
      [0x633, 0x645, 0x645], [0x633, 0x645, 0x645], [0x635, 0x62D, 0x62D], [0x635, 0x62D, 0x62D],
      [0x635, 0x645, 0x645], [0x634, 0x62D, 0x645], [0x634, 0x62D, 0x645], [0x634, 0x62C, 0x64A],
      [0x634, 0x645, 0x62E], [0x634, 0x645, 0x62E], [0x634, 0x645, 0x645], [0x634, 0x645, 0x645],
      [0x636, 0x62D, 0x649], [0x636, 0x62E, 0x645], [0x636, 0x62E, 0x645], [0x637, 0x645, 0x62D],
      [0x637, 0x645, 0x62D], [0x637, 0x645, 0x645], [0x637, 0x645, 0x64A], [0x639, 0x62C, 0x645],
      [0x639, 0x645, 0x645], [0x639, 0x645, 0x645], [0x639, 0x645, 0x649], [0x63A, 0x645, 0x645],
      [0x63A, 0x645, 0x64A], [0x63A, 0x645, 0x649], [0x641, 0x62E, 0x645], [0x641, 0x62E, 0x645],
      [0x642, 0x645, 0x62D], [0x642, 0x645, 0x645], [0x644, 0x62D, 0x645], [0x644, 0x62D, 0x64A],
      [0x644, 0x62D, 0x649], [0x644, 0x62C, 0x62C], [0x644, 0x62C, 0x62C], [0x644, 0x62E, 0x645],
      [0x644, 0x62E, 0x645], [0x644, 0x645, 0x62D], [0x644, 0x645, 0x62D], [0x645, 0x62D, 0x62C],
      [0x645, 0x62D, 0x645], [0x645, 0x62D, 0x64A], [0x645, 0x62C, 0x62D], [0x645, 0x62C, 0x645],
      [0x645, 0x62E, 0x62C], [0x645, 0x62E, 0x645]]⟩, ⟨0xFD92, [[0x645, 0x62C, 0x62E],
      [0x647, 0x645, 0x62C], [0x647, 0x645, 0x645], [0x646, 0x62D, 0x645], [0x646, 0x62D, 0x649],
      [0x646, 0x62C, 0x645], [0x646, 0x62C, 0x645], [0x646, 0x62C, 0x649], [0x646, 0x645, 0x64A],
      [0x646, 0x645, 0x649], [0x64A, 0x645, 0x645], [0x64A, 0x645, 0x645], [0x628, 0x62E, 0x64A],
      [0x62A, 0x62C, 0x64A], [0x62A, 0x62C, 0x649], [0x62A, 0x62E, 0x64A], [0x62A, 0x62E, 0x649],
      [0x62A, 0x645, 0x64A], [0x62A, 0x645, 0x649], [0x62C, 0x645, 0x64A], [0x62C, 0x62D, 0x649],
      [0x62C, 0x645, 0x649], [0x633, 0x62E, 0x649], [0x635, 0x62D, 0x64A], [0x634, 0x62D, 0x64A],
      [0x636, 0x62D, 0x64A], [0x644, 0x62C, 0x64A], [0x644, 0x645, 0x64A], [0x64A, 0x62D, 0x64A],
      [0x64A, 0x62C, 0x64A], [0x64A, 0x645, 0x64A], [0x645, 0x645, 0x64A], [0x642, 0x645, 0x64A],
      [0x646, 0x62D, 0x64A], [0x642, 0x645, 0x62D], [0x644, 0x62D, 0x645], [0x639, 0x645, 0x64A],
      [0x643, 0x645, 0x64A], [0x646, 0x62C, 0x62D], [0x645, 0x62E, 0x64A], [0x644, 0x62C, 0x645],
      [0x643, 0x645, 0x645], [0x644, 0x62C, 0x645], [0x646, 0x62C, 0x62D], [0x62C, 0x62D, 0x64A],
      [0x62D, 0x62C, 0x64A], [0x645, 0x62C, 0x64A], [0x641, 0x645, 0x64A], [0x628, 0x62D, 0x64A],
      [0x643, 0x645, 0x645], [0x639, 0x62C, 0x645], [0x635, 0x645, 0x645], [0x633, 0x62E, 0x64A],
      [0x646, 0x62C, 0x64A]]⟩, ⟨0xFDF0, [[0x635, 0x644, 0x6D2], [0x642, 0x644, 0x6D2],
      [0x627, 0x644, 0x644, 0x647], [0x627, 0x643, 0x628, 0x631], [0x645, 0x62D, 0x645, 0x62F],
      [0x635, 0x644, 0x639, 0x645], [0x631, 0x633, 0x648, 0x644], [0x639, 0x644, 0x64A, 0x647],
      [0x648, 0x633, 0x644, 0x645], [0x635, 0x644, 0x649],
      [0x635, 0x644, 0x649, 0x20, 0x627, 0x644, 0x644, 0x647, 0x20, 0x639, 0x644, 0x64A, 0x647, 0x20, 0x648, 0x633, 0x644, 0x645],
      [0x62C, 0x644, 0x20, 0x62C, 0x644, 0x627, 0x644, 0x647], [0x631, 0x6CC, 0x627, 0x644]]⟩,
    ⟨0xFE10, [[0x2C], [0x3001]]⟩, ⟨0xFE13, [[0x3A], [0x3B], [0x21], [0x3F], [0x3016], [0x3017]]⟩,
    ⟨0xFE31, [[0x2014], [0x2013], [0x5F], [0x5F], [0x28], [0x29], [0x7B], [0x7D], [0x3014],
      [0x3015], [0x3010], [0x3011], [0x300A], [0x300B], [0x3008], [0x3009]]⟩, ⟨0xFE47, [[0x5B],
      [0x5D], [0x20, 0x305], [0x20, 0x305], [0x20, 0x305], [0x20, 0x305], [0x5F], [0x5F], [0x5F],
      [0x2C], [0x3001]]⟩, ⟨0xFE54, [[0x3B], [0x3A], [0x3F], [0x21], [0x2014], [0x28], [0x29],
      [0x7B], [0x7D], [0x3014], [0x3015], [0x23], [0x26], [0x2A], [0x2B], [0x2D], [0x3C], [0x3E],
      [0x3D]]⟩, ⟨0xFE68, [[0x5C], [0x24], [0x25], [0x40]]⟩, ⟨0xFE70, [[0x20, 0x64B],
      [0x640, 0x64B], [0x20, 0x64C]]⟩, ⟨0xFE74, [[0x20, 0x64D]]⟩, ⟨0xFE76, [[0x20, 0x64E],
      [0x640, 0x64E], [0x20, 0x64F], [0x640, 0x64F], [0x20, 0x650], [0x640, 0x650], [0x20, 0x651],
      [0x640, 0x651], [0x20, 0x652], [0x640, 0x652], [0x621], [0x622], [0x622], [0x623], [0x623],
      [0x624], [0x624], [0x625], [0x625], [0x626], [0x626], [0x626], [0x626], [0x627], [0x627],
      [0x628], [0x628], [0x628], [0x628], [0x629], [0x629], [0x62A], [0x62A], [0x62A], [0x62A],
      [0x62B], [0x62B], [0x62B], [0x62B], [0x62C], [0x62C], [0x62C], [0x62C], [0x62D], [0x62D],
      [0x62D], [0x62D], [0x62E], [0x62E], [0x62E], [0x62E], [0x62F], [0x62F], [0x630], [0x630],
      [0x631], [0x631], [0x632], [0x632], [0x633], [0x633], [0x633], [0x633], [0x634], [0x634],
      [0x634], [0x634], [0x635], [0x635], [0x635], [0x635], [0x636], [0x636], [0x636], [0x636],
      [0x637], [0x637], [0x637], [0x637], [0x638], [0x638], [0x638], [0x638], [0x639], [0x639],
      [0x639], [0x639], [0x63A], [0x63A], [0x63A], [0x63A], [0x641], [0x641], [0x641], [0x641],
      [0x642], [0x642], [0x642], [0x642], [0x643], [0x643], [0x643], [0x643], [0x644], [0x644],
      [0x644], [0x644], [0x645], [0x645], [0x645], [0x645], [0x646], [0x646], [0x646], [0x646],
      [0x647], [0x647], [0x647], [0x647], [0x648], [0x648], [0x649], [0x649], [0x64A], [0x64A],
      [0x64A], [0x64A], [0x644, 0x622], [0x644, 0x622], [0x644, 0x623], [0x644, 0x623],
      [0x644, 0x625], [0x644, 0x625], [0x644, 0x627], [0x644, 0x627]]⟩, ⟨0xFF5F, [[0x2985],
      [0x2986], [0x2E], [0x300C], [0x300D], [0x3001], [0x30FB], [0x30F2], [0x30A1], [0x30A3],
      [0x30A5], [0x30A7], [0x30A9], [0x30E3], [0x30E5], [0x30E7], [0x30C3], [0x30FC], [0x30A2],
      [0x30A4], [0x30A6], [0x30A8], [0x30AA], [0x30AB], [0x30AD], [0x30AF], [0x30B1], [0x30B3],
      [0x30B5], [0x30B7], [0x30B9], [0x30BB], [0x30BD], [0x30BF], [0x30C1], [0x30C4], [0x30C6],
      [0x30C8]]⟩, ⟨0xFF8B, [[0x30D2], [0x30D5], [0x30D8], [0x30DB]]⟩, ⟨0xFF94, [[0x30E4],
      [0x30E6]]⟩, ⟨0xFF9C, [[0x30EF], [0x30F3], [0x3099], [0x309A]]⟩, ⟨0xFFA1, [[0x1100],
      [0x1101], [0x11AA], [0x1102], [0x11AC], [0x11AD]]⟩, ⟨0xFFB0, [[0x111A]]⟩, ⟨0xFFB4,
      [[0x1121]]⟩, ⟨0xFFE0, [[0xA2], [0xA3], [0xAC], [0x20, 0x304], [0xA6], [0xA5], [0x20A9]]⟩,
    ⟨0xFFE8, [[0x2502]]⟩, ⟨0xFFED, [[0x25A0], [0x25CB]]⟩]

end Host

end SelectorNavigation
