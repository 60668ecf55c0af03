import MarcHarvest.Unicode.CodeSet

/-!
# Punctuation, symbols, separators and controls

Code points of Unicode 17.0, one set for each general category of
punctuation, symbols, separators and other code points.
-/

namespace MarcHarvest.Unicode.Category

/-- Pc: the low line and its kin. -/
def connectorPunctuation : CodeSet where
  ranges := [
    (0x5f, 0x5f), (0x203f, 0x2040), (0x2054, 0x2054), (0xfe33, 0xfe34), (0xfe4d, 0xfe4f),
    (0xff3f, 0xff3f)]

/-- Pd: dashes. -/
def dashPunctuation : CodeSet where
  ranges := [
    (0x2d, 0x2d), (0x58a, 0x58a), (0x5be, 0x5be), (0x1400, 0x1400), (0x1806, 0x1806),
    (0x2010, 0x2015), (0x2e17, 0x2e17), (0x2e1a, 0x2e1a), (0x2e3a, 0x2e3b), (0x2e40, 0x2e40),
    (0x2e5d, 0x2e5d), (0x301c, 0x301c), (0x3030, 0x3030), (0x30a0, 0x30a0), (0xfe31, 0xfe32),
    (0xfe58, 0xfe58), (0xfe63, 0xfe63), (0xff0d, 0xff0d), (0x10d6e, 0x10d6e), (0x10ead, 0x10ead)]

/-- Ps: opening brackets. -/
def openPunctuation : CodeSet where
  ranges := [
    (0x28, 0x28), (0x5b, 0x5b), (0x7b, 0x7b), (0xf3a, 0xf3a), (0xf3c, 0xf3c), (0x169b, 0x169b),
    (0x201a, 0x201a), (0x201e, 0x201e), (0x2045, 0x2045), (0x207d, 0x207d), (0x208d, 0x208d),
    (0x2308, 0x2308), (0x230a, 0x230a), (0x2329, 0x2329), (0x27c5, 0x27c5), (0x29d8, 0x29d8),
    (0x29da, 0x29da), (0x29fc, 0x29fc), (0x2e42, 0x2e42), (0x301d, 0x301d), (0xfd3f, 0xfd3f),
    (0xfe17, 0xfe17), (0xfe47, 0xfe47), (0xff08, 0xff08), (0xff3b, 0xff3b), (0xff5b, 0xff5b),
    (0xff5f, 0xff5f), (0xff62, 0xff62)]
  alternating := [
    (0x2768, 0x2774), (0x27e6, 0x27ee), (0x2983, 0x2997), (0x2e22, 0x2e28), (0x2e55, 0x2e5b),
    (0x3008, 0x3010), (0x3014, 0x301a), (0xfe35, 0xfe43), (0xfe59, 0xfe5d)]

/-- Pe: closing brackets. -/
def closePunctuation : CodeSet where
  ranges := [
    (0x29, 0x29), (0x5d, 0x5d), (0x7d, 0x7d), (0xf3b, 0xf3b), (0xf3d, 0xf3d), (0x169c, 0x169c),
    (0x2046, 0x2046), (0x207e, 0x207e), (0x208e, 0x208e), (0x2309, 0x2309), (0x230b, 0x230b),
    (0x232a, 0x232a), (0x27c6, 0x27c6), (0x29d9, 0x29d9), (0x29db, 0x29db), (0x29fd, 0x29fd),
    (0x301e, 0x301f), (0xfd3e, 0xfd3e), (0xfe18, 0xfe18), (0xfe48, 0xfe48), (0xff09, 0xff09),
    (0xff3d, 0xff3d), (0xff5d, 0xff5d), (0xff60, 0xff60), (0xff63, 0xff63)]
  alternating := [
    (0x2769, 0x2775), (0x27e7, 0x27ef), (0x2984, 0x2998), (0x2e23, 0x2e29), (0x2e56, 0x2e5c),
    (0x3009, 0x3011), (0x3015, 0x301b), (0xfe36, 0xfe44), (0xfe5a, 0xfe5e)]

/-- Pi: opening quotation marks. -/
def initialPunctuation : CodeSet where
  ranges := [
    (0xab, 0xab), (0x2018, 0x2018), (0x201b, 0x201c), (0x201f, 0x201f), (0x2039, 0x2039),
    (0x2e02, 0x2e02), (0x2e04, 0x2e04), (0x2e09, 0x2e09), (0x2e0c, 0x2e0c), (0x2e1c, 0x2e1c),
    (0x2e20, 0x2e20)]

/-- Pf: closing quotation marks. -/
def finalPunctuation : CodeSet where
  ranges := [
    (0xbb, 0xbb), (0x2019, 0x2019), (0x201d, 0x201d), (0x203a, 0x203a), (0x2e03, 0x2e03),
    (0x2e05, 0x2e05), (0x2e0a, 0x2e0a), (0x2e0d, 0x2e0d), (0x2e1d, 0x2e1d), (0x2e21, 0x2e21)]

/-- Po: all other punctuation. -/
def otherPunctuation : CodeSet where
  ranges := [
    (0x21, 0x23), (0x25, 0x27), (0x2a, 0x2a), (0x2c, 0x2c), (0x2e, 0x2f), (0x3a, 0x3b),
    (0x3f, 0x40), (0x5c, 0x5c), (0xa1, 0xa1), (0xa7, 0xa7), (0xb6, 0xb7), (0xbf, 0xbf),
    (0x37e, 0x37e), (0x387, 0x387), (0x55a, 0x55f), (0x589, 0x589), (0x5c0, 0x5c0),
    (0x5c3, 0x5c3), (0x5c6, 0x5c6), (0x5f3, 0x5f4), (0x609, 0x60a), (0x60c, 0x60d),
    (0x61b, 0x61b), (0x61d, 0x61f), (0x66a, 0x66d), (0x6d4, 0x6d4), (0x700, 0x70d),
    (0x7f7, 0x7f9), (0x830, 0x83e), (0x85e, 0x85e), (0x964, 0x965), (0x970, 0x970),
    (0x9fd, 0x9fd), (0xa76, 0xa76), (0xaf0, 0xaf0), (0xc77, 0xc77), (0xc84, 0xc84),
    (0xdf4, 0xdf4), (0xe4f, 0xe4f), (0xe5a, 0xe5b), (0xf04, 0xf12), (0xf14, 0xf14),
    (0xf85, 0xf85), (0xfd0, 0xfd4), (0xfd9, 0xfda), (0x104a, 0x104f), (0x10fb, 0x10fb),
    (0x1360, 0x1368), (0x166e, 0x166e), (0x16eb, 0x16ed), (0x1735, 0x1736), (0x17d4, 0x17d6),
    (0x17d8, 0x17da), (0x1800, 0x1805), (0x1807, 0x180a), (0x1944, 0x1945), (0x1a1e, 0x1a1f),
    (0x1aa0, 0x1aa6), (0x1aa8, 0x1aad), (0x1b4e, 0x1b4f), (0x1b5a, 0x1b60), (0x1b7d, 0x1b7f),
    (0x1bfc, 0x1bff), (0x1c3b, 0x1c3f), (0x1c7e, 0x1c7f), (0x1cc0, 0x1cc7), (0x1cd3, 0x1cd3),
    (0x2016, 0x2017), (0x2020, 0x2027), (0x2030, 0x2038), (0x203b, 0x203e), (0x2041, 0x2043),
    (0x2047, 0x2051), (0x2053, 0x2053), (0x2055, 0x205e), (0x2cf9, 0x2cfc), (0x2cfe, 0x2cff),
    (0x2d70, 0x2d70), (0x2e00, 0x2e01), (0x2e06, 0x2e08), (0x2e0b, 0x2e0b), (0x2e0e, 0x2e16),
    (0x2e18, 0x2e19), (0x2e1b, 0x2e1b), (0x2e1e, 0x2e1f), (0x2e2a, 0x2e2e), (0x2e30, 0x2e39),
    (0x2e3c, 0x2e3f), (0x2e41, 0x2e41), (0x2e43, 0x2e4f), (0x2e52, 0x2e54), (0x3001, 0x3003),
    (0x303d, 0x303d), (0x30fb, 0x30fb), (0xa4fe, 0xa4ff), (0xa60d, 0xa60f), (0xa673, 0xa673),
    (0xa67e, 0xa67e), (0xa6f2, 0xa6f7), (0xa874, 0xa877), (0xa8ce, 0xa8cf), (0xa8f8, 0xa8fa),
    (0xa8fc, 0xa8fc), (0xa92e, 0xa92f), (0xa95f, 0xa95f), (0xa9c1, 0xa9cd), (0xa9de, 0xa9df),
    (0xaa5c, 0xaa5f), (0xaade, 0xaadf), (0xaaf0, 0xaaf1), (0xabeb, 0xabeb), (0xfe10, 0xfe16),
    (0xfe19, 0xfe19), (0xfe30, 0xfe30), (0xfe45, 0xfe46), (0xfe49, 0xfe4c), (0xfe50, 0xfe52),
    (0xfe54, 0xfe57), (0xfe5f, 0xfe61), (0xfe68, 0xfe68), (0xfe6a, 0xfe6b), (0xff01, 0xff03),
    (0xff05, 0xff07), (0xff0a, 0xff0a), (0xff0c, 0xff0c), (0xff0e, 0xff0f), (0xff1a, 0xff1b),
    (0xff1f, 0xff20), (0xff3c, 0xff3c), (0xff61, 0xff61), (0xff64, 0xff65), (0x10100, 0x10102),
    (0x1039f, 0x1039f), (0x103d0, 0x103d0), (0x1056f, 0x1056f), (0x10857, 0x10857),
    (0x1091f, 0x1091f), (0x1093f, 0x1093f), (0x10a50, 0x10a58), (0x10a7f, 0x10a7f),
    (0x10af0, 0x10af6), (0x10b39, 0x10b3f), (0x10b99, 0x10b9c), (0x10ed0, 0x10ed0),
    (0x10f55, 0x10f59), (0x10f86, 0x10f89), (0x11047, 0x1104d), (0x110bb, 0x110bc),
    (0x110be, 0x110c1), (0x11140, 0x11143), (0x11174, 0x11175), (0x111c5, 0x111c8),
    (0x111cd, 0x111cd), (0x111db, 0x111db), (0x111dd, 0x111df), (0x11238, 0x1123d),
    (0x112a9, 0x112a9), (0x113d4, 0x113d5), (0x113d7, 0x113d8), (0x1144b, 0x1144f),
    (0x1145a, 0x1145b), (0x1145d, 0x1145d), (0x114c6, 0x114c6), (0x115c1, 0x115d7),
    (0x11641, 0x11643), (0x11660, 0x1166c), (0x116b9, 0x116b9), (0x1173c, 0x1173e),
    (0x1183b, 0x1183b), (0x11944, 0x11946), (0x119e2, 0x119e2), (0x11a3f, 0x11a46),
    (0x11a9a, 0x11a9c), (0x11a9e, 0x11aa2), (0x11b00, 0x11b09), (0x11be1, 0x11be1),
    (0x11c41, 0x11c45), (0x11c70, 0x11c71), (0x11ef7, 0x11ef8), (0x11f43, 0x11f4f),
    (0x11fff, 0x11fff), (0x12470, 0x12474), (0x12ff1, 0x12ff2), (0x16a6e, 0x16a6f),
    (0x16af5, 0x16af5), (0x16b37, 0x16b3b), (0x16b44, 0x16b44), (0x16d6d, 0x16d6f),
    (0x16e97, 0x16e9a), (0x16fe2, 0x16fe2), (0x1bc9f, 0x1bc9f), (0x1da87, 0x1da8b),
    (0x1e5ff, 0x1e5ff), (0x1e95e, 0x1e95f)]

/-- Sm: signs of mathematics. -/
def mathSymbol : CodeSet where
  ranges := [
    (0x2b, 0x2b), (0x3c, 0x3e), (0x7c, 0x7c), (0x7e, 0x7e), (0xac, 0xac), (0xb1, 0xb1),
    (0xd7, 0xd7), (0xf7, 0xf7), (0x3f6, 0x3f6), (0x606, 0x608), (0x2044, 0x2044),
    (0x2052, 0x2052), (0x207a, 0x207c), (0x208a, 0x208c), (0x2118, 0x2118), (0x2140, 0x2144),
    (0x214b, 0x214b), (0x2190, 0x2194), (0x219a, 0x219b), (0x21a0, 0x21a0), (0x21a3, 0x21a3),
    (0x21a6, 0x21a6), (0x21ae, 0x21ae), (0x21ce, 0x21cf), (0x21d2, 0x21d2), (0x21d4, 0x21d4),
    (0x21f4, 0x22ff), (0x2320, 0x2321), (0x237c, 0x237c), (0x239b, 0x23b3), (0x23dc, 0x23e1),
    (0x25b7, 0x25b7), (0x25c1, 0x25c1), (0x25f8, 0x25ff), (0x266f, 0x266f), (0x27c0, 0x27c4),
    (0x27c7, 0x27e5), (0x27f0, 0x27ff), (0x2900, 0x2982), (0x2999, 0x29d7), (0x29dc, 0x29fb),
    (0x29fe, 0x2aff), (0x2b30, 0x2b44), (0x2b47, 0x2b4c), (0xfb29, 0xfb29), (0xfe62, 0xfe62),
    (0xfe64, 0xfe66), (0xff0b, 0xff0b), (0xff1c, 0xff1e), (0xff5c, 0xff5c), (0xff5e, 0xff5e),
    (0xffe2, 0xffe2), (0xffe9, 0xffec), (0x10d8e, 0x10d8f), (0x1cef0, 0x1cef0),
    (0x1d6c1, 0x1d6c1), (0x1d6db, 0x1d6db), (0x1d6fb, 0x1d6fb), (0x1d715, 0x1d715),
    (0x1d735, 0x1d735), (0x1d74f, 0x1d74f), (0x1d76f, 0x1d76f), (0x1d789, 0x1d789),
    (0x1d7a9, 0x1d7a9), (0x1d7c3, 0x1d7c3), (0x1eef0, 0x1eef1), (0x1f8d0, 0x1f8d8)]

/-- Sc: signs of currencies. -/
def currencySymbol : CodeSet where
  ranges := [
    (0x24, 0x24), (0xa2, 0xa5), (0x58f, 0x58f), (0x60b, 0x60b), (0x7fe, 0x7ff), (0x9f2, 0x9f3),
    (0x9fb, 0x9fb), (0xaf1, 0xaf1), (0xbf9, 0xbf9), (0xe3f, 0xe3f), (0x17db, 0x17db),
    (0x20a0, 0x20c1), (0xa838, 0xa838), (0xfdfc, 0xfdfc), (0xfe69, 0xfe69), (0xff04, 0xff04),
    (0xffe0, 0xffe1), (0xffe5, 0xffe6), (0x11fdd, 0x11fe0), (0x1e2ff, 0x1e2ff),
    (0x1ecb0, 0x1ecb0)]

/-- Sk: accents that stand alone. -/
def modifierSymbol : CodeSet where
  ranges := [
    (0x5e, 0x5e), (0x60, 0x60), (0xa8, 0xa8), (0xaf, 0xaf), (0xb4, 0xb4), (0xb8, 0xb8),
    (0x2c2, 0x2c5), (0x2d2, 0x2df), (0x2e5, 0x2eb), (0x2ed, 0x2ed), (0x2ef, 0x2ff),
    (0x375, 0x375), (0x384, 0x385), (0x888, 0x888), (0x1fbd, 0x1fbd), (0x1fbf, 0x1fc1),
    (0x1fcd, 0x1fcf), (0x1fdd, 0x1fdf), (0x1fed, 0x1fef), (0x1ffd, 0x1ffe), (0x309b, 0x309c),
    (0xa700, 0xa716), (0xa720, 0xa721), (0xa789, 0xa78a), (0xab5b, 0xab5b), (0xab6a, 0xab6b),
    (0xfbb2, 0xfbc2), (0xff3e, 0xff3e), (0xff40, 0xff40), (0xffe3, 0xffe3), (0x1f3fb, 0x1f3ff)]

/-- So: all other symbols. -/
def otherSymbol : CodeSet where
  ranges := [
    (0xa6, 0xa6), (0xa9, 0xa9), (0xae, 0xae), (0xb0, 0xb0), (0x482, 0x482), (0x58d, 0x58e),
    (0x60e, 0x60f), (0x6de, 0x6de), (0x6e9, 0x6e9), (0x6fd, 0x6fe), (0x7f6, 0x7f6),
    (0x9fa, 0x9fa), (0xb70, 0xb70), (0xbf3, 0xbf8), (0xbfa, 0xbfa), (0xc7f, 0xc7f),
    (0xd4f, 0xd4f), (0xd79, 0xd79), (0xf01, 0xf03), (0xf13, 0xf13), (0xf15, 0xf17),
    (0xf1a, 0xf1f), (0xfbe, 0xfc5), (0xfc7, 0xfcc), (0xfce, 0xfcf), (0xfd5, 0xfd8),
    (0x109e, 0x109f), (0x1390, 0x1399), (0x166d, 0x166d), (0x1940, 0x1940), (0x19de, 0x19ff),
    (0x1b61, 0x1b6a), (0x1b74, 0x1b7c), (0x2100, 0x2101), (0x2103, 0x2106), (0x2108, 0x2109),
    (0x2114, 0x2114), (0x2116, 0x2117), (0x211e, 0x2123), (0x212e, 0x212e), (0x213a, 0x213b),
    (0x214a, 0x214a), (0x214c, 0x214d), (0x214f, 0x214f), (0x218a, 0x218b), (0x2195, 0x2199),
    (0x219c, 0x219f), (0x21a1, 0x21a2), (0x21a4, 0x21a5), (0x21a7, 0x21ad), (0x21af, 0x21cd),
    (0x21d0, 0x21d1), (0x21d3, 0x21d3), (0x21d5, 0x21f3), (0x2300, 0x2307), (0x230c, 0x231f),
    (0x2322, 0x2328), (0x232b, 0x237b), (0x237d, 0x239a), (0x23b4, 0x23db), (0x23e2, 0x2429),
    (0x2440, 0x244a), (0x249c, 0x24e9), (0x2500, 0x25b6), (0x25b8, 0x25c0), (0x25c2, 0x25f7),
    (0x2600, 0x266e), (0x2670, 0x2767), (0x2794, 0x27bf), (0x2800, 0x28ff), (0x2b00, 0x2b2f),
    (0x2b45, 0x2b46), (0x2b4d, 0x2b73), (0x2b76, 0x2bff), (0x2ce5, 0x2cea), (0x2e50, 0x2e51),
    (0x2e80, 0x2e99), (0x2e9b, 0x2ef3), (0x2f00, 0x2fd5), (0x2ff0, 0x2fff), (0x3004, 0x3004),
    (0x3012, 0x3013), (0x3020, 0x3020), (0x3036, 0x3037), (0x303e, 0x303f), (0x3190, 0x3191),
    (0x3196, 0x319f), (0x31c0, 0x31e5), (0x31ef, 0x31ef), (0x3200, 0x321e), (0x322a, 0x3247),
    (0x3250, 0x3250), (0x3260, 0x327f), (0x328a, 0x32b0), (0x32c0, 0x33ff), (0x4dc0, 0x4dff),
    (0xa490, 0xa4c6), (0xa828, 0xa82b), (0xa836, 0xa837), (0xa839, 0xa839), (0xaa77, 0xaa79),
    (0xfbc3, 0xfbd2), (0xfd40, 0xfd4f), (0xfd90, 0xfd91), (0xfdc8, 0xfdcf), (0xfdfd, 0xfdff),
    (0xffe4, 0xffe4), (0xffe8, 0xffe8), (0xffed, 0xffee), (0xfffc, 0xfffd), (0x10137, 0x1013f),
    (0x10179, 0x10189), (0x1018c, 0x1018e), (0x10190, 0x1019c), (0x101a0, 0x101a0),
    (0x101d0, 0x101fc), (0x10877, 0x10878), (0x10ac8, 0x10ac8), (0x10ed1, 0x10ed8),
    (0x1173f, 0x1173f), (0x11fd5, 0x11fdc), (0x11fe1, 0x11ff1), (0x16b3c, 0x16b3f),
    (0x16b45, 0x16b45), (0x1bc9c, 0x1bc9c), (0x1cc00, 0x1ccef), (0x1ccfa, 0x1ccfc),
    (0x1cd00, 0x1ceb3), (0x1ceba, 0x1ced0), (0x1cee0, 0x1ceef), (0x1cf50, 0x1cfc3),
    (0x1d000, 0x1d0f5), (0x1d100, 0x1d126), (0x1d129, 0x1d164), (0x1d16a, 0x1d16c),
    (0x1d183, 0x1d184), (0x1d18c, 0x1d1a9), (0x1d1ae, 0x1d1ea), (0x1d200, 0x1d241),
    (0x1d245, 0x1d245), (0x1d300, 0x1d356), (0x1d800, 0x1d9ff), (0x1da37, 0x1da3a),
    (0x1da6d, 0x1da74), (0x1da76, 0x1da83), (0x1da85, 0x1da86), (0x1e14f, 0x1e14f),
    (0x1ecac, 0x1ecac), (0x1ed2e, 0x1ed2e), (0x1f000, 0x1f02b), (0x1f030, 0x1f093),
    (0x1f0a0, 0x1f0ae), (0x1f0b1, 0x1f0bf), (0x1f0c1, 0x1f0cf), (0x1f0d1, 0x1f0f5),
    (0x1f10d, 0x1f1ad), (0x1f1e6, 0x1f202), (0x1f210, 0x1f23b), (0x1f240, 0x1f248),
    (0x1f250, 0x1f251), (0x1f260, 0x1f265), (0x1f300, 0x1f3fa), (0x1f400, 0x1f6d8),
    (0x1f6dc, 0x1f6ec), (0x1f6f0, 0x1f6fc), (0x1f700, 0x1f7d9), (0x1f7e0, 0x1f7eb),
    (0x1f7f0, 0x1f7f0), (0x1f800, 0x1f80b), (0x1f810, 0x1f847), (0x1f850, 0x1f859),
    (0x1f860, 0x1f887), (0x1f890, 0x1f8ad), (0x1f8b0, 0x1f8bb), (0x1f8c0, 0x1f8c1),
    (0x1f900, 0x1fa57), (0x1fa60, 0x1fa6d), (0x1fa70, 0x1fa7c), (0x1fa80, 0x1fa8a),
    (0x1fa8e, 0x1fac6), (0x1fac8, 0x1fac8), (0x1facd, 0x1fadc), (0x1fadf, 0x1faea),
    (0x1faef, 0x1faf8), (0x1fb00, 0x1fb92), (0x1fb94, 0x1fbef), (0x1fbfa, 0x1fbfa)]
  alternating := [
    (0xf34, 0xf38), (0x2125, 0x2129)]

/-- Zs: spaces. -/
def spaceSeparator : CodeSet where
  ranges := [
    (0x20, 0x20), (0xa0, 0xa0), (0x1680, 0x1680), (0x2000, 0x200a), (0x202f, 0x202f),
    (0x205f, 0x205f), (0x3000, 0x3000)]

/-- Zl: the line separator. -/
def lineSeparator : CodeSet where
  ranges := [
    (0x2028, 0x2028)]

/-- Zp: the paragraph separator. -/
def paragraphSeparator : CodeSet where
  ranges := [
    (0x2029, 0x2029)]

/-- Cc: control characters. -/
def control : CodeSet where
  ranges := [
    (0x0, 0x1f), (0x7f, 0x9f)]

/-- Cf: invisible format characters. -/
def format : CodeSet where
  ranges := [
    (0xad, 0xad), (0x600, 0x605), (0x61c, 0x61c), (0x6dd, 0x6dd), (0x70f, 0x70f), (0x890, 0x891),
    (0x8e2, 0x8e2), (0x180e, 0x180e), (0x200b, 0x200f), (0x202a, 0x202e), (0x2060, 0x2064),
    (0x2066, 0x206f), (0xfeff, 0xfeff), (0xfff9, 0xfffb), (0x110bd, 0x110bd), (0x110cd, 0x110cd),
    (0x13430, 0x1343f), (0x1bca0, 0x1bca3), (0x1d173, 0x1d17a), (0xe0001, 0xe0001),
    (0xe0020, 0xe007f)]

/-- Co: code points left to private agreement. -/
def privateUse : CodeSet where
  ranges := [
    (0xe000, 0xf8ff), (0xf0000, 0xffffd), (0x100000, 0x10fffd)]

end MarcHarvest.Unicode.Category
