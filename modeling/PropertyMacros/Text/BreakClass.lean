import PropertyMacros.Text.CharRange

/-!
How characters take part in the breaking of lines.

Each character has a class. Characters that are not listed are letters, symbols and all others that
a line breaks around only at blanks.
-/

namespace PropertyMacros.Text

/-- The classes of characters that rules for line breaks speak of. -/
inductive BreakClass where
  /-- Letters and all characters of no other class. -/
  | alphabetic
  | space
  /-- Blanks, hyphens and dashes that allow a break behind them. -/
  | breakAfter
  | hyphen
  | slash
  /-- Separators inside of numbers. -/
  | infixSeparator
  | exclamation
  | quotation
  /-- Closing round and square brackets. -/
  | closingParenthesis
  | opening
  /-- Opening brackets of the width of an ideograph. -/
  | wideOpening
  /-- Other closing brackets, commas and full stops. -/
  | closing
  | numeric
  /-- Signs in front of a number. -/
  | numericPrefix
  /-- Signs behind a number. -/
  | numericSuffix
  /-- What glues its neighbours together. -/
  | glue
  /-- Marks that belong to the character in front of them. -/
  | combining
  /-- The joiner of emoji. -/
  | zeroWidthJoiner
  /-- The break without a width. -/
  | zeroWidthSpace
  /-- What forbids a break without a width. -/
  | wordJoiner
  /-- Line and page ends. -/
  | mandatory
  | carriageReturn
  | lineFeed
  | nextLine
  /-- Dashes that allow a break on both sides. -/
  | breakBoth
  /-- What allows a break in front. -/
  | breakBefore
  /-- Objects that stand for themselves. -/
  | contingent
  | hebrewLetter
  /-- Ideographs and what is treated like them. -/
  | ideographic
  | emojiBase
  | emojiModifier
  /-- Leaders. -/
  | inseparable
  /-- What does not start a line. -/
  | nonstarter
  /-- Halves of a flag. -/
  | regionalIndicator
  /-- Leading parts of a Korean syllable. -/
  | leadingJamo
  | vowelJamo
  | trailingJamo
  /-- Korean syllables without a trailing part. -/
  | openSyllable
  /-- Korean syllables with a trailing part. -/
  | closedSyllable
  deriving DecidableEq, Repr

namespace BreakClass

/-- The classes that are given by a list of characters. -/
def listed : List BreakClass :=
  [.space, .breakAfter, .hyphen, .slash, .infixSeparator, .exclamation, .quotation,
    .closingParenthesis, .opening, .wideOpening, .closing, .numeric, .numericPrefix,
    .numericSuffix, .glue, .combining, .zeroWidthJoiner, .zeroWidthSpace, .wordJoiner, .mandatory,
    .carriageReturn, .lineFeed, .nextLine, .breakBoth, .breakBefore, .contingent, .hebrewLetter,
    .ideographic, .emojiBase, .emojiModifier, .inseparable, .nonstarter, .regionalIndicator,
    .leadingJamo, .vowelJamo, .trailingJamo]

/-- The characters of a class. -/
def ranges : BreakClass → CharRanges
  | space => [(0x20, 0x20)]
  | breakAfter =>
    [ (0x9, 0x9), (0x7c, 0x7c), (0xad, 0xad), (0x58a, 0x58a), (0x5be, 0x5be), (0x964, 0x965),
      (0xe5a, 0xe5b), (0xf0b, 0xf0b), (0xf34, 0xf34), (0xf7f, 0xf7f), (0xf85, 0xf85),
      (0xfbe, 0xfbf), (0xfd2, 0xfd2), (0x104a, 0x104b), (0x1361, 0x1361), (0x1400, 0x1400),
      (0x1680, 0x1680), (0x16eb, 0x16ed), (0x1735, 0x1736), (0x17d4, 0x17d5), (0x17d8, 0x17d8),
      (0x17da, 0x17da), (0x1804, 0x1805), (0x1b5a, 0x1b5b), (0x1b5d, 0x1b60), (0x1b7d, 0x1b7e),
      (0x1c3b, 0x1c3f), (0x1c7e, 0x1c7f), (0x2000, 0x2006), (0x2008, 0x200a), (0x2010, 0x2010),
      (0x2012, 0x2013), (0x2027, 0x2027), (0x2056, 0x2056), (0x2058, 0x205b), (0x205d, 0x205f),
      (0x2cfa, 0x2cfc), (0x2cff, 0x2cff), (0x2d70, 0x2d70), (0x2e0e, 0x2e15), (0x2e17, 0x2e17),
      (0x2e19, 0x2e19), (0x2e2a, 0x2e2d), (0x2e30, 0x2e31), (0x2e33, 0x2e34), (0x2e3c, 0x2e3e),
      (0x2e40, 0x2e41), (0x2e43, 0x2e4a), (0x2e4c, 0x2e4c), (0x2e4e, 0x2e4f), (0x2e5d, 0x2e5d),
      (0x3000, 0x3000), (0xa4fe, 0xa4ff), (0xa60d, 0xa60d), (0xa60f, 0xa60f), (0xa6f3, 0xa6f7),
      (0xa8ce, 0xa8cf), (0xa92e, 0xa92f), (0xa9c7, 0xa9c9), (0xaa5d, 0xaa5f), (0xaaf0, 0xaaf1),
      (0xabeb, 0xabeb), (0x10100, 0x10102), (0x1039f, 0x1039f), (0x103d0, 0x103d0),
      (0x10857, 0x10857), (0x1091f, 0x1091f), (0x10a50, 0x10a57), (0x10af0, 0x10af5),
      (0x10b39, 0x10b3f), (0x10ead, 0x10ead), (0x11047, 0x11048), (0x110be, 0x110c1),
      (0x11140, 0x11143), (0x111c5, 0x111c6), (0x111c8, 0x111c8), (0x111dd, 0x111df),
      (0x11238, 0x11239), (0x1123b, 0x1123c), (0x112a9, 0x112a9), (0x1144b, 0x1144e),
      (0x1145a, 0x1145b), (0x115c2, 0x115c3), (0x115c9, 0x115d7), (0x11641, 0x11642),
      (0x1173c, 0x1173e), (0x11944, 0x11946), (0x11a41, 0x11a44), (0x11a9a, 0x11a9c),
      (0x11aa1, 0x11aa2), (0x11c41, 0x11c45), (0x11f43, 0x11f44), (0x11fff, 0x11fff),
      (0x12470, 0x12474), (0x16a6e, 0x16a6f), (0x16af5, 0x16af5), (0x16b37, 0x16b39),
      (0x16b44, 0x16b44), (0x16e97, 0x16e98), (0x1bc9f, 0x1bc9f), (0x1da87, 0x1da8a)]
  | hyphen => [(0x2d, 0x2d)]
  | slash => [(0x2f, 0x2f)]
  | infixSeparator =>
    [ (0x2c, 0x2c), (0x2e, 0x2e), (0x3a, 0x3b), (0x37e, 0x37e), (0x589, 0x589), (0x60c, 0x60d),
      (0x7f8, 0x7f8), (0x2044, 0x2044), (0xfe10, 0xfe10), (0xfe13, 0xfe14)]
  | exclamation =>
    [ (0x21, 0x21), (0x3f, 0x3f), (0x5c6, 0x5c6), (0x61b, 0x61b), (0x61d, 0x61f), (0x6d4, 0x6d4),
      (0x7f9, 0x7f9), (0xf0d, 0xf11), (0xf14, 0xf14), (0x1802, 0x1803), (0x1808, 0x1809),
      (0x1944, 0x1945), (0x2762, 0x2763), (0x2cf9, 0x2cf9), (0x2cfe, 0x2cfe), (0x2e2e, 0x2e2e),
      (0x2e53, 0x2e54), (0xa60e, 0xa60e), (0xa876, 0xa877), (0xfe15, 0xfe16), (0xfe56, 0xfe57),
      (0xff01, 0xff01), (0xff1f, 0xff1f), (0x115c4, 0x115c5), (0x11c71, 0x11c71)]
  | quotation =>
    [ (0x22, 0x22), (0x27, 0x27), (0xab, 0xab), (0xbb, 0xbb), (0x2018, 0x2019), (0x201b, 0x201d),
      (0x201f, 0x201f), (0x2039, 0x203a), (0x275b, 0x2760), (0x2e00, 0x2e0d), (0x2e1c, 0x2e1d),
      (0x2e20, 0x2e21), (0x1f676, 0x1f678)]
  | closingParenthesis => [(0x29, 0x29), (0x5d, 0x5d)]
  | opening =>
    [ (0x28, 0x28), (0x5b, 0x5b), (0x7b, 0x7b), (0xa1, 0xa1), (0xbf, 0xbf), (0xf3a, 0xf3a),
      (0xf3c, 0xf3c), (0x169b, 0x169b), (0x201a, 0x201a), (0x201e, 0x201e), (0x2045, 0x2045),
      (0x207d, 0x207d), (0x208d, 0x208d), (0x2308, 0x2308), (0x230a, 0x230a), (0x2768, 0x2768),
      (0x276a, 0x276a), (0x276c, 0x276c), (0x276e, 0x276e), (0x2770, 0x2770), (0x2772, 0x2772),
      (0x2774, 0x2774), (0x27c5, 0x27c5), (0x27e6, 0x27e6), (0x27e8, 0x27e8), (0x27ea, 0x27ea),
      (0x27ec, 0x27ec), (0x27ee, 0x27ee), (0x2983, 0x2983), (0x2985, 0x2985), (0x2987, 0x2987),
      (0x2989, 0x2989), (0x298b, 0x298b), (0x298d, 0x298d), (0x298f, 0x298f), (0x2991, 0x2991),
      (0x2993, 0x2993), (0x2995, 0x2995), (0x2997, 0x2997), (0x29d8, 0x29d8), (0x29da, 0x29da),
      (0x29fc, 0x29fc), (0x2e18, 0x2e18), (0x2e22, 0x2e22), (0x2e24, 0x2e24), (0x2e26, 0x2e26),
      (0x2e28, 0x2e28), (0x2e42, 0x2e42), (0x2e55, 0x2e55), (0x2e57, 0x2e57), (0x2e59, 0x2e59),
      (0x2e5b, 0x2e5b), (0xfd3f, 0xfd3f), (0x13258, 0x1325a), (0x13286, 0x13286),
      (0x13288, 0x13288), (0x13379, 0x13379), (0x13437, 0x13437), (0x1343c, 0x1343c),
      (0x1343e, 0x1343e), (0x145ce, 0x145ce), (0x1e95e, 0x1e95f)]
  | wideOpening =>
    [ (0x2329, 0x2329), (0x3008, 0x3008), (0x300a, 0x300a), (0x300c, 0x300c), (0x300e, 0x300e),
      (0x3010, 0x3010), (0x3014, 0x3014), (0x3016, 0x3016), (0x3018, 0x3018), (0x301a, 0x301a),
      (0x301d, 0x301d), (0xfe17, 0xfe17), (0xfe35, 0xfe35), (0xfe37, 0xfe37), (0xfe39, 0xfe39),
      (0xfe3b, 0xfe3b), (0xfe3d, 0xfe3d), (0xfe3f, 0xfe3f), (0xfe41, 0xfe41), (0xfe43, 0xfe43),
      (0xfe47, 0xfe47), (0xfe59, 0xfe59), (0xfe5b, 0xfe5b), (0xfe5d, 0xfe5d), (0xff08, 0xff08),
      (0xff3b, 0xff3b), (0xff5b, 0xff5b), (0xff5f, 0xff5f), (0xff62, 0xff62)]
  | closing =>
    [ (0x7d, 0x7d), (0xf3b, 0xf3b), (0xf3d, 0xf3d), (0x169c, 0x169c), (0x2046, 0x2046),
      (0x207e, 0x207e), (0x208e, 0x208e), (0x2309, 0x2309), (0x230b, 0x230b), (0x232a, 0x232a),
      (0x2769, 0x2769), (0x276b, 0x276b), (0x276d, 0x276d), (0x276f, 0x276f), (0x2771, 0x2771),
      (0x2773, 0x2773), (0x2775, 0x2775), (0x27c6, 0x27c6), (0x27e7, 0x27e7), (0x27e9, 0x27e9),
      (0x27eb, 0x27eb), (0x27ed, 0x27ed), (0x27ef, 0x27ef), (0x2984, 0x2984), (0x2986, 0x2986),
      (0x2988, 0x2988), (0x298a, 0x298a), (0x298c, 0x298c), (0x298e, 0x298e), (0x2990, 0x2990),
      (0x2992, 0x2992), (0x2994, 0x2994), (0x2996, 0x2996), (0x2998, 0x2998), (0x29d9, 0x29d9),
      (0x29db, 0x29db), (0x29fd, 0x29fd), (0x2e23, 0x2e23), (0x2e25, 0x2e25), (0x2e27, 0x2e27),
      (0x2e29, 0x2e29), (0x2e56, 0x2e56), (0x2e58, 0x2e58), (0x2e5a, 0x2e5a), (0x2e5c, 0x2e5c),
      (0x3001, 0x3002), (0x3009, 0x3009), (0x300b, 0x300b), (0x300d, 0x300d), (0x300f, 0x300f),
      (0x3011, 0x3011), (0x3015, 0x3015), (0x3017, 0x3017), (0x3019, 0x3019), (0x301b, 0x301b),
      (0x301e, 0x301f), (0xfd3e, 0xfd3e), (0xfe11, 0xfe12), (0xfe18, 0xfe18), (0xfe36, 0xfe36),
      (0xfe38, 0xfe38), (0xfe3a, 0xfe3a), (0xfe3c, 0xfe3c), (0xfe3e, 0xfe3e), (0xfe40, 0xfe40),
      (0xfe42, 0xfe42), (0xfe44, 0xfe44), (0xfe48, 0xfe48), (0xfe50, 0xfe50), (0xfe52, 0xfe52),
      (0xfe5a, 0xfe5a), (0xfe5c, 0xfe5c), (0xfe5e, 0xfe5e), (0xff09, 0xff09), (0xff0c, 0xff0c),
      (0xff0e, 0xff0e), (0xff3d, 0xff3d), (0xff5d, 0xff5d), (0xff60, 0xff61), (0xff63, 0xff64),
      (0x1325b, 0x1325d), (0x13282, 0x13282), (0x13287, 0x13287), (0x13289, 0x13289),
      (0x1337a, 0x1337b), (0x13438, 0x13438), (0x1343d, 0x1343d), (0x1343f, 0x1343f),
      (0x145cf, 0x145cf)]
  | numeric =>
    [ (0x30, 0x39), (0x660, 0x669), (0x66b, 0x66c), (0x6f0, 0x6f9), (0x7c0, 0x7c9),
      (0x966, 0x96f), (0x9e6, 0x9ef), (0xa66, 0xa6f), (0xae6, 0xaef), (0xb66, 0xb6f),
      (0xbe6, 0xbef), (0xc66, 0xc6f), (0xce6, 0xcef), (0xd66, 0xd6f), (0xde6, 0xdef),
      (0xe50, 0xe59), (0xed0, 0xed9), (0xf20, 0xf29), (0x1040, 0x1049), (0x1090, 0x1099),
      (0x17e0, 0x17e9), (0x1810, 0x1819), (0x1946, 0x194f), (0x19d0, 0x19d9), (0x1a80, 0x1a89),
      (0x1a90, 0x1a99), (0x1b50, 0x1b59), (0x1bb0, 0x1bb9), (0x1c40, 0x1c49), (0x1c50, 0x1c59),
      (0xa620, 0xa629), (0xa8d0, 0xa8d9), (0xa900, 0xa909), (0xa9d0, 0xa9d9), (0xa9f0, 0xa9f9),
      (0xaa50, 0xaa59), (0xabf0, 0xabf9), (0x104a0, 0x104a9), (0x10d30, 0x10d39),
      (0x11066, 0x1106f), (0x110f0, 0x110f9), (0x11136, 0x1113f), (0x111d0, 0x111d9),
      (0x112f0, 0x112f9), (0x11450, 0x11459), (0x114d0, 0x114d9), (0x11650, 0x11659),
      (0x116c0, 0x116c9), (0x11730, 0x11739), (0x118e0, 0x118e9), (0x11950, 0x11959),
      (0x11c50, 0x11c59), (0x11d50, 0x11d59), (0x11da0, 0x11da9), (0x11f50, 0x11f59),
      (0x16a60, 0x16a69), (0x16ac0, 0x16ac9), (0x16b50, 0x16b59), (0x1d7ce, 0x1d7ff),
      (0x1e140, 0x1e149), (0x1e2f0, 0x1e2f9), (0x1e4f0, 0x1e4f9), (0x1e950, 0x1e959),
      (0x1fbf0, 0x1fbf9)]
  | numericPrefix =>
    [ (0x24, 0x24), (0x2b, 0x2b), (0x5c, 0x5c), (0xa3, 0xa5), (0xb1, 0xb1), (0x58f, 0x58f),
      (0x7fe, 0x7ff), (0x9fb, 0x9fb), (0xaf1, 0xaf1), (0xbf9, 0xbf9), (0xe3f, 0xe3f),
      (0x17db, 0x17db), (0x20a0, 0x20a6), (0x20a8, 0x20b5), (0x20b7, 0x20ba), (0x20bc, 0x20bd),
      (0x20bf, 0x20bf), (0x20c1, 0x20cf), (0x2116, 0x2116), (0x2212, 0x2213), (0xfe69, 0xfe69),
      (0xff04, 0xff04), (0xffe1, 0xffe1), (0xffe5, 0xffe6), (0x1e2ff, 0x1e2ff)]
  | numericSuffix =>
    [ (0x25, 0x25), (0xa2, 0xa2), (0xb0, 0xb0), (0x609, 0x60b), (0x66a, 0x66a), (0x9f2, 0x9f3),
      (0x9f9, 0x9f9), (0xd79, 0xd79), (0x2030, 0x2037), (0x2057, 0x2057), (0x20a7, 0x20a7),
      (0x20b6, 0x20b6), (0x20bb, 0x20bb), (0x20be, 0x20be), (0x20c0, 0x20c0), (0x2103, 0x2103),
      (0x2109, 0x2109), (0xa838, 0xa838), (0xfdfc, 0xfdfc), (0xfe6a, 0xfe6a), (0xff05, 0xff05),
      (0xffe0, 0xffe0), (0x11fdd, 0x11fe0), (0x1ecac, 0x1ecac), (0x1ecb0, 0x1ecb0)]
  | glue =>
    [ (0xa0, 0xa0), (0x34f, 0x34f), (0x35c, 0x362), (0xf08, 0xf08), (0xf0c, 0xf0c),
      (0xf12, 0xf12), (0xfd9, 0xfda), (0x180e, 0x180e), (0x1dcd, 0x1dcd), (0x1dfc, 0x1dfc),
      (0x2007, 0x2007), (0x2011, 0x2011), (0x202f, 0x202f), (0x13430, 0x13436),
      (0x13439, 0x1343b), (0x16fe4, 0x16fe4)]
  | combining =>
    [ (0x0, 0x8), (0xe, 0x1f), (0x7f, 0x84), (0x86, 0x9f), (0x300, 0x34e), (0x350, 0x35b),
      (0x363, 0x36f), (0x483, 0x489), (0x591, 0x5bd), (0x5bf, 0x5bf), (0x5c1, 0x5c2),
      (0x5c4, 0x5c5), (0x5c7, 0x5c7), (0x610, 0x61a), (0x61c, 0x61c), (0x64b, 0x65f),
      (0x670, 0x670), (0x6d6, 0x6dc), (0x6df, 0x6e4), (0x6e7, 0x6e8), (0x6ea, 0x6ed),
      (0x711, 0x711), (0x730, 0x74a), (0x7a6, 0x7b0), (0x7eb, 0x7f3), (0x7fd, 0x7fd),
      (0x816, 0x819), (0x81b, 0x823), (0x825, 0x827), (0x829, 0x82d), (0x859, 0x85b),
      (0x898, 0x89f), (0x8ca, 0x8e1), (0x8e3, 0x903), (0x93a, 0x93c), (0x93e, 0x94f),
      (0x951, 0x957), (0x962, 0x963), (0x981, 0x983), (0x9bc, 0x9bc), (0x9be, 0x9c4),
      (0x9c7, 0x9c8), (0x9cb, 0x9cd), (0x9d7, 0x9d7), (0x9e2, 0x9e3), (0x9fe, 0x9fe),
      (0xa01, 0xa03), (0xa3c, 0xa3c), (0xa3e, 0xa42), (0xa47, 0xa48), (0xa4b, 0xa4d),
      (0xa51, 0xa51), (0xa70, 0xa71), (0xa75, 0xa75), (0xa81, 0xa83), (0xabc, 0xabc),
      (0xabe, 0xac5), (0xac7, 0xac9), (0xacb, 0xacd), (0xae2, 0xae3), (0xafa, 0xaff),
      (0xb01, 0xb03), (0xb3c, 0xb3c), (0xb3e, 0xb44), (0xb47, 0xb48), (0xb4b, 0xb4d),
      (0xb55, 0xb57), (0xb62, 0xb63), (0xb82, 0xb82), (0xbbe, 0xbc2), (0xbc6, 0xbc8),
      (0xbca, 0xbcd), (0xbd7, 0xbd7), (0xc00, 0xc04), (0xc3c, 0xc3c), (0xc3e, 0xc44),
      (0xc46, 0xc48), (0xc4a, 0xc4d), (0xc55, 0xc56), (0xc62, 0xc63), (0xc81, 0xc83),
      (0xcbc, 0xcbc), (0xcbe, 0xcc4), (0xcc6, 0xcc8), (0xcca, 0xccd), (0xcd5, 0xcd6),
      (0xce2, 0xce3), (0xcf3, 0xcf3), (0xd00, 0xd03), (0xd3b, 0xd3c), (0xd3e, 0xd44),
      (0xd46, 0xd48), (0xd4a, 0xd4d), (0xd57, 0xd57), (0xd62, 0xd63), (0xd81, 0xd83),
      (0xdca, 0xdca), (0xdcf, 0xdd4), (0xdd6, 0xdd6), (0xdd8, 0xddf), (0xdf2, 0xdf3),
      (0xe31, 0xe31), (0xe34, 0xe3a), (0xe47, 0xe4e), (0xeb1, 0xeb1), (0xeb4, 0xebc),
      (0xec8, 0xece), (0xf18, 0xf19), (0xf35, 0xf35), (0xf37, 0xf37), (0xf39, 0xf39),
      (0xf3e, 0xf3f), (0xf71, 0xf7e), (0xf80, 0xf84), (0xf86, 0xf87), (0xf8d, 0xf97),
      (0xf99, 0xfbc), (0xfc6, 0xfc6), (0x102b, 0x103e), (0x1056, 0x1059), (0x105e, 0x1060),
      (0x1062, 0x1064), (0x1067, 0x106d), (0x1071, 0x1074), (0x1082, 0x108d), (0x108f, 0x108f),
      (0x109a, 0x109d), (0x135d, 0x135f), (0x1712, 0x1715), (0x1732, 0x1734), (0x1752, 0x1753),
      (0x1772, 0x1773), (0x17b4, 0x17d3), (0x17dd, 0x17dd), (0x180b, 0x180d), (0x180f, 0x180f),
      (0x1885, 0x1886), (0x18a9, 0x18a9), (0x1920, 0x192b), (0x1930, 0x193b), (0x1a17, 0x1a1b),
      (0x1a55, 0x1a5e), (0x1a60, 0x1a7c), (0x1a7f, 0x1a7f), (0x1ab0, 0x1ace), (0x1b00, 0x1b04),
      (0x1b34, 0x1b44), (0x1b6b, 0x1b73), (0x1b80, 0x1b82), (0x1ba1, 0x1bad), (0x1be6, 0x1bf3),
      (0x1c24, 0x1c37), (0x1cd0, 0x1cd2), (0x1cd4, 0x1ce8), (0x1ced, 0x1ced), (0x1cf4, 0x1cf4),
      (0x1cf7, 0x1cf9), (0x1dc0, 0x1dcc), (0x1dce, 0x1dfb), (0x1dfd, 0x1dff), (0x200c, 0x200c),
      (0x200e, 0x200f), (0x202a, 0x202e), (0x2066, 0x206f), (0x20d0, 0x20f0), (0x2cef, 0x2cf1),
      (0x2d7f, 0x2d7f), (0x2de0, 0x2dff), (0x302a, 0x302f), (0x3035, 0x3035), (0x3099, 0x309a),
      (0xa66f, 0xa672), (0xa674, 0xa67d), (0xa69e, 0xa69f), (0xa6f0, 0xa6f1), (0xa802, 0xa802),
      (0xa806, 0xa806), (0xa80b, 0xa80b), (0xa823, 0xa827), (0xa82c, 0xa82c), (0xa880, 0xa881),
      (0xa8b4, 0xa8c5), (0xa8e0, 0xa8f1), (0xa8ff, 0xa8ff), (0xa926, 0xa92d), (0xa947, 0xa953),
      (0xa980, 0xa983), (0xa9b3, 0xa9c0), (0xa9e5, 0xa9e5), (0xaa29, 0xaa36), (0xaa43, 0xaa43),
      (0xaa4c, 0xaa4d), (0xaa7b, 0xaa7d), (0xaab0, 0xaab0), (0xaab2, 0xaab4), (0xaab7, 0xaab8),
      (0xaabe, 0xaabf), (0xaac1, 0xaac1), (0xaaeb, 0xaaef), (0xaaf5, 0xaaf6), (0xabe3, 0xabea),
      (0xabec, 0xabed), (0xfb1e, 0xfb1e), (0xfe00, 0xfe0f), (0xfe20, 0xfe2f), (0xfff9, 0xfffb),
      (0x101fd, 0x101fd), (0x102e0, 0x102e0), (0x10376, 0x1037a), (0x10a01, 0x10a03),
      (0x10a05, 0x10a06), (0x10a0c, 0x10a0f), (0x10a38, 0x10a3a), (0x10a3f, 0x10a3f),
      (0x10ae5, 0x10ae6), (0x10d24, 0x10d27), (0x10eab, 0x10eac), (0x10efd, 0x10eff),
      (0x10f46, 0x10f50), (0x10f82, 0x10f85), (0x11000, 0x11002), (0x11038, 0x11046),
      (0x11070, 0x11070), (0x11073, 0x11074), (0x1107f, 0x11082), (0x110b0, 0x110ba),
      (0x110c2, 0x110c2), (0x11100, 0x11102), (0x11127, 0x11134), (0x11145, 0x11146),
      (0x11173, 0x11173), (0x11180, 0x11182), (0x111b3, 0x111c0), (0x111c9, 0x111cc),
      (0x111ce, 0x111cf), (0x1122c, 0x11237), (0x1123e, 0x1123e), (0x11241, 0x11241),
      (0x112df, 0x112ea), (0x11300, 0x11303), (0x1133b, 0x1133c), (0x1133e, 0x11344),
      (0x11347, 0x11348), (0x1134b, 0x1134d), (0x11357, 0x11357), (0x11362, 0x11363),
      (0x11366, 0x1136c), (0x11370, 0x11374), (0x11435, 0x11446), (0x1145e, 0x1145e),
      (0x114b0, 0x114c3), (0x115af, 0x115b5), (0x115b8, 0x115c0), (0x115dc, 0x115dd),
      (0x11630, 0x11640), (0x116ab, 0x116b7), (0x1171d, 0x1172b), (0x1182c, 0x1183a),
      (0x11930, 0x11935), (0x11937, 0x11938), (0x1193b, 0x1193e), (0x11940, 0x11940),
      (0x11942, 0x11943), (0x119d1, 0x119d7), (0x119da, 0x119e0), (0x119e4, 0x119e4),
      (0x11a01, 0x11a0a), (0x11a33, 0x11a39), (0x11a3b, 0x11a3e), (0x11a47, 0x11a47),
      (0x11a51, 0x11a5b), (0x11a8a, 0x11a99), (0x11c2f, 0x11c36), (0x11c38, 0x11c3f),
      (0x11c92, 0x11ca7), (0x11ca9, 0x11cb6), (0x11d31, 0x11d36), (0x11d3a, 0x11d3a),
      (0x11d3c, 0x11d3d), (0x11d3f, 0x11d45), (0x11d47, 0x11d47), (0x11d8a, 0x11d8e),
      (0x11d90, 0x11d91), (0x11d93, 0x11d97), (0x11ef3, 0x11ef6), (0x11f00, 0x11f01),
      (0x11f03, 0x11f03), (0x11f34, 0x11f3a), (0x11f3e, 0x11f42), (0x13440, 0x13440),
      (0x13447, 0x13455), (0x16af0, 0x16af4), (0x16b30, 0x16b36), (0x16f4f, 0x16f4f),
      (0x16f51, 0x16f87), (0x16f8f, 0x16f92), (0x16ff0, 0x16ff1), (0x1bc9d, 0x1bc9e),
      (0x1bca0, 0x1bca3), (0x1cf00, 0x1cf2d), (0x1cf30, 0x1cf46), (0x1d165, 0x1d169),
      (0x1d16d, 0x1d182), (0x1d185, 0x1d18b), (0x1d1aa, 0x1d1ad), (0x1d242, 0x1d244),
      (0x1da00, 0x1da36), (0x1da3b, 0x1da6c), (0x1da75, 0x1da75), (0x1da84, 0x1da84),
      (0x1da9b, 0x1da9f), (0x1daa1, 0x1daaf), (0x1e000, 0x1e006), (0x1e008, 0x1e018),
      (0x1e01b, 0x1e021), (0x1e023, 0x1e024), (0x1e026, 0x1e02a), (0x1e08f, 0x1e08f),
      (0x1e130, 0x1e136), (0x1e2ae, 0x1e2ae), (0x1e2ec, 0x1e2ef), (0x1e4ec, 0x1e4ef),
      (0x1e8d0, 0x1e8d6), (0x1e944, 0x1e94a), (0xe0001, 0xe0001), (0xe0020, 0xe007f),
      (0xe0100, 0xe01ef)]
  | zeroWidthJoiner => [(0x200d, 0x200d)]
  | zeroWidthSpace => [(0x200b, 0x200b)]
  | wordJoiner => [(0x2060, 0x2060), (0xfeff, 0xfeff)]
  | mandatory => [(0xb, 0xc), (0x2028, 0x2029)]
  | carriageReturn => [(0xd, 0xd)]
  | lineFeed => [(0xa, 0xa)]
  | nextLine => [(0x85, 0x85)]
  | breakBoth => [(0x2014, 0x2014), (0x2e3a, 0x2e3b)]
  | breakBefore =>
    [ (0xb4, 0xb4), (0x2c8, 0x2c8), (0x2cc, 0x2cc), (0x2df, 0x2df), (0xc77, 0xc77),
      (0xc84, 0xc84), (0xf01, 0xf04), (0xf06, 0xf07), (0xf09, 0xf0a), (0xfd0, 0xfd1),
      (0xfd3, 0xfd3), (0x1806, 0x1806), (0x1ffd, 0x1ffd), (0xa874, 0xa875), (0xa8fc, 0xa8fc),
      (0x11175, 0x11175), (0x111db, 0x111db), (0x115c1, 0x115c1), (0x11660, 0x1166c),
      (0x119e2, 0x119e2), (0x11a3f, 0x11a3f), (0x11a45, 0x11a45), (0x11a9e, 0x11aa0),
      (0x11b00, 0x11b09), (0x11c70, 0x11c70)]
  | contingent => [(0xfffc, 0xfffc)]
  | hebrewLetter =>
    [ (0x5d0, 0x5ea), (0x5ef, 0x5f2), (0xfb1d, 0xfb1d), (0xfb1f, 0xfb28), (0xfb2a, 0xfb36),
      (0xfb38, 0xfb3c), (0xfb3e, 0xfb3e), (0xfb40, 0xfb41), (0xfb43, 0xfb44), (0xfb46, 0xfb4f)]
  | ideographic =>
    [ (0x231a, 0x231b), (0x23f0, 0x23f3), (0x2600, 0x2603), (0x2614, 0x2615), (0x2618, 0x2618),
      (0x261a, 0x261c), (0x261e, 0x261f), (0x2639, 0x263b), (0x2668, 0x2668), (0x267f, 0x267f),
      (0x26bd, 0x26c8), (0x26cd, 0x26cd), (0x26cf, 0x26d1), (0x26d3, 0x26d4), (0x26d8, 0x26d9),
      (0x26dc, 0x26dc), (0x26df, 0x26e1), (0x26ea, 0x26ea), (0x26f1, 0x26f5), (0x26f7, 0x26f8),
      (0x26fa, 0x26fa), (0x26fd, 0x2704), (0x2708, 0x2709), (0x2764, 0x2764), (0x2e80, 0x2e99),
      (0x2e9b, 0x2ef3), (0x2f00, 0x2fd5), (0x2ff0, 0x2ffb), (0x3003, 0x3004), (0x3006, 0x3007),
      (0x3012, 0x3013), (0x3020, 0x3029), (0x3030, 0x3034), (0x3036, 0x303a), (0x303d, 0x303f),
      (0x3042, 0x3042), (0x3044, 0x3044), (0x3046, 0x3046), (0x3048, 0x3048), (0x304a, 0x3062),
      (0x3064, 0x3082), (0x3084, 0x3084), (0x3086, 0x3086), (0x3088, 0x308d), (0x308f, 0x3094),
      (0x309f, 0x309f), (0x30a2, 0x30a2), (0x30a4, 0x30a4), (0x30a6, 0x30a6), (0x30a8, 0x30a8),
      (0x30aa, 0x30c2), (0x30c4, 0x30e2), (0x30e4, 0x30e4), (0x30e6, 0x30e6), (0x30e8, 0x30ed),
      (0x30ef, 0x30f4), (0x30f7, 0x30fa), (0x30ff, 0x30ff), (0x3105, 0x312f), (0x3131, 0x318e),
      (0x3190, 0x31e3), (0x3200, 0x321e), (0x3220, 0x3247), (0x3250, 0x4dbf), (0x4e00, 0xa014),
      (0xa016, 0xa48c), (0xa490, 0xa4c6), (0xf900, 0xfaff), (0xfe30, 0xfe34), (0xfe45, 0xfe46),
      (0xfe49, 0xfe4f), (0xfe51, 0xfe51), (0xfe58, 0xfe58), (0xfe5f, 0xfe66), (0xfe68, 0xfe68),
      (0xfe6b, 0xfe6b), (0xff02, 0xff03), (0xff06, 0xff07), (0xff0a, 0xff0b), (0xff0d, 0xff0d),
      (0xff0f, 0xff19), (0xff1c, 0xff1e), (0xff20, 0xff3a), (0xff3c, 0xff3c), (0xff3e, 0xff5a),
      (0xff5c, 0xff5c), (0xff5e, 0xff5e), (0xff66, 0xff66), (0xff71, 0xff9d), (0xffa0, 0xffbe),
      (0xffc2, 0xffc7), (0xffca, 0xffcf), (0xffd2, 0xffd7), (0xffda, 0xffdc), (0xffe2, 0xffe4),
      (0x11f45, 0x11f4f), (0x17000, 0x187f7), (0x18800, 0x18aff), (0x18d00, 0x18d08),
      (0x1b000, 0x1b122), (0x1b170, 0x1b2fb), (0x1f000, 0x1f0ff), (0x1f10d, 0x1f10f),
      (0x1f16d, 0x1f16f), (0x1f1ad, 0x1f1e5), (0x1f200, 0x1f384), (0x1f386, 0x1f39b),
      (0x1f39e, 0x1f3b4), (0x1f3b7, 0x1f3bb), (0x1f3bd, 0x1f3c1), (0x1f3c5, 0x1f3c6),
      (0x1f3c8, 0x1f3c9), (0x1f3cd, 0x1f3fa), (0x1f400, 0x1f441), (0x1f444, 0x1f445),
      (0x1f451, 0x1f465), (0x1f479, 0x1f47b), (0x1f47d, 0x1f480), (0x1f484, 0x1f484),
      (0x1f488, 0x1f48e), (0x1f490, 0x1f490), (0x1f492, 0x1f49f), (0x1f4a1, 0x1f4a1),
      (0x1f4a3, 0x1f4a3), (0x1f4a5, 0x1f4a9), (0x1f4ab, 0x1f4ae), (0x1f4b0, 0x1f4b0),
      (0x1f4b3, 0x1f4ff), (0x1f507, 0x1f516), (0x1f525, 0x1f531), (0x1f54a, 0x1f573),
      (0x1f576, 0x1f579), (0x1f57b, 0x1f58f), (0x1f591, 0x1f594), (0x1f597, 0x1f5d3),
      (0x1f5dc, 0x1f5f3), (0x1f5fa, 0x1f644), (0x1f648, 0x1f64a), (0x1f680, 0x1f6a2),
      (0x1f6a4, 0x1f6b3), (0x1f6b7, 0x1f6bf), (0x1f6c1, 0x1f6cb), (0x1f6cd, 0x1f6ff),
      (0x1f774, 0x1f77f), (0x1f7d5, 0x1f7ff), (0x1f80c, 0x1f80f), (0x1f848, 0x1f84f),
      (0x1f85a, 0x1f85f), (0x1f888, 0x1f88f), (0x1f8ae, 0x1f8ff), (0x1f90d, 0x1f90e),
      (0x1f910, 0x1f917), (0x1f920, 0x1f925), (0x1f927, 0x1f92f), (0x1f93a, 0x1f93b),
      (0x1f93f, 0x1f976), (0x1f978, 0x1f9b4), (0x1f9b7, 0x1f9b7), (0x1f9ba, 0x1f9ba),
      (0x1f9bc, 0x1f9cc), (0x1f9d0, 0x1f9d0), (0x1f9de, 0x1f9ff), (0x1fa54, 0x1fac2),
      (0x1fac6, 0x1faef), (0x1faf9, 0x1faff), (0x1fc00, 0x1fffd), (0x20000, 0x2fffd),
      (0x30000, 0x3fffd)]
  | emojiBase =>
    [ (0x261d, 0x261d), (0x26f9, 0x26f9), (0x270a, 0x270d), (0x1f385, 0x1f385),
      (0x1f3c2, 0x1f3c4), (0x1f3c7, 0x1f3c7), (0x1f3ca, 0x1f3cc), (0x1f442, 0x1f443),
      (0x1f446, 0x1f450), (0x1f466, 0x1f478), (0x1f47c, 0x1f47c), (0x1f481, 0x1f483),
      (0x1f485, 0x1f487), (0x1f48f, 0x1f48f), (0x1f491, 0x1f491), (0x1f4aa, 0x1f4aa),
      (0x1f574, 0x1f575), (0x1f57a, 0x1f57a), (0x1f590, 0x1f590), (0x1f595, 0x1f596),
      (0x1f645, 0x1f647), (0x1f64b, 0x1f64f), (0x1f6a3, 0x1f6a3), (0x1f6b4, 0x1f6b6),
      (0x1f6c0, 0x1f6c0), (0x1f6cc, 0x1f6cc), (0x1f90c, 0x1f90c), (0x1f90f, 0x1f90f),
      (0x1f918, 0x1f91f), (0x1f926, 0x1f926), (0x1f930, 0x1f939), (0x1f93c, 0x1f93e),
      (0x1f977, 0x1f977), (0x1f9b5, 0x1f9b6), (0x1f9b8, 0x1f9b9), (0x1f9bb, 0x1f9bb),
      (0x1f9cd, 0x1f9cf), (0x1f9d1, 0x1f9dd), (0x1fac3, 0x1fac5), (0x1faf0, 0x1faf8)]
  | emojiModifier => [(0x1f3fb, 0x1f3ff)]
  | inseparable => [(0x2024, 0x2026), (0x22ef, 0x22ef), (0xfe19, 0xfe19), (0x10af6, 0x10af6)]
  | nonstarter =>
    [ (0x17d6, 0x17d6), (0x203c, 0x203d), (0x2047, 0x2049), (0x3005, 0x3005), (0x301c, 0x301c),
      (0x303b, 0x303c), (0x3041, 0x3041), (0x3043, 0x3043), (0x3045, 0x3045), (0x3047, 0x3047),
      (0x3049, 0x3049), (0x3063, 0x3063), (0x3083, 0x3083), (0x3085, 0x3085), (0x3087, 0x3087),
      (0x308e, 0x308e), (0x3095, 0x3096), (0x309b, 0x309e), (0x30a0, 0x30a1), (0x30a3, 0x30a3),
      (0x30a5, 0x30a5), (0x30a7, 0x30a7), (0x30a9, 0x30a9), (0x30c3, 0x30c3), (0x30e3, 0x30e3),
      (0x30e5, 0x30e5), (0x30e7, 0x30e7), (0x30ee, 0x30ee), (0x30f5, 0x30f6), (0x30fb, 0x30fe),
      (0x31f0, 0x31ff), (0xa015, 0xa015), (0xfe54, 0xfe55), (0xff1a, 0xff1b), (0xff65, 0xff65),
      (0xff67, 0xff70), (0xff9e, 0xff9f), (0x16fe0, 0x16fe3), (0x1b132, 0x1b132),
      (0x1b150, 0x1b152), (0x1b155, 0x1b155), (0x1b164, 0x1b167), (0x1f679, 0x1f67b)]
  | regionalIndicator => [(0x1f1e6, 0x1f1ff)]
  | leadingJamo => [(0x1100, 0x115f), (0xa960, 0xa97c)]
  | vowelJamo => [(0x1160, 0x11a7), (0xd7b0, 0xd7c6)]
  | trailingJamo => [(0x11a8, 0x11ff), (0xd7cb, 0xd7fb)]
  | _ => []

def ofChar (c : Char) : BreakClass :=
  if '\uac00' ≤ c ∧ c ≤ '\ud7a3' then
    if (c.toNat - 0xac00) % 28 = 0 then openSyllable else closedSyllable
  else (listed.find? fun k => CharRanges.contains c k.ranges).getD alphabetic

end BreakClass

end PropertyMacros.Text
