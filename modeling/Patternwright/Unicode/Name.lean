import Patternwright.Number.Digit
import Patternwright.Unicode.RangeSet

/-!
# Character names

A pattern may give a character by its standard name. The names known here are those of the Latin,
Greek, Cyrillic and Arabic blocks, of general punctuation, currency signs, letter-like symbols and
the commonest operators, the names of control characters, and the ideographs, whose names are made
from their codes. Case does not matter, except in the names of ideographs. The standard has many
more names; a pattern with one of those is refused like one with a name that does not exist.

## Main definitions

* `characterNamed?` — the character with a name
-/

namespace Patternwright.Unicode

/-- Names of characters, in upper case. -/
def characterNames : List (String × Nat) := [
    ("SPACE", 0x20), ("EXCLAMATION MARK", 0x21), ("QUOTATION MARK", 0x22), ("NUMBER SIGN", 0x23),
    ("DOLLAR SIGN", 0x24), ("PERCENT SIGN", 0x25), ("AMPERSAND", 0x26), ("APOSTROPHE", 0x27),
    ("LEFT PARENTHESIS", 0x28), ("RIGHT PARENTHESIS", 0x29), ("ASTERISK", 0x2A),
    ("PLUS SIGN", 0x2B), ("COMMA", 0x2C), ("HYPHEN-MINUS", 0x2D), ("FULL STOP", 0x2E),
    ("SOLIDUS", 0x2F), ("DIGIT ZERO", 0x30), ("DIGIT ONE", 0x31), ("DIGIT TWO", 0x32),
    ("DIGIT THREE", 0x33), ("DIGIT FOUR", 0x34), ("DIGIT FIVE", 0x35), ("DIGIT SIX", 0x36),
    ("DIGIT SEVEN", 0x37), ("DIGIT EIGHT", 0x38), ("DIGIT NINE", 0x39), ("COLON", 0x3A),
    ("SEMICOLON", 0x3B), ("LESS-THAN SIGN", 0x3C), ("EQUALS SIGN", 0x3D),
    ("GREATER-THAN SIGN", 0x3E), ("QUESTION MARK", 0x3F), ("COMMERCIAL AT", 0x40),
    ("LATIN CAPITAL LETTER A", 0x41), ("LATIN CAPITAL LETTER B", 0x42),
    ("LATIN CAPITAL LETTER C", 0x43), ("LATIN CAPITAL LETTER D", 0x44),
    ("LATIN CAPITAL LETTER E", 0x45), ("LATIN CAPITAL LETTER F", 0x46),
    ("LATIN CAPITAL LETTER G", 0x47), ("LATIN CAPITAL LETTER H", 0x48),
    ("LATIN CAPITAL LETTER I", 0x49), ("LATIN CAPITAL LETTER J", 0x4A),
    ("LATIN CAPITAL LETTER K", 0x4B), ("LATIN CAPITAL LETTER L", 0x4C),
    ("LATIN CAPITAL LETTER M", 0x4D), ("LATIN CAPITAL LETTER N", 0x4E),
    ("LATIN CAPITAL LETTER O", 0x4F), ("LATIN CAPITAL LETTER P", 0x50),
    ("LATIN CAPITAL LETTER Q", 0x51), ("LATIN CAPITAL LETTER R", 0x52),
    ("LATIN CAPITAL LETTER S", 0x53), ("LATIN CAPITAL LETTER T", 0x54),
    ("LATIN CAPITAL LETTER U", 0x55), ("LATIN CAPITAL LETTER V", 0x56),
    ("LATIN CAPITAL LETTER W", 0x57), ("LATIN CAPITAL LETTER X", 0x58),
    ("LATIN CAPITAL LETTER Y", 0x59), ("LATIN CAPITAL LETTER Z", 0x5A),
    ("LEFT SQUARE BRACKET", 0x5B), ("REVERSE SOLIDUS", 0x5C), ("RIGHT SQUARE BRACKET", 0x5D),
    ("CIRCUMFLEX ACCENT", 0x5E), ("LOW LINE", 0x5F), ("GRAVE ACCENT", 0x60),
    ("LATIN SMALL LETTER A", 0x61), ("LATIN SMALL LETTER B", 0x62),
    ("LATIN SMALL LETTER C", 0x63), ("LATIN SMALL LETTER D", 0x64),
    ("LATIN SMALL LETTER E", 0x65), ("LATIN SMALL LETTER F", 0x66),
    ("LATIN SMALL LETTER G", 0x67), ("LATIN SMALL LETTER H", 0x68),
    ("LATIN SMALL LETTER I", 0x69), ("LATIN SMALL LETTER J", 0x6A),
    ("LATIN SMALL LETTER K", 0x6B), ("LATIN SMALL LETTER L", 0x6C),
    ("LATIN SMALL LETTER M", 0x6D), ("LATIN SMALL LETTER N", 0x6E),
    ("LATIN SMALL LETTER O", 0x6F), ("LATIN SMALL LETTER P", 0x70),
    ("LATIN SMALL LETTER Q", 0x71), ("LATIN SMALL LETTER R", 0x72),
    ("LATIN SMALL LETTER S", 0x73), ("LATIN SMALL LETTER T", 0x74),
    ("LATIN SMALL LETTER U", 0x75), ("LATIN SMALL LETTER V", 0x76),
    ("LATIN SMALL LETTER W", 0x77), ("LATIN SMALL LETTER X", 0x78),
    ("LATIN SMALL LETTER Y", 0x79), ("LATIN SMALL LETTER Z", 0x7A), ("LEFT CURLY BRACKET", 0x7B),
    ("VERTICAL LINE", 0x7C), ("RIGHT CURLY BRACKET", 0x7D), ("TILDE", 0x7E),
    ("NO-BREAK SPACE", 0xA0), ("INVERTED EXCLAMATION MARK", 0xA1), ("CENT SIGN", 0xA2),
    ("POUND SIGN", 0xA3), ("CURRENCY SIGN", 0xA4), ("YEN SIGN", 0xA5), ("BROKEN BAR", 0xA6),
    ("SECTION SIGN", 0xA7), ("DIAERESIS", 0xA8), ("COPYRIGHT SIGN", 0xA9),
    ("FEMININE ORDINAL INDICATOR", 0xAA), ("LEFT-POINTING DOUBLE ANGLE QUOTATION MARK", 0xAB),
    ("NOT SIGN", 0xAC), ("SOFT HYPHEN", 0xAD), ("REGISTERED SIGN", 0xAE), ("MACRON", 0xAF),
    ("DEGREE SIGN", 0xB0), ("PLUS-MINUS SIGN", 0xB1), ("SUPERSCRIPT TWO", 0xB2),
    ("SUPERSCRIPT THREE", 0xB3), ("ACUTE ACCENT", 0xB4), ("MICRO SIGN", 0xB5),
    ("PILCROW SIGN", 0xB6), ("MIDDLE DOT", 0xB7), ("CEDILLA", 0xB8), ("SUPERSCRIPT ONE", 0xB9),
    ("MASCULINE ORDINAL INDICATOR", 0xBA), ("RIGHT-POINTING DOUBLE ANGLE QUOTATION MARK", 0xBB),
    ("VULGAR FRACTION ONE QUARTER", 0xBC), ("VULGAR FRACTION ONE HALF", 0xBD),
    ("VULGAR FRACTION THREE QUARTERS", 0xBE), ("INVERTED QUESTION MARK", 0xBF),
    ("LATIN CAPITAL LETTER A WITH GRAVE", 0xC0), ("LATIN CAPITAL LETTER A WITH ACUTE", 0xC1),
    ("LATIN CAPITAL LETTER A WITH CIRCUMFLEX", 0xC2), ("LATIN CAPITAL LETTER A WITH TILDE", 0xC3),
    ("LATIN CAPITAL LETTER A WITH DIAERESIS", 0xC4),
    ("LATIN CAPITAL LETTER A WITH RING ABOVE", 0xC5), ("LATIN CAPITAL LETTER AE", 0xC6),
    ("LATIN CAPITAL LETTER C WITH CEDILLA", 0xC7), ("LATIN CAPITAL LETTER E WITH GRAVE", 0xC8),
    ("LATIN CAPITAL LETTER E WITH ACUTE", 0xC9), ("LATIN CAPITAL LETTER E WITH CIRCUMFLEX", 0xCA),
    ("LATIN CAPITAL LETTER E WITH DIAERESIS", 0xCB), ("LATIN CAPITAL LETTER I WITH GRAVE", 0xCC),
    ("LATIN CAPITAL LETTER I WITH ACUTE", 0xCD), ("LATIN CAPITAL LETTER I WITH CIRCUMFLEX", 0xCE),
    ("LATIN CAPITAL LETTER I WITH DIAERESIS", 0xCF), ("LATIN CAPITAL LETTER ETH", 0xD0),
    ("LATIN CAPITAL LETTER N WITH TILDE", 0xD1), ("LATIN CAPITAL LETTER O WITH GRAVE", 0xD2),
    ("LATIN CAPITAL LETTER O WITH ACUTE", 0xD3), ("LATIN CAPITAL LETTER O WITH CIRCUMFLEX", 0xD4),
    ("LATIN CAPITAL LETTER O WITH TILDE", 0xD5), ("LATIN CAPITAL LETTER O WITH DIAERESIS", 0xD6),
    ("MULTIPLICATION SIGN", 0xD7), ("LATIN CAPITAL LETTER O WITH STROKE", 0xD8),
    ("LATIN CAPITAL LETTER U WITH GRAVE", 0xD9), ("LATIN CAPITAL LETTER U WITH ACUTE", 0xDA),
    ("LATIN CAPITAL LETTER U WITH CIRCUMFLEX", 0xDB),
    ("LATIN CAPITAL LETTER U WITH DIAERESIS", 0xDC), ("LATIN CAPITAL LETTER Y WITH ACUTE", 0xDD),
    ("LATIN CAPITAL LETTER THORN", 0xDE), ("LATIN SMALL LETTER SHARP S", 0xDF),
    ("LATIN SMALL LETTER A WITH GRAVE", 0xE0), ("LATIN SMALL LETTER A WITH ACUTE", 0xE1),
    ("LATIN SMALL LETTER A WITH CIRCUMFLEX", 0xE2), ("LATIN SMALL LETTER A WITH TILDE", 0xE3),
    ("LATIN SMALL LETTER A WITH DIAERESIS", 0xE4), ("LATIN SMALL LETTER A WITH RING ABOVE", 0xE5),
    ("LATIN SMALL LETTER AE", 0xE6), ("LATIN SMALL LETTER C WITH CEDILLA", 0xE7),
    ("LATIN SMALL LETTER E WITH GRAVE", 0xE8), ("LATIN SMALL LETTER E WITH ACUTE", 0xE9),
    ("LATIN SMALL LETTER E WITH CIRCUMFLEX", 0xEA), ("LATIN SMALL LETTER E WITH DIAERESIS", 0xEB),
    ("LATIN SMALL LETTER I WITH GRAVE", 0xEC), ("LATIN SMALL LETTER I WITH ACUTE", 0xED),
    ("LATIN SMALL LETTER I WITH CIRCUMFLEX", 0xEE), ("LATIN SMALL LETTER I WITH DIAERESIS", 0xEF),
    ("LATIN SMALL LETTER ETH", 0xF0), ("LATIN SMALL LETTER N WITH TILDE", 0xF1),
    ("LATIN SMALL LETTER O WITH GRAVE", 0xF2), ("LATIN SMALL LETTER O WITH ACUTE", 0xF3),
    ("LATIN SMALL LETTER O WITH CIRCUMFLEX", 0xF4), ("LATIN SMALL LETTER O WITH TILDE", 0xF5),
    ("LATIN SMALL LETTER O WITH DIAERESIS", 0xF6), ("DIVISION SIGN", 0xF7),
    ("LATIN SMALL LETTER O WITH STROKE", 0xF8), ("LATIN SMALL LETTER U WITH GRAVE", 0xF9),
    ("LATIN SMALL LETTER U WITH ACUTE", 0xFA), ("LATIN SMALL LETTER U WITH CIRCUMFLEX", 0xFB),
    ("LATIN SMALL LETTER U WITH DIAERESIS", 0xFC), ("LATIN SMALL LETTER Y WITH ACUTE", 0xFD),
    ("LATIN SMALL LETTER THORN", 0xFE), ("LATIN SMALL LETTER Y WITH DIAERESIS", 0xFF),
    ("LATIN CAPITAL LETTER A WITH MACRON", 0x100), ("LATIN SMALL LETTER A WITH MACRON", 0x101),
    ("LATIN CAPITAL LETTER A WITH BREVE", 0x102), ("LATIN SMALL LETTER A WITH BREVE", 0x103),
    ("LATIN CAPITAL LETTER A WITH OGONEK", 0x104), ("LATIN SMALL LETTER A WITH OGONEK", 0x105),
    ("LATIN CAPITAL LETTER C WITH ACUTE", 0x106), ("LATIN SMALL LETTER C WITH ACUTE", 0x107),
    ("LATIN CAPITAL LETTER C WITH CIRCUMFLEX", 0x108),
    ("LATIN SMALL LETTER C WITH CIRCUMFLEX", 0x109),
    ("LATIN CAPITAL LETTER C WITH DOT ABOVE", 0x10A),
    ("LATIN SMALL LETTER C WITH DOT ABOVE", 0x10B), ("LATIN CAPITAL LETTER C WITH CARON", 0x10C),
    ("LATIN SMALL LETTER C WITH CARON", 0x10D), ("LATIN CAPITAL LETTER D WITH CARON", 0x10E),
    ("LATIN SMALL LETTER D WITH CARON", 0x10F), ("LATIN CAPITAL LETTER D WITH STROKE", 0x110),
    ("LATIN SMALL LETTER D WITH STROKE", 0x111), ("LATIN CAPITAL LETTER E WITH MACRON", 0x112),
    ("LATIN SMALL LETTER E WITH MACRON", 0x113), ("LATIN CAPITAL LETTER E WITH BREVE", 0x114),
    ("LATIN SMALL LETTER E WITH BREVE", 0x115), ("LATIN CAPITAL LETTER E WITH DOT ABOVE", 0x116),
    ("LATIN SMALL LETTER E WITH DOT ABOVE", 0x117), ("LATIN CAPITAL LETTER E WITH OGONEK", 0x118),
    ("LATIN SMALL LETTER E WITH OGONEK", 0x119), ("LATIN CAPITAL LETTER E WITH CARON", 0x11A),
    ("LATIN SMALL LETTER E WITH CARON", 0x11B), ("LATIN CAPITAL LETTER G WITH CIRCUMFLEX", 0x11C),
    ("LATIN SMALL LETTER G WITH CIRCUMFLEX", 0x11D), ("LATIN CAPITAL LETTER G WITH BREVE", 0x11E),
    ("LATIN SMALL LETTER G WITH BREVE", 0x11F), ("LATIN CAPITAL LETTER G WITH DOT ABOVE", 0x120),
    ("LATIN SMALL LETTER G WITH DOT ABOVE", 0x121),
    ("LATIN CAPITAL LETTER G WITH CEDILLA", 0x122), ("LATIN SMALL LETTER G WITH CEDILLA", 0x123),
    ("LATIN CAPITAL LETTER H WITH CIRCUMFLEX", 0x124),
    ("LATIN SMALL LETTER H WITH CIRCUMFLEX", 0x125),
    ("LATIN CAPITAL LETTER H WITH STROKE", 0x126), ("LATIN SMALL LETTER H WITH STROKE", 0x127),
    ("LATIN CAPITAL LETTER I WITH TILDE", 0x128), ("LATIN SMALL LETTER I WITH TILDE", 0x129),
    ("LATIN CAPITAL LETTER I WITH MACRON", 0x12A), ("LATIN SMALL LETTER I WITH MACRON", 0x12B),
    ("LATIN CAPITAL LETTER I WITH BREVE", 0x12C), ("LATIN SMALL LETTER I WITH BREVE", 0x12D),
    ("LATIN CAPITAL LETTER I WITH OGONEK", 0x12E), ("LATIN SMALL LETTER I WITH OGONEK", 0x12F),
    ("LATIN CAPITAL LETTER I WITH DOT ABOVE", 0x130), ("LATIN SMALL LETTER DOTLESS I", 0x131),
    ("LATIN CAPITAL LIGATURE IJ", 0x132), ("LATIN SMALL LIGATURE IJ", 0x133),
    ("LATIN CAPITAL LETTER J WITH CIRCUMFLEX", 0x134),
    ("LATIN SMALL LETTER J WITH CIRCUMFLEX", 0x135),
    ("LATIN CAPITAL LETTER K WITH CEDILLA", 0x136), ("LATIN SMALL LETTER K WITH CEDILLA", 0x137),
    ("LATIN SMALL LETTER KRA", 0x138), ("LATIN CAPITAL LETTER L WITH ACUTE", 0x139),
    ("LATIN SMALL LETTER L WITH ACUTE", 0x13A), ("LATIN CAPITAL LETTER L WITH CEDILLA", 0x13B),
    ("LATIN SMALL LETTER L WITH CEDILLA", 0x13C), ("LATIN CAPITAL LETTER L WITH CARON", 0x13D),
    ("LATIN SMALL LETTER L WITH CARON", 0x13E), ("LATIN CAPITAL LETTER L WITH MIDDLE DOT", 0x13F),
    ("LATIN SMALL LETTER L WITH MIDDLE DOT", 0x140),
    ("LATIN CAPITAL LETTER L WITH STROKE", 0x141), ("LATIN SMALL LETTER L WITH STROKE", 0x142),
    ("LATIN CAPITAL LETTER N WITH ACUTE", 0x143), ("LATIN SMALL LETTER N WITH ACUTE", 0x144),
    ("LATIN CAPITAL LETTER N WITH CEDILLA", 0x145), ("LATIN SMALL LETTER N WITH CEDILLA", 0x146),
    ("LATIN CAPITAL LETTER N WITH CARON", 0x147), ("LATIN SMALL LETTER N WITH CARON", 0x148),
    ("LATIN SMALL LETTER N PRECEDED BY APOSTROPHE", 0x149), ("LATIN CAPITAL LETTER ENG", 0x14A),
    ("LATIN SMALL LETTER ENG", 0x14B), ("LATIN CAPITAL LETTER O WITH MACRON", 0x14C),
    ("LATIN SMALL LETTER O WITH MACRON", 0x14D), ("LATIN CAPITAL LETTER O WITH BREVE", 0x14E),
    ("LATIN SMALL LETTER O WITH BREVE", 0x14F),
    ("LATIN CAPITAL LETTER O WITH DOUBLE ACUTE", 0x150),
    ("LATIN SMALL LETTER O WITH DOUBLE ACUTE", 0x151), ("LATIN CAPITAL LIGATURE OE", 0x152),
    ("LATIN SMALL LIGATURE OE", 0x153), ("LATIN CAPITAL LETTER R WITH ACUTE", 0x154),
    ("LATIN SMALL LETTER R WITH ACUTE", 0x155), ("LATIN CAPITAL LETTER R WITH CEDILLA", 0x156),
    ("LATIN SMALL LETTER R WITH CEDILLA", 0x157), ("LATIN CAPITAL LETTER R WITH CARON", 0x158),
    ("LATIN SMALL LETTER R WITH CARON", 0x159), ("LATIN CAPITAL LETTER S WITH ACUTE", 0x15A),
    ("LATIN SMALL LETTER S WITH ACUTE", 0x15B), ("LATIN CAPITAL LETTER S WITH CIRCUMFLEX", 0x15C),
    ("LATIN SMALL LETTER S WITH CIRCUMFLEX", 0x15D),
    ("LATIN CAPITAL LETTER S WITH CEDILLA", 0x15E), ("LATIN SMALL LETTER S WITH CEDILLA", 0x15F),
    ("LATIN CAPITAL LETTER S WITH CARON", 0x160), ("LATIN SMALL LETTER S WITH CARON", 0x161),
    ("LATIN CAPITAL LETTER T WITH CEDILLA", 0x162), ("LATIN SMALL LETTER T WITH CEDILLA", 0x163),
    ("LATIN CAPITAL LETTER T WITH CARON", 0x164), ("LATIN SMALL LETTER T WITH CARON", 0x165),
    ("LATIN CAPITAL LETTER T WITH STROKE", 0x166), ("LATIN SMALL LETTER T WITH STROKE", 0x167),
    ("LATIN CAPITAL LETTER U WITH TILDE", 0x168), ("LATIN SMALL LETTER U WITH TILDE", 0x169),
    ("LATIN CAPITAL LETTER U WITH MACRON", 0x16A), ("LATIN SMALL LETTER U WITH MACRON", 0x16B),
    ("LATIN CAPITAL LETTER U WITH BREVE", 0x16C), ("LATIN SMALL LETTER U WITH BREVE", 0x16D),
    ("LATIN CAPITAL LETTER U WITH RING ABOVE", 0x16E),
    ("LATIN SMALL LETTER U WITH RING ABOVE", 0x16F),
    ("LATIN CAPITAL LETTER U WITH DOUBLE ACUTE", 0x170),
    ("LATIN SMALL LETTER U WITH DOUBLE ACUTE", 0x171),
    ("LATIN CAPITAL LETTER U WITH OGONEK", 0x172), ("LATIN SMALL LETTER U WITH OGONEK", 0x173),
    ("LATIN CAPITAL LETTER W WITH CIRCUMFLEX", 0x174),
    ("LATIN SMALL LETTER W WITH CIRCUMFLEX", 0x175),
    ("LATIN CAPITAL LETTER Y WITH CIRCUMFLEX", 0x176),
    ("LATIN SMALL LETTER Y WITH CIRCUMFLEX", 0x177),
    ("LATIN CAPITAL LETTER Y WITH DIAERESIS", 0x178),
    ("LATIN CAPITAL LETTER Z WITH ACUTE", 0x179), ("LATIN SMALL LETTER Z WITH ACUTE", 0x17A),
    ("LATIN CAPITAL LETTER Z WITH DOT ABOVE", 0x17B),
    ("LATIN SMALL LETTER Z WITH DOT ABOVE", 0x17C), ("LATIN CAPITAL LETTER Z WITH CARON", 0x17D),
    ("LATIN SMALL LETTER Z WITH CARON", 0x17E), ("LATIN SMALL LETTER LONG S", 0x17F),
    ("GREEK CAPITAL LETTER HETA", 0x370), ("GREEK SMALL LETTER HETA", 0x371),
    ("GREEK CAPITAL LETTER ARCHAIC SAMPI", 0x372), ("GREEK SMALL LETTER ARCHAIC SAMPI", 0x373),
    ("GREEK NUMERAL SIGN", 0x374), ("GREEK LOWER NUMERAL SIGN", 0x375),
    ("GREEK CAPITAL LETTER PAMPHYLIAN DIGAMMA", 0x376),
    ("GREEK SMALL LETTER PAMPHYLIAN DIGAMMA", 0x377), ("GREEK YPOGEGRAMMENI", 0x37A),
    ("GREEK SMALL REVERSED LUNATE SIGMA SYMBOL", 0x37B),
    ("GREEK SMALL DOTTED LUNATE SIGMA SYMBOL", 0x37C),
    ("GREEK SMALL REVERSED DOTTED LUNATE SIGMA SYMBOL", 0x37D), ("GREEK QUESTION MARK", 0x37E),
    ("GREEK CAPITAL LETTER YOT", 0x37F), ("GREEK TONOS", 0x384), ("GREEK DIALYTIKA TONOS", 0x385),
    ("GREEK CAPITAL LETTER ALPHA WITH TONOS", 0x386), ("GREEK ANO TELEIA", 0x387),
    ("GREEK CAPITAL LETTER EPSILON WITH TONOS", 0x388),
    ("GREEK CAPITAL LETTER ETA WITH TONOS", 0x389),
    ("GREEK CAPITAL LETTER IOTA WITH TONOS", 0x38A),
    ("GREEK CAPITAL LETTER OMICRON WITH TONOS", 0x38C),
    ("GREEK CAPITAL LETTER UPSILON WITH TONOS", 0x38E),
    ("GREEK CAPITAL LETTER OMEGA WITH TONOS", 0x38F),
    ("GREEK SMALL LETTER IOTA WITH DIALYTIKA AND TONOS", 0x390),
    ("GREEK CAPITAL LETTER ALPHA", 0x391), ("GREEK CAPITAL LETTER BETA", 0x392),
    ("GREEK CAPITAL LETTER GAMMA", 0x393), ("GREEK CAPITAL LETTER DELTA", 0x394),
    ("GREEK CAPITAL LETTER EPSILON", 0x395), ("GREEK CAPITAL LETTER ZETA", 0x396),
    ("GREEK CAPITAL LETTER ETA", 0x397), ("GREEK CAPITAL LETTER THETA", 0x398),
    ("GREEK CAPITAL LETTER IOTA", 0x399), ("GREEK CAPITAL LETTER KAPPA", 0x39A),
    ("GREEK CAPITAL LETTER LAMDA", 0x39B), ("GREEK CAPITAL LETTER MU", 0x39C),
    ("GREEK CAPITAL LETTER NU", 0x39D), ("GREEK CAPITAL LETTER XI", 0x39E),
    ("GREEK CAPITAL LETTER OMICRON", 0x39F), ("GREEK CAPITAL LETTER PI", 0x3A0),
    ("GREEK CAPITAL LETTER RHO", 0x3A1), ("GREEK CAPITAL LETTER SIGMA", 0x3A3),
    ("GREEK CAPITAL LETTER TAU", 0x3A4), ("GREEK CAPITAL LETTER UPSILON", 0x3A5),
    ("GREEK CAPITAL LETTER PHI", 0x3A6), ("GREEK CAPITAL LETTER CHI", 0x3A7),
    ("GREEK CAPITAL LETTER PSI", 0x3A8), ("GREEK CAPITAL LETTER OMEGA", 0x3A9),
    ("GREEK CAPITAL LETTER IOTA WITH DIALYTIKA", 0x3AA),
    ("GREEK CAPITAL LETTER UPSILON WITH DIALYTIKA", 0x3AB),
    ("GREEK SMALL LETTER ALPHA WITH TONOS", 0x3AC),
    ("GREEK SMALL LETTER EPSILON WITH TONOS", 0x3AD),
    ("GREEK SMALL LETTER ETA WITH TONOS", 0x3AE), ("GREEK SMALL LETTER IOTA WITH TONOS", 0x3AF),
    ("GREEK SMALL LETTER UPSILON WITH DIALYTIKA AND TONOS", 0x3B0),
    ("GREEK SMALL LETTER ALPHA", 0x3B1), ("GREEK SMALL LETTER BETA", 0x3B2),
    ("GREEK SMALL LETTER GAMMA", 0x3B3), ("GREEK SMALL LETTER DELTA", 0x3B4),
    ("GREEK SMALL LETTER EPSILON", 0x3B5), ("GREEK SMALL LETTER ZETA", 0x3B6),
    ("GREEK SMALL LETTER ETA", 0x3B7), ("GREEK SMALL LETTER THETA", 0x3B8),
    ("GREEK SMALL LETTER IOTA", 0x3B9), ("GREEK SMALL LETTER KAPPA", 0x3BA),
    ("GREEK SMALL LETTER LAMDA", 0x3BB), ("GREEK SMALL LETTER MU", 0x3BC),
    ("GREEK SMALL LETTER NU", 0x3BD), ("GREEK SMALL LETTER XI", 0x3BE),
    ("GREEK SMALL LETTER OMICRON", 0x3BF), ("GREEK SMALL LETTER PI", 0x3C0),
    ("GREEK SMALL LETTER RHO", 0x3C1), ("GREEK SMALL LETTER FINAL SIGMA", 0x3C2),
    ("GREEK SMALL LETTER SIGMA", 0x3C3), ("GREEK SMALL LETTER TAU", 0x3C4),
    ("GREEK SMALL LETTER UPSILON", 0x3C5), ("GREEK SMALL LETTER PHI", 0x3C6),
    ("GREEK SMALL LETTER CHI", 0x3C7), ("GREEK SMALL LETTER PSI", 0x3C8),
    ("GREEK SMALL LETTER OMEGA", 0x3C9), ("GREEK SMALL LETTER IOTA WITH DIALYTIKA", 0x3CA),
    ("GREEK SMALL LETTER UPSILON WITH DIALYTIKA", 0x3CB),
    ("GREEK SMALL LETTER OMICRON WITH TONOS", 0x3CC),
    ("GREEK SMALL LETTER UPSILON WITH TONOS", 0x3CD),
    ("GREEK SMALL LETTER OMEGA WITH TONOS", 0x3CE), ("GREEK CAPITAL KAI SYMBOL", 0x3CF),
    ("GREEK BETA SYMBOL", 0x3D0), ("GREEK THETA SYMBOL", 0x3D1),
    ("GREEK UPSILON WITH HOOK SYMBOL", 0x3D2),
    ("GREEK UPSILON WITH ACUTE AND HOOK SYMBOL", 0x3D3),
    ("GREEK UPSILON WITH DIAERESIS AND HOOK SYMBOL", 0x3D4), ("GREEK PHI SYMBOL", 0x3D5),
    ("GREEK PI SYMBOL", 0x3D6), ("GREEK KAI SYMBOL", 0x3D7),
    ("GREEK LETTER ARCHAIC KOPPA", 0x3D8), ("GREEK SMALL LETTER ARCHAIC KOPPA", 0x3D9),
    ("GREEK LETTER STIGMA", 0x3DA), ("GREEK SMALL LETTER STIGMA", 0x3DB),
    ("GREEK LETTER DIGAMMA", 0x3DC), ("GREEK SMALL LETTER DIGAMMA", 0x3DD),
    ("GREEK LETTER KOPPA", 0x3DE), ("GREEK SMALL LETTER KOPPA", 0x3DF),
    ("GREEK LETTER SAMPI", 0x3E0), ("GREEK SMALL LETTER SAMPI", 0x3E1),
    ("COPTIC CAPITAL LETTER SHEI", 0x3E2), ("COPTIC SMALL LETTER SHEI", 0x3E3),
    ("COPTIC CAPITAL LETTER FEI", 0x3E4), ("COPTIC SMALL LETTER FEI", 0x3E5),
    ("COPTIC CAPITAL LETTER KHEI", 0x3E6), ("COPTIC SMALL LETTER KHEI", 0x3E7),
    ("COPTIC CAPITAL LETTER HORI", 0x3E8), ("COPTIC SMALL LETTER HORI", 0x3E9),
    ("COPTIC CAPITAL LETTER GANGIA", 0x3EA), ("COPTIC SMALL LETTER GANGIA", 0x3EB),
    ("COPTIC CAPITAL LETTER SHIMA", 0x3EC), ("COPTIC SMALL LETTER SHIMA", 0x3ED),
    ("COPTIC CAPITAL LETTER DEI", 0x3EE), ("COPTIC SMALL LETTER DEI", 0x3EF),
    ("GREEK KAPPA SYMBOL", 0x3F0), ("GREEK RHO SYMBOL", 0x3F1),
    ("GREEK LUNATE SIGMA SYMBOL", 0x3F2), ("GREEK LETTER YOT", 0x3F3),
    ("GREEK CAPITAL THETA SYMBOL", 0x3F4), ("GREEK LUNATE EPSILON SYMBOL", 0x3F5),
    ("GREEK REVERSED LUNATE EPSILON SYMBOL", 0x3F6), ("GREEK CAPITAL LETTER SHO", 0x3F7),
    ("GREEK SMALL LETTER SHO", 0x3F8), ("GREEK CAPITAL LUNATE SIGMA SYMBOL", 0x3F9),
    ("GREEK CAPITAL LETTER SAN", 0x3FA), ("GREEK SMALL LETTER SAN", 0x3FB),
    ("GREEK RHO WITH STROKE SYMBOL", 0x3FC),
    ("GREEK CAPITAL REVERSED LUNATE SIGMA SYMBOL", 0x3FD),
    ("GREEK CAPITAL DOTTED LUNATE SIGMA SYMBOL", 0x3FE),
    ("GREEK CAPITAL REVERSED DOTTED LUNATE SIGMA SYMBOL", 0x3FF),
    ("CYRILLIC CAPITAL LETTER IE WITH GRAVE", 0x400), ("CYRILLIC CAPITAL LETTER IO", 0x401),
    ("CYRILLIC CAPITAL LETTER DJE", 0x402), ("CYRILLIC CAPITAL LETTER GJE", 0x403),
    ("CYRILLIC CAPITAL LETTER UKRAINIAN IE", 0x404), ("CYRILLIC CAPITAL LETTER DZE", 0x405),
    ("CYRILLIC CAPITAL LETTER BYELORUSSIAN-UKRAINIAN I", 0x406),
    ("CYRILLIC CAPITAL LETTER YI", 0x407), ("CYRILLIC CAPITAL LETTER JE", 0x408),
    ("CYRILLIC CAPITAL LETTER LJE", 0x409), ("CYRILLIC CAPITAL LETTER NJE", 0x40A),
    ("CYRILLIC CAPITAL LETTER TSHE", 0x40B), ("CYRILLIC CAPITAL LETTER KJE", 0x40C),
    ("CYRILLIC CAPITAL LETTER I WITH GRAVE", 0x40D), ("CYRILLIC CAPITAL LETTER SHORT U", 0x40E),
    ("CYRILLIC CAPITAL LETTER DZHE", 0x40F), ("CYRILLIC CAPITAL LETTER A", 0x410),
    ("CYRILLIC CAPITAL LETTER BE", 0x411), ("CYRILLIC CAPITAL LETTER VE", 0x412),
    ("CYRILLIC CAPITAL LETTER GHE", 0x413), ("CYRILLIC CAPITAL LETTER DE", 0x414),
    ("CYRILLIC CAPITAL LETTER IE", 0x415), ("CYRILLIC CAPITAL LETTER ZHE", 0x416),
    ("CYRILLIC CAPITAL LETTER ZE", 0x417), ("CYRILLIC CAPITAL LETTER I", 0x418),
    ("CYRILLIC CAPITAL LETTER SHORT I", 0x419), ("CYRILLIC CAPITAL LETTER KA", 0x41A),
    ("CYRILLIC CAPITAL LETTER EL", 0x41B), ("CYRILLIC CAPITAL LETTER EM", 0x41C),
    ("CYRILLIC CAPITAL LETTER EN", 0x41D), ("CYRILLIC CAPITAL LETTER O", 0x41E),
    ("CYRILLIC CAPITAL LETTER PE", 0x41F), ("CYRILLIC CAPITAL LETTER ER", 0x420),
    ("CYRILLIC CAPITAL LETTER ES", 0x421), ("CYRILLIC CAPITAL LETTER TE", 0x422),
    ("CYRILLIC CAPITAL LETTER U", 0x423), ("CYRILLIC CAPITAL LETTER EF", 0x424),
    ("CYRILLIC CAPITAL LETTER HA", 0x425), ("CYRILLIC CAPITAL LETTER TSE", 0x426),
    ("CYRILLIC CAPITAL LETTER CHE", 0x427), ("CYRILLIC CAPITAL LETTER SHA", 0x428),
    ("CYRILLIC CAPITAL LETTER SHCHA", 0x429), ("CYRILLIC CAPITAL LETTER HARD SIGN", 0x42A),
    ("CYRILLIC CAPITAL LETTER YERU", 0x42B), ("CYRILLIC CAPITAL LETTER SOFT SIGN", 0x42C),
    ("CYRILLIC CAPITAL LETTER E", 0x42D), ("CYRILLIC CAPITAL LETTER YU", 0x42E),
    ("CYRILLIC CAPITAL LETTER YA", 0x42F), ("CYRILLIC SMALL LETTER A", 0x430),
    ("CYRILLIC SMALL LETTER BE", 0x431), ("CYRILLIC SMALL LETTER VE", 0x432),
    ("CYRILLIC SMALL LETTER GHE", 0x433), ("CYRILLIC SMALL LETTER DE", 0x434),
    ("CYRILLIC SMALL LETTER IE", 0x435), ("CYRILLIC SMALL LETTER ZHE", 0x436),
    ("CYRILLIC SMALL LETTER ZE", 0x437), ("CYRILLIC SMALL LETTER I", 0x438),
    ("CYRILLIC SMALL LETTER SHORT I", 0x439), ("CYRILLIC SMALL LETTER KA", 0x43A),
    ("CYRILLIC SMALL LETTER EL", 0x43B), ("CYRILLIC SMALL LETTER EM", 0x43C),
    ("CYRILLIC SMALL LETTER EN", 0x43D), ("CYRILLIC SMALL LETTER O", 0x43E),
    ("CYRILLIC SMALL LETTER PE", 0x43F), ("CYRILLIC SMALL LETTER ER", 0x440),
    ("CYRILLIC SMALL LETTER ES", 0x441), ("CYRILLIC SMALL LETTER TE", 0x442),
    ("CYRILLIC SMALL LETTER U", 0x443), ("CYRILLIC SMALL LETTER EF", 0x444),
    ("CYRILLIC SMALL LETTER HA", 0x445), ("CYRILLIC SMALL LETTER TSE", 0x446),
    ("CYRILLIC SMALL LETTER CHE", 0x447), ("CYRILLIC SMALL LETTER SHA", 0x448),
    ("CYRILLIC SMALL LETTER SHCHA", 0x449), ("CYRILLIC SMALL LETTER HARD SIGN", 0x44A),
    ("CYRILLIC SMALL LETTER YERU", 0x44B), ("CYRILLIC SMALL LETTER SOFT SIGN", 0x44C),
    ("CYRILLIC SMALL LETTER E", 0x44D), ("CYRILLIC SMALL LETTER YU", 0x44E),
    ("CYRILLIC SMALL LETTER YA", 0x44F), ("CYRILLIC SMALL LETTER IE WITH GRAVE", 0x450),
    ("CYRILLIC SMALL LETTER IO", 0x451), ("CYRILLIC SMALL LETTER DJE", 0x452),
    ("CYRILLIC SMALL LETTER GJE", 0x453), ("CYRILLIC SMALL LETTER UKRAINIAN IE", 0x454),
    ("CYRILLIC SMALL LETTER DZE", 0x455),
    ("CYRILLIC SMALL LETTER BYELORUSSIAN-UKRAINIAN I", 0x456),
    ("CYRILLIC SMALL LETTER YI", 0x457), ("CYRILLIC SMALL LETTER JE", 0x458),
    ("CYRILLIC SMALL LETTER LJE", 0x459), ("CYRILLIC SMALL LETTER NJE", 0x45A),
    ("CYRILLIC SMALL LETTER TSHE", 0x45B), ("CYRILLIC SMALL LETTER KJE", 0x45C),
    ("CYRILLIC SMALL LETTER I WITH GRAVE", 0x45D), ("CYRILLIC SMALL LETTER SHORT U", 0x45E),
    ("CYRILLIC SMALL LETTER DZHE", 0x45F), ("ARABIC NUMBER SIGN", 0x600),
    ("ARABIC SIGN SANAH", 0x601), ("ARABIC FOOTNOTE MARKER", 0x602), ("ARABIC SIGN SAFHA", 0x603),
    ("ARABIC SIGN SAMVAT", 0x604), ("ARABIC NUMBER MARK ABOVE", 0x605),
    ("ARABIC-INDIC CUBE ROOT", 0x606), ("ARABIC-INDIC FOURTH ROOT", 0x607), ("ARABIC RAY", 0x608),
    ("ARABIC-INDIC PER MILLE SIGN", 0x609), ("ARABIC-INDIC PER TEN THOUSAND SIGN", 0x60A),
    ("AFGHANI SIGN", 0x60B), ("ARABIC COMMA", 0x60C), ("ARABIC DATE SEPARATOR", 0x60D),
    ("ARABIC POETIC VERSE SIGN", 0x60E), ("ARABIC SIGN MISRA", 0x60F),
    ("ARABIC SIGN SALLALLAHOU ALAYHE WASSALLAM", 0x610), ("ARABIC SIGN ALAYHE ASSALLAM", 0x611),
    ("ARABIC SIGN RAHMATULLAH ALAYHE", 0x612), ("ARABIC SIGN RADI ALLAHOU ANHU", 0x613),
    ("ARABIC SIGN TAKHALLUS", 0x614), ("ARABIC SMALL HIGH TAH", 0x615),
    ("ARABIC SMALL HIGH LIGATURE ALEF WITH LAM WITH YEH", 0x616),
    ("ARABIC SMALL HIGH ZAIN", 0x617), ("ARABIC SMALL FATHA", 0x618),
    ("ARABIC SMALL DAMMA", 0x619), ("ARABIC SMALL KASRA", 0x61A), ("ARABIC SEMICOLON", 0x61B),
    ("ARABIC LETTER MARK", 0x61C), ("ARABIC END OF TEXT MARK", 0x61D),
    ("ARABIC TRIPLE DOT PUNCTUATION MARK", 0x61E), ("ARABIC QUESTION MARK", 0x61F),
    ("ARABIC LETTER KASHMIRI YEH", 0x620), ("ARABIC LETTER HAMZA", 0x621),
    ("ARABIC LETTER ALEF WITH MADDA ABOVE", 0x622),
    ("ARABIC LETTER ALEF WITH HAMZA ABOVE", 0x623), ("ARABIC LETTER WAW WITH HAMZA ABOVE", 0x624),
    ("ARABIC LETTER ALEF WITH HAMZA BELOW", 0x625), ("ARABIC LETTER YEH WITH HAMZA ABOVE", 0x626),
    ("ARABIC LETTER ALEF", 0x627), ("ARABIC LETTER BEH", 0x628),
    ("ARABIC LETTER TEH MARBUTA", 0x629), ("ARABIC LETTER TEH", 0x62A),
    ("ARABIC LETTER THEH", 0x62B), ("ARABIC LETTER JEEM", 0x62C), ("ARABIC LETTER HAH", 0x62D),
    ("ARABIC LETTER KHAH", 0x62E), ("ARABIC LETTER DAL", 0x62F), ("ARABIC LETTER THAL", 0x630),
    ("ARABIC LETTER REH", 0x631), ("ARABIC LETTER ZAIN", 0x632), ("ARABIC LETTER SEEN", 0x633),
    ("ARABIC LETTER SHEEN", 0x634), ("ARABIC LETTER SAD", 0x635), ("ARABIC LETTER DAD", 0x636),
    ("ARABIC LETTER TAH", 0x637), ("ARABIC LETTER ZAH", 0x638), ("ARABIC LETTER AIN", 0x639),
    ("ARABIC LETTER GHAIN", 0x63A), ("ARABIC LETTER KEHEH WITH TWO DOTS ABOVE", 0x63B),
    ("ARABIC LETTER KEHEH WITH THREE DOTS BELOW", 0x63C),
    ("ARABIC LETTER FARSI YEH WITH INVERTED V", 0x63D),
    ("ARABIC LETTER FARSI YEH WITH TWO DOTS ABOVE", 0x63E),
    ("ARABIC LETTER FARSI YEH WITH THREE DOTS ABOVE", 0x63F), ("ARABIC TATWEEL", 0x640),
    ("ARABIC LETTER FEH", 0x641), ("ARABIC LETTER QAF", 0x642), ("ARABIC LETTER KAF", 0x643),
    ("ARABIC LETTER LAM", 0x644), ("ARABIC LETTER MEEM", 0x645), ("ARABIC LETTER NOON", 0x646),
    ("ARABIC LETTER HEH", 0x647), ("ARABIC LETTER WAW", 0x648),
    ("ARABIC LETTER ALEF MAKSURA", 0x649), ("ARABIC LETTER YEH", 0x64A),
    ("ARABIC FATHATAN", 0x64B), ("ARABIC DAMMATAN", 0x64C), ("ARABIC KASRATAN", 0x64D),
    ("ARABIC FATHA", 0x64E), ("ARABIC DAMMA", 0x64F), ("ARABIC KASRA", 0x650),
    ("ARABIC SHADDA", 0x651), ("ARABIC SUKUN", 0x652), ("ARABIC MADDAH ABOVE", 0x653),
    ("ARABIC HAMZA ABOVE", 0x654), ("ARABIC HAMZA BELOW", 0x655),
    ("ARABIC SUBSCRIPT ALEF", 0x656), ("ARABIC INVERTED DAMMA", 0x657),
    ("ARABIC MARK NOON GHUNNA", 0x658), ("ARABIC ZWARAKAY", 0x659),
    ("ARABIC VOWEL SIGN SMALL V ABOVE", 0x65A),
    ("ARABIC VOWEL SIGN INVERTED SMALL V ABOVE", 0x65B), ("ARABIC VOWEL SIGN DOT BELOW", 0x65C),
    ("ARABIC REVERSED DAMMA", 0x65D), ("ARABIC FATHA WITH TWO DOTS", 0x65E),
    ("ARABIC WAVY HAMZA BELOW", 0x65F), ("ARABIC-INDIC DIGIT ZERO", 0x660),
    ("ARABIC-INDIC DIGIT ONE", 0x661), ("ARABIC-INDIC DIGIT TWO", 0x662),
    ("ARABIC-INDIC DIGIT THREE", 0x663), ("ARABIC-INDIC DIGIT FOUR", 0x664),
    ("ARABIC-INDIC DIGIT FIVE", 0x665), ("ARABIC-INDIC DIGIT SIX", 0x666),
    ("ARABIC-INDIC DIGIT SEVEN", 0x667), ("ARABIC-INDIC DIGIT EIGHT", 0x668),
    ("ARABIC-INDIC DIGIT NINE", 0x669), ("ARABIC PERCENT SIGN", 0x66A),
    ("ARABIC DECIMAL SEPARATOR", 0x66B), ("ARABIC THOUSANDS SEPARATOR", 0x66C),
    ("ARABIC FIVE POINTED STAR", 0x66D), ("ARABIC LETTER DOTLESS BEH", 0x66E),
    ("ARABIC LETTER DOTLESS QAF", 0x66F), ("ARABIC LETTER SUPERSCRIPT ALEF", 0x670),
    ("ARABIC LETTER ALEF WASLA", 0x671), ("ARABIC LETTER ALEF WITH WAVY HAMZA ABOVE", 0x672),
    ("ARABIC LETTER ALEF WITH WAVY HAMZA BELOW", 0x673), ("ARABIC LETTER HIGH HAMZA", 0x674),
    ("ARABIC LETTER HIGH HAMZA ALEF", 0x675), ("ARABIC LETTER HIGH HAMZA WAW", 0x676),
    ("ARABIC LETTER U WITH HAMZA ABOVE", 0x677), ("ARABIC LETTER HIGH HAMZA YEH", 0x678),
    ("ARABIC LETTER TTEH", 0x679), ("ARABIC LETTER TTEHEH", 0x67A), ("ARABIC LETTER BEEH", 0x67B),
    ("ARABIC LETTER TEH WITH RING", 0x67C),
    ("ARABIC LETTER TEH WITH THREE DOTS ABOVE DOWNWARDS", 0x67D), ("ARABIC LETTER PEH", 0x67E),
    ("ARABIC LETTER TEHEH", 0x67F), ("ARABIC LETTER BEHEH", 0x680),
    ("ARABIC LETTER HAH WITH HAMZA ABOVE", 0x681),
    ("ARABIC LETTER HAH WITH TWO DOTS VERTICAL ABOVE", 0x682), ("ARABIC LETTER NYEH", 0x683),
    ("ARABIC LETTER DYEH", 0x684), ("ARABIC LETTER HAH WITH THREE DOTS ABOVE", 0x685),
    ("ARABIC LETTER TCHEH", 0x686), ("ARABIC LETTER TCHEHEH", 0x687),
    ("ARABIC LETTER DDAL", 0x688), ("ARABIC LETTER DAL WITH RING", 0x689),
    ("ARABIC LETTER DAL WITH DOT BELOW", 0x68A),
    ("ARABIC LETTER DAL WITH DOT BELOW AND SMALL TAH", 0x68B), ("ARABIC LETTER DAHAL", 0x68C),
    ("ARABIC LETTER DDAHAL", 0x68D), ("ARABIC LETTER DUL", 0x68E),
    ("ARABIC LETTER DAL WITH THREE DOTS ABOVE DOWNWARDS", 0x68F),
    ("ARABIC LETTER DAL WITH FOUR DOTS ABOVE", 0x690), ("ARABIC LETTER RREH", 0x691),
    ("ARABIC LETTER REH WITH SMALL V", 0x692), ("ARABIC LETTER REH WITH RING", 0x693),
    ("ARABIC LETTER REH WITH DOT BELOW", 0x694), ("ARABIC LETTER REH WITH SMALL V BELOW", 0x695),
    ("ARABIC LETTER REH WITH DOT BELOW AND DOT ABOVE", 0x696),
    ("ARABIC LETTER REH WITH TWO DOTS ABOVE", 0x697), ("ARABIC LETTER JEH", 0x698),
    ("ARABIC LETTER REH WITH FOUR DOTS ABOVE", 0x699),
    ("ARABIC LETTER SEEN WITH DOT BELOW AND DOT ABOVE", 0x69A),
    ("ARABIC LETTER SEEN WITH THREE DOTS BELOW", 0x69B),
    ("ARABIC LETTER SEEN WITH THREE DOTS BELOW AND THREE DOTS ABOVE", 0x69C),
    ("ARABIC LETTER SAD WITH TWO DOTS BELOW", 0x69D),
    ("ARABIC LETTER SAD WITH THREE DOTS ABOVE", 0x69E),
    ("ARABIC LETTER TAH WITH THREE DOTS ABOVE", 0x69F),
    ("ARABIC LETTER AIN WITH THREE DOTS ABOVE", 0x6A0), ("ARABIC LETTER DOTLESS FEH", 0x6A1),
    ("ARABIC LETTER FEH WITH DOT MOVED BELOW", 0x6A2),
    ("ARABIC LETTER FEH WITH DOT BELOW", 0x6A3), ("ARABIC LETTER VEH", 0x6A4),
    ("ARABIC LETTER FEH WITH THREE DOTS BELOW", 0x6A5), ("ARABIC LETTER PEHEH", 0x6A6),
    ("ARABIC LETTER QAF WITH DOT ABOVE", 0x6A7),
    ("ARABIC LETTER QAF WITH THREE DOTS ABOVE", 0x6A8), ("ARABIC LETTER KEHEH", 0x6A9),
    ("ARABIC LETTER SWASH KAF", 0x6AA), ("ARABIC LETTER KAF WITH RING", 0x6AB),
    ("ARABIC LETTER KAF WITH DOT ABOVE", 0x6AC), ("ARABIC LETTER NG", 0x6AD),
    ("ARABIC LETTER KAF WITH THREE DOTS BELOW", 0x6AE), ("ARABIC LETTER GAF", 0x6AF),
    ("ARABIC LETTER GAF WITH RING", 0x6B0), ("ARABIC LETTER NGOEH", 0x6B1),
    ("ARABIC LETTER GAF WITH TWO DOTS BELOW", 0x6B2), ("ARABIC LETTER GUEH", 0x6B3),
    ("ARABIC LETTER GAF WITH THREE DOTS ABOVE", 0x6B4), ("ARABIC LETTER LAM WITH SMALL V", 0x6B5),
    ("ARABIC LETTER LAM WITH DOT ABOVE", 0x6B6),
    ("ARABIC LETTER LAM WITH THREE DOTS ABOVE", 0x6B7),
    ("ARABIC LETTER LAM WITH THREE DOTS BELOW", 0x6B8),
    ("ARABIC LETTER NOON WITH DOT BELOW", 0x6B9), ("ARABIC LETTER NOON GHUNNA", 0x6BA),
    ("ARABIC LETTER RNOON", 0x6BB), ("ARABIC LETTER NOON WITH RING", 0x6BC),
    ("ARABIC LETTER NOON WITH THREE DOTS ABOVE", 0x6BD), ("ARABIC LETTER HEH DOACHASHMEE", 0x6BE),
    ("ARABIC LETTER TCHEH WITH DOT ABOVE", 0x6BF), ("ARABIC LETTER HEH WITH YEH ABOVE", 0x6C0),
    ("ARABIC LETTER HEH GOAL", 0x6C1), ("ARABIC LETTER HEH GOAL WITH HAMZA ABOVE", 0x6C2),
    ("ARABIC LETTER TEH MARBUTA GOAL", 0x6C3), ("ARABIC LETTER WAW WITH RING", 0x6C4),
    ("ARABIC LETTER KIRGHIZ OE", 0x6C5), ("ARABIC LETTER OE", 0x6C6), ("ARABIC LETTER U", 0x6C7),
    ("ARABIC LETTER YU", 0x6C8), ("ARABIC LETTER KIRGHIZ YU", 0x6C9),
    ("ARABIC LETTER WAW WITH TWO DOTS ABOVE", 0x6CA), ("ARABIC LETTER VE", 0x6CB),
    ("ARABIC LETTER FARSI YEH", 0x6CC), ("ARABIC LETTER YEH WITH TAIL", 0x6CD),
    ("ARABIC LETTER YEH WITH SMALL V", 0x6CE), ("ARABIC LETTER WAW WITH DOT ABOVE", 0x6CF),
    ("ARABIC LETTER E", 0x6D0), ("ARABIC LETTER YEH WITH THREE DOTS BELOW", 0x6D1),
    ("ARABIC LETTER YEH BARREE", 0x6D2), ("ARABIC LETTER YEH BARREE WITH HAMZA ABOVE", 0x6D3),
    ("ARABIC FULL STOP", 0x6D4), ("ARABIC LETTER AE", 0x6D5),
    ("ARABIC SMALL HIGH LIGATURE SAD WITH LAM WITH ALEF MAKSURA", 0x6D6),
    ("ARABIC SMALL HIGH LIGATURE QAF WITH LAM WITH ALEF MAKSURA", 0x6D7),
    ("ARABIC SMALL HIGH MEEM INITIAL FORM", 0x6D8), ("ARABIC SMALL HIGH LAM ALEF", 0x6D9),
    ("ARABIC SMALL HIGH JEEM", 0x6DA), ("ARABIC SMALL HIGH THREE DOTS", 0x6DB),
    ("ARABIC SMALL HIGH SEEN", 0x6DC), ("ARABIC END OF AYAH", 0x6DD),
    ("ARABIC START OF RUB EL HIZB", 0x6DE), ("ARABIC SMALL HIGH ROUNDED ZERO", 0x6DF),
    ("ARABIC SMALL HIGH UPRIGHT RECTANGULAR ZERO", 0x6E0),
    ("ARABIC SMALL HIGH DOTLESS HEAD OF KHAH", 0x6E1),
    ("ARABIC SMALL HIGH MEEM ISOLATED FORM", 0x6E2), ("ARABIC SMALL LOW SEEN", 0x6E3),
    ("ARABIC SMALL HIGH MADDA", 0x6E4), ("ARABIC SMALL WAW", 0x6E5), ("ARABIC SMALL YEH", 0x6E6),
    ("ARABIC SMALL HIGH YEH", 0x6E7), ("ARABIC SMALL HIGH NOON", 0x6E8),
    ("ARABIC PLACE OF SAJDAH", 0x6E9), ("ARABIC EMPTY CENTRE LOW STOP", 0x6EA),
    ("ARABIC EMPTY CENTRE HIGH STOP", 0x6EB),
    ("ARABIC ROUNDED HIGH STOP WITH FILLED CENTRE", 0x6EC), ("ARABIC SMALL LOW MEEM", 0x6ED),
    ("ARABIC LETTER DAL WITH INVERTED V", 0x6EE), ("ARABIC LETTER REH WITH INVERTED V", 0x6EF),
    ("EXTENDED ARABIC-INDIC DIGIT ZERO", 0x6F0), ("EXTENDED ARABIC-INDIC DIGIT ONE", 0x6F1),
    ("EXTENDED ARABIC-INDIC DIGIT TWO", 0x6F2), ("EXTENDED ARABIC-INDIC DIGIT THREE", 0x6F3),
    ("EXTENDED ARABIC-INDIC DIGIT FOUR", 0x6F4), ("EXTENDED ARABIC-INDIC DIGIT FIVE", 0x6F5),
    ("EXTENDED ARABIC-INDIC DIGIT SIX", 0x6F6), ("EXTENDED ARABIC-INDIC DIGIT SEVEN", 0x6F7),
    ("EXTENDED ARABIC-INDIC DIGIT EIGHT", 0x6F8), ("EXTENDED ARABIC-INDIC DIGIT NINE", 0x6F9),
    ("ARABIC LETTER SHEEN WITH DOT BELOW", 0x6FA), ("ARABIC LETTER DAD WITH DOT BELOW", 0x6FB),
    ("ARABIC LETTER GHAIN WITH DOT BELOW", 0x6FC), ("ARABIC SIGN SINDHI AMPERSAND", 0x6FD),
    ("ARABIC SIGN SINDHI POSTPOSITION MEN", 0x6FE), ("ARABIC LETTER HEH WITH INVERTED V", 0x6FF),
    ("EN QUAD", 0x2000), ("EM QUAD", 0x2001), ("EN SPACE", 0x2002), ("EM SPACE", 0x2003),
    ("THREE-PER-EM SPACE", 0x2004), ("FOUR-PER-EM SPACE", 0x2005), ("SIX-PER-EM SPACE", 0x2006),
    ("FIGURE SPACE", 0x2007), ("PUNCTUATION SPACE", 0x2008), ("THIN SPACE", 0x2009),
    ("HAIR SPACE", 0x200A), ("ZERO WIDTH SPACE", 0x200B), ("ZERO WIDTH NON-JOINER", 0x200C),
    ("ZERO WIDTH JOINER", 0x200D), ("LEFT-TO-RIGHT MARK", 0x200E), ("RIGHT-TO-LEFT MARK", 0x200F),
    ("HYPHEN", 0x2010), ("NON-BREAKING HYPHEN", 0x2011), ("FIGURE DASH", 0x2012),
    ("EN DASH", 0x2013), ("EM DASH", 0x2014), ("HORIZONTAL BAR", 0x2015),
    ("DOUBLE VERTICAL LINE", 0x2016), ("DOUBLE LOW LINE", 0x2017),
    ("LEFT SINGLE QUOTATION MARK", 0x2018), ("RIGHT SINGLE QUOTATION MARK", 0x2019),
    ("SINGLE LOW-9 QUOTATION MARK", 0x201A), ("SINGLE HIGH-REVERSED-9 QUOTATION MARK", 0x201B),
    ("LEFT DOUBLE QUOTATION MARK", 0x201C), ("RIGHT DOUBLE QUOTATION MARK", 0x201D),
    ("DOUBLE LOW-9 QUOTATION MARK", 0x201E), ("DOUBLE HIGH-REVERSED-9 QUOTATION MARK", 0x201F),
    ("DAGGER", 0x2020), ("DOUBLE DAGGER", 0x2021), ("BULLET", 0x2022),
    ("TRIANGULAR BULLET", 0x2023), ("ONE DOT LEADER", 0x2024), ("TWO DOT LEADER", 0x2025),
    ("HORIZONTAL ELLIPSIS", 0x2026), ("HYPHENATION POINT", 0x2027), ("LINE SEPARATOR", 0x2028),
    ("PARAGRAPH SEPARATOR", 0x2029), ("LEFT-TO-RIGHT EMBEDDING", 0x202A),
    ("RIGHT-TO-LEFT EMBEDDING", 0x202B), ("POP DIRECTIONAL FORMATTING", 0x202C),
    ("LEFT-TO-RIGHT OVERRIDE", 0x202D), ("RIGHT-TO-LEFT OVERRIDE", 0x202E),
    ("NARROW NO-BREAK SPACE", 0x202F), ("PER MILLE SIGN", 0x2030),
    ("PER TEN THOUSAND SIGN", 0x2031), ("PRIME", 0x2032), ("DOUBLE PRIME", 0x2033),
    ("TRIPLE PRIME", 0x2034), ("REVERSED PRIME", 0x2035), ("REVERSED DOUBLE PRIME", 0x2036),
    ("REVERSED TRIPLE PRIME", 0x2037), ("CARET", 0x2038),
    ("SINGLE LEFT-POINTING ANGLE QUOTATION MARK", 0x2039),
    ("SINGLE RIGHT-POINTING ANGLE QUOTATION MARK", 0x203A), ("REFERENCE MARK", 0x203B),
    ("DOUBLE EXCLAMATION MARK", 0x203C), ("INTERROBANG", 0x203D), ("OVERLINE", 0x203E),
    ("UNDERTIE", 0x203F), ("CHARACTER TIE", 0x2040), ("CARET INSERTION POINT", 0x2041),
    ("ASTERISM", 0x2042), ("HYPHEN BULLET", 0x2043), ("FRACTION SLASH", 0x2044),
    ("LEFT SQUARE BRACKET WITH QUILL", 0x2045), ("RIGHT SQUARE BRACKET WITH QUILL", 0x2046),
    ("DOUBLE QUESTION MARK", 0x2047), ("QUESTION EXCLAMATION MARK", 0x2048),
    ("EXCLAMATION QUESTION MARK", 0x2049), ("TIRONIAN SIGN ET", 0x204A),
    ("REVERSED PILCROW SIGN", 0x204B), ("BLACK LEFTWARDS BULLET", 0x204C),
    ("BLACK RIGHTWARDS BULLET", 0x204D), ("LOW ASTERISK", 0x204E), ("REVERSED SEMICOLON", 0x204F),
    ("CLOSE UP", 0x2050), ("TWO ASTERISKS ALIGNED VERTICALLY", 0x2051),
    ("COMMERCIAL MINUS SIGN", 0x2052), ("SWUNG DASH", 0x2053), ("INVERTED UNDERTIE", 0x2054),
    ("FLOWER PUNCTUATION MARK", 0x2055), ("THREE DOT PUNCTUATION", 0x2056),
    ("QUADRUPLE PRIME", 0x2057), ("FOUR DOT PUNCTUATION", 0x2058),
    ("FIVE DOT PUNCTUATION", 0x2059), ("TWO DOT PUNCTUATION", 0x205A), ("FOUR DOT MARK", 0x205B),
    ("DOTTED CROSS", 0x205C), ("TRICOLON", 0x205D), ("VERTICAL FOUR DOTS", 0x205E),
    ("MEDIUM MATHEMATICAL SPACE", 0x205F), ("WORD JOINER", 0x2060),
    ("FUNCTION APPLICATION", 0x2061), ("INVISIBLE TIMES", 0x2062),
    ("INVISIBLE SEPARATOR", 0x2063), ("INVISIBLE PLUS", 0x2064),
    ("LEFT-TO-RIGHT ISOLATE", 0x2066), ("RIGHT-TO-LEFT ISOLATE", 0x2067),
    ("FIRST STRONG ISOLATE", 0x2068), ("POP DIRECTIONAL ISOLATE", 0x2069),
    ("INHIBIT SYMMETRIC SWAPPING", 0x206A), ("ACTIVATE SYMMETRIC SWAPPING", 0x206B),
    ("INHIBIT ARABIC FORM SHAPING", 0x206C), ("ACTIVATE ARABIC FORM SHAPING", 0x206D),
    ("NATIONAL DIGIT SHAPES", 0x206E), ("NOMINAL DIGIT SHAPES", 0x206F),
    ("EURO-CURRENCY SIGN", 0x20A0), ("COLON SIGN", 0x20A1), ("CRUZEIRO SIGN", 0x20A2),
    ("FRENCH FRANC SIGN", 0x20A3), ("LIRA SIGN", 0x20A4), ("MILL SIGN", 0x20A5),
    ("NAIRA SIGN", 0x20A6), ("PESETA SIGN", 0x20A7), ("RUPEE SIGN", 0x20A8), ("WON SIGN", 0x20A9),
    ("NEW SHEQEL SIGN", 0x20AA), ("DONG SIGN", 0x20AB), ("EURO SIGN", 0x20AC),
    ("KIP SIGN", 0x20AD), ("TUGRIK SIGN", 0x20AE), ("DRACHMA SIGN", 0x20AF),
    ("GERMAN PENNY SIGN", 0x20B0), ("PESO SIGN", 0x20B1), ("GUARANI SIGN", 0x20B2),
    ("AUSTRAL SIGN", 0x20B3), ("HRYVNIA SIGN", 0x20B4), ("CEDI SIGN", 0x20B5),
    ("LIVRE TOURNOIS SIGN", 0x20B6), ("SPESMILO SIGN", 0x20B7), ("TENGE SIGN", 0x20B8),
    ("INDIAN RUPEE SIGN", 0x20B9), ("TURKISH LIRA SIGN", 0x20BA), ("NORDIC MARK SIGN", 0x20BB),
    ("MANAT SIGN", 0x20BC), ("RUBLE SIGN", 0x20BD), ("LARI SIGN", 0x20BE),
    ("BITCOIN SIGN", 0x20BF), ("ACCOUNT OF", 0x2100), ("ADDRESSED TO THE SUBJECT", 0x2101),
    ("DOUBLE-STRUCK CAPITAL C", 0x2102), ("DEGREE CELSIUS", 0x2103),
    ("CENTRE LINE SYMBOL", 0x2104), ("CARE OF", 0x2105), ("CADA UNA", 0x2106),
    ("EULER CONSTANT", 0x2107), ("SCRUPLE", 0x2108), ("DEGREE FAHRENHEIT", 0x2109),
    ("SCRIPT SMALL G", 0x210A), ("SCRIPT CAPITAL H", 0x210B), ("BLACK-LETTER CAPITAL H", 0x210C),
    ("DOUBLE-STRUCK CAPITAL H", 0x210D), ("PLANCK CONSTANT", 0x210E),
    ("PLANCK CONSTANT OVER TWO PI", 0x210F), ("SCRIPT CAPITAL I", 0x2110),
    ("BLACK-LETTER CAPITAL I", 0x2111), ("SCRIPT CAPITAL L", 0x2112), ("SCRIPT SMALL L", 0x2113),
    ("L B BAR SYMBOL", 0x2114), ("DOUBLE-STRUCK CAPITAL N", 0x2115), ("NUMERO SIGN", 0x2116),
    ("SOUND RECORDING COPYRIGHT", 0x2117), ("SCRIPT CAPITAL P", 0x2118),
    ("DOUBLE-STRUCK CAPITAL P", 0x2119), ("DOUBLE-STRUCK CAPITAL Q", 0x211A),
    ("SCRIPT CAPITAL R", 0x211B), ("BLACK-LETTER CAPITAL R", 0x211C),
    ("DOUBLE-STRUCK CAPITAL R", 0x211D), ("PRESCRIPTION TAKE", 0x211E), ("RESPONSE", 0x211F),
    ("SERVICE MARK", 0x2120), ("TELEPHONE SIGN", 0x2121), ("TRADE MARK SIGN", 0x2122),
    ("VERSICLE", 0x2123), ("DOUBLE-STRUCK CAPITAL Z", 0x2124), ("OUNCE SIGN", 0x2125),
    ("OHM SIGN", 0x2126), ("INVERTED OHM SIGN", 0x2127), ("BLACK-LETTER CAPITAL Z", 0x2128),
    ("TURNED GREEK SMALL LETTER IOTA", 0x2129), ("KELVIN SIGN", 0x212A),
    ("ANGSTROM SIGN", 0x212B), ("SCRIPT CAPITAL B", 0x212C), ("BLACK-LETTER CAPITAL C", 0x212D),
    ("ESTIMATED SYMBOL", 0x212E), ("SCRIPT SMALL E", 0x212F), ("SCRIPT CAPITAL E", 0x2130),
    ("SCRIPT CAPITAL F", 0x2131), ("TURNED CAPITAL F", 0x2132), ("SCRIPT CAPITAL M", 0x2133),
    ("SCRIPT SMALL O", 0x2134), ("ALEF SYMBOL", 0x2135), ("BET SYMBOL", 0x2136),
    ("GIMEL SYMBOL", 0x2137), ("DALET SYMBOL", 0x2138), ("INFORMATION SOURCE", 0x2139),
    ("ROTATED CAPITAL Q", 0x213A), ("FACSIMILE SIGN", 0x213B), ("DOUBLE-STRUCK SMALL PI", 0x213C),
    ("DOUBLE-STRUCK SMALL GAMMA", 0x213D), ("DOUBLE-STRUCK CAPITAL GAMMA", 0x213E),
    ("DOUBLE-STRUCK CAPITAL PI", 0x213F), ("DOUBLE-STRUCK N-ARY SUMMATION", 0x2140),
    ("TURNED SANS-SERIF CAPITAL G", 0x2141), ("TURNED SANS-SERIF CAPITAL L", 0x2142),
    ("REVERSED SANS-SERIF CAPITAL L", 0x2143), ("TURNED SANS-SERIF CAPITAL Y", 0x2144),
    ("DOUBLE-STRUCK ITALIC CAPITAL D", 0x2145), ("DOUBLE-STRUCK ITALIC SMALL D", 0x2146),
    ("DOUBLE-STRUCK ITALIC SMALL E", 0x2147), ("DOUBLE-STRUCK ITALIC SMALL I", 0x2148),
    ("DOUBLE-STRUCK ITALIC SMALL J", 0x2149), ("PROPERTY LINE", 0x214A),
    ("TURNED AMPERSAND", 0x214B), ("PER SIGN", 0x214C), ("AKTIESELSKAB", 0x214D),
    ("TURNED SMALL F", 0x214E), ("SYMBOL FOR SAMARITAN SOURCE", 0x214F),
    ("LEFTWARDS ARROW", 0x2190), ("UPWARDS ARROW", 0x2191), ("RIGHTWARDS ARROW", 0x2192),
    ("DOWNWARDS ARROW", 0x2193), ("LEFT RIGHT ARROW", 0x2194), ("UP DOWN ARROW", 0x2195),
    ("NORTH WEST ARROW", 0x2196), ("NORTH EAST ARROW", 0x2197), ("SOUTH EAST ARROW", 0x2198),
    ("SOUTH WEST ARROW", 0x2199), ("FOR ALL", 0x2200), ("COMPLEMENT", 0x2201),
    ("PARTIAL DIFFERENTIAL", 0x2202), ("THERE EXISTS", 0x2203), ("THERE DOES NOT EXIST", 0x2204),
    ("EMPTY SET", 0x2205), ("INCREMENT", 0x2206), ("NABLA", 0x2207), ("ELEMENT OF", 0x2208),
    ("NOT AN ELEMENT OF", 0x2209), ("SMALL ELEMENT OF", 0x220A), ("CONTAINS AS MEMBER", 0x220B),
    ("DOES NOT CONTAIN AS MEMBER", 0x220C), ("SMALL CONTAINS AS MEMBER", 0x220D),
    ("END OF PROOF", 0x220E), ("N-ARY PRODUCT", 0x220F), ("N-ARY COPRODUCT", 0x2210),
    ("N-ARY SUMMATION", 0x2211), ("MINUS SIGN", 0x2212), ("MINUS-OR-PLUS SIGN", 0x2213),
    ("DOT PLUS", 0x2214), ("DIVISION SLASH", 0x2215), ("SET MINUS", 0x2216),
    ("ASTERISK OPERATOR", 0x2217), ("RING OPERATOR", 0x2218), ("BULLET OPERATOR", 0x2219),
    ("SQUARE ROOT", 0x221A), ("CUBE ROOT", 0x221B), ("FOURTH ROOT", 0x221C),
    ("PROPORTIONAL TO", 0x221D), ("INFINITY", 0x221E), ("RIGHT ANGLE", 0x221F), ("ANGLE", 0x2220),
    ("MEASURED ANGLE", 0x2221), ("SPHERICAL ANGLE", 0x2222), ("DIVIDES", 0x2223),
    ("DOES NOT DIVIDE", 0x2224), ("PARALLEL TO", 0x2225), ("NOT PARALLEL TO", 0x2226),
    ("LOGICAL AND", 0x2227), ("LOGICAL OR", 0x2228), ("INTERSECTION", 0x2229), ("UNION", 0x222A),
    ("INTEGRAL", 0x222B), ("DOUBLE INTEGRAL", 0x222C), ("TRIPLE INTEGRAL", 0x222D),
    ("CONTOUR INTEGRAL", 0x222E), ("SURFACE INTEGRAL", 0x222F), ("VOLUME INTEGRAL", 0x2230),
    ("CLOCKWISE INTEGRAL", 0x2231), ("CLOCKWISE CONTOUR INTEGRAL", 0x2232),
    ("ANTICLOCKWISE CONTOUR INTEGRAL", 0x2233), ("THEREFORE", 0x2234), ("BECAUSE", 0x2235),
    ("RATIO", 0x2236), ("PROPORTION", 0x2237), ("DOT MINUS", 0x2238), ("EXCESS", 0x2239),
    ("GEOMETRIC PROPORTION", 0x223A), ("HOMOTHETIC", 0x223B), ("TILDE OPERATOR", 0x223C),
    ("REVERSED TILDE", 0x223D), ("INVERTED LAZY S", 0x223E), ("SINE WAVE", 0x223F),
    ("WREATH PRODUCT", 0x2240), ("NOT TILDE", 0x2241), ("MINUS TILDE", 0x2242),
    ("ASYMPTOTICALLY EQUAL TO", 0x2243), ("NOT ASYMPTOTICALLY EQUAL TO", 0x2244),
    ("APPROXIMATELY EQUAL TO", 0x2245), ("APPROXIMATELY BUT NOT ACTUALLY EQUAL TO", 0x2246),
    ("NEITHER APPROXIMATELY NOR ACTUALLY EQUAL TO", 0x2247), ("ALMOST EQUAL TO", 0x2248),
    ("NOT ALMOST EQUAL TO", 0x2249), ("ALMOST EQUAL OR EQUAL TO", 0x224A),
    ("TRIPLE TILDE", 0x224B), ("ALL EQUAL TO", 0x224C), ("EQUIVALENT TO", 0x224D),
    ("GEOMETRICALLY EQUIVALENT TO", 0x224E), ("DIFFERENCE BETWEEN", 0x224F),
    ("APPROACHES THE LIMIT", 0x2250), ("GEOMETRICALLY EQUAL TO", 0x2251),
    ("APPROXIMATELY EQUAL TO OR THE IMAGE OF", 0x2252),
    ("IMAGE OF OR APPROXIMATELY EQUAL TO", 0x2253), ("COLON EQUALS", 0x2254),
    ("EQUALS COLON", 0x2255), ("RING IN EQUAL TO", 0x2256), ("RING EQUAL TO", 0x2257),
    ("CORRESPONDS TO", 0x2258), ("ESTIMATES", 0x2259), ("EQUIANGULAR TO", 0x225A),
    ("STAR EQUALS", 0x225B), ("DELTA EQUAL TO", 0x225C), ("EQUAL TO BY DEFINITION", 0x225D),
    ("MEASURED BY", 0x225E), ("QUESTIONED EQUAL TO", 0x225F), ("NOT EQUAL TO", 0x2260),
    ("IDENTICAL TO", 0x2261), ("NOT IDENTICAL TO", 0x2262), ("STRICTLY EQUIVALENT TO", 0x2263),
    ("LESS-THAN OR EQUAL TO", 0x2264), ("GREATER-THAN OR EQUAL TO", 0x2265),
    ("IDEOGRAPHIC SPACE", 0x3000), ("IDEOGRAPHIC COMMA", 0x3001),
    ("IDEOGRAPHIC FULL STOP", 0x3002), ("DITTO MARK", 0x3003),
    ("JAPANESE INDUSTRIAL STANDARD SYMBOL", 0x3004), ("IDEOGRAPHIC ITERATION MARK", 0x3005),
    ("IDEOGRAPHIC CLOSING MARK", 0x3006), ("IDEOGRAPHIC NUMBER ZERO", 0x3007),
    ("LEFT ANGLE BRACKET", 0x3008), ("RIGHT ANGLE BRACKET", 0x3009),
    ("LEFT DOUBLE ANGLE BRACKET", 0x300A), ("RIGHT DOUBLE ANGLE BRACKET", 0x300B),
    ("LEFT CORNER BRACKET", 0x300C), ("RIGHT CORNER BRACKET", 0x300D),
    ("LEFT WHITE CORNER BRACKET", 0x300E), ("RIGHT WHITE CORNER BRACKET", 0x300F),
    ("LEFT BLACK LENTICULAR BRACKET", 0x3010), ("RIGHT BLACK LENTICULAR BRACKET", 0x3011),
    ("NULL", 0x0), ("NUL", 0x0), ("START OF HEADING", 0x1), ("START OF TEXT", 0x2),
    ("END OF TEXT", 0x3), ("END OF TRANSMISSION", 0x4), ("ENQUIRY", 0x5), ("ACKNOWLEDGE", 0x6),
    ("ALERT", 0x7), ("BEL", 0x7), ("BACKSPACE", 0x8), ("CHARACTER TABULATION", 0x9),
    ("HORIZONTAL TABULATION", 0x9), ("TAB", 0x9), ("HT", 0x9), ("LINE FEED", 0xA),
    ("NEW LINE", 0xA), ("END OF LINE", 0xA), ("LF", 0xA), ("NL", 0xA), ("EOL", 0xA),
    ("LINE TABULATION", 0xB), ("VERTICAL TABULATION", 0xB), ("VT", 0xB), ("FORM FEED", 0xC),
    ("FF", 0xC), ("CARRIAGE RETURN", 0xD), ("CR", 0xD), ("SHIFT OUT", 0xE), ("SHIFT IN", 0xF),
    ("DATA LINK ESCAPE", 0x10), ("DEVICE CONTROL ONE", 0x11), ("DEVICE CONTROL TWO", 0x12),
    ("DEVICE CONTROL THREE", 0x13), ("DEVICE CONTROL FOUR", 0x14), ("NEGATIVE ACKNOWLEDGE", 0x15),
    ("SYNCHRONOUS IDLE", 0x16), ("END OF TRANSMISSION BLOCK", 0x17), ("CANCEL", 0x18),
    ("END OF MEDIUM", 0x19), ("SUBSTITUTE", 0x1A), ("ESCAPE", 0x1B), ("ESC", 0x1B),
    ("INFORMATION SEPARATOR FOUR", 0x1C), ("FILE SEPARATOR", 0x1C),
    ("INFORMATION SEPARATOR THREE", 0x1D), ("GROUP SEPARATOR", 0x1D),
    ("INFORMATION SEPARATOR TWO", 0x1E), ("RECORD SEPARATOR", 0x1E),
    ("INFORMATION SEPARATOR ONE", 0x1F), ("UNIT SEPARATOR", 0x1F), ("DELETE", 0x7F),
    ("DEL", 0x7F), ("SP", 0x20), ("NEXT LINE", 0x85), ("NEL", 0x85), ("NBSP", 0xA0),
    ("SHY", 0xAD), ("ZWSP", 0x200B), ("ZWNJ", 0x200C), ("ZWJ", 0x200D), ("LRM", 0x200E),
    ("RLM", 0x200F), ("BOM", 0xFEFF), ("ZERO WIDTH NO-BREAK SPACE", 0xFEFF),
    ("BYTE ORDER MARK", 0xFEFF)]

/-- The ideographs that are named by their code. -/
def ideographRanges : RangeSet := [
    (0x3400, 0x4DBF), (0x4E00, 0x9FFF), (0x20000, 0x2A6DF), (0x2A700, 0x2B738), (0x2B740, 0x2B81D),
    (0x2B820, 0x2CEA1), (0x2CEB0, 0x2EBE0), (0x30000, 0x3134A)]

/-- The ideograph that a name gives by its code, in four or five digits, whose letters are in upper
case. -/
def ideographNamed? (name : String) : Option Nat := do
  let digits ← "CJK UNIFIED IDEOGRAPH-".toList.isPrefixOf? name.toList
  if (digits.length = 4 ∨ digits.length = 5) ∧ digits.all (!·.isLower) then
    let code := Digit.number 16 (← digits.mapM Digit.value?)
    if ideographRanges.contains code then some code else none
  else none

/-- The character with a name. -/
def characterNamed? (name : String) : Option Nat :=
  ideographNamed? name <|> characterNames.lookup (name.map Char.toUpper)

end Patternwright.Unicode
