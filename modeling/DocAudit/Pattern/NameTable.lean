/-!
# Names of characters

The names by which patterns may call characters.
-/

namespace DocAudit.Pattern

/-- Names of ASCII characters with their code points. -/
def asciiNames : List (String × Nat) :=
  [("NUL", 0x0), ("NULL", 0x0), ("START OF HEADING", 0x1), ("START OF TEXT", 0x2),
   ("END OF TEXT", 0x3), ("END OF TRANSMISSION", 0x4), ("ALERT", 0x7), ("BEL", 0x7),
   ("BACKSPACE", 0x8), ("BS", 0x8), ("CHARACTER TABULATION", 0x9), ("HORIZONTAL TABULATION", 0x9),
   ("HT", 0x9), ("TAB", 0x9), ("END OF LINE", 0xa), ("EOL", 0xa), ("LF", 0xa), ("LINE FEED", 0xa),
   ("NEW LINE", 0xa), ("NL", 0xa), ("LINE TABULATION", 0xb), ("VERTICAL TABULATION", 0xb),
   ("VT", 0xb), ("FF", 0xc), ("FORM FEED", 0xc), ("CARRIAGE RETURN", 0xd), ("CR", 0xd),
   ("SHIFT OUT", 0xe), ("SHIFT IN", 0xf), ("SUBSTITUTE", 0x1a), ("ESC", 0x1b), ("ESCAPE", 0x1b),
   ("SP", 0x20), ("SPACE", 0x20), ("EXCLAMATION MARK", 0x21), ("QUOTATION MARK", 0x22),
   ("NUMBER SIGN", 0x23), ("DOLLAR SIGN", 0x24), ("PERCENT SIGN", 0x25), ("AMPERSAND", 0x26),
   ("APOSTROPHE", 0x27), ("LEFT PARENTHESIS", 0x28), ("RIGHT PARENTHESIS", 0x29),
   ("ASTERISK", 0x2a), ("PLUS SIGN", 0x2b), ("COMMA", 0x2c), ("HYPHEN-MINUS", 0x2d),
   ("FULL STOP", 0x2e), ("SOLIDUS", 0x2f), ("DIGIT ZERO", 0x30), ("DIGIT ONE", 0x31),
   ("DIGIT TWO", 0x32), ("DIGIT THREE", 0x33), ("DIGIT FOUR", 0x34), ("DIGIT FIVE", 0x35),
   ("DIGIT SIX", 0x36), ("DIGIT SEVEN", 0x37), ("DIGIT EIGHT", 0x38), ("DIGIT NINE", 0x39),
   ("COLON", 0x3a), ("SEMICOLON", 0x3b), ("LESS-THAN SIGN", 0x3c), ("EQUALS SIGN", 0x3d),
   ("GREATER-THAN SIGN", 0x3e), ("QUESTION MARK", 0x3f), ("COMMERCIAL AT", 0x40),
   ("LATIN CAPITAL LETTER A", 0x41), ("LATIN CAPITAL LETTER B", 0x42),
   ("LATIN CAPITAL LETTER C", 0x43), ("LATIN CAPITAL LETTER D", 0x44),
   ("LATIN CAPITAL LETTER E", 0x45), ("LATIN CAPITAL LETTER F", 0x46),
   ("LATIN CAPITAL LETTER G", 0x47), ("LATIN CAPITAL LETTER H", 0x48),
   ("LATIN CAPITAL LETTER I", 0x49), ("LATIN CAPITAL LETTER J", 0x4a),
   ("LATIN CAPITAL LETTER K", 0x4b), ("LATIN CAPITAL LETTER L", 0x4c),
   ("LATIN CAPITAL LETTER M", 0x4d), ("LATIN CAPITAL LETTER N", 0x4e),
   ("LATIN CAPITAL LETTER O", 0x4f), ("LATIN CAPITAL LETTER P", 0x50),
   ("LATIN CAPITAL LETTER Q", 0x51), ("LATIN CAPITAL LETTER R", 0x52),
   ("LATIN CAPITAL LETTER S", 0x53), ("LATIN CAPITAL LETTER T", 0x54),
   ("LATIN CAPITAL LETTER U", 0x55), ("LATIN CAPITAL LETTER V", 0x56),
   ("LATIN CAPITAL LETTER W", 0x57), ("LATIN CAPITAL LETTER X", 0x58),
   ("LATIN CAPITAL LETTER Y", 0x59), ("LATIN CAPITAL LETTER Z", 0x5a),
   ("LEFT SQUARE BRACKET", 0x5b), ("REVERSE SOLIDUS", 0x5c), ("RIGHT SQUARE BRACKET", 0x5d),
   ("CIRCUMFLEX ACCENT", 0x5e), ("LOW LINE", 0x5f), ("GRAVE ACCENT", 0x60),
   ("LATIN SMALL LETTER A", 0x61), ("LATIN SMALL LETTER B", 0x62), ("LATIN SMALL LETTER C", 0x63),
   ("LATIN SMALL LETTER D", 0x64), ("LATIN SMALL LETTER E", 0x65), ("LATIN SMALL LETTER F", 0x66),
   ("LATIN SMALL LETTER G", 0x67), ("LATIN SMALL LETTER H", 0x68), ("LATIN SMALL LETTER I", 0x69),
   ("LATIN SMALL LETTER J", 0x6a), ("LATIN SMALL LETTER K", 0x6b), ("LATIN SMALL LETTER L", 0x6c),
   ("LATIN SMALL LETTER M", 0x6d), ("LATIN SMALL LETTER N", 0x6e), ("LATIN SMALL LETTER O", 0x6f),
   ("LATIN SMALL LETTER P", 0x70), ("LATIN SMALL LETTER Q", 0x71), ("LATIN SMALL LETTER R", 0x72),
   ("LATIN SMALL LETTER S", 0x73), ("LATIN SMALL LETTER T", 0x74), ("LATIN SMALL LETTER U", 0x75),
   ("LATIN SMALL LETTER V", 0x76), ("LATIN SMALL LETTER W", 0x77), ("LATIN SMALL LETTER X", 0x78),
   ("LATIN SMALL LETTER Y", 0x79), ("LATIN SMALL LETTER Z", 0x7a), ("LEFT CURLY BRACKET", 0x7b),
   ("VERTICAL LINE", 0x7c), ("RIGHT CURLY BRACKET", 0x7d), ("TILDE", 0x7e), ("DEL", 0x7f),
   ("DELETE", 0x7f)]

/-- Names of the Latin supplement with their code points. -/
def latinNames : List (String × Nat) :=
  [("NEL", 0x85), ("NEXT LINE", 0x85), ("NBSP", 0xa0), ("NO-BREAK SPACE", 0xa0),
   ("INVERTED EXCLAMATION MARK", 0xa1), ("CENT SIGN", 0xa2), ("POUND SIGN", 0xa3),
   ("CURRENCY SIGN", 0xa4), ("YEN SIGN", 0xa5), ("BROKEN BAR", 0xa6), ("SECTION SIGN", 0xa7),
   ("DIAERESIS", 0xa8), ("COPYRIGHT SIGN", 0xa9), ("FEMININE ORDINAL INDICATOR", 0xaa),
   ("LEFT-POINTING DOUBLE ANGLE QUOTATION MARK", 0xab), ("NOT SIGN", 0xac), ("SHY", 0xad),
   ("SOFT HYPHEN", 0xad), ("REGISTERED SIGN", 0xae), ("MACRON", 0xaf), ("DEGREE SIGN", 0xb0),
   ("PLUS-MINUS SIGN", 0xb1), ("SUPERSCRIPT TWO", 0xb2), ("SUPERSCRIPT THREE", 0xb3),
   ("ACUTE ACCENT", 0xb4), ("MICRO SIGN", 0xb5), ("PILCROW SIGN", 0xb6), ("MIDDLE DOT", 0xb7),
   ("CEDILLA", 0xb8), ("SUPERSCRIPT ONE", 0xb9), ("MASCULINE ORDINAL INDICATOR", 0xba),
   ("RIGHT-POINTING DOUBLE ANGLE QUOTATION MARK", 0xbb), ("VULGAR FRACTION ONE QUARTER", 0xbc),
   ("VULGAR FRACTION ONE HALF", 0xbd), ("VULGAR FRACTION THREE QUARTERS", 0xbe),
   ("INVERTED QUESTION MARK", 0xbf), ("LATIN CAPITAL LETTER A WITH GRAVE", 0xc0),
   ("LATIN CAPITAL LETTER A WITH ACUTE", 0xc1), ("LATIN CAPITAL LETTER A WITH CIRCUMFLEX", 0xc2),
   ("LATIN CAPITAL LETTER A WITH TILDE", 0xc3), ("LATIN CAPITAL LETTER A WITH DIAERESIS", 0xc4),
   ("LATIN CAPITAL LETTER A WITH RING ABOVE", 0xc5), ("LATIN CAPITAL LETTER AE", 0xc6),
   ("LATIN CAPITAL LETTER C WITH CEDILLA", 0xc7), ("LATIN CAPITAL LETTER E WITH GRAVE", 0xc8),
   ("LATIN CAPITAL LETTER E WITH ACUTE", 0xc9), ("LATIN CAPITAL LETTER E WITH CIRCUMFLEX", 0xca),
   ("LATIN CAPITAL LETTER E WITH DIAERESIS", 0xcb), ("LATIN CAPITAL LETTER I WITH GRAVE", 0xcc),
   ("LATIN CAPITAL LETTER I WITH ACUTE", 0xcd), ("LATIN CAPITAL LETTER I WITH CIRCUMFLEX", 0xce),
   ("LATIN CAPITAL LETTER I WITH DIAERESIS", 0xcf), ("LATIN CAPITAL LETTER ETH", 0xd0),
   ("LATIN CAPITAL LETTER N WITH TILDE", 0xd1), ("LATIN CAPITAL LETTER O WITH GRAVE", 0xd2),
   ("LATIN CAPITAL LETTER O WITH ACUTE", 0xd3), ("LATIN CAPITAL LETTER O WITH CIRCUMFLEX", 0xd4),
   ("LATIN CAPITAL LETTER O WITH TILDE", 0xd5), ("LATIN CAPITAL LETTER O WITH DIAERESIS", 0xd6),
   ("MULTIPLICATION SIGN", 0xd7), ("LATIN CAPITAL LETTER O WITH STROKE", 0xd8),
   ("LATIN CAPITAL LETTER U WITH GRAVE", 0xd9), ("LATIN CAPITAL LETTER U WITH ACUTE", 0xda),
   ("LATIN CAPITAL LETTER U WITH CIRCUMFLEX", 0xdb),
   ("LATIN CAPITAL LETTER U WITH DIAERESIS", 0xdc), ("LATIN CAPITAL LETTER Y WITH ACUTE", 0xdd),
   ("LATIN CAPITAL LETTER THORN", 0xde), ("LATIN SMALL LETTER SHARP S", 0xdf),
   ("LATIN SMALL LETTER A WITH GRAVE", 0xe0), ("LATIN SMALL LETTER A WITH ACUTE", 0xe1),
   ("LATIN SMALL LETTER A WITH CIRCUMFLEX", 0xe2), ("LATIN SMALL LETTER A WITH TILDE", 0xe3),
   ("LATIN SMALL LETTER A WITH DIAERESIS", 0xe4), ("LATIN SMALL LETTER A WITH RING ABOVE", 0xe5),
   ("LATIN SMALL LETTER AE", 0xe6), ("LATIN SMALL LETTER C WITH CEDILLA", 0xe7),
   ("LATIN SMALL LETTER E WITH GRAVE", 0xe8), ("LATIN SMALL LETTER E WITH ACUTE", 0xe9),
   ("LATIN SMALL LETTER E WITH CIRCUMFLEX", 0xea), ("LATIN SMALL LETTER E WITH DIAERESIS", 0xeb),
   ("LATIN SMALL LETTER I WITH GRAVE", 0xec), ("LATIN SMALL LETTER I WITH ACUTE", 0xed),
   ("LATIN SMALL LETTER I WITH CIRCUMFLEX", 0xee), ("LATIN SMALL LETTER I WITH DIAERESIS", 0xef),
   ("LATIN SMALL LETTER ETH", 0xf0), ("LATIN SMALL LETTER N WITH TILDE", 0xf1),
   ("LATIN SMALL LETTER O WITH GRAVE", 0xf2), ("LATIN SMALL LETTER O WITH ACUTE", 0xf3),
   ("LATIN SMALL LETTER O WITH CIRCUMFLEX", 0xf4), ("LATIN SMALL LETTER O WITH TILDE", 0xf5),
   ("LATIN SMALL LETTER O WITH DIAERESIS", 0xf6), ("DIVISION SIGN", 0xf7),
   ("LATIN SMALL LETTER O WITH STROKE", 0xf8), ("LATIN SMALL LETTER U WITH GRAVE", 0xf9),
   ("LATIN SMALL LETTER U WITH ACUTE", 0xfa), ("LATIN SMALL LETTER U WITH CIRCUMFLEX", 0xfb),
   ("LATIN SMALL LETTER U WITH DIAERESIS", 0xfc), ("LATIN SMALL LETTER Y WITH ACUTE", 0xfd),
   ("LATIN SMALL LETTER THORN", 0xfe), ("LATIN SMALL LETTER Y WITH DIAERESIS", 0xff)]

/-- Names of Greek letters with their code points. -/
def greekNames : List (String × Nat) :=
  [("GREEK CAPITAL LETTER ALPHA", 0x391), ("GREEK CAPITAL LETTER BETA", 0x392),
   ("GREEK CAPITAL LETTER GAMMA", 0x393), ("GREEK CAPITAL LETTER DELTA", 0x394),
   ("GREEK CAPITAL LETTER EPSILON", 0x395), ("GREEK CAPITAL LETTER ZETA", 0x396),
   ("GREEK CAPITAL LETTER ETA", 0x397), ("GREEK CAPITAL LETTER THETA", 0x398),
   ("GREEK CAPITAL LETTER IOTA", 0x399), ("GREEK CAPITAL LETTER KAPPA", 0x39a),
   ("GREEK CAPITAL LETTER LAMDA", 0x39b), ("GREEK CAPITAL LETTER MU", 0x39c),
   ("GREEK CAPITAL LETTER NU", 0x39d), ("GREEK CAPITAL LETTER XI", 0x39e),
   ("GREEK CAPITAL LETTER OMICRON", 0x39f), ("GREEK CAPITAL LETTER PI", 0x3a0),
   ("GREEK CAPITAL LETTER RHO", 0x3a1), ("GREEK CAPITAL LETTER SIGMA", 0x3a3),
   ("GREEK CAPITAL LETTER TAU", 0x3a4), ("GREEK CAPITAL LETTER UPSILON", 0x3a5),
   ("GREEK CAPITAL LETTER PHI", 0x3a6), ("GREEK CAPITAL LETTER CHI", 0x3a7),
   ("GREEK CAPITAL LETTER PSI", 0x3a8), ("GREEK CAPITAL LETTER OMEGA", 0x3a9),
   ("GREEK SMALL LETTER ALPHA", 0x3b1), ("GREEK SMALL LETTER BETA", 0x3b2),
   ("GREEK SMALL LETTER GAMMA", 0x3b3), ("GREEK SMALL LETTER DELTA", 0x3b4),
   ("GREEK SMALL LETTER EPSILON", 0x3b5), ("GREEK SMALL LETTER ZETA", 0x3b6),
   ("GREEK SMALL LETTER ETA", 0x3b7), ("GREEK SMALL LETTER THETA", 0x3b8),
   ("GREEK SMALL LETTER IOTA", 0x3b9), ("GREEK SMALL LETTER KAPPA", 0x3ba),
   ("GREEK SMALL LETTER LAMDA", 0x3bb), ("GREEK SMALL LETTER MU", 0x3bc),
   ("GREEK SMALL LETTER NU", 0x3bd), ("GREEK SMALL LETTER XI", 0x3be),
   ("GREEK SMALL LETTER OMICRON", 0x3bf), ("GREEK SMALL LETTER PI", 0x3c0),
   ("GREEK SMALL LETTER RHO", 0x3c1), ("GREEK SMALL LETTER FINAL SIGMA", 0x3c2),
   ("GREEK SMALL LETTER SIGMA", 0x3c3), ("GREEK SMALL LETTER TAU", 0x3c4),
   ("GREEK SMALL LETTER UPSILON", 0x3c5), ("GREEK SMALL LETTER PHI", 0x3c6),
   ("GREEK SMALL LETTER CHI", 0x3c7), ("GREEK SMALL LETTER PSI", 0x3c8),
   ("GREEK SMALL LETTER OMEGA", 0x3c9)]

/-- Names of punctuation and symbols with their code points. -/
def symbolNames : List (String × Nat) :=
  [("ZERO WIDTH SPACE", 0x200b), ("ZWSP", 0x200b), ("ZERO WIDTH NON-JOINER", 0x200c),
   ("ZWNJ", 0x200c), ("ZERO WIDTH JOINER", 0x200d), ("ZWJ", 0x200d), ("HYPHEN", 0x2010),
   ("NON-BREAKING HYPHEN", 0x2011), ("FIGURE DASH", 0x2012), ("EN DASH", 0x2013),
   ("EM DASH", 0x2014), ("HORIZONTAL BAR", 0x2015), ("DOUBLE VERTICAL LINE", 0x2016),
   ("DOUBLE LOW LINE", 0x2017), ("LEFT SINGLE QUOTATION MARK", 0x2018),
   ("RIGHT SINGLE QUOTATION MARK", 0x2019), ("SINGLE LOW-9 QUOTATION MARK", 0x201a),
   ("SINGLE HIGH-REVERSED-9 QUOTATION MARK", 0x201b), ("LEFT DOUBLE QUOTATION MARK", 0x201c),
   ("RIGHT DOUBLE QUOTATION MARK", 0x201d), ("DOUBLE LOW-9 QUOTATION MARK", 0x201e),
   ("DOUBLE HIGH-REVERSED-9 QUOTATION MARK", 0x201f), ("DAGGER", 0x2020),
   ("DOUBLE DAGGER", 0x2021), ("BULLET", 0x2022), ("TRIANGULAR BULLET", 0x2023),
   ("ONE DOT LEADER", 0x2024), ("TWO DOT LEADER", 0x2025), ("HORIZONTAL ELLIPSIS", 0x2026),
   ("HYPHENATION POINT", 0x2027), ("LINE SEPARATOR", 0x2028), ("PARAGRAPH SEPARATOR", 0x2029),
   ("NARROW NO-BREAK SPACE", 0x202f), ("PER MILLE SIGN", 0x2030),
   ("PER TEN THOUSAND SIGN", 0x2031), ("PRIME", 0x2032), ("DOUBLE PRIME", 0x2033),
   ("TRIPLE PRIME", 0x2034), ("REVERSED PRIME", 0x2035), ("REVERSED DOUBLE PRIME", 0x2036),
   ("REVERSED TRIPLE PRIME", 0x2037), ("CARET", 0x2038),
   ("SINGLE LEFT-POINTING ANGLE QUOTATION MARK", 0x2039),
   ("SINGLE RIGHT-POINTING ANGLE QUOTATION MARK", 0x203a), ("REFERENCE MARK", 0x203b),
   ("DOUBLE EXCLAMATION MARK", 0x203c), ("INTERROBANG", 0x203d), ("OVERLINE", 0x203e),
   ("EURO SIGN", 0x20ac), ("TRADE MARK SIGN", 0x2122), ("LEFTWARDS ARROW", 0x2190),
   ("UPWARDS ARROW", 0x2191), ("RIGHTWARDS ARROW", 0x2192), ("DOWNWARDS ARROW", 0x2193),
   ("LEFT RIGHT ARROW", 0x2194), ("UP DOWN ARROW", 0x2195), ("MINUS SIGN", 0x2212),
   ("INFINITY", 0x221e), ("NOT EQUAL TO", 0x2260), ("LESS-THAN OR EQUAL TO", 0x2264),
   ("GREATER-THAN OR EQUAL TO", 0x2265), ("CHECK MARK", 0x2713), ("HEAVY CHECK MARK", 0x2714),
   ("BALLOT X", 0x2717), ("HEAVY BALLOT X", 0x2718), ("IDEOGRAPHIC SPACE", 0x3000),
   ("IDEOGRAPHIC COMMA", 0x3001), ("IDEOGRAPHIC FULL STOP", 0x3002), ("BOM", 0xfeff),
   ("ZERO WIDTH NO-BREAK SPACE", 0xfeff), ("BELL", 0x1f514), ("GRINNING FACE", 0x1f600),
   ("ROCKET", 0x1f680)]

/-- The code point of a name, whatever the case of its letters. -/
def codeOfName? (name : String) : Option Nat :=
  let name := name.map Char.toUpper
  (asciiNames.lookup name).or <| (latinNames.lookup name).or <| (greekNames.lookup name).or <|
    symbolNames.lookup name

end DocAudit.Pattern
