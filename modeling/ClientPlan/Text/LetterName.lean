/-!
# Names of letters

The official names of characters, as runs of consecutive code points: the first code point, what all
names of the run start with, and what they go on with, separated by bars.
-/

set_option autoImplicit false

namespace ClientPlan.Text

/-- The names of Latin, Greek, Cyrillic, Armenian and Hebrew letters and of what goes with them. -/
def letterNames : List (Nat × String × String) := [
  (0x20, "", "SPACE|EXCLAMATION MARK|QUOTATION MARK"),
  (0x23, "", "NUMBER SIGN|DOLLAR SIGN|PERCENT SIGN|AMPERSAND|APOSTROPHE|LEFT PARENTHESIS"),
  (0x29, "", "RIGHT PARENTHESIS|ASTERISK|PLUS SIGN|COMMA|HYPHEN-MINUS|FULL STOP|SOLIDUS"),
  (0x30, "DIGIT ", "ZERO|ONE|TWO|THREE|FOUR|FIVE|SIX|SEVEN|EIGHT|NINE"),
  (0x3A, "", "COLON"),
  (0x3B, "", "SEMICOLON|LESS-THAN SIGN|EQUALS SIGN|GREATER-THAN SIGN|QUESTION MARK|COMMERCIAL AT"),
  (0x41, "LATIN CAPITAL LETTER ", "A|B|C|D|E|F|G|H|I|J|K|L|M|N|O|P|Q|R|S|T|U|V|W|X|Y|Z"),
  (0x5B, "", "LEFT SQUARE BRACKET"),
  (0x5C, "", "REVERSE SOLIDUS|RIGHT SQUARE BRACKET|CIRCUMFLEX ACCENT|LOW LINE|GRAVE ACCENT"),
  (0x61, "LATIN SMALL LETTER ", "A|B|C|D|E|F|G|H|I|J|K|L|M|N|O|P|Q|R|S|T|U|V|W|X|Y|Z"),
  (0x7B, "", "LEFT CURLY BRACKET|VERTICAL LINE|RIGHT CURLY BRACKET|TILDE"),
  (0xA0, "", "NO-BREAK SPACE|INVERTED EXCLAMATION MARK"),
  (0xA2, "", "CENT SIGN|POUND SIGN|CURRENCY SIGN|YEN SIGN|BROKEN BAR|SECTION SIGN|DIAERESIS"),
  (0xA9, "", "COPYRIGHT SIGN|FEMININE ORDINAL INDICATOR|LEFT-POINTING DOUBLE ANGLE QUOTATION MARK"),
  (0xAC, "", "NOT SIGN|SOFT HYPHEN|REGISTERED SIGN|MACRON|DEGREE SIGN|PLUS-MINUS SIGN"),
  (0xB2, "SUPERSCRIPT ", "TWO|THREE"),
  (0xB4, "", "ACUTE ACCENT|MICRO SIGN|PILCROW SIGN|MIDDLE DOT|CEDILLA|SUPERSCRIPT ONE"),
  (0xBA, "", "MASCULINE ORDINAL INDICATOR|RIGHT-POINTING DOUBLE ANGLE QUOTATION MARK"),
  (0xBC, "VULGAR FRACTION ", "ONE QUARTER|ONE HALF|THREE QUARTERS"),
  (0xBF, "", "INVERTED QUESTION MARK"),
  (0xC0, "LATIN CAPITAL LETTER A WITH ", "GRAVE|ACUTE|CIRCUMFLEX|TILDE|DIAERESIS|RING ABOVE"),
  (0xC6, "LATIN CAPITAL LETTER ", "AE|C WITH CEDILLA"),
  (0xC8, "LATIN CAPITAL LETTER E WITH ", "GRAVE|ACUTE|CIRCUMFLEX|DIAERESIS"),
  (0xCC, "LATIN CAPITAL LETTER I WITH ", "GRAVE|ACUTE|CIRCUMFLEX|DIAERESIS"),
  (0xD0, "LATIN CAPITAL LETTER ", "ETH|N WITH TILDE"),
  (0xD2, "LATIN CAPITAL LETTER O WITH ", "GRAVE|ACUTE|CIRCUMFLEX|TILDE|DIAERESIS"),
  (0xD7, "", "MULTIPLICATION SIGN|LATIN CAPITAL LETTER O WITH STROKE"),
  (0xD9, "LATIN CAPITAL LETTER U WITH ", "GRAVE|ACUTE|CIRCUMFLEX|DIAERESIS"),
  (0xDD, "LATIN ", "CAPITAL LETTER Y WITH ACUTE|CAPITAL LETTER THORN|SMALL LETTER SHARP S"),
  (0xE0, "LATIN SMALL LETTER A WITH ", "GRAVE|ACUTE|CIRCUMFLEX|TILDE|DIAERESIS|RING ABOVE"),
  (0xE6, "LATIN SMALL LETTER ", "AE|C WITH CEDILLA"),
  (0xE8, "LATIN SMALL LETTER E WITH ", "GRAVE|ACUTE|CIRCUMFLEX|DIAERESIS"),
  (0xEC, "LATIN SMALL LETTER I WITH ", "GRAVE|ACUTE|CIRCUMFLEX|DIAERESIS"),
  (0xF0, "LATIN SMALL LETTER ", "ETH|N WITH TILDE"),
  (0xF2, "LATIN SMALL LETTER O WITH ", "GRAVE|ACUTE|CIRCUMFLEX|TILDE|DIAERESIS"),
  (0xF7, "", "DIVISION SIGN|LATIN SMALL LETTER O WITH STROKE"),
  (0xF9, "LATIN SMALL LETTER U WITH ", "GRAVE|ACUTE|CIRCUMFLEX|DIAERESIS"),
  (0xFD, "LATIN SMALL LETTER ", "Y WITH ACUTE|THORN|Y WITH DIAERESIS"),
  (0x100, "LATIN ", "CAPITAL LETTER A WITH MACRON|SMALL LETTER A WITH MACRON"),
  (0x102, "LATIN ", "CAPITAL LETTER A WITH BREVE|SMALL LETTER A WITH BREVE"),
  (0x104, "LATIN ", "CAPITAL LETTER A WITH OGONEK|SMALL LETTER A WITH OGONEK"),
  (0x106, "LATIN ", "CAPITAL LETTER C WITH ACUTE|SMALL LETTER C WITH ACUTE"),
  (0x108, "LATIN ", "CAPITAL LETTER C WITH CIRCUMFLEX|SMALL LETTER C WITH CIRCUMFLEX"),
  (0x10A, "LATIN ", "CAPITAL LETTER C WITH DOT ABOVE|SMALL LETTER C WITH DOT ABOVE"),
  (0x10C, "LATIN ", "CAPITAL LETTER C WITH CARON|SMALL LETTER C WITH CARON"),
  (0x10E, "LATIN ", "CAPITAL LETTER D WITH CARON|SMALL LETTER D WITH CARON"),
  (0x110, "LATIN ", "CAPITAL LETTER D WITH STROKE|SMALL LETTER D WITH STROKE"),
  (0x112, "LATIN ", "CAPITAL LETTER E WITH MACRON|SMALL LETTER E WITH MACRON"),
  (0x114, "LATIN ", "CAPITAL LETTER E WITH BREVE|SMALL LETTER E WITH BREVE"),
  (0x116, "LATIN ", "CAPITAL LETTER E WITH DOT ABOVE|SMALL LETTER E WITH DOT ABOVE"),
  (0x118, "LATIN ", "CAPITAL LETTER E WITH OGONEK|SMALL LETTER E WITH OGONEK"),
  (0x11A, "LATIN ", "CAPITAL LETTER E WITH CARON|SMALL LETTER E WITH CARON"),
  (0x11C, "LATIN ", "CAPITAL LETTER G WITH CIRCUMFLEX|SMALL LETTER G WITH CIRCUMFLEX"),
  (0x11E, "LATIN ", "CAPITAL LETTER G WITH BREVE|SMALL LETTER G WITH BREVE"),
  (0x120, "LATIN ", "CAPITAL LETTER G WITH DOT ABOVE|SMALL LETTER G WITH DOT ABOVE"),
  (0x122, "LATIN ", "CAPITAL LETTER G WITH CEDILLA|SMALL LETTER G WITH CEDILLA"),
  (0x124, "LATIN ", "CAPITAL LETTER H WITH CIRCUMFLEX|SMALL LETTER H WITH CIRCUMFLEX"),
  (0x126, "LATIN ", "CAPITAL LETTER H WITH STROKE|SMALL LETTER H WITH STROKE"),
  (0x128, "LATIN ", "CAPITAL LETTER I WITH TILDE|SMALL LETTER I WITH TILDE"),
  (0x12A, "LATIN ", "CAPITAL LETTER I WITH MACRON|SMALL LETTER I WITH MACRON"),
  (0x12C, "LATIN ", "CAPITAL LETTER I WITH BREVE|SMALL LETTER I WITH BREVE"),
  (0x12E, "LATIN ", "CAPITAL LETTER I WITH OGONEK|SMALL LETTER I WITH OGONEK"),
  (0x130, "LATIN ", "CAPITAL LETTER I WITH DOT ABOVE|SMALL LETTER DOTLESS I"),
  (0x132, "LATIN ", "CAPITAL LIGATURE IJ|SMALL LIGATURE IJ|CAPITAL LETTER J WITH CIRCUMFLEX"),
  (0x135, "LATIN ", "SMALL LETTER J WITH CIRCUMFLEX|CAPITAL LETTER K WITH CEDILLA"),
  (0x137, "LATIN ", "SMALL LETTER K WITH CEDILLA|SMALL LETTER KRA|CAPITAL LETTER L WITH ACUTE"),
  (0x13A, "LATIN ", "SMALL LETTER L WITH ACUTE|CAPITAL LETTER L WITH CEDILLA"),
  (0x13C, "LATIN ", "SMALL LETTER L WITH CEDILLA|CAPITAL LETTER L WITH CARON"),
  (0x13E, "LATIN ", "SMALL LETTER L WITH CARON|CAPITAL LETTER L WITH MIDDLE DOT"),
  (0x140, "LATIN ", "SMALL LETTER L WITH MIDDLE DOT|CAPITAL LETTER L WITH STROKE"),
  (0x142, "LATIN ", "SMALL LETTER L WITH STROKE|CAPITAL LETTER N WITH ACUTE"),
  (0x144, "LATIN ", "SMALL LETTER N WITH ACUTE|CAPITAL LETTER N WITH CEDILLA"),
  (0x146, "LATIN ", "SMALL LETTER N WITH CEDILLA|CAPITAL LETTER N WITH CARON"),
  (0x148, "LATIN SMALL LETTER N ", "WITH CARON|PRECEDED BY APOSTROPHE"),
  (0x14A, "LATIN ", "CAPITAL LETTER ENG|SMALL LETTER ENG|CAPITAL LETTER O WITH MACRON"),
  (0x14D, "LATIN ", "SMALL LETTER O WITH MACRON|CAPITAL LETTER O WITH BREVE"),
  (0x14F, "LATIN ", "SMALL LETTER O WITH BREVE|CAPITAL LETTER O WITH DOUBLE ACUTE"),
  (0x151, "LATIN ", "SMALL LETTER O WITH DOUBLE ACUTE|CAPITAL LIGATURE OE"),
  (0x153, "LATIN ", "SMALL LIGATURE OE|CAPITAL LETTER R WITH ACUTE|SMALL LETTER R WITH ACUTE"),
  (0x156, "LATIN ", "CAPITAL LETTER R WITH CEDILLA|SMALL LETTER R WITH CEDILLA"),
  (0x158, "LATIN ", "CAPITAL LETTER R WITH CARON|SMALL LETTER R WITH CARON"),
  (0x15A, "LATIN ", "CAPITAL LETTER S WITH ACUTE|SMALL LETTER S WITH ACUTE"),
  (0x15C, "LATIN ", "CAPITAL LETTER S WITH CIRCUMFLEX|SMALL LETTER S WITH CIRCUMFLEX"),
  (0x15E, "LATIN ", "CAPITAL LETTER S WITH CEDILLA|SMALL LETTER S WITH CEDILLA"),
  (0x160, "LATIN ", "CAPITAL LETTER S WITH CARON|SMALL LETTER S WITH CARON"),
  (0x162, "LATIN ", "CAPITAL LETTER T WITH CEDILLA|SMALL LETTER T WITH CEDILLA"),
  (0x164, "LATIN ", "CAPITAL LETTER T WITH CARON|SMALL LETTER T WITH CARON"),
  (0x166, "LATIN ", "CAPITAL LETTER T WITH STROKE|SMALL LETTER T WITH STROKE"),
  (0x168, "LATIN ", "CAPITAL LETTER U WITH TILDE|SMALL LETTER U WITH TILDE"),
  (0x16A, "LATIN ", "CAPITAL LETTER U WITH MACRON|SMALL LETTER U WITH MACRON"),
  (0x16C, "LATIN ", "CAPITAL LETTER U WITH BREVE|SMALL LETTER U WITH BREVE"),
  (0x16E, "LATIN ", "CAPITAL LETTER U WITH RING ABOVE|SMALL LETTER U WITH RING ABOVE"),
  (0x170, "LATIN ", "CAPITAL LETTER U WITH DOUBLE ACUTE|SMALL LETTER U WITH DOUBLE ACUTE"),
  (0x172, "LATIN ", "CAPITAL LETTER U WITH OGONEK|SMALL LETTER U WITH OGONEK"),
  (0x174, "LATIN ", "CAPITAL LETTER W WITH CIRCUMFLEX|SMALL LETTER W WITH CIRCUMFLEX"),
  (0x176, "LATIN ", "CAPITAL LETTER Y WITH CIRCUMFLEX|SMALL LETTER Y WITH CIRCUMFLEX"),
  (0x178, "LATIN CAPITAL LETTER ", "Y WITH DIAERESIS|Z WITH ACUTE"),
  (0x17A, "LATIN ", "SMALL LETTER Z WITH ACUTE|CAPITAL LETTER Z WITH DOT ABOVE"),
  (0x17C, "LATIN ", "SMALL LETTER Z WITH DOT ABOVE|CAPITAL LETTER Z WITH CARON"),
  (0x17E, "LATIN SMALL LETTER ", "Z WITH CARON|LONG S|B WITH STROKE"),
  (0x181, "LATIN CAPITAL LETTER B WITH ", "HOOK|TOPBAR"),
  (0x183, "LATIN ", "SMALL LETTER B WITH TOPBAR|CAPITAL LETTER TONE SIX|SMALL LETTER TONE SIX"),
  (0x186, "LATIN ", "CAPITAL LETTER OPEN O|CAPITAL LETTER C WITH HOOK|SMALL LETTER C WITH HOOK"),
  (0x189, "LATIN CAPITAL LETTER ", "AFRICAN D|D WITH HOOK|D WITH TOPBAR"),
  (0x18C, "LATIN SMALL LETTER ", "D WITH TOPBAR|TURNED DELTA"),
  (0x18E, "LATIN CAPITAL LETTER ", "REVERSED E|SCHWA|OPEN E|F WITH HOOK"),
  (0x192, "", "LATIN SMALL LETTER F WITH HOOK"),
  (0x193, "LATIN ", "CAPITAL LETTER G WITH HOOK|CAPITAL LETTER GAMMA|SMALL LETTER HV"),
  (0x196, "LATIN CAPITAL LETTER ", "IOTA|I WITH STROKE|K WITH HOOK"),
  (0x199, "LATIN SMALL LETTER ", "K WITH HOOK|L WITH BAR|LAMBDA WITH STROKE"),
  (0x19C, "LATIN CAPITAL LETTER ", "TURNED M|N WITH LEFT HOOK"),
  (0x19E, "", "LATIN SMALL LETTER N WITH LONG RIGHT LEG"),
  (0x19F, "LATIN CAPITAL LETTER O WITH ", "MIDDLE TILDE|HORN"),
  (0x1A1, "LATIN ", "SMALL LETTER O WITH HORN|CAPITAL LETTER OI"),
  (0x1A3, "LATIN ", "SMALL LETTER OI|CAPITAL LETTER P WITH HOOK|SMALL LETTER P WITH HOOK"),
  (0x1A6, "LATIN ", "LETTER YR|CAPITAL LETTER TONE TWO|SMALL LETTER TONE TWO"),
  (0x1A9, "LATIN ", "CAPITAL LETTER ESH|LETTER REVERSED ESH LOOP|SMALL LETTER T WITH PALATAL HOOK"),
  (0x1AC, "LATIN ", "CAPITAL LETTER T WITH HOOK|SMALL LETTER T WITH HOOK"),
  (0x1AE, "LATIN CAPITAL LETTER ", "T WITH RETROFLEX HOOK|U WITH HORN"),
  (0x1B0, "", "LATIN SMALL LETTER U WITH HORN"),
  (0x1B1, "LATIN CAPITAL LETTER ", "UPSILON|V WITH HOOK|Y WITH HOOK"),
  (0x1B4, "LATIN ", "SMALL LETTER Y WITH HOOK|CAPITAL LETTER Z WITH STROKE"),
  (0x1B6, "LATIN ", "SMALL LETTER Z WITH STROKE|CAPITAL LETTER EZH|CAPITAL LETTER EZH REVERSED"),
  (0x1B9, "LATIN SMALL LETTER EZH ", "REVERSED|WITH TAIL"),
  (0x1BB, "LATIN ", "LETTER TWO WITH STROKE|CAPITAL LETTER TONE FIVE"),
  (0x1BD, "LATIN ", "SMALL LETTER TONE FIVE|LETTER INVERTED GLOTTAL STOP WITH STROKE"),
  (0x1BF, "LATIN LETTER ", "WYNN|DENTAL CLICK|LATERAL CLICK|ALVEOLAR CLICK|RETROFLEX CLICK"),
  (0x1C4, "LATIN CAPITAL LETTER ", "DZ WITH CARON|D WITH SMALL LETTER Z WITH CARON"),
  (0x1C6, "", "LATIN SMALL LETTER DZ WITH CARON"),
  (0x1C7, "LATIN CAPITAL LETTER ", "LJ|L WITH SMALL LETTER J"),
  (0x1C9, "LATIN ", "SMALL LETTER LJ|CAPITAL LETTER NJ|CAPITAL LETTER N WITH SMALL LETTER J"),
  (0x1CC, "LATIN ", "SMALL LETTER NJ|CAPITAL LETTER A WITH CARON"),
  (0x1CE, "LATIN ", "SMALL LETTER A WITH CARON|CAPITAL LETTER I WITH CARON"),
  (0x1D0, "LATIN ", "SMALL LETTER I WITH CARON|CAPITAL LETTER O WITH CARON"),
  (0x1D2, "LATIN ", "SMALL LETTER O WITH CARON|CAPITAL LETTER U WITH CARON"),
  (0x1D4, "LATIN ", "SMALL LETTER U WITH CARON|CAPITAL LETTER U WITH DIAERESIS AND MACRON"),
  (0x1D6, "", "LATIN SMALL LETTER U WITH DIAERESIS AND MACRON"),
  (0x1D7, "", "LATIN CAPITAL LETTER U WITH DIAERESIS AND ACUTE"),
  (0x1D8, "", "LATIN SMALL LETTER U WITH DIAERESIS AND ACUTE"),
  (0x1D9, "", "LATIN CAPITAL LETTER U WITH DIAERESIS AND CARON"),
  (0x1DA, "", "LATIN SMALL LETTER U WITH DIAERESIS AND CARON"),
  (0x1DB, "", "LATIN CAPITAL LETTER U WITH DIAERESIS AND GRAVE"),
  (0x1DC, "LATIN SMALL LETTER ", "U WITH DIAERESIS AND GRAVE|TURNED E"),
  (0x1DE, "", "LATIN CAPITAL LETTER A WITH DIAERESIS AND MACRON"),
  (0x1DF, "", "LATIN SMALL LETTER A WITH DIAERESIS AND MACRON"),
  (0x1E0, "", "LATIN CAPITAL LETTER A WITH DOT ABOVE AND MACRON"),
  (0x1E1, "LATIN ", "SMALL LETTER A WITH DOT ABOVE AND MACRON|CAPITAL LETTER AE WITH MACRON"),
  (0x1E3, "LATIN ", "SMALL LETTER AE WITH MACRON|CAPITAL LETTER G WITH STROKE"),
  (0x1E5, "LATIN ", "SMALL LETTER G WITH STROKE|CAPITAL LETTER G WITH CARON"),
  (0x1E7, "LATIN ", "SMALL LETTER G WITH CARON|CAPITAL LETTER K WITH CARON"),
  (0x1E9, "LATIN ", "SMALL LETTER K WITH CARON|CAPITAL LETTER O WITH OGONEK"),
  (0x1EB, "LATIN ", "SMALL LETTER O WITH OGONEK|CAPITAL LETTER O WITH OGONEK AND MACRON"),
  (0x1ED, "LATIN ", "SMALL LETTER O WITH OGONEK AND MACRON|CAPITAL LETTER EZH WITH CARON"),
  (0x1EF, "LATIN SMALL LETTER ", "EZH WITH CARON|J WITH CARON"),
  (0x1F1, "LATIN CAPITAL LETTER ", "DZ|D WITH SMALL LETTER Z"),
  (0x1F3, "LATIN ", "SMALL LETTER DZ|CAPITAL LETTER G WITH ACUTE|SMALL LETTER G WITH ACUTE"),
  (0x1F6, "LATIN CAPITAL LETTER ", "HWAIR|WYNN|N WITH GRAVE"),
  (0x1F9, "LATIN ", "SMALL LETTER N WITH GRAVE|CAPITAL LETTER A WITH RING ABOVE AND ACUTE"),
  (0x1FB, "LATIN ", "SMALL LETTER A WITH RING ABOVE AND ACUTE|CAPITAL LETTER AE WITH ACUTE"),
  (0x1FD, "LATIN ", "SMALL LETTER AE WITH ACUTE|CAPITAL LETTER O WITH STROKE AND ACUTE"),
  (0x1FF, "LATIN ", "SMALL LETTER O WITH STROKE AND ACUTE|CAPITAL LETTER A WITH DOUBLE GRAVE"),
  (0x201, "LATIN ", "SMALL LETTER A WITH DOUBLE GRAVE|CAPITAL LETTER A WITH INVERTED BREVE"),
  (0x203, "LATIN ", "SMALL LETTER A WITH INVERTED BREVE|CAPITAL LETTER E WITH DOUBLE GRAVE"),
  (0x205, "LATIN ", "SMALL LETTER E WITH DOUBLE GRAVE|CAPITAL LETTER E WITH INVERTED BREVE"),
  (0x207, "LATIN ", "SMALL LETTER E WITH INVERTED BREVE|CAPITAL LETTER I WITH DOUBLE GRAVE"),
  (0x209, "LATIN ", "SMALL LETTER I WITH DOUBLE GRAVE|CAPITAL LETTER I WITH INVERTED BREVE"),
  (0x20B, "LATIN ", "SMALL LETTER I WITH INVERTED BREVE|CAPITAL LETTER O WITH DOUBLE GRAVE"),
  (0x20D, "LATIN ", "SMALL LETTER O WITH DOUBLE GRAVE|CAPITAL LETTER O WITH INVERTED BREVE"),
  (0x20F, "LATIN ", "SMALL LETTER O WITH INVERTED BREVE|CAPITAL LETTER R WITH DOUBLE GRAVE"),
  (0x211, "LATIN ", "SMALL LETTER R WITH DOUBLE GRAVE|CAPITAL LETTER R WITH INVERTED BREVE"),
  (0x213, "LATIN ", "SMALL LETTER R WITH INVERTED BREVE|CAPITAL LETTER U WITH DOUBLE GRAVE"),
  (0x215, "LATIN ", "SMALL LETTER U WITH DOUBLE GRAVE|CAPITAL LETTER U WITH INVERTED BREVE"),
  (0x217, "LATIN ", "SMALL LETTER U WITH INVERTED BREVE|CAPITAL LETTER S WITH COMMA BELOW"),
  (0x219, "LATIN ", "SMALL LETTER S WITH COMMA BELOW|CAPITAL LETTER T WITH COMMA BELOW"),
  (0x21B, "LATIN ", "SMALL LETTER T WITH COMMA BELOW|CAPITAL LETTER YOGH"),
  (0x21D, "LATIN ", "SMALL LETTER YOGH|CAPITAL LETTER H WITH CARON|SMALL LETTER H WITH CARON"),
  (0x220, "LATIN ", "CAPITAL LETTER N WITH LONG RIGHT LEG|SMALL LETTER D WITH CURL"),
  (0x222, "LATIN ", "CAPITAL LETTER OU|SMALL LETTER OU|CAPITAL LETTER Z WITH HOOK"),
  (0x225, "LATIN ", "SMALL LETTER Z WITH HOOK|CAPITAL LETTER A WITH DOT ABOVE"),
  (0x227, "LATIN ", "SMALL LETTER A WITH DOT ABOVE|CAPITAL LETTER E WITH CEDILLA"),
  (0x229, "LATIN ", "SMALL LETTER E WITH CEDILLA|CAPITAL LETTER O WITH DIAERESIS AND MACRON"),
  (0x22B, "", "LATIN SMALL LETTER O WITH DIAERESIS AND MACRON"),
  (0x22C, "", "LATIN CAPITAL LETTER O WITH TILDE AND MACRON"),
  (0x22D, "LATIN ", "SMALL LETTER O WITH TILDE AND MACRON|CAPITAL LETTER O WITH DOT ABOVE"),
  (0x22F, "LATIN ", "SMALL LETTER O WITH DOT ABOVE|CAPITAL LETTER O WITH DOT ABOVE AND MACRON"),
  (0x231, "LATIN ", "SMALL LETTER O WITH DOT ABOVE AND MACRON|CAPITAL LETTER Y WITH MACRON"),
  (0x233, "LATIN SMALL LETTER ", "Y WITH MACRON|L WITH CURL"),
  (0x235, "LATIN SMALL LETTER ", "N WITH CURL|T WITH CURL|DOTLESS J|DB DIGRAPH|QP DIGRAPH"),
  (0x23A, "LATIN CAPITAL LETTER ", "A WITH STROKE|C WITH STROKE"),
  (0x23C, "", "LATIN SMALL LETTER C WITH STROKE"),
  (0x23D, "LATIN CAPITAL LETTER ", "L WITH BAR|T WITH DIAGONAL STROKE"),
  (0x23F, "LATIN SMALL LETTER ", "S WITH SWASH TAIL|Z WITH SWASH TAIL"),
  (0x241, "LATIN ", "CAPITAL LETTER GLOTTAL STOP|SMALL LETTER GLOTTAL STOP"),
  (0x243, "LATIN CAPITAL LETTER ", "B WITH STROKE|U BAR|TURNED V|E WITH STROKE"),
  (0x247, "", "LATIN SMALL LETTER E WITH STROKE"),
  (0x248, "LATIN ", "CAPITAL LETTER J WITH STROKE|SMALL LETTER J WITH STROKE"),
  (0x24A, "LATIN ", "CAPITAL LETTER SMALL Q WITH HOOK TAIL|SMALL LETTER Q WITH HOOK TAIL"),
  (0x24C, "LATIN ", "CAPITAL LETTER R WITH STROKE|SMALL LETTER R WITH STROKE"),
  (0x24E, "LATIN ", "CAPITAL LETTER Y WITH STROKE|SMALL LETTER Y WITH STROKE"),
  (0x250, "LATIN SMALL LETTER ", "TURNED A|ALPHA|TURNED ALPHA|B WITH HOOK|OPEN O|C WITH CURL"),
  (0x256, "LATIN SMALL LETTER ", "D WITH TAIL|D WITH HOOK|REVERSED E|SCHWA|SCHWA WITH HOOK|OPEN E"),
  (0x25C, "LATIN SMALL LETTER REVERSED OPEN ", "E|E WITH HOOK"),
  (0x25E, "LATIN SMALL LETTER ", "CLOSED REVERSED OPEN E|DOTLESS J WITH STROKE|G WITH HOOK"),
  (0x261, "LATIN ", "SMALL LETTER SCRIPT G|LETTER SMALL CAPITAL G"),
  (0x263, "LATIN SMALL LETTER ", "GAMMA|RAMS HORN|TURNED H|H WITH HOOK|HENG WITH HOOK"),
  (0x268, "LATIN ", "SMALL LETTER I WITH STROKE|SMALL LETTER IOTA|LETTER SMALL CAPITAL I"),
  (0x26B, "LATIN SMALL LETTER L WITH ", "MIDDLE TILDE|BELT|RETROFLEX HOOK"),
  (0x26E, "LATIN SMALL LETTER ", "LEZH|TURNED M|TURNED M WITH LONG LEG|M WITH HOOK"),
  (0x272, "LATIN SMALL LETTER N WITH ", "LEFT HOOK|RETROFLEX HOOK"),
  (0x274, "LATIN ", "LETTER SMALL CAPITAL N|SMALL LETTER BARRED O|LETTER SMALL CAPITAL OE"),
  (0x277, "LATIN SMALL LETTER ", "CLOSED OMEGA|PHI|TURNED R"),
  (0x27A, "LATIN SMALL LETTER ", "TURNED R WITH LONG LEG|TURNED R WITH HOOK|R WITH LONG LEG"),
  (0x27D, "LATIN SMALL LETTER ", "R WITH TAIL|R WITH FISHHOOK|REVERSED R WITH FISHHOOK"),
  (0x280, "LATIN LETTER SMALL CAPITAL ", "R|INVERTED R"),
  (0x282, "LATIN SMALL LETTER ", "S WITH HOOK|ESH|DOTLESS J WITH STROKE AND HOOK"),
  (0x285, "LATIN SMALL LETTER ", "SQUAT REVERSED ESH|ESH WITH CURL|TURNED T|T WITH RETROFLEX HOOK"),
  (0x289, "LATIN SMALL LETTER ", "U BAR|UPSILON|V WITH HOOK|TURNED V|TURNED W|TURNED Y"),
  (0x28F, "", "LATIN LETTER SMALL CAPITAL Y"),
  (0x290, "LATIN SMALL LETTER ", "Z WITH RETROFLEX HOOK|Z WITH CURL|EZH|EZH WITH CURL"),
  (0x294, "LATIN LETTER ", "GLOTTAL STOP|PHARYNGEAL VOICED FRICATIVE"),
  (0x296, "LATIN LETTER ", "INVERTED GLOTTAL STOP|STRETCHED C|BILABIAL CLICK|SMALL CAPITAL B"),
  (0x29A, "", "LATIN SMALL LETTER CLOSED OPEN E"),
  (0x29B, "LATIN LETTER SMALL CAPITAL ", "G WITH HOOK|H"),
  (0x29D, "LATIN SMALL LETTER ", "J WITH CROSSED-TAIL|TURNED K"),
  (0x29F, "LATIN ", "LETTER SMALL CAPITAL L|SMALL LETTER Q WITH HOOK"),
  (0x2A1, "LATIN LETTER ", "GLOTTAL STOP WITH STROKE|REVERSED GLOTTAL STOP WITH STROKE"),
  (0x2A3, "", "LATIN SMALL LETTER DZ DIGRAPH"),
  (0x2A4, "LATIN SMALL LETTER ", "DEZH DIGRAPH|DZ DIGRAPH WITH CURL|TS DIGRAPH|TESH DIGRAPH"),
  (0x2A8, "LATIN SMALL LETTER ", "TC DIGRAPH WITH CURL|FENG DIGRAPH|LS DIGRAPH|LZ DIGRAPH"),
  (0x2AC, "LATIN LETTER ", "BILABIAL PERCUSSIVE|BIDENTAL PERCUSSIVE"),
  (0x2AE, "LATIN SMALL LETTER TURNED H WITH ", "FISHHOOK|FISHHOOK AND TAIL"),
  (0x2B0, "MODIFIER LETTER SMALL ", "H|H WITH HOOK|J|R|TURNED R|TURNED R WITH HOOK"),
  (0x2B6, "MODIFIER LETTER ", "SMALL CAPITAL INVERTED R|SMALL W|SMALL Y|PRIME|DOUBLE PRIME"),
  (0x2BB, "MODIFIER LETTER ", "TURNED COMMA|APOSTROPHE|REVERSED COMMA|RIGHT HALF RING"),
  (0x2BF, "MODIFIER LETTER ", "LEFT HALF RING|GLOTTAL STOP|REVERSED GLOTTAL STOP|LEFT ARROWHEAD"),
  (0x2C3, "MODIFIER LETTER ", "RIGHT ARROWHEAD|UP ARROWHEAD|DOWN ARROWHEAD|CIRCUMFLEX ACCENT"),
  (0x2C7, "", "CARON"),
  (0x2C8, "MODIFIER LETTER ", "VERTICAL LINE|MACRON|ACUTE ACCENT|GRAVE ACCENT"),
  (0x2CC, "MODIFIER LETTER LOW ", "VERTICAL LINE|MACRON|GRAVE ACCENT|ACUTE ACCENT"),
  (0x2D0, "MODIFIER LETTER ", "TRIANGULAR COLON|HALF TRIANGULAR COLON|CENTRED RIGHT HALF RING"),
  (0x2D3, "MODIFIER LETTER ", "CENTRED LEFT HALF RING|UP TACK|DOWN TACK|PLUS SIGN|MINUS SIGN"),
  (0x2D8, "", "BREVE|DOT ABOVE|RING ABOVE|OGONEK|SMALL TILDE|DOUBLE ACUTE ACCENT"),
  (0x2DE, "MODIFIER LETTER ", "RHOTIC HOOK|CROSS ACCENT|SMALL GAMMA|SMALL L"),
  (0x2E2, "MODIFIER LETTER ", "SMALL S|SMALL X|SMALL REVERSED GLOTTAL STOP|EXTRA-HIGH TONE BAR"),
  (0x2E6, "MODIFIER LETTER ", "HIGH TONE BAR|MID TONE BAR|LOW TONE BAR|EXTRA-LOW TONE BAR"),
  (0x2EA, "MODIFIER LETTER ", "YIN DEPARTING TONE MARK|YANG DEPARTING TONE MARK"),
  (0x2EC, "MODIFIER LETTER ", "VOICING|UNASPIRATED|DOUBLE APOSTROPHE|LOW DOWN ARROWHEAD"),
  (0x2F0, "MODIFIER LETTER LOW ", "UP ARROWHEAD|LEFT ARROWHEAD|RIGHT ARROWHEAD|RING"),
  (0x2F4, "MODIFIER LETTER MIDDLE ", "GRAVE ACCENT|DOUBLE GRAVE ACCENT|DOUBLE ACUTE ACCENT"),
  (0x2F7, "MODIFIER LETTER ", "LOW TILDE|RAISED COLON|BEGIN HIGH TONE|END HIGH TONE"),
  (0x2FB, "MODIFIER LETTER ", "BEGIN LOW TONE|END LOW TONE|SHELF|OPEN SHELF|LOW LEFT ARROW"),
  (0x300, "COMBINING ", "GRAVE ACCENT|ACUTE ACCENT|CIRCUMFLEX ACCENT"),
  (0x303, "COMBINING ", "TILDE|MACRON|OVERLINE|BREVE|DOT ABOVE|DIAERESIS|HOOK ABOVE|RING ABOVE"),
  (0x30B, "COMBINING ", "DOUBLE ACUTE ACCENT|CARON|VERTICAL LINE ABOVE|DOUBLE VERTICAL LINE ABOVE"),
  (0x30F, "COMBINING ", "DOUBLE GRAVE ACCENT|CANDRABINDU|INVERTED BREVE|TURNED COMMA ABOVE"),
  (0x313, "COMBINING ", "COMMA ABOVE|REVERSED COMMA ABOVE|COMMA ABOVE RIGHT|GRAVE ACCENT BELOW"),
  (0x317, "COMBINING ", "ACUTE ACCENT BELOW|LEFT TACK BELOW|RIGHT TACK BELOW|LEFT ANGLE ABOVE"),
  (0x31B, "COMBINING ", "HORN|LEFT HALF RING BELOW|UP TACK BELOW|DOWN TACK BELOW|PLUS SIGN BELOW"),
  (0x320, "COMBINING ", "MINUS SIGN BELOW|PALATALIZED HOOK BELOW|RETROFLEX HOOK BELOW"),
  (0x323, "COMBINING ", "DOT BELOW|DIAERESIS BELOW|RING BELOW|COMMA BELOW|CEDILLA|OGONEK"),
  (0x329, "COMBINING ", "VERTICAL LINE BELOW|BRIDGE BELOW|INVERTED DOUBLE ARCH BELOW|CARON BELOW"),
  (0x32D, "COMBINING ", "CIRCUMFLEX ACCENT BELOW|BREVE BELOW|INVERTED BREVE BELOW|TILDE BELOW"),
  (0x331, "COMBINING ", "MACRON BELOW|LOW LINE|DOUBLE LOW LINE|TILDE OVERLAY|SHORT STROKE OVERLAY"),
  (0x336, "COMBINING ", "LONG STROKE OVERLAY|SHORT SOLIDUS OVERLAY|LONG SOLIDUS OVERLAY"),
  (0x339, "COMBINING ", "RIGHT HALF RING BELOW|INVERTED BRIDGE BELOW|SQUARE BELOW|SEAGULL BELOW"),
  (0x33D, "COMBINING ", "X ABOVE|VERTICAL TILDE|DOUBLE OVERLINE|GRAVE TONE MARK|ACUTE TONE MARK"),
  (0x342, "COMBINING GREEK ", "PERISPOMENI|KORONIS|DIALYTIKA TONOS|YPOGEGRAMMENI"),
  (0x346, "COMBINING ", "BRIDGE ABOVE|EQUALS SIGN BELOW"),
  (0x348, "COMBINING ", "DOUBLE VERTICAL LINE BELOW|LEFT ANGLE BELOW|NOT TILDE ABOVE"),
  (0x34B, "COMBINING ", "HOMOTHETIC ABOVE|ALMOST EQUAL TO ABOVE|LEFT RIGHT ARROW BELOW"),
  (0x34E, "COMBINING ", "UPWARDS ARROW BELOW|GRAPHEME JOINER|RIGHT ARROWHEAD ABOVE"),
  (0x351, "COMBINING ", "LEFT HALF RING ABOVE|FERMATA|X BELOW|LEFT ARROWHEAD BELOW"),
  (0x355, "COMBINING RIGHT ", "ARROWHEAD BELOW|ARROWHEAD AND UP ARROWHEAD BELOW|HALF RING ABOVE"),
  (0x358, "COMBINING ", "DOT ABOVE RIGHT|ASTERISK BELOW|DOUBLE RING BELOW|ZIGZAG ABOVE"),
  (0x35C, "COMBINING DOUBLE ", "BREVE BELOW|BREVE"),
  (0x35E, "COMBINING DOUBLE ", "MACRON|MACRON BELOW|TILDE|INVERTED BREVE|RIGHTWARDS ARROW BELOW"),
  (0x363, "COMBINING LATIN SMALL LETTER ", "A|E|I|O|U|C|D|H|M|R|T|V|X"),
  (0x370, "GREEK ", "CAPITAL LETTER HETA|SMALL LETTER HETA|CAPITAL LETTER ARCHAIC SAMPI"),
  (0x373, "GREEK ", "SMALL LETTER ARCHAIC SAMPI|NUMERAL SIGN|LOWER NUMERAL SIGN"),
  (0x376, "GREEK ", "CAPITAL LETTER PAMPHYLIAN DIGAMMA|SMALL LETTER PAMPHYLIAN DIGAMMA"),
  (0x37A, "", "GREEK YPOGEGRAMMENI"),
  (0x37B, "GREEK SMALL ", "REVERSED LUNATE SIGMA SYMBOL|DOTTED LUNATE SIGMA SYMBOL"),
  (0x37D, "GREEK ", "SMALL REVERSED DOTTED LUNATE SIGMA SYMBOL|QUESTION MARK|CAPITAL LETTER YOT"),
  (0x384, "GREEK ", "TONOS|DIALYTIKA TONOS|CAPITAL LETTER ALPHA WITH TONOS|ANO TELEIA"),
  (0x388, "GREEK CAPITAL LETTER ", "EPSILON WITH TONOS|ETA WITH TONOS|IOTA WITH TONOS"),
  (0x38C, "", "GREEK CAPITAL LETTER OMICRON WITH TONOS"),
  (0x38E, "GREEK CAPITAL LETTER ", "UPSILON WITH TONOS|OMEGA WITH TONOS"),
  (0x390, "", "GREEK SMALL LETTER IOTA WITH DIALYTIKA AND TONOS"),
  (0x391, "GREEK CAPITAL LETTER ", "ALPHA|BETA|GAMMA|DELTA|EPSILON"),
  (0x396, "GREEK CAPITAL LETTER ", "ZETA|ETA|THETA|IOTA|KAPPA|LAMDA|MU|NU|XI|OMICRON|PI|RHO"),
  (0x3A3, "GREEK CAPITAL LETTER ", "SIGMA|TAU|UPSILON"),
  (0x3A6, "GREEK CAPITAL LETTER ", "PHI|CHI|PSI|OMEGA|IOTA WITH DIALYTIKA|UPSILON WITH DIALYTIKA"),
  (0x3AC, "GREEK SMALL LETTER ", "ALPHA WITH TONOS|EPSILON WITH TONOS"),
  (0x3AE, "GREEK SMALL LETTER ", "ETA WITH TONOS|IOTA WITH TONOS|UPSILON WITH DIALYTIKA AND TONOS"),
  (0x3B1, "GREEK SMALL LETTER ", "ALPHA|BETA|GAMMA|DELTA|EPSILON|ZETA|ETA|THETA|IOTA|KAPPA"),
  (0x3BB, "GREEK SMALL LETTER ", "LAMDA|MU|NU|XI|OMICRON|PI|RHO|FINAL SIGMA|SIGMA|TAU|UPSILON"),
  (0x3C6, "GREEK SMALL LETTER ", "PHI|CHI|PSI|OMEGA|IOTA WITH DIALYTIKA|UPSILON WITH DIALYTIKA"),
  (0x3CC, "GREEK SMALL LETTER ", "OMICRON WITH TONOS|UPSILON WITH TONOS|OMEGA WITH TONOS"),
  (0x3CF, "GREEK ", "CAPITAL KAI SYMBOL|BETA SYMBOL|THETA SYMBOL"),
  (0x3D2, "GREEK UPSILON WITH ", "HOOK SYMBOL|ACUTE AND HOOK SYMBOL|DIAERESIS AND HOOK SYMBOL"),
  (0x3D5, "", "GREEK PHI SYMBOL"),
  (0x3D6, "GREEK ", "PI SYMBOL|KAI SYMBOL|LETTER ARCHAIC KOPPA|SMALL LETTER ARCHAIC KOPPA"),
  (0x3DA, "GREEK ", "LETTER STIGMA|SMALL LETTER STIGMA|LETTER DIGAMMA|SMALL LETTER DIGAMMA"),
  (0x3DE, "GREEK ", "LETTER KOPPA|SMALL LETTER KOPPA|LETTER SAMPI|SMALL LETTER SAMPI"),
  (0x3E2, "COPTIC ", "CAPITAL LETTER SHEI|SMALL LETTER SHEI|CAPITAL LETTER FEI"),
  (0x3E5, "COPTIC ", "SMALL LETTER FEI|CAPITAL LETTER KHEI|SMALL LETTER KHEI|CAPITAL LETTER HORI"),
  (0x3E9, "COPTIC ", "SMALL LETTER HORI|CAPITAL LETTER GANGIA|SMALL LETTER GANGIA"),
  (0x3EC, "COPTIC ", "CAPITAL LETTER SHIMA|SMALL LETTER SHIMA|CAPITAL LETTER DEI|SMALL LETTER DEI"),
  (0x3F0, "GREEK ", "KAPPA SYMBOL|RHO SYMBOL|LUNATE SIGMA SYMBOL|LETTER YOT|CAPITAL THETA SYMBOL"),
  (0x3F5, "GREEK ", "LUNATE EPSILON SYMBOL|REVERSED LUNATE EPSILON SYMBOL|CAPITAL LETTER SHO"),
  (0x3F8, "GREEK ", "SMALL LETTER SHO|CAPITAL LUNATE SIGMA SYMBOL|CAPITAL LETTER SAN"),
  (0x3FB, "GREEK ", "SMALL LETTER SAN|RHO WITH STROKE SYMBOL|CAPITAL REVERSED LUNATE SIGMA SYMBOL"),
  (0x3FE, "GREEK CAPITAL ", "DOTTED LUNATE SIGMA SYMBOL|REVERSED DOTTED LUNATE SIGMA SYMBOL"),
  (0x400, "", "CYRILLIC CAPITAL LETTER IE WITH GRAVE"),
  (0x401, "CYRILLIC CAPITAL LETTER ", "IO|DJE|GJE|UKRAINIAN IE|DZE|BYELORUSSIAN-UKRAINIAN I"),
  (0x407, "CYRILLIC CAPITAL LETTER ", "YI|JE|LJE|NJE|TSHE|KJE|I WITH GRAVE|SHORT U|DZHE|A"),
  (0x411, "CYRILLIC CAPITAL LETTER ", "BE|VE|GHE|DE|IE|ZHE|ZE|I|SHORT I|KA|EL|EM|EN|O|PE|ER|ES|TE"),
  (0x423, "CYRILLIC CAPITAL LETTER ", "U|EF|HA|TSE|CHE|SHA|SHCHA|HARD SIGN|YERU|SOFT SIGN|E|YU|YA"),
  (0x430, "CYRILLIC SMALL LETTER ", "A|BE|VE|GHE"),
  (0x434, "CYRILLIC SMALL LETTER ", "DE|IE|ZHE|ZE|I|SHORT I|KA|EL|EM|EN|O|PE|ER|ES|TE|U|EF|HA|TSE"),
  (0x447, "CYRILLIC SMALL LETTER ", "CHE|SHA|SHCHA|HARD SIGN|YERU|SOFT SIGN|E|YU|YA|IE WITH GRAVE"),
  (0x451, "CYRILLIC SMALL LETTER ", "IO|DJE|GJE|UKRAINIAN IE|DZE|BYELORUSSIAN-UKRAINIAN I"),
  (0x457, "CYRILLIC SMALL LETTER ", "YI|JE|LJE|NJE|TSHE|KJE|I WITH GRAVE|SHORT U|DZHE"),
  (0x460, "CYRILLIC ", "CAPITAL LETTER OMEGA|SMALL LETTER OMEGA"),
  (0x462, "CYRILLIC ", "CAPITAL LETTER YAT|SMALL LETTER YAT|CAPITAL LETTER IOTIFIED E"),
  (0x465, "CYRILLIC ", "SMALL LETTER IOTIFIED E|CAPITAL LETTER LITTLE YUS|SMALL LETTER LITTLE YUS"),
  (0x468, "CYRILLIC ", "CAPITAL LETTER IOTIFIED LITTLE YUS|SMALL LETTER IOTIFIED LITTLE YUS"),
  (0x46A, "CYRILLIC ", "CAPITAL LETTER BIG YUS|SMALL LETTER BIG YUS"),
  (0x46C, "CYRILLIC ", "CAPITAL LETTER IOTIFIED BIG YUS|SMALL LETTER IOTIFIED BIG YUS"),
  (0x46E, "CYRILLIC ", "CAPITAL LETTER KSI|SMALL LETTER KSI|CAPITAL LETTER PSI|SMALL LETTER PSI"),
  (0x472, "CYRILLIC ", "CAPITAL LETTER FITA|SMALL LETTER FITA|CAPITAL LETTER IZHITSA"),
  (0x475, "CYRILLIC ", "SMALL LETTER IZHITSA|CAPITAL LETTER IZHITSA WITH DOUBLE GRAVE ACCENT"),
  (0x477, "", "CYRILLIC SMALL LETTER IZHITSA WITH DOUBLE GRAVE ACCENT"),
  (0x478, "CYRILLIC ", "CAPITAL LETTER UK|SMALL LETTER UK|CAPITAL LETTER ROUND OMEGA"),
  (0x47B, "CYRILLIC ", "SMALL LETTER ROUND OMEGA|CAPITAL LETTER OMEGA WITH TITLO"),
  (0x47D, "CYRILLIC ", "SMALL LETTER OMEGA WITH TITLO|CAPITAL LETTER OT"),
  (0x47F, "CYRILLIC ", "SMALL LETTER OT|CAPITAL LETTER KOPPA|SMALL LETTER KOPPA|THOUSANDS SIGN"),
  (0x483, "COMBINING CYRILLIC ", "TITLO|PALATALIZATION|DASIA PNEUMATA"),
  (0x486, "COMBINING CYRILLIC ", "PSILI PNEUMATA|POKRYTIE|HUNDRED THOUSANDS SIGN|MILLIONS SIGN"),
  (0x48A, "", "CYRILLIC CAPITAL LETTER SHORT I WITH TAIL"),
  (0x48B, "CYRILLIC ", "SMALL LETTER SHORT I WITH TAIL|CAPITAL LETTER SEMISOFT SIGN"),
  (0x48D, "CYRILLIC ", "SMALL LETTER SEMISOFT SIGN|CAPITAL LETTER ER WITH TICK"),
  (0x48F, "CYRILLIC ", "SMALL LETTER ER WITH TICK|CAPITAL LETTER GHE WITH UPTURN"),
  (0x491, "CYRILLIC ", "SMALL LETTER GHE WITH UPTURN|CAPITAL LETTER GHE WITH STROKE"),
  (0x493, "CYRILLIC ", "SMALL LETTER GHE WITH STROKE|CAPITAL LETTER GHE WITH MIDDLE HOOK"),
  (0x495, "CYRILLIC ", "SMALL LETTER GHE WITH MIDDLE HOOK|CAPITAL LETTER ZHE WITH DESCENDER"),
  (0x497, "CYRILLIC ", "SMALL LETTER ZHE WITH DESCENDER|CAPITAL LETTER ZE WITH DESCENDER"),
  (0x499, "CYRILLIC ", "SMALL LETTER ZE WITH DESCENDER|CAPITAL LETTER KA WITH DESCENDER"),
  (0x49B, "CYRILLIC ", "SMALL LETTER KA WITH DESCENDER|CAPITAL LETTER KA WITH VERTICAL STROKE"),
  (0x49D, "CYRILLIC ", "SMALL LETTER KA WITH VERTICAL STROKE|CAPITAL LETTER KA WITH STROKE"),
  (0x49F, "CYRILLIC ", "SMALL LETTER KA WITH STROKE|CAPITAL LETTER BASHKIR KA"),
  (0x4A1, "CYRILLIC ", "SMALL LETTER BASHKIR KA|CAPITAL LETTER EN WITH DESCENDER"),
  (0x4A3, "CYRILLIC ", "SMALL LETTER EN WITH DESCENDER|CAPITAL LIGATURE EN GHE"),
  (0x4A5, "CYRILLIC ", "SMALL LIGATURE EN GHE|CAPITAL LETTER PE WITH MIDDLE HOOK"),
  (0x4A7, "CYRILLIC ", "SMALL LETTER PE WITH MIDDLE HOOK|CAPITAL LETTER ABKHASIAN HA"),
  (0x4A9, "CYRILLIC ", "SMALL LETTER ABKHASIAN HA|CAPITAL LETTER ES WITH DESCENDER"),
  (0x4AB, "CYRILLIC ", "SMALL LETTER ES WITH DESCENDER|CAPITAL LETTER TE WITH DESCENDER"),
  (0x4AD, "CYRILLIC ", "SMALL LETTER TE WITH DESCENDER|CAPITAL LETTER STRAIGHT U"),
  (0x4AF, "CYRILLIC ", "SMALL LETTER STRAIGHT U|CAPITAL LETTER STRAIGHT U WITH STROKE"),
  (0x4B1, "CYRILLIC ", "SMALL LETTER STRAIGHT U WITH STROKE|CAPITAL LETTER HA WITH DESCENDER"),
  (0x4B3, "CYRILLIC ", "SMALL LETTER HA WITH DESCENDER|CAPITAL LIGATURE TE TSE"),
  (0x4B5, "CYRILLIC ", "SMALL LIGATURE TE TSE|CAPITAL LETTER CHE WITH DESCENDER"),
  (0x4B7, "CYRILLIC ", "SMALL LETTER CHE WITH DESCENDER|CAPITAL LETTER CHE WITH VERTICAL STROKE"),
  (0x4B9, "", "CYRILLIC SMALL LETTER CHE WITH VERTICAL STROKE"),
  (0x4BA, "CYRILLIC ", "CAPITAL LETTER SHHA|SMALL LETTER SHHA|CAPITAL LETTER ABKHASIAN CHE"),
  (0x4BD, "CYRILLIC ", "SMALL LETTER ABKHASIAN CHE|CAPITAL LETTER ABKHASIAN CHE WITH DESCENDER"),
  (0x4BF, "", "CYRILLIC SMALL LETTER ABKHASIAN CHE WITH DESCENDER"),
  (0x4C0, "CYRILLIC ", "LETTER PALOCHKA|CAPITAL LETTER ZHE WITH BREVE"),
  (0x4C2, "CYRILLIC ", "SMALL LETTER ZHE WITH BREVE|CAPITAL LETTER KA WITH HOOK"),
  (0x4C4, "CYRILLIC ", "SMALL LETTER KA WITH HOOK|CAPITAL LETTER EL WITH TAIL"),
  (0x4C6, "CYRILLIC ", "SMALL LETTER EL WITH TAIL|CAPITAL LETTER EN WITH HOOK"),
  (0x4C8, "CYRILLIC ", "SMALL LETTER EN WITH HOOK|CAPITAL LETTER EN WITH TAIL"),
  (0x4CA, "CYRILLIC ", "SMALL LETTER EN WITH TAIL|CAPITAL LETTER KHAKASSIAN CHE"),
  (0x4CC, "CYRILLIC ", "SMALL LETTER KHAKASSIAN CHE|CAPITAL LETTER EM WITH TAIL"),
  (0x4CE, "CYRILLIC SMALL LETTER ", "EM WITH TAIL|PALOCHKA"),
  (0x4D0, "CYRILLIC ", "CAPITAL LETTER A WITH BREVE|SMALL LETTER A WITH BREVE"),
  (0x4D2, "CYRILLIC ", "CAPITAL LETTER A WITH DIAERESIS|SMALL LETTER A WITH DIAERESIS"),
  (0x4D4, "CYRILLIC ", "CAPITAL LIGATURE A IE|SMALL LIGATURE A IE|CAPITAL LETTER IE WITH BREVE"),
  (0x4D7, "CYRILLIC ", "SMALL LETTER IE WITH BREVE|CAPITAL LETTER SCHWA"),
  (0x4D9, "CYRILLIC ", "SMALL LETTER SCHWA|CAPITAL LETTER SCHWA WITH DIAERESIS"),
  (0x4DB, "CYRILLIC ", "SMALL LETTER SCHWA WITH DIAERESIS|CAPITAL LETTER ZHE WITH DIAERESIS"),
  (0x4DD, "CYRILLIC ", "SMALL LETTER ZHE WITH DIAERESIS|CAPITAL LETTER ZE WITH DIAERESIS"),
  (0x4DF, "CYRILLIC ", "SMALL LETTER ZE WITH DIAERESIS|CAPITAL LETTER ABKHASIAN DZE"),
  (0x4E1, "CYRILLIC ", "SMALL LETTER ABKHASIAN DZE|CAPITAL LETTER I WITH MACRON"),
  (0x4E3, "CYRILLIC ", "SMALL LETTER I WITH MACRON|CAPITAL LETTER I WITH DIAERESIS"),
  (0x4E5, "CYRILLIC ", "SMALL LETTER I WITH DIAERESIS|CAPITAL LETTER O WITH DIAERESIS"),
  (0x4E7, "CYRILLIC ", "SMALL LETTER O WITH DIAERESIS|CAPITAL LETTER BARRED O"),
  (0x4E9, "CYRILLIC ", "SMALL LETTER BARRED O|CAPITAL LETTER BARRED O WITH DIAERESIS"),
  (0x4EB, "CYRILLIC ", "SMALL LETTER BARRED O WITH DIAERESIS|CAPITAL LETTER E WITH DIAERESIS"),
  (0x4ED, "CYRILLIC ", "SMALL LETTER E WITH DIAERESIS|CAPITAL LETTER U WITH MACRON"),
  (0x4EF, "CYRILLIC ", "SMALL LETTER U WITH MACRON|CAPITAL LETTER U WITH DIAERESIS"),
  (0x4F1, "CYRILLIC ", "SMALL LETTER U WITH DIAERESIS|CAPITAL LETTER U WITH DOUBLE ACUTE"),
  (0x4F3, "CYRILLIC ", "SMALL LETTER U WITH DOUBLE ACUTE|CAPITAL LETTER CHE WITH DIAERESIS"),
  (0x4F5, "CYRILLIC ", "SMALL LETTER CHE WITH DIAERESIS|CAPITAL LETTER GHE WITH DESCENDER"),
  (0x4F7, "CYRILLIC ", "SMALL LETTER GHE WITH DESCENDER|CAPITAL LETTER YERU WITH DIAERESIS"),
  (0x4F9, "CYRILLIC ", "SMALL LETTER YERU WITH DIAERESIS|CAPITAL LETTER GHE WITH STROKE AND HOOK"),
  (0x4FB, "", "CYRILLIC SMALL LETTER GHE WITH STROKE AND HOOK"),
  (0x4FC, "CYRILLIC ", "CAPITAL LETTER HA WITH HOOK|SMALL LETTER HA WITH HOOK"),
  (0x4FE, "CYRILLIC ", "CAPITAL LETTER HA WITH STROKE|SMALL LETTER HA WITH STROKE"),
  (0x500, "CYRILLIC ", "CAPITAL LETTER KOMI DE|SMALL LETTER KOMI DE|CAPITAL LETTER KOMI DJE"),
  (0x503, "CYRILLIC ", "SMALL LETTER KOMI DJE|CAPITAL LETTER KOMI ZJE|SMALL LETTER KOMI ZJE"),
  (0x506, "CYRILLIC ", "CAPITAL LETTER KOMI DZJE|SMALL LETTER KOMI DZJE|CAPITAL LETTER KOMI LJE"),
  (0x509, "CYRILLIC ", "SMALL LETTER KOMI LJE|CAPITAL LETTER KOMI NJE|SMALL LETTER KOMI NJE"),
  (0x50C, "CYRILLIC ", "CAPITAL LETTER KOMI SJE|SMALL LETTER KOMI SJE|CAPITAL LETTER KOMI TJE"),
  (0x50F, "CYRILLIC ", "SMALL LETTER KOMI TJE|CAPITAL LETTER REVERSED ZE|SMALL LETTER REVERSED ZE"),
  (0x512, "CYRILLIC ", "CAPITAL LETTER EL WITH HOOK|SMALL LETTER EL WITH HOOK"),
  (0x514, "CYRILLIC ", "CAPITAL LETTER LHA|SMALL LETTER LHA|CAPITAL LETTER RHA"),
  (0x517, "CYRILLIC ", "SMALL LETTER RHA|CAPITAL LETTER YAE|SMALL LETTER YAE|CAPITAL LETTER QA"),
  (0x51B, "CYRILLIC ", "SMALL LETTER QA|CAPITAL LETTER WE|SMALL LETTER WE|CAPITAL LETTER ALEUT KA"),
  (0x51F, "CYRILLIC ", "SMALL LETTER ALEUT KA|CAPITAL LETTER EL WITH MIDDLE HOOK"),
  (0x521, "CYRILLIC ", "SMALL LETTER EL WITH MIDDLE HOOK|CAPITAL LETTER EN WITH MIDDLE HOOK"),
  (0x523, "CYRILLIC ", "SMALL LETTER EN WITH MIDDLE HOOK|CAPITAL LETTER PE WITH DESCENDER"),
  (0x525, "CYRILLIC ", "SMALL LETTER PE WITH DESCENDER|CAPITAL LETTER SHHA WITH DESCENDER"),
  (0x527, "CYRILLIC ", "SMALL LETTER SHHA WITH DESCENDER|CAPITAL LETTER EN WITH LEFT HOOK"),
  (0x529, "CYRILLIC ", "SMALL LETTER EN WITH LEFT HOOK|CAPITAL LETTER DZZHE"),
  (0x52B, "CYRILLIC ", "SMALL LETTER DZZHE|CAPITAL LETTER DCHE|SMALL LETTER DCHE"),
  (0x52E, "CYRILLIC ", "CAPITAL LETTER EL WITH DESCENDER|SMALL LETTER EL WITH DESCENDER"),
  (0x531, "ARMENIAN CAPITAL LETTER ", "AYB|BEN|GIM|DA|ECH|ZA|EH|ET|TO"),
  (0x53A, "ARMENIAN CAPITAL LETTER ", "ZHE|INI|LIWN|XEH|CA|KEN|HO|JA|GHAD|CHEH|MEN|YI|NOW|SHA|VO"),
  (0x549, "ARMENIAN CAPITAL LETTER ", "CHA|PEH|JHEH|RA|SEH|VEW|TIWN|REH|CO|YIWN|PIWR|KEH|OH|FEH"),
  (0x559, "ARMENIAN ", "MODIFIER LETTER LEFT HALF RING|APOSTROPHE"),
  (0x55B, "ARMENIAN ", "EMPHASIS MARK|EXCLAMATION MARK|COMMA|QUESTION MARK|ABBREVIATION MARK"),
  (0x560, "ARMENIAN SMALL LETTER ", "TURNED AYB|AYB|BEN|GIM|DA|ECH|ZA|EH"),
  (0x568, "ARMENIAN SMALL LETTER ", "ET|TO|ZHE|INI|LIWN|XEH|CA|KEN|HO|JA|GHAD|CHEH|MEN|YI|NOW|SHA"),
  (0x578, "ARMENIAN SMALL LETTER ", "VO|CHA|PEH|JHEH|RA|SEH|VEW|TIWN|REH|CO|YIWN|PIWR|KEH|OH|FEH"),
  (0x587, "ARMENIAN ", "SMALL LIGATURE ECH YIWN|SMALL LETTER YI WITH STROKE|FULL STOP|HYPHEN"),
  (0x58D, "", "RIGHT-FACING ARMENIAN ETERNITY SIGN"),
  (0x58E, "", "LEFT-FACING ARMENIAN ETERNITY SIGN|ARMENIAN DRAM SIGN"),
  (0x591, "HEBREW ACCENT ", "ETNAHTA|SEGOL|SHALSHELET|ZAQEF QATAN|ZAQEF GADOL"),
  (0x596, "HEBREW ACCENT ", "TIPEHA|REVIA|ZARQA|PASHTA|YETIV|TEVIR|GERESH|GERESH MUQDAM|GERSHAYIM"),
  (0x59F, "HEBREW ACCENT ", "QARNEY PARA|TELISHA GEDOLA|PAZER|ATNAH HAFUKH|MUNAH|MAHAPAKH|MERKHA"),
  (0x5A6, "HEBREW ACCENT ", "MERKHA KEFULA|DARGA|QADMA|TELISHA QETANA|YERAH BEN YOMO|OLE|ILUY"),
  (0x5AD, "HEBREW ", "ACCENT DEHI|ACCENT ZINOR|MARK MASORA CIRCLE"),
  (0x5B0, "HEBREW POINT ", "SHEVA|HATAF SEGOL|HATAF PATAH|HATAF QAMATS|HIRIQ|TSERE|SEGOL"),
  (0x5B7, "HEBREW POINT ", "PATAH|QAMATS|HOLAM|HOLAM HASER FOR VAV|QUBUTS|DAGESH OR MAPIQ|METEG"),
  (0x5BE, "HEBREW ", "PUNCTUATION MAQAF|POINT RAFE"),
  (0x5C0, "HEBREW ", "PUNCTUATION PASEQ|POINT SHIN DOT|POINT SIN DOT|PUNCTUATION SOF PASUQ"),
  (0x5C4, "HEBREW ", "MARK UPPER DOT|MARK LOWER DOT|PUNCTUATION NUN HAFUKHA|POINT QAMATS QATAN"),
  (0x5D0, "HEBREW LETTER ", "ALEF|BET|GIMEL|DALET"),
  (0x5D4, "HEBREW LETTER ", "HE|VAV|ZAYIN|HET|TET|YOD|FINAL KAF|KAF|LAMED|FINAL MEM|MEM|FINAL NUN"),
  (0x5E0, "HEBREW LETTER ", "NUN|SAMEKH|AYIN|FINAL PE|PE|FINAL TSADI|TSADI|QOF|RESH|SHIN|TAV"),
  (0x5EF, "", "HEBREW YOD TRIANGLE"),
  (0x5F0, "HEBREW LIGATURE YIDDISH ", "DOUBLE VAV|VAV YOD|DOUBLE YOD"),
  (0x5F3, "HEBREW PUNCTUATION ", "GERESH|GERSHAYIM"),
  (0x1E00, "", "LATIN CAPITAL LETTER A WITH RING BELOW"),
  (0x1E01, "LATIN ", "SMALL LETTER A WITH RING BELOW|CAPITAL LETTER B WITH DOT ABOVE"),
  (0x1E03, "LATIN ", "SMALL LETTER B WITH DOT ABOVE|CAPITAL LETTER B WITH DOT BELOW"),
  (0x1E05, "LATIN ", "SMALL LETTER B WITH DOT BELOW|CAPITAL LETTER B WITH LINE BELOW"),
  (0x1E07, "LATIN ", "SMALL LETTER B WITH LINE BELOW|CAPITAL LETTER C WITH CEDILLA AND ACUTE"),
  (0x1E09, "LATIN ", "SMALL LETTER C WITH CEDILLA AND ACUTE|CAPITAL LETTER D WITH DOT ABOVE"),
  (0x1E0B, "LATIN ", "SMALL LETTER D WITH DOT ABOVE|CAPITAL LETTER D WITH DOT BELOW"),
  (0x1E0D, "LATIN ", "SMALL LETTER D WITH DOT BELOW|CAPITAL LETTER D WITH LINE BELOW"),
  (0x1E0F, "LATIN ", "SMALL LETTER D WITH LINE BELOW|CAPITAL LETTER D WITH CEDILLA"),
  (0x1E11, "LATIN ", "SMALL LETTER D WITH CEDILLA|CAPITAL LETTER D WITH CIRCUMFLEX BELOW"),
  (0x1E13, "LATIN ", "SMALL LETTER D WITH CIRCUMFLEX BELOW|CAPITAL LETTER E WITH MACRON AND GRAVE"),
  (0x1E15, "LATIN ", "SMALL LETTER E WITH MACRON AND GRAVE|CAPITAL LETTER E WITH MACRON AND ACUTE"),
  (0x1E17, "LATIN ", "SMALL LETTER E WITH MACRON AND ACUTE|CAPITAL LETTER E WITH CIRCUMFLEX BELOW"),
  (0x1E19, "LATIN ", "SMALL LETTER E WITH CIRCUMFLEX BELOW|CAPITAL LETTER E WITH TILDE BELOW"),
  (0x1E1B, "LATIN ", "SMALL LETTER E WITH TILDE BELOW|CAPITAL LETTER E WITH CEDILLA AND BREVE"),
  (0x1E1D, "LATIN ", "SMALL LETTER E WITH CEDILLA AND BREVE|CAPITAL LETTER F WITH DOT ABOVE"),
  (0x1E1F, "LATIN ", "SMALL LETTER F WITH DOT ABOVE|CAPITAL LETTER G WITH MACRON"),
  (0x1E21, "LATIN ", "SMALL LETTER G WITH MACRON|CAPITAL LETTER H WITH DOT ABOVE"),
  (0x1E23, "LATIN ", "SMALL LETTER H WITH DOT ABOVE|CAPITAL LETTER H WITH DOT BELOW"),
  (0x1E25, "LATIN ", "SMALL LETTER H WITH DOT BELOW|CAPITAL LETTER H WITH DIAERESIS"),
  (0x1E27, "LATIN ", "SMALL LETTER H WITH DIAERESIS|CAPITAL LETTER H WITH CEDILLA"),
  (0x1E29, "LATIN ", "SMALL LETTER H WITH CEDILLA|CAPITAL LETTER H WITH BREVE BELOW"),
  (0x1E2B, "LATIN ", "SMALL LETTER H WITH BREVE BELOW|CAPITAL LETTER I WITH TILDE BELOW"),
  (0x1E2D, "LATIN ", "SMALL LETTER I WITH TILDE BELOW|CAPITAL LETTER I WITH DIAERESIS AND ACUTE"),
  (0x1E2F, "LATIN ", "SMALL LETTER I WITH DIAERESIS AND ACUTE|CAPITAL LETTER K WITH ACUTE"),
  (0x1E31, "LATIN ", "SMALL LETTER K WITH ACUTE|CAPITAL LETTER K WITH DOT BELOW"),
  (0x1E33, "LATIN ", "SMALL LETTER K WITH DOT BELOW|CAPITAL LETTER K WITH LINE BELOW"),
  (0x1E35, "LATIN ", "SMALL LETTER K WITH LINE BELOW|CAPITAL LETTER L WITH DOT BELOW"),
  (0x1E37, "LATIN ", "SMALL LETTER L WITH DOT BELOW|CAPITAL LETTER L WITH DOT BELOW AND MACRON"),
  (0x1E39, "", "LATIN SMALL LETTER L WITH DOT BELOW AND MACRON"),
  (0x1E3A, "LATIN ", "CAPITAL LETTER L WITH LINE BELOW|SMALL LETTER L WITH LINE BELOW"),
  (0x1E3C, "LATIN ", "CAPITAL LETTER L WITH CIRCUMFLEX BELOW|SMALL LETTER L WITH CIRCUMFLEX BELOW"),
  (0x1E3E, "LATIN ", "CAPITAL LETTER M WITH ACUTE|SMALL LETTER M WITH ACUTE"),
  (0x1E40, "LATIN ", "CAPITAL LETTER M WITH DOT ABOVE|SMALL LETTER M WITH DOT ABOVE"),
  (0x1E42, "LATIN ", "CAPITAL LETTER M WITH DOT BELOW|SMALL LETTER M WITH DOT BELOW"),
  (0x1E44, "LATIN ", "CAPITAL LETTER N WITH DOT ABOVE|SMALL LETTER N WITH DOT ABOVE"),
  (0x1E46, "LATIN ", "CAPITAL LETTER N WITH DOT BELOW|SMALL LETTER N WITH DOT BELOW"),
  (0x1E48, "LATIN ", "CAPITAL LETTER N WITH LINE BELOW|SMALL LETTER N WITH LINE BELOW"),
  (0x1E4A, "LATIN ", "CAPITAL LETTER N WITH CIRCUMFLEX BELOW|SMALL LETTER N WITH CIRCUMFLEX BELOW"),
  (0x1E4C, "LATIN ", "CAPITAL LETTER O WITH TILDE AND ACUTE|SMALL LETTER O WITH TILDE AND ACUTE"),
  (0x1E4E, "", "LATIN CAPITAL LETTER O WITH TILDE AND DIAERESIS"),
  (0x1E4F, "", "LATIN SMALL LETTER O WITH TILDE AND DIAERESIS"),
  (0x1E50, "", "LATIN CAPITAL LETTER O WITH MACRON AND GRAVE"),
  (0x1E51, "LATIN ", "SMALL LETTER O WITH MACRON AND GRAVE|CAPITAL LETTER O WITH MACRON AND ACUTE"),
  (0x1E53, "LATIN ", "SMALL LETTER O WITH MACRON AND ACUTE|CAPITAL LETTER P WITH ACUTE"),
  (0x1E55, "LATIN ", "SMALL LETTER P WITH ACUTE|CAPITAL LETTER P WITH DOT ABOVE"),
  (0x1E57, "LATIN ", "SMALL LETTER P WITH DOT ABOVE|CAPITAL LETTER R WITH DOT ABOVE"),
  (0x1E59, "LATIN ", "SMALL LETTER R WITH DOT ABOVE|CAPITAL LETTER R WITH DOT BELOW"),
  (0x1E5B, "LATIN ", "SMALL LETTER R WITH DOT BELOW|CAPITAL LETTER R WITH DOT BELOW AND MACRON"),
  (0x1E5D, "LATIN ", "SMALL LETTER R WITH DOT BELOW AND MACRON|CAPITAL LETTER R WITH LINE BELOW"),
  (0x1E5F, "LATIN ", "SMALL LETTER R WITH LINE BELOW|CAPITAL LETTER S WITH DOT ABOVE"),
  (0x1E61, "LATIN ", "SMALL LETTER S WITH DOT ABOVE|CAPITAL LETTER S WITH DOT BELOW"),
  (0x1E63, "LATIN ", "SMALL LETTER S WITH DOT BELOW|CAPITAL LETTER S WITH ACUTE AND DOT ABOVE"),
  (0x1E65, "", "LATIN SMALL LETTER S WITH ACUTE AND DOT ABOVE"),
  (0x1E66, "", "LATIN CAPITAL LETTER S WITH CARON AND DOT ABOVE"),
  (0x1E67, "", "LATIN SMALL LETTER S WITH CARON AND DOT ABOVE"),
  (0x1E68, "", "LATIN CAPITAL LETTER S WITH DOT BELOW AND DOT ABOVE"),
  (0x1E69, "", "LATIN SMALL LETTER S WITH DOT BELOW AND DOT ABOVE"),
  (0x1E6A, "LATIN ", "CAPITAL LETTER T WITH DOT ABOVE|SMALL LETTER T WITH DOT ABOVE"),
  (0x1E6C, "LATIN ", "CAPITAL LETTER T WITH DOT BELOW|SMALL LETTER T WITH DOT BELOW"),
  (0x1E6E, "LATIN ", "CAPITAL LETTER T WITH LINE BELOW|SMALL LETTER T WITH LINE BELOW"),
  (0x1E70, "LATIN ", "CAPITAL LETTER T WITH CIRCUMFLEX BELOW|SMALL LETTER T WITH CIRCUMFLEX BELOW"),
  (0x1E72, "LATIN ", "CAPITAL LETTER U WITH DIAERESIS BELOW|SMALL LETTER U WITH DIAERESIS BELOW"),
  (0x1E74, "LATIN ", "CAPITAL LETTER U WITH TILDE BELOW|SMALL LETTER U WITH TILDE BELOW"),
  (0x1E76, "LATIN ", "CAPITAL LETTER U WITH CIRCUMFLEX BELOW|SMALL LETTER U WITH CIRCUMFLEX BELOW"),
  (0x1E78, "LATIN ", "CAPITAL LETTER U WITH TILDE AND ACUTE|SMALL LETTER U WITH TILDE AND ACUTE"),
  (0x1E7A, "", "LATIN CAPITAL LETTER U WITH MACRON AND DIAERESIS"),
  (0x1E7B, "LATIN ", "SMALL LETTER U WITH MACRON AND DIAERESIS|CAPITAL LETTER V WITH TILDE"),
  (0x1E7D, "LATIN ", "SMALL LETTER V WITH TILDE|CAPITAL LETTER V WITH DOT BELOW"),
  (0x1E7F, "LATIN ", "SMALL LETTER V WITH DOT BELOW|CAPITAL LETTER W WITH GRAVE"),
  (0x1E81, "LATIN ", "SMALL LETTER W WITH GRAVE|CAPITAL LETTER W WITH ACUTE"),
  (0x1E83, "LATIN ", "SMALL LETTER W WITH ACUTE|CAPITAL LETTER W WITH DIAERESIS"),
  (0x1E85, "LATIN ", "SMALL LETTER W WITH DIAERESIS|CAPITAL LETTER W WITH DOT ABOVE"),
  (0x1E87, "LATIN ", "SMALL LETTER W WITH DOT ABOVE|CAPITAL LETTER W WITH DOT BELOW"),
  (0x1E89, "LATIN ", "SMALL LETTER W WITH DOT BELOW|CAPITAL LETTER X WITH DOT ABOVE"),
  (0x1E8B, "LATIN ", "SMALL LETTER X WITH DOT ABOVE|CAPITAL LETTER X WITH DIAERESIS"),
  (0x1E8D, "LATIN ", "SMALL LETTER X WITH DIAERESIS|CAPITAL LETTER Y WITH DOT ABOVE"),
  (0x1E8F, "LATIN ", "SMALL LETTER Y WITH DOT ABOVE|CAPITAL LETTER Z WITH CIRCUMFLEX"),
  (0x1E91, "LATIN ", "SMALL LETTER Z WITH CIRCUMFLEX|CAPITAL LETTER Z WITH DOT BELOW"),
  (0x1E93, "LATIN ", "SMALL LETTER Z WITH DOT BELOW|CAPITAL LETTER Z WITH LINE BELOW"),
  (0x1E95, "LATIN SMALL LETTER ", "Z WITH LINE BELOW|H WITH LINE BELOW|T WITH DIAERESIS"),
  (0x1E98, "LATIN SMALL LETTER ", "W WITH RING ABOVE|Y WITH RING ABOVE|A WITH RIGHT HALF RING"),
  (0x1E9B, "LATIN SMALL LETTER LONG S WITH ", "DOT ABOVE|DIAGONAL STROKE|HIGH STROKE"),
  (0x1E9E, "LATIN ", "CAPITAL LETTER SHARP S|SMALL LETTER DELTA|CAPITAL LETTER A WITH DOT BELOW"),
  (0x1EA1, "LATIN ", "SMALL LETTER A WITH DOT BELOW|CAPITAL LETTER A WITH HOOK ABOVE"),
  (0x1EA3, "LATIN ", "SMALL LETTER A WITH HOOK ABOVE|CAPITAL LETTER A WITH CIRCUMFLEX AND ACUTE"),
  (0x1EA5, "", "LATIN SMALL LETTER A WITH CIRCUMFLEX AND ACUTE"),
  (0x1EA6, "", "LATIN CAPITAL LETTER A WITH CIRCUMFLEX AND GRAVE"),
  (0x1EA7, "", "LATIN SMALL LETTER A WITH CIRCUMFLEX AND GRAVE"),
  (0x1EA8, "", "LATIN CAPITAL LETTER A WITH CIRCUMFLEX AND HOOK ABOVE"),
  (0x1EA9, "", "LATIN SMALL LETTER A WITH CIRCUMFLEX AND HOOK ABOVE"),
  (0x1EAA, "", "LATIN CAPITAL LETTER A WITH CIRCUMFLEX AND TILDE"),
  (0x1EAB, "", "LATIN SMALL LETTER A WITH CIRCUMFLEX AND TILDE"),
  (0x1EAC, "", "LATIN CAPITAL LETTER A WITH CIRCUMFLEX AND DOT BELOW"),
  (0x1EAD, "", "LATIN SMALL LETTER A WITH CIRCUMFLEX AND DOT BELOW"),
  (0x1EAE, "LATIN ", "CAPITAL LETTER A WITH BREVE AND ACUTE|SMALL LETTER A WITH BREVE AND ACUTE"),
  (0x1EB0, "LATIN ", "CAPITAL LETTER A WITH BREVE AND GRAVE|SMALL LETTER A WITH BREVE AND GRAVE"),
  (0x1EB2, "", "LATIN CAPITAL LETTER A WITH BREVE AND HOOK ABOVE"),
  (0x1EB3, "", "LATIN SMALL LETTER A WITH BREVE AND HOOK ABOVE"),
  (0x1EB4, "LATIN ", "CAPITAL LETTER A WITH BREVE AND TILDE|SMALL LETTER A WITH BREVE AND TILDE"),
  (0x1EB6, "", "LATIN CAPITAL LETTER A WITH BREVE AND DOT BELOW"),
  (0x1EB7, "LATIN ", "SMALL LETTER A WITH BREVE AND DOT BELOW|CAPITAL LETTER E WITH DOT BELOW"),
  (0x1EB9, "LATIN ", "SMALL LETTER E WITH DOT BELOW|CAPITAL LETTER E WITH HOOK ABOVE"),
  (0x1EBB, "LATIN ", "SMALL LETTER E WITH HOOK ABOVE|CAPITAL LETTER E WITH TILDE"),
  (0x1EBD, "LATIN ", "SMALL LETTER E WITH TILDE|CAPITAL LETTER E WITH CIRCUMFLEX AND ACUTE"),
  (0x1EBF, "", "LATIN SMALL LETTER E WITH CIRCUMFLEX AND ACUTE"),
  (0x1EC0, "", "LATIN CAPITAL LETTER E WITH CIRCUMFLEX AND GRAVE"),
  (0x1EC1, "", "LATIN SMALL LETTER E WITH CIRCUMFLEX AND GRAVE"),
  (0x1EC2, "", "LATIN CAPITAL LETTER E WITH CIRCUMFLEX AND HOOK ABOVE"),
  (0x1EC3, "", "LATIN SMALL LETTER E WITH CIRCUMFLEX AND HOOK ABOVE"),
  (0x1EC4, "", "LATIN CAPITAL LETTER E WITH CIRCUMFLEX AND TILDE"),
  (0x1EC5, "", "LATIN SMALL LETTER E WITH CIRCUMFLEX AND TILDE"),
  (0x1EC6, "", "LATIN CAPITAL LETTER E WITH CIRCUMFLEX AND DOT BELOW"),
  (0x1EC7, "", "LATIN SMALL LETTER E WITH CIRCUMFLEX AND DOT BELOW"),
  (0x1EC8, "", "LATIN CAPITAL LETTER I WITH HOOK ABOVE"),
  (0x1EC9, "LATIN ", "SMALL LETTER I WITH HOOK ABOVE|CAPITAL LETTER I WITH DOT BELOW"),
  (0x1ECB, "LATIN ", "SMALL LETTER I WITH DOT BELOW|CAPITAL LETTER O WITH DOT BELOW"),
  (0x1ECD, "LATIN ", "SMALL LETTER O WITH DOT BELOW|CAPITAL LETTER O WITH HOOK ABOVE"),
  (0x1ECF, "LATIN ", "SMALL LETTER O WITH HOOK ABOVE|CAPITAL LETTER O WITH CIRCUMFLEX AND ACUTE"),
  (0x1ED1, "", "LATIN SMALL LETTER O WITH CIRCUMFLEX AND ACUTE"),
  (0x1ED2, "", "LATIN CAPITAL LETTER O WITH CIRCUMFLEX AND GRAVE"),
  (0x1ED3, "", "LATIN SMALL LETTER O WITH CIRCUMFLEX AND GRAVE"),
  (0x1ED4, "", "LATIN CAPITAL LETTER O WITH CIRCUMFLEX AND HOOK ABOVE"),
  (0x1ED5, "", "LATIN SMALL LETTER O WITH CIRCUMFLEX AND HOOK ABOVE"),
  (0x1ED6, "", "LATIN CAPITAL LETTER O WITH CIRCUMFLEX AND TILDE"),
  (0x1ED7, "", "LATIN SMALL LETTER O WITH CIRCUMFLEX AND TILDE"),
  (0x1ED8, "", "LATIN CAPITAL LETTER O WITH CIRCUMFLEX AND DOT BELOW"),
  (0x1ED9, "", "LATIN SMALL LETTER O WITH CIRCUMFLEX AND DOT BELOW"),
  (0x1EDA, "LATIN ", "CAPITAL LETTER O WITH HORN AND ACUTE|SMALL LETTER O WITH HORN AND ACUTE"),
  (0x1EDC, "LATIN ", "CAPITAL LETTER O WITH HORN AND GRAVE|SMALL LETTER O WITH HORN AND GRAVE"),
  (0x1EDE, "", "LATIN CAPITAL LETTER O WITH HORN AND HOOK ABOVE"),
  (0x1EDF, "", "LATIN SMALL LETTER O WITH HORN AND HOOK ABOVE"),
  (0x1EE0, "", "LATIN CAPITAL LETTER O WITH HORN AND TILDE"),
  (0x1EE1, "LATIN ", "SMALL LETTER O WITH HORN AND TILDE|CAPITAL LETTER O WITH HORN AND DOT BELOW"),
  (0x1EE3, "", "LATIN SMALL LETTER O WITH HORN AND DOT BELOW"),
  (0x1EE4, "LATIN ", "CAPITAL LETTER U WITH DOT BELOW|SMALL LETTER U WITH DOT BELOW"),
  (0x1EE6, "LATIN ", "CAPITAL LETTER U WITH HOOK ABOVE|SMALL LETTER U WITH HOOK ABOVE"),
  (0x1EE8, "LATIN ", "CAPITAL LETTER U WITH HORN AND ACUTE|SMALL LETTER U WITH HORN AND ACUTE"),
  (0x1EEA, "LATIN ", "CAPITAL LETTER U WITH HORN AND GRAVE|SMALL LETTER U WITH HORN AND GRAVE"),
  (0x1EEC, "", "LATIN CAPITAL LETTER U WITH HORN AND HOOK ABOVE"),
  (0x1EED, "", "LATIN SMALL LETTER U WITH HORN AND HOOK ABOVE"),
  (0x1EEE, "", "LATIN CAPITAL LETTER U WITH HORN AND TILDE"),
  (0x1EEF, "LATIN ", "SMALL LETTER U WITH HORN AND TILDE|CAPITAL LETTER U WITH HORN AND DOT BELOW"),
  (0x1EF1, "", "LATIN SMALL LETTER U WITH HORN AND DOT BELOW"),
  (0x1EF2, "LATIN ", "CAPITAL LETTER Y WITH GRAVE|SMALL LETTER Y WITH GRAVE"),
  (0x1EF4, "LATIN ", "CAPITAL LETTER Y WITH DOT BELOW|SMALL LETTER Y WITH DOT BELOW"),
  (0x1EF6, "LATIN ", "CAPITAL LETTER Y WITH HOOK ABOVE|SMALL LETTER Y WITH HOOK ABOVE"),
  (0x1EF8, "LATIN ", "CAPITAL LETTER Y WITH TILDE|SMALL LETTER Y WITH TILDE"),
  (0x1EFA, "LATIN ", "CAPITAL LETTER MIDDLE-WELSH LL|SMALL LETTER MIDDLE-WELSH LL"),
  (0x1EFC, "LATIN ", "CAPITAL LETTER MIDDLE-WELSH V|SMALL LETTER MIDDLE-WELSH V"),
  (0x1EFE, "LATIN ", "CAPITAL LETTER Y WITH LOOP|SMALL LETTER Y WITH LOOP"),
  (0x1F00, "GREEK SMALL LETTER ALPHA WITH ", "PSILI|DASIA|PSILI AND VARIA"),
  (0x1F03, "GREEK SMALL LETTER ALPHA WITH ", "DASIA AND VARIA|PSILI AND OXIA|DASIA AND OXIA"),
  (0x1F06, "GREEK SMALL LETTER ALPHA WITH ", "PSILI AND PERISPOMENI|DASIA AND PERISPOMENI"),
  (0x1F08, "GREEK CAPITAL LETTER ALPHA WITH ", "PSILI|DASIA|PSILI AND VARIA"),
  (0x1F0B, "GREEK CAPITAL LETTER ALPHA WITH ", "DASIA AND VARIA|PSILI AND OXIA|DASIA AND OXIA"),
  (0x1F0E, "GREEK CAPITAL LETTER ALPHA WITH ", "PSILI AND PERISPOMENI|DASIA AND PERISPOMENI"),
  (0x1F10, "GREEK SMALL LETTER EPSILON WITH ", "PSILI|DASIA|PSILI AND VARIA"),
  (0x1F13, "GREEK SMALL LETTER EPSILON WITH ", "DASIA AND VARIA|PSILI AND OXIA|DASIA AND OXIA"),
  (0x1F18, "GREEK CAPITAL LETTER EPSILON WITH ", "PSILI|DASIA|PSILI AND VARIA"),
  (0x1F1B, "GREEK CAPITAL LETTER EPSILON WITH ", "DASIA AND VARIA|PSILI AND OXIA|DASIA AND OXIA"),
  (0x1F20, "GREEK SMALL LETTER ETA WITH ", "PSILI|DASIA|PSILI AND VARIA"),
  (0x1F23, "GREEK SMALL LETTER ETA WITH ", "DASIA AND VARIA|PSILI AND OXIA|DASIA AND OXIA"),
  (0x1F26, "GREEK SMALL LETTER ETA WITH ", "PSILI AND PERISPOMENI|DASIA AND PERISPOMENI"),
  (0x1F28, "GREEK CAPITAL LETTER ETA WITH ", "PSILI|DASIA|PSILI AND VARIA"),
  (0x1F2B, "GREEK CAPITAL LETTER ETA WITH ", "DASIA AND VARIA|PSILI AND OXIA|DASIA AND OXIA"),
  (0x1F2E, "GREEK CAPITAL LETTER ETA WITH ", "PSILI AND PERISPOMENI|DASIA AND PERISPOMENI"),
  (0x1F30, "GREEK SMALL LETTER IOTA WITH ", "PSILI|DASIA|PSILI AND VARIA"),
  (0x1F33, "GREEK SMALL LETTER IOTA WITH ", "DASIA AND VARIA|PSILI AND OXIA|DASIA AND OXIA"),
  (0x1F36, "GREEK SMALL LETTER IOTA WITH ", "PSILI AND PERISPOMENI|DASIA AND PERISPOMENI"),
  (0x1F38, "GREEK CAPITAL LETTER IOTA WITH ", "PSILI|DASIA|PSILI AND VARIA"),
  (0x1F3B, "GREEK CAPITAL LETTER IOTA WITH ", "DASIA AND VARIA|PSILI AND OXIA|DASIA AND OXIA"),
  (0x1F3E, "GREEK CAPITAL LETTER IOTA WITH ", "PSILI AND PERISPOMENI|DASIA AND PERISPOMENI"),
  (0x1F40, "GREEK SMALL LETTER OMICRON WITH ", "PSILI|DASIA|PSILI AND VARIA"),
  (0x1F43, "GREEK SMALL LETTER OMICRON WITH ", "DASIA AND VARIA|PSILI AND OXIA|DASIA AND OXIA"),
  (0x1F48, "GREEK CAPITAL LETTER OMICRON WITH ", "PSILI|DASIA|PSILI AND VARIA"),
  (0x1F4B, "GREEK CAPITAL LETTER OMICRON WITH ", "DASIA AND VARIA|PSILI AND OXIA|DASIA AND OXIA"),
  (0x1F50, "GREEK SMALL LETTER UPSILON WITH ", "PSILI|DASIA|PSILI AND VARIA"),
  (0x1F53, "GREEK SMALL LETTER UPSILON WITH ", "DASIA AND VARIA|PSILI AND OXIA|DASIA AND OXIA"),
  (0x1F56, "GREEK SMALL LETTER UPSILON WITH ", "PSILI AND PERISPOMENI|DASIA AND PERISPOMENI"),
  (0x1F59, "", "GREEK CAPITAL LETTER UPSILON WITH DASIA"),
  (0x1F5B, "", "GREEK CAPITAL LETTER UPSILON WITH DASIA AND VARIA"),
  (0x1F5D, "", "GREEK CAPITAL LETTER UPSILON WITH DASIA AND OXIA"),
  (0x1F5F, "", "GREEK CAPITAL LETTER UPSILON WITH DASIA AND PERISPOMENI"),
  (0x1F60, "GREEK SMALL LETTER OMEGA WITH ", "PSILI|DASIA|PSILI AND VARIA"),
  (0x1F63, "GREEK SMALL LETTER OMEGA WITH ", "DASIA AND VARIA|PSILI AND OXIA|DASIA AND OXIA"),
  (0x1F66, "GREEK SMALL LETTER OMEGA WITH ", "PSILI AND PERISPOMENI|DASIA AND PERISPOMENI"),
  (0x1F68, "GREEK CAPITAL LETTER OMEGA WITH ", "PSILI|DASIA|PSILI AND VARIA"),
  (0x1F6B, "GREEK CAPITAL LETTER OMEGA WITH ", "DASIA AND VARIA|PSILI AND OXIA|DASIA AND OXIA"),
  (0x1F6E, "GREEK CAPITAL LETTER OMEGA WITH ", "PSILI AND PERISPOMENI|DASIA AND PERISPOMENI"),
  (0x1F70, "GREEK SMALL LETTER ALPHA WITH ", "VARIA|OXIA"),
  (0x1F72, "GREEK SMALL LETTER EPSILON WITH ", "VARIA|OXIA"),
  (0x1F74, "GREEK SMALL LETTER ", "ETA WITH VARIA|ETA WITH OXIA|IOTA WITH VARIA|IOTA WITH OXIA"),
  (0x1F78, "GREEK SMALL LETTER OMICRON WITH ", "VARIA|OXIA"),
  (0x1F7A, "GREEK SMALL LETTER UPSILON WITH ", "VARIA|OXIA"),
  (0x1F7C, "GREEK SMALL LETTER OMEGA WITH ", "VARIA|OXIA"),
  (0x1F80, "GREEK SMALL LETTER ALPHA WITH ", "PSILI AND YPOGEGRAMMENI|DASIA AND YPOGEGRAMMENI"),
  (0x1F82, "", "GREEK SMALL LETTER ALPHA WITH PSILI AND VARIA AND YPOGEGRAMMENI"),
  (0x1F83, "", "GREEK SMALL LETTER ALPHA WITH DASIA AND VARIA AND YPOGEGRAMMENI"),
  (0x1F84, "", "GREEK SMALL LETTER ALPHA WITH PSILI AND OXIA AND YPOGEGRAMMENI"),
  (0x1F85, "", "GREEK SMALL LETTER ALPHA WITH DASIA AND OXIA AND YPOGEGRAMMENI"),
  (0x1F86, "", "GREEK SMALL LETTER ALPHA WITH PSILI AND PERISPOMENI AND YPOGEGRAMMENI"),
  (0x1F87, "", "GREEK SMALL LETTER ALPHA WITH DASIA AND PERISPOMENI AND YPOGEGRAMMENI"),
  (0x1F88, "GREEK CAPITAL LETTER ALPHA WITH ", "PSILI AND PROSGEGRAMMENI|DASIA AND PROSGEGRAMMENI"),
  (0x1F8A, "", "GREEK CAPITAL LETTER ALPHA WITH PSILI AND VARIA AND PROSGEGRAMMENI"),
  (0x1F8B, "", "GREEK CAPITAL LETTER ALPHA WITH DASIA AND VARIA AND PROSGEGRAMMENI"),
  (0x1F8C, "", "GREEK CAPITAL LETTER ALPHA WITH PSILI AND OXIA AND PROSGEGRAMMENI"),
  (0x1F8D, "", "GREEK CAPITAL LETTER ALPHA WITH DASIA AND OXIA AND PROSGEGRAMMENI"),
  (0x1F8E, "", "GREEK CAPITAL LETTER ALPHA WITH PSILI AND PERISPOMENI AND PROSGEGRAMMENI"),
  (0x1F8F, "", "GREEK CAPITAL LETTER ALPHA WITH DASIA AND PERISPOMENI AND PROSGEGRAMMENI"),
  (0x1F90, "GREEK SMALL LETTER ETA WITH ", "PSILI AND YPOGEGRAMMENI|DASIA AND YPOGEGRAMMENI"),
  (0x1F92, "", "GREEK SMALL LETTER ETA WITH PSILI AND VARIA AND YPOGEGRAMMENI"),
  (0x1F93, "", "GREEK SMALL LETTER ETA WITH DASIA AND VARIA AND YPOGEGRAMMENI"),
  (0x1F94, "", "GREEK SMALL LETTER ETA WITH PSILI AND OXIA AND YPOGEGRAMMENI"),
  (0x1F95, "", "GREEK SMALL LETTER ETA WITH DASIA AND OXIA AND YPOGEGRAMMENI"),
  (0x1F96, "", "GREEK SMALL LETTER ETA WITH PSILI AND PERISPOMENI AND YPOGEGRAMMENI"),
  (0x1F97, "", "GREEK SMALL LETTER ETA WITH DASIA AND PERISPOMENI AND YPOGEGRAMMENI"),
  (0x1F98, "GREEK CAPITAL LETTER ETA WITH ", "PSILI AND PROSGEGRAMMENI|DASIA AND PROSGEGRAMMENI"),
  (0x1F9A, "", "GREEK CAPITAL LETTER ETA WITH PSILI AND VARIA AND PROSGEGRAMMENI"),
  (0x1F9B, "", "GREEK CAPITAL LETTER ETA WITH DASIA AND VARIA AND PROSGEGRAMMENI"),
  (0x1F9C, "", "GREEK CAPITAL LETTER ETA WITH PSILI AND OXIA AND PROSGEGRAMMENI"),
  (0x1F9D, "", "GREEK CAPITAL LETTER ETA WITH DASIA AND OXIA AND PROSGEGRAMMENI"),
  (0x1F9E, "", "GREEK CAPITAL LETTER ETA WITH PSILI AND PERISPOMENI AND PROSGEGRAMMENI"),
  (0x1F9F, "", "GREEK CAPITAL LETTER ETA WITH DASIA AND PERISPOMENI AND PROSGEGRAMMENI"),
  (0x1FA0, "GREEK SMALL LETTER OMEGA WITH ", "PSILI AND YPOGEGRAMMENI|DASIA AND YPOGEGRAMMENI"),
  (0x1FA2, "", "GREEK SMALL LETTER OMEGA WITH PSILI AND VARIA AND YPOGEGRAMMENI"),
  (0x1FA3, "", "GREEK SMALL LETTER OMEGA WITH DASIA AND VARIA AND YPOGEGRAMMENI"),
  (0x1FA4, "", "GREEK SMALL LETTER OMEGA WITH PSILI AND OXIA AND YPOGEGRAMMENI"),
  (0x1FA5, "", "GREEK SMALL LETTER OMEGA WITH DASIA AND OXIA AND YPOGEGRAMMENI"),
  (0x1FA6, "", "GREEK SMALL LETTER OMEGA WITH PSILI AND PERISPOMENI AND YPOGEGRAMMENI"),
  (0x1FA7, "", "GREEK SMALL LETTER OMEGA WITH DASIA AND PERISPOMENI AND YPOGEGRAMMENI"),
  (0x1FA8, "GREEK CAPITAL LETTER OMEGA WITH ", "PSILI AND PROSGEGRAMMENI|DASIA AND PROSGEGRAMMENI"),
  (0x1FAA, "", "GREEK CAPITAL LETTER OMEGA WITH PSILI AND VARIA AND PROSGEGRAMMENI"),
  (0x1FAB, "", "GREEK CAPITAL LETTER OMEGA WITH DASIA AND VARIA AND PROSGEGRAMMENI"),
  (0x1FAC, "", "GREEK CAPITAL LETTER OMEGA WITH PSILI AND OXIA AND PROSGEGRAMMENI"),
  (0x1FAD, "", "GREEK CAPITAL LETTER OMEGA WITH DASIA AND OXIA AND PROSGEGRAMMENI"),
  (0x1FAE, "", "GREEK CAPITAL LETTER OMEGA WITH PSILI AND PERISPOMENI AND PROSGEGRAMMENI"),
  (0x1FAF, "", "GREEK CAPITAL LETTER OMEGA WITH DASIA AND PERISPOMENI AND PROSGEGRAMMENI"),
  (0x1FB0, "GREEK SMALL LETTER ALPHA WITH ", "VRACHY|MACRON|VARIA AND YPOGEGRAMMENI"),
  (0x1FB3, "GREEK SMALL LETTER ALPHA WITH ", "YPOGEGRAMMENI|OXIA AND YPOGEGRAMMENI"),
  (0x1FB6, "GREEK SMALL LETTER ALPHA WITH ", "PERISPOMENI|PERISPOMENI AND YPOGEGRAMMENI"),
  (0x1FB8, "GREEK CAPITAL LETTER ALPHA WITH ", "VRACHY|MACRON|VARIA|OXIA|PROSGEGRAMMENI"),
  (0x1FBD, "GREEK ", "KORONIS|PROSGEGRAMMENI|PSILI|PERISPOMENI"),
  (0x1FC1, "GREEK ", "DIALYTIKA AND PERISPOMENI|SMALL LETTER ETA WITH VARIA AND YPOGEGRAMMENI"),
  (0x1FC3, "GREEK SMALL LETTER ETA WITH ", "YPOGEGRAMMENI|OXIA AND YPOGEGRAMMENI"),
  (0x1FC6, "GREEK SMALL LETTER ETA WITH ", "PERISPOMENI|PERISPOMENI AND YPOGEGRAMMENI"),
  (0x1FC8, "GREEK CAPITAL LETTER EPSILON WITH ", "VARIA|OXIA"),
  (0x1FCA, "GREEK CAPITAL LETTER ETA WITH ", "VARIA|OXIA|PROSGEGRAMMENI"),
  (0x1FCD, "GREEK PSILI AND ", "VARIA|OXIA|PERISPOMENI"),
  (0x1FD0, "GREEK SMALL LETTER IOTA WITH ", "VRACHY|MACRON|DIALYTIKA AND VARIA|DIALYTIKA AND OXIA"),
  (0x1FD6, "GREEK SMALL LETTER IOTA WITH ", "PERISPOMENI|DIALYTIKA AND PERISPOMENI"),
  (0x1FD8, "GREEK CAPITAL LETTER IOTA WITH ", "VRACHY|MACRON|VARIA|OXIA"),
  (0x1FDD, "GREEK DASIA AND ", "VARIA|OXIA|PERISPOMENI"),
  (0x1FE0, "GREEK SMALL LETTER UPSILON WITH ", "VRACHY|MACRON|DIALYTIKA AND VARIA"),
  (0x1FE3, "GREEK SMALL LETTER ", "UPSILON WITH DIALYTIKA AND OXIA|RHO WITH PSILI|RHO WITH DASIA"),
  (0x1FE6, "GREEK SMALL LETTER UPSILON WITH ", "PERISPOMENI|DIALYTIKA AND PERISPOMENI"),
  (0x1FE8, "GREEK CAPITAL LETTER UPSILON WITH ", "VRACHY|MACRON|VARIA|OXIA"),
  (0x1FEC, "GREEK ", "CAPITAL LETTER RHO WITH DASIA|DIALYTIKA AND VARIA|DIALYTIKA AND OXIA|VARIA"),
  (0x1FF2, "", "GREEK SMALL LETTER OMEGA WITH VARIA AND YPOGEGRAMMENI"),
  (0x1FF3, "GREEK SMALL LETTER OMEGA WITH ", "YPOGEGRAMMENI|OXIA AND YPOGEGRAMMENI"),
  (0x1FF6, "GREEK SMALL LETTER OMEGA WITH ", "PERISPOMENI|PERISPOMENI AND YPOGEGRAMMENI"),
  (0x1FF8, "GREEK CAPITAL LETTER OMICRON WITH ", "VARIA|OXIA"),
  (0x1FFA, "GREEK CAPITAL LETTER OMEGA WITH ", "VARIA|OXIA|PROSGEGRAMMENI"),
  (0x1FFD, "GREEK ", "OXIA|DASIA")]

end ClientPlan.Text
