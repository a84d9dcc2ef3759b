/-!
# Names of symbols

The official names of characters, as runs of consecutive code points: the first code point, what all
names of the run start with, and what they go on with, separated by bars.
-/

set_option autoImplicit false

namespace ClientPlan.Text

/-- The names of punctuation marks, signs, arrows and shapes. -/
def symbolNames : List (Nat × String × String) := [
  (0x2000, "", "EN QUAD|EM QUAD|EN SPACE|EM SPACE|THREE-PER-EM SPACE|FOUR-PER-EM SPACE"),
  (0x2006, "", "SIX-PER-EM SPACE|FIGURE SPACE|PUNCTUATION SPACE|THIN SPACE|HAIR SPACE"),
  (0x200B, "ZERO WIDTH ", "SPACE|NON-JOINER|JOINER"),
  (0x200E, "", "LEFT-TO-RIGHT MARK|RIGHT-TO-LEFT MARK|HYPHEN|NON-BREAKING HYPHEN"),
  (0x2012, "", "FIGURE DASH|EN DASH|EM DASH|HORIZONTAL BAR|DOUBLE VERTICAL LINE"),
  (0x2017, "", "DOUBLE LOW LINE|LEFT SINGLE QUOTATION MARK|RIGHT SINGLE QUOTATION MARK"),
  (0x201A, "SINGLE ", "LOW-9 QUOTATION MARK|HIGH-REVERSED-9 QUOTATION MARK"),
  (0x201C, "", "LEFT DOUBLE QUOTATION MARK|RIGHT DOUBLE QUOTATION MARK"),
  (0x201E, "DOUBLE ", "LOW-9 QUOTATION MARK|HIGH-REVERSED-9 QUOTATION MARK"),
  (0x2020, "", "DAGGER|DOUBLE DAGGER|BULLET|TRIANGULAR BULLET|ONE DOT LEADER|TWO DOT LEADER"),
  (0x2026, "", "HORIZONTAL ELLIPSIS|HYPHENATION POINT|LINE SEPARATOR|PARAGRAPH SEPARATOR"),
  (0x202A, "", "LEFT-TO-RIGHT EMBEDDING|RIGHT-TO-LEFT EMBEDDING|POP DIRECTIONAL FORMATTING"),
  (0x202D, "", "LEFT-TO-RIGHT OVERRIDE|RIGHT-TO-LEFT OVERRIDE|NARROW NO-BREAK SPACE"),
  (0x2030, "", "PER MILLE SIGN|PER TEN THOUSAND SIGN|PRIME|DOUBLE PRIME|TRIPLE PRIME"),
  (0x2035, "REVERSED ", "PRIME|DOUBLE PRIME|TRIPLE PRIME"),
  (0x2038, "", "CARET|SINGLE LEFT-POINTING ANGLE QUOTATION MARK"),
  (0x203A, "", "SINGLE RIGHT-POINTING ANGLE QUOTATION MARK|REFERENCE MARK|DOUBLE EXCLAMATION MARK"),
  (0x203D, "", "INTERROBANG|OVERLINE|UNDERTIE|CHARACTER TIE|CARET INSERTION POINT"),
  (0x2042, "", "ASTERISM|HYPHEN BULLET|FRACTION SLASH|LEFT SQUARE BRACKET WITH QUILL"),
  (0x2046, "", "RIGHT SQUARE BRACKET WITH QUILL|DOUBLE QUESTION MARK|QUESTION EXCLAMATION MARK"),
  (0x2049, "", "EXCLAMATION QUESTION MARK|TIRONIAN SIGN ET|REVERSED PILCROW SIGN"),
  (0x204C, "BLACK ", "LEFTWARDS BULLET|RIGHTWARDS BULLET"),
  (0x204E, "", "LOW ASTERISK|REVERSED SEMICOLON|CLOSE UP|TWO ASTERISKS ALIGNED VERTICALLY"),
  (0x2052, "", "COMMERCIAL MINUS SIGN|SWUNG DASH|INVERTED UNDERTIE|FLOWER PUNCTUATION MARK"),
  (0x2056, "", "THREE DOT PUNCTUATION|QUADRUPLE PRIME|FOUR DOT PUNCTUATION"),
  (0x2059, "", "FIVE DOT PUNCTUATION|TWO DOT PUNCTUATION|FOUR DOT MARK|DOTTED CROSS|TRICOLON"),
  (0x205E, "", "VERTICAL FOUR DOTS|MEDIUM MATHEMATICAL SPACE|WORD JOINER|FUNCTION APPLICATION"),
  (0x2062, "INVISIBLE ", "TIMES|SEPARATOR|PLUS"),
  (0x2066, "", "LEFT-TO-RIGHT ISOLATE|RIGHT-TO-LEFT ISOLATE|FIRST STRONG ISOLATE"),
  (0x2069, "", "POP DIRECTIONAL ISOLATE|INHIBIT SYMMETRIC SWAPPING|ACTIVATE SYMMETRIC SWAPPING"),
  (0x206C, "", "INHIBIT ARABIC FORM SHAPING|ACTIVATE ARABIC FORM SHAPING|NATIONAL DIGIT SHAPES"),
  (0x206F, "", "NOMINAL DIGIT SHAPES|SUPERSCRIPT ZERO|SUPERSCRIPT LATIN SMALL LETTER I"),
  (0x2074, "SUPERSCRIPT ", "FOUR|FIVE|SIX|SEVEN|EIGHT|NINE|PLUS SIGN|MINUS"),
  (0x207C, "SUPERSCRIPT ", "EQUALS SIGN|LEFT PARENTHESIS|RIGHT PARENTHESIS|LATIN SMALL LETTER N"),
  (0x2080, "SUBSCRIPT ", "ZERO|ONE|TWO|THREE|FOUR|FIVE|SIX|SEVEN|EIGHT"),
  (0x2089, "SUBSCRIPT ", "NINE|PLUS SIGN|MINUS|EQUALS SIGN|LEFT PARENTHESIS|RIGHT PARENTHESIS"),
  (0x2090, "LATIN SUBSCRIPT SMALL LETTER ", "A|E|O|X|SCHWA|H|K|L|M|N|P|S|T"),
  (0x20A0, "", "EURO-CURRENCY SIGN|COLON SIGN|CRUZEIRO SIGN"),
  (0x20A3, "", "FRENCH FRANC SIGN|LIRA SIGN|MILL SIGN|NAIRA SIGN|PESETA SIGN|RUPEE SIGN"),
  (0x20A9, "", "WON SIGN|NEW SHEQEL SIGN|DONG SIGN|EURO SIGN|KIP SIGN|TUGRIK SIGN|DRACHMA SIGN"),
  (0x20B0, "", "GERMAN PENNY SIGN|PESO SIGN|GUARANI SIGN|AUSTRAL SIGN|HRYVNIA SIGN|CEDI SIGN"),
  (0x20B6, "", "LIVRE TOURNOIS SIGN|SPESMILO SIGN|TENGE SIGN|INDIAN RUPEE SIGN|TURKISH LIRA SIGN"),
  (0x20BB, "", "NORDIC MARK SIGN|MANAT SIGN|RUBLE SIGN|LARI SIGN|BITCOIN SIGN|SOM SIGN"),
  (0x20D0, "COMBINING ", "LEFT HARPOON ABOVE|RIGHT HARPOON ABOVE"),
  (0x20D2, "COMBINING ", "LONG VERTICAL LINE OVERLAY|SHORT VERTICAL LINE OVERLAY"),
  (0x20D4, "COMBINING ", "ANTICLOCKWISE ARROW ABOVE|CLOCKWISE ARROW ABOVE"),
  (0x20D6, "COMBINING ", "LEFT ARROW ABOVE|RIGHT ARROW ABOVE|RING OVERLAY|CLOCKWISE RING OVERLAY"),
  (0x20DA, "COMBINING ", "ANTICLOCKWISE RING OVERLAY|THREE DOTS ABOVE|FOUR DOTS ABOVE"),
  (0x20DD, "COMBINING ENCLOSING ", "CIRCLE|SQUARE|DIAMOND|CIRCLE BACKSLASH"),
  (0x20E1, "", "COMBINING LEFT RIGHT ARROW ABOVE"),
  (0x20E2, "COMBINING ENCLOSING ", "SCREEN|KEYCAP|UPWARD POINTING TRIANGLE"),
  (0x20E5, "COMBINING ", "REVERSE SOLIDUS OVERLAY|DOUBLE VERTICAL STROKE OVERLAY|ANNUITY SYMBOL"),
  (0x20E8, "COMBINING ", "TRIPLE UNDERDOT|WIDE BRIDGE ABOVE|LEFTWARDS ARROW OVERLAY"),
  (0x20EB, "COMBINING ", "LONG DOUBLE SOLIDUS OVERLAY|RIGHTWARDS HARPOON WITH BARB DOWNWARDS"),
  (0x20ED, "", "COMBINING LEFTWARDS HARPOON WITH BARB DOWNWARDS"),
  (0x20EE, "COMBINING ", "LEFT ARROW BELOW|RIGHT ARROW BELOW|ASTERISK ABOVE"),
  (0x2100, "", "ACCOUNT OF|ADDRESSED TO THE SUBJECT|DOUBLE-STRUCK CAPITAL C|DEGREE CELSIUS"),
  (0x2104, "", "CENTRE LINE SYMBOL|CARE OF|CADA UNA|EULER CONSTANT|SCRUPLE|DEGREE FAHRENHEIT"),
  (0x210A, "", "SCRIPT SMALL G|SCRIPT CAPITAL H|BLACK-LETTER CAPITAL H|DOUBLE-STRUCK CAPITAL H"),
  (0x210E, "", "PLANCK CONSTANT|PLANCK CONSTANT OVER TWO PI|SCRIPT CAPITAL I"),
  (0x2111, "", "BLACK-LETTER CAPITAL I|SCRIPT CAPITAL L|SCRIPT SMALL L|L B BAR SYMBOL"),
  (0x2115, "", "DOUBLE-STRUCK CAPITAL N|NUMERO SIGN|SOUND RECORDING COPYRIGHT|SCRIPT CAPITAL P"),
  (0x2119, "DOUBLE-STRUCK CAPITAL ", "P|Q"),
  (0x211B, "", "SCRIPT CAPITAL R|BLACK-LETTER CAPITAL R|DOUBLE-STRUCK CAPITAL R"),
  (0x211E, "", "PRESCRIPTION TAKE|RESPONSE|SERVICE MARK|TELEPHONE SIGN|TRADE MARK SIGN"),
  (0x2123, "", "VERSICLE|DOUBLE-STRUCK CAPITAL Z|OUNCE SIGN|OHM SIGN|INVERTED OHM SIGN"),
  (0x2128, "", "BLACK-LETTER CAPITAL Z|TURNED GREEK SMALL LETTER IOTA|KELVIN SIGN|ANGSTROM SIGN"),
  (0x212C, "", "SCRIPT CAPITAL B|BLACK-LETTER CAPITAL C|ESTIMATED SYMBOL|SCRIPT SMALL E"),
  (0x2130, "SCRIPT CAPITAL ", "E|F"),
  (0x2132, "", "TURNED CAPITAL F|SCRIPT CAPITAL M|SCRIPT SMALL O|ALEF SYMBOL|BET SYMBOL"),
  (0x2137, "", "GIMEL SYMBOL|DALET SYMBOL|INFORMATION SOURCE|ROTATED CAPITAL Q|FACSIMILE SIGN"),
  (0x213C, "DOUBLE-STRUCK ", "SMALL PI|SMALL GAMMA|CAPITAL GAMMA|CAPITAL PI|N-ARY SUMMATION"),
  (0x2141, "TURNED SANS-SERIF CAPITAL ", "G|L"),
  (0x2143, "", "REVERSED SANS-SERIF CAPITAL L|TURNED SANS-SERIF CAPITAL Y"),
  (0x2145, "DOUBLE-STRUCK ITALIC ", "CAPITAL D|SMALL D|SMALL E|SMALL I|SMALL J"),
  (0x214A, "", "PROPERTY LINE"),
  (0x214B, "", "TURNED AMPERSAND|PER SIGN|AKTIESELSKAB|TURNED SMALL F|SYMBOL FOR SAMARITAN SOURCE"),
  (0x2150, "VULGAR FRACTION ", "ONE SEVENTH|ONE NINTH|ONE TENTH|ONE THIRD|TWO THIRDS"),
  (0x2155, "VULGAR FRACTION ", "ONE FIFTH|TWO FIFTHS|THREE FIFTHS|FOUR FIFTHS|ONE SIXTH"),
  (0x215A, "VULGAR FRACTION ", "FIVE SIXTHS|ONE EIGHTH|THREE EIGHTHS|FIVE EIGHTHS|SEVEN EIGHTHS"),
  (0x215F, "", "FRACTION NUMERATOR ONE"),
  (0x2160, "ROMAN NUMERAL ", "ONE|TWO|THREE|FOUR|FIVE|SIX|SEVEN|EIGHT"),
  (0x2168, "ROMAN NUMERAL ", "NINE|TEN|ELEVEN|TWELVE|FIFTY|ONE HUNDRED|FIVE HUNDRED|ONE THOUSAND"),
  (0x2170, "SMALL ROMAN NUMERAL ", "ONE|TWO|THREE|FOUR|FIVE|SIX|SEVEN|EIGHT|NINE"),
  (0x2179, "SMALL ROMAN NUMERAL ", "TEN|ELEVEN|TWELVE|FIFTY|ONE HUNDRED|FIVE HUNDRED|ONE THOUSAND"),
  (0x2180, "ROMAN NUMERAL ", "ONE THOUSAND C D|FIVE THOUSAND|TEN THOUSAND|REVERSED ONE HUNDRED"),
  (0x2184, "", "LATIN SMALL LETTER REVERSED C"),
  (0x2185, "ROMAN NUMERAL ", "SIX LATE FORM|FIFTY EARLY FORM|FIFTY THOUSAND|ONE HUNDRED THOUSAND"),
  (0x2189, "", "VULGAR FRACTION ZERO THIRDS|TURNED DIGIT TWO|TURNED DIGIT THREE"),
  (0x2190, "", "LEFTWARDS ARROW|UPWARDS ARROW"),
  (0x2192, "", "RIGHTWARDS ARROW|DOWNWARDS ARROW|LEFT RIGHT ARROW|UP DOWN ARROW|NORTH WEST ARROW"),
  (0x2197, "", "NORTH EAST ARROW|SOUTH EAST ARROW|SOUTH WEST ARROW|LEFTWARDS ARROW WITH STROKE"),
  (0x219B, "", "RIGHTWARDS ARROW WITH STROKE|LEFTWARDS WAVE ARROW|RIGHTWARDS WAVE ARROW"),
  (0x219E, "", "LEFTWARDS TWO HEADED ARROW|UPWARDS TWO HEADED ARROW|RIGHTWARDS TWO HEADED ARROW"),
  (0x21A1, "", "DOWNWARDS TWO HEADED ARROW|LEFTWARDS ARROW WITH TAIL|RIGHTWARDS ARROW WITH TAIL"),
  (0x21A4, "", "LEFTWARDS ARROW FROM BAR|UPWARDS ARROW FROM BAR|RIGHTWARDS ARROW FROM BAR"),
  (0x21A7, "", "DOWNWARDS ARROW FROM BAR|UP DOWN ARROW WITH BASE|LEFTWARDS ARROW WITH HOOK"),
  (0x21AA, "", "RIGHTWARDS ARROW WITH HOOK|LEFTWARDS ARROW WITH LOOP|RIGHTWARDS ARROW WITH LOOP"),
  (0x21AD, "", "LEFT RIGHT WAVE ARROW|LEFT RIGHT ARROW WITH STROKE|DOWNWARDS ZIGZAG ARROW"),
  (0x21B0, "UPWARDS ARROW WITH TIP ", "LEFTWARDS|RIGHTWARDS"),
  (0x21B2, "DOWNWARDS ARROW WITH TIP ", "LEFTWARDS|RIGHTWARDS"),
  (0x21B4, "", "RIGHTWARDS ARROW WITH CORNER DOWNWARDS|DOWNWARDS ARROW WITH CORNER LEFTWARDS"),
  (0x21B6, "", "ANTICLOCKWISE TOP SEMICIRCLE ARROW|CLOCKWISE TOP SEMICIRCLE ARROW"),
  (0x21B8, "", "NORTH WEST ARROW TO LONG BAR|LEFTWARDS ARROW TO BAR OVER RIGHTWARDS ARROW TO BAR"),
  (0x21BA, "", "ANTICLOCKWISE OPEN CIRCLE ARROW|CLOCKWISE OPEN CIRCLE ARROW"),
  (0x21BC, "LEFTWARDS HARPOON WITH BARB ", "UPWARDS|DOWNWARDS"),
  (0x21BE, "UPWARDS HARPOON WITH BARB ", "RIGHTWARDS|LEFTWARDS"),
  (0x21C0, "RIGHTWARDS HARPOON WITH BARB ", "UPWARDS|DOWNWARDS"),
  (0x21C2, "DOWNWARDS HARPOON WITH BARB ", "RIGHTWARDS|LEFTWARDS"),
  (0x21C4, "", "RIGHTWARDS ARROW OVER LEFTWARDS ARROW|UPWARDS ARROW LEFTWARDS OF DOWNWARDS ARROW"),
  (0x21C6, "LEFTWARDS ", "ARROW OVER RIGHTWARDS ARROW|PAIRED ARROWS"),
  (0x21C8, "", "UPWARDS PAIRED ARROWS|RIGHTWARDS PAIRED ARROWS"),
  (0x21CA, "", "DOWNWARDS PAIRED ARROWS|LEFTWARDS HARPOON OVER RIGHTWARDS HARPOON"),
  (0x21CC, "", "RIGHTWARDS HARPOON OVER LEFTWARDS HARPOON|LEFTWARDS DOUBLE ARROW WITH STROKE"),
  (0x21CE, "", "LEFT RIGHT DOUBLE ARROW WITH STROKE|RIGHTWARDS DOUBLE ARROW WITH STROKE"),
  (0x21D0, "", "LEFTWARDS DOUBLE ARROW|UPWARDS DOUBLE ARROW|RIGHTWARDS DOUBLE ARROW"),
  (0x21D3, "", "DOWNWARDS DOUBLE ARROW|LEFT RIGHT DOUBLE ARROW|UP DOWN DOUBLE ARROW"),
  (0x21D6, "NORTH ", "WEST DOUBLE ARROW|EAST DOUBLE ARROW"),
  (0x21D8, "SOUTH ", "EAST DOUBLE ARROW|WEST DOUBLE ARROW"),
  (0x21DA, "", "LEFTWARDS TRIPLE ARROW|RIGHTWARDS TRIPLE ARROW|LEFTWARDS SQUIGGLE ARROW"),
  (0x21DD, "", "RIGHTWARDS SQUIGGLE ARROW|UPWARDS ARROW WITH DOUBLE STROKE"),
  (0x21DF, "", "DOWNWARDS ARROW WITH DOUBLE STROKE|LEFTWARDS DASHED ARROW"),
  (0x21E1, "", "UPWARDS DASHED ARROW|RIGHTWARDS DASHED ARROW|DOWNWARDS DASHED ARROW"),
  (0x21E4, "", "LEFTWARDS ARROW TO BAR|RIGHTWARDS ARROW TO BAR|LEFTWARDS WHITE ARROW"),
  (0x21E7, "", "UPWARDS WHITE ARROW|RIGHTWARDS WHITE ARROW|DOWNWARDS WHITE ARROW"),
  (0x21EA, "UPWARDS WHITE ARROW ", "FROM BAR|ON PEDESTAL"),
  (0x21EC, "UPWARDS WHITE ARROW ON PEDESTAL WITH ", "HORIZONTAL BAR|VERTICAL BAR"),
  (0x21EE, "UPWARDS WHITE DOUBLE ", "ARROW|ARROW ON PEDESTAL"),
  (0x21F0, "", "RIGHTWARDS WHITE ARROW FROM WALL|NORTH WEST ARROW TO CORNER"),
  (0x21F2, "", "SOUTH EAST ARROW TO CORNER|UP DOWN WHITE ARROW|RIGHT ARROW WITH SMALL CIRCLE"),
  (0x21F5, "", "DOWNWARDS ARROW LEFTWARDS OF UPWARDS ARROW|THREE RIGHTWARDS ARROWS"),
  (0x21F7, "", "LEFTWARDS ARROW WITH VERTICAL STROKE|RIGHTWARDS ARROW WITH VERTICAL STROKE"),
  (0x21F9, "", "LEFT RIGHT ARROW WITH VERTICAL STROKE|LEFTWARDS ARROW WITH DOUBLE VERTICAL STROKE"),
  (0x21FB, "", "RIGHTWARDS ARROW WITH DOUBLE VERTICAL STROKE"),
  (0x21FC, "", "LEFT RIGHT ARROW WITH DOUBLE VERTICAL STROKE|LEFTWARDS OPEN-HEADED ARROW"),
  (0x21FE, "", "RIGHTWARDS OPEN-HEADED ARROW|LEFT RIGHT OPEN-HEADED ARROW|FOR ALL"),
  (0x2201, "", "COMPLEMENT|PARTIAL DIFFERENTIAL|THERE EXISTS|THERE DOES NOT EXIST|EMPTY SET"),
  (0x2206, "", "INCREMENT|NABLA|ELEMENT OF|NOT AN ELEMENT OF|SMALL ELEMENT OF|CONTAINS AS MEMBER"),
  (0x220C, "", "DOES NOT CONTAIN AS MEMBER|SMALL CONTAINS AS MEMBER|END OF PROOF"),
  (0x220F, "N-ARY ", "PRODUCT|COPRODUCT|SUMMATION"),
  (0x2212, "", "MINUS SIGN|MINUS-OR-PLUS SIGN|DOT PLUS|DIVISION SLASH|SET MINUS|ASTERISK OPERATOR"),
  (0x2218, "", "RING OPERATOR|BULLET OPERATOR|SQUARE ROOT|CUBE ROOT|FOURTH ROOT|PROPORTIONAL TO"),
  (0x221E, "", "INFINITY|RIGHT ANGLE|ANGLE|MEASURED ANGLE|SPHERICAL ANGLE|DIVIDES|DOES NOT DIVIDE"),
  (0x2225, "", "PARALLEL TO|NOT PARALLEL TO|LOGICAL AND|LOGICAL OR|INTERSECTION|UNION|INTEGRAL"),
  (0x222C, "", "DOUBLE INTEGRAL|TRIPLE INTEGRAL|CONTOUR INTEGRAL|SURFACE INTEGRAL|VOLUME INTEGRAL"),
  (0x2231, "", "CLOCKWISE INTEGRAL|CLOCKWISE CONTOUR INTEGRAL|ANTICLOCKWISE CONTOUR INTEGRAL"),
  (0x2234, "", "THEREFORE|BECAUSE|RATIO|PROPORTION|DOT MINUS|EXCESS|GEOMETRIC PROPORTION"),
  (0x223B, "", "HOMOTHETIC|TILDE OPERATOR|REVERSED TILDE|INVERTED LAZY S|SINE WAVE|WREATH PRODUCT"),
  (0x2241, "", "NOT TILDE|MINUS TILDE|ASYMPTOTICALLY EQUAL TO|NOT ASYMPTOTICALLY EQUAL TO"),
  (0x2245, "APPROXIMATELY ", "EQUAL TO|BUT NOT ACTUALLY EQUAL TO"),
  (0x2247, "", "NEITHER APPROXIMATELY NOR ACTUALLY EQUAL TO|ALMOST EQUAL TO"),
  (0x2249, "", "NOT ALMOST EQUAL TO|ALMOST EQUAL OR EQUAL TO|TRIPLE TILDE|ALL EQUAL TO"),
  (0x224D, "", "EQUIVALENT TO|GEOMETRICALLY EQUIVALENT TO|DIFFERENCE BETWEEN|APPROACHES THE LIMIT"),
  (0x2251, "", "GEOMETRICALLY EQUAL TO|APPROXIMATELY EQUAL TO OR THE IMAGE OF"),
  (0x2253, "", "IMAGE OF OR APPROXIMATELY EQUAL TO|COLON EQUALS|EQUALS COLON|RING IN EQUAL TO"),
  (0x2257, "", "RING EQUAL TO|CORRESPONDS TO|ESTIMATES|EQUIANGULAR TO|STAR EQUALS|DELTA EQUAL TO"),
  (0x225D, "", "EQUAL TO BY DEFINITION|MEASURED BY|QUESTIONED EQUAL TO|NOT EQUAL TO"),
  (0x2261, "", "IDENTICAL TO|NOT IDENTICAL TO|STRICTLY EQUIVALENT TO|LESS-THAN OR EQUAL TO"),
  (0x2265, "", "GREATER-THAN OR EQUAL TO|LESS-THAN OVER EQUAL TO|GREATER-THAN OVER EQUAL TO"),
  (0x2268, "", "LESS-THAN BUT NOT EQUAL TO|GREATER-THAN BUT NOT EQUAL TO|MUCH LESS-THAN"),
  (0x226B, "", "MUCH GREATER-THAN|BETWEEN|NOT EQUIVALENT TO|NOT LESS-THAN|NOT GREATER-THAN"),
  (0x2270, "NEITHER ", "LESS-THAN NOR EQUAL TO|GREATER-THAN NOR EQUAL TO"),
  (0x2272, "", "LESS-THAN OR EQUIVALENT TO|GREATER-THAN OR EQUIVALENT TO"),
  (0x2274, "NEITHER ", "LESS-THAN NOR EQUIVALENT TO|GREATER-THAN NOR EQUIVALENT TO"),
  (0x2276, "", "LESS-THAN OR GREATER-THAN|GREATER-THAN OR LESS-THAN"),
  (0x2278, "", "NEITHER LESS-THAN NOR GREATER-THAN|NEITHER GREATER-THAN NOR LESS-THAN|PRECEDES"),
  (0x227B, "", "SUCCEEDS|PRECEDES OR EQUAL TO|SUCCEEDS OR EQUAL TO|PRECEDES OR EQUIVALENT TO"),
  (0x227F, "", "SUCCEEDS OR EQUIVALENT TO|DOES NOT PRECEDE|DOES NOT SUCCEED|SUBSET OF|SUPERSET OF"),
  (0x2284, "", "NOT A SUBSET OF|NOT A SUPERSET OF|SUBSET OF OR EQUAL TO|SUPERSET OF OR EQUAL TO"),
  (0x2288, "NEITHER A ", "SUBSET OF NOR EQUAL TO|SUPERSET OF NOR EQUAL TO"),
  (0x228A, "", "SUBSET OF WITH NOT EQUAL TO|SUPERSET OF WITH NOT EQUAL TO|MULTISET"),
  (0x228D, "MULTISET ", "MULTIPLICATION|UNION"),
  (0x228F, "SQUARE ", "IMAGE OF|ORIGINAL OF|IMAGE OF OR EQUAL TO|ORIGINAL OF OR EQUAL TO|CAP|CUP"),
  (0x2295, "CIRCLED ", "PLUS|MINUS|TIMES"),
  (0x2298, "CIRCLED ", "DIVISION SLASH|DOT OPERATOR|RING OPERATOR|ASTERISK OPERATOR|EQUALS|DASH"),
  (0x229E, "SQUARED ", "PLUS|MINUS|TIMES|DOT OPERATOR"),
  (0x22A2, "", "RIGHT TACK|LEFT TACK|DOWN TACK"),
  (0x22A5, "", "UP TACK|ASSERTION|MODELS|TRUE|FORCES|TRIPLE VERTICAL BAR RIGHT TURNSTILE"),
  (0x22AB, "", "DOUBLE VERTICAL BAR DOUBLE RIGHT TURNSTILE|DOES NOT PROVE|NOT TRUE|DOES NOT FORCE"),
  (0x22AF, "", "NEGATED DOUBLE VERTICAL BAR DOUBLE RIGHT TURNSTILE|PRECEDES UNDER RELATION"),
  (0x22B1, "", "SUCCEEDS UNDER RELATION|NORMAL SUBGROUP OF|CONTAINS AS NORMAL SUBGROUP"),
  (0x22B4, "", "NORMAL SUBGROUP OF OR EQUAL TO|CONTAINS AS NORMAL SUBGROUP OR EQUAL TO"),
  (0x22B6, "", "ORIGINAL OF|IMAGE OF|MULTIMAP|HERMITIAN CONJUGATE MATRIX|INTERCALATE|XOR|NAND|NOR"),
  (0x22BE, "RIGHT ", "ANGLE WITH ARC|TRIANGLE"),
  (0x22C0, "N-ARY ", "LOGICAL AND|LOGICAL OR|INTERSECTION|UNION"),
  (0x22C4, "", "DIAMOND OPERATOR|DOT OPERATOR|STAR OPERATOR|DIVISION TIMES|BOWTIE"),
  (0x22C9, "", "LEFT NORMAL FACTOR SEMIDIRECT PRODUCT|RIGHT NORMAL FACTOR SEMIDIRECT PRODUCT"),
  (0x22CB, "", "LEFT SEMIDIRECT PRODUCT|RIGHT SEMIDIRECT PRODUCT|REVERSED TILDE EQUALS"),
  (0x22CE, "CURLY LOGICAL ", "OR|AND"),
  (0x22D0, "DOUBLE ", "SUBSET|SUPERSET|INTERSECTION|UNION"),
  (0x22D4, "", "PITCHFORK|EQUAL AND PARALLEL TO|LESS-THAN WITH DOT|GREATER-THAN WITH DOT"),
  (0x22D8, "VERY MUCH ", "LESS-THAN|GREATER-THAN"),
  (0x22DA, "", "LESS-THAN EQUAL TO OR GREATER-THAN|GREATER-THAN EQUAL TO OR LESS-THAN"),
  (0x22DC, "EQUAL TO OR ", "LESS-THAN|GREATER-THAN|PRECEDES|SUCCEEDS"),
  (0x22E0, "DOES NOT ", "PRECEDE OR EQUAL|SUCCEED OR EQUAL"),
  (0x22E2, "NOT SQUARE ", "IMAGE OF OR EQUAL TO|ORIGINAL OF OR EQUAL TO"),
  (0x22E4, "SQUARE ", "IMAGE OF OR NOT EQUAL TO|ORIGINAL OF OR NOT EQUAL TO"),
  (0x22E6, "", "LESS-THAN BUT NOT EQUIVALENT TO|GREATER-THAN BUT NOT EQUIVALENT TO"),
  (0x22E8, "", "PRECEDES BUT NOT EQUIVALENT TO|SUCCEEDS BUT NOT EQUIVALENT TO"),
  (0x22EA, "", "NOT NORMAL SUBGROUP OF|DOES NOT CONTAIN AS NORMAL SUBGROUP"),
  (0x22EC, "", "NOT NORMAL SUBGROUP OF OR EQUAL TO|DOES NOT CONTAIN AS NORMAL SUBGROUP OR EQUAL"),
  (0x22EE, "", "VERTICAL ELLIPSIS|MIDLINE HORIZONTAL ELLIPSIS"),
  (0x22F0, "", "UP RIGHT DIAGONAL ELLIPSIS|DOWN RIGHT DIAGONAL ELLIPSIS"),
  (0x22F2, "ELEMENT OF WITH ", "LONG HORIZONTAL STROKE|VERTICAL BAR AT END OF HORIZONTAL STROKE"),
  (0x22F4, "", "SMALL ELEMENT OF WITH VERTICAL BAR AT END OF HORIZONTAL STROKE"),
  (0x22F5, "ELEMENT OF WITH ", "DOT ABOVE|OVERBAR"),
  (0x22F7, "", "SMALL ELEMENT OF WITH OVERBAR"),
  (0x22F8, "ELEMENT OF WITH ", "UNDERBAR|TWO HORIZONTAL STROKES"),
  (0x22FA, "CONTAINS WITH ", "LONG HORIZONTAL STROKE|VERTICAL BAR AT END OF HORIZONTAL STROKE"),
  (0x22FC, "", "SMALL CONTAINS WITH VERTICAL BAR AT END OF HORIZONTAL STROKE"),
  (0x22FD, "", "CONTAINS WITH OVERBAR|SMALL CONTAINS WITH OVERBAR|Z NOTATION BAG MEMBERSHIP"),
  (0x2300, "", "DIAMETER SIGN|ELECTRIC ARROW|HOUSE|UP ARROWHEAD|DOWN ARROWHEAD|PROJECTIVE"),
  (0x2306, "", "PERSPECTIVE|WAVY LINE|LEFT CEILING|RIGHT CEILING|LEFT FLOOR|RIGHT FLOOR"),
  (0x230C, "BOTTOM ", "RIGHT CROP|LEFT CROP"),
  (0x230E, "", "TOP RIGHT CROP|TOP LEFT CROP|REVERSED NOT SIGN|SQUARE LOZENGE"),
  (0x2312, "", "ARC|SEGMENT|SECTOR|TELEPHONE RECORDER|POSITION INDICATOR|VIEWDATA SQUARE"),
  (0x2318, "", "PLACE OF INTEREST SIGN|TURNED NOT SIGN|WATCH|HOURGLASS|TOP LEFT CORNER"),
  (0x231D, "", "TOP RIGHT CORNER|BOTTOM LEFT CORNER|BOTTOM RIGHT CORNER|TOP HALF INTEGRAL"),
  (0x2321, "", "BOTTOM HALF INTEGRAL|FROWN|SMILE|UP ARROWHEAD BETWEEN TWO HORIZONTAL BARS"),
  (0x2325, "", "OPTION KEY|ERASE TO THE RIGHT|X IN A RECTANGLE BOX"),
  (0x2328, "", "KEYBOARD|LEFT-POINTING ANGLE BRACKET|RIGHT-POINTING ANGLE BRACKET"),
  (0x232B, "", "ERASE TO THE LEFT|BENZENE RING|CYLINDRICITY|ALL AROUND-PROFILE|SYMMETRY"),
  (0x2330, "", "TOTAL RUNOUT|DIMENSION ORIGIN|CONICAL TAPER|SLOPE|COUNTERBORE|COUNTERSINK"),
  (0x2336, "APL FUNCTIONAL SYMBOL ", "I-BEAM|SQUISH QUAD|QUAD EQUAL|QUAD DIVIDE|QUAD DIAMOND"),
  (0x233B, "APL FUNCTIONAL SYMBOL ", "QUAD JOT|QUAD CIRCLE|CIRCLE STILE|CIRCLE JOT|SLASH BAR"),
  (0x2340, "APL FUNCTIONAL SYMBOL ", "BACKSLASH BAR|QUAD SLASH|QUAD BACKSLASH|QUAD LESS-THAN"),
  (0x2344, "APL FUNCTIONAL SYMBOL ", "QUAD GREATER-THAN|LEFTWARDS VANE|RIGHTWARDS VANE"),
  (0x2347, "APL FUNCTIONAL SYMBOL QUAD ", "LEFTWARDS ARROW|RIGHTWARDS ARROW"),
  (0x2349, "APL FUNCTIONAL SYMBOL ", "CIRCLE BACKSLASH|DOWN TACK UNDERBAR|DELTA STILE"),
  (0x234C, "APL FUNCTIONAL SYMBOL ", "QUAD DOWN CARET|QUAD DELTA|DOWN TACK JOT|UPWARDS VANE"),
  (0x2350, "APL FUNCTIONAL SYMBOL ", "QUAD UPWARDS ARROW|UP TACK OVERBAR|DEL STILE|QUAD UP CARET"),
  (0x2354, "APL FUNCTIONAL SYMBOL ", "QUAD DEL|UP TACK JOT|DOWNWARDS VANE|QUAD DOWNWARDS ARROW"),
  (0x2358, "APL FUNCTIONAL SYMBOL ", "QUOTE UNDERBAR|DELTA UNDERBAR|DIAMOND UNDERBAR|JOT UNDERBAR"),
  (0x235C, "APL FUNCTIONAL SYMBOL ", "CIRCLE UNDERBAR|UP SHOE JOT|QUOTE QUAD|CIRCLE STAR"),
  (0x2360, "APL FUNCTIONAL SYMBOL ", "QUAD COLON|UP TACK DIAERESIS|DEL DIAERESIS|STAR DIAERESIS"),
  (0x2364, "APL FUNCTIONAL SYMBOL ", "JOT DIAERESIS|CIRCLE DIAERESIS|DOWN SHOE STILE"),
  (0x2367, "APL FUNCTIONAL SYMBOL ", "LEFT SHOE STILE|TILDE DIAERESIS|GREATER-THAN DIAERESIS"),
  (0x236A, "APL FUNCTIONAL SYMBOL ", "COMMA BAR|DEL TILDE|ZILDE|STILE TILDE|SEMICOLON UNDERBAR"),
  (0x236F, "APL FUNCTIONAL SYMBOL ", "QUAD NOT EQUAL|QUAD QUESTION|DOWN CARET TILDE"),
  (0x2372, "APL FUNCTIONAL SYMBOL ", "UP CARET TILDE|IOTA|RHO|OMEGA|ALPHA UNDERBAR"),
  (0x2377, "APL FUNCTIONAL SYMBOL ", "EPSILON UNDERBAR|IOTA UNDERBAR|OMEGA UNDERBAR|ALPHA"),
  (0x237B, "", "NOT CHECK MARK|RIGHT ANGLE WITH DOWNWARDS ZIGZAG ARROW"),
  (0x237D, "", "SHOULDERED OPEN BOX|BELL SYMBOL|VERTICAL LINE WITH MIDDLE DOT"),
  (0x2380, "", "INSERTION SYMBOL|CONTINUOUS UNDERLINE SYMBOL|DISCONTINUOUS UNDERLINE SYMBOL"),
  (0x2383, "", "EMPHASIS SYMBOL|COMPOSITION SYMBOL|WHITE SQUARE WITH CENTRE VERTICAL LINE"),
  (0x2386, "", "ENTER SYMBOL|ALTERNATIVE KEY SYMBOL|HELM SYMBOL|CIRCLED HORIZONTAL BAR WITH NOTCH"),
  (0x238A, "", "CIRCLED TRIANGLE DOWN|BROKEN CIRCLE WITH NORTHWEST ARROW"),
  (0x238C, "", "UNDO SYMBOL|MONOSTABLE SYMBOL|HYSTERESIS SYMBOL"),
  (0x238F, "OPEN-CIRCUIT-OUTPUT ", "H-TYPE SYMBOL|L-TYPE SYMBOL"),
  (0x2391, "", "PASSIVE-PULL-DOWN-OUTPUT SYMBOL"),
  (0x2392, "", "PASSIVE-PULL-UP-OUTPUT SYMBOL|DIRECT CURRENT SYMBOL FORM TWO"),
  (0x2394, "", "SOFTWARE-FUNCTION SYMBOL|APL FUNCTIONAL SYMBOL QUAD|DECIMAL SEPARATOR KEY SYMBOL"),
  (0x2397, "", "PREVIOUS PAGE|NEXT PAGE|PRINT SCREEN SYMBOL|CLEAR SCREEN SYMBOL"),
  (0x239B, "LEFT PARENTHESIS ", "UPPER HOOK|EXTENSION|LOWER HOOK"),
  (0x239E, "RIGHT PARENTHESIS ", "UPPER HOOK|EXTENSION|LOWER HOOK"),
  (0x23A1, "LEFT SQUARE BRACKET ", "UPPER CORNER|EXTENSION|LOWER CORNER"),
  (0x23A4, "RIGHT SQUARE BRACKET ", "UPPER CORNER|EXTENSION|LOWER CORNER"),
  (0x23A7, "LEFT CURLY BRACKET ", "UPPER HOOK|MIDDLE PIECE|LOWER HOOK"),
  (0x23AA, "", "CURLY BRACKET EXTENSION"),
  (0x23AB, "RIGHT CURLY BRACKET ", "UPPER HOOK|MIDDLE PIECE|LOWER HOOK"),
  (0x23AE, "", "INTEGRAL EXTENSION"),
  (0x23AF, "", "HORIZONTAL LINE EXTENSION|UPPER LEFT OR LOWER RIGHT CURLY BRACKET SECTION"),
  (0x23B1, "", "UPPER RIGHT OR LOWER LEFT CURLY BRACKET SECTION"),
  (0x23B2, "", "SUMMATION TOP|SUMMATION BOTTOM|TOP SQUARE BRACKET"),
  (0x23B5, "BOTTOM SQUARE ", "BRACKET|BRACKET OVER TOP SQUARE BRACKET"),
  (0x23B7, "", "RADICAL SYMBOL BOTTOM|LEFT VERTICAL BOX LINE|RIGHT VERTICAL BOX LINE"),
  (0x23BA, "HORIZONTAL SCAN ", "LINE-1|LINE-3|LINE-7|LINE-9"),
  (0x23BE, "DENTISTRY SYMBOL LIGHT VERTICAL ", "AND TOP RIGHT|AND BOTTOM RIGHT|WITH CIRCLE"),
  (0x23C1, "", "DENTISTRY SYMBOL LIGHT DOWN AND HORIZONTAL WITH CIRCLE"),
  (0x23C2, "", "DENTISTRY SYMBOL LIGHT UP AND HORIZONTAL WITH CIRCLE"),
  (0x23C3, "DENTISTRY SYMBOL LIGHT ", "VERTICAL WITH TRIANGLE|DOWN AND HORIZONTAL WITH TRIANGLE"),
  (0x23C5, "DENTISTRY SYMBOL LIGHT ", "UP AND HORIZONTAL WITH TRIANGLE|VERTICAL AND WAVE"),
  (0x23C7, "DENTISTRY SYMBOL LIGHT ", "DOWN AND HORIZONTAL WITH WAVE|UP AND HORIZONTAL WITH WAVE"),
  (0x23C9, "DENTISTRY SYMBOL LIGHT ", "DOWN AND HORIZONTAL|UP AND HORIZONTAL"),
  (0x23CB, "DENTISTRY SYMBOL LIGHT VERTICAL AND ", "TOP LEFT|BOTTOM LEFT"),
  (0x23CD, "", "SQUARE FOOT|RETURN SYMBOL|EJECT SYMBOL|VERTICAL LINE EXTENSION"),
  (0x23D1, "METRICAL ", "BREVE|LONG OVER SHORT|SHORT OVER LONG|LONG OVER TWO SHORTS"),
  (0x23D5, "METRICAL ", "TWO SHORTS OVER LONG|TWO SHORTS JOINED|TRISEME|TETRASEME|PENTASEME"),
  (0x23DA, "", "EARTH GROUND|FUSE|TOP PARENTHESIS|BOTTOM PARENTHESIS"),
  (0x23DE, "", "TOP CURLY BRACKET|BOTTOM CURLY BRACKET|TOP TORTOISE SHELL BRACKET"),
  (0x23E1, "", "BOTTOM TORTOISE SHELL BRACKET|WHITE TRAPEZIUM|BENZENE RING WITH CIRCLE"),
  (0x23E4, "", "STRAIGHTNESS|FLATNESS|AC CURRENT|ELECTRICAL INTERSECTION|DECIMAL EXPONENT SYMBOL"),
  (0x23E9, "BLACK ", "RIGHT-POINTING DOUBLE TRIANGLE|LEFT-POINTING DOUBLE TRIANGLE"),
  (0x23EB, "BLACK ", "UP-POINTING DOUBLE TRIANGLE|DOWN-POINTING DOUBLE TRIANGLE"),
  (0x23ED, "", "BLACK RIGHT-POINTING DOUBLE TRIANGLE WITH VERTICAL BAR"),
  (0x23EE, "", "BLACK LEFT-POINTING DOUBLE TRIANGLE WITH VERTICAL BAR"),
  (0x23EF, "", "BLACK RIGHT-POINTING TRIANGLE WITH DOUBLE VERTICAL BAR|ALARM CLOCK|STOPWATCH"),
  (0x23F2, "", "TIMER CLOCK|HOURGLASS WITH FLOWING SAND|BLACK MEDIUM LEFT-POINTING TRIANGLE"),
  (0x23F5, "BLACK MEDIUM ", "RIGHT-POINTING TRIANGLE|UP-POINTING TRIANGLE|DOWN-POINTING TRIANGLE"),
  (0x23F8, "", "DOUBLE VERTICAL BAR|BLACK SQUARE FOR STOP|BLACK CIRCLE FOR RECORD"),
  (0x23FB, "POWER ", "SYMBOL|ON-OFF SYMBOL|ON SYMBOL|SLEEP SYMBOL"),
  (0x23FF, "", "OBSERVER EYE SYMBOL|SYMBOL FOR NULL|SYMBOL FOR START OF HEADING"),
  (0x2402, "SYMBOL FOR ", "START OF TEXT|END OF TEXT|END OF TRANSMISSION|ENQUIRY|ACKNOWLEDGE"),
  (0x2407, "SYMBOL FOR ", "BELL|BACKSPACE|HORIZONTAL TABULATION|LINE FEED|VERTICAL TABULATION"),
  (0x240C, "SYMBOL FOR ", "FORM FEED|CARRIAGE RETURN|SHIFT OUT|SHIFT IN|DATA LINK ESCAPE"),
  (0x2411, "SYMBOL FOR DEVICE CONTROL ", "ONE|TWO|THREE|FOUR"),
  (0x2415, "SYMBOL FOR ", "NEGATIVE ACKNOWLEDGE|SYNCHRONOUS IDLE|END OF TRANSMISSION BLOCK"),
  (0x2418, "SYMBOL FOR ", "CANCEL|END OF MEDIUM|SUBSTITUTE|ESCAPE|FILE SEPARATOR"),
  (0x241D, "SYMBOL FOR ", "GROUP SEPARATOR|RECORD SEPARATOR|UNIT SEPARATOR|SPACE|DELETE"),
  (0x2422, "", "BLANK SYMBOL|OPEN BOX"),
  (0x2424, "SYMBOL FOR ", "NEWLINE|DELETE FORM TWO|SUBSTITUTE FORM TWO"),
  (0x2440, "OCR ", "HOOK|CHAIR|FORK|INVERTED FORK|BELT BUCKLE|BOW TIE|BRANCH BANK IDENTIFICATION"),
  (0x2447, "OCR ", "AMOUNT OF CHECK|DASH|CUSTOMER ACCOUNT NUMBER|DOUBLE BACKSLASH"),
  (0x2460, "CIRCLED DIGIT ", "ONE|TWO|THREE|FOUR|FIVE|SIX|SEVEN|EIGHT|NINE"),
  (0x2469, "CIRCLED NUMBER ", "TEN|ELEVEN|TWELVE|THIRTEEN"),
  (0x246D, "CIRCLED NUMBER ", "FOURTEEN|FIFTEEN|SIXTEEN|SEVENTEEN|EIGHTEEN|NINETEEN|TWENTY"),
  (0x2474, "PARENTHESIZED DIGIT ", "ONE|TWO|THREE|FOUR|FIVE|SIX|SEVEN|EIGHT|NINE"),
  (0x247D, "PARENTHESIZED NUMBER ", "TEN|ELEVEN|TWELVE|THIRTEEN"),
  (0x2481, "PARENTHESIZED NUMBER ", "FOURTEEN|FIFTEEN|SIXTEEN|SEVENTEEN|EIGHTEEN|NINETEEN|TWENTY"),
  (0x2488, "DIGIT ", "ONE FULL STOP|TWO FULL STOP|THREE FULL STOP|FOUR FULL STOP"),
  (0x248C, "DIGIT ", "FIVE FULL STOP|SIX FULL STOP|SEVEN FULL STOP|EIGHT FULL STOP|NINE FULL STOP"),
  (0x2491, "NUMBER ", "TEN FULL STOP|ELEVEN FULL STOP|TWELVE FULL STOP"),
  (0x2494, "NUMBER ", "THIRTEEN FULL STOP|FOURTEEN FULL STOP|FIFTEEN FULL STOP|SIXTEEN FULL STOP"),
  (0x2498, "NUMBER ", "SEVENTEEN FULL STOP|EIGHTEEN FULL STOP|NINETEEN FULL STOP|TWENTY FULL STOP"),
  (0x249C, "PARENTHESIZED LATIN SMALL LETTER ", "A|B"),
  (0x249E, "PARENTHESIZED LATIN SMALL LETTER ", "C|D|E|F|G|H|I|J|K|L|M|N|O|P|Q|R|S|T|U|V|W|X|Y|Z"),
  (0x24B6, "CIRCLED LATIN CAPITAL LETTER ", "A|B|C|D|E|F|G|H|I|J|K|L|M|N|O|P|Q|R|S|T|U|V|W|X|Y|Z"),
  (0x24D0, "CIRCLED LATIN SMALL LETTER ", "A|B|C|D|E|F|G|H|I|J|K|L|M|N|O|P|Q|R|S|T|U|V|W|X|Y|Z"),
  (0x24EA, "", "CIRCLED DIGIT ZERO"),
  (0x24EB, "NEGATIVE CIRCLED NUMBER ", "ELEVEN|TWELVE|THIRTEEN|FOURTEEN"),
  (0x24EF, "NEGATIVE CIRCLED NUMBER ", "FIFTEEN|SIXTEEN|SEVENTEEN|EIGHTEEN|NINETEEN|TWENTY"),
  (0x24F5, "DOUBLE CIRCLED DIGIT ", "ONE|TWO|THREE|FOUR|FIVE|SIX|SEVEN|EIGHT|NINE"),
  (0x24FE, "", "DOUBLE CIRCLED NUMBER TEN|NEGATIVE CIRCLED DIGIT ZERO"),
  (0x2500, "BOX DRAWINGS ", "LIGHT HORIZONTAL|HEAVY HORIZONTAL|LIGHT VERTICAL|HEAVY VERTICAL"),
  (0x2504, "BOX DRAWINGS ", "LIGHT TRIPLE DASH HORIZONTAL|HEAVY TRIPLE DASH HORIZONTAL"),
  (0x2506, "BOX DRAWINGS ", "LIGHT TRIPLE DASH VERTICAL|HEAVY TRIPLE DASH VERTICAL"),
  (0x2508, "BOX DRAWINGS ", "LIGHT QUADRUPLE DASH HORIZONTAL|HEAVY QUADRUPLE DASH HORIZONTAL"),
  (0x250A, "BOX DRAWINGS ", "LIGHT QUADRUPLE DASH VERTICAL|HEAVY QUADRUPLE DASH VERTICAL"),
  (0x250C, "BOX DRAWINGS ", "LIGHT DOWN AND RIGHT|DOWN LIGHT AND RIGHT HEAVY"),
  (0x250E, "BOX DRAWINGS ", "DOWN HEAVY AND RIGHT LIGHT|HEAVY DOWN AND RIGHT|LIGHT DOWN AND LEFT"),
  (0x2511, "BOX DRAWINGS DOWN ", "LIGHT AND LEFT HEAVY|HEAVY AND LEFT LIGHT"),
  (0x2513, "BOX DRAWINGS ", "HEAVY DOWN AND LEFT|LIGHT UP AND RIGHT|UP LIGHT AND RIGHT HEAVY"),
  (0x2516, "BOX DRAWINGS ", "UP HEAVY AND RIGHT LIGHT|HEAVY UP AND RIGHT|LIGHT UP AND LEFT"),
  (0x2519, "BOX DRAWINGS ", "UP LIGHT AND LEFT HEAVY|UP HEAVY AND LEFT LIGHT|HEAVY UP AND LEFT"),
  (0x251C, "BOX DRAWINGS ", "LIGHT VERTICAL AND RIGHT|VERTICAL LIGHT AND RIGHT HEAVY"),
  (0x251E, "BOX DRAWINGS ", "UP HEAVY AND RIGHT DOWN LIGHT|DOWN HEAVY AND RIGHT UP LIGHT"),
  (0x2520, "BOX DRAWINGS ", "VERTICAL HEAVY AND RIGHT LIGHT|DOWN LIGHT AND RIGHT UP HEAVY"),
  (0x2522, "BOX DRAWINGS ", "UP LIGHT AND RIGHT DOWN HEAVY|HEAVY VERTICAL AND RIGHT"),
  (0x2524, "BOX DRAWINGS ", "LIGHT VERTICAL AND LEFT|VERTICAL LIGHT AND LEFT HEAVY"),
  (0x2526, "BOX DRAWINGS ", "UP HEAVY AND LEFT DOWN LIGHT|DOWN HEAVY AND LEFT UP LIGHT"),
  (0x2528, "BOX DRAWINGS ", "VERTICAL HEAVY AND LEFT LIGHT|DOWN LIGHT AND LEFT UP HEAVY"),
  (0x252A, "BOX DRAWINGS ", "UP LIGHT AND LEFT DOWN HEAVY|HEAVY VERTICAL AND LEFT"),
  (0x252C, "BOX DRAWINGS ", "LIGHT DOWN AND HORIZONTAL|LEFT HEAVY AND RIGHT DOWN LIGHT"),
  (0x252E, "BOX DRAWINGS ", "RIGHT HEAVY AND LEFT DOWN LIGHT|DOWN LIGHT AND HORIZONTAL HEAVY"),
  (0x2530, "BOX DRAWINGS ", "DOWN HEAVY AND HORIZONTAL LIGHT|RIGHT LIGHT AND LEFT DOWN HEAVY"),
  (0x2532, "BOX DRAWINGS ", "LEFT LIGHT AND RIGHT DOWN HEAVY|HEAVY DOWN AND HORIZONTAL"),
  (0x2534, "BOX DRAWINGS ", "LIGHT UP AND HORIZONTAL|LEFT HEAVY AND RIGHT UP LIGHT"),
  (0x2536, "BOX DRAWINGS ", "RIGHT HEAVY AND LEFT UP LIGHT|UP LIGHT AND HORIZONTAL HEAVY"),
  (0x2538, "BOX DRAWINGS ", "UP HEAVY AND HORIZONTAL LIGHT|RIGHT LIGHT AND LEFT UP HEAVY"),
  (0x253A, "BOX DRAWINGS ", "LEFT LIGHT AND RIGHT UP HEAVY|HEAVY UP AND HORIZONTAL"),
  (0x253C, "BOX DRAWINGS ", "LIGHT VERTICAL AND HORIZONTAL|LEFT HEAVY AND RIGHT VERTICAL LIGHT"),
  (0x253E, "", "BOX DRAWINGS RIGHT HEAVY AND LEFT VERTICAL LIGHT"),
  (0x253F, "", "BOX DRAWINGS VERTICAL LIGHT AND HORIZONTAL HEAVY"),
  (0x2540, "", "BOX DRAWINGS UP HEAVY AND DOWN HORIZONTAL LIGHT"),
  (0x2541, "", "BOX DRAWINGS DOWN HEAVY AND UP HORIZONTAL LIGHT"),
  (0x2542, "", "BOX DRAWINGS VERTICAL HEAVY AND HORIZONTAL LIGHT"),
  (0x2543, "", "BOX DRAWINGS LEFT UP HEAVY AND RIGHT DOWN LIGHT"),
  (0x2544, "", "BOX DRAWINGS RIGHT UP HEAVY AND LEFT DOWN LIGHT"),
  (0x2545, "", "BOX DRAWINGS LEFT DOWN HEAVY AND RIGHT UP LIGHT"),
  (0x2546, "", "BOX DRAWINGS RIGHT DOWN HEAVY AND LEFT UP LIGHT"),
  (0x2547, "", "BOX DRAWINGS DOWN LIGHT AND UP HORIZONTAL HEAVY"),
  (0x2548, "", "BOX DRAWINGS UP LIGHT AND DOWN HORIZONTAL HEAVY"),
  (0x2549, "", "BOX DRAWINGS RIGHT LIGHT AND LEFT VERTICAL HEAVY"),
  (0x254A, "BOX DRAWINGS ", "LEFT LIGHT AND RIGHT VERTICAL HEAVY|HEAVY VERTICAL AND HORIZONTAL"),
  (0x254C, "BOX DRAWINGS ", "LIGHT DOUBLE DASH HORIZONTAL|HEAVY DOUBLE DASH HORIZONTAL"),
  (0x254E, "BOX DRAWINGS ", "LIGHT DOUBLE DASH VERTICAL|HEAVY DOUBLE DASH VERTICAL"),
  (0x2550, "BOX DRAWINGS ", "DOUBLE HORIZONTAL|DOUBLE VERTICAL|DOWN SINGLE AND RIGHT DOUBLE"),
  (0x2553, "BOX DRAWINGS ", "DOWN DOUBLE AND RIGHT SINGLE|DOUBLE DOWN AND RIGHT"),
  (0x2555, "BOX DRAWINGS DOWN ", "SINGLE AND LEFT DOUBLE|DOUBLE AND LEFT SINGLE"),
  (0x2557, "BOX DRAWINGS ", "DOUBLE DOWN AND LEFT|UP SINGLE AND RIGHT DOUBLE"),
  (0x2559, "BOX DRAWINGS ", "UP DOUBLE AND RIGHT SINGLE|DOUBLE UP AND RIGHT"),
  (0x255B, "BOX DRAWINGS UP ", "SINGLE AND LEFT DOUBLE|DOUBLE AND LEFT SINGLE"),
  (0x255D, "BOX DRAWINGS ", "DOUBLE UP AND LEFT|VERTICAL SINGLE AND RIGHT DOUBLE"),
  (0x255F, "BOX DRAWINGS ", "VERTICAL DOUBLE AND RIGHT SINGLE|DOUBLE VERTICAL AND RIGHT"),
  (0x2561, "BOX DRAWINGS VERTICAL ", "SINGLE AND LEFT DOUBLE|DOUBLE AND LEFT SINGLE"),
  (0x2563, "BOX DRAWINGS ", "DOUBLE VERTICAL AND LEFT|DOWN SINGLE AND HORIZONTAL DOUBLE"),
  (0x2565, "BOX DRAWINGS ", "DOWN DOUBLE AND HORIZONTAL SINGLE|DOUBLE DOWN AND HORIZONTAL"),
  (0x2567, "BOX DRAWINGS UP ", "SINGLE AND HORIZONTAL DOUBLE|DOUBLE AND HORIZONTAL SINGLE"),
  (0x2569, "BOX DRAWINGS ", "DOUBLE UP AND HORIZONTAL|VERTICAL SINGLE AND HORIZONTAL DOUBLE"),
  (0x256B, "BOX DRAWINGS ", "VERTICAL DOUBLE AND HORIZONTAL SINGLE|DOUBLE VERTICAL AND HORIZONTAL"),
  (0x256D, "BOX DRAWINGS LIGHT ARC ", "DOWN AND RIGHT|DOWN AND LEFT|UP AND LEFT|UP AND RIGHT"),
  (0x2571, "BOX DRAWINGS LIGHT DIAGONAL UPPER ", "RIGHT TO LOWER LEFT|LEFT TO LOWER RIGHT"),
  (0x2573, "BOX DRAWINGS LIGHT ", "DIAGONAL CROSS|LEFT|UP|RIGHT|DOWN"),
  (0x2578, "BOX DRAWINGS HEAVY ", "LEFT|UP|RIGHT|DOWN"),
  (0x257C, "BOX DRAWINGS LIGHT ", "LEFT AND HEAVY RIGHT|UP AND HEAVY DOWN"),
  (0x257E, "BOX DRAWINGS HEAVY ", "LEFT AND LIGHT RIGHT|UP AND LIGHT DOWN"),
  (0x2580, "", "UPPER HALF BLOCK|LOWER ONE EIGHTH BLOCK|LOWER ONE QUARTER BLOCK"),
  (0x2583, "LOWER ", "THREE EIGHTHS BLOCK|HALF BLOCK|FIVE EIGHTHS BLOCK|THREE QUARTERS BLOCK"),
  (0x2587, "", "LOWER SEVEN EIGHTHS BLOCK|FULL BLOCK|LEFT SEVEN EIGHTHS BLOCK"),
  (0x258A, "LEFT ", "THREE QUARTERS BLOCK|FIVE EIGHTHS BLOCK|HALF BLOCK|THREE EIGHTHS BLOCK"),
  (0x258E, "", "LEFT ONE QUARTER BLOCK|LEFT ONE EIGHTH BLOCK|RIGHT HALF BLOCK"),
  (0x2591, "", "LIGHT SHADE|MEDIUM SHADE|DARK SHADE|UPPER ONE EIGHTH BLOCK|RIGHT ONE EIGHTH BLOCK"),
  (0x2596, "QUADRANT ", "LOWER LEFT|LOWER RIGHT|UPPER LEFT"),
  (0x2599, "QUADRANT UPPER LEFT AND LOWER ", "LEFT AND LOWER RIGHT|RIGHT"),
  (0x259B, "QUADRANT UPPER LEFT AND UPPER RIGHT AND LOWER ", "LEFT|RIGHT"),
  (0x259D, "QUADRANT UPPER ", "RIGHT|RIGHT AND LOWER LEFT|RIGHT AND LOWER LEFT AND LOWER RIGHT"),
  (0x25A0, "", "BLACK SQUARE|WHITE SQUARE"),
  (0x25A2, "WHITE SQUARE ", "WITH ROUNDED CORNERS|CONTAINING BLACK SMALL SQUARE"),
  (0x25A4, "SQUARE WITH ", "HORIZONTAL FILL|VERTICAL FILL|ORTHOGONAL CROSSHATCH FILL"),
  (0x25A7, "SQUARE WITH UPPER ", "LEFT TO LOWER RIGHT FILL|RIGHT TO LOWER LEFT FILL"),
  (0x25A9, "", "SQUARE WITH DIAGONAL CROSSHATCH FILL"),
  (0x25AA, "", "BLACK SMALL SQUARE|WHITE SMALL SQUARE|BLACK RECTANGLE|WHITE RECTANGLE"),
  (0x25AE, "", "BLACK VERTICAL RECTANGLE|WHITE VERTICAL RECTANGLE|BLACK PARALLELOGRAM"),
  (0x25B1, "", "WHITE PARALLELOGRAM|BLACK UP-POINTING TRIANGLE|WHITE UP-POINTING TRIANGLE"),
  (0x25B4, "", "BLACK UP-POINTING SMALL TRIANGLE|WHITE UP-POINTING SMALL TRIANGLE"),
  (0x25B6, "", "BLACK RIGHT-POINTING TRIANGLE|WHITE RIGHT-POINTING TRIANGLE"),
  (0x25B8, "", "BLACK RIGHT-POINTING SMALL TRIANGLE|WHITE RIGHT-POINTING SMALL TRIANGLE"),
  (0x25BA, "", "BLACK RIGHT-POINTING POINTER|WHITE RIGHT-POINTING POINTER"),
  (0x25BC, "", "BLACK DOWN-POINTING TRIANGLE|WHITE DOWN-POINTING TRIANGLE"),
  (0x25BE, "", "BLACK DOWN-POINTING SMALL TRIANGLE|WHITE DOWN-POINTING SMALL TRIANGLE"),
  (0x25C0, "", "BLACK LEFT-POINTING TRIANGLE|WHITE LEFT-POINTING TRIANGLE"),
  (0x25C2, "", "BLACK LEFT-POINTING SMALL TRIANGLE|WHITE LEFT-POINTING SMALL TRIANGLE"),
  (0x25C4, "", "BLACK LEFT-POINTING POINTER|WHITE LEFT-POINTING POINTER|BLACK DIAMOND"),
  (0x25C7, "", "WHITE DIAMOND|WHITE DIAMOND CONTAINING BLACK SMALL DIAMOND|FISHEYE|LOZENGE"),
  (0x25CB, "", "WHITE CIRCLE|DOTTED CIRCLE|CIRCLE WITH VERTICAL FILL|BULLSEYE|BLACK CIRCLE"),
  (0x25D0, "CIRCLE WITH ", "LEFT HALF BLACK|RIGHT HALF BLACK|LOWER HALF BLACK|UPPER HALF BLACK"),
  (0x25D4, "CIRCLE WITH ", "UPPER RIGHT QUADRANT BLACK|ALL BUT UPPER LEFT QUADRANT BLACK"),
  (0x25D6, "", "LEFT HALF BLACK CIRCLE|RIGHT HALF BLACK CIRCLE"),
  (0x25D8, "INVERSE ", "BULLET|WHITE CIRCLE"),
  (0x25DA, "", "UPPER HALF INVERSE WHITE CIRCLE|LOWER HALF INVERSE WHITE CIRCLE"),
  (0x25DC, "UPPER ", "LEFT QUADRANT CIRCULAR ARC|RIGHT QUADRANT CIRCULAR ARC"),
  (0x25DE, "LOWER ", "RIGHT QUADRANT CIRCULAR ARC|LEFT QUADRANT CIRCULAR ARC"),
  (0x25E0, "", "UPPER HALF CIRCLE|LOWER HALF CIRCLE|BLACK LOWER RIGHT TRIANGLE"),
  (0x25E3, "BLACK ", "LOWER LEFT TRIANGLE|UPPER LEFT TRIANGLE|UPPER RIGHT TRIANGLE"),
  (0x25E6, "", "WHITE BULLET|SQUARE WITH LEFT HALF BLACK|SQUARE WITH RIGHT HALF BLACK"),
  (0x25E9, "SQUARE WITH ", "UPPER LEFT DIAGONAL HALF BLACK|LOWER RIGHT DIAGONAL HALF BLACK"),
  (0x25EB, "WHITE ", "SQUARE WITH VERTICAL BISECTING LINE|UP-POINTING TRIANGLE WITH DOT"),
  (0x25ED, "UP-POINTING TRIANGLE WITH ", "LEFT HALF BLACK|RIGHT HALF BLACK"),
  (0x25EF, "", "LARGE CIRCLE"),
  (0x25F0, "WHITE SQUARE WITH ", "UPPER LEFT QUADRANT|LOWER LEFT QUADRANT|LOWER RIGHT QUADRANT"),
  (0x25F3, "WHITE ", "SQUARE WITH UPPER RIGHT QUADRANT|CIRCLE WITH UPPER LEFT QUADRANT"),
  (0x25F5, "WHITE CIRCLE WITH ", "LOWER LEFT QUADRANT|LOWER RIGHT QUADRANT|UPPER RIGHT QUADRANT"),
  (0x25F8, "", "UPPER LEFT TRIANGLE|UPPER RIGHT TRIANGLE|LOWER LEFT TRIANGLE"),
  (0x25FB, "", "WHITE MEDIUM SQUARE|BLACK MEDIUM SQUARE|WHITE MEDIUM SMALL SQUARE"),
  (0x25FE, "", "BLACK MEDIUM SMALL SQUARE|LOWER RIGHT TRIANGLE|BLACK SUN WITH RAYS|CLOUD|UMBRELLA"),
  (0x2603, "", "SNOWMAN|COMET|BLACK STAR|WHITE STAR|LIGHTNING|THUNDERSTORM|SUN|ASCENDING NODE"),
  (0x260B, "", "DESCENDING NODE|CONJUNCTION|OPPOSITION|BLACK TELEPHONE|WHITE TELEPHONE|BALLOT BOX"),
  (0x2611, "BALLOT BOX WITH ", "CHECK|X"),
  (0x2613, "", "SALTIRE|UMBRELLA WITH RAIN DROPS|HOT BEVERAGE"),
  (0x2616, "", "WHITE SHOGI PIECE|BLACK SHOGI PIECE|SHAMROCK|REVERSED ROTATED FLORAL HEART BULLET"),
  (0x261A, "", "BLACK LEFT POINTING INDEX|BLACK RIGHT POINTING INDEX|WHITE LEFT POINTING INDEX"),
  (0x261D, "WHITE ", "UP POINTING INDEX|RIGHT POINTING INDEX|DOWN POINTING INDEX"),
  (0x2620, "", "SKULL AND CROSSBONES|CAUTION SIGN|RADIOACTIVE SIGN|BIOHAZARD SIGN"),
  (0x2624, "", "CADUCEUS|ANKH|ORTHODOX CROSS|CHI RHO|CROSS OF LORRAINE|CROSS OF JERUSALEM"),
  (0x262A, "", "STAR AND CRESCENT|FARSI SYMBOL|ADI SHAKTI|HAMMER AND SICKLE|PEACE SYMBOL|YIN YANG"),
  (0x2630, "TRIGRAM FOR ", "HEAVEN|LAKE|FIRE|THUNDER|WIND|WATER|MOUNTAIN|EARTH"),
  (0x2638, "", "WHEEL OF DHARMA|WHITE FROWNING FACE|WHITE SMILING FACE|BLACK SMILING FACE"),
  (0x263C, "", "WHITE SUN WITH RAYS|FIRST QUARTER MOON|LAST QUARTER MOON|MERCURY"),
  (0x2640, "", "FEMALE SIGN|EARTH|MALE SIGN|JUPITER|SATURN|URANUS|NEPTUNE|PLUTO|ARIES|TAURUS"),
  (0x264A, "", "GEMINI|CANCER|LEO|VIRGO|LIBRA|SCORPIUS|SAGITTARIUS|CAPRICORN|AQUARIUS|PISCES"),
  (0x2654, "WHITE CHESS ", "KING|QUEEN|ROOK|BISHOP|KNIGHT|PAWN"),
  (0x265A, "BLACK CHESS ", "KING|QUEEN|ROOK|BISHOP|KNIGHT|PAWN"),
  (0x2660, "", "BLACK SPADE SUIT|WHITE HEART SUIT|WHITE DIAMOND SUIT|BLACK CLUB SUIT"),
  (0x2664, "", "WHITE SPADE SUIT|BLACK HEART SUIT|BLACK DIAMOND SUIT|WHITE CLUB SUIT"),
  (0x2668, "", "HOT SPRINGS|QUARTER NOTE|EIGHTH NOTE|BEAMED EIGHTH NOTES|BEAMED SIXTEENTH NOTES"),
  (0x266D, "MUSIC ", "FLAT SIGN|NATURAL SIGN|SHARP SIGN"),
  (0x2670, "", "WEST SYRIAC CROSS|EAST SYRIAC CROSS|UNIVERSAL RECYCLING SYMBOL"),
  (0x2673, "RECYCLING SYMBOL FOR ", "TYPE-1 PLASTICS|TYPE-2 PLASTICS"),
  (0x2675, "RECYCLING SYMBOL FOR ", "TYPE-3 PLASTICS|TYPE-4 PLASTICS|TYPE-5 PLASTICS"),
  (0x2678, "RECYCLING SYMBOL FOR ", "TYPE-6 PLASTICS|TYPE-7 PLASTICS|GENERIC MATERIALS"),
  (0x267B, "", "BLACK UNIVERSAL RECYCLING SYMBOL|RECYCLED PAPER SYMBOL"),
  (0x267D, "", "PARTIALLY-RECYCLED PAPER SYMBOL|PERMANENT PAPER SIGN|WHEELCHAIR SYMBOL"),
  (0x2680, "DIE ", "FACE-1|FACE-2|FACE-3|FACE-4|FACE-5|FACE-6"),
  (0x2686, "WHITE CIRCLE WITH ", "DOT RIGHT|TWO DOTS"),
  (0x2688, "BLACK CIRCLE WITH ", "WHITE DOT RIGHT|TWO WHITE DOTS"),
  (0x268A, "MONOGRAM FOR ", "YANG|YIN"),
  (0x268C, "DIGRAM FOR ", "GREATER YANG|LESSER YIN|LESSER YANG|GREATER YIN"),
  (0x2690, "", "WHITE FLAG"),
  (0x2691, "", "BLACK FLAG|HAMMER AND PICK|ANCHOR|CROSSED SWORDS|STAFF OF AESCULAPIUS|SCALES"),
  (0x2697, "", "ALEMBIC|FLOWER|GEAR|STAFF OF HERMES|ATOM SYMBOL|FLEUR-DE-LIS|OUTLINED WHITE STAR"),
  (0x269E, "THREE LINES CONVERGING ", "RIGHT|LEFT"),
  (0x26A0, "", "WARNING SIGN|HIGH VOLTAGE SIGN|DOUBLED FEMALE SIGN"),
  (0x26A3, "", "DOUBLED MALE SIGN|INTERLOCKED FEMALE AND MALE SIGN|MALE AND FEMALE SIGN"),
  (0x26A6, "MALE WITH STROKE ", "SIGN|AND MALE AND FEMALE SIGN"),
  (0x26A8, "", "VERTICAL MALE WITH STROKE SIGN|HORIZONTAL MALE WITH STROKE SIGN"),
  (0x26AA, "MEDIUM ", "WHITE CIRCLE|BLACK CIRCLE|SMALL WHITE CIRCLE"),
  (0x26AD, "", "MARRIAGE SYMBOL|DIVORCE SYMBOL|UNMARRIED PARTNERSHIP SYMBOL"),
  (0x26B0, "", "COFFIN|FUNERAL URN|NEUTER|CERES|PALLAS|JUNO|VESTA|CHIRON|BLACK MOON LILITH"),
  (0x26B9, "", "SEXTILE|SEMISEXTILE|QUINCUNX|SESQUIQUADRATE|SOCCER BALL|BASEBALL|SQUARED KEY"),
  (0x26C0, "WHITE DRAUGHTS ", "MAN|KING"),
  (0x26C2, "BLACK DRAUGHTS ", "MAN|KING"),
  (0x26C4, "", "SNOWMAN WITHOUT SNOW|SUN BEHIND CLOUD|RAIN|BLACK SNOWMAN|THUNDER CLOUD AND RAIN"),
  (0x26C9, "TURNED ", "WHITE SHOGI PIECE|BLACK SHOGI PIECE"),
  (0x26CB, "", "WHITE DIAMOND IN SQUARE|CROSSING LANES|DISABLED CAR"),
  (0x26CE, "", "OPHIUCHUS|PICK|CAR SLIDING|HELMET WITH WHITE CROSS|CIRCLED CROSSING LANES"),
  (0x26D3, "", "CHAINS|NO ENTRY|ALTERNATE ONE-WAY LEFT WAY TRAFFIC|BLACK TWO-WAY LEFT WAY TRAFFIC"),
  (0x26D7, "", "WHITE TWO-WAY LEFT WAY TRAFFIC|BLACK LEFT LANE MERGE|WHITE LEFT LANE MERGE"),
  (0x26DA, "", "DRIVE SLOW SIGN|HEAVY WHITE DOWN-POINTING TRIANGLE|LEFT CLOSED ENTRY"),
  (0x26DD, "", "SQUARED SALTIRE|FALLING DIAGONAL IN WHITE CIRCLE IN BLACK SQUARE|BLACK TRUCK"),
  (0x26E0, "RESTRICTED LEFT ", "ENTRY-1|ENTRY-2"),
  (0x26E2, "", "ASTRONOMICAL SYMBOL FOR URANUS|HEAVY CIRCLE WITH STROKE AND TWO DOTS ABOVE"),
  (0x26E4, "", "PENTAGRAM|RIGHT-HANDED INTERLACED PENTAGRAM"),
  (0x26E6, "", "LEFT-HANDED INTERLACED PENTAGRAM|INVERTED PENTAGRAM|BLACK CROSS ON SHIELD"),
  (0x26E9, "", "SHINTO SHRINE|CHURCH|CASTLE|HISTORIC SITE|GEAR WITHOUT HUB|GEAR WITH HANDLES"),
  (0x26EF, "", "MAP SYMBOL FOR LIGHTHOUSE|MOUNTAIN|UMBRELLA ON GROUND|FOUNTAIN|FLAG IN HOLE"),
  (0x26F4, "", "FERRY|SAILBOAT|SQUARE FOUR CORNERS|SKIER|ICE SKATE|PERSON WITH BALL|TENT"),
  (0x26FB, "", "JAPANESE BANK SYMBOL|HEADSTONE GRAVEYARD SYMBOL|FUEL PUMP|CUP ON BLACK SQUARE"),
  (0x26FF, "", "WHITE FLAG WITH HORIZONTAL MIDDLE BLACK STRIPE|BLACK SAFETY SCISSORS"),
  (0x2701, "", "UPPER BLADE SCISSORS|BLACK SCISSORS|LOWER BLADE SCISSORS|WHITE SCISSORS"),
  (0x2705, "", "WHITE HEAVY CHECK MARK|TELEPHONE LOCATION SIGN|TAPE DRIVE|AIRPLANE|ENVELOPE"),
  (0x270A, "RAISED ", "FIST|HAND"),
  (0x270C, "", "VICTORY HAND|WRITING HAND|LOWER RIGHT PENCIL|PENCIL|UPPER RIGHT PENCIL|WHITE NIB"),
  (0x2712, "", "BLACK NIB|CHECK MARK|HEAVY CHECK MARK|MULTIPLICATION X|HEAVY MULTIPLICATION X"),
  (0x2717, "", "BALLOT X|HEAVY BALLOT X|OUTLINED GREEK CROSS|HEAVY GREEK CROSS"),
  (0x271B, "", "OPEN CENTRE CROSS|HEAVY OPEN CENTRE CROSS|LATIN CROSS|SHADOWED WHITE LATIN CROSS"),
  (0x271F, "", "OUTLINED LATIN CROSS|MALTESE CROSS|STAR OF DAVID|FOUR TEARDROP-SPOKED ASTERISK"),
  (0x2723, "", "FOUR BALLOON-SPOKED ASTERISK|HEAVY FOUR BALLOON-SPOKED ASTERISK"),
  (0x2725, "", "FOUR CLUB-SPOKED ASTERISK|BLACK FOUR POINTED STAR|WHITE FOUR POINTED STAR"),
  (0x2728, "", "SPARKLES|STRESS OUTLINED WHITE STAR|CIRCLED WHITE STAR|OPEN CENTRE BLACK STAR"),
  (0x272C, "", "BLACK CENTRE WHITE STAR|OUTLINED BLACK STAR|HEAVY OUTLINED BLACK STAR"),
  (0x272F, "", "PINWHEEL STAR|SHADOWED WHITE STAR|HEAVY ASTERISK|OPEN CENTRE ASTERISK"),
  (0x2733, "EIGHT ", "SPOKED ASTERISK|POINTED BLACK STAR|POINTED PINWHEEL STAR"),
  (0x2736, "", "SIX POINTED BLACK STAR"),
  (0x2737, "", "EIGHT POINTED RECTILINEAR BLACK STAR|HEAVY EIGHT POINTED RECTILINEAR BLACK STAR"),
  (0x2739, "", "TWELVE POINTED BLACK STAR|SIXTEEN POINTED ASTERISK"),
  (0x273B, "", "TEARDROP-SPOKED ASTERISK|OPEN CENTRE TEARDROP-SPOKED ASTERISK"),
  (0x273D, "", "HEAVY TEARDROP-SPOKED ASTERISK|SIX PETALLED BLACK AND WHITE FLORETTE"),
  (0x273F, "", "BLACK FLORETTE|WHITE FLORETTE|EIGHT PETALLED OUTLINED BLACK FLORETTE"),
  (0x2742, "", "CIRCLED OPEN CENTRE EIGHT POINTED STAR|HEAVY TEARDROP-SPOKED PINWHEEL ASTERISK"),
  (0x2744, "", "SNOWFLAKE|TIGHT TRIFOLIATE SNOWFLAKE|HEAVY CHEVRON SNOWFLAKE|SPARKLE"),
  (0x2748, "", "HEAVY SPARKLE|BALLOON-SPOKED ASTERISK|EIGHT TEARDROP-SPOKED PROPELLER ASTERISK"),
  (0x274B, "", "HEAVY EIGHT TEARDROP-SPOKED PROPELLER ASTERISK|CROSS MARK|SHADOWED WHITE CIRCLE"),
  (0x274E, "", "NEGATIVE SQUARED CROSS MARK|LOWER RIGHT DROP-SHADOWED WHITE SQUARE"),
  (0x2750, "", "UPPER RIGHT DROP-SHADOWED WHITE SQUARE|LOWER RIGHT SHADOWED WHITE SQUARE"),
  (0x2752, "", "UPPER RIGHT SHADOWED WHITE SQUARE|BLACK QUESTION MARK ORNAMENT"),
  (0x2754, "WHITE ", "QUESTION MARK ORNAMENT|EXCLAMATION MARK ORNAMENT"),
  (0x2756, "", "BLACK DIAMOND MINUS WHITE X|HEAVY EXCLAMATION MARK SYMBOL"),
  (0x2758, "", "LIGHT VERTICAL BAR|MEDIUM VERTICAL BAR|HEAVY VERTICAL BAR"),
  (0x275B, "HEAVY SINGLE ", "TURNED COMMA QUOTATION MARK ORNAMENT|COMMA QUOTATION MARK ORNAMENT"),
  (0x275D, "HEAVY DOUBLE ", "TURNED COMMA QUOTATION MARK ORNAMENT|COMMA QUOTATION MARK ORNAMENT"),
  (0x275F, "", "HEAVY LOW SINGLE COMMA QUOTATION MARK ORNAMENT"),
  (0x2760, "", "HEAVY LOW DOUBLE COMMA QUOTATION MARK ORNAMENT"),
  (0x2761, "", "CURVED STEM PARAGRAPH SIGN ORNAMENT"),
  (0x2762, "HEAVY ", "EXCLAMATION MARK ORNAMENT|HEART EXCLAMATION MARK ORNAMENT|BLACK HEART"),
  (0x2765, "", "ROTATED HEAVY BLACK HEART BULLET|FLORAL HEART|ROTATED FLORAL HEART BULLET"),
  (0x2768, "MEDIUM ", "LEFT PARENTHESIS ORNAMENT|RIGHT PARENTHESIS ORNAMENT"),
  (0x276A, "MEDIUM FLATTENED ", "LEFT PARENTHESIS ORNAMENT|RIGHT PARENTHESIS ORNAMENT"),
  (0x276C, "MEDIUM ", "LEFT-POINTING ANGLE BRACKET ORNAMENT|RIGHT-POINTING ANGLE BRACKET ORNAMENT"),
  (0x276E, "", "HEAVY LEFT-POINTING ANGLE QUOTATION MARK ORNAMENT"),
  (0x276F, "", "HEAVY RIGHT-POINTING ANGLE QUOTATION MARK ORNAMENT"),
  (0x2770, "HEAVY ", "LEFT-POINTING ANGLE BRACKET ORNAMENT|RIGHT-POINTING ANGLE BRACKET ORNAMENT"),
  (0x2772, "LIGHT ", "LEFT TORTOISE SHELL BRACKET ORNAMENT|RIGHT TORTOISE SHELL BRACKET ORNAMENT"),
  (0x2774, "MEDIUM ", "LEFT CURLY BRACKET ORNAMENT|RIGHT CURLY BRACKET ORNAMENT"),
  (0x2776, "DINGBAT NEGATIVE CIRCLED DIGIT ", "ONE|TWO|THREE|FOUR|FIVE|SIX|SEVEN|EIGHT|NINE"),
  (0x277F, "", "DINGBAT NEGATIVE CIRCLED NUMBER TEN"),
  (0x2780, "DINGBAT CIRCLED SANS-SERIF DIGIT ", "ONE|TWO|THREE|FOUR|FIVE|SIX|SEVEN|EIGHT|NINE"),
  (0x2789, "", "DINGBAT CIRCLED SANS-SERIF NUMBER TEN"),
  (0x278A, "DINGBAT NEGATIVE CIRCLED SANS-SERIF DIGIT ", "ONE|TWO|THREE|FOUR|FIVE|SIX|SEVEN|EIGHT"),
  (0x2792, "DINGBAT NEGATIVE CIRCLED SANS-SERIF ", "DIGIT NINE|NUMBER TEN"),
  (0x2794, "HEAVY ", "WIDE-HEADED RIGHTWARDS ARROW|PLUS SIGN"),
  (0x2796, "HEAVY ", "MINUS SIGN|DIVISION SIGN|SOUTH EAST ARROW|RIGHTWARDS ARROW|NORTH EAST ARROW"),
  (0x279B, "", "DRAFTING POINT RIGHTWARDS ARROW"),
  (0x279C, "", "HEAVY ROUND-TIPPED RIGHTWARDS ARROW|TRIANGLE-HEADED RIGHTWARDS ARROW"),
  (0x279E, "", "HEAVY TRIANGLE-HEADED RIGHTWARDS ARROW|DASHED TRIANGLE-HEADED RIGHTWARDS ARROW"),
  (0x27A0, "", "HEAVY DASHED TRIANGLE-HEADED RIGHTWARDS ARROW|BLACK RIGHTWARDS ARROW"),
  (0x27A2, "THREE-D ", "TOP-LIGHTED RIGHTWARDS ARROWHEAD|BOTTOM-LIGHTED RIGHTWARDS ARROWHEAD"),
  (0x27A4, "", "BLACK RIGHTWARDS ARROWHEAD"),
  (0x27A5, "HEAVY BLACK CURVED ", "DOWNWARDS AND RIGHTWARDS ARROW|UPWARDS AND RIGHTWARDS ARROW"),
  (0x27A7, "", "SQUAT BLACK RIGHTWARDS ARROW"),
  (0x27A8, "", "HEAVY CONCAVE-POINTED BLACK RIGHTWARDS ARROW|RIGHT-SHADED WHITE RIGHTWARDS ARROW"),
  (0x27AA, "", "LEFT-SHADED WHITE RIGHTWARDS ARROW|BACK-TILTED SHADOWED WHITE RIGHTWARDS ARROW"),
  (0x27AC, "", "FRONT-TILTED SHADOWED WHITE RIGHTWARDS ARROW"),
  (0x27AD, "", "HEAVY LOWER RIGHT-SHADOWED WHITE RIGHTWARDS ARROW"),
  (0x27AE, "", "HEAVY UPPER RIGHT-SHADOWED WHITE RIGHTWARDS ARROW"),
  (0x27AF, "", "NOTCHED LOWER RIGHT-SHADOWED WHITE RIGHTWARDS ARROW"),
  (0x27B0, "", "CURLY LOOP|NOTCHED UPPER RIGHT-SHADOWED WHITE RIGHTWARDS ARROW"),
  (0x27B2, "", "CIRCLED HEAVY WHITE RIGHTWARDS ARROW|WHITE-FEATHERED RIGHTWARDS ARROW"),
  (0x27B4, "BLACK-FEATHERED ", "SOUTH EAST ARROW|RIGHTWARDS ARROW|NORTH EAST ARROW"),
  (0x27B7, "HEAVY BLACK-FEATHERED ", "SOUTH EAST ARROW|RIGHTWARDS ARROW|NORTH EAST ARROW"),
  (0x27BA, "", "TEARDROP-BARBED RIGHTWARDS ARROW|HEAVY TEARDROP-SHANKED RIGHTWARDS ARROW"),
  (0x27BC, "", "WEDGE-TAILED RIGHTWARDS ARROW|HEAVY WEDGE-TAILED RIGHTWARDS ARROW"),
  (0x27BE, "", "OPEN-OUTLINED RIGHTWARDS ARROW|DOUBLE CURLY LOOP"),
  (0x27C0, "", "THREE DIMENSIONAL ANGLE|WHITE TRIANGLE CONTAINING SMALL WHITE TRIANGLE"),
  (0x27C2, "", "PERPENDICULAR|OPEN SUBSET|OPEN SUPERSET|LEFT S-SHAPED BAG DELIMITER"),
  (0x27C6, "", "RIGHT S-SHAPED BAG DELIMITER|OR WITH DOT INSIDE|REVERSE SOLIDUS PRECEDING SUBSET"),
  (0x27C9, "", "SUPERSET PRECEDING SOLIDUS|VERTICAL BAR WITH HORIZONTAL STROKE"),
  (0x27CB, "", "MATHEMATICAL RISING DIAGONAL|LONG DIVISION|MATHEMATICAL FALLING DIAGONAL"),
  (0x27CE, "SQUARED LOGICAL ", "AND|OR"),
  (0x27D0, "", "WHITE DIAMOND WITH CENTRED DOT|AND WITH DOT"),
  (0x27D2, "", "ELEMENT OF OPENING UPWARDS|LOWER RIGHT CORNER WITH DOT|UPPER LEFT CORNER WITH DOT"),
  (0x27D5, "", "LEFT OUTER JOIN|RIGHT OUTER JOIN|FULL OUTER JOIN|LARGE UP TACK|LARGE DOWN TACK"),
  (0x27DA, "LEFT AND RIGHT ", "DOUBLE TURNSTILE|TACK"),
  (0x27DC, "", "LEFT MULTIMAP|LONG RIGHT TACK|LONG LEFT TACK|UP TACK WITH CIRCLE ABOVE"),
  (0x27E0, "", "LOZENGE DIVIDED BY HORIZONTAL RULE|WHITE CONCAVE-SIDED DIAMOND"),
  (0x27E2, "WHITE CONCAVE-SIDED DIAMOND WITH ", "LEFTWARDS TICK|RIGHTWARDS TICK"),
  (0x27E4, "WHITE SQUARE WITH ", "LEFTWARDS TICK|RIGHTWARDS TICK"),
  (0x27E6, "MATHEMATICAL ", "LEFT WHITE SQUARE BRACKET|RIGHT WHITE SQUARE BRACKET"),
  (0x27E8, "MATHEMATICAL ", "LEFT ANGLE BRACKET|RIGHT ANGLE BRACKET|LEFT DOUBLE ANGLE BRACKET"),
  (0x27EB, "MATHEMATICAL ", "RIGHT DOUBLE ANGLE BRACKET|LEFT WHITE TORTOISE SHELL BRACKET"),
  (0x27ED, "MATHEMATICAL ", "RIGHT WHITE TORTOISE SHELL BRACKET|LEFT FLATTENED PARENTHESIS"),
  (0x27EF, "", "MATHEMATICAL RIGHT FLATTENED PARENTHESIS|UPWARDS QUADRUPLE ARROW"),
  (0x27F1, "", "DOWNWARDS QUADRUPLE ARROW|ANTICLOCKWISE GAPPED CIRCLE ARROW"),
  (0x27F3, "", "CLOCKWISE GAPPED CIRCLE ARROW|RIGHT ARROW WITH CIRCLED PLUS"),
  (0x27F5, "LONG ", "LEFTWARDS ARROW|RIGHTWARDS ARROW|LEFT RIGHT ARROW|LEFTWARDS DOUBLE ARROW"),
  (0x27F9, "LONG ", "RIGHTWARDS DOUBLE ARROW|LEFT RIGHT DOUBLE ARROW|LEFTWARDS ARROW FROM BAR"),
  (0x27FC, "LONG ", "RIGHTWARDS ARROW FROM BAR|LEFTWARDS DOUBLE ARROW FROM BAR"),
  (0x27FE, "LONG RIGHTWARDS ", "DOUBLE ARROW FROM BAR|SQUIGGLE ARROW"),
  (0x2800, "", "BRAILLE PATTERN BLANK"),
  (0x2801, "BRAILLE PATTERN ", "DOTS-1|DOTS-2|DOTS-12|DOTS-3|DOTS-13|DOTS-23|DOTS-123|DOTS-4"),
  (0x2809, "BRAILLE PATTERN ", "DOTS-14|DOTS-24|DOTS-124|DOTS-34|DOTS-134|DOTS-234|DOTS-1234"),
  (0x2810, "BRAILLE PATTERN ", "DOTS-5|DOTS-15|DOTS-25|DOTS-125|DOTS-35|DOTS-135|DOTS-235"),
  (0x2817, "BRAILLE PATTERN ", "DOTS-1235|DOTS-45|DOTS-145|DOTS-245|DOTS-1245|DOTS-345|DOTS-1345"),
  (0x281E, "BRAILLE PATTERN ", "DOTS-2345|DOTS-12345|DOTS-6|DOTS-16|DOTS-26|DOTS-126|DOTS-36"),
  (0x2825, "BRAILLE PATTERN ", "DOTS-136|DOTS-236|DOTS-1236|DOTS-46|DOTS-146|DOTS-246|DOTS-1246"),
  (0x282C, "BRAILLE PATTERN ", "DOTS-346|DOTS-1346|DOTS-2346|DOTS-12346|DOTS-56|DOTS-156"),
  (0x2832, "BRAILLE PATTERN ", "DOTS-256|DOTS-1256|DOTS-356|DOTS-1356|DOTS-2356|DOTS-12356"),
  (0x2838, "BRAILLE PATTERN ", "DOTS-456|DOTS-1456|DOTS-2456|DOTS-12456|DOTS-3456|DOTS-13456"),
  (0x283E, "BRAILLE PATTERN ", "DOTS-23456|DOTS-123456|DOTS-7|DOTS-17|DOTS-27|DOTS-127|DOTS-37"),
  (0x2845, "BRAILLE PATTERN ", "DOTS-137|DOTS-237|DOTS-1237|DOTS-47|DOTS-147|DOTS-247|DOTS-1247"),
  (0x284C, "BRAILLE PATTERN ", "DOTS-347|DOTS-1347|DOTS-2347|DOTS-12347|DOTS-57|DOTS-157|DOTS-257"),
  (0x2853, "BRAILLE PATTERN ", "DOTS-1257|DOTS-357|DOTS-1357|DOTS-2357|DOTS-12357|DOTS-457"),
  (0x2859, "BRAILLE PATTERN ", "DOTS-1457|DOTS-2457|DOTS-12457|DOTS-3457|DOTS-13457|DOTS-23457"),
  (0x285F, "BRAILLE PATTERN ", "DOTS-123457|DOTS-67|DOTS-167|DOTS-267|DOTS-1267|DOTS-367"),
  (0x2865, "BRAILLE PATTERN ", "DOTS-1367|DOTS-2367|DOTS-12367|DOTS-467|DOTS-1467|DOTS-2467"),
  (0x286B, "BRAILLE PATTERN ", "DOTS-12467|DOTS-3467|DOTS-13467|DOTS-23467|DOTS-123467|DOTS-567"),
  (0x2871, "BRAILLE PATTERN ", "DOTS-1567|DOTS-2567|DOTS-12567|DOTS-3567|DOTS-13567|DOTS-23567"),
  (0x2877, "BRAILLE PATTERN ", "DOTS-123567|DOTS-4567|DOTS-14567|DOTS-24567|DOTS-124567"),
  (0x287C, "BRAILLE PATTERN ", "DOTS-34567|DOTS-134567|DOTS-234567|DOTS-1234567|DOTS-8"),
  (0x2881, "BRAILLE PATTERN ", "DOTS-18|DOTS-28|DOTS-128|DOTS-38|DOTS-138|DOTS-238|DOTS-1238"),
  (0x2888, "BRAILLE PATTERN ", "DOTS-48|DOTS-148|DOTS-248|DOTS-1248|DOTS-348|DOTS-1348|DOTS-2348"),
  (0x288F, "BRAILLE PATTERN ", "DOTS-12348|DOTS-58|DOTS-158|DOTS-258|DOTS-1258|DOTS-358|DOTS-1358"),
  (0x2896, "BRAILLE PATTERN ", "DOTS-2358|DOTS-12358|DOTS-458|DOTS-1458|DOTS-2458|DOTS-12458"),
  (0x289C, "BRAILLE PATTERN ", "DOTS-3458|DOTS-13458|DOTS-23458|DOTS-123458|DOTS-68|DOTS-168"),
  (0x28A2, "BRAILLE PATTERN ", "DOTS-268|DOTS-1268|DOTS-368|DOTS-1368|DOTS-2368|DOTS-12368"),
  (0x28A8, "BRAILLE PATTERN ", "DOTS-468|DOTS-1468|DOTS-2468|DOTS-12468|DOTS-3468|DOTS-13468"),
  (0x28AE, "BRAILLE PATTERN ", "DOTS-23468|DOTS-123468|DOTS-568|DOTS-1568|DOTS-2568|DOTS-12568"),
  (0x28B4, "BRAILLE PATTERN ", "DOTS-3568|DOTS-13568|DOTS-23568|DOTS-123568|DOTS-4568|DOTS-14568"),
  (0x28BA, "BRAILLE PATTERN ", "DOTS-24568|DOTS-124568|DOTS-34568|DOTS-134568|DOTS-234568"),
  (0x28BF, "BRAILLE PATTERN ", "DOTS-1234568|DOTS-78|DOTS-178|DOTS-278|DOTS-1278|DOTS-378"),
  (0x28C5, "BRAILLE PATTERN ", "DOTS-1378|DOTS-2378|DOTS-12378|DOTS-478|DOTS-1478|DOTS-2478"),
  (0x28CB, "BRAILLE PATTERN ", "DOTS-12478|DOTS-3478|DOTS-13478|DOTS-23478|DOTS-123478|DOTS-578"),
  (0x28D1, "BRAILLE PATTERN ", "DOTS-1578|DOTS-2578|DOTS-12578|DOTS-3578|DOTS-13578|DOTS-23578"),
  (0x28D7, "BRAILLE PATTERN ", "DOTS-123578|DOTS-4578|DOTS-14578|DOTS-24578|DOTS-124578"),
  (0x28DC, "BRAILLE PATTERN ", "DOTS-34578|DOTS-134578|DOTS-234578|DOTS-1234578|DOTS-678"),
  (0x28E1, "BRAILLE PATTERN ", "DOTS-1678|DOTS-2678|DOTS-12678|DOTS-3678|DOTS-13678|DOTS-23678"),
  (0x28E7, "BRAILLE PATTERN ", "DOTS-123678|DOTS-4678|DOTS-14678|DOTS-24678|DOTS-124678"),
  (0x28EC, "BRAILLE PATTERN ", "DOTS-34678|DOTS-134678|DOTS-234678|DOTS-1234678|DOTS-5678"),
  (0x28F1, "BRAILLE PATTERN ", "DOTS-15678|DOTS-25678|DOTS-125678|DOTS-35678|DOTS-135678"),
  (0x28F6, "BRAILLE PATTERN ", "DOTS-235678|DOTS-1235678|DOTS-45678|DOTS-145678|DOTS-245678"),
  (0x28FB, "BRAILLE PATTERN ", "DOTS-1245678|DOTS-345678|DOTS-1345678|DOTS-2345678|DOTS-12345678"),
  (0x2900, "RIGHTWARDS TWO-HEADED ARROW WITH ", "VERTICAL STROKE|DOUBLE VERTICAL STROKE"),
  (0x2902, "", "LEFTWARDS DOUBLE ARROW WITH VERTICAL STROKE"),
  (0x2903, "", "RIGHTWARDS DOUBLE ARROW WITH VERTICAL STROKE"),
  (0x2904, "", "LEFT RIGHT DOUBLE ARROW WITH VERTICAL STROKE|RIGHTWARDS TWO-HEADED ARROW FROM BAR"),
  (0x2906, "", "LEFTWARDS DOUBLE ARROW FROM BAR|RIGHTWARDS DOUBLE ARROW FROM BAR"),
  (0x2908, "", "DOWNWARDS ARROW WITH HORIZONTAL STROKE|UPWARDS ARROW WITH HORIZONTAL STROKE"),
  (0x290A, "", "UPWARDS TRIPLE ARROW|DOWNWARDS TRIPLE ARROW|LEFTWARDS DOUBLE DASH ARROW"),
  (0x290D, "", "RIGHTWARDS DOUBLE DASH ARROW|LEFTWARDS TRIPLE DASH ARROW"),
  (0x290F, "RIGHTWARDS ", "TRIPLE DASH ARROW|TWO-HEADED TRIPLE DASH ARROW|ARROW WITH DOTTED STEM"),
  (0x2912, "", "UPWARDS ARROW TO BAR|DOWNWARDS ARROW TO BAR"),
  (0x2914, "RIGHTWARDS ARROW WITH TAIL WITH ", "VERTICAL STROKE|DOUBLE VERTICAL STROKE"),
  (0x2916, "", "RIGHTWARDS TWO-HEADED ARROW WITH TAIL"),
  (0x2917, "RIGHTWARDS TWO-HEADED ARROW WITH TAIL WITH ", "VERTICAL STROKE|DOUBLE VERTICAL STROKE"),
  (0x2919, "", "LEFTWARDS ARROW-TAIL|RIGHTWARDS ARROW-TAIL|LEFTWARDS DOUBLE ARROW-TAIL"),
  (0x291C, "", "RIGHTWARDS DOUBLE ARROW-TAIL|LEFTWARDS ARROW TO BLACK DIAMOND"),
  (0x291E, "", "RIGHTWARDS ARROW TO BLACK DIAMOND|LEFTWARDS ARROW FROM BAR TO BLACK DIAMOND"),
  (0x2920, "", "RIGHTWARDS ARROW FROM BAR TO BLACK DIAMOND|NORTH WEST AND SOUTH EAST ARROW"),
  (0x2922, "NORTH ", "EAST AND SOUTH WEST ARROW|WEST ARROW WITH HOOK|EAST ARROW WITH HOOK"),
  (0x2925, "SOUTH ", "EAST ARROW WITH HOOK|WEST ARROW WITH HOOK"),
  (0x2927, "NORTH ", "WEST ARROW AND NORTH EAST ARROW|EAST ARROW AND SOUTH EAST ARROW"),
  (0x2929, "SOUTH ", "EAST ARROW AND SOUTH WEST ARROW|WEST ARROW AND NORTH WEST ARROW"),
  (0x292B, "", "RISING DIAGONAL CROSSING FALLING DIAGONAL"),
  (0x292C, "", "FALLING DIAGONAL CROSSING RISING DIAGONAL"),
  (0x292D, "", "SOUTH EAST ARROW CROSSING NORTH EAST ARROW"),
  (0x292E, "", "NORTH EAST ARROW CROSSING SOUTH EAST ARROW"),
  (0x292F, "", "FALLING DIAGONAL CROSSING NORTH EAST ARROW"),
  (0x2930, "", "RISING DIAGONAL CROSSING SOUTH EAST ARROW"),
  (0x2931, "NORTH ", "EAST ARROW CROSSING NORTH WEST ARROW|WEST ARROW CROSSING NORTH EAST ARROW"),
  (0x2933, "", "WAVE ARROW POINTING DIRECTLY RIGHT"),
  (0x2934, "ARROW POINTING RIGHTWARDS THEN CURVING ", "UPWARDS|DOWNWARDS"),
  (0x2936, "ARROW POINTING DOWNWARDS THEN CURVING ", "LEFTWARDS|RIGHTWARDS"),
  (0x2938, "", "RIGHT-SIDE ARC CLOCKWISE ARROW|LEFT-SIDE ARC ANTICLOCKWISE ARROW"),
  (0x293A, "", "TOP ARC ANTICLOCKWISE ARROW|BOTTOM ARC ANTICLOCKWISE ARROW"),
  (0x293C, "TOP ARC ", "CLOCKWISE ARROW WITH MINUS|ANTICLOCKWISE ARROW WITH PLUS"),
  (0x293E, "LOWER ", "RIGHT SEMICIRCULAR CLOCKWISE ARROW|LEFT SEMICIRCULAR ANTICLOCKWISE ARROW"),
  (0x2940, "", "ANTICLOCKWISE CLOSED CIRCLE ARROW"),
  (0x2941, "", "CLOCKWISE CLOSED CIRCLE ARROW|RIGHTWARDS ARROW ABOVE SHORT LEFTWARDS ARROW"),
  (0x2943, "", "LEFTWARDS ARROW ABOVE SHORT RIGHTWARDS ARROW"),
  (0x2944, "", "SHORT RIGHTWARDS ARROW ABOVE LEFTWARDS ARROW|RIGHTWARDS ARROW WITH PLUS BELOW"),
  (0x2946, "", "LEFTWARDS ARROW WITH PLUS BELOW|RIGHTWARDS ARROW THROUGH X"),
  (0x2948, "", "LEFT RIGHT ARROW THROUGH SMALL CIRCLE|UPWARDS TWO-HEADED ARROW FROM SMALL CIRCLE"),
  (0x294A, "LEFT BARB ", "UP RIGHT BARB DOWN HARPOON|DOWN RIGHT BARB UP HARPOON"),
  (0x294C, "UP BARB ", "RIGHT DOWN BARB LEFT HARPOON|LEFT DOWN BARB RIGHT HARPOON"),
  (0x294E, "", "LEFT BARB UP RIGHT BARB UP HARPOON"),
  (0x294F, "", "UP BARB RIGHT DOWN BARB RIGHT HARPOON|LEFT BARB DOWN RIGHT BARB DOWN HARPOON"),
  (0x2951, "", "UP BARB LEFT DOWN BARB LEFT HARPOON|LEFTWARDS HARPOON WITH BARB UP TO BAR"),
  (0x2953, "", "RIGHTWARDS HARPOON WITH BARB UP TO BAR|UPWARDS HARPOON WITH BARB RIGHT TO BAR"),
  (0x2955, "", "DOWNWARDS HARPOON WITH BARB RIGHT TO BAR|LEFTWARDS HARPOON WITH BARB DOWN TO BAR"),
  (0x2957, "", "RIGHTWARDS HARPOON WITH BARB DOWN TO BAR|UPWARDS HARPOON WITH BARB LEFT TO BAR"),
  (0x2959, "", "DOWNWARDS HARPOON WITH BARB LEFT TO BAR|LEFTWARDS HARPOON WITH BARB UP FROM BAR"),
  (0x295B, "", "RIGHTWARDS HARPOON WITH BARB UP FROM BAR|UPWARDS HARPOON WITH BARB RIGHT FROM BAR"),
  (0x295D, "", "DOWNWARDS HARPOON WITH BARB RIGHT FROM BAR"),
  (0x295E, "", "LEFTWARDS HARPOON WITH BARB DOWN FROM BAR"),
  (0x295F, "", "RIGHTWARDS HARPOON WITH BARB DOWN FROM BAR"),
  (0x2960, "", "UPWARDS HARPOON WITH BARB LEFT FROM BAR|DOWNWARDS HARPOON WITH BARB LEFT FROM BAR"),
  (0x2962, "", "LEFTWARDS HARPOON WITH BARB UP ABOVE LEFTWARDS HARPOON WITH BARB DOWN"),
  (0x2963, "", "UPWARDS HARPOON WITH BARB LEFT BESIDE UPWARDS HARPOON WITH BARB RIGHT"),
  (0x2964, "", "RIGHTWARDS HARPOON WITH BARB UP ABOVE RIGHTWARDS HARPOON WITH BARB DOWN"),
  (0x2965, "", "DOWNWARDS HARPOON WITH BARB LEFT BESIDE DOWNWARDS HARPOON WITH BARB RIGHT"),
  (0x2966, "", "LEFTWARDS HARPOON WITH BARB UP ABOVE RIGHTWARDS HARPOON WITH BARB UP"),
  (0x2967, "", "LEFTWARDS HARPOON WITH BARB DOWN ABOVE RIGHTWARDS HARPOON WITH BARB DOWN"),
  (0x2968, "", "RIGHTWARDS HARPOON WITH BARB UP ABOVE LEFTWARDS HARPOON WITH BARB UP"),
  (0x2969, "", "RIGHTWARDS HARPOON WITH BARB DOWN ABOVE LEFTWARDS HARPOON WITH BARB DOWN"),
  (0x296A, "LEFTWARDS HARPOON WITH BARB ", "UP ABOVE LONG DASH|DOWN BELOW LONG DASH"),
  (0x296C, "RIGHTWARDS HARPOON WITH BARB ", "UP ABOVE LONG DASH|DOWN BELOW LONG DASH"),
  (0x296E, "", "UPWARDS HARPOON WITH BARB LEFT BESIDE DOWNWARDS HARPOON WITH BARB RIGHT"),
  (0x296F, "", "DOWNWARDS HARPOON WITH BARB LEFT BESIDE UPWARDS HARPOON WITH BARB RIGHT"),
  (0x2970, "", "RIGHT DOUBLE ARROW WITH ROUNDED HEAD|EQUALS SIGN ABOVE RIGHTWARDS ARROW"),
  (0x2972, "", "TILDE OPERATOR ABOVE RIGHTWARDS ARROW|LEFTWARDS ARROW ABOVE TILDE OPERATOR"),
  (0x2974, "RIGHTWARDS ARROW ABOVE ", "TILDE OPERATOR|ALMOST EQUAL TO"),
  (0x2976, "", "LESS-THAN ABOVE LEFTWARDS ARROW|LEFTWARDS ARROW THROUGH LESS-THAN"),
  (0x2978, "", "GREATER-THAN ABOVE RIGHTWARDS ARROW|SUBSET ABOVE RIGHTWARDS ARROW"),
  (0x297A, "", "LEFTWARDS ARROW THROUGH SUBSET|SUPERSET ABOVE LEFTWARDS ARROW|LEFT FISH TAIL"),
  (0x297D, "", "RIGHT FISH TAIL|UP FISH TAIL|DOWN FISH TAIL|TRIPLE VERTICAL BAR DELIMITER"),
  (0x2981, "", "Z NOTATION SPOT|Z NOTATION TYPE COLON|LEFT WHITE CURLY BRACKET"),
  (0x2984, "", "RIGHT WHITE CURLY BRACKET|LEFT WHITE PARENTHESIS|RIGHT WHITE PARENTHESIS"),
  (0x2987, "Z NOTATION ", "LEFT IMAGE BRACKET|RIGHT IMAGE BRACKET|LEFT BINDING BRACKET"),
  (0x298A, "", "Z NOTATION RIGHT BINDING BRACKET|LEFT SQUARE BRACKET WITH UNDERBAR"),
  (0x298C, "", "RIGHT SQUARE BRACKET WITH UNDERBAR|LEFT SQUARE BRACKET WITH TICK IN TOP CORNER"),
  (0x298E, "", "RIGHT SQUARE BRACKET WITH TICK IN BOTTOM CORNER"),
  (0x298F, "", "LEFT SQUARE BRACKET WITH TICK IN BOTTOM CORNER"),
  (0x2990, "", "RIGHT SQUARE BRACKET WITH TICK IN TOP CORNER"),
  (0x2991, "", "LEFT ANGLE BRACKET WITH DOT|RIGHT ANGLE BRACKET WITH DOT"),
  (0x2993, "", "LEFT ARC LESS-THAN BRACKET|RIGHT ARC GREATER-THAN BRACKET"),
  (0x2995, "DOUBLE ", "LEFT ARC GREATER-THAN BRACKET|RIGHT ARC LESS-THAN BRACKET"),
  (0x2997, "", "LEFT BLACK TORTOISE SHELL BRACKET|RIGHT BLACK TORTOISE SHELL BRACKET|DOTTED FENCE"),
  (0x299A, "", "VERTICAL ZIGZAG LINE|MEASURED ANGLE OPENING LEFT|RIGHT ANGLE VARIANT WITH SQUARE"),
  (0x299D, "", "MEASURED RIGHT ANGLE WITH DOT|ANGLE WITH S INSIDE|ACUTE ANGLE"),
  (0x29A0, "SPHERICAL ANGLE OPENING ", "LEFT|UP"),
  (0x29A2, "", "TURNED ANGLE|REVERSED ANGLE|ANGLE WITH UNDERBAR|REVERSED ANGLE WITH UNDERBAR"),
  (0x29A6, "OBLIQUE ANGLE OPENING ", "UP|DOWN"),
  (0x29A8, "MEASURED ANGLE WITH OPEN ARM ENDING IN ARROW POINTING UP AND ", "RIGHT|LEFT"),
  (0x29AA, "MEASURED ANGLE WITH OPEN ARM ENDING IN ARROW POINTING DOWN AND ", "RIGHT|LEFT"),
  (0x29AC, "", "MEASURED ANGLE WITH OPEN ARM ENDING IN ARROW POINTING RIGHT AND UP"),
  (0x29AD, "MEASURED ANGLE WITH OPEN ARM ENDING IN ARROW POINTING ", "LEFT AND UP|RIGHT AND DOWN"),
  (0x29AF, "", "MEASURED ANGLE WITH OPEN ARM ENDING IN ARROW POINTING LEFT AND DOWN"),
  (0x29B0, "", "REVERSED EMPTY SET"),
  (0x29B1, "EMPTY SET WITH ", "OVERBAR|SMALL CIRCLE ABOVE|RIGHT ARROW ABOVE|LEFT ARROW ABOVE"),
  (0x29B5, "", "CIRCLE WITH HORIZONTAL BAR"),
  (0x29B6, "CIRCLED ", "VERTICAL BAR|PARALLEL|REVERSE SOLIDUS|PERPENDICULAR"),
  (0x29BA, "", "CIRCLE DIVIDED BY HORIZONTAL BAR AND TOP HALF DIVIDED BY VERTICAL BAR"),
  (0x29BB, "", "CIRCLE WITH SUPERIMPOSED X"),
  (0x29BC, "", "CIRCLED ANTICLOCKWISE-ROTATED DIVISION SIGN|UP ARROW THROUGH CIRCLE"),
  (0x29BE, "CIRCLED ", "WHITE BULLET|BULLET|LESS-THAN|GREATER-THAN"),
  (0x29C2, "CIRCLE WITH ", "SMALL CIRCLE TO THE RIGHT|TWO HORIZONTAL STROKES TO THE RIGHT"),
  (0x29C4, "SQUARED ", "RISING DIAGONAL SLASH|FALLING DIAGONAL SLASH|ASTERISK|SMALL CIRCLE|SQUARE"),
  (0x29C9, "", "TWO JOINED SQUARES|TRIANGLE WITH DOT ABOVE|TRIANGLE WITH UNDERBAR"),
  (0x29CC, "", "S IN TRIANGLE|TRIANGLE WITH SERIFS AT BOTTOM|RIGHT TRIANGLE ABOVE LEFT TRIANGLE"),
  (0x29CF, "", "LEFT TRIANGLE BESIDE VERTICAL BAR|VERTICAL BAR BESIDE RIGHT TRIANGLE"),
  (0x29D1, "BOWTIE WITH ", "LEFT HALF BLACK|RIGHT HALF BLACK"),
  (0x29D3, "", "BLACK BOWTIE|TIMES WITH LEFT HALF BLACK"),
  (0x29D5, "", "TIMES WITH RIGHT HALF BLACK|WHITE HOURGLASS|BLACK HOURGLASS|LEFT WIGGLY FENCE"),
  (0x29D9, "", "RIGHT WIGGLY FENCE|LEFT DOUBLE WIGGLY FENCE|RIGHT DOUBLE WIGGLY FENCE"),
  (0x29DC, "", "INCOMPLETE INFINITY|TIE OVER INFINITY|INFINITY NEGATED WITH VERTICAL BAR"),
  (0x29DF, "", "DOUBLE-ENDED MULTIMAP|SQUARE WITH CONTOURED OUTLINE|INCREASES AS|SHUFFLE PRODUCT"),
  (0x29E3, "EQUALS SIGN AND SLANTED ", "PARALLEL|PARALLEL WITH TILDE ABOVE"),
  (0x29E5, "", "IDENTICAL TO AND SLANTED PARALLEL|GLEICH STARK|THERMODYNAMIC"),
  (0x29E8, "DOWN-POINTING TRIANGLE WITH ", "LEFT HALF BLACK|RIGHT HALF BLACK"),
  (0x29EA, "BLACK ", "DIAMOND WITH DOWN ARROW|LOZENGE"),
  (0x29EC, "", "WHITE CIRCLE WITH DOWN ARROW|BLACK CIRCLE WITH DOWN ARROW"),
  (0x29EE, "ERROR-BARRED ", "WHITE SQUARE|BLACK SQUARE|WHITE DIAMOND|BLACK DIAMOND|WHITE CIRCLE"),
  (0x29F3, "", "ERROR-BARRED BLACK CIRCLE|RULE-DELAYED|REVERSE SOLIDUS OPERATOR"),
  (0x29F6, "", "SOLIDUS WITH OVERBAR|REVERSE SOLIDUS WITH HORIZONTAL STROKE"),
  (0x29F8, "", "BIG SOLIDUS|BIG REVERSE SOLIDUS|DOUBLE PLUS|TRIPLE PLUS"),
  (0x29FC, "", "LEFT-POINTING CURVED ANGLE BRACKET|RIGHT-POINTING CURVED ANGLE BRACKET|TINY|MINY"),
  (0x2A00, "N-ARY CIRCLED ", "DOT OPERATOR|PLUS OPERATOR|TIMES OPERATOR"),
  (0x2A03, "N-ARY UNION OPERATOR WITH ", "DOT|PLUS"),
  (0x2A05, "N-ARY SQUARE ", "INTERSECTION OPERATOR|UNION OPERATOR"),
  (0x2A07, "TWO LOGICAL ", "AND OPERATOR|OR OPERATOR"),
  (0x2A09, "", "N-ARY TIMES OPERATOR|MODULO TWO SUM|SUMMATION WITH INTEGRAL"),
  (0x2A0C, "", "QUADRUPLE INTEGRAL OPERATOR|FINITE PART INTEGRAL|INTEGRAL WITH DOUBLE STROKE"),
  (0x2A0F, "", "INTEGRAL AVERAGE WITH SLASH|CIRCULATION FUNCTION|ANTICLOCKWISE INTEGRATION"),
  (0x2A12, "LINE INTEGRATION WITH ", "RECTANGULAR PATH AROUND POLE|SEMICIRCULAR PATH AROUND POLE"),
  (0x2A14, "", "LINE INTEGRATION NOT INCLUDING THE POLE"),
  (0x2A15, "", "INTEGRAL AROUND A POINT OPERATOR|QUATERNION INTEGRAL OPERATOR"),
  (0x2A17, "INTEGRAL WITH ", "LEFTWARDS ARROW WITH HOOK|TIMES SIGN|INTERSECTION|UNION|OVERBAR"),
  (0x2A1C, "", "INTEGRAL WITH UNDERBAR|JOIN|LARGE LEFT TRIANGLE OPERATOR"),
  (0x2A1F, "Z NOTATION SCHEMA ", "COMPOSITION|PIPING|PROJECTION"),
  (0x2A22, "PLUS SIGN WITH ", "SMALL CIRCLE ABOVE|CIRCUMFLEX ACCENT ABOVE"),
  (0x2A24, "PLUS SIGN WITH ", "TILDE ABOVE|DOT BELOW|TILDE BELOW|SUBSCRIPT TWO|BLACK TRIANGLE"),
  (0x2A29, "MINUS SIGN WITH ", "COMMA ABOVE|DOT BELOW|FALLING DOTS|RISING DOTS"),
  (0x2A2D, "PLUS SIGN IN ", "LEFT HALF CIRCLE|RIGHT HALF CIRCLE"),
  (0x2A2F, "", "VECTOR OR CROSS PRODUCT"),
  (0x2A30, "MULTIPLICATION SIGN WITH ", "DOT ABOVE|UNDERBAR"),
  (0x2A32, "", "SEMIDIRECT PRODUCT WITH BOTTOM CLOSED|SMASH PRODUCT"),
  (0x2A34, "MULTIPLICATION SIGN IN ", "LEFT HALF CIRCLE|RIGHT HALF CIRCLE"),
  (0x2A36, "", "CIRCLED MULTIPLICATION SIGN WITH CIRCUMFLEX ACCENT"),
  (0x2A37, "", "MULTIPLICATION SIGN IN DOUBLE CIRCLE"),
  (0x2A38, "", "CIRCLED DIVISION SIGN|PLUS SIGN IN TRIANGLE|MINUS SIGN IN TRIANGLE"),
  (0x2A3B, "", "MULTIPLICATION SIGN IN TRIANGLE|INTERIOR PRODUCT|RIGHTHAND INTERIOR PRODUCT"),
  (0x2A3E, "", "Z NOTATION RELATIONAL COMPOSITION|AMALGAMATION OR COPRODUCT|INTERSECTION WITH DOT"),
  (0x2A41, "UNION WITH ", "MINUS SIGN|OVERBAR"),
  (0x2A43, "INTERSECTION WITH ", "OVERBAR|LOGICAL AND"),
  (0x2A45, "UNION ", "WITH LOGICAL OR|ABOVE INTERSECTION"),
  (0x2A47, "", "INTERSECTION ABOVE UNION|UNION ABOVE BAR ABOVE INTERSECTION"),
  (0x2A49, "", "INTERSECTION ABOVE BAR ABOVE UNION|UNION BESIDE AND JOINED WITH UNION"),
  (0x2A4B, "", "INTERSECTION BESIDE AND JOINED WITH INTERSECTION"),
  (0x2A4C, "CLOSED ", "UNION WITH SERIFS|INTERSECTION WITH SERIFS"),
  (0x2A4E, "DOUBLE SQUARE ", "INTERSECTION|UNION"),
  (0x2A50, "", "CLOSED UNION WITH SERIFS AND SMASH PRODUCT"),
  (0x2A51, "LOGICAL ", "AND WITH DOT ABOVE|OR WITH DOT ABOVE"),
  (0x2A53, "DOUBLE LOGICAL ", "AND|OR"),
  (0x2A55, "TWO INTERSECTING LOGICAL ", "AND|OR"),
  (0x2A57, "SLOPING LARGE ", "OR|AND"),
  (0x2A59, "LOGICAL ", "OR OVERLAPPING LOGICAL AND|AND WITH MIDDLE STEM"),
  (0x2A5B, "LOGICAL ", "OR WITH MIDDLE STEM|AND WITH HORIZONTAL DASH|OR WITH HORIZONTAL DASH"),
  (0x2A5E, "LOGICAL AND WITH ", "DOUBLE OVERBAR|UNDERBAR|DOUBLE UNDERBAR"),
  (0x2A61, "", "SMALL VEE WITH UNDERBAR"),
  (0x2A62, "LOGICAL OR WITH DOUBLE ", "OVERBAR|UNDERBAR"),
  (0x2A64, "Z NOTATION ", "DOMAIN ANTIRESTRICTION|RANGE ANTIRESTRICTION"),
  (0x2A66, "", "EQUALS SIGN WITH DOT BELOW|IDENTICAL WITH DOT ABOVE"),
  (0x2A68, "TRIPLE HORIZONTAL BAR WITH ", "DOUBLE VERTICAL STROKE|TRIPLE VERTICAL STROKE"),
  (0x2A6A, "TILDE OPERATOR WITH ", "DOT ABOVE|RISING DOTS"),
  (0x2A6C, "", "SIMILAR MINUS SIMILAR|CONGRUENT WITH DOT ABOVE|EQUALS WITH ASTERISK"),
  (0x2A6F, "", "ALMOST EQUAL TO WITH CIRCUMFLEX ACCENT|APPROXIMATELY EQUAL OR EQUAL TO"),
  (0x2A71, "", "EQUALS SIGN ABOVE PLUS SIGN|PLUS SIGN ABOVE EQUALS SIGN"),
  (0x2A73, "", "EQUALS SIGN ABOVE TILDE OPERATOR|DOUBLE COLON EQUAL|TWO CONSECUTIVE EQUALS SIGNS"),
  (0x2A76, "", "THREE CONSECUTIVE EQUALS SIGNS|EQUALS SIGN WITH TWO DOTS ABOVE AND TWO DOTS BELOW"),
  (0x2A78, "", "EQUIVALENT WITH FOUR DOTS ABOVE|LESS-THAN WITH CIRCLE INSIDE"),
  (0x2A7A, "", "GREATER-THAN WITH CIRCLE INSIDE|LESS-THAN WITH QUESTION MARK ABOVE"),
  (0x2A7C, "", "GREATER-THAN WITH QUESTION MARK ABOVE|LESS-THAN OR SLANTED EQUAL TO"),
  (0x2A7E, "", "GREATER-THAN OR SLANTED EQUAL TO|LESS-THAN OR SLANTED EQUAL TO WITH DOT INSIDE"),
  (0x2A80, "", "GREATER-THAN OR SLANTED EQUAL TO WITH DOT INSIDE"),
  (0x2A81, "", "LESS-THAN OR SLANTED EQUAL TO WITH DOT ABOVE"),
  (0x2A82, "", "GREATER-THAN OR SLANTED EQUAL TO WITH DOT ABOVE"),
  (0x2A83, "", "LESS-THAN OR SLANTED EQUAL TO WITH DOT ABOVE RIGHT"),
  (0x2A84, "", "GREATER-THAN OR SLANTED EQUAL TO WITH DOT ABOVE LEFT"),
  (0x2A85, "", "LESS-THAN OR APPROXIMATE|GREATER-THAN OR APPROXIMATE"),
  (0x2A87, "", "LESS-THAN AND SINGLE-LINE NOT EQUAL TO|GREATER-THAN AND SINGLE-LINE NOT EQUAL TO"),
  (0x2A89, "", "LESS-THAN AND NOT APPROXIMATE|GREATER-THAN AND NOT APPROXIMATE"),
  (0x2A8B, "", "LESS-THAN ABOVE DOUBLE-LINE EQUAL ABOVE GREATER-THAN"),
  (0x2A8C, "", "GREATER-THAN ABOVE DOUBLE-LINE EQUAL ABOVE LESS-THAN"),
  (0x2A8D, "", "LESS-THAN ABOVE SIMILAR OR EQUAL"),
  (0x2A8E, "", "GREATER-THAN ABOVE SIMILAR OR EQUAL|LESS-THAN ABOVE SIMILAR ABOVE GREATER-THAN"),
  (0x2A90, "", "GREATER-THAN ABOVE SIMILAR ABOVE LESS-THAN"),
  (0x2A91, "", "LESS-THAN ABOVE GREATER-THAN ABOVE DOUBLE-LINE EQUAL"),
  (0x2A92, "", "GREATER-THAN ABOVE LESS-THAN ABOVE DOUBLE-LINE EQUAL"),
  (0x2A93, "", "LESS-THAN ABOVE SLANTED EQUAL ABOVE GREATER-THAN ABOVE SLANTED EQUAL"),
  (0x2A94, "", "GREATER-THAN ABOVE SLANTED EQUAL ABOVE LESS-THAN ABOVE SLANTED EQUAL"),
  (0x2A95, "SLANTED EQUAL TO OR ", "LESS-THAN|GREATER-THAN"),
  (0x2A97, "SLANTED EQUAL TO OR ", "LESS-THAN WITH DOT INSIDE|GREATER-THAN WITH DOT INSIDE"),
  (0x2A99, "DOUBLE-LINE EQUAL TO OR ", "LESS-THAN|GREATER-THAN"),
  (0x2A9B, "DOUBLE-LINE SLANTED EQUAL TO OR ", "LESS-THAN|GREATER-THAN"),
  (0x2A9D, "SIMILAR OR ", "LESS-THAN|GREATER-THAN"),
  (0x2A9F, "SIMILAR ABOVE ", "LESS-THAN ABOVE EQUALS SIGN|GREATER-THAN ABOVE EQUALS SIGN"),
  (0x2AA1, "DOUBLE NESTED ", "LESS-THAN|GREATER-THAN|LESS-THAN WITH UNDERBAR"),
  (0x2AA4, "GREATER-THAN ", "OVERLAPPING LESS-THAN|BESIDE LESS-THAN"),
  (0x2AA6, "", "LESS-THAN CLOSED BY CURVE"),
  (0x2AA7, "", "GREATER-THAN CLOSED BY CURVE|LESS-THAN CLOSED BY CURVE ABOVE SLANTED EQUAL"),
  (0x2AA9, "", "GREATER-THAN CLOSED BY CURVE ABOVE SLANTED EQUAL|SMALLER THAN|LARGER THAN"),
  (0x2AAC, "", "SMALLER THAN OR EQUAL TO|LARGER THAN OR EQUAL TO|EQUALS SIGN WITH BUMPY ABOVE"),
  (0x2AAF, "", "PRECEDES ABOVE SINGLE-LINE EQUALS SIGN|SUCCEEDS ABOVE SINGLE-LINE EQUALS SIGN"),
  (0x2AB1, "", "PRECEDES ABOVE SINGLE-LINE NOT EQUAL TO|SUCCEEDS ABOVE SINGLE-LINE NOT EQUAL TO"),
  (0x2AB3, "", "PRECEDES ABOVE EQUALS SIGN|SUCCEEDS ABOVE EQUALS SIGN"),
  (0x2AB5, "", "PRECEDES ABOVE NOT EQUAL TO|SUCCEEDS ABOVE NOT EQUAL TO"),
  (0x2AB7, "", "PRECEDES ABOVE ALMOST EQUAL TO|SUCCEEDS ABOVE ALMOST EQUAL TO"),
  (0x2AB9, "", "PRECEDES ABOVE NOT ALMOST EQUAL TO|SUCCEEDS ABOVE NOT ALMOST EQUAL TO"),
  (0x2ABB, "", "DOUBLE PRECEDES|DOUBLE SUCCEEDS|SUBSET WITH DOT"),
  (0x2ABE, "", "SUPERSET WITH DOT|SUBSET WITH PLUS SIGN BELOW|SUPERSET WITH PLUS SIGN BELOW"),
  (0x2AC1, "", "SUBSET WITH MULTIPLICATION SIGN BELOW|SUPERSET WITH MULTIPLICATION SIGN BELOW"),
  (0x2AC3, "", "SUBSET OF OR EQUAL TO WITH DOT ABOVE|SUPERSET OF OR EQUAL TO WITH DOT ABOVE"),
  (0x2AC5, "", "SUBSET OF ABOVE EQUALS SIGN|SUPERSET OF ABOVE EQUALS SIGN"),
  (0x2AC7, "", "SUBSET OF ABOVE TILDE OPERATOR|SUPERSET OF ABOVE TILDE OPERATOR"),
  (0x2AC9, "", "SUBSET OF ABOVE ALMOST EQUAL TO|SUPERSET OF ABOVE ALMOST EQUAL TO"),
  (0x2ACB, "", "SUBSET OF ABOVE NOT EQUAL TO|SUPERSET OF ABOVE NOT EQUAL TO"),
  (0x2ACD, "SQUARE ", "LEFT OPEN BOX OPERATOR|RIGHT OPEN BOX OPERATOR"),
  (0x2ACF, "CLOSED ", "SUBSET|SUPERSET|SUBSET OR EQUAL TO|SUPERSET OR EQUAL TO"),
  (0x2AD3, "", "SUBSET ABOVE SUPERSET|SUPERSET ABOVE SUBSET|SUBSET ABOVE SUBSET"),
  (0x2AD6, "SUPERSET ", "ABOVE SUPERSET|BESIDE SUBSET|BESIDE AND JOINED BY DASH WITH SUBSET"),
  (0x2AD9, "", "ELEMENT OF OPENING DOWNWARDS"),
  (0x2ADA, "", "PITCHFORK WITH TEE TOP|TRANSVERSAL INTERSECTION|FORKING"),
  (0x2ADD, "", "NONFORKING|SHORT LEFT TACK|SHORT DOWN TACK|SHORT UP TACK|PERPENDICULAR WITH S"),
  (0x2AE2, "", "VERTICAL BAR TRIPLE RIGHT TURNSTILE|DOUBLE VERTICAL BAR LEFT TURNSTILE"),
  (0x2AE4, "", "VERTICAL BAR DOUBLE LEFT TURNSTILE|DOUBLE VERTICAL BAR DOUBLE LEFT TURNSTILE"),
  (0x2AE6, "", "LONG DASH FROM LEFT MEMBER OF DOUBLE VERTICAL|SHORT DOWN TACK WITH OVERBAR"),
  (0x2AE8, "SHORT UP TACK ", "WITH UNDERBAR|ABOVE SHORT DOWN TACK"),
  (0x2AEA, "DOUBLE ", "DOWN TACK|UP TACK|STROKE NOT SIGN"),
  (0x2AED, "", "REVERSED DOUBLE STROKE NOT SIGN|DOES NOT DIVIDE WITH REVERSED NEGATION SLASH"),
  (0x2AEF, "VERTICAL LINE WITH CIRCLE ", "ABOVE|BELOW"),
  (0x2AF1, "", "DOWN TACK WITH CIRCLE BELOW"),
  (0x2AF2, "PARALLEL WITH ", "HORIZONTAL STROKE|TILDE OPERATOR"),
  (0x2AF4, "TRIPLE VERTICAL BAR ", "BINARY RELATION|WITH HORIZONTAL STROKE"),
  (0x2AF6, "TRIPLE ", "COLON OPERATOR|NESTED LESS-THAN|NESTED GREATER-THAN"),
  (0x2AF9, "DOUBLE-LINE SLANTED ", "LESS-THAN OR EQUAL TO|GREATER-THAN OR EQUAL TO"),
  (0x2AFB, "", "TRIPLE SOLIDUS BINARY RELATION|LARGE TRIPLE VERTICAL BAR OPERATOR"),
  (0x2AFD, "", "DOUBLE SOLIDUS OPERATOR|WHITE VERTICAL BAR|N-ARY WHITE VERTICAL BAR"),
  (0x2B00, "NORTH ", "EAST WHITE ARROW|WEST WHITE ARROW"),
  (0x2B02, "", "SOUTH EAST WHITE ARROW|SOUTH WEST WHITE ARROW|LEFT RIGHT WHITE ARROW"),
  (0x2B05, "", "LEFTWARDS BLACK ARROW|UPWARDS BLACK ARROW|DOWNWARDS BLACK ARROW"),
  (0x2B08, "", "NORTH EAST BLACK ARROW|NORTH WEST BLACK ARROW|SOUTH EAST BLACK ARROW"),
  (0x2B0B, "", "SOUTH WEST BLACK ARROW|LEFT RIGHT BLACK ARROW|UP DOWN BLACK ARROW"),
  (0x2B0E, "RIGHTWARDS ARROW WITH TIP ", "DOWNWARDS|UPWARDS"),
  (0x2B10, "LEFTWARDS ARROW WITH TIP ", "DOWNWARDS|UPWARDS"),
  (0x2B12, "SQUARE WITH ", "TOP HALF BLACK|BOTTOM HALF BLACK"),
  (0x2B14, "SQUARE WITH ", "UPPER RIGHT DIAGONAL HALF BLACK|LOWER LEFT DIAGONAL HALF BLACK"),
  (0x2B16, "DIAMOND WITH ", "LEFT HALF BLACK|RIGHT HALF BLACK|TOP HALF BLACK|BOTTOM HALF BLACK"),
  (0x2B1A, "", "DOTTED SQUARE|BLACK LARGE SQUARE|WHITE LARGE SQUARE|BLACK VERY SMALL SQUARE"),
  (0x2B1E, "", "WHITE VERY SMALL SQUARE|BLACK PENTAGON|WHITE PENTAGON|WHITE HEXAGON"),
  (0x2B22, "", "BLACK HEXAGON|HORIZONTAL BLACK HEXAGON|BLACK LARGE CIRCLE|BLACK MEDIUM DIAMOND"),
  (0x2B26, "", "WHITE MEDIUM DIAMOND|BLACK MEDIUM LOZENGE|WHITE MEDIUM LOZENGE"),
  (0x2B29, "BLACK SMALL ", "DIAMOND|LOZENGE"),
  (0x2B2B, "", "WHITE SMALL LOZENGE|BLACK HORIZONTAL ELLIPSE|WHITE HORIZONTAL ELLIPSE"),
  (0x2B2E, "", "BLACK VERTICAL ELLIPSE|WHITE VERTICAL ELLIPSE|LEFT ARROW WITH SMALL CIRCLE"),
  (0x2B31, "", "THREE LEFTWARDS ARROWS|LEFT ARROW WITH CIRCLED PLUS|LONG LEFTWARDS SQUIGGLE ARROW"),
  (0x2B34, "LEFTWARDS TWO-HEADED ARROW WITH ", "VERTICAL STROKE|DOUBLE VERTICAL STROKE"),
  (0x2B36, "LEFTWARDS TWO-HEADED ", "ARROW FROM BAR|TRIPLE DASH ARROW"),
  (0x2B38, "LEFTWARDS ARROW WITH ", "DOTTED STEM|TAIL WITH VERTICAL STROKE"),
  (0x2B3A, "LEFTWARDS ", "ARROW WITH TAIL WITH DOUBLE VERTICAL STROKE|TWO-HEADED ARROW WITH TAIL"),
  (0x2B3C, "LEFTWARDS TWO-HEADED ARROW WITH TAIL WITH ", "VERTICAL STROKE|DOUBLE VERTICAL STROKE"),
  (0x2B3E, "", "LEFTWARDS ARROW THROUGH X|WAVE ARROW POINTING DIRECTLY LEFT"),
  (0x2B40, "", "EQUALS SIGN ABOVE LEFTWARDS ARROW|REVERSE TILDE OPERATOR ABOVE LEFTWARDS ARROW"),
  (0x2B42, "", "LEFTWARDS ARROW ABOVE REVERSE ALMOST EQUAL TO"),
  (0x2B43, "RIGHTWARDS ARROW THROUGH ", "GREATER-THAN|SUPERSET"),
  (0x2B45, "", "LEFTWARDS QUADRUPLE ARROW"),
  (0x2B46, "", "RIGHTWARDS QUADRUPLE ARROW|REVERSE TILDE OPERATOR ABOVE RIGHTWARDS ARROW"),
  (0x2B48, "", "RIGHTWARDS ARROW ABOVE REVERSE ALMOST EQUAL TO"),
  (0x2B49, "", "TILDE OPERATOR ABOVE LEFTWARDS ARROW"),
  (0x2B4A, "LEFTWARDS ARROW ABOVE ", "ALMOST EQUAL TO|REVERSE TILDE OPERATOR"),
  (0x2B4C, "", "RIGHTWARDS ARROW ABOVE REVERSE TILDE OPERATOR"),
  (0x2B4D, "", "DOWNWARDS TRIANGLE-HEADED ZIGZAG ARROW|SHORT SLANTED NORTH ARROW"),
  (0x2B4F, "", "SHORT BACKSLANTED SOUTH ARROW|WHITE MEDIUM STAR|BLACK SMALL STAR"),
  (0x2B52, "", "WHITE SMALL STAR|BLACK RIGHT-POINTING PENTAGON|WHITE RIGHT-POINTING PENTAGON"),
  (0x2B55, "HEAVY ", "LARGE CIRCLE|OVAL WITH OVAL INSIDE|CIRCLE WITH CIRCLE INSIDE|CIRCLE"),
  (0x2B59, "", "HEAVY CIRCLED SALTIRE|SLANTED NORTH ARROW WITH HOOKED HEAD"),
  (0x2B5B, "", "BACKSLANTED SOUTH ARROW WITH HOOKED TAIL|SLANTED NORTH ARROW WITH HORIZONTAL TAIL"),
  (0x2B5D, "", "BACKSLANTED SOUTH ARROW WITH HORIZONTAL TAIL"),
  (0x2B5E, "", "BENT ARROW POINTING DOWNWARDS THEN NORTH EAST"),
  (0x2B5F, "", "SHORT BENT ARROW POINTING DOWNWARDS THEN NORTH EAST"),
  (0x2B60, "", "LEFTWARDS TRIANGLE-HEADED ARROW|UPWARDS TRIANGLE-HEADED ARROW"),
  (0x2B62, "", "RIGHTWARDS TRIANGLE-HEADED ARROW|DOWNWARDS TRIANGLE-HEADED ARROW"),
  (0x2B64, "", "LEFT RIGHT TRIANGLE-HEADED ARROW|UP DOWN TRIANGLE-HEADED ARROW"),
  (0x2B66, "NORTH ", "WEST TRIANGLE-HEADED ARROW|EAST TRIANGLE-HEADED ARROW"),
  (0x2B68, "SOUTH ", "EAST TRIANGLE-HEADED ARROW|WEST TRIANGLE-HEADED ARROW"),
  (0x2B6A, "", "LEFTWARDS TRIANGLE-HEADED DASHED ARROW|UPWARDS TRIANGLE-HEADED DASHED ARROW"),
  (0x2B6C, "", "RIGHTWARDS TRIANGLE-HEADED DASHED ARROW|DOWNWARDS TRIANGLE-HEADED DASHED ARROW"),
  (0x2B6E, "", "CLOCKWISE TRIANGLE-HEADED OPEN CIRCLE ARROW"),
  (0x2B6F, "", "ANTICLOCKWISE TRIANGLE-HEADED OPEN CIRCLE ARROW"),
  (0x2B70, "", "LEFTWARDS TRIANGLE-HEADED ARROW TO BAR|UPWARDS TRIANGLE-HEADED ARROW TO BAR"),
  (0x2B72, "", "RIGHTWARDS TRIANGLE-HEADED ARROW TO BAR|DOWNWARDS TRIANGLE-HEADED ARROW TO BAR"),
  (0x2B76, "NORTH ", "WEST TRIANGLE-HEADED ARROW TO BAR|EAST TRIANGLE-HEADED ARROW TO BAR"),
  (0x2B78, "SOUTH ", "EAST TRIANGLE-HEADED ARROW TO BAR|WEST TRIANGLE-HEADED ARROW TO BAR"),
  (0x2B7A, "", "LEFTWARDS TRIANGLE-HEADED ARROW WITH DOUBLE HORIZONTAL STROKE"),
  (0x2B7B, "", "UPWARDS TRIANGLE-HEADED ARROW WITH DOUBLE HORIZONTAL STROKE"),
  (0x2B7C, "", "RIGHTWARDS TRIANGLE-HEADED ARROW WITH DOUBLE HORIZONTAL STROKE"),
  (0x2B7D, "", "DOWNWARDS TRIANGLE-HEADED ARROW WITH DOUBLE HORIZONTAL STROKE"),
  (0x2B7E, "", "HORIZONTAL TAB KEY|VERTICAL TAB KEY"),
  (0x2B80, "", "LEFTWARDS TRIANGLE-HEADED ARROW OVER RIGHTWARDS TRIANGLE-HEADED ARROW"),
  (0x2B81, "", "UPWARDS TRIANGLE-HEADED ARROW LEFTWARDS OF DOWNWARDS TRIANGLE-HEADED ARROW"),
  (0x2B82, "", "RIGHTWARDS TRIANGLE-HEADED ARROW OVER LEFTWARDS TRIANGLE-HEADED ARROW"),
  (0x2B83, "", "DOWNWARDS TRIANGLE-HEADED ARROW LEFTWARDS OF UPWARDS TRIANGLE-HEADED ARROW"),
  (0x2B84, "", "LEFTWARDS TRIANGLE-HEADED PAIRED ARROWS|UPWARDS TRIANGLE-HEADED PAIRED ARROWS"),
  (0x2B86, "", "RIGHTWARDS TRIANGLE-HEADED PAIRED ARROWS|DOWNWARDS TRIANGLE-HEADED PAIRED ARROWS"),
  (0x2B88, "", "LEFTWARDS BLACK CIRCLED WHITE ARROW|UPWARDS BLACK CIRCLED WHITE ARROW"),
  (0x2B8A, "", "RIGHTWARDS BLACK CIRCLED WHITE ARROW|DOWNWARDS BLACK CIRCLED WHITE ARROW"),
  (0x2B8C, "ANTICLOCKWISE TRIANGLE-HEADED ", "RIGHT U-SHAPED ARROW|BOTTOM U-SHAPED ARROW"),
  (0x2B8E, "ANTICLOCKWISE TRIANGLE-HEADED ", "LEFT U-SHAPED ARROW|TOP U-SHAPED ARROW"),
  (0x2B90, "", "RETURN LEFT|RETURN RIGHT|NEWLINE LEFT"),
  (0x2B93, "", "NEWLINE RIGHT|FOUR CORNER ARROWS CIRCLING ANTICLOCKWISE|RIGHTWARDS BLACK ARROW"),
  (0x2B97, "", "SYMBOL FOR TYPE A ELECTRONICS|THREE-D TOP-LIGHTED LEFTWARDS EQUILATERAL ARROWHEAD"),
  (0x2B99, "", "THREE-D RIGHT-LIGHTED UPWARDS EQUILATERAL ARROWHEAD"),
  (0x2B9A, "", "THREE-D TOP-LIGHTED RIGHTWARDS EQUILATERAL ARROWHEAD"),
  (0x2B9B, "", "THREE-D LEFT-LIGHTED DOWNWARDS EQUILATERAL ARROWHEAD"),
  (0x2B9C, "BLACK ", "LEFTWARDS EQUILATERAL ARROWHEAD|UPWARDS EQUILATERAL ARROWHEAD"),
  (0x2B9E, "BLACK ", "RIGHTWARDS EQUILATERAL ARROWHEAD|DOWNWARDS EQUILATERAL ARROWHEAD"),
  (0x2BA0, "DOWNWARDS TRIANGLE-HEADED ARROW WITH LONG TIP ", "LEFTWARDS|RIGHTWARDS"),
  (0x2BA2, "UPWARDS TRIANGLE-HEADED ARROW WITH LONG TIP ", "LEFTWARDS|RIGHTWARDS"),
  (0x2BA4, "", "LEFTWARDS TRIANGLE-HEADED ARROW WITH LONG TIP UPWARDS"),
  (0x2BA5, "", "RIGHTWARDS TRIANGLE-HEADED ARROW WITH LONG TIP UPWARDS"),
  (0x2BA6, "", "LEFTWARDS TRIANGLE-HEADED ARROW WITH LONG TIP DOWNWARDS"),
  (0x2BA7, "", "RIGHTWARDS TRIANGLE-HEADED ARROW WITH LONG TIP DOWNWARDS"),
  (0x2BA8, "BLACK CURVED DOWNWARDS AND ", "LEFTWARDS ARROW|RIGHTWARDS ARROW"),
  (0x2BAA, "BLACK CURVED UPWARDS AND ", "LEFTWARDS ARROW|RIGHTWARDS ARROW"),
  (0x2BAC, "BLACK CURVED ", "LEFTWARDS AND UPWARDS ARROW|RIGHTWARDS AND UPWARDS ARROW"),
  (0x2BAE, "BLACK CURVED ", "LEFTWARDS AND DOWNWARDS ARROW|RIGHTWARDS AND DOWNWARDS ARROW"),
  (0x2BB0, "RIBBON ARROW DOWN ", "LEFT|RIGHT"),
  (0x2BB2, "RIBBON ARROW ", "UP LEFT|UP RIGHT|LEFT UP|RIGHT UP|LEFT DOWN|RIGHT DOWN"),
  (0x2BB8, "", "UPWARDS WHITE ARROW FROM BAR WITH HORIZONTAL BAR|UP ARROWHEAD IN A RECTANGLE BOX"),
  (0x2BBA, "OVERLAPPING ", "WHITE SQUARES|WHITE AND BLACK SQUARES|BLACK SQUARES"),
  (0x2BBD, "", "BALLOT BOX WITH LIGHT X|CIRCLED X|CIRCLED BOLD X"),
  (0x2BC0, "BLACK ", "SQUARE CENTRED|DIAMOND CENTRED"),
  (0x2BC2, "", "TURNED BLACK PENTAGON|HORIZONTAL BLACK OCTAGON|BLACK OCTAGON"),
  (0x2BC5, "BLACK MEDIUM ", "UP-POINTING TRIANGLE CENTRED|DOWN-POINTING TRIANGLE CENTRED"),
  (0x2BC7, "BLACK MEDIUM ", "LEFT-POINTING TRIANGLE CENTRED|RIGHT-POINTING TRIANGLE CENTRED"),
  (0x2BC9, "", "NEPTUNE FORM TWO|TOP HALF BLACK CIRCLE|BOTTOM HALF BLACK CIRCLE"),
  (0x2BCC, "", "LIGHT FOUR POINTED BLACK CUSP|ROTATED LIGHT FOUR POINTED BLACK CUSP"),
  (0x2BCE, "", "WHITE FOUR POINTED CUSP|ROTATED WHITE FOUR POINTED CUSP"),
  (0x2BD0, "", "SQUARE POSITION INDICATOR|UNCERTAINTY SIGN|GROUP MARK"),
  (0x2BD3, "PLUTO FORM ", "TWO|THREE|FOUR|FIVE"),
  (0x2BD7, "", "TRANSPLUTO|PROSERPINA|ASTRAEA|HYGIEA|PHOLUS|NESSUS|WHITE MOON SELENA"),
  (0x2BDE, "", "BLACK DIAMOND ON CROSS|TRUE LIGHT MOON ARTA|CUPIDO|HADES|ZEUS|KRONOS"),
  (0x2BE4, "", "APOLLON|ADMETOS|VULCANUS|POSEIDON|LEFT HALF BLACK STAR|RIGHT HALF BLACK STAR"),
  (0x2BEA, "STAR WITH ", "LEFT HALF BLACK|RIGHT HALF BLACK"),
  (0x2BEC, "", "LEFTWARDS TWO-HEADED ARROW WITH TRIANGLE ARROWHEADS"),
  (0x2BED, "", "UPWARDS TWO-HEADED ARROW WITH TRIANGLE ARROWHEADS"),
  (0x2BEE, "", "RIGHTWARDS TWO-HEADED ARROW WITH TRIANGLE ARROWHEADS"),
  (0x2BEF, "", "DOWNWARDS TWO-HEADED ARROW WITH TRIANGLE ARROWHEADS"),
  (0x2BF0, "", "ERIS FORM ONE|ERIS FORM TWO|SEDNA"),
  (0x2BF3, "RUSSIAN ASTROLOGICAL SYMBOL ", "VIGINTILE|NOVILE|QUINTILE|BINOVILE|SENTAGON|TREDECILE"),
  (0x2BF9, "", "EQUALS SIGN WITH INFINITY BELOW|UNITED SYMBOL|SEPARATED SYMBOL"),
  (0x2BFC, "", "DOUBLED SYMBOL|PASSED SYMBOL|REVERSED RIGHT ANGLE|HELLSCHREIBER PAUSE SYMBOL"),
  (0x3000, "IDEOGRAPHIC ", "SPACE|COMMA|FULL STOP"),
  (0x3003, "", "DITTO MARK|JAPANESE INDUSTRIAL STANDARD SYMBOL"),
  (0x3005, "IDEOGRAPHIC ", "ITERATION MARK|CLOSING MARK|NUMBER ZERO"),
  (0x3008, "", "LEFT ANGLE BRACKET"),
  (0x3009, "", "RIGHT ANGLE BRACKET|LEFT DOUBLE ANGLE BRACKET|RIGHT DOUBLE ANGLE BRACKET"),
  (0x300C, "", "LEFT CORNER BRACKET|RIGHT CORNER BRACKET|LEFT WHITE CORNER BRACKET"),
  (0x300F, "", "RIGHT WHITE CORNER BRACKET|LEFT BLACK LENTICULAR BRACKET"),
  (0x3011, "", "RIGHT BLACK LENTICULAR BRACKET|POSTAL MARK|GETA MARK|LEFT TORTOISE SHELL BRACKET"),
  (0x3015, "", "RIGHT TORTOISE SHELL BRACKET|LEFT WHITE LENTICULAR BRACKET"),
  (0x3017, "", "RIGHT WHITE LENTICULAR BRACKET|LEFT WHITE TORTOISE SHELL BRACKET"),
  (0x3019, "", "RIGHT WHITE TORTOISE SHELL BRACKET|LEFT WHITE SQUARE BRACKET"),
  (0x301B, "", "RIGHT WHITE SQUARE BRACKET|WAVE DASH|REVERSED DOUBLE PRIME QUOTATION MARK"),
  (0x301E, "", "DOUBLE PRIME QUOTATION MARK|LOW DOUBLE PRIME QUOTATION MARK|POSTAL MARK FACE"),
  (0x3021, "HANGZHOU NUMERAL ", "ONE|TWO|THREE|FOUR|FIVE|SIX|SEVEN|EIGHT|NINE"),
  (0x302A, "", "IDEOGRAPHIC LEVEL TONE MARK"),
  (0x302B, "IDEOGRAPHIC ", "RISING TONE MARK|DEPARTING TONE MARK|ENTERING TONE MARK"),
  (0x302E, "", "HANGUL SINGLE DOT TONE MARK|HANGUL DOUBLE DOT TONE MARK|WAVY DASH"),
  (0x3031, "VERTICAL KANA REPEAT ", "MARK|WITH VOICED SOUND MARK|MARK UPPER HALF"),
  (0x3034, "VERTICAL KANA REPEAT ", "WITH VOICED SOUND MARK UPPER HALF|MARK LOWER HALF"),
  (0x3036, "", "CIRCLED POSTAL MARK|IDEOGRAPHIC TELEGRAPH LINE FEED SEPARATOR SYMBOL"),
  (0x3038, "HANGZHOU NUMERAL ", "TEN|TWENTY|THIRTY"),
  (0x303B, "", "VERTICAL IDEOGRAPHIC ITERATION MARK|MASU MARK|PART ALTERNATION MARK"),
  (0x303E, "IDEOGRAPHIC ", "VARIATION INDICATOR|HALF FILL SPACE"),
  (0x3041, "HIRAGANA LETTER ", "SMALL A|A|SMALL I|I|SMALL U|U|SMALL E|E|SMALL O|O|KA|GA|KI|GI|KU"),
  (0x3050, "HIRAGANA LETTER ", "GU|KE|GE|KO|GO|SA|ZA|SI|ZI|SU|ZU|SE|ZE|SO|ZO|TA|DA|TI|DI|SMALL TU"),
  (0x3064, "HIRAGANA LETTER ", "TU|DU|TE|DE|TO|DO|NA|NI|NU|NE|NO|HA|BA|PA|HI|BI|PI|HU|BU|PU"),
  (0x3078, "HIRAGANA LETTER ", "HE|BE|PE|HO|BO|PO|MA|MI|MU|ME|MO|SMALL YA|YA|SMALL YU|YU|SMALL YO"),
  (0x3088, "HIRAGANA LETTER ", "YO|RA|RI|RU|RE|RO|SMALL WA|WA|WI|WE|WO|N|VU|SMALL KA|SMALL KE"),
  (0x3099, "COMBINING KATAKANA-HIRAGANA ", "VOICED SOUND MARK|SEMI-VOICED SOUND MARK"),
  (0x309B, "KATAKANA-HIRAGANA ", "VOICED SOUND MARK|SEMI-VOICED SOUND MARK"),
  (0x309D, "HIRAGANA ", "ITERATION MARK|VOICED ITERATION MARK|DIGRAPH YORI"),
  (0x30A0, "", "KATAKANA-HIRAGANA DOUBLE HYPHEN"),
  (0x30A1, "KATAKANA LETTER ", "SMALL A|A|SMALL I|I|SMALL U|U|SMALL E|E|SMALL O|O|KA|GA|KI|GI|KU"),
  (0x30B0, "KATAKANA LETTER ", "GU|KE|GE|KO|GO|SA|ZA|SI|ZI|SU|ZU|SE|ZE|SO|ZO|TA|DA|TI|DI|SMALL TU"),
  (0x30C4, "KATAKANA LETTER ", "TU|DU|TE|DE|TO|DO|NA|NI|NU|NE|NO|HA|BA|PA|HI|BI|PI|HU|BU|PU|HE|BE"),
  (0x30DA, "KATAKANA LETTER ", "PE|HO|BO|PO|MA|MI|MU|ME|MO|SMALL YA|YA|SMALL YU|YU|SMALL YO|YO|RA"),
  (0x30EA, "KATAKANA LETTER ", "RI|RU|RE|RO|SMALL WA|WA|WI|WE|WO|N|VU|SMALL KA|SMALL KE|VA|VI|VE"),
  (0x30FA, "", "KATAKANA LETTER VO|KATAKANA MIDDLE DOT|KATAKANA-HIRAGANA PROLONGED SOUND MARK"),
  (0x30FD, "KATAKANA ", "ITERATION MARK|VOICED ITERATION MARK|DIGRAPH KOTO"),
  (0xFB00, "LATIN SMALL LIGATURE ", "FF|FI|FL|FFI|FFL|LONG S T|ST"),
  (0xFE00, "VARIATION ", "SELECTOR-1|SELECTOR-2|SELECTOR-3|SELECTOR-4"),
  (0xFE04, "VARIATION ", "SELECTOR-5|SELECTOR-6|SELECTOR-7|SELECTOR-8|SELECTOR-9|SELECTOR-10"),
  (0xFE0A, "VARIATION ", "SELECTOR-11|SELECTOR-12|SELECTOR-13|SELECTOR-14|SELECTOR-15|SELECTOR-16"),
  (0xFEFF, "", "ZERO WIDTH NO-BREAK SPACE"),
  (0xFF01, "FULLWIDTH ", "EXCLAMATION MARK|QUOTATION MARK|NUMBER SIGN|DOLLAR SIGN"),
  (0xFF05, "FULLWIDTH ", "PERCENT SIGN|AMPERSAND|APOSTROPHE|LEFT PARENTHESIS|RIGHT PARENTHESIS"),
  (0xFF0A, "FULLWIDTH ", "ASTERISK|PLUS SIGN|COMMA|HYPHEN-MINUS|FULL STOP|SOLIDUS"),
  (0xFF10, "FULLWIDTH DIGIT ", "ZERO|ONE|TWO|THREE|FOUR|FIVE|SIX|SEVEN|EIGHT|NINE"),
  (0xFF1A, "FULLWIDTH ", "COLON|SEMICOLON|LESS-THAN SIGN"),
  (0xFF1D, "FULLWIDTH ", "EQUALS SIGN|GREATER-THAN SIGN|QUESTION MARK|COMMERCIAL AT"),
  (0xFF21, "FULLWIDTH LATIN CAPITAL LETTER ", "A|B|C|D|E|F|G|H|I|J|K|L|M|N|O|P|Q|R|S|T|U|V|W|X|Y"),
  (0xFF3A, "FULLWIDTH ", "LATIN CAPITAL LETTER Z|LEFT SQUARE BRACKET|REVERSE SOLIDUS"),
  (0xFF3D, "FULLWIDTH ", "RIGHT SQUARE BRACKET|CIRCUMFLEX ACCENT|LOW LINE|GRAVE ACCENT"),
  (0xFF41, "FULLWIDTH LATIN SMALL LETTER ", "A|B|C|D|E|F|G|H|I|J|K|L|M|N|O|P|Q|R|S|T|U|V|W|X|Y|Z"),
  (0xFF5B, "FULLWIDTH ", "LEFT CURLY BRACKET|VERTICAL LINE|RIGHT CURLY BRACKET|TILDE"),
  (0xFFF9, "INTERLINEAR ANNOTATION ", "ANCHOR|SEPARATOR|TERMINATOR"),
  (0xFFFC, "", "OBJECT REPLACEMENT CHARACTER|REPLACEMENT CHARACTER")]

end ClientPlan.Text
