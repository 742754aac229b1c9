/-!
# Names of code points: signs

The names of code points from `2000` to `33FF`: punctuation, signs,
mathematics, frames and letters.

A row has the names of code points that follow one another, from the first one on,
with bars between them. A digit before a name counts the words that it shares with
the name before it, at their beginning; the name before the first of a row is the
last of the row above. A word ends after its blank or hyphen.
-/

namespace BenefitForm

/-- The first code points of rows, and their names. -/
def signNames : List (Nat × String) :=
  [(0x2000, "EN QUAD|EM QUAD|EN SPACE|EM SPACE|THREE-PER-EM SPACE|FOUR-PER-EM SPACE"),
   (0x2006, "SIX-PER-EM SPACE|FIGURE SPACE|PUNCTUATION SPACE|THIN SPACE|HAIR SPACE"),
   (0x200B, "ZERO WIDTH SPACE|2NON-JOINER|2JOINER|LEFT-TO-RIGHT MARK|RIGHT-TO-LEFT MARK|HYPHEN"),
   (0x2011, "NON-BREAKING HYPHEN|FIGURE DASH|EN DASH|EM DASH|HORIZONTAL BAR|DOUBLE VERTICAL LINE"),
   (0x2017, "1LOW LINE|LEFT SINGLE QUOTATION MARK|RIGHT SINGLE QUOTATION MARK"),
   (0x201A, "SINGLE LOW-9 QUOTATION MARK|1HIGH-REVERSED-9 QUOTATION MARK"),
   (0x201C, "LEFT DOUBLE QUOTATION MARK|RIGHT DOUBLE QUOTATION MARK|DOUBLE LOW-9 QUOTATION MARK"),
   (0x201F, "1HIGH-REVERSED-9 QUOTATION MARK|DAGGER|DOUBLE DAGGER|BULLET|TRIANGULAR BULLET"),
   (0x2024, "ONE DOT LEADER|TWO DOT LEADER|HORIZONTAL ELLIPSIS|HYPHENATION POINT|LINE SEPARATOR"),
   (0x2029, "PARAGRAPH SEPARATOR|LEFT-TO-RIGHT EMBEDDING|RIGHT-TO-LEFT EMBEDDING"),
   (0x202C, "POP DIRECTIONAL FORMATTING|LEFT-TO-RIGHT OVERRIDE|RIGHT-TO-LEFT OVERRIDE"),
   (0x202F, "NARROW NO-BREAK SPACE|PER MILLE SIGN|1TEN THOUSAND SIGN|PRIME|DOUBLE PRIME"),
   (0x2034, "TRIPLE PRIME|REVERSED PRIME|1DOUBLE PRIME|1TRIPLE PRIME|CARET"),
   (0x2039, "SINGLE LEFT-POINTING ANGLE QUOTATION MARK|1RIGHT-POINTING ANGLE QUOTATION MARK"),
   (0x203B, "REFERENCE MARK|DOUBLE EXCLAMATION MARK|INTERROBANG|OVERLINE|UNDERTIE|CHARACTER TIE"),
   (0x2041, "CARET INSERTION POINT|ASTERISM|HYPHEN BULLET|FRACTION SLASH"),
   (0x2045, "LEFT SQUARE BRACKET WITH QUILL|RIGHT SQUARE BRACKET WITH QUILL|DOUBLE QUESTION MARK"),
   (0x2048, "QUESTION EXCLAMATION MARK|EXCLAMATION QUESTION MARK|TIRONIAN SIGN ET"),
   (0x204B, "REVERSED PILCROW SIGN|BLACK LEFTWARDS BULLET|1RIGHTWARDS BULLET|LOW ASTERISK"),
   (0x204F, "REVERSED SEMICOLON|CLOSE UP|TWO ASTERISKS ALIGNED VERTICALLY|COMMERCIAL MINUS SIGN"),
   (0x2053, "SWUNG DASH|INVERTED UNDERTIE|FLOWER PUNCTUATION MARK|THREE DOT PUNCTUATION"),
   (0x2057, "QUADRUPLE PRIME|FOUR DOT PUNCTUATION|FIVE DOT PUNCTUATION|TWO DOT PUNCTUATION"),
   (0x205B, "FOUR DOT MARK|DOTTED CROSS|TRICOLON|VERTICAL FOUR DOTS|MEDIUM MATHEMATICAL SPACE"),
   (0x2060, "WORD JOINER|FUNCTION APPLICATION|INVISIBLE TIMES|1SEPARATOR|1PLUS"),
   (0x2066, "LEFT-TO-RIGHT ISOLATE|RIGHT-TO-LEFT ISOLATE|FIRST STRONG ISOLATE"),
   (0x2069, "POP DIRECTIONAL ISOLATE|INHIBIT SYMMETRIC SWAPPING|ACTIVATE SYMMETRIC SWAPPING"),
   (0x206C, "INHIBIT ARABIC FORM SHAPING|ACTIVATE ARABIC FORM SHAPING|NATIONAL DIGIT SHAPES"),
   (0x206F, "NOMINAL DIGIT SHAPES|SUPERSCRIPT ZERO|1LATIN SMALL LETTER I"),
   (0x2074, "1FOUR|1FIVE|1SIX|1SEVEN|1EIGHT|1NINE|1PLUS SIGN|1MINUS|1EQUALS SIGN"),
   (0x207D, "1LEFT PARENTHESIS|1RIGHT PARENTHESIS|1LATIN SMALL LETTER N|SUBSCRIPT ZERO|1ONE|1TWO"),
   (0x2083, "1THREE|1FOUR|1FIVE|1SIX|1SEVEN|1EIGHT|1NINE|1PLUS SIGN|1MINUS|1EQUALS SIGN"),
   (0x208D, "1LEFT PARENTHESIS|1RIGHT PARENTHESIS"),
   (0x2090, "LATIN SUBSCRIPT SMALL LETTER A|4E|4O|4X|4SCHWA|4H|4K|4L|4M|4N|4P|4S|4T"),
   (0x20A0, "EURO-CURRENCY SIGN|COLON SIGN|CRUZEIRO SIGN|FRENCH FRANC SIGN|LIRA SIGN|MILL SIGN"),
   (0x20A6, "NAIRA SIGN|PESETA SIGN|RUPEE SIGN|WON SIGN|NEW SHEQEL SIGN|DONG SIGN|EURO SIGN"),
   (0x20AD, "KIP SIGN|TUGRIK SIGN|DRACHMA SIGN|GERMAN PENNY SIGN|PESO SIGN|GUARANI SIGN"),
   (0x20B3, "AUSTRAL SIGN|HRYVNIA SIGN|CEDI SIGN|LIVRE TOURNOIS SIGN|SPESMILO SIGN|TENGE SIGN"),
   (0x20B9, "INDIAN RUPEE SIGN|TURKISH LIRA SIGN|NORDIC MARK SIGN|MANAT SIGN|RUBLE SIGN|LARI SIGN"),
   (0x20BF, "BITCOIN SIGN|SOM SIGN"),
   (0x20D0, "COMBINING LEFT HARPOON ABOVE|1RIGHT HARPOON ABOVE|1LONG VERTICAL LINE OVERLAY"),
   (0x20D3, "1SHORT VERTICAL LINE OVERLAY|1ANTICLOCKWISE ARROW ABOVE|1CLOCKWISE ARROW ABOVE"),
   (0x20D6, "1LEFT ARROW ABOVE|1RIGHT ARROW ABOVE|1RING OVERLAY|1CLOCKWISE RING OVERLAY"),
   (0x20DA, "1ANTICLOCKWISE RING OVERLAY|1THREE DOTS ABOVE|1FOUR DOTS ABOVE|1ENCLOSING CIRCLE"),
   (0x20DE, "2SQUARE|2DIAMOND|2CIRCLE BACKSLASH|1LEFT RIGHT ARROW ABOVE|1ENCLOSING SCREEN|2KEYCAP"),
   (0x20E4, "2UPWARD POINTING TRIANGLE|1REVERSE SOLIDUS OVERLAY|1DOUBLE VERTICAL STROKE OVERLAY"),
   (0x20E7, "1ANNUITY SYMBOL|1TRIPLE UNDERDOT|1WIDE BRIDGE ABOVE|1LEFTWARDS ARROW OVERLAY"),
   (0x20EB, "1LONG DOUBLE SOLIDUS OVERLAY|1RIGHTWARDS HARPOON WITH BARB DOWNWARDS"),
   (0x20ED, "1LEFTWARDS HARPOON WITH BARB DOWNWARDS|1LEFT ARROW BELOW|1RIGHT ARROW BELOW"),
   (0x20F0, "1ASTERISK ABOVE"),
   (0x2100, "ACCOUNT OF|ADDRESSED TO THE SUBJECT|DOUBLE-STRUCK CAPITAL C|DEGREE CELSIUS"),
   (0x2104, "CENTRE LINE SYMBOL|CARE OF|CADA UNA|EULER CONSTANT|SCRUPLE|DEGREE FAHRENHEIT"),
   (0x210A, "SCRIPT SMALL G|1CAPITAL H|BLACK-LETTER CAPITAL H|DOUBLE-STRUCK CAPITAL H"),
   (0x210E, "PLANCK CONSTANT|1CONSTANT OVER TWO PI|SCRIPT CAPITAL I|BLACK-LETTER CAPITAL I"),
   (0x2112, "SCRIPT CAPITAL L|1SMALL L|L B BAR SYMBOL|DOUBLE-STRUCK CAPITAL N|NUMERO SIGN"),
   (0x2117, "SOUND RECORDING COPYRIGHT|SCRIPT CAPITAL P|DOUBLE-STRUCK CAPITAL P|3Q"),
   (0x211B, "SCRIPT CAPITAL R|BLACK-LETTER CAPITAL R|DOUBLE-STRUCK CAPITAL R|PRESCRIPTION TAKE"),
   (0x211F, "RESPONSE|SERVICE MARK|TELEPHONE SIGN|TRADE MARK SIGN|VERSICLE"),
   (0x2124, "DOUBLE-STRUCK CAPITAL Z|OUNCE SIGN|OHM SIGN|INVERTED OHM SIGN|BLACK-LETTER CAPITAL Z"),
   (0x2129, "TURNED GREEK SMALL LETTER IOTA|KELVIN SIGN|ANGSTROM SIGN|SCRIPT CAPITAL B"),
   (0x212D, "BLACK-LETTER CAPITAL C|ESTIMATED SYMBOL|SCRIPT SMALL E|1CAPITAL E|2F"),
   (0x2132, "TURNED CAPITAL F|SCRIPT CAPITAL M|1SMALL O|ALEF SYMBOL|BET SYMBOL|GIMEL SYMBOL"),
   (0x2138, "DALET SYMBOL|INFORMATION SOURCE|ROTATED CAPITAL Q|FACSIMILE SIGN"),
   (0x213C, "DOUBLE-STRUCK SMALL PI|3GAMMA|2CAPITAL GAMMA|3PI|2N-ARY SUMMATION"),
   (0x2141, "TURNED SANS-SERIF CAPITAL G|4L|REVERSED SANS-SERIF CAPITAL L"),
   (0x2144, "TURNED SANS-SERIF CAPITAL Y|DOUBLE-STRUCK ITALIC CAPITAL D|3SMALL D|4E|4I|4J"),
   (0x214A, "PROPERTY LINE|TURNED AMPERSAND|PER SIGN|AKTIESELSKAB|TURNED SMALL F"),
   (0x214F, "SYMBOL FOR SAMARITAN SOURCE|VULGAR FRACTION ONE SEVENTH|3NINTH|3TENTH|3THIRD"),
   (0x2154, "2TWO THIRDS|2ONE FIFTH|2TWO FIFTHS|2THREE FIFTHS|2FOUR FIFTHS|2ONE SIXTH"),
   (0x215A, "2FIVE SIXTHS|2ONE EIGHTH|2THREE EIGHTHS|2FIVE EIGHTHS|2SEVEN EIGHTHS"),
   (0x215F, "FRACTION NUMERATOR ONE|ROMAN NUMERAL ONE|2TWO|2THREE|2FOUR|2FIVE|2SIX|2SEVEN|2EIGHT"),
   (0x2168, "2NINE|2TEN|2ELEVEN|2TWELVE|2FIFTY|2ONE HUNDRED|2FIVE HUNDRED|2ONE THOUSAND"),
   (0x2170, "SMALL ROMAN NUMERAL ONE|3TWO|3THREE|3FOUR|3FIVE|3SIX|3SEVEN|3EIGHT|3NINE|3TEN"),
   (0x217A, "3ELEVEN|3TWELVE|3FIFTY|3ONE HUNDRED|3FIVE HUNDRED|3ONE THOUSAND"),
   (0x2180, "ROMAN NUMERAL ONE THOUSAND C D|2FIVE THOUSAND|2TEN THOUSAND|2REVERSED ONE HUNDRED"),
   (0x2184, "LATIN SMALL LETTER REVERSED C|ROMAN NUMERAL SIX LATE FORM|2FIFTY EARLY FORM"),
   (0x2187, "3THOUSAND|2ONE HUNDRED THOUSAND|VULGAR FRACTION ZERO THIRDS|TURNED DIGIT TWO|2THREE"),
   (0x2190, "LEFTWARDS ARROW|UPWARDS ARROW|RIGHTWARDS ARROW|DOWNWARDS ARROW|LEFT RIGHT ARROW"),
   (0x2195, "UP DOWN ARROW|NORTH WEST ARROW|1EAST ARROW|SOUTH EAST ARROW|1WEST ARROW"),
   (0x219A, "LEFTWARDS ARROW WITH STROKE|RIGHTWARDS ARROW WITH STROKE|LEFTWARDS WAVE ARROW"),
   (0x219D, "RIGHTWARDS WAVE ARROW|LEFTWARDS TWO HEADED ARROW|UPWARDS TWO HEADED ARROW"),
   (0x21A0, "RIGHTWARDS TWO HEADED ARROW|DOWNWARDS TWO HEADED ARROW|LEFTWARDS ARROW WITH TAIL"),
   (0x21A3, "RIGHTWARDS ARROW WITH TAIL|LEFTWARDS ARROW FROM BAR|UPWARDS ARROW FROM BAR"),
   (0x21A6, "RIGHTWARDS ARROW FROM BAR|DOWNWARDS ARROW FROM BAR|UP DOWN ARROW WITH BASE"),
   (0x21A9, "LEFTWARDS ARROW WITH HOOK|RIGHTWARDS ARROW WITH HOOK|LEFTWARDS ARROW WITH LOOP"),
   (0x21AC, "RIGHTWARDS ARROW WITH LOOP|LEFT RIGHT WAVE ARROW|2ARROW WITH STROKE"),
   (0x21AF, "DOWNWARDS ZIGZAG ARROW|UPWARDS ARROW WITH TIP LEFTWARDS|4RIGHTWARDS"),
   (0x21B2, "DOWNWARDS ARROW WITH TIP LEFTWARDS|4RIGHTWARDS"),
   (0x21B4, "RIGHTWARDS ARROW WITH CORNER DOWNWARDS|DOWNWARDS ARROW WITH CORNER LEFTWARDS"),
   (0x21B6, "ANTICLOCKWISE TOP SEMICIRCLE ARROW|CLOCKWISE TOP SEMICIRCLE ARROW"),
   (0x21B8, "NORTH WEST ARROW TO LONG BAR|LEFTWARDS ARROW TO BAR OVER RIGHTWARDS ARROW TO BAR"),
   (0x21BA, "ANTICLOCKWISE OPEN CIRCLE ARROW|CLOCKWISE OPEN CIRCLE ARROW"),
   (0x21BC, "LEFTWARDS HARPOON WITH BARB UPWARDS|4DOWNWARDS|UPWARDS HARPOON WITH BARB RIGHTWARDS"),
   (0x21BF, "4LEFTWARDS|RIGHTWARDS HARPOON WITH BARB UPWARDS|4DOWNWARDS"),
   (0x21C2, "DOWNWARDS HARPOON WITH BARB RIGHTWARDS|4LEFTWARDS"),
   (0x21C4, "RIGHTWARDS ARROW OVER LEFTWARDS ARROW|UPWARDS ARROW LEFTWARDS OF DOWNWARDS ARROW"),
   (0x21C6, "LEFTWARDS ARROW OVER RIGHTWARDS ARROW|1PAIRED ARROWS|UPWARDS PAIRED ARROWS"),
   (0x21C9, "RIGHTWARDS PAIRED ARROWS|DOWNWARDS PAIRED ARROWS"),
   (0x21CB, "LEFTWARDS HARPOON OVER RIGHTWARDS HARPOON|RIGHTWARDS HARPOON OVER LEFTWARDS HARPOON"),
   (0x21CD, "LEFTWARDS DOUBLE ARROW WITH STROKE|LEFT RIGHT DOUBLE ARROW WITH STROKE"),
   (0x21CF, "RIGHTWARDS DOUBLE ARROW WITH STROKE|LEFTWARDS DOUBLE ARROW|UPWARDS DOUBLE ARROW"),
   (0x21D2, "RIGHTWARDS DOUBLE ARROW|DOWNWARDS DOUBLE ARROW|LEFT RIGHT DOUBLE ARROW"),
   (0x21D5, "UP DOWN DOUBLE ARROW|NORTH WEST DOUBLE ARROW|1EAST DOUBLE ARROW"),
   (0x21D8, "SOUTH EAST DOUBLE ARROW|1WEST DOUBLE ARROW|LEFTWARDS TRIPLE ARROW"),
   (0x21DB, "RIGHTWARDS TRIPLE ARROW|LEFTWARDS SQUIGGLE ARROW|RIGHTWARDS SQUIGGLE ARROW"),
   (0x21DE, "UPWARDS ARROW WITH DOUBLE STROKE|DOWNWARDS ARROW WITH DOUBLE STROKE"),
   (0x21E0, "LEFTWARDS DASHED ARROW|UPWARDS DASHED ARROW|RIGHTWARDS DASHED ARROW"),
   (0x21E3, "DOWNWARDS DASHED ARROW|LEFTWARDS ARROW TO BAR|RIGHTWARDS ARROW TO BAR"),
   (0x21E6, "LEFTWARDS WHITE ARROW|UPWARDS WHITE ARROW|RIGHTWARDS WHITE ARROW"),
   (0x21E9, "DOWNWARDS WHITE ARROW|UPWARDS WHITE ARROW FROM BAR|3ON PEDESTAL"),
   (0x21EC, "4PEDESTAL WITH HORIZONTAL BAR|6VERTICAL BAR|2DOUBLE ARROW|3ARROW ON PEDESTAL"),
   (0x21F0, "RIGHTWARDS WHITE ARROW FROM WALL|NORTH WEST ARROW TO CORNER"),
   (0x21F2, "SOUTH EAST ARROW TO CORNER|UP DOWN WHITE ARROW|RIGHT ARROW WITH SMALL CIRCLE"),
   (0x21F5, "DOWNWARDS ARROW LEFTWARDS OF UPWARDS ARROW|THREE RIGHTWARDS ARROWS"),
   (0x21F7, "LEFTWARDS ARROW WITH VERTICAL STROKE|RIGHTWARDS ARROW WITH VERTICAL STROKE"),
   (0x21F9, "LEFT RIGHT ARROW WITH VERTICAL STROKE|LEFTWARDS ARROW WITH DOUBLE VERTICAL STROKE"),
   (0x21FB, "RIGHTWARDS ARROW WITH DOUBLE VERTICAL STROKE"),
   (0x21FC, "LEFT RIGHT ARROW WITH DOUBLE VERTICAL STROKE|LEFTWARDS OPEN-HEADED ARROW"),
   (0x21FE, "RIGHTWARDS OPEN-HEADED ARROW|LEFT RIGHT OPEN-HEADED ARROW|FOR ALL|COMPLEMENT"),
   (0x2202, "PARTIAL DIFFERENTIAL|THERE EXISTS|1DOES NOT EXIST|EMPTY SET|INCREMENT|NABLA"),
   (0x2208, "ELEMENT OF|NOT AN ELEMENT OF|SMALL ELEMENT OF|CONTAINS AS MEMBER"),
   (0x220C, "DOES NOT CONTAIN AS MEMBER|SMALL CONTAINS AS MEMBER|END OF PROOF|N-ARY PRODUCT"),
   (0x2210, "2COPRODUCT|2SUMMATION|MINUS SIGN|MINUS-OR-PLUS SIGN|DOT PLUS|DIVISION SLASH"),
   (0x2216, "SET MINUS|ASTERISK OPERATOR|RING OPERATOR|BULLET OPERATOR|SQUARE ROOT|CUBE ROOT"),
   (0x221C, "FOURTH ROOT|PROPORTIONAL TO|INFINITY|RIGHT ANGLE|ANGLE|MEASURED ANGLE"),
   (0x2222, "SPHERICAL ANGLE|DIVIDES|DOES NOT DIVIDE|PARALLEL TO|NOT PARALLEL TO|LOGICAL AND|1OR"),
   (0x2229, "INTERSECTION|UNION|INTEGRAL|DOUBLE INTEGRAL|TRIPLE INTEGRAL|CONTOUR INTEGRAL"),
   (0x222F, "SURFACE INTEGRAL|VOLUME INTEGRAL|CLOCKWISE INTEGRAL|1CONTOUR INTEGRAL"),
   (0x2233, "ANTICLOCKWISE CONTOUR INTEGRAL|THEREFORE|BECAUSE|RATIO|PROPORTION|DOT MINUS|EXCESS"),
   (0x223A, "GEOMETRIC PROPORTION|HOMOTHETIC|TILDE OPERATOR|REVERSED TILDE|INVERTED LAZY S"),
   (0x223F, "SINE WAVE|WREATH PRODUCT|NOT TILDE|MINUS TILDE|ASYMPTOTICALLY EQUAL TO"),
   (0x2244, "NOT ASYMPTOTICALLY EQUAL TO|APPROXIMATELY EQUAL TO|1BUT NOT ACTUALLY EQUAL TO"),
   (0x2247, "NEITHER APPROXIMATELY NOR ACTUALLY EQUAL TO|ALMOST EQUAL TO|NOT ALMOST EQUAL TO"),
   (0x224A, "ALMOST EQUAL OR EQUAL TO|TRIPLE TILDE|ALL EQUAL TO|EQUIVALENT TO"),
   (0x224E, "GEOMETRICALLY EQUIVALENT TO|DIFFERENCE BETWEEN|APPROACHES THE LIMIT"),
   (0x2251, "GEOMETRICALLY EQUAL TO|APPROXIMATELY EQUAL TO OR THE IMAGE OF"),
   (0x2253, "IMAGE OF OR APPROXIMATELY EQUAL TO|COLON EQUALS|EQUALS COLON|RING IN EQUAL TO"),
   (0x2257, "1EQUAL TO|CORRESPONDS TO|ESTIMATES|EQUIANGULAR TO|STAR EQUALS|DELTA EQUAL TO"),
   (0x225D, "EQUAL TO BY DEFINITION|MEASURED BY|QUESTIONED EQUAL TO|NOT EQUAL TO|IDENTICAL TO"),
   (0x2262, "NOT IDENTICAL TO|STRICTLY EQUIVALENT TO|LESS-THAN OR EQUAL TO"),
   (0x2265, "GREATER-THAN OR EQUAL TO|LESS-THAN OVER EQUAL TO|GREATER-THAN OVER EQUAL TO"),
   (0x2268, "LESS-THAN BUT NOT EQUAL TO|GREATER-THAN BUT NOT EQUAL TO|MUCH LESS-THAN"),
   (0x226B, "1GREATER-THAN|BETWEEN|NOT EQUIVALENT TO|1LESS-THAN|1GREATER-THAN"),
   (0x2270, "NEITHER LESS-THAN NOR EQUAL TO|1GREATER-THAN NOR EQUAL TO|LESS-THAN OR EQUIVALENT TO"),
   (0x2273, "GREATER-THAN OR EQUIVALENT TO|NEITHER LESS-THAN NOR EQUIVALENT TO"),
   (0x2275, "1GREATER-THAN NOR EQUIVALENT TO|LESS-THAN OR GREATER-THAN|GREATER-THAN OR LESS-THAN"),
   (0x2278, "NEITHER LESS-THAN NOR GREATER-THAN|1GREATER-THAN NOR LESS-THAN|PRECEDES|SUCCEEDS"),
   (0x227C, "PRECEDES OR EQUAL TO|SUCCEEDS OR EQUAL TO|PRECEDES OR EQUIVALENT TO"),
   (0x227F, "SUCCEEDS OR EQUIVALENT TO|DOES NOT PRECEDE|2SUCCEED|SUBSET OF|SUPERSET OF"),
   (0x2284, "NOT A SUBSET OF|2SUPERSET OF|SUBSET OF OR EQUAL TO|SUPERSET OF OR EQUAL TO"),
   (0x2288, "NEITHER A SUBSET OF NOR EQUAL TO|2SUPERSET OF NOR EQUAL TO"),
   (0x228A, "SUBSET OF WITH NOT EQUAL TO|SUPERSET OF WITH NOT EQUAL TO|MULTISET"),
   (0x228D, "MULTISET MULTIPLICATION|1UNION|SQUARE IMAGE OF|1ORIGINAL OF|1IMAGE OF OR EQUAL TO"),
   (0x2292, "1ORIGINAL OF OR EQUAL TO|1CAP|1CUP|CIRCLED PLUS|1MINUS|1TIMES|1DIVISION SLASH"),
   (0x2299, "1DOT OPERATOR|1RING OPERATOR|1ASTERISK OPERATOR|1EQUALS|1DASH|SQUARED PLUS|1MINUS"),
   (0x22A0, "1TIMES|1DOT OPERATOR|RIGHT TACK|LEFT TACK|DOWN TACK|UP TACK|ASSERTION|MODELS|TRUE"),
   (0x22A9, "FORCES|TRIPLE VERTICAL BAR RIGHT TURNSTILE"),
   (0x22AB, "DOUBLE VERTICAL BAR DOUBLE RIGHT TURNSTILE|DOES NOT PROVE|NOT TRUE|DOES NOT FORCE"),
   (0x22AF, "NEGATED DOUBLE VERTICAL BAR DOUBLE RIGHT TURNSTILE|PRECEDES UNDER RELATION"),
   (0x22B1, "SUCCEEDS UNDER RELATION|NORMAL SUBGROUP OF|CONTAINS AS NORMAL SUBGROUP"),
   (0x22B4, "NORMAL SUBGROUP OF OR EQUAL TO|CONTAINS AS NORMAL SUBGROUP OR EQUAL TO|ORIGINAL OF"),
   (0x22B7, "IMAGE OF|MULTIMAP|HERMITIAN CONJUGATE MATRIX|INTERCALATE|XOR|NAND|NOR"),
   (0x22BE, "RIGHT ANGLE WITH ARC|1TRIANGLE|N-ARY LOGICAL AND|3OR|2INTERSECTION|2UNION"),
   (0x22C4, "DIAMOND OPERATOR|DOT OPERATOR|STAR OPERATOR|DIVISION TIMES|BOWTIE"),
   (0x22C9, "LEFT NORMAL FACTOR SEMIDIRECT PRODUCT|RIGHT NORMAL FACTOR SEMIDIRECT PRODUCT"),
   (0x22CB, "LEFT SEMIDIRECT PRODUCT|RIGHT SEMIDIRECT PRODUCT|REVERSED TILDE EQUALS"),
   (0x22CE, "CURLY LOGICAL OR|2AND|DOUBLE SUBSET|1SUPERSET|1INTERSECTION|1UNION|PITCHFORK"),
   (0x22D5, "EQUAL AND PARALLEL TO|LESS-THAN WITH DOT|GREATER-THAN WITH DOT|VERY MUCH LESS-THAN"),
   (0x22D9, "2GREATER-THAN|LESS-THAN EQUAL TO OR GREATER-THAN|GREATER-THAN EQUAL TO OR LESS-THAN"),
   (0x22DC, "EQUAL TO OR LESS-THAN|3GREATER-THAN|3PRECEDES|3SUCCEEDS|DOES NOT PRECEDE OR EQUAL"),
   (0x22E1, "2SUCCEED OR EQUAL|NOT SQUARE IMAGE OF OR EQUAL TO|2ORIGINAL OF OR EQUAL TO"),
   (0x22E4, "SQUARE IMAGE OF OR NOT EQUAL TO|1ORIGINAL OF OR NOT EQUAL TO"),
   (0x22E6, "LESS-THAN BUT NOT EQUIVALENT TO|GREATER-THAN BUT NOT EQUIVALENT TO"),
   (0x22E8, "PRECEDES BUT NOT EQUIVALENT TO|SUCCEEDS BUT NOT EQUIVALENT TO|NOT NORMAL SUBGROUP OF"),
   (0x22EB, "DOES NOT CONTAIN AS NORMAL SUBGROUP|NOT NORMAL SUBGROUP OF OR EQUAL TO"),
   (0x22ED, "DOES NOT CONTAIN AS NORMAL SUBGROUP OR EQUAL|VERTICAL ELLIPSIS"),
   (0x22EF, "MIDLINE HORIZONTAL ELLIPSIS|UP RIGHT DIAGONAL ELLIPSIS|DOWN RIGHT DIAGONAL ELLIPSIS"),
   (0x22F2, "ELEMENT OF WITH LONG HORIZONTAL STROKE|3VERTICAL BAR AT END OF HORIZONTAL STROKE"),
   (0x22F4, "SMALL ELEMENT OF WITH VERTICAL BAR AT END OF HORIZONTAL STROKE"),
   (0x22F5, "ELEMENT OF WITH DOT ABOVE|3OVERBAR|SMALL ELEMENT OF WITH OVERBAR"),
   (0x22F8, "ELEMENT OF WITH UNDERBAR|3TWO HORIZONTAL STROKES"),
   (0x22FA, "CONTAINS WITH LONG HORIZONTAL STROKE|2VERTICAL BAR AT END OF HORIZONTAL STROKE"),
   (0x22FC, "SMALL CONTAINS WITH VERTICAL BAR AT END OF HORIZONTAL STROKE|CONTAINS WITH OVERBAR"),
   (0x22FE, "SMALL CONTAINS WITH OVERBAR|Z NOTATION BAG MEMBERSHIP|DIAMETER SIGN|ELECTRIC ARROW"),
   (0x2302, "HOUSE|UP ARROWHEAD|DOWN ARROWHEAD|PROJECTIVE|PERSPECTIVE|WAVY LINE|LEFT CEILING"),
   (0x2309, "RIGHT CEILING|LEFT FLOOR|RIGHT FLOOR|BOTTOM RIGHT CROP|1LEFT CROP|TOP RIGHT CROP"),
   (0x230F, "1LEFT CROP|REVERSED NOT SIGN|SQUARE LOZENGE|ARC|SEGMENT|SECTOR|TELEPHONE RECORDER"),
   (0x2316, "POSITION INDICATOR|VIEWDATA SQUARE|PLACE OF INTEREST SIGN|TURNED NOT SIGN|WATCH"),
   (0x231B, "HOURGLASS|TOP LEFT CORNER|1RIGHT CORNER|BOTTOM LEFT CORNER|1RIGHT CORNER"),
   (0x2320, "TOP HALF INTEGRAL|BOTTOM HALF INTEGRAL|FROWN|SMILE"),
   (0x2324, "UP ARROWHEAD BETWEEN TWO HORIZONTAL BARS|OPTION KEY|ERASE TO THE RIGHT"),
   (0x2327, "X IN A RECTANGLE BOX|KEYBOARD|LEFT-POINTING ANGLE BRACKET"),
   (0x232A, "RIGHT-POINTING ANGLE BRACKET|ERASE TO THE LEFT|BENZENE RING|CYLINDRICITY"),
   (0x232E, "ALL AROUND-PROFILE|SYMMETRY|TOTAL RUNOUT|DIMENSION ORIGIN|CONICAL TAPER|SLOPE"),
   (0x2334, "COUNTERBORE|COUNTERSINK|APL FUNCTIONAL SYMBOL I-BEAM|3SQUISH QUAD|3QUAD EQUAL"),
   (0x2339, "4DIVIDE|4DIAMOND|4JOT|4CIRCLE|3CIRCLE STILE|4JOT|3SLASH BAR|3BACKSLASH BAR"),
   (0x2341, "3QUAD SLASH|4BACKSLASH|4LESS-THAN|4GREATER-THAN|3LEFTWARDS VANE|3RIGHTWARDS VANE"),
   (0x2347, "3QUAD LEFTWARDS ARROW|4RIGHTWARDS ARROW|3CIRCLE BACKSLASH|3DOWN TACK UNDERBAR"),
   (0x234B, "3DELTA STILE|3QUAD DOWN CARET|4DELTA|3DOWN TACK JOT|3UPWARDS VANE"),
   (0x2350, "3QUAD UPWARDS ARROW|3UP TACK OVERBAR|3DEL STILE|3QUAD UP CARET|4DEL|3UP TACK JOT"),
   (0x2356, "3DOWNWARDS VANE|3QUAD DOWNWARDS ARROW|3QUOTE UNDERBAR|3DELTA UNDERBAR"),
   (0x235A, "3DIAMOND UNDERBAR|3JOT UNDERBAR|3CIRCLE UNDERBAR|3UP SHOE JOT|3QUOTE QUAD"),
   (0x235F, "3CIRCLE STAR|3QUAD COLON|3UP TACK DIAERESIS|3DEL DIAERESIS|3STAR DIAERESIS"),
   (0x2364, "3JOT DIAERESIS|3CIRCLE DIAERESIS|3DOWN SHOE STILE|3LEFT SHOE STILE|3TILDE DIAERESIS"),
   (0x2369, "3GREATER-THAN DIAERESIS|3COMMA BAR|3DEL TILDE|3ZILDE|3STILE TILDE"),
   (0x236E, "3SEMICOLON UNDERBAR|3QUAD NOT EQUAL|4QUESTION|3DOWN CARET TILDE|3UP CARET TILDE"),
   (0x2373, "3IOTA|3RHO|3OMEGA|3ALPHA UNDERBAR|3EPSILON UNDERBAR|3IOTA UNDERBAR|3OMEGA UNDERBAR"),
   (0x237A, "3ALPHA|NOT CHECK MARK|RIGHT ANGLE WITH DOWNWARDS ZIGZAG ARROW|SHOULDERED OPEN BOX"),
   (0x237E, "BELL SYMBOL|VERTICAL LINE WITH MIDDLE DOT|INSERTION SYMBOL"),
   (0x2381, "CONTINUOUS UNDERLINE SYMBOL|DISCONTINUOUS UNDERLINE SYMBOL|EMPHASIS SYMBOL"),
   (0x2384, "COMPOSITION SYMBOL|WHITE SQUARE WITH CENTRE VERTICAL LINE|ENTER SYMBOL"),
   (0x2387, "ALTERNATIVE KEY SYMBOL|HELM SYMBOL|CIRCLED HORIZONTAL BAR WITH NOTCH|1TRIANGLE DOWN"),
   (0x238B, "BROKEN CIRCLE WITH NORTHWEST ARROW|UNDO SYMBOL|MONOSTABLE SYMBOL|HYSTERESIS SYMBOL"),
   (0x238F, "OPEN-CIRCUIT-OUTPUT H-TYPE SYMBOL|3L-TYPE SYMBOL|PASSIVE-PULL-DOWN-OUTPUT SYMBOL"),
   (0x2392, "2UP-OUTPUT SYMBOL|DIRECT CURRENT SYMBOL FORM TWO|SOFTWARE-FUNCTION SYMBOL"),
   (0x2395, "APL FUNCTIONAL SYMBOL QUAD|DECIMAL SEPARATOR KEY SYMBOL|PREVIOUS PAGE|NEXT PAGE"),
   (0x2399, "PRINT SCREEN SYMBOL|CLEAR SCREEN SYMBOL|LEFT PARENTHESIS UPPER HOOK|2EXTENSION"),
   (0x239D, "2LOWER HOOK|RIGHT PARENTHESIS UPPER HOOK|2EXTENSION|2LOWER HOOK"),
   (0x23A1, "LEFT SQUARE BRACKET UPPER CORNER|3EXTENSION|3LOWER CORNER"),
   (0x23A4, "RIGHT SQUARE BRACKET UPPER CORNER|3EXTENSION|3LOWER CORNER"),
   (0x23A7, "LEFT CURLY BRACKET UPPER HOOK|3MIDDLE PIECE|3LOWER HOOK|CURLY BRACKET EXTENSION"),
   (0x23AB, "RIGHT CURLY BRACKET UPPER HOOK|3MIDDLE PIECE|3LOWER HOOK|INTEGRAL EXTENSION"),
   (0x23AF, "HORIZONTAL LINE EXTENSION|UPPER LEFT OR LOWER RIGHT CURLY BRACKET SECTION"),
   (0x23B1, "1RIGHT OR LOWER LEFT CURLY BRACKET SECTION|SUMMATION TOP|1BOTTOM|TOP SQUARE BRACKET"),
   (0x23B5, "BOTTOM SQUARE BRACKET|2BRACKET OVER TOP SQUARE BRACKET|RADICAL SYMBOL BOTTOM"),
   (0x23B8, "LEFT VERTICAL BOX LINE|RIGHT VERTICAL BOX LINE|HORIZONTAL SCAN LINE-1|33|37|39"),
   (0x23BE, "DENTISTRY SYMBOL LIGHT VERTICAL AND TOP RIGHT|5BOTTOM RIGHT|4WITH CIRCLE"),
   (0x23C1, "3DOWN AND HORIZONTAL WITH CIRCLE|3UP AND HORIZONTAL WITH CIRCLE"),
   (0x23C3, "3VERTICAL WITH TRIANGLE|3DOWN AND HORIZONTAL WITH TRIANGLE"),
   (0x23C5, "3UP AND HORIZONTAL WITH TRIANGLE|3VERTICAL AND WAVE|3DOWN AND HORIZONTAL WITH WAVE"),
   (0x23C8, "3UP AND HORIZONTAL WITH WAVE|3DOWN AND HORIZONTAL|3UP AND HORIZONTAL"),
   (0x23CB, "3VERTICAL AND TOP LEFT|5BOTTOM LEFT|SQUARE FOOT|RETURN SYMBOL|EJECT SYMBOL"),
   (0x23D0, "VERTICAL LINE EXTENSION|METRICAL BREVE|1LONG OVER SHORT|1SHORT OVER LONG"),
   (0x23D4, "1LONG OVER TWO SHORTS|1TWO SHORTS OVER LONG|3JOINED|1TRISEME|1TETRASEME|1PENTASEME"),
   (0x23DA, "EARTH GROUND|FUSE|TOP PARENTHESIS|BOTTOM PARENTHESIS|TOP CURLY BRACKET"),
   (0x23DF, "BOTTOM CURLY BRACKET|TOP TORTOISE SHELL BRACKET|BOTTOM TORTOISE SHELL BRACKET"),
   (0x23E2, "WHITE TRAPEZIUM|BENZENE RING WITH CIRCLE|STRAIGHTNESS|FLATNESS|AC CURRENT"),
   (0x23E7, "ELECTRICAL INTERSECTION|DECIMAL EXPONENT SYMBOL|BLACK RIGHT-POINTING DOUBLE TRIANGLE"),
   (0x23EA, "1LEFT-POINTING DOUBLE TRIANGLE|1UP-POINTING DOUBLE TRIANGLE"),
   (0x23EC, "1DOWN-POINTING DOUBLE TRIANGLE|1RIGHT-POINTING DOUBLE TRIANGLE WITH VERTICAL BAR"),
   (0x23EE, "1LEFT-POINTING DOUBLE TRIANGLE WITH VERTICAL BAR"),
   (0x23EF, "1RIGHT-POINTING TRIANGLE WITH DOUBLE VERTICAL BAR|ALARM CLOCK|STOPWATCH|TIMER CLOCK"),
   (0x23F3, "HOURGLASS WITH FLOWING SAND|BLACK MEDIUM LEFT-POINTING TRIANGLE"),
   (0x23F5, "2RIGHT-POINTING TRIANGLE|2UP-POINTING TRIANGLE|2DOWN-POINTING TRIANGLE"),
   (0x23F8, "DOUBLE VERTICAL BAR|BLACK SQUARE FOR STOP|1CIRCLE FOR RECORD|POWER SYMBOL"),
   (0x23FC, "1ON-OFF SYMBOL|1ON SYMBOL|1SLEEP SYMBOL|OBSERVER EYE SYMBOL|SYMBOL FOR NULL"),
   (0x2401, "2START OF HEADING|4TEXT|2END OF TEXT|4TRANSMISSION|2ENQUIRY|2ACKNOWLEDGE|2BELL"),
   (0x2408, "2BACKSPACE|2HORIZONTAL TABULATION|2LINE FEED|2VERTICAL TABULATION|2FORM FEED"),
   (0x240D, "2CARRIAGE RETURN|2SHIFT OUT|3IN|2DATA LINK ESCAPE|2DEVICE CONTROL ONE|4TWO|4THREE"),
   (0x2414, "4FOUR|2NEGATIVE ACKNOWLEDGE|2SYNCHRONOUS IDLE|2END OF TRANSMISSION BLOCK|2CANCEL"),
   (0x2419, "2END OF MEDIUM|2SUBSTITUTE|2ESCAPE|2FILE SEPARATOR|2GROUP SEPARATOR"),
   (0x241E, "2RECORD SEPARATOR|2UNIT SEPARATOR|2SPACE|2DELETE|BLANK SYMBOL|OPEN BOX"),
   (0x2424, "SYMBOL FOR NEWLINE|2DELETE FORM TWO|2SUBSTITUTE FORM TWO"),
   (0x2440, "OCR HOOK|1CHAIR|1FORK|1INVERTED FORK|1BELT BUCKLE|1BOW TIE"),
   (0x2446, "1BRANCH BANK IDENTIFICATION|1AMOUNT OF CHECK|1DASH|1CUSTOMER ACCOUNT NUMBER"),
   (0x244A, "1DOUBLE BACKSLASH"),
   (0x2460, "CIRCLED DIGIT ONE|2TWO|2THREE|2FOUR|2FIVE|2SIX|2SEVEN|2EIGHT|2NINE|1NUMBER TEN"),
   (0x246A, "2ELEVEN|2TWELVE|2THIRTEEN|2FOURTEEN|2FIFTEEN|2SIXTEEN|2SEVENTEEN|2EIGHTEEN|2NINETEEN"),
   (0x2473, "2TWENTY|PARENTHESIZED DIGIT ONE|2TWO|2THREE|2FOUR|2FIVE|2SIX|2SEVEN|2EIGHT|2NINE"),
   (0x247D, "1NUMBER TEN|2ELEVEN|2TWELVE|2THIRTEEN|2FOURTEEN|2FIFTEEN|2SIXTEEN|2SEVENTEEN"),
   (0x2485, "2EIGHTEEN|2NINETEEN|2TWENTY|DIGIT ONE FULL STOP|1TWO FULL STOP|1THREE FULL STOP"),
   (0x248B, "1FOUR FULL STOP|1FIVE FULL STOP|1SIX FULL STOP|1SEVEN FULL STOP|1EIGHT FULL STOP"),
   (0x2490, "1NINE FULL STOP|NUMBER TEN FULL STOP|1ELEVEN FULL STOP|1TWELVE FULL STOP"),
   (0x2494, "1THIRTEEN FULL STOP|1FOURTEEN FULL STOP|1FIFTEEN FULL STOP|1SIXTEEN FULL STOP"),
   (0x2498, "1SEVENTEEN FULL STOP|1EIGHTEEN FULL STOP|1NINETEEN FULL STOP|1TWENTY FULL STOP"),
   (0x249C, "PARENTHESIZED LATIN SMALL LETTER A|4B|4C|4D|4E|4F|4G|4H|4I|4J|4K|4L|4M|4N|4O|4P|4Q"),
   (0x24AD, "4R|4S|4T|4U|4V|4W|4X|4Y|4Z|CIRCLED LATIN CAPITAL LETTER A|4B|4C|4D|4E|4F|4G|4H|4I|4J"),
   (0x24C0, "4K|4L|4M|4N|4O|4P|4Q|4R|4S|4T|4U|4V|4W|4X|4Y|4Z|2SMALL LETTER A|4B|4C|4D|4E|4F|4G|4H"),
   (0x24D8, "4I|4J|4K|4L|4M|4N|4O|4P|4Q|4R|4S|4T|4U|4V|4W|4X|4Y|4Z|1DIGIT ZERO"),
   (0x24EB, "NEGATIVE CIRCLED NUMBER ELEVEN|3TWELVE|3THIRTEEN|3FOURTEEN|3FIFTEEN|3SIXTEEN"),
   (0x24F1, "3SEVENTEEN|3EIGHTEEN|3NINETEEN|3TWENTY|DOUBLE CIRCLED DIGIT ONE|3TWO|3THREE|3FOUR"),
   (0x24F9, "3FIVE|3SIX|3SEVEN|3EIGHT|3NINE|2NUMBER TEN|NEGATIVE CIRCLED DIGIT ZERO"),
   (0x2500, "BOX DRAWINGS LIGHT HORIZONTAL|2HEAVY HORIZONTAL|2LIGHT VERTICAL|2HEAVY VERTICAL"),
   (0x2504, "2LIGHT TRIPLE DASH HORIZONTAL|2HEAVY TRIPLE DASH HORIZONTAL"),
   (0x2506, "2LIGHT TRIPLE DASH VERTICAL|2HEAVY TRIPLE DASH VERTICAL"),
   (0x2508, "2LIGHT QUADRUPLE DASH HORIZONTAL|2HEAVY QUADRUPLE DASH HORIZONTAL"),
   (0x250A, "2LIGHT QUADRUPLE DASH VERTICAL|2HEAVY QUADRUPLE DASH VERTICAL|2LIGHT DOWN AND RIGHT"),
   (0x250D, "2DOWN LIGHT AND RIGHT HEAVY|3HEAVY AND RIGHT LIGHT|2HEAVY DOWN AND RIGHT"),
   (0x2510, "2LIGHT DOWN AND LEFT|2DOWN LIGHT AND LEFT HEAVY|3HEAVY AND LEFT LIGHT"),
   (0x2513, "2HEAVY DOWN AND LEFT|2LIGHT UP AND RIGHT|2UP LIGHT AND RIGHT HEAVY"),
   (0x2516, "3HEAVY AND RIGHT LIGHT|2HEAVY UP AND RIGHT|2LIGHT UP AND LEFT"),
   (0x2519, "2UP LIGHT AND LEFT HEAVY|3HEAVY AND LEFT LIGHT|2HEAVY UP AND LEFT"),
   (0x251C, "2LIGHT VERTICAL AND RIGHT|2VERTICAL LIGHT AND RIGHT HEAVY"),
   (0x251E, "2UP HEAVY AND RIGHT DOWN LIGHT|2DOWN HEAVY AND RIGHT UP LIGHT"),
   (0x2520, "2VERTICAL HEAVY AND RIGHT LIGHT|2DOWN LIGHT AND RIGHT UP HEAVY"),
   (0x2522, "2UP LIGHT AND RIGHT DOWN HEAVY|2HEAVY VERTICAL AND RIGHT|2LIGHT VERTICAL AND LEFT"),
   (0x2525, "2VERTICAL LIGHT AND LEFT HEAVY|2UP HEAVY AND LEFT DOWN LIGHT"),
   (0x2527, "2DOWN HEAVY AND LEFT UP LIGHT|2VERTICAL HEAVY AND LEFT LIGHT"),
   (0x2529, "2DOWN LIGHT AND LEFT UP HEAVY|2UP LIGHT AND LEFT DOWN HEAVY|2HEAVY VERTICAL AND LEFT"),
   (0x252C, "2LIGHT DOWN AND HORIZONTAL|2LEFT HEAVY AND RIGHT DOWN LIGHT"),
   (0x252E, "2RIGHT HEAVY AND LEFT DOWN LIGHT|2DOWN LIGHT AND HORIZONTAL HEAVY"),
   (0x2530, "3HEAVY AND HORIZONTAL LIGHT|2RIGHT LIGHT AND LEFT DOWN HEAVY"),
   (0x2532, "2LEFT LIGHT AND RIGHT DOWN HEAVY|2HEAVY DOWN AND HORIZONTAL|2LIGHT UP AND HORIZONTAL"),
   (0x2535, "2LEFT HEAVY AND RIGHT UP LIGHT|2RIGHT HEAVY AND LEFT UP LIGHT"),
   (0x2537, "2UP LIGHT AND HORIZONTAL HEAVY|3HEAVY AND HORIZONTAL LIGHT"),
   (0x2539, "2RIGHT LIGHT AND LEFT UP HEAVY|2LEFT LIGHT AND RIGHT UP HEAVY"),
   (0x253B, "2HEAVY UP AND HORIZONTAL|2LIGHT VERTICAL AND HORIZONTAL"),
   (0x253D, "2LEFT HEAVY AND RIGHT VERTICAL LIGHT|2RIGHT HEAVY AND LEFT VERTICAL LIGHT"),
   (0x253F, "2VERTICAL LIGHT AND HORIZONTAL HEAVY|2UP HEAVY AND DOWN HORIZONTAL LIGHT"),
   (0x2541, "2DOWN HEAVY AND UP HORIZONTAL LIGHT|2VERTICAL HEAVY AND HORIZONTAL LIGHT"),
   (0x2543, "2LEFT UP HEAVY AND RIGHT DOWN LIGHT|2RIGHT UP HEAVY AND LEFT DOWN LIGHT"),
   (0x2545, "2LEFT DOWN HEAVY AND RIGHT UP LIGHT|2RIGHT DOWN HEAVY AND LEFT UP LIGHT"),
   (0x2547, "2DOWN LIGHT AND UP HORIZONTAL HEAVY|2UP LIGHT AND DOWN HORIZONTAL HEAVY"),
   (0x2549, "2RIGHT LIGHT AND LEFT VERTICAL HEAVY|2LEFT LIGHT AND RIGHT VERTICAL HEAVY"),
   (0x254B, "2HEAVY VERTICAL AND HORIZONTAL|2LIGHT DOUBLE DASH HORIZONTAL"),
   (0x254D, "2HEAVY DOUBLE DASH HORIZONTAL|2LIGHT DOUBLE DASH VERTICAL"),
   (0x254F, "2HEAVY DOUBLE DASH VERTICAL|2DOUBLE HORIZONTAL|3VERTICAL"),
   (0x2552, "2DOWN SINGLE AND RIGHT DOUBLE|3DOUBLE AND RIGHT SINGLE|2DOUBLE DOWN AND RIGHT"),
   (0x2555, "2DOWN SINGLE AND LEFT DOUBLE|3DOUBLE AND LEFT SINGLE|2DOUBLE DOWN AND LEFT"),
   (0x2558, "2UP SINGLE AND RIGHT DOUBLE|3DOUBLE AND RIGHT SINGLE|2DOUBLE UP AND RIGHT"),
   (0x255B, "2UP SINGLE AND LEFT DOUBLE|3DOUBLE AND LEFT SINGLE|2DOUBLE UP AND LEFT"),
   (0x255E, "2VERTICAL SINGLE AND RIGHT DOUBLE|3DOUBLE AND RIGHT SINGLE"),
   (0x2560, "2DOUBLE VERTICAL AND RIGHT|2VERTICAL SINGLE AND LEFT DOUBLE|3DOUBLE AND LEFT SINGLE"),
   (0x2563, "2DOUBLE VERTICAL AND LEFT|2DOWN SINGLE AND HORIZONTAL DOUBLE"),
   (0x2565, "3DOUBLE AND HORIZONTAL SINGLE|2DOUBLE DOWN AND HORIZONTAL"),
   (0x2567, "2UP SINGLE AND HORIZONTAL DOUBLE|3DOUBLE AND HORIZONTAL SINGLE"),
   (0x2569, "2DOUBLE UP AND HORIZONTAL|2VERTICAL SINGLE AND HORIZONTAL DOUBLE"),
   (0x256B, "3DOUBLE AND HORIZONTAL SINGLE|2DOUBLE VERTICAL AND HORIZONTAL"),
   (0x256D, "2LIGHT ARC DOWN AND RIGHT|6LEFT|4UP AND LEFT|6RIGHT"),
   (0x2571, "3DIAGONAL UPPER RIGHT TO LOWER LEFT|5LEFT TO LOWER RIGHT|4CROSS|3LEFT|3UP|3RIGHT"),
   (0x2577, "3DOWN|2HEAVY LEFT|3UP|3RIGHT|3DOWN|2LIGHT LEFT AND HEAVY RIGHT|3UP AND HEAVY DOWN"),
   (0x257E, "2HEAVY LEFT AND LIGHT RIGHT|3UP AND LIGHT DOWN|UPPER HALF BLOCK"),
   (0x2581, "LOWER ONE EIGHTH BLOCK|2QUARTER BLOCK|1THREE EIGHTHS BLOCK|1HALF BLOCK"),
   (0x2585, "1FIVE EIGHTHS BLOCK|1THREE QUARTERS BLOCK|1SEVEN EIGHTHS BLOCK|FULL BLOCK"),
   (0x2589, "LEFT SEVEN EIGHTHS BLOCK|1THREE QUARTERS BLOCK|1FIVE EIGHTHS BLOCK|1HALF BLOCK"),
   (0x258D, "1THREE EIGHTHS BLOCK|1ONE QUARTER BLOCK|2EIGHTH BLOCK|RIGHT HALF BLOCK|LIGHT SHADE"),
   (0x2592, "MEDIUM SHADE|DARK SHADE|UPPER ONE EIGHTH BLOCK|RIGHT ONE EIGHTH BLOCK"),
   (0x2596, "QUADRANT LOWER LEFT|2RIGHT|1UPPER LEFT|2LEFT AND LOWER LEFT AND LOWER RIGHT|5RIGHT"),
   (0x259B, "4UPPER RIGHT AND LOWER LEFT|8RIGHT|2RIGHT|2RIGHT AND LOWER LEFT"),
   (0x259F, "5LEFT AND LOWER RIGHT|BLACK SQUARE|WHITE SQUARE|1SQUARE WITH ROUNDED CORNERS"),
   (0x25A3, "2CONTAINING BLACK SMALL SQUARE|SQUARE WITH HORIZONTAL FILL|2VERTICAL FILL"),
   (0x25A6, "2ORTHOGONAL CROSSHATCH FILL|2UPPER LEFT TO LOWER RIGHT FILL"),
   (0x25A8, "3RIGHT TO LOWER LEFT FILL|2DIAGONAL CROSSHATCH FILL|BLACK SMALL SQUARE"),
   (0x25AB, "WHITE SMALL SQUARE|BLACK RECTANGLE|WHITE RECTANGLE|BLACK VERTICAL RECTANGLE"),
   (0x25AF, "WHITE VERTICAL RECTANGLE|BLACK PARALLELOGRAM|WHITE PARALLELOGRAM"),
   (0x25B2, "BLACK UP-POINTING TRIANGLE|WHITE UP-POINTING TRIANGLE"),
   (0x25B4, "BLACK UP-POINTING SMALL TRIANGLE|WHITE UP-POINTING SMALL TRIANGLE"),
   (0x25B6, "BLACK RIGHT-POINTING TRIANGLE|WHITE RIGHT-POINTING TRIANGLE"),
   (0x25B8, "BLACK RIGHT-POINTING SMALL TRIANGLE|WHITE RIGHT-POINTING SMALL TRIANGLE"),
   (0x25BA, "BLACK RIGHT-POINTING POINTER|WHITE RIGHT-POINTING POINTER"),
   (0x25BC, "BLACK DOWN-POINTING TRIANGLE|WHITE DOWN-POINTING TRIANGLE"),
   (0x25BE, "BLACK DOWN-POINTING SMALL TRIANGLE|WHITE DOWN-POINTING SMALL TRIANGLE"),
   (0x25C0, "BLACK LEFT-POINTING TRIANGLE|WHITE LEFT-POINTING TRIANGLE"),
   (0x25C2, "BLACK LEFT-POINTING SMALL TRIANGLE|WHITE LEFT-POINTING SMALL TRIANGLE"),
   (0x25C4, "BLACK LEFT-POINTING POINTER|WHITE LEFT-POINTING POINTER|BLACK DIAMOND|WHITE DIAMOND"),
   (0x25C8, "1DIAMOND CONTAINING BLACK SMALL DIAMOND|FISHEYE|LOZENGE|WHITE CIRCLE|DOTTED CIRCLE"),
   (0x25CD, "CIRCLE WITH VERTICAL FILL|BULLSEYE|BLACK CIRCLE|CIRCLE WITH LEFT HALF BLACK"),
   (0x25D1, "2RIGHT HALF BLACK|2LOWER HALF BLACK|2UPPER HALF BLACK|3RIGHT QUADRANT BLACK"),
   (0x25D5, "2ALL BUT UPPER LEFT QUADRANT BLACK|LEFT HALF BLACK CIRCLE|RIGHT HALF BLACK CIRCLE"),
   (0x25D8, "INVERSE BULLET|1WHITE CIRCLE|UPPER HALF INVERSE WHITE CIRCLE"),
   (0x25DB, "LOWER HALF INVERSE WHITE CIRCLE|UPPER LEFT QUADRANT CIRCULAR ARC"),
   (0x25DD, "1RIGHT QUADRANT CIRCULAR ARC|LOWER RIGHT QUADRANT CIRCULAR ARC"),
   (0x25DF, "1LEFT QUADRANT CIRCULAR ARC|UPPER HALF CIRCLE|LOWER HALF CIRCLE"),
   (0x25E2, "BLACK LOWER RIGHT TRIANGLE|2LEFT TRIANGLE|1UPPER LEFT TRIANGLE|2RIGHT TRIANGLE"),
   (0x25E6, "WHITE BULLET|SQUARE WITH LEFT HALF BLACK|2RIGHT HALF BLACK"),
   (0x25E9, "2UPPER LEFT DIAGONAL HALF BLACK|2LOWER RIGHT DIAGONAL HALF BLACK"),
   (0x25EB, "WHITE SQUARE WITH VERTICAL BISECTING LINE|1UP-POINTING TRIANGLE WITH DOT"),
   (0x25ED, "UP-POINTING TRIANGLE WITH LEFT HALF BLACK|4RIGHT HALF BLACK|LARGE CIRCLE"),
   (0x25F0, "WHITE SQUARE WITH UPPER LEFT QUADRANT|3LOWER LEFT QUADRANT|4RIGHT QUADRANT"),
   (0x25F3, "3UPPER RIGHT QUADRANT|1CIRCLE WITH UPPER LEFT QUADRANT|3LOWER LEFT QUADRANT"),
   (0x25F6, "4RIGHT QUADRANT|3UPPER RIGHT QUADRANT|UPPER LEFT TRIANGLE|1RIGHT TRIANGLE"),
   (0x25FA, "LOWER LEFT TRIANGLE|WHITE MEDIUM SQUARE|BLACK MEDIUM SQUARE"),
   (0x25FD, "WHITE MEDIUM SMALL SQUARE|BLACK MEDIUM SMALL SQUARE|LOWER RIGHT TRIANGLE"),
   (0x2600, "BLACK SUN WITH RAYS|CLOUD|UMBRELLA|SNOWMAN|COMET|BLACK STAR|WHITE STAR|LIGHTNING"),
   (0x2608, "THUNDERSTORM|SUN|ASCENDING NODE|DESCENDING NODE|CONJUNCTION|OPPOSITION"),
   (0x260E, "BLACK TELEPHONE|WHITE TELEPHONE|BALLOT BOX|1BOX WITH CHECK|3X|SALTIRE"),
   (0x2614, "UMBRELLA WITH RAIN DROPS|HOT BEVERAGE|WHITE SHOGI PIECE|BLACK SHOGI PIECE|SHAMROCK"),
   (0x2619, "REVERSED ROTATED FLORAL HEART BULLET|BLACK LEFT POINTING INDEX|1RIGHT POINTING INDEX"),
   (0x261C, "WHITE LEFT POINTING INDEX|1UP POINTING INDEX|1RIGHT POINTING INDEX"),
   (0x261F, "1DOWN POINTING INDEX|SKULL AND CROSSBONES|CAUTION SIGN|RADIOACTIVE SIGN"),
   (0x2623, "BIOHAZARD SIGN|CADUCEUS|ANKH|ORTHODOX CROSS|CHI RHO|CROSS OF LORRAINE|2JERUSALEM"),
   (0x262A, "STAR AND CRESCENT|FARSI SYMBOL|ADI SHAKTI|HAMMER AND SICKLE|PEACE SYMBOL|YIN YANG"),
   (0x2630, "TRIGRAM FOR HEAVEN|2LAKE|2FIRE|2THUNDER|2WIND|2WATER|2MOUNTAIN|2EARTH"),
   (0x2638, "WHEEL OF DHARMA|WHITE FROWNING FACE|1SMILING FACE|BLACK SMILING FACE"),
   (0x263C, "WHITE SUN WITH RAYS|FIRST QUARTER MOON|LAST QUARTER MOON|MERCURY|FEMALE SIGN|EARTH"),
   (0x2642, "MALE SIGN|JUPITER|SATURN|URANUS|NEPTUNE|PLUTO|ARIES|TAURUS|GEMINI|CANCER|LEO|VIRGO"),
   (0x264E, "LIBRA|SCORPIUS|SAGITTARIUS|CAPRICORN|AQUARIUS|PISCES|WHITE CHESS KING|2QUEEN|2ROOK"),
   (0x2657, "2BISHOP|2KNIGHT|2PAWN|BLACK CHESS KING|2QUEEN|2ROOK|2BISHOP|2KNIGHT|2PAWN"),
   (0x2660, "1SPADE SUIT|WHITE HEART SUIT|1DIAMOND SUIT|BLACK CLUB SUIT|WHITE SPADE SUIT"),
   (0x2665, "BLACK HEART SUIT|1DIAMOND SUIT|WHITE CLUB SUIT|HOT SPRINGS|QUARTER NOTE|EIGHTH NOTE"),
   (0x266B, "BEAMED EIGHTH NOTES|1SIXTEENTH NOTES|MUSIC FLAT SIGN|1NATURAL SIGN|1SHARP SIGN"),
   (0x2670, "WEST SYRIAC CROSS|EAST SYRIAC CROSS|UNIVERSAL RECYCLING SYMBOL"),
   (0x2673, "RECYCLING SYMBOL FOR TYPE-1 PLASTICS|42 PLASTICS|43 PLASTICS|44 PLASTICS|45 PLASTICS"),
   (0x2678, "46 PLASTICS|47 PLASTICS|3GENERIC MATERIALS|BLACK UNIVERSAL RECYCLING SYMBOL"),
   (0x267C, "RECYCLED PAPER SYMBOL|PARTIALLY-RECYCLED PAPER SYMBOL|PERMANENT PAPER SIGN"),
   (0x267F, "WHEELCHAIR SYMBOL|DIE FACE-1|22|23|24|25|26|WHITE CIRCLE WITH DOT RIGHT|3TWO DOTS"),
   (0x2688, "BLACK CIRCLE WITH WHITE DOT RIGHT|3TWO WHITE DOTS|MONOGRAM FOR YANG|2YIN"),
   (0x268C, "DIGRAM FOR GREATER YANG|2LESSER YIN|3YANG|2GREATER YIN|WHITE FLAG|BLACK FLAG"),
   (0x2692, "HAMMER AND PICK|ANCHOR|CROSSED SWORDS|STAFF OF AESCULAPIUS|SCALES|ALEMBIC|FLOWER"),
   (0x2699, "GEAR|STAFF OF HERMES|ATOM SYMBOL|FLEUR-DE-LIS|OUTLINED WHITE STAR"),
   (0x269E, "THREE LINES CONVERGING RIGHT|3LEFT|WARNING SIGN|HIGH VOLTAGE SIGN"),
   (0x26A2, "DOUBLED FEMALE SIGN|1MALE SIGN|INTERLOCKED FEMALE AND MALE SIGN|MALE AND FEMALE SIGN"),
   (0x26A6, "1WITH STROKE SIGN|3AND MALE AND FEMALE SIGN|VERTICAL MALE WITH STROKE SIGN"),
   (0x26A9, "HORIZONTAL MALE WITH STROKE SIGN|MEDIUM WHITE CIRCLE|1BLACK CIRCLE"),
   (0x26AC, "1SMALL WHITE CIRCLE|MARRIAGE SYMBOL|DIVORCE SYMBOL|UNMARRIED PARTNERSHIP SYMBOL"),
   (0x26B0, "COFFIN|FUNERAL URN|NEUTER|CERES|PALLAS|JUNO|VESTA|CHIRON|BLACK MOON LILITH|SEXTILE"),
   (0x26BA, "SEMISEXTILE|QUINCUNX|SESQUIQUADRATE|SOCCER BALL|BASEBALL|SQUARED KEY"),
   (0x26C0, "WHITE DRAUGHTS MAN|2KING|BLACK DRAUGHTS MAN|2KING|SNOWMAN WITHOUT SNOW"),
   (0x26C5, "SUN BEHIND CLOUD|RAIN|BLACK SNOWMAN|THUNDER CLOUD AND RAIN|TURNED WHITE SHOGI PIECE"),
   (0x26CA, "1BLACK SHOGI PIECE|WHITE DIAMOND IN SQUARE|CROSSING LANES|DISABLED CAR|OPHIUCHUS"),
   (0x26CF, "PICK|CAR SLIDING|HELMET WITH WHITE CROSS|CIRCLED CROSSING LANES|CHAINS|NO ENTRY"),
   (0x26D5, "ALTERNATE ONE-WAY LEFT WAY TRAFFIC|BLACK TWO-WAY LEFT WAY TRAFFIC"),
   (0x26D7, "WHITE TWO-WAY LEFT WAY TRAFFIC|BLACK LEFT LANE MERGE|WHITE LEFT LANE MERGE"),
   (0x26DA, "DRIVE SLOW SIGN|HEAVY WHITE DOWN-POINTING TRIANGLE|LEFT CLOSED ENTRY|SQUARED SALTIRE"),
   (0x26DE, "FALLING DIAGONAL IN WHITE CIRCLE IN BLACK SQUARE|BLACK TRUCK|RESTRICTED LEFT ENTRY-1"),
   (0x26E1, "32|ASTRONOMICAL SYMBOL FOR URANUS|HEAVY CIRCLE WITH STROKE AND TWO DOTS ABOVE"),
   (0x26E4, "PENTAGRAM|RIGHT-HANDED INTERLACED PENTAGRAM|LEFT-HANDED INTERLACED PENTAGRAM"),
   (0x26E7, "INVERTED PENTAGRAM|BLACK CROSS ON SHIELD|SHINTO SHRINE|CHURCH|CASTLE|HISTORIC SITE"),
   (0x26ED, "GEAR WITHOUT HUB|1WITH HANDLES|MAP SYMBOL FOR LIGHTHOUSE|MOUNTAIN|UMBRELLA ON GROUND"),
   (0x26F2, "FOUNTAIN|FLAG IN HOLE|FERRY|SAILBOAT|SQUARE FOUR CORNERS|SKIER|ICE SKATE"),
   (0x26F9, "PERSON WITH BALL|TENT|JAPANESE BANK SYMBOL|HEADSTONE GRAVEYARD SYMBOL|FUEL PUMP"),
   (0x26FE, "CUP ON BLACK SQUARE|WHITE FLAG WITH HORIZONTAL MIDDLE BLACK STRIPE"),
   (0x2700, "BLACK SAFETY SCISSORS|UPPER BLADE SCISSORS|BLACK SCISSORS|LOWER BLADE SCISSORS"),
   (0x2704, "WHITE SCISSORS|1HEAVY CHECK MARK|TELEPHONE LOCATION SIGN|TAPE DRIVE|AIRPLANE"),
   (0x2709, "ENVELOPE|RAISED FIST|1HAND|VICTORY HAND|WRITING HAND|LOWER RIGHT PENCIL|PENCIL"),
   (0x2710, "UPPER RIGHT PENCIL|WHITE NIB|BLACK NIB|CHECK MARK|HEAVY CHECK MARK|MULTIPLICATION X"),
   (0x2716, "HEAVY MULTIPLICATION X|BALLOT X|HEAVY BALLOT X|OUTLINED GREEK CROSS"),
   (0x271A, "HEAVY GREEK CROSS|OPEN CENTRE CROSS|HEAVY OPEN CENTRE CROSS|LATIN CROSS"),
   (0x271E, "SHADOWED WHITE LATIN CROSS|OUTLINED LATIN CROSS|MALTESE CROSS|STAR OF DAVID"),
   (0x2722, "FOUR TEARDROP-SPOKED ASTERISK|1BALLOON-SPOKED ASTERISK"),
   (0x2724, "HEAVY FOUR BALLOON-SPOKED ASTERISK|FOUR CLUB-SPOKED ASTERISK|BLACK FOUR POINTED STAR"),
   (0x2727, "WHITE FOUR POINTED STAR|SPARKLES|STRESS OUTLINED WHITE STAR|CIRCLED WHITE STAR"),
   (0x272B, "OPEN CENTRE BLACK STAR|BLACK CENTRE WHITE STAR|OUTLINED BLACK STAR"),
   (0x272E, "HEAVY OUTLINED BLACK STAR|PINWHEEL STAR|SHADOWED WHITE STAR|HEAVY ASTERISK"),
   (0x2732, "OPEN CENTRE ASTERISK|EIGHT SPOKED ASTERISK|1POINTED BLACK STAR|2PINWHEEL STAR"),
   (0x2736, "SIX POINTED BLACK STAR|EIGHT POINTED RECTILINEAR BLACK STAR"),
   (0x2738, "HEAVY EIGHT POINTED RECTILINEAR BLACK STAR|TWELVE POINTED BLACK STAR"),
   (0x273A, "SIXTEEN POINTED ASTERISK|TEARDROP-SPOKED ASTERISK"),
   (0x273C, "OPEN CENTRE TEARDROP-SPOKED ASTERISK|HEAVY TEARDROP-SPOKED ASTERISK"),
   (0x273E, "SIX PETALLED BLACK AND WHITE FLORETTE|BLACK FLORETTE|WHITE FLORETTE"),
   (0x2741, "EIGHT PETALLED OUTLINED BLACK FLORETTE|CIRCLED OPEN CENTRE EIGHT POINTED STAR"),
   (0x2743, "HEAVY TEARDROP-SPOKED PINWHEEL ASTERISK|SNOWFLAKE|TIGHT TRIFOLIATE SNOWFLAKE"),
   (0x2746, "HEAVY CHEVRON SNOWFLAKE|SPARKLE|HEAVY SPARKLE|BALLOON-SPOKED ASTERISK"),
   (0x274A, "EIGHT TEARDROP-SPOKED PROPELLER ASTERISK"),
   (0x274B, "HEAVY EIGHT TEARDROP-SPOKED PROPELLER ASTERISK|CROSS MARK|SHADOWED WHITE CIRCLE"),
   (0x274E, "NEGATIVE SQUARED CROSS MARK|LOWER RIGHT DROP-SHADOWED WHITE SQUARE"),
   (0x2750, "UPPER RIGHT DROP-SHADOWED WHITE SQUARE|LOWER RIGHT SHADOWED WHITE SQUARE"),
   (0x2752, "UPPER RIGHT SHADOWED WHITE SQUARE|BLACK QUESTION MARK ORNAMENT"),
   (0x2754, "WHITE QUESTION MARK ORNAMENT|1EXCLAMATION MARK ORNAMENT|BLACK DIAMOND MINUS WHITE X"),
   (0x2757, "HEAVY EXCLAMATION MARK SYMBOL|LIGHT VERTICAL BAR|MEDIUM VERTICAL BAR"),
   (0x275A, "HEAVY VERTICAL BAR|1SINGLE TURNED COMMA QUOTATION MARK ORNAMENT"),
   (0x275C, "2COMMA QUOTATION MARK ORNAMENT|1DOUBLE TURNED COMMA QUOTATION MARK ORNAMENT"),
   (0x275E, "2COMMA QUOTATION MARK ORNAMENT|1LOW SINGLE COMMA QUOTATION MARK ORNAMENT"),
   (0x2760, "2DOUBLE COMMA QUOTATION MARK ORNAMENT|CURVED STEM PARAGRAPH SIGN ORNAMENT"),
   (0x2762, "HEAVY EXCLAMATION MARK ORNAMENT|1HEART EXCLAMATION MARK ORNAMENT|1BLACK HEART"),
   (0x2765, "ROTATED HEAVY BLACK HEART BULLET|FLORAL HEART|ROTATED FLORAL HEART BULLET"),
   (0x2768, "MEDIUM LEFT PARENTHESIS ORNAMENT|1RIGHT PARENTHESIS ORNAMENT"),
   (0x276A, "1FLATTENED LEFT PARENTHESIS ORNAMENT|2RIGHT PARENTHESIS ORNAMENT"),
   (0x276C, "1LEFT-POINTING ANGLE BRACKET ORNAMENT|1RIGHT-POINTING ANGLE BRACKET ORNAMENT"),
   (0x276E, "HEAVY LEFT-POINTING ANGLE QUOTATION MARK ORNAMENT"),
   (0x276F, "1RIGHT-POINTING ANGLE QUOTATION MARK ORNAMENT|1LEFT-POINTING ANGLE BRACKET ORNAMENT"),
   (0x2771, "1RIGHT-POINTING ANGLE BRACKET ORNAMENT|LIGHT LEFT TORTOISE SHELL BRACKET ORNAMENT"),
   (0x2773, "1RIGHT TORTOISE SHELL BRACKET ORNAMENT|MEDIUM LEFT CURLY BRACKET ORNAMENT"),
   (0x2775, "1RIGHT CURLY BRACKET ORNAMENT|DINGBAT NEGATIVE CIRCLED DIGIT ONE|4TWO|4THREE|4FOUR"),
   (0x277A, "4FIVE|4SIX|4SEVEN|4EIGHT|4NINE|3NUMBER TEN|1CIRCLED SANS-SERIF DIGIT ONE|5TWO|5THREE"),
   (0x2783, "5FOUR|5FIVE|5SIX|5SEVEN|5EIGHT|5NINE|4NUMBER TEN"),
   (0x278A, "1NEGATIVE CIRCLED SANS-SERIF DIGIT ONE|6TWO|6THREE|6FOUR|6FIVE|6SIX|6SEVEN|6EIGHT"),
   (0x2792, "6NINE|5NUMBER TEN|HEAVY WIDE-HEADED RIGHTWARDS ARROW|1PLUS SIGN|1MINUS SIGN"),
   (0x2797, "1DIVISION SIGN|1SOUTH EAST ARROW|1RIGHTWARDS ARROW|1NORTH EAST ARROW"),
   (0x279B, "DRAFTING POINT RIGHTWARDS ARROW|HEAVY ROUND-TIPPED RIGHTWARDS ARROW"),
   (0x279D, "TRIANGLE-HEADED RIGHTWARDS ARROW|HEAVY TRIANGLE-HEADED RIGHTWARDS ARROW"),
   (0x279F, "DASHED TRIANGLE-HEADED RIGHTWARDS ARROW"),
   (0x27A0, "HEAVY DASHED TRIANGLE-HEADED RIGHTWARDS ARROW|BLACK RIGHTWARDS ARROW"),
   (0x27A2, "THREE-D TOP-LIGHTED RIGHTWARDS ARROWHEAD|2BOTTOM-LIGHTED RIGHTWARDS ARROWHEAD"),
   (0x27A4, "BLACK RIGHTWARDS ARROWHEAD|HEAVY BLACK CURVED DOWNWARDS AND RIGHTWARDS ARROW"),
   (0x27A6, "3UPWARDS AND RIGHTWARDS ARROW|SQUAT BLACK RIGHTWARDS ARROW"),
   (0x27A8, "HEAVY CONCAVE-POINTED BLACK RIGHTWARDS ARROW|RIGHT-SHADED WHITE RIGHTWARDS ARROW"),
   (0x27AA, "LEFT-SHADED WHITE RIGHTWARDS ARROW|BACK-TILTED SHADOWED WHITE RIGHTWARDS ARROW"),
   (0x27AC, "FRONT-TILTED SHADOWED WHITE RIGHTWARDS ARROW"),
   (0x27AD, "HEAVY LOWER RIGHT-SHADOWED WHITE RIGHTWARDS ARROW"),
   (0x27AE, "1UPPER RIGHT-SHADOWED WHITE RIGHTWARDS ARROW"),
   (0x27AF, "NOTCHED LOWER RIGHT-SHADOWED WHITE RIGHTWARDS ARROW|CURLY LOOP"),
   (0x27B1, "NOTCHED UPPER RIGHT-SHADOWED WHITE RIGHTWARDS ARROW"),
   (0x27B2, "CIRCLED HEAVY WHITE RIGHTWARDS ARROW|WHITE-FEATHERED RIGHTWARDS ARROW"),
   (0x27B4, "BLACK-FEATHERED SOUTH EAST ARROW|2RIGHTWARDS ARROW|2NORTH EAST ARROW"),
   (0x27B7, "HEAVY BLACK-FEATHERED SOUTH EAST ARROW|3RIGHTWARDS ARROW|3NORTH EAST ARROW"),
   (0x27BA, "TEARDROP-BARBED RIGHTWARDS ARROW|HEAVY TEARDROP-SHANKED RIGHTWARDS ARROW"),
   (0x27BC, "WEDGE-TAILED RIGHTWARDS ARROW|HEAVY WEDGE-TAILED RIGHTWARDS ARROW"),
   (0x27BE, "OPEN-OUTLINED RIGHTWARDS ARROW|DOUBLE CURLY LOOP|THREE DIMENSIONAL ANGLE"),
   (0x27C1, "WHITE TRIANGLE CONTAINING SMALL WHITE TRIANGLE|PERPENDICULAR|OPEN SUBSET|1SUPERSET"),
   (0x27C5, "LEFT S-SHAPED BAG DELIMITER|RIGHT S-SHAPED BAG DELIMITER|OR WITH DOT INSIDE"),
   (0x27C8, "REVERSE SOLIDUS PRECEDING SUBSET|SUPERSET PRECEDING SOLIDUS"),
   (0x27CA, "VERTICAL BAR WITH HORIZONTAL STROKE|MATHEMATICAL RISING DIAGONAL|LONG DIVISION"),
   (0x27CD, "MATHEMATICAL FALLING DIAGONAL|SQUARED LOGICAL AND|2OR|WHITE DIAMOND WITH CENTRED DOT"),
   (0x27D1, "AND WITH DOT|ELEMENT OF OPENING UPWARDS|LOWER RIGHT CORNER WITH DOT"),
   (0x27D4, "UPPER LEFT CORNER WITH DOT|LEFT OUTER JOIN|RIGHT OUTER JOIN|FULL OUTER JOIN"),
   (0x27D8, "LARGE UP TACK|1DOWN TACK|LEFT AND RIGHT DOUBLE TURNSTILE|3TACK|1MULTIMAP"),
   (0x27DD, "LONG RIGHT TACK|1LEFT TACK|UP TACK WITH CIRCLE ABOVE"),
   (0x27E0, "LOZENGE DIVIDED BY HORIZONTAL RULE|WHITE CONCAVE-SIDED DIAMOND"),
   (0x27E2, "3DIAMOND WITH LEFTWARDS TICK|5RIGHTWARDS TICK|1SQUARE WITH LEFTWARDS TICK"),
   (0x27E5, "3RIGHTWARDS TICK|MATHEMATICAL LEFT WHITE SQUARE BRACKET|1RIGHT WHITE SQUARE BRACKET"),
   (0x27E8, "1LEFT ANGLE BRACKET|1RIGHT ANGLE BRACKET|1LEFT DOUBLE ANGLE BRACKET"),
   (0x27EB, "1RIGHT DOUBLE ANGLE BRACKET|1LEFT WHITE TORTOISE SHELL BRACKET"),
   (0x27ED, "1RIGHT WHITE TORTOISE SHELL BRACKET|1LEFT FLATTENED PARENTHESIS"),
   (0x27EF, "1RIGHT FLATTENED PARENTHESIS|UPWARDS QUADRUPLE ARROW|DOWNWARDS QUADRUPLE ARROW"),
   (0x27F2, "ANTICLOCKWISE GAPPED CIRCLE ARROW|CLOCKWISE GAPPED CIRCLE ARROW"),
   (0x27F4, "RIGHT ARROW WITH CIRCLED PLUS|LONG LEFTWARDS ARROW|1RIGHTWARDS ARROW"),
   (0x27F7, "1LEFT RIGHT ARROW|1LEFTWARDS DOUBLE ARROW|1RIGHTWARDS DOUBLE ARROW"),
   (0x27FA, "1LEFT RIGHT DOUBLE ARROW|1LEFTWARDS ARROW FROM BAR|1RIGHTWARDS ARROW FROM BAR"),
   (0x27FD, "1LEFTWARDS DOUBLE ARROW FROM BAR|1RIGHTWARDS DOUBLE ARROW FROM BAR|2SQUIGGLE ARROW"),
   (0x2800, "BRAILLE PATTERN BLANK|2DOTS-1|32|312|33|313|323|3123|34|314|324|3124|334|3134|3234"),
   (0x280F, "31234|35|315|325|3125|335|3135|3235|31235|345|3145|3245|31245|3345|31345|32345"),
   (0x281F, "312345|36|316|326|3126|336|3136|3236|31236|346|3146|3246|31246|3346|31346|32346"),
   (0x282F, "312346|356|3156|3256|31256|3356|31356|32356|312356|3456|31456|32456|312456|33456"),
   (0x283D, "313456|323456|3123456|37|317|327|3127|337|3137|3237|31237|347|3147|3247|31247|3347"),
   (0x284D, "31347|32347|312347|357|3157|3257|31257|3357|31357|32357|312357|3457|31457|32457"),
   (0x285B, "312457|33457|313457|323457|3123457|367|3167|3267|31267|3367|31367|32367|312367|3467"),
   (0x2869, "31467|32467|312467|33467|313467|323467|3123467|3567|31567|32567|312567|33567|313567"),
   (0x2876, "323567|3123567|34567|314567|324567|3124567|334567|3134567|3234567|31234567|38|318"),
   (0x2882, "328|3128|338|3138|3238|31238|348|3148|3248|31248|3348|31348|32348|312348|358|3158"),
   (0x2892, "3258|31258|3358|31358|32358|312358|3458|31458|32458|312458|33458|313458|323458"),
   (0x289F, "3123458|368|3168|3268|31268|3368|31368|32368|312368|3468|31468|32468|312468|33468"),
   (0x28AD, "313468|323468|3123468|3568|31568|32568|312568|33568|313568|323568|3123568|34568"),
   (0x28B9, "314568|324568|3124568|334568|3134568|3234568|31234568|378|3178|3278|31278|3378|31378"),
   (0x28C6, "32378|312378|3478|31478|32478|312478|33478|313478|323478|3123478|3578|31578|32578"),
   (0x28D3, "312578|33578|313578|323578|3123578|34578|314578|324578|3124578|334578|3134578"),
   (0x28DE, "3234578|31234578|3678|31678|32678|312678|33678|313678|323678|3123678|34678|314678"),
   (0x28EA, "324678|3124678|334678|3134678|3234678|31234678|35678|315678|325678|3125678|335678"),
   (0x28F5, "3135678|3235678|31235678|345678|3145678|3245678|31245678|3345678|31345678|32345678"),
   (0x28FF, "312345678|RIGHTWARDS TWO-HEADED ARROW WITH VERTICAL STROKE|5DOUBLE VERTICAL STROKE"),
   (0x2902, "LEFTWARDS DOUBLE ARROW WITH VERTICAL STROKE"),
   (0x2903, "RIGHTWARDS DOUBLE ARROW WITH VERTICAL STROKE"),
   (0x2904, "LEFT RIGHT DOUBLE ARROW WITH VERTICAL STROKE|RIGHTWARDS TWO-HEADED ARROW FROM BAR"),
   (0x2906, "LEFTWARDS DOUBLE ARROW FROM BAR|RIGHTWARDS DOUBLE ARROW FROM BAR"),
   (0x2908, "DOWNWARDS ARROW WITH HORIZONTAL STROKE|UPWARDS ARROW WITH HORIZONTAL STROKE"),
   (0x290A, "1TRIPLE ARROW|DOWNWARDS TRIPLE ARROW|LEFTWARDS DOUBLE DASH ARROW"),
   (0x290D, "RIGHTWARDS DOUBLE DASH ARROW|LEFTWARDS TRIPLE DASH ARROW"),
   (0x290F, "RIGHTWARDS TRIPLE DASH ARROW|1TWO-HEADED TRIPLE DASH ARROW|1ARROW WITH DOTTED STEM"),
   (0x2912, "UPWARDS ARROW TO BAR|DOWNWARDS ARROW TO BAR"),
   (0x2914, "RIGHTWARDS ARROW WITH TAIL WITH VERTICAL STROKE|5DOUBLE VERTICAL STROKE"),
   (0x2916, "1TWO-HEADED ARROW WITH TAIL|5TAIL WITH VERTICAL STROKE|7DOUBLE VERTICAL STROKE"),
   (0x2919, "LEFTWARDS ARROW-TAIL|RIGHTWARDS ARROW-TAIL|LEFTWARDS DOUBLE ARROW-TAIL"),
   (0x291C, "RIGHTWARDS DOUBLE ARROW-TAIL|LEFTWARDS ARROW TO BLACK DIAMOND"),
   (0x291E, "RIGHTWARDS ARROW TO BLACK DIAMOND|LEFTWARDS ARROW FROM BAR TO BLACK DIAMOND"),
   (0x2920, "RIGHTWARDS ARROW FROM BAR TO BLACK DIAMOND|NORTH WEST AND SOUTH EAST ARROW"),
   (0x2922, "1EAST AND SOUTH WEST ARROW|1WEST ARROW WITH HOOK|1EAST ARROW WITH HOOK"),
   (0x2925, "SOUTH EAST ARROW WITH HOOK|1WEST ARROW WITH HOOK"),
   (0x2927, "NORTH WEST ARROW AND NORTH EAST ARROW|1EAST ARROW AND SOUTH EAST ARROW"),
   (0x2929, "SOUTH EAST ARROW AND SOUTH WEST ARROW|1WEST ARROW AND NORTH WEST ARROW"),
   (0x292B, "RISING DIAGONAL CROSSING FALLING DIAGONAL|FALLING DIAGONAL CROSSING RISING DIAGONAL"),
   (0x292D, "SOUTH EAST ARROW CROSSING NORTH EAST ARROW"),
   (0x292E, "NORTH EAST ARROW CROSSING SOUTH EAST ARROW"),
   (0x292F, "FALLING DIAGONAL CROSSING NORTH EAST ARROW|RISING DIAGONAL CROSSING SOUTH EAST ARROW"),
   (0x2931, "NORTH EAST ARROW CROSSING NORTH WEST ARROW|1WEST ARROW CROSSING NORTH EAST ARROW"),
   (0x2933, "WAVE ARROW POINTING DIRECTLY RIGHT|ARROW POINTING RIGHTWARDS THEN CURVING UPWARDS"),
   (0x2935, "5DOWNWARDS|2DOWNWARDS THEN CURVING LEFTWARDS|5RIGHTWARDS"),
   (0x2938, "RIGHT-SIDE ARC CLOCKWISE ARROW|LEFT-SIDE ARC ANTICLOCKWISE ARROW"),
   (0x293A, "TOP ARC ANTICLOCKWISE ARROW|BOTTOM ARC ANTICLOCKWISE ARROW"),
   (0x293C, "TOP ARC CLOCKWISE ARROW WITH MINUS|2ANTICLOCKWISE ARROW WITH PLUS"),
   (0x293E, "LOWER RIGHT SEMICIRCULAR CLOCKWISE ARROW|1LEFT SEMICIRCULAR ANTICLOCKWISE ARROW"),
   (0x2940, "ANTICLOCKWISE CLOSED CIRCLE ARROW|CLOCKWISE CLOSED CIRCLE ARROW"),
   (0x2942, "RIGHTWARDS ARROW ABOVE SHORT LEFTWARDS ARROW"),
   (0x2943, "LEFTWARDS ARROW ABOVE SHORT RIGHTWARDS ARROW"),
   (0x2944, "SHORT RIGHTWARDS ARROW ABOVE LEFTWARDS ARROW|RIGHTWARDS ARROW WITH PLUS BELOW"),
   (0x2946, "LEFTWARDS ARROW WITH PLUS BELOW|RIGHTWARDS ARROW THROUGH X"),
   (0x2948, "LEFT RIGHT ARROW THROUGH SMALL CIRCLE|UPWARDS TWO-HEADED ARROW FROM SMALL CIRCLE"),
   (0x294A, "LEFT BARB UP RIGHT BARB DOWN HARPOON|2DOWN RIGHT BARB UP HARPOON"),
   (0x294C, "UP BARB RIGHT DOWN BARB LEFT HARPOON|2LEFT DOWN BARB RIGHT HARPOON"),
   (0x294E, "LEFT BARB UP RIGHT BARB UP HARPOON|UP BARB RIGHT DOWN BARB RIGHT HARPOON"),
   (0x2950, "LEFT BARB DOWN RIGHT BARB DOWN HARPOON|UP BARB LEFT DOWN BARB LEFT HARPOON"),
   (0x2952, "LEFTWARDS HARPOON WITH BARB UP TO BAR|RIGHTWARDS HARPOON WITH BARB UP TO BAR"),
   (0x2954, "UPWARDS HARPOON WITH BARB RIGHT TO BAR|DOWNWARDS HARPOON WITH BARB RIGHT TO BAR"),
   (0x2956, "LEFTWARDS HARPOON WITH BARB DOWN TO BAR|RIGHTWARDS HARPOON WITH BARB DOWN TO BAR"),
   (0x2958, "UPWARDS HARPOON WITH BARB LEFT TO BAR|DOWNWARDS HARPOON WITH BARB LEFT TO BAR"),
   (0x295A, "LEFTWARDS HARPOON WITH BARB UP FROM BAR|RIGHTWARDS HARPOON WITH BARB UP FROM BAR"),
   (0x295C, "UPWARDS HARPOON WITH BARB RIGHT FROM BAR|DOWNWARDS HARPOON WITH BARB RIGHT FROM BAR"),
   (0x295E, "LEFTWARDS HARPOON WITH BARB DOWN FROM BAR|RIGHTWARDS HARPOON WITH BARB DOWN FROM BAR"),
   (0x2960, "UPWARDS HARPOON WITH BARB LEFT FROM BAR|DOWNWARDS HARPOON WITH BARB LEFT FROM BAR"),
   (0x2962, "LEFTWARDS HARPOON WITH BARB UP ABOVE LEFTWARDS HARPOON WITH BARB DOWN"),
   (0x2963, "UPWARDS HARPOON WITH BARB LEFT BESIDE UPWARDS HARPOON WITH BARB RIGHT"),
   (0x2964, "RIGHTWARDS HARPOON WITH BARB UP ABOVE RIGHTWARDS HARPOON WITH BARB DOWN"),
   (0x2965, "DOWNWARDS HARPOON WITH BARB LEFT BESIDE DOWNWARDS HARPOON WITH BARB RIGHT"),
   (0x2966, "LEFTWARDS HARPOON WITH BARB UP ABOVE RIGHTWARDS HARPOON WITH BARB UP"),
   (0x2967, "4DOWN ABOVE RIGHTWARDS HARPOON WITH BARB DOWN"),
   (0x2968, "RIGHTWARDS HARPOON WITH BARB UP ABOVE LEFTWARDS HARPOON WITH BARB UP"),
   (0x2969, "4DOWN ABOVE LEFTWARDS HARPOON WITH BARB DOWN"),
   (0x296A, "LEFTWARDS HARPOON WITH BARB UP ABOVE LONG DASH|4DOWN BELOW LONG DASH"),
   (0x296C, "RIGHTWARDS HARPOON WITH BARB UP ABOVE LONG DASH|4DOWN BELOW LONG DASH"),
   (0x296E, "UPWARDS HARPOON WITH BARB LEFT BESIDE DOWNWARDS HARPOON WITH BARB RIGHT"),
   (0x296F, "DOWNWARDS HARPOON WITH BARB LEFT BESIDE UPWARDS HARPOON WITH BARB RIGHT"),
   (0x2970, "RIGHT DOUBLE ARROW WITH ROUNDED HEAD|EQUALS SIGN ABOVE RIGHTWARDS ARROW"),
   (0x2972, "TILDE OPERATOR ABOVE RIGHTWARDS ARROW|LEFTWARDS ARROW ABOVE TILDE OPERATOR"),
   (0x2974, "RIGHTWARDS ARROW ABOVE TILDE OPERATOR|3ALMOST EQUAL TO"),
   (0x2976, "LESS-THAN ABOVE LEFTWARDS ARROW|LEFTWARDS ARROW THROUGH LESS-THAN"),
   (0x2978, "GREATER-THAN ABOVE RIGHTWARDS ARROW|SUBSET ABOVE RIGHTWARDS ARROW"),
   (0x297A, "LEFTWARDS ARROW THROUGH SUBSET|SUPERSET ABOVE LEFTWARDS ARROW|LEFT FISH TAIL"),
   (0x297D, "RIGHT FISH TAIL|UP FISH TAIL|DOWN FISH TAIL|TRIPLE VERTICAL BAR DELIMITER"),
   (0x2981, "Z NOTATION SPOT|2TYPE COLON|LEFT WHITE CURLY BRACKET|RIGHT WHITE CURLY BRACKET"),
   (0x2985, "LEFT WHITE PARENTHESIS|RIGHT WHITE PARENTHESIS|Z NOTATION LEFT IMAGE BRACKET"),
   (0x2988, "2RIGHT IMAGE BRACKET|2LEFT BINDING BRACKET|2RIGHT BINDING BRACKET"),
   (0x298B, "LEFT SQUARE BRACKET WITH UNDERBAR|RIGHT SQUARE BRACKET WITH UNDERBAR"),
   (0x298D, "LEFT SQUARE BRACKET WITH TICK IN TOP CORNER"),
   (0x298E, "RIGHT SQUARE BRACKET WITH TICK IN BOTTOM CORNER"),
   (0x298F, "LEFT SQUARE BRACKET WITH TICK IN BOTTOM CORNER"),
   (0x2990, "RIGHT SQUARE BRACKET WITH TICK IN TOP CORNER|LEFT ANGLE BRACKET WITH DOT"),
   (0x2992, "RIGHT ANGLE BRACKET WITH DOT|LEFT ARC LESS-THAN BRACKET"),
   (0x2994, "RIGHT ARC GREATER-THAN BRACKET|DOUBLE LEFT ARC GREATER-THAN BRACKET"),
   (0x2996, "1RIGHT ARC LESS-THAN BRACKET|LEFT BLACK TORTOISE SHELL BRACKET"),
   (0x2998, "RIGHT BLACK TORTOISE SHELL BRACKET|DOTTED FENCE|VERTICAL ZIGZAG LINE"),
   (0x299B, "MEASURED ANGLE OPENING LEFT|RIGHT ANGLE VARIANT WITH SQUARE"),
   (0x299D, "MEASURED RIGHT ANGLE WITH DOT|ANGLE WITH S INSIDE|ACUTE ANGLE"),
   (0x29A0, "SPHERICAL ANGLE OPENING LEFT|3UP|TURNED ANGLE|REVERSED ANGLE|ANGLE WITH UNDERBAR"),
   (0x29A5, "REVERSED ANGLE WITH UNDERBAR|OBLIQUE ANGLE OPENING UP|3DOWN"),
   (0x29A8, "MEASURED ANGLE WITH OPEN ARM ENDING IN ARROW POINTING UP AND RIGHT|9UP AND LEFT"),
   (0x29AA, "9DOWN AND RIGHT|9DOWN AND LEFT|9RIGHT AND UP|9LEFT AND UP|9RIGHT AND DOWN"),
   (0x29AF, "9LEFT AND DOWN|REVERSED EMPTY SET|EMPTY SET WITH OVERBAR|3SMALL CIRCLE ABOVE"),
   (0x29B3, "3RIGHT ARROW ABOVE|3LEFT ARROW ABOVE|CIRCLE WITH HORIZONTAL BAR|CIRCLED VERTICAL BAR"),
   (0x29B7, "1PARALLEL|1REVERSE SOLIDUS|1PERPENDICULAR"),
   (0x29BA, "CIRCLE DIVIDED BY HORIZONTAL BAR AND TOP HALF DIVIDED BY VERTICAL BAR"),
   (0x29BB, "1WITH SUPERIMPOSED X|CIRCLED ANTICLOCKWISE-ROTATED DIVISION SIGN"),
   (0x29BD, "UP ARROW THROUGH CIRCLE|CIRCLED WHITE BULLET|1BULLET|1LESS-THAN|1GREATER-THAN"),
   (0x29C2, "CIRCLE WITH SMALL CIRCLE TO THE RIGHT|2TWO HORIZONTAL STROKES TO THE RIGHT"),
   (0x29C4, "SQUARED RISING DIAGONAL SLASH|1FALLING DIAGONAL SLASH|1ASTERISK|1SMALL CIRCLE"),
   (0x29C8, "1SQUARE|TWO JOINED SQUARES|TRIANGLE WITH DOT ABOVE|2UNDERBAR|S IN TRIANGLE"),
   (0x29CD, "TRIANGLE WITH SERIFS AT BOTTOM|RIGHT TRIANGLE ABOVE LEFT TRIANGLE"),
   (0x29CF, "LEFT TRIANGLE BESIDE VERTICAL BAR|VERTICAL BAR BESIDE RIGHT TRIANGLE"),
   (0x29D1, "BOWTIE WITH LEFT HALF BLACK|2RIGHT HALF BLACK|BLACK BOWTIE"),
   (0x29D4, "TIMES WITH LEFT HALF BLACK|2RIGHT HALF BLACK|WHITE HOURGLASS|BLACK HOURGLASS"),
   (0x29D8, "LEFT WIGGLY FENCE|RIGHT WIGGLY FENCE|LEFT DOUBLE WIGGLY FENCE"),
   (0x29DB, "RIGHT DOUBLE WIGGLY FENCE|INCOMPLETE INFINITY|TIE OVER INFINITY"),
   (0x29DE, "INFINITY NEGATED WITH VERTICAL BAR|DOUBLE-ENDED MULTIMAP"),
   (0x29E0, "SQUARE WITH CONTOURED OUTLINE|INCREASES AS|SHUFFLE PRODUCT"),
   (0x29E3, "EQUALS SIGN AND SLANTED PARALLEL|4PARALLEL WITH TILDE ABOVE"),
   (0x29E5, "IDENTICAL TO AND SLANTED PARALLEL|GLEICH STARK|THERMODYNAMIC"),
   (0x29E8, "DOWN-POINTING TRIANGLE WITH LEFT HALF BLACK|4RIGHT HALF BLACK"),
   (0x29EA, "BLACK DIAMOND WITH DOWN ARROW|1LOZENGE|WHITE CIRCLE WITH DOWN ARROW"),
   (0x29ED, "BLACK CIRCLE WITH DOWN ARROW|ERROR-BARRED WHITE SQUARE|2BLACK SQUARE|2WHITE DIAMOND"),
   (0x29F1, "2BLACK DIAMOND|2WHITE CIRCLE|2BLACK CIRCLE|RULE-DELAYED|REVERSE SOLIDUS OPERATOR"),
   (0x29F6, "SOLIDUS WITH OVERBAR|REVERSE SOLIDUS WITH HORIZONTAL STROKE|BIG SOLIDUS"),
   (0x29F9, "1REVERSE SOLIDUS|DOUBLE PLUS|TRIPLE PLUS|LEFT-POINTING CURVED ANGLE BRACKET"),
   (0x29FD, "RIGHT-POINTING CURVED ANGLE BRACKET|TINY|MINY|N-ARY CIRCLED DOT OPERATOR"),
   (0x2A01, "3PLUS OPERATOR|3TIMES OPERATOR|2UNION OPERATOR WITH DOT|5PLUS"),
   (0x2A05, "2SQUARE INTERSECTION OPERATOR|3UNION OPERATOR|TWO LOGICAL AND OPERATOR|2OR OPERATOR"),
   (0x2A09, "N-ARY TIMES OPERATOR|MODULO TWO SUM|SUMMATION WITH INTEGRAL"),
   (0x2A0C, "QUADRUPLE INTEGRAL OPERATOR|FINITE PART INTEGRAL|INTEGRAL WITH DOUBLE STROKE"),
   (0x2A0F, "1AVERAGE WITH SLASH|CIRCULATION FUNCTION|ANTICLOCKWISE INTEGRATION"),
   (0x2A12, "LINE INTEGRATION WITH RECTANGULAR PATH AROUND POLE|3SEMICIRCULAR PATH AROUND POLE"),
   (0x2A14, "2NOT INCLUDING THE POLE|INTEGRAL AROUND A POINT OPERATOR"),
   (0x2A16, "QUATERNION INTEGRAL OPERATOR|INTEGRAL WITH LEFTWARDS ARROW WITH HOOK|2TIMES SIGN"),
   (0x2A19, "2INTERSECTION|2UNION|2OVERBAR|2UNDERBAR|JOIN|LARGE LEFT TRIANGLE OPERATOR"),
   (0x2A1F, "Z NOTATION SCHEMA COMPOSITION|3PIPING|3PROJECTION|PLUS SIGN WITH SMALL CIRCLE ABOVE"),
   (0x2A23, "3CIRCUMFLEX ACCENT ABOVE|3TILDE ABOVE|3DOT BELOW|3TILDE BELOW|3SUBSCRIPT TWO"),
   (0x2A28, "3BLACK TRIANGLE|MINUS SIGN WITH COMMA ABOVE|3DOT BELOW|3FALLING DOTS|3RISING DOTS"),
   (0x2A2D, "PLUS SIGN IN LEFT HALF CIRCLE|3RIGHT HALF CIRCLE|VECTOR OR CROSS PRODUCT"),
   (0x2A30, "MULTIPLICATION SIGN WITH DOT ABOVE|3UNDERBAR|SEMIDIRECT PRODUCT WITH BOTTOM CLOSED"),
   (0x2A33, "SMASH PRODUCT|MULTIPLICATION SIGN IN LEFT HALF CIRCLE|3RIGHT HALF CIRCLE"),
   (0x2A36, "CIRCLED MULTIPLICATION SIGN WITH CIRCUMFLEX ACCENT"),
   (0x2A37, "MULTIPLICATION SIGN IN DOUBLE CIRCLE|CIRCLED DIVISION SIGN|PLUS SIGN IN TRIANGLE"),
   (0x2A3A, "MINUS SIGN IN TRIANGLE|MULTIPLICATION SIGN IN TRIANGLE|INTERIOR PRODUCT"),
   (0x2A3D, "RIGHTHAND INTERIOR PRODUCT|Z NOTATION RELATIONAL COMPOSITION"),
   (0x2A3F, "AMALGAMATION OR COPRODUCT|INTERSECTION WITH DOT|UNION WITH MINUS SIGN|2OVERBAR"),
   (0x2A43, "INTERSECTION WITH OVERBAR|2LOGICAL AND|UNION WITH LOGICAL OR|1ABOVE INTERSECTION"),
   (0x2A47, "INTERSECTION ABOVE UNION|UNION ABOVE BAR ABOVE INTERSECTION"),
   (0x2A49, "INTERSECTION ABOVE BAR ABOVE UNION|UNION BESIDE AND JOINED WITH UNION"),
   (0x2A4B, "INTERSECTION BESIDE AND JOINED WITH INTERSECTION|CLOSED UNION WITH SERIFS"),
   (0x2A4D, "1INTERSECTION WITH SERIFS|DOUBLE SQUARE INTERSECTION|2UNION"),
   (0x2A50, "CLOSED UNION WITH SERIFS AND SMASH PRODUCT|LOGICAL AND WITH DOT ABOVE"),
   (0x2A52, "1OR WITH DOT ABOVE|DOUBLE LOGICAL AND|2OR|TWO INTERSECTING LOGICAL AND|3OR"),
   (0x2A57, "SLOPING LARGE OR|2AND|LOGICAL OR OVERLAPPING LOGICAL AND|1AND WITH MIDDLE STEM"),
   (0x2A5B, "1OR WITH MIDDLE STEM|1AND WITH HORIZONTAL DASH|1OR WITH HORIZONTAL DASH"),
   (0x2A5E, "1AND WITH DOUBLE OVERBAR|3UNDERBAR|3DOUBLE UNDERBAR|SMALL VEE WITH UNDERBAR"),
   (0x2A62, "LOGICAL OR WITH DOUBLE OVERBAR|4UNDERBAR|Z NOTATION DOMAIN ANTIRESTRICTION"),
   (0x2A65, "2RANGE ANTIRESTRICTION|EQUALS SIGN WITH DOT BELOW|IDENTICAL WITH DOT ABOVE"),
   (0x2A68, "TRIPLE HORIZONTAL BAR WITH DOUBLE VERTICAL STROKE|4TRIPLE VERTICAL STROKE"),
   (0x2A6A, "TILDE OPERATOR WITH DOT ABOVE|3RISING DOTS|SIMILAR MINUS SIMILAR"),
   (0x2A6D, "CONGRUENT WITH DOT ABOVE|EQUALS WITH ASTERISK|ALMOST EQUAL TO WITH CIRCUMFLEX ACCENT"),
   (0x2A70, "APPROXIMATELY EQUAL OR EQUAL TO|EQUALS SIGN ABOVE PLUS SIGN"),
   (0x2A72, "PLUS SIGN ABOVE EQUALS SIGN|EQUALS SIGN ABOVE TILDE OPERATOR|DOUBLE COLON EQUAL"),
   (0x2A75, "TWO CONSECUTIVE EQUALS SIGNS|THREE CONSECUTIVE EQUALS SIGNS"),
   (0x2A77, "EQUALS SIGN WITH TWO DOTS ABOVE AND TWO DOTS BELOW|EQUIVALENT WITH FOUR DOTS ABOVE"),
   (0x2A79, "LESS-THAN WITH CIRCLE INSIDE|GREATER-THAN WITH CIRCLE INSIDE"),
   (0x2A7B, "LESS-THAN WITH QUESTION MARK ABOVE|GREATER-THAN WITH QUESTION MARK ABOVE"),
   (0x2A7D, "LESS-THAN OR SLANTED EQUAL TO|GREATER-THAN OR SLANTED EQUAL TO"),
   (0x2A7F, "LESS-THAN OR SLANTED EQUAL TO WITH DOT INSIDE"),
   (0x2A80, "GREATER-THAN OR SLANTED EQUAL TO WITH DOT INSIDE"),
   (0x2A81, "LESS-THAN OR SLANTED EQUAL TO WITH DOT ABOVE"),
   (0x2A82, "GREATER-THAN OR SLANTED EQUAL TO WITH DOT ABOVE"),
   (0x2A83, "LESS-THAN OR SLANTED EQUAL TO WITH DOT ABOVE RIGHT"),
   (0x2A84, "GREATER-THAN OR SLANTED EQUAL TO WITH DOT ABOVE LEFT|LESS-THAN OR APPROXIMATE"),
   (0x2A86, "GREATER-THAN OR APPROXIMATE|LESS-THAN AND SINGLE-LINE NOT EQUAL TO"),
   (0x2A88, "GREATER-THAN AND SINGLE-LINE NOT EQUAL TO|LESS-THAN AND NOT APPROXIMATE"),
   (0x2A8A, "GREATER-THAN AND NOT APPROXIMATE"),
   (0x2A8B, "LESS-THAN ABOVE DOUBLE-LINE EQUAL ABOVE GREATER-THAN"),
   (0x2A8C, "GREATER-THAN ABOVE DOUBLE-LINE EQUAL ABOVE LESS-THAN"),
   (0x2A8D, "LESS-THAN ABOVE SIMILAR OR EQUAL|GREATER-THAN ABOVE SIMILAR OR EQUAL"),
   (0x2A8F, "LESS-THAN ABOVE SIMILAR ABOVE GREATER-THAN"),
   (0x2A90, "GREATER-THAN ABOVE SIMILAR ABOVE LESS-THAN"),
   (0x2A91, "LESS-THAN ABOVE GREATER-THAN ABOVE DOUBLE-LINE EQUAL"),
   (0x2A92, "GREATER-THAN ABOVE LESS-THAN ABOVE DOUBLE-LINE EQUAL"),
   (0x2A93, "LESS-THAN ABOVE SLANTED EQUAL ABOVE GREATER-THAN ABOVE SLANTED EQUAL"),
   (0x2A94, "GREATER-THAN ABOVE SLANTED EQUAL ABOVE LESS-THAN ABOVE SLANTED EQUAL"),
   (0x2A95, "SLANTED EQUAL TO OR LESS-THAN|4GREATER-THAN|4LESS-THAN WITH DOT INSIDE"),
   (0x2A98, "4GREATER-THAN WITH DOT INSIDE|DOUBLE-LINE EQUAL TO OR LESS-THAN|5GREATER-THAN"),
   (0x2A9B, "2SLANTED EQUAL TO OR LESS-THAN|6GREATER-THAN|SIMILAR OR LESS-THAN|2GREATER-THAN"),
   (0x2A9F, "1ABOVE LESS-THAN ABOVE EQUALS SIGN|2GREATER-THAN ABOVE EQUALS SIGN"),
   (0x2AA1, "DOUBLE NESTED LESS-THAN|2GREATER-THAN|2LESS-THAN WITH UNDERBAR"),
   (0x2AA4, "GREATER-THAN OVERLAPPING LESS-THAN|2BESIDE LESS-THAN|LESS-THAN CLOSED BY CURVE"),
   (0x2AA7, "GREATER-THAN CLOSED BY CURVE|LESS-THAN CLOSED BY CURVE ABOVE SLANTED EQUAL"),
   (0x2AA9, "GREATER-THAN CLOSED BY CURVE ABOVE SLANTED EQUAL|SMALLER THAN|LARGER THAN"),
   (0x2AAC, "SMALLER THAN OR EQUAL TO|LARGER THAN OR EQUAL TO|EQUALS SIGN WITH BUMPY ABOVE"),
   (0x2AAF, "PRECEDES ABOVE SINGLE-LINE EQUALS SIGN|SUCCEEDS ABOVE SINGLE-LINE EQUALS SIGN"),
   (0x2AB1, "PRECEDES ABOVE SINGLE-LINE NOT EQUAL TO|SUCCEEDS ABOVE SINGLE-LINE NOT EQUAL TO"),
   (0x2AB3, "PRECEDES ABOVE EQUALS SIGN|SUCCEEDS ABOVE EQUALS SIGN|PRECEDES ABOVE NOT EQUAL TO"),
   (0x2AB6, "SUCCEEDS ABOVE NOT EQUAL TO|PRECEDES ABOVE ALMOST EQUAL TO"),
   (0x2AB8, "SUCCEEDS ABOVE ALMOST EQUAL TO|PRECEDES ABOVE NOT ALMOST EQUAL TO"),
   (0x2ABA, "SUCCEEDS ABOVE NOT ALMOST EQUAL TO|DOUBLE PRECEDES|1SUCCEEDS|SUBSET WITH DOT"),
   (0x2ABE, "SUPERSET WITH DOT|SUBSET WITH PLUS SIGN BELOW|SUPERSET WITH PLUS SIGN BELOW"),
   (0x2AC1, "SUBSET WITH MULTIPLICATION SIGN BELOW|SUPERSET WITH MULTIPLICATION SIGN BELOW"),
   (0x2AC3, "SUBSET OF OR EQUAL TO WITH DOT ABOVE|SUPERSET OF OR EQUAL TO WITH DOT ABOVE"),
   (0x2AC5, "SUBSET OF ABOVE EQUALS SIGN|SUPERSET OF ABOVE EQUALS SIGN"),
   (0x2AC7, "SUBSET OF ABOVE TILDE OPERATOR|SUPERSET OF ABOVE TILDE OPERATOR"),
   (0x2AC9, "SUBSET OF ABOVE ALMOST EQUAL TO|SUPERSET OF ABOVE ALMOST EQUAL TO"),
   (0x2ACB, "SUBSET OF ABOVE NOT EQUAL TO|SUPERSET OF ABOVE NOT EQUAL TO"),
   (0x2ACD, "SQUARE LEFT OPEN BOX OPERATOR|1RIGHT OPEN BOX OPERATOR|CLOSED SUBSET|1SUPERSET"),
   (0x2AD1, "1SUBSET OR EQUAL TO|1SUPERSET OR EQUAL TO|SUBSET ABOVE SUPERSET"),
   (0x2AD4, "SUPERSET ABOVE SUBSET|SUBSET ABOVE SUBSET|SUPERSET ABOVE SUPERSET|1BESIDE SUBSET"),
   (0x2AD8, "2AND JOINED BY DASH WITH SUBSET|ELEMENT OF OPENING DOWNWARDS|PITCHFORK WITH TEE TOP"),
   (0x2ADB, "TRANSVERSAL INTERSECTION|FORKING|NONFORKING|SHORT LEFT TACK|1DOWN TACK|1UP TACK"),
   (0x2AE1, "PERPENDICULAR WITH S|VERTICAL BAR TRIPLE RIGHT TURNSTILE"),
   (0x2AE3, "DOUBLE VERTICAL BAR LEFT TURNSTILE|VERTICAL BAR DOUBLE LEFT TURNSTILE"),
   (0x2AE5, "DOUBLE VERTICAL BAR DOUBLE LEFT TURNSTILE"),
   (0x2AE6, "LONG DASH FROM LEFT MEMBER OF DOUBLE VERTICAL|SHORT DOWN TACK WITH OVERBAR"),
   (0x2AE8, "1UP TACK WITH UNDERBAR|3ABOVE SHORT DOWN TACK|DOUBLE DOWN TACK|1UP TACK"),
   (0x2AEC, "1STROKE NOT SIGN|REVERSED DOUBLE STROKE NOT SIGN"),
   (0x2AEE, "DOES NOT DIVIDE WITH REVERSED NEGATION SLASH|VERTICAL LINE WITH CIRCLE ABOVE|4BELOW"),
   (0x2AF1, "DOWN TACK WITH CIRCLE BELOW|PARALLEL WITH HORIZONTAL STROKE|2TILDE OPERATOR"),
   (0x2AF4, "TRIPLE VERTICAL BAR BINARY RELATION|3WITH HORIZONTAL STROKE|1COLON OPERATOR"),
   (0x2AF7, "1NESTED LESS-THAN|2GREATER-THAN|DOUBLE-LINE SLANTED LESS-THAN OR EQUAL TO"),
   (0x2AFA, "3GREATER-THAN OR EQUAL TO|TRIPLE SOLIDUS BINARY RELATION"),
   (0x2AFC, "LARGE TRIPLE VERTICAL BAR OPERATOR|DOUBLE SOLIDUS OPERATOR|WHITE VERTICAL BAR"),
   (0x2AFF, "N-ARY WHITE VERTICAL BAR|NORTH EAST WHITE ARROW|1WEST WHITE ARROW"),
   (0x2B02, "SOUTH EAST WHITE ARROW|1WEST WHITE ARROW|LEFT RIGHT WHITE ARROW"),
   (0x2B05, "LEFTWARDS BLACK ARROW|UPWARDS BLACK ARROW|DOWNWARDS BLACK ARROW"),
   (0x2B08, "NORTH EAST BLACK ARROW|1WEST BLACK ARROW|SOUTH EAST BLACK ARROW|1WEST BLACK ARROW"),
   (0x2B0C, "LEFT RIGHT BLACK ARROW|UP DOWN BLACK ARROW|RIGHTWARDS ARROW WITH TIP DOWNWARDS"),
   (0x2B0F, "4UPWARDS|LEFTWARDS ARROW WITH TIP DOWNWARDS|4UPWARDS|SQUARE WITH TOP HALF BLACK"),
   (0x2B13, "2BOTTOM HALF BLACK|2UPPER RIGHT DIAGONAL HALF BLACK|2LOWER LEFT DIAGONAL HALF BLACK"),
   (0x2B16, "DIAMOND WITH LEFT HALF BLACK|2RIGHT HALF BLACK|2TOP HALF BLACK|2BOTTOM HALF BLACK"),
   (0x2B1A, "DOTTED SQUARE|BLACK LARGE SQUARE|WHITE LARGE SQUARE|BLACK VERY SMALL SQUARE"),
   (0x2B1E, "WHITE VERY SMALL SQUARE|BLACK PENTAGON|WHITE PENTAGON|1HEXAGON|BLACK HEXAGON"),
   (0x2B23, "HORIZONTAL BLACK HEXAGON|BLACK LARGE CIRCLE|1MEDIUM DIAMOND|WHITE MEDIUM DIAMOND"),
   (0x2B27, "BLACK MEDIUM LOZENGE|WHITE MEDIUM LOZENGE|BLACK SMALL DIAMOND|2LOZENGE"),
   (0x2B2B, "WHITE SMALL LOZENGE|BLACK HORIZONTAL ELLIPSE|WHITE HORIZONTAL ELLIPSE"),
   (0x2B2E, "BLACK VERTICAL ELLIPSE|WHITE VERTICAL ELLIPSE|LEFT ARROW WITH SMALL CIRCLE"),
   (0x2B31, "THREE LEFTWARDS ARROWS|LEFT ARROW WITH CIRCLED PLUS|LONG LEFTWARDS SQUIGGLE ARROW"),
   (0x2B34, "LEFTWARDS TWO-HEADED ARROW WITH VERTICAL STROKE|5DOUBLE VERTICAL STROKE|4FROM BAR"),
   (0x2B37, "3TRIPLE DASH ARROW|1ARROW WITH DOTTED STEM|3TAIL WITH VERTICAL STROKE"),
   (0x2B3A, "5DOUBLE VERTICAL STROKE|1TWO-HEADED ARROW WITH TAIL|5TAIL WITH VERTICAL STROKE"),
   (0x2B3D, "7DOUBLE VERTICAL STROKE|1ARROW THROUGH X|WAVE ARROW POINTING DIRECTLY LEFT"),
   (0x2B40, "EQUALS SIGN ABOVE LEFTWARDS ARROW|REVERSE TILDE OPERATOR ABOVE LEFTWARDS ARROW"),
   (0x2B42, "LEFTWARDS ARROW ABOVE REVERSE ALMOST EQUAL TO|RIGHTWARDS ARROW THROUGH GREATER-THAN"),
   (0x2B44, "3SUPERSET|LEFTWARDS QUADRUPLE ARROW|RIGHTWARDS QUADRUPLE ARROW"),
   (0x2B47, "REVERSE TILDE OPERATOR ABOVE RIGHTWARDS ARROW"),
   (0x2B48, "RIGHTWARDS ARROW ABOVE REVERSE ALMOST EQUAL TO|TILDE OPERATOR ABOVE LEFTWARDS ARROW"),
   (0x2B4A, "LEFTWARDS ARROW ABOVE ALMOST EQUAL TO|3REVERSE TILDE OPERATOR"),
   (0x2B4C, "RIGHTWARDS ARROW ABOVE REVERSE TILDE OPERATOR|DOWNWARDS TRIANGLE-HEADED ZIGZAG ARROW"),
   (0x2B4E, "SHORT SLANTED NORTH ARROW|1BACKSLANTED SOUTH ARROW|WHITE MEDIUM STAR"),
   (0x2B51, "BLACK SMALL STAR|WHITE SMALL STAR|BLACK RIGHT-POINTING PENTAGON"),
   (0x2B54, "WHITE RIGHT-POINTING PENTAGON|HEAVY LARGE CIRCLE|1OVAL WITH OVAL INSIDE"),
   (0x2B57, "1CIRCLE WITH CIRCLE INSIDE|1CIRCLE|1CIRCLED SALTIRE"),
   (0x2B5A, "SLANTED NORTH ARROW WITH HOOKED HEAD|BACKSLANTED SOUTH ARROW WITH HOOKED TAIL"),
   (0x2B5C, "SLANTED NORTH ARROW WITH HORIZONTAL TAIL"),
   (0x2B5D, "BACKSLANTED SOUTH ARROW WITH HORIZONTAL TAIL"),
   (0x2B5E, "BENT ARROW POINTING DOWNWARDS THEN NORTH EAST"),
   (0x2B5F, "SHORT BENT ARROW POINTING DOWNWARDS THEN NORTH EAST|LEFTWARDS TRIANGLE-HEADED ARROW"),
   (0x2B61, "UPWARDS TRIANGLE-HEADED ARROW|RIGHTWARDS TRIANGLE-HEADED ARROW"),
   (0x2B63, "DOWNWARDS TRIANGLE-HEADED ARROW|LEFT RIGHT TRIANGLE-HEADED ARROW"),
   (0x2B65, "UP DOWN TRIANGLE-HEADED ARROW|NORTH WEST TRIANGLE-HEADED ARROW"),
   (0x2B67, "1EAST TRIANGLE-HEADED ARROW|SOUTH EAST TRIANGLE-HEADED ARROW"),
   (0x2B69, "1WEST TRIANGLE-HEADED ARROW|LEFTWARDS TRIANGLE-HEADED DASHED ARROW"),
   (0x2B6B, "UPWARDS TRIANGLE-HEADED DASHED ARROW|RIGHTWARDS TRIANGLE-HEADED DASHED ARROW"),
   (0x2B6D, "DOWNWARDS TRIANGLE-HEADED DASHED ARROW|CLOCKWISE TRIANGLE-HEADED OPEN CIRCLE ARROW"),
   (0x2B6F, "ANTICLOCKWISE TRIANGLE-HEADED OPEN CIRCLE ARROW"),
   (0x2B70, "LEFTWARDS TRIANGLE-HEADED ARROW TO BAR|UPWARDS TRIANGLE-HEADED ARROW TO BAR"),
   (0x2B72, "RIGHTWARDS TRIANGLE-HEADED ARROW TO BAR|DOWNWARDS TRIANGLE-HEADED ARROW TO BAR"),
   (0x2B76, "NORTH WEST TRIANGLE-HEADED ARROW TO BAR|1EAST TRIANGLE-HEADED ARROW TO BAR"),
   (0x2B78, "SOUTH EAST TRIANGLE-HEADED ARROW TO BAR|1WEST TRIANGLE-HEADED ARROW TO BAR"),
   (0x2B7A, "LEFTWARDS TRIANGLE-HEADED ARROW WITH DOUBLE HORIZONTAL STROKE"),
   (0x2B7B, "UPWARDS TRIANGLE-HEADED ARROW WITH DOUBLE HORIZONTAL STROKE"),
   (0x2B7C, "RIGHTWARDS TRIANGLE-HEADED ARROW WITH DOUBLE HORIZONTAL STROKE"),
   (0x2B7D, "DOWNWARDS TRIANGLE-HEADED ARROW WITH DOUBLE HORIZONTAL STROKE|HORIZONTAL TAB KEY"),
   (0x2B7F, "VERTICAL TAB KEY"),
   (0x2B80, "LEFTWARDS TRIANGLE-HEADED ARROW OVER RIGHTWARDS TRIANGLE-HEADED ARROW"),
   (0x2B81, "UPWARDS TRIANGLE-HEADED ARROW LEFTWARDS OF DOWNWARDS TRIANGLE-HEADED ARROW"),
   (0x2B82, "RIGHTWARDS TRIANGLE-HEADED ARROW OVER LEFTWARDS TRIANGLE-HEADED ARROW"),
   (0x2B83, "DOWNWARDS TRIANGLE-HEADED ARROW LEFTWARDS OF UPWARDS TRIANGLE-HEADED ARROW"),
   (0x2B84, "LEFTWARDS TRIANGLE-HEADED PAIRED ARROWS|UPWARDS TRIANGLE-HEADED PAIRED ARROWS"),
   (0x2B86, "RIGHTWARDS TRIANGLE-HEADED PAIRED ARROWS|DOWNWARDS TRIANGLE-HEADED PAIRED ARROWS"),
   (0x2B88, "LEFTWARDS BLACK CIRCLED WHITE ARROW|UPWARDS BLACK CIRCLED WHITE ARROW"),
   (0x2B8A, "RIGHTWARDS BLACK CIRCLED WHITE ARROW|DOWNWARDS BLACK CIRCLED WHITE ARROW"),
   (0x2B8C, "ANTICLOCKWISE TRIANGLE-HEADED RIGHT U-SHAPED ARROW|3BOTTOM U-SHAPED ARROW"),
   (0x2B8E, "3LEFT U-SHAPED ARROW|3TOP U-SHAPED ARROW|RETURN LEFT|1RIGHT|NEWLINE LEFT|1RIGHT"),
   (0x2B94, "FOUR CORNER ARROWS CIRCLING ANTICLOCKWISE|RIGHTWARDS BLACK ARROW"),
   (0x2B97, "SYMBOL FOR TYPE A ELECTRONICS|THREE-D TOP-LIGHTED LEFTWARDS EQUILATERAL ARROWHEAD"),
   (0x2B99, "2RIGHT-LIGHTED UPWARDS EQUILATERAL ARROWHEAD"),
   (0x2B9A, "2TOP-LIGHTED RIGHTWARDS EQUILATERAL ARROWHEAD"),
   (0x2B9B, "2LEFT-LIGHTED DOWNWARDS EQUILATERAL ARROWHEAD|BLACK LEFTWARDS EQUILATERAL ARROWHEAD"),
   (0x2B9D, "1UPWARDS EQUILATERAL ARROWHEAD|1RIGHTWARDS EQUILATERAL ARROWHEAD"),
   (0x2B9F, "1DOWNWARDS EQUILATERAL ARROWHEAD"),
   (0x2BA0, "DOWNWARDS TRIANGLE-HEADED ARROW WITH LONG TIP LEFTWARDS|7RIGHTWARDS"),
   (0x2BA2, "UPWARDS TRIANGLE-HEADED ARROW WITH LONG TIP LEFTWARDS|7RIGHTWARDS"),
   (0x2BA4, "LEFTWARDS TRIANGLE-HEADED ARROW WITH LONG TIP UPWARDS"),
   (0x2BA5, "RIGHTWARDS TRIANGLE-HEADED ARROW WITH LONG TIP UPWARDS"),
   (0x2BA6, "LEFTWARDS TRIANGLE-HEADED ARROW WITH LONG TIP DOWNWARDS"),
   (0x2BA7, "RIGHTWARDS TRIANGLE-HEADED ARROW WITH LONG TIP DOWNWARDS"),
   (0x2BA8, "BLACK CURVED DOWNWARDS AND LEFTWARDS ARROW|4RIGHTWARDS ARROW"),
   (0x2BAA, "2UPWARDS AND LEFTWARDS ARROW|4RIGHTWARDS ARROW|2LEFTWARDS AND UPWARDS ARROW"),
   (0x2BAD, "2RIGHTWARDS AND UPWARDS ARROW|2LEFTWARDS AND DOWNWARDS ARROW"),
   (0x2BAF, "2RIGHTWARDS AND DOWNWARDS ARROW|RIBBON ARROW DOWN LEFT|3RIGHT|2UP LEFT|3RIGHT"),
   (0x2BB4, "2LEFT UP|2RIGHT UP|2LEFT DOWN|2RIGHT DOWN"),
   (0x2BB8, "UPWARDS WHITE ARROW FROM BAR WITH HORIZONTAL BAR|UP ARROWHEAD IN A RECTANGLE BOX"),
   (0x2BBA, "OVERLAPPING WHITE SQUARES|2AND BLACK SQUARES|1BLACK SQUARES|BALLOT BOX WITH LIGHT X"),
   (0x2BBE, "CIRCLED X|1BOLD X|BLACK SQUARE CENTRED|1DIAMOND CENTRED|TURNED BLACK PENTAGON"),
   (0x2BC3, "HORIZONTAL BLACK OCTAGON|BLACK OCTAGON|1MEDIUM UP-POINTING TRIANGLE CENTRED"),
   (0x2BC6, "2DOWN-POINTING TRIANGLE CENTRED|2LEFT-POINTING TRIANGLE CENTRED"),
   (0x2BC8, "2RIGHT-POINTING TRIANGLE CENTRED|NEPTUNE FORM TWO|TOP HALF BLACK CIRCLE"),
   (0x2BCB, "BOTTOM HALF BLACK CIRCLE|LIGHT FOUR POINTED BLACK CUSP"),
   (0x2BCD, "ROTATED LIGHT FOUR POINTED BLACK CUSP|WHITE FOUR POINTED CUSP"),
   (0x2BCF, "ROTATED WHITE FOUR POINTED CUSP|SQUARE POSITION INDICATOR|UNCERTAINTY SIGN"),
   (0x2BD2, "GROUP MARK|PLUTO FORM TWO|2THREE|2FOUR|2FIVE|TRANSPLUTO|PROSERPINA|ASTRAEA|HYGIEA"),
   (0x2BDB, "PHOLUS|NESSUS|WHITE MOON SELENA|BLACK DIAMOND ON CROSS|TRUE LIGHT MOON ARTA|CUPIDO"),
   (0x2BE1, "HADES|ZEUS|KRONOS|APOLLON|ADMETOS|VULCANUS|POSEIDON|LEFT HALF BLACK STAR"),
   (0x2BE9, "RIGHT HALF BLACK STAR|STAR WITH LEFT HALF BLACK|2RIGHT HALF BLACK"),
   (0x2BEC, "LEFTWARDS TWO-HEADED ARROW WITH TRIANGLE ARROWHEADS"),
   (0x2BED, "UPWARDS TWO-HEADED ARROW WITH TRIANGLE ARROWHEADS"),
   (0x2BEE, "RIGHTWARDS TWO-HEADED ARROW WITH TRIANGLE ARROWHEADS"),
   (0x2BEF, "DOWNWARDS TWO-HEADED ARROW WITH TRIANGLE ARROWHEADS|ERIS FORM ONE|2TWO|SEDNA"),
   (0x2BF3, "RUSSIAN ASTROLOGICAL SYMBOL VIGINTILE|3NOVILE|3QUINTILE|3BINOVILE|3SENTAGON"),
   (0x2BF8, "3TREDECILE|EQUALS SIGN WITH INFINITY BELOW|UNITED SYMBOL|SEPARATED SYMBOL"),
   (0x2BFC, "DOUBLED SYMBOL|PASSED SYMBOL|REVERSED RIGHT ANGLE|HELLSCHREIBER PAUSE SYMBOL"),
   (0x2C00, "GLAGOLITIC CAPITAL LETTER AZU|3BUKY|3VEDE|3GLAGOLI|3DOBRO|3YESTU|3ZHIVETE|3DZELO"),
   (0x2C08, "3ZEMLJA|3IZHE|3INITIAL IZHE|3I|3DJERVI|3KAKO|3LJUDIJE|3MYSLITE|3NASHI|3ONU|3POKOJI"),
   (0x2C13, "3RITSI|3SLOVO|3TVRIDO|3UKU|3FRITU|3HERU|3OTU|3PE|3SHTA|3TSI|3CHRIVI|3SHA|3YERU|3YERI"),
   (0x2C21, "3YATI|3SPIDERY HA|3YU|3SMALL YUS|4YUS WITH TAIL|3YO|3IOTATED SMALL YUS|3BIG YUS"),
   (0x2C29, "3IOTATED BIG YUS|3FITA|3IZHITSA|3SHTAPIC|3TROKUTASTI A|3LATINATE MYSLITE"),
   (0x2C2F, "3CAUDATE CHRIVI|1SMALL LETTER AZU|3BUKY|3VEDE|3GLAGOLI|3DOBRO|3YESTU|3ZHIVETE|3DZELO"),
   (0x2C38, "3ZEMLJA|3IZHE|3INITIAL IZHE|3I|3DJERVI|3KAKO|3LJUDIJE|3MYSLITE|3NASHI|3ONU|3POKOJI"),
   (0x2C43, "3RITSI|3SLOVO|3TVRIDO|3UKU|3FRITU|3HERU|3OTU|3PE|3SHTA|3TSI|3CHRIVI|3SHA|3YERU|3YERI"),
   (0x2C51, "3YATI|3SPIDERY HA|3YU|3SMALL YUS|4YUS WITH TAIL|3YO|3IOTATED SMALL YUS|3BIG YUS"),
   (0x2C59, "3IOTATED BIG YUS|3FITA|3IZHITSA|3SHTAPIC|3TROKUTASTI A|3LATINATE MYSLITE"),
   (0x2C5F, "3CAUDATE CHRIVI|LATIN CAPITAL LETTER L WITH DOUBLE BAR"),
   (0x2C61, "1SMALL LETTER L WITH DOUBLE BAR|1CAPITAL LETTER L WITH MIDDLE TILDE|3P WITH STROKE"),
   (0x2C64, "3R WITH TAIL|1SMALL LETTER A WITH STROKE|3T WITH DIAGONAL STROKE"),
   (0x2C67, "1CAPITAL LETTER H WITH DESCENDER|1SMALL LETTER H WITH DESCENDER"),
   (0x2C69, "1CAPITAL LETTER K WITH DESCENDER|1SMALL LETTER K WITH DESCENDER"),
   (0x2C6B, "1CAPITAL LETTER Z WITH DESCENDER|1SMALL LETTER Z WITH DESCENDER"),
   (0x2C6D, "1CAPITAL LETTER ALPHA|3M WITH HOOK|3TURNED A|4ALPHA|1SMALL LETTER V WITH RIGHT HOOK"),
   (0x2C72, "1CAPITAL LETTER W WITH HOOK|1SMALL LETTER W WITH HOOK|3V WITH CURL"),
   (0x2C75, "1CAPITAL LETTER HALF H|1SMALL LETTER HALF H|3TAILLESS PHI|3E WITH NOTCH"),
   (0x2C79, "3TURNED R WITH TAIL|3O WITH LOW RING INSIDE|1LETTER SMALL CAPITAL TURNED E"),
   (0x2C7C, "1SUBSCRIPT SMALL LETTER J|MODIFIER LETTER CAPITAL V"),
   (0x2C7E, "LATIN CAPITAL LETTER S WITH SWASH TAIL|3Z WITH SWASH TAIL|COPTIC CAPITAL LETTER ALFA"),
   (0x2C81, "1SMALL LETTER ALFA|1CAPITAL LETTER VIDA|1SMALL LETTER VIDA|1CAPITAL LETTER GAMMA"),
   (0x2C85, "1SMALL LETTER GAMMA|1CAPITAL LETTER DALDA|1SMALL LETTER DALDA|1CAPITAL LETTER EIE"),
   (0x2C89, "1SMALL LETTER EIE|1CAPITAL LETTER SOU|1SMALL LETTER SOU|1CAPITAL LETTER ZATA"),
   (0x2C8D, "1SMALL LETTER ZATA|1CAPITAL LETTER HATE|1SMALL LETTER HATE|1CAPITAL LETTER THETHE"),
   (0x2C91, "1SMALL LETTER THETHE|1CAPITAL LETTER IAUDA|1SMALL LETTER IAUDA|1CAPITAL LETTER KAPA"),
   (0x2C95, "1SMALL LETTER KAPA|1CAPITAL LETTER LAULA|1SMALL LETTER LAULA|1CAPITAL LETTER MI"),
   (0x2C99, "1SMALL LETTER MI|1CAPITAL LETTER NI|1SMALL LETTER NI|1CAPITAL LETTER KSI"),
   (0x2C9D, "1SMALL LETTER KSI|1CAPITAL LETTER O|1SMALL LETTER O|1CAPITAL LETTER PI"),
   (0x2CA1, "1SMALL LETTER PI|1CAPITAL LETTER RO|1SMALL LETTER RO|1CAPITAL LETTER SIMA"),
   (0x2CA5, "1SMALL LETTER SIMA|1CAPITAL LETTER TAU|1SMALL LETTER TAU|1CAPITAL LETTER UA"),
   (0x2CA9, "1SMALL LETTER UA|1CAPITAL LETTER FI|1SMALL LETTER FI|1CAPITAL LETTER KHI"),
   (0x2CAD, "1SMALL LETTER KHI|1CAPITAL LETTER PSI|1SMALL LETTER PSI|1CAPITAL LETTER OOU"),
   (0x2CB1, "1SMALL LETTER OOU|1CAPITAL LETTER DIALECT-P ALEF|1SMALL LETTER DIALECT-P ALEF"),
   (0x2CB4, "1CAPITAL LETTER OLD COPTIC AIN|1SMALL LETTER OLD COPTIC AIN"),
   (0x2CB6, "1CAPITAL LETTER CRYPTOGRAMMIC EIE|1SMALL LETTER CRYPTOGRAMMIC EIE"),
   (0x2CB8, "1CAPITAL LETTER DIALECT-P KAPA|1SMALL LETTER DIALECT-P KAPA"),
   (0x2CBA, "1CAPITAL LETTER DIALECT-P NI|1SMALL LETTER DIALECT-P NI"),
   (0x2CBC, "1CAPITAL LETTER CRYPTOGRAMMIC NI|1SMALL LETTER CRYPTOGRAMMIC NI"),
   (0x2CBE, "1CAPITAL LETTER OLD COPTIC OOU|1SMALL LETTER OLD COPTIC OOU|1CAPITAL LETTER SAMPI"),
   (0x2CC1, "1SMALL LETTER SAMPI|1CAPITAL LETTER CROSSED SHEI|1SMALL LETTER CROSSED SHEI"),
   (0x2CC4, "1CAPITAL LETTER OLD COPTIC SHEI|1SMALL LETTER OLD COPTIC SHEI"),
   (0x2CC6, "1CAPITAL LETTER OLD COPTIC ESH|1SMALL LETTER OLD COPTIC ESH"),
   (0x2CC8, "1CAPITAL LETTER AKHMIMIC KHEI|1SMALL LETTER AKHMIMIC KHEI"),
   (0x2CCA, "1CAPITAL LETTER DIALECT-P HORI|1SMALL LETTER DIALECT-P HORI"),
   (0x2CCC, "1CAPITAL LETTER OLD COPTIC HORI|1SMALL LETTER OLD COPTIC HORI"),
   (0x2CCE, "1CAPITAL LETTER OLD COPTIC HA|1SMALL LETTER OLD COPTIC HA"),
   (0x2CD0, "1CAPITAL LETTER L-SHAPED HA|1SMALL LETTER L-SHAPED HA|1CAPITAL LETTER OLD COPTIC HEI"),
   (0x2CD3, "1SMALL LETTER OLD COPTIC HEI|1CAPITAL LETTER OLD COPTIC HAT"),
   (0x2CD5, "1SMALL LETTER OLD COPTIC HAT|1CAPITAL LETTER OLD COPTIC GANGIA"),
   (0x2CD7, "1SMALL LETTER OLD COPTIC GANGIA|1CAPITAL LETTER OLD COPTIC DJA"),
   (0x2CD9, "1SMALL LETTER OLD COPTIC DJA|1CAPITAL LETTER OLD COPTIC SHIMA"),
   (0x2CDB, "1SMALL LETTER OLD COPTIC SHIMA|1CAPITAL LETTER OLD NUBIAN SHIMA"),
   (0x2CDD, "1SMALL LETTER OLD NUBIAN SHIMA|1CAPITAL LETTER OLD NUBIAN NGI"),
   (0x2CDF, "1SMALL LETTER OLD NUBIAN NGI|1CAPITAL LETTER OLD NUBIAN NYI"),
   (0x2CE1, "1SMALL LETTER OLD NUBIAN NYI|1CAPITAL LETTER OLD NUBIAN WAU"),
   (0x2CE3, "1SMALL LETTER OLD NUBIAN WAU|1SYMBOL KAI|2MI RO|2PI RO|2STAUROS|2TAU RO|2KHI RO"),
   (0x2CEA, "2SHIMA SIMA|1CAPITAL LETTER CRYPTOGRAMMIC SHEI|1SMALL LETTER CRYPTOGRAMMIC SHEI"),
   (0x2CED, "1CAPITAL LETTER CRYPTOGRAMMIC GANGIA|1SMALL LETTER CRYPTOGRAMMIC GANGIA"),
   (0x2CEF, "1COMBINING NI ABOVE|2SPIRITUS ASPER|3LENIS|1CAPITAL LETTER BOHAIRIC KHEI"),
   (0x2CF3, "1SMALL LETTER BOHAIRIC KHEI"),
   (0x2CF9, "1OLD NUBIAN FULL STOP|3DIRECT QUESTION MARK|3INDIRECT QUESTION MARK|3VERSE DIVIDER"),
   (0x2CFD, "1FRACTION ONE HALF|1FULL STOP|1MORPHOLOGICAL DIVIDER|GEORGIAN SMALL LETTER AN|3BAN"),
   (0x2D02, "3GAN|3DON|3EN|3VIN|3ZEN|3TAN|3IN|3KAN|3LAS|3MAN|3NAR|3ON|3PAR|3ZHAR|3RAE|3SAN|3TAR"),
   (0x2D13, "3UN|3PHAR|3KHAR|3GHAN|3QAR|3SHIN|3CHIN|3CAN|3JIL|3CIL|3CHAR|3XAN|3JHAN|3HAE|3HE|3HIE"),
   (0x2D23, "3WE|3HAR|3HOE"),
   (0x2D27, "3YN"),
   (0x2D2D, "3AEN"),
   (0x2D30, "TIFINAGH LETTER YA|2YAB|2YABH|2YAG|2YAGHH|2BERBER ACADEMY YAJ|2YAJ|2YAD|2YADH|2YADD"),
   (0x2D3A, "2YADDH|2YEY|2YAF|2YAK|2TUAREG YAK|2YAKHH|2YAH|2BERBER ACADEMY YAH|2TUAREG YAH|2YAHH"),
   (0x2D44, "2YAA|2YAKH|2TUAREG YAKH|2YAQ|2TUAREG YAQ|2YI|2YAZH|2AHAGGAR YAZH|2TUAREG YAZH|2YAL"),
   (0x2D4E, "2YAM|2YAN|2TUAREG YAGN|3YANG|2YAP|2YU|2YAR|2YARR|2YAGH|2TUAREG YAGH|2AYER YAGH|2YAS"),
   (0x2D5A, "2YASS|2YASH|2YAT|2YATH|2YACH|2YATT|2YAV|2YAW|2YAY|2YAZ|2TAWELLEMET YAZ|2YAZZ|2YE|2YO"),
   (0x2D6F, "1MODIFIER LETTER LABIALIZATION MARK|1SEPARATOR MARK"),
   (0x2D7F, "1CONSONANT JOINER|ETHIOPIC SYLLABLE LOA|2MOA|2ROA|2SOA|2SHOA|2BOA|2TOA|2COA|2NOA"),
   (0x2D89, "2NYOA|2GLOTTAL OA|2ZOA|2DOA|2DDOA|2JOA|2THOA|2CHOA|2PHOA|2POA|2GGWA|2GGWI|2GGWEE"),
   (0x2D96, "2GGWE"),
   (0x2DA0, "2SSA|2SSU|2SSI|2SSAA|2SSEE|2SSE|2SSO"),
   (0x2DA8, "2CCA|2CCU|2CCI|2CCAA|2CCEE|2CCE|2CCO"),
   (0x2DB0, "2ZZA|2ZZU|2ZZI|2ZZAA|2ZZEE|2ZZE|2ZZO"),
   (0x2DB8, "2CCHA|2CCHU|2CCHI|2CCHAA|2CCHEE|2CCHE|2CCHO"),
   (0x2DC0, "2QYA|2QYU|2QYI|2QYAA|2QYEE|2QYE|2QYO"),
   (0x2DC8, "2KYA|2KYU|2KYI|2KYAA|2KYEE|2KYE|2KYO"),
   (0x2DD0, "2XYA|2XYU|2XYI|2XYAA|2XYEE|2XYE|2XYO"),
   (0x2DD8, "2GYA|2GYU|2GYI|2GYAA|2GYEE|2GYE|2GYO"),
   (0x2DE0, "COMBINING CYRILLIC LETTER BE|3VE|3GHE|3DE|3ZHE|3ZE|3KA|3EL|3EM|3EN|3O|3PE|3ER|3ES"),
   (0x2DEE, "3TE|3HA|3TSE|3CHE|3SHA|3SHCHA|3FITA|3ES-TE|3A|3IE|3DJERV|3MONOGRAPH UK|3YAT|3YU"),
   (0x2DFC, "3IOTIFIED A|3LITTLE YUS|3BIG YUS|3IOTIFIED BIG YUS|RIGHT ANGLE SUBSTITUTION MARKER"),
   (0x2E01, "2DOTTED SUBSTITUTION MARKER|LEFT SUBSTITUTION BRACKET|RIGHT SUBSTITUTION BRACKET"),
   (0x2E04, "LEFT DOTTED SUBSTITUTION BRACKET|RIGHT DOTTED SUBSTITUTION BRACKET"),
   (0x2E06, "RAISED INTERPOLATION MARKER|1DOTTED INTERPOLATION MARKER|DOTTED TRANSPOSITION MARKER"),
   (0x2E09, "LEFT TRANSPOSITION BRACKET|RIGHT TRANSPOSITION BRACKET|RAISED SQUARE"),
   (0x2E0C, "LEFT RAISED OMISSION BRACKET|RIGHT RAISED OMISSION BRACKET|EDITORIAL CORONIS"),
   (0x2E0F, "PARAGRAPHOS|FORKED PARAGRAPHOS|REVERSED FORKED PARAGRAPHOS|HYPODIASTOLE"),
   (0x2E13, "DOTTED OBELOS|DOWNWARDS ANCORA|UPWARDS ANCORA|DOTTED RIGHT-POINTING ANGLE"),
   (0x2E17, "DOUBLE OBLIQUE HYPHEN|INVERTED INTERROBANG|PALM BRANCH|HYPHEN WITH DIAERESIS"),
   (0x2E1B, "TILDE WITH RING ABOVE|LEFT LOW PARAPHRASE BRACKET|RIGHT LOW PARAPHRASE BRACKET"),
   (0x2E1E, "TILDE WITH DOT ABOVE|3BELOW|LEFT VERTICAL BAR WITH QUILL"),
   (0x2E21, "RIGHT VERTICAL BAR WITH QUILL|TOP LEFT HALF BRACKET|1RIGHT HALF BRACKET"),
   (0x2E24, "BOTTOM LEFT HALF BRACKET|1RIGHT HALF BRACKET|LEFT SIDEWAYS U BRACKET"),
   (0x2E27, "RIGHT SIDEWAYS U BRACKET|LEFT DOUBLE PARENTHESIS|RIGHT DOUBLE PARENTHESIS"),
   (0x2E2A, "TWO DOTS OVER ONE DOT PUNCTUATION|ONE DOT OVER TWO DOTS PUNCTUATION"),
   (0x2E2C, "SQUARED FOUR DOT PUNCTUATION|FIVE DOT MARK|REVERSED QUESTION MARK|VERTICAL TILDE"),
   (0x2E30, "RING POINT|WORD SEPARATOR MIDDLE DOT|TURNED COMMA|RAISED DOT|1COMMA|TURNED SEMICOLON"),
   (0x2E36, "DAGGER WITH LEFT GUARD|2RIGHT GUARD|TURNED DAGGER|TOP HALF SECTION SIGN|TWO-EM DASH"),
   (0x2E3B, "THREE-EM DASH|STENOGRAPHIC FULL STOP|VERTICAL SIX DOTS|WIGGLY VERTICAL LINE"),
   (0x2E3F, "CAPITULUM|DOUBLE HYPHEN|REVERSED COMMA|DOUBLE LOW-REVERSED-9 QUOTATION MARK"),
   (0x2E43, "DASH WITH LEFT UPTURN|DOUBLE SUSPENSION MARK|INVERTED LOW KAVYKA"),
   (0x2E46, "2KAVYKA WITH KAVYKA ABOVE|LOW KAVYKA|1KAVYKA WITH DOT|DOUBLE STACKED COMMA"),
   (0x2E4A, "DOTTED SOLIDUS|TRIPLE DAGGER|MEDIEVAL COMMA|PARAGRAPHUS MARK|PUNCTUS ELEVATUS MARK"),
   (0x2E4F, "CORNISH VERSE DIVIDER|CROSS PATTY WITH RIGHT CROSSBAR|3LEFT CROSSBAR"),
   (0x2E52, "TIRONIAN SIGN CAPITAL ET|MEDIEVAL EXCLAMATION MARK|1QUESTION MARK"),
   (0x2E55, "LEFT SQUARE BRACKET WITH STROKE|RIGHT SQUARE BRACKET WITH STROKE"),
   (0x2E57, "LEFT SQUARE BRACKET WITH DOUBLE STROKE|RIGHT SQUARE BRACKET WITH DOUBLE STROKE"),
   (0x2E59, "TOP HALF LEFT PARENTHESIS|2RIGHT PARENTHESIS|BOTTOM HALF LEFT PARENTHESIS"),
   (0x2E5C, "2RIGHT PARENTHESIS|OBLIQUE HYPHEN"),
   (0x2E80, "CJK RADICAL REPEAT|2CLIFF|2SECOND ONE|3TWO|3THREE|2PERSON|2BOX|2TABLE|2KNIFE ONE"),
   (0x2E89, "3TWO|2DIVINATION|2SEAL|2SMALL ONE|3TWO|2LAME ONE|3TWO|3THREE|3FOUR|2SNAKE|2THREAD"),
   (0x2E94, "2SNOUT ONE|3TWO|2HEART ONE|3TWO|2HAND|2RAP"),
   (0x2E9B, "2CHOKE|2SUN|2MOON|2DEATH|2MOTHER|2CIVILIAN|2WATER ONE|3TWO|2FIRE|2PAW ONE|3TWO"),
   (0x2EA6, "2SIMPLIFIED HALF TREE TRUNK|2COW|2DOG|2JADE|2BOLT OF CLOTH|2EYE|2SPIRIT ONE|3TWO"),
   (0x2EAE, "2BAMBOO|2SILK|2C-SIMPLIFIED SILK|2NET ONE|3TWO|3THREE|3FOUR|2MESH|2SHEEP|2RAM|2EWE"),
   (0x2EB9, "2OLD|2BRUSH ONE|3TWO|2MEAT|2MORTAR|2GRASS ONE|3TWO|3THREE|2TIGER|2CLOTHES|2WEST ONE"),
   (0x2EC4, "3TWO|2C-SIMPLIFIED SEE|2SIMPLIFIED HORN|2HORN|2C-SIMPLIFIED SPEECH|4SHELL|2FOOT"),
   (0x2ECB, "2C-SIMPLIFIED CART|2SIMPLIFIED WALK|2WALK ONE|3TWO|2CITY|2C-SIMPLIFIED GOLD"),
   (0x2ED1, "2LONG ONE|3TWO|2C-SIMPLIFIED LONG|4GATE|2MOUND ONE|3TWO|2RAIN|2BLUE"),
   (0x2ED9, "2C-SIMPLIFIED TANNED LEATHER|4LEAF|4WIND|4FLY|2EAT ONE|3TWO|3THREE|2C-SIMPLIFIED EAT"),
   (0x2EE1, "2HEAD|2C-SIMPLIFIED HORSE|2BONE|2GHOST|2C-SIMPLIFIED FISH|4BIRD|4SALT"),
   (0x2EE8, "2SIMPLIFIED WHEAT|3YELLOW|2C-SIMPLIFIED FROG|2J-SIMPLIFIED EVEN|2C-SIMPLIFIED EVEN"),
   (0x2EED, "2J-SIMPLIFIED TOOTH|2C-SIMPLIFIED TOOTH|2J-SIMPLIFIED DRAGON|2C-SIMPLIFIED DRAGON"),
   (0x2EF1, "2TURTLE|2J-SIMPLIFIED TURTLE|2C-SIMPLIFIED TURTLE"),
   (0x2F00, "KANGXI RADICAL ONE|2LINE|2DOT|2SLASH|2SECOND|2HOOK|2TWO|2LID|2MAN|2LEGS|2ENTER"),
   (0x2F0B, "2EIGHT|2DOWN BOX|2COVER|2ICE|2TABLE|2OPEN BOX|2KNIFE|2POWER|2WRAP|2SPOON"),
   (0x2F15, "2RIGHT OPEN BOX|2HIDING ENCLOSURE|2TEN|2DIVINATION|2SEAL|2CLIFF|2PRIVATE|2AGAIN"),
   (0x2F1D, "2MOUTH|2ENCLOSURE|2EARTH|2SCHOLAR|2GO|2GO SLOWLY|2EVENING|2BIG|2WOMAN|2CHILD|2ROOF"),
   (0x2F28, "2INCH|2SMALL|2LAME|2CORPSE|2SPROUT|2MOUNTAIN|2RIVER|2WORK|2ONESELF|2TURBAN|2DRY"),
   (0x2F33, "2SHORT THREAD|2DOTTED CLIFF|2LONG STRIDE|2TWO HANDS|2SHOOT|2BOW|2SNOUT|2BRISTLE"),
   (0x2F3B, "2STEP|2HEART|2HALBERD|2DOOR|2HAND|2BRANCH|2RAP|2SCRIPT|2DIPPER|2AXE|2SQUARE|2NOT"),
   (0x2F47, "2SUN|2SAY|2MOON|2TREE|2LACK|2STOP|2DEATH|2WEAPON|2DO NOT|2COMPARE|2FUR|2CLAN|2STEAM"),
   (0x2F54, "2WATER|2FIRE|2CLAW|2FATHER|2DOUBLE X|2HALF TREE TRUNK|2SLICE|2FANG|2COW|2DOG"),
   (0x2F5E, "2PROFOUND|2JADE|2MELON|2TILE|2SWEET|2LIFE|2USE|2FIELD|2BOLT OF CLOTH|2SICKNESS"),
   (0x2F68, "2DOTTED TENT|2WHITE|2SKIN|2DISH|2EYE|2SPEAR|2ARROW|2STONE|2SPIRIT|2TRACK|2GRAIN"),
   (0x2F73, "2CAVE|2STAND|2BAMBOO|2RICE|2SILK|2JAR|2NET|2SHEEP|2FEATHER|2OLD|2AND|2PLOW|2EAR"),
   (0x2F80, "2BRUSH|2MEAT|2MINISTER|2SELF|2ARRIVE|2MORTAR|2TONGUE|2OPPOSE|2BOAT|2STOPPING|2COLOR"),
   (0x2F8B, "2GRASS|2TIGER|2INSECT|2BLOOD|2WALK ENCLOSURE|2CLOTHES|2WEST|2SEE|2HORN|2SPEECH"),
   (0x2F95, "2VALLEY|2BEAN|2PIG|2BADGER|2SHELL|2RED|2RUN|2FOOT|2BODY|2CART|2BITTER|2MORNING|2WALK"),
   (0x2FA2, "2CITY|2WINE|2DISTINGUISH|2VILLAGE|2GOLD|2LONG|2GATE|2MOUND|2SLAVE|2SHORT TAILED BIRD"),
   (0x2FAC, "2RAIN|2BLUE|2WRONG|2FACE|2LEATHER|2TANNED LEATHER|2LEEK|2SOUND|2LEAF|2WIND|2FLY|2EAT"),
   (0x2FB8, "2HEAD|2FRAGRANT|2HORSE|2BONE|2TALL|2HAIR|2FIGHT|2SACRIFICIAL WINE|2CAULDRON|2GHOST"),
   (0x2FC2, "2FISH|2BIRD|2SALT|2DEER|2WHEAT|2HEMP|2YELLOW|2MILLET|2BLACK|2EMBROIDERY|2FROG"),
   (0x2FCD, "2TRIPOD|2DRUM|2RAT|2NOSE|2EVEN|2TOOTH|2DRAGON|2TURTLE|2FLUTE"),
   (0x2FF0, "IDEOGRAPHIC DESCRIPTION CHARACTER LEFT TO RIGHT|3ABOVE TO BELOW"),
   (0x2FF2, "3LEFT TO MIDDLE AND RIGHT|3ABOVE TO MIDDLE AND BELOW|3FULL SURROUND"),
   (0x2FF5, "3SURROUND FROM ABOVE|5BELOW|5LEFT|5UPPER LEFT|6RIGHT|5LOWER LEFT|3OVERLAID"),
   (0x3000, "1SPACE|1COMMA|1FULL STOP|DITTO MARK|JAPANESE INDUSTRIAL STANDARD SYMBOL"),
   (0x3005, "IDEOGRAPHIC ITERATION MARK|1CLOSING MARK|1NUMBER ZERO|LEFT ANGLE BRACKET"),
   (0x3009, "RIGHT ANGLE BRACKET|LEFT DOUBLE ANGLE BRACKET|RIGHT DOUBLE ANGLE BRACKET"),
   (0x300C, "LEFT CORNER BRACKET|RIGHT CORNER BRACKET|LEFT WHITE CORNER BRACKET"),
   (0x300F, "RIGHT WHITE CORNER BRACKET|LEFT BLACK LENTICULAR BRACKET"),
   (0x3011, "RIGHT BLACK LENTICULAR BRACKET|POSTAL MARK|GETA MARK|LEFT TORTOISE SHELL BRACKET"),
   (0x3015, "RIGHT TORTOISE SHELL BRACKET|LEFT WHITE LENTICULAR BRACKET"),
   (0x3017, "RIGHT WHITE LENTICULAR BRACKET|LEFT WHITE TORTOISE SHELL BRACKET"),
   (0x3019, "RIGHT WHITE TORTOISE SHELL BRACKET|LEFT WHITE SQUARE BRACKET"),
   (0x301B, "RIGHT WHITE SQUARE BRACKET|WAVE DASH|REVERSED DOUBLE PRIME QUOTATION MARK"),
   (0x301E, "DOUBLE PRIME QUOTATION MARK|LOW DOUBLE PRIME QUOTATION MARK|POSTAL MARK FACE"),
   (0x3021, "HANGZHOU NUMERAL ONE|2TWO|2THREE|2FOUR|2FIVE|2SIX|2SEVEN|2EIGHT|2NINE"),
   (0x302A, "IDEOGRAPHIC LEVEL TONE MARK|1RISING TONE MARK|1DEPARTING TONE MARK"),
   (0x302D, "1ENTERING TONE MARK|HANGUL SINGLE DOT TONE MARK|1DOUBLE DOT TONE MARK|WAVY DASH"),
   (0x3031, "VERTICAL KANA REPEAT MARK|3WITH VOICED SOUND MARK|3MARK UPPER HALF"),
   (0x3034, "3WITH VOICED SOUND MARK UPPER HALF|3MARK LOWER HALF|CIRCLED POSTAL MARK"),
   (0x3037, "IDEOGRAPHIC TELEGRAPH LINE FEED SEPARATOR SYMBOL|HANGZHOU NUMERAL TEN|2TWENTY"),
   (0x303A, "2THIRTY|VERTICAL IDEOGRAPHIC ITERATION MARK|MASU MARK|PART ALTERNATION MARK"),
   (0x303E, "IDEOGRAPHIC VARIATION INDICATOR|1HALF FILL SPACE"),
   (0x3041, "HIRAGANA LETTER SMALL A|2A|2SMALL I|2I|2SMALL U|2U|2SMALL E|2E|2SMALL O|2O|2KA|2GA"),
   (0x304D, "2KI|2GI|2KU|2GU|2KE|2GE|2KO|2GO|2SA|2ZA|2SI|2ZI|2SU|2ZU|2SE|2ZE|2SO|2ZO|2TA|2DA|2TI"),
   (0x3062, "2DI|2SMALL TU|2TU|2DU|2TE|2DE|2TO|2DO|2NA|2NI|2NU|2NE|2NO|2HA|2BA|2PA|2HI|2BI|2PI"),
   (0x3075, "2HU|2BU|2PU|2HE|2BE|2PE|2HO|2BO|2PO|2MA|2MI|2MU|2ME|2MO|2SMALL YA|2YA|2SMALL YU|2YU"),
   (0x3087, "2SMALL YO|2YO|2RA|2RI|2RU|2RE|2RO|2SMALL WA|2WA|2WI|2WE|2WO|2N|2VU|2SMALL KA|3KE"),
   (0x3099, "COMBINING KATAKANA-HIRAGANA VOICED SOUND MARK|3SEMI-VOICED SOUND MARK"),
   (0x309B, "KATAKANA-HIRAGANA VOICED SOUND MARK|2SEMI-VOICED SOUND MARK|HIRAGANA ITERATION MARK"),
   (0x309E, "1VOICED ITERATION MARK|1DIGRAPH YORI|KATAKANA-HIRAGANA DOUBLE HYPHEN"),
   (0x30A1, "KATAKANA LETTER SMALL A|2A|2SMALL I|2I|2SMALL U|2U|2SMALL E|2E|2SMALL O|2O|2KA|2GA"),
   (0x30AD, "2KI|2GI|2KU|2GU|2KE|2GE|2KO|2GO|2SA|2ZA|2SI|2ZI|2SU|2ZU|2SE|2ZE|2SO|2ZO|2TA|2DA|2TI"),
   (0x30C2, "2DI|2SMALL TU|2TU|2DU|2TE|2DE|2TO|2DO|2NA|2NI|2NU|2NE|2NO|2HA|2BA|2PA|2HI|2BI|2PI"),
   (0x30D5, "2HU|2BU|2PU|2HE|2BE|2PE|2HO|2BO|2PO|2MA|2MI|2MU|2ME|2MO|2SMALL YA|2YA|2SMALL YU|2YU"),
   (0x30E7, "2SMALL YO|2YO|2RA|2RI|2RU|2RE|2RO|2SMALL WA|2WA|2WI|2WE|2WO|2N|2VU|2SMALL KA|3KE|2VA"),
   (0x30F8, "2VI|2VE|2VO|1MIDDLE DOT|KATAKANA-HIRAGANA PROLONGED SOUND MARK"),
   (0x30FD, "KATAKANA ITERATION MARK|1VOICED ITERATION MARK|1DIGRAPH KOTO"),
   (0x3105, "BOPOMOFO LETTER B|2P|2M|2F|2D|2T|2N|2L|2G|2K|2H|2J|2Q|2X|2ZH|2CH|2SH|2R|2Z|2C|2S|2A"),
   (0x311B, "2O|2E|2EH|2AI|2EI|2AU|2OU|2AN|2EN|2ANG|2ENG|2ER|2I|2U|2IU|2V|2NG|2GN|2IH"),
   (0x312E, "2O WITH DOT ABOVE|2NN"),
   (0x3131, "HANGUL LETTER KIYEOK|2SSANGKIYEOK|2KIYEOK-SIOS|2NIEUN|2NIEUN-CIEUC|3HIEUH|2TIKEUT"),
   (0x3138, "2SSANGTIKEUT|2RIEUL|2RIEUL-KIYEOK|3MIEUM|3PIEUP|3SIOS|3THIEUTH|3PHIEUPH|3HIEUH"),
   (0x3141, "2MIEUM|2PIEUP|2SSANGPIEUP|2PIEUP-SIOS|2SIOS|2SSANGSIOS|2IEUNG|2CIEUC|2SSANGCIEUC"),
   (0x314A, "2CHIEUCH|2KHIEUKH|2THIEUTH|2PHIEUPH|2HIEUH|2A|2AE|2YA|2YAE|2EO|2E|2YEO|2YE|2O|2WA"),
   (0x3159, "2WAE|2OE|2YO|2U|2WEO|2WE|2WI|2YU|2EU|2YI|2I|1FILLER|1LETTER SSANGNIEUN|2NIEUN-TIKEUT"),
   (0x3167, "3SIOS|3PANSIOS|2RIEUL-KIYEOK-SIOS|3TIKEUT|3PIEUP-SIOS|3PANSIOS|3YEORINHIEUH"),
   (0x316E, "2MIEUM-PIEUP|3SIOS|3PANSIOS|2KAPYEOUNMIEUM|2PIEUP-KIYEOK|3TIKEUT|3SIOS-KIYEOK"),
   (0x3175, "4TIKEUT|3CIEUC|3THIEUTH|2KAPYEOUNPIEUP|2KAPYEOUNSSANGPIEUP|2SIOS-KIYEOK|3NIEUN"),
   (0x317C, "3TIKEUT|3PIEUP|3CIEUC|2PANSIOS|2SSANGIEUNG|2YESIEUNG|2YESIEUNG-SIOS|3PANSIOS"),
   (0x3184, "2KAPYEOUNPHIEUPH|2SSANGHIEUH|2YEORINHIEUH|2YO-YA|3YAE|3I|2YU-YEO|3YE|3I|2ARAEA"),
   (0x318E, "2ARAEAE"),
   (0x3190, "IDEOGRAPHIC ANNOTATION LINKING MARK|2REVERSE MARK|2ONE MARK|2TWO MARK|2THREE MARK"),
   (0x3195, "2FOUR MARK|2TOP MARK|2MIDDLE MARK|2BOTTOM MARK|2FIRST MARK|2SECOND MARK|2THIRD MARK"),
   (0x319C, "2FOURTH MARK|2HEAVEN MARK|2EARTH MARK|2MAN MARK|BOPOMOFO LETTER BU|2ZI|2JI|2GU|2EE"),
   (0x31A5, "2ENN|2OO|2ONN|2IR|2ANN|2INN|2UNN|2IM|2NGG|2AINN|2AUNN|2AM|2OM|2ONG|2INNN"),
   (0x31B4, "1FINAL LETTER P|3T|3K|3H|1LETTER GH|2LH|2ZY|1FINAL LETTER G|1LETTER GW|2KW|2OE|2AH"),
   (0x31C0, "CJK STROKE T|2WG|2XG|2BXG|2SW|2HZZ|2HZG|2HP|2HZWG|2SZWG|2HZT|2HZZP|2HPWG|2HZW|2HZZZ"),
   (0x31CF, "2N|2H|2S|2P|2SP|2D|2HZ|2HG|2SZ|2SWZ|2ST|2SG|2PD|2PZ|2TN|2SZZ|2SWG|2HXWG|2HZZZG|2PG"),
   (0x31E3, "2Q"),
   (0x31F0, "KATAKANA LETTER SMALL KU|3SI|3SU|3TO|3NU|3HA|3HI|3HU|3HE|3HO|3MU|3RA|3RI|3RU|3RE|3RO"),
   (0x3200, "PARENTHESIZED HANGUL KIYEOK|2NIEUN|2TIKEUT|2RIEUL|2MIEUM|2PIEUP|2SIOS|2IEUNG|2CIEUC"),
   (0x3209, "2CHIEUCH|2KHIEUKH|2THIEUTH|2PHIEUPH|2HIEUH|2KIYEOK A|2NIEUN A|2TIKEUT A|2RIEUL A"),
   (0x3212, "2MIEUM A|2PIEUP A|2SIOS A|2IEUNG A|2CIEUC A|2CHIEUCH A|2KHIEUKH A|2THIEUTH A"),
   (0x321A, "2PHIEUPH A|2HIEUH A|2CIEUC U|1KOREAN CHARACTER OJEON|3O HU"),
   (0x3220, "1IDEOGRAPH ONE|2TWO|2THREE|2FOUR|2FIVE|2SIX|2SEVEN|2EIGHT|2NINE|2TEN|2MOON|2FIRE"),
   (0x322C, "2WATER|2WOOD|2METAL|2EARTH|2SUN|2STOCK|2HAVE|2SOCIETY|2NAME|2SPECIAL|2FINANCIAL"),
   (0x3237, "2CONGRATULATION|2LABOR|2REPRESENT|2CALL|2STUDY|2SUPERVISE|2ENTERPRISE|2RESOURCE"),
   (0x323F, "2ALLIANCE|2FESTIVAL|2REST|2SELF|2REACH|CIRCLED IDEOGRAPH QUESTION|2KINDERGARTEN"),
   (0x3246, "2SCHOOL|2KOTO|1NUMBER TEN ON BLACK SQUARE|2TWENTY ON BLACK SQUARE"),
   (0x324A, "2THIRTY ON BLACK SQUARE|2FORTY ON BLACK SQUARE|2FIFTY ON BLACK SQUARE"),
   (0x324D, "2SIXTY ON BLACK SQUARE|2SEVENTY ON BLACK SQUARE|2EIGHTY ON BLACK SQUARE"),
   (0x3250, "PARTNERSHIP SIGN|CIRCLED NUMBER TWENTY ONE|3TWO|3THREE|3FOUR|3FIVE|3SIX|3SEVEN"),
   (0x3258, "3EIGHT|3NINE|2THIRTY|2THIRTY ONE|3TWO|3THREE|3FOUR|3FIVE|1HANGUL KIYEOK|2NIEUN"),
   (0x3262, "2TIKEUT|2RIEUL|2MIEUM|2PIEUP|2SIOS|2IEUNG|2CIEUC|2CHIEUCH|2KHIEUKH|2THIEUTH|2PHIEUPH"),
   (0x326D, "2HIEUH|2KIYEOK A|2NIEUN A|2TIKEUT A|2RIEUL A|2MIEUM A|2PIEUP A|2SIOS A|2IEUNG A"),
   (0x3276, "2CIEUC A|2CHIEUCH A|2KHIEUKH A|2THIEUTH A|2PHIEUPH A|2HIEUH A"),
   (0x327C, "1KOREAN CHARACTER CHAMKO|3JUEUI|1HANGUL IEUNG U|KOREAN STANDARD SYMBOL"),
   (0x3280, "CIRCLED IDEOGRAPH ONE|2TWO|2THREE|2FOUR|2FIVE|2SIX|2SEVEN|2EIGHT|2NINE|2TEN|2MOON"),
   (0x328B, "2FIRE|2WATER|2WOOD|2METAL|2EARTH|2SUN|2STOCK|2HAVE|2SOCIETY|2NAME|2SPECIAL"),
   (0x3296, "2FINANCIAL|2CONGRATULATION|2LABOR|2SECRET|2MALE|2FEMALE|2SUITABLE|2EXCELLENT|2PRINT"),
   (0x329F, "2ATTENTION|2ITEM|2REST|2COPY|2CORRECT|2HIGH|2CENTRE|2LOW|2LEFT|2RIGHT|2MEDICINE"),
   (0x32AA, "2RELIGION|2STUDY|2SUPERVISE|2ENTERPRISE|2RESOURCE|2ALLIANCE|2NIGHT"),
   (0x32B1, "1NUMBER THIRTY SIX|3SEVEN|3EIGHT|3NINE|2FORTY|2FORTY ONE|3TWO|3THREE|3FOUR|3FIVE"),
   (0x32BB, "3SIX|3SEVEN|3EIGHT|3NINE|2FIFTY|IDEOGRAPHIC TELEGRAPH SYMBOL FOR JANUARY|4FEBRUARY"),
   (0x32C2, "4MARCH|4APRIL|4MAY|4JUNE|4JULY|4AUGUST|4SEPTEMBER|4OCTOBER|4NOVEMBER|4DECEMBER"),
   (0x32CC, "SQUARE HG|1ERG|1EV|LIMITED LIABILITY SIGN|CIRCLED KATAKANA A|2I|2U|2E|2O|2KA|2KI|2KU"),
   (0x32D8, "2KE|2KO|2SA|2SI|2SU|2SE|2SO|2TA|2TI|2TU|2TE|2TO|2NA|2NI|2NU|2NE|2NO|2HA|2HI|2HU|2HE"),
   (0x32ED, "2HO|2MA|2MI|2MU|2ME|2MO|2YA|2YU|2YO|2RA|2RI|2RU|2RE|2RO|2WA|2WI|2WE|2WO"),
   (0x32FF, "SQUARE ERA NAME REIWA|1APAATO|1ARUHUA|1ANPEA|1AARU|1ININGU|1INTI|1UON|1ESUKUUDO"),
   (0x3308, "1EEKAA|1ONSU|1OOMU|1KAIRI|1KARATTO|1KARORII|1GARON|1GANMA|1GIGA|1GINII|1KYURII"),
   (0x3313, "1GIRUDAA|1KIRO|1KIROGURAMU|1KIROMEETORU|1KIROWATTO|1GURAMU|1GURAMUTON|1KURUZEIRO"),
   (0x331B, "1KUROONE|1KEESU|1KORUNA|1KOOPO|1SAIKURU|1SANTIIMU|1SIRINGU|1SENTI|1SENTO|1DAASU"),
   (0x3325, "1DESI|1DORU|1TON|1NANO|1NOTTO|1HAITU|1PAASENTO|1PAATU|1BAARERU|1PIASUTORU|1PIKURU"),
   (0x3330, "1PIKO|1BIRU|1HUARADDO|1HUIITO|1BUSSYERU|1HURAN|1HEKUTAARU|1PESO|1PENIHI|1HERUTU"),
   (0x333A, "1PENSU|1PEEZI|1BEETA|1POINTO|1BORUTO|1HON|1PONDO|1HOORU|1HOON|1MAIKURO|1MAIRU|1MAHHA"),
   (0x3346, "1MARUKU|1MANSYON|1MIKURON|1MIRI|1MIRIBAARU|1MEGA|1MEGATON|1MEETORU|1YAADO|1YAARU"),
   (0x3350, "1YUAN|1RITTORU|1RIRA|1RUPII|1RUUBURU|1REMU|1RENTOGEN|1WATTO"),
   (0x3358, "IDEOGRAPHIC TELEGRAPH SYMBOL FOR HOUR ZERO|5ONE|5TWO|5THREE|5FOUR|5FIVE|5SIX|5SEVEN"),
   (0x3360, "5EIGHT|5NINE|5TEN|5ELEVEN|5TWELVE|5THIRTEEN|5FOURTEEN|5FIFTEEN|5SIXTEEN|5SEVENTEEN"),
   (0x336A, "5EIGHTEEN|5NINETEEN|5TWENTY|5TWENTY-ONE|6TWO|6THREE|6FOUR|SQUARE HPA|1DA|1AU|1BAR"),
   (0x3375, "1OV|1PC|1DM|1DM SQUARED|2CUBED|1IU|1ERA NAME HEISEI|3SYOUWA|3TAISYOU|3MEIZI"),
   (0x337F, "1CORPORATION|1PA AMPS|1NA|1MU A|1MA|1KA|1KB|1MB|1GB|1CAL|1KCAL|1PF|1NF|1MU F|2G|1MG"),
   (0x338F, "1KG|1HZ|1KHZ|1MHZ|1GHZ|1THZ|1MU L|1ML|1DL|1KL|1FM|1NM|1MU M|1MM|1CM|1KM|1MM SQUARED"),
   (0x33A0, "1CM SQUARED|1M SQUARED|1KM SQUARED|1MM CUBED|1CM CUBED|1M CUBED|1KM CUBED|1M OVER S"),
   (0x33A8, "3S SQUARED|1PA|1KPA|1MPA|1GPA|1RAD|1RAD OVER S|3S SQUARED|1PS|1NS|1MU S|1MS|1PV|1NV"),
   (0x33B6, "1MU V|1MV|1KV|1MV MEGA|1PW|1NW|1MU W|1MW|1KW|1MW MEGA|1K OHM|1M OHM|1AM|1BQ|1CC|1CD"),
   (0x33C6, "1C OVER KG|1CO|1DB|1GY|1HA|1HP|1IN|1KK|1KM CAPITAL|1KT|1LM|1LN|1LOG|1LX|1MB SMALL"),
   (0x33D5, "1MIL|1MOL|1PH|1PM|1PPM|1PR|1SR|1SV|1WB|1V OVER M|1A OVER M"),
   (0x33E0, "IDEOGRAPHIC TELEGRAPH SYMBOL FOR DAY ONE|5TWO|5THREE|5FOUR|5FIVE|5SIX|5SEVEN|5EIGHT"),
   (0x33E8, "5NINE|5TEN|5ELEVEN|5TWELVE|5THIRTEEN|5FOURTEEN|5FIFTEEN|5SIXTEEN|5SEVENTEEN"),
   (0x33F1, "5EIGHTEEN|5NINETEEN|5TWENTY|5TWENTY-ONE|6TWO|6THREE|6FOUR|6FIVE|6SIX|6SEVEN|6EIGHT"),
   (0x33FC, "6NINE|5THIRTY|5THIRTY-ONE|SQUARE GAL")]

end BenefitForm
