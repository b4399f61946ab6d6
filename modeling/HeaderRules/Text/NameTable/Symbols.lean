/-!
# Punctuation and symbols

Names of the characters from U+2000 to U+2FFF: punctuation, signs, arrows and shapes.
-/

namespace HeaderRules.Text

def symbolNames : String := "2000 0EN QUAD,0EM+1,0EN SPACE,0EM+1,0THREE-PER-EM+1,0FOUR-PER-EM+1,0SIX-PER-EM+1,0FIGURE+1
2008 0PUNCTUATION+1,0THIN+1,0HAIR+1,0ZERO WIDTH+1,2NON-JOINER,2JOINER,0LEFT-TO-RIGHT MARK
200F 0RIGHT-TO-LEFT+1,0HYPHEN,0NON-BREAKING+1,0FIGURE DASH,0EN+1,0EM+1,0HORIZONTAL BAR
2016 0DOUBLE VERTICAL LINE,1LOW+1,0LEFT SINGLE QUOTATION MARK,0RIGHT+3,0SINGLE LOW-9+2
201B 1HIGH-REVERSED-9+2,0LEFT DOUBLE+2,0RIGHT+3,0DOUBLE LOW-9+2,1HIGH-REVERSED-9+2,0DAGGER,0DOUBLE+1
2022 0BULLET,0TRIANGULAR+1,0ONE DOT LEADER,0TWO+2,0HORIZONTAL ELLIPSIS,0HYPHENATION POINT
2028 0LINE SEPARATOR,0PARAGRAPH+1,0LEFT-TO-RIGHT EMBEDDING,0RIGHT-TO-LEFT+1
202C 0POP DIRECTIONAL FORMATTING,0LEFT-TO-RIGHT OVERRIDE,0RIGHT-TO-LEFT+1,0NARROW NO-BREAK SPACE
2030 0PER MILLE SIGN,1TEN THOUSAND+1,0PRIME,0DOUBLE+1,0TRIPLE+1,0REVERSED+1,1DOUBLE+1,1TRIPLE+1
2038 0CARET,0SINGLE LEFT-POINTING ANGLE QUOTATION MARK,1RIGHT-POINTING+3,0REFERENCE+1
203C 0DOUBLE EXCLAMATION+1,0INTERROBANG,0OVERLINE,0UNDERTIE,0CHARACTER TIE,0CARET INSERTION POINT
2042 0ASTERISM,0HYPHEN BULLET,0FRACTION SLASH,0LEFT SQUARE BRACKET WITH QUILL,0RIGHT+4
2047 0DOUBLE QUESTION MARK,0QUESTION EXCLAMATION+1,0EXCLAMATION QUESTION+1,0TIRONIAN SIGN ET
204B 0REVERSED PILCROW SIGN,0BLACK LEFTWARDS BULLET,1RIGHTWARDS+1,0LOW ASTERISK,0REVERSED SEMICOLON
2050 0CLOSE UP,0TWO ASTERISKS ALIGNED VERTICALLY,0COMMERCIAL MINUS SIGN,0SWUNG DASH
2054 0INVERTED UNDERTIE,0FLOWER PUNCTUATION MARK,0THREE DOT PUNCTUATION,0QUADRUPLE PRIME
2058 0FOUR DOT PUNCTUATION,0FIVE+2,0TWO+2,0FOUR DOT MARK,0DOTTED CROSS,0TRICOLON,0VERTICAL FOUR DOTS
205F 0MEDIUM MATHEMATICAL SPACE,0WORD JOINER,0FUNCTION APPLICATION,0INVISIBLE TIMES,1SEPARATOR,1PLUS
2066 0LEFT-TO-RIGHT ISOLATE,0RIGHT-TO-LEFT+1,0FIRST STRONG+1,0POP DIRECTIONAL+1
206A 0INHIBIT SYMMETRIC SWAPPING,0ACTIVATE+2,0INHIBIT ARABIC FORM SHAPING,0ACTIVATE+3
206E 0NATIONAL DIGIT SHAPES,0NOMINAL+2,0SUPERSCRIPT ZERO,1LATIN SMALL LETTER I
2074 1FOUR,1FIVE,1SIX,1SEVEN,1EIGHT,1NINE,1PLUS SIGN,1MINUS,1EQUALS SIGN,1LEFT PARENTHESIS,1RIGHT+1
207F 1LATIN SMALL LETTER N,0SUBSCRIPT ZERO,1ONE,1TWO,1THREE,1FOUR,1FIVE,1SIX,1SEVEN,1EIGHT,1NINE
208A 1PLUS SIGN,1MINUS,1EQUALS SIGN,1LEFT PARENTHESIS,1RIGHT+1
2090 0LATIN SUBSCRIPT SMALL LETTER A,4E,4O,4X,4SCHWA,4H,4K,4L,4M,4N,4P,4S,4T
20A0 0EURO-CURRENCY SIGN,0COLON+1,0CRUZEIRO+1,0FRENCH FRANC+1,0LIRA+1,0MILL+1,0NAIRA+1,0PESETA+1
20A8 0RUPEE+1,0WON+1,0NEW SHEQEL+1,0DONG+1,0EURO+1,0KIP+1,0TUGRIK+1,0DRACHMA+1,0GERMAN PENNY+1
20B1 0PESO+1,0GUARANI+1,0AUSTRAL+1,0HRYVNIA+1,0CEDI+1,0LIVRE TOURNOIS+1,0SPESMILO+1,0TENGE+1
20B9 0INDIAN RUPEE+1,0TURKISH LIRA+1,0NORDIC MARK+1,0MANAT+1,0RUBLE+1,0LARI+1,0BITCOIN+1,0SOM+1
20D0 0COMBINING LEFT HARPOON ABOVE,1RIGHT+2,1LONG VERTICAL LINE OVERLAY,1SHORT+3
20D4 1ANTICLOCKWISE ARROW ABOVE,1CLOCKWISE+2,1LEFT+2,1RIGHT+2,1RING OVERLAY,1CLOCKWISE+2
20DA 1ANTICLOCKWISE+2,1THREE DOTS ABOVE,1FOUR+2,1ENCLOSING CIRCLE,2SQUARE,2DIAMOND,2CIRCLE BACKSLASH
20E1 1LEFT RIGHT ARROW ABOVE,1ENCLOSING SCREEN,2KEYCAP,2UPWARD POINTING TRIANGLE
20E5 1REVERSE SOLIDUS OVERLAY,1DOUBLE VERTICAL STROKE+1,1ANNUITY SYMBOL,1TRIPLE UNDERDOT
20E9 1WIDE BRIDGE ABOVE,1LEFTWARDS ARROW OVERLAY,1LONG DOUBLE SOLIDUS+1
20EC 1RIGHTWARDS HARPOON WITH BARB DOWNWARDS,1LEFTWARDS+4,1LEFT ARROW BELOW,1RIGHT+2,1ASTERISK ABOVE
2100 0ACCOUNT OF,0ADDRESSED TO THE SUBJECT,0DOUBLE-STRUCK CAPITAL C,0DEGREE CELSIUS
2104 0CENTRE LINE SYMBOL,0CARE OF,0CADA UNA,0EULER CONSTANT,0SCRUPLE,0DEGREE FAHRENHEIT
210A 0SCRIPT SMALL G,1CAPITAL H,0BLACK-LETTER+2,0DOUBLE-STRUCK+2,0PLANCK CONSTANT,2OVER TWO PI
2110 0SCRIPT CAPITAL I,0BLACK-LETTER+2,0SCRIPT CAPITAL L,1SMALL L,0L B BAR SYMBOL
2115 0DOUBLE-STRUCK CAPITAL N,0NUMERO SIGN,0SOUND RECORDING COPYRIGHT,0SCRIPT CAPITAL P
2119 0DOUBLE-STRUCK+2,2Q,0SCRIPT CAPITAL R,0BLACK-LETTER+2,0DOUBLE-STRUCK+2,0PRESCRIPTION TAKE
211F 0RESPONSE,0SERVICE MARK,0TELEPHONE SIGN,0TRADE MARK+1,0VERSICLE,0DOUBLE-STRUCK CAPITAL Z
2125 0OUNCE SIGN,0OHM+1,0INVERTED+2,0BLACK-LETTER CAPITAL Z,0TURNED GREEK SMALL LETTER IOTA
212A 0KELVIN SIGN,0ANGSTROM+1,0SCRIPT CAPITAL B,0BLACK-LETTER CAPITAL C,0ESTIMATED SYMBOL
212F 0SCRIPT SMALL E,1CAPITAL E,2F,0TURNED+2,0SCRIPT CAPITAL M,1SMALL O,0ALEF SYMBOL,0BET+1,0GIMEL+1
2138 0DALET+1,0INFORMATION SOURCE,0ROTATED CAPITAL Q,0FACSIMILE SIGN,0DOUBLE-STRUCK SMALL PI,2GAMMA
213E 1CAPITAL+1,2PI,1N-ARY SUMMATION,0TURNED SANS-SERIF CAPITAL G,3L,0REVERSED+3
2144 0TURNED SANS-SERIF CAPITAL Y,0DOUBLE-STRUCK ITALIC CAPITAL D,2SMALL D,3E,3I,3J,0PROPERTY LINE
214B 0TURNED AMPERSAND,0PER SIGN,0AKTIESELSKAB,0TURNED SMALL F,0SYMBOL FOR SAMARITAN SOURCE
2150 0VULGAR FRACTION ONE SEVENTH,3NINTH,3TENTH,3THIRD,2TWO THIRDS,2ONE FIFTH,2TWO FIFTHS,2THREE+1
2158 2FOUR+1,2ONE SIXTH,2FIVE SIXTHS,2ONE EIGHTH,2THREE EIGHTHS,2FIVE+1,2SEVEN+1
215F 0FRACTION NUMERATOR ONE,0ROMAN NUMERAL+1,2TWO,2THREE,2FOUR,2FIVE,2SIX,2SEVEN,2EIGHT,2NINE,2TEN
216A 2ELEVEN,2TWELVE,2FIFTY,2ONE HUNDRED,2FIVE+1,2ONE THOUSAND,0SMALL ROMAN NUMERAL ONE,3TWO,3THREE
2173 3FOUR,3FIVE,3SIX,3SEVEN,3EIGHT,3NINE,3TEN,3ELEVEN,3TWELVE,3FIFTY,3ONE HUNDRED,3FIVE+1
217F 3ONE THOUSAND,0ROMAN NUMERAL ONE THOUSAND C D,2FIVE THOUSAND,2TEN+1,2REVERSED ONE HUNDRED
2184 0LATIN SMALL LETTER REVERSED C,0ROMAN NUMERAL SIX LATE FORM,2FIFTY EARLY+1,3THOUSAND
2188 2ONE HUNDRED+1,0VULGAR FRACTION ZERO THIRDS,0TURNED DIGIT TWO,2THREE
2190 0LEFTWARDS ARROW,0UPWARDS+1,0RIGHTWARDS+1,0DOWNWARDS+1,0LEFT RIGHT+1,0UP DOWN+1,0NORTH WEST+1
2197 1EAST+1,0SOUTH+2,1WEST+1,0LEFTWARDS ARROW WITH STROKE,0RIGHTWARDS+3,0LEFTWARDS WAVE ARROW
219D 0RIGHTWARDS+2,0LEFTWARDS TWO HEADED+1,0UPWARDS+3,0RIGHTWARDS+3,0DOWNWARDS+3
21A2 0LEFTWARDS ARROW WITH TAIL,0RIGHTWARDS+3,0LEFTWARDS ARROW FROM BAR,0UPWARDS+3,0RIGHTWARDS+3
21A7 0DOWNWARDS+3,0UP DOWN ARROW WITH BASE,0LEFTWARDS ARROW WITH HOOK,0RIGHTWARDS+3
21AB 0LEFTWARDS ARROW WITH LOOP,0RIGHTWARDS+3,0LEFT RIGHT WAVE ARROW,2ARROW WITH STROKE
21AF 0DOWNWARDS ZIGZAG ARROW,0UPWARDS ARROW WITH TIP LEFTWARDS,4RIGHTWARDS
21B2 0DOWNWARDS ARROW WITH TIP LEFTWARDS,4RIGHTWARDS,0RIGHTWARDS ARROW WITH CORNER DOWNWARDS
21B5 0DOWNWARDS ARROW WITH CORNER LEFTWARDS,0ANTICLOCKWISE TOP SEMICIRCLE ARROW,0CLOCKWISE+3
21B8 0NORTH WEST ARROW TO LONG BAR,0LEFTWARDS ARROW TO BAR OVER RIGHTWARDS ARROW TO+1
21BA 0ANTICLOCKWISE OPEN CIRCLE ARROW,0CLOCKWISE+3,0LEFTWARDS HARPOON WITH BARB UPWARDS,4DOWNWARDS
21BE 0UPWARDS HARPOON WITH BARB RIGHTWARDS,4LEFTWARDS,0RIGHTWARDS HARPOON WITH BARB UPWARDS
21C1 4DOWNWARDS,0DOWNWARDS HARPOON WITH BARB RIGHTWARDS,4LEFTWARDS
21C4 0RIGHTWARDS ARROW OVER LEFTWARDS ARROW,0UPWARDS ARROW LEFTWARDS OF DOWNWARDS+1
21C6 0LEFTWARDS ARROW OVER RIGHTWARDS+1,1PAIRED ARROWS,0UPWARDS+2,0RIGHTWARDS+2,0DOWNWARDS+2
21CB 0LEFTWARDS HARPOON OVER RIGHTWARDS HARPOON,0RIGHTWARDS HARPOON OVER LEFTWARDS+1
21CD 0LEFTWARDS DOUBLE ARROW WITH STROKE,0LEFT RIGHT+4,0RIGHTWARDS+4,0LEFTWARDS DOUBLE ARROW
21D1 0UPWARDS+2,0RIGHTWARDS+2,0DOWNWARDS+2,0LEFT RIGHT+2,0UP DOWN+2,0NORTH WEST+2,1EAST+2,0SOUTH+3
21D9 1WEST+2,0LEFTWARDS TRIPLE+1,0RIGHTWARDS+2,0LEFTWARDS SQUIGGLE+1,0RIGHTWARDS+2
21DE 0UPWARDS ARROW WITH DOUBLE STROKE,0DOWNWARDS+4,0LEFTWARDS DASHED ARROW,0UPWARDS+2,0RIGHTWARDS+2
21E3 0DOWNWARDS+2,0LEFTWARDS ARROW TO BAR,0RIGHTWARDS+3,0LEFTWARDS WHITE ARROW,0UPWARDS+2
21E8 0RIGHTWARDS+2,0DOWNWARDS+2,0UPWARDS WHITE ARROW FROM BAR,3ON PEDESTAL,5WITH HORIZONTAL BAR
21ED 6VERTICAL+1,2DOUBLE ARROW,4ON PEDESTAL,0RIGHTWARDS WHITE ARROW FROM WALL
21F1 0NORTH WEST ARROW TO CORNER,0SOUTH EAST+3,0UP DOWN WHITE ARROW,0RIGHT ARROW WITH SMALL CIRCLE
21F5 0DOWNWARDS ARROW LEFTWARDS OF UPWARDS ARROW,0THREE RIGHTWARDS ARROWS
21F7 0LEFTWARDS ARROW WITH VERTICAL STROKE,0RIGHTWARDS+4,0LEFT RIGHT+4
21FA 0LEFTWARDS ARROW WITH DOUBLE+2,0RIGHTWARDS+5,0LEFT RIGHT+5,0LEFTWARDS OPEN-HEADED ARROW
21FE 0RIGHTWARDS+2,0LEFT RIGHT+2,0FOR ALL,0COMPLEMENT,0PARTIAL DIFFERENTIAL,0THERE EXISTS
2204 1DOES NOT EXIST,0EMPTY SET,0INCREMENT,0NABLA,0ELEMENT OF,0NOT AN+2,0SMALL+2,0CONTAINS AS MEMBER
220C 0DOES NOT CONTAIN+2,0SMALL CONTAINS+2,0END OF PROOF,0N-ARY PRODUCT,1COPRODUCT,1SUMMATION
2212 0MINUS SIGN,0MINUS-OR-PLUS+1,0DOT PLUS,0DIVISION SLASH,0SET MINUS,0ASTERISK OPERATOR,0RING+1
2219 0BULLET+1,0SQUARE ROOT,0CUBE+1,0FOURTH+1,0PROPORTIONAL TO,0INFINITY,0RIGHT ANGLE,0+1
2221 0MEASURED+1,0SPHERICAL+1,0DIVIDES,0DOES NOT DIVIDE,0PARALLEL TO,0NOT+2,0LOGICAL AND,1OR
2229 0INTERSECTION,0UNION,0INTEGRAL,0DOUBLE+1,0TRIPLE+1,0CONTOUR+1,0SURFACE+1,0VOLUME+1,0CLOCKWISE+1
2232 1CONTOUR+1,0ANTICLOCKWISE+2,0THEREFORE,0BECAUSE,0RATIO,0PROPORTION,0DOT MINUS,0EXCESS
223A 0GEOMETRIC PROPORTION,0HOMOTHETIC,0TILDE OPERATOR,0REVERSED TILDE,0INVERTED LAZY S,0SINE WAVE
2240 0WREATH PRODUCT,0NOT TILDE,0MINUS+1,0ASYMPTOTICALLY EQUAL TO,0NOT+3,0APPROXIMATELY+2
2246 1BUT NOT ACTUALLY+2,0NEITHER APPROXIMATELY NOR+3,0ALMOST+2,0NOT+3,0ALMOST EQUAL OR+2
224B 0TRIPLE TILDE,0ALL EQUAL TO,0EQUIVALENT+1,0GEOMETRICALLY+2,0DIFFERENCE BETWEEN
2250 0APPROACHES THE LIMIT,0GEOMETRICALLY EQUAL TO,0APPROXIMATELY EQUAL TO OR THE IMAGE OF
2253 0IMAGE OF OR APPROXIMATELY EQUAL TO,0COLON EQUALS,0EQUALS COLON,0RING IN EQUAL TO,1+2
2258 0CORRESPONDS+1,0ESTIMATES,0EQUIANGULAR TO,0STAR EQUALS,0DELTA EQUAL TO,0EQUAL TO BY DEFINITION
225E 0MEASURED BY,0QUESTIONED EQUAL TO,0NOT+2,0IDENTICAL+1,0NOT+2,0STRICTLY EQUIVALENT+1
2264 0LESS-THAN OR EQUAL+1,0GREATER-THAN+3,0LESS-THAN OVER+2,0GREATER-THAN+3,0LESS-THAN BUT NOT+2
2269 0GREATER-THAN+4,0MUCH LESS-THAN,1GREATER-THAN,0BETWEEN,0NOT EQUIVALENT TO,1LESS-THAN
226F 1GREATER-THAN,0NEITHER LESS-THAN NOR EQUAL TO,1GREATER-THAN+3,0LESS-THAN OR EQUIVALENT+1
2273 0GREATER-THAN+3,0NEITHER LESS-THAN NOR+2,1GREATER-THAN+3,0LESS-THAN OR GREATER-THAN
2277 0GREATER-THAN OR LESS-THAN,0NEITHER LESS-THAN NOR GREATER-THAN,1GREATER-THAN NOR LESS-THAN
227A 0PRECEDES,0SUCCEEDS,0PRECEDES OR EQUAL TO,0SUCCEEDS+3,0PRECEDES OR EQUIVALENT+1,0SUCCEEDS+3
2280 0DOES NOT PRECEDE,2SUCCEED,0SUBSET OF,0SUPERSET+1,0NOT A SUBSET+1,2SUPERSET+1
2286 0SUBSET OF OR EQUAL TO,0SUPERSET+4,0NEITHER A SUBSET OF NOR+2,2SUPERSET+4,0SUBSET OF WITH NOT+2
228B 0SUPERSET+5,0MULTISET,1MULTIPLICATION,1UNION,0SQUARE IMAGE OF,1ORIGINAL+1,1IMAGE OF OR EQUAL TO
2292 1ORIGINAL+4,1CAP,1CUP,0CIRCLED PLUS,1MINUS,1TIMES,1DIVISION SLASH,1DOT OPERATOR,1RING+1
229B 1ASTERISK+1,1EQUALS,1DASH,0SQUARED PLUS,1MINUS,1TIMES,1DOT OPERATOR,0RIGHT TACK,0LEFT+1,0DOWN+1
22A5 0UP+1,0ASSERTION,0MODELS,0TRUE,0FORCES,0TRIPLE VERTICAL BAR RIGHT TURNSTILE
22AB 0DOUBLE VERTICAL BAR DOUBLE+2,0DOES NOT PROVE,0NOT TRUE,0DOES NOT FORCE
22AF 0NEGATED DOUBLE VERTICAL BAR DOUBLE RIGHT TURNSTILE,0PRECEDES UNDER RELATION,0SUCCEEDS+2
22B2 0NORMAL SUBGROUP OF,0CONTAINS AS NORMAL SUBGROUP,0NORMAL SUBGROUP OF OR EQUAL TO
22B5 0CONTAINS AS NORMAL SUBGROUP+3,0ORIGINAL OF,0IMAGE+1,0MULTIMAP,0HERMITIAN CONJUGATE MATRIX
22BA 0INTERCALATE,0XOR,0NAND,0NOR,0RIGHT ANGLE WITH ARC,1TRIANGLE,0N-ARY LOGICAL AND,2OR
22C2 1INTERSECTION,1UNION,0DIAMOND OPERATOR,0DOT+1,0STAR+1,0DIVISION TIMES,0BOWTIE
22C9 0LEFT NORMAL FACTOR SEMIDIRECT PRODUCT,0RIGHT+4,0LEFT+2,0RIGHT+2,0REVERSED TILDE EQUALS
22CE 0CURLY LOGICAL OR,2AND,0DOUBLE SUBSET,1SUPERSET,1INTERSECTION,1UNION,0PITCHFORK
22D5 0EQUAL AND PARALLEL TO,0LESS-THAN WITH DOT,0GREATER-THAN+2,0VERY MUCH LESS-THAN,2GREATER-THAN
22DA 0LESS-THAN EQUAL TO OR+1,0GREATER-THAN EQUAL TO OR LESS-THAN,0+4,3GREATER-THAN,3PRECEDES
22DF 3SUCCEEDS,0DOES NOT PRECEDE OR EQUAL,2SUCCEED+2,0NOT SQUARE IMAGE OF OR EQUAL TO,2ORIGINAL+4
22E4 0SQUARE IMAGE OF OR NOT+2,1ORIGINAL+5,0LESS-THAN BUT NOT EQUIVALENT+1,0GREATER-THAN+4
22E8 0PRECEDES+4,0SUCCEEDS+4,0NOT NORMAL SUBGROUP OF,0DOES NOT CONTAIN AS NORMAL SUBGROUP
22EC 0NOT NORMAL SUBGROUP OF OR EQUAL TO,0DOES NOT CONTAIN AS NORMAL SUBGROUP OR EQUAL
22EE 0VERTICAL ELLIPSIS,0MIDLINE HORIZONTAL+1,0UP RIGHT DIAGONAL+1,0DOWN+3
22F2 0ELEMENT OF WITH LONG HORIZONTAL STROKE,3VERTICAL BAR AT END OF+2,0SMALL ELEMENT+9
22F5 0ELEMENT OF WITH DOT ABOVE,3OVERBAR,0SMALL+4,0ELEMENT OF WITH UNDERBAR,3TWO HORIZONTAL STROKES
22FA 0CONTAINS WITH LONG HORIZONTAL STROKE,2VERTICAL BAR AT END OF+2,0SMALL+9,0CONTAINS WITH OVERBAR
22FE 0SMALL+3,0Z NOTATION BAG MEMBERSHIP,0DIAMETER SIGN,0ELECTRIC ARROW,0HOUSE,0UP ARROWHEAD,0DOWN+1
2305 0PROJECTIVE,0PERSPECTIVE,0WAVY LINE,0LEFT CEILING,0RIGHT+1,0LEFT FLOOR,0RIGHT+1
230C 0BOTTOM RIGHT CROP,1LEFT+1,0TOP RIGHT+1,1LEFT+1,0REVERSED NOT SIGN,0SQUARE LOZENGE,0ARC
2313 0SEGMENT,0SECTOR,0TELEPHONE RECORDER,0POSITION INDICATOR,0VIEWDATA SQUARE
2318 0PLACE OF INTEREST SIGN,0TURNED NOT+1,0WATCH,0HOURGLASS,0TOP LEFT CORNER,1RIGHT+1
231E 0BOTTOM LEFT+1,1RIGHT+1,0TOP HALF INTEGRAL,0BOTTOM+2,0FROWN,0SMILE
2324 0UP ARROWHEAD BETWEEN TWO HORIZONTAL BARS,0OPTION KEY,0ERASE TO THE RIGHT,0X IN A RECTANGLE BOX
2328 0KEYBOARD,0LEFT-POINTING ANGLE BRACKET,0RIGHT-POINTING+2,0ERASE TO THE LEFT,0BENZENE RING
232D 0CYLINDRICITY,0ALL AROUND-PROFILE,0SYMMETRY,0TOTAL RUNOUT,0DIMENSION ORIGIN,0CONICAL TAPER
2333 0SLOPE,0COUNTERBORE,0COUNTERSINK,0APL FUNCTIONAL SYMBOL I-BEAM,3SQUISH QUAD,3QUAD EQUAL,4DIVIDE
233A 4DIAMOND,4JOT,4CIRCLE,3CIRCLE STILE,4JOT,3SLASH BAR,3BACKSLASH+1,3QUAD SLASH,4BACKSLASH
2343 4LESS-THAN,4GREATER-THAN,3LEFTWARDS VANE,3RIGHTWARDS+1,3QUAD LEFTWARDS ARROW,4RIGHTWARDS+1
2349 3CIRCLE BACKSLASH,3DOWN TACK UNDERBAR,3DELTA STILE,3QUAD DOWN CARET,4DELTA,3DOWN TACK JOT
234F 3UPWARDS VANE,3QUAD UPWARDS ARROW,3UP TACK OVERBAR,3DEL STILE,3QUAD UP CARET,4DEL,3UP TACK JOT
2356 3DOWNWARDS VANE,3QUAD DOWNWARDS ARROW,3QUOTE UNDERBAR,3DELTA+1,3DIAMOND+1,3JOT+1,3CIRCLE+1
235D 3UP SHOE JOT,3QUOTE QUAD,3CIRCLE STAR,3QUAD COLON,3UP TACK DIAERESIS,3DEL+1,3STAR+1,3JOT+1
2365 3CIRCLE+1,3DOWN SHOE STILE,3LEFT+2,3TILDE DIAERESIS,3GREATER-THAN+1,3COMMA BAR,3DEL TILDE
236C 3ZILDE,3STILE TILDE,3SEMICOLON UNDERBAR,3QUAD NOT EQUAL,4QUESTION,3DOWN CARET TILDE,3UP+2,3IOTA
2374 3RHO,3OMEGA,3ALPHA UNDERBAR,3EPSILON+1,3IOTA+1,3OMEGA+1,3ALPHA,0NOT CHECK MARK
237C 0RIGHT ANGLE WITH DOWNWARDS ZIGZAG ARROW,0SHOULDERED OPEN BOX,0BELL SYMBOL
237F 0VERTICAL LINE WITH MIDDLE DOT,0INSERTION SYMBOL,0CONTINUOUS UNDERLINE+1,0DISCONTINUOUS+2
2383 0EMPHASIS+1,0COMPOSITION+1,0WHITE SQUARE WITH CENTRE VERTICAL LINE,0ENTER SYMBOL
2387 0ALTERNATIVE KEY+1,0HELM+1,0CIRCLED HORIZONTAL BAR WITH NOTCH,1TRIANGLE DOWN
238B 0BROKEN CIRCLE WITH NORTHWEST ARROW,0UNDO SYMBOL,0MONOSTABLE+1,0HYSTERESIS+1
238F 0OPEN-CIRCUIT-OUTPUT H-TYPE+1,1L-TYPE+1,0PASSIVE-PULL-DOWN-OUTPUT+1,0PASSIVE-PULL-UP-OUTPUT+1
2393 0DIRECT CURRENT SYMBOL FORM TWO,0SOFTWARE-FUNCTION SYMBOL,0APL FUNCTIONAL SYMBOL QUAD
2396 0DECIMAL SEPARATOR KEY SYMBOL,0PREVIOUS PAGE,0NEXT+1,0PRINT SCREEN SYMBOL,0CLEAR+2
239B 0LEFT PARENTHESIS UPPER HOOK,2EXTENSION,2LOWER HOOK,0RIGHT PARENTHESIS UPPER+1,2EXTENSION
23A0 2LOWER HOOK,0LEFT SQUARE BRACKET UPPER CORNER,3EXTENSION,3LOWER CORNER
23A4 0RIGHT SQUARE BRACKET UPPER+1,3EXTENSION,3LOWER CORNER,0LEFT CURLY BRACKET UPPER HOOK
23A8 3MIDDLE PIECE,3LOWER HOOK,0CURLY BRACKET EXTENSION,0RIGHT CURLY BRACKET UPPER HOOK
23AC 3MIDDLE PIECE,3LOWER HOOK,0INTEGRAL EXTENSION,0HORIZONTAL LINE+1
23B0 0UPPER LEFT OR LOWER RIGHT CURLY BRACKET SECTION,1RIGHT OR LOWER LEFT+3,0SUMMATION TOP,1BOTTOM
23B4 0TOP SQUARE BRACKET,0BOTTOM+2,3OVER TOP SQUARE BRACKET,0RADICAL SYMBOL BOTTOM
23B8 0LEFT VERTICAL BOX LINE,0RIGHT+3,0HORIZONTAL SCAN LINE-1,2LINE-3,2LINE-7,2LINE-9
23BE 0DENTISTRY SYMBOL LIGHT VERTICAL AND TOP RIGHT,5BOTTOM+1,4WITH CIRCLE,3DOWN AND HORIZONTAL+2
23C2 3UP+4,3VERTICAL WITH TRIANGLE,3DOWN AND HORIZONTAL+2,3UP+4,3VERTICAL AND WAVE
23C7 3DOWN AND HORIZONTAL WITH+1,3UP+4,3DOWN AND HORIZONTAL,3UP+2,3VERTICAL AND TOP LEFT,5BOTTOM+1
23CD 0SQUARE FOOT,0RETURN SYMBOL,0EJECT+1,0VERTICAL LINE EXTENSION,0METRICAL BREVE,1LONG OVER SHORT
23D3 1SHORT OVER LONG,1LONG OVER TWO SHORTS,1TWO SHORTS OVER LONG,3JOINED,1TRISEME,1TETRASEME
23D9 1PENTASEME,0EARTH GROUND,0FUSE,0TOP PARENTHESIS,0BOTTOM+1,0TOP CURLY BRACKET,0BOTTOM+2
23E0 0TOP TORTOISE SHELL+1,0BOTTOM+3,0WHITE TRAPEZIUM,0BENZENE RING WITH CIRCLE,0STRAIGHTNESS
23E5 0FLATNESS,0AC CURRENT,0ELECTRICAL INTERSECTION,0DECIMAL EXPONENT SYMBOL
23E9 0BLACK RIGHT-POINTING DOUBLE TRIANGLE,1LEFT-POINTING+2,1UP-POINTING+2,1DOWN-POINTING+2
23ED 1RIGHT-POINTING DOUBLE TRIANGLE WITH VERTICAL BAR,1LEFT-POINTING+5
23EF 1RIGHT-POINTING TRIANGLE WITH DOUBLE+2,0ALARM CLOCK,0STOPWATCH,0TIMER CLOCK
23F3 0HOURGLASS WITH FLOWING SAND,0BLACK MEDIUM LEFT-POINTING TRIANGLE,2RIGHT-POINTING+1
23F6 2UP-POINTING+1,2DOWN-POINTING+1,0DOUBLE VERTICAL BAR,0BLACK SQUARE FOR STOP,1CIRCLE FOR RECORD
23FB 0POWER SYMBOL,1ON-OFF+1,1ON+1,1SLEEP+1,0OBSERVER EYE+1,0SYMBOL FOR NULL,2START OF HEADING,4TEXT
2403 2END+2,4TRANSMISSION,2ENQUIRY,2ACKNOWLEDGE,2BELL,2BACKSPACE,2HORIZONTAL TABULATION,2LINE FEED
240B 2VERTICAL TABULATION,2FORM FEED,2CARRIAGE RETURN,2SHIFT OUT,3IN,2DATA LINK ESCAPE
2411 2DEVICE CONTROL ONE,4TWO,4THREE,4FOUR,2NEGATIVE ACKNOWLEDGE,2SYNCHRONOUS IDLE
2417 2END OF TRANSMISSION BLOCK,2CANCEL,2END OF MEDIUM,2SUBSTITUTE,2ESCAPE,2FILE SEPARATOR,2GROUP+1
241E 2RECORD+1,2UNIT+1,2SPACE,2DELETE,0BLANK SYMBOL,0OPEN BOX,0SYMBOL FOR NEWLINE,2DELETE FORM TWO
2426 2SUBSTITUTE+2
2440 0OCR HOOK,1CHAIR,1FORK,1INVERTED+1,1BELT BUCKLE,1BOW TIE,1BRANCH BANK IDENTIFICATION
2447 1AMOUNT OF CHECK,1DASH,1CUSTOMER ACCOUNT NUMBER,1DOUBLE BACKSLASH
2460 0CIRCLED DIGIT ONE,2TWO,2THREE,2FOUR,2FIVE,2SIX,2SEVEN,2EIGHT,2NINE,1NUMBER TEN,2ELEVEN,2TWELVE
246C 2THIRTEEN,2FOURTEEN,2FIFTEEN,2SIXTEEN,2SEVENTEEN,2EIGHTEEN,2NINETEEN,2TWENTY
2474 0PARENTHESIZED DIGIT ONE,2TWO,2THREE,2FOUR,2FIVE,2SIX,2SEVEN,2EIGHT,2NINE,1NUMBER TEN,2ELEVEN
247F 2TWELVE,2THIRTEEN,2FOURTEEN,2FIFTEEN,2SIXTEEN,2SEVENTEEN,2EIGHTEEN,2NINETEEN,2TWENTY
2488 0DIGIT ONE FULL STOP,1TWO+2,1THREE+2,1FOUR+2,1FIVE+2,1SIX+2,1SEVEN+2,1EIGHT+2,1NINE+2
2491 0NUMBER TEN+2,1ELEVEN+2,1TWELVE+2,1THIRTEEN+2,1FOURTEEN+2,1FIFTEEN+2,1SIXTEEN+2,1SEVENTEEN+2
2499 1EIGHTEEN+2,1NINETEEN+2,1TWENTY+2,0PARENTHESIZED LATIN SMALL LETTER A,4B,4C,4D,4E,4F,4G,4H,4I
24A5 4J,4K,4L,4M,4N,4O,4P,4Q,4R,4S,4T,4U,4V,4W,4X,4Y,4Z,0CIRCLED LATIN CAPITAL LETTER A,4B,4C,4D,4E
24BB 4F,4G,4H,4I,4J,4K,4L,4M,4N,4O,4P,4Q,4R,4S,4T,4U,4V,4W,4X,4Y,4Z,2SMALL LETTER A,4B,4C,4D,4E,4F
24D6 4G,4H,4I,4J,4K,4L,4M,4N,4O,4P,4Q,4R,4S,4T,4U,4V,4W,4X,4Y,4Z,1DIGIT ZERO
24EB 0NEGATIVE CIRCLED NUMBER ELEVEN,3TWELVE,3THIRTEEN,3FOURTEEN,3FIFTEEN,3SIXTEEN,3SEVENTEEN
24F2 3EIGHTEEN,3NINETEEN,3TWENTY,0DOUBLE CIRCLED DIGIT ONE,3TWO,3THREE,3FOUR,3FIVE,3SIX,3SEVEN
24FC 3EIGHT,3NINE,2NUMBER TEN,0NEGATIVE CIRCLED DIGIT ZERO,0BOX DRAWINGS LIGHT HORIZONTAL,2HEAVY+1
2502 2LIGHT VERTICAL,2HEAVY+1,2LIGHT TRIPLE DASH HORIZONTAL,2HEAVY+3,2LIGHT TRIPLE DASH VERTICAL
2507 2HEAVY+3,2LIGHT QUADRUPLE DASH HORIZONTAL,2HEAVY+3,2LIGHT QUADRUPLE DASH VERTICAL,2HEAVY+3
250C 2LIGHT DOWN AND RIGHT,2DOWN LIGHT AND RIGHT HEAVY,3HEAVY AND RIGHT LIGHT,2HEAVY DOWN AND RIGHT
2510 2LIGHT DOWN AND LEFT,2DOWN LIGHT AND LEFT HEAVY,3HEAVY AND LEFT LIGHT,2HEAVY DOWN AND LEFT
2514 2LIGHT UP AND RIGHT,2UP LIGHT AND RIGHT HEAVY,3HEAVY AND RIGHT LIGHT,2HEAVY UP AND RIGHT
2518 2LIGHT UP AND LEFT,2UP LIGHT AND LEFT HEAVY,3HEAVY AND LEFT LIGHT,2HEAVY UP AND LEFT
251C 2LIGHT VERTICAL AND RIGHT,2VERTICAL LIGHT AND RIGHT HEAVY,2UP HEAVY AND RIGHT DOWN LIGHT
251F 2DOWN HEAVY AND RIGHT UP+1,2VERTICAL HEAVY AND RIGHT+1,2DOWN LIGHT AND RIGHT UP HEAVY
2522 2UP LIGHT AND RIGHT DOWN+1,2HEAVY VERTICAL AND RIGHT,2LIGHT VERTICAL AND LEFT
2525 2VERTICAL LIGHT AND LEFT HEAVY,2UP HEAVY AND LEFT DOWN LIGHT,2DOWN HEAVY AND LEFT UP+1
2528 2VERTICAL HEAVY AND LEFT+1,2DOWN LIGHT AND LEFT UP HEAVY,2UP LIGHT AND LEFT DOWN+1
252B 2HEAVY VERTICAL AND LEFT,2LIGHT DOWN AND HORIZONTAL,2LEFT HEAVY AND RIGHT DOWN LIGHT
252E 2RIGHT HEAVY AND LEFT+2,2DOWN LIGHT AND HORIZONTAL HEAVY,3HEAVY AND HORIZONTAL LIGHT
2531 2RIGHT LIGHT AND LEFT DOWN HEAVY,2LEFT LIGHT AND RIGHT+2,2HEAVY DOWN AND HORIZONTAL,2LIGHT UP+2
2535 2LEFT HEAVY AND RIGHT UP LIGHT,2RIGHT HEAVY AND LEFT+2,2UP LIGHT AND HORIZONTAL HEAVY
2538 3HEAVY AND HORIZONTAL LIGHT,2RIGHT LIGHT AND LEFT UP HEAVY,2LEFT LIGHT AND RIGHT+2
253B 2HEAVY UP AND HORIZONTAL,2LIGHT VERTICAL+2,2LEFT HEAVY AND RIGHT VERTICAL LIGHT
253E 2RIGHT HEAVY AND LEFT+2,2VERTICAL LIGHT AND HORIZONTAL HEAVY
2540 2UP HEAVY AND DOWN HORIZONTAL LIGHT,2DOWN HEAVY AND UP+2,2VERTICAL HEAVY AND+2
2543 2LEFT UP HEAVY AND RIGHT DOWN+1,2RIGHT UP HEAVY AND LEFT+2,2LEFT DOWN HEAVY AND RIGHT UP+1
2546 2RIGHT DOWN HEAVY AND LEFT+2,2DOWN LIGHT AND UP HORIZONTAL HEAVY,2UP LIGHT AND DOWN+2
2549 2RIGHT LIGHT AND LEFT VERTICAL+1,2LEFT LIGHT AND RIGHT+2,2HEAVY VERTICAL AND HORIZONTAL
254C 2LIGHT DOUBLE DASH+1,2HEAVY+3,2LIGHT DOUBLE DASH VERTICAL,2HEAVY+3,2DOUBLE HORIZONTAL,3VERTICAL
2552 2DOWN SINGLE AND RIGHT DOUBLE,3DOUBLE AND RIGHT SINGLE,2DOUBLE DOWN AND RIGHT
2555 2DOWN SINGLE AND LEFT DOUBLE,3DOUBLE AND LEFT SINGLE,2DOUBLE DOWN AND LEFT
2558 2UP SINGLE AND RIGHT DOUBLE,3DOUBLE AND RIGHT SINGLE,2DOUBLE UP AND RIGHT
255B 2UP SINGLE AND LEFT DOUBLE,3DOUBLE AND LEFT SINGLE,2DOUBLE UP AND LEFT
255E 2VERTICAL SINGLE AND RIGHT DOUBLE,3DOUBLE AND RIGHT SINGLE,2DOUBLE VERTICAL AND RIGHT
2561 2VERTICAL SINGLE AND LEFT DOUBLE,3DOUBLE AND LEFT SINGLE,2DOUBLE VERTICAL AND LEFT
2564 2DOWN SINGLE AND HORIZONTAL DOUBLE,3DOUBLE AND HORIZONTAL SINGLE,2DOUBLE DOWN AND HORIZONTAL
2567 2UP SINGLE AND HORIZONTAL DOUBLE,3DOUBLE AND HORIZONTAL SINGLE,2DOUBLE UP AND HORIZONTAL
256A 2VERTICAL SINGLE AND HORIZONTAL DOUBLE,3DOUBLE AND HORIZONTAL SINGLE
256C 2DOUBLE VERTICAL AND HORIZONTAL,2LIGHT ARC DOWN AND RIGHT,6LEFT,4UP+2,6RIGHT
2571 3DIAGONAL UPPER RIGHT TO LOWER LEFT,5LEFT TO LOWER RIGHT,4CROSS,3LEFT,3UP,3RIGHT,3DOWN
2578 2HEAVY LEFT,3UP,3RIGHT,3DOWN,2LIGHT LEFT AND HEAVY RIGHT,3UP AND HEAVY DOWN
257E 2HEAVY LEFT AND LIGHT RIGHT,3UP AND LIGHT DOWN,0UPPER HALF BLOCK,0LOWER ONE EIGHTH+1,2QUARTER+1
2583 1THREE EIGHTHS+1,1HALF+1,1FIVE EIGHTHS+1,1THREE QUARTERS+1,1SEVEN EIGHTHS+1,0FULL+1
2589 0LEFT SEVEN EIGHTHS+1,1THREE QUARTERS+1,1FIVE EIGHTHS+1,1HALF+1,1THREE EIGHTHS+1,1ONE QUARTER+1
258F 2EIGHTH+1,0RIGHT HALF+1,0LIGHT SHADE,0MEDIUM+1,0DARK+1,0UPPER ONE EIGHTH BLOCK,0RIGHT+3
2596 0QUADRANT LOWER LEFT,2RIGHT,1UPPER LEFT,3AND LOWER LEFT AND LOWER RIGHT,5+1
259B 4UPPER RIGHT AND LOWER LEFT,8RIGHT,2+1,3AND LOWER LEFT,6AND LOWER RIGHT,0BLACK SQUARE,0WHITE+1
25A2 2WITH ROUNDED CORNERS,2CONTAINING BLACK SMALL SQUARE,0SQUARE WITH HORIZONTAL FILL,2VERTICAL+1
25A6 2ORTHOGONAL CROSSHATCH+1,2UPPER LEFT TO LOWER RIGHT+1,3RIGHT TO LOWER LEFT+1
25A9 2DIAGONAL CROSSHATCH+1,0BLACK SMALL SQUARE,0WHITE+2,0BLACK RECTANGLE,0WHITE+1,0BLACK VERTICAL+1
25AF 0WHITE+2,0BLACK PARALLELOGRAM,0WHITE+1,0BLACK UP-POINTING TRIANGLE,0WHITE+2
25B4 0BLACK UP-POINTING SMALL+1,0WHITE+3,0BLACK RIGHT-POINTING+1,0WHITE+2
25B8 0BLACK RIGHT-POINTING SMALL+1,0WHITE+3,0BLACK RIGHT-POINTING POINTER,0WHITE+2
25BC 0BLACK DOWN-POINTING TRIANGLE,0WHITE+2,0BLACK DOWN-POINTING SMALL+1,0WHITE+3
25C0 0BLACK LEFT-POINTING+1,0WHITE+2,0BLACK LEFT-POINTING SMALL+1,0WHITE+3
25C4 0BLACK LEFT-POINTING POINTER,0WHITE+2,0BLACK DIAMOND,0WHITE+1,2CONTAINING BLACK SMALL DIAMOND
25C9 0FISHEYE,0LOZENGE,0WHITE CIRCLE,0DOTTED+1,0CIRCLE WITH VERTICAL FILL,0BULLSEYE,0BLACK CIRCLE
25D0 0CIRCLE WITH LEFT HALF BLACK,2RIGHT+2,2LOWER+2,2UPPER+2,3RIGHT QUADRANT+1,2ALL BUT UPPER LEFT+2
25D6 0LEFT HALF BLACK CIRCLE,0RIGHT+3,0INVERSE BULLET,1WHITE CIRCLE,0UPPER HALF+3,0LOWER+4
25DC 0UPPER LEFT QUADRANT CIRCULAR ARC,1RIGHT+3,0LOWER+4,1LEFT+3,0UPPER HALF CIRCLE,0LOWER+2
25E2 0BLACK LOWER RIGHT TRIANGLE,2LEFT+1,1UPPER+2,2RIGHT+1,0WHITE BULLET
25E7 0SQUARE WITH LEFT HALF BLACK,2RIGHT+2,2UPPER LEFT DIAGONAL+2,2LOWER RIGHT+3
25EB 0WHITE SQUARE WITH VERTICAL BISECTING LINE,1UP-POINTING TRIANGLE WITH DOT
25ED 0UP-POINTING TRIANGLE WITH LEFT HALF BLACK,3RIGHT+2,0LARGE CIRCLE
25F0 0WHITE SQUARE WITH UPPER LEFT QUADRANT,3LOWER+2,4RIGHT+1,3UPPER+2,1CIRCLE WITH UPPER LEFT+1
25F5 3LOWER+2,4RIGHT+1,3UPPER+2,0UPPER LEFT TRIANGLE,1RIGHT+1,0LOWER LEFT+1,0WHITE MEDIUM SQUARE
25FC 0BLACK+2,0WHITE MEDIUM SMALL+1,0BLACK+3,0LOWER RIGHT TRIANGLE,0BLACK SUN WITH RAYS,0CLOUD
2602 0UMBRELLA,0SNOWMAN,0COMET,0BLACK STAR,0WHITE+1,0LIGHTNING,0THUNDERSTORM,0SUN,0ASCENDING NODE
260B 0DESCENDING+1,0CONJUNCTION,0OPPOSITION,0BLACK TELEPHONE,0WHITE+1,0BALLOT BOX,2WITH CHECK,3X
2613 0SALTIRE,0UMBRELLA WITH RAIN DROPS,0HOT BEVERAGE,0WHITE SHOGI PIECE,0BLACK+2,0SHAMROCK
2619 0REVERSED ROTATED FLORAL HEART BULLET,0BLACK LEFT POINTING INDEX,1RIGHT+2,0WHITE LEFT+2,1UP+2
261E 1RIGHT+2,1DOWN+2,0SKULL AND CROSSBONES,0CAUTION SIGN,0RADIOACTIVE+1,0BIOHAZARD+1,0CADUCEUS
2625 0ANKH,0ORTHODOX CROSS,0CHI RHO,0CROSS OF LORRAINE,2JERUSALEM,0STAR AND CRESCENT,0FARSI SYMBOL
262C 0ADI SHAKTI,0HAMMER AND SICKLE,0PEACE SYMBOL,0YIN YANG,0TRIGRAM FOR HEAVEN,2LAKE,2FIRE,2THUNDER
2634 2WIND,2WATER,2MOUNTAIN,2EARTH,0WHEEL OF DHARMA,0WHITE FROWNING FACE,1SMILING+1,0BLACK+2
263C 0WHITE SUN WITH RAYS,0FIRST QUARTER MOON,0LAST+2,0MERCURY,0FEMALE SIGN,0EARTH,0MALE SIGN
2643 0JUPITER,0SATURN,0URANUS,0NEPTUNE,0PLUTO,0ARIES,0TAURUS,0GEMINI,0CANCER,0LEO,0VIRGO,0LIBRA
264F 0SCORPIUS,0SAGITTARIUS,0CAPRICORN,0AQUARIUS,0PISCES,0WHITE CHESS KING,2QUEEN,2ROOK,2BISHOP
2658 2KNIGHT,2PAWN,0BLACK CHESS KING,2QUEEN,2ROOK,2BISHOP,2KNIGHT,2PAWN,1SPADE SUIT,0WHITE HEART+1
2662 1DIAMOND+1,0BLACK CLUB+1,0WHITE SPADE+1,0BLACK HEART+1,1DIAMOND+1,0WHITE CLUB+1,0HOT SPRINGS
2669 0QUARTER NOTE,0EIGHTH+1,0BEAMED EIGHTH NOTES,1SIXTEENTH+1,0MUSIC FLAT SIGN,1NATURAL+1,1SHARP+1
2670 0WEST SYRIAC CROSS,0EAST+2,0UNIVERSAL RECYCLING SYMBOL,0RECYCLING SYMBOL FOR TYPE-1 PLASTICS
2674 3TYPE-2+1,3TYPE-3+1,3TYPE-4+1,3TYPE-5+1,3TYPE-6+1,3TYPE-7+1,3GENERIC MATERIALS
267B 0BLACK UNIVERSAL RECYCLING SYMBOL,0RECYCLED PAPER+1,0PARTIALLY-RECYCLED+2,0PERMANENT PAPER SIGN
267F 0WHEELCHAIR SYMBOL,0DIE FACE-1,1FACE-2,1FACE-3,1FACE-4,1FACE-5,1FACE-6
2686 0WHITE CIRCLE WITH DOT RIGHT,3TWO DOTS,0BLACK CIRCLE WITH WHITE DOT RIGHT,3TWO WHITE DOTS
268A 0MONOGRAM FOR YANG,2YIN,0DIGRAM FOR GREATER YANG,2LESSER YIN,3YANG,2GREATER YIN,0WHITE FLAG
2691 0BLACK+1,0HAMMER AND PICK,0ANCHOR,0CROSSED SWORDS,0STAFF OF AESCULAPIUS,0SCALES,0ALEMBIC
2698 0FLOWER,0GEAR,0STAFF OF HERMES,0ATOM SYMBOL,0FLEUR-DE-LIS,0OUTLINED WHITE STAR
269E 0THREE LINES CONVERGING RIGHT,3LEFT,0WARNING SIGN,0HIGH VOLTAGE+1,0DOUBLED FEMALE+1,1MALE+1
26A4 0INTERLOCKED FEMALE AND+2,0MALE AND FEMALE+1,1WITH STROKE+1,3AND MALE AND FEMALE+1
26A8 0VERTICAL MALE WITH STROKE+1,0HORIZONTAL+4,0MEDIUM WHITE CIRCLE,1BLACK+1,1SMALL WHITE+1
26AD 0MARRIAGE SYMBOL,0DIVORCE+1,0UNMARRIED PARTNERSHIP+1,0COFFIN,0FUNERAL URN,0NEUTER,0CERES
26B4 0PALLAS,0JUNO,0VESTA,0CHIRON,0BLACK MOON LILITH,0SEXTILE,0SEMISEXTILE,0QUINCUNX,0SESQUIQUADRATE
26BD 0SOCCER BALL,0BASEBALL,0SQUARED KEY,0WHITE DRAUGHTS MAN,2KING,0BLACK DRAUGHTS MAN,2KING
26C4 0SNOWMAN WITHOUT SNOW,0SUN BEHIND CLOUD,0RAIN,0BLACK SNOWMAN,0THUNDER CLOUD AND RAIN
26C9 0TURNED WHITE SHOGI PIECE,1BLACK+2,0WHITE DIAMOND IN SQUARE,0CROSSING LANES,0DISABLED CAR
26CE 0OPHIUCHUS,0PICK,0CAR SLIDING,0HELMET WITH WHITE CROSS,0CIRCLED CROSSING LANES,0CHAINS
26D4 0NO ENTRY,0ALTERNATE ONE-WAY LEFT WAY TRAFFIC,0BLACK TWO-WAY+3,0WHITE+4,0BLACK LEFT LANE MERGE
26D9 0WHITE+3,0DRIVE SLOW SIGN,0HEAVY WHITE DOWN-POINTING TRIANGLE,0LEFT CLOSED ENTRY
26DD 0SQUARED SALTIRE,0FALLING DIAGONAL IN WHITE CIRCLE IN BLACK SQUARE,0BLACK TRUCK
26E0 0RESTRICTED LEFT ENTRY-1,2ENTRY-2,0ASTRONOMICAL SYMBOL FOR URANUS
26E3 0HEAVY CIRCLE WITH STROKE AND TWO DOTS ABOVE,0PENTAGRAM,0RIGHT-HANDED INTERLACED+1
26E6 0LEFT-HANDED+2,0INVERTED+1,0BLACK CROSS ON SHIELD,0SHINTO SHRINE,0CHURCH,0CASTLE,0HISTORIC SITE
26ED 0GEAR WITHOUT HUB,1WITH HANDLES,0MAP SYMBOL FOR LIGHTHOUSE,0MOUNTAIN,0UMBRELLA ON GROUND
26F2 0FOUNTAIN,0FLAG IN HOLE,0FERRY,0SAILBOAT,0SQUARE FOUR CORNERS,0SKIER,0ICE SKATE
26F9 0PERSON WITH BALL,0TENT,0JAPANESE BANK SYMBOL,0HEADSTONE GRAVEYARD+1,0FUEL PUMP
26FE 0CUP ON BLACK SQUARE,0WHITE FLAG WITH HORIZONTAL MIDDLE BLACK STRIPE,0BLACK SAFETY SCISSORS
2701 0UPPER BLADE+1,0BLACK+1,0LOWER BLADE+1,0WHITE+1,1HEAVY CHECK MARK,0TELEPHONE LOCATION SIGN
2707 0TAPE DRIVE,0AIRPLANE,0ENVELOPE,0RAISED FIST,1HAND,0VICTORY+1,0WRITING+1,0LOWER RIGHT PENCIL
270F 0+1,0UPPER RIGHT+1,0WHITE NIB,0BLACK+1,0CHECK MARK,0HEAVY+2,0MULTIPLICATION X,0HEAVY+2
2717 0BALLOT X,0HEAVY+2,0OUTLINED GREEK CROSS,0HEAVY+2,0OPEN CENTRE+1,0HEAVY+3,0LATIN+1
271E 0SHADOWED WHITE+2,0OUTLINED+2,0MALTESE+1,0STAR OF DAVID,0FOUR TEARDROP-SPOKED ASTERISK
2723 1BALLOON-SPOKED+1,0HEAVY+3,0FOUR CLUB-SPOKED+1,0BLACK FOUR POINTED STAR,0WHITE+3,0SPARKLES
2729 0STRESS OUTLINED WHITE STAR,0CIRCLED+2,0OPEN CENTRE BLACK+1,0BLACK CENTRE WHITE+1
272D 0OUTLINED BLACK+1,0HEAVY+3,0PINWHEEL+1,0SHADOWED WHITE+1,0HEAVY ASTERISK,0OPEN CENTRE+1
2733 0EIGHT SPOKED+1,1POINTED BLACK STAR,2PINWHEEL+1,0SIX POINTED BLACK+1
2737 0EIGHT POINTED RECTILINEAR+2,0HEAVY+5,0TWELVE POINTED+2,0SIXTEEN POINTED ASTERISK
273B 0TEARDROP-SPOKED+1,0OPEN CENTRE+2,0HEAVY+2,0SIX PETALLED BLACK AND WHITE FLORETTE,0BLACK+1
2740 0WHITE+1,0EIGHT PETALLED OUTLINED BLACK+1,0CIRCLED OPEN CENTRE EIGHT POINTED STAR
2743 0HEAVY TEARDROP-SPOKED PINWHEEL ASTERISK,0SNOWFLAKE,0TIGHT TRIFOLIATE+1,0HEAVY CHEVRON+1
2747 0SPARKLE,0HEAVY+1,0BALLOON-SPOKED ASTERISK,0EIGHT TEARDROP-SPOKED PROPELLER+1,0HEAVY+4
274C 0CROSS MARK,0SHADOWED WHITE CIRCLE,0NEGATIVE SQUARED CROSS MARK
274F 0LOWER RIGHT DROP-SHADOWED WHITE SQUARE,0UPPER+4,0LOWER RIGHT SHADOWED+2,0UPPER+4
2753 0BLACK QUESTION MARK ORNAMENT,0WHITE+3,1EXCLAMATION+2,0BLACK DIAMOND MINUS WHITE X
2757 0HEAVY EXCLAMATION MARK SYMBOL,0LIGHT VERTICAL BAR,0MEDIUM+2,0HEAVY+2
275B 1SINGLE TURNED COMMA QUOTATION MARK ORNAMENT,2+4,1DOUBLE TURNED+4,2+4,1LOW SINGLE+4,2DOUBLE+4
2761 0CURVED STEM PARAGRAPH SIGN+1,0HEAVY EXCLAMATION MARK+1,1HEART+3,1BLACK HEART
2765 0ROTATED HEAVY BLACK HEART BULLET,0FLORAL HEART,0ROTATED FLORAL HEART BULLET
2768 0MEDIUM LEFT PARENTHESIS ORNAMENT,1RIGHT+2,1FLATTENED LEFT+2,2RIGHT+2
276C 1LEFT-POINTING ANGLE BRACKET+1,1RIGHT-POINTING+3,0HEAVY LEFT-POINTING ANGLE QUOTATION MARK+1
276F 1RIGHT-POINTING+4,1LEFT-POINTING ANGLE BRACKET+1,1RIGHT-POINTING+3,0LIGHT LEFT TORTOISE SHELL+2
2773 1RIGHT+4,0MEDIUM LEFT CURLY+2,1RIGHT+3,0DINGBAT NEGATIVE CIRCLED DIGIT ONE,4TWO,4THREE,4FOUR
277A 4FIVE,4SIX,4SEVEN,4EIGHT,4NINE,3NUMBER TEN,1CIRCLED SANS-SERIF DIGIT ONE,4TWO,4THREE,4FOUR
2784 4FIVE,4SIX,4SEVEN,4EIGHT,4NINE,3NUMBER TEN,1NEGATIVE CIRCLED SANS-SERIF DIGIT ONE,5TWO,5THREE
278D 5FOUR,5FIVE,5SIX,5SEVEN,5EIGHT,5NINE,4NUMBER TEN,0HEAVY WIDE-HEADED RIGHTWARDS ARROW,1PLUS SIGN
2796 1MINUS+1,1DIVISION+1,1SOUTH EAST ARROW,1RIGHTWARDS+1,1NORTH EAST+1,0DRAFTING POINT RIGHTWARDS+1
279C 0HEAVY ROUND-TIPPED+2,0TRIANGLE-HEADED+2,0HEAVY+3,0DASHED+3,0HEAVY+4,0BLACK+2
27A2 0THREE-D TOP-LIGHTED RIGHTWARDS ARROWHEAD,1BOTTOM-LIGHTED+2,0BLACK+2
27A5 0HEAVY BLACK CURVED DOWNWARDS AND RIGHTWARDS ARROW,3UPWARDS+3,0SQUAT BLACK+2
27A8 0HEAVY CONCAVE-POINTED+3,0RIGHT-SHADED WHITE+2,0LEFT-SHADED+3,0BACK-TILTED SHADOWED+3
27AC 0FRONT-TILTED+4,0HEAVY LOWER RIGHT-SHADOWED+3,1UPPER+4,0NOTCHED LOWER+4,0CURLY LOOP
27B1 0NOTCHED UPPER RIGHT-SHADOWED WHITE RIGHTWARDS ARROW,0CIRCLED HEAVY+3,0WHITE-FEATHERED+2
27B4 0BLACK-FEATHERED SOUTH EAST+1,1RIGHTWARDS+1,1NORTH EAST+1,0HEAVY BLACK-FEATHERED SOUTH+2
27B8 2RIGHTWARDS+1,2NORTH EAST+1,0TEARDROP-BARBED RIGHTWARDS+1,0HEAVY TEARDROP-SHANKED+2
27BC 0WEDGE-TAILED+2,0HEAVY+3,0OPEN-OUTLINED+2,0DOUBLE CURLY LOOP,0THREE DIMENSIONAL ANGLE
27C1 0WHITE TRIANGLE CONTAINING SMALL WHITE TRIANGLE,0PERPENDICULAR,0OPEN SUBSET,1SUPERSET
27C5 0LEFT S-SHAPED BAG DELIMITER,0RIGHT+3,0OR WITH DOT INSIDE,0REVERSE SOLIDUS PRECEDING SUBSET
27C9 0SUPERSET PRECEDING SOLIDUS,0VERTICAL BAR WITH HORIZONTAL STROKE,0MATHEMATICAL RISING DIAGONAL
27CC 0LONG DIVISION,0MATHEMATICAL FALLING DIAGONAL,0SQUARED LOGICAL AND,2OR
27D0 0WHITE DIAMOND WITH CENTRED DOT,0AND WITH+1,0ELEMENT OF OPENING UPWARDS
27D3 0LOWER RIGHT CORNER WITH DOT,0UPPER LEFT+3,0LEFT OUTER JOIN,0RIGHT+2,0FULL+2,0LARGE UP TACK
27D9 1DOWN+1,0LEFT AND RIGHT DOUBLE TURNSTILE,3TACK,1MULTIMAP,0LONG RIGHT TACK,1LEFT+1
27DF 0UP TACK WITH CIRCLE ABOVE,0LOZENGE DIVIDED BY HORIZONTAL RULE,0WHITE CONCAVE-SIDED DIAMOND
27E2 3WITH LEFTWARDS TICK,4RIGHTWARDS+1,1SQUARE WITH LEFTWARDS+1,3RIGHTWARDS+1
27E6 0MATHEMATICAL LEFT WHITE SQUARE BRACKET,1RIGHT+3,1LEFT ANGLE+1,1RIGHT+2,1LEFT DOUBLE+2,1RIGHT+3
27EC 1LEFT WHITE TORTOISE SHELL+1,1RIGHT+4,1LEFT FLATTENED PARENTHESIS,1RIGHT+2
27F0 0UPWARDS QUADRUPLE ARROW,0DOWNWARDS+2,0ANTICLOCKWISE GAPPED CIRCLE+1,0CLOCKWISE+3
27F4 0RIGHT ARROW WITH CIRCLED PLUS,0LONG LEFTWARDS ARROW,1RIGHTWARDS+1,1LEFT RIGHT+1
27F8 1LEFTWARDS DOUBLE+1,1RIGHTWARDS+2,1LEFT RIGHT+2,1LEFTWARDS ARROW FROM BAR,1RIGHTWARDS+3
27FD 1LEFTWARDS DOUBLE+3,1RIGHTWARDS+4,2SQUIGGLE ARROW,0BRAILLE PATTERN BLANK,2DOTS-1,2DOTS-2
2803 2DOTS-12,2DOTS-3,2DOTS-13,2DOTS-23,2DOTS-123,2DOTS-4,2DOTS-14,2DOTS-24,2DOTS-124,2DOTS-34
280D 2DOTS-134,2DOTS-234,2DOTS-1234,2DOTS-5,2DOTS-15,2DOTS-25,2DOTS-125,2DOTS-35,2DOTS-135,2DOTS-235
2817 2DOTS-1235,2DOTS-45,2DOTS-145,2DOTS-245,2DOTS-1245,2DOTS-345,2DOTS-1345,2DOTS-2345,2DOTS-12345
2820 2DOTS-6,2DOTS-16,2DOTS-26,2DOTS-126,2DOTS-36,2DOTS-136,2DOTS-236,2DOTS-1236,2DOTS-46,2DOTS-146
282A 2DOTS-246,2DOTS-1246,2DOTS-346,2DOTS-1346,2DOTS-2346,2DOTS-12346,2DOTS-56,2DOTS-156,2DOTS-256
2833 2DOTS-1256,2DOTS-356,2DOTS-1356,2DOTS-2356,2DOTS-12356,2DOTS-456,2DOTS-1456,2DOTS-2456
283B 2DOTS-12456,2DOTS-3456,2DOTS-13456,2DOTS-23456,2DOTS-123456,2DOTS-7,2DOTS-17,2DOTS-27,2DOTS-127
2844 2DOTS-37,2DOTS-137,2DOTS-237,2DOTS-1237,2DOTS-47,2DOTS-147,2DOTS-247,2DOTS-1247,2DOTS-347
284D 2DOTS-1347,2DOTS-2347,2DOTS-12347,2DOTS-57,2DOTS-157,2DOTS-257,2DOTS-1257,2DOTS-357,2DOTS-1357
2856 2DOTS-2357,2DOTS-12357,2DOTS-457,2DOTS-1457,2DOTS-2457,2DOTS-12457,2DOTS-3457,2DOTS-13457
285E 2DOTS-23457,2DOTS-123457,2DOTS-67,2DOTS-167,2DOTS-267,2DOTS-1267,2DOTS-367,2DOTS-1367
2866 2DOTS-2367,2DOTS-12367,2DOTS-467,2DOTS-1467,2DOTS-2467,2DOTS-12467,2DOTS-3467,2DOTS-13467
286E 2DOTS-23467,2DOTS-123467,2DOTS-567,2DOTS-1567,2DOTS-2567,2DOTS-12567,2DOTS-3567,2DOTS-13567
2876 2DOTS-23567,2DOTS-123567,2DOTS-4567,2DOTS-14567,2DOTS-24567,2DOTS-124567,2DOTS-34567
287D 2DOTS-134567,2DOTS-234567,2DOTS-1234567,2DOTS-8,2DOTS-18,2DOTS-28,2DOTS-128,2DOTS-38,2DOTS-138
2886 2DOTS-238,2DOTS-1238,2DOTS-48,2DOTS-148,2DOTS-248,2DOTS-1248,2DOTS-348,2DOTS-1348,2DOTS-2348
288F 2DOTS-12348,2DOTS-58,2DOTS-158,2DOTS-258,2DOTS-1258,2DOTS-358,2DOTS-1358,2DOTS-2358,2DOTS-12358
2898 2DOTS-458,2DOTS-1458,2DOTS-2458,2DOTS-12458,2DOTS-3458,2DOTS-13458,2DOTS-23458,2DOTS-123458
28A0 2DOTS-68,2DOTS-168,2DOTS-268,2DOTS-1268,2DOTS-368,2DOTS-1368,2DOTS-2368,2DOTS-12368,2DOTS-468
28A9 2DOTS-1468,2DOTS-2468,2DOTS-12468,2DOTS-3468,2DOTS-13468,2DOTS-23468,2DOTS-123468,2DOTS-568
28B1 2DOTS-1568,2DOTS-2568,2DOTS-12568,2DOTS-3568,2DOTS-13568,2DOTS-23568,2DOTS-123568,2DOTS-4568
28B9 2DOTS-14568,2DOTS-24568,2DOTS-124568,2DOTS-34568,2DOTS-134568,2DOTS-234568,2DOTS-1234568
28C0 2DOTS-78,2DOTS-178,2DOTS-278,2DOTS-1278,2DOTS-378,2DOTS-1378,2DOTS-2378,2DOTS-12378,2DOTS-478
28C9 2DOTS-1478,2DOTS-2478,2DOTS-12478,2DOTS-3478,2DOTS-13478,2DOTS-23478,2DOTS-123478,2DOTS-578
28D1 2DOTS-1578,2DOTS-2578,2DOTS-12578,2DOTS-3578,2DOTS-13578,2DOTS-23578,2DOTS-123578,2DOTS-4578
28D9 2DOTS-14578,2DOTS-24578,2DOTS-124578,2DOTS-34578,2DOTS-134578,2DOTS-234578,2DOTS-1234578
28E0 2DOTS-678,2DOTS-1678,2DOTS-2678,2DOTS-12678,2DOTS-3678,2DOTS-13678,2DOTS-23678,2DOTS-123678
28E8 2DOTS-4678,2DOTS-14678,2DOTS-24678,2DOTS-124678,2DOTS-34678,2DOTS-134678,2DOTS-234678
28EF 2DOTS-1234678,2DOTS-5678,2DOTS-15678,2DOTS-25678,2DOTS-125678,2DOTS-35678,2DOTS-135678
28F6 2DOTS-235678,2DOTS-1235678,2DOTS-45678,2DOTS-145678,2DOTS-245678,2DOTS-1245678,2DOTS-345678
28FD 2DOTS-1345678,2DOTS-2345678,2DOTS-12345678,0RIGHTWARDS TWO-HEADED ARROW WITH VERTICAL STROKE
2901 4DOUBLE+2,0LEFTWARDS DOUBLE ARROW WITH+2,0RIGHTWARDS+5,0LEFT RIGHT+5
2905 0RIGHTWARDS TWO-HEADED ARROW FROM BAR,0LEFTWARDS DOUBLE+3,0RIGHTWARDS+4
2908 0DOWNWARDS ARROW WITH HORIZONTAL STROKE,0UPWARDS+4,1TRIPLE ARROW,0DOWNWARDS+2
290C 0LEFTWARDS DOUBLE DASH+1,0RIGHTWARDS+3,0LEFTWARDS TRIPLE+2,0RIGHTWARDS+3,1TWO-HEADED+3
2911 1ARROW WITH DOTTED STEM,0UPWARDS ARROW TO BAR,0DOWNWARDS+3
2914 0RIGHTWARDS ARROW WITH TAIL WITH VERTICAL STROKE,5DOUBLE+2,1TWO-HEADED ARROW WITH TAIL
2917 5WITH VERTICAL STROKE,6DOUBLE+2,0LEFTWARDS ARROW-TAIL,0RIGHTWARDS+1,0LEFTWARDS DOUBLE+1
291C 0RIGHTWARDS+2,0LEFTWARDS ARROW TO BLACK DIAMOND,0RIGHTWARDS+4,0LEFTWARDS ARROW FROM BAR+3
2920 0RIGHTWARDS+6,0NORTH WEST AND SOUTH EAST ARROW,1EAST AND SOUTH WEST+1,1WEST ARROW WITH HOOK
2924 1EAST+3,0SOUTH+4,1WEST+3,0NORTH WEST ARROW AND NORTH EAST ARROW,1EAST ARROW AND SOUTH+2
2929 0SOUTH EAST ARROW AND SOUTH WEST+1,1WEST ARROW AND NORTH+2
292B 0RISING DIAGONAL CROSSING FALLING DIAGONAL,0FALLING DIAGONAL CROSSING RISING+1
292D 0SOUTH EAST ARROW CROSSING NORTH EAST ARROW,0NORTH EAST ARROW CROSSING SOUTH+2
292F 0FALLING DIAGONAL CROSSING NORTH+2,0RISING DIAGONAL CROSSING SOUTH+2
2931 0NORTH EAST ARROW CROSSING NORTH WEST+1,1WEST ARROW CROSSING NORTH EAST+1
2933 0WAVE ARROW POINTING DIRECTLY RIGHT,0ARROW POINTING RIGHTWARDS THEN CURVING UPWARDS,5DOWNWARDS
2936 2DOWNWARDS THEN CURVING LEFTWARDS,5RIGHTWARDS,0RIGHT-SIDE ARC CLOCKWISE ARROW
2939 0LEFT-SIDE ARC ANTICLOCKWISE+1,0TOP+3,0BOTTOM+3,0TOP ARC CLOCKWISE ARROW WITH MINUS
293D 2ANTICLOCKWISE ARROW WITH PLUS,0LOWER RIGHT SEMICIRCULAR CLOCKWISE ARROW
293F 1LEFT SEMICIRCULAR ANTICLOCKWISE+1,0ANTICLOCKWISE CLOSED CIRCLE+1,0CLOCKWISE+3
2942 0RIGHTWARDS ARROW ABOVE SHORT LEFTWARDS+1,0LEFTWARDS ARROW ABOVE SHORT RIGHTWARDS+1
2944 0SHORT RIGHTWARDS ARROW ABOVE LEFTWARDS+1,0RIGHTWARDS ARROW WITH PLUS BELOW,0LEFTWARDS+4
2947 0RIGHTWARDS ARROW THROUGH X,0LEFT RIGHT ARROW THROUGH SMALL CIRCLE
2949 0UPWARDS TWO-HEADED ARROW FROM+2,0LEFT BARB UP RIGHT BARB DOWN HARPOON,2DOWN RIGHT BARB UP+1
294C 0UP BARB RIGHT DOWN BARB LEFT+1,2LEFT DOWN BARB RIGHT+1,0LEFT BARB UP RIGHT BARB UP+1
294F 0UP BARB RIGHT DOWN BARB RIGHT+1,0LEFT BARB DOWN RIGHT BARB DOWN+1
2951 0UP BARB LEFT DOWN BARB LEFT+1,0LEFTWARDS HARPOON WITH BARB UP TO BAR,0RIGHTWARDS+6
2954 0UPWARDS HARPOON WITH BARB RIGHT+2,0DOWNWARDS+6,0LEFTWARDS HARPOON WITH BARB DOWN+2
2957 0RIGHTWARDS+6,0UPWARDS HARPOON WITH BARB LEFT+2,0DOWNWARDS+6
295A 0LEFTWARDS HARPOON WITH BARB UP FROM+1,0RIGHTWARDS+6,0UPWARDS HARPOON WITH BARB RIGHT+2
295D 0DOWNWARDS+6,0LEFTWARDS HARPOON WITH BARB DOWN+2,0RIGHTWARDS+6
2960 0UPWARDS HARPOON WITH BARB LEFT+2,0DOWNWARDS+6
2962 0LEFTWARDS HARPOON WITH BARB UP ABOVE LEFTWARDS HARPOON WITH BARB DOWN
2963 0UPWARDS HARPOON WITH BARB LEFT BESIDE UPWARDS HARPOON WITH BARB RIGHT
2964 0RIGHTWARDS HARPOON WITH BARB UP ABOVE RIGHTWARDS HARPOON WITH BARB DOWN
2965 0DOWNWARDS HARPOON WITH BARB LEFT BESIDE DOWNWARDS HARPOON WITH BARB RIGHT
2966 0LEFTWARDS HARPOON WITH BARB UP ABOVE RIGHTWARDS HARPOON WITH BARB UP
2967 4DOWN ABOVE RIGHTWARDS HARPOON WITH BARB DOWN
2968 0RIGHTWARDS HARPOON WITH BARB UP ABOVE LEFTWARDS HARPOON WITH BARB UP
2969 4DOWN ABOVE LEFTWARDS HARPOON WITH BARB DOWN,0LEFTWARDS HARPOON WITH BARB UP ABOVE LONG DASH
296B 4DOWN BELOW+2,0RIGHTWARDS HARPOON WITH BARB UP ABOVE+2,4DOWN BELOW+2
296E 0UPWARDS HARPOON WITH BARB LEFT BESIDE DOWNWARDS HARPOON WITH BARB RIGHT
296F 0DOWNWARDS HARPOON WITH BARB LEFT BESIDE UPWARDS+4,0RIGHT DOUBLE ARROW WITH ROUNDED HEAD
2971 0EQUALS SIGN ABOVE RIGHTWARDS ARROW,0TILDE OPERATOR+3,0LEFTWARDS ARROW ABOVE TILDE OPERATOR
2974 0RIGHTWARDS+4,3ALMOST EQUAL TO,0LESS-THAN ABOVE LEFTWARDS ARROW
2977 0LEFTWARDS ARROW THROUGH LESS-THAN,0GREATER-THAN ABOVE RIGHTWARDS ARROW,0SUBSET+3
297A 0LEFTWARDS ARROW THROUGH SUBSET,0SUPERSET ABOVE LEFTWARDS ARROW,0LEFT FISH TAIL,0RIGHT+2,0UP+2
297F 0DOWN+2,0TRIPLE VERTICAL BAR DELIMITER,0Z NOTATION SPOT,2TYPE COLON,0LEFT WHITE CURLY BRACKET
2984 0RIGHT+3,0LEFT WHITE PARENTHESIS,0RIGHT+2,0Z NOTATION LEFT IMAGE BRACKET,2RIGHT+2
2989 2LEFT BINDING+1,2RIGHT+2,0LEFT SQUARE BRACKET WITH UNDERBAR,0RIGHT+4
298D 0LEFT SQUARE BRACKET WITH TICK IN TOP CORNER,0RIGHT SQUARE BRACKET WITH TICK IN BOTTOM+1
298F 0LEFT+7,0RIGHT SQUARE BRACKET WITH TICK IN TOP+1,0LEFT ANGLE BRACKET WITH DOT,0RIGHT+4
2993 0LEFT ARC LESS-THAN BRACKET,0RIGHT ARC GREATER-THAN+1,0DOUBLE LEFT+3,1RIGHT ARC LESS-THAN+1
2997 0LEFT BLACK TORTOISE SHELL+1,0RIGHT+4,0DOTTED FENCE,0VERTICAL ZIGZAG LINE
299B 0MEASURED ANGLE OPENING LEFT,0RIGHT ANGLE VARIANT WITH SQUARE,0MEASURED RIGHT ANGLE WITH DOT
299E 0ANGLE WITH S INSIDE,0ACUTE ANGLE,0SPHERICAL ANGLE OPENING LEFT,3UP,0TURNED ANGLE,0REVERSED+1
29A4 0ANGLE WITH UNDERBAR,0REVERSED+3,0OBLIQUE ANGLE OPENING UP,3DOWN
29A8 0MEASURED ANGLE WITH OPEN ARM ENDING IN ARROW POINTING UP AND RIGHT,9UP AND LEFT
29AA 9DOWN AND RIGHT,9DOWN AND LEFT,9RIGHT AND UP,9LEFT+2,9RIGHT AND DOWN,9LEFT+2
29B0 0REVERSED EMPTY SET,0EMPTY SET WITH OVERBAR,3SMALL CIRCLE ABOVE,3RIGHT ARROW+1,3LEFT+2
29B5 0CIRCLE WITH HORIZONTAL BAR,0CIRCLED VERTICAL+1,1PARALLEL,1REVERSE SOLIDUS,1PERPENDICULAR
29BA 0CIRCLE DIVIDED BY HORIZONTAL BAR AND TOP HALF DIVIDED BY VERTICAL BAR,1WITH SUPERIMPOSED X
29BC 0CIRCLED ANTICLOCKWISE-ROTATED DIVISION SIGN,0UP ARROW THROUGH CIRCLE,0CIRCLED WHITE BULLET,1+1
29C0 1LESS-THAN,1GREATER-THAN,0CIRCLE WITH SMALL CIRCLE TO THE RIGHT,2TWO HORIZONTAL STROKES+3
29C4 0SQUARED RISING DIAGONAL SLASH,1FALLING+2,1ASTERISK,1SMALL CIRCLE,1SQUARE,0TWO JOINED SQUARES
29CA 0TRIANGLE WITH DOT ABOVE,2UNDERBAR,0S IN TRIANGLE,0TRIANGLE WITH SERIFS AT BOTTOM
29CE 0RIGHT TRIANGLE ABOVE LEFT TRIANGLE,0LEFT TRIANGLE BESIDE VERTICAL BAR
29D0 0VERTICAL BAR BESIDE RIGHT TRIANGLE,0BOWTIE WITH LEFT HALF BLACK,2RIGHT+2,0BLACK BOWTIE
29D4 0TIMES WITH LEFT HALF BLACK,2RIGHT+2,0WHITE HOURGLASS,0BLACK+1,0LEFT WIGGLY FENCE,0RIGHT+2
29DA 0LEFT DOUBLE+2,0RIGHT+3,0INCOMPLETE INFINITY,0TIE OVER+1,0INFINITY NEGATED WITH VERTICAL BAR
29DF 0DOUBLE-ENDED MULTIMAP,0SQUARE WITH CONTOURED OUTLINE,0INCREASES AS,0SHUFFLE PRODUCT
29E3 0EQUALS SIGN AND SLANTED PARALLEL,5WITH TILDE ABOVE,0IDENTICAL TO AND SLANTED PARALLEL
29E6 0GLEICH STARK,0THERMODYNAMIC,0DOWN-POINTING TRIANGLE WITH LEFT HALF BLACK,3RIGHT+2
29EA 0BLACK DIAMOND WITH DOWN ARROW,1LOZENGE,0WHITE CIRCLE WITH DOWN ARROW,0BLACK+4
29EE 0ERROR-BARRED WHITE SQUARE,1BLACK+1,1WHITE DIAMOND,1BLACK+1,1WHITE CIRCLE,1BLACK+1
29F4 0RULE-DELAYED,0REVERSE SOLIDUS OPERATOR,0SOLIDUS WITH OVERBAR
29F7 0REVERSE SOLIDUS WITH HORIZONTAL STROKE,0BIG SOLIDUS,1REVERSE+1,0DOUBLE PLUS,0TRIPLE+1
29FC 0LEFT-POINTING CURVED ANGLE BRACKET,0RIGHT-POINTING+3,0TINY,0MINY,0N-ARY CIRCLED DOT OPERATOR
2A01 2PLUS+1,2TIMES+1,1UNION OPERATOR WITH DOT,4PLUS,1SQUARE INTERSECTION OPERATOR,2UNION+1
2A07 0TWO LOGICAL AND+1,2OR+1,0N-ARY TIMES+1,0MODULO TWO SUM,0SUMMATION WITH INTEGRAL
2A0C 0QUADRUPLE INTEGRAL OPERATOR,0FINITE PART INTEGRAL,0INTEGRAL WITH DOUBLE STROKE
2A0F 1AVERAGE WITH SLASH,0CIRCULATION FUNCTION,0ANTICLOCKWISE INTEGRATION
2A12 0LINE INTEGRATION WITH RECTANGULAR PATH AROUND POLE,3SEMICIRCULAR+3,2NOT INCLUDING THE+1
2A15 0INTEGRAL AROUND A POINT OPERATOR,0QUATERNION INTEGRAL+1
2A17 0INTEGRAL WITH LEFTWARDS ARROW WITH HOOK,2TIMES SIGN,2INTERSECTION,2UNION,2OVERBAR,2UNDERBAR
2A1D 0JOIN,0LARGE LEFT TRIANGLE OPERATOR,0Z NOTATION SCHEMA COMPOSITION,3PIPING,3PROJECTION
2A22 0PLUS SIGN WITH SMALL CIRCLE ABOVE,3CIRCUMFLEX ACCENT+1,3TILDE+1,3DOT BELOW,3TILDE+1
2A27 3SUBSCRIPT TWO,3BLACK TRIANGLE,0MINUS SIGN WITH COMMA ABOVE,3DOT BELOW,3FALLING DOTS,3RISING+1
2A2D 0PLUS SIGN IN LEFT HALF CIRCLE,3RIGHT+2,0VECTOR OR CROSS PRODUCT
2A30 0MULTIPLICATION SIGN WITH DOT ABOVE,3UNDERBAR,0SEMIDIRECT PRODUCT WITH BOTTOM CLOSED
2A33 0SMASH PRODUCT,0MULTIPLICATION SIGN IN LEFT HALF CIRCLE,3RIGHT+2
2A36 0CIRCLED MULTIPLICATION SIGN WITH CIRCUMFLEX ACCENT,0MULTIPLICATION SIGN IN DOUBLE CIRCLE
2A38 0CIRCLED DIVISION SIGN,0PLUS SIGN IN TRIANGLE,0MINUS+3,0MULTIPLICATION+3,0INTERIOR PRODUCT
2A3D 0RIGHTHAND+2,0Z NOTATION RELATIONAL COMPOSITION,0AMALGAMATION OR COPRODUCT
2A40 0INTERSECTION WITH DOT,0UNION WITH MINUS SIGN,2OVERBAR,0INTERSECTION+2,2LOGICAL AND
2A45 0UNION WITH LOGICAL OR,1ABOVE INTERSECTION,0INTERSECTION ABOVE UNION
2A48 0UNION ABOVE BAR ABOVE INTERSECTION,0INTERSECTION ABOVE BAR ABOVE UNION
2A4A 0UNION BESIDE AND JOINED WITH+1,0INTERSECTION BESIDE AND JOINED WITH INTERSECTION
2A4C 0CLOSED UNION WITH SERIFS,1INTERSECTION+2,0DOUBLE SQUARE INTERSECTION,2UNION
2A50 0CLOSED UNION WITH SERIFS AND SMASH PRODUCT,0LOGICAL AND WITH DOT ABOVE,1OR+3
2A53 0DOUBLE LOGICAL AND,2OR,0TWO INTERSECTING LOGICAL AND,3OR,0SLOPING LARGE+1,2AND
2A59 0LOGICAL OR OVERLAPPING LOGICAL+1,1AND WITH MIDDLE STEM,1OR+3,1AND WITH HORIZONTAL DASH,1OR+3
2A5E 1AND WITH DOUBLE OVERBAR,3UNDERBAR,3DOUBLE+1,0SMALL VEE WITH+1,0LOGICAL OR WITH DOUBLE OVERBAR
2A63 4UNDERBAR,0Z NOTATION DOMAIN ANTIRESTRICTION,2RANGE+1,0EQUALS SIGN WITH DOT BELOW
2A67 0IDENTICAL WITH DOT ABOVE,0TRIPLE HORIZONTAL BAR WITH DOUBLE VERTICAL STROKE,4TRIPLE+2
2A6A 0TILDE OPERATOR WITH DOT ABOVE,3RISING DOTS,0SIMILAR MINUS SIMILAR,0CONGRUENT WITH DOT ABOVE
2A6E 0EQUALS WITH ASTERISK,0ALMOST EQUAL TO WITH CIRCUMFLEX ACCENT,0APPROXIMATELY EQUAL OR EQUAL TO
2A71 0EQUALS SIGN ABOVE PLUS SIGN,0PLUS SIGN ABOVE EQUALS+1,0EQUALS SIGN ABOVE TILDE OPERATOR
2A74 0DOUBLE COLON EQUAL,0TWO CONSECUTIVE EQUALS SIGNS,0THREE+3
2A77 0EQUALS SIGN WITH TWO DOTS ABOVE AND TWO DOTS BELOW,0EQUIVALENT WITH FOUR DOTS ABOVE
2A79 0LESS-THAN WITH CIRCLE INSIDE,0GREATER-THAN+3,0LESS-THAN WITH QUESTION MARK ABOVE
2A7C 0GREATER-THAN+4,0LESS-THAN OR SLANTED EQUAL TO,0GREATER-THAN+4
2A7F 0LESS-THAN OR SLANTED EQUAL TO WITH DOT INSIDE,0GREATER-THAN+7
2A81 0LESS-THAN OR SLANTED EQUAL TO WITH DOT ABOVE,0GREATER-THAN+7
2A83 0LESS-THAN OR SLANTED EQUAL TO WITH DOT ABOVE RIGHT
2A84 0GREATER-THAN OR SLANTED EQUAL TO WITH DOT ABOVE LEFT,0LESS-THAN OR APPROXIMATE,0GREATER-THAN+2
2A87 0LESS-THAN AND SINGLE-LINE NOT EQUAL TO,0GREATER-THAN+5,0LESS-THAN AND NOT APPROXIMATE
2A8A 0GREATER-THAN+3,0LESS-THAN ABOVE DOUBLE-LINE EQUAL ABOVE GREATER-THAN
2A8C 0GREATER-THAN ABOVE DOUBLE-LINE EQUAL ABOVE LESS-THAN,0LESS-THAN ABOVE SIMILAR OR EQUAL
2A8E 0GREATER-THAN+4,0LESS-THAN ABOVE SIMILAR ABOVE GREATER-THAN
2A90 0GREATER-THAN ABOVE SIMILAR ABOVE LESS-THAN
2A91 0LESS-THAN ABOVE GREATER-THAN ABOVE DOUBLE-LINE EQUAL,0GREATER-THAN ABOVE LESS-THAN+3
2A93 0LESS-THAN ABOVE SLANTED EQUAL ABOVE GREATER-THAN ABOVE SLANTED+1
2A94 0GREATER-THAN ABOVE SLANTED EQUAL ABOVE LESS-THAN+3,0SLANTED EQUAL TO OR LESS-THAN
2A96 4GREATER-THAN,4LESS-THAN WITH DOT INSIDE,4GREATER-THAN+3,0DOUBLE-LINE EQUAL TO OR LESS-THAN
2A9A 4GREATER-THAN,1SLANTED EQUAL TO OR LESS-THAN,5GREATER-THAN,0SIMILAR OR LESS-THAN,2GREATER-THAN
2A9F 1ABOVE LESS-THAN ABOVE EQUALS SIGN,2GREATER-THAN+3,0DOUBLE NESTED LESS-THAN,2GREATER-THAN
2AA3 2LESS-THAN WITH UNDERBAR,0GREATER-THAN OVERLAPPING LESS-THAN,1BESIDE+1
2AA6 0LESS-THAN CLOSED BY CURVE,0GREATER-THAN+3,0LESS-THAN CLOSED BY CURVE ABOVE SLANTED EQUAL
2AA9 0GREATER-THAN+6,0SMALLER THAN,0LARGER+1,0SMALLER THAN OR EQUAL TO,0LARGER+4
2AAE 0EQUALS SIGN WITH BUMPY ABOVE,0PRECEDES ABOVE SINGLE-LINE EQUALS SIGN,0SUCCEEDS+4
2AB1 0PRECEDES ABOVE SINGLE-LINE NOT EQUAL TO,0SUCCEEDS+5,0PRECEDES ABOVE EQUALS SIGN,0SUCCEEDS+3
2AB5 0PRECEDES ABOVE NOT EQUAL TO,0SUCCEEDS+4,0PRECEDES ABOVE ALMOST+2,0SUCCEEDS+4
2AB9 0PRECEDES ABOVE NOT+3,0SUCCEEDS+5,0DOUBLE PRECEDES,1SUCCEEDS,0SUBSET WITH DOT,0SUPERSET+2
2ABF 0SUBSET WITH PLUS SIGN BELOW,0SUPERSET+4,0SUBSET WITH MULTIPLICATION+2,0SUPERSET+4
2AC3 0SUBSET OF OR EQUAL TO WITH DOT ABOVE,0SUPERSET+7,0SUBSET OF ABOVE EQUALS SIGN,0SUPERSET+4
2AC7 0SUBSET OF ABOVE TILDE OPERATOR,0SUPERSET+4,0SUBSET OF ABOVE ALMOST EQUAL TO,0SUPERSET+5
2ACB 0SUBSET OF ABOVE NOT+2,0SUPERSET+5,0SQUARE LEFT OPEN BOX OPERATOR,1RIGHT+3,0CLOSED SUBSET
2AD0 1SUPERSET,1SUBSET OR EQUAL TO,1SUPERSET+3,0SUBSET ABOVE SUPERSET,0SUPERSET ABOVE SUBSET
2AD5 0SUBSET+2,0SUPERSET ABOVE SUPERSET,1BESIDE SUBSET,2AND JOINED BY DASH WITH+1
2AD9 0ELEMENT OF OPENING DOWNWARDS,0PITCHFORK WITH TEE TOP,0TRANSVERSAL INTERSECTION,0FORKING
2ADD 0NONFORKING,0SHORT LEFT TACK,1DOWN+1,1UP+1,0PERPENDICULAR WITH S
2AE2 0VERTICAL BAR TRIPLE RIGHT TURNSTILE,0DOUBLE VERTICAL BAR LEFT+1,0VERTICAL BAR DOUBLE+2
2AE5 0DOUBLE+5,0LONG DASH FROM LEFT MEMBER OF DOUBLE VERTICAL,0SHORT DOWN TACK WITH OVERBAR
2AE8 1UP TACK WITH UNDERBAR,3ABOVE SHORT DOWN TACK,0DOUBLE+2,1UP+1,1STROKE NOT SIGN,0REVERSED+4
2AEE 0DOES NOT DIVIDE WITH REVERSED NEGATION SLASH,0VERTICAL LINE WITH CIRCLE ABOVE,4BELOW
2AF1 0DOWN TACK+3,0PARALLEL WITH HORIZONTAL STROKE,2TILDE OPERATOR
2AF4 0TRIPLE VERTICAL BAR BINARY RELATION,3WITH HORIZONTAL STROKE,1COLON OPERATOR,1NESTED LESS-THAN
2AF8 2GREATER-THAN,0DOUBLE-LINE SLANTED LESS-THAN OR EQUAL TO,2GREATER-THAN+3
2AFB 0TRIPLE SOLIDUS BINARY RELATION,0LARGE TRIPLE VERTICAL BAR OPERATOR,0DOUBLE SOLIDUS+1
2AFE 0WHITE VERTICAL BAR,0N-ARY+3,0NORTH EAST WHITE ARROW,1WEST+2,0SOUTH EAST+2,1WEST+2
2B04 0LEFT RIGHT+2,0LEFTWARDS BLACK+1,0UPWARDS+2,0DOWNWARDS+2,0NORTH EAST+2,1WEST+2,0SOUTH EAST+2
2B0B 1WEST+2,0LEFT RIGHT+2,0UP DOWN+2,0RIGHTWARDS ARROW WITH TIP DOWNWARDS,4UPWARDS
2B10 0LEFTWARDS ARROW WITH TIP DOWNWARDS,4UPWARDS,0SQUARE WITH TOP HALF BLACK,2BOTTOM+2
2B14 2UPPER RIGHT DIAGONAL+2,2LOWER LEFT+3,0DIAMOND WITH LEFT+2,2RIGHT+2,2TOP+2,2BOTTOM+2
2B1A 0DOTTED SQUARE,0BLACK LARGE+1,0WHITE+2,0BLACK VERY SMALL+1,0WHITE+3,0BLACK PENTAGON,0WHITE+1
2B21 1HEXAGON,0BLACK+1,0HORIZONTAL+2,0BLACK LARGE CIRCLE,1MEDIUM DIAMOND,0WHITE+2
2B27 0BLACK MEDIUM LOZENGE,0WHITE+2,0BLACK SMALL DIAMOND,2LOZENGE,0WHITE+2,0BLACK HORIZONTAL ELLIPSE
2B2D 0WHITE+2,0BLACK VERTICAL+1,0WHITE+2,0LEFT ARROW WITH SMALL CIRCLE,0THREE LEFTWARDS ARROWS
2B32 0LEFT ARROW WITH CIRCLED PLUS,0LONG LEFTWARDS SQUIGGLE ARROW
2B34 0LEFTWARDS TWO-HEADED ARROW WITH VERTICAL STROKE,4DOUBLE+2,3FROM BAR,2TRIPLE DASH ARROW
2B38 1ARROW WITH DOTTED STEM,3TAIL WITH VERTICAL STROKE,5DOUBLE+2,1TWO-HEADED ARROW WITH TAIL
2B3C 5WITH VERTICAL STROKE,6DOUBLE+2,1ARROW THROUGH X,0WAVE ARROW POINTING DIRECTLY LEFT
2B40 0EQUALS SIGN ABOVE LEFTWARDS ARROW,0REVERSE TILDE OPERATOR+3
2B42 0LEFTWARDS ARROW ABOVE REVERSE ALMOST EQUAL TO,0RIGHTWARDS ARROW THROUGH GREATER-THAN,3SUPERSET
2B45 0LEFTWARDS QUADRUPLE ARROW,0RIGHTWARDS+2,0REVERSE TILDE OPERATOR ABOVE RIGHTWARDS+1
2B48 0RIGHTWARDS ARROW ABOVE REVERSE ALMOST EQUAL TO,0TILDE OPERATOR ABOVE LEFTWARDS ARROW
2B4A 0LEFTWARDS ARROW ABOVE ALMOST EQUAL TO,3REVERSE TILDE OPERATOR,0RIGHTWARDS+5
2B4D 0DOWNWARDS TRIANGLE-HEADED ZIGZAG ARROW,0SHORT SLANTED NORTH+1,1BACKSLANTED SOUTH+1
2B50 0WHITE MEDIUM STAR,0BLACK SMALL+1,0WHITE+2,0BLACK RIGHT-POINTING PENTAGON,0WHITE+2
2B55 0HEAVY LARGE CIRCLE,1OVAL WITH OVAL INSIDE,1CIRCLE WITH CIRCLE+1,2,1CIRCLED SALTIRE
2B5A 0SLANTED NORTH ARROW WITH HOOKED HEAD,0BACKSLANTED SOUTH ARROW WITH HOOKED TAIL
2B5C 0SLANTED NORTH ARROW WITH HORIZONTAL+1,0BACKSLANTED SOUTH+4
2B5E 0BENT ARROW POINTING DOWNWARDS THEN NORTH EAST,0SHORT+7,0LEFTWARDS TRIANGLE-HEADED ARROW
2B61 0UPWARDS+2,0RIGHTWARDS+2,0DOWNWARDS+2,0LEFT RIGHT+2,0UP DOWN+2,0NORTH WEST+2,1EAST+2,0SOUTH+3
2B69 1WEST+2,0LEFTWARDS TRIANGLE-HEADED DASHED+1,0UPWARDS+3,0RIGHTWARDS+3,0DOWNWARDS+3
2B6E 0CLOCKWISE TRIANGLE-HEADED OPEN CIRCLE+1,0ANTICLOCKWISE+4
2B70 0LEFTWARDS TRIANGLE-HEADED ARROW TO BAR,0UPWARDS+4,0RIGHTWARDS+4,0DOWNWARDS+4
2B76 0NORTH WEST+4,1EAST+4,0SOUTH+5,1WEST+4
2B7A 0LEFTWARDS TRIANGLE-HEADED ARROW WITH DOUBLE HORIZONTAL STROKE,0UPWARDS+6,0RIGHTWARDS+6
2B7D 0DOWNWARDS+6,0HORIZONTAL TAB KEY,0VERTICAL+2
2B80 0LEFTWARDS TRIANGLE-HEADED ARROW OVER RIGHTWARDS TRIANGLE-HEADED ARROW
2B81 0UPWARDS TRIANGLE-HEADED ARROW LEFTWARDS OF DOWNWARDS+2
2B82 0RIGHTWARDS TRIANGLE-HEADED ARROW OVER LEFTWARDS+2
2B83 0DOWNWARDS TRIANGLE-HEADED ARROW LEFTWARDS OF UPWARDS+2
2B84 0LEFTWARDS TRIANGLE-HEADED PAIRED ARROWS,0UPWARDS+3,0RIGHTWARDS+3,0DOWNWARDS+3
2B88 0LEFTWARDS BLACK CIRCLED WHITE ARROW,0UPWARDS+4,0RIGHTWARDS+4,0DOWNWARDS+4
2B8C 0ANTICLOCKWISE TRIANGLE-HEADED RIGHT U-SHAPED+1,2BOTTOM+2,2LEFT+2,2TOP+2,0RETURN LEFT,1RIGHT
2B92 0NEWLINE LEFT,1RIGHT,0FOUR CORNER ARROWS CIRCLING ANTICLOCKWISE,0RIGHTWARDS BLACK ARROW
2B97 0SYMBOL FOR TYPE A ELECTRONICS,0THREE-D TOP-LIGHTED LEFTWARDS EQUILATERAL ARROWHEAD
2B99 1RIGHT-LIGHTED UPWARDS+2,1TOP-LIGHTED RIGHTWARDS+2,1LEFT-LIGHTED DOWNWARDS+2,0BLACK LEFTWARDS+2
2B9D 1UPWARDS+2,1RIGHTWARDS+2,1DOWNWARDS+2,0DOWNWARDS TRIANGLE-HEADED ARROW WITH LONG TIP LEFTWARDS
2BA1 6RIGHTWARDS,0UPWARDS TRIANGLE-HEADED ARROW WITH LONG TIP LEFTWARDS,6RIGHTWARDS
2BA4 0LEFTWARDS TRIANGLE-HEADED ARROW WITH LONG TIP UPWARDS,0RIGHTWARDS+6
2BA6 0LEFTWARDS TRIANGLE-HEADED ARROW WITH LONG TIP DOWNWARDS,0RIGHTWARDS+6
2BA8 0BLACK CURVED DOWNWARDS AND LEFTWARDS ARROW,4RIGHTWARDS+1,2UPWARDS AND LEFTWARDS+1
2BAB 4RIGHTWARDS+1,2LEFTWARDS AND UPWARDS+1,2RIGHTWARDS+3,2LEFTWARDS AND DOWNWARDS+1,2RIGHTWARDS+3
2BB0 0RIBBON ARROW DOWN LEFT,3RIGHT,2UP LEFT,3RIGHT,2LEFT UP,2RIGHT+1,2LEFT DOWN,2RIGHT+1
2BB8 0UPWARDS WHITE ARROW FROM BAR WITH HORIZONTAL BAR,0UP ARROWHEAD IN A RECTANGLE BOX
2BBA 0OVERLAPPING WHITE SQUARES,2AND BLACK+1,1+2,0BALLOT BOX WITH LIGHT X,0CIRCLED X,1BOLD X
2BC0 0BLACK SQUARE CENTRED,1DIAMOND+1,0TURNED BLACK PENTAGON,0HORIZONTAL BLACK OCTAGON,0+2
2BC5 1MEDIUM UP-POINTING TRIANGLE CENTRED,2DOWN-POINTING+2,2LEFT-POINTING+2,2RIGHT-POINTING+2
2BC9 0NEPTUNE FORM TWO,0TOP HALF BLACK CIRCLE,0BOTTOM+3,0LIGHT FOUR POINTED BLACK CUSP,0ROTATED+5
2BCE 0WHITE FOUR POINTED+1,0ROTATED+4,0SQUARE POSITION INDICATOR,0UNCERTAINTY SIGN,0GROUP MARK
2BD3 0PLUTO FORM TWO,2THREE,2FOUR,2FIVE,0TRANSPLUTO,0PROSERPINA,0ASTRAEA,0HYGIEA,0PHOLUS,0NESSUS
2BDD 0WHITE MOON SELENA,0BLACK DIAMOND ON CROSS,0TRUE LIGHT MOON ARTA,0CUPIDO,0HADES,0ZEUS,0KRONOS
2BE4 0APOLLON,0ADMETOS,0VULCANUS,0POSEIDON,0LEFT HALF BLACK STAR,0RIGHT+3,0STAR WITH LEFT HALF BLACK
2BEB 2RIGHT+2,0LEFTWARDS TWO-HEADED ARROW WITH TRIANGLE ARROWHEADS,0UPWARDS+5,0RIGHTWARDS+5
2BEF 0DOWNWARDS+5,0ERIS FORM ONE,2TWO,0SEDNA,0RUSSIAN ASTROLOGICAL SYMBOL VIGINTILE,3NOVILE
2BF5 3QUINTILE,3BINOVILE,3SENTAGON,3TREDECILE,0EQUALS SIGN WITH INFINITY BELOW,0UNITED SYMBOL
2BFB 0SEPARATED+1,0DOUBLED+1,0PASSED+1,0REVERSED RIGHT ANGLE,0HELLSCHREIBER PAUSE SYMBOL
2C00 0GLAGOLITIC CAPITAL LETTER AZU,3BUKY,3VEDE,3GLAGOLI,3DOBRO,3YESTU,3ZHIVETE,3DZELO,3ZEMLJA,3IZHE
2C0A 3INITIAL+1,3I,3DJERVI,3KAKO,3LJUDIJE,3MYSLITE,3NASHI,3ONU,3POKOJI,3RITSI,3SLOVO,3TVRIDO,3UKU
2C17 3FRITU,3HERU,3OTU,3PE,3SHTA,3TSI,3CHRIVI,3SHA,3YERU,3YERI,3YATI,3SPIDERY HA,3YU,3SMALL YUS
2C25 5WITH TAIL,3YO,3IOTATED SMALL YUS,3BIG+1,3IOTATED+2,3FITA,3IZHITSA,3SHTAPIC,3TROKUTASTI A
2C2E 3LATINATE MYSLITE,3CAUDATE CHRIVI,1SMALL LETTER AZU,3BUKY,3VEDE,3GLAGOLI,3DOBRO,3YESTU,3ZHIVETE
2C37 3DZELO,3ZEMLJA,3IZHE,3INITIAL+1,3I,3DJERVI,3KAKO,3LJUDIJE,3MYSLITE,3NASHI,3ONU,3POKOJI,3RITSI
2C44 3SLOVO,3TVRIDO,3UKU,3FRITU,3HERU,3OTU,3PE,3SHTA,3TSI,3CHRIVI,3SHA,3YERU,3YERI,3YATI,3SPIDERY HA
2C53 3YU,3SMALL YUS,5WITH TAIL,3YO,3IOTATED SMALL YUS,3BIG+1,3IOTATED+2,3FITA,3IZHITSA,3SHTAPIC
2C5D 3TROKUTASTI A,3LATINATE MYSLITE,3CAUDATE CHRIVI,0LATIN CAPITAL LETTER L WITH DOUBLE BAR
2C61 1SMALL+5,1CAPITAL LETTER L WITH MIDDLE TILDE,3P WITH STROKE,3R WITH TAIL
2C65 1SMALL LETTER A WITH STROKE,3T WITH DIAGONAL+1,1CAPITAL LETTER H WITH DESCENDER,1SMALL+4
2C69 1CAPITAL LETTER K+2,1SMALL+4,1CAPITAL LETTER Z+2,1SMALL+4,1CAPITAL LETTER ALPHA,3M WITH HOOK
2C6F 3TURNED A,4ALPHA,1SMALL LETTER V WITH RIGHT HOOK,1CAPITAL LETTER W WITH+1,1SMALL+4,3V WITH CURL
2C75 1CAPITAL LETTER HALF H,1SMALL+3,3TAILLESS PHI,3E WITH NOTCH,3TURNED R WITH TAIL
2C7A 3O WITH LOW RING INSIDE,1LETTER SMALL CAPITAL TURNED E,1SUBSCRIPT SMALL LETTER J
2C7D 0MODIFIER LETTER CAPITAL V,0LATIN CAPITAL LETTER S WITH SWASH TAIL,3Z+3
2C80 0COPTIC CAPITAL LETTER ALFA,1SMALL+2,1CAPITAL LETTER VIDA,1SMALL+2,1CAPITAL LETTER GAMMA
2C85 1SMALL+2,1CAPITAL LETTER DALDA,1SMALL+2,1CAPITAL LETTER EIE,1SMALL+2,1CAPITAL LETTER SOU
2C8B 1SMALL+2,1CAPITAL LETTER ZATA,1SMALL+2,1CAPITAL LETTER HATE,1SMALL+2,1CAPITAL LETTER THETHE
2C91 1SMALL+2,1CAPITAL LETTER IAUDA,1SMALL+2,1CAPITAL LETTER KAPA,1SMALL+2,1CAPITAL LETTER LAULA
2C97 1SMALL+2,1CAPITAL LETTER MI,1SMALL+2,1CAPITAL LETTER NI,1SMALL+2,1CAPITAL LETTER KSI,1SMALL+2
2C9E 1CAPITAL LETTER O,1SMALL+2,1CAPITAL LETTER PI,1SMALL+2,1CAPITAL LETTER RO,1SMALL+2
2CA4 1CAPITAL LETTER SIMA,1SMALL+2,1CAPITAL LETTER TAU,1SMALL+2,1CAPITAL LETTER UA,1SMALL+2
2CAA 1CAPITAL LETTER FI,1SMALL+2,1CAPITAL LETTER KHI,1SMALL+2,1CAPITAL LETTER PSI,1SMALL+2
2CB0 1CAPITAL LETTER OOU,1SMALL+2,1CAPITAL LETTER DIALECT-P ALEF,1SMALL+3
2CB4 1CAPITAL LETTER OLD COPTIC AIN,1SMALL+4,1CAPITAL LETTER CRYPTOGRAMMIC EIE,1SMALL+3
2CB8 1CAPITAL LETTER DIALECT-P KAPA,1SMALL+3,1CAPITAL LETTER DIALECT-P NI,1SMALL+3
2CBC 1CAPITAL LETTER CRYPTOGRAMMIC+1,1SMALL+3,1CAPITAL LETTER OLD COPTIC OOU,1SMALL+4
2CC0 1CAPITAL LETTER SAMPI,1SMALL+2,1CAPITAL LETTER CROSSED SHEI,1SMALL+3
2CC4 1CAPITAL LETTER OLD COPTIC+1,1SMALL+4,1CAPITAL LETTER OLD COPTIC ESH,1SMALL+4
2CC8 1CAPITAL LETTER AKHMIMIC KHEI,1SMALL+3,1CAPITAL LETTER DIALECT-P HORI,1SMALL+3
2CCC 1CAPITAL LETTER OLD COPTIC+1,1SMALL+4,1CAPITAL LETTER OLD COPTIC HA,1SMALL+4
2CD0 1CAPITAL LETTER L-SHAPED+1,1SMALL+3,1CAPITAL LETTER OLD COPTIC HEI,1SMALL+4
2CD4 1CAPITAL LETTER OLD COPTIC HAT,1SMALL+4,1CAPITAL LETTER OLD COPTIC GANGIA,1SMALL+4
2CD8 1CAPITAL LETTER OLD COPTIC DJA,1SMALL+4,1CAPITAL LETTER OLD COPTIC SHIMA,1SMALL+4
2CDC 1CAPITAL LETTER OLD NUBIAN+1,1SMALL+4,1CAPITAL LETTER OLD NUBIAN NGI,1SMALL+4
2CE0 1CAPITAL LETTER OLD NUBIAN NYI,1SMALL+4,1CAPITAL LETTER OLD NUBIAN WAU,1SMALL+4,1SYMBOL KAI
2CE5 2MI RO,2PI+1,2STAUROS,2TAU RO,2KHI+1,2SHIMA SIMA,1CAPITAL LETTER CRYPTOGRAMMIC SHEI,1SMALL+3
2CED 1CAPITAL LETTER CRYPTOGRAMMIC GANGIA,1SMALL+3,1COMBINING NI ABOVE,2SPIRITUS ASPER,3LENIS
2CF2 1CAPITAL LETTER BOHAIRIC KHEI,1SMALL+3
2CF9 1OLD NUBIAN FULL STOP,3DIRECT QUESTION MARK,3INDIRECT+2,3VERSE DIVIDER,1FRACTION ONE HALF
2CFE 1FULL STOP,1MORPHOLOGICAL DIVIDER,0GEORGIAN SMALL LETTER AN,3BAN,3GAN,3DON,3EN,3VIN,3ZEN,3TAN
2D08 3IN,3KAN,3LAS,3MAN,3NAR,3ON,3PAR,3ZHAR,3RAE,3SAN,3TAR,3UN,3PHAR,3KHAR,3GHAN,3QAR,3SHIN,3CHIN
2D1A 3CAN,3JIL,3CIL,3CHAR,3XAN,3JHAN,3HAE,3HE,3HIE,3WE,3HAR,3HOE
2D27 3YN
2D2D 3AEN
2D30 0TIFINAGH LETTER YA,2YAB,2YABH,2YAG,2YAGHH,2BERBER ACADEMY YAJ,2+1,2YAD,2YADH,2YADD,2YADDH,2YEY
2D3C 2YAF,2YAK,2TUAREG+1,2YAKHH,2YAH,2BERBER ACADEMY+1,2TUAREG+1,2YAHH,2YAA,2YAKH,2TUAREG+1,2YAQ
2D48 2TUAREG+1,2YI,2YAZH,2AHAGGAR+1,2TUAREG+1,2YAL,2YAM,2YAN,2TUAREG YAGN,3YANG,2YAP,2YU,2YAR,2YARR
2D56 2YAGH,2TUAREG+1,2AYER+1,2YAS,2YASS,2YASH,2YAT,2YATH,2YACH,2YATT,2YAV,2YAW,2YAY,2YAZ
2D64 2TAWELLEMET+1,2YAZZ,2YE,2YO
2D6F 1MODIFIER LETTER LABIALIZATION MARK,1SEPARATOR+1
2D7F 1CONSONANT JOINER,0ETHIOPIC SYLLABLE LOA,2MOA,2ROA,2SOA,2SHOA,2BOA,2TOA,2COA,2NOA,2NYOA
2D8A 2GLOTTAL OA,2ZOA,2DOA,2DDOA,2JOA,2THOA,2CHOA,2PHOA,2POA,2GGWA,2GGWI,2GGWEE,2GGWE
2DA0 2SSA,2SSU,2SSI,2SSAA,2SSEE,2SSE,2SSO
2DA8 2CCA,2CCU,2CCI,2CCAA,2CCEE,2CCE,2CCO
2DB0 2ZZA,2ZZU,2ZZI,2ZZAA,2ZZEE,2ZZE,2ZZO
2DB8 2CCHA,2CCHU,2CCHI,2CCHAA,2CCHEE,2CCHE,2CCHO
2DC0 2QYA,2QYU,2QYI,2QYAA,2QYEE,2QYE,2QYO
2DC8 2KYA,2KYU,2KYI,2KYAA,2KYEE,2KYE,2KYO
2DD0 2XYA,2XYU,2XYI,2XYAA,2XYEE,2XYE,2XYO
2DD8 2GYA,2GYU,2GYI,2GYAA,2GYEE,2GYE,2GYO
2DE0 0COMBINING CYRILLIC LETTER BE,3VE,3GHE,3DE,3ZHE,3ZE,3KA,3EL,3EM,3EN,3O,3PE,3ER,3ES,3TE,3HA,3TSE
2DF1 3CHE,3SHA,3SHCHA,3FITA,3ES-TE,3A,3IE,3DJERV,3MONOGRAPH UK,3YAT,3YU,3IOTIFIED A,3LITTLE YUS
2DFE 3BIG+1,3IOTIFIED+2,0RIGHT ANGLE SUBSTITUTION MARKER,2DOTTED+2,0LEFT SUBSTITUTION BRACKET
2E03 0RIGHT+2,0LEFT DOTTED+2,0RIGHT+3,0RAISED INTERPOLATION MARKER,1DOTTED+2,0DOTTED TRANSPOSITION+1
2E09 0LEFT TRANSPOSITION BRACKET,0RIGHT+2,0RAISED SQUARE,0LEFT RAISED OMISSION BRACKET,0RIGHT+3
2E0E 0EDITORIAL CORONIS,0PARAGRAPHOS,0FORKED+1,0REVERSED+2,0HYPODIASTOLE,0DOTTED OBELOS
2E14 0DOWNWARDS ANCORA,0UPWARDS+1,0DOTTED RIGHT-POINTING ANGLE,0DOUBLE OBLIQUE HYPHEN
2E18 0INVERTED INTERROBANG,0PALM BRANCH,0HYPHEN WITH DIAERESIS,0TILDE WITH RING ABOVE
2E1C 0LEFT LOW PARAPHRASE BRACKET,0RIGHT+3,0TILDE WITH DOT ABOVE,3BELOW
2E20 0LEFT VERTICAL BAR WITH QUILL,0RIGHT+4,0TOP LEFT HALF BRACKET,1RIGHT+2,0BOTTOM LEFT+2,1RIGHT+2
2E26 0LEFT SIDEWAYS U+1,0RIGHT+3,0LEFT DOUBLE PARENTHESIS,0RIGHT+2
2E2A 0TWO DOTS OVER ONE DOT PUNCTUATION,0ONE DOT OVER TWO DOTS+1,0SQUARED FOUR DOT+1,0FIVE DOT MARK
2E2E 0REVERSED QUESTION+1,0VERTICAL TILDE,0RING POINT,0WORD SEPARATOR MIDDLE DOT,0TURNED COMMA
2E33 0RAISED DOT,1COMMA,0TURNED SEMICOLON,0DAGGER WITH LEFT GUARD,2RIGHT+1,0TURNED DAGGER
2E39 0TOP HALF SECTION SIGN,0TWO-EM DASH,0THREE-EM+1,0STENOGRAPHIC FULL STOP,0VERTICAL SIX DOTS
2E3E 0WIGGLY VERTICAL LINE,0CAPITULUM,0DOUBLE HYPHEN,0REVERSED COMMA
2E42 0DOUBLE LOW-REVERSED-9 QUOTATION MARK,0DASH WITH LEFT UPTURN,0DOUBLE SUSPENSION MARK
2E45 0INVERTED LOW KAVYKA,3WITH KAVYKA ABOVE,0LOW KAVYKA,2WITH DOT,0DOUBLE STACKED COMMA
2E4A 0DOTTED SOLIDUS,0TRIPLE DAGGER,0MEDIEVAL COMMA,0PARAGRAPHUS MARK,0PUNCTUS ELEVATUS+1
2E4F 0CORNISH VERSE DIVIDER,0CROSS PATTY WITH RIGHT CROSSBAR,3LEFT+1,0TIRONIAN SIGN CAPITAL ET
2E53 0MEDIEVAL EXCLAMATION MARK,1QUESTION+1,0LEFT SQUARE BRACKET WITH STROKE,0RIGHT+4
2E57 0LEFT SQUARE BRACKET WITH DOUBLE+1,0RIGHT+5,0TOP HALF LEFT PARENTHESIS,2RIGHT+1
2E5B 0BOTTOM HALF LEFT+1,2RIGHT+1,0OBLIQUE HYPHEN
2E80 0CJK RADICAL REPEAT,2CLIFF,2SECOND ONE,3TWO,3THREE,2PERSON,2BOX,2TABLE,2KNIFE ONE,3TWO
2E8A 2DIVINATION,2SEAL,2SMALL ONE,3TWO,2LAME ONE,3TWO,3THREE,3FOUR,2SNAKE,2THREAD,2SNOUT ONE,3TWO
2E96 2HEART ONE,3TWO,2HAND,2RAP
2E9B 2CHOKE,2SUN,2MOON,2DEATH,2MOTHER,2CIVILIAN,2WATER ONE,3TWO,2FIRE,2PAW ONE,3TWO
2EA6 2SIMPLIFIED HALF TREE TRUNK,2COW,2DOG,2JADE,2BOLT OF CLOTH,2EYE,2SPIRIT ONE,3TWO,2BAMBOO,2SILK
2EB0 2C-SIMPLIFIED+1,2NET ONE,3TWO,3THREE,3FOUR,2MESH,2SHEEP,2RAM,2EWE,2OLD,2BRUSH ONE,3TWO,2MEAT
2EBD 2MORTAR,2GRASS ONE,3TWO,3THREE,2TIGER,2CLOTHES,2WEST ONE,3TWO,2C-SIMPLIFIED SEE
2EC6 2SIMPLIFIED HORN,2+1,2C-SIMPLIFIED SPEECH,3SHELL,2FOOT,2C-SIMPLIFIED CART,2SIMPLIFIED WALK
2ECD 2WALK ONE,3TWO,2CITY,2C-SIMPLIFIED GOLD,2LONG ONE,3TWO,2C-SIMPLIFIED LONG,3GATE,2MOUND ONE,3TWO
2ED7 2RAIN,2BLUE,2C-SIMPLIFIED TANNED LEATHER,3LEAF,3WIND,3FLY,2EAT ONE,3TWO,3THREE
2EE0 2C-SIMPLIFIED EAT,2HEAD,2C-SIMPLIFIED HORSE,2BONE,2GHOST,2C-SIMPLIFIED FISH,3BIRD,3SALT
2EE8 2SIMPLIFIED WHEAT,3YELLOW,2C-SIMPLIFIED FROG,2J-SIMPLIFIED EVEN,2C-SIMPLIFIED+1
2EED 2J-SIMPLIFIED TOOTH,2C-SIMPLIFIED+1,2J-SIMPLIFIED DRAGON,2C-SIMPLIFIED+1,2TURTLE
2EF2 2J-SIMPLIFIED+1,2C-SIMPLIFIED+1
2F00 0KANGXI RADICAL ONE,2LINE,2DOT,2SLASH,2SECOND,2HOOK,2TWO,2LID,2MAN,2LEGS,2ENTER,2EIGHT
2F0C 2DOWN BOX,2COVER,2ICE,2TABLE,2OPEN BOX,2KNIFE,2POWER,2WRAP,2SPOON,2RIGHT OPEN BOX
2F16 2HIDING ENCLOSURE,2TEN,2DIVINATION,2SEAL,2CLIFF,2PRIVATE,2AGAIN,2MOUTH,2ENCLOSURE,2EARTH
2F20 2SCHOLAR,2GO,3SLOWLY,2EVENING,2BIG,2WOMAN,2CHILD,2ROOF,2INCH,2SMALL,2LAME,2CORPSE,2SPROUT
2F2D 2MOUNTAIN,2RIVER,2WORK,2ONESELF,2TURBAN,2DRY,2SHORT THREAD,2DOTTED CLIFF,2LONG STRIDE
2F36 2TWO HANDS,2SHOOT,2BOW,2SNOUT,2BRISTLE,2STEP,2HEART,2HALBERD,2DOOR,2HAND,2BRANCH,2RAP,2SCRIPT
2F43 2DIPPER,2AXE,2SQUARE,2NOT,2SUN,2SAY,2MOON,2TREE,2LACK,2STOP,2DEATH,2WEAPON,2DO NOT,2COMPARE
2F51 2FUR,2CLAN,2STEAM,2WATER,2FIRE,2CLAW,2FATHER,2DOUBLE X,2HALF TREE TRUNK,2SLICE,2FANG,2COW,2DOG
2F5E 2PROFOUND,2JADE,2MELON,2TILE,2SWEET,2LIFE,2USE,2FIELD,2BOLT OF CLOTH,2SICKNESS,2DOTTED TENT
2F69 2WHITE,2SKIN,2DISH,2EYE,2SPEAR,2ARROW,2STONE,2SPIRIT,2TRACK,2GRAIN,2CAVE,2STAND,2BAMBOO,2RICE
2F77 2SILK,2JAR,2NET,2SHEEP,2FEATHER,2OLD,2AND,2PLOW,2EAR,2BRUSH,2MEAT,2MINISTER,2SELF,2ARRIVE
2F85 2MORTAR,2TONGUE,2OPPOSE,2BOAT,2STOPPING,2COLOR,2GRASS,2TIGER,2INSECT,2BLOOD,2WALK ENCLOSURE
2F90 2CLOTHES,2WEST,2SEE,2HORN,2SPEECH,2VALLEY,2BEAN,2PIG,2BADGER,2SHELL,2RED,2RUN,2FOOT,2BODY,2CART
2F9F 2BITTER,2MORNING,2WALK,2CITY,2WINE,2DISTINGUISH,2VILLAGE,2GOLD,2LONG,2GATE,2MOUND,2SLAVE
2FAB 2SHORT TAILED BIRD,2RAIN,2BLUE,2WRONG,2FACE,2LEATHER,2TANNED+1,2LEEK,2SOUND,2LEAF,2WIND,2FLY
2FB7 2EAT,2HEAD,2FRAGRANT,2HORSE,2BONE,2TALL,2HAIR,2FIGHT,2SACRIFICIAL WINE,2CAULDRON,2GHOST,2FISH
2FC3 2BIRD,2SALT,2DEER,2WHEAT,2HEMP,2YELLOW,2MILLET,2BLACK,2EMBROIDERY,2FROG,2TRIPOD,2DRUM,2RAT
2FD0 2NOSE,2EVEN,2TOOTH,2DRAGON,2TURTLE,2FLUTE
2FF0 0IDEOGRAPHIC DESCRIPTION CHARACTER LEFT TO RIGHT,3ABOVE TO BELOW,3LEFT TO MIDDLE AND RIGHT
2FF3 3ABOVE TO MIDDLE AND BELOW,3FULL SURROUND,3SURROUND FROM ABOVE,5BELOW,5LEFT,5UPPER+1,6RIGHT
2FFA 5LOWER LEFT,3OVERLAID"

end HeaderRules.Text
