/-!
# Basic alphabets

Names of the characters below U+2000: most alphabets that are in use.
-/

namespace HeaderRules.Text

def basicNames : String := "20 0SPACE,0EXCLAMATION MARK,0QUOTATION+1,0NUMBER SIGN,0DOLLAR+1,0PERCENT+1,0AMPERSAND,0APOSTROPHE
28 0LEFT PARENTHESIS,0RIGHT+1,0ASTERISK,0PLUS SIGN,0COMMA,0HYPHEN-MINUS,0FULL STOP,0SOLIDUS
30 0DIGIT ZERO,1ONE,1TWO,1THREE,1FOUR,1FIVE,1SIX,1SEVEN,1EIGHT,1NINE,0COLON,0SEMICOLON
3C 0LESS-THAN SIGN,0EQUALS+1,0GREATER-THAN+1,0QUESTION MARK,0COMMERCIAL AT,0LATIN CAPITAL LETTER A
42 3B,3C,3D,3E,3F,3G,3H,3I,3J,3K,3L,3M,3N,3O,3P,3Q,3R,3S,3T,3U,3V,3W,3X,3Y,3Z,0LEFT SQUARE BRACKET
5C 0REVERSE SOLIDUS,0RIGHT SQUARE BRACKET,0CIRCUMFLEX ACCENT,0LOW LINE,0GRAVE ACCENT
61 0LATIN SMALL LETTER A,3B,3C,3D,3E,3F,3G,3H,3I,3J,3K,3L,3M,3N,3O,3P,3Q,3R,3S,3T,3U,3V,3W,3X,3Y,3Z
7B 0LEFT CURLY BRACKET,0VERTICAL LINE,0RIGHT CURLY BRACKET,0TILDE
A0 0NO-BREAK SPACE,0INVERTED EXCLAMATION MARK,0CENT SIGN,0POUND+1,0CURRENCY+1,0YEN+1,0BROKEN BAR
A7 0SECTION SIGN,0DIAERESIS,0COPYRIGHT SIGN,0FEMININE ORDINAL INDICATOR
AB 0LEFT-POINTING DOUBLE ANGLE QUOTATION MARK,0NOT SIGN,0SOFT HYPHEN,0REGISTERED SIGN,0MACRON
B0 0DEGREE SIGN,0PLUS-MINUS+1,0SUPERSCRIPT TWO,1THREE,0ACUTE ACCENT,0MICRO SIGN,0PILCROW+1
B7 0MIDDLE DOT,0CEDILLA,0SUPERSCRIPT ONE,0MASCULINE ORDINAL INDICATOR
BB 0RIGHT-POINTING DOUBLE ANGLE QUOTATION MARK,0VULGAR FRACTION ONE QUARTER,3HALF,2THREE QUARTERS
BF 0INVERTED QUESTION MARK,0LATIN CAPITAL LETTER A WITH GRAVE,5ACUTE,5CIRCUMFLEX,5TILDE,5DIAERESIS
C5 5RING ABOVE,3AE,3C WITH CEDILLA,3E WITH GRAVE,5ACUTE,5CIRCUMFLEX,5DIAERESIS,3I WITH GRAVE,5ACUTE
CE 5CIRCUMFLEX,5DIAERESIS,3ETH,3N WITH TILDE,3O WITH GRAVE,5ACUTE,5CIRCUMFLEX,5TILDE,5DIAERESIS
D7 0MULTIPLICATION SIGN,0LATIN CAPITAL LETTER O WITH STROKE,3U WITH GRAVE,5ACUTE,5CIRCUMFLEX
DC 5DIAERESIS,3Y WITH ACUTE,3THORN,1SMALL LETTER SHARP S,3A WITH GRAVE,5ACUTE,5CIRCUMFLEX,5TILDE
E4 5DIAERESIS,5RING ABOVE,3AE,3C WITH CEDILLA,3E WITH GRAVE,5ACUTE,5CIRCUMFLEX,5DIAERESIS
EC 3I WITH GRAVE,5ACUTE,5CIRCUMFLEX,5DIAERESIS,3ETH,3N WITH TILDE,3O WITH GRAVE,5ACUTE,5CIRCUMFLEX
F5 5TILDE,5DIAERESIS,0DIVISION SIGN,0LATIN SMALL LETTER O WITH STROKE,3U WITH GRAVE,5ACUTE
FB 5CIRCUMFLEX,5DIAERESIS,3Y WITH ACUTE,3THORN,3Y WITH DIAERESIS,1CAPITAL LETTER A WITH MACRON
101 1SMALL+4,1CAPITAL LETTER A WITH BREVE,1SMALL+4,1CAPITAL LETTER A WITH OGONEK,1SMALL+4
106 1CAPITAL LETTER C WITH ACUTE,1SMALL+4,1CAPITAL LETTER C WITH CIRCUMFLEX,1SMALL+4
10A 1CAPITAL LETTER C WITH DOT ABOVE,1SMALL+5,1CAPITAL LETTER C WITH CARON,1SMALL+4
10E 1CAPITAL LETTER D+2,1SMALL+4,1CAPITAL LETTER D WITH STROKE,1SMALL+4
112 1CAPITAL LETTER E WITH MACRON,1SMALL+4,1CAPITAL LETTER E WITH BREVE,1SMALL+4
116 1CAPITAL LETTER E WITH DOT ABOVE,1SMALL+5,1CAPITAL LETTER E WITH OGONEK,1SMALL+4
11A 1CAPITAL LETTER E WITH CARON,1SMALL+4,1CAPITAL LETTER G WITH CIRCUMFLEX,1SMALL+4
11E 1CAPITAL LETTER G WITH BREVE,1SMALL+4,1CAPITAL LETTER G WITH DOT ABOVE,1SMALL+5
122 1CAPITAL LETTER G WITH CEDILLA,1SMALL+4,1CAPITAL LETTER H WITH CIRCUMFLEX,1SMALL+4
126 1CAPITAL LETTER H WITH STROKE,1SMALL+4,1CAPITAL LETTER I WITH TILDE,1SMALL+4
12A 1CAPITAL LETTER I WITH MACRON,1SMALL+4,1CAPITAL LETTER I WITH BREVE,1SMALL+4
12E 1CAPITAL LETTER I WITH OGONEK,1SMALL+4,1CAPITAL LETTER I WITH DOT ABOVE,1SMALL LETTER DOTLESS I
132 1CAPITAL LIGATURE IJ,1SMALL+2,1CAPITAL LETTER J WITH CIRCUMFLEX,1SMALL+4
136 1CAPITAL LETTER K WITH CEDILLA,1SMALL+4,3KRA,1CAPITAL LETTER L WITH ACUTE,1SMALL+4
13B 1CAPITAL LETTER L WITH CEDILLA,1SMALL+4,1CAPITAL LETTER L WITH CARON,1SMALL+4
13F 1CAPITAL LETTER L WITH MIDDLE DOT,1SMALL+5,1CAPITAL LETTER L WITH STROKE,1SMALL+4
143 1CAPITAL LETTER N WITH ACUTE,1SMALL+4,1CAPITAL LETTER N WITH CEDILLA,1SMALL+4
147 1CAPITAL LETTER N WITH CARON,1SMALL+4,4PRECEDED BY APOSTROPHE,1CAPITAL LETTER ENG,1SMALL+2
14C 1CAPITAL LETTER O WITH MACRON,1SMALL+4,1CAPITAL LETTER O WITH BREVE,1SMALL+4
150 1CAPITAL LETTER O WITH DOUBLE ACUTE,1SMALL+5,1CAPITAL LIGATURE OE,1SMALL+2
154 1CAPITAL LETTER R WITH ACUTE,1SMALL+4,1CAPITAL LETTER R WITH CEDILLA,1SMALL+4
158 1CAPITAL LETTER R WITH CARON,1SMALL+4,1CAPITAL LETTER S WITH ACUTE,1SMALL+4
15C 1CAPITAL LETTER S WITH CIRCUMFLEX,1SMALL+4,1CAPITAL LETTER S WITH CEDILLA,1SMALL+4
160 1CAPITAL LETTER S WITH CARON,1SMALL+4,1CAPITAL LETTER T WITH CEDILLA,1SMALL+4
164 1CAPITAL LETTER T WITH CARON,1SMALL+4,1CAPITAL LETTER T WITH STROKE,1SMALL+4
168 1CAPITAL LETTER U WITH TILDE,1SMALL+4,1CAPITAL LETTER U WITH MACRON,1SMALL+4
16C 1CAPITAL LETTER U WITH BREVE,1SMALL+4,1CAPITAL LETTER U WITH RING ABOVE,1SMALL+5
170 1CAPITAL LETTER U WITH DOUBLE ACUTE,1SMALL+5,1CAPITAL LETTER U WITH OGONEK,1SMALL+4
174 1CAPITAL LETTER W WITH CIRCUMFLEX,1SMALL+4,1CAPITAL LETTER Y+2,1SMALL+4
178 1CAPITAL LETTER Y WITH DIAERESIS,3Z WITH ACUTE,1SMALL+4,1CAPITAL LETTER Z WITH DOT ABOVE
17C 1SMALL+5,1CAPITAL LETTER Z WITH CARON,1SMALL+4,3LONG S,3B WITH STROKE
181 1CAPITAL LETTER B WITH HOOK,5TOPBAR,1SMALL+4,1CAPITAL LETTER TONE SIX,1SMALL+3
186 1CAPITAL LETTER OPEN O,3C WITH HOOK,1SMALL+4,1CAPITAL LETTER AFRICAN D,3D WITH HOOK,5TOPBAR
18C 1SMALL+4,3TURNED DELTA,1CAPITAL LETTER REVERSED E,3SCHWA,3OPEN E,3F WITH HOOK,1SMALL+4
193 1CAPITAL LETTER G+2,3GAMMA,1SMALL LETTER HV,1CAPITAL LETTER IOTA,3I WITH STROKE,3K WITH HOOK
199 1SMALL+4,3L WITH BAR,3LAMBDA WITH STROKE,1CAPITAL LETTER TURNED M,3N WITH LEFT HOOK
19E 1SMALL LETTER N WITH LONG RIGHT LEG,1CAPITAL LETTER O WITH MIDDLE TILDE,5HORN,1SMALL+4
1A2 1CAPITAL LETTER OI,1SMALL+2,1CAPITAL LETTER P WITH HOOK,1SMALL+4,1LETTER YR
1A7 1CAPITAL LETTER TONE TWO,1SMALL+3,1CAPITAL LETTER ESH,1LETTER REVERSED ESH LOOP
1AB 1SMALL LETTER T WITH PALATAL HOOK,1CAPITAL LETTER T WITH+1,1SMALL+4
1AE 1CAPITAL LETTER T WITH RETROFLEX+1,3U WITH HORN,1SMALL+4,1CAPITAL LETTER UPSILON,3V WITH HOOK
1B3 3Y+2,1SMALL+4,1CAPITAL LETTER Z WITH STROKE,1SMALL+4,1CAPITAL LETTER EZH,4REVERSED,1SMALL+3
1BA 4WITH TAIL,1LETTER TWO WITH STROKE,1CAPITAL LETTER TONE FIVE,1SMALL+3
1BE 1LETTER INVERTED GLOTTAL STOP WITH STROKE,2WYNN,2DENTAL CLICK,2LATERAL+1,2ALVEOLAR+1
1C3 2RETROFLEX+1,1CAPITAL LETTER DZ WITH CARON,3D WITH SMALL LETTER Z+2,1SMALL LETTER DZ+2
1C7 1CAPITAL LETTER LJ,3L WITH SMALL LETTER J,1SMALL LETTER LJ,1CAPITAL LETTER NJ
1CB 3N WITH SMALL LETTER J,1SMALL LETTER NJ,1CAPITAL LETTER A WITH CARON,1SMALL+4
1CF 1CAPITAL LETTER I+2,1SMALL+4,1CAPITAL LETTER O+2,1SMALL+4,1CAPITAL LETTER U+2,1SMALL+4
1D5 1CAPITAL LETTER U WITH DIAERESIS AND MACRON,1SMALL+6,1CAPITAL LETTER U WITH DIAERESIS AND ACUTE
1D8 1SMALL+6,1CAPITAL LETTER U WITH DIAERESIS AND CARON,1SMALL+6
1DB 1CAPITAL LETTER U WITH DIAERESIS AND GRAVE,1SMALL+6,3TURNED E
1DE 1CAPITAL LETTER A WITH DIAERESIS AND MACRON,1SMALL+6,1CAPITAL LETTER A WITH DOT ABOVE+2,1SMALL+7
1E2 1CAPITAL LETTER AE WITH+1,1SMALL+4,1CAPITAL LETTER G WITH STROKE,1SMALL+4
1E6 1CAPITAL LETTER G WITH CARON,1SMALL+4,1CAPITAL LETTER K+2,1SMALL+4,1CAPITAL LETTER O WITH OGONEK
1EB 1SMALL+4,1CAPITAL LETTER O WITH OGONEK AND MACRON,1SMALL+6,1CAPITAL LETTER EZH WITH CARON
1EF 1SMALL+4,3J+2,1CAPITAL LETTER DZ,3D WITH SMALL LETTER Z,1SMALL LETTER DZ
1F4 1CAPITAL LETTER G WITH ACUTE,1SMALL+4,1CAPITAL LETTER HWAIR,3WYNN,3N WITH GRAVE,1SMALL+4
1FA 1CAPITAL LETTER A WITH RING ABOVE AND ACUTE,1SMALL+7,1CAPITAL LETTER AE WITH+1,1SMALL+4
1FE 1CAPITAL LETTER O WITH STROKE AND+1,1SMALL+6,1CAPITAL LETTER A WITH DOUBLE GRAVE,1SMALL+5
202 1CAPITAL LETTER A WITH INVERTED BREVE,1SMALL+5,1CAPITAL LETTER E WITH DOUBLE GRAVE,1SMALL+5
206 1CAPITAL LETTER E WITH INVERTED BREVE,1SMALL+5,1CAPITAL LETTER I WITH DOUBLE GRAVE,1SMALL+5
20A 1CAPITAL LETTER I WITH INVERTED BREVE,1SMALL+5,1CAPITAL LETTER O WITH DOUBLE GRAVE,1SMALL+5
20E 1CAPITAL LETTER O WITH INVERTED BREVE,1SMALL+5,1CAPITAL LETTER R WITH DOUBLE GRAVE,1SMALL+5
212 1CAPITAL LETTER R WITH INVERTED BREVE,1SMALL+5,1CAPITAL LETTER U WITH DOUBLE GRAVE,1SMALL+5
216 1CAPITAL LETTER U WITH INVERTED BREVE,1SMALL+5,1CAPITAL LETTER S WITH COMMA BELOW,1SMALL+5
21A 1CAPITAL LETTER T+3,1SMALL+5,1CAPITAL LETTER YOGH,1SMALL+2,1CAPITAL LETTER H WITH CARON,1SMALL+4
220 1CAPITAL LETTER N WITH LONG RIGHT LEG,1SMALL LETTER D WITH CURL,1CAPITAL LETTER OU,1SMALL+2
224 1CAPITAL LETTER Z WITH HOOK,1SMALL+4,1CAPITAL LETTER A WITH DOT ABOVE,1SMALL+5
228 1CAPITAL LETTER E WITH CEDILLA,1SMALL+4,1CAPITAL LETTER O WITH DIAERESIS AND MACRON,1SMALL+6
22C 1CAPITAL LETTER O WITH TILDE+2,1SMALL+6,1CAPITAL LETTER O WITH DOT ABOVE,1SMALL+5
230 1CAPITAL LETTER O WITH DOT ABOVE AND MACRON,1SMALL+7,1CAPITAL LETTER Y WITH+1,1SMALL+4
234 3L WITH CURL,3N+2,3T+2,3DOTLESS J,3DB DIGRAPH,3QP+1,1CAPITAL LETTER A WITH STROKE,3C+2,1SMALL+4
23D 1CAPITAL LETTER L WITH BAR,3T WITH DIAGONAL STROKE,1SMALL LETTER S WITH SWASH TAIL,3Z+3
241 1CAPITAL LETTER GLOTTAL STOP,1SMALL+3,1CAPITAL LETTER B WITH STROKE,3U BAR,3TURNED V
246 3E WITH STROKE,1SMALL+4,1CAPITAL LETTER J+2,1SMALL+4,1CAPITAL LETTER SMALL Q WITH HOOK TAIL
24B 1SMALL LETTER+4,1CAPITAL LETTER R WITH STROKE,1SMALL+4,1CAPITAL LETTER Y+2,1SMALL+4,3TURNED A
251 3ALPHA,3TURNED+1,3B WITH HOOK,3OPEN O,3C WITH CURL,3D WITH TAIL,5HOOK,3REVERSED E,3SCHWA
25A 4WITH HOOK,3OPEN E,3REVERSED+2,6WITH HOOK,3CLOSED REVERSED OPEN E,3DOTLESS J WITH STROKE
260 3G WITH HOOK,3SCRIPT G,1LETTER SMALL CAPITAL G,1SMALL LETTER GAMMA,3RAMS HORN,3TURNED H
266 3H WITH HOOK,3HENG+2,3I WITH STROKE,3IOTA,1LETTER SMALL CAPITAL I
26B 1SMALL LETTER L WITH MIDDLE TILDE,5BELT,5RETROFLEX HOOK,3LEZH,3TURNED M,5WITH LONG LEG
271 3M WITH HOOK,3N WITH LEFT+1,5RETROFLEX+1,1LETTER SMALL CAPITAL N,1SMALL LETTER BARRED O
276 1LETTER SMALL CAPITAL OE,1SMALL LETTER CLOSED OMEGA,3PHI,3TURNED R,5WITH LONG LEG,6HOOK
27C 3R WITH LONG LEG,5TAIL,5FISHHOOK,3REVERSED+3,1LETTER SMALL CAPITAL R,4INVERTED R
282 1SMALL LETTER S WITH HOOK,3ESH,3DOTLESS J WITH STROKE AND HOOK,3SQUAT REVERSED ESH
286 3ESH WITH CURL,3TURNED T,3T WITH RETROFLEX HOOK,3U BAR,3UPSILON,3V WITH HOOK,3TURNED V,4W,4Y
28F 1LETTER SMALL CAPITAL Y,1SMALL LETTER Z WITH RETROFLEX HOOK,5CURL,3EZH,4WITH CURL
294 1LETTER GLOTTAL STOP,2PHARYNGEAL VOICED FRICATIVE,2INVERTED GLOTTAL STOP,2STRETCHED C
298 2BILABIAL CLICK,2SMALL CAPITAL B,1SMALL LETTER CLOSED OPEN E,1LETTER SMALL CAPITAL G WITH HOOK
29C 4H,1SMALL LETTER J WITH CROSSED-TAIL,3TURNED K,1LETTER SMALL CAPITAL L,1SMALL LETTER Q WITH HOOK
2A1 1LETTER GLOTTAL STOP WITH STROKE,2REVERSED+4,1SMALL LETTER DZ DIGRAPH,3DEZH+1
2A5 3DZ DIGRAPH WITH CURL,3TS DIGRAPH,3TESH+1,3TC DIGRAPH WITH CURL,3FENG DIGRAPH,3LS+1,3LZ+1
2AC 1LETTER BILABIAL PERCUSSIVE,2BIDENTAL+1,1SMALL LETTER TURNED H WITH FISHHOOK,7AND TAIL
2B0 0MODIFIER LETTER SMALL H,4WITH HOOK,3J,3R,3TURNED R,5WITH HOOK,3CAPITAL INVERTED R,3W,3Y,2PRIME
2BA 2DOUBLE+1,2TURNED COMMA,2APOSTROPHE,2REVERSED COMMA,2RIGHT HALF RING,2LEFT+2,2GLOTTAL STOP
2C1 2REVERSED+2,2LEFT ARROWHEAD,2RIGHT+1,2UP+1,2DOWN+1,2CIRCUMFLEX ACCENT,0CARON
2C8 0MODIFIER LETTER VERTICAL LINE,2MACRON,2ACUTE ACCENT,2GRAVE+1,2LOW VERTICAL LINE,3MACRON
2CE 3GRAVE ACCENT,3ACUTE+1,2TRIANGULAR COLON,2HALF+2,2CENTRED RIGHT HALF RING,3LEFT+2,2UP TACK
2D5 2DOWN+1,2PLUS SIGN,2MINUS+1,0BREVE,0DOT ABOVE,0RING+1,0OGONEK,0SMALL TILDE,0DOUBLE ACUTE ACCENT
2DE 0MODIFIER LETTER RHOTIC HOOK,2CROSS ACCENT,2SMALL GAMMA,3L,3S,3X,3REVERSED GLOTTAL STOP
2E5 2EXTRA-HIGH TONE BAR,2HIGH+2,2MID+2,2LOW+2,2EXTRA-LOW+2,2YIN DEPARTING TONE MARK,2YANG+3
2EC 2VOICING,2UNASPIRATED,2DOUBLE APOSTROPHE,2LOW DOWN ARROWHEAD,3UP+1,3LEFT+1,3RIGHT+1,3RING
2F4 2MIDDLE GRAVE ACCENT,3DOUBLE+2,4ACUTE+1,2LOW TILDE,2RAISED COLON,2BEGIN HIGH TONE,2END+2
2FB 2BEGIN LOW+1,2END+2,2SHELF,2OPEN+1,2LOW LEFT ARROW,0COMBINING GRAVE ACCENT,1ACUTE+1
302 1CIRCUMFLEX+1,1TILDE,1MACRON,1OVERLINE,1BREVE,1DOT ABOVE,1DIAERESIS,1HOOK ABOVE,1RING+1
30B 1DOUBLE ACUTE ACCENT,1CARON,1VERTICAL LINE ABOVE,1DOUBLE+3,2GRAVE ACCENT,1CANDRABINDU
311 1INVERTED BREVE,1TURNED COMMA ABOVE,1+2,1REVERSED+2,1COMMA ABOVE RIGHT,1GRAVE ACCENT BELOW
317 1ACUTE+2,1LEFT TACK+1,1RIGHT+2,1LEFT ANGLE ABOVE,1HORN,1LEFT HALF RING BELOW,1UP TACK+1,1DOWN+2
31F 1PLUS SIGN+1,1MINUS+2,1PALATALIZED HOOK+1,1RETROFLEX+2,1DOT+1,1DIAERESIS+1,1RING+1,1COMMA+1
327 1CEDILLA,1OGONEK,1VERTICAL LINE BELOW,1BRIDGE+1,1INVERTED DOUBLE ARCH+1,1CARON+1
32D 1CIRCUMFLEX ACCENT+1,1BREVE+1,1INVERTED+2,1TILDE+1,1MACRON+1,1LOW LINE,1DOUBLE+2,1TILDE OVERLAY
335 1SHORT STROKE+1,1LONG+2,1SHORT SOLIDUS+1,1LONG+2,1RIGHT HALF RING BELOW,1INVERTED BRIDGE+1
33B 1SQUARE+1,1SEAGULL+1,1X ABOVE,1VERTICAL TILDE,1DOUBLE OVERLINE,1GRAVE TONE MARK,1ACUTE+2
342 1GREEK PERISPOMENI,2KORONIS,2DIALYTIKA TONOS,2YPOGEGRAMMENI,1BRIDGE ABOVE,1EQUALS SIGN BELOW
348 1DOUBLE VERTICAL LINE+1,1LEFT ANGLE+1,1NOT TILDE ABOVE,1HOMOTHETIC+1,1ALMOST EQUAL TO+1
34D 1LEFT RIGHT ARROW BELOW,1UPWARDS+2,1GRAPHEME JOINER,1RIGHT ARROWHEAD ABOVE,1LEFT HALF RING+1
352 1FERMATA,1X BELOW,1LEFT ARROWHEAD+1,1RIGHT+2,3AND UP ARROWHEAD+1,2HALF RING ABOVE
358 1DOT ABOVE RIGHT,1ASTERISK BELOW,1DOUBLE RING+1,1ZIGZAG ABOVE,1DOUBLE BREVE BELOW,3,2MACRON
35F 3BELOW,2TILDE,2INVERTED BREVE,2RIGHTWARDS ARROW BELOW,1LATIN SMALL LETTER A,4E,4I,4O,4U,4C,4D,4H
36B 4M,4R,4T,4V,4X,0GREEK CAPITAL LETTER HETA,1SMALL+2,1CAPITAL LETTER ARCHAIC SAMPI,1SMALL+3
374 1NUMERAL SIGN,1LOWER+2,1CAPITAL LETTER PAMPHYLIAN DIGAMMA,1SMALL+3
37A 1YPOGEGRAMMENI,1SMALL REVERSED LUNATE SIGMA SYMBOL,2DOTTED+3,2REVERSED+4,1QUESTION MARK
37F 1CAPITAL LETTER YOT
384 1TONOS,1DIALYTIKA+1,1CAPITAL LETTER ALPHA WITH+1,1ANO TELEIA,1CAPITAL LETTER EPSILON WITH TONOS
389 3ETA+2,3IOTA+2
38C 3OMICRON+2
38E 3UPSILON+2,3OMEGA+2,1SMALL LETTER IOTA WITH DIALYTIKA AND+1,1CAPITAL LETTER ALPHA,3BETA,3GAMMA
394 3DELTA,3EPSILON,3ZETA,3ETA,3THETA,3IOTA,3KAPPA,3LAMDA,3MU,3NU,3XI,3OMICRON,3PI,3RHO
3A3 3SIGMA,3TAU,3UPSILON,3PHI,3CHI,3PSI,3OMEGA,3IOTA WITH DIALYTIKA,3UPSILON+2
3AC 1SMALL LETTER ALPHA WITH TONOS,3EPSILON+2,3ETA+2,3IOTA+2,3UPSILON WITH DIALYTIKA AND+1,3ALPHA
3B2 3BETA,3GAMMA,3DELTA,3EPSILON,3ZETA,3ETA,3THETA,3IOTA,3KAPPA,3LAMDA,3MU,3NU,3XI,3OMICRON,3PI,3RHO
3C2 3FINAL SIGMA,3+1,3TAU,3UPSILON,3PHI,3CHI,3PSI,3OMEGA,3IOTA WITH DIALYTIKA,3UPSILON+2
3CC 3OMICRON WITH TONOS,3UPSILON+2,3OMEGA+2,1CAPITAL KAI SYMBOL,1BETA+1,1THETA+1
3D2 1UPSILON WITH HOOK+1,3ACUTE AND+2,3DIAERESIS+3,1PHI+1,1PI+1,1KAI+1,1LETTER ARCHAIC KOPPA
3D9 1SMALL+3,1LETTER STIGMA,1SMALL+2,1LETTER DIGAMMA,1SMALL+2,1LETTER KOPPA,1SMALL+2,1LETTER SAMPI
3E1 1SMALL+2,0COPTIC CAPITAL LETTER SHEI,1SMALL+2,1CAPITAL LETTER FEI,1SMALL+2,1CAPITAL LETTER KHEI
3E7 1SMALL+2,1CAPITAL LETTER HORI,1SMALL+2,1CAPITAL LETTER GANGIA,1SMALL+2,1CAPITAL LETTER SHIMA
3ED 1SMALL+2,1CAPITAL LETTER DEI,1SMALL+2,0GREEK KAPPA SYMBOL,1RHO+1,1LUNATE SIGMA+1,1LETTER YOT
3F4 1CAPITAL THETA SYMBOL,1LUNATE EPSILON+1,1REVERSED+3,1CAPITAL LETTER SHO,1SMALL+2
3F9 1CAPITAL LUNATE SIGMA SYMBOL,2LETTER SAN,1SMALL+2,1RHO WITH STROKE SYMBOL
3FD 1CAPITAL REVERSED LUNATE SIGMA+1,2DOTTED+3,2REVERSED+4,0CYRILLIC CAPITAL LETTER IE WITH GRAVE
401 3IO,3DJE,3GJE,3UKRAINIAN IE,3DZE,3BYELORUSSIAN-UKRAINIAN I,3YI,3JE,3LJE,3NJE,3TSHE,3KJE
40D 3I WITH GRAVE,3SHORT U,3DZHE,3A,3BE,3VE,3GHE,3DE,3IE,3ZHE,3ZE,3I,3SHORT I,3KA,3EL,3EM,3EN,3O,3PE
420 3ER,3ES,3TE,3U,3EF,3HA,3TSE,3CHE,3SHA,3SHCHA,3HARD SIGN,3YERU,3SOFT SIGN,3E,3YU,3YA
430 1SMALL LETTER A,3BE,3VE,3GHE,3DE,3IE,3ZHE,3ZE,3I,3SHORT I,3KA,3EL,3EM,3EN,3O,3PE,3ER,3ES,3TE,3U
444 3EF,3HA,3TSE,3CHE,3SHA,3SHCHA,3HARD SIGN,3YERU,3SOFT SIGN,3E,3YU,3YA,3IE WITH GRAVE,3IO,3DJE
453 3GJE,3UKRAINIAN IE,3DZE,3BYELORUSSIAN-UKRAINIAN I,3YI,3JE,3LJE,3NJE,3TSHE,3KJE,3I WITH GRAVE
45E 3SHORT U,3DZHE,1CAPITAL LETTER OMEGA,1SMALL+2,1CAPITAL LETTER YAT,1SMALL+2
464 1CAPITAL LETTER IOTIFIED E,1SMALL+3,1CAPITAL LETTER LITTLE YUS,1SMALL+3
468 1CAPITAL LETTER IOTIFIED+2,1SMALL+4,1CAPITAL LETTER BIG+1,1SMALL+3,1CAPITAL LETTER IOTIFIED+2
46D 1SMALL+4,1CAPITAL LETTER KSI,1SMALL+2,1CAPITAL LETTER PSI,1SMALL+2,1CAPITAL LETTER FITA,1SMALL+2
474 1CAPITAL LETTER IZHITSA,1SMALL+2,1CAPITAL LETTER IZHITSA WITH DOUBLE GRAVE ACCENT,1SMALL+6
478 1CAPITAL LETTER UK,1SMALL+2,1CAPITAL LETTER ROUND OMEGA,1SMALL+3
47C 1CAPITAL LETTER OMEGA WITH TITLO,1SMALL+4,1CAPITAL LETTER OT,1SMALL+2,1CAPITAL LETTER KOPPA
481 1SMALL+2,1THOUSANDS SIGN,0COMBINING CYRILLIC TITLO,2PALATALIZATION,2DASIA PNEUMATA,2PSILI+1
487 2POKRYTIE,2HUNDRED THOUSANDS SIGN,2MILLIONS+1,0CYRILLIC CAPITAL LETTER SHORT I WITH TAIL
48B 1SMALL+5,1CAPITAL LETTER SEMISOFT SIGN,1SMALL+3,1CAPITAL LETTER ER WITH TICK,1SMALL+4
490 1CAPITAL LETTER GHE WITH UPTURN,1SMALL+4,1CAPITAL LETTER GHE WITH STROKE,1SMALL+4
494 1CAPITAL LETTER GHE WITH MIDDLE HOOK,1SMALL+5,1CAPITAL LETTER ZHE WITH DESCENDER,1SMALL+4
498 1CAPITAL LETTER ZE+2,1SMALL+4,1CAPITAL LETTER KA+2,1SMALL+4
49C 1CAPITAL LETTER KA WITH VERTICAL STROKE,1SMALL+5,1CAPITAL LETTER KA WITH+1,1SMALL+4
4A0 1CAPITAL LETTER BASHKIR KA,1SMALL+3,1CAPITAL LETTER EN WITH DESCENDER,1SMALL+4
4A4 1CAPITAL LIGATURE EN GHE,1SMALL+3,1CAPITAL LETTER PE WITH MIDDLE HOOK,1SMALL+5
4A8 1CAPITAL LETTER ABKHASIAN HA,1SMALL+3,1CAPITAL LETTER ES WITH DESCENDER,1SMALL+4
4AC 1CAPITAL LETTER TE+2,1SMALL+4,1CAPITAL LETTER STRAIGHT U,1SMALL+3
4B0 1CAPITAL LETTER STRAIGHT U WITH STROKE,1SMALL+5,1CAPITAL LETTER HA WITH DESCENDER,1SMALL+4
4B4 1CAPITAL LIGATURE TE TSE,1SMALL+3,1CAPITAL LETTER CHE WITH DESCENDER,1SMALL+4
4B8 1CAPITAL LETTER CHE WITH VERTICAL STROKE,1SMALL+5,1CAPITAL LETTER SHHA,1SMALL+2
4BC 1CAPITAL LETTER ABKHASIAN CHE,1SMALL+3,1CAPITAL LETTER ABKHASIAN CHE WITH DESCENDER,1SMALL+5
4C0 1LETTER PALOCHKA,1CAPITAL LETTER ZHE WITH BREVE,1SMALL+4,1CAPITAL LETTER KA WITH HOOK,1SMALL+4
4C5 1CAPITAL LETTER EL WITH TAIL,1SMALL+4,1CAPITAL LETTER EN WITH HOOK,1SMALL+4
4C9 1CAPITAL LETTER EN WITH TAIL,1SMALL+4,1CAPITAL LETTER KHAKASSIAN CHE,1SMALL+3
4CD 1CAPITAL LETTER EM WITH TAIL,1SMALL+4,3PALOCHKA,1CAPITAL LETTER A WITH BREVE,1SMALL+4
4D2 1CAPITAL LETTER A WITH DIAERESIS,1SMALL+4,1CAPITAL LIGATURE A IE,1SMALL+3
4D6 1CAPITAL LETTER IE WITH BREVE,1SMALL+4,1CAPITAL LETTER SCHWA,1SMALL+2
4DA 1CAPITAL LETTER SCHWA WITH DIAERESIS,1SMALL+4,1CAPITAL LETTER ZHE+2,1SMALL+4
4DE 1CAPITAL LETTER ZE+2,1SMALL+4,1CAPITAL LETTER ABKHASIAN DZE,1SMALL+3
4E2 1CAPITAL LETTER I WITH MACRON,1SMALL+4,1CAPITAL LETTER I WITH DIAERESIS,1SMALL+4
4E6 1CAPITAL LETTER O+2,1SMALL+4,1CAPITAL LETTER BARRED O,1SMALL+3
4EA 1CAPITAL LETTER BARRED O WITH DIAERESIS,1SMALL+5,1CAPITAL LETTER E+2,1SMALL+4
4EE 1CAPITAL LETTER U WITH MACRON,1SMALL+4,1CAPITAL LETTER U WITH DIAERESIS,1SMALL+4
4F2 1CAPITAL LETTER U WITH DOUBLE ACUTE,1SMALL+5,1CAPITAL LETTER CHE WITH DIAERESIS,1SMALL+4
4F6 1CAPITAL LETTER GHE WITH DESCENDER,1SMALL+4,1CAPITAL LETTER YERU WITH DIAERESIS,1SMALL+4
4FA 1CAPITAL LETTER GHE WITH STROKE AND HOOK,1SMALL+6,1CAPITAL LETTER HA WITH+1,1SMALL+4
4FE 1CAPITAL LETTER HA WITH STROKE,1SMALL+4,1CAPITAL LETTER KOMI DE,1SMALL+3
502 1CAPITAL LETTER KOMI DJE,1SMALL+3,1CAPITAL LETTER KOMI ZJE,1SMALL+3,1CAPITAL LETTER KOMI DZJE
507 1SMALL+3,1CAPITAL LETTER KOMI LJE,1SMALL+3,1CAPITAL LETTER KOMI NJE,1SMALL+3
50C 1CAPITAL LETTER KOMI SJE,1SMALL+3,1CAPITAL LETTER KOMI TJE,1SMALL+3,1CAPITAL LETTER REVERSED ZE
511 1SMALL+3,1CAPITAL LETTER EL WITH HOOK,1SMALL+4,1CAPITAL LETTER LHA,1SMALL+2,1CAPITAL LETTER RHA
517 1SMALL+2,1CAPITAL LETTER YAE,1SMALL+2,1CAPITAL LETTER QA,1SMALL+2,1CAPITAL LETTER WE,1SMALL+2
51E 1CAPITAL LETTER ALEUT KA,1SMALL+3,1CAPITAL LETTER EL WITH MIDDLE HOOK,1SMALL+5
522 1CAPITAL LETTER EN+3,1SMALL+5,1CAPITAL LETTER PE WITH DESCENDER,1SMALL+4,1CAPITAL LETTER SHHA+2
527 1SMALL+4,1CAPITAL LETTER EN WITH LEFT HOOK,1SMALL+5,1CAPITAL LETTER DZZHE,1SMALL+2
52C 1CAPITAL LETTER DCHE,1SMALL+2,1CAPITAL LETTER EL WITH DESCENDER,1SMALL+4
531 0ARMENIAN CAPITAL LETTER AYB,3BEN,3GIM,3DA,3ECH,3ZA,3EH,3ET,3TO,3ZHE,3INI,3LIWN,3XEH,3CA,3KEN
540 3HO,3JA,3GHAD,3CHEH,3MEN,3YI,3NOW,3SHA,3VO,3CHA,3PEH,3JHEH,3RA,3SEH,3VEW,3TIWN,3REH,3CO,3YIWN
553 3PIWR,3KEH,3OH,3FEH
559 1MODIFIER LETTER LEFT HALF RING,1APOSTROPHE,1EMPHASIS MARK,1EXCLAMATION+1,1COMMA,1QUESTION MARK
55F 1ABBREVIATION+1,1SMALL LETTER TURNED AYB,3+1,3BEN,3GIM,3DA,3ECH,3ZA,3EH,3ET,3TO,3ZHE,3INI,3LIWN
56D 3XEH,3CA,3KEN,3HO,3JA,3GHAD,3CHEH,3MEN,3YI,3NOW,3SHA,3VO,3CHA,3PEH,3JHEH,3RA,3SEH,3VEW,3TIWN
580 3REH,3CO,3YIWN,3PIWR,3KEH,3OH,3FEH,2LIGATURE ECH YIWN,2LETTER YI WITH STROKE,1FULL STOP,1HYPHEN
58D 0RIGHT-FACING ARMENIAN ETERNITY SIGN,0LEFT-FACING+3,0ARMENIAN DRAM+1
591 0HEBREW ACCENT ETNAHTA,2SEGOL,2SHALSHELET,2ZAQEF QATAN,3GADOL,2TIPEHA,2REVIA,2ZARQA,2PASHTA
59A 2YETIV,2TEVIR,2GERESH,3MUQDAM,2GERSHAYIM,2QARNEY PARA,2TELISHA GEDOLA,2PAZER,2ATNAH HAFUKH
5A3 2MUNAH,2MAHAPAKH,2MERKHA,3KEFULA,2DARGA,2QADMA,2TELISHA QETANA,2YERAH BEN YOMO,2OLE,2ILUY,2DEHI
5AE 2ZINOR,1MARK MASORA CIRCLE,1POINT SHEVA,2HATAF SEGOL,3PATAH,3QAMATS,2HIRIQ,2TSERE,2SEGOL,2PATAH
5B8 2QAMATS,2HOLAM,3HASER FOR VAV,2QUBUTS,2DAGESH OR MAPIQ,2METEG,1PUNCTUATION MAQAF,1POINT RAFE
5C0 1PUNCTUATION PASEQ,1POINT SHIN DOT,2SIN+1,1PUNCTUATION SOF PASUQ,1MARK UPPER DOT,2LOWER+1
5C6 1PUNCTUATION NUN HAFUKHA,1POINT QAMATS QATAN
5D0 1LETTER ALEF,2BET,2GIMEL,2DALET,2HE,2VAV,2ZAYIN,2HET,2TET,2YOD,2FINAL KAF,2+1,2LAMED,2FINAL MEM
5DE 2+1,2FINAL NUN,2+1,2SAMEKH,2AYIN,2FINAL PE,2PE,2FINAL TSADI,2+1,2QOF,2RESH,2SHIN,2TAV
5EF 1YOD TRIANGLE,1LIGATURE YIDDISH DOUBLE VAV,3VAV YOD,3DOUBLE+1,1PUNCTUATION GERESH,2GERSHAYIM
600 0ARABIC NUMBER SIGN,1SIGN SANAH,1FOOTNOTE MARKER,1SIGN SAFHA,2SAMVAT,1NUMBER MARK ABOVE
606 0ARABIC-INDIC CUBE ROOT,1FOURTH+1,0ARABIC RAY,0ARABIC-INDIC PER MILLE SIGN,2TEN THOUSAND+1
60B 0AFGHANI+1,0ARABIC COMMA,1DATE SEPARATOR,1POETIC VERSE SIGN,1SIGN MISRA
610 2SALLALLAHOU ALAYHE WASSALLAM,2ALAYHE ASSALLAM,2RAHMATULLAH ALAYHE,2RADI ALLAHOU ANHU,2TAKHALLUS
615 1SMALL HIGH TAH,3LIGATURE ALEF WITH LAM WITH YEH,3ZAIN,2FATHA,2DAMMA,2KASRA,1SEMICOLON
61C 1LETTER MARK,1END OF TEXT+1,1TRIPLE DOT PUNCTUATION+1,1QUESTION+1,1LETTER KASHMIRI YEH,2HAMZA
622 2ALEF WITH MADDA ABOVE,4HAMZA+1,2WAW+3,2ALEF WITH HAMZA BELOW,2YEH WITH HAMZA ABOVE,2ALEF,2BEH
629 2TEH MARBUTA,3,2THEH,2JEEM,2HAH,2KHAH,2DAL,2THAL,2REH,2ZAIN,2SEEN,2SHEEN,2SAD,2DAD,2TAH,2ZAH
639 2AIN,2GHAIN,2KEHEH WITH TWO DOTS ABOVE,4THREE DOTS BELOW,2FARSI YEH WITH INVERTED V
63E 5TWO DOTS ABOVE,5THREE+2,1TATWEEL,1LETTER FEH,2QAF,2KAF,2LAM,2MEEM,2NOON,2HEH,2WAW,2ALEF MAKSURA
64A 2YEH,1FATHATAN,1DAMMATAN,1KASRATAN,1FATHA,1DAMMA,1KASRA,1SHADDA,1SUKUN,1MADDAH ABOVE,1HAMZA+1
655 2BELOW,1SUBSCRIPT ALEF,1INVERTED DAMMA,1MARK NOON GHUNNA,1ZWARAKAY,1VOWEL SIGN SMALL V ABOVE
65B 3INVERTED+3,3DOT BELOW,1REVERSED DAMMA,1FATHA WITH TWO DOTS,1WAVY HAMZA BELOW
660 0ARABIC-INDIC DIGIT ZERO,2ONE,2TWO,2THREE,2FOUR,2FIVE,2SIX,2SEVEN,2EIGHT,2NINE
66A 0ARABIC PERCENT SIGN,1DECIMAL SEPARATOR,1THOUSANDS+1,1FIVE POINTED STAR,1LETTER DOTLESS BEH,3QAF
670 2SUPERSCRIPT ALEF,2ALEF WASLA,3WITH WAVY HAMZA ABOVE,6BELOW,2HIGH HAMZA,4ALEF,4WAW
677 2U WITH HAMZA ABOVE,2HIGH HAMZA YEH,2TTEH,2TTEHEH,2BEEH,2TEH WITH RING
67D 4THREE DOTS ABOVE DOWNWARDS,2PEH,2TEHEH,2BEHEH,2HAH WITH HAMZA ABOVE,4TWO DOTS VERTICAL+1,2NYEH
684 2DYEH,2HAH WITH THREE DOTS ABOVE,2TCHEH,2TCHEHEH,2DDAL,2DAL WITH RING,4DOT BELOW,6AND SMALL TAH
68C 2DAHAL,2DDAHAL,2DUL,2DAL WITH THREE DOTS ABOVE DOWNWARDS,4FOUR DOTS ABOVE,2RREH
692 2REH WITH SMALL V,4RING,4DOT BELOW,4SMALL V+1,4DOT BELOW AND DOT ABOVE,4TWO DOTS+1,2JEH
699 2REH WITH FOUR DOTS ABOVE,2SEEN WITH DOT BELOW AND DOT+1,4THREE DOTS BELOW,7AND THREE DOTS ABOVE
69D 2SAD WITH TWO DOTS BELOW,4THREE DOTS ABOVE,2TAH+4,2AIN+4,2DOTLESS FEH,2FEH WITH DOT MOVED BELOW
6A3 5+1,2VEH,2FEH WITH THREE DOTS BELOW,2PEHEH,2QAF WITH DOT ABOVE,4THREE DOTS+1,2KEHEH,2SWASH KAF
6AB 2KAF WITH RING,4DOT ABOVE,2NG,2KAF WITH THREE DOTS BELOW,2GAF,3WITH RING,2NGOEH
6B2 2GAF WITH TWO DOTS BELOW,2GUEH,2GAF WITH THREE DOTS ABOVE,2LAM WITH SMALL V,4DOT ABOVE
6B7 4THREE DOTS+1,6BELOW,2NOON WITH DOT+1,3GHUNNA,2RNOON,2NOON WITH RING,4THREE DOTS ABOVE
6BE 2HEH DOACHASHMEE,2TCHEH WITH DOT ABOVE,2HEH WITH YEH+1,3GOAL,4WITH HAMZA ABOVE,2TEH MARBUTA GOAL
6C4 2WAW WITH RING,2KIRGHIZ OE,2OE,2U,2YU,2KIRGHIZ+1,2WAW WITH TWO DOTS ABOVE,2VE,2FARSI YEH
6CD 2YEH WITH TAIL,4SMALL V,2WAW WITH DOT ABOVE,2E,2YEH WITH THREE DOTS BELOW,3BARREE
6D3 4WITH HAMZA ABOVE,1FULL STOP,1LETTER AE,1SMALL HIGH LIGATURE SAD WITH LAM WITH ALEF MAKSURA
6D7 4QAF+5,3MEEM INITIAL FORM,3LAM ALEF,3JEEM,3THREE DOTS,3SEEN,1END OF AYAH,1START OF RUB EL HIZB
6DF 1SMALL HIGH ROUNDED ZERO,3UPRIGHT RECTANGULAR+1,3DOTLESS HEAD OF KHAH,3MEEM ISOLATED FORM
6E3 2LOW SEEN,2HIGH MADDA,2WAW,2YEH,2HIGH+1,3NOON,1PLACE OF SAJDAH,1EMPTY CENTRE LOW STOP,3HIGH+1
6EC 1ROUNDED HIGH STOP WITH FILLED CENTRE,1SMALL LOW MEEM,1LETTER DAL WITH INVERTED V,2REH+3
6F0 0EXTENDED ARABIC-INDIC DIGIT ZERO,3ONE,3TWO,3THREE,3FOUR,3FIVE,3SIX,3SEVEN,3EIGHT,3NINE
6FA 0ARABIC LETTER SHEEN WITH DOT BELOW,2DAD+3,2GHAIN+3,1SIGN SINDHI AMPERSAND,3POSTPOSITION MEN
6FF 1LETTER HEH WITH INVERTED V,0SYRIAC END OF PARAGRAPH,1SUPRALINEAR FULL STOP,1SUBLINEAR+2
703 1SUPRALINEAR COLON,1SUBLINEAR+1,1HORIZONTAL+1,1COLON SKEWED LEFT,3RIGHT
708 1SUPRALINEAR COLON SKEWED LEFT,1SUBLINEAR COLON SKEWED RIGHT,1CONTRACTION,1HARKLEAN OBELUS
70C 2METOBELUS,2ASTERISCUS
70F 1ABBREVIATION MARK,1LETTER ALAPH,2SUPERSCRIPT+1,2BETH,2GAMAL,3GARSHUNI,2DALATH
716 2DOTLESS DALATH RISH,2HE,2WAW,2ZAIN,2HETH,2TETH,3GARSHUNI,2YUDH,3HE,2KAPH,2LAMADH,2MIM,2NUN
723 2SEMKATH,2FINAL+1,2E,2PE,2REVERSED+1,2SADHE,2QAPH,2RISH,2SHIN,2TAW,2PERSIAN BHETH,3GHAMAL
72F 3DHALATH,1PTHAHA ABOVE,2BELOW,2DOTTED,1ZQAPHA ABOVE,2BELOW,2DOTTED,1RBASA ABOVE,2BELOW
738 1DOTTED ZLAMA HORIZONTAL,3ANGULAR,1HBASA ABOVE,2BELOW,1HBASA-ESASA DOTTED,1ESASA ABOVE,2BELOW
73F 1RWAHA,1FEMININE DOT,1QUSHSHAYA,1RUKKAKHA,1TWO VERTICAL DOTS ABOVE,4BELOW,1THREE DOTS ABOVE
746 3BELOW,1OBLIQUE LINE ABOVE,3BELOW,1MUSIC,1BARREKH
74D 1LETTER SOGDIAN ZHAIN,3KHAPH,3FE,0ARABIC LETTER BEH WITH THREE DOTS HORIZONTALLY BELOW
751 4DOT BELOW AND THREE DOTS ABOVE,4THREE DOTS POINTING UPWARDS BELOW,9AND TWO DOTS ABOVE
754 4TWO DOTS BELOW AND DOT+1,4INVERTED SMALL V BELOW,4SMALL V,2HAH WITH TWO DOTS ABOVE
758 4THREE DOTS POINTING UPWARDS BELOW,2DAL WITH TWO DOTS VERTICALLY BELOW AND SMALL TAH
75A 4INVERTED SMALL V BELOW,2REH WITH STROKE,2SEEN WITH FOUR DOTS ABOVE,2AIN WITH TWO+2
75E 4THREE DOTS POINTING DOWNWARDS+1,4TWO DOTS VERTICALLY+1,2FEH WITH TWO DOTS BELOW
761 4THREE DOTS POINTING UPWARDS+1,2KEHEH WITH DOT ABOVE,4THREE DOTS+1,6POINTING UPWARDS BELOW
765 2MEEM WITH DOT ABOVE,5BELOW,2NOON WITH TWO DOTS+1,4SMALL TAH,5V,2LAM WITH BAR
76B 2REH WITH TWO DOTS VERTICALLY ABOVE,4HAMZA+1,2SEEN WITH TWO DOTS VERTICALLY+1
76E 2HAH WITH SMALL ARABIC LETTER TAH BELOW,8AND TWO DOTS,2SEEN+8,2REH+8
772 2HAH WITH SMALL ARABIC LETTER TAH ABOVE,2ALEF WITH EXTENDED ARABIC-INDIC DIGIT TWO+1,7THREE+1
775 2FARSI YEH WITH EXTENDED ARABIC-INDIC DIGIT TWO+1,8THREE+1,8FOUR BELOW
778 2WAW WITH EXTENDED ARABIC-INDIC DIGIT TWO ABOVE,7THREE+1
77A 2YEH BARREE WITH EXTENDED ARABIC-INDIC DIGIT TWO+1,8THREE+1
77C 2HAH WITH EXTENDED ARABIC-INDIC DIGIT FOUR BELOW
77D 2SEEN WITH EXTENDED ARABIC-INDIC DIGIT FOUR ABOVE,4INVERTED V,2KAF WITH TWO DOTS ABOVE
780 0THAANA LETTER HAA,2SHAVIYANI,2NOONU,2RAA,2BAA,2LHAVIYANI,2KAAFU,2ALIFU,2VAAVU,2MEEMU,2FAAFU
78B 2DHAALU,2THAA,2LAAMU,2GAAFU,2GNAVIYANI,2SEENU,2DAVIYANI,2ZAVIYANI,2TAVIYANI,2YAA,2PAVIYANI
796 2JAVIYANI,2CHAVIYANI,2TTAA,2HHAA,2KHAA,2THAALU,2ZAA,2SHEENU,2SAADHU,2DAADHU,2TO,2ZO,2AINU
7A3 2GHAINU,2QAAFU,2WAAVU,1ABAFILI,1AABAAFILI,1IBIFILI,1EEBEEFILI,1UBUFILI,1OOBOOFILI,1EBEFILI
7AD 1EYBEYFILI,1OBOFILI,1OABOAFILI,1SUKUN,1LETTER NAA
7C0 0NKO DIGIT ZERO,2ONE,2TWO,2THREE,2FOUR,2FIVE,2SIX,2SEVEN,2EIGHT,2NINE,1LETTER A,2EE,2I,2E,2U,2OO
7D0 2O,2DAGBASINNA,2N,2BA,2PA,2TA,2JA,2CHA,2DA,2RA,2RRA,2SA,2GBA,2FA,2KA,2LA,2NA WOLOSO,2MA,2NYA,2NA
7E4 2HA,2WA,2YA,2NYA WOLOSO,2JONA JA,3CHA,3RA,1COMBINING SHORT HIGH TONE,3LOW+1,3RISING+1
7EE 2LONG DESCENDING+1,3HIGH+1,3LOW+1,3RISING+1,2NASALIZATION MARK,2DOUBLE DOT ABOVE
7F4 1HIGH TONE APOSTROPHE,1LOW+2,1SYMBOL OO DENNEN,2GBAKURUNEN,1COMMA,1EXCLAMATION MARK,1LAJANYALAN
7FD 1DANTAYALAN,1DOROME SIGN,1TAMAN+1,0SAMARITAN LETTER ALAF,2BIT,2GAMAN,2DALAT,2IY,2BAA,2ZEN,2IT
808 2TIT,2YUT,2KAAF,2LABAT,2MIM,2NUN,2SINGAAT,2IN,2FI,2TSAADIY,2QUF,2RISH,2SHAN,2TAAF,1MARK IN
817 2IN-ALAF,2OCCLUSION,2DAGESH,1MODIFIER LETTER EPENTHETIC YUT,1MARK+2,1VOWEL SIGN LONG E,3E
81E 3OVERLONG AA,3LONG+1,3AA,3OVERLONG A,3LONG A,3A,1MODIFIER LETTER SHORT A,1VOWEL SIGN+2,3LONG U
827 3U,1MODIFIER LETTER I,1VOWEL SIGN LONG I,3I,3O,3SUKUN,1MARK NEQUDAA
830 1PUNCTUATION+1,2AFSAAQ,2ANGED,2BAU,2ATMAAU,2SHIYYAALAA,1ABBREVIATION MARK
837 1PUNCTUATION MELODIC QITSA,2ZIQAA,2QITSA,2ZAEF,2TURU,2ARKAANU,2SOF MASHFAAT,2ANNAAU
840 0MANDAIC LETTER HALQA,2AB,2AG,2AD,2AH,2USHENNA,2AZ,2IT,2ATT,2AKSA,2AK,2AL,2AM,2AN,2AS,2IN,2AP
851 2ASZ,2AQ,2AR,2ASH,2AT,2DUSHENNA,2KAD,2AIN,1AFFRICATION MARK,1VOCALIZATION+1,1GEMINATION+1
85E 1PUNCTUATION
860 0SYRIAC LETTER MALAYALAM NGA,3JA,3NYA,3TTA,3NNA,3NNNA,3BHA,3RA,3LLA,3LLLA,3SSA
870 0ARABIC LETTER ALEF WITH ATTACHED FATHA,5TOP RIGHT+1,4RIGHT MIDDLE STROKE,4LEFT+2
874 4ATTACHED KASRA,5BOTTOM RIGHT+1,5ROUND DOT ABOVE,5RIGHT ROUND DOT,5LEFT+2,5ROUND DOT BELOW
87A 4DOT ABOVE,4ATTACHED TOP RIGHT FATHA AND+2,4RIGHT MIDDLE STROKE+3,4ATTACHED BOTTOM RIGHT KASRA+3
87E 5TOP RIGHT FATHA AND LEFT RING,4RIGHT MIDDLE STROKE+3,4ATTACHED BOTTOM RIGHT KASRA+3
881 5RIGHT HAMZA,5LEFT+1,1TATWEEL WITH OVERSTRUCK+1,4WAW,3TWO DOTS BELOW,1LETTER THIN YEH
887 1BASELINE ROUND DOT,1RAISED+2,1LETTER NOON WITH INVERTED SMALL V
88A 2HAH WITH INVERTED SMALL V BELOW,2TAH WITH DOT+1,4THREE DOTS+1,2KEHEH WITH TWO DOTS VERTICALLY+1
88E 1VERTICAL TAIL
890 1POUND MARK ABOVE,1PIASTRE+2
898 1SMALL HIGH WORD AL-JUZ,2LOW WORD ISHMAAM,4IMAALA,4TASHEEL,1MADDA WAAJIB
89D 1SUPERSCRIPT ALEF MOKHASSAS,1DOUBLED MADDA,1HALF MADDA OVER+1,1LETTER BEH WITH SMALL V BELOW
8A1 4HAMZA ABOVE,2JEEM WITH TWO DOTS+1,2TAH+4,2FEH WITH DOT BELOW AND THREE+2,2QAF WITH DOT BELOW
8A6 2LAM WITH DOUBLE BAR,2MEEM WITH THREE DOTS ABOVE,2YEH WITH TWO DOTS BELOW AND HAMZA+1,8DOT+1
8AA 2REH WITH LOOP,2WAW WITH DOT WITHIN,2ROHINGYA YEH,2LOW ALEF,2DAL WITH THREE DOTS BELOW,2SAD+4
8B0 2GAF WITH INVERTED STROKE,2STRAIGHT WAW,2ZAIN WITH INVERTED V ABOVE,2AIN WITH THREE DOTS BELOW
8B4 2KAF WITH DOT+1,2QAF WITH DOT BELOW AND NO DOTS ABOVE,2BEH WITH SMALL MEEM+1,2PEH+4
8B8 2TEH WITH SMALL TEH+1,2REH WITH SMALL NOON+1,2YEH WITH TWO DOTS BELOW AND+3,2AFRICAN FEH,3QAF
8BD 3NOON,2PEH WITH SMALL V,2TEH+3,2TTEH+3,2TCHEH+3,2KEHEH+3,2GHAIN WITH THREE DOTS ABOVE
8C4 2AFRICAN QAF+4,2JEEM+4,6BELOW,2LAM WITH SMALL ARABIC LETTER TAH ABOVE,2GRAF,1SMALL FARSI YEH
8CA 2HIGH+2,3YEH BARREE WITH TWO DOTS BELOW,3WORD SAH,3ZAH,1LARGE ROUND DOT ABOVE,4BELOW,1SUKUN+1
8D1 1LARGE CIRCLE+1,2ROUND DOT INSIDE+2,1SMALL LOW WAW,2HIGH WORD AR-RUB,3SAD,3AIN,3QAF
8D8 3NOON WITH KASRA,2LOW+3,2HIGH WORD ATH-THALATHA,4AS-SAJDA,4AN-NISF,4SAKTA,4QIF,4WAQFA
8E0 3FOOTNOTE MARKER,3SIGN SAFHA,1DISPUTED END OF AYAH,1TURNED DAMMA BELOW,1CURLY FATHA,2DAMMA
8E6 2KASRA,2FATHATAN,2DAMMATAN,2KASRATAN,1TONE ONE DOT ABOVE,2TWO DOTS+1,2LOOP+1,2ONE DOT BELOW
8EE 2TWO DOTS+1,2LOOP+1,1OPEN FATHATAN,2DAMMATAN,2KASRATAN,1SMALL HIGH WAW,1FATHA WITH RING
8F5 3DOT ABOVE,1KASRA WITH DOT BELOW,1LEFT ARROWHEAD ABOVE,1RIGHT+2,1LEFT ARROWHEAD BELOW,1RIGHT+2
8FB 1DOUBLE RIGHT ARROWHEAD ABOVE,5WITH DOT,1+5,1DAMMA+2,1MARK SIDEWAYS NOON GHUNNA
900 0DEVANAGARI SIGN INVERTED CANDRABINDU,2+1,2ANUSVARA,2VISARGA,1LETTER SHORT A,2A,2AA,2I,2II,2U
90A 2UU,2VOCALIC R,3L,2CANDRA E,2SHORT E,2E,2AI,2CANDRA O,2SHORT O,2O,2AU,2KA,2KHA,2GA,2GHA,2NGA,2CA
91B 2CHA,2JA,2JHA,2NYA,2TTA,2TTHA,2DDA,2DDHA,2NNA,2TA,2THA,2DA,2DHA,2NA,2NNNA,2PA,2PHA,2BA,2BHA,2MA
92F 2YA,2RA,2RRA,2LA,2LLA,2LLLA,2VA,2SHA,2SSA,2SA,2HA,1VOWEL SIGN OE,3OOE,1SIGN NUKTA,2AVAGRAHA
93E 1VOWEL SIGN AA,3I,3II,3U,3UU,3VOCALIC R,4RR,3CANDRA E,3SHORT E,3E,3AI,3CANDRA O,3SHORT O,3O,3AU
94D 1SIGN VIRAMA,1VOWEL SIGN PRISHTHAMATRA E,3AW,1OM,1STRESS SIGN UDATTA,3ANUDATTA,1GRAVE ACCENT
954 1ACUTE+1,1VOWEL SIGN CANDRA LONG E,3UE,3UUE,1LETTER QA,2KHHA,2GHHA,2ZA,2DDDHA,2RHA,2FA,2YYA
960 2VOCALIC RR,3LL,1VOWEL SIGN VOCALIC L,4LL,1DANDA,1DOUBLE+1,1DIGIT ZERO,2ONE,2TWO,2THREE,2FOUR
96B 2FIVE,2SIX,2SEVEN,2EIGHT,2NINE,1ABBREVIATION SIGN,1SIGN HIGH SPACING DOT,1LETTER CANDRA A,2OE
974 2OOE,2AW,2UE,2UUE,2MARWARI DDA,2ZHA,2HEAVY YA,2GGA,2JJA,2GLOTTAL STOP,2DDDA,2BBA,0BENGALI ANJI
981 1SIGN CANDRABINDU,2ANUSVARA,2VISARGA
985 1LETTER A,2AA,2I,2II,2U,2UU,2VOCALIC R,3L
98F 2E,2AI
993 2O,2AU,2KA,2KHA,2GA,2GHA,2NGA,2CA,2CHA,2JA,2JHA,2NYA,2TTA,2TTHA,2DDA,2DDHA,2NNA,2TA,2THA,2DA
9A7 2DHA,2NA
9AA 2PA,2PHA,2BA,2BHA,2MA,2YA,2RA
9B2 2LA
9B6 2SHA,2SSA,2SA,2HA
9BC 1SIGN NUKTA,2AVAGRAHA,1VOWEL SIGN AA,3I,3II,3U,3UU,3VOCALIC R,4RR
9C7 3E,3AI
9CB 3O,3AU,1SIGN VIRAMA,1LETTER KHANDA TA
9D7 1AU LENGTH MARK
9DC 1LETTER RRA,2RHA
9DF 2YYA,2VOCALIC RR,3LL,1VOWEL SIGN VOCALIC L,4LL
9E6 1DIGIT ZERO,2ONE,2TWO,2THREE,2FOUR,2FIVE,2SIX,2SEVEN,2EIGHT,2NINE
9F0 1LETTER RA WITH MIDDLE DIAGONAL,4LOWER+1,1RUPEE MARK,2SIGN,1CURRENCY NUMERATOR ONE,3TWO,3THREE
9F7 3FOUR,3ONE LESS THAN THE DENOMINATOR,2DENOMINATOR SIXTEEN,1ISSHAR,1GANDA MARK
9FC 1LETTER VEDIC ANUSVARA,1ABBREVIATION SIGN,1SANDHI MARK
A01 0GURMUKHI SIGN ADAK BINDI,2+1,2VISARGA
A05 1LETTER A,2AA,2I,2II,2U,2UU
A0F 2EE,2AI
A13 2OO,2AU,2KA,2KHA,2GA,2GHA,2NGA,2CA,2CHA,2JA,2JHA,2NYA,2TTA,2TTHA,2DDA,2DDHA,2NNA,2TA,2THA,2DA
A27 2DHA,2NA
A2A 2PA,2PHA,2BA,2BHA,2MA,2YA,2RA
A32 2LA,2LLA
A35 2VA,2SHA
A38 2SA,2HA
A3C 1SIGN NUKTA
A3E 1VOWEL SIGN AA,3I,3II,3U,3UU
A47 3EE,3AI
A4B 3OO,3AU,1SIGN VIRAMA
A51 2UDAAT
A59 1LETTER KHHA,2GHHA,2ZA,2RRA
A5E 2FA
A66 1DIGIT ZERO,2ONE,2TWO,2THREE,2FOUR,2FIVE,2SIX,2SEVEN,2EIGHT,2NINE,1TIPPI,1ADDAK,1IRI,1URA
A74 1EK ONKAR,1SIGN YAKASH,1ABBREVIATION SIGN
A81 0GUJARATI SIGN CANDRABINDU,2ANUSVARA,2VISARGA
A85 1LETTER A,2AA,2I,2II,2U,2UU,2VOCALIC R,3L,1VOWEL CANDRA E
A8F 1LETTER E,2AI,1VOWEL CANDRA O
A93 1LETTER O,2AU,2KA,2KHA,2GA,2GHA,2NGA,2CA,2CHA,2JA,2JHA,2NYA,2TTA,2TTHA,2DDA,2DDHA,2NNA,2TA,2THA
AA6 2DA,2DHA,2NA
AAA 2PA,2PHA,2BA,2BHA,2MA,2YA,2RA
AB2 2LA,2LLA
AB5 2VA,2SHA,2SSA,2SA,2HA
ABC 1SIGN NUKTA,2AVAGRAHA,1VOWEL SIGN AA,3I,3II,3U,3UU,3VOCALIC R,4RR,3CANDRA E
AC7 3E,3AI,3CANDRA O
ACB 3O,3AU,1SIGN VIRAMA
AD0 1OM
AE0 1LETTER VOCALIC RR,3LL,1VOWEL SIGN VOCALIC L,4LL
AE6 1DIGIT ZERO,2ONE,2TWO,2THREE,2FOUR,2FIVE,2SIX,2SEVEN,2EIGHT,2NINE,1ABBREVIATION SIGN,1RUPEE+1
AF9 1LETTER ZHA,1SIGN SUKUN,2SHADDA,2MADDAH,2THREE-DOT NUKTA ABOVE,2CIRCLE+2,2TWO-CIRCLE+2
B01 0ORIYA SIGN CANDRABINDU,2ANUSVARA,2VISARGA
B05 1LETTER A,2AA,2I,2II,2U,2UU,2VOCALIC R,3L
B0F 2E,2AI
B13 2O,2AU,2KA,2KHA,2GA,2GHA,2NGA,2CA,2CHA,2JA,2JHA,2NYA,2TTA,2TTHA,2DDA,2DDHA,2NNA,2TA,2THA,2DA
B27 2DHA,2NA
B2A 2PA,2PHA,2BA,2BHA,2MA,2YA,2RA
B32 2LA,2LLA
B35 2VA,2SHA,2SSA,2SA,2HA
B3C 1SIGN NUKTA,2AVAGRAHA,1VOWEL SIGN AA,3I,3II,3U,3UU,3VOCALIC R,4RR
B47 3E,3AI
B4B 3O,3AU,1SIGN VIRAMA
B55 2OVERLINE,1AI LENGTH MARK,1AU+2
B5C 1LETTER RRA,2RHA
B5F 2YYA,2VOCALIC RR,3LL,1VOWEL SIGN VOCALIC L,4LL
B66 1DIGIT ZERO,2ONE,2TWO,2THREE,2FOUR,2FIVE,2SIX,2SEVEN,2EIGHT,2NINE,1ISSHAR,1LETTER WA
B72 1FRACTION ONE QUARTER,3HALF,2THREE QUARTERS,2ONE SIXTEENTH,3EIGHTH,2THREE SIXTEENTHS
B82 0TAMIL SIGN ANUSVARA,2VISARGA
B85 1LETTER A,2AA,2I,2II,2U,2UU
B8E 2E,2EE,2AI
B92 2O,2OO,2AU,2KA
B99 2NGA,2CA
B9C 2JA
B9E 2NYA,2TTA
BA3 2NNA,2TA
BA8 2NA,2NNNA,2PA
BAE 2MA,2YA,2RA,2RRA,2LA,2LLA,2LLLA,2VA,2SHA,2SSA,2SA,2HA
BBE 1VOWEL SIGN AA,3I,3II,3U,3UU
BC6 3E,3EE,3AI
BCA 3O,3OO,3AU,1SIGN VIRAMA
BD0 1OM
BD7 1AU LENGTH MARK
BE6 1DIGIT ZERO,2ONE,2TWO,2THREE,2FOUR,2FIVE,2SIX,2SEVEN,2EIGHT,2NINE,1NUMBER TEN,2ONE HUNDRED
BF2 3THOUSAND,1DAY SIGN,1MONTH+1,1YEAR+1,1DEBIT+1,1CREDIT+1,1AS ABOVE+1,1RUPEE+1,1NUMBER+1
C00 0TELUGU SIGN COMBINING CANDRABINDU ABOVE,2CANDRABINDU,2ANUSVARA,2VISARGA
C04 2COMBINING ANUSVARA ABOVE,1LETTER A,2AA,2I,2II,2U,2UU,2VOCALIC R,3L
C0E 2E,2EE,2AI
C12 2O,2OO,2AU,2KA,2KHA,2GA,2GHA,2NGA,2CA,2CHA,2JA,2JHA,2NYA,2TTA,2TTHA,2DDA,2DDHA,2NNA,2TA,2THA,2DA
C27 2DHA,2NA
C2A 2PA,2PHA,2BA,2BHA,2MA,2YA,2RA,2RRA,2LA,2LLA,2LLLA,2VA,2SHA,2SSA,2SA,2HA
C3C 1SIGN NUKTA,2AVAGRAHA,1VOWEL SIGN AA,3I,3II,3U,3UU,3VOCALIC R,4RR
C46 3E,3EE,3AI
C4A 3O,3OO,3AU,1SIGN VIRAMA
C55 1LENGTH MARK,1AI+2
C58 1LETTER TSA,2DZA,2RRRA
C5D 2NAKAARA POLLU
C60 2VOCALIC RR,3LL,1VOWEL SIGN VOCALIC L,4LL
C66 1DIGIT ZERO,2ONE,2TWO,2THREE,2FOUR,2FIVE,2SIX,2SEVEN,2EIGHT,2NINE
C77 1SIGN SIDDHAM,1FRACTION DIGIT ZERO FOR ODD POWERS OF FOUR,3ONE+5,3TWO+5,3THREE+5,3ONE FOR EVEN+3
C7D 3TWO+5,3THREE+5,1SIGN TUUMU,0KANNADA SIGN SPACING CANDRABINDU,2+1,2ANUSVARA,2VISARGA,2SIDDHAM
C85 1LETTER A,2AA,2I,2II,2U,2UU,2VOCALIC R,3L
C8E 2E,2EE,2AI
C92 2O,2OO,2AU,2KA,2KHA,2GA,2GHA,2NGA,2CA,2CHA,2JA,2JHA,2NYA,2TTA,2TTHA,2DDA,2DDHA,2NNA,2TA,2THA,2DA
CA7 2DHA,2NA
CAA 2PA,2PHA,2BA,2BHA,2MA,2YA,2RA,2RRA,2LA,2LLA
CB5 2VA,2SHA,2SSA,2SA,2HA
CBC 1SIGN NUKTA,2AVAGRAHA,1VOWEL SIGN AA,3I,3II,3U,3UU,3VOCALIC R,4RR
CC6 3E,3EE,3AI
CCA 3O,3OO,3AU,1SIGN VIRAMA
CD5 1LENGTH MARK,1AI+2
CDD 1LETTER NAKAARA POLLU,2FA
CE0 2VOCALIC RR,3LL,1VOWEL SIGN VOCALIC L,4LL
CE6 1DIGIT ZERO,2ONE,2TWO,2THREE,2FOUR,2FIVE,2SIX,2SEVEN,2EIGHT,2NINE
CF1 1SIGN JIHVAMULIYA,2UPADHMANIYA
D00 0MALAYALAM SIGN COMBINING ANUSVARA ABOVE,2CANDRABINDU,2ANUSVARA,2VISARGA,1LETTER VEDIC ANUSVARA
D05 2A,2AA,2I,2II,2U,2UU,2VOCALIC R,3L
D0E 2E,2EE,2AI
D12 2O,2OO,2AU,2KA,2KHA,2GA,2GHA,2NGA,2CA,2CHA,2JA,2JHA,2NYA,2TTA,2TTHA,2DDA,2DDHA,2NNA,2TA,2THA,2DA
D27 2DHA,2NA,2NNNA,2PA,2PHA,2BA,2BHA,2MA,2YA,2RA,2RRA,2LA,2LLA,2LLLA,2VA,2SHA,2SSA,2SA,2HA,2TTTA
D3B 1SIGN VERTICAL BAR VIRAMA,2CIRCULAR+1,2AVAGRAHA,1VOWEL SIGN AA,3I,3II,3U,3UU,3VOCALIC R,4RR
D46 3E,3EE,3AI
D4A 3O,3OO,3AU,1SIGN VIRAMA,1LETTER DOT REPH,1SIGN PARA
D54 1LETTER CHILLU M,3Y,3LLL,1AU LENGTH MARK,1FRACTION ONE ONE-HUNDRED-AND-SIXTIETH,3FORTIETH
D5A 2THREE EIGHTIETHS,2ONE TWENTIETH,3TENTH,2THREE TWENTIETHS,2ONE FIFTH,1LETTER ARCHAIC II
D60 2VOCALIC RR,3LL,1VOWEL SIGN VOCALIC L,4LL
D66 1DIGIT ZERO,2ONE,2TWO,2THREE,2FOUR,2FIVE,2SIX,2SEVEN,2EIGHT,2NINE,1NUMBER TEN,2ONE HUNDRED
D72 3THOUSAND,1FRACTION ONE QUARTER,3HALF,2THREE QUARTERS,2ONE SIXTEENTH,3EIGHTH,2THREE SIXTEENTHS
D79 1DATE MARK,1LETTER CHILLU NN,3N,3RR,3L,3LL,3K
D81 0SINHALA SIGN CANDRABINDU,2ANUSVARAYA,2VISARGAYA
D85 1LETTER AYANNA,2AAYANNA,2AEYANNA,2AEEYANNA,2IYANNA,2IIYANNA,2UYANNA,2UUYANNA,2IRUYANNA
D8E 2IRUUYANNA,2ILUYANNA,2ILUUYANNA,2EYANNA,2EEYANNA,2AIYANNA,2OYANNA,2OOYANNA,2AUYANNA
D9A 2ALPAPRAANA KAYANNA,2MAHAAPRAANA+1,2ALPAPRAANA GAYANNA,2MAHAAPRAANA+1,2KANTAJA NAASIKYAYA
D9F 2SANYAKA GAYANNA,2ALPAPRAANA CAYANNA,2MAHAAPRAANA+1,2ALPAPRAANA JAYANNA,2MAHAAPRAANA+1
DA4 2TAALUJA NAASIKYAYA,3SANYOOGA NAAKSIKYAYA,2SANYAKA JAYANNA,2ALPAPRAANA TTAYANNA,2MAHAAPRAANA+1
DA9 2ALPAPRAANA DDAYANNA,2MAHAAPRAANA+1,2MUURDHAJA NAYANNA,2SANYAKA DDAYANNA,2ALPAPRAANA TAYANNA
DAE 2MAHAAPRAANA+1,2ALPAPRAANA DAYANNA,2MAHAAPRAANA+1,2DANTAJA NAYANNA
DB3 2SANYAKA DAYANNA,2ALPAPRAANA PAYANNA,2MAHAAPRAANA+1,2ALPAPRAANA BAYANNA,2MAHAAPRAANA+1,2MAYANNA
DB9 2AMBA BAYANNA,2YAYANNA,2RAYANNA
DBD 2DANTAJA LAYANNA
DC0 2VAYANNA,2TAALUJA SAYANNA,2MUURDHAJA+1,2DANTAJA+1,2HAYANNA,2MUURDHAJA LAYANNA,2FAYANNA
DCA 1SIGN AL-LAKUNA
DCF 1VOWEL SIGN AELA-PILLA,3KETTI AEDA-PILLA,3DIGA+1,3KETTI IS-PILLA,3DIGA+1,3KETTI PAA-PILLA
DD6 3DIGA+1
DD8 3GAETTA-PILLA,3KOMBUVA,3DIGA+1,3KOMBU DEKA,3KOMBUVA HAA AELA-PILLA,5DIGA+1,5GAYANUKITTA,3+1
DE6 1LITH DIGIT ZERO,3ONE,3TWO,3THREE,3FOUR,3FIVE,3SIX,3SEVEN,3EIGHT,3NINE
DF2 1VOWEL SIGN DIGA GAETTA-PILLA,4GAYANUKITTA,1PUNCTUATION KUNDDALIYA
E01 0THAI CHARACTER KO KAI,2KHO KHAI,3KHUAT,3KHWAI,3KHON,3RAKHANG,2NGO NGU,2CHO CHAN,3CHING,3CHANG
E0B 2SO SO,2CHO CHOE,2YO YING,2DO CHADA,2TO PATAK,2THO THAN,3NANGMONTHO,3PHUTHAO,2NO NEN,2DO DEK
E15 2TO TAO,2THO THUNG,3THAHAN,3THONG,2NO NU,2BO BAIMAI,2PO PLA,2PHO PHUNG,2FO FA,2PHO PHAN,2FO FAN
E20 2PHO SAMPHAO,2MO MA,2YO YAK,2RO RUA,2RU,2LO LING,2LU,2WO WAEN,2SO SALA,3RUSI,3SUA,2HO HIP
E2C 2LO CHULA,2O ANG,2HO NOKHUK,2PAIYANNOI,2SARA A,2MAI HAN-AKAT,2SARA AA,3AM,3I,3II,3UE,3UEE,3U,3UU
E3A 2PHINTHU
E3F 1CURRENCY SYMBOL BAHT,1CHARACTER SARA E,3AE,3O,3AI MAIMUAN,4MAIMALAI,2LAKKHANGYAO,2MAIYAMOK
E47 2MAITAIKHU,2MAI EK,3THO,3TRI,3CHATTAWA,2THANTHAKHAT,2NIKHAHIT,2YAMAKKAN,2FONGMAN,1DIGIT ZERO
E51 2ONE,2TWO,2THREE,2FOUR,2FIVE,2SIX,2SEVEN,2EIGHT,2NINE,1CHARACTER ANGKHANKHU,2KHOMUT
E81 0LAO LETTER KO,2KHO SUNG
E84 3TAM
E86 2PALI GHA,2NGO,2CO,2PALI CHA,2SO TAM
E8C 2PALI JHA,2NYO,2PALI NYA,3TTA,3TTHA,3DDA,3DDHA,3NNA,2DO,2TO,2THO SUNG,3TAM,2PALI DHA,2NO,2BO,2PO
E9C 2PHO SUNG,2FO TAM,2PHO+1,2FO SUNG,2PALI BHA,2MO,2YO,2LO LING
EA5 3LOOT
EA7 2WO,2SANSKRIT SHA,3SSA,2SO SUNG,2HO+1,2PALI LLA,2O,2HO TAM,1ELLIPSIS,1VOWEL SIGN A,3MAI KAN,3AA
EB3 3AM,3I,3II,3Y,3YY,3U,3UU,1SIGN PALI VIRAMA,1VOWEL SIGN MAI KON,1SEMIVOWEL SIGN LO,3NYO
EC0 1VOWEL SIGN E,3EI,3O,3AY,3AI
EC6 1KO LA
EC8 1TONE MAI EK,3THO,3TI,3CATAWA,1CANCELLATION MARK,1NIGGAHITA
ED0 1DIGIT ZERO,2ONE,2TWO,2THREE,2FOUR,2FIVE,2SIX,2SEVEN,2EIGHT,2NINE
EDC 1HO NO,2MO,1LETTER KHMU GO,3NYO
F00 0TIBETAN SYLLABLE OM,1MARK GTER YIG MGO TRUNCATED A,5-UM RNAM BCAD MA,6GTER TSHEG+1
F04 2INITIAL YIG MGO MDUN+1,2CLOSING YIG MGO SGAB+1,2CARET YIG MGO PHUR SHAD+1,2YIG MGO TSHEG+2
F08 2SBRUL SHAD,2BSKUR YIG MGO,2BKA- SHOG+2,2INTERSYLLABIC TSHEG,2DELIMITER TSHEG BSTAR,2SHAD
F0E 2NYIS+1,2TSHEG+1,2NYIS+2,2RIN CHEN SPUNGS+1,2RGYA GRAM+1,2CARET -DZUD RTAGS ME LONG CAN
F14 2GTER TSHEG,1LOGOTYPE SIGN CHAD RTAGS,3LHAG+1,1ASTROLOGICAL SIGN SGRA GCAN -CHAR+1,3-KHYUD PA
F19 3SDONG TSHUGS,1SIGN RDEL DKAR GCIG,4GNYIS,4GSUM,3NAG GCIG,4GNYIS,3DKAR RDEL NAG,1DIGIT ZERO,2ONE
F22 2TWO,2THREE,2FOUR,2FIVE,2SIX,2SEVEN,2EIGHT,2NINE,2HALF ONE,3TWO,3THREE,3FOUR,3FIVE,3SIX,3SEVEN
F31 3EIGHT,3NINE,3ZERO,1MARK BSDUS RTAGS,2NGAS BZUNG NYI ZLA,2CARET -DZUD RTAGS BZHI MIG CAN
F37 2NGAS BZUNG SGOR RTAGS,2CHE MGO,2TSA -PHRU,2GUG RTAGS GYON,4GYAS,2ANG KHANG GYON,4GYAS
F3E 1SIGN YAR TSHES,2MAR+1,1LETTER KA,2KHA,2GA,2GHA,2NGA,2CA,2CHA,2JA
F49 2NYA,2TTA,2TTHA,2DDA,2DDHA,2NNA,2TA,2THA,2DA,2DHA,2NA,2PA,2PHA,2BA,2BHA,2MA,2TSA,2TSHA,2DZA
F5C 2DZHA,2WA,2ZHA,2ZA,2-A,2YA,2RA,2LA,2SHA,2SSA,2SA,2HA,2A,2KSSA,2FIXED-FORM RA,2KKA,2RRA
F71 1VOWEL SIGN AA,3I,3II,3U,3UU,3VOCALIC R,4RR,4L,4LL,3E,3EE,3O,3OO,1SIGN RJES SU NGA RO,2RNAM BCAD
F80 1VOWEL SIGN REVERSED I,4II,1SIGN NYI ZLA NAA DA,2SNA LDAN,1MARK HALANTA,2PALUTA,1SIGN LCI RTAGS
F87 2YANG+1,2LCE TSA CAN,2MCHU+1,2GRU CAN RGYINGS,3MED+1,2INVERTED MCHU CAN
F8D 1SUBJOINED SIGN LCE TSA+1,3MCHU+1,3INVERTED+2,2LETTER KA,3KHA,3GA,3GHA,3NGA,3CA,3CHA,3JA
F99 3NYA,3TTA,3TTHA,3DDA,3DDHA,3NNA,3TA,3THA,3DA,3DHA,3NA,3PA,3PHA,3BA,3BHA,3MA,3TSA,3TSHA,3DZA
FAC 3DZHA,3WA,3ZHA,3ZA,3-A,3YA,3RA,3LA,3SHA,3SSA,3SA,3HA,3A,3KSSA,3FIXED-FORM WA,4YA,4RA
FBE 1KU RU KHA,4BZHI MIG CAN,1CANTILLATION SIGN HEAVY BEAT,3LIGHT+1,3CANG TE-U,3SBUB -CHAL
FC4 1SYMBOL DRIL BU,2RDO RJE,2PADMA GDAN,2RDO RJE RGYA GRAM,2PHUR PA,2NOR BU,4NYIS -KHYIL,4GSUM+1
FCC 4BZHI+1
FCE 1SIGN RDEL NAG RDEL DKAR,4GSUM,1MARK BSKA- SHOG GI MGO RGYAN,2MNYAM YIG+3,2NYIS TSHEG
FD3 2INITIAL BRDA RNYING YIG MGO MDUN MA,2CLOSING BRDA RNYING YIG MGO SGAB+1
FD5 0RIGHT-FACING SVASTI SIGN,0LEFT-FACING+2,0RIGHT-FACING SVASTI SIGN WITH DOTS,0LEFT-FACING+4
FD9 0TIBETAN MARK LEADING MCHAN RTAGS,2TRAILING+2
1000 0MYANMAR LETTER KA,2KHA,2GA,2GHA,2NGA,2CA,2CHA,2JA,2JHA,2NYA,2NNYA,2TTA,2TTHA,2DDA,2DDHA,2NNA
1010 2TA,2THA,2DA,2DHA,2NA,2PA,2PHA,2BA,2BHA,2MA,2YA,2RA,2LA,2WA,2SA,2HA,2LLA,2A,2SHAN A,2I,2II,2U
1026 2UU,2E,2MON E,2O,2AU,1VOWEL SIGN TALL AA,3AA,3I,3II,3U,3UU,3E,3AI,3MON II,4O,3E ABOVE
1036 1SIGN ANUSVARA,2DOT BELOW,2VISARGA,2VIRAMA,2ASAT,1CONSONANT SIGN MEDIAL YA,4RA,4WA,4HA
103F 1LETTER GREAT SA,1DIGIT ZERO,2ONE,2TWO,2THREE,2FOUR,2FIVE,2SIX,2SEVEN,2EIGHT,2NINE
104A 1SIGN LITTLE SECTION,2+1,1SYMBOL LOCATIVE,2COMPLETED,2AFOREMENTIONED,2GENITIVE,1LETTER SHA,2SSA
1052 2VOCALIC R,3RR,3L,3LL,1VOWEL SIGN VOCALIC R,4RR,4L,4LL,1LETTER MON NGA,3JHA,3BBA,3BBE
105E 1CONSONANT SIGN MON MEDIAL NA,5MA,5LA,1LETTER SGAW KAREN SHA,1VOWEL SIGN SGAW KAREN EU
1063 1TONE MARK SGAW KAREN HATHI,5KE PHO,1LETTER WESTERN PWO KAREN THA,5PWA
1067 1VOWEL SIGN WESTERN PWO KAREN EU,6UE,1SIGN WESTERN PWO KAREN TONE-1,5TONE-2,5TONE-3,5TONE-4
106D 5TONE-5,1LETTER EASTERN PWO KAREN NNA,5YWA,5GHWA,1VOWEL SIGN GEBA KAREN I,3KAYAH OE,4U,4EE
1075 1LETTER SHAN KA,3KHA,3GA,3CA,3ZA,3NYA,3DA,3NA,3PHA,3FA,3BA,3THA,3HA
1082 1CONSONANT SIGN SHAN MEDIAL WA,1VOWEL SIGN SHAN AA,4E,5ABOVE,4FINAL Y,1SIGN SHAN TONE-2,3TONE-3
1089 3TONE-5,3TONE-6,3COUNCIL TONE-2,4TONE-3,4EMPHATIC TONE,1LETTER RUMAI PALAUNG FA
108F 1SIGN RUMAI PALAUNG TONE-5,1SHAN DIGIT ZERO,3ONE,3TWO,3THREE,3FOUR,3FIVE,3SIX,3SEVEN,3EIGHT
1099 3NINE,1SIGN KHAMTI TONE-1,3TONE-3,1VOWEL SIGN AITON A,4AI,1SYMBOL SHAN ONE,3EXCLAMATION
10A0 0GEORGIAN CAPITAL LETTER AN,3BAN,3GAN,3DON,3EN,3VIN,3ZEN,3TAN,3IN,3KAN,3LAS,3MAN,3NAR,3ON,3PAR
10AF 3ZHAR,3RAE,3SAN,3TAR,3UN,3PHAR,3KHAR,3GHAN,3QAR,3SHIN,3CHIN,3CAN,3JIL,3CIL,3CHAR,3XAN,3JHAN
10C0 3HAE,3HE,3HIE,3WE,3HAR,3HOE
10C7 3YN
10CD 3AEN
10D0 1LETTER AN,2BAN,2GAN,2DON,2EN,2VIN,2ZEN,2TAN,2IN,2KAN,2LAS,2MAN,2NAR,2ON,2PAR,2ZHAR,2RAE,2SAN
10E2 2TAR,2UN,2PHAR,2KHAR,2GHAN,2QAR,2SHIN,2CHIN,2CAN,2JIL,2CIL,2CHAR,2XAN,2JHAN,2HAE,2HE,2HIE,2WE
10F4 2HAR,2HOE,2FI,2YN,2ELIFI,2TURNED GAN,2AIN,1PARAGRAPH SEPARATOR,0MODIFIER LETTER GEORGIAN NAR
10FD 0GEORGIAN LETTER AEN,2HARD SIGN,2LABIAL+1,0HANGUL CHOSEONG KIYEOK,2SSANGKIYEOK,2NIEUN,2TIKEUT
1104 2SSANGTIKEUT,2RIEUL,2MIEUM,2PIEUP,2SSANGPIEUP,2SIOS,2SSANGSIOS,2IEUNG,2CIEUC,2SSANGCIEUC
110E 2CHIEUCH,2KHIEUKH,2THIEUTH,2PHIEUPH,2HIEUH,2NIEUN-KIYEOK,2SSANGNIEUN,2NIEUN-TIKEUT,2NIEUN-PIEUP
1117 2TIKEUT-KIYEOK,2RIEUL-NIEUN,2SSANGRIEUL,2RIEUL-HIEUH,2KAPYEOUNRIEUL,2MIEUM-PIEUP,2KAPYEOUNMIEUM
111E 2PIEUP-KIYEOK,2PIEUP-NIEUN,2PIEUP-TIKEUT,2PIEUP-SIOS,2PIEUP-SIOS-KIYEOK,2PIEUP-SIOS-TIKEUT
1124 2PIEUP-SIOS-PIEUP,2PIEUP-SSANGSIOS,2PIEUP-SIOS-CIEUC,2PIEUP-CIEUC,2PIEUP-CHIEUCH,2PIEUP-THIEUTH
112A 2PIEUP-PHIEUPH,2KAPYEOUNPIEUP,2KAPYEOUNSSANGPIEUP,2SIOS-KIYEOK,2SIOS-NIEUN,2SIOS-TIKEUT
1130 2SIOS-RIEUL,2SIOS-MIEUM,2SIOS-PIEUP,2SIOS-PIEUP-KIYEOK,2SIOS-SSANGSIOS,2SIOS-IEUNG,2SIOS-CIEUC
1137 2SIOS-CHIEUCH,2SIOS-KHIEUKH,2SIOS-THIEUTH,2SIOS-PHIEUPH,2SIOS-HIEUH,2CHITUEUMSIOS
113D 2CHITUEUMSSANGSIOS,2CEONGCHIEUMSIOS,2CEONGCHIEUMSSANGSIOS,2PANSIOS,2IEUNG-KIYEOK,2IEUNG-TIKEUT
1143 2IEUNG-MIEUM,2IEUNG-PIEUP,2IEUNG-SIOS,2IEUNG-PANSIOS,2SSANGIEUNG,2IEUNG-CIEUC,2IEUNG-CHIEUCH
114A 2IEUNG-THIEUTH,2IEUNG-PHIEUPH,2YESIEUNG,2CIEUC-IEUNG,2CHITUEUMCIEUC,2CHITUEUMSSANGCIEUC
1150 2CEONGCHIEUMCIEUC,2CEONGCHIEUMSSANGCIEUC,2CHIEUCH-KHIEUKH,2CHIEUCH-HIEUH,2CHITUEUMCHIEUCH
1155 2CEONGCHIEUMCHIEUCH,2PHIEUPH-PIEUP,2KAPYEOUNPHIEUPH,2SSANGHIEUH,2YEORINHIEUH,2KIYEOK-TIKEUT
115B 2NIEUN-SIOS,2NIEUN-CIEUC,2NIEUN-HIEUH,2TIKEUT-RIEUL,2FILLER,1JUNGSEONG+1,2A,2AE,2YA,2YAE,2EO,2E
1167 2YEO,2YE,2O,2WA,2WAE,2OE,2YO,2U,2WEO,2WE,2WI,2YU,2EU,2YI,2I,2A-O,2A-U,2YA-O,2YA-YO,2EO-O,2EO-U
117C 2EO-EU,2YEO-O,2YEO-U,2O-EO,2O-E,2O-YE,2O-O,2O-U,2YO-YA,2YO-YAE,2YO-YEO,2YO-O,2YO-I,2U-A,2U-AE
118B 2U-EO-EU,2U-YE,2U-U,2YU-A,2YU-EO,2YU-E,2YU-YEO,2YU-YE,2YU-U,2YU-I,2EU-U,2EU-EU,2YI-U,2I-A,2I-YA
119A 2I-O,2I-U,2I-EU,2I-ARAEA,2ARAEA,2ARAEA-EO,2ARAEA-U,2ARAEA-I,2SSANGARAEA,2A-EU,2YA-U,2YEO-YA
11A6 2O-YA,2O-YAE,1JONGSEONG KIYEOK,2SSANGKIYEOK,2KIYEOK-SIOS,2NIEUN,2NIEUN-CIEUC,2NIEUN-HIEUH
11AE 2TIKEUT,2RIEUL,2RIEUL-KIYEOK,2RIEUL-MIEUM,2RIEUL-PIEUP,2RIEUL-SIOS,2RIEUL-THIEUTH
11B5 2RIEUL-PHIEUPH,2RIEUL-HIEUH,2MIEUM,2PIEUP,2PIEUP-SIOS,2SIOS,2SSANGSIOS,2IEUNG,2CIEUC,2CHIEUCH
11BF 2KHIEUKH,2THIEUTH,2PHIEUPH,2HIEUH,2KIYEOK-RIEUL,2KIYEOK-SIOS-KIYEOK,2NIEUN-KIYEOK,2NIEUN-TIKEUT
11C7 2NIEUN-SIOS,2NIEUN-PANSIOS,2NIEUN-THIEUTH,2TIKEUT-KIYEOK,2TIKEUT-RIEUL,2RIEUL-KIYEOK-SIOS
11CD 2RIEUL-NIEUN,2RIEUL-TIKEUT,2RIEUL-TIKEUT-HIEUH,2SSANGRIEUL,2RIEUL-MIEUM-KIYEOK
11D2 2RIEUL-MIEUM-SIOS,2RIEUL-PIEUP-SIOS,2RIEUL-PIEUP-HIEUH,2RIEUL-KAPYEOUNPIEUP,2RIEUL-SSANGSIOS
11D7 2RIEUL-PANSIOS,2RIEUL-KHIEUKH,2RIEUL-YEORINHIEUH,2MIEUM-KIYEOK,2MIEUM-RIEUL,2MIEUM-PIEUP
11DD 2MIEUM-SIOS,2MIEUM-SSANGSIOS,2MIEUM-PANSIOS,2MIEUM-CHIEUCH,2MIEUM-HIEUH,2KAPYEOUNMIEUM
11E3 2PIEUP-RIEUL,2PIEUP-PHIEUPH,2PIEUP-HIEUH,2KAPYEOUNPIEUP,2SIOS-KIYEOK,2SIOS-TIKEUT,2SIOS-RIEUL
11EA 2SIOS-PIEUP,2PANSIOS,2IEUNG-KIYEOK,2IEUNG-SSANGKIYEOK,2SSANGIEUNG,2IEUNG-KHIEUKH,2YESIEUNG
11F1 2YESIEUNG-SIOS,2YESIEUNG-PANSIOS,2PHIEUPH-PIEUP,2KAPYEOUNPHIEUPH,2HIEUH-NIEUN,2HIEUH-RIEUL
11F7 2HIEUH-MIEUM,2HIEUH-PIEUP,2YEORINHIEUH,2KIYEOK-NIEUN,2KIYEOK-PIEUP,2KIYEOK-CHIEUCH
11FD 2KIYEOK-KHIEUKH,2KIYEOK-HIEUH,2SSANGNIEUN,0ETHIOPIC SYLLABLE HA,2HU,2HI,2HAA,2HEE,2HE,2HO,2HOA
1208 2LA,2LU,2LI,2LAA,2LEE,2LE,2LO,2LWA,2HHA,2HHU,2HHI,2HHAA,2HHEE,2HHE,2HHO,2HHWA,2MA,2MU,2MI,2MAA
121C 2MEE,2ME,2MO,2MWA,2SZA,2SZU,2SZI,2SZAA,2SZEE,2SZE,2SZO,2SZWA,2RA,2RU,2RI,2RAA,2REE,2RE,2RO,2RWA
1230 2SA,2SU,2SI,2SAA,2SEE,2SE,2SO,2SWA,2SHA,2SHU,2SHI,2SHAA,2SHEE,2SHE,2SHO,2SHWA,2QA,2QU,2QI,2QAA
1244 2QEE,2QE,2QO,2QOA,2QWA
124A 2QWI,2QWAA,2QWEE,2QWE
1250 2QHA,2QHU,2QHI,2QHAA,2QHEE,2QHE,2QHO
1258 2QHWA
125A 2QHWI,2QHWAA,2QHWEE,2QHWE
1260 2BA,2BU,2BI,2BAA,2BEE,2BE,2BO,2BWA,2VA,2VU,2VI,2VAA,2VEE,2VE,2VO,2VWA,2TA,2TU,2TI,2TAA,2TEE,2TE
1276 2TO,2TWA,2CA,2CU,2CI,2CAA,2CEE,2CE,2CO,2CWA,2XA,2XU,2XI,2XAA,2XEE,2XE,2XO,2XOA,2XWA
128A 2XWI,2XWAA,2XWEE,2XWE
1290 2NA,2NU,2NI,2NAA,2NEE,2NE,2NO,2NWA,2NYA,2NYU,2NYI,2NYAA,2NYEE,2NYE,2NYO,2NYWA,2GLOTTAL A,3U,3I
12A3 3AA,3EE,3E,3O,3WA,2KA,2KU,2KI,2KAA,2KEE,2KE,2KO,2KOA,2KWA
12B2 2KWI,2KWAA,2KWEE,2KWE
12B8 2KXA,2KXU,2KXI,2KXAA,2KXEE,2KXE,2KXO
12C0 2KXWA
12C2 2KXWI,2KXWAA,2KXWEE,2KXWE
12C8 2WA,2WU,2WI,2WAA,2WEE,2WE,2WO,2WOA,2PHARYNGEAL A,3U,3I,3AA,3EE,3E,3O
12D8 2ZA,2ZU,2ZI,2ZAA,2ZEE,2ZE,2ZO,2ZWA,2ZHA,2ZHU,2ZHI,2ZHAA,2ZHEE,2ZHE,2ZHO,2ZHWA,2YA,2YU,2YI,2YAA
12EC 2YEE,2YE,2YO,2YOA,2DA,2DU,2DI,2DAA,2DEE,2DE,2DO,2DWA,2DDA,2DDU,2DDI,2DDAA,2DDEE,2DDE,2DDO,2DDWA
1300 2JA,2JU,2JI,2JAA,2JEE,2JE,2JO,2JWA,2GA,2GU,2GI,2GAA,2GEE,2GE,2GO,2GOA,2GWA
1312 2GWI,2GWAA,2GWEE,2GWE
1318 2GGA,2GGU,2GGI,2GGAA,2GGEE,2GGE,2GGO,2GGWAA,2THA,2THU,2THI,2THAA,2THEE,2THE,2THO,2THWA,2CHA
1329 2CHU,2CHI,2CHAA,2CHEE,2CHE,2CHO,2CHWA,2PHA,2PHU,2PHI,2PHAA,2PHEE,2PHE,2PHO,2PHWA,2TSA,2TSU,2TSI
133B 2TSAA,2TSEE,2TSE,2TSO,2TSWA,2TZA,2TZU,2TZI,2TZAA,2TZEE,2TZE,2TZO,2TZOA,2FA,2FU,2FI,2FAA,2FEE
134D 2FE,2FO,2FWA,2PA,2PU,2PI,2PAA,2PEE,2PE,2PO,2PWA,2RYA,2MYA,2FYA
135D 1COMBINING GEMINATION AND VOWEL LENGTH MARK,2+3,2GEMINATION+1,1SECTION+1,1WORDSPACE,1FULL STOP
1363 1COMMA,1SEMICOLON,1COLON,1PREFACE+1,1QUESTION MARK,1PARAGRAPH SEPARATOR,1DIGIT ONE,2TWO,2THREE
136C 2FOUR,2FIVE,2SIX,2SEVEN,2EIGHT,2NINE,1NUMBER TEN,2TWENTY,2THIRTY,2FORTY,2FIFTY,2SIXTY,2SEVENTY
1379 2EIGHTY,2NINETY,2HUNDRED,2TEN THOUSAND
1380 1SYLLABLE SEBATBEIT MWA,2MWI,2MWEE,2MWE,2SEBATBEIT BWA,2BWI,2BWEE,2BWE,2SEBATBEIT FWA,2FWI
138A 2FWEE,2FWE,2SEBATBEIT PWA,2PWI,2PWEE,2PWE,1TONAL MARK YIZET,3DERET,3RIKRIK,3SHORT+1,3DIFAT
1395 3KENAT,3CHIRET,3HIDET,3DERET-HIDET,3KURT
13A0 0CHEROKEE LETTER A,2E,2I,2O,2U,2V,2GA,2KA,2GE,2GI,2GO,2GU,2GV,2HA,2HE,2HI,2HO,2HU,2HV,2LA,2LE
13B5 2LI,2LO,2LU,2LV,2MA,2ME,2MI,2MO,2MU,2NA,2HNA,2NAH,2NE,2NI,2NO,2NU,2NV,2QUA,2QUE,2QUI,2QUO,2QUU
13CB 2QUV,2SA,2S,2SE,2SI,2SO,2SU,2SV,2DA,2TA,2DE,2TE,2DI,2TI,2DO,2DU,2DV,2DLA,2TLA,2TLE,2TLI,2TLO
13E1 2TLU,2TLV,2TSA,2TSE,2TSI,2TSO,2TSU,2TSV,2WA,2WE,2WI,2WO,2WU,2WV,2YA,2YE,2YI,2YO,2YU,2YV,2MV
13F8 1SMALL LETTER YE,3YI,3YO,3YU,3YV,3MV
1400 0CANADIAN SYLLABICS HYPHEN,2E,2AAI,2I,2II,2O,2OO,2Y-CREE+1,2CARRIER EE,3I,2A,2AA,2WE
140D 2WEST-CREE+1,2WI,2WEST-CREE+1,2WII,2WEST-CREE+1,2WO,2WEST-CREE+1,2WOO,2WEST-CREE+1,2NASKAPI+1
1417 2WA,2WEST-CREE+1,2WAA,2WEST-CREE+1,2NASKAPI+1,2AI,2Y-CREE W,2GLOTTAL STOP,2FINAL ACUTE,3GRAVE
1421 3BOTTOM HALF RING,3TOP+2,3RIGHT+2,3+1,3DOUBLE ACUTE,4SHORT VERTICAL STROKES,3MIDDLE DOT
1428 3SHORT HORIZONTAL STROKE,3PLUS,3DOWN TACK,2EN,2IN,2ON,2AN,2PE,2PAAI,2PI,2PII,2PO,2POO,2Y-CREE+1
1436 2CARRIER HEE,3HI,2PA,2PAA,2PWE,2WEST-CREE+1,2PWI,2WEST-CREE+1,2PWII,2WEST-CREE+1,2PWO
1441 2WEST-CREE+1,2PWOO,2WEST-CREE+1,2PWA,2WEST-CREE+1,2PWAA,2WEST-CREE+1,2Y-CREE+1,2P,2WEST-CREE P
144B 2CARRIER H,2TE,2TAAI,2TI,2TII,2TO,2TOO,2Y-CREE+1,2CARRIER DEE,3DI,2TA,2TAA,2TWE,2WEST-CREE+1
1459 2TWI,2WEST-CREE+1,2TWII,2WEST-CREE+1,2TWO,2WEST-CREE+1,2TWOO,2WEST-CREE+1,2TWA,2WEST-CREE+1
1463 2TWAA,2WEST-CREE+1,2NASKAPI+1,2T,2TTE,2TTI,2TTO,2TTA,2KE,2KAAI,2KI,2KII,2KO,2KOO,2Y-CREE+1,2KA
1473 2KAA,2KWE,2WEST-CREE+1,2KWI,2WEST-CREE+1,2KWII,2WEST-CREE+1,2KWO,2WEST-CREE+1,2KWOO
147D 2WEST-CREE+1,2KWA,2WEST-CREE+1,2KWAA,2WEST-CREE+1,2NASKAPI+1,2K,2KW,2SOUTH-SLAVEY KEH,3KIH,3KOH
1488 3KAH,2CE,2CAAI,2CI,2CII,2CO,2COO,2Y-CREE+1,2CA,2CAA,2CWE,2WEST-CREE+1,2CWI,2WEST-CREE+1,2CWII
1497 2WEST-CREE+1,2CWO,2WEST-CREE+1,2CWOO,2WEST-CREE+1,2CWA,2WEST-CREE+1,2CWAA,2WEST-CREE+1
14A0 2NASKAPI+1,2C,2SAYISI TH,2ME,2MAAI,2MI,2MII,2MO,2MOO,2Y-CREE+1,2MA,2MAA,2MWE,2WEST-CREE+1,2MWI
14AF 2WEST-CREE+1,2MWII,2WEST-CREE+1,2MWO,2WEST-CREE+1,2MWOO,2WEST-CREE+1,2MWA,2WEST-CREE+1,2MWAA
14B9 2WEST-CREE+1,2NASKAPI+1,2M,2WEST-CREE M,2MH,2ATHAPASCAN M,2SAYISI M,2NE,2NAAI,2NI,2NII,2NO,2NOO
14C6 2Y-CREE+1,2NA,2NAA,2NWE,2WEST-CREE+1,2NWA,2WEST-CREE+1,2NWAA,2WEST-CREE+1,2NASKAPI+1,2N
14D1 2CARRIER NG,2NH,2LE,2LAAI,2LI,2LII,2LO,2LOO,2Y-CREE+1,2LA,2LAA,2LWE,2WEST-CREE+1,2LWI
14DF 2WEST-CREE+1,2LWII,2WEST-CREE+1,2LWO,2WEST-CREE+1,2LWOO,2WEST-CREE+1,2LWA,2WEST-CREE+1,2LWAA
14E9 2WEST-CREE+1,2L,2WEST-CREE L,2MEDIAL L,2SE,2SAAI,2SI,2SII,2SO,2SOO,2Y-CREE+1,2SA,2SAA,2SWE
14F7 2WEST-CREE+1,2SWI,2WEST-CREE+1,2SWII,2WEST-CREE+1,2SWO,2WEST-CREE+1,2SWOO,2WEST-CREE+1,2SWA
1501 2WEST-CREE+1,2SWAA,2WEST-CREE+1,2NASKAPI+1,2S,2ATHAPASCAN S,2SW,2BLACKFOOT S,2MOOSE-CREE SK
150A 2NASKAPI SKW,3S-W,3SPWA,3STWA,3SKWA,3SCWA,2SHE,2SHI,2SHII,2SHO,2SHOO,2SHA,2SHAA,2SHWE
1518 2WEST-CREE+1,2SHWI,2WEST-CREE+1,2SHWII,2WEST-CREE+1,2SHWO,2WEST-CREE+1,2SHWOO,2WEST-CREE+1
1521 2SHWA,2WEST-CREE+1,2SHWAA,2WEST-CREE+1,2SH,2YE,2YAAI,2YI,2YII,2YO,2YOO,2Y-CREE+1,2YA,2YAA,2YWE
1530 2WEST-CREE+1,2YWI,2WEST-CREE+1,2YWII,2WEST-CREE+1,2YWO,2WEST-CREE+1,2YWOO,2WEST-CREE+1,2YWA
153A 2WEST-CREE+1,2YWAA,2WEST-CREE+1,2NASKAPI+1,2Y,2BIBLE-CREE Y,2WEST-CREE Y,2SAYISI YI,2RE
1543 2R-CREE+1,2WEST-CREE LE,2RAAI,2RI,2RII,2RO,2ROO,2WEST-CREE LO,2RA,2RAA,2WEST-CREE LA,2RWAA
154F 2WEST-CREE+1,2R,2WEST-CREE R,2MEDIAL R,2FE,2FAAI,2FI,2FII,2FO,2FOO,2FA,2FAA,2FWAA,2WEST-CREE+1
155D 2F,2THE,2N-CREE+1,2THI,2N-CREE+1,2THII,2N-CREE+1,2THO,2THOO,2THA,2THAA,2THWAA,2WEST-CREE+1,2TH
156B 2TTHE,2TTHI,2TTHO,2TTHA,2TTH,2TYE,2TYI,2TYO,2TYA,2NUNAVIK HE,3HI,3HII,3HO,3HOO,3HA,3HAA,3H
157C 2NUNAVUT H,2HK,2QAAI,2QI,2QII,2QO,2QOO,2QA,2QAA,2Q,2TLHE,2TLHI,2TLHO,2TLHA,2WEST-CREE RE,3RI
158C 3RO,3RA,2NGAAI,2NGI,2NGII,2NGO,2NGOO,2NGA,2NGAA,2NG,2NNG,2SAYISI SHE,3SHI,3SHO,3SHA
159B 2WOODS-CREE THE,3THI,3THO,3THA,3TH,2LHI,2LHII,2LHO,2LHOO,2LHA,2LHAA,2LH,2TH-CREE THE,3THI,3THII
15AA 3THO,3THOO,3THA,3THAA,3TH,2AIVILIK B,2BLACKFOOT E,3I,3O,3A,3WE,3WI,3WO,3WA,3NE,3NI,3NO,3NA,3KE
15BD 3KI,3KO,3KA,2SAYISI HE,3HI,3HO,3HA,2CARRIER GHU,3GHO,3GHE,3GHEE,3GHI,3GHA,3RU,3RO,3RE,3REE,3RI
15CF 3RA,3WU,3WO,3WE,3WEE,3WI,3WA,3HWU,3HWO,3HWE,3HWEE,3HWI,3HWA,3THU,3THO,3THE,3THEE,3THI,3THA,3TTU
15E3 3TTO,3TTE,3TTEE,3TTI,3TTA,3PU,3PO,3PE,3PEE,3PI,3PA,3P,3GU,3GO,3GE,3GEE,3GI,3GA,3KHU,3KHO,3KHE
15F8 3KHEE,3KHI,3KHA,3KKU,3KKO,3KKE,3KKEE,3KKI,3KKA,3KK,3NU,3NO,3NE,3NEE,3NI,3NA,3MU,3MO,3ME,3MEE
160C 3MI,3MA,3YU,3YO,3YE,3YEE,3YI,3YA,3JU,2SAYISI+1,2CARRIER JO,3JE,3JEE,3JI,2SAYISI+1,2CARRIER JA
161C 3JJU,3JJO,3JJE,3JJEE,3JJI,3JJA,3LU,3LO,3LE,3LEE,3LI,3LA,3DLU,3DLO,3DLE,3DLEE,3DLI,3DLA,3LHU
162F 3LHO,3LHE,3LHEE,3LHI,3LHA,3TLHU,3TLHO,3TLHE,3TLHEE,3TLHI,3TLHA,3TLU,3TLO,3TLE,3TLEE,3TLI,3TLA
1640 3ZU,3ZO,3ZE,3ZEE,3ZI,3ZA,3Z,3INITIAL Z,3DZU,3DZO,3DZE,3DZEE,3DZI,3DZA,3SU,3SO,3SE,3SEE,3SI,3SA
1654 3SHU,3SHO,3SHE,3SHEE,3SHI,3SHA,3SH,3TSU,3TSO,3TSE,3TSEE,3TSI,3TSA,3CHU,3CHO,3CHE,3CHEE,3CHI
1666 3CHA,3TTSU,3TTSO,3TTSE,3TTSEE,3TTSI,3TTSA,2CHI SIGN,2FULL STOP,2QAI,2NGAI,2NNGI,2NNGII,2NNGO
1674 2NNGOO,2NNGA,2NNGAA,2WOODS-CREE THWEE,3THWI,3THWII,3THWO,3THWOO,3THWA,3THWAA,3FINAL TH
167F 2BLACKFOOT W,0OGHAM SPACE MARK,1LETTER BEITH,2LUIS,2FEARN,2SAIL,2NION,2UATH,2DAIR,2TINNE,2COLL
168A 2CEIRT,2MUIN,2GORT,2NGEADAL,2STRAIF,2RUIS,2AILM,2ONN,2UR,2EADHADH,2IODHADH,2EABHADH,2OR
1697 2UILLEANN,2IFIN,2EAMHANCHOLL,2PEITH,1FEATHER MARK,1REVERSED+2
16A0 0RUNIC LETTER FEHU FEOH FE F,2V,2URUZ UR U,2YR,2Y,2W,2THURISAZ THURS THORN,2ETH,2ANSUZ A,2OS O
16AA 2AC A,2AESC,2LONG-BRANCH-OSS O,2SHORT-TWIG-OSS O,2O,2OE,2ON,2RAIDO RAD REID R,2KAUNA,2CEN
16B4 2KAUN K,2G,2ENG,2GEBO GYFU G,2GAR,2WUNJO WYNN W,2HAGLAZ H,2HAEGL H,2LONG-BRANCH-HAGALL H
16BD 2SHORT-TWIG-HAGALL H,2NAUDIZ NYD NAUD N,2SHORT-TWIG-NAUD N,2DOTTED-N,2ISAZ IS ISS I,2E,2JERAN J
16C4 2GER,2LONG-BRANCH-AR AE,2SHORT-TWIG-AR A,2IWAZ EOH,2PERTHO PEORTH P,2ALGIZ EOLHX,2SOWILO S
16CB 2SIGEL LONG-BRANCH-SOL S,2SHORT-TWIG-SOL S,2C,2Z,2TIWAZ TIR TYR T,2SHORT-TWIG-TYR T,2D
16D2 2BERKANAN BEORC BJARKAN B,2SHORT-TWIG-BJARKAN B,2DOTTED-P,2OPEN-P,2EHWAZ EH E,2MANNAZ MAN M
16D8 2LONG-BRANCH-MADR M,2SHORT-TWIG-MADR M,2LAUKAZ LAGU LOGR L,2DOTTED-L,2INGWAZ,2ING,2DAGAZ DAEG D
16DF 2OTHALAN ETHEL O,2EAR,2IOR,2CWEORTH,2CALC,2CEALC,2STAN,2LONG-BRANCH-YR,2SHORT-TWIG-YR
16E8 2ICELANDIC-YR,2Q,2X,1SINGLE PUNCTUATION,1MULTIPLE+1,1CROSS+1,1ARLAUG SYMBOL,1TVIMADUR+1
16F0 1BELGTHOR+1,1LETTER K,2SH,2OO,2FRANKS CASKET OS,4IS,4EH,4AC,4AESC
1700 0TAGALOG LETTER A,2I,2U,2KA,2GA,2NGA,2TA,2DA,2NA,2PA,2BA,2MA,2YA,2RA,2LA,2WA,2SA,2HA
1712 1VOWEL SIGN I,3U,1SIGN VIRAMA,2PAMUDPOD
171F 1LETTER ARCHAIC RA,0HANUNOO LETTER A,2I,2U,2KA,2GA,2NGA,2TA,2DA,2NA,2PA,2BA,2MA,2YA,2RA,2LA,2WA
1730 2SA,2HA,1VOWEL SIGN I,3U,1SIGN PAMUDPOD,0PHILIPPINE SINGLE PUNCTUATION,1DOUBLE+1
1740 0BUHID LETTER A,2I,2U,2KA,2GA,2NGA,2TA,2DA,2NA,2PA,2BA,2MA,2YA,2RA,2LA,2WA,2SA,2HA
1752 1VOWEL SIGN I,3U
1760 0TAGBANWA LETTER A,2I,2U,2KA,2GA,2NGA,2TA,2DA,2NA,2PA,2BA,2MA,2YA
176E 2LA,2WA,2SA
1772 1VOWEL SIGN I,3U
1780 0KHMER LETTER KA,2KHA,2KO,2KHO,2NGO,2CA,2CHA,2CO,2CHO,2NYO,2DA,2TTHA,2DO,2TTHO,2NNO,2TA,2THA
1791 2TO,2THO,2NO,2BA,2PHA,2PO,2PHO,2MO,2YO,2RO,2LO,2VO,2SHA,2SSO,2SA,2HA,2LA,2QA
17A3 1INDEPENDENT VOWEL QAQ,3QAA,3QI,3QII,3QU,3QUK,3QUU,3QUUV,3RY,3RYY,3LY,3LYY,3QE,3QAI
17B1 3QOO TYPE ONE,5TWO,3QAU,1VOWEL INHERENT AQ,3AA,2SIGN+1,3I,3II,3Y,3YY,3U,3UU,3UA,3OE,3YA,3IE,3E
17C2 3AE,3AI,3OO,3AU,1SIGN NIKAHIT,2REAHMUK,2YUUKALEAPINTU,2MUUSIKATOAN,2TRIISAP,2BANTOC,2ROBAT
17CD 2TOANDAKHIAT,2KAKABAT,2AHSDA,2SAMYOK SANNYA,2VIRIAM,2COENG,2BATHAMASAT,2KHAN,2BARIYOOSAN
17D6 2CAMNUC PII KUUH,2LEK TOO,2BEYYAL,2PHNAEK MUAN,2KOOMUUT,1CURRENCY SYMBOL RIEL
17DC 1SIGN AVAKRAHASANYA,2ATTHACAN
17E0 1DIGIT ZERO,2ONE,2TWO,2THREE,2FOUR,2FIVE,2SIX,2SEVEN,2EIGHT,2NINE
17F0 1SYMBOL LEK ATTAK SON,4MUOY,4PII,4BEI,4BUON,4PRAM,4PRAM-MUOY,4PRAM-PII,4PRAM-BEI,4PRAM-BUON
1800 0MONGOLIAN BIRGA,1ELLIPSIS,1COMMA,1FULL STOP,1COLON,1FOUR DOTS,1TODO SOFT HYPHEN
1807 1SIBE SYLLABLE BOUNDARY MARKER,1MANCHU COMMA,2FULL STOP,1NIRUGU,1FREE VARIATION SELECTOR ONE
180C 4TWO,4THREE,1VOWEL SEPARATOR,1FREE VARIATION SELECTOR FOUR,1DIGIT ZERO,2ONE,2TWO,2THREE,2FOUR
1815 2FIVE,2SIX,2SEVEN,2EIGHT,2NINE
1820 1LETTER A,2E,2I,2O,2U,2OE,2UE,2EE,2NA,2ANG,2BA,2PA,2QA,2GA,2MA,2LA,2SA,2SHA,2TA,2DA,2CHA,2JA
1836 2YA,2RA,2WA,2FA,2KA,2KHA,2TSA,2ZA,2HAA,2ZRA,2LHA,2ZHI,2CHI,2TODO LONG VOWEL SIGN,3E,3I,3O,3U
1848 3OE,3UE,3ANG,3BA,3PA,3QA,3GA,3MA,3TA,3DA,3CHA,3JA,3TSA,3YA,3WA,3KA,3GAA,3HAA,3JIA,3NIA,3DZA
185D 2SIBE E,3I,3IY,3UE,3U,3ANG,3KA,3GA,3HA,3PA,3SHA,3TA,3DA,3JA,3FA,3GAA,3HAA,3TSA,3ZA,3RAA,3CHA
1872 3ZHA,2MANCHU I,3KA,3RA,3FA,3ZHA,2CHA WITH TWO DOTS
1880 2ALI GALI ANUSVARA ONE,4VISARGA+1,4DAMARU,4UBADAMA,4INVERTED+1,4BALUDA,4THREE+1,4A,4I,4KA,4NGA
188B 4CA,4TTA,4TTHA,4DDA,4NNA,4TA,4DA,4PA,4PHA,4SSA,4ZHA,4ZA,4AH,2TODO ALI GALI TA,5ZHA
189A 2MANCHU ALI GALI GHA,5NGA,5CA,5JHA,5TTA,5DDHA,5TA,5DHA,5SSA,5CYA,5ZHA,5ZA,2ALI GALI HALF U,5YA
18A8 2MANCHU ALI GALI BHA,2ALI GALI DAGALGA,2MANCHU ALI GALI LHA
18B0 0CANADIAN SYLLABICS OY,2AY,2AAY,2WAY,2POY,2PAY,2PWOY,2TAY,2KAY,2KWAY,2MAY,2NOY,2NAY,2LAY,2SOY
18BF 2SAY,2SHOY,2SHAY,2SHWOY,2YOY,2YAY,2RAY,2NWI,2OJIBWAY+1,2NWII,2OJIBWAY+1,2NWO,2OJIBWAY+1,2NWOO
18CD 2OJIBWAY+1,2RWEE,2RWI,2RWII,2RWO,2RWOO,2RWA,2OJIBWAY P,3T,3K,3C,3M,3N,3S,3SH,2EASTERN W
18DD 2WESTERN W,2FINAL SMALL RING,3RAISED DOT,2R-CREE RWE,2WEST-CREE LOO,3LAA,2THWE,2THWA,2TTHWE
18E6 2TTHOO,2TTHAA,2TLHWE,2TLHOO,2SAYISI SHWE,3SHOO,3HOO,2CARRIER GWU,3DENE GEE,3GAA,3GWA
18F1 2SAYISI JUU,2CARRIER JWA,2BEAVER DENE L,4R,2CARRIER DENTAL S
1900 0LIMBU VOWEL-CARRIER LETTER,1LETTER KA,2KHA,2GA,2GHA,2NGA,2CA,2CHA,2JA,2JHA,2YAN,2TA,2THA,2DA
190E 2DHA,2NA,2PA,2PHA,2BA,2BHA,2MA,2YA,2RA,2LA,2WA,2SHA,2SSA,2SA,2HA,2GYAN,2TRA
1920 1VOWEL SIGN A,3I,3U,3EE,3AI,3OO,3AU,3E,3O,1SUBJOINED LETTER YA,3RA,3WA
1930 1SMALL LETTER KA,3NGA,3ANUSVARA,3TA,3NA,3PA,3MA,3RA,3LA,1SIGN MUKPHRENG,2KEMPHRENG,2SA-I
1940 2LOO
1944 1EXCLAMATION MARK,1QUESTION+1,1DIGIT ZERO,2ONE,2TWO,2THREE,2FOUR,2FIVE,2SIX,2SEVEN,2EIGHT,2NINE
1950 0TAI LE LETTER KA,3XA,3NGA,3TSA,3SA,3YA,3TA,3THA,3LA,3PA,3PHA,3MA,3FA,3VA,3HA,3QA,3KHA,3TSHA
1962 3NA,3A,3I,3EE,3EH,3U,3OO,3O,3UE,3E,3AUE,3AI
1970 3TONE-2,3TONE-3,3TONE-4,3TONE-5,3TONE-6
1980 0NEW TAI LUE LETTER HIGH QA,4LOW+1,4HIGH KA,5XA,5NGA,4LOW KA,5XA,5NGA,4HIGH TSA,5SA,5YA
198B 4LOW TSA,5SA,5YA,4HIGH TA,5THA,5NA,4LOW TA,5THA,5NA,4HIGH PA,5PHA,5MA,4LOW PA,5PHA,5MA,4HIGH FA
199B 5VA,5LA,4LOW FA,5VA,5LA,4HIGH HA,5DA,5BA,4LOW HA,5DA,5BA,4HIGH KVA,5XVA,4LOW KVA,5XVA,4HIGH SUA
19AB 4LOW+1
19B0 3VOWEL SIGN VOWEL SHORTENER,5AA,5II,5U,5UU,5E,5AE,5O,5OA,5UE,5AY,5AAY,5UY,5OY,5OAY,5UEY,5IY
19C1 3LETTER FINAL V,5NG,5N,5M,5K,5D,5B,3TONE MARK-1,4MARK-2
19D0 3DIGIT ZERO,4ONE,4TWO,4THREE,4FOUR,4FIVE,4SIX,4SEVEN,4EIGHT,4NINE,3THAM DIGIT ONE
19DE 3SIGN LAE,4LAEV,0KHMER SYMBOL PATHAMASAT,2MUOY KOET,2PII+1,2BEI+1,2BUON+1,2PRAM+1,2PRAM-MUOY+1
19E7 2PRAM-PII+1,2PRAM-BEI+1,2PRAM-BUON+1,2DAP+1,2DAP-MUOY+1,2DAP-PII+1,2DAP-BEI+1,2DAP-BUON+1
19EF 2DAP-PRAM+1,2TUTEYASAT,2MUOY ROC,2PII+1,2BEI+1,2BUON+1,2PRAM+1,2PRAM-MUOY+1,2PRAM-PII+1
19F8 2PRAM-BEI+1,2PRAM-BUON+1,2DAP+1,2DAP-MUOY+1,2DAP-PII+1,2DAP-BEI+1,2DAP-BUON+1,2DAP-PRAM+1
1A00 0BUGINESE LETTER KA,2GA,2NGA,2NGKA,2PA,2BA,2MA,2MPA,2TA,2DA,2NA,2NRA,2CA,2JA,2NYA,2NYCA,2YA,2RA
1A12 2LA,2VA,2SA,2A,2HA,1VOWEL SIGN I,3U,3E,3O,3AE
1A1E 1PALLAWA,1END OF SECTION,0TAI THAM LETTER HIGH KA,4KHA,4KXA,3LOW KA,4KXA,4KHA,3NGA,3HIGH CA
1A28 4CHA,3LOW CA,4SA,4CHA,3NYA,3RATA,3HIGH RATHA,3DA,3LOW RATHA,3RANA,3HIGH TA,4THA,3LOW TA,4THA
1A36 3NA,3BA,3HIGH PA,4PHA,4FA,3LOW PA,4FA,4PHA,3MA,3LOW YA,3HIGH+1,3RA,3RUE,3LA,3LUE,3WA,3HIGH SHA
1A47 4SSA,4SA,4HA,3LLA,3A,3LOW HA,3I,3II,3U,3UU,3EE,3OO,3LAE,3GREAT SA,2CONSONANT SIGN MEDIAL RA,5LA
1A57 4LA TANG LAI,2SIGN MAI KANG+1,2CONSONANT SIGN FINAL NGA,4LOW PA,4HIGH RATHA OR+2,4MA,4BA,4SA
1A60 2SIGN SAKOT,2VOWEL SIGN A,4MAI SAT,4AA,4TALL+1,4I,4II,4UE,4UUE,4U,4UU,4O,4OA BELOW,4OY,4E,4AE
1A70 4OO,4AI,4THAM+1,4OA ABOVE,2SIGN MAI KANG,3TONE-1,3TONE-2,3KHUEN TONE-3,4TONE-4,4TONE-5,3RA HAAM
1A7B 3MAI SAM,3KHUEN-LUE KARAN
1A7F 2COMBINING CRYPTOGRAMMIC DOT,2HORA DIGIT ZERO,4ONE,4TWO,4THREE,4FOUR,4FIVE,4SIX,4SEVEN,4EIGHT
1A89 4NINE
1A90 2THAM DIGIT ZERO,4ONE,4TWO,4THREE,4FOUR,4FIVE,4SIX,4SEVEN,4EIGHT,4NINE
1AA0 2SIGN WIANG,3WIANGWAAK,3SAWAN,3KEOW,3HOY,3DOKMAI,3REVERSED ROTATED RANA,3MAI YAMOK,3KAAN
1AA9 3KAANKUU,3SATKAAN,3SATKAANKUU,3HANG,3CAANG
1AB0 0COMBINING DOUBLED CIRCUMFLEX ACCENT,1DIAERESIS-RING,1INFINITY,1DOWNWARDS ARROW,1TRIPLE DOT
1AB5 1X-X BELOW,1WIGGLY LINE+1,1OPEN MARK+1,1DOUBLE+3,1LIGHT CENTRALIZATION STROKE+1,1STRONG+3
1ABB 1PARENTHESES ABOVE,1DOUBLE+2,1PARENTHESES BELOW,2OVERLAY,1LATIN SMALL LETTER W BELOW,4TURNED+2
1AC1 1LEFT PARENTHESIS ABOVE LEFT,1RIGHT PARENTHESIS ABOVE RIGHT,1LEFT PARENTHESIS BELOW LEFT
1AC4 1RIGHT PARENTHESIS BELOW RIGHT,1SQUARE BRACKETS ABOVE,1NUMBER SIGN+1,1INVERTED DOUBLE ARCH+1
1AC8 1PLUS SIGN+1,1DOUBLE+3,4BELOW,1TRIPLE ACUTE ACCENT,1LATIN SMALL LETTER INSULAR G,5R,5T
1B00 0BALINESE SIGN ULU RICEM,3CANDRA,2CECEK,2SURANG,2BISAH,1LETTER AKARA,3TEDUNG,2IKARA,3TEDUNG
1B09 2UKARA,3TEDUNG,2RA REPA,4TEDUNG,2LA LENGA,4TEDUNG,2EKARA,2AIKARA,2OKARA,3TEDUNG,2KA,3MAHAPRANA
1B15 2GA,3GORA,2NGA,2CA,3LACA,2JA,3JERA,2NYA,2TA LATIK,3MURDA MAHAPRANA,2DA MURDA ALPAPRANA
1B20 4MAHAPRANA,2NA RAMBAT,2TA,3TAWA,2DA,3MADU,2NA,2PA,3KAPAL,2BA,3KEMBANG,2MA,2YA,2RA,2LA,2WA
1B30 2SA SAGA,3SAPA,3,2HA,1SIGN REREKAN,1VOWEL SIGN TEDUNG,3ULU,4SARI,3SUKU,4ILUT,3RA REPA,5TEDUNG
1B3C 3LA LENGA,5TEDUNG,3TALING,4REPA,4TEDUNG,4REPA+1,3PEPET,4TEDUNG,1ADEG ADEG,1LETTER KAF SASAK
1B46 2KHOT+1,2TZIR+1,2EF+1,2VE+1,2ZAL+1,2ASYURA+1,2ARCHAIC JNYA
1B50 1DIGIT ZERO,2ONE,2TWO,2THREE,2FOUR,2FIVE,2SIX,2SEVEN,2EIGHT,2NINE,1PANTI,1PAMADA,1WINDU
1B5D 1CARIK PAMUNGKAH,2SIKI,2PAREREN,1PAMENENG,1MUSICAL SYMBOL DONG,3DENG,3DUNG,3DANG,4SURANG,3DING
1B67 3DAENG,3DEUNG,3DAING,3DANG GEDE,3COMBINING TEGEH,4ENDEP,4KEMPUL,4KEMPLI,4JEGOGAN,4KEMPUL WITH+1
1B71 4KEMPLI+2,4BENDE,4GONG,3RIGHT-HAND OPEN DUG,5DAG,4CLOSED TUK,5TAK,3LEFT-HAND OPEN PANG,5PUNG
1B7A 4CLOSED PLAK,5PLUK,4OPEN PING,1PANTI LANTANG,1PAMADA+1
1B80 0SUNDANESE SIGN PANYECEK,2PANGLAYAR,2PANGWISAD,1LETTER A,2I,2U,2AE,2O,2E,2EU,2KA,2QA,2GA,2NGA
1B8E 2CA,2JA,2ZA,2NYA,2TA,2DA,2NA,2PA,2FA,2VA,2BA,2MA,2YA,2RA,2LA,2WA,2SA,2XA,2HA
1BA1 1CONSONANT SIGN PAMINGKAL,3PANYAKRA,3PANYIKU,1VOWEL SIGN PANGHULU,3PANYUKU,3PANAELAENG
1BA7 3PANOLONG,3PAMEPET,3PANEULEUNG,1SIGN PAMAAEH,2VIRAMA,1CONSONANT SIGN PASANGAN MA,4WA
1BAE 1LETTER KHA,2SYA,1DIGIT ZERO,2ONE,2TWO,2THREE,2FOUR,2FIVE,2SIX,2SEVEN,2EIGHT,2NINE,1AVAGRAHA
1BBB 1LETTER REU,2LEU,2BHA,2FINAL K,3M,0BATAK LETTER A,2SIMALUNGUN A,2HA,2SIMALUNGUN+1,2MANDAILING+1
1BC5 2BA,2KARO+1,2PA,2SIMALUNGUN+1,2NA,2MANDAILING+1,2WA,2SIMALUNGUN+1,2PAKPAK+1,2GA,2SIMALUNGUN+1
1BD0 2JA,2DA,2RA,2SIMALUNGUN+1,2MA,2SIMALUNGUN+1,2SOUTHERN TA,2NORTHERN+1,2SA,2SIMALUNGUN+1
1BDA 2MANDAILING+1,2YA,2SIMALUNGUN+1,2NGA,2LA,2SIMALUNGUN+1,2NYA,2CA,2NDA,2MBA,2I,2U,1SIGN TOMPI
1BE7 1VOWEL SIGN E,3PAKPAK E,3EE,3I,3KARO I,3O,3KARO O,3U,4FOR SIMALUNGUN SA,1CONSONANT SIGN NG,3H
1BF2 1PANGOLAT,1PANONGONAN
1BFC 1SYMBOL BINDU NA METEK,3PINARBORAS,3JUDUL,3PANGOLAT,0LEPCHA LETTER KA,2KLA,2KHA,2GA,2GLA,2NGA
1C06 2CA,2CHA,2JA,2NYA,2TA,2THA,2DA,2NA,2PA,2PLA,2PHA,2FA,2FLA,2BA,2BLA,2MA,2MLA,2TSA,2TSHA,2DZA,2YA
1C1B 2RA,2LA,2HA,2HLA,2VA,2SA,2SHA,2WA,2A,1SUBJOINED LETTER YA,3RA,1VOWEL SIGN AA,3I,3O,3OO,3U,3UU
1C2C 3E,1CONSONANT SIGN K,3M,3L,3N,3P,3R,3T,3NYIN-DO,3KANG,1SIGN RAN,2NUKTA
1C3B 1PUNCTUATION TA-ROL,2NYET THYOOM+1,2CER-WA,2TSHOOK+1,3,1DIGIT ZERO,2ONE,2TWO,2THREE,2FOUR,2FIVE
1C46 2SIX,2SEVEN,2EIGHT,2NINE
1C4D 1LETTER TTA,2TTHA,2DDA,0OL CHIKI DIGIT ZERO,3ONE,3TWO,3THREE,3FOUR,3FIVE,3SIX,3SEVEN,3EIGHT
1C59 3NINE,2LETTER LA,3AT,3AG,3ANG,3AL,3LAA,3AAK,3AAJ,3AAM,3AAW,3LI,3IS,3IH,3INY,3IR,3LU,3UC,3UD
1C6C 3UNN,3UY,3LE,3EP,3EDD,3EN,3ERR,3LO,3OTT,3OB,3OV,3OH,2MU TTUDDAG,2GAAHLAA TTUDDAAG,2MU-GAAHLAA+1
1C7B 2RELAA,2PHAARKAA,2AHAD,2PUNCTUATION MUCAAD,3DOUBLE+1,0CYRILLIC SMALL LETTER ROUNDED VE
1C81 3LONG-LEGGED DE,3NARROW O,3WIDE ES,3TALL TE,3THREE-LEGGED+1,3TALL HARD SIGN,4YAT,3UNBLENDED UK
1C90 0GEORGIAN MTAVRULI CAPITAL LETTER AN,4BAN,4GAN,4DON,4EN,4VIN,4ZEN,4TAN,4IN,4KAN,4LAS,4MAN,4NAR
1C9D 4ON,4PAR,4ZHAR,4RAE,4SAN,4TAR,4UN,4PHAR,4KHAR,4GHAN,4QAR,4SHIN,4CHIN,4CAN,4JIL,4CIL,4CHAR,4XAN
1CAF 4JHAN,4HAE,4HE,4HIE,4WE,4HAR,4HOE,4FI,4YN,4ELIFI,4TURNED GAN,4AIN
1CBD 4AEN,4HARD SIGN,4LABIAL+1,0SUNDANESE PUNCTUATION BINDU SURYA,3PANGLONG,3PURNAMA,3CAKRA
1CC4 3LEU SATANGA,3KA+1,3DA+1,3BA+1
1CD0 0VEDIC TONE KARSHANA,2SHARA,2PRENKHA,1SIGN NIHSHVASA,2YAJURVEDIC MIDLINE SVARITA
1CD5 1TONE YAJURVEDIC AGGRAVATED INDEPENDENT+1,3+2,3KATHAKA+2,2CANDRA BELOW
1CD9 2YAJURVEDIC KATHAKA INDEPENDENT SVARITA SCHROEDER,2DOUBLE SVARITA,2TRIPLE+1,2KATHAKA ANUDATTA
1CDD 2DOT BELOW,2TWO DOTS+1,2THREE+2,2RIGVEDIC KASHMIRI INDEPENDENT SVARITA,2ATHARVAVEDIC+2
1CE2 1SIGN VISARGA+1,3UDATTA,2REVERSED+2,2VISARGA ANUDATTA,2REVERSED+2,2VISARGA UDATTA WITH TAIL
1CE8 3ANUDATTA+2,2ANUSVARA ANTARGOMUKHA,3BAHIRGOMUKHA,3VAMAGOMUKHA,4WITH TAIL,2TIRYAK
1CEE 2HEXIFORM LONG ANUSVARA,2+2,2RTHANG+2,2ANUSVARA UBHAYATO MUKHA,2ARDHAVISARGA,2ROTATED+1
1CF4 1TONE CANDRA ABOVE,1SIGN JIHVAMULIYA,2UPADHMANIYA,2ATIKRAMA,1TONE RING ABOVE,2DOUBLE+2
1CFA 1SIGN DOUBLE ANUSVARA ANTARGOMUKHA
1D00 0LATIN LETTER SMALL CAPITAL A,4AE,1SMALL LETTER TURNED+1,1LETTER SMALL CAPITAL BARRED B,4C,4D
1D06 4ETH,4E,1SMALL LETTER TURNED OPEN E,4I,1LETTER SMALL CAPITAL J,4K,4L WITH STROKE,4M,4REVERSED N
1D0F 4O,4OPEN O,1SMALL LETTER SIDEWAYS O,4OPEN O,4O WITH STROKE,3TURNED OE,1LETTER SMALL CAPITAL OU
1D16 1SMALL LETTER TOP HALF O,3BOTTOM+2,1LETTER SMALL CAPITAL P,4REVERSED R,4TURNED R,4T,4U
1D1D 1SMALL LETTER SIDEWAYS U,4DIAERESIZED U,4TURNED M,1LETTER SMALL CAPITAL V,4W,4Z,4EZH
1D24 2VOICED LARYNGEAL SPIRANT,2AIN,0GREEK LETTER SMALL CAPITAL GAMMA,4LAMDA,4PI,4RHO,4PSI
1D2B 0CYRILLIC LETTER SMALL CAPITAL EL,0MODIFIER LETTER CAPITAL A,3AE,3B,3BARRED B,3D,3E,3REVERSED E
1D33 3G,3H,3I,3J,3K,3L,3M,3N,3REVERSED N,3O,3OU,3P,3R,3T,3U,3W,2SMALL A,3TURNED A,3ALPHA,3TURNED AE
1D47 3B,3D,3E,3SCHWA,3OPEN E,3TURNED+2,3G,3TURNED I,3K,3M,3ENG,3O,3OPEN O,3TOP HALF O,3BOTTOM+2,3P
1D57 3T,3U,3SIDEWAYS U,3TURNED M,3V,3AIN,3BETA,3GREEK GAMMA,3DELTA,3GREEK PHI,3CHI
1D62 0LATIN SUBSCRIPT SMALL LETTER I,4R,4U,4V,0GREEK SUBSCRIPT SMALL LETTER BETA,4GAMMA,4RHO,4PHI
1D6A 4CHI,0LATIN SMALL LETTER UE,3B WITH MIDDLE TILDE,3D+3,3F+3,3M+3,3N+3,3P+3,3R+3,5FISHHOOK AND+2
1D74 3S WITH+2,3T+3,3Z+3,3TURNED G,0MODIFIER LETTER CYRILLIC EN,0LATIN SMALL LETTER INSULAR G
1D7A 3TH WITH STRIKETHROUGH,2CAPITAL LETTER I WITH STROKE,2LETTER IOTA+2,3P+2,2CAPITAL LETTER U+2
1D7F 2LETTER UPSILON+2,3B WITH PALATAL HOOK,3D+3,3F+3,3G+3,3K+3,3L+3,3M+3,3N+3,3P+3,3R+3,3S+3,3ESH+3
1D8C 3V+3,3X+3,3Z+3,3A WITH RETROFLEX+1,3ALPHA+3,3D WITH HOOK AND TAIL,3E WITH RETROFLEX HOOK
1D93 3OPEN+4,3REVERSED+5,3SCHWA+3,3I+3,3OPEN O+3,3ESH+3,3U+3,3EZH+3
1D9B 0MODIFIER LETTER SMALL TURNED ALPHA,3C,4WITH CURL,3ETH,3REVERSED OPEN E,3F
1DA1 3DOTLESS J WITH STROKE,3SCRIPT G,3TURNED H,3I WITH STROKE,3IOTA,3CAPITAL I,5WITH STROKE
1DA8 3J WITH CROSSED-TAIL,3L WITH RETROFLEX HOOK,5PALATAL+1,3CAPITAL L,3M WITH HOOK
1DAD 3TURNED M WITH LONG LEG,3N WITH LEFT HOOK,5RETROFLEX+1,3CAPITAL N,3BARRED O,3PHI,3S WITH HOOK
1DB4 3ESH,3T WITH PALATAL HOOK,3U BAR,3UPSILON,3CAPITAL U,3V WITH HOOK,3TURNED V,3Z
1DBC 4WITH RETROFLEX HOOK,5CURL,3EZH,3THETA,0COMBINING DOTTED GRAVE ACCENT,2ACUTE+1,1SNAKE BELOW
1DC3 1SUSPENSION MARK,1MACRON-ACUTE,1GRAVE-MACRON,1MACRON-GRAVE,1ACUTE-MACRON,1GRAVE-ACUTE-GRAVE
1DC9 1ACUTE-GRAVE-ACUTE,1LATIN SMALL LETTER R BELOW,1BREVE-MACRON,1MACRON-BREVE
1DCD 1DOUBLE CIRCUMFLEX ABOVE,1OGONEK+1,1ZIGZAG BELOW,1IS+1,1UR ABOVE,1US+1
1DD3 1LATIN SMALL LETTER FLATTENED OPEN A+1,4AE,4AO,4AV,4C CEDILLA,4INSULAR D,4ETH,4G
1DDB 2LETTER SMALL CAPITAL G,2SMALL LETTER K,4L,2LETTER SMALL CAPITAL L,5M,2SMALL LETTER N
1DE1 2LETTER SMALL CAPITAL N,5R,2SMALL LETTER R ROTUNDA,4S,4LONG S,4Z,4ALPHA,4B,4BETA,4SCHWA,4F
1DEC 4L WITH DOUBLE MIDDLE TILDE,4O WITH LIGHT CENTRALIZATION STROKE,4P,4ESH
1DF0 4U WITH LIGHT CENTRALIZATION STROKE,4W,4A WITH DIAERESIS,4O+2,4U+2,1UP TACK ABOVE
1DF6 1KAVYKA ABOVE RIGHT,3LEFT,1DOT+2,1WIDE INVERTED BRIDGE BELOW,1DOT BELOW LEFT,1DELETION MARK
1DFC 1DOUBLE INVERTED BREVE BELOW,1ALMOST EQUAL TO+1,1LEFT ARROWHEAD ABOVE
1DFF 1RIGHT ARROWHEAD AND DOWN ARROWHEAD BELOW,0LATIN CAPITAL LETTER A WITH RING+1,1SMALL+5
1E02 1CAPITAL LETTER B WITH DOT ABOVE,1SMALL+5,1CAPITAL LETTER B WITH DOT BELOW,1SMALL+5
1E06 1CAPITAL LETTER B WITH LINE+1,1SMALL+5,1CAPITAL LETTER C WITH CEDILLA AND ACUTE,1SMALL+6
1E0A 1CAPITAL LETTER D WITH DOT ABOVE,1SMALL+5,1CAPITAL LETTER D WITH DOT BELOW,1SMALL+5
1E0E 1CAPITAL LETTER D WITH LINE+1,1SMALL+5,1CAPITAL LETTER D WITH CEDILLA,1SMALL+4
1E12 1CAPITAL LETTER D WITH CIRCUMFLEX BELOW,1SMALL+5,1CAPITAL LETTER E WITH MACRON AND GRAVE
1E15 1SMALL+6,1CAPITAL LETTER E WITH MACRON AND ACUTE,1SMALL+6
1E18 1CAPITAL LETTER E WITH CIRCUMFLEX BELOW,1SMALL+5,1CAPITAL LETTER E WITH TILDE+1,1SMALL+5
1E1C 1CAPITAL LETTER E WITH CEDILLA AND BREVE,1SMALL+6,1CAPITAL LETTER F WITH DOT ABOVE,1SMALL+5
1E20 1CAPITAL LETTER G WITH MACRON,1SMALL+4,1CAPITAL LETTER H WITH DOT ABOVE,1SMALL+5
1E24 1CAPITAL LETTER H WITH DOT BELOW,1SMALL+5,1CAPITAL LETTER H WITH DIAERESIS,1SMALL+4
1E28 1CAPITAL LETTER H WITH CEDILLA,1SMALL+4,1CAPITAL LETTER H WITH BREVE BELOW,1SMALL+5
1E2C 1CAPITAL LETTER I WITH TILDE+1,1SMALL+5,1CAPITAL LETTER I WITH DIAERESIS AND ACUTE,1SMALL+6
1E30 1CAPITAL LETTER K WITH+1,1SMALL+4,1CAPITAL LETTER K WITH DOT BELOW,1SMALL+5
1E34 1CAPITAL LETTER K WITH LINE+1,1SMALL+5,1CAPITAL LETTER L WITH DOT+1,1SMALL+5
1E38 1CAPITAL LETTER L WITH DOT BELOW AND MACRON,1SMALL+7,1CAPITAL LETTER L WITH LINE BELOW,1SMALL+5
1E3C 1CAPITAL LETTER L WITH CIRCUMFLEX+1,1SMALL+5,1CAPITAL LETTER M WITH ACUTE,1SMALL+4
1E40 1CAPITAL LETTER M WITH DOT ABOVE,1SMALL+5,1CAPITAL LETTER M WITH DOT BELOW,1SMALL+5
1E44 1CAPITAL LETTER N WITH DOT ABOVE,1SMALL+5,1CAPITAL LETTER N WITH DOT BELOW,1SMALL+5
1E48 1CAPITAL LETTER N WITH LINE+1,1SMALL+5,1CAPITAL LETTER N WITH CIRCUMFLEX+1,1SMALL+5
1E4C 1CAPITAL LETTER O WITH TILDE AND ACUTE,1SMALL+6,1CAPITAL LETTER O WITH TILDE AND DIAERESIS
1E4F 1SMALL+6,1CAPITAL LETTER O WITH MACRON AND GRAVE,1SMALL+6
1E52 1CAPITAL LETTER O WITH MACRON AND ACUTE,1SMALL+6,1CAPITAL LETTER P WITH+1,1SMALL+4
1E56 1CAPITAL LETTER P WITH DOT ABOVE,1SMALL+5,1CAPITAL LETTER R+3,1SMALL+5
1E5A 1CAPITAL LETTER R WITH DOT BELOW,1SMALL+5,1CAPITAL LETTER R WITH DOT BELOW AND MACRON,1SMALL+7
1E5E 1CAPITAL LETTER R WITH LINE BELOW,1SMALL+5,1CAPITAL LETTER S WITH DOT ABOVE,1SMALL+5
1E62 1CAPITAL LETTER S WITH DOT BELOW,1SMALL+5,1CAPITAL LETTER S WITH ACUTE AND DOT ABOVE,1SMALL+7
1E66 1CAPITAL LETTER S WITH CARON+3,1SMALL+7,1CAPITAL LETTER S WITH DOT BELOW+3,1SMALL+8
1E6A 1CAPITAL LETTER T WITH+2,1SMALL+5,1CAPITAL LETTER T WITH DOT BELOW,1SMALL+5
1E6E 1CAPITAL LETTER T WITH LINE+1,1SMALL+5,1CAPITAL LETTER T WITH CIRCUMFLEX+1,1SMALL+5
1E72 1CAPITAL LETTER U WITH DIAERESIS+1,1SMALL+5,1CAPITAL LETTER U WITH TILDE+1,1SMALL+5
1E76 1CAPITAL LETTER U WITH CIRCUMFLEX+1,1SMALL+5,1CAPITAL LETTER U WITH TILDE AND ACUTE,1SMALL+6
1E7A 1CAPITAL LETTER U WITH MACRON AND DIAERESIS,1SMALL+6,1CAPITAL LETTER V WITH TILDE,1SMALL+4
1E7E 1CAPITAL LETTER V WITH DOT BELOW,1SMALL+5,1CAPITAL LETTER W WITH GRAVE,1SMALL+4
1E82 1CAPITAL LETTER W WITH ACUTE,1SMALL+4,1CAPITAL LETTER W WITH DIAERESIS,1SMALL+4
1E86 1CAPITAL LETTER W WITH DOT ABOVE,1SMALL+5,1CAPITAL LETTER W WITH DOT BELOW,1SMALL+5
1E8A 1CAPITAL LETTER X WITH DOT ABOVE,1SMALL+5,1CAPITAL LETTER X WITH DIAERESIS,1SMALL+4
1E8E 1CAPITAL LETTER Y WITH DOT ABOVE,1SMALL+5,1CAPITAL LETTER Z WITH CIRCUMFLEX,1SMALL+4
1E92 1CAPITAL LETTER Z WITH DOT BELOW,1SMALL+5,1CAPITAL LETTER Z WITH LINE+1,1SMALL+5,3H+3
1E97 3T WITH DIAERESIS,3W WITH RING ABOVE,3Y+3,3A WITH RIGHT HALF RING,3LONG S WITH DOT ABOVE
1E9C 6DIAGONAL STROKE,6HIGH+1,1CAPITAL LETTER SHARP S,1SMALL LETTER DELTA
1EA0 1CAPITAL LETTER A WITH DOT BELOW,1SMALL+5,1CAPITAL LETTER A WITH HOOK ABOVE,1SMALL+5
1EA4 1CAPITAL LETTER A WITH CIRCUMFLEX AND ACUTE,1SMALL+6
1EA6 1CAPITAL LETTER A WITH CIRCUMFLEX AND GRAVE,1SMALL+6
1EA8 1CAPITAL LETTER A WITH CIRCUMFLEX AND HOOK ABOVE,1SMALL+7
1EAA 1CAPITAL LETTER A WITH CIRCUMFLEX AND TILDE,1SMALL+6
1EAC 1CAPITAL LETTER A WITH CIRCUMFLEX AND DOT BELOW,1SMALL+7,1CAPITAL LETTER A WITH BREVE AND ACUTE
1EAF 1SMALL+6,1CAPITAL LETTER A WITH BREVE AND GRAVE,1SMALL+6
1EB2 1CAPITAL LETTER A WITH BREVE AND HOOK ABOVE,1SMALL+7,1CAPITAL LETTER A WITH BREVE AND TILDE
1EB5 1SMALL+6,1CAPITAL LETTER A WITH BREVE AND DOT BELOW,1SMALL+7,1CAPITAL LETTER E WITH+2,1SMALL+5
1EBA 1CAPITAL LETTER E WITH HOOK ABOVE,1SMALL+5,1CAPITAL LETTER E WITH TILDE,1SMALL+4
1EBE 1CAPITAL LETTER E WITH CIRCUMFLEX AND ACUTE,1SMALL+6
1EC0 1CAPITAL LETTER E WITH CIRCUMFLEX AND GRAVE,1SMALL+6
1EC2 1CAPITAL LETTER E WITH CIRCUMFLEX AND HOOK ABOVE,1SMALL+7
1EC4 1CAPITAL LETTER E WITH CIRCUMFLEX AND TILDE,1SMALL+6
1EC6 1CAPITAL LETTER E WITH CIRCUMFLEX AND DOT BELOW,1SMALL+7,1CAPITAL LETTER I WITH HOOK ABOVE
1EC9 1SMALL+5,1CAPITAL LETTER I WITH DOT BELOW,1SMALL+5,1CAPITAL LETTER O+3,1SMALL+5
1ECE 1CAPITAL LETTER O WITH HOOK ABOVE,1SMALL+5,1CAPITAL LETTER O WITH CIRCUMFLEX AND ACUTE,1SMALL+6
1ED2 1CAPITAL LETTER O WITH CIRCUMFLEX AND GRAVE,1SMALL+6
1ED4 1CAPITAL LETTER O WITH CIRCUMFLEX AND HOOK ABOVE,1SMALL+7
1ED6 1CAPITAL LETTER O WITH CIRCUMFLEX AND TILDE,1SMALL+6
1ED8 1CAPITAL LETTER O WITH CIRCUMFLEX AND DOT BELOW,1SMALL+7,1CAPITAL LETTER O WITH HORN AND ACUTE
1EDB 1SMALL+6,1CAPITAL LETTER O WITH HORN AND GRAVE,1SMALL+6
1EDE 1CAPITAL LETTER O WITH HORN AND HOOK ABOVE,1SMALL+7,1CAPITAL LETTER O WITH HORN AND TILDE
1EE1 1SMALL+6,1CAPITAL LETTER O WITH HORN AND DOT BELOW,1SMALL+7,1CAPITAL LETTER U WITH+2,1SMALL+5
1EE6 1CAPITAL LETTER U WITH HOOK ABOVE,1SMALL+5,1CAPITAL LETTER U WITH HORN AND ACUTE,1SMALL+6
1EEA 1CAPITAL LETTER U WITH HORN AND GRAVE,1SMALL+6,1CAPITAL LETTER U WITH HORN AND HOOK ABOVE
1EED 1SMALL+7,1CAPITAL LETTER U WITH HORN AND TILDE,1SMALL+6
1EF0 1CAPITAL LETTER U WITH HORN AND DOT BELOW,1SMALL+7,1CAPITAL LETTER Y WITH GRAVE,1SMALL+4
1EF4 1CAPITAL LETTER Y WITH DOT BELOW,1SMALL+5,1CAPITAL LETTER Y WITH HOOK ABOVE,1SMALL+5
1EF8 1CAPITAL LETTER Y WITH TILDE,1SMALL+4,1CAPITAL LETTER MIDDLE-WELSH LL,1SMALL+3
1EFC 1CAPITAL LETTER MIDDLE-WELSH V,1SMALL+3,1CAPITAL LETTER Y WITH LOOP,1SMALL+4
1F00 0GREEK SMALL LETTER ALPHA WITH PSILI,5DASIA,5PSILI AND VARIA,5DASIA+2,5PSILI AND OXIA,5DASIA+2
1F06 5PSILI AND PERISPOMENI,5DASIA+2,1CAPITAL LETTER ALPHA WITH PSILI,5DASIA,5PSILI AND VARIA
1F0B 5DASIA+2,5PSILI AND OXIA,5DASIA+2,5PSILI AND PERISPOMENI,5DASIA+2
1F10 1SMALL LETTER EPSILON WITH PSILI,5DASIA,5PSILI AND VARIA,5DASIA+2,5PSILI AND OXIA,5DASIA+2
1F18 1CAPITAL LETTER EPSILON WITH PSILI,5DASIA,5PSILI AND VARIA,5DASIA+2,5PSILI AND OXIA,5DASIA+2
1F20 1SMALL LETTER ETA WITH PSILI,5DASIA,5PSILI AND VARIA,5DASIA+2,5PSILI AND OXIA,5DASIA+2
1F26 5PSILI AND PERISPOMENI,5DASIA+2,1CAPITAL LETTER ETA WITH PSILI,5DASIA,5PSILI AND VARIA,5DASIA+2
1F2C 5PSILI AND OXIA,5DASIA+2,5PSILI AND PERISPOMENI,5DASIA+2,1SMALL LETTER IOTA WITH PSILI,5DASIA
1F32 5PSILI AND VARIA,5DASIA+2,5PSILI AND OXIA,5DASIA+2,5PSILI AND PERISPOMENI,5DASIA+2
1F38 1CAPITAL LETTER IOTA WITH PSILI,5DASIA,5PSILI AND VARIA,5DASIA+2,5PSILI AND OXIA,5DASIA+2
1F3E 5PSILI AND PERISPOMENI,5DASIA+2,1SMALL LETTER OMICRON WITH PSILI,5DASIA,5PSILI AND VARIA
1F43 5DASIA+2,5PSILI AND OXIA,5DASIA+2
1F48 1CAPITAL LETTER OMICRON WITH PSILI,5DASIA,5PSILI AND VARIA,5DASIA+2,5PSILI AND OXIA,5DASIA+2
1F50 1SMALL LETTER UPSILON WITH PSILI,5DASIA,5PSILI AND VARIA,5DASIA+2,5PSILI AND OXIA,5DASIA+2
1F56 5PSILI AND PERISPOMENI,5DASIA+2
1F59 1CAPITAL LETTER UPSILON WITH DASIA
1F5B 6AND VARIA
1F5D 7OXIA
1F5F 7PERISPOMENI,1SMALL LETTER OMEGA WITH PSILI,5DASIA,5PSILI AND VARIA,5DASIA+2,5PSILI AND OXIA
1F65 5DASIA+2,5PSILI AND PERISPOMENI,5DASIA+2,1CAPITAL LETTER OMEGA WITH PSILI,5DASIA
1F6A 5PSILI AND VARIA,5DASIA+2,5PSILI AND OXIA,5DASIA+2,5PSILI AND PERISPOMENI,5DASIA+2
1F70 1SMALL LETTER ALPHA WITH VARIA,5OXIA,3EPSILON WITH VARIA,5OXIA,3ETA WITH VARIA,5OXIA
1F76 3IOTA WITH VARIA,5OXIA,3OMICRON WITH VARIA,5OXIA,3UPSILON WITH VARIA,5OXIA,3OMEGA WITH VARIA
1F7D 5OXIA
1F80 3ALPHA WITH PSILI AND YPOGEGRAMMENI,5DASIA+2,5PSILI AND VARIA+2,5DASIA+4,5PSILI AND OXIA+2
1F85 5DASIA+4,5PSILI AND PERISPOMENI+2,5DASIA+4,1CAPITAL LETTER ALPHA WITH PSILI AND PROSGEGRAMMENI
1F89 5DASIA+2,5PSILI AND VARIA+2,5DASIA+4,5PSILI AND OXIA+2,5DASIA+4,5PSILI AND PERISPOMENI+2
1F8F 5DASIA+4,1SMALL LETTER ETA WITH PSILI AND YPOGEGRAMMENI,5DASIA+2,5PSILI AND VARIA+2,5DASIA+4
1F94 5PSILI AND OXIA+2,5DASIA+4,5PSILI AND PERISPOMENI+2,5DASIA+4
1F98 1CAPITAL LETTER ETA WITH PSILI AND PROSGEGRAMMENI,5DASIA+2,5PSILI AND VARIA+2,5DASIA+4
1F9C 5PSILI AND OXIA+2,5DASIA+4,5PSILI AND PERISPOMENI+2,5DASIA+4
1FA0 1SMALL LETTER OMEGA WITH PSILI AND YPOGEGRAMMENI,5DASIA+2,5PSILI AND VARIA+2,5DASIA+4
1FA4 5PSILI AND OXIA+2,5DASIA+4,5PSILI AND PERISPOMENI+2,5DASIA+4
1FA8 1CAPITAL LETTER OMEGA WITH PSILI AND PROSGEGRAMMENI,5DASIA+2,5PSILI AND VARIA+2,5DASIA+4
1FAC 5PSILI AND OXIA+2,5DASIA+4,5PSILI AND PERISPOMENI+2,5DASIA+4,1SMALL LETTER ALPHA WITH VRACHY
1FB1 5MACRON,5VARIA AND YPOGEGRAMMENI,5+1,5OXIA AND+1
1FB6 5PERISPOMENI,6AND YPOGEGRAMMENI,1CAPITAL LETTER ALPHA WITH VRACHY,5MACRON,5VARIA,5OXIA
1FBC 5PROSGEGRAMMENI,1KORONIS,1PROSGEGRAMMENI,1PSILI,1PERISPOMENI,1DIALYTIKA AND+1
1FC2 1SMALL LETTER ETA WITH VARIA AND YPOGEGRAMMENI,5+1,5OXIA AND+1
1FC6 5PERISPOMENI,6AND YPOGEGRAMMENI,1CAPITAL LETTER EPSILON WITH VARIA,5OXIA,3ETA WITH VARIA,5OXIA
1FCC 5PROSGEGRAMMENI,1PSILI AND VARIA,3OXIA,3PERISPOMENI,1SMALL LETTER IOTA WITH VRACHY,5MACRON
1FD2 5DIALYTIKA AND VARIA,7OXIA
1FD6 5PERISPOMENI,5DIALYTIKA AND+1,1CAPITAL LETTER IOTA WITH VRACHY,5MACRON,5VARIA,5OXIA
1FDD 1DASIA AND VARIA,3OXIA,3PERISPOMENI,1SMALL LETTER UPSILON WITH VRACHY,5MACRON
1FE2 5DIALYTIKA AND VARIA,7OXIA,3RHO WITH PSILI,5DASIA,3UPSILON WITH PERISPOMENI,5DIALYTIKA AND+1
1FE8 1CAPITAL LETTER UPSILON WITH VRACHY,5MACRON,5VARIA,5OXIA,3RHO WITH DASIA,1DIALYTIKA AND VARIA
1FEE 3OXIA,1VARIA
1FF2 1SMALL LETTER OMEGA WITH VARIA AND YPOGEGRAMMENI,5+1,5OXIA AND+1
1FF6 5PERISPOMENI,6AND YPOGEGRAMMENI,1CAPITAL LETTER OMICRON WITH VARIA,5OXIA,3OMEGA WITH VARIA
1FFB 5OXIA,5PROSGEGRAMMENI,1OXIA,1DASIA"

end HeaderRules.Text
