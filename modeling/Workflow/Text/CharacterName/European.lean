/-!
# Names: Latin, Greek, Cyrillic and phonetic letters

Runs of names of characters of the Latin, Greek and Cyrillic scripts, with the accents and marks
set on them, and of the phonetic alphabets. A run gives the code of its first character, the start
that its names share, and the rest of each name. Line ends mean nothing.
-/

namespace Workflow.Text

/-- The names of these characters. -/
def europeanNames : String := "
20=:SPACE;EXCLAMATION MARK;QUOTATION MARK;NUMBER SIGN;DOLLAR SIGN;PERCENT SIGN;AMPERSAND;
APOSTROPHE;LEFT PARENTHESIS;RIGHT PARENTHESIS;ASTERISK;PLUS SIGN;COMMA;HYPHEN-MINUS;FULL STOP;
SOLIDUS.30=DIGIT :ZERO;ONE;TWO;THREE;FOUR;FIVE;SIX;SEVEN;EIGHT;NINE.3A=:COLON;SEMICOLON;
LESS-THAN SIGN;EQUALS SIGN;GREATER-THAN SIGN;QUESTION MARK;COMMERCIAL AT.41=LATIN CAPITAL LETTER :
A;B;C;D;E;F;G;H;I;J;K;L;M;N;O;P;Q;R;S;T;U;V;W;X;Y;Z.5B=:LEFT SQUARE BRACKET;REVERSE SOLIDUS;
RIGHT SQUARE BRACKET;CIRCUMFLEX ACCENT;LOW LINE;GRAVE ACCENT.61=LATIN SMALL LETTER :A;B;C;D;E;F;G;
H;I;J;K;L;M;N;O;P;Q;R;S;T;U;V;W;X;Y;Z.7B=:LEFT CURLY BRACKET;VERTICAL LINE;RIGHT CURLY BRACKET;
TILDE.A0=:NO-BREAK SPACE;INVERTED EXCLAMATION MARK;CENT SIGN;POUND SIGN;CURRENCY SIGN;YEN SIGN;
BROKEN BAR;SECTION SIGN;DIAERESIS;COPYRIGHT SIGN;FEMININE ORDINAL INDICATOR;
LEFT-POINTING DOUBLE ANGLE QUOTATION MARK;NOT SIGN;SOFT HYPHEN;REGISTERED SIGN;MACRON;DEGREE SIGN;
PLUS-MINUS SIGN.B2=SUPERSCRIPT :TWO;THREE.B4=:ACUTE ACCENT;MICRO SIGN;PILCROW SIGN;MIDDLE DOT;
CEDILLA;SUPERSCRIPT ONE;MASCULINE ORDINAL INDICATOR;RIGHT-POINTING DOUBLE ANGLE QUOTATION MARK.
BC=VULGAR FRACTION :ONE QUARTER;ONE HALF;THREE QUARTERS.BF=:INVERTED QUESTION MARK.
C0=LATIN CAPITAL LETTER :A WITH GRAVE;A WITH ACUTE;A WITH CIRCUMFLEX;A WITH TILDE;A WITH DIAERESIS;
A WITH RING ABOVE;AE;C WITH CEDILLA;E WITH GRAVE;E WITH ACUTE;E WITH CIRCUMFLEX;E WITH DIAERESIS;
I WITH GRAVE;I WITH ACUTE;I WITH CIRCUMFLEX;I WITH DIAERESIS;ETH;N WITH TILDE;O WITH GRAVE;
O WITH ACUTE;O WITH CIRCUMFLEX;O WITH TILDE;O WITH DIAERESIS.D7=:MULTIPLICATION SIGN.D8=LATIN :
CAPITAL LETTER O WITH STROKE;CAPITAL LETTER U WITH GRAVE;CAPITAL LETTER U WITH ACUTE;
CAPITAL LETTER U WITH CIRCUMFLEX;CAPITAL LETTER U WITH DIAERESIS;CAPITAL LETTER Y WITH ACUTE;
CAPITAL LETTER THORN;SMALL LETTER SHARP S;SMALL LETTER A WITH GRAVE;SMALL LETTER A WITH ACUTE;
SMALL LETTER A WITH CIRCUMFLEX;SMALL LETTER A WITH TILDE;SMALL LETTER A WITH DIAERESIS;
SMALL LETTER A WITH RING ABOVE;SMALL LETTER AE;SMALL LETTER C WITH CEDILLA;
SMALL LETTER E WITH GRAVE;SMALL LETTER E WITH ACUTE;SMALL LETTER E WITH CIRCUMFLEX;
SMALL LETTER E WITH DIAERESIS;SMALL LETTER I WITH GRAVE;SMALL LETTER I WITH ACUTE;
SMALL LETTER I WITH CIRCUMFLEX;SMALL LETTER I WITH DIAERESIS;SMALL LETTER ETH;
SMALL LETTER N WITH TILDE;SMALL LETTER O WITH GRAVE;SMALL LETTER O WITH ACUTE;
SMALL LETTER O WITH CIRCUMFLEX;SMALL LETTER O WITH TILDE;SMALL LETTER O WITH DIAERESIS.F7=:
DIVISION SIGN.F8=LATIN :SMALL LETTER O WITH STROKE;SMALL LETTER U WITH GRAVE;
SMALL LETTER U WITH ACUTE;SMALL LETTER U WITH CIRCUMFLEX;SMALL LETTER U WITH DIAERESIS;
SMALL LETTER Y WITH ACUTE;SMALL LETTER THORN;SMALL LETTER Y WITH DIAERESIS;
CAPITAL LETTER A WITH MACRON;SMALL LETTER A WITH MACRON;CAPITAL LETTER A WITH BREVE;
SMALL LETTER A WITH BREVE;CAPITAL LETTER A WITH OGONEK;SMALL LETTER A WITH OGONEK;
CAPITAL LETTER C WITH ACUTE;SMALL LETTER C WITH ACUTE;CAPITAL LETTER C WITH CIRCUMFLEX;
SMALL LETTER C WITH CIRCUMFLEX;CAPITAL LETTER C WITH DOT ABOVE;SMALL LETTER C WITH DOT ABOVE;
CAPITAL LETTER C WITH CARON;SMALL LETTER C WITH CARON;CAPITAL LETTER D WITH CARON;
SMALL LETTER D WITH CARON;CAPITAL LETTER D WITH STROKE;SMALL LETTER D WITH STROKE;
CAPITAL LETTER E WITH MACRON;SMALL LETTER E WITH MACRON;CAPITAL LETTER E WITH BREVE;
SMALL LETTER E WITH BREVE;CAPITAL LETTER E WITH DOT ABOVE;SMALL LETTER E WITH DOT ABOVE;
CAPITAL LETTER E WITH OGONEK;SMALL LETTER E WITH OGONEK;CAPITAL LETTER E WITH CARON;
SMALL LETTER E WITH CARON;CAPITAL LETTER G WITH CIRCUMFLEX;SMALL LETTER G WITH CIRCUMFLEX;
CAPITAL LETTER G WITH BREVE;SMALL LETTER G WITH BREVE;CAPITAL LETTER G WITH DOT ABOVE;
SMALL LETTER G WITH DOT ABOVE;CAPITAL LETTER G WITH CEDILLA;SMALL LETTER G WITH CEDILLA;
CAPITAL LETTER H WITH CIRCUMFLEX;SMALL LETTER H WITH CIRCUMFLEX;CAPITAL LETTER H WITH STROKE;
SMALL LETTER H WITH STROKE;CAPITAL LETTER I WITH TILDE;SMALL LETTER I WITH TILDE;
CAPITAL LETTER I WITH MACRON;SMALL LETTER I WITH MACRON;CAPITAL LETTER I WITH BREVE;
SMALL LETTER I WITH BREVE;CAPITAL LETTER I WITH OGONEK;SMALL LETTER I WITH OGONEK;
CAPITAL LETTER I WITH DOT ABOVE;SMALL LETTER DOTLESS I;CAPITAL LIGATURE IJ;SMALL LIGATURE IJ;
CAPITAL LETTER J WITH CIRCUMFLEX;SMALL LETTER J WITH CIRCUMFLEX;CAPITAL LETTER K WITH CEDILLA;
SMALL LETTER K WITH CEDILLA;SMALL LETTER KRA;CAPITAL LETTER L WITH ACUTE;SMALL LETTER L WITH ACUTE;
CAPITAL LETTER L WITH CEDILLA;SMALL LETTER L WITH CEDILLA;CAPITAL LETTER L WITH CARON;
SMALL LETTER L WITH CARON;CAPITAL LETTER L WITH MIDDLE DOT;SMALL LETTER L WITH MIDDLE DOT;
CAPITAL LETTER L WITH STROKE;SMALL LETTER L WITH STROKE;CAPITAL LETTER N WITH ACUTE;
SMALL LETTER N WITH ACUTE;CAPITAL LETTER N WITH CEDILLA;SMALL LETTER N WITH CEDILLA;
CAPITAL LETTER N WITH CARON;SMALL LETTER N WITH CARON;SMALL LETTER N PRECEDED BY APOSTROPHE;
CAPITAL LETTER ENG;SMALL LETTER ENG;CAPITAL LETTER O WITH MACRON;SMALL LETTER O WITH MACRON;
CAPITAL LETTER O WITH BREVE;SMALL LETTER O WITH BREVE;CAPITAL LETTER O WITH DOUBLE ACUTE;
SMALL LETTER O WITH DOUBLE ACUTE;CAPITAL LIGATURE OE;SMALL LIGATURE OE;CAPITAL LETTER R WITH ACUTE;
SMALL LETTER R WITH ACUTE;CAPITAL LETTER R WITH CEDILLA;SMALL LETTER R WITH CEDILLA;
CAPITAL LETTER R WITH CARON;SMALL LETTER R WITH CARON;CAPITAL LETTER S WITH ACUTE;
SMALL LETTER S WITH ACUTE;CAPITAL LETTER S WITH CIRCUMFLEX;SMALL LETTER S WITH CIRCUMFLEX;
CAPITAL LETTER S WITH CEDILLA;SMALL LETTER S WITH CEDILLA;CAPITAL LETTER S WITH CARON;
SMALL LETTER S WITH CARON;CAPITAL LETTER T WITH CEDILLA;SMALL LETTER T WITH CEDILLA;
CAPITAL LETTER T WITH CARON;SMALL LETTER T WITH CARON;CAPITAL LETTER T WITH STROKE;
SMALL LETTER T WITH STROKE;CAPITAL LETTER U WITH TILDE;SMALL LETTER U WITH TILDE;
CAPITAL LETTER U WITH MACRON;SMALL LETTER U WITH MACRON;CAPITAL LETTER U WITH BREVE;
SMALL LETTER U WITH BREVE;CAPITAL LETTER U WITH RING ABOVE;SMALL LETTER U WITH RING ABOVE;
CAPITAL LETTER U WITH DOUBLE ACUTE;SMALL LETTER U WITH DOUBLE ACUTE;CAPITAL LETTER U WITH OGONEK;
SMALL LETTER U WITH OGONEK;CAPITAL LETTER W WITH CIRCUMFLEX;SMALL LETTER W WITH CIRCUMFLEX;
CAPITAL LETTER Y WITH CIRCUMFLEX;SMALL LETTER Y WITH CIRCUMFLEX;CAPITAL LETTER Y WITH DIAERESIS;
CAPITAL LETTER Z WITH ACUTE;SMALL LETTER Z WITH ACUTE;CAPITAL LETTER Z WITH DOT ABOVE;
SMALL LETTER Z WITH DOT ABOVE;CAPITAL LETTER Z WITH CARON;SMALL LETTER Z WITH CARON;
SMALL LETTER LONG S;SMALL LETTER B WITH STROKE;CAPITAL LETTER B WITH HOOK;
CAPITAL LETTER B WITH TOPBAR;SMALL LETTER B WITH TOPBAR;CAPITAL LETTER TONE SIX;
SMALL LETTER TONE SIX;CAPITAL LETTER OPEN O;CAPITAL LETTER C WITH HOOK;SMALL LETTER C WITH HOOK;
CAPITAL LETTER AFRICAN D;CAPITAL LETTER D WITH HOOK;CAPITAL LETTER D WITH TOPBAR;
SMALL LETTER D WITH TOPBAR;SMALL LETTER TURNED DELTA;CAPITAL LETTER REVERSED E;
CAPITAL LETTER SCHWA;CAPITAL LETTER OPEN E;CAPITAL LETTER F WITH HOOK;SMALL LETTER F WITH HOOK;
CAPITAL LETTER G WITH HOOK;CAPITAL LETTER GAMMA;SMALL LETTER HV;CAPITAL LETTER IOTA;
CAPITAL LETTER I WITH STROKE;CAPITAL LETTER K WITH HOOK;SMALL LETTER K WITH HOOK;
SMALL LETTER L WITH BAR;SMALL LETTER LAMBDA WITH STROKE;CAPITAL LETTER TURNED M;
CAPITAL LETTER N WITH LEFT HOOK;SMALL LETTER N WITH LONG RIGHT LEG;
CAPITAL LETTER O WITH MIDDLE TILDE;CAPITAL LETTER O WITH HORN;SMALL LETTER O WITH HORN;
CAPITAL LETTER OI;SMALL LETTER OI;CAPITAL LETTER P WITH HOOK;SMALL LETTER P WITH HOOK;LETTER YR;
CAPITAL LETTER TONE TWO;SMALL LETTER TONE TWO;CAPITAL LETTER ESH;LETTER REVERSED ESH LOOP;
SMALL LETTER T WITH PALATAL HOOK;CAPITAL LETTER T WITH HOOK;SMALL LETTER T WITH HOOK;
CAPITAL LETTER T WITH RETROFLEX HOOK;CAPITAL LETTER U WITH HORN;SMALL LETTER U WITH HORN;
CAPITAL LETTER UPSILON;CAPITAL LETTER V WITH HOOK;CAPITAL LETTER Y WITH HOOK;
SMALL LETTER Y WITH HOOK;CAPITAL LETTER Z WITH STROKE;SMALL LETTER Z WITH STROKE;
CAPITAL LETTER EZH;CAPITAL LETTER EZH REVERSED;SMALL LETTER EZH REVERSED;
SMALL LETTER EZH WITH TAIL;LETTER TWO WITH STROKE;CAPITAL LETTER TONE FIVE;SMALL LETTER TONE FIVE;
LETTER INVERTED GLOTTAL STOP WITH STROKE;LETTER WYNN;LETTER DENTAL CLICK;LETTER LATERAL CLICK;
LETTER ALVEOLAR CLICK;LETTER RETROFLEX CLICK;CAPITAL LETTER DZ WITH CARON;
CAPITAL LETTER D WITH SMALL LETTER Z WITH CARON;SMALL LETTER DZ WITH CARON;CAPITAL LETTER LJ;
CAPITAL LETTER L WITH SMALL LETTER J;SMALL LETTER LJ;CAPITAL LETTER NJ;
CAPITAL LETTER N WITH SMALL LETTER J;SMALL LETTER NJ;CAPITAL LETTER A WITH CARON;
SMALL LETTER A WITH CARON;CAPITAL LETTER I WITH CARON;SMALL LETTER I WITH CARON;
CAPITAL LETTER O WITH CARON;SMALL LETTER O WITH CARON;CAPITAL LETTER U WITH CARON;
SMALL LETTER U WITH CARON;CAPITAL LETTER U WITH DIAERESIS AND MACRON;
SMALL LETTER U WITH DIAERESIS AND MACRON;CAPITAL LETTER U WITH DIAERESIS AND ACUTE;
SMALL LETTER U WITH DIAERESIS AND ACUTE;CAPITAL LETTER U WITH DIAERESIS AND CARON;
SMALL LETTER U WITH DIAERESIS AND CARON;CAPITAL LETTER U WITH DIAERESIS AND GRAVE;
SMALL LETTER U WITH DIAERESIS AND GRAVE;SMALL LETTER TURNED E;
CAPITAL LETTER A WITH DIAERESIS AND MACRON;SMALL LETTER A WITH DIAERESIS AND MACRON;
CAPITAL LETTER A WITH DOT ABOVE AND MACRON;SMALL LETTER A WITH DOT ABOVE AND MACRON;
CAPITAL LETTER AE WITH MACRON;SMALL LETTER AE WITH MACRON;CAPITAL LETTER G WITH STROKE;
SMALL LETTER G WITH STROKE;CAPITAL LETTER G WITH CARON;SMALL LETTER G WITH CARON;
CAPITAL LETTER K WITH CARON;SMALL LETTER K WITH CARON;CAPITAL LETTER O WITH OGONEK;
SMALL LETTER O WITH OGONEK;CAPITAL LETTER O WITH OGONEK AND MACRON;
SMALL LETTER O WITH OGONEK AND MACRON;CAPITAL LETTER EZH WITH CARON;SMALL LETTER EZH WITH CARON;
SMALL LETTER J WITH CARON;CAPITAL LETTER DZ;CAPITAL LETTER D WITH SMALL LETTER Z;SMALL LETTER DZ;
CAPITAL LETTER G WITH ACUTE;SMALL LETTER G WITH ACUTE;CAPITAL LETTER HWAIR;CAPITAL LETTER WYNN;
CAPITAL LETTER N WITH GRAVE;SMALL LETTER N WITH GRAVE;CAPITAL LETTER A WITH RING ABOVE AND ACUTE;
SMALL LETTER A WITH RING ABOVE AND ACUTE;CAPITAL LETTER AE WITH ACUTE;SMALL LETTER AE WITH ACUTE;
CAPITAL LETTER O WITH STROKE AND ACUTE;SMALL LETTER O WITH STROKE AND ACUTE;
CAPITAL LETTER A WITH DOUBLE GRAVE;SMALL LETTER A WITH DOUBLE GRAVE;
CAPITAL LETTER A WITH INVERTED BREVE;SMALL LETTER A WITH INVERTED BREVE;
CAPITAL LETTER E WITH DOUBLE GRAVE;SMALL LETTER E WITH DOUBLE GRAVE;
CAPITAL LETTER E WITH INVERTED BREVE;SMALL LETTER E WITH INVERTED BREVE;
CAPITAL LETTER I WITH DOUBLE GRAVE;SMALL LETTER I WITH DOUBLE GRAVE;
CAPITAL LETTER I WITH INVERTED BREVE;SMALL LETTER I WITH INVERTED BREVE;
CAPITAL LETTER O WITH DOUBLE GRAVE;SMALL LETTER O WITH DOUBLE GRAVE;
CAPITAL LETTER O WITH INVERTED BREVE;SMALL LETTER O WITH INVERTED BREVE;
CAPITAL LETTER R WITH DOUBLE GRAVE;SMALL LETTER R WITH DOUBLE GRAVE;
CAPITAL LETTER R WITH INVERTED BREVE;SMALL LETTER R WITH INVERTED BREVE;
CAPITAL LETTER U WITH DOUBLE GRAVE;SMALL LETTER U WITH DOUBLE GRAVE;
CAPITAL LETTER U WITH INVERTED BREVE;SMALL LETTER U WITH INVERTED BREVE;
CAPITAL LETTER S WITH COMMA BELOW;SMALL LETTER S WITH COMMA BELOW;
CAPITAL LETTER T WITH COMMA BELOW;SMALL LETTER T WITH COMMA BELOW;CAPITAL LETTER YOGH;
SMALL LETTER YOGH;CAPITAL LETTER H WITH CARON;SMALL LETTER H WITH CARON;
CAPITAL LETTER N WITH LONG RIGHT LEG;SMALL LETTER D WITH CURL;CAPITAL LETTER OU;SMALL LETTER OU;
CAPITAL LETTER Z WITH HOOK;SMALL LETTER Z WITH HOOK;CAPITAL LETTER A WITH DOT ABOVE;
SMALL LETTER A WITH DOT ABOVE;CAPITAL LETTER E WITH CEDILLA;SMALL LETTER E WITH CEDILLA;
CAPITAL LETTER O WITH DIAERESIS AND MACRON;SMALL LETTER O WITH DIAERESIS AND MACRON;
CAPITAL LETTER O WITH TILDE AND MACRON;SMALL LETTER O WITH TILDE AND MACRON;
CAPITAL LETTER O WITH DOT ABOVE;SMALL LETTER O WITH DOT ABOVE;
CAPITAL LETTER O WITH DOT ABOVE AND MACRON;SMALL LETTER O WITH DOT ABOVE AND MACRON;
CAPITAL LETTER Y WITH MACRON;SMALL LETTER Y WITH MACRON;SMALL LETTER L WITH CURL;
SMALL LETTER N WITH CURL;SMALL LETTER T WITH CURL;SMALL LETTER DOTLESS J;SMALL LETTER DB DIGRAPH;
SMALL LETTER QP DIGRAPH;CAPITAL LETTER A WITH STROKE;CAPITAL LETTER C WITH STROKE;
SMALL LETTER C WITH STROKE;CAPITAL LETTER L WITH BAR;CAPITAL LETTER T WITH DIAGONAL STROKE;
SMALL LETTER S WITH SWASH TAIL;SMALL LETTER Z WITH SWASH TAIL;CAPITAL LETTER GLOTTAL STOP;
SMALL LETTER GLOTTAL STOP;CAPITAL LETTER B WITH STROKE;CAPITAL LETTER U BAR;
CAPITAL LETTER TURNED V;CAPITAL LETTER E WITH STROKE;SMALL LETTER E WITH STROKE;
CAPITAL LETTER J WITH STROKE;SMALL LETTER J WITH STROKE;CAPITAL LETTER SMALL Q WITH HOOK TAIL;
SMALL LETTER Q WITH HOOK TAIL;CAPITAL LETTER R WITH STROKE;SMALL LETTER R WITH STROKE;
CAPITAL LETTER Y WITH STROKE;SMALL LETTER Y WITH STROKE;SMALL LETTER TURNED A;SMALL LETTER ALPHA;
SMALL LETTER TURNED ALPHA;SMALL LETTER B WITH HOOK;SMALL LETTER OPEN O;SMALL LETTER C WITH CURL;
SMALL LETTER D WITH TAIL;SMALL LETTER D WITH HOOK;SMALL LETTER REVERSED E;SMALL LETTER SCHWA;
SMALL LETTER SCHWA WITH HOOK;SMALL LETTER OPEN E;SMALL LETTER REVERSED OPEN E;
SMALL LETTER REVERSED OPEN E WITH HOOK;SMALL LETTER CLOSED REVERSED OPEN E;
SMALL LETTER DOTLESS J WITH STROKE;SMALL LETTER G WITH HOOK;SMALL LETTER SCRIPT G;
LETTER SMALL CAPITAL G;SMALL LETTER GAMMA;SMALL LETTER RAMS HORN;SMALL LETTER TURNED H;
SMALL LETTER H WITH HOOK;SMALL LETTER HENG WITH HOOK;SMALL LETTER I WITH STROKE;SMALL LETTER IOTA;
LETTER SMALL CAPITAL I;SMALL LETTER L WITH MIDDLE TILDE;SMALL LETTER L WITH BELT;
SMALL LETTER L WITH RETROFLEX HOOK;SMALL LETTER LEZH;SMALL LETTER TURNED M;
SMALL LETTER TURNED M WITH LONG LEG;SMALL LETTER M WITH HOOK;SMALL LETTER N WITH LEFT HOOK;
SMALL LETTER N WITH RETROFLEX HOOK;LETTER SMALL CAPITAL N;SMALL LETTER BARRED O;
LETTER SMALL CAPITAL OE;SMALL LETTER CLOSED OMEGA;SMALL LETTER PHI;SMALL LETTER TURNED R;
SMALL LETTER TURNED R WITH LONG LEG;SMALL LETTER TURNED R WITH HOOK;SMALL LETTER R WITH LONG LEG;
SMALL LETTER R WITH TAIL;SMALL LETTER R WITH FISHHOOK;SMALL LETTER REVERSED R WITH FISHHOOK;
LETTER SMALL CAPITAL R;LETTER SMALL CAPITAL INVERTED R;SMALL LETTER S WITH HOOK;SMALL LETTER ESH;
SMALL LETTER DOTLESS J WITH STROKE AND HOOK;SMALL LETTER SQUAT REVERSED ESH;
SMALL LETTER ESH WITH CURL;SMALL LETTER TURNED T;SMALL LETTER T WITH RETROFLEX HOOK;
SMALL LETTER U BAR;SMALL LETTER UPSILON;SMALL LETTER V WITH HOOK;SMALL LETTER TURNED V;
SMALL LETTER TURNED W;SMALL LETTER TURNED Y;LETTER SMALL CAPITAL Y;
SMALL LETTER Z WITH RETROFLEX HOOK;SMALL LETTER Z WITH CURL;SMALL LETTER EZH;
SMALL LETTER EZH WITH CURL;LETTER GLOTTAL STOP;LETTER PHARYNGEAL VOICED FRICATIVE;
LETTER INVERTED GLOTTAL STOP;LETTER STRETCHED C;LETTER BILABIAL CLICK;LETTER SMALL CAPITAL B;
SMALL LETTER CLOSED OPEN E;LETTER SMALL CAPITAL G WITH HOOK;LETTER SMALL CAPITAL H;
SMALL LETTER J WITH CROSSED-TAIL;SMALL LETTER TURNED K;LETTER SMALL CAPITAL L;
SMALL LETTER Q WITH HOOK;LETTER GLOTTAL STOP WITH STROKE;LETTER REVERSED GLOTTAL STOP WITH STROKE;
SMALL LETTER DZ DIGRAPH;SMALL LETTER DEZH DIGRAPH;SMALL LETTER DZ DIGRAPH WITH CURL;
SMALL LETTER TS DIGRAPH;SMALL LETTER TESH DIGRAPH;SMALL LETTER TC DIGRAPH WITH CURL;
SMALL LETTER FENG DIGRAPH;SMALL LETTER LS DIGRAPH;SMALL LETTER LZ DIGRAPH;
LETTER BILABIAL PERCUSSIVE;LETTER BIDENTAL PERCUSSIVE;SMALL LETTER TURNED H WITH FISHHOOK;
SMALL LETTER TURNED H WITH FISHHOOK AND TAIL.2B0=MODIFIER LETTER :SMALL H;SMALL H WITH HOOK;
SMALL J;SMALL R;SMALL TURNED R;SMALL TURNED R WITH HOOK;SMALL CAPITAL INVERTED R;SMALL W;SMALL Y;
PRIME;DOUBLE PRIME;TURNED COMMA;APOSTROPHE;REVERSED COMMA;RIGHT HALF RING;LEFT HALF RING;
GLOTTAL STOP;REVERSED GLOTTAL STOP;LEFT ARROWHEAD;RIGHT ARROWHEAD;UP ARROWHEAD;DOWN ARROWHEAD;
CIRCUMFLEX ACCENT.2C7=:CARON.2C8=MODIFIER LETTER :VERTICAL LINE;MACRON;ACUTE ACCENT;GRAVE ACCENT;
LOW VERTICAL LINE;LOW MACRON;LOW GRAVE ACCENT;LOW ACUTE ACCENT;TRIANGULAR COLON;
HALF TRIANGULAR COLON;CENTRED RIGHT HALF RING;CENTRED LEFT HALF RING;UP TACK;DOWN TACK;PLUS SIGN;
MINUS SIGN.2D8=:BREVE;DOT ABOVE;RING ABOVE;OGONEK;SMALL TILDE;DOUBLE ACUTE ACCENT.
2DE=MODIFIER LETTER :RHOTIC HOOK;CROSS ACCENT;SMALL GAMMA;SMALL L;SMALL S;SMALL X;
SMALL REVERSED GLOTTAL STOP;EXTRA-HIGH TONE BAR;HIGH TONE BAR;MID TONE BAR;LOW TONE BAR;
EXTRA-LOW TONE BAR;YIN DEPARTING TONE MARK;YANG DEPARTING TONE MARK;VOICING;UNASPIRATED;
DOUBLE APOSTROPHE;LOW DOWN ARROWHEAD;LOW UP ARROWHEAD;LOW LEFT ARROWHEAD;LOW RIGHT ARROWHEAD;
LOW RING;MIDDLE GRAVE ACCENT;MIDDLE DOUBLE GRAVE ACCENT;MIDDLE DOUBLE ACUTE ACCENT;LOW TILDE;
RAISED COLON;BEGIN HIGH TONE;END HIGH TONE;BEGIN LOW TONE;END LOW TONE;SHELF;OPEN SHELF;
LOW LEFT ARROW.300=COMBINING :GRAVE ACCENT;ACUTE ACCENT;CIRCUMFLEX ACCENT;TILDE;MACRON;OVERLINE;
BREVE;DOT ABOVE;DIAERESIS;HOOK ABOVE;RING ABOVE;DOUBLE ACUTE ACCENT;CARON;VERTICAL LINE ABOVE;
DOUBLE VERTICAL LINE ABOVE;DOUBLE GRAVE ACCENT;CANDRABINDU;INVERTED BREVE;TURNED COMMA ABOVE;
COMMA ABOVE;REVERSED COMMA ABOVE;COMMA ABOVE RIGHT;GRAVE ACCENT BELOW;ACUTE ACCENT BELOW;
LEFT TACK BELOW;RIGHT TACK BELOW;LEFT ANGLE ABOVE;HORN;LEFT HALF RING BELOW;UP TACK BELOW;
DOWN TACK BELOW;PLUS SIGN BELOW;MINUS SIGN BELOW;PALATALIZED HOOK BELOW;RETROFLEX HOOK BELOW;
DOT BELOW;DIAERESIS BELOW;RING BELOW;COMMA BELOW;CEDILLA;OGONEK;VERTICAL LINE BELOW;BRIDGE BELOW;
INVERTED DOUBLE ARCH BELOW;CARON BELOW;CIRCUMFLEX ACCENT BELOW;BREVE BELOW;INVERTED BREVE BELOW;
TILDE BELOW;MACRON BELOW;LOW LINE;DOUBLE LOW LINE;TILDE OVERLAY;SHORT STROKE OVERLAY;
LONG STROKE OVERLAY;SHORT SOLIDUS OVERLAY;LONG SOLIDUS OVERLAY;RIGHT HALF RING BELOW;
INVERTED BRIDGE BELOW;SQUARE BELOW;SEAGULL BELOW;X ABOVE;VERTICAL TILDE;DOUBLE OVERLINE;
GRAVE TONE MARK;ACUTE TONE MARK;GREEK PERISPOMENI;GREEK KORONIS;GREEK DIALYTIKA TONOS;
GREEK YPOGEGRAMMENI;BRIDGE ABOVE;EQUALS SIGN BELOW;DOUBLE VERTICAL LINE BELOW;LEFT ANGLE BELOW;
NOT TILDE ABOVE;HOMOTHETIC ABOVE;ALMOST EQUAL TO ABOVE;LEFT RIGHT ARROW BELOW;UPWARDS ARROW BELOW;
GRAPHEME JOINER;RIGHT ARROWHEAD ABOVE;LEFT HALF RING ABOVE;FERMATA;X BELOW;LEFT ARROWHEAD BELOW;
RIGHT ARROWHEAD BELOW;RIGHT ARROWHEAD AND UP ARROWHEAD BELOW;RIGHT HALF RING ABOVE;DOT ABOVE RIGHT;
ASTERISK BELOW;DOUBLE RING BELOW;ZIGZAG ABOVE;DOUBLE BREVE BELOW;DOUBLE BREVE;DOUBLE MACRON;
DOUBLE MACRON BELOW;DOUBLE TILDE;DOUBLE INVERTED BREVE;DOUBLE RIGHTWARDS ARROW BELOW;
LATIN SMALL LETTER A;LATIN SMALL LETTER E;LATIN SMALL LETTER I;LATIN SMALL LETTER O;
LATIN SMALL LETTER U;LATIN SMALL LETTER C;LATIN SMALL LETTER D;LATIN SMALL LETTER H;
LATIN SMALL LETTER M;LATIN SMALL LETTER R;LATIN SMALL LETTER T;LATIN SMALL LETTER V;
LATIN SMALL LETTER X.370=GREEK :CAPITAL LETTER HETA;SMALL LETTER HETA;CAPITAL LETTER ARCHAIC SAMPI;
SMALL LETTER ARCHAIC SAMPI;NUMERAL SIGN;LOWER NUMERAL SIGN;CAPITAL LETTER PAMPHYLIAN DIGAMMA;
SMALL LETTER PAMPHYLIAN DIGAMMA.37A=GREEK :YPOGEGRAMMENI;SMALL REVERSED LUNATE SIGMA SYMBOL;
SMALL DOTTED LUNATE SIGMA SYMBOL;SMALL REVERSED DOTTED LUNATE SIGMA SYMBOL;QUESTION MARK;
CAPITAL LETTER YOT.384=GREEK :TONOS;DIALYTIKA TONOS;CAPITAL LETTER ALPHA WITH TONOS;ANO TELEIA;
CAPITAL LETTER EPSILON WITH TONOS;CAPITAL LETTER ETA WITH TONOS;CAPITAL LETTER IOTA WITH TONOS.
38C=:GREEK CAPITAL LETTER OMICRON WITH TONOS.38E=GREEK :CAPITAL LETTER UPSILON WITH TONOS;
CAPITAL LETTER OMEGA WITH TONOS;SMALL LETTER IOTA WITH DIALYTIKA AND TONOS;CAPITAL LETTER ALPHA;
CAPITAL LETTER BETA;CAPITAL LETTER GAMMA;CAPITAL LETTER DELTA;CAPITAL LETTER EPSILON;
CAPITAL LETTER ZETA;CAPITAL LETTER ETA;CAPITAL LETTER THETA;CAPITAL LETTER IOTA;
CAPITAL LETTER KAPPA;CAPITAL LETTER LAMDA;CAPITAL LETTER MU;CAPITAL LETTER NU;CAPITAL LETTER XI;
CAPITAL LETTER OMICRON;CAPITAL LETTER PI;CAPITAL LETTER RHO.3A3=GREEK :CAPITAL LETTER SIGMA;
CAPITAL LETTER TAU;CAPITAL LETTER UPSILON;CAPITAL LETTER PHI;CAPITAL LETTER CHI;CAPITAL LETTER PSI;
CAPITAL LETTER OMEGA;CAPITAL LETTER IOTA WITH DIALYTIKA;CAPITAL LETTER UPSILON WITH DIALYTIKA;
SMALL LETTER ALPHA WITH TONOS;SMALL LETTER EPSILON WITH TONOS;SMALL LETTER ETA WITH TONOS;
SMALL LETTER IOTA WITH TONOS;SMALL LETTER UPSILON WITH DIALYTIKA AND TONOS;SMALL LETTER ALPHA;
SMALL LETTER BETA;SMALL LETTER GAMMA;SMALL LETTER DELTA;SMALL LETTER EPSILON;SMALL LETTER ZETA;
SMALL LETTER ETA;SMALL LETTER THETA;SMALL LETTER IOTA;SMALL LETTER KAPPA;SMALL LETTER LAMDA;
SMALL LETTER MU;SMALL LETTER NU;SMALL LETTER XI;SMALL LETTER OMICRON;SMALL LETTER PI;
SMALL LETTER RHO;SMALL LETTER FINAL SIGMA;SMALL LETTER SIGMA;SMALL LETTER TAU;SMALL LETTER UPSILON;
SMALL LETTER PHI;SMALL LETTER CHI;SMALL LETTER PSI;SMALL LETTER OMEGA;
SMALL LETTER IOTA WITH DIALYTIKA;SMALL LETTER UPSILON WITH DIALYTIKA;
SMALL LETTER OMICRON WITH TONOS;SMALL LETTER UPSILON WITH TONOS;SMALL LETTER OMEGA WITH TONOS;
CAPITAL KAI SYMBOL;BETA SYMBOL;THETA SYMBOL;UPSILON WITH HOOK SYMBOL;
UPSILON WITH ACUTE AND HOOK SYMBOL;UPSILON WITH DIAERESIS AND HOOK SYMBOL;PHI SYMBOL;PI SYMBOL;
KAI SYMBOL;LETTER ARCHAIC KOPPA;SMALL LETTER ARCHAIC KOPPA;LETTER STIGMA;SMALL LETTER STIGMA;
LETTER DIGAMMA;SMALL LETTER DIGAMMA;LETTER KOPPA;SMALL LETTER KOPPA;LETTER SAMPI;
SMALL LETTER SAMPI.3E2=COPTIC :CAPITAL LETTER SHEI;SMALL LETTER SHEI;CAPITAL LETTER FEI;
SMALL LETTER FEI;CAPITAL LETTER KHEI;SMALL LETTER KHEI;CAPITAL LETTER HORI;SMALL LETTER HORI;
CAPITAL LETTER GANGIA;SMALL LETTER GANGIA;CAPITAL LETTER SHIMA;SMALL LETTER SHIMA;
CAPITAL LETTER DEI;SMALL LETTER DEI.3F0=GREEK :KAPPA SYMBOL;RHO SYMBOL;LUNATE SIGMA SYMBOL;
LETTER YOT;CAPITAL THETA SYMBOL;LUNATE EPSILON SYMBOL;REVERSED LUNATE EPSILON SYMBOL;
CAPITAL LETTER SHO;SMALL LETTER SHO;CAPITAL LUNATE SIGMA SYMBOL;CAPITAL LETTER SAN;
SMALL LETTER SAN;RHO WITH STROKE SYMBOL;CAPITAL REVERSED LUNATE SIGMA SYMBOL;
CAPITAL DOTTED LUNATE SIGMA SYMBOL;CAPITAL REVERSED DOTTED LUNATE SIGMA SYMBOL.400=CYRILLIC :
CAPITAL LETTER IE WITH GRAVE;CAPITAL LETTER IO;CAPITAL LETTER DJE;CAPITAL LETTER GJE;
CAPITAL LETTER UKRAINIAN IE;CAPITAL LETTER DZE;CAPITAL LETTER BYELORUSSIAN-UKRAINIAN I;
CAPITAL LETTER YI;CAPITAL LETTER JE;CAPITAL LETTER LJE;CAPITAL LETTER NJE;CAPITAL LETTER TSHE;
CAPITAL LETTER KJE;CAPITAL LETTER I WITH GRAVE;CAPITAL LETTER SHORT U;CAPITAL LETTER DZHE;
CAPITAL LETTER A;CAPITAL LETTER BE;CAPITAL LETTER VE;CAPITAL LETTER GHE;CAPITAL LETTER DE;
CAPITAL LETTER IE;CAPITAL LETTER ZHE;CAPITAL LETTER ZE;CAPITAL LETTER I;CAPITAL LETTER SHORT I;
CAPITAL LETTER KA;CAPITAL LETTER EL;CAPITAL LETTER EM;CAPITAL LETTER EN;CAPITAL LETTER O;
CAPITAL LETTER PE;CAPITAL LETTER ER;CAPITAL LETTER ES;CAPITAL LETTER TE;CAPITAL LETTER U;
CAPITAL LETTER EF;CAPITAL LETTER HA;CAPITAL LETTER TSE;CAPITAL LETTER CHE;CAPITAL LETTER SHA;
CAPITAL LETTER SHCHA;CAPITAL LETTER HARD SIGN;CAPITAL LETTER YERU;CAPITAL LETTER SOFT SIGN;
CAPITAL LETTER E;CAPITAL LETTER YU;CAPITAL LETTER YA;SMALL LETTER A;SMALL LETTER BE;
SMALL LETTER VE;SMALL LETTER GHE;SMALL LETTER DE;SMALL LETTER IE;SMALL LETTER ZHE;SMALL LETTER ZE;
SMALL LETTER I;SMALL LETTER SHORT I;SMALL LETTER KA;SMALL LETTER EL;SMALL LETTER EM;
SMALL LETTER EN;SMALL LETTER O;SMALL LETTER PE;SMALL LETTER ER;SMALL LETTER ES;SMALL LETTER TE;
SMALL LETTER U;SMALL LETTER EF;SMALL LETTER HA;SMALL LETTER TSE;SMALL LETTER CHE;SMALL LETTER SHA;
SMALL LETTER SHCHA;SMALL LETTER HARD SIGN;SMALL LETTER YERU;SMALL LETTER SOFT SIGN;SMALL LETTER E;
SMALL LETTER YU;SMALL LETTER YA;SMALL LETTER IE WITH GRAVE;SMALL LETTER IO;SMALL LETTER DJE;
SMALL LETTER GJE;SMALL LETTER UKRAINIAN IE;SMALL LETTER DZE;SMALL LETTER BYELORUSSIAN-UKRAINIAN I;
SMALL LETTER YI;SMALL LETTER JE;SMALL LETTER LJE;SMALL LETTER NJE;SMALL LETTER TSHE;
SMALL LETTER KJE;SMALL LETTER I WITH GRAVE;SMALL LETTER SHORT U;SMALL LETTER DZHE;
CAPITAL LETTER OMEGA;SMALL LETTER OMEGA;CAPITAL LETTER YAT;SMALL LETTER YAT;
CAPITAL LETTER IOTIFIED E;SMALL LETTER IOTIFIED E;CAPITAL LETTER LITTLE YUS;
SMALL LETTER LITTLE YUS;CAPITAL LETTER IOTIFIED LITTLE YUS;SMALL LETTER IOTIFIED LITTLE YUS;
CAPITAL LETTER BIG YUS;SMALL LETTER BIG YUS;CAPITAL LETTER IOTIFIED BIG YUS;
SMALL LETTER IOTIFIED BIG YUS;CAPITAL LETTER KSI;SMALL LETTER KSI;CAPITAL LETTER PSI;
SMALL LETTER PSI;CAPITAL LETTER FITA;SMALL LETTER FITA;CAPITAL LETTER IZHITSA;SMALL LETTER IZHITSA;
CAPITAL LETTER IZHITSA WITH DOUBLE GRAVE ACCENT;SMALL LETTER IZHITSA WITH DOUBLE GRAVE ACCENT;
CAPITAL LETTER UK;SMALL LETTER UK;CAPITAL LETTER ROUND OMEGA;SMALL LETTER ROUND OMEGA;
CAPITAL LETTER OMEGA WITH TITLO;SMALL LETTER OMEGA WITH TITLO;CAPITAL LETTER OT;SMALL LETTER OT;
CAPITAL LETTER KOPPA;SMALL LETTER KOPPA;THOUSANDS SIGN.483=COMBINING CYRILLIC :TITLO;
PALATALIZATION;DASIA PNEUMATA;PSILI PNEUMATA;POKRYTIE;HUNDRED THOUSANDS SIGN;MILLIONS SIGN.
48A=CYRILLIC :CAPITAL LETTER SHORT I WITH TAIL;SMALL LETTER SHORT I WITH TAIL;
CAPITAL LETTER SEMISOFT SIGN;SMALL LETTER SEMISOFT SIGN;CAPITAL LETTER ER WITH TICK;
SMALL LETTER ER WITH TICK;CAPITAL LETTER GHE WITH UPTURN;SMALL LETTER GHE WITH UPTURN;
CAPITAL LETTER GHE WITH STROKE;SMALL LETTER GHE WITH STROKE;CAPITAL LETTER GHE WITH MIDDLE HOOK;
SMALL LETTER GHE WITH MIDDLE HOOK;CAPITAL LETTER ZHE WITH DESCENDER;
SMALL LETTER ZHE WITH DESCENDER;CAPITAL LETTER ZE WITH DESCENDER;SMALL LETTER ZE WITH DESCENDER;
CAPITAL LETTER KA WITH DESCENDER;SMALL LETTER KA WITH DESCENDER;
CAPITAL LETTER KA WITH VERTICAL STROKE;SMALL LETTER KA WITH VERTICAL STROKE;
CAPITAL LETTER KA WITH STROKE;SMALL LETTER KA WITH STROKE;CAPITAL LETTER BASHKIR KA;
SMALL LETTER BASHKIR KA;CAPITAL LETTER EN WITH DESCENDER;SMALL LETTER EN WITH DESCENDER;
CAPITAL LIGATURE EN GHE;SMALL LIGATURE EN GHE;CAPITAL LETTER PE WITH MIDDLE HOOK;
SMALL LETTER PE WITH MIDDLE HOOK;CAPITAL LETTER ABKHASIAN HA;SMALL LETTER ABKHASIAN HA;
CAPITAL LETTER ES WITH DESCENDER;SMALL LETTER ES WITH DESCENDER;CAPITAL LETTER TE WITH DESCENDER;
SMALL LETTER TE WITH DESCENDER;CAPITAL LETTER STRAIGHT U;SMALL LETTER STRAIGHT U;
CAPITAL LETTER STRAIGHT U WITH STROKE;SMALL LETTER STRAIGHT U WITH STROKE;
CAPITAL LETTER HA WITH DESCENDER;SMALL LETTER HA WITH DESCENDER;CAPITAL LIGATURE TE TSE;
SMALL LIGATURE TE TSE;CAPITAL LETTER CHE WITH DESCENDER;SMALL LETTER CHE WITH DESCENDER;
CAPITAL LETTER CHE WITH VERTICAL STROKE;SMALL LETTER CHE WITH VERTICAL STROKE;CAPITAL LETTER SHHA;
SMALL LETTER SHHA;CAPITAL LETTER ABKHASIAN CHE;SMALL LETTER ABKHASIAN CHE;
CAPITAL LETTER ABKHASIAN CHE WITH DESCENDER;SMALL LETTER ABKHASIAN CHE WITH DESCENDER;
LETTER PALOCHKA;CAPITAL LETTER ZHE WITH BREVE;SMALL LETTER ZHE WITH BREVE;
CAPITAL LETTER KA WITH HOOK;SMALL LETTER KA WITH HOOK;CAPITAL LETTER EL WITH TAIL;
SMALL LETTER EL WITH TAIL;CAPITAL LETTER EN WITH HOOK;SMALL LETTER EN WITH HOOK;
CAPITAL LETTER EN WITH TAIL;SMALL LETTER EN WITH TAIL;CAPITAL LETTER KHAKASSIAN CHE;
SMALL LETTER KHAKASSIAN CHE;CAPITAL LETTER EM WITH TAIL;SMALL LETTER EM WITH TAIL;
SMALL LETTER PALOCHKA;CAPITAL LETTER A WITH BREVE;SMALL LETTER A WITH BREVE;
CAPITAL LETTER A WITH DIAERESIS;SMALL LETTER A WITH DIAERESIS;CAPITAL LIGATURE A IE;
SMALL LIGATURE A IE;CAPITAL LETTER IE WITH BREVE;SMALL LETTER IE WITH BREVE;CAPITAL LETTER SCHWA;
SMALL LETTER SCHWA;CAPITAL LETTER SCHWA WITH DIAERESIS;SMALL LETTER SCHWA WITH DIAERESIS;
CAPITAL LETTER ZHE WITH DIAERESIS;SMALL LETTER ZHE WITH DIAERESIS;CAPITAL LETTER ZE WITH DIAERESIS;
SMALL LETTER ZE WITH DIAERESIS;CAPITAL LETTER ABKHASIAN DZE;SMALL LETTER ABKHASIAN DZE;
CAPITAL LETTER I WITH MACRON;SMALL LETTER I WITH MACRON;CAPITAL LETTER I WITH DIAERESIS;
SMALL LETTER I WITH DIAERESIS;CAPITAL LETTER O WITH DIAERESIS;SMALL LETTER O WITH DIAERESIS;
CAPITAL LETTER BARRED O;SMALL LETTER BARRED O;CAPITAL LETTER BARRED O WITH DIAERESIS;
SMALL LETTER BARRED O WITH DIAERESIS;CAPITAL LETTER E WITH DIAERESIS;SMALL LETTER E WITH DIAERESIS;
CAPITAL LETTER U WITH MACRON;SMALL LETTER U WITH MACRON;CAPITAL LETTER U WITH DIAERESIS;
SMALL LETTER U WITH DIAERESIS;CAPITAL LETTER U WITH DOUBLE ACUTE;SMALL LETTER U WITH DOUBLE ACUTE;
CAPITAL LETTER CHE WITH DIAERESIS;SMALL LETTER CHE WITH DIAERESIS;
CAPITAL LETTER GHE WITH DESCENDER;SMALL LETTER GHE WITH DESCENDER;
CAPITAL LETTER YERU WITH DIAERESIS;SMALL LETTER YERU WITH DIAERESIS;
CAPITAL LETTER GHE WITH STROKE AND HOOK;SMALL LETTER GHE WITH STROKE AND HOOK;
CAPITAL LETTER HA WITH HOOK;SMALL LETTER HA WITH HOOK;CAPITAL LETTER HA WITH STROKE;
SMALL LETTER HA WITH STROKE;CAPITAL LETTER KOMI DE;SMALL LETTER KOMI DE;CAPITAL LETTER KOMI DJE;
SMALL LETTER KOMI DJE;CAPITAL LETTER KOMI ZJE;SMALL LETTER KOMI ZJE;CAPITAL LETTER KOMI DZJE;
SMALL LETTER KOMI DZJE;CAPITAL LETTER KOMI LJE;SMALL LETTER KOMI LJE;CAPITAL LETTER KOMI NJE;
SMALL LETTER KOMI NJE;CAPITAL LETTER KOMI SJE;SMALL LETTER KOMI SJE;CAPITAL LETTER KOMI TJE;
SMALL LETTER KOMI TJE;CAPITAL LETTER REVERSED ZE;SMALL LETTER REVERSED ZE;
CAPITAL LETTER EL WITH HOOK;SMALL LETTER EL WITH HOOK;CAPITAL LETTER LHA;SMALL LETTER LHA;
CAPITAL LETTER RHA;SMALL LETTER RHA;CAPITAL LETTER YAE;SMALL LETTER YAE;CAPITAL LETTER QA;
SMALL LETTER QA;CAPITAL LETTER WE;SMALL LETTER WE;CAPITAL LETTER ALEUT KA;SMALL LETTER ALEUT KA;
CAPITAL LETTER EL WITH MIDDLE HOOK;SMALL LETTER EL WITH MIDDLE HOOK;
CAPITAL LETTER EN WITH MIDDLE HOOK;SMALL LETTER EN WITH MIDDLE HOOK;
CAPITAL LETTER PE WITH DESCENDER;SMALL LETTER PE WITH DESCENDER;CAPITAL LETTER SHHA WITH DESCENDER;
SMALL LETTER SHHA WITH DESCENDER;CAPITAL LETTER EN WITH LEFT HOOK;SMALL LETTER EN WITH LEFT HOOK;
CAPITAL LETTER DZZHE;SMALL LETTER DZZHE;CAPITAL LETTER DCHE;SMALL LETTER DCHE;
CAPITAL LETTER EL WITH DESCENDER;SMALL LETTER EL WITH DESCENDER."

/-- The names of the phonetic letters and of letters of these scripts with marks. -/
def phoneticNames : String := "
1D00=LATIN :LETTER SMALL CAPITAL A;LETTER SMALL CAPITAL AE;SMALL LETTER TURNED AE;
LETTER SMALL CAPITAL BARRED B;LETTER SMALL CAPITAL C;LETTER SMALL CAPITAL D;
LETTER SMALL CAPITAL ETH;LETTER SMALL CAPITAL E;SMALL LETTER TURNED OPEN E;SMALL LETTER TURNED I;
LETTER SMALL CAPITAL J;LETTER SMALL CAPITAL K;LETTER SMALL CAPITAL L WITH STROKE;
LETTER SMALL CAPITAL M;LETTER SMALL CAPITAL REVERSED N;LETTER SMALL CAPITAL O;
LETTER SMALL CAPITAL OPEN O;SMALL LETTER SIDEWAYS O;SMALL LETTER SIDEWAYS OPEN O;
SMALL LETTER SIDEWAYS O WITH STROKE;SMALL LETTER TURNED OE;LETTER SMALL CAPITAL OU;
SMALL LETTER TOP HALF O;SMALL LETTER BOTTOM HALF O;LETTER SMALL CAPITAL P;
LETTER SMALL CAPITAL REVERSED R;LETTER SMALL CAPITAL TURNED R;LETTER SMALL CAPITAL T;
LETTER SMALL CAPITAL U;SMALL LETTER SIDEWAYS U;SMALL LETTER SIDEWAYS DIAERESIZED U;
SMALL LETTER SIDEWAYS TURNED M;LETTER SMALL CAPITAL V;LETTER SMALL CAPITAL W;
LETTER SMALL CAPITAL Z;LETTER SMALL CAPITAL EZH;LETTER VOICED LARYNGEAL SPIRANT;LETTER AIN.
1D26=GREEK LETTER SMALL CAPITAL :GAMMA;LAMDA;PI;RHO;PSI.1D2B=:CYRILLIC LETTER SMALL CAPITAL EL.
1D2C=MODIFIER LETTER :CAPITAL A;CAPITAL AE;CAPITAL B;CAPITAL BARRED B;CAPITAL D;CAPITAL E;
CAPITAL REVERSED E;CAPITAL G;CAPITAL H;CAPITAL I;CAPITAL J;CAPITAL K;CAPITAL L;CAPITAL M;CAPITAL N;
CAPITAL REVERSED N;CAPITAL O;CAPITAL OU;CAPITAL P;CAPITAL R;CAPITAL T;CAPITAL U;CAPITAL W;SMALL A;
SMALL TURNED A;SMALL ALPHA;SMALL TURNED AE;SMALL B;SMALL D;SMALL E;SMALL SCHWA;SMALL OPEN E;
SMALL TURNED OPEN E;SMALL G;SMALL TURNED I;SMALL K;SMALL M;SMALL ENG;SMALL O;SMALL OPEN O;
SMALL TOP HALF O;SMALL BOTTOM HALF O;SMALL P;SMALL T;SMALL U;SMALL SIDEWAYS U;SMALL TURNED M;
SMALL V;SMALL AIN;SMALL BETA;SMALL GREEK GAMMA;SMALL DELTA;SMALL GREEK PHI;SMALL CHI.
1D62=LATIN SUBSCRIPT SMALL LETTER :I;R;U;V.1D66=GREEK SUBSCRIPT SMALL LETTER :BETA;GAMMA;RHO;PHI;
CHI.1D6B=LATIN SMALL LETTER :UE;B WITH MIDDLE TILDE;D WITH MIDDLE TILDE;F WITH MIDDLE TILDE;
M WITH MIDDLE TILDE;N WITH MIDDLE TILDE;P WITH MIDDLE TILDE;R WITH MIDDLE TILDE;
R WITH FISHHOOK AND MIDDLE TILDE;S WITH MIDDLE TILDE;T WITH MIDDLE TILDE;Z WITH MIDDLE TILDE;
TURNED G.1D78=:MODIFIER LETTER CYRILLIC EN.1D79=LATIN SMALL :LETTER INSULAR G;
LETTER TH WITH STRIKETHROUGH;CAPITAL LETTER I WITH STROKE;LETTER IOTA WITH STROKE;
LETTER P WITH STROKE;CAPITAL LETTER U WITH STROKE;LETTER UPSILON WITH STROKE;
LETTER B WITH PALATAL HOOK;LETTER D WITH PALATAL HOOK;LETTER F WITH PALATAL HOOK;
LETTER G WITH PALATAL HOOK;LETTER K WITH PALATAL HOOK;LETTER L WITH PALATAL HOOK;
LETTER M WITH PALATAL HOOK;LETTER N WITH PALATAL HOOK;LETTER P WITH PALATAL HOOK;
LETTER R WITH PALATAL HOOK;LETTER S WITH PALATAL HOOK;LETTER ESH WITH PALATAL HOOK;
LETTER V WITH PALATAL HOOK;LETTER X WITH PALATAL HOOK;LETTER Z WITH PALATAL HOOK;
LETTER A WITH RETROFLEX HOOK;LETTER ALPHA WITH RETROFLEX HOOK;LETTER D WITH HOOK AND TAIL;
LETTER E WITH RETROFLEX HOOK;LETTER OPEN E WITH RETROFLEX HOOK;
LETTER REVERSED OPEN E WITH RETROFLEX HOOK;LETTER SCHWA WITH RETROFLEX HOOK;
LETTER I WITH RETROFLEX HOOK;LETTER OPEN O WITH RETROFLEX HOOK;LETTER ESH WITH RETROFLEX HOOK;
LETTER U WITH RETROFLEX HOOK;LETTER EZH WITH RETROFLEX HOOK.1D9B=MODIFIER LETTER SMALL :
TURNED ALPHA;C;C WITH CURL;ETH;REVERSED OPEN E;F;DOTLESS J WITH STROKE;SCRIPT G;TURNED H;
I WITH STROKE;IOTA;CAPITAL I;CAPITAL I WITH STROKE;J WITH CROSSED-TAIL;L WITH RETROFLEX HOOK;
L WITH PALATAL HOOK;CAPITAL L;M WITH HOOK;TURNED M WITH LONG LEG;N WITH LEFT HOOK;
N WITH RETROFLEX HOOK;CAPITAL N;BARRED O;PHI;S WITH HOOK;ESH;T WITH PALATAL HOOK;U BAR;UPSILON;
CAPITAL U;V WITH HOOK;TURNED V;Z;Z WITH RETROFLEX HOOK;Z WITH CURL;EZH;THETA.1DC0=COMBINING :
DOTTED GRAVE ACCENT;DOTTED ACUTE ACCENT;SNAKE BELOW;SUSPENSION MARK;MACRON-ACUTE;GRAVE-MACRON;
MACRON-GRAVE;ACUTE-MACRON;GRAVE-ACUTE-GRAVE;ACUTE-GRAVE-ACUTE;LATIN SMALL LETTER R BELOW;
BREVE-MACRON;MACRON-BREVE;DOUBLE CIRCUMFLEX ABOVE;OGONEK ABOVE;ZIGZAG BELOW;IS BELOW;UR ABOVE;
US ABOVE;LATIN SMALL LETTER FLATTENED OPEN A ABOVE;LATIN SMALL LETTER AE;LATIN SMALL LETTER AO;
LATIN SMALL LETTER AV;LATIN SMALL LETTER C CEDILLA;LATIN SMALL LETTER INSULAR D;
LATIN SMALL LETTER ETH;LATIN SMALL LETTER G;LATIN LETTER SMALL CAPITAL G;LATIN SMALL LETTER K;
LATIN SMALL LETTER L;LATIN LETTER SMALL CAPITAL L;LATIN LETTER SMALL CAPITAL M;
LATIN SMALL LETTER N;LATIN LETTER SMALL CAPITAL N;LATIN LETTER SMALL CAPITAL R;
LATIN SMALL LETTER R ROTUNDA;LATIN SMALL LETTER S;LATIN SMALL LETTER LONG S;LATIN SMALL LETTER Z;
LATIN SMALL LETTER ALPHA;LATIN SMALL LETTER B;LATIN SMALL LETTER BETA;LATIN SMALL LETTER SCHWA;
LATIN SMALL LETTER F;LATIN SMALL LETTER L WITH DOUBLE MIDDLE TILDE;
LATIN SMALL LETTER O WITH LIGHT CENTRALIZATION STROKE;LATIN SMALL LETTER P;LATIN SMALL LETTER ESH;
LATIN SMALL LETTER U WITH LIGHT CENTRALIZATION STROKE;LATIN SMALL LETTER W;
LATIN SMALL LETTER A WITH DIAERESIS;LATIN SMALL LETTER O WITH DIAERESIS;
LATIN SMALL LETTER U WITH DIAERESIS;UP TACK ABOVE;KAVYKA ABOVE RIGHT;KAVYKA ABOVE LEFT;
DOT ABOVE LEFT;WIDE INVERTED BRIDGE BELOW;DOT BELOW LEFT;DELETION MARK;DOUBLE INVERTED BREVE BELOW;
ALMOST EQUAL TO BELOW;LEFT ARROWHEAD ABOVE;RIGHT ARROWHEAD AND DOWN ARROWHEAD BELOW.1E00=LATIN :
CAPITAL LETTER A WITH RING BELOW;SMALL LETTER A WITH RING BELOW;CAPITAL LETTER B WITH DOT ABOVE;
SMALL LETTER B WITH DOT ABOVE;CAPITAL LETTER B WITH DOT BELOW;SMALL LETTER B WITH DOT BELOW;
CAPITAL LETTER B WITH LINE BELOW;SMALL LETTER B WITH LINE BELOW;
CAPITAL LETTER C WITH CEDILLA AND ACUTE;SMALL LETTER C WITH CEDILLA AND ACUTE;
CAPITAL LETTER D WITH DOT ABOVE;SMALL LETTER D WITH DOT ABOVE;CAPITAL LETTER D WITH DOT BELOW;
SMALL LETTER D WITH DOT BELOW;CAPITAL LETTER D WITH LINE BELOW;SMALL LETTER D WITH LINE BELOW;
CAPITAL LETTER D WITH CEDILLA;SMALL LETTER D WITH CEDILLA;CAPITAL LETTER D WITH CIRCUMFLEX BELOW;
SMALL LETTER D WITH CIRCUMFLEX BELOW;CAPITAL LETTER E WITH MACRON AND GRAVE;
SMALL LETTER E WITH MACRON AND GRAVE;CAPITAL LETTER E WITH MACRON AND ACUTE;
SMALL LETTER E WITH MACRON AND ACUTE;CAPITAL LETTER E WITH CIRCUMFLEX BELOW;
SMALL LETTER E WITH CIRCUMFLEX BELOW;CAPITAL LETTER E WITH TILDE BELOW;
SMALL LETTER E WITH TILDE BELOW;CAPITAL LETTER E WITH CEDILLA AND BREVE;
SMALL LETTER E WITH CEDILLA AND BREVE;CAPITAL LETTER F WITH DOT ABOVE;
SMALL LETTER F WITH DOT ABOVE;CAPITAL LETTER G WITH MACRON;SMALL LETTER G WITH MACRON;
CAPITAL LETTER H WITH DOT ABOVE;SMALL LETTER H WITH DOT ABOVE;CAPITAL LETTER H WITH DOT BELOW;
SMALL LETTER H WITH DOT BELOW;CAPITAL LETTER H WITH DIAERESIS;SMALL LETTER H WITH DIAERESIS;
CAPITAL LETTER H WITH CEDILLA;SMALL LETTER H WITH CEDILLA;CAPITAL LETTER H WITH BREVE BELOW;
SMALL LETTER H WITH BREVE BELOW;CAPITAL LETTER I WITH TILDE BELOW;SMALL LETTER I WITH TILDE BELOW;
CAPITAL LETTER I WITH DIAERESIS AND ACUTE;SMALL LETTER I WITH DIAERESIS AND ACUTE;
CAPITAL LETTER K WITH ACUTE;SMALL LETTER K WITH ACUTE;CAPITAL LETTER K WITH DOT BELOW;
SMALL LETTER K WITH DOT BELOW;CAPITAL LETTER K WITH LINE BELOW;SMALL LETTER K WITH LINE BELOW;
CAPITAL LETTER L WITH DOT BELOW;SMALL LETTER L WITH DOT BELOW;
CAPITAL LETTER L WITH DOT BELOW AND MACRON;SMALL LETTER L WITH DOT BELOW AND MACRON;
CAPITAL LETTER L WITH LINE BELOW;SMALL LETTER L WITH LINE BELOW;
CAPITAL LETTER L WITH CIRCUMFLEX BELOW;SMALL LETTER L WITH CIRCUMFLEX BELOW;
CAPITAL LETTER M WITH ACUTE;SMALL LETTER M WITH ACUTE;CAPITAL LETTER M WITH DOT ABOVE;
SMALL LETTER M WITH DOT ABOVE;CAPITAL LETTER M WITH DOT BELOW;SMALL LETTER M WITH DOT BELOW;
CAPITAL LETTER N WITH DOT ABOVE;SMALL LETTER N WITH DOT ABOVE;CAPITAL LETTER N WITH DOT BELOW;
SMALL LETTER N WITH DOT BELOW;CAPITAL LETTER N WITH LINE BELOW;SMALL LETTER N WITH LINE BELOW;
CAPITAL LETTER N WITH CIRCUMFLEX BELOW;SMALL LETTER N WITH CIRCUMFLEX BELOW;
CAPITAL LETTER O WITH TILDE AND ACUTE;SMALL LETTER O WITH TILDE AND ACUTE;
CAPITAL LETTER O WITH TILDE AND DIAERESIS;SMALL LETTER O WITH TILDE AND DIAERESIS;
CAPITAL LETTER O WITH MACRON AND GRAVE;SMALL LETTER O WITH MACRON AND GRAVE;
CAPITAL LETTER O WITH MACRON AND ACUTE;SMALL LETTER O WITH MACRON AND ACUTE;
CAPITAL LETTER P WITH ACUTE;SMALL LETTER P WITH ACUTE;CAPITAL LETTER P WITH DOT ABOVE;
SMALL LETTER P WITH DOT ABOVE;CAPITAL LETTER R WITH DOT ABOVE;SMALL LETTER R WITH DOT ABOVE;
CAPITAL LETTER R WITH DOT BELOW;SMALL LETTER R WITH DOT BELOW;
CAPITAL LETTER R WITH DOT BELOW AND MACRON;SMALL LETTER R WITH DOT BELOW AND MACRON;
CAPITAL LETTER R WITH LINE BELOW;SMALL LETTER R WITH LINE BELOW;CAPITAL LETTER S WITH DOT ABOVE;
SMALL LETTER S WITH DOT ABOVE;CAPITAL LETTER S WITH DOT BELOW;SMALL LETTER S WITH DOT BELOW;
CAPITAL LETTER S WITH ACUTE AND DOT ABOVE;SMALL LETTER S WITH ACUTE AND DOT ABOVE;
CAPITAL LETTER S WITH CARON AND DOT ABOVE;SMALL LETTER S WITH CARON AND DOT ABOVE;
CAPITAL LETTER S WITH DOT BELOW AND DOT ABOVE;SMALL LETTER S WITH DOT BELOW AND DOT ABOVE;
CAPITAL LETTER T WITH DOT ABOVE;SMALL LETTER T WITH DOT ABOVE;CAPITAL LETTER T WITH DOT BELOW;
SMALL LETTER T WITH DOT BELOW;CAPITAL LETTER T WITH LINE BELOW;SMALL LETTER T WITH LINE BELOW;
CAPITAL LETTER T WITH CIRCUMFLEX BELOW;SMALL LETTER T WITH CIRCUMFLEX BELOW;
CAPITAL LETTER U WITH DIAERESIS BELOW;SMALL LETTER U WITH DIAERESIS BELOW;
CAPITAL LETTER U WITH TILDE BELOW;SMALL LETTER U WITH TILDE BELOW;
CAPITAL LETTER U WITH CIRCUMFLEX BELOW;SMALL LETTER U WITH CIRCUMFLEX BELOW;
CAPITAL LETTER U WITH TILDE AND ACUTE;SMALL LETTER U WITH TILDE AND ACUTE;
CAPITAL LETTER U WITH MACRON AND DIAERESIS;SMALL LETTER U WITH MACRON AND DIAERESIS;
CAPITAL LETTER V WITH TILDE;SMALL LETTER V WITH TILDE;CAPITAL LETTER V WITH DOT BELOW;
SMALL LETTER V WITH DOT BELOW;CAPITAL LETTER W WITH GRAVE;SMALL LETTER W WITH GRAVE;
CAPITAL LETTER W WITH ACUTE;SMALL LETTER W WITH ACUTE;CAPITAL LETTER W WITH DIAERESIS;
SMALL LETTER W WITH DIAERESIS;CAPITAL LETTER W WITH DOT ABOVE;SMALL LETTER W WITH DOT ABOVE;
CAPITAL LETTER W WITH DOT BELOW;SMALL LETTER W WITH DOT BELOW;CAPITAL LETTER X WITH DOT ABOVE;
SMALL LETTER X WITH DOT ABOVE;CAPITAL LETTER X WITH DIAERESIS;SMALL LETTER X WITH DIAERESIS;
CAPITAL LETTER Y WITH DOT ABOVE;SMALL LETTER Y WITH DOT ABOVE;CAPITAL LETTER Z WITH CIRCUMFLEX;
SMALL LETTER Z WITH CIRCUMFLEX;CAPITAL LETTER Z WITH DOT BELOW;SMALL LETTER Z WITH DOT BELOW;
CAPITAL LETTER Z WITH LINE BELOW;SMALL LETTER Z WITH LINE BELOW;SMALL LETTER H WITH LINE BELOW;
SMALL LETTER T WITH DIAERESIS;SMALL LETTER W WITH RING ABOVE;SMALL LETTER Y WITH RING ABOVE;
SMALL LETTER A WITH RIGHT HALF RING;SMALL LETTER LONG S WITH DOT ABOVE;
SMALL LETTER LONG S WITH DIAGONAL STROKE;SMALL LETTER LONG S WITH HIGH STROKE;
CAPITAL LETTER SHARP S;SMALL LETTER DELTA;CAPITAL LETTER A WITH DOT BELOW;
SMALL LETTER A WITH DOT BELOW;CAPITAL LETTER A WITH HOOK ABOVE;SMALL LETTER A WITH HOOK ABOVE;
CAPITAL LETTER A WITH CIRCUMFLEX AND ACUTE;SMALL LETTER A WITH CIRCUMFLEX AND ACUTE;
CAPITAL LETTER A WITH CIRCUMFLEX AND GRAVE;SMALL LETTER A WITH CIRCUMFLEX AND GRAVE;
CAPITAL LETTER A WITH CIRCUMFLEX AND HOOK ABOVE;SMALL LETTER A WITH CIRCUMFLEX AND HOOK ABOVE;
CAPITAL LETTER A WITH CIRCUMFLEX AND TILDE;SMALL LETTER A WITH CIRCUMFLEX AND TILDE;
CAPITAL LETTER A WITH CIRCUMFLEX AND DOT BELOW;SMALL LETTER A WITH CIRCUMFLEX AND DOT BELOW;
CAPITAL LETTER A WITH BREVE AND ACUTE;SMALL LETTER A WITH BREVE AND ACUTE;
CAPITAL LETTER A WITH BREVE AND GRAVE;SMALL LETTER A WITH BREVE AND GRAVE;
CAPITAL LETTER A WITH BREVE AND HOOK ABOVE;SMALL LETTER A WITH BREVE AND HOOK ABOVE;
CAPITAL LETTER A WITH BREVE AND TILDE;SMALL LETTER A WITH BREVE AND TILDE;
CAPITAL LETTER A WITH BREVE AND DOT BELOW;SMALL LETTER A WITH BREVE AND DOT BELOW;
CAPITAL LETTER E WITH DOT BELOW;SMALL LETTER E WITH DOT BELOW;CAPITAL LETTER E WITH HOOK ABOVE;
SMALL LETTER E WITH HOOK ABOVE;CAPITAL LETTER E WITH TILDE;SMALL LETTER E WITH TILDE;
CAPITAL LETTER E WITH CIRCUMFLEX AND ACUTE;SMALL LETTER E WITH CIRCUMFLEX AND ACUTE;
CAPITAL LETTER E WITH CIRCUMFLEX AND GRAVE;SMALL LETTER E WITH CIRCUMFLEX AND GRAVE;
CAPITAL LETTER E WITH CIRCUMFLEX AND HOOK ABOVE;SMALL LETTER E WITH CIRCUMFLEX AND HOOK ABOVE;
CAPITAL LETTER E WITH CIRCUMFLEX AND TILDE;SMALL LETTER E WITH CIRCUMFLEX AND TILDE;
CAPITAL LETTER E WITH CIRCUMFLEX AND DOT BELOW;SMALL LETTER E WITH CIRCUMFLEX AND DOT BELOW;
CAPITAL LETTER I WITH HOOK ABOVE;SMALL LETTER I WITH HOOK ABOVE;CAPITAL LETTER I WITH DOT BELOW;
SMALL LETTER I WITH DOT BELOW;CAPITAL LETTER O WITH DOT BELOW;SMALL LETTER O WITH DOT BELOW;
CAPITAL LETTER O WITH HOOK ABOVE;SMALL LETTER O WITH HOOK ABOVE;
CAPITAL LETTER O WITH CIRCUMFLEX AND ACUTE;SMALL LETTER O WITH CIRCUMFLEX AND ACUTE;
CAPITAL LETTER O WITH CIRCUMFLEX AND GRAVE;SMALL LETTER O WITH CIRCUMFLEX AND GRAVE;
CAPITAL LETTER O WITH CIRCUMFLEX AND HOOK ABOVE;SMALL LETTER O WITH CIRCUMFLEX AND HOOK ABOVE;
CAPITAL LETTER O WITH CIRCUMFLEX AND TILDE;SMALL LETTER O WITH CIRCUMFLEX AND TILDE;
CAPITAL LETTER O WITH CIRCUMFLEX AND DOT BELOW;SMALL LETTER O WITH CIRCUMFLEX AND DOT BELOW;
CAPITAL LETTER O WITH HORN AND ACUTE;SMALL LETTER O WITH HORN AND ACUTE;
CAPITAL LETTER O WITH HORN AND GRAVE;SMALL LETTER O WITH HORN AND GRAVE;
CAPITAL LETTER O WITH HORN AND HOOK ABOVE;SMALL LETTER O WITH HORN AND HOOK ABOVE;
CAPITAL LETTER O WITH HORN AND TILDE;SMALL LETTER O WITH HORN AND TILDE;
CAPITAL LETTER O WITH HORN AND DOT BELOW;SMALL LETTER O WITH HORN AND DOT BELOW;
CAPITAL LETTER U WITH DOT BELOW;SMALL LETTER U WITH DOT BELOW;CAPITAL LETTER U WITH HOOK ABOVE;
SMALL LETTER U WITH HOOK ABOVE;CAPITAL LETTER U WITH HORN AND ACUTE;
SMALL LETTER U WITH HORN AND ACUTE;CAPITAL LETTER U WITH HORN AND GRAVE;
SMALL LETTER U WITH HORN AND GRAVE;CAPITAL LETTER U WITH HORN AND HOOK ABOVE;
SMALL LETTER U WITH HORN AND HOOK ABOVE;CAPITAL LETTER U WITH HORN AND TILDE;
SMALL LETTER U WITH HORN AND TILDE;CAPITAL LETTER U WITH HORN AND DOT BELOW;
SMALL LETTER U WITH HORN AND DOT BELOW;CAPITAL LETTER Y WITH GRAVE;SMALL LETTER Y WITH GRAVE;
CAPITAL LETTER Y WITH DOT BELOW;SMALL LETTER Y WITH DOT BELOW;CAPITAL LETTER Y WITH HOOK ABOVE;
SMALL LETTER Y WITH HOOK ABOVE;CAPITAL LETTER Y WITH TILDE;SMALL LETTER Y WITH TILDE;
CAPITAL LETTER MIDDLE-WELSH LL;SMALL LETTER MIDDLE-WELSH LL;CAPITAL LETTER MIDDLE-WELSH V;
SMALL LETTER MIDDLE-WELSH V;CAPITAL LETTER Y WITH LOOP;SMALL LETTER Y WITH LOOP.
1F00=GREEK SMALL LETTER ALPHA WITH :PSILI;DASIA;PSILI AND VARIA;DASIA AND VARIA;PSILI AND OXIA;
DASIA AND OXIA;PSILI AND PERISPOMENI;DASIA AND PERISPOMENI.1F08=GREEK CAPITAL LETTER ALPHA WITH :
PSILI;DASIA;PSILI AND VARIA;DASIA AND VARIA;PSILI AND OXIA;DASIA AND OXIA;PSILI AND PERISPOMENI;
DASIA AND PERISPOMENI.1F10=GREEK SMALL LETTER EPSILON WITH :PSILI;DASIA;PSILI AND VARIA;
DASIA AND VARIA;PSILI AND OXIA;DASIA AND OXIA.1F18=GREEK CAPITAL LETTER EPSILON WITH :PSILI;DASIA;
PSILI AND VARIA;DASIA AND VARIA;PSILI AND OXIA;DASIA AND OXIA.1F20=GREEK :
SMALL LETTER ETA WITH PSILI;SMALL LETTER ETA WITH DASIA;SMALL LETTER ETA WITH PSILI AND VARIA;
SMALL LETTER ETA WITH DASIA AND VARIA;SMALL LETTER ETA WITH PSILI AND OXIA;
SMALL LETTER ETA WITH DASIA AND OXIA;SMALL LETTER ETA WITH PSILI AND PERISPOMENI;
SMALL LETTER ETA WITH DASIA AND PERISPOMENI;CAPITAL LETTER ETA WITH PSILI;
CAPITAL LETTER ETA WITH DASIA;CAPITAL LETTER ETA WITH PSILI AND VARIA;
CAPITAL LETTER ETA WITH DASIA AND VARIA;CAPITAL LETTER ETA WITH PSILI AND OXIA;
CAPITAL LETTER ETA WITH DASIA AND OXIA;CAPITAL LETTER ETA WITH PSILI AND PERISPOMENI;
CAPITAL LETTER ETA WITH DASIA AND PERISPOMENI;SMALL LETTER IOTA WITH PSILI;
SMALL LETTER IOTA WITH DASIA;SMALL LETTER IOTA WITH PSILI AND VARIA;
SMALL LETTER IOTA WITH DASIA AND VARIA;SMALL LETTER IOTA WITH PSILI AND OXIA;
SMALL LETTER IOTA WITH DASIA AND OXIA;SMALL LETTER IOTA WITH PSILI AND PERISPOMENI;
SMALL LETTER IOTA WITH DASIA AND PERISPOMENI;CAPITAL LETTER IOTA WITH PSILI;
CAPITAL LETTER IOTA WITH DASIA;CAPITAL LETTER IOTA WITH PSILI AND VARIA;
CAPITAL LETTER IOTA WITH DASIA AND VARIA;CAPITAL LETTER IOTA WITH PSILI AND OXIA;
CAPITAL LETTER IOTA WITH DASIA AND OXIA;CAPITAL LETTER IOTA WITH PSILI AND PERISPOMENI;
CAPITAL LETTER IOTA WITH DASIA AND PERISPOMENI;SMALL LETTER OMICRON WITH PSILI;
SMALL LETTER OMICRON WITH DASIA;SMALL LETTER OMICRON WITH PSILI AND VARIA;
SMALL LETTER OMICRON WITH DASIA AND VARIA;SMALL LETTER OMICRON WITH PSILI AND OXIA;
SMALL LETTER OMICRON WITH DASIA AND OXIA.1F48=GREEK CAPITAL LETTER OMICRON WITH :PSILI;DASIA;
PSILI AND VARIA;DASIA AND VARIA;PSILI AND OXIA;DASIA AND OXIA.
1F50=GREEK SMALL LETTER UPSILON WITH :PSILI;DASIA;PSILI AND VARIA;DASIA AND VARIA;PSILI AND OXIA;
DASIA AND OXIA;PSILI AND PERISPOMENI;DASIA AND PERISPOMENI.1F59=:
GREEK CAPITAL LETTER UPSILON WITH DASIA.1F5B=:GREEK CAPITAL LETTER UPSILON WITH DASIA AND VARIA.
1F5D=:GREEK CAPITAL LETTER UPSILON WITH DASIA AND OXIA.1F5F=GREEK :
CAPITAL LETTER UPSILON WITH DASIA AND PERISPOMENI;SMALL LETTER OMEGA WITH PSILI;
SMALL LETTER OMEGA WITH DASIA;SMALL LETTER OMEGA WITH PSILI AND VARIA;
SMALL LETTER OMEGA WITH DASIA AND VARIA;SMALL LETTER OMEGA WITH PSILI AND OXIA;
SMALL LETTER OMEGA WITH DASIA AND OXIA;SMALL LETTER OMEGA WITH PSILI AND PERISPOMENI;
SMALL LETTER OMEGA WITH DASIA AND PERISPOMENI;CAPITAL LETTER OMEGA WITH PSILI;
CAPITAL LETTER OMEGA WITH DASIA;CAPITAL LETTER OMEGA WITH PSILI AND VARIA;
CAPITAL LETTER OMEGA WITH DASIA AND VARIA;CAPITAL LETTER OMEGA WITH PSILI AND OXIA;
CAPITAL LETTER OMEGA WITH DASIA AND OXIA;CAPITAL LETTER OMEGA WITH PSILI AND PERISPOMENI;
CAPITAL LETTER OMEGA WITH DASIA AND PERISPOMENI;SMALL LETTER ALPHA WITH VARIA;
SMALL LETTER ALPHA WITH OXIA;SMALL LETTER EPSILON WITH VARIA;SMALL LETTER EPSILON WITH OXIA;
SMALL LETTER ETA WITH VARIA;SMALL LETTER ETA WITH OXIA;SMALL LETTER IOTA WITH VARIA;
SMALL LETTER IOTA WITH OXIA;SMALL LETTER OMICRON WITH VARIA;SMALL LETTER OMICRON WITH OXIA;
SMALL LETTER UPSILON WITH VARIA;SMALL LETTER UPSILON WITH OXIA;SMALL LETTER OMEGA WITH VARIA;
SMALL LETTER OMEGA WITH OXIA.1F80=GREEK :SMALL LETTER ALPHA WITH PSILI AND YPOGEGRAMMENI;
SMALL LETTER ALPHA WITH DASIA AND YPOGEGRAMMENI;
SMALL LETTER ALPHA WITH PSILI AND VARIA AND YPOGEGRAMMENI;
SMALL LETTER ALPHA WITH DASIA AND VARIA AND YPOGEGRAMMENI;
SMALL LETTER ALPHA WITH PSILI AND OXIA AND YPOGEGRAMMENI;
SMALL LETTER ALPHA WITH DASIA AND OXIA AND YPOGEGRAMMENI;
SMALL LETTER ALPHA WITH PSILI AND PERISPOMENI AND YPOGEGRAMMENI;
SMALL LETTER ALPHA WITH DASIA AND PERISPOMENI AND YPOGEGRAMMENI;
CAPITAL LETTER ALPHA WITH PSILI AND PROSGEGRAMMENI;
CAPITAL LETTER ALPHA WITH DASIA AND PROSGEGRAMMENI;
CAPITAL LETTER ALPHA WITH PSILI AND VARIA AND PROSGEGRAMMENI;
CAPITAL LETTER ALPHA WITH DASIA AND VARIA AND PROSGEGRAMMENI;
CAPITAL LETTER ALPHA WITH PSILI AND OXIA AND PROSGEGRAMMENI;
CAPITAL LETTER ALPHA WITH DASIA AND OXIA AND PROSGEGRAMMENI;
CAPITAL LETTER ALPHA WITH PSILI AND PERISPOMENI AND PROSGEGRAMMENI;
CAPITAL LETTER ALPHA WITH DASIA AND PERISPOMENI AND PROSGEGRAMMENI;
SMALL LETTER ETA WITH PSILI AND YPOGEGRAMMENI;SMALL LETTER ETA WITH DASIA AND YPOGEGRAMMENI;
SMALL LETTER ETA WITH PSILI AND VARIA AND YPOGEGRAMMENI;
SMALL LETTER ETA WITH DASIA AND VARIA AND YPOGEGRAMMENI;
SMALL LETTER ETA WITH PSILI AND OXIA AND YPOGEGRAMMENI;
SMALL LETTER ETA WITH DASIA AND OXIA AND YPOGEGRAMMENI;
SMALL LETTER ETA WITH PSILI AND PERISPOMENI AND YPOGEGRAMMENI;
SMALL LETTER ETA WITH DASIA AND PERISPOMENI AND YPOGEGRAMMENI;
CAPITAL LETTER ETA WITH PSILI AND PROSGEGRAMMENI;CAPITAL LETTER ETA WITH DASIA AND PROSGEGRAMMENI;
CAPITAL LETTER ETA WITH PSILI AND VARIA AND PROSGEGRAMMENI;
CAPITAL LETTER ETA WITH DASIA AND VARIA AND PROSGEGRAMMENI;
CAPITAL LETTER ETA WITH PSILI AND OXIA AND PROSGEGRAMMENI;
CAPITAL LETTER ETA WITH DASIA AND OXIA AND PROSGEGRAMMENI;
CAPITAL LETTER ETA WITH PSILI AND PERISPOMENI AND PROSGEGRAMMENI;
CAPITAL LETTER ETA WITH DASIA AND PERISPOMENI AND PROSGEGRAMMENI;
SMALL LETTER OMEGA WITH PSILI AND YPOGEGRAMMENI;SMALL LETTER OMEGA WITH DASIA AND YPOGEGRAMMENI;
SMALL LETTER OMEGA WITH PSILI AND VARIA AND YPOGEGRAMMENI;
SMALL LETTER OMEGA WITH DASIA AND VARIA AND YPOGEGRAMMENI;
SMALL LETTER OMEGA WITH PSILI AND OXIA AND YPOGEGRAMMENI;
SMALL LETTER OMEGA WITH DASIA AND OXIA AND YPOGEGRAMMENI;
SMALL LETTER OMEGA WITH PSILI AND PERISPOMENI AND YPOGEGRAMMENI;
SMALL LETTER OMEGA WITH DASIA AND PERISPOMENI AND YPOGEGRAMMENI;
CAPITAL LETTER OMEGA WITH PSILI AND PROSGEGRAMMENI;
CAPITAL LETTER OMEGA WITH DASIA AND PROSGEGRAMMENI;
CAPITAL LETTER OMEGA WITH PSILI AND VARIA AND PROSGEGRAMMENI;
CAPITAL LETTER OMEGA WITH DASIA AND VARIA AND PROSGEGRAMMENI;
CAPITAL LETTER OMEGA WITH PSILI AND OXIA AND PROSGEGRAMMENI;
CAPITAL LETTER OMEGA WITH DASIA AND OXIA AND PROSGEGRAMMENI;
CAPITAL LETTER OMEGA WITH PSILI AND PERISPOMENI AND PROSGEGRAMMENI;
CAPITAL LETTER OMEGA WITH DASIA AND PERISPOMENI AND PROSGEGRAMMENI;SMALL LETTER ALPHA WITH VRACHY;
SMALL LETTER ALPHA WITH MACRON;SMALL LETTER ALPHA WITH VARIA AND YPOGEGRAMMENI;
SMALL LETTER ALPHA WITH YPOGEGRAMMENI;SMALL LETTER ALPHA WITH OXIA AND YPOGEGRAMMENI.1FB6=GREEK :
SMALL LETTER ALPHA WITH PERISPOMENI;SMALL LETTER ALPHA WITH PERISPOMENI AND YPOGEGRAMMENI;
CAPITAL LETTER ALPHA WITH VRACHY;CAPITAL LETTER ALPHA WITH MACRON;CAPITAL LETTER ALPHA WITH VARIA;
CAPITAL LETTER ALPHA WITH OXIA;CAPITAL LETTER ALPHA WITH PROSGEGRAMMENI;KORONIS;PROSGEGRAMMENI;
PSILI;PERISPOMENI;DIALYTIKA AND PERISPOMENI;SMALL LETTER ETA WITH VARIA AND YPOGEGRAMMENI;
SMALL LETTER ETA WITH YPOGEGRAMMENI;SMALL LETTER ETA WITH OXIA AND YPOGEGRAMMENI.1FC6=GREEK :
SMALL LETTER ETA WITH PERISPOMENI;SMALL LETTER ETA WITH PERISPOMENI AND YPOGEGRAMMENI;
CAPITAL LETTER EPSILON WITH VARIA;CAPITAL LETTER EPSILON WITH OXIA;CAPITAL LETTER ETA WITH VARIA;
CAPITAL LETTER ETA WITH OXIA;CAPITAL LETTER ETA WITH PROSGEGRAMMENI;PSILI AND VARIA;PSILI AND OXIA;
PSILI AND PERISPOMENI;SMALL LETTER IOTA WITH VRACHY;SMALL LETTER IOTA WITH MACRON;
SMALL LETTER IOTA WITH DIALYTIKA AND VARIA;SMALL LETTER IOTA WITH DIALYTIKA AND OXIA.1FD6=GREEK :
SMALL LETTER IOTA WITH PERISPOMENI;SMALL LETTER IOTA WITH DIALYTIKA AND PERISPOMENI;
CAPITAL LETTER IOTA WITH VRACHY;CAPITAL LETTER IOTA WITH MACRON;CAPITAL LETTER IOTA WITH VARIA;
CAPITAL LETTER IOTA WITH OXIA.1FDD=GREEK :DASIA AND VARIA;DASIA AND OXIA;DASIA AND PERISPOMENI;
SMALL LETTER UPSILON WITH VRACHY;SMALL LETTER UPSILON WITH MACRON;
SMALL LETTER UPSILON WITH DIALYTIKA AND VARIA;SMALL LETTER UPSILON WITH DIALYTIKA AND OXIA;
SMALL LETTER RHO WITH PSILI;SMALL LETTER RHO WITH DASIA;SMALL LETTER UPSILON WITH PERISPOMENI;
SMALL LETTER UPSILON WITH DIALYTIKA AND PERISPOMENI;CAPITAL LETTER UPSILON WITH VRACHY;
CAPITAL LETTER UPSILON WITH MACRON;CAPITAL LETTER UPSILON WITH VARIA;
CAPITAL LETTER UPSILON WITH OXIA;CAPITAL LETTER RHO WITH DASIA;DIALYTIKA AND VARIA;
DIALYTIKA AND OXIA;VARIA.1FF2=GREEK SMALL LETTER OMEGA WITH :VARIA AND YPOGEGRAMMENI;YPOGEGRAMMENI;
OXIA AND YPOGEGRAMMENI.1FF6=GREEK :SMALL LETTER OMEGA WITH PERISPOMENI;
SMALL LETTER OMEGA WITH PERISPOMENI AND YPOGEGRAMMENI;CAPITAL LETTER OMICRON WITH VARIA;
CAPITAL LETTER OMICRON WITH OXIA;CAPITAL LETTER OMEGA WITH VARIA;CAPITAL LETTER OMEGA WITH OXIA;
CAPITAL LETTER OMEGA WITH PROSGEGRAMMENI;OXIA;DASIA."

end Workflow.Text
