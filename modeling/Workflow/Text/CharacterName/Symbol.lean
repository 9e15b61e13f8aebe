/-!
# Names: punctuation and symbols

Runs of names of characters of punctuation, arrows, operators, shapes and other symbols. A run
gives the code of its first character, the start that its names share, and the rest of each name.
Line ends mean nothing.
-/

namespace Workflow.Text

/-- The names of these characters. -/
def symbolNames : String := "
2000=:EN QUAD;EM QUAD;EN SPACE;EM SPACE;THREE-PER-EM SPACE;FOUR-PER-EM SPACE;SIX-PER-EM SPACE;
FIGURE SPACE;PUNCTUATION SPACE;THIN SPACE;HAIR SPACE.200B=ZERO WIDTH :SPACE;NON-JOINER;JOINER.
200E=:LEFT-TO-RIGHT MARK;RIGHT-TO-LEFT MARK;HYPHEN;NON-BREAKING HYPHEN;FIGURE DASH;EN DASH;EM DASH;
HORIZONTAL BAR;DOUBLE VERTICAL LINE;DOUBLE LOW LINE;LEFT SINGLE QUOTATION MARK;
RIGHT SINGLE QUOTATION MARK;SINGLE LOW-9 QUOTATION MARK;SINGLE HIGH-REVERSED-9 QUOTATION MARK;
LEFT DOUBLE QUOTATION MARK;RIGHT DOUBLE QUOTATION MARK;DOUBLE LOW-9 QUOTATION MARK;
DOUBLE HIGH-REVERSED-9 QUOTATION MARK;DAGGER;DOUBLE DAGGER;BULLET;TRIANGULAR BULLET;ONE DOT LEADER;
TWO DOT LEADER;HORIZONTAL ELLIPSIS;HYPHENATION POINT;LINE SEPARATOR;PARAGRAPH SEPARATOR;
LEFT-TO-RIGHT EMBEDDING;RIGHT-TO-LEFT EMBEDDING;POP DIRECTIONAL FORMATTING;LEFT-TO-RIGHT OVERRIDE;
RIGHT-TO-LEFT OVERRIDE;NARROW NO-BREAK SPACE;PER MILLE SIGN;PER TEN THOUSAND SIGN;PRIME;
DOUBLE PRIME;TRIPLE PRIME.2035=REVERSED :PRIME;DOUBLE PRIME;TRIPLE PRIME.2038=:CARET;
SINGLE LEFT-POINTING ANGLE QUOTATION MARK;SINGLE RIGHT-POINTING ANGLE QUOTATION MARK;
REFERENCE MARK;DOUBLE EXCLAMATION MARK;INTERROBANG;OVERLINE;UNDERTIE;CHARACTER TIE;
CARET INSERTION POINT;ASTERISM;HYPHEN BULLET;FRACTION SLASH;LEFT SQUARE BRACKET WITH QUILL;
RIGHT SQUARE BRACKET WITH QUILL;DOUBLE QUESTION MARK;QUESTION EXCLAMATION MARK;
EXCLAMATION QUESTION MARK;TIRONIAN SIGN ET;REVERSED PILCROW SIGN;BLACK LEFTWARDS BULLET;
BLACK RIGHTWARDS BULLET;LOW ASTERISK;REVERSED SEMICOLON;CLOSE UP;TWO ASTERISKS ALIGNED VERTICALLY;
COMMERCIAL MINUS SIGN;SWUNG DASH;INVERTED UNDERTIE;FLOWER PUNCTUATION MARK;THREE DOT PUNCTUATION;
QUADRUPLE PRIME;FOUR DOT PUNCTUATION;FIVE DOT PUNCTUATION;TWO DOT PUNCTUATION;FOUR DOT MARK;
DOTTED CROSS;TRICOLON;VERTICAL FOUR DOTS;MEDIUM MATHEMATICAL SPACE;WORD JOINER;
FUNCTION APPLICATION.2062=INVISIBLE :TIMES;SEPARATOR;PLUS.2066=:LEFT-TO-RIGHT ISOLATE;
RIGHT-TO-LEFT ISOLATE;FIRST STRONG ISOLATE;POP DIRECTIONAL ISOLATE;INHIBIT SYMMETRIC SWAPPING;
ACTIVATE SYMMETRIC SWAPPING;INHIBIT ARABIC FORM SHAPING;ACTIVATE ARABIC FORM SHAPING;
NATIONAL DIGIT SHAPES;NOMINAL DIGIT SHAPES.2070=SUPERSCRIPT :ZERO;LATIN SMALL LETTER I.
2074=SUPERSCRIPT :FOUR;FIVE;SIX;SEVEN;EIGHT;NINE;PLUS SIGN;MINUS;EQUALS SIGN;LEFT PARENTHESIS;
RIGHT PARENTHESIS;LATIN SMALL LETTER N.2080=SUBSCRIPT :ZERO;ONE;TWO;THREE;FOUR;FIVE;SIX;SEVEN;
EIGHT;NINE;PLUS SIGN;MINUS;EQUALS SIGN;LEFT PARENTHESIS;RIGHT PARENTHESIS.
2090=LATIN SUBSCRIPT SMALL LETTER :A;E;O;X;SCHWA;H;K;L;M;N;P;S;T.20A0=:EURO-CURRENCY SIGN;
COLON SIGN;CRUZEIRO SIGN;FRENCH FRANC SIGN;LIRA SIGN;MILL SIGN;NAIRA SIGN;PESETA SIGN;RUPEE SIGN;
WON SIGN;NEW SHEQEL SIGN;DONG SIGN;EURO SIGN;KIP SIGN;TUGRIK SIGN;DRACHMA SIGN;GERMAN PENNY SIGN;
PESO SIGN;GUARANI SIGN;AUSTRAL SIGN;HRYVNIA SIGN;CEDI SIGN;LIVRE TOURNOIS SIGN;SPESMILO SIGN;
TENGE SIGN;INDIAN RUPEE SIGN;TURKISH LIRA SIGN;NORDIC MARK SIGN;MANAT SIGN;RUBLE SIGN;LARI SIGN;
BITCOIN SIGN;SOM SIGN.20D0=COMBINING :LEFT HARPOON ABOVE;RIGHT HARPOON ABOVE;
LONG VERTICAL LINE OVERLAY;SHORT VERTICAL LINE OVERLAY;ANTICLOCKWISE ARROW ABOVE;
CLOCKWISE ARROW ABOVE;LEFT ARROW ABOVE;RIGHT ARROW ABOVE;RING OVERLAY;CLOCKWISE RING OVERLAY;
ANTICLOCKWISE RING OVERLAY;THREE DOTS ABOVE;FOUR DOTS ABOVE;ENCLOSING CIRCLE;ENCLOSING SQUARE;
ENCLOSING DIAMOND;ENCLOSING CIRCLE BACKSLASH;LEFT RIGHT ARROW ABOVE;ENCLOSING SCREEN;
ENCLOSING KEYCAP;ENCLOSING UPWARD POINTING TRIANGLE;REVERSE SOLIDUS OVERLAY;
DOUBLE VERTICAL STROKE OVERLAY;ANNUITY SYMBOL;TRIPLE UNDERDOT;WIDE BRIDGE ABOVE;
LEFTWARDS ARROW OVERLAY;LONG DOUBLE SOLIDUS OVERLAY;RIGHTWARDS HARPOON WITH BARB DOWNWARDS;
LEFTWARDS HARPOON WITH BARB DOWNWARDS;LEFT ARROW BELOW;RIGHT ARROW BELOW;ASTERISK ABOVE.2100=:
ACCOUNT OF;ADDRESSED TO THE SUBJECT;DOUBLE-STRUCK CAPITAL C;DEGREE CELSIUS;CENTRE LINE SYMBOL;
CARE OF;CADA UNA;EULER CONSTANT;SCRUPLE;DEGREE FAHRENHEIT;SCRIPT SMALL G;SCRIPT CAPITAL H;
BLACK-LETTER CAPITAL H;DOUBLE-STRUCK CAPITAL H;PLANCK CONSTANT;PLANCK CONSTANT OVER TWO PI;
SCRIPT CAPITAL I;BLACK-LETTER CAPITAL I;SCRIPT CAPITAL L;SCRIPT SMALL L;L B BAR SYMBOL;
DOUBLE-STRUCK CAPITAL N;NUMERO SIGN;SOUND RECORDING COPYRIGHT;SCRIPT CAPITAL P.
2119=DOUBLE-STRUCK CAPITAL :P;Q.211B=:SCRIPT CAPITAL R;BLACK-LETTER CAPITAL R;
DOUBLE-STRUCK CAPITAL R;PRESCRIPTION TAKE;RESPONSE;SERVICE MARK;TELEPHONE SIGN;TRADE MARK SIGN;
VERSICLE;DOUBLE-STRUCK CAPITAL Z;OUNCE SIGN;OHM SIGN;INVERTED OHM SIGN;BLACK-LETTER CAPITAL Z;
TURNED GREEK SMALL LETTER IOTA;KELVIN SIGN;ANGSTROM SIGN;SCRIPT CAPITAL B;BLACK-LETTER CAPITAL C;
ESTIMATED SYMBOL.212F=SCRIPT :SMALL E;CAPITAL E;CAPITAL F.2132=:TURNED CAPITAL F;SCRIPT CAPITAL M;
SCRIPT SMALL O;ALEF SYMBOL;BET SYMBOL;GIMEL SYMBOL;DALET SYMBOL;INFORMATION SOURCE;
ROTATED CAPITAL Q;FACSIMILE SIGN.213C=DOUBLE-STRUCK :SMALL PI;SMALL GAMMA;CAPITAL GAMMA;CAPITAL PI;
N-ARY SUMMATION.2141=TURNED SANS-SERIF CAPITAL :G;L.2143=:REVERSED SANS-SERIF CAPITAL L;
TURNED SANS-SERIF CAPITAL Y.2145=DOUBLE-STRUCK ITALIC :CAPITAL D;SMALL D;SMALL E;SMALL I;SMALL J.
214A=:PROPERTY LINE;TURNED AMPERSAND;PER SIGN;AKTIESELSKAB;TURNED SMALL F;
SYMBOL FOR SAMARITAN SOURCE.2150=VULGAR FRACTION :ONE SEVENTH;ONE NINTH;ONE TENTH;ONE THIRD;
TWO THIRDS;ONE FIFTH;TWO FIFTHS;THREE FIFTHS;FOUR FIFTHS;ONE SIXTH;FIVE SIXTHS;ONE EIGHTH;
THREE EIGHTHS;FIVE EIGHTHS;SEVEN EIGHTHS.215F=:FRACTION NUMERATOR ONE.2160=ROMAN NUMERAL :ONE;TWO;
THREE;FOUR;FIVE;SIX;SEVEN;EIGHT;NINE;TEN;ELEVEN;TWELVE;FIFTY;ONE HUNDRED;FIVE HUNDRED;ONE THOUSAND.
2170=SMALL ROMAN NUMERAL :ONE;TWO;THREE;FOUR;FIVE;SIX;SEVEN;EIGHT;NINE;TEN;ELEVEN;TWELVE;FIFTY;
ONE HUNDRED;FIVE HUNDRED;ONE THOUSAND.2180=ROMAN NUMERAL :ONE THOUSAND C D;FIVE THOUSAND;
TEN THOUSAND;REVERSED ONE HUNDRED.2184=:LATIN SMALL LETTER REVERSED C.2185=ROMAN NUMERAL :
SIX LATE FORM;FIFTY EARLY FORM;FIFTY THOUSAND;ONE HUNDRED THOUSAND.2189=:
VULGAR FRACTION ZERO THIRDS.218A=TURNED DIGIT :TWO;THREE.2190=:LEFTWARDS ARROW;UPWARDS ARROW;
RIGHTWARDS ARROW;DOWNWARDS ARROW;LEFT RIGHT ARROW;UP DOWN ARROW;NORTH WEST ARROW;NORTH EAST ARROW;
SOUTH EAST ARROW;SOUTH WEST ARROW;LEFTWARDS ARROW WITH STROKE;RIGHTWARDS ARROW WITH STROKE;
LEFTWARDS WAVE ARROW;RIGHTWARDS WAVE ARROW;LEFTWARDS TWO HEADED ARROW;UPWARDS TWO HEADED ARROW;
RIGHTWARDS TWO HEADED ARROW;DOWNWARDS TWO HEADED ARROW;LEFTWARDS ARROW WITH TAIL;
RIGHTWARDS ARROW WITH TAIL;LEFTWARDS ARROW FROM BAR;UPWARDS ARROW FROM BAR;
RIGHTWARDS ARROW FROM BAR;DOWNWARDS ARROW FROM BAR;UP DOWN ARROW WITH BASE;
LEFTWARDS ARROW WITH HOOK;RIGHTWARDS ARROW WITH HOOK;LEFTWARDS ARROW WITH LOOP;
RIGHTWARDS ARROW WITH LOOP.21AD=LEFT RIGHT :WAVE ARROW;ARROW WITH STROKE.21AF=:
DOWNWARDS ZIGZAG ARROW.21B0=UPWARDS ARROW WITH TIP :LEFTWARDS;RIGHTWARDS.
21B2=DOWNWARDS ARROW WITH TIP :LEFTWARDS;RIGHTWARDS.21B4=:RIGHTWARDS ARROW WITH CORNER DOWNWARDS;
DOWNWARDS ARROW WITH CORNER LEFTWARDS;ANTICLOCKWISE TOP SEMICIRCLE ARROW;
CLOCKWISE TOP SEMICIRCLE ARROW;NORTH WEST ARROW TO LONG BAR;
LEFTWARDS ARROW TO BAR OVER RIGHTWARDS ARROW TO BAR;ANTICLOCKWISE OPEN CIRCLE ARROW;
CLOCKWISE OPEN CIRCLE ARROW.21BC=LEFTWARDS HARPOON WITH BARB :UPWARDS;DOWNWARDS.
21BE=UPWARDS HARPOON WITH BARB :RIGHTWARDS;LEFTWARDS.21C0=RIGHTWARDS HARPOON WITH BARB :UPWARDS;
DOWNWARDS.21C2=DOWNWARDS HARPOON WITH BARB :RIGHTWARDS;LEFTWARDS.21C4=:
RIGHTWARDS ARROW OVER LEFTWARDS ARROW;UPWARDS ARROW LEFTWARDS OF DOWNWARDS ARROW.21C6=LEFTWARDS :
ARROW OVER RIGHTWARDS ARROW;PAIRED ARROWS.21C8=:UPWARDS PAIRED ARROWS;RIGHTWARDS PAIRED ARROWS;
DOWNWARDS PAIRED ARROWS;LEFTWARDS HARPOON OVER RIGHTWARDS HARPOON;
RIGHTWARDS HARPOON OVER LEFTWARDS HARPOON;LEFTWARDS DOUBLE ARROW WITH STROKE;
LEFT RIGHT DOUBLE ARROW WITH STROKE;RIGHTWARDS DOUBLE ARROW WITH STROKE;LEFTWARDS DOUBLE ARROW;
UPWARDS DOUBLE ARROW;RIGHTWARDS DOUBLE ARROW;DOWNWARDS DOUBLE ARROW;LEFT RIGHT DOUBLE ARROW;
UP DOWN DOUBLE ARROW;NORTH WEST DOUBLE ARROW;NORTH EAST DOUBLE ARROW;SOUTH EAST DOUBLE ARROW;
SOUTH WEST DOUBLE ARROW;LEFTWARDS TRIPLE ARROW;RIGHTWARDS TRIPLE ARROW;LEFTWARDS SQUIGGLE ARROW;
RIGHTWARDS SQUIGGLE ARROW;UPWARDS ARROW WITH DOUBLE STROKE;DOWNWARDS ARROW WITH DOUBLE STROKE;
LEFTWARDS DASHED ARROW;UPWARDS DASHED ARROW;RIGHTWARDS DASHED ARROW;DOWNWARDS DASHED ARROW;
LEFTWARDS ARROW TO BAR;RIGHTWARDS ARROW TO BAR;LEFTWARDS WHITE ARROW;UPWARDS WHITE ARROW;
RIGHTWARDS WHITE ARROW;DOWNWARDS WHITE ARROW.21EA=UPWARDS WHITE :ARROW FROM BAR;ARROW ON PEDESTAL;
ARROW ON PEDESTAL WITH HORIZONTAL BAR;ARROW ON PEDESTAL WITH VERTICAL BAR;DOUBLE ARROW;
DOUBLE ARROW ON PEDESTAL.21F0=:RIGHTWARDS WHITE ARROW FROM WALL;NORTH WEST ARROW TO CORNER;
SOUTH EAST ARROW TO CORNER;UP DOWN WHITE ARROW;RIGHT ARROW WITH SMALL CIRCLE;
DOWNWARDS ARROW LEFTWARDS OF UPWARDS ARROW;THREE RIGHTWARDS ARROWS;
LEFTWARDS ARROW WITH VERTICAL STROKE;RIGHTWARDS ARROW WITH VERTICAL STROKE;
LEFT RIGHT ARROW WITH VERTICAL STROKE;LEFTWARDS ARROW WITH DOUBLE VERTICAL STROKE;
RIGHTWARDS ARROW WITH DOUBLE VERTICAL STROKE;LEFT RIGHT ARROW WITH DOUBLE VERTICAL STROKE;
LEFTWARDS OPEN-HEADED ARROW;RIGHTWARDS OPEN-HEADED ARROW;LEFT RIGHT OPEN-HEADED ARROW;FOR ALL;
COMPLEMENT;PARTIAL DIFFERENTIAL;THERE EXISTS;THERE DOES NOT EXIST;EMPTY SET;INCREMENT;NABLA;
ELEMENT OF;NOT AN ELEMENT OF;SMALL ELEMENT OF;CONTAINS AS MEMBER;DOES NOT CONTAIN AS MEMBER;
SMALL CONTAINS AS MEMBER;END OF PROOF.220F=N-ARY :PRODUCT;COPRODUCT;SUMMATION.2212=:MINUS SIGN;
MINUS-OR-PLUS SIGN;DOT PLUS;DIVISION SLASH;SET MINUS;ASTERISK OPERATOR;RING OPERATOR;
BULLET OPERATOR;SQUARE ROOT;CUBE ROOT;FOURTH ROOT;PROPORTIONAL TO;INFINITY;RIGHT ANGLE;ANGLE;
MEASURED ANGLE;SPHERICAL ANGLE;DIVIDES;DOES NOT DIVIDE;PARALLEL TO;NOT PARALLEL TO;LOGICAL AND;
LOGICAL OR;INTERSECTION;UNION;INTEGRAL;DOUBLE INTEGRAL;TRIPLE INTEGRAL;CONTOUR INTEGRAL;
SURFACE INTEGRAL;VOLUME INTEGRAL.2231=CLOCKWISE :INTEGRAL;CONTOUR INTEGRAL.2233=:
ANTICLOCKWISE CONTOUR INTEGRAL;THEREFORE;BECAUSE;RATIO;PROPORTION;DOT MINUS;EXCESS;
GEOMETRIC PROPORTION;HOMOTHETIC;TILDE OPERATOR;REVERSED TILDE;INVERTED LAZY S;SINE WAVE;
WREATH PRODUCT;NOT TILDE;MINUS TILDE;ASYMPTOTICALLY EQUAL TO;NOT ASYMPTOTICALLY EQUAL TO.
2245=APPROXIMATELY :EQUAL TO;BUT NOT ACTUALLY EQUAL TO.2247=:
NEITHER APPROXIMATELY NOR ACTUALLY EQUAL TO;ALMOST EQUAL TO;NOT ALMOST EQUAL TO;
ALMOST EQUAL OR EQUAL TO;TRIPLE TILDE;ALL EQUAL TO;EQUIVALENT TO;GEOMETRICALLY EQUIVALENT TO;
DIFFERENCE BETWEEN;APPROACHES THE LIMIT;GEOMETRICALLY EQUAL TO;
APPROXIMATELY EQUAL TO OR THE IMAGE OF;IMAGE OF OR APPROXIMATELY EQUAL TO;COLON EQUALS;
EQUALS COLON;RING IN EQUAL TO;RING EQUAL TO;CORRESPONDS TO;ESTIMATES;EQUIANGULAR TO;STAR EQUALS;
DELTA EQUAL TO;EQUAL TO BY DEFINITION;MEASURED BY;QUESTIONED EQUAL TO;NOT EQUAL TO;IDENTICAL TO;
NOT IDENTICAL TO;STRICTLY EQUIVALENT TO;LESS-THAN OR EQUAL TO;GREATER-THAN OR EQUAL TO;
LESS-THAN OVER EQUAL TO;GREATER-THAN OVER EQUAL TO;LESS-THAN BUT NOT EQUAL TO;
GREATER-THAN BUT NOT EQUAL TO;MUCH LESS-THAN;MUCH GREATER-THAN;BETWEEN;NOT EQUIVALENT TO;
NOT LESS-THAN;NOT GREATER-THAN;NEITHER LESS-THAN NOR EQUAL TO;NEITHER GREATER-THAN NOR EQUAL TO;
LESS-THAN OR EQUIVALENT TO;GREATER-THAN OR EQUIVALENT TO;NEITHER LESS-THAN NOR EQUIVALENT TO;
NEITHER GREATER-THAN NOR EQUIVALENT TO;LESS-THAN OR GREATER-THAN;GREATER-THAN OR LESS-THAN;
NEITHER LESS-THAN NOR GREATER-THAN;NEITHER GREATER-THAN NOR LESS-THAN;PRECEDES;SUCCEEDS;
PRECEDES OR EQUAL TO;SUCCEEDS OR EQUAL TO;PRECEDES OR EQUIVALENT TO;SUCCEEDS OR EQUIVALENT TO.
2280=DOES NOT :PRECEDE;SUCCEED.2282=:SUBSET OF;SUPERSET OF;NOT A SUBSET OF;NOT A SUPERSET OF;
SUBSET OF OR EQUAL TO;SUPERSET OF OR EQUAL TO.2288=NEITHER A :SUBSET OF NOR EQUAL TO;
SUPERSET OF NOR EQUAL TO.228A=:SUBSET OF WITH NOT EQUAL TO;SUPERSET OF WITH NOT EQUAL TO;MULTISET.
228D=MULTISET :MULTIPLICATION;UNION.228F=SQUARE :IMAGE OF;ORIGINAL OF;IMAGE OF OR EQUAL TO;
ORIGINAL OF OR EQUAL TO;CAP;CUP.2295=CIRCLED :PLUS;MINUS;TIMES;DIVISION SLASH;DOT OPERATOR;
RING OPERATOR;ASTERISK OPERATOR;EQUALS;DASH.229E=SQUARED :PLUS;MINUS;TIMES;DOT OPERATOR.22A2=:
RIGHT TACK;LEFT TACK;DOWN TACK;UP TACK;ASSERTION;MODELS;TRUE;FORCES;
TRIPLE VERTICAL BAR RIGHT TURNSTILE;DOUBLE VERTICAL BAR DOUBLE RIGHT TURNSTILE;DOES NOT PROVE;
NOT TRUE;DOES NOT FORCE;NEGATED DOUBLE VERTICAL BAR DOUBLE RIGHT TURNSTILE;PRECEDES UNDER RELATION;
SUCCEEDS UNDER RELATION;NORMAL SUBGROUP OF;CONTAINS AS NORMAL SUBGROUP;
NORMAL SUBGROUP OF OR EQUAL TO;CONTAINS AS NORMAL SUBGROUP OR EQUAL TO;ORIGINAL OF;IMAGE OF;
MULTIMAP;HERMITIAN CONJUGATE MATRIX;INTERCALATE;XOR;NAND;NOR;RIGHT ANGLE WITH ARC;RIGHT TRIANGLE.
22C0=N-ARY :LOGICAL AND;LOGICAL OR;INTERSECTION;UNION.22C4=:DIAMOND OPERATOR;DOT OPERATOR;
STAR OPERATOR;DIVISION TIMES;BOWTIE;LEFT NORMAL FACTOR SEMIDIRECT PRODUCT;
RIGHT NORMAL FACTOR SEMIDIRECT PRODUCT;LEFT SEMIDIRECT PRODUCT;RIGHT SEMIDIRECT PRODUCT;
REVERSED TILDE EQUALS.22CE=CURLY LOGICAL :OR;AND.22D0=DOUBLE :SUBSET;SUPERSET;INTERSECTION;UNION.
22D4=:PITCHFORK;EQUAL AND PARALLEL TO;LESS-THAN WITH DOT;GREATER-THAN WITH DOT.22D8=VERY MUCH :
LESS-THAN;GREATER-THAN.22DA=:LESS-THAN EQUAL TO OR GREATER-THAN;GREATER-THAN EQUAL TO OR LESS-THAN.
22DC=EQUAL TO OR :LESS-THAN;GREATER-THAN;PRECEDES;SUCCEEDS.22E0=DOES NOT :PRECEDE OR EQUAL;
SUCCEED OR EQUAL.22E2=NOT SQUARE :IMAGE OF OR EQUAL TO;ORIGINAL OF OR EQUAL TO.22E4=:
SQUARE IMAGE OF OR NOT EQUAL TO;SQUARE ORIGINAL OF OR NOT EQUAL TO;LESS-THAN BUT NOT EQUIVALENT TO;
GREATER-THAN BUT NOT EQUIVALENT TO;PRECEDES BUT NOT EQUIVALENT TO;SUCCEEDS BUT NOT EQUIVALENT TO;
NOT NORMAL SUBGROUP OF;DOES NOT CONTAIN AS NORMAL SUBGROUP;NOT NORMAL SUBGROUP OF OR EQUAL TO;
DOES NOT CONTAIN AS NORMAL SUBGROUP OR EQUAL;VERTICAL ELLIPSIS;MIDLINE HORIZONTAL ELLIPSIS;
UP RIGHT DIAGONAL ELLIPSIS;DOWN RIGHT DIAGONAL ELLIPSIS.22F2=ELEMENT OF WITH :
LONG HORIZONTAL STROKE;VERTICAL BAR AT END OF HORIZONTAL STROKE.22F4=:
SMALL ELEMENT OF WITH VERTICAL BAR AT END OF HORIZONTAL STROKE.22F5=ELEMENT OF WITH :DOT ABOVE;
OVERBAR.22F7=:SMALL ELEMENT OF WITH OVERBAR.22F8=ELEMENT OF WITH :UNDERBAR;TWO HORIZONTAL STROKES.
22FA=CONTAINS WITH :LONG HORIZONTAL STROKE;VERTICAL BAR AT END OF HORIZONTAL STROKE.22FC=:
SMALL CONTAINS WITH VERTICAL BAR AT END OF HORIZONTAL STROKE;CONTAINS WITH OVERBAR;
SMALL CONTAINS WITH OVERBAR;Z NOTATION BAG MEMBERSHIP;DIAMETER SIGN;ELECTRIC ARROW;HOUSE;
UP ARROWHEAD;DOWN ARROWHEAD;PROJECTIVE;PERSPECTIVE;WAVY LINE;LEFT CEILING;RIGHT CEILING;LEFT FLOOR;
RIGHT FLOOR;BOTTOM RIGHT CROP;BOTTOM LEFT CROP;TOP RIGHT CROP;TOP LEFT CROP;REVERSED NOT SIGN;
SQUARE LOZENGE;ARC;SEGMENT;SECTOR;TELEPHONE RECORDER;POSITION INDICATOR;VIEWDATA SQUARE;
PLACE OF INTEREST SIGN;TURNED NOT SIGN;WATCH;HOURGLASS;TOP LEFT CORNER;TOP RIGHT CORNER;
BOTTOM LEFT CORNER;BOTTOM RIGHT CORNER;TOP HALF INTEGRAL;BOTTOM HALF INTEGRAL;FROWN;SMILE;
UP ARROWHEAD BETWEEN TWO HORIZONTAL BARS;OPTION KEY;ERASE TO THE RIGHT;X IN A RECTANGLE BOX;
KEYBOARD;LEFT-POINTING ANGLE BRACKET;RIGHT-POINTING ANGLE BRACKET;ERASE TO THE LEFT;BENZENE RING;
CYLINDRICITY;ALL AROUND-PROFILE;SYMMETRY;TOTAL RUNOUT;DIMENSION ORIGIN;CONICAL TAPER;SLOPE;
COUNTERBORE;COUNTERSINK.2336=APL FUNCTIONAL SYMBOL :I-BEAM;SQUISH QUAD;QUAD EQUAL;QUAD DIVIDE;
QUAD DIAMOND;QUAD JOT;QUAD CIRCLE;CIRCLE STILE;CIRCLE JOT;SLASH BAR;BACKSLASH BAR;QUAD SLASH;
QUAD BACKSLASH;QUAD LESS-THAN;QUAD GREATER-THAN;LEFTWARDS VANE;RIGHTWARDS VANE;
QUAD LEFTWARDS ARROW;QUAD RIGHTWARDS ARROW;CIRCLE BACKSLASH;DOWN TACK UNDERBAR;DELTA STILE;
QUAD DOWN CARET;QUAD DELTA;DOWN TACK JOT;UPWARDS VANE;QUAD UPWARDS ARROW;UP TACK OVERBAR;DEL STILE;
QUAD UP CARET;QUAD DEL;UP TACK JOT;DOWNWARDS VANE;QUAD DOWNWARDS ARROW;QUOTE UNDERBAR;
DELTA UNDERBAR;DIAMOND UNDERBAR;JOT UNDERBAR;CIRCLE UNDERBAR;UP SHOE JOT;QUOTE QUAD;CIRCLE STAR;
QUAD COLON;UP TACK DIAERESIS;DEL DIAERESIS;STAR DIAERESIS;JOT DIAERESIS;CIRCLE DIAERESIS;
DOWN SHOE STILE;LEFT SHOE STILE;TILDE DIAERESIS;GREATER-THAN DIAERESIS;COMMA BAR;DEL TILDE;ZILDE;
STILE TILDE;SEMICOLON UNDERBAR;QUAD NOT EQUAL;QUAD QUESTION;DOWN CARET TILDE;UP CARET TILDE;IOTA;
RHO;OMEGA;ALPHA UNDERBAR;EPSILON UNDERBAR;IOTA UNDERBAR;OMEGA UNDERBAR;ALPHA.237B=:NOT CHECK MARK;
RIGHT ANGLE WITH DOWNWARDS ZIGZAG ARROW;SHOULDERED OPEN BOX;BELL SYMBOL;
VERTICAL LINE WITH MIDDLE DOT;INSERTION SYMBOL;CONTINUOUS UNDERLINE SYMBOL;
DISCONTINUOUS UNDERLINE SYMBOL;EMPHASIS SYMBOL;COMPOSITION SYMBOL;
WHITE SQUARE WITH CENTRE VERTICAL LINE;ENTER SYMBOL;ALTERNATIVE KEY SYMBOL;HELM SYMBOL;
CIRCLED HORIZONTAL BAR WITH NOTCH;CIRCLED TRIANGLE DOWN;BROKEN CIRCLE WITH NORTHWEST ARROW;
UNDO SYMBOL;MONOSTABLE SYMBOL;HYSTERESIS SYMBOL.238F=OPEN-CIRCUIT-OUTPUT :H-TYPE SYMBOL;
L-TYPE SYMBOL.2391=PASSIVE-PULL-:DOWN-OUTPUT SYMBOL;UP-OUTPUT SYMBOL.2393=:
DIRECT CURRENT SYMBOL FORM TWO;SOFTWARE-FUNCTION SYMBOL;APL FUNCTIONAL SYMBOL QUAD;
DECIMAL SEPARATOR KEY SYMBOL;PREVIOUS PAGE;NEXT PAGE;PRINT SCREEN SYMBOL;CLEAR SCREEN SYMBOL.
239B=LEFT PARENTHESIS :UPPER HOOK;EXTENSION;LOWER HOOK.239E=RIGHT PARENTHESIS :UPPER HOOK;
EXTENSION;LOWER HOOK.23A1=LEFT SQUARE BRACKET :UPPER CORNER;EXTENSION;LOWER CORNER.
23A4=RIGHT SQUARE BRACKET :UPPER CORNER;EXTENSION;LOWER CORNER.23A7=LEFT CURLY BRACKET :UPPER HOOK;
MIDDLE PIECE;LOWER HOOK.23AA=:CURLY BRACKET EXTENSION.23AB=RIGHT CURLY BRACKET :UPPER HOOK;
MIDDLE PIECE;LOWER HOOK.23AE=:INTEGRAL EXTENSION;HORIZONTAL LINE EXTENSION;
UPPER LEFT OR LOWER RIGHT CURLY BRACKET SECTION;UPPER RIGHT OR LOWER LEFT CURLY BRACKET SECTION.
23B2=SUMMATION :TOP;BOTTOM.23B4=:TOP SQUARE BRACKET.23B5=BOTTOM SQUARE :BRACKET;
BRACKET OVER TOP SQUARE BRACKET.23B7=:RADICAL SYMBOL BOTTOM;LEFT VERTICAL BOX LINE;
RIGHT VERTICAL BOX LINE.23BA=HORIZONTAL SCAN LINE-:1;3;7;9.23BE=DENTISTRY SYMBOL LIGHT :
VERTICAL AND TOP RIGHT;VERTICAL AND BOTTOM RIGHT;VERTICAL WITH CIRCLE;
DOWN AND HORIZONTAL WITH CIRCLE;UP AND HORIZONTAL WITH CIRCLE;VERTICAL WITH TRIANGLE;
DOWN AND HORIZONTAL WITH TRIANGLE;UP AND HORIZONTAL WITH TRIANGLE;VERTICAL AND WAVE;
DOWN AND HORIZONTAL WITH WAVE;UP AND HORIZONTAL WITH WAVE;DOWN AND HORIZONTAL;UP AND HORIZONTAL;
VERTICAL AND TOP LEFT;VERTICAL AND BOTTOM LEFT.23CD=:SQUARE FOOT;RETURN SYMBOL;EJECT SYMBOL;
VERTICAL LINE EXTENSION.23D1=METRICAL :BREVE;LONG OVER SHORT;SHORT OVER LONG;LONG OVER TWO SHORTS;
TWO SHORTS OVER LONG;TWO SHORTS JOINED;TRISEME;TETRASEME;PENTASEME.23DA=:EARTH GROUND;FUSE;
TOP PARENTHESIS;BOTTOM PARENTHESIS;TOP CURLY BRACKET;BOTTOM CURLY BRACKET;
TOP TORTOISE SHELL BRACKET;BOTTOM TORTOISE SHELL BRACKET;WHITE TRAPEZIUM;BENZENE RING WITH CIRCLE;
STRAIGHTNESS;FLATNESS;AC CURRENT;ELECTRICAL INTERSECTION;DECIMAL EXPONENT SYMBOL.23E9=BLACK :
RIGHT-POINTING DOUBLE TRIANGLE;LEFT-POINTING DOUBLE TRIANGLE;UP-POINTING DOUBLE TRIANGLE;
DOWN-POINTING DOUBLE TRIANGLE;RIGHT-POINTING DOUBLE TRIANGLE WITH VERTICAL BAR;
LEFT-POINTING DOUBLE TRIANGLE WITH VERTICAL BAR;RIGHT-POINTING TRIANGLE WITH DOUBLE VERTICAL BAR.
23F0=:ALARM CLOCK;STOPWATCH;TIMER CLOCK;HOURGLASS WITH FLOWING SAND.23F4=BLACK MEDIUM :
LEFT-POINTING TRIANGLE;RIGHT-POINTING TRIANGLE;UP-POINTING TRIANGLE;DOWN-POINTING TRIANGLE.23F8=:
DOUBLE VERTICAL BAR;BLACK SQUARE FOR STOP;BLACK CIRCLE FOR RECORD.23FB=POWER :SYMBOL;ON-OFF SYMBOL;
ON SYMBOL;SLEEP SYMBOL.23FF=:OBSERVER EYE SYMBOL.2400=SYMBOL FOR :NULL;START OF HEADING;
START OF TEXT;END OF TEXT;END OF TRANSMISSION;ENQUIRY;ACKNOWLEDGE;BELL;BACKSPACE;
HORIZONTAL TABULATION;LINE FEED;VERTICAL TABULATION;FORM FEED;CARRIAGE RETURN;SHIFT OUT;SHIFT IN;
DATA LINK ESCAPE;DEVICE CONTROL ONE;DEVICE CONTROL TWO;DEVICE CONTROL THREE;DEVICE CONTROL FOUR;
NEGATIVE ACKNOWLEDGE;SYNCHRONOUS IDLE;END OF TRANSMISSION BLOCK;CANCEL;END OF MEDIUM;SUBSTITUTE;
ESCAPE;FILE SEPARATOR;GROUP SEPARATOR;RECORD SEPARATOR;UNIT SEPARATOR;SPACE;DELETE.2422=:
BLANK SYMBOL;OPEN BOX.2424=SYMBOL FOR :NEWLINE;DELETE FORM TWO;SUBSTITUTE FORM TWO.2440=OCR :HOOK;
CHAIR;FORK;INVERTED FORK;BELT BUCKLE;BOW TIE;BRANCH BANK IDENTIFICATION;AMOUNT OF CHECK;DASH;
CUSTOMER ACCOUNT NUMBER;DOUBLE BACKSLASH.2460=CIRCLED :DIGIT ONE;DIGIT TWO;DIGIT THREE;DIGIT FOUR;
DIGIT FIVE;DIGIT SIX;DIGIT SEVEN;DIGIT EIGHT;DIGIT NINE;NUMBER TEN;NUMBER ELEVEN;NUMBER TWELVE;
NUMBER THIRTEEN;NUMBER FOURTEEN;NUMBER FIFTEEN;NUMBER SIXTEEN;NUMBER SEVENTEEN;NUMBER EIGHTEEN;
NUMBER NINETEEN;NUMBER TWENTY.2474=PARENTHESIZED :DIGIT ONE;DIGIT TWO;DIGIT THREE;DIGIT FOUR;
DIGIT FIVE;DIGIT SIX;DIGIT SEVEN;DIGIT EIGHT;DIGIT NINE;NUMBER TEN;NUMBER ELEVEN;NUMBER TWELVE;
NUMBER THIRTEEN;NUMBER FOURTEEN;NUMBER FIFTEEN;NUMBER SIXTEEN;NUMBER SEVENTEEN;NUMBER EIGHTEEN;
NUMBER NINETEEN;NUMBER TWENTY.2488=DIGIT :ONE FULL STOP;TWO FULL STOP;THREE FULL STOP;
FOUR FULL STOP;FIVE FULL STOP;SIX FULL STOP;SEVEN FULL STOP;EIGHT FULL STOP;NINE FULL STOP.
2491=NUMBER :TEN FULL STOP;ELEVEN FULL STOP;TWELVE FULL STOP;THIRTEEN FULL STOP;FOURTEEN FULL STOP;
FIFTEEN FULL STOP;SIXTEEN FULL STOP;SEVENTEEN FULL STOP;EIGHTEEN FULL STOP;NINETEEN FULL STOP;
TWENTY FULL STOP.249C=PARENTHESIZED LATIN SMALL LETTER :A;B;C;D;E;F;G;H;I;J;K;L;M;N;O;P;Q;R;S;T;U;
V;W;X;Y;Z.24B6=CIRCLED LATIN CAPITAL LETTER :A;B;C;D;E;F;G;H;I;J;K;L;M;N;O;P;Q;R;S;T;U;V;W;X;Y;Z.
24D0=CIRCLED LATIN SMALL LETTER :A;B;C;D;E;F;G;H;I;J;K;L;M;N;O;P;Q;R;S;T;U;V;W;X;Y;Z.24EA=:
CIRCLED DIGIT ZERO.24EB=NEGATIVE CIRCLED NUMBER :ELEVEN;TWELVE;THIRTEEN;FOURTEEN;FIFTEEN;SIXTEEN;
SEVENTEEN;EIGHTEEN;NINETEEN;TWENTY.24F5=DOUBLE CIRCLED DIGIT :ONE;TWO;THREE;FOUR;FIVE;SIX;SEVEN;
EIGHT;NINE.24FE=:DOUBLE CIRCLED NUMBER TEN;NEGATIVE CIRCLED DIGIT ZERO.2500=BOX DRAWINGS :
LIGHT HORIZONTAL;HEAVY HORIZONTAL;LIGHT VERTICAL;HEAVY VERTICAL;LIGHT TRIPLE DASH HORIZONTAL;
HEAVY TRIPLE DASH HORIZONTAL;LIGHT TRIPLE DASH VERTICAL;HEAVY TRIPLE DASH VERTICAL;
LIGHT QUADRUPLE DASH HORIZONTAL;HEAVY QUADRUPLE DASH HORIZONTAL;LIGHT QUADRUPLE DASH VERTICAL;
HEAVY QUADRUPLE DASH VERTICAL;LIGHT DOWN AND RIGHT;DOWN LIGHT AND RIGHT HEAVY;
DOWN HEAVY AND RIGHT LIGHT;HEAVY DOWN AND RIGHT;LIGHT DOWN AND LEFT;DOWN LIGHT AND LEFT HEAVY;
DOWN HEAVY AND LEFT LIGHT;HEAVY DOWN AND LEFT;LIGHT UP AND RIGHT;UP LIGHT AND RIGHT HEAVY;
UP HEAVY AND RIGHT LIGHT;HEAVY UP AND RIGHT;LIGHT UP AND LEFT;UP LIGHT AND LEFT HEAVY;
UP HEAVY AND LEFT LIGHT;HEAVY UP AND LEFT;LIGHT VERTICAL AND RIGHT;VERTICAL LIGHT AND RIGHT HEAVY;
UP HEAVY AND RIGHT DOWN LIGHT;DOWN HEAVY AND RIGHT UP LIGHT;VERTICAL HEAVY AND RIGHT LIGHT;
DOWN LIGHT AND RIGHT UP HEAVY;UP LIGHT AND RIGHT DOWN HEAVY;HEAVY VERTICAL AND RIGHT;
LIGHT VERTICAL AND LEFT;VERTICAL LIGHT AND LEFT HEAVY;UP HEAVY AND LEFT DOWN LIGHT;
DOWN HEAVY AND LEFT UP LIGHT;VERTICAL HEAVY AND LEFT LIGHT;DOWN LIGHT AND LEFT UP HEAVY;
UP LIGHT AND LEFT DOWN HEAVY;HEAVY VERTICAL AND LEFT;LIGHT DOWN AND HORIZONTAL;
LEFT HEAVY AND RIGHT DOWN LIGHT;RIGHT HEAVY AND LEFT DOWN LIGHT;DOWN LIGHT AND HORIZONTAL HEAVY;
DOWN HEAVY AND HORIZONTAL LIGHT;RIGHT LIGHT AND LEFT DOWN HEAVY;LEFT LIGHT AND RIGHT DOWN HEAVY;
HEAVY DOWN AND HORIZONTAL;LIGHT UP AND HORIZONTAL;LEFT HEAVY AND RIGHT UP LIGHT;
RIGHT HEAVY AND LEFT UP LIGHT;UP LIGHT AND HORIZONTAL HEAVY;UP HEAVY AND HORIZONTAL LIGHT;
RIGHT LIGHT AND LEFT UP HEAVY;LEFT LIGHT AND RIGHT UP HEAVY;HEAVY UP AND HORIZONTAL;
LIGHT VERTICAL AND HORIZONTAL;LEFT HEAVY AND RIGHT VERTICAL LIGHT;
RIGHT HEAVY AND LEFT VERTICAL LIGHT;VERTICAL LIGHT AND HORIZONTAL HEAVY;
UP HEAVY AND DOWN HORIZONTAL LIGHT;DOWN HEAVY AND UP HORIZONTAL LIGHT;
VERTICAL HEAVY AND HORIZONTAL LIGHT;LEFT UP HEAVY AND RIGHT DOWN LIGHT;
RIGHT UP HEAVY AND LEFT DOWN LIGHT;LEFT DOWN HEAVY AND RIGHT UP LIGHT;
RIGHT DOWN HEAVY AND LEFT UP LIGHT;DOWN LIGHT AND UP HORIZONTAL HEAVY;
UP LIGHT AND DOWN HORIZONTAL HEAVY;RIGHT LIGHT AND LEFT VERTICAL HEAVY;
LEFT LIGHT AND RIGHT VERTICAL HEAVY;HEAVY VERTICAL AND HORIZONTAL;LIGHT DOUBLE DASH HORIZONTAL;
HEAVY DOUBLE DASH HORIZONTAL;LIGHT DOUBLE DASH VERTICAL;HEAVY DOUBLE DASH VERTICAL;
DOUBLE HORIZONTAL;DOUBLE VERTICAL;DOWN SINGLE AND RIGHT DOUBLE;DOWN DOUBLE AND RIGHT SINGLE;
DOUBLE DOWN AND RIGHT;DOWN SINGLE AND LEFT DOUBLE;DOWN DOUBLE AND LEFT SINGLE;DOUBLE DOWN AND LEFT;
UP SINGLE AND RIGHT DOUBLE;UP DOUBLE AND RIGHT SINGLE;DOUBLE UP AND RIGHT;
UP SINGLE AND LEFT DOUBLE;UP DOUBLE AND LEFT SINGLE;DOUBLE UP AND LEFT;
VERTICAL SINGLE AND RIGHT DOUBLE;VERTICAL DOUBLE AND RIGHT SINGLE;DOUBLE VERTICAL AND RIGHT;
VERTICAL SINGLE AND LEFT DOUBLE;VERTICAL DOUBLE AND LEFT SINGLE;DOUBLE VERTICAL AND LEFT;
DOWN SINGLE AND HORIZONTAL DOUBLE;DOWN DOUBLE AND HORIZONTAL SINGLE;DOUBLE DOWN AND HORIZONTAL;
UP SINGLE AND HORIZONTAL DOUBLE;UP DOUBLE AND HORIZONTAL SINGLE;DOUBLE UP AND HORIZONTAL;
VERTICAL SINGLE AND HORIZONTAL DOUBLE;VERTICAL DOUBLE AND HORIZONTAL SINGLE;
DOUBLE VERTICAL AND HORIZONTAL;LIGHT ARC DOWN AND RIGHT;LIGHT ARC DOWN AND LEFT;
LIGHT ARC UP AND LEFT;LIGHT ARC UP AND RIGHT;LIGHT DIAGONAL UPPER RIGHT TO LOWER LEFT;
LIGHT DIAGONAL UPPER LEFT TO LOWER RIGHT;LIGHT DIAGONAL CROSS;LIGHT LEFT;LIGHT UP;LIGHT RIGHT;
LIGHT DOWN;HEAVY LEFT;HEAVY UP;HEAVY RIGHT;HEAVY DOWN;LIGHT LEFT AND HEAVY RIGHT;
LIGHT UP AND HEAVY DOWN;HEAVY LEFT AND LIGHT RIGHT;HEAVY UP AND LIGHT DOWN.2580=:UPPER HALF BLOCK.
2581=LOWER :ONE EIGHTH BLOCK;ONE QUARTER BLOCK;THREE EIGHTHS BLOCK;HALF BLOCK;FIVE EIGHTHS BLOCK;
THREE QUARTERS BLOCK;SEVEN EIGHTHS BLOCK.2588=:FULL BLOCK.2589=LEFT :SEVEN EIGHTHS BLOCK;
THREE QUARTERS BLOCK;FIVE EIGHTHS BLOCK;HALF BLOCK;THREE EIGHTHS BLOCK;ONE QUARTER BLOCK;
ONE EIGHTH BLOCK.2590=:RIGHT HALF BLOCK;LIGHT SHADE;MEDIUM SHADE;DARK SHADE;UPPER ONE EIGHTH BLOCK;
RIGHT ONE EIGHTH BLOCK.2596=QUADRANT :LOWER LEFT;LOWER RIGHT;UPPER LEFT;
UPPER LEFT AND LOWER LEFT AND LOWER RIGHT;UPPER LEFT AND LOWER RIGHT;
UPPER LEFT AND UPPER RIGHT AND LOWER LEFT;UPPER LEFT AND UPPER RIGHT AND LOWER RIGHT;UPPER RIGHT;
UPPER RIGHT AND LOWER LEFT;UPPER RIGHT AND LOWER LEFT AND LOWER RIGHT.25A0=:BLACK SQUARE.
25A1=WHITE :SQUARE;SQUARE WITH ROUNDED CORNERS;SQUARE CONTAINING BLACK SMALL SQUARE.
25A4=SQUARE WITH :HORIZONTAL FILL;VERTICAL FILL;ORTHOGONAL CROSSHATCH FILL;
UPPER LEFT TO LOWER RIGHT FILL;UPPER RIGHT TO LOWER LEFT FILL;DIAGONAL CROSSHATCH FILL.25AA=:
BLACK SMALL SQUARE;WHITE SMALL SQUARE;BLACK RECTANGLE;WHITE RECTANGLE;BLACK VERTICAL RECTANGLE;
WHITE VERTICAL RECTANGLE;BLACK PARALLELOGRAM;WHITE PARALLELOGRAM;BLACK UP-POINTING TRIANGLE;
WHITE UP-POINTING TRIANGLE;BLACK UP-POINTING SMALL TRIANGLE;WHITE UP-POINTING SMALL TRIANGLE;
BLACK RIGHT-POINTING TRIANGLE;WHITE RIGHT-POINTING TRIANGLE;BLACK RIGHT-POINTING SMALL TRIANGLE;
WHITE RIGHT-POINTING SMALL TRIANGLE;BLACK RIGHT-POINTING POINTER;WHITE RIGHT-POINTING POINTER;
BLACK DOWN-POINTING TRIANGLE;WHITE DOWN-POINTING TRIANGLE;BLACK DOWN-POINTING SMALL TRIANGLE;
WHITE DOWN-POINTING SMALL TRIANGLE;BLACK LEFT-POINTING TRIANGLE;WHITE LEFT-POINTING TRIANGLE;
BLACK LEFT-POINTING SMALL TRIANGLE;WHITE LEFT-POINTING SMALL TRIANGLE;BLACK LEFT-POINTING POINTER;
WHITE LEFT-POINTING POINTER;BLACK DIAMOND;WHITE DIAMOND;
WHITE DIAMOND CONTAINING BLACK SMALL DIAMOND;FISHEYE;LOZENGE;WHITE CIRCLE;DOTTED CIRCLE;
CIRCLE WITH VERTICAL FILL;BULLSEYE;BLACK CIRCLE.25D0=CIRCLE WITH :LEFT HALF BLACK;RIGHT HALF BLACK;
LOWER HALF BLACK;UPPER HALF BLACK;UPPER RIGHT QUADRANT BLACK;ALL BUT UPPER LEFT QUADRANT BLACK.
25D6=:LEFT HALF BLACK CIRCLE;RIGHT HALF BLACK CIRCLE;INVERSE BULLET;INVERSE WHITE CIRCLE;
UPPER HALF INVERSE WHITE CIRCLE;LOWER HALF INVERSE WHITE CIRCLE;UPPER LEFT QUADRANT CIRCULAR ARC;
UPPER RIGHT QUADRANT CIRCULAR ARC;LOWER RIGHT QUADRANT CIRCULAR ARC;
LOWER LEFT QUADRANT CIRCULAR ARC;UPPER HALF CIRCLE;LOWER HALF CIRCLE.25E2=BLACK :
LOWER RIGHT TRIANGLE;LOWER LEFT TRIANGLE;UPPER LEFT TRIANGLE;UPPER RIGHT TRIANGLE.25E6=:
WHITE BULLET.25E7=SQUARE WITH :LEFT HALF BLACK;RIGHT HALF BLACK;UPPER LEFT DIAGONAL HALF BLACK;
LOWER RIGHT DIAGONAL HALF BLACK.25EB=:WHITE SQUARE WITH VERTICAL BISECTING LINE;
WHITE UP-POINTING TRIANGLE WITH DOT.25ED=UP-POINTING TRIANGLE WITH :LEFT HALF BLACK;
RIGHT HALF BLACK.25EF=:LARGE CIRCLE.25F0=WHITE SQUARE WITH :UPPER LEFT QUADRANT;
LOWER LEFT QUADRANT;LOWER RIGHT QUADRANT;UPPER RIGHT QUADRANT.25F4=WHITE CIRCLE WITH :
UPPER LEFT QUADRANT;LOWER LEFT QUADRANT;LOWER RIGHT QUADRANT;UPPER RIGHT QUADRANT.25F8=:
UPPER LEFT TRIANGLE;UPPER RIGHT TRIANGLE;LOWER LEFT TRIANGLE;WHITE MEDIUM SQUARE;
BLACK MEDIUM SQUARE;WHITE MEDIUM SMALL SQUARE;BLACK MEDIUM SMALL SQUARE;LOWER RIGHT TRIANGLE;
BLACK SUN WITH RAYS;CLOUD;UMBRELLA;SNOWMAN;COMET;BLACK STAR;WHITE STAR;LIGHTNING;THUNDERSTORM;SUN;
ASCENDING NODE;DESCENDING NODE;CONJUNCTION;OPPOSITION;BLACK TELEPHONE;WHITE TELEPHONE.2610=BALLOT :
BOX;BOX WITH CHECK;BOX WITH X.2613=:SALTIRE;UMBRELLA WITH RAIN DROPS;HOT BEVERAGE;
WHITE SHOGI PIECE;BLACK SHOGI PIECE;SHAMROCK;REVERSED ROTATED FLORAL HEART BULLET;
BLACK LEFT POINTING INDEX;BLACK RIGHT POINTING INDEX.261C=WHITE :LEFT POINTING INDEX;
UP POINTING INDEX;RIGHT POINTING INDEX;DOWN POINTING INDEX.2620=:SKULL AND CROSSBONES;CAUTION SIGN;
RADIOACTIVE SIGN;BIOHAZARD SIGN;CADUCEUS;ANKH;ORTHODOX CROSS;CHI RHO.2628=CROSS OF :LORRAINE;
JERUSALEM.262A=:STAR AND CRESCENT;FARSI SYMBOL;ADI SHAKTI;HAMMER AND SICKLE;PEACE SYMBOL;YIN YANG.
2630=TRIGRAM FOR :HEAVEN;LAKE;FIRE;THUNDER;WIND;WATER;MOUNTAIN;EARTH.2638=:WHEEL OF DHARMA;
WHITE FROWNING FACE;WHITE SMILING FACE;BLACK SMILING FACE;WHITE SUN WITH RAYS;FIRST QUARTER MOON;
LAST QUARTER MOON;MERCURY;FEMALE SIGN;EARTH;MALE SIGN;JUPITER;SATURN;URANUS;NEPTUNE;PLUTO;ARIES;
TAURUS;GEMINI;CANCER;LEO;VIRGO;LIBRA;SCORPIUS;SAGITTARIUS;CAPRICORN;AQUARIUS;PISCES.
2654=WHITE CHESS :KING;QUEEN;ROOK;BISHOP;KNIGHT;PAWN.265A=BLACK CHESS :KING;QUEEN;ROOK;BISHOP;
KNIGHT;PAWN.2660=:BLACK SPADE SUIT;WHITE HEART SUIT;WHITE DIAMOND SUIT;BLACK CLUB SUIT;
WHITE SPADE SUIT;BLACK HEART SUIT;BLACK DIAMOND SUIT;WHITE CLUB SUIT;HOT SPRINGS;QUARTER NOTE;
EIGHTH NOTE;BEAMED EIGHTH NOTES;BEAMED SIXTEENTH NOTES.266D=MUSIC :FLAT SIGN;NATURAL SIGN;
SHARP SIGN.2670=:WEST SYRIAC CROSS;EAST SYRIAC CROSS;UNIVERSAL RECYCLING SYMBOL.
2673=RECYCLING SYMBOL FOR TYPE-:1 PLASTICS;2 PLASTICS;3 PLASTICS;4 PLASTICS;5 PLASTICS;6 PLASTICS;
7 PLASTICS.267A=:RECYCLING SYMBOL FOR GENERIC MATERIALS;BLACK UNIVERSAL RECYCLING SYMBOL;
RECYCLED PAPER SYMBOL;PARTIALLY-RECYCLED PAPER SYMBOL;PERMANENT PAPER SIGN;WHEELCHAIR SYMBOL.
2680=DIE FACE-:1;2;3;4;5;6.2686=WHITE CIRCLE WITH :DOT RIGHT;TWO DOTS.2688=BLACK CIRCLE WITH :
WHITE DOT RIGHT;TWO WHITE DOTS.268A=MONOGRAM FOR :YANG;YIN.268C=DIGRAM FOR :GREATER YANG;
LESSER YIN;LESSER YANG;GREATER YIN.2690=:WHITE FLAG;BLACK FLAG;HAMMER AND PICK;ANCHOR;
CROSSED SWORDS;STAFF OF AESCULAPIUS;SCALES;ALEMBIC;FLOWER;GEAR;STAFF OF HERMES;ATOM SYMBOL;
FLEUR-DE-LIS;OUTLINED WHITE STAR.269E=THREE LINES CONVERGING :RIGHT;LEFT.26A0=:WARNING SIGN;
HIGH VOLTAGE SIGN;DOUBLED FEMALE SIGN;DOUBLED MALE SIGN;INTERLOCKED FEMALE AND MALE SIGN.
26A5=MALE :AND FEMALE SIGN;WITH STROKE SIGN;WITH STROKE AND MALE AND FEMALE SIGN.26A8=:
VERTICAL MALE WITH STROKE SIGN;HORIZONTAL MALE WITH STROKE SIGN.26AA=MEDIUM :WHITE CIRCLE;
BLACK CIRCLE;SMALL WHITE CIRCLE.26AD=:MARRIAGE SYMBOL;DIVORCE SYMBOL;UNMARRIED PARTNERSHIP SYMBOL;
COFFIN;FUNERAL URN;NEUTER;CERES;PALLAS;JUNO;VESTA;CHIRON;BLACK MOON LILITH;SEXTILE;SEMISEXTILE;
QUINCUNX;SESQUIQUADRATE;SOCCER BALL;BASEBALL;SQUARED KEY.26C0=WHITE DRAUGHTS :MAN;KING.
26C2=BLACK DRAUGHTS :MAN;KING.26C4=:SNOWMAN WITHOUT SNOW;SUN BEHIND CLOUD;RAIN;BLACK SNOWMAN;
THUNDER CLOUD AND RAIN;TURNED WHITE SHOGI PIECE;TURNED BLACK SHOGI PIECE;WHITE DIAMOND IN SQUARE;
CROSSING LANES;DISABLED CAR;OPHIUCHUS;PICK;CAR SLIDING;HELMET WITH WHITE CROSS;
CIRCLED CROSSING LANES;CHAINS;NO ENTRY;ALTERNATE ONE-WAY LEFT WAY TRAFFIC;
BLACK TWO-WAY LEFT WAY TRAFFIC;WHITE TWO-WAY LEFT WAY TRAFFIC;BLACK LEFT LANE MERGE;
WHITE LEFT LANE MERGE;DRIVE SLOW SIGN;HEAVY WHITE DOWN-POINTING TRIANGLE;LEFT CLOSED ENTRY;
SQUARED SALTIRE;FALLING DIAGONAL IN WHITE CIRCLE IN BLACK SQUARE;BLACK TRUCK.
26E0=RESTRICTED LEFT ENTRY-:1;2.26E2=:ASTRONOMICAL SYMBOL FOR URANUS;
HEAVY CIRCLE WITH STROKE AND TWO DOTS ABOVE;PENTAGRAM;RIGHT-HANDED INTERLACED PENTAGRAM;
LEFT-HANDED INTERLACED PENTAGRAM;INVERTED PENTAGRAM;BLACK CROSS ON SHIELD;SHINTO SHRINE;CHURCH;
CASTLE;HISTORIC SITE;GEAR WITHOUT HUB;GEAR WITH HANDLES;MAP SYMBOL FOR LIGHTHOUSE;MOUNTAIN;
UMBRELLA ON GROUND;FOUNTAIN;FLAG IN HOLE;FERRY;SAILBOAT;SQUARE FOUR CORNERS;SKIER;ICE SKATE;
PERSON WITH BALL;TENT;JAPANESE BANK SYMBOL;HEADSTONE GRAVEYARD SYMBOL;FUEL PUMP;
CUP ON BLACK SQUARE;WHITE FLAG WITH HORIZONTAL MIDDLE BLACK STRIPE;BLACK SAFETY SCISSORS;
UPPER BLADE SCISSORS;BLACK SCISSORS;LOWER BLADE SCISSORS;WHITE SCISSORS;WHITE HEAVY CHECK MARK;
TELEPHONE LOCATION SIGN;TAPE DRIVE;AIRPLANE;ENVELOPE;RAISED FIST;RAISED HAND;VICTORY HAND;
WRITING HAND;LOWER RIGHT PENCIL;PENCIL;UPPER RIGHT PENCIL;WHITE NIB;BLACK NIB;CHECK MARK;
HEAVY CHECK MARK;MULTIPLICATION X;HEAVY MULTIPLICATION X;BALLOT X;HEAVY BALLOT X;
OUTLINED GREEK CROSS;HEAVY GREEK CROSS;OPEN CENTRE CROSS;HEAVY OPEN CENTRE CROSS;LATIN CROSS;
SHADOWED WHITE LATIN CROSS;OUTLINED LATIN CROSS;MALTESE CROSS;STAR OF DAVID;
FOUR TEARDROP-SPOKED ASTERISK;FOUR BALLOON-SPOKED ASTERISK;HEAVY FOUR BALLOON-SPOKED ASTERISK;
FOUR CLUB-SPOKED ASTERISK;BLACK FOUR POINTED STAR;WHITE FOUR POINTED STAR;SPARKLES;
STRESS OUTLINED WHITE STAR;CIRCLED WHITE STAR;OPEN CENTRE BLACK STAR;BLACK CENTRE WHITE STAR;
OUTLINED BLACK STAR;HEAVY OUTLINED BLACK STAR;PINWHEEL STAR;SHADOWED WHITE STAR;HEAVY ASTERISK;
OPEN CENTRE ASTERISK.2733=EIGHT :SPOKED ASTERISK;POINTED BLACK STAR;POINTED PINWHEEL STAR.2736=:
SIX POINTED BLACK STAR;EIGHT POINTED RECTILINEAR BLACK STAR;
HEAVY EIGHT POINTED RECTILINEAR BLACK STAR;TWELVE POINTED BLACK STAR;SIXTEEN POINTED ASTERISK;
TEARDROP-SPOKED ASTERISK;OPEN CENTRE TEARDROP-SPOKED ASTERISK;HEAVY TEARDROP-SPOKED ASTERISK;
SIX PETALLED BLACK AND WHITE FLORETTE;BLACK FLORETTE;WHITE FLORETTE;
EIGHT PETALLED OUTLINED BLACK FLORETTE;CIRCLED OPEN CENTRE EIGHT POINTED STAR;
HEAVY TEARDROP-SPOKED PINWHEEL ASTERISK;SNOWFLAKE;TIGHT TRIFOLIATE SNOWFLAKE;
HEAVY CHEVRON SNOWFLAKE;SPARKLE;HEAVY SPARKLE;BALLOON-SPOKED ASTERISK;
EIGHT TEARDROP-SPOKED PROPELLER ASTERISK;HEAVY EIGHT TEARDROP-SPOKED PROPELLER ASTERISK;CROSS MARK;
SHADOWED WHITE CIRCLE;NEGATIVE SQUARED CROSS MARK;LOWER RIGHT DROP-SHADOWED WHITE SQUARE;
UPPER RIGHT DROP-SHADOWED WHITE SQUARE;LOWER RIGHT SHADOWED WHITE SQUARE;
UPPER RIGHT SHADOWED WHITE SQUARE;BLACK QUESTION MARK ORNAMENT;WHITE QUESTION MARK ORNAMENT;
WHITE EXCLAMATION MARK ORNAMENT;BLACK DIAMOND MINUS WHITE X;HEAVY EXCLAMATION MARK SYMBOL;
LIGHT VERTICAL BAR;MEDIUM VERTICAL BAR.275A=HEAVY :VERTICAL BAR;
SINGLE TURNED COMMA QUOTATION MARK ORNAMENT;SINGLE COMMA QUOTATION MARK ORNAMENT;
DOUBLE TURNED COMMA QUOTATION MARK ORNAMENT;DOUBLE COMMA QUOTATION MARK ORNAMENT;
LOW SINGLE COMMA QUOTATION MARK ORNAMENT;LOW DOUBLE COMMA QUOTATION MARK ORNAMENT.2761=:
CURVED STEM PARAGRAPH SIGN ORNAMENT.2762=HEAVY :EXCLAMATION MARK ORNAMENT;
HEART EXCLAMATION MARK ORNAMENT;BLACK HEART.2765=:ROTATED HEAVY BLACK HEART BULLET;FLORAL HEART;
ROTATED FLORAL HEART BULLET.2768=MEDIUM :LEFT PARENTHESIS ORNAMENT;RIGHT PARENTHESIS ORNAMENT;
FLATTENED LEFT PARENTHESIS ORNAMENT;FLATTENED RIGHT PARENTHESIS ORNAMENT;
LEFT-POINTING ANGLE BRACKET ORNAMENT;RIGHT-POINTING ANGLE BRACKET ORNAMENT.276E=HEAVY :
LEFT-POINTING ANGLE QUOTATION MARK ORNAMENT;RIGHT-POINTING ANGLE QUOTATION MARK ORNAMENT;
LEFT-POINTING ANGLE BRACKET ORNAMENT;RIGHT-POINTING ANGLE BRACKET ORNAMENT.2772=:
LIGHT LEFT TORTOISE SHELL BRACKET ORNAMENT;LIGHT RIGHT TORTOISE SHELL BRACKET ORNAMENT;
MEDIUM LEFT CURLY BRACKET ORNAMENT;MEDIUM RIGHT CURLY BRACKET ORNAMENT.
2776=DINGBAT NEGATIVE CIRCLED DIGIT :ONE;TWO;THREE;FOUR;FIVE;SIX;SEVEN;EIGHT;NINE.277F=DINGBAT :
NEGATIVE CIRCLED NUMBER TEN;CIRCLED SANS-SERIF DIGIT ONE;CIRCLED SANS-SERIF DIGIT TWO;
CIRCLED SANS-SERIF DIGIT THREE;CIRCLED SANS-SERIF DIGIT FOUR;CIRCLED SANS-SERIF DIGIT FIVE;
CIRCLED SANS-SERIF DIGIT SIX;CIRCLED SANS-SERIF DIGIT SEVEN;CIRCLED SANS-SERIF DIGIT EIGHT;
CIRCLED SANS-SERIF DIGIT NINE;CIRCLED SANS-SERIF NUMBER TEN;NEGATIVE CIRCLED SANS-SERIF DIGIT ONE;
NEGATIVE CIRCLED SANS-SERIF DIGIT TWO;NEGATIVE CIRCLED SANS-SERIF DIGIT THREE;
NEGATIVE CIRCLED SANS-SERIF DIGIT FOUR;NEGATIVE CIRCLED SANS-SERIF DIGIT FIVE;
NEGATIVE CIRCLED SANS-SERIF DIGIT SIX;NEGATIVE CIRCLED SANS-SERIF DIGIT SEVEN;
NEGATIVE CIRCLED SANS-SERIF DIGIT EIGHT;NEGATIVE CIRCLED SANS-SERIF DIGIT NINE;
NEGATIVE CIRCLED SANS-SERIF NUMBER TEN.2794=HEAVY :WIDE-HEADED RIGHTWARDS ARROW;PLUS SIGN;
MINUS SIGN;DIVISION SIGN;SOUTH EAST ARROW;RIGHTWARDS ARROW;NORTH EAST ARROW.279B=:
DRAFTING POINT RIGHTWARDS ARROW;HEAVY ROUND-TIPPED RIGHTWARDS ARROW;
TRIANGLE-HEADED RIGHTWARDS ARROW;HEAVY TRIANGLE-HEADED RIGHTWARDS ARROW;
DASHED TRIANGLE-HEADED RIGHTWARDS ARROW;HEAVY DASHED TRIANGLE-HEADED RIGHTWARDS ARROW;
BLACK RIGHTWARDS ARROW;THREE-D TOP-LIGHTED RIGHTWARDS ARROWHEAD;
THREE-D BOTTOM-LIGHTED RIGHTWARDS ARROWHEAD;BLACK RIGHTWARDS ARROWHEAD.27A5=HEAVY BLACK CURVED :
DOWNWARDS AND RIGHTWARDS ARROW;UPWARDS AND RIGHTWARDS ARROW.27A7=:SQUAT BLACK RIGHTWARDS ARROW;
HEAVY CONCAVE-POINTED BLACK RIGHTWARDS ARROW;RIGHT-SHADED WHITE RIGHTWARDS ARROW;
LEFT-SHADED WHITE RIGHTWARDS ARROW;BACK-TILTED SHADOWED WHITE RIGHTWARDS ARROW;
FRONT-TILTED SHADOWED WHITE RIGHTWARDS ARROW;HEAVY LOWER RIGHT-SHADOWED WHITE RIGHTWARDS ARROW;
HEAVY UPPER RIGHT-SHADOWED WHITE RIGHTWARDS ARROW;
NOTCHED LOWER RIGHT-SHADOWED WHITE RIGHTWARDS ARROW;CURLY LOOP;
NOTCHED UPPER RIGHT-SHADOWED WHITE RIGHTWARDS ARROW;CIRCLED HEAVY WHITE RIGHTWARDS ARROW;
WHITE-FEATHERED RIGHTWARDS ARROW.27B4=BLACK-FEATHERED :SOUTH EAST ARROW;RIGHTWARDS ARROW;
NORTH EAST ARROW.27B7=HEAVY BLACK-FEATHERED :SOUTH EAST ARROW;RIGHTWARDS ARROW;NORTH EAST ARROW.
27BA=:TEARDROP-BARBED RIGHTWARDS ARROW;HEAVY TEARDROP-SHANKED RIGHTWARDS ARROW;
WEDGE-TAILED RIGHTWARDS ARROW;HEAVY WEDGE-TAILED RIGHTWARDS ARROW;OPEN-OUTLINED RIGHTWARDS ARROW;
DOUBLE CURLY LOOP;THREE DIMENSIONAL ANGLE;WHITE TRIANGLE CONTAINING SMALL WHITE TRIANGLE;
PERPENDICULAR;OPEN SUBSET;OPEN SUPERSET;LEFT S-SHAPED BAG DELIMITER;RIGHT S-SHAPED BAG DELIMITER;
OR WITH DOT INSIDE;REVERSE SOLIDUS PRECEDING SUBSET;SUPERSET PRECEDING SOLIDUS;
VERTICAL BAR WITH HORIZONTAL STROKE;MATHEMATICAL RISING DIAGONAL;LONG DIVISION;
MATHEMATICAL FALLING DIAGONAL.27CE=SQUARED LOGICAL :AND;OR.27D0=:WHITE DIAMOND WITH CENTRED DOT;
AND WITH DOT;ELEMENT OF OPENING UPWARDS;LOWER RIGHT CORNER WITH DOT;UPPER LEFT CORNER WITH DOT;
LEFT OUTER JOIN;RIGHT OUTER JOIN;FULL OUTER JOIN;LARGE UP TACK;LARGE DOWN TACK.
27DA=LEFT AND RIGHT :DOUBLE TURNSTILE;TACK.27DC=:LEFT MULTIMAP;LONG RIGHT TACK;LONG LEFT TACK;
UP TACK WITH CIRCLE ABOVE;LOZENGE DIVIDED BY HORIZONTAL RULE.27E1=WHITE CONCAVE-SIDED :DIAMOND;
DIAMOND WITH LEFTWARDS TICK;DIAMOND WITH RIGHTWARDS TICK.27E4=WHITE SQUARE WITH :LEFTWARDS TICK;
RIGHTWARDS TICK.27E6=MATHEMATICAL :LEFT WHITE SQUARE BRACKET;RIGHT WHITE SQUARE BRACKET;
LEFT ANGLE BRACKET;RIGHT ANGLE BRACKET;LEFT DOUBLE ANGLE BRACKET;RIGHT DOUBLE ANGLE BRACKET;
LEFT WHITE TORTOISE SHELL BRACKET;RIGHT WHITE TORTOISE SHELL BRACKET;LEFT FLATTENED PARENTHESIS;
RIGHT FLATTENED PARENTHESIS.27F0=:UPWARDS QUADRUPLE ARROW;DOWNWARDS QUADRUPLE ARROW;
ANTICLOCKWISE GAPPED CIRCLE ARROW;CLOCKWISE GAPPED CIRCLE ARROW;RIGHT ARROW WITH CIRCLED PLUS.
27F5=LONG :LEFTWARDS ARROW;RIGHTWARDS ARROW;LEFT RIGHT ARROW;LEFTWARDS DOUBLE ARROW;
RIGHTWARDS DOUBLE ARROW;LEFT RIGHT DOUBLE ARROW;LEFTWARDS ARROW FROM BAR;RIGHTWARDS ARROW FROM BAR;
LEFTWARDS DOUBLE ARROW FROM BAR;RIGHTWARDS DOUBLE ARROW FROM BAR;RIGHTWARDS SQUIGGLE ARROW.
2800=BRAILLE PATTERN :BLANK;DOTS-1;DOTS-2;DOTS-12;DOTS-3;DOTS-13;DOTS-23;DOTS-123;DOTS-4;DOTS-14;
DOTS-24;DOTS-124;DOTS-34;DOTS-134;DOTS-234;DOTS-1234;DOTS-5;DOTS-15;DOTS-25;DOTS-125;DOTS-35;
DOTS-135;DOTS-235;DOTS-1235;DOTS-45;DOTS-145;DOTS-245;DOTS-1245;DOTS-345;DOTS-1345;DOTS-2345;
DOTS-12345;DOTS-6;DOTS-16;DOTS-26;DOTS-126;DOTS-36;DOTS-136;DOTS-236;DOTS-1236;DOTS-46;DOTS-146;
DOTS-246;DOTS-1246;DOTS-346;DOTS-1346;DOTS-2346;DOTS-12346;DOTS-56;DOTS-156;DOTS-256;DOTS-1256;
DOTS-356;DOTS-1356;DOTS-2356;DOTS-12356;DOTS-456;DOTS-1456;DOTS-2456;DOTS-12456;DOTS-3456;
DOTS-13456;DOTS-23456;DOTS-123456;DOTS-7;DOTS-17;DOTS-27;DOTS-127;DOTS-37;DOTS-137;DOTS-237;
DOTS-1237;DOTS-47;DOTS-147;DOTS-247;DOTS-1247;DOTS-347;DOTS-1347;DOTS-2347;DOTS-12347;DOTS-57;
DOTS-157;DOTS-257;DOTS-1257;DOTS-357;DOTS-1357;DOTS-2357;DOTS-12357;DOTS-457;DOTS-1457;DOTS-2457;
DOTS-12457;DOTS-3457;DOTS-13457;DOTS-23457;DOTS-123457;DOTS-67;DOTS-167;DOTS-267;DOTS-1267;
DOTS-367;DOTS-1367;DOTS-2367;DOTS-12367;DOTS-467;DOTS-1467;DOTS-2467;DOTS-12467;DOTS-3467;
DOTS-13467;DOTS-23467;DOTS-123467;DOTS-567;DOTS-1567;DOTS-2567;DOTS-12567;DOTS-3567;DOTS-13567;
DOTS-23567;DOTS-123567;DOTS-4567;DOTS-14567;DOTS-24567;DOTS-124567;DOTS-34567;DOTS-134567;
DOTS-234567;DOTS-1234567;DOTS-8;DOTS-18;DOTS-28;DOTS-128;DOTS-38;DOTS-138;DOTS-238;DOTS-1238;
DOTS-48;DOTS-148;DOTS-248;DOTS-1248;DOTS-348;DOTS-1348;DOTS-2348;DOTS-12348;DOTS-58;DOTS-158;
DOTS-258;DOTS-1258;DOTS-358;DOTS-1358;DOTS-2358;DOTS-12358;DOTS-458;DOTS-1458;DOTS-2458;DOTS-12458;
DOTS-3458;DOTS-13458;DOTS-23458;DOTS-123458;DOTS-68;DOTS-168;DOTS-268;DOTS-1268;DOTS-368;DOTS-1368;
DOTS-2368;DOTS-12368;DOTS-468;DOTS-1468;DOTS-2468;DOTS-12468;DOTS-3468;DOTS-13468;DOTS-23468;
DOTS-123468;DOTS-568;DOTS-1568;DOTS-2568;DOTS-12568;DOTS-3568;DOTS-13568;DOTS-23568;DOTS-123568;
DOTS-4568;DOTS-14568;DOTS-24568;DOTS-124568;DOTS-34568;DOTS-134568;DOTS-234568;DOTS-1234568;
DOTS-78;DOTS-178;DOTS-278;DOTS-1278;DOTS-378;DOTS-1378;DOTS-2378;DOTS-12378;DOTS-478;DOTS-1478;
DOTS-2478;DOTS-12478;DOTS-3478;DOTS-13478;DOTS-23478;DOTS-123478;DOTS-578;DOTS-1578;DOTS-2578;
DOTS-12578;DOTS-3578;DOTS-13578;DOTS-23578;DOTS-123578;DOTS-4578;DOTS-14578;DOTS-24578;DOTS-124578;
DOTS-34578;DOTS-134578;DOTS-234578;DOTS-1234578;DOTS-678;DOTS-1678;DOTS-2678;DOTS-12678;DOTS-3678;
DOTS-13678;DOTS-23678;DOTS-123678;DOTS-4678;DOTS-14678;DOTS-24678;DOTS-124678;DOTS-34678;
DOTS-134678;DOTS-234678;DOTS-1234678;DOTS-5678;DOTS-15678;DOTS-25678;DOTS-125678;DOTS-35678;
DOTS-135678;DOTS-235678;DOTS-1235678;DOTS-45678;DOTS-145678;DOTS-245678;DOTS-1245678;DOTS-345678;
DOTS-1345678;DOTS-2345678;DOTS-12345678.2900=RIGHTWARDS TWO-HEADED ARROW WITH :VERTICAL STROKE;
DOUBLE VERTICAL STROKE.2902=:LEFTWARDS DOUBLE ARROW WITH VERTICAL STROKE;
RIGHTWARDS DOUBLE ARROW WITH VERTICAL STROKE;LEFT RIGHT DOUBLE ARROW WITH VERTICAL STROKE;
RIGHTWARDS TWO-HEADED ARROW FROM BAR;LEFTWARDS DOUBLE ARROW FROM BAR;
RIGHTWARDS DOUBLE ARROW FROM BAR;DOWNWARDS ARROW WITH HORIZONTAL STROKE;
UPWARDS ARROW WITH HORIZONTAL STROKE;UPWARDS TRIPLE ARROW;DOWNWARDS TRIPLE ARROW;
LEFTWARDS DOUBLE DASH ARROW;RIGHTWARDS DOUBLE DASH ARROW;LEFTWARDS TRIPLE DASH ARROW.
290F=RIGHTWARDS :TRIPLE DASH ARROW;TWO-HEADED TRIPLE DASH ARROW;ARROW WITH DOTTED STEM.2912=:
UPWARDS ARROW TO BAR;DOWNWARDS ARROW TO BAR.2914=RIGHTWARDS :ARROW WITH TAIL WITH VERTICAL STROKE;
ARROW WITH TAIL WITH DOUBLE VERTICAL STROKE;TWO-HEADED ARROW WITH TAIL;
TWO-HEADED ARROW WITH TAIL WITH VERTICAL STROKE;
TWO-HEADED ARROW WITH TAIL WITH DOUBLE VERTICAL STROKE.2919=:LEFTWARDS ARROW-TAIL;
RIGHTWARDS ARROW-TAIL;LEFTWARDS DOUBLE ARROW-TAIL;RIGHTWARDS DOUBLE ARROW-TAIL;
LEFTWARDS ARROW TO BLACK DIAMOND;RIGHTWARDS ARROW TO BLACK DIAMOND;
LEFTWARDS ARROW FROM BAR TO BLACK DIAMOND;RIGHTWARDS ARROW FROM BAR TO BLACK DIAMOND.2921=NORTH :
WEST AND SOUTH EAST ARROW;EAST AND SOUTH WEST ARROW;WEST ARROW WITH HOOK;EAST ARROW WITH HOOK.
2925=:SOUTH EAST ARROW WITH HOOK;SOUTH WEST ARROW WITH HOOK;NORTH WEST ARROW AND NORTH EAST ARROW;
NORTH EAST ARROW AND SOUTH EAST ARROW;SOUTH EAST ARROW AND SOUTH WEST ARROW;
SOUTH WEST ARROW AND NORTH WEST ARROW;RISING DIAGONAL CROSSING FALLING DIAGONAL;
FALLING DIAGONAL CROSSING RISING DIAGONAL;SOUTH EAST ARROW CROSSING NORTH EAST ARROW;
NORTH EAST ARROW CROSSING SOUTH EAST ARROW;FALLING DIAGONAL CROSSING NORTH EAST ARROW;
RISING DIAGONAL CROSSING SOUTH EAST ARROW;NORTH EAST ARROW CROSSING NORTH WEST ARROW;
NORTH WEST ARROW CROSSING NORTH EAST ARROW;WAVE ARROW POINTING DIRECTLY RIGHT.2934=ARROW POINTING :
RIGHTWARDS THEN CURVING UPWARDS;RIGHTWARDS THEN CURVING DOWNWARDS;DOWNWARDS THEN CURVING LEFTWARDS;
DOWNWARDS THEN CURVING RIGHTWARDS.2938=:RIGHT-SIDE ARC CLOCKWISE ARROW;
LEFT-SIDE ARC ANTICLOCKWISE ARROW;TOP ARC ANTICLOCKWISE ARROW;BOTTOM ARC ANTICLOCKWISE ARROW;
TOP ARC CLOCKWISE ARROW WITH MINUS;TOP ARC ANTICLOCKWISE ARROW WITH PLUS;
LOWER RIGHT SEMICIRCULAR CLOCKWISE ARROW;LOWER LEFT SEMICIRCULAR ANTICLOCKWISE ARROW;
ANTICLOCKWISE CLOSED CIRCLE ARROW;CLOCKWISE CLOSED CIRCLE ARROW;
RIGHTWARDS ARROW ABOVE SHORT LEFTWARDS ARROW;LEFTWARDS ARROW ABOVE SHORT RIGHTWARDS ARROW;
SHORT RIGHTWARDS ARROW ABOVE LEFTWARDS ARROW;RIGHTWARDS ARROW WITH PLUS BELOW;
LEFTWARDS ARROW WITH PLUS BELOW;RIGHTWARDS ARROW THROUGH X;LEFT RIGHT ARROW THROUGH SMALL CIRCLE;
UPWARDS TWO-HEADED ARROW FROM SMALL CIRCLE.294A=LEFT BARB :UP RIGHT BARB DOWN HARPOON;
DOWN RIGHT BARB UP HARPOON.294C=:UP BARB RIGHT DOWN BARB LEFT HARPOON;
UP BARB LEFT DOWN BARB RIGHT HARPOON;LEFT BARB UP RIGHT BARB UP HARPOON;
UP BARB RIGHT DOWN BARB RIGHT HARPOON;LEFT BARB DOWN RIGHT BARB DOWN HARPOON;
UP BARB LEFT DOWN BARB LEFT HARPOON;LEFTWARDS HARPOON WITH BARB UP TO BAR;
RIGHTWARDS HARPOON WITH BARB UP TO BAR;UPWARDS HARPOON WITH BARB RIGHT TO BAR;
DOWNWARDS HARPOON WITH BARB RIGHT TO BAR;LEFTWARDS HARPOON WITH BARB DOWN TO BAR;
RIGHTWARDS HARPOON WITH BARB DOWN TO BAR;UPWARDS HARPOON WITH BARB LEFT TO BAR;
DOWNWARDS HARPOON WITH BARB LEFT TO BAR;LEFTWARDS HARPOON WITH BARB UP FROM BAR;
RIGHTWARDS HARPOON WITH BARB UP FROM BAR;UPWARDS HARPOON WITH BARB RIGHT FROM BAR;
DOWNWARDS HARPOON WITH BARB RIGHT FROM BAR;LEFTWARDS HARPOON WITH BARB DOWN FROM BAR;
RIGHTWARDS HARPOON WITH BARB DOWN FROM BAR;UPWARDS HARPOON WITH BARB LEFT FROM BAR;
DOWNWARDS HARPOON WITH BARB LEFT FROM BAR;
LEFTWARDS HARPOON WITH BARB UP ABOVE LEFTWARDS HARPOON WITH BARB DOWN;
UPWARDS HARPOON WITH BARB LEFT BESIDE UPWARDS HARPOON WITH BARB RIGHT;
RIGHTWARDS HARPOON WITH BARB UP ABOVE RIGHTWARDS HARPOON WITH BARB DOWN;
DOWNWARDS HARPOON WITH BARB LEFT BESIDE DOWNWARDS HARPOON WITH BARB RIGHT.
2966=LEFTWARDS HARPOON WITH BARB :UP ABOVE RIGHTWARDS HARPOON WITH BARB UP;
DOWN ABOVE RIGHTWARDS HARPOON WITH BARB DOWN.2968=RIGHTWARDS HARPOON WITH BARB :
UP ABOVE LEFTWARDS HARPOON WITH BARB UP;DOWN ABOVE LEFTWARDS HARPOON WITH BARB DOWN.
296A=LEFTWARDS HARPOON WITH BARB :UP ABOVE LONG DASH;DOWN BELOW LONG DASH.
296C=RIGHTWARDS HARPOON WITH BARB :UP ABOVE LONG DASH;DOWN BELOW LONG DASH.296E=:
UPWARDS HARPOON WITH BARB LEFT BESIDE DOWNWARDS HARPOON WITH BARB RIGHT;
DOWNWARDS HARPOON WITH BARB LEFT BESIDE UPWARDS HARPOON WITH BARB RIGHT;
RIGHT DOUBLE ARROW WITH ROUNDED HEAD;EQUALS SIGN ABOVE RIGHTWARDS ARROW;
TILDE OPERATOR ABOVE RIGHTWARDS ARROW;LEFTWARDS ARROW ABOVE TILDE OPERATOR.
2974=RIGHTWARDS ARROW ABOVE :TILDE OPERATOR;ALMOST EQUAL TO.2976=:LESS-THAN ABOVE LEFTWARDS ARROW;
LEFTWARDS ARROW THROUGH LESS-THAN;GREATER-THAN ABOVE RIGHTWARDS ARROW;
SUBSET ABOVE RIGHTWARDS ARROW;LEFTWARDS ARROW THROUGH SUBSET;SUPERSET ABOVE LEFTWARDS ARROW;
LEFT FISH TAIL;RIGHT FISH TAIL;UP FISH TAIL;DOWN FISH TAIL;TRIPLE VERTICAL BAR DELIMITER.
2981=Z NOTATION :SPOT;TYPE COLON.2983=:LEFT WHITE CURLY BRACKET;RIGHT WHITE CURLY BRACKET;
LEFT WHITE PARENTHESIS;RIGHT WHITE PARENTHESIS.2987=Z NOTATION :LEFT IMAGE BRACKET;
RIGHT IMAGE BRACKET;LEFT BINDING BRACKET;RIGHT BINDING BRACKET.298B=:
LEFT SQUARE BRACKET WITH UNDERBAR;RIGHT SQUARE BRACKET WITH UNDERBAR;
LEFT SQUARE BRACKET WITH TICK IN TOP CORNER;RIGHT SQUARE BRACKET WITH TICK IN BOTTOM CORNER;
LEFT SQUARE BRACKET WITH TICK IN BOTTOM CORNER;RIGHT SQUARE BRACKET WITH TICK IN TOP CORNER;
LEFT ANGLE BRACKET WITH DOT;RIGHT ANGLE BRACKET WITH DOT;LEFT ARC LESS-THAN BRACKET;
RIGHT ARC GREATER-THAN BRACKET;DOUBLE LEFT ARC GREATER-THAN BRACKET;
DOUBLE RIGHT ARC LESS-THAN BRACKET;LEFT BLACK TORTOISE SHELL BRACKET;
RIGHT BLACK TORTOISE SHELL BRACKET;DOTTED FENCE;VERTICAL ZIGZAG LINE;MEASURED ANGLE OPENING LEFT;
RIGHT ANGLE VARIANT WITH SQUARE;MEASURED RIGHT ANGLE WITH DOT;ANGLE WITH S INSIDE;ACUTE ANGLE.
29A0=SPHERICAL ANGLE OPENING :LEFT;UP.29A2=:TURNED ANGLE;REVERSED ANGLE;ANGLE WITH UNDERBAR;
REVERSED ANGLE WITH UNDERBAR.29A6=OBLIQUE ANGLE OPENING :UP;DOWN.
29A8=MEASURED ANGLE WITH OPEN ARM ENDING IN ARROW POINTING :UP AND RIGHT;UP AND LEFT;
DOWN AND RIGHT;DOWN AND LEFT;RIGHT AND UP;LEFT AND UP;RIGHT AND DOWN;LEFT AND DOWN.29B0=:
REVERSED EMPTY SET.29B1=EMPTY SET WITH :OVERBAR;SMALL CIRCLE ABOVE;RIGHT ARROW ABOVE;
LEFT ARROW ABOVE.29B5=:CIRCLE WITH HORIZONTAL BAR.29B6=CIRCLED :VERTICAL BAR;PARALLEL;
REVERSE SOLIDUS;PERPENDICULAR.29BA=:
CIRCLE DIVIDED BY HORIZONTAL BAR AND TOP HALF DIVIDED BY VERTICAL BAR;CIRCLE WITH SUPERIMPOSED X;
CIRCLED ANTICLOCKWISE-ROTATED DIVISION SIGN;UP ARROW THROUGH CIRCLE.29BE=CIRCLED :WHITE BULLET;
BULLET;LESS-THAN;GREATER-THAN.29C2=CIRCLE WITH :SMALL CIRCLE TO THE RIGHT;
TWO HORIZONTAL STROKES TO THE RIGHT.29C4=SQUARED :RISING DIAGONAL SLASH;FALLING DIAGONAL SLASH;
ASTERISK;SMALL CIRCLE;SQUARE.29C9=:TWO JOINED SQUARES.29CA=TRIANGLE WITH :DOT ABOVE;UNDERBAR.29CC=:
S IN TRIANGLE;TRIANGLE WITH SERIFS AT BOTTOM;RIGHT TRIANGLE ABOVE LEFT TRIANGLE;
LEFT TRIANGLE BESIDE VERTICAL BAR;VERTICAL BAR BESIDE RIGHT TRIANGLE.29D1=BOWTIE WITH :
LEFT HALF BLACK;RIGHT HALF BLACK.29D3=:BLACK BOWTIE.29D4=TIMES WITH :LEFT HALF BLACK;
RIGHT HALF BLACK.29D6=:WHITE HOURGLASS;BLACK HOURGLASS;LEFT WIGGLY FENCE;RIGHT WIGGLY FENCE;
LEFT DOUBLE WIGGLY FENCE;RIGHT DOUBLE WIGGLY FENCE;INCOMPLETE INFINITY;TIE OVER INFINITY;
INFINITY NEGATED WITH VERTICAL BAR;DOUBLE-ENDED MULTIMAP;SQUARE WITH CONTOURED OUTLINE;
INCREASES AS;SHUFFLE PRODUCT.29E3=EQUALS SIGN AND SLANTED :PARALLEL;PARALLEL WITH TILDE ABOVE.
29E5=:IDENTICAL TO AND SLANTED PARALLEL;GLEICH STARK;THERMODYNAMIC.
29E8=DOWN-POINTING TRIANGLE WITH :LEFT HALF BLACK;RIGHT HALF BLACK.29EA=:
BLACK DIAMOND WITH DOWN ARROW;BLACK LOZENGE;WHITE CIRCLE WITH DOWN ARROW;
BLACK CIRCLE WITH DOWN ARROW.29EE=ERROR-BARRED :WHITE SQUARE;BLACK SQUARE;WHITE DIAMOND;
BLACK DIAMOND;WHITE CIRCLE;BLACK CIRCLE.29F4=:RULE-DELAYED;REVERSE SOLIDUS OPERATOR;
SOLIDUS WITH OVERBAR;REVERSE SOLIDUS WITH HORIZONTAL STROKE;BIG SOLIDUS;BIG REVERSE SOLIDUS;
DOUBLE PLUS;TRIPLE PLUS;LEFT-POINTING CURVED ANGLE BRACKET;RIGHT-POINTING CURVED ANGLE BRACKET;
TINY;MINY.2A00=N-ARY :CIRCLED DOT OPERATOR;CIRCLED PLUS OPERATOR;CIRCLED TIMES OPERATOR;
UNION OPERATOR WITH DOT;UNION OPERATOR WITH PLUS;SQUARE INTERSECTION OPERATOR;
SQUARE UNION OPERATOR.2A07=TWO LOGICAL :AND OPERATOR;OR OPERATOR.2A09=:N-ARY TIMES OPERATOR;
MODULO TWO SUM;SUMMATION WITH INTEGRAL;QUADRUPLE INTEGRAL OPERATOR;FINITE PART INTEGRAL.
2A0E=INTEGRAL :WITH DOUBLE STROKE;AVERAGE WITH SLASH.2A10=:CIRCULATION FUNCTION;
ANTICLOCKWISE INTEGRATION.2A12=LINE INTEGRATION :WITH RECTANGULAR PATH AROUND POLE;
WITH SEMICIRCULAR PATH AROUND POLE;NOT INCLUDING THE POLE.2A15=:INTEGRAL AROUND A POINT OPERATOR;
QUATERNION INTEGRAL OPERATOR.2A17=INTEGRAL WITH :LEFTWARDS ARROW WITH HOOK;TIMES SIGN;INTERSECTION;
UNION;OVERBAR;UNDERBAR.2A1D=:JOIN;LARGE LEFT TRIANGLE OPERATOR.2A1F=Z NOTATION SCHEMA :COMPOSITION;
PIPING;PROJECTION.2A22=PLUS SIGN WITH :SMALL CIRCLE ABOVE;CIRCUMFLEX ACCENT ABOVE;TILDE ABOVE;
DOT BELOW;TILDE BELOW;SUBSCRIPT TWO;BLACK TRIANGLE.2A29=MINUS SIGN WITH :COMMA ABOVE;DOT BELOW;
FALLING DOTS;RISING DOTS.2A2D=PLUS SIGN IN :LEFT HALF CIRCLE;RIGHT HALF CIRCLE.2A2F=:
VECTOR OR CROSS PRODUCT.2A30=MULTIPLICATION SIGN WITH :DOT ABOVE;UNDERBAR.2A32=:
SEMIDIRECT PRODUCT WITH BOTTOM CLOSED;SMASH PRODUCT.2A34=MULTIPLICATION SIGN IN :LEFT HALF CIRCLE;
RIGHT HALF CIRCLE.2A36=:CIRCLED MULTIPLICATION SIGN WITH CIRCUMFLEX ACCENT;
MULTIPLICATION SIGN IN DOUBLE CIRCLE;CIRCLED DIVISION SIGN;PLUS SIGN IN TRIANGLE;
MINUS SIGN IN TRIANGLE;MULTIPLICATION SIGN IN TRIANGLE;INTERIOR PRODUCT;RIGHTHAND INTERIOR PRODUCT;
Z NOTATION RELATIONAL COMPOSITION;AMALGAMATION OR COPRODUCT;INTERSECTION WITH DOT.2A41=UNION WITH :
MINUS SIGN;OVERBAR.2A43=INTERSECTION WITH :OVERBAR;LOGICAL AND.2A45=:UNION WITH LOGICAL OR;
UNION ABOVE INTERSECTION;INTERSECTION ABOVE UNION;UNION ABOVE BAR ABOVE INTERSECTION;
INTERSECTION ABOVE BAR ABOVE UNION;UNION BESIDE AND JOINED WITH UNION;
INTERSECTION BESIDE AND JOINED WITH INTERSECTION;CLOSED UNION WITH SERIFS;
CLOSED INTERSECTION WITH SERIFS.2A4E=DOUBLE SQUARE :INTERSECTION;UNION.2A50=:
CLOSED UNION WITH SERIFS AND SMASH PRODUCT;LOGICAL AND WITH DOT ABOVE;LOGICAL OR WITH DOT ABOVE.
2A53=DOUBLE LOGICAL :AND;OR.2A55=TWO INTERSECTING LOGICAL :AND;OR.2A57=SLOPING LARGE :OR;AND.
2A59=LOGICAL :OR OVERLAPPING LOGICAL AND;AND WITH MIDDLE STEM;OR WITH MIDDLE STEM;
AND WITH HORIZONTAL DASH;OR WITH HORIZONTAL DASH;AND WITH DOUBLE OVERBAR;AND WITH UNDERBAR;
AND WITH DOUBLE UNDERBAR.2A61=:SMALL VEE WITH UNDERBAR.2A62=LOGICAL OR WITH DOUBLE :OVERBAR;
UNDERBAR.2A64=Z NOTATION :DOMAIN ANTIRESTRICTION;RANGE ANTIRESTRICTION.2A66=:
EQUALS SIGN WITH DOT BELOW;IDENTICAL WITH DOT ABOVE.2A68=TRIPLE HORIZONTAL BAR WITH :
DOUBLE VERTICAL STROKE;TRIPLE VERTICAL STROKE.2A6A=TILDE OPERATOR WITH :DOT ABOVE;RISING DOTS.
2A6C=:SIMILAR MINUS SIMILAR;CONGRUENT WITH DOT ABOVE;EQUALS WITH ASTERISK;
ALMOST EQUAL TO WITH CIRCUMFLEX ACCENT;APPROXIMATELY EQUAL OR EQUAL TO;EQUALS SIGN ABOVE PLUS SIGN;
PLUS SIGN ABOVE EQUALS SIGN;EQUALS SIGN ABOVE TILDE OPERATOR;DOUBLE COLON EQUAL;
TWO CONSECUTIVE EQUALS SIGNS;THREE CONSECUTIVE EQUALS SIGNS;
EQUALS SIGN WITH TWO DOTS ABOVE AND TWO DOTS BELOW;EQUIVALENT WITH FOUR DOTS ABOVE;
LESS-THAN WITH CIRCLE INSIDE;GREATER-THAN WITH CIRCLE INSIDE;LESS-THAN WITH QUESTION MARK ABOVE;
GREATER-THAN WITH QUESTION MARK ABOVE;LESS-THAN OR SLANTED EQUAL TO;
GREATER-THAN OR SLANTED EQUAL TO;LESS-THAN OR SLANTED EQUAL TO WITH DOT INSIDE;
GREATER-THAN OR SLANTED EQUAL TO WITH DOT INSIDE;LESS-THAN OR SLANTED EQUAL TO WITH DOT ABOVE;
GREATER-THAN OR SLANTED EQUAL TO WITH DOT ABOVE;LESS-THAN OR SLANTED EQUAL TO WITH DOT ABOVE RIGHT;
GREATER-THAN OR SLANTED EQUAL TO WITH DOT ABOVE LEFT;LESS-THAN OR APPROXIMATE;
GREATER-THAN OR APPROXIMATE;LESS-THAN AND SINGLE-LINE NOT EQUAL TO;
GREATER-THAN AND SINGLE-LINE NOT EQUAL TO;LESS-THAN AND NOT APPROXIMATE;
GREATER-THAN AND NOT APPROXIMATE;LESS-THAN ABOVE DOUBLE-LINE EQUAL ABOVE GREATER-THAN;
GREATER-THAN ABOVE DOUBLE-LINE EQUAL ABOVE LESS-THAN;LESS-THAN ABOVE SIMILAR OR EQUAL;
GREATER-THAN ABOVE SIMILAR OR EQUAL;LESS-THAN ABOVE SIMILAR ABOVE GREATER-THAN;
GREATER-THAN ABOVE SIMILAR ABOVE LESS-THAN;LESS-THAN ABOVE GREATER-THAN ABOVE DOUBLE-LINE EQUAL;
GREATER-THAN ABOVE LESS-THAN ABOVE DOUBLE-LINE EQUAL;
LESS-THAN ABOVE SLANTED EQUAL ABOVE GREATER-THAN ABOVE SLANTED EQUAL;
GREATER-THAN ABOVE SLANTED EQUAL ABOVE LESS-THAN ABOVE SLANTED EQUAL.2A95=SLANTED EQUAL TO OR :
LESS-THAN;GREATER-THAN;LESS-THAN WITH DOT INSIDE;GREATER-THAN WITH DOT INSIDE.2A99=DOUBLE-LINE :
EQUAL TO OR LESS-THAN;EQUAL TO OR GREATER-THAN;SLANTED EQUAL TO OR LESS-THAN;
SLANTED EQUAL TO OR GREATER-THAN.2A9D=SIMILAR :OR LESS-THAN;OR GREATER-THAN;
ABOVE LESS-THAN ABOVE EQUALS SIGN;ABOVE GREATER-THAN ABOVE EQUALS SIGN.2AA1=DOUBLE NESTED :
LESS-THAN;GREATER-THAN;LESS-THAN WITH UNDERBAR.2AA4=GREATER-THAN :OVERLAPPING LESS-THAN;
BESIDE LESS-THAN.2AA6=:LESS-THAN CLOSED BY CURVE;GREATER-THAN CLOSED BY CURVE;
LESS-THAN CLOSED BY CURVE ABOVE SLANTED EQUAL;GREATER-THAN CLOSED BY CURVE ABOVE SLANTED EQUAL;
SMALLER THAN;LARGER THAN;SMALLER THAN OR EQUAL TO;LARGER THAN OR EQUAL TO;
EQUALS SIGN WITH BUMPY ABOVE;PRECEDES ABOVE SINGLE-LINE EQUALS SIGN;
SUCCEEDS ABOVE SINGLE-LINE EQUALS SIGN;PRECEDES ABOVE SINGLE-LINE NOT EQUAL TO;
SUCCEEDS ABOVE SINGLE-LINE NOT EQUAL TO;PRECEDES ABOVE EQUALS SIGN;SUCCEEDS ABOVE EQUALS SIGN;
PRECEDES ABOVE NOT EQUAL TO;SUCCEEDS ABOVE NOT EQUAL TO;PRECEDES ABOVE ALMOST EQUAL TO;
SUCCEEDS ABOVE ALMOST EQUAL TO;PRECEDES ABOVE NOT ALMOST EQUAL TO;
SUCCEEDS ABOVE NOT ALMOST EQUAL TO;DOUBLE PRECEDES;DOUBLE SUCCEEDS;SUBSET WITH DOT;
SUPERSET WITH DOT;SUBSET WITH PLUS SIGN BELOW;SUPERSET WITH PLUS SIGN BELOW;
SUBSET WITH MULTIPLICATION SIGN BELOW;SUPERSET WITH MULTIPLICATION SIGN BELOW;
SUBSET OF OR EQUAL TO WITH DOT ABOVE;SUPERSET OF OR EQUAL TO WITH DOT ABOVE;
SUBSET OF ABOVE EQUALS SIGN;SUPERSET OF ABOVE EQUALS SIGN;SUBSET OF ABOVE TILDE OPERATOR;
SUPERSET OF ABOVE TILDE OPERATOR;SUBSET OF ABOVE ALMOST EQUAL TO;SUPERSET OF ABOVE ALMOST EQUAL TO;
SUBSET OF ABOVE NOT EQUAL TO;SUPERSET OF ABOVE NOT EQUAL TO;SQUARE LEFT OPEN BOX OPERATOR;
SQUARE RIGHT OPEN BOX OPERATOR.2ACF=CLOSED :SUBSET;SUPERSET;SUBSET OR EQUAL TO;
SUPERSET OR EQUAL TO.2AD3=:SUBSET ABOVE SUPERSET;SUPERSET ABOVE SUBSET;SUBSET ABOVE SUBSET.
2AD6=SUPERSET :ABOVE SUPERSET;BESIDE SUBSET;BESIDE AND JOINED BY DASH WITH SUBSET.2AD9=:
ELEMENT OF OPENING DOWNWARDS;PITCHFORK WITH TEE TOP;TRANSVERSAL INTERSECTION;FORKING;NONFORKING.
2ADE=SHORT :LEFT TACK;DOWN TACK;UP TACK.2AE1=:PERPENDICULAR WITH S;
VERTICAL BAR TRIPLE RIGHT TURNSTILE;DOUBLE VERTICAL BAR LEFT TURNSTILE;
VERTICAL BAR DOUBLE LEFT TURNSTILE;DOUBLE VERTICAL BAR DOUBLE LEFT TURNSTILE;
LONG DASH FROM LEFT MEMBER OF DOUBLE VERTICAL.2AE7=SHORT :DOWN TACK WITH OVERBAR;
UP TACK WITH UNDERBAR;UP TACK ABOVE SHORT DOWN TACK.2AEA=DOUBLE :DOWN TACK;UP TACK;STROKE NOT SIGN.
2AED=:REVERSED DOUBLE STROKE NOT SIGN;DOES NOT DIVIDE WITH REVERSED NEGATION SLASH.
2AEF=VERTICAL LINE WITH CIRCLE :ABOVE;BELOW.2AF1=:DOWN TACK WITH CIRCLE BELOW.2AF2=PARALLEL WITH :
HORIZONTAL STROKE;TILDE OPERATOR.2AF4=TRIPLE :VERTICAL BAR BINARY RELATION;
VERTICAL BAR WITH HORIZONTAL STROKE;COLON OPERATOR;NESTED LESS-THAN;NESTED GREATER-THAN.
2AF9=DOUBLE-LINE SLANTED :LESS-THAN OR EQUAL TO;GREATER-THAN OR EQUAL TO.2AFB=:
TRIPLE SOLIDUS BINARY RELATION;LARGE TRIPLE VERTICAL BAR OPERATOR;DOUBLE SOLIDUS OPERATOR;
WHITE VERTICAL BAR;N-ARY WHITE VERTICAL BAR;NORTH EAST WHITE ARROW;NORTH WEST WHITE ARROW;
SOUTH EAST WHITE ARROW;SOUTH WEST WHITE ARROW;LEFT RIGHT WHITE ARROW;LEFTWARDS BLACK ARROW;
UPWARDS BLACK ARROW;DOWNWARDS BLACK ARROW;NORTH EAST BLACK ARROW;NORTH WEST BLACK ARROW;
SOUTH EAST BLACK ARROW;SOUTH WEST BLACK ARROW;LEFT RIGHT BLACK ARROW;UP DOWN BLACK ARROW.
2B0E=RIGHTWARDS ARROW WITH TIP :DOWNWARDS;UPWARDS.2B10=LEFTWARDS ARROW WITH TIP :DOWNWARDS;UPWARDS.
2B12=SQUARE WITH :TOP HALF BLACK;BOTTOM HALF BLACK;UPPER RIGHT DIAGONAL HALF BLACK;
LOWER LEFT DIAGONAL HALF BLACK.2B16=DIAMOND WITH :LEFT HALF BLACK;RIGHT HALF BLACK;TOP HALF BLACK;
BOTTOM HALF BLACK.2B1A=:DOTTED SQUARE;BLACK LARGE SQUARE;WHITE LARGE SQUARE;
BLACK VERY SMALL SQUARE;WHITE VERY SMALL SQUARE;BLACK PENTAGON;WHITE PENTAGON;WHITE HEXAGON;
BLACK HEXAGON;HORIZONTAL BLACK HEXAGON;BLACK LARGE CIRCLE;BLACK MEDIUM DIAMOND;
WHITE MEDIUM DIAMOND;BLACK MEDIUM LOZENGE;WHITE MEDIUM LOZENGE.2B29=BLACK SMALL :DIAMOND;LOZENGE.
2B2B=:WHITE SMALL LOZENGE;BLACK HORIZONTAL ELLIPSE;WHITE HORIZONTAL ELLIPSE;BLACK VERTICAL ELLIPSE;
WHITE VERTICAL ELLIPSE;LEFT ARROW WITH SMALL CIRCLE;THREE LEFTWARDS ARROWS;
LEFT ARROW WITH CIRCLED PLUS;LONG LEFTWARDS SQUIGGLE ARROW.2B34=LEFTWARDS :
TWO-HEADED ARROW WITH VERTICAL STROKE;TWO-HEADED ARROW WITH DOUBLE VERTICAL STROKE;
TWO-HEADED ARROW FROM BAR;TWO-HEADED TRIPLE DASH ARROW;ARROW WITH DOTTED STEM;
ARROW WITH TAIL WITH VERTICAL STROKE;ARROW WITH TAIL WITH DOUBLE VERTICAL STROKE;
TWO-HEADED ARROW WITH TAIL;TWO-HEADED ARROW WITH TAIL WITH VERTICAL STROKE;
TWO-HEADED ARROW WITH TAIL WITH DOUBLE VERTICAL STROKE;ARROW THROUGH X.2B3F=:
WAVE ARROW POINTING DIRECTLY LEFT;EQUALS SIGN ABOVE LEFTWARDS ARROW;
REVERSE TILDE OPERATOR ABOVE LEFTWARDS ARROW;LEFTWARDS ARROW ABOVE REVERSE ALMOST EQUAL TO.
2B43=RIGHTWARDS ARROW THROUGH :GREATER-THAN;SUPERSET.2B45=:LEFTWARDS QUADRUPLE ARROW;
RIGHTWARDS QUADRUPLE ARROW;REVERSE TILDE OPERATOR ABOVE RIGHTWARDS ARROW;
RIGHTWARDS ARROW ABOVE REVERSE ALMOST EQUAL TO;TILDE OPERATOR ABOVE LEFTWARDS ARROW.
2B4A=LEFTWARDS ARROW ABOVE :ALMOST EQUAL TO;REVERSE TILDE OPERATOR.2B4C=:
RIGHTWARDS ARROW ABOVE REVERSE TILDE OPERATOR;DOWNWARDS TRIANGLE-HEADED ZIGZAG ARROW;
SHORT SLANTED NORTH ARROW;SHORT BACKSLANTED SOUTH ARROW;WHITE MEDIUM STAR;BLACK SMALL STAR;
WHITE SMALL STAR;BLACK RIGHT-POINTING PENTAGON;WHITE RIGHT-POINTING PENTAGON.2B55=HEAVY :
LARGE CIRCLE;OVAL WITH OVAL INSIDE;CIRCLE WITH CIRCLE INSIDE;CIRCLE;CIRCLED SALTIRE.2B5A=:
SLANTED NORTH ARROW WITH HOOKED HEAD;BACKSLANTED SOUTH ARROW WITH HOOKED TAIL;
SLANTED NORTH ARROW WITH HORIZONTAL TAIL;BACKSLANTED SOUTH ARROW WITH HORIZONTAL TAIL;
BENT ARROW POINTING DOWNWARDS THEN NORTH EAST;SHORT BENT ARROW POINTING DOWNWARDS THEN NORTH EAST;
LEFTWARDS TRIANGLE-HEADED ARROW;UPWARDS TRIANGLE-HEADED ARROW;RIGHTWARDS TRIANGLE-HEADED ARROW;
DOWNWARDS TRIANGLE-HEADED ARROW;LEFT RIGHT TRIANGLE-HEADED ARROW;UP DOWN TRIANGLE-HEADED ARROW;
NORTH WEST TRIANGLE-HEADED ARROW;NORTH EAST TRIANGLE-HEADED ARROW;SOUTH EAST TRIANGLE-HEADED ARROW;
SOUTH WEST TRIANGLE-HEADED ARROW;LEFTWARDS TRIANGLE-HEADED DASHED ARROW;
UPWARDS TRIANGLE-HEADED DASHED ARROW;RIGHTWARDS TRIANGLE-HEADED DASHED ARROW;
DOWNWARDS TRIANGLE-HEADED DASHED ARROW;CLOCKWISE TRIANGLE-HEADED OPEN CIRCLE ARROW;
ANTICLOCKWISE TRIANGLE-HEADED OPEN CIRCLE ARROW;LEFTWARDS TRIANGLE-HEADED ARROW TO BAR;
UPWARDS TRIANGLE-HEADED ARROW TO BAR;RIGHTWARDS TRIANGLE-HEADED ARROW TO BAR;
DOWNWARDS TRIANGLE-HEADED ARROW TO BAR.2B76=:NORTH WEST TRIANGLE-HEADED ARROW TO BAR;
NORTH EAST TRIANGLE-HEADED ARROW TO BAR;SOUTH EAST TRIANGLE-HEADED ARROW TO BAR;
SOUTH WEST TRIANGLE-HEADED ARROW TO BAR;
LEFTWARDS TRIANGLE-HEADED ARROW WITH DOUBLE HORIZONTAL STROKE;
UPWARDS TRIANGLE-HEADED ARROW WITH DOUBLE HORIZONTAL STROKE;
RIGHTWARDS TRIANGLE-HEADED ARROW WITH DOUBLE HORIZONTAL STROKE;
DOWNWARDS TRIANGLE-HEADED ARROW WITH DOUBLE HORIZONTAL STROKE;HORIZONTAL TAB KEY;VERTICAL TAB KEY;
LEFTWARDS TRIANGLE-HEADED ARROW OVER RIGHTWARDS TRIANGLE-HEADED ARROW;
UPWARDS TRIANGLE-HEADED ARROW LEFTWARDS OF DOWNWARDS TRIANGLE-HEADED ARROW;
RIGHTWARDS TRIANGLE-HEADED ARROW OVER LEFTWARDS TRIANGLE-HEADED ARROW;
DOWNWARDS TRIANGLE-HEADED ARROW LEFTWARDS OF UPWARDS TRIANGLE-HEADED ARROW;
LEFTWARDS TRIANGLE-HEADED PAIRED ARROWS;UPWARDS TRIANGLE-HEADED PAIRED ARROWS;
RIGHTWARDS TRIANGLE-HEADED PAIRED ARROWS;DOWNWARDS TRIANGLE-HEADED PAIRED ARROWS;
LEFTWARDS BLACK CIRCLED WHITE ARROW;UPWARDS BLACK CIRCLED WHITE ARROW;
RIGHTWARDS BLACK CIRCLED WHITE ARROW;DOWNWARDS BLACK CIRCLED WHITE ARROW.
2B8C=ANTICLOCKWISE TRIANGLE-HEADED :RIGHT U-SHAPED ARROW;BOTTOM U-SHAPED ARROW;LEFT U-SHAPED ARROW;
TOP U-SHAPED ARROW.2B90=:RETURN LEFT;RETURN RIGHT;NEWLINE LEFT;NEWLINE RIGHT;
FOUR CORNER ARROWS CIRCLING ANTICLOCKWISE;RIGHTWARDS BLACK ARROW.2B97=:
SYMBOL FOR TYPE A ELECTRONICS.2B98=THREE-D :TOP-LIGHTED LEFTWARDS EQUILATERAL ARROWHEAD;
RIGHT-LIGHTED UPWARDS EQUILATERAL ARROWHEAD;TOP-LIGHTED RIGHTWARDS EQUILATERAL ARROWHEAD;
LEFT-LIGHTED DOWNWARDS EQUILATERAL ARROWHEAD.2B9C=BLACK :LEFTWARDS EQUILATERAL ARROWHEAD;
UPWARDS EQUILATERAL ARROWHEAD;RIGHTWARDS EQUILATERAL ARROWHEAD;DOWNWARDS EQUILATERAL ARROWHEAD.
2BA0=DOWNWARDS TRIANGLE-HEADED ARROW WITH LONG TIP :LEFTWARDS;RIGHTWARDS.
2BA2=UPWARDS TRIANGLE-HEADED ARROW WITH LONG TIP :LEFTWARDS;RIGHTWARDS.2BA4=:
LEFTWARDS TRIANGLE-HEADED ARROW WITH LONG TIP UPWARDS;
RIGHTWARDS TRIANGLE-HEADED ARROW WITH LONG TIP UPWARDS;
LEFTWARDS TRIANGLE-HEADED ARROW WITH LONG TIP DOWNWARDS;
RIGHTWARDS TRIANGLE-HEADED ARROW WITH LONG TIP DOWNWARDS.2BA8=BLACK CURVED :
DOWNWARDS AND LEFTWARDS ARROW;DOWNWARDS AND RIGHTWARDS ARROW;UPWARDS AND LEFTWARDS ARROW;
UPWARDS AND RIGHTWARDS ARROW;LEFTWARDS AND UPWARDS ARROW;RIGHTWARDS AND UPWARDS ARROW;
LEFTWARDS AND DOWNWARDS ARROW;RIGHTWARDS AND DOWNWARDS ARROW.2BB0=RIBBON ARROW :DOWN LEFT;
DOWN RIGHT;UP LEFT;UP RIGHT;LEFT UP;RIGHT UP;LEFT DOWN;RIGHT DOWN.2BB8=:
UPWARDS WHITE ARROW FROM BAR WITH HORIZONTAL BAR;UP ARROWHEAD IN A RECTANGLE BOX.2BBA=OVERLAPPING :
WHITE SQUARES;WHITE AND BLACK SQUARES;BLACK SQUARES.2BBD=:BALLOT BOX WITH LIGHT X;CIRCLED X;
CIRCLED BOLD X;BLACK SQUARE CENTRED;BLACK DIAMOND CENTRED;TURNED BLACK PENTAGON;
HORIZONTAL BLACK OCTAGON.2BC4=BLACK :OCTAGON;MEDIUM UP-POINTING TRIANGLE CENTRED;
MEDIUM DOWN-POINTING TRIANGLE CENTRED;MEDIUM LEFT-POINTING TRIANGLE CENTRED;
MEDIUM RIGHT-POINTING TRIANGLE CENTRED.2BC9=:NEPTUNE FORM TWO;TOP HALF BLACK CIRCLE;
BOTTOM HALF BLACK CIRCLE;LIGHT FOUR POINTED BLACK CUSP;ROTATED LIGHT FOUR POINTED BLACK CUSP;
WHITE FOUR POINTED CUSP;ROTATED WHITE FOUR POINTED CUSP;SQUARE POSITION INDICATOR;UNCERTAINTY SIGN;
GROUP MARK.2BD3=PLUTO FORM :TWO;THREE;FOUR;FIVE.2BD7=:TRANSPLUTO;PROSERPINA;ASTRAEA;HYGIEA;PHOLUS;
NESSUS;WHITE MOON SELENA;BLACK DIAMOND ON CROSS;TRUE LIGHT MOON ARTA;CUPIDO;HADES;ZEUS;KRONOS;
APOLLON;ADMETOS;VULCANUS;POSEIDON;LEFT HALF BLACK STAR;RIGHT HALF BLACK STAR.2BEA=STAR WITH :
LEFT HALF BLACK;RIGHT HALF BLACK.2BEC=:LEFTWARDS TWO-HEADED ARROW WITH TRIANGLE ARROWHEADS;
UPWARDS TWO-HEADED ARROW WITH TRIANGLE ARROWHEADS;
RIGHTWARDS TWO-HEADED ARROW WITH TRIANGLE ARROWHEADS;
DOWNWARDS TWO-HEADED ARROW WITH TRIANGLE ARROWHEADS.2BF0=ERIS FORM :ONE;TWO.2BF2=:SEDNA.
2BF3=RUSSIAN ASTROLOGICAL SYMBOL :VIGINTILE;NOVILE;QUINTILE;BINOVILE;SENTAGON;TREDECILE.2BF9=:
EQUALS SIGN WITH INFINITY BELOW;UNITED SYMBOL;SEPARATED SYMBOL;DOUBLED SYMBOL;PASSED SYMBOL;
REVERSED RIGHT ANGLE;HELLSCHREIBER PAUSE SYMBOL."

end Workflow.Text
