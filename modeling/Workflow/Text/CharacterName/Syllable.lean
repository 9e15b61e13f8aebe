/-!
# Names: Kana and other syllables

Runs of names of characters of the scripts of Japan, of Yi and Vai, and of scripts that came late.
A run gives the code of its first character, the start that its names share, and the rest of each
name. Line ends mean nothing.
-/

namespace Workflow.Text

/-- The names of these characters. -/
def syllableNames : String := "
2C00=GLAGOLITIC CAPITAL LETTER :AZU;BUKY;VEDE;GLAGOLI;DOBRO;YESTU;ZHIVETE;DZELO;ZEMLJA;IZHE;
INITIAL IZHE;I;DJERVI;KAKO;LJUDIJE;MYSLITE;NASHI;ONU;POKOJI;RITSI;SLOVO;TVRIDO;UKU;FRITU;HERU;OTU;
PE;SHTA;TSI;CHRIVI;SHA;YERU;YERI;YATI;SPIDERY HA;YU;SMALL YUS;SMALL YUS WITH TAIL;YO;
IOTATED SMALL YUS;BIG YUS;IOTATED BIG YUS;FITA;IZHITSA;SHTAPIC;TROKUTASTI A;LATINATE MYSLITE;
CAUDATE CHRIVI.2C30=GLAGOLITIC SMALL LETTER :AZU;BUKY;VEDE;GLAGOLI;DOBRO;YESTU;ZHIVETE;DZELO;
ZEMLJA;IZHE;INITIAL IZHE;I;DJERVI;KAKO;LJUDIJE;MYSLITE;NASHI;ONU;POKOJI;RITSI;SLOVO;TVRIDO;UKU;
FRITU;HERU;OTU;PE;SHTA;TSI;CHRIVI;SHA;YERU;YERI;YATI;SPIDERY HA;YU;SMALL YUS;SMALL YUS WITH TAIL;
YO;IOTATED SMALL YUS;BIG YUS;IOTATED BIG YUS;FITA;IZHITSA;SHTAPIC;TROKUTASTI A;LATINATE MYSLITE;
CAUDATE CHRIVI.2C60=LATIN :CAPITAL LETTER L WITH DOUBLE BAR;SMALL LETTER L WITH DOUBLE BAR;
CAPITAL LETTER L WITH MIDDLE TILDE;CAPITAL LETTER P WITH STROKE;CAPITAL LETTER R WITH TAIL;
SMALL LETTER A WITH STROKE;SMALL LETTER T WITH DIAGONAL STROKE;CAPITAL LETTER H WITH DESCENDER;
SMALL LETTER H WITH DESCENDER;CAPITAL LETTER K WITH DESCENDER;SMALL LETTER K WITH DESCENDER;
CAPITAL LETTER Z WITH DESCENDER;SMALL LETTER Z WITH DESCENDER;CAPITAL LETTER ALPHA;
CAPITAL LETTER M WITH HOOK;CAPITAL LETTER TURNED A;CAPITAL LETTER TURNED ALPHA;
SMALL LETTER V WITH RIGHT HOOK;CAPITAL LETTER W WITH HOOK;SMALL LETTER W WITH HOOK;
SMALL LETTER V WITH CURL;CAPITAL LETTER HALF H;SMALL LETTER HALF H;SMALL LETTER TAILLESS PHI;
SMALL LETTER E WITH NOTCH;SMALL LETTER TURNED R WITH TAIL;SMALL LETTER O WITH LOW RING INSIDE;
LETTER SMALL CAPITAL TURNED E;SUBSCRIPT SMALL LETTER J.2C7D=:MODIFIER LETTER CAPITAL V.
2C7E=LATIN CAPITAL LETTER :S WITH SWASH TAIL;Z WITH SWASH TAIL.2C80=COPTIC :CAPITAL LETTER ALFA;
SMALL LETTER ALFA;CAPITAL LETTER VIDA;SMALL LETTER VIDA;CAPITAL LETTER GAMMA;SMALL LETTER GAMMA;
CAPITAL LETTER DALDA;SMALL LETTER DALDA;CAPITAL LETTER EIE;SMALL LETTER EIE;CAPITAL LETTER SOU;
SMALL LETTER SOU;CAPITAL LETTER ZATA;SMALL LETTER ZATA;CAPITAL LETTER HATE;SMALL LETTER HATE;
CAPITAL LETTER THETHE;SMALL LETTER THETHE;CAPITAL LETTER IAUDA;SMALL LETTER IAUDA;
CAPITAL LETTER KAPA;SMALL LETTER KAPA;CAPITAL LETTER LAULA;SMALL LETTER LAULA;CAPITAL LETTER MI;
SMALL LETTER MI;CAPITAL LETTER NI;SMALL LETTER NI;CAPITAL LETTER KSI;SMALL LETTER KSI;
CAPITAL LETTER O;SMALL LETTER O;CAPITAL LETTER PI;SMALL LETTER PI;CAPITAL LETTER RO;
SMALL LETTER RO;CAPITAL LETTER SIMA;SMALL LETTER SIMA;CAPITAL LETTER TAU;SMALL LETTER TAU;
CAPITAL LETTER UA;SMALL LETTER UA;CAPITAL LETTER FI;SMALL LETTER FI;CAPITAL LETTER KHI;
SMALL LETTER KHI;CAPITAL LETTER PSI;SMALL LETTER PSI;CAPITAL LETTER OOU;SMALL LETTER OOU;
CAPITAL LETTER DIALECT-P ALEF;SMALL LETTER DIALECT-P ALEF;CAPITAL LETTER OLD COPTIC AIN;
SMALL LETTER OLD COPTIC AIN;CAPITAL LETTER CRYPTOGRAMMIC EIE;SMALL LETTER CRYPTOGRAMMIC EIE;
CAPITAL LETTER DIALECT-P KAPA;SMALL LETTER DIALECT-P KAPA;CAPITAL LETTER DIALECT-P NI;
SMALL LETTER DIALECT-P NI;CAPITAL LETTER CRYPTOGRAMMIC NI;SMALL LETTER CRYPTOGRAMMIC NI;
CAPITAL LETTER OLD COPTIC OOU;SMALL LETTER OLD COPTIC OOU;CAPITAL LETTER SAMPI;SMALL LETTER SAMPI;
CAPITAL LETTER CROSSED SHEI;SMALL LETTER CROSSED SHEI;CAPITAL LETTER OLD COPTIC SHEI;
SMALL LETTER OLD COPTIC SHEI;CAPITAL LETTER OLD COPTIC ESH;SMALL LETTER OLD COPTIC ESH;
CAPITAL LETTER AKHMIMIC KHEI;SMALL LETTER AKHMIMIC KHEI;CAPITAL LETTER DIALECT-P HORI;
SMALL LETTER DIALECT-P HORI;CAPITAL LETTER OLD COPTIC HORI;SMALL LETTER OLD COPTIC HORI;
CAPITAL LETTER OLD COPTIC HA;SMALL LETTER OLD COPTIC HA;CAPITAL LETTER L-SHAPED HA;
SMALL LETTER L-SHAPED HA;CAPITAL LETTER OLD COPTIC HEI;SMALL LETTER OLD COPTIC HEI;
CAPITAL LETTER OLD COPTIC HAT;SMALL LETTER OLD COPTIC HAT;CAPITAL LETTER OLD COPTIC GANGIA;
SMALL LETTER OLD COPTIC GANGIA;CAPITAL LETTER OLD COPTIC DJA;SMALL LETTER OLD COPTIC DJA;
CAPITAL LETTER OLD COPTIC SHIMA;SMALL LETTER OLD COPTIC SHIMA;CAPITAL LETTER OLD NUBIAN SHIMA;
SMALL LETTER OLD NUBIAN SHIMA;CAPITAL LETTER OLD NUBIAN NGI;SMALL LETTER OLD NUBIAN NGI;
CAPITAL LETTER OLD NUBIAN NYI;SMALL LETTER OLD NUBIAN NYI;CAPITAL LETTER OLD NUBIAN WAU;
SMALL LETTER OLD NUBIAN WAU;SYMBOL KAI;SYMBOL MI RO;SYMBOL PI RO;SYMBOL STAUROS;SYMBOL TAU RO;
SYMBOL KHI RO;SYMBOL SHIMA SIMA;CAPITAL LETTER CRYPTOGRAMMIC SHEI;SMALL LETTER CRYPTOGRAMMIC SHEI;
CAPITAL LETTER CRYPTOGRAMMIC GANGIA;SMALL LETTER CRYPTOGRAMMIC GANGIA;COMBINING NI ABOVE;
COMBINING SPIRITUS ASPER;COMBINING SPIRITUS LENIS;CAPITAL LETTER BOHAIRIC KHEI;
SMALL LETTER BOHAIRIC KHEI.2CF9=COPTIC OLD NUBIAN :FULL STOP;DIRECT QUESTION MARK;
INDIRECT QUESTION MARK;VERSE DIVIDER.2CFD=COPTIC :FRACTION ONE HALF;FULL STOP;
MORPHOLOGICAL DIVIDER.2D00=GEORGIAN SMALL LETTER :AN;BAN;GAN;DON;EN;VIN;ZEN;TAN;IN;KAN;LAS;MAN;NAR;
ON;PAR;ZHAR;RAE;SAN;TAR;UN;PHAR;KHAR;GHAN;QAR;SHIN;CHIN;CAN;JIL;CIL;CHAR;XAN;JHAN;HAE;HE;HIE;WE;
HAR;HOE.2D27=:GEORGIAN SMALL LETTER YN.2D2D=:GEORGIAN SMALL LETTER AEN.2D30=TIFINAGH LETTER :YA;
YAB;YABH;YAG;YAGHH;BERBER ACADEMY YAJ;YAJ;YAD;YADH;YADD;YADDH;YEY;YAF;YAK;TUAREG YAK;YAKHH;YAH;
BERBER ACADEMY YAH;TUAREG YAH;YAHH;YAA;YAKH;TUAREG YAKH;YAQ;TUAREG YAQ;YI;YAZH;AHAGGAR YAZH;
TUAREG YAZH;YAL;YAM;YAN;TUAREG YAGN;TUAREG YANG;YAP;YU;YAR;YARR;YAGH;TUAREG YAGH;AYER YAGH;YAS;
YASS;YASH;YAT;YATH;YACH;YATT;YAV;YAW;YAY;YAZ;TAWELLEMET YAZ;YAZZ;YE;YO.2D6F=TIFINAGH :
MODIFIER LETTER LABIALIZATION MARK;SEPARATOR MARK.2D7F=:TIFINAGH CONSONANT JOINER.
2D80=ETHIOPIC SYLLABLE :LOA;MOA;ROA;SOA;SHOA;BOA;TOA;COA;NOA;NYOA;GLOTTAL OA;ZOA;DOA;DDOA;JOA;THOA;
CHOA;PHOA;POA;GGWA;GGWI;GGWEE;GGWE.2DA0=ETHIOPIC SYLLABLE :SSA;SSU;SSI;SSAA;SSEE;SSE;SSO.
2DA8=ETHIOPIC SYLLABLE :CCA;CCU;CCI;CCAA;CCEE;CCE;CCO.2DB0=ETHIOPIC SYLLABLE :ZZA;ZZU;ZZI;ZZAA;
ZZEE;ZZE;ZZO.2DB8=ETHIOPIC SYLLABLE :CCHA;CCHU;CCHI;CCHAA;CCHEE;CCHE;CCHO.2DC0=ETHIOPIC SYLLABLE :
QYA;QYU;QYI;QYAA;QYEE;QYE;QYO.2DC8=ETHIOPIC SYLLABLE :KYA;KYU;KYI;KYAA;KYEE;KYE;KYO.
2DD0=ETHIOPIC SYLLABLE :XYA;XYU;XYI;XYAA;XYEE;XYE;XYO.2DD8=ETHIOPIC SYLLABLE :GYA;GYU;GYI;GYAA;
GYEE;GYE;GYO.2DE0=COMBINING CYRILLIC LETTER :BE;VE;GHE;DE;ZHE;ZE;KA;EL;EM;EN;O;PE;ER;ES;TE;HA;TSE;
CHE;SHA;SHCHA;FITA;ES-TE;A;IE;DJERV;MONOGRAPH UK;YAT;YU;IOTIFIED A;LITTLE YUS;BIG YUS;
IOTIFIED BIG YUS.2E00=RIGHT ANGLE :SUBSTITUTION MARKER;DOTTED SUBSTITUTION MARKER.2E02=:
LEFT SUBSTITUTION BRACKET;RIGHT SUBSTITUTION BRACKET;LEFT DOTTED SUBSTITUTION BRACKET;
RIGHT DOTTED SUBSTITUTION BRACKET;RAISED INTERPOLATION MARKER;RAISED DOTTED INTERPOLATION MARKER;
DOTTED TRANSPOSITION MARKER;LEFT TRANSPOSITION BRACKET;RIGHT TRANSPOSITION BRACKET;RAISED SQUARE;
LEFT RAISED OMISSION BRACKET;RIGHT RAISED OMISSION BRACKET;EDITORIAL CORONIS;PARAGRAPHOS;
FORKED PARAGRAPHOS;REVERSED FORKED PARAGRAPHOS;HYPODIASTOLE;DOTTED OBELOS;DOWNWARDS ANCORA;
UPWARDS ANCORA;DOTTED RIGHT-POINTING ANGLE;DOUBLE OBLIQUE HYPHEN;INVERTED INTERROBANG;PALM BRANCH;
HYPHEN WITH DIAERESIS;TILDE WITH RING ABOVE;LEFT LOW PARAPHRASE BRACKET;
RIGHT LOW PARAPHRASE BRACKET.2E1E=TILDE WITH DOT :ABOVE;BELOW.2E20=:LEFT VERTICAL BAR WITH QUILL;
RIGHT VERTICAL BAR WITH QUILL;TOP LEFT HALF BRACKET;TOP RIGHT HALF BRACKET;
BOTTOM LEFT HALF BRACKET;BOTTOM RIGHT HALF BRACKET;LEFT SIDEWAYS U BRACKET;
RIGHT SIDEWAYS U BRACKET;LEFT DOUBLE PARENTHESIS;RIGHT DOUBLE PARENTHESIS;
TWO DOTS OVER ONE DOT PUNCTUATION;ONE DOT OVER TWO DOTS PUNCTUATION;SQUARED FOUR DOT PUNCTUATION;
FIVE DOT MARK;REVERSED QUESTION MARK;VERTICAL TILDE;RING POINT;WORD SEPARATOR MIDDLE DOT;
TURNED COMMA;RAISED DOT;RAISED COMMA;TURNED SEMICOLON.2E36=DAGGER WITH :LEFT GUARD;RIGHT GUARD.
2E38=:TURNED DAGGER;TOP HALF SECTION SIGN;TWO-EM DASH;THREE-EM DASH;STENOGRAPHIC FULL STOP;
VERTICAL SIX DOTS;WIGGLY VERTICAL LINE;CAPITULUM;DOUBLE HYPHEN;REVERSED COMMA;
DOUBLE LOW-REVERSED-9 QUOTATION MARK;DASH WITH LEFT UPTURN;DOUBLE SUSPENSION MARK.
2E45=INVERTED LOW :KAVYKA;KAVYKA WITH KAVYKA ABOVE.2E47=:LOW KAVYKA;LOW KAVYKA WITH DOT;
DOUBLE STACKED COMMA;DOTTED SOLIDUS;TRIPLE DAGGER;MEDIEVAL COMMA;PARAGRAPHUS MARK;
PUNCTUS ELEVATUS MARK;CORNISH VERSE DIVIDER.2E50=CROSS PATTY WITH :RIGHT CROSSBAR;LEFT CROSSBAR.
2E52=:TIRONIAN SIGN CAPITAL ET.2E53=MEDIEVAL :EXCLAMATION MARK;QUESTION MARK.2E55=:
LEFT SQUARE BRACKET WITH STROKE;RIGHT SQUARE BRACKET WITH STROKE;
LEFT SQUARE BRACKET WITH DOUBLE STROKE;RIGHT SQUARE BRACKET WITH DOUBLE STROKE.2E59=TOP HALF :
LEFT PARENTHESIS;RIGHT PARENTHESIS.2E5B=BOTTOM HALF :LEFT PARENTHESIS;RIGHT PARENTHESIS.2E5D=:
OBLIQUE HYPHEN.2E80=CJK RADICAL :REPEAT;CLIFF;SECOND ONE;SECOND TWO;SECOND THREE;PERSON;BOX;TABLE;
KNIFE ONE;KNIFE TWO;DIVINATION;SEAL;SMALL ONE;SMALL TWO;LAME ONE;LAME TWO;LAME THREE;LAME FOUR;
SNAKE;THREAD;SNOUT ONE;SNOUT TWO;HEART ONE;HEART TWO;HAND;RAP.2E9B=CJK RADICAL :CHOKE;SUN;MOON;
DEATH;MOTHER;CIVILIAN;WATER ONE;WATER TWO;FIRE;PAW ONE;PAW TWO;SIMPLIFIED HALF TREE TRUNK;COW;DOG;
JADE;BOLT OF CLOTH;EYE;SPIRIT ONE;SPIRIT TWO;BAMBOO;SILK;C-SIMPLIFIED SILK;NET ONE;NET TWO;
NET THREE;NET FOUR;MESH;SHEEP;RAM;EWE;OLD;BRUSH ONE;BRUSH TWO;MEAT;MORTAR;GRASS ONE;GRASS TWO;
GRASS THREE;TIGER;CLOTHES;WEST ONE;WEST TWO;C-SIMPLIFIED SEE;SIMPLIFIED HORN;HORN;
C-SIMPLIFIED SPEECH;C-SIMPLIFIED SHELL;FOOT;C-SIMPLIFIED CART;SIMPLIFIED WALK;WALK ONE;WALK TWO;
CITY;C-SIMPLIFIED GOLD;LONG ONE;LONG TWO;C-SIMPLIFIED LONG;C-SIMPLIFIED GATE;MOUND ONE;MOUND TWO;
RAIN;BLUE;C-SIMPLIFIED TANNED LEATHER;C-SIMPLIFIED LEAF;C-SIMPLIFIED WIND;C-SIMPLIFIED FLY;EAT ONE;
EAT TWO;EAT THREE;C-SIMPLIFIED EAT;HEAD;C-SIMPLIFIED HORSE;BONE;GHOST;C-SIMPLIFIED FISH;
C-SIMPLIFIED BIRD;C-SIMPLIFIED SALT;SIMPLIFIED WHEAT;SIMPLIFIED YELLOW;C-SIMPLIFIED FROG;
J-SIMPLIFIED EVEN;C-SIMPLIFIED EVEN;J-SIMPLIFIED TOOTH;C-SIMPLIFIED TOOTH;J-SIMPLIFIED DRAGON;
C-SIMPLIFIED DRAGON;TURTLE;J-SIMPLIFIED TURTLE;C-SIMPLIFIED TURTLE.2F00=KANGXI RADICAL :ONE;LINE;
DOT;SLASH;SECOND;HOOK;TWO;LID;MAN;LEGS;ENTER;EIGHT;DOWN BOX;COVER;ICE;TABLE;OPEN BOX;KNIFE;POWER;
WRAP;SPOON;RIGHT OPEN BOX;HIDING ENCLOSURE;TEN;DIVINATION;SEAL;CLIFF;PRIVATE;AGAIN;MOUTH;ENCLOSURE;
EARTH;SCHOLAR;GO;GO SLOWLY;EVENING;BIG;WOMAN;CHILD;ROOF;INCH;SMALL;LAME;CORPSE;SPROUT;MOUNTAIN;
RIVER;WORK;ONESELF;TURBAN;DRY;SHORT THREAD;DOTTED CLIFF;LONG STRIDE;TWO HANDS;SHOOT;BOW;SNOUT;
BRISTLE;STEP;HEART;HALBERD;DOOR;HAND;BRANCH;RAP;SCRIPT;DIPPER;AXE;SQUARE;NOT;SUN;SAY;MOON;TREE;
LACK;STOP;DEATH;WEAPON;DO NOT;COMPARE;FUR;CLAN;STEAM;WATER;FIRE;CLAW;FATHER;DOUBLE X;
HALF TREE TRUNK;SLICE;FANG;COW;DOG;PROFOUND;JADE;MELON;TILE;SWEET;LIFE;USE;FIELD;BOLT OF CLOTH;
SICKNESS;DOTTED TENT;WHITE;SKIN;DISH;EYE;SPEAR;ARROW;STONE;SPIRIT;TRACK;GRAIN;CAVE;STAND;BAMBOO;
RICE;SILK;JAR;NET;SHEEP;FEATHER;OLD;AND;PLOW;EAR;BRUSH;MEAT;MINISTER;SELF;ARRIVE;MORTAR;TONGUE;
OPPOSE;BOAT;STOPPING;COLOR;GRASS;TIGER;INSECT;BLOOD;WALK ENCLOSURE;CLOTHES;WEST;SEE;HORN;SPEECH;
VALLEY;BEAN;PIG;BADGER;SHELL;RED;RUN;FOOT;BODY;CART;BITTER;MORNING;WALK;CITY;WINE;DISTINGUISH;
VILLAGE;GOLD;LONG;GATE;MOUND;SLAVE;SHORT TAILED BIRD;RAIN;BLUE;WRONG;FACE;LEATHER;TANNED LEATHER;
LEEK;SOUND;LEAF;WIND;FLY;EAT;HEAD;FRAGRANT;HORSE;BONE;TALL;HAIR;FIGHT;SACRIFICIAL WINE;CAULDRON;
GHOST;FISH;BIRD;SALT;DEER;WHEAT;HEMP;YELLOW;MILLET;BLACK;EMBROIDERY;FROG;TRIPOD;DRUM;RAT;NOSE;EVEN;
TOOTH;DRAGON;TURTLE;FLUTE.2FF0=IDEOGRAPHIC DESCRIPTION CHARACTER :LEFT TO RIGHT;ABOVE TO BELOW;
LEFT TO MIDDLE AND RIGHT;ABOVE TO MIDDLE AND BELOW;FULL SURROUND;SURROUND FROM ABOVE;
SURROUND FROM BELOW;SURROUND FROM LEFT;SURROUND FROM UPPER LEFT;SURROUND FROM UPPER RIGHT;
SURROUND FROM LOWER LEFT;OVERLAID.3000=IDEOGRAPHIC :SPACE;COMMA;FULL STOP.3003=:DITTO MARK;
JAPANESE INDUSTRIAL STANDARD SYMBOL.3005=IDEOGRAPHIC :ITERATION MARK;CLOSING MARK;NUMBER ZERO.
3008=:LEFT ANGLE BRACKET;RIGHT ANGLE BRACKET;LEFT DOUBLE ANGLE BRACKET;RIGHT DOUBLE ANGLE BRACKET;
LEFT CORNER BRACKET;RIGHT CORNER BRACKET;LEFT WHITE CORNER BRACKET;RIGHT WHITE CORNER BRACKET;
LEFT BLACK LENTICULAR BRACKET;RIGHT BLACK LENTICULAR BRACKET;POSTAL MARK;GETA MARK;
LEFT TORTOISE SHELL BRACKET;RIGHT TORTOISE SHELL BRACKET;LEFT WHITE LENTICULAR BRACKET;
RIGHT WHITE LENTICULAR BRACKET;LEFT WHITE TORTOISE SHELL BRACKET;
RIGHT WHITE TORTOISE SHELL BRACKET;LEFT WHITE SQUARE BRACKET;RIGHT WHITE SQUARE BRACKET;WAVE DASH;
REVERSED DOUBLE PRIME QUOTATION MARK;DOUBLE PRIME QUOTATION MARK;LOW DOUBLE PRIME QUOTATION MARK;
POSTAL MARK FACE.3021=HANGZHOU NUMERAL :ONE;TWO;THREE;FOUR;FIVE;SIX;SEVEN;EIGHT;NINE.
302A=IDEOGRAPHIC :LEVEL TONE MARK;RISING TONE MARK;DEPARTING TONE MARK;ENTERING TONE MARK.302E=:
HANGUL SINGLE DOT TONE MARK;HANGUL DOUBLE DOT TONE MARK;WAVY DASH.3031=VERTICAL KANA REPEAT :MARK;
WITH VOICED SOUND MARK;MARK UPPER HALF;WITH VOICED SOUND MARK UPPER HALF;MARK LOWER HALF.3036=:
CIRCLED POSTAL MARK;IDEOGRAPHIC TELEGRAPH LINE FEED SEPARATOR SYMBOL.3038=HANGZHOU NUMERAL :TEN;
TWENTY;THIRTY.303B=:VERTICAL IDEOGRAPHIC ITERATION MARK;MASU MARK;PART ALTERNATION MARK.
303E=IDEOGRAPHIC :VARIATION INDICATOR;HALF FILL SPACE.3041=HIRAGANA LETTER :SMALL A;A;SMALL I;I;
SMALL U;U;SMALL E;E;SMALL O;O;KA;GA;KI;GI;KU;GU;KE;GE;KO;GO;SA;ZA;SI;ZI;SU;ZU;SE;ZE;SO;ZO;TA;DA;TI;
DI;SMALL TU;TU;DU;TE;DE;TO;DO;NA;NI;NU;NE;NO;HA;BA;PA;HI;BI;PI;HU;BU;PU;HE;BE;PE;HO;BO;PO;MA;MI;MU;
ME;MO;SMALL YA;YA;SMALL YU;YU;SMALL YO;YO;RA;RI;RU;RE;RO;SMALL WA;WA;WI;WE;WO;N;VU;SMALL KA;
SMALL KE.3099=COMBINING KATAKANA-HIRAGANA :VOICED SOUND MARK;SEMI-VOICED SOUND MARK.
309B=KATAKANA-HIRAGANA :VOICED SOUND MARK;SEMI-VOICED SOUND MARK.309D=HIRAGANA :ITERATION MARK;
VOICED ITERATION MARK;DIGRAPH YORI.30A0=:KATAKANA-HIRAGANA DOUBLE HYPHEN.30A1=KATAKANA LETTER :
SMALL A;A;SMALL I;I;SMALL U;U;SMALL E;E;SMALL O;O;KA;GA;KI;GI;KU;GU;KE;GE;KO;GO;SA;ZA;SI;ZI;SU;ZU;
SE;ZE;SO;ZO;TA;DA;TI;DI;SMALL TU;TU;DU;TE;DE;TO;DO;NA;NI;NU;NE;NO;HA;BA;PA;HI;BI;PI;HU;BU;PU;HE;BE;
PE;HO;BO;PO;MA;MI;MU;ME;MO;SMALL YA;YA;SMALL YU;YU;SMALL YO;YO;RA;RI;RU;RE;RO;SMALL WA;WA;WI;WE;WO;
N;VU;SMALL KA;SMALL KE;VA;VI;VE;VO.30FB=:KATAKANA MIDDLE DOT;
KATAKANA-HIRAGANA PROLONGED SOUND MARK.30FD=KATAKANA :ITERATION MARK;VOICED ITERATION MARK;
DIGRAPH KOTO.3105=BOPOMOFO LETTER :B;P;M;F;D;T;N;L;G;K;H;J;Q;X;ZH;CH;SH;R;Z;C;S;A;O;E;EH;AI;EI;AU;
OU;AN;EN;ANG;ENG;ER;I;U;IU;V;NG;GN;IH;O WITH DOT ABOVE;NN.3131=HANGUL LETTER :KIYEOK;SSANGKIYEOK;
KIYEOK-SIOS;NIEUN;NIEUN-CIEUC;NIEUN-HIEUH;TIKEUT;SSANGTIKEUT;RIEUL;RIEUL-KIYEOK;RIEUL-MIEUM;
RIEUL-PIEUP;RIEUL-SIOS;RIEUL-THIEUTH;RIEUL-PHIEUPH;RIEUL-HIEUH;MIEUM;PIEUP;SSANGPIEUP;PIEUP-SIOS;
SIOS;SSANGSIOS;IEUNG;CIEUC;SSANGCIEUC;CHIEUCH;KHIEUKH;THIEUTH;PHIEUPH;HIEUH;A;AE;YA;YAE;EO;E;YEO;
YE;O;WA;WAE;OE;YO;U;WEO;WE;WI;YU;EU;YI;I.3164=HANGUL :FILLER;LETTER SSANGNIEUN;LETTER NIEUN-TIKEUT;
LETTER NIEUN-SIOS;LETTER NIEUN-PANSIOS;LETTER RIEUL-KIYEOK-SIOS;LETTER RIEUL-TIKEUT;
LETTER RIEUL-PIEUP-SIOS;LETTER RIEUL-PANSIOS;LETTER RIEUL-YEORINHIEUH;LETTER MIEUM-PIEUP;
LETTER MIEUM-SIOS;LETTER MIEUM-PANSIOS;LETTER KAPYEOUNMIEUM;LETTER PIEUP-KIYEOK;
LETTER PIEUP-TIKEUT;LETTER PIEUP-SIOS-KIYEOK;LETTER PIEUP-SIOS-TIKEUT;LETTER PIEUP-CIEUC;
LETTER PIEUP-THIEUTH;LETTER KAPYEOUNPIEUP;LETTER KAPYEOUNSSANGPIEUP;LETTER SIOS-KIYEOK;
LETTER SIOS-NIEUN;LETTER SIOS-TIKEUT;LETTER SIOS-PIEUP;LETTER SIOS-CIEUC;LETTER PANSIOS;
LETTER SSANGIEUNG;LETTER YESIEUNG;LETTER YESIEUNG-SIOS;LETTER YESIEUNG-PANSIOS;
LETTER KAPYEOUNPHIEUPH;LETTER SSANGHIEUH;LETTER YEORINHIEUH;LETTER YO-YA;LETTER YO-YAE;LETTER YO-I;
LETTER YU-YEO;LETTER YU-YE;LETTER YU-I;LETTER ARAEA;LETTER ARAEAE.3190=IDEOGRAPHIC ANNOTATION :
LINKING MARK;REVERSE MARK;ONE MARK;TWO MARK;THREE MARK;FOUR MARK;TOP MARK;MIDDLE MARK;BOTTOM MARK;
FIRST MARK;SECOND MARK;THIRD MARK;FOURTH MARK;HEAVEN MARK;EARTH MARK;MAN MARK.
31A0=BOPOMOFO LETTER :BU;ZI;JI;GU;EE;ENN;OO;ONN;IR;ANN;INN;UNN;IM;NGG;AINN;AUNN;AM;OM;ONG;INNN.
31B4=BOPOMOFO :FINAL LETTER P;FINAL LETTER T;FINAL LETTER K;FINAL LETTER H;LETTER GH;LETTER LH;
LETTER ZY;FINAL LETTER G;LETTER GW;LETTER KW;LETTER OE;LETTER AH.31C0=CJK STROKE :T;WG;XG;BXG;SW;
HZZ;HZG;HP;HZWG;SZWG;HZT;HZZP;HPWG;HZW;HZZZ;N;H;S;P;SP;D;HZ;HG;SZ;SWZ;ST;SG;PD;PZ;TN;SZZ;SWG;HXWG;
HZZZG;PG;Q.31F0=KATAKANA LETTER SMALL :KU;SI;SU;TO;NU;HA;HI;HU;HE;HO;MU;RA;RI;RU;RE;RO.
3200=PARENTHESIZED HANGUL :KIYEOK;NIEUN;TIKEUT;RIEUL;MIEUM;PIEUP;SIOS;IEUNG;CIEUC;CHIEUCH;KHIEUKH;
THIEUTH;PHIEUPH;HIEUH;KIYEOK A;NIEUN A;TIKEUT A;RIEUL A;MIEUM A;PIEUP A;SIOS A;IEUNG A;CIEUC A;
CHIEUCH A;KHIEUKH A;THIEUTH A;PHIEUPH A;HIEUH A;CIEUC U.321D=PARENTHESIZED KOREAN CHARACTER :OJEON;
O HU.3220=PARENTHESIZED IDEOGRAPH :ONE;TWO;THREE;FOUR;FIVE;SIX;SEVEN;EIGHT;NINE;TEN;MOON;FIRE;
WATER;WOOD;METAL;EARTH;SUN;STOCK;HAVE;SOCIETY;NAME;SPECIAL;FINANCIAL;CONGRATULATION;LABOR;
REPRESENT;CALL;STUDY;SUPERVISE;ENTERPRISE;RESOURCE;ALLIANCE;FESTIVAL;REST;SELF;REACH.3244=CIRCLED :
IDEOGRAPH QUESTION;IDEOGRAPH KINDERGARTEN;IDEOGRAPH SCHOOL;IDEOGRAPH KOTO;
NUMBER TEN ON BLACK SQUARE;NUMBER TWENTY ON BLACK SQUARE;NUMBER THIRTY ON BLACK SQUARE;
NUMBER FORTY ON BLACK SQUARE;NUMBER FIFTY ON BLACK SQUARE;NUMBER SIXTY ON BLACK SQUARE;
NUMBER SEVENTY ON BLACK SQUARE;NUMBER EIGHTY ON BLACK SQUARE.3250=:PARTNERSHIP SIGN.3251=CIRCLED :
NUMBER TWENTY ONE;NUMBER TWENTY TWO;NUMBER TWENTY THREE;NUMBER TWENTY FOUR;NUMBER TWENTY FIVE;
NUMBER TWENTY SIX;NUMBER TWENTY SEVEN;NUMBER TWENTY EIGHT;NUMBER TWENTY NINE;NUMBER THIRTY;
NUMBER THIRTY ONE;NUMBER THIRTY TWO;NUMBER THIRTY THREE;NUMBER THIRTY FOUR;NUMBER THIRTY FIVE;
HANGUL KIYEOK;HANGUL NIEUN;HANGUL TIKEUT;HANGUL RIEUL;HANGUL MIEUM;HANGUL PIEUP;HANGUL SIOS;
HANGUL IEUNG;HANGUL CIEUC;HANGUL CHIEUCH;HANGUL KHIEUKH;HANGUL THIEUTH;HANGUL PHIEUPH;HANGUL HIEUH;
HANGUL KIYEOK A;HANGUL NIEUN A;HANGUL TIKEUT A;HANGUL RIEUL A;HANGUL MIEUM A;HANGUL PIEUP A;
HANGUL SIOS A;HANGUL IEUNG A;HANGUL CIEUC A;HANGUL CHIEUCH A;HANGUL KHIEUKH A;HANGUL THIEUTH A;
HANGUL PHIEUPH A;HANGUL HIEUH A;KOREAN CHARACTER CHAMKO;KOREAN CHARACTER JUEUI;HANGUL IEUNG U.
327F=:KOREAN STANDARD SYMBOL.3280=CIRCLED IDEOGRAPH :ONE;TWO;THREE;FOUR;FIVE;SIX;SEVEN;EIGHT;NINE;
TEN;MOON;FIRE;WATER;WOOD;METAL;EARTH;SUN;STOCK;HAVE;SOCIETY;NAME;SPECIAL;FINANCIAL;CONGRATULATION;
LABOR;SECRET;MALE;FEMALE;SUITABLE;EXCELLENT;PRINT;ATTENTION;ITEM;REST;COPY;CORRECT;HIGH;CENTRE;LOW;
LEFT;RIGHT;MEDICINE;RELIGION;STUDY;SUPERVISE;ENTERPRISE;RESOURCE;ALLIANCE;NIGHT.
32B1=CIRCLED NUMBER :THIRTY SIX;THIRTY SEVEN;THIRTY EIGHT;THIRTY NINE;FORTY;FORTY ONE;FORTY TWO;
FORTY THREE;FORTY FOUR;FORTY FIVE;FORTY SIX;FORTY SEVEN;FORTY EIGHT;FORTY NINE;FIFTY.
32C0=IDEOGRAPHIC TELEGRAPH SYMBOL FOR :JANUARY;FEBRUARY;MARCH;APRIL;MAY;JUNE;JULY;AUGUST;SEPTEMBER;
OCTOBER;NOVEMBER;DECEMBER.32CC=SQUARE :HG;ERG;EV.32CF=:LIMITED LIABILITY SIGN.
32D0=CIRCLED KATAKANA :A;I;U;E;O;KA;KI;KU;KE;KO;SA;SI;SU;SE;SO;TA;TI;TU;TE;TO;NA;NI;NU;NE;NO;HA;HI;
HU;HE;HO;MA;MI;MU;ME;MO;YA;YU;YO;RA;RI;RU;RE;RO;WA;WI;WE;WO.32FF=SQUARE :ERA NAME REIWA;APAATO;
ARUHUA;ANPEA;AARU;ININGU;INTI;UON;ESUKUUDO;EEKAA;ONSU;OOMU;KAIRI;KARATTO;KARORII;GARON;GANMA;GIGA;
GINII;KYURII;GIRUDAA;KIRO;KIROGURAMU;KIROMEETORU;KIROWATTO;GURAMU;GURAMUTON;KURUZEIRO;KUROONE;
KEESU;KORUNA;KOOPO;SAIKURU;SANTIIMU;SIRINGU;SENTI;SENTO;DAASU;DESI;DORU;TON;NANO;NOTTO;HAITU;
PAASENTO;PAATU;BAARERU;PIASUTORU;PIKURU;PIKO;BIRU;HUARADDO;HUIITO;BUSSYERU;HURAN;HEKUTAARU;PESO;
PENIHI;HERUTU;PENSU;PEEZI;BEETA;POINTO;BORUTO;HON;PONDO;HOORU;HOON;MAIKURO;MAIRU;MAHHA;MARUKU;
MANSYON;MIKURON;MIRI;MIRIBAARU;MEGA;MEGATON;MEETORU;YAADO;YAARU;YUAN;RITTORU;RIRA;RUPII;RUUBURU;
REMU;RENTOGEN;WATTO.3358=IDEOGRAPHIC TELEGRAPH SYMBOL FOR HOUR :ZERO;ONE;TWO;THREE;FOUR;FIVE;SIX;
SEVEN;EIGHT;NINE;TEN;ELEVEN;TWELVE;THIRTEEN;FOURTEEN;FIFTEEN;SIXTEEN;SEVENTEEN;EIGHTEEN;NINETEEN;
TWENTY;TWENTY-ONE;TWENTY-TWO;TWENTY-THREE;TWENTY-FOUR.3371=SQUARE :HPA;DA;AU;BAR;OV;PC;DM;
DM SQUARED;DM CUBED;IU;ERA NAME HEISEI;ERA NAME SYOUWA;ERA NAME TAISYOU;ERA NAME MEIZI;CORPORATION;
PA AMPS;NA;MU A;MA;KA;KB;MB;GB;CAL;KCAL;PF;NF;MU F;MU G;MG;KG;HZ;KHZ;MHZ;GHZ;THZ;MU L;ML;DL;KL;FM;
NM;MU M;MM;CM;KM;MM SQUARED;CM SQUARED;M SQUARED;KM SQUARED;MM CUBED;CM CUBED;M CUBED;KM CUBED;
M OVER S;M OVER S SQUARED;PA;KPA;MPA;GPA;RAD;RAD OVER S;RAD OVER S SQUARED;PS;NS;MU S;MS;PV;NV;
MU V;MV;KV;MV MEGA;PW;NW;MU W;MW;KW;MW MEGA;K OHM;M OHM;AM;BQ;CC;CD;C OVER KG;CO;DB;GY;HA;HP;IN;KK;
KM CAPITAL;KT;LM;LN;LOG;LX;MB SMALL;MIL;MOL;PH;PM;PPM;PR;SR;SV;WB;V OVER M;A OVER M.
33E0=IDEOGRAPHIC TELEGRAPH SYMBOL FOR DAY :ONE;TWO;THREE;FOUR;FIVE;SIX;SEVEN;EIGHT;NINE;TEN;ELEVEN;
TWELVE;THIRTEEN;FOURTEEN;FIFTEEN;SIXTEEN;SEVENTEEN;EIGHTEEN;NINETEEN;TWENTY;TWENTY-ONE;TWENTY-TWO;
TWENTY-THREE;TWENTY-FOUR;TWENTY-FIVE;TWENTY-SIX;TWENTY-SEVEN;TWENTY-EIGHT;TWENTY-NINE;THIRTY;
THIRTY-ONE.33FF=:SQUARE GAL.4DC0=HEXAGRAM FOR :THE CREATIVE HEAVEN;THE RECEPTIVE EARTH;
DIFFICULTY AT THE BEGINNING;YOUTHFUL FOLLY;WAITING;CONFLICT;THE ARMY;HOLDING TOGETHER;SMALL TAMING;
TREADING;PEACE;STANDSTILL;FELLOWSHIP;GREAT POSSESSION;MODESTY;ENTHUSIASM;FOLLOWING;
WORK ON THE DECAYED;APPROACH;CONTEMPLATION;BITING THROUGH;GRACE;SPLITTING APART;RETURN;INNOCENCE;
GREAT TAMING;MOUTH CORNERS;GREAT PREPONDERANCE;THE ABYSMAL WATER;THE CLINGING FIRE;INFLUENCE;
DURATION;RETREAT;GREAT POWER;PROGRESS;DARKENING OF THE LIGHT;THE FAMILY;OPPOSITION;OBSTRUCTION;
DELIVERANCE;DECREASE;INCREASE;BREAKTHROUGH;COMING TO MEET;GATHERING TOGETHER;PUSHING UPWARD;
OPPRESSION;THE WELL;REVOLUTION;THE CAULDRON;THE AROUSING THUNDER;THE KEEPING STILL MOUNTAIN;
DEVELOPMENT;THE MARRYING MAIDEN;ABUNDANCE;THE WANDERER;THE GENTLE WIND;THE JOYOUS LAKE;DISPERSION;
LIMITATION;INNER TRUTH;SMALL PREPONDERANCE;AFTER COMPLETION;BEFORE COMPLETION.A000=YI SYLLABLE :IT;
IX;I;IP;IET;IEX;IE;IEP;AT;AX;A;AP;UOX;UO;UOP;OT;OX;O;OP;EX;E;WU;BIT;BIX;BI;BIP;BIET;BIEX;BIE;BIEP;
BAT;BAX;BA;BAP;BUOX;BUO;BUOP;BOT;BOX;BO;BOP;BEX;BE;BEP;BUT;BUX;BU;BUP;BURX;BUR;BYT;BYX;BY;BYP;BYRX;
BYR;PIT;PIX;PI;PIP;PIEX;PIE;PIEP;PAT;PAX;PA;PAP;PUOX;PUO;PUOP;POT;POX;PO;POP;PUT;PUX;PU;PUP;PURX;
PUR;PYT;PYX;PY;PYP;PYRX;PYR;BBIT;BBIX;BBI;BBIP;BBIET;BBIEX;BBIE;BBIEP;BBAT;BBAX;BBA;BBAP;BBUOX;
BBUO;BBUOP;BBOT;BBOX;BBO;BBOP;BBEX;BBE;BBEP;BBUT;BBUX;BBU;BBUP;BBURX;BBUR;BBYT;BBYX;BBY;BBYP;NBIT;
NBIX;NBI;NBIP;NBIEX;NBIE;NBIEP;NBAT;NBAX;NBA;NBAP;NBOT;NBOX;NBO;NBOP;NBUT;NBUX;NBU;NBUP;NBURX;NBUR;
NBYT;NBYX;NBY;NBYP;NBYRX;NBYR;HMIT;HMIX;HMI;HMIP;HMIEX;HMIE;HMIEP;HMAT;HMAX;HMA;HMAP;HMUOX;HMUO;
HMUOP;HMOT;HMOX;HMO;HMOP;HMUT;HMUX;HMU;HMUP;HMURX;HMUR;HMYX;HMY;HMYP;HMYRX;HMYR;MIT;MIX;MI;MIP;
MIEX;MIE;MIEP;MAT;MAX;MA;MAP;MUOT;MUOX;MUO;MUOP;MOT;MOX;MO;MOP;MEX;ME;MUT;MUX;MU;MUP;MURX;MUR;MYT;
MYX;MY;MYP;FIT;FIX;FI;FIP;FAT;FAX;FA;FAP;FOX;FO;FOP;FUT;FUX;FU;FUP;FURX;FUR;FYT;FYX;FY;FYP;VIT;VIX;
VI;VIP;VIET;VIEX;VIE;VIEP;VAT;VAX;VA;VAP;VOT;VOX;VO;VOP;VEX;VEP;VUT;VUX;VU;VUP;VURX;VUR;VYT;VYX;VY;
VYP;VYRX;VYR;DIT;DIX;DI;DIP;DIEX;DIE;DIEP;DAT;DAX;DA;DAP;DUOX;DUO;DOT;DOX;DO;DOP;DEX;DE;DEP;DUT;
DUX;DU;DUP;DURX;DUR;TIT;TIX;TI;TIP;TIEX;TIE;TIEP;TAT;TAX;TA;TAP;TUOT;TUOX;TUO;TUOP;TOT;TOX;TO;TOP;
TEX;TE;TEP;TUT;TUX;TU;TUP;TURX;TUR;DDIT;DDIX;DDI;DDIP;DDIEX;DDIE;DDIEP;DDAT;DDAX;DDA;DDAP;DDUOX;
DDUO;DDUOP;DDOT;DDOX;DDO;DDOP;DDEX;DDE;DDEP;DDUT;DDUX;DDU;DDUP;DDURX;DDUR;NDIT;NDIX;NDI;NDIP;NDIEX;
NDIE;NDAT;NDAX;NDA;NDAP;NDOT;NDOX;NDO;NDOP;NDEX;NDE;NDEP;NDUT;NDUX;NDU;NDUP;NDURX;NDUR;HNIT;HNIX;
HNI;HNIP;HNIET;HNIEX;HNIE;HNIEP;HNAT;HNAX;HNA;HNAP;HNUOX;HNUO;HNOT;HNOX;HNOP;HNEX;HNE;HNEP;HNUT;
NIT;NIX;NI;NIP;NIEX;NIE;NIEP;NAX;NA;NAP;NUOX;NUO;NUOP;NOT;NOX;NO;NOP;NEX;NE;NEP;NUT;NUX;NU;NUP;
NURX;NUR;HLIT;HLIX;HLI;HLIP;HLIEX;HLIE;HLIEP;HLAT;HLAX;HLA;HLAP;HLUOX;HLUO;HLUOP;HLOX;HLO;HLOP;
HLEX;HLE;HLEP;HLUT;HLUX;HLU;HLUP;HLURX;HLUR;HLYT;HLYX;HLY;HLYP;HLYRX;HLYR;LIT;LIX;LI;LIP;LIET;LIEX;
LIE;LIEP;LAT;LAX;LA;LAP;LUOT;LUOX;LUO;LUOP;LOT;LOX;LO;LOP;LEX;LE;LEP;LUT;LUX;LU;LUP;LURX;LUR;LYT;
LYX;LY;LYP;LYRX;LYR;GIT;GIX;GI;GIP;GIET;GIEX;GIE;GIEP;GAT;GAX;GA;GAP;GUOT;GUOX;GUO;GUOP;GOT;GOX;GO;
GOP;GET;GEX;GE;GEP;GUT;GUX;GU;GUP;GURX;GUR;KIT;KIX;KI;KIP;KIEX;KIE;KIEP;KAT;KAX;KA;KAP;KUOX;KUO;
KUOP;KOT;KOX;KO;KOP;KET;KEX;KE;KEP;KUT;KUX;KU;KUP;KURX;KUR;GGIT;GGIX;GGI;GGIEX;GGIE;GGIEP;GGAT;
GGAX;GGA;GGAP;GGUOT;GGUOX;GGUO;GGUOP;GGOT;GGOX;GGO;GGOP;GGET;GGEX;GGE;GGEP;GGUT;GGUX;GGU;GGUP;
GGURX;GGUR;MGIEX;MGIE;MGAT;MGAX;MGA;MGAP;MGUOX;MGUO;MGUOP;MGOT;MGOX;MGO;MGOP;MGEX;MGE;MGEP;MGUT;
MGUX;MGU;MGUP;MGURX;MGUR;HXIT;HXIX;HXI;HXIP;HXIET;HXIEX;HXIE;HXIEP;HXAT;HXAX;HXA;HXAP;HXUOT;HXUOX;
HXUO;HXUOP;HXOT;HXOX;HXO;HXOP;HXEX;HXE;HXEP;NGIEX;NGIE;NGIEP;NGAT;NGAX;NGA;NGAP;NGUOT;NGUOX;NGUO;
NGOT;NGOX;NGO;NGOP;NGEX;NGE;NGEP;HIT;HIEX;HIE;HAT;HAX;HA;HAP;HUOT;HUOX;HUO;HUOP;HOT;HOX;HO;HOP;HEX;
HE;HEP;WAT;WAX;WA;WAP;WUOX;WUO;WUOP;WOX;WO;WOP;WEX;WE;WEP;ZIT;ZIX;ZI;ZIP;ZIEX;ZIE;ZIEP;ZAT;ZAX;ZA;
ZAP;ZUOX;ZUO;ZUOP;ZOT;ZOX;ZO;ZOP;ZEX;ZE;ZEP;ZUT;ZUX;ZU;ZUP;ZURX;ZUR;ZYT;ZYX;ZY;ZYP;ZYRX;ZYR;CIT;
CIX;CI;CIP;CIET;CIEX;CIE;CIEP;CAT;CAX;CA;CAP;CUOX;CUO;CUOP;COT;COX;CO;COP;CEX;CE;CEP;CUT;CUX;CU;
CUP;CURX;CUR;CYT;CYX;CY;CYP;CYRX;CYR;ZZIT;ZZIX;ZZI;ZZIP;ZZIET;ZZIEX;ZZIE;ZZIEP;ZZAT;ZZAX;ZZA;ZZAP;
ZZOX;ZZO;ZZOP;ZZEX;ZZE;ZZEP;ZZUX;ZZU;ZZUP;ZZURX;ZZUR;ZZYT;ZZYX;ZZY;ZZYP;ZZYRX;ZZYR;NZIT;NZIX;NZI;
NZIP;NZIEX;NZIE;NZIEP;NZAT;NZAX;NZA;NZAP;NZUOX;NZUO;NZOX;NZOP;NZEX;NZE;NZUX;NZU;NZUP;NZURX;NZUR;
NZYT;NZYX;NZY;NZYP;NZYRX;NZYR;SIT;SIX;SI;SIP;SIEX;SIE;SIEP;SAT;SAX;SA;SAP;SUOX;SUO;SUOP;SOT;SOX;SO;
SOP;SEX;SE;SEP;SUT;SUX;SU;SUP;SURX;SUR;SYT;SYX;SY;SYP;SYRX;SYR;SSIT;SSIX;SSI;SSIP;SSIEX;SSIE;SSIEP;
SSAT;SSAX;SSA;SSAP;SSOT;SSOX;SSO;SSOP;SSEX;SSE;SSEP;SSUT;SSUX;SSU;SSUP;SSYT;SSYX;SSY;SSYP;SSYRX;
SSYR;ZHAT;ZHAX;ZHA;ZHAP;ZHUOX;ZHUO;ZHUOP;ZHOT;ZHOX;ZHO;ZHOP;ZHET;ZHEX;ZHE;ZHEP;ZHUT;ZHUX;ZHU;ZHUP;
ZHURX;ZHUR;ZHYT;ZHYX;ZHY;ZHYP;ZHYRX;ZHYR;CHAT;CHAX;CHA;CHAP;CHUOT;CHUOX;CHUO;CHUOP;CHOT;CHOX;CHO;
CHOP;CHET;CHEX;CHE;CHEP;CHUX;CHU;CHUP;CHURX;CHUR;CHYT;CHYX;CHY;CHYP;CHYRX;CHYR;RRAX;RRA;RRUOX;RRUO;
RROT;RROX;RRO;RROP;RRET;RREX;RRE;RREP;RRUT;RRUX;RRU;RRUP;RRURX;RRUR;RRYT;RRYX;RRY;RRYP;RRYRX;RRYR;
NRAT;NRAX;NRA;NRAP;NROX;NRO;NROP;NRET;NREX;NRE;NREP;NRUT;NRUX;NRU;NRUP;NRURX;NRUR;NRYT;NRYX;NRY;
NRYP;NRYRX;NRYR;SHAT;SHAX;SHA;SHAP;SHUOX;SHUO;SHUOP;SHOT;SHOX;SHO;SHOP;SHET;SHEX;SHE;SHEP;SHUT;
SHUX;SHU;SHUP;SHURX;SHUR;SHYT;SHYX;SHY;SHYP;SHYRX;SHYR;RAT;RAX;RA;RAP;RUOX;RUO;RUOP;ROT;ROX;RO;ROP;
REX;RE;REP;RUT;RUX;RU;RUP;RURX;RUR;RYT;RYX;RY;RYP;RYRX;RYR;JIT;JIX;JI;JIP;JIET;JIEX;JIE;JIEP;JUOT;
JUOX;JUO;JUOP;JOT;JOX;JO;JOP;JUT;JUX;JU;JUP;JURX;JUR;JYT;JYX;JY;JYP;JYRX;JYR;QIT;QIX;QI;QIP;QIET;
QIEX;QIE;QIEP;QUOT;QUOX;QUO;QUOP;QOT;QOX;QO;QOP;QUT;QUX;QU;QUP;QURX;QUR;QYT;QYX;QY;QYP;QYRX;QYR;
JJIT;JJIX;JJI;JJIP;JJIET;JJIEX;JJIE;JJIEP;JJUOX;JJUO;JJUOP;JJOT;JJOX;JJO;JJOP;JJUT;JJUX;JJU;JJUP;
JJURX;JJUR;JJYT;JJYX;JJY;JJYP;NJIT;NJIX;NJI;NJIP;NJIET;NJIEX;NJIE;NJIEP;NJUOX;NJUO;NJOT;NJOX;NJO;
NJOP;NJUX;NJU;NJUP;NJURX;NJUR;NJYT;NJYX;NJY;NJYP;NJYRX;NJYR;NYIT;NYIX;NYI;NYIP;NYIET;NYIEX;NYIE;
NYIEP;NYUOX;NYUO;NYUOP;NYOT;NYOX;NYO;NYOP;NYUT;NYUX;NYU;NYUP;XIT;XIX;XI;XIP;XIET;XIEX;XIE;XIEP;
XUOX;XUO;XOT;XOX;XO;XOP;XYT;XYX;XY;XYP;XYRX;XYR;YIT;YIX;YI;YIP;YIET;YIEX;YIE;YIEP;YUOT;YUOX;YUO;
YUOP;YOT;YOX;YO;YOP;YUT;YUX;YU;YUP;YURX;YUR;YYT;YYX;YY;YYP;YYRX;YYR.A490=YI RADICAL :QOT;LI;KIT;
NYIP;CYP;SSI;GGOP;GEP;MI;HXIT;LYR;BBUT;MOP;YO;PUT;HXUO;TAT;GA;ZUP;CYT;DDUR;BUR;GGUO;NYOP;TU;OP;
JJUT;ZOT;PYT;HMO;YIT;VUR;SHY;VEP;ZA;JO;NZUP;JJY;GOT;JJIE;WO;DU;SHUR;LIE;CY;CUOP;CIP;HXOP;SHAT;ZUR;
SHOP;CHE;ZZIET;NBIE;KE.A4D0=LISU LETTER :BA;PA;PHA;DA;TA;THA;GA;KA;KHA;JA;CA;CHA;DZA;TSA;TSHA;MA;
NA;LA;SA;ZHA;ZA;NGA;HA;XA;HHA;FA;WA;SHA;YA;GHA;A;AE;E;EU;I;O;U;UE;UH;OE;TONE MYA TI;TONE NA PO;
TONE MYA CYA;TONE MYA BO;TONE MYA NA;TONE MYA JEU.A4FE=LISU PUNCTUATION :COMMA;FULL STOP.
A500=VAI SYLLABLE :EE;EEN;HEE;WEE;WEEN;PEE;BHEE;BEE;MBEE;KPEE;MGBEE;GBEE;FEE;VEE;TEE;THEE;DHEE;
DHHEE;LEE;REE;DEE;NDEE;SEE;SHEE;ZEE;ZHEE;CEE;JEE;NJEE;YEE;KEE;NGGEE;GEE;MEE;NEE;NYEE;I;IN;HI;HIN;
WI;WIN;PI;BHI;BI;MBI;KPI;MGBI;GBI;FI;VI;TI;THI;DHI;DHHI;LI;RI;DI;NDI;SI;SHI;ZI;ZHI;CI;JI;NJI;YI;KI;
NGGI;GI;MI;NI;NYI;A;AN;NGAN;HA;HAN;WA;WAN;PA;BHA;BA;MBA;KPA;KPAN;MGBA;GBA;FA;VA;TA;THA;DHA;DHHA;LA;
RA;DA;NDA;SA;SHA;ZA;ZHA;CA;JA;NJA;YA;KA;KAN;NGGA;GA;MA;NA;NYA;OO;OON;HOO;WOO;WOON;POO;BHOO;BOO;
MBOO;KPOO;MGBOO;GBOO;FOO;VOO;TOO;THOO;DHOO;DHHOO;LOO;ROO;DOO;NDOO;SOO;SHOO;ZOO;ZHOO;COO;JOO;NJOO;
YOO;KOO;NGGOO;GOO;MOO;NOO;NYOO;U;UN;HU;HUN;WU;WUN;PU;BHU;BU;MBU;KPU;MGBU;GBU;FU;VU;TU;THU;DHU;DHHU;
LU;RU;DU;NDU;SU;SHU;ZU;ZHU;CU;JU;NJU;YU;KU;NGGU;GU;MU;NU;NYU;O;ON;NGON;HO;HON;WO;WON;PO;BHO;BO;MBO;
KPO;MGBO;GBO;GBON;FO;VO;TO;THO;DHO;DHHO;LO;RO;DO;NDO;SO;SHO;ZO;ZHO;CO;JO;NJO;YO;KO;NGGO;GO;MO;NO;
NYO;E;EN;NGEN;HE;HEN;WE;WEN;PE;BHE;BE;MBE;KPE;KPEN;MGBE;GBE;GBEN;FE;VE;TE;THE;DHE;DHHE;LE;RE;DE;
NDE;SE;SHE;ZE;ZHE;CE;JE;NJE;YE;KE;NGGE;NGGEN;GE;GEN;ME;NE;NYE;NG;LENGTHENER.A60D=VAI :COMMA;
FULL STOP;QUESTION MARK;SYLLABLE NDOLE FA;SYLLABLE NDOLE KA;SYLLABLE NDOLE SOO;SYMBOL FEENG;
SYMBOL KEENG;SYMBOL TING;SYMBOL NII;SYMBOL BANG;SYMBOL FAA;SYMBOL TAA;SYMBOL DANG;SYMBOL DOONG;
SYMBOL KUNG;SYMBOL TONG;SYMBOL DO-O;SYMBOL JONG;DIGIT ZERO;DIGIT ONE;DIGIT TWO;DIGIT THREE;
DIGIT FOUR;DIGIT FIVE;DIGIT SIX;DIGIT SEVEN;DIGIT EIGHT;DIGIT NINE;SYLLABLE NDOLE MA;
SYLLABLE NDOLE DO.A640=CYRILLIC :CAPITAL LETTER ZEMLYA;SMALL LETTER ZEMLYA;CAPITAL LETTER DZELO;
SMALL LETTER DZELO;CAPITAL LETTER REVERSED DZE;SMALL LETTER REVERSED DZE;CAPITAL LETTER IOTA;
SMALL LETTER IOTA;CAPITAL LETTER DJERV;SMALL LETTER DJERV;CAPITAL LETTER MONOGRAPH UK;
SMALL LETTER MONOGRAPH UK;CAPITAL LETTER BROAD OMEGA;SMALL LETTER BROAD OMEGA;
CAPITAL LETTER NEUTRAL YER;SMALL LETTER NEUTRAL YER;CAPITAL LETTER YERU WITH BACK YER;
SMALL LETTER YERU WITH BACK YER;CAPITAL LETTER IOTIFIED YAT;SMALL LETTER IOTIFIED YAT;
CAPITAL LETTER REVERSED YU;SMALL LETTER REVERSED YU;CAPITAL LETTER IOTIFIED A;
SMALL LETTER IOTIFIED A;CAPITAL LETTER CLOSED LITTLE YUS;SMALL LETTER CLOSED LITTLE YUS;
CAPITAL LETTER BLENDED YUS;SMALL LETTER BLENDED YUS;CAPITAL LETTER IOTIFIED CLOSED LITTLE YUS;
SMALL LETTER IOTIFIED CLOSED LITTLE YUS;CAPITAL LETTER YN;SMALL LETTER YN;
CAPITAL LETTER REVERSED TSE;SMALL LETTER REVERSED TSE;CAPITAL LETTER SOFT DE;SMALL LETTER SOFT DE;
CAPITAL LETTER SOFT EL;SMALL LETTER SOFT EL;CAPITAL LETTER SOFT EM;SMALL LETTER SOFT EM;
CAPITAL LETTER MONOCULAR O;SMALL LETTER MONOCULAR O;CAPITAL LETTER BINOCULAR O;
SMALL LETTER BINOCULAR O;CAPITAL LETTER DOUBLE MONOCULAR O;SMALL LETTER DOUBLE MONOCULAR O;
LETTER MULTIOCULAR O.A66F=COMBINING CYRILLIC :VZMET;TEN MILLIONS SIGN;HUNDRED MILLIONS SIGN;
THOUSAND MILLIONS SIGN.A673=:SLAVONIC ASTERISK.A674=COMBINING CYRILLIC LETTER :UKRAINIAN IE;I;YI;U;
HARD SIGN;YERU;SOFT SIGN;OMEGA.A67C=COMBINING CYRILLIC :KAVYKA;PAYEROK.A67E=CYRILLIC :KAVYKA;
PAYEROK;CAPITAL LETTER DWE;SMALL LETTER DWE;CAPITAL LETTER DZWE;SMALL LETTER DZWE;
CAPITAL LETTER ZHWE;SMALL LETTER ZHWE;CAPITAL LETTER CCHE;SMALL LETTER CCHE;CAPITAL LETTER DZZE;
SMALL LETTER DZZE;CAPITAL LETTER TE WITH MIDDLE HOOK;SMALL LETTER TE WITH MIDDLE HOOK;
CAPITAL LETTER TWE;SMALL LETTER TWE;CAPITAL LETTER TSWE;SMALL LETTER TSWE;CAPITAL LETTER TSSE;
SMALL LETTER TSSE;CAPITAL LETTER TCHE;SMALL LETTER TCHE;CAPITAL LETTER HWE;SMALL LETTER HWE;
CAPITAL LETTER SHWE;SMALL LETTER SHWE;CAPITAL LETTER DOUBLE O;SMALL LETTER DOUBLE O;
CAPITAL LETTER CROSSED O;SMALL LETTER CROSSED O.A69C=MODIFIER LETTER CYRILLIC :HARD SIGN;SOFT SIGN.
A69E=COMBINING CYRILLIC LETTER :EF;IOTIFIED E.A6A0=BAMUM LETTER :A;KA;U;KU;EE;REE;TAE;O;NYI;I;LA;
PA;RII;RIEE;LEEEE;MEEEE;TAA;NDAA;NJAEM;M;SUU;MU;SHII;SI;SHEUX;SEUX;KYEE;KET;NUAE;NU;NJUAE;YOQ;SHU;
YUQ;YA;NSHA;KEUX;PEUX;NJEE;NTEE;PUE;WUE;PEE;FEE;RU;LU;MI;NI;REUX;RAE;KEN;NGKWAEN;NGGA;NGA;SHO;PUAE;
FU;FOM;WA;NA;LI;PI;LOQ;KO;MBEN;REN;MEN;MA;TI;KI;MO;MBAA;TET;KPA;TEN;NTUU;SAMBA;FAAMAE;KOVUU;KOGHOM.
A6F0=BAMUM :COMBINING MARK KOQNDON;COMBINING MARK TUKWENTIS;NJAEMLI;FULL STOP;COLON;COMMA;
SEMICOLON;QUESTION MARK.A700=MODIFIER LETTER :CHINESE TONE YIN PING;CHINESE TONE YANG PING;
CHINESE TONE YIN SHANG;CHINESE TONE YANG SHANG;CHINESE TONE YIN QU;CHINESE TONE YANG QU;
CHINESE TONE YIN RU;CHINESE TONE YANG RU;EXTRA-HIGH DOTTED TONE BAR;HIGH DOTTED TONE BAR;
MID DOTTED TONE BAR;LOW DOTTED TONE BAR;EXTRA-LOW DOTTED TONE BAR;
EXTRA-HIGH DOTTED LEFT-STEM TONE BAR;HIGH DOTTED LEFT-STEM TONE BAR;MID DOTTED LEFT-STEM TONE BAR;
LOW DOTTED LEFT-STEM TONE BAR;EXTRA-LOW DOTTED LEFT-STEM TONE BAR;EXTRA-HIGH LEFT-STEM TONE BAR;
HIGH LEFT-STEM TONE BAR;MID LEFT-STEM TONE BAR;LOW LEFT-STEM TONE BAR;EXTRA-LOW LEFT-STEM TONE BAR;
DOT VERTICAL BAR;DOT SLASH;DOT HORIZONTAL BAR;LOWER RIGHT CORNER ANGLE;RAISED UP ARROW;
RAISED DOWN ARROW;RAISED EXCLAMATION MARK;RAISED INVERTED EXCLAMATION MARK;
LOW INVERTED EXCLAMATION MARK;STRESS AND HIGH TONE;STRESS AND LOW TONE.A722=LATIN :
CAPITAL LETTER EGYPTOLOGICAL ALEF;SMALL LETTER EGYPTOLOGICAL ALEF;CAPITAL LETTER EGYPTOLOGICAL AIN;
SMALL LETTER EGYPTOLOGICAL AIN;CAPITAL LETTER HENG;SMALL LETTER HENG;CAPITAL LETTER TZ;
SMALL LETTER TZ;CAPITAL LETTER TRESILLO;SMALL LETTER TRESILLO;CAPITAL LETTER CUATRILLO;
SMALL LETTER CUATRILLO;CAPITAL LETTER CUATRILLO WITH COMMA;SMALL LETTER CUATRILLO WITH COMMA;
LETTER SMALL CAPITAL F;LETTER SMALL CAPITAL S;CAPITAL LETTER AA;SMALL LETTER AA;CAPITAL LETTER AO;
SMALL LETTER AO;CAPITAL LETTER AU;SMALL LETTER AU;CAPITAL LETTER AV;SMALL LETTER AV;
CAPITAL LETTER AV WITH HORIZONTAL BAR;SMALL LETTER AV WITH HORIZONTAL BAR;CAPITAL LETTER AY;
SMALL LETTER AY;CAPITAL LETTER REVERSED C WITH DOT;SMALL LETTER REVERSED C WITH DOT;
CAPITAL LETTER K WITH STROKE;SMALL LETTER K WITH STROKE;CAPITAL LETTER K WITH DIAGONAL STROKE;
SMALL LETTER K WITH DIAGONAL STROKE;CAPITAL LETTER K WITH STROKE AND DIAGONAL STROKE;
SMALL LETTER K WITH STROKE AND DIAGONAL STROKE;CAPITAL LETTER BROKEN L;SMALL LETTER BROKEN L;
CAPITAL LETTER L WITH HIGH STROKE;SMALL LETTER L WITH HIGH STROKE;
CAPITAL LETTER O WITH LONG STROKE OVERLAY;SMALL LETTER O WITH LONG STROKE OVERLAY;
CAPITAL LETTER O WITH LOOP;SMALL LETTER O WITH LOOP;CAPITAL LETTER OO;SMALL LETTER OO;
CAPITAL LETTER P WITH STROKE THROUGH DESCENDER;SMALL LETTER P WITH STROKE THROUGH DESCENDER;
CAPITAL LETTER P WITH FLOURISH;SMALL LETTER P WITH FLOURISH;CAPITAL LETTER P WITH SQUIRREL TAIL;
SMALL LETTER P WITH SQUIRREL TAIL;CAPITAL LETTER Q WITH STROKE THROUGH DESCENDER;
SMALL LETTER Q WITH STROKE THROUGH DESCENDER;CAPITAL LETTER Q WITH DIAGONAL STROKE;
SMALL LETTER Q WITH DIAGONAL STROKE;CAPITAL LETTER R ROTUNDA;SMALL LETTER R ROTUNDA;
CAPITAL LETTER RUM ROTUNDA;SMALL LETTER RUM ROTUNDA;CAPITAL LETTER V WITH DIAGONAL STROKE;
SMALL LETTER V WITH DIAGONAL STROKE;CAPITAL LETTER VY;SMALL LETTER VY;CAPITAL LETTER VISIGOTHIC Z;
SMALL LETTER VISIGOTHIC Z;CAPITAL LETTER THORN WITH STROKE;SMALL LETTER THORN WITH STROKE;
CAPITAL LETTER THORN WITH STROKE THROUGH DESCENDER;
SMALL LETTER THORN WITH STROKE THROUGH DESCENDER;CAPITAL LETTER VEND;SMALL LETTER VEND;
CAPITAL LETTER ET;SMALL LETTER ET;CAPITAL LETTER IS;SMALL LETTER IS;CAPITAL LETTER CON;
SMALL LETTER CON.A770=:MODIFIER LETTER US.A771=LATIN :SMALL LETTER DUM;SMALL LETTER LUM;
SMALL LETTER MUM;SMALL LETTER NUM;SMALL LETTER RUM;LETTER SMALL CAPITAL RUM;SMALL LETTER TUM;
SMALL LETTER UM;CAPITAL LETTER INSULAR D;SMALL LETTER INSULAR D;CAPITAL LETTER INSULAR F;
SMALL LETTER INSULAR F;CAPITAL LETTER INSULAR G;CAPITAL LETTER TURNED INSULAR G;
SMALL LETTER TURNED INSULAR G;CAPITAL LETTER TURNED L;SMALL LETTER TURNED L;
CAPITAL LETTER INSULAR R;SMALL LETTER INSULAR R;CAPITAL LETTER INSULAR S;SMALL LETTER INSULAR S;
CAPITAL LETTER INSULAR T;SMALL LETTER INSULAR T.A788=MODIFIER LETTER :LOW CIRCUMFLEX ACCENT;COLON;
SHORT EQUALS SIGN.A78B=LATIN :CAPITAL LETTER SALTILLO;SMALL LETTER SALTILLO;
CAPITAL LETTER TURNED H;SMALL LETTER L WITH RETROFLEX HOOK AND BELT;LETTER SINOLOGICAL DOT;
CAPITAL LETTER N WITH DESCENDER;SMALL LETTER N WITH DESCENDER;CAPITAL LETTER C WITH BAR;
SMALL LETTER C WITH BAR;SMALL LETTER C WITH PALATAL HOOK;SMALL LETTER H WITH PALATAL HOOK;
CAPITAL LETTER B WITH FLOURISH;SMALL LETTER B WITH FLOURISH;CAPITAL LETTER F WITH STROKE;
SMALL LETTER F WITH STROKE;CAPITAL LETTER VOLAPUK AE;SMALL LETTER VOLAPUK AE;
CAPITAL LETTER VOLAPUK OE;SMALL LETTER VOLAPUK OE;CAPITAL LETTER VOLAPUK UE;
SMALL LETTER VOLAPUK UE;CAPITAL LETTER G WITH OBLIQUE STROKE;SMALL LETTER G WITH OBLIQUE STROKE;
CAPITAL LETTER K WITH OBLIQUE STROKE;SMALL LETTER K WITH OBLIQUE STROKE;
CAPITAL LETTER N WITH OBLIQUE STROKE;SMALL LETTER N WITH OBLIQUE STROKE;
CAPITAL LETTER R WITH OBLIQUE STROKE;SMALL LETTER R WITH OBLIQUE STROKE;
CAPITAL LETTER S WITH OBLIQUE STROKE;SMALL LETTER S WITH OBLIQUE STROKE;CAPITAL LETTER H WITH HOOK;
CAPITAL LETTER REVERSED OPEN E;CAPITAL LETTER SCRIPT G;CAPITAL LETTER L WITH BELT;
CAPITAL LETTER SMALL CAPITAL I;LETTER SMALL CAPITAL Q;CAPITAL LETTER TURNED K;
CAPITAL LETTER TURNED T;CAPITAL LETTER J WITH CROSSED-TAIL;CAPITAL LETTER CHI;CAPITAL LETTER BETA;
SMALL LETTER BETA;CAPITAL LETTER OMEGA;SMALL LETTER OMEGA;CAPITAL LETTER U WITH STROKE;
SMALL LETTER U WITH STROKE;CAPITAL LETTER GLOTTAL A;SMALL LETTER GLOTTAL A;
CAPITAL LETTER GLOTTAL I;SMALL LETTER GLOTTAL I;CAPITAL LETTER GLOTTAL U;SMALL LETTER GLOTTAL U;
CAPITAL LETTER OLD POLISH O;SMALL LETTER OLD POLISH O;CAPITAL LETTER ANGLICANA W;
SMALL LETTER ANGLICANA W;CAPITAL LETTER C WITH PALATAL HOOK;CAPITAL LETTER S WITH HOOK;
CAPITAL LETTER Z WITH PALATAL HOOK;CAPITAL LETTER D WITH SHORT STROKE OVERLAY;
SMALL LETTER D WITH SHORT STROKE OVERLAY;CAPITAL LETTER S WITH SHORT STROKE OVERLAY;
SMALL LETTER S WITH SHORT STROKE OVERLAY.A7D0=:LATIN CAPITAL LETTER CLOSED INSULAR G;
LATIN SMALL LETTER CLOSED INSULAR G.A7D3=:LATIN SMALL LETTER DOUBLE THORN.A7D5=LATIN :
SMALL LETTER DOUBLE WYNN;CAPITAL LETTER MIDDLE SCOTS S;SMALL LETTER MIDDLE SCOTS S;
CAPITAL LETTER SIGMOID S;SMALL LETTER SIGMOID S.A7F2=MODIFIER LETTER CAPITAL :C;F;Q.A7F5=LATIN :
CAPITAL LETTER REVERSED HALF H;SMALL LETTER REVERSED HALF H;EPIGRAPHIC LETTER SIDEWAYS I.
A7F8=MODIFIER LETTER :CAPITAL H WITH STROKE;SMALL LIGATURE OE.A7FA=LATIN :
LETTER SMALL CAPITAL TURNED M;EPIGRAPHIC LETTER REVERSED F;EPIGRAPHIC LETTER REVERSED P;
EPIGRAPHIC LETTER INVERTED M;EPIGRAPHIC LETTER I LONGA;EPIGRAPHIC LETTER ARCHAIC M.
A800=SYLOTI NAGRI :LETTER A;LETTER I;SIGN DVISVARA;LETTER U;LETTER E;LETTER O;SIGN HASANTA;
LETTER KO;LETTER KHO;LETTER GO;LETTER GHO;SIGN ANUSVARA;LETTER CO;LETTER CHO;LETTER JO;LETTER JHO;
LETTER TTO;LETTER TTHO;LETTER DDO;LETTER DDHO;LETTER TO;LETTER THO;LETTER DO;LETTER DHO;LETTER NO;
LETTER PO;LETTER PHO;LETTER BO;LETTER BHO;LETTER MO;LETTER RO;LETTER LO;LETTER RRO;LETTER SO;
LETTER HO;VOWEL SIGN A;VOWEL SIGN I;VOWEL SIGN U;VOWEL SIGN E;VOWEL SIGN OO;POETRY MARK-1;
POETRY MARK-2;POETRY MARK-3;POETRY MARK-4;SIGN ALTERNATE HASANTA.A830=NORTH INDIC :
FRACTION ONE QUARTER;FRACTION ONE HALF;FRACTION THREE QUARTERS;FRACTION ONE SIXTEENTH;
FRACTION ONE EIGHTH;FRACTION THREE SIXTEENTHS;QUARTER MARK;PLACEHOLDER MARK;RUPEE MARK;
QUANTITY MARK.A840=PHAGS-PA LETTER :KA;KHA;GA;NGA;CA;CHA;JA;NYA;TA;THA;DA;NA;PA;PHA;BA;MA;TSA;TSHA;
DZA;WA;ZHA;ZA;SMALL A;YA;RA;LA;SHA;SA;HA;A;I;U;E;O;QA;XA;FA;GGA;EE.A867=PHAGS-PA :
SUBJOINED LETTER WA;SUBJOINED LETTER YA;LETTER TTA;LETTER TTHA;LETTER DDA;LETTER NNA;
LETTER ALTERNATE YA;LETTER VOICELESS SHA;LETTER VOICED HA;LETTER ASPIRATED FA;SUBJOINED LETTER RA;
SUPERFIXED LETTER RA;LETTER CANDRABINDU;SINGLE HEAD MARK;DOUBLE HEAD MARK;MARK SHAD;
MARK DOUBLE SHAD.A880=SAURASHTRA :SIGN ANUSVARA;SIGN VISARGA;LETTER A;LETTER AA;LETTER I;LETTER II;
LETTER U;LETTER UU;LETTER VOCALIC R;LETTER VOCALIC RR;LETTER VOCALIC L;LETTER VOCALIC LL;LETTER E;
LETTER EE;LETTER AI;LETTER O;LETTER OO;LETTER AU;LETTER KA;LETTER KHA;LETTER GA;LETTER GHA;
LETTER NGA;LETTER CA;LETTER CHA;LETTER JA;LETTER JHA;LETTER NYA;LETTER TTA;LETTER TTHA;LETTER DDA;
LETTER DDHA;LETTER NNA;LETTER TA;LETTER THA;LETTER DA;LETTER DHA;LETTER NA;LETTER PA;LETTER PHA;
LETTER BA;LETTER BHA;LETTER MA;LETTER YA;LETTER RA;LETTER LA;LETTER VA;LETTER SHA;LETTER SSA;
LETTER SA;LETTER HA;LETTER LLA;CONSONANT SIGN HAARU;VOWEL SIGN AA;VOWEL SIGN I;VOWEL SIGN II;
VOWEL SIGN U;VOWEL SIGN UU;VOWEL SIGN VOCALIC R;VOWEL SIGN VOCALIC RR;VOWEL SIGN VOCALIC L;
VOWEL SIGN VOCALIC LL;VOWEL SIGN E;VOWEL SIGN EE;VOWEL SIGN AI;VOWEL SIGN O;VOWEL SIGN OO;
VOWEL SIGN AU;SIGN VIRAMA;SIGN CANDRABINDU.A8CE=SAURASHTRA :DANDA;DOUBLE DANDA;DIGIT ZERO;
DIGIT ONE;DIGIT TWO;DIGIT THREE;DIGIT FOUR;DIGIT FIVE;DIGIT SIX;DIGIT SEVEN;DIGIT EIGHT;DIGIT NINE.
A8E0=COMBINING DEVANAGARI :DIGIT ZERO;DIGIT ONE;DIGIT TWO;DIGIT THREE;DIGIT FOUR;DIGIT FIVE;
DIGIT SIX;DIGIT SEVEN;DIGIT EIGHT;DIGIT NINE;LETTER A;LETTER U;LETTER KA;LETTER NA;LETTER PA;
LETTER RA;LETTER VI;SIGN AVAGRAHA.A8F2=DEVANAGARI :SIGN SPACING CANDRABINDU;
SIGN CANDRABINDU VIRAMA;SIGN DOUBLE CANDRABINDU VIRAMA;SIGN CANDRABINDU TWO;SIGN CANDRABINDU THREE;
SIGN CANDRABINDU AVAGRAHA;SIGN PUSHPIKA;GAP FILLER;CARET;HEADSTROKE;SIGN SIDDHAM;JAIN OM;LETTER AY;
VOWEL SIGN AY.A900=KAYAH LI :DIGIT ZERO;DIGIT ONE;DIGIT TWO;DIGIT THREE;DIGIT FOUR;DIGIT FIVE;
DIGIT SIX;DIGIT SEVEN;DIGIT EIGHT;DIGIT NINE;LETTER KA;LETTER KHA;LETTER GA;LETTER NGA;LETTER SA;
LETTER SHA;LETTER ZA;LETTER NYA;LETTER TA;LETTER HTA;LETTER NA;LETTER PA;LETTER PHA;LETTER MA;
LETTER DA;LETTER BA;LETTER RA;LETTER YA;LETTER LA;LETTER WA;LETTER THA;LETTER HA;LETTER VA;
LETTER CA;LETTER A;LETTER OE;LETTER I;LETTER OO;VOWEL UE;VOWEL E;VOWEL U;VOWEL EE;VOWEL O;
TONE PLOPHU;TONE CALYA;TONE CALYA PLOPHU;SIGN CWI;SIGN SHYA.A930=REJANG LETTER :KA;GA;NGA;TA;DA;NA;
PA;BA;MA;CA;JA;NYA;SA;RA;LA;YA;WA;HA;MBA;NGGA;NDA;NYJA;A.A947=REJANG VOWEL SIGN :I;U;E;AI;O;AU;EU;
EA.A94F=REJANG CONSONANT SIGN :NG;N;R;H.A953=:REJANG VIRAMA.A95F=:REJANG SECTION MARK.
A960=HANGUL CHOSEONG :TIKEUT-MIEUM;TIKEUT-PIEUP;TIKEUT-SIOS;TIKEUT-CIEUC;RIEUL-KIYEOK;
RIEUL-SSANGKIYEOK;RIEUL-TIKEUT;RIEUL-SSANGTIKEUT;RIEUL-MIEUM;RIEUL-PIEUP;RIEUL-SSANGPIEUP;
RIEUL-KAPYEOUNPIEUP;RIEUL-SIOS;RIEUL-CIEUC;RIEUL-KHIEUKH;MIEUM-KIYEOK;MIEUM-TIKEUT;MIEUM-SIOS;
PIEUP-SIOS-THIEUTH;PIEUP-KHIEUKH;PIEUP-HIEUH;SSANGSIOS-PIEUP;IEUNG-RIEUL;IEUNG-HIEUH;
SSANGCIEUC-HIEUH;SSANGTHIEUTH;PHIEUPH-HIEUH;HIEUH-SIOS;SSANGYEORINHIEUH.A980=JAVANESE :
SIGN PANYANGGA;SIGN CECAK;SIGN LAYAR;SIGN WIGNYAN;LETTER A;LETTER I KAWI;LETTER I;LETTER II;
LETTER U;LETTER PA CEREK;LETTER NGA LELET;LETTER NGA LELET RASWADI;LETTER E;LETTER AI;LETTER O;
LETTER KA;LETTER KA SASAK;LETTER KA MURDA;LETTER GA;LETTER GA MURDA;LETTER NGA;LETTER CA;
LETTER CA MURDA;LETTER JA;LETTER NYA MURDA;LETTER JA MAHAPRANA;LETTER NYA;LETTER TTA;
LETTER TTA MAHAPRANA;LETTER DDA;LETTER DDA MAHAPRANA;LETTER NA MURDA;LETTER TA;LETTER TA MURDA;
LETTER DA;LETTER DA MAHAPRANA;LETTER NA;LETTER PA;LETTER PA MURDA;LETTER BA;LETTER BA MURDA;
LETTER MA;LETTER YA;LETTER RA;LETTER RA AGUNG;LETTER LA;LETTER WA;LETTER SA MURDA;
LETTER SA MAHAPRANA;LETTER SA;LETTER HA;SIGN CECAK TELU;VOWEL SIGN TARUNG;VOWEL SIGN TOLONG;
VOWEL SIGN WULU;VOWEL SIGN WULU MELIK;VOWEL SIGN SUKU;VOWEL SIGN SUKU MENDUT;VOWEL SIGN TALING;
VOWEL SIGN DIRGA MURE;VOWEL SIGN PEPET;CONSONANT SIGN KERET;CONSONANT SIGN PENGKAL;
CONSONANT SIGN CAKRA;PANGKON;LEFT RERENGGAN;RIGHT RERENGGAN;PADA ANDAP;PADA MADYA;PADA LUHUR;
PADA WINDU;PADA PANGKAT;PADA LINGSA;PADA LUNGSI;PADA ADEG;PADA ADEG ADEG;PADA PISELEH;
TURNED PADA PISELEH.A9CF=JAVANESE :PANGRANGKEP;DIGIT ZERO;DIGIT ONE;DIGIT TWO;DIGIT THREE;
DIGIT FOUR;DIGIT FIVE;DIGIT SIX;DIGIT SEVEN;DIGIT EIGHT;DIGIT NINE.A9DE=JAVANESE PADA :
TIRTA TUMETES;ISEN-ISEN.A9E0=MYANMAR :LETTER SHAN GHA;LETTER SHAN CHA;LETTER SHAN JHA;
LETTER SHAN NNA;LETTER SHAN BHA;SIGN SHAN SAW;MODIFIER LETTER SHAN REDUPLICATION;
LETTER TAI LAING NYA;LETTER TAI LAING FA;LETTER TAI LAING GA;LETTER TAI LAING GHA;
LETTER TAI LAING JA;LETTER TAI LAING JHA;LETTER TAI LAING DDA;LETTER TAI LAING DDHA;
LETTER TAI LAING NNA;TAI LAING DIGIT ZERO;TAI LAING DIGIT ONE;TAI LAING DIGIT TWO;
TAI LAING DIGIT THREE;TAI LAING DIGIT FOUR;TAI LAING DIGIT FIVE;TAI LAING DIGIT SIX;
TAI LAING DIGIT SEVEN;TAI LAING DIGIT EIGHT;TAI LAING DIGIT NINE;LETTER TAI LAING LLA;
LETTER TAI LAING DA;LETTER TAI LAING DHA;LETTER TAI LAING BA;LETTER TAI LAING BHA.
AA00=CHAM LETTER :A;I;U;E;AI;O;KA;KHA;GA;GHA;NGUE;NGA;CHA;CHHA;JA;JHA;NHUE;NHA;NHJA;TA;THA;DA;DHA;
NUE;NA;DDA;PA;PPA;PHA;BA;BHA;MUE;MA;BBA;YA;RA;LA;VA;SSA;SA;HA.AA29=CHAM VOWEL SIGN :AA;I;II;EI;U;
OE;O;AI;AU;UE.AA33=CHAM CONSONANT SIGN :YA;RA;LA;WA.AA40=CHAM :LETTER FINAL K;LETTER FINAL G;
LETTER FINAL NG;CONSONANT SIGN FINAL NG;LETTER FINAL CH;LETTER FINAL T;LETTER FINAL N;
LETTER FINAL P;LETTER FINAL Y;LETTER FINAL R;LETTER FINAL L;LETTER FINAL SS;CONSONANT SIGN FINAL M;
CONSONANT SIGN FINAL H.AA50=CHAM DIGIT :ZERO;ONE;TWO;THREE;FOUR;FIVE;SIX;SEVEN;EIGHT;NINE.
AA5C=CHAM PUNCTUATION :SPIRAL;DANDA;DOUBLE DANDA;TRIPLE DANDA.AA60=MYANMAR LETTER KHAMTI :GA;CA;
CHA;JA;JHA;NYA;TTA;TTHA;DDA;DDHA;DHA;NA;SA;HA;HHA;FA.AA70=MYANMAR :
MODIFIER LETTER KHAMTI REDUPLICATION;LETTER KHAMTI XA;LETTER KHAMTI ZA;LETTER KHAMTI RA;
LOGOGRAM KHAMTI OAY;LOGOGRAM KHAMTI QN;LOGOGRAM KHAMTI HM;SYMBOL AITON EXCLAMATION;
SYMBOL AITON ONE;SYMBOL AITON TWO;LETTER AITON RA;SIGN PAO KAREN TONE;SIGN TAI LAING TONE-2;
SIGN TAI LAING TONE-5;LETTER SHWE PALAUNG CHA;LETTER SHWE PALAUNG SHA.AA80=TAI VIET LETTER :LOW KO;
HIGH KO;LOW KHO;HIGH KHO;LOW KHHO;HIGH KHHO;LOW GO;HIGH GO;LOW NGO;HIGH NGO;LOW CO;HIGH CO;LOW CHO;
HIGH CHO;LOW SO;HIGH SO;LOW NYO;HIGH NYO;LOW DO;HIGH DO;LOW TO;HIGH TO;LOW THO;HIGH THO;LOW NO;
HIGH NO;LOW BO;HIGH BO;LOW PO;HIGH PO;LOW PHO;HIGH PHO;LOW FO;HIGH FO;LOW MO;HIGH MO;LOW YO;
HIGH YO;LOW RO;HIGH RO;LOW LO;HIGH LO;LOW VO;HIGH VO;LOW HO;HIGH HO;LOW O;HIGH O.AAB0=TAI VIET :
MAI KANG;VOWEL AA;VOWEL I;VOWEL UE;VOWEL U;VOWEL E;VOWEL O;MAI KHIT;VOWEL IA;VOWEL UEA;VOWEL UA;
VOWEL AUE;VOWEL AY;VOWEL AN;VOWEL AM;TONE MAI EK;TONE MAI NUENG;TONE MAI THO;TONE MAI SONG.
AADB=TAI VIET SYMBOL :KON;NUENG;SAM;HO HOI;KOI KOI.AAE0=MEETEI MAYEK :LETTER E;LETTER O;LETTER CHA;
LETTER NYA;LETTER TTA;LETTER TTHA;LETTER DDA;LETTER DDHA;LETTER NNA;LETTER SHA;LETTER SSA;
VOWEL SIGN II;VOWEL SIGN UU;VOWEL SIGN AAI;VOWEL SIGN AU;VOWEL SIGN AAU;CHEIKHAN;AHANG KHUDAM;ANJI;
SYLLABLE REPETITION MARK;WORD REPETITION MARK;VOWEL SIGN VISARGA;VIRAMA.AB01=ETHIOPIC SYLLABLE :
TTHU;TTHI;TTHAA;TTHEE;TTHE;TTHO.AB09=ETHIOPIC SYLLABLE :DDHU;DDHI;DDHAA;DDHEE;DDHE;DDHO.
AB11=ETHIOPIC SYLLABLE :DZU;DZI;DZAA;DZEE;DZE;DZO.AB20=ETHIOPIC SYLLABLE :CCHHA;CCHHU;CCHHI;CCHHAA;
CCHHEE;CCHHE;CCHHO.AB28=ETHIOPIC SYLLABLE :BBA;BBU;BBI;BBAA;BBEE;BBE;BBO.AB30=LATIN SMALL LETTER :
BARRED ALPHA;A REVERSED-SCHWA;BLACKLETTER E;BARRED E;E WITH FLOURISH;LENIS F;
SCRIPT G WITH CROSSED-TAIL;L WITH INVERTED LAZY S;L WITH DOUBLE MIDDLE TILDE;L WITH MIDDLE RING;
M WITH CROSSED-TAIL;N WITH CROSSED-TAIL;ENG WITH CROSSED-TAIL;BLACKLETTER O;
BLACKLETTER O WITH STROKE;OPEN O WITH STROKE;INVERTED OE;TURNED OE WITH STROKE;
TURNED OE WITH HORIZONTAL STROKE;TURNED O OPEN-O;TURNED O OPEN-O WITH STROKE;STIRRUP R.AB46=LATIN :
LETTER SMALL CAPITAL R WITH RIGHT LEG;SMALL LETTER R WITHOUT HANDLE;SMALL LETTER DOUBLE R;
SMALL LETTER R WITH CROSSED-TAIL;SMALL LETTER DOUBLE R WITH CROSSED-TAIL;SMALL LETTER SCRIPT R;
SMALL LETTER SCRIPT R WITH RING;SMALL LETTER BASELINE ESH;SMALL LETTER U WITH SHORT RIGHT LEG;
SMALL LETTER U BAR WITH SHORT RIGHT LEG;SMALL LETTER UI;SMALL LETTER TURNED UI;
SMALL LETTER U WITH LEFT HOOK;SMALL LETTER CHI;SMALL LETTER CHI WITH LOW RIGHT RING;
SMALL LETTER CHI WITH LOW LEFT SERIF;SMALL LETTER X WITH LOW RIGHT RING;
SMALL LETTER X WITH LONG LEFT LEG;SMALL LETTER X WITH LONG LEFT LEG AND LOW RIGHT RING;
SMALL LETTER X WITH LONG LEFT LEG WITH SERIF;SMALL LETTER Y WITH SHORT RIGHT LEG.AB5B=MODIFIER :
BREVE WITH INVERTED BREVE;LETTER SMALL HENG;LETTER SMALL L WITH INVERTED LAZY S;
LETTER SMALL L WITH MIDDLE TILDE;LETTER SMALL U WITH LEFT HOOK.AB60=LATIN SMALL LETTER :SAKHA YAT;
IOTIFIED E;OPEN OE;UO;INVERTED ALPHA.AB65=:GREEK LETTER SMALL CAPITAL OMEGA.
AB66=LATIN SMALL LETTER :DZ DIGRAPH WITH RETROFLEX HOOK;TS DIGRAPH WITH RETROFLEX HOOK;
TURNED R WITH MIDDLE TILDE.AB69=MODIFIER LETTER :SMALL TURNED W;LEFT TACK;RIGHT TACK.
AB70=CHEROKEE SMALL LETTER :A;E;I;O;U;V;GA;KA;GE;GI;GO;GU;GV;HA;HE;HI;HO;HU;HV;LA;LE;LI;LO;LU;LV;
MA;ME;MI;MO;MU;NA;HNA;NAH;NE;NI;NO;NU;NV;QUA;QUE;QUI;QUO;QUU;QUV;SA;S;SE;SI;SO;SU;SV;DA;TA;DE;TE;
DI;TI;DO;DU;DV;DLA;TLA;TLE;TLI;TLO;TLU;TLV;TSA;TSE;TSI;TSO;TSU;TSV;WA;WE;WI;WO;WU;WV;YA.
ABC0=MEETEI MAYEK LETTER :KOK;SAM;LAI;MIT;PA;NA;CHIL;TIL;KHOU;NGOU;THOU;WAI;YANG;HUK;UN;I;PHAM;
ATIYA;GOK;JHAM;RAI;BA;JIL;DIL;GHOU;DHOU;BHAM;KOK LONSUM;LAI LONSUM;MIT LONSUM;PA LONSUM;NA LONSUM;
TIL LONSUM;NGOU LONSUM;I LONSUM.ABE3=MEETEI MAYEK VOWEL SIGN :ONAP;INAP;ANAP;YENAP;SOUNAP;UNAP;
CHEINAP;NUNG.ABEB=MEETEI MAYEK :CHEIKHEI;LUM IYEK;APUN IYEK.ABF0=MEETEI MAYEK DIGIT :ZERO;ONE;TWO;
THREE;FOUR;FIVE;SIX;SEVEN;EIGHT;NINE.D7B0=HANGUL JUNGSEONG :O-YEO;O-O-I;YO-A;YO-AE;YO-EO;U-YEO;
U-I-I;YU-AE;YU-O;EU-A;EU-EO;EU-E;EU-O;I-YA-O;I-YAE;I-YEO;I-YE;I-O-I;I-YO;I-YU;I-I;ARAEA-A;ARAEA-E.
D7CB=HANGUL JONGSEONG :NIEUN-RIEUL;NIEUN-CHIEUCH;SSANGTIKEUT;SSANGTIKEUT-PIEUP;TIKEUT-PIEUP;
TIKEUT-SIOS;TIKEUT-SIOS-KIYEOK;TIKEUT-CIEUC;TIKEUT-CHIEUCH;TIKEUT-THIEUTH;RIEUL-SSANGKIYEOK;
RIEUL-KIYEOK-HIEUH;SSANGRIEUL-KHIEUKH;RIEUL-MIEUM-HIEUH;RIEUL-PIEUP-TIKEUT;RIEUL-PIEUP-PHIEUPH;
RIEUL-YESIEUNG;RIEUL-YEORINHIEUH-HIEUH;KAPYEOUNRIEUL;MIEUM-NIEUN;MIEUM-SSANGNIEUN;SSANGMIEUM;
MIEUM-PIEUP-SIOS;MIEUM-CIEUC;PIEUP-TIKEUT;PIEUP-RIEUL-PHIEUPH;PIEUP-MIEUM;SSANGPIEUP;
PIEUP-SIOS-TIKEUT;PIEUP-CIEUC;PIEUP-CHIEUCH;SIOS-MIEUM;SIOS-KAPYEOUNPIEUP;SSANGSIOS-KIYEOK;
SSANGSIOS-TIKEUT;SIOS-PANSIOS;SIOS-CIEUC;SIOS-CHIEUCH;SIOS-THIEUTH;SIOS-HIEUH;PANSIOS-PIEUP;
PANSIOS-KAPYEOUNPIEUP;YESIEUNG-MIEUM;YESIEUNG-HIEUH;CIEUC-PIEUP;CIEUC-SSANGPIEUP;SSANGCIEUC;
PHIEUPH-SIOS;PHIEUPH-THIEUTH."

end Workflow.Text
