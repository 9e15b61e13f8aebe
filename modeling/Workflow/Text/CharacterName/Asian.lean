/-!
# Names: letters of Asia

Runs of names of characters of scripts from Armenia to Korea, with those of America. A run gives the
code of its first character, the start that its names share, and the rest of each name. Line ends
mean nothing.
-/

namespace Workflow.Text

/-- The names of characters of the Armenian, Hebrew, Arabic, Syriac and neighbouring scripts. -/
def semiticNames : String := "
531=ARMENIAN CAPITAL LETTER :AYB;BEN;GIM;DA;ECH;ZA;EH;ET;TO;ZHE;INI;LIWN;XEH;CA;KEN;HO;JA;GHAD;
CHEH;MEN;YI;NOW;SHA;VO;CHA;PEH;JHEH;RA;SEH;VEW;TIWN;REH;CO;YIWN;PIWR;KEH;OH;FEH.559=ARMENIAN :
MODIFIER LETTER LEFT HALF RING;APOSTROPHE;EMPHASIS MARK;EXCLAMATION MARK;COMMA;QUESTION MARK;
ABBREVIATION MARK;SMALL LETTER TURNED AYB;SMALL LETTER AYB;SMALL LETTER BEN;SMALL LETTER GIM;
SMALL LETTER DA;SMALL LETTER ECH;SMALL LETTER ZA;SMALL LETTER EH;SMALL LETTER ET;SMALL LETTER TO;
SMALL LETTER ZHE;SMALL LETTER INI;SMALL LETTER LIWN;SMALL LETTER XEH;SMALL LETTER CA;
SMALL LETTER KEN;SMALL LETTER HO;SMALL LETTER JA;SMALL LETTER GHAD;SMALL LETTER CHEH;
SMALL LETTER MEN;SMALL LETTER YI;SMALL LETTER NOW;SMALL LETTER SHA;SMALL LETTER VO;
SMALL LETTER CHA;SMALL LETTER PEH;SMALL LETTER JHEH;SMALL LETTER RA;SMALL LETTER SEH;
SMALL LETTER VEW;SMALL LETTER TIWN;SMALL LETTER REH;SMALL LETTER CO;SMALL LETTER YIWN;
SMALL LETTER PIWR;SMALL LETTER KEH;SMALL LETTER OH;SMALL LETTER FEH;SMALL LIGATURE ECH YIWN;
SMALL LETTER YI WITH STROKE;FULL STOP;HYPHEN.58D=:RIGHT-FACING ARMENIAN ETERNITY SIGN;
LEFT-FACING ARMENIAN ETERNITY SIGN;ARMENIAN DRAM SIGN.591=HEBREW ACCENT :ETNAHTA;SEGOL;SHALSHELET;
ZAQEF QATAN;ZAQEF GADOL;TIPEHA;REVIA;ZARQA;PASHTA;YETIV;TEVIR;GERESH;GERESH MUQDAM;GERSHAYIM;
QARNEY PARA;TELISHA GEDOLA;PAZER;ATNAH HAFUKH;MUNAH;MAHAPAKH;MERKHA;MERKHA KEFULA;DARGA;QADMA;
TELISHA QETANA;YERAH BEN YOMO;OLE;ILUY;DEHI;ZINOR.5AF=HEBREW :MARK MASORA CIRCLE;POINT SHEVA;
POINT HATAF SEGOL;POINT HATAF PATAH;POINT HATAF QAMATS;POINT HIRIQ;POINT TSERE;POINT SEGOL;
POINT PATAH;POINT QAMATS;POINT HOLAM;POINT HOLAM HASER FOR VAV;POINT QUBUTS;POINT DAGESH OR MAPIQ;
POINT METEG;PUNCTUATION MAQAF;POINT RAFE;PUNCTUATION PASEQ;POINT SHIN DOT;POINT SIN DOT;
PUNCTUATION SOF PASUQ;MARK UPPER DOT;MARK LOWER DOT;PUNCTUATION NUN HAFUKHA;POINT QAMATS QATAN.
5D0=HEBREW LETTER :ALEF;BET;GIMEL;DALET;HE;VAV;ZAYIN;HET;TET;YOD;FINAL KAF;KAF;LAMED;FINAL MEM;MEM;
FINAL NUN;NUN;SAMEKH;AYIN;FINAL PE;PE;FINAL TSADI;TSADI;QOF;RESH;SHIN;TAV.5EF=HEBREW :YOD TRIANGLE;
LIGATURE YIDDISH DOUBLE VAV;LIGATURE YIDDISH VAV YOD;LIGATURE YIDDISH DOUBLE YOD;
PUNCTUATION GERESH;PUNCTUATION GERSHAYIM.600=ARABIC :NUMBER SIGN;SIGN SANAH;FOOTNOTE MARKER;
SIGN SAFHA;SIGN SAMVAT;NUMBER MARK ABOVE.606=ARABIC-INDIC :CUBE ROOT;FOURTH ROOT.608=:ARABIC RAY.
609=ARABIC-INDIC PER :MILLE SIGN;TEN THOUSAND SIGN.60B=:AFGHANI SIGN.60C=ARABIC :COMMA;
DATE SEPARATOR;POETIC VERSE SIGN;SIGN MISRA;SIGN SALLALLAHOU ALAYHE WASSALLAM;SIGN ALAYHE ASSALLAM;
SIGN RAHMATULLAH ALAYHE;SIGN RADI ALLAHOU ANHU;SIGN TAKHALLUS;SMALL HIGH TAH;
SMALL HIGH LIGATURE ALEF WITH LAM WITH YEH;SMALL HIGH ZAIN;SMALL FATHA;SMALL DAMMA;SMALL KASRA;
SEMICOLON;LETTER MARK;END OF TEXT MARK;TRIPLE DOT PUNCTUATION MARK;QUESTION MARK;
LETTER KASHMIRI YEH;LETTER HAMZA;LETTER ALEF WITH MADDA ABOVE;LETTER ALEF WITH HAMZA ABOVE;
LETTER WAW WITH HAMZA ABOVE;LETTER ALEF WITH HAMZA BELOW;LETTER YEH WITH HAMZA ABOVE;LETTER ALEF;
LETTER BEH;LETTER TEH MARBUTA;LETTER TEH;LETTER THEH;LETTER JEEM;LETTER HAH;LETTER KHAH;LETTER DAL;
LETTER THAL;LETTER REH;LETTER ZAIN;LETTER SEEN;LETTER SHEEN;LETTER SAD;LETTER DAD;LETTER TAH;
LETTER ZAH;LETTER AIN;LETTER GHAIN;LETTER KEHEH WITH TWO DOTS ABOVE;
LETTER KEHEH WITH THREE DOTS BELOW;LETTER FARSI YEH WITH INVERTED V;
LETTER FARSI YEH WITH TWO DOTS ABOVE;LETTER FARSI YEH WITH THREE DOTS ABOVE;TATWEEL;LETTER FEH;
LETTER QAF;LETTER KAF;LETTER LAM;LETTER MEEM;LETTER NOON;LETTER HEH;LETTER WAW;LETTER ALEF MAKSURA;
LETTER YEH;FATHATAN;DAMMATAN;KASRATAN;FATHA;DAMMA;KASRA;SHADDA;SUKUN;MADDAH ABOVE;HAMZA ABOVE;
HAMZA BELOW;SUBSCRIPT ALEF;INVERTED DAMMA;MARK NOON GHUNNA;ZWARAKAY;VOWEL SIGN SMALL V ABOVE;
VOWEL SIGN INVERTED SMALL V ABOVE;VOWEL SIGN DOT BELOW;REVERSED DAMMA;FATHA WITH TWO DOTS;
WAVY HAMZA BELOW.660=ARABIC-INDIC DIGIT :ZERO;ONE;TWO;THREE;FOUR;FIVE;SIX;SEVEN;EIGHT;NINE.
66A=ARABIC :PERCENT SIGN;DECIMAL SEPARATOR;THOUSANDS SEPARATOR;FIVE POINTED STAR;
LETTER DOTLESS BEH;LETTER DOTLESS QAF;LETTER SUPERSCRIPT ALEF;LETTER ALEF WASLA;
LETTER ALEF WITH WAVY HAMZA ABOVE;LETTER ALEF WITH WAVY HAMZA BELOW;LETTER HIGH HAMZA;
LETTER HIGH HAMZA ALEF;LETTER HIGH HAMZA WAW;LETTER U WITH HAMZA ABOVE;LETTER HIGH HAMZA YEH;
LETTER TTEH;LETTER TTEHEH;LETTER BEEH;LETTER TEH WITH RING;
LETTER TEH WITH THREE DOTS ABOVE DOWNWARDS;LETTER PEH;LETTER TEHEH;LETTER BEHEH;
LETTER HAH WITH HAMZA ABOVE;LETTER HAH WITH TWO DOTS VERTICAL ABOVE;LETTER NYEH;LETTER DYEH;
LETTER HAH WITH THREE DOTS ABOVE;LETTER TCHEH;LETTER TCHEHEH;LETTER DDAL;LETTER DAL WITH RING;
LETTER DAL WITH DOT BELOW;LETTER DAL WITH DOT BELOW AND SMALL TAH;LETTER DAHAL;LETTER DDAHAL;
LETTER DUL;LETTER DAL WITH THREE DOTS ABOVE DOWNWARDS;LETTER DAL WITH FOUR DOTS ABOVE;LETTER RREH;
LETTER REH WITH SMALL V;LETTER REH WITH RING;LETTER REH WITH DOT BELOW;
LETTER REH WITH SMALL V BELOW;LETTER REH WITH DOT BELOW AND DOT ABOVE;
LETTER REH WITH TWO DOTS ABOVE;LETTER JEH;LETTER REH WITH FOUR DOTS ABOVE;
LETTER SEEN WITH DOT BELOW AND DOT ABOVE;LETTER SEEN WITH THREE DOTS BELOW;
LETTER SEEN WITH THREE DOTS BELOW AND THREE DOTS ABOVE;LETTER SAD WITH TWO DOTS BELOW;
LETTER SAD WITH THREE DOTS ABOVE;LETTER TAH WITH THREE DOTS ABOVE;LETTER AIN WITH THREE DOTS ABOVE;
LETTER DOTLESS FEH;LETTER FEH WITH DOT MOVED BELOW;LETTER FEH WITH DOT BELOW;LETTER VEH;
LETTER FEH WITH THREE DOTS BELOW;LETTER PEHEH;LETTER QAF WITH DOT ABOVE;
LETTER QAF WITH THREE DOTS ABOVE;LETTER KEHEH;LETTER SWASH KAF;LETTER KAF WITH RING;
LETTER KAF WITH DOT ABOVE;LETTER NG;LETTER KAF WITH THREE DOTS BELOW;LETTER GAF;
LETTER GAF WITH RING;LETTER NGOEH;LETTER GAF WITH TWO DOTS BELOW;LETTER GUEH;
LETTER GAF WITH THREE DOTS ABOVE;LETTER LAM WITH SMALL V;LETTER LAM WITH DOT ABOVE;
LETTER LAM WITH THREE DOTS ABOVE;LETTER LAM WITH THREE DOTS BELOW;LETTER NOON WITH DOT BELOW;
LETTER NOON GHUNNA;LETTER RNOON;LETTER NOON WITH RING;LETTER NOON WITH THREE DOTS ABOVE;
LETTER HEH DOACHASHMEE;LETTER TCHEH WITH DOT ABOVE;LETTER HEH WITH YEH ABOVE;LETTER HEH GOAL;
LETTER HEH GOAL WITH HAMZA ABOVE;LETTER TEH MARBUTA GOAL;LETTER WAW WITH RING;LETTER KIRGHIZ OE;
LETTER OE;LETTER U;LETTER YU;LETTER KIRGHIZ YU;LETTER WAW WITH TWO DOTS ABOVE;LETTER VE;
LETTER FARSI YEH;LETTER YEH WITH TAIL;LETTER YEH WITH SMALL V;LETTER WAW WITH DOT ABOVE;LETTER E;
LETTER YEH WITH THREE DOTS BELOW;LETTER YEH BARREE;LETTER YEH BARREE WITH HAMZA ABOVE;FULL STOP;
LETTER AE;SMALL HIGH LIGATURE SAD WITH LAM WITH ALEF MAKSURA;
SMALL HIGH LIGATURE QAF WITH LAM WITH ALEF MAKSURA;SMALL HIGH MEEM INITIAL FORM;
SMALL HIGH LAM ALEF;SMALL HIGH JEEM;SMALL HIGH THREE DOTS;SMALL HIGH SEEN;END OF AYAH;
START OF RUB EL HIZB;SMALL HIGH ROUNDED ZERO;SMALL HIGH UPRIGHT RECTANGULAR ZERO;
SMALL HIGH DOTLESS HEAD OF KHAH;SMALL HIGH MEEM ISOLATED FORM;SMALL LOW SEEN;SMALL HIGH MADDA;
SMALL WAW;SMALL YEH;SMALL HIGH YEH;SMALL HIGH NOON;PLACE OF SAJDAH;EMPTY CENTRE LOW STOP;
EMPTY CENTRE HIGH STOP;ROUNDED HIGH STOP WITH FILLED CENTRE;SMALL LOW MEEM;
LETTER DAL WITH INVERTED V;LETTER REH WITH INVERTED V.6F0=EXTENDED ARABIC-INDIC DIGIT :ZERO;ONE;
TWO;THREE;FOUR;FIVE;SIX;SEVEN;EIGHT;NINE.6FA=ARABIC :LETTER SHEEN WITH DOT BELOW;
LETTER DAD WITH DOT BELOW;LETTER GHAIN WITH DOT BELOW;SIGN SINDHI AMPERSAND;
SIGN SINDHI POSTPOSITION MEN;LETTER HEH WITH INVERTED V.700=SYRIAC :END OF PARAGRAPH;
SUPRALINEAR FULL STOP;SUBLINEAR FULL STOP;SUPRALINEAR COLON;SUBLINEAR COLON;HORIZONTAL COLON;
COLON SKEWED LEFT;COLON SKEWED RIGHT;SUPRALINEAR COLON SKEWED LEFT;SUBLINEAR COLON SKEWED RIGHT;
CONTRACTION;HARKLEAN OBELUS;HARKLEAN METOBELUS;HARKLEAN ASTERISCUS.70F=SYRIAC :ABBREVIATION MARK;
LETTER ALAPH;LETTER SUPERSCRIPT ALAPH;LETTER BETH;LETTER GAMAL;LETTER GAMAL GARSHUNI;LETTER DALATH;
LETTER DOTLESS DALATH RISH;LETTER HE;LETTER WAW;LETTER ZAIN;LETTER HETH;LETTER TETH;
LETTER TETH GARSHUNI;LETTER YUDH;LETTER YUDH HE;LETTER KAPH;LETTER LAMADH;LETTER MIM;LETTER NUN;
LETTER SEMKATH;LETTER FINAL SEMKATH;LETTER E;LETTER PE;LETTER REVERSED PE;LETTER SADHE;LETTER QAPH;
LETTER RISH;LETTER SHIN;LETTER TAW;LETTER PERSIAN BHETH;LETTER PERSIAN GHAMAL;
LETTER PERSIAN DHALATH;PTHAHA ABOVE;PTHAHA BELOW;PTHAHA DOTTED;ZQAPHA ABOVE;ZQAPHA BELOW;
ZQAPHA DOTTED;RBASA ABOVE;RBASA BELOW;DOTTED ZLAMA HORIZONTAL;DOTTED ZLAMA ANGULAR;HBASA ABOVE;
HBASA BELOW;HBASA-ESASA DOTTED;ESASA ABOVE;ESASA BELOW;RWAHA;FEMININE DOT;QUSHSHAYA;RUKKAKHA;
TWO VERTICAL DOTS ABOVE;TWO VERTICAL DOTS BELOW;THREE DOTS ABOVE;THREE DOTS BELOW;
OBLIQUE LINE ABOVE;OBLIQUE LINE BELOW;MUSIC;BARREKH.74D=SYRIAC LETTER SOGDIAN :ZHAIN;KHAPH;FE.
750=ARABIC LETTER :BEH WITH THREE DOTS HORIZONTALLY BELOW;BEH WITH DOT BELOW AND THREE DOTS ABOVE;
BEH WITH THREE DOTS POINTING UPWARDS BELOW;
BEH WITH THREE DOTS POINTING UPWARDS BELOW AND TWO DOTS ABOVE;
BEH WITH TWO DOTS BELOW AND DOT ABOVE;BEH WITH INVERTED SMALL V BELOW;BEH WITH SMALL V;
HAH WITH TWO DOTS ABOVE;HAH WITH THREE DOTS POINTING UPWARDS BELOW;
DAL WITH TWO DOTS VERTICALLY BELOW AND SMALL TAH;DAL WITH INVERTED SMALL V BELOW;REH WITH STROKE;
SEEN WITH FOUR DOTS ABOVE;AIN WITH TWO DOTS ABOVE;AIN WITH THREE DOTS POINTING DOWNWARDS ABOVE;
AIN WITH TWO DOTS VERTICALLY ABOVE;FEH WITH TWO DOTS BELOW;
FEH WITH THREE DOTS POINTING UPWARDS BELOW;KEHEH WITH DOT ABOVE;KEHEH WITH THREE DOTS ABOVE;
KEHEH WITH THREE DOTS POINTING UPWARDS BELOW;MEEM WITH DOT ABOVE;MEEM WITH DOT BELOW;
NOON WITH TWO DOTS BELOW;NOON WITH SMALL TAH;NOON WITH SMALL V;LAM WITH BAR;
REH WITH TWO DOTS VERTICALLY ABOVE;REH WITH HAMZA ABOVE;SEEN WITH TWO DOTS VERTICALLY ABOVE;
HAH WITH SMALL ARABIC LETTER TAH BELOW;HAH WITH SMALL ARABIC LETTER TAH AND TWO DOTS;
SEEN WITH SMALL ARABIC LETTER TAH AND TWO DOTS;REH WITH SMALL ARABIC LETTER TAH AND TWO DOTS;
HAH WITH SMALL ARABIC LETTER TAH ABOVE;ALEF WITH EXTENDED ARABIC-INDIC DIGIT TWO ABOVE;
ALEF WITH EXTENDED ARABIC-INDIC DIGIT THREE ABOVE;
FARSI YEH WITH EXTENDED ARABIC-INDIC DIGIT TWO ABOVE;
FARSI YEH WITH EXTENDED ARABIC-INDIC DIGIT THREE ABOVE;
FARSI YEH WITH EXTENDED ARABIC-INDIC DIGIT FOUR BELOW;
WAW WITH EXTENDED ARABIC-INDIC DIGIT TWO ABOVE;WAW WITH EXTENDED ARABIC-INDIC DIGIT THREE ABOVE;
YEH BARREE WITH EXTENDED ARABIC-INDIC DIGIT TWO ABOVE;
YEH BARREE WITH EXTENDED ARABIC-INDIC DIGIT THREE ABOVE;
HAH WITH EXTENDED ARABIC-INDIC DIGIT FOUR BELOW;SEEN WITH EXTENDED ARABIC-INDIC DIGIT FOUR ABOVE;
SEEN WITH INVERTED V;KAF WITH TWO DOTS ABOVE.780=THAANA LETTER :HAA;SHAVIYANI;NOONU;RAA;BAA;
LHAVIYANI;KAAFU;ALIFU;VAAVU;MEEMU;FAAFU;DHAALU;THAA;LAAMU;GAAFU;GNAVIYANI;SEENU;DAVIYANI;ZAVIYANI;
TAVIYANI;YAA;PAVIYANI;JAVIYANI;CHAVIYANI;TTAA;HHAA;KHAA;THAALU;ZAA;SHEENU;SAADHU;DAADHU;TO;ZO;AINU;
GHAINU;QAAFU;WAAVU.7A6=THAANA :ABAFILI;AABAAFILI;IBIFILI;EEBEEFILI;UBUFILI;OOBOOFILI;EBEFILI;
EYBEYFILI;OBOFILI;OABOAFILI;SUKUN;LETTER NAA.7C0=NKO :DIGIT ZERO;DIGIT ONE;DIGIT TWO;DIGIT THREE;
DIGIT FOUR;DIGIT FIVE;DIGIT SIX;DIGIT SEVEN;DIGIT EIGHT;DIGIT NINE;LETTER A;LETTER EE;LETTER I;
LETTER E;LETTER U;LETTER OO;LETTER O;LETTER DAGBASINNA;LETTER N;LETTER BA;LETTER PA;LETTER TA;
LETTER JA;LETTER CHA;LETTER DA;LETTER RA;LETTER RRA;LETTER SA;LETTER GBA;LETTER FA;LETTER KA;
LETTER LA;LETTER NA WOLOSO;LETTER MA;LETTER NYA;LETTER NA;LETTER HA;LETTER WA;LETTER YA;
LETTER NYA WOLOSO;LETTER JONA JA;LETTER JONA CHA;LETTER JONA RA;COMBINING SHORT HIGH TONE;
COMBINING SHORT LOW TONE;COMBINING SHORT RISING TONE;COMBINING LONG DESCENDING TONE;
COMBINING LONG HIGH TONE;COMBINING LONG LOW TONE;COMBINING LONG RISING TONE;
COMBINING NASALIZATION MARK;COMBINING DOUBLE DOT ABOVE;HIGH TONE APOSTROPHE;LOW TONE APOSTROPHE;
SYMBOL OO DENNEN;SYMBOL GBAKURUNEN;COMMA;EXCLAMATION MARK;LAJANYALAN.7FD=:NKO DANTAYALAN;
NKO DOROME SIGN;NKO TAMAN SIGN.800=SAMARITAN :LETTER ALAF;LETTER BIT;LETTER GAMAN;LETTER DALAT;
LETTER IY;LETTER BAA;LETTER ZEN;LETTER IT;LETTER TIT;LETTER YUT;LETTER KAAF;LETTER LABAT;
LETTER MIM;LETTER NUN;LETTER SINGAAT;LETTER IN;LETTER FI;LETTER TSAADIY;LETTER QUF;LETTER RISH;
LETTER SHAN;LETTER TAAF;MARK IN;MARK IN-ALAF;MARK OCCLUSION;MARK DAGESH;
MODIFIER LETTER EPENTHETIC YUT;MARK EPENTHETIC YUT;VOWEL SIGN LONG E;VOWEL SIGN E;
VOWEL SIGN OVERLONG AA;VOWEL SIGN LONG AA;VOWEL SIGN AA;VOWEL SIGN OVERLONG A;VOWEL SIGN LONG A;
VOWEL SIGN A;MODIFIER LETTER SHORT A;VOWEL SIGN SHORT A;VOWEL SIGN LONG U;VOWEL SIGN U;
MODIFIER LETTER I;VOWEL SIGN LONG I;VOWEL SIGN I;VOWEL SIGN O;VOWEL SIGN SUKUN;MARK NEQUDAA.
830=SAMARITAN :PUNCTUATION NEQUDAA;PUNCTUATION AFSAAQ;PUNCTUATION ANGED;PUNCTUATION BAU;
PUNCTUATION ATMAAU;PUNCTUATION SHIYYAALAA;ABBREVIATION MARK;PUNCTUATION MELODIC QITSA;
PUNCTUATION ZIQAA;PUNCTUATION QITSA;PUNCTUATION ZAEF;PUNCTUATION TURU;PUNCTUATION ARKAANU;
PUNCTUATION SOF MASHFAAT;PUNCTUATION ANNAAU.840=MANDAIC LETTER :HALQA;AB;AG;AD;AH;USHENNA;AZ;IT;
ATT;AKSA;AK;AL;AM;AN;AS;IN;AP;ASZ;AQ;AR;ASH;AT;DUSHENNA;KAD;AIN.859=MANDAIC :AFFRICATION MARK;
VOCALIZATION MARK;GEMINATION MARK.85E=:MANDAIC PUNCTUATION.860=SYRIAC LETTER MALAYALAM :NGA;JA;NYA;
TTA;NNA;NNNA;BHA;RA;LLA;LLLA;SSA.870=ARABIC LETTER ALEF WITH :ATTACHED FATHA;
ATTACHED TOP RIGHT FATHA;RIGHT MIDDLE STROKE;LEFT MIDDLE STROKE;ATTACHED KASRA;
ATTACHED BOTTOM RIGHT KASRA;ATTACHED ROUND DOT ABOVE;ATTACHED RIGHT ROUND DOT;
ATTACHED LEFT ROUND DOT;ATTACHED ROUND DOT BELOW;DOT ABOVE;ATTACHED TOP RIGHT FATHA AND DOT ABOVE;
RIGHT MIDDLE STROKE AND DOT ABOVE;ATTACHED BOTTOM RIGHT KASRA AND DOT ABOVE;
ATTACHED TOP RIGHT FATHA AND LEFT RING;RIGHT MIDDLE STROKE AND LEFT RING;
ATTACHED BOTTOM RIGHT KASRA AND LEFT RING;ATTACHED RIGHT HAMZA;ATTACHED LEFT HAMZA.883=ARABIC :
TATWEEL WITH OVERSTRUCK HAMZA;TATWEEL WITH OVERSTRUCK WAW;TATWEEL WITH TWO DOTS BELOW;
LETTER THIN YEH;BASELINE ROUND DOT;RAISED ROUND DOT;LETTER NOON WITH INVERTED SMALL V;
LETTER HAH WITH INVERTED SMALL V BELOW;LETTER TAH WITH DOT BELOW;LETTER TAH WITH THREE DOTS BELOW;
LETTER KEHEH WITH TWO DOTS VERTICALLY BELOW;VERTICAL TAIL.890=:ARABIC POUND MARK ABOVE;
ARABIC PIASTRE MARK ABOVE.898=ARABIC :SMALL HIGH WORD AL-JUZ;SMALL LOW WORD ISHMAAM;
SMALL LOW WORD IMAALA;SMALL LOW WORD TASHEEL;MADDA WAAJIB;SUPERSCRIPT ALEF MOKHASSAS;DOUBLED MADDA;
HALF MADDA OVER MADDA;LETTER BEH WITH SMALL V BELOW;LETTER BEH WITH HAMZA ABOVE;
LETTER JEEM WITH TWO DOTS ABOVE;LETTER TAH WITH TWO DOTS ABOVE;
LETTER FEH WITH DOT BELOW AND THREE DOTS ABOVE;LETTER QAF WITH DOT BELOW;
LETTER LAM WITH DOUBLE BAR;LETTER MEEM WITH THREE DOTS ABOVE;
LETTER YEH WITH TWO DOTS BELOW AND HAMZA ABOVE;LETTER YEH WITH TWO DOTS BELOW AND DOT ABOVE;
LETTER REH WITH LOOP;LETTER WAW WITH DOT WITHIN;LETTER ROHINGYA YEH;LETTER LOW ALEF;
LETTER DAL WITH THREE DOTS BELOW;LETTER SAD WITH THREE DOTS BELOW;LETTER GAF WITH INVERTED STROKE;
LETTER STRAIGHT WAW;LETTER ZAIN WITH INVERTED V ABOVE;LETTER AIN WITH THREE DOTS BELOW;
LETTER KAF WITH DOT BELOW;LETTER QAF WITH DOT BELOW AND NO DOTS ABOVE;
LETTER BEH WITH SMALL MEEM ABOVE;LETTER PEH WITH SMALL MEEM ABOVE;LETTER TEH WITH SMALL TEH ABOVE;
LETTER REH WITH SMALL NOON ABOVE;LETTER YEH WITH TWO DOTS BELOW AND SMALL NOON ABOVE;
LETTER AFRICAN FEH;LETTER AFRICAN QAF;LETTER AFRICAN NOON;LETTER PEH WITH SMALL V;
LETTER TEH WITH SMALL V;LETTER TTEH WITH SMALL V;LETTER TCHEH WITH SMALL V;
LETTER KEHEH WITH SMALL V;LETTER GHAIN WITH THREE DOTS ABOVE;
LETTER AFRICAN QAF WITH THREE DOTS ABOVE;LETTER JEEM WITH THREE DOTS ABOVE;
LETTER JEEM WITH THREE DOTS BELOW;LETTER LAM WITH SMALL ARABIC LETTER TAH ABOVE;LETTER GRAF;
SMALL FARSI YEH;SMALL HIGH FARSI YEH;SMALL HIGH YEH BARREE WITH TWO DOTS BELOW;SMALL HIGH WORD SAH;
SMALL HIGH ZAH;LARGE ROUND DOT ABOVE;LARGE ROUND DOT BELOW;SUKUN BELOW;LARGE CIRCLE BELOW;
LARGE ROUND DOT INSIDE CIRCLE BELOW;SMALL LOW WAW;SMALL HIGH WORD AR-RUB;SMALL HIGH SAD;
SMALL HIGH AIN;SMALL HIGH QAF;SMALL HIGH NOON WITH KASRA;SMALL LOW NOON WITH KASRA;
SMALL HIGH WORD ATH-THALATHA;SMALL HIGH WORD AS-SAJDA;SMALL HIGH WORD AN-NISF;
SMALL HIGH WORD SAKTA;SMALL HIGH WORD QIF;SMALL HIGH WORD WAQFA;SMALL HIGH FOOTNOTE MARKER;
SMALL HIGH SIGN SAFHA;DISPUTED END OF AYAH;TURNED DAMMA BELOW;CURLY FATHA;CURLY DAMMA;CURLY KASRA;
CURLY FATHATAN;CURLY DAMMATAN;CURLY KASRATAN;TONE ONE DOT ABOVE;TONE TWO DOTS ABOVE;
TONE LOOP ABOVE;TONE ONE DOT BELOW;TONE TWO DOTS BELOW;TONE LOOP BELOW;OPEN FATHATAN;OPEN DAMMATAN;
OPEN KASRATAN;SMALL HIGH WAW;FATHA WITH RING;FATHA WITH DOT ABOVE;KASRA WITH DOT BELOW;
LEFT ARROWHEAD ABOVE;RIGHT ARROWHEAD ABOVE;LEFT ARROWHEAD BELOW;RIGHT ARROWHEAD BELOW;
DOUBLE RIGHT ARROWHEAD ABOVE;DOUBLE RIGHT ARROWHEAD ABOVE WITH DOT;RIGHT ARROWHEAD ABOVE WITH DOT;
DAMMA WITH DOT;MARK SIDEWAYS NOON GHUNNA."

/-- The names of characters of the scripts of India, with Thai, Lao and Tibetan. -/
def indicNames : String := "
900=DEVANAGARI :SIGN INVERTED CANDRABINDU;SIGN CANDRABINDU;SIGN ANUSVARA;SIGN VISARGA;
LETTER SHORT A;LETTER A;LETTER AA;LETTER I;LETTER II;LETTER U;LETTER UU;LETTER VOCALIC R;
LETTER VOCALIC L;LETTER CANDRA E;LETTER SHORT E;LETTER E;LETTER AI;LETTER CANDRA O;LETTER SHORT O;
LETTER O;LETTER AU;LETTER KA;LETTER KHA;LETTER GA;LETTER GHA;LETTER NGA;LETTER CA;LETTER CHA;
LETTER JA;LETTER JHA;LETTER NYA;LETTER TTA;LETTER TTHA;LETTER DDA;LETTER DDHA;LETTER NNA;LETTER TA;
LETTER THA;LETTER DA;LETTER DHA;LETTER NA;LETTER NNNA;LETTER PA;LETTER PHA;LETTER BA;LETTER BHA;
LETTER MA;LETTER YA;LETTER RA;LETTER RRA;LETTER LA;LETTER LLA;LETTER LLLA;LETTER VA;LETTER SHA;
LETTER SSA;LETTER SA;LETTER HA;VOWEL SIGN OE;VOWEL SIGN OOE;SIGN NUKTA;SIGN AVAGRAHA;VOWEL SIGN AA;
VOWEL SIGN I;VOWEL SIGN II;VOWEL SIGN U;VOWEL SIGN UU;VOWEL SIGN VOCALIC R;VOWEL SIGN VOCALIC RR;
VOWEL SIGN CANDRA E;VOWEL SIGN SHORT E;VOWEL SIGN E;VOWEL SIGN AI;VOWEL SIGN CANDRA O;
VOWEL SIGN SHORT O;VOWEL SIGN O;VOWEL SIGN AU;SIGN VIRAMA;VOWEL SIGN PRISHTHAMATRA E;VOWEL SIGN AW;
OM;STRESS SIGN UDATTA;STRESS SIGN ANUDATTA;GRAVE ACCENT;ACUTE ACCENT;VOWEL SIGN CANDRA LONG E;
VOWEL SIGN UE;VOWEL SIGN UUE;LETTER QA;LETTER KHHA;LETTER GHHA;LETTER ZA;LETTER DDDHA;LETTER RHA;
LETTER FA;LETTER YYA;LETTER VOCALIC RR;LETTER VOCALIC LL;VOWEL SIGN VOCALIC L;
VOWEL SIGN VOCALIC LL;DANDA;DOUBLE DANDA;DIGIT ZERO;DIGIT ONE;DIGIT TWO;DIGIT THREE;DIGIT FOUR;
DIGIT FIVE;DIGIT SIX;DIGIT SEVEN;DIGIT EIGHT;DIGIT NINE;ABBREVIATION SIGN;SIGN HIGH SPACING DOT;
LETTER CANDRA A;LETTER OE;LETTER OOE;LETTER AW;LETTER UE;LETTER UUE;LETTER MARWARI DDA;LETTER ZHA;
LETTER HEAVY YA;LETTER GGA;LETTER JJA;LETTER GLOTTAL STOP;LETTER DDDA;LETTER BBA.980=BENGALI :ANJI;
SIGN CANDRABINDU;SIGN ANUSVARA;SIGN VISARGA.985=BENGALI LETTER :A;AA;I;II;U;UU;VOCALIC R;VOCALIC L.
98F=BENGALI LETTER :E;AI.993=BENGALI LETTER :O;AU;KA;KHA;GA;GHA;NGA;CA;CHA;JA;JHA;NYA;TTA;TTHA;DDA;
DDHA;NNA;TA;THA;DA;DHA;NA.9AA=BENGALI LETTER :PA;PHA;BA;BHA;MA;YA;RA.9B2=:BENGALI LETTER LA.
9B6=BENGALI LETTER :SHA;SSA;SA;HA.9BC=BENGALI :SIGN NUKTA;SIGN AVAGRAHA;VOWEL SIGN AA;VOWEL SIGN I;
VOWEL SIGN II;VOWEL SIGN U;VOWEL SIGN UU;VOWEL SIGN VOCALIC R;VOWEL SIGN VOCALIC RR.
9C7=BENGALI VOWEL SIGN :E;AI.9CB=BENGALI :VOWEL SIGN O;VOWEL SIGN AU;SIGN VIRAMA;LETTER KHANDA TA.
9D7=:BENGALI AU LENGTH MARK.9DC=BENGALI LETTER :RRA;RHA.9DF=BENGALI :LETTER YYA;LETTER VOCALIC RR;
LETTER VOCALIC LL;VOWEL SIGN VOCALIC L;VOWEL SIGN VOCALIC LL.9E6=BENGALI :DIGIT ZERO;DIGIT ONE;
DIGIT TWO;DIGIT THREE;DIGIT FOUR;DIGIT FIVE;DIGIT SIX;DIGIT SEVEN;DIGIT EIGHT;DIGIT NINE;
LETTER RA WITH MIDDLE DIAGONAL;LETTER RA WITH LOWER DIAGONAL;RUPEE MARK;RUPEE SIGN;
CURRENCY NUMERATOR ONE;CURRENCY NUMERATOR TWO;CURRENCY NUMERATOR THREE;CURRENCY NUMERATOR FOUR;
CURRENCY NUMERATOR ONE LESS THAN THE DENOMINATOR;CURRENCY DENOMINATOR SIXTEEN;ISSHAR;GANDA MARK;
LETTER VEDIC ANUSVARA;ABBREVIATION SIGN;SANDHI MARK.A01=GURMUKHI SIGN :ADAK BINDI;BINDI;VISARGA.
A05=GURMUKHI LETTER :A;AA;I;II;U;UU.A0F=GURMUKHI LETTER :EE;AI.A13=GURMUKHI LETTER :OO;AU;KA;KHA;
GA;GHA;NGA;CA;CHA;JA;JHA;NYA;TTA;TTHA;DDA;DDHA;NNA;TA;THA;DA;DHA;NA.A2A=GURMUKHI LETTER :PA;PHA;BA;
BHA;MA;YA;RA.A32=GURMUKHI LETTER :LA;LLA.A35=GURMUKHI LETTER :VA;SHA.A38=GURMUKHI LETTER :SA;HA.
A3C=:GURMUKHI SIGN NUKTA.A3E=GURMUKHI VOWEL SIGN :AA;I;II;U;UU.A47=GURMUKHI VOWEL SIGN :EE;AI.
A4B=GURMUKHI VOWEL SIGN :OO;AU.A4D=:GURMUKHI SIGN VIRAMA.A51=:GURMUKHI SIGN UDAAT.
A59=GURMUKHI LETTER :KHHA;GHHA;ZA;RRA.A5E=:GURMUKHI LETTER FA.A66=GURMUKHI :DIGIT ZERO;DIGIT ONE;
DIGIT TWO;DIGIT THREE;DIGIT FOUR;DIGIT FIVE;DIGIT SIX;DIGIT SEVEN;DIGIT EIGHT;DIGIT NINE;TIPPI;
ADDAK;IRI;URA;EK ONKAR;SIGN YAKASH;ABBREVIATION SIGN.A81=GUJARATI SIGN :CANDRABINDU;ANUSVARA;
VISARGA.A85=GUJARATI LETTER :A;AA;I;II;U;UU;VOCALIC R;VOCALIC L.A8D=:GUJARATI VOWEL CANDRA E.
A8F=GUJARATI :LETTER E;LETTER AI;VOWEL CANDRA O.A93=GUJARATI LETTER :O;AU;KA;KHA;GA;GHA;NGA;CA;CHA;
JA;JHA;NYA;TTA;TTHA;DDA;DDHA;NNA;TA;THA;DA;DHA;NA.AAA=GUJARATI LETTER :PA;PHA;BA;BHA;MA;YA;RA.
AB2=GUJARATI LETTER :LA;LLA.AB5=GUJARATI LETTER :VA;SHA;SSA;SA;HA.ABC=GUJARATI :SIGN NUKTA;
SIGN AVAGRAHA;VOWEL SIGN AA;VOWEL SIGN I;VOWEL SIGN II;VOWEL SIGN U;VOWEL SIGN UU;
VOWEL SIGN VOCALIC R;VOWEL SIGN VOCALIC RR;VOWEL SIGN CANDRA E.AC7=GUJARATI VOWEL SIGN :E;AI;
CANDRA O.ACB=GUJARATI VOWEL SIGN :O;AU.ACD=:GUJARATI SIGN VIRAMA.AD0=:GUJARATI OM.AE0=GUJARATI :
LETTER VOCALIC RR;LETTER VOCALIC LL;VOWEL SIGN VOCALIC L;VOWEL SIGN VOCALIC LL.AE6=GUJARATI DIGIT :
ZERO;ONE;TWO;THREE;FOUR;FIVE;SIX;SEVEN;EIGHT;NINE.AF0=GUJARATI :ABBREVIATION SIGN;RUPEE SIGN.
AF9=GUJARATI :LETTER ZHA;SIGN SUKUN;SIGN SHADDA;SIGN MADDAH;SIGN THREE-DOT NUKTA ABOVE;
SIGN CIRCLE NUKTA ABOVE;SIGN TWO-CIRCLE NUKTA ABOVE.B01=ORIYA SIGN :CANDRABINDU;ANUSVARA;VISARGA.
B05=ORIYA LETTER :A;AA;I;II;U;UU;VOCALIC R;VOCALIC L.B0F=ORIYA LETTER :E;AI.B13=ORIYA LETTER :O;AU;
KA;KHA;GA;GHA;NGA;CA;CHA;JA;JHA;NYA;TTA;TTHA;DDA;DDHA;NNA;TA;THA;DA;DHA;NA.B2A=ORIYA LETTER :PA;
PHA;BA;BHA;MA;YA;RA.B32=ORIYA LETTER :LA;LLA.B35=ORIYA LETTER :VA;SHA;SSA;SA;HA.B3C=ORIYA :
SIGN NUKTA;SIGN AVAGRAHA;VOWEL SIGN AA;VOWEL SIGN I;VOWEL SIGN II;VOWEL SIGN U;VOWEL SIGN UU;
VOWEL SIGN VOCALIC R;VOWEL SIGN VOCALIC RR.B47=ORIYA VOWEL SIGN :E;AI.B4B=ORIYA VOWEL SIGN :O;AU.
B4D=:ORIYA SIGN VIRAMA.B55=ORIYA :SIGN OVERLINE;AI LENGTH MARK;AU LENGTH MARK.B5C=ORIYA LETTER :
RRA;RHA.B5F=ORIYA LETTER :YYA;VOCALIC RR;VOCALIC LL.B62=ORIYA VOWEL SIGN VOCALIC :L;LL.
B66=ORIYA DIGIT :ZERO;ONE;TWO;THREE;FOUR;FIVE;SIX;SEVEN;EIGHT;NINE.B70=ORIYA :ISSHAR;LETTER WA;
FRACTION ONE QUARTER;FRACTION ONE HALF;FRACTION THREE QUARTERS;FRACTION ONE SIXTEENTH;
FRACTION ONE EIGHTH;FRACTION THREE SIXTEENTHS.B82=TAMIL SIGN :ANUSVARA;VISARGA.B85=TAMIL LETTER :A;
AA;I;II;U;UU.B8E=TAMIL LETTER :E;EE;AI.B92=TAMIL LETTER :O;OO;AU;KA.B99=TAMIL LETTER :NGA;CA.B9C=:
TAMIL LETTER JA.B9E=TAMIL LETTER :NYA;TTA.BA3=TAMIL LETTER :NNA;TA.BA8=TAMIL LETTER :NA;NNNA;PA.
BAE=TAMIL LETTER :MA;YA;RA;RRA;LA;LLA;LLLA;VA;SHA;SSA;SA;HA.BBE=TAMIL VOWEL SIGN :AA;I;II;U;UU.
BC6=TAMIL VOWEL SIGN :E;EE;AI.BCA=TAMIL VOWEL SIGN :O;OO;AU.BCD=:TAMIL SIGN VIRAMA.BD0=:TAMIL OM.
BD7=:TAMIL AU LENGTH MARK.BE6=TAMIL :DIGIT ZERO;DIGIT ONE;DIGIT TWO;DIGIT THREE;DIGIT FOUR;
DIGIT FIVE;DIGIT SIX;DIGIT SEVEN;DIGIT EIGHT;DIGIT NINE;NUMBER TEN;NUMBER ONE HUNDRED;
NUMBER ONE THOUSAND;DAY SIGN;MONTH SIGN;YEAR SIGN;DEBIT SIGN;CREDIT SIGN;AS ABOVE SIGN;RUPEE SIGN;
NUMBER SIGN.C00=TELUGU :SIGN COMBINING CANDRABINDU ABOVE;SIGN CANDRABINDU;SIGN ANUSVARA;
SIGN VISARGA;SIGN COMBINING ANUSVARA ABOVE;LETTER A;LETTER AA;LETTER I;LETTER II;LETTER U;
LETTER UU;LETTER VOCALIC R;LETTER VOCALIC L.C0E=TELUGU LETTER :E;EE;AI.C12=TELUGU LETTER :O;OO;AU;
KA;KHA;GA;GHA;NGA;CA;CHA;JA;JHA;NYA;TTA;TTHA;DDA;DDHA;NNA;TA;THA;DA;DHA;NA.C2A=TELUGU LETTER :PA;
PHA;BA;BHA;MA;YA;RA;RRA;LA;LLA;LLLA;VA;SHA;SSA;SA;HA.C3C=TELUGU :SIGN NUKTA;SIGN AVAGRAHA;
VOWEL SIGN AA;VOWEL SIGN I;VOWEL SIGN II;VOWEL SIGN U;VOWEL SIGN UU;VOWEL SIGN VOCALIC R;
VOWEL SIGN VOCALIC RR.C46=TELUGU VOWEL SIGN :E;EE;AI.C4A=TELUGU VOWEL SIGN :O;OO;AU.C4D=:
TELUGU SIGN VIRAMA.C55=:TELUGU LENGTH MARK;TELUGU AI LENGTH MARK.C58=TELUGU LETTER :TSA;DZA;RRRA.
C5D=:TELUGU LETTER NAKAARA POLLU.C60=TELUGU LETTER VOCALIC :RR;LL.C62=TELUGU VOWEL SIGN VOCALIC :L;
LL.C66=TELUGU DIGIT :ZERO;ONE;TWO;THREE;FOUR;FIVE;SIX;SEVEN;EIGHT;NINE.C77=TELUGU :SIGN SIDDHAM;
FRACTION DIGIT ZERO FOR ODD POWERS OF FOUR;FRACTION DIGIT ONE FOR ODD POWERS OF FOUR;
FRACTION DIGIT TWO FOR ODD POWERS OF FOUR;FRACTION DIGIT THREE FOR ODD POWERS OF FOUR;
FRACTION DIGIT ONE FOR EVEN POWERS OF FOUR;FRACTION DIGIT TWO FOR EVEN POWERS OF FOUR;
FRACTION DIGIT THREE FOR EVEN POWERS OF FOUR;SIGN TUUMU.C80=KANNADA :SIGN SPACING CANDRABINDU;
SIGN CANDRABINDU;SIGN ANUSVARA;SIGN VISARGA;SIGN SIDDHAM;LETTER A;LETTER AA;LETTER I;LETTER II;
LETTER U;LETTER UU;LETTER VOCALIC R;LETTER VOCALIC L.C8E=KANNADA LETTER :E;EE;AI.
C92=KANNADA LETTER :O;OO;AU;KA;KHA;GA;GHA;NGA;CA;CHA;JA;JHA;NYA;TTA;TTHA;DDA;DDHA;NNA;TA;THA;DA;
DHA;NA.CAA=KANNADA LETTER :PA;PHA;BA;BHA;MA;YA;RA;RRA;LA;LLA.CB5=KANNADA LETTER :VA;SHA;SSA;SA;HA.
CBC=KANNADA :SIGN NUKTA;SIGN AVAGRAHA;VOWEL SIGN AA;VOWEL SIGN I;VOWEL SIGN II;VOWEL SIGN U;
VOWEL SIGN UU;VOWEL SIGN VOCALIC R;VOWEL SIGN VOCALIC RR.CC6=KANNADA VOWEL SIGN :E;EE;AI.
CCA=KANNADA VOWEL SIGN :O;OO;AU.CCD=:KANNADA SIGN VIRAMA.CD5=:KANNADA LENGTH MARK;
KANNADA AI LENGTH MARK.CDD=KANNADA LETTER :NAKAARA POLLU;FA.CE0=KANNADA :LETTER VOCALIC RR;
LETTER VOCALIC LL;VOWEL SIGN VOCALIC L;VOWEL SIGN VOCALIC LL.CE6=KANNADA DIGIT :ZERO;ONE;TWO;THREE;
FOUR;FIVE;SIX;SEVEN;EIGHT;NINE.CF1=KANNADA SIGN :JIHVAMULIYA;UPADHMANIYA.D00=MALAYALAM :
SIGN COMBINING ANUSVARA ABOVE;SIGN CANDRABINDU;SIGN ANUSVARA;SIGN VISARGA;LETTER VEDIC ANUSVARA;
LETTER A;LETTER AA;LETTER I;LETTER II;LETTER U;LETTER UU;LETTER VOCALIC R;LETTER VOCALIC L.
D0E=MALAYALAM LETTER :E;EE;AI.D12=MALAYALAM LETTER :O;OO;AU;KA;KHA;GA;GHA;NGA;CA;CHA;JA;JHA;NYA;
TTA;TTHA;DDA;DDHA;NNA;TA;THA;DA;DHA;NA;NNNA;PA;PHA;BA;BHA;MA;YA;RA;RRA;LA;LLA;LLLA;VA;SHA;SSA;SA;
HA;TTTA.D3B=MALAYALAM :SIGN VERTICAL BAR VIRAMA;SIGN CIRCULAR VIRAMA;SIGN AVAGRAHA;VOWEL SIGN AA;
VOWEL SIGN I;VOWEL SIGN II;VOWEL SIGN U;VOWEL SIGN UU;VOWEL SIGN VOCALIC R;VOWEL SIGN VOCALIC RR.
D46=MALAYALAM VOWEL SIGN :E;EE;AI.D4A=MALAYALAM :VOWEL SIGN O;VOWEL SIGN OO;VOWEL SIGN AU;
SIGN VIRAMA;LETTER DOT REPH;SIGN PARA.D54=MALAYALAM :LETTER CHILLU M;LETTER CHILLU Y;
LETTER CHILLU LLL;AU LENGTH MARK;FRACTION ONE ONE-HUNDRED-AND-SIXTIETH;FRACTION ONE FORTIETH;
FRACTION THREE EIGHTIETHS;FRACTION ONE TWENTIETH;FRACTION ONE TENTH;FRACTION THREE TWENTIETHS;
FRACTION ONE FIFTH;LETTER ARCHAIC II;LETTER VOCALIC RR;LETTER VOCALIC LL;VOWEL SIGN VOCALIC L;
VOWEL SIGN VOCALIC LL.D66=MALAYALAM :DIGIT ZERO;DIGIT ONE;DIGIT TWO;DIGIT THREE;DIGIT FOUR;
DIGIT FIVE;DIGIT SIX;DIGIT SEVEN;DIGIT EIGHT;DIGIT NINE;NUMBER TEN;NUMBER ONE HUNDRED;
NUMBER ONE THOUSAND;FRACTION ONE QUARTER;FRACTION ONE HALF;FRACTION THREE QUARTERS;
FRACTION ONE SIXTEENTH;FRACTION ONE EIGHTH;FRACTION THREE SIXTEENTHS;DATE MARK;LETTER CHILLU NN;
LETTER CHILLU N;LETTER CHILLU RR;LETTER CHILLU L;LETTER CHILLU LL;LETTER CHILLU K.
D81=SINHALA SIGN :CANDRABINDU;ANUSVARAYA;VISARGAYA.D85=SINHALA LETTER :AYANNA;AAYANNA;AEYANNA;
AEEYANNA;IYANNA;IIYANNA;UYANNA;UUYANNA;IRUYANNA;IRUUYANNA;ILUYANNA;ILUUYANNA;EYANNA;EEYANNA;
AIYANNA;OYANNA;OOYANNA;AUYANNA.D9A=SINHALA LETTER :ALPAPRAANA KAYANNA;MAHAAPRAANA KAYANNA;
ALPAPRAANA GAYANNA;MAHAAPRAANA GAYANNA;KANTAJA NAASIKYAYA;SANYAKA GAYANNA;ALPAPRAANA CAYANNA;
MAHAAPRAANA CAYANNA;ALPAPRAANA JAYANNA;MAHAAPRAANA JAYANNA;TAALUJA NAASIKYAYA;
TAALUJA SANYOOGA NAAKSIKYAYA;SANYAKA JAYANNA;ALPAPRAANA TTAYANNA;MAHAAPRAANA TTAYANNA;
ALPAPRAANA DDAYANNA;MAHAAPRAANA DDAYANNA;MUURDHAJA NAYANNA;SANYAKA DDAYANNA;ALPAPRAANA TAYANNA;
MAHAAPRAANA TAYANNA;ALPAPRAANA DAYANNA;MAHAAPRAANA DAYANNA;DANTAJA NAYANNA.DB3=SINHALA LETTER :
SANYAKA DAYANNA;ALPAPRAANA PAYANNA;MAHAAPRAANA PAYANNA;ALPAPRAANA BAYANNA;MAHAAPRAANA BAYANNA;
MAYANNA;AMBA BAYANNA;YAYANNA;RAYANNA.DBD=:SINHALA LETTER DANTAJA LAYANNA.DC0=SINHALA LETTER :
VAYANNA;TAALUJA SAYANNA;MUURDHAJA SAYANNA;DANTAJA SAYANNA;HAYANNA;MUURDHAJA LAYANNA;FAYANNA.DCA=:
SINHALA SIGN AL-LAKUNA.DCF=SINHALA VOWEL SIGN :AELA-PILLA;KETTI AEDA-PILLA;DIGA AEDA-PILLA;
KETTI IS-PILLA;DIGA IS-PILLA;KETTI PAA-PILLA.DD6=:SINHALA VOWEL SIGN DIGA PAA-PILLA.
DD8=SINHALA VOWEL SIGN :GAETTA-PILLA;KOMBUVA;DIGA KOMBUVA;KOMBU DEKA;KOMBUVA HAA AELA-PILLA;
KOMBUVA HAA DIGA AELA-PILLA;KOMBUVA HAA GAYANUKITTA;GAYANUKITTA.DE6=SINHALA LITH DIGIT :ZERO;ONE;
TWO;THREE;FOUR;FIVE;SIX;SEVEN;EIGHT;NINE.DF2=SINHALA VOWEL SIGN DIGA :GAETTA-PILLA;GAYANUKITTA.
DF4=:SINHALA PUNCTUATION KUNDDALIYA.E01=THAI CHARACTER :KO KAI;KHO KHAI;KHO KHUAT;KHO KHWAI;
KHO KHON;KHO RAKHANG;NGO NGU;CHO CHAN;CHO CHING;CHO CHANG;SO SO;CHO CHOE;YO YING;DO CHADA;TO PATAK;
THO THAN;THO NANGMONTHO;THO PHUTHAO;NO NEN;DO DEK;TO TAO;THO THUNG;THO THAHAN;THO THONG;NO NU;
BO BAIMAI;PO PLA;PHO PHUNG;FO FA;PHO PHAN;FO FAN;PHO SAMPHAO;MO MA;YO YAK;RO RUA;RU;LO LING;LU;
WO WAEN;SO SALA;SO RUSI;SO SUA;HO HIP;LO CHULA;O ANG;HO NOKHUK;PAIYANNOI;SARA A;MAI HAN-AKAT;
SARA AA;SARA AM;SARA I;SARA II;SARA UE;SARA UEE;SARA U;SARA UU;PHINTHU.E3F=THAI :
CURRENCY SYMBOL BAHT;CHARACTER SARA E;CHARACTER SARA AE;CHARACTER SARA O;CHARACTER SARA AI MAIMUAN;
CHARACTER SARA AI MAIMALAI;CHARACTER LAKKHANGYAO;CHARACTER MAIYAMOK;CHARACTER MAITAIKHU;
CHARACTER MAI EK;CHARACTER MAI THO;CHARACTER MAI TRI;CHARACTER MAI CHATTAWA;CHARACTER THANTHAKHAT;
CHARACTER NIKHAHIT;CHARACTER YAMAKKAN;CHARACTER FONGMAN;DIGIT ZERO;DIGIT ONE;DIGIT TWO;DIGIT THREE;
DIGIT FOUR;DIGIT FIVE;DIGIT SIX;DIGIT SEVEN;DIGIT EIGHT;DIGIT NINE;CHARACTER ANGKHANKHU;
CHARACTER KHOMUT.E81=LAO LETTER :KO;KHO SUNG.E84=:LAO LETTER KHO TAM.E86=LAO LETTER :PALI GHA;NGO;
CO;PALI CHA;SO TAM.E8C=LAO LETTER :PALI JHA;NYO;PALI NYA;PALI TTA;PALI TTHA;PALI DDA;PALI DDHA;
PALI NNA;DO;TO;THO SUNG;THO TAM;PALI DHA;NO;BO;PO;PHO SUNG;FO TAM;PHO TAM;FO SUNG;PALI BHA;MO;YO;
LO LING.EA5=:LAO LETTER LO LOOT.EA7=LAO :LETTER WO;LETTER SANSKRIT SHA;LETTER SANSKRIT SSA;
LETTER SO SUNG;LETTER HO SUNG;LETTER PALI LLA;LETTER O;LETTER HO TAM;ELLIPSIS;VOWEL SIGN A;
VOWEL SIGN MAI KAN;VOWEL SIGN AA;VOWEL SIGN AM;VOWEL SIGN I;VOWEL SIGN II;VOWEL SIGN Y;
VOWEL SIGN YY;VOWEL SIGN U;VOWEL SIGN UU;SIGN PALI VIRAMA;VOWEL SIGN MAI KON;SEMIVOWEL SIGN LO;
SEMIVOWEL SIGN NYO.EC0=LAO VOWEL SIGN :E;EI;O;AY;AI.EC6=:LAO KO LA.EC8=LAO TONE MAI :EK;THO;TI;
CATAWA.ECC=:LAO CANCELLATION MARK;LAO NIGGAHITA.ED0=LAO DIGIT :ZERO;ONE;TWO;THREE;FOUR;FIVE;SIX;
SEVEN;EIGHT;NINE.EDC=LAO :HO NO;HO MO;LETTER KHMU GO;LETTER KHMU NYO.F00=TIBETAN :SYLLABLE OM;
MARK GTER YIG MGO TRUNCATED A;MARK GTER YIG MGO -UM RNAM BCAD MA;
MARK GTER YIG MGO -UM GTER TSHEG MA;MARK INITIAL YIG MGO MDUN MA;MARK CLOSING YIG MGO SGAB MA;
MARK CARET YIG MGO PHUR SHAD MA;MARK YIG MGO TSHEG SHAD MA;MARK SBRUL SHAD;MARK BSKUR YIG MGO;
MARK BKA- SHOG YIG MGO;MARK INTERSYLLABIC TSHEG;MARK DELIMITER TSHEG BSTAR;MARK SHAD;
MARK NYIS SHAD;MARK TSHEG SHAD;MARK NYIS TSHEG SHAD;MARK RIN CHEN SPUNGS SHAD;MARK RGYA GRAM SHAD;
MARK CARET -DZUD RTAGS ME LONG CAN;MARK GTER TSHEG;LOGOTYPE SIGN CHAD RTAGS;
LOGOTYPE SIGN LHAG RTAGS;ASTROLOGICAL SIGN SGRA GCAN -CHAR RTAGS;ASTROLOGICAL SIGN -KHYUD PA;
ASTROLOGICAL SIGN SDONG TSHUGS;SIGN RDEL DKAR GCIG;SIGN RDEL DKAR GNYIS;SIGN RDEL DKAR GSUM;
SIGN RDEL NAG GCIG;SIGN RDEL NAG GNYIS;SIGN RDEL DKAR RDEL NAG;DIGIT ZERO;DIGIT ONE;DIGIT TWO;
DIGIT THREE;DIGIT FOUR;DIGIT FIVE;DIGIT SIX;DIGIT SEVEN;DIGIT EIGHT;DIGIT NINE;DIGIT HALF ONE;
DIGIT HALF TWO;DIGIT HALF THREE;DIGIT HALF FOUR;DIGIT HALF FIVE;DIGIT HALF SIX;DIGIT HALF SEVEN;
DIGIT HALF EIGHT;DIGIT HALF NINE;DIGIT HALF ZERO;MARK BSDUS RTAGS;MARK NGAS BZUNG NYI ZLA;
MARK CARET -DZUD RTAGS BZHI MIG CAN;MARK NGAS BZUNG SGOR RTAGS;MARK CHE MGO;MARK TSA -PHRU;
MARK GUG RTAGS GYON;MARK GUG RTAGS GYAS;MARK ANG KHANG GYON;MARK ANG KHANG GYAS;SIGN YAR TSHES;
SIGN MAR TSHES;LETTER KA;LETTER KHA;LETTER GA;LETTER GHA;LETTER NGA;LETTER CA;LETTER CHA;LETTER JA.
F49=TIBETAN LETTER :NYA;TTA;TTHA;DDA;DDHA;NNA;TA;THA;DA;DHA;NA;PA;PHA;BA;BHA;MA;TSA;TSHA;DZA;DZHA;
WA;ZHA;ZA;-A;YA;RA;LA;SHA;SSA;SA;HA;A;KSSA;FIXED-FORM RA;KKA;RRA.F71=TIBETAN :VOWEL SIGN AA;
VOWEL SIGN I;VOWEL SIGN II;VOWEL SIGN U;VOWEL SIGN UU;VOWEL SIGN VOCALIC R;VOWEL SIGN VOCALIC RR;
VOWEL SIGN VOCALIC L;VOWEL SIGN VOCALIC LL;VOWEL SIGN E;VOWEL SIGN EE;VOWEL SIGN O;VOWEL SIGN OO;
SIGN RJES SU NGA RO;SIGN RNAM BCAD;VOWEL SIGN REVERSED I;VOWEL SIGN REVERSED II;
SIGN NYI ZLA NAA DA;SIGN SNA LDAN;MARK HALANTA;MARK PALUTA;SIGN LCI RTAGS;SIGN YANG RTAGS;
SIGN LCE TSA CAN;SIGN MCHU CAN;SIGN GRU CAN RGYINGS;SIGN GRU MED RGYINGS;SIGN INVERTED MCHU CAN;
SUBJOINED SIGN LCE TSA CAN;SUBJOINED SIGN MCHU CAN;SUBJOINED SIGN INVERTED MCHU CAN;
SUBJOINED LETTER KA;SUBJOINED LETTER KHA;SUBJOINED LETTER GA;SUBJOINED LETTER GHA;
SUBJOINED LETTER NGA;SUBJOINED LETTER CA;SUBJOINED LETTER CHA;SUBJOINED LETTER JA.
F99=TIBETAN SUBJOINED LETTER :NYA;TTA;TTHA;DDA;DDHA;NNA;TA;THA;DA;DHA;NA;PA;PHA;BA;BHA;MA;TSA;TSHA;
DZA;DZHA;WA;ZHA;ZA;-A;YA;RA;LA;SHA;SSA;SA;HA;A;KSSA;FIXED-FORM WA;FIXED-FORM YA;FIXED-FORM RA.
FBE=TIBETAN :KU RU KHA;KU RU KHA BZHI MIG CAN;CANTILLATION SIGN HEAVY BEAT;
CANTILLATION SIGN LIGHT BEAT;CANTILLATION SIGN CANG TE-U;CANTILLATION SIGN SBUB -CHAL;
SYMBOL DRIL BU;SYMBOL RDO RJE;SYMBOL PADMA GDAN;SYMBOL RDO RJE RGYA GRAM;SYMBOL PHUR PA;
SYMBOL NOR BU;SYMBOL NOR BU NYIS -KHYIL;SYMBOL NOR BU GSUM -KHYIL;SYMBOL NOR BU BZHI -KHYIL.
FCE=TIBETAN :SIGN RDEL NAG RDEL DKAR;SIGN RDEL NAG GSUM;MARK BSKA- SHOG GI MGO RGYAN;
MARK MNYAM YIG GI MGO RGYAN;MARK NYIS TSHEG;MARK INITIAL BRDA RNYING YIG MGO MDUN MA;
MARK CLOSING BRDA RNYING YIG MGO SGAB MA.FD5=:RIGHT-FACING SVASTI SIGN;LEFT-FACING SVASTI SIGN;
RIGHT-FACING SVASTI SIGN WITH DOTS;LEFT-FACING SVASTI SIGN WITH DOTS.FD9=TIBETAN MARK :
LEADING MCHAN RTAGS;TRAILING MCHAN RTAGS."

/-- The names of characters of the scripts from Burma and Georgia to Korea, and of those of
America. -/
def orientalNames : String := "
1000=MYANMAR :LETTER KA;LETTER KHA;LETTER GA;LETTER GHA;LETTER NGA;LETTER CA;LETTER CHA;LETTER JA;
LETTER JHA;LETTER NYA;LETTER NNYA;LETTER TTA;LETTER TTHA;LETTER DDA;LETTER DDHA;LETTER NNA;
LETTER TA;LETTER THA;LETTER DA;LETTER DHA;LETTER NA;LETTER PA;LETTER PHA;LETTER BA;LETTER BHA;
LETTER MA;LETTER YA;LETTER RA;LETTER LA;LETTER WA;LETTER SA;LETTER HA;LETTER LLA;LETTER A;
LETTER SHAN A;LETTER I;LETTER II;LETTER U;LETTER UU;LETTER E;LETTER MON E;LETTER O;LETTER AU;
VOWEL SIGN TALL AA;VOWEL SIGN AA;VOWEL SIGN I;VOWEL SIGN II;VOWEL SIGN U;VOWEL SIGN UU;
VOWEL SIGN E;VOWEL SIGN AI;VOWEL SIGN MON II;VOWEL SIGN MON O;VOWEL SIGN E ABOVE;SIGN ANUSVARA;
SIGN DOT BELOW;SIGN VISARGA;SIGN VIRAMA;SIGN ASAT;CONSONANT SIGN MEDIAL YA;
CONSONANT SIGN MEDIAL RA;CONSONANT SIGN MEDIAL WA;CONSONANT SIGN MEDIAL HA;LETTER GREAT SA;
DIGIT ZERO;DIGIT ONE;DIGIT TWO;DIGIT THREE;DIGIT FOUR;DIGIT FIVE;DIGIT SIX;DIGIT SEVEN;DIGIT EIGHT;
DIGIT NINE;SIGN LITTLE SECTION;SIGN SECTION;SYMBOL LOCATIVE;SYMBOL COMPLETED;SYMBOL AFOREMENTIONED;
SYMBOL GENITIVE;LETTER SHA;LETTER SSA;LETTER VOCALIC R;LETTER VOCALIC RR;LETTER VOCALIC L;
LETTER VOCALIC LL;VOWEL SIGN VOCALIC R;VOWEL SIGN VOCALIC RR;VOWEL SIGN VOCALIC L;
VOWEL SIGN VOCALIC LL;LETTER MON NGA;LETTER MON JHA;LETTER MON BBA;LETTER MON BBE;
CONSONANT SIGN MON MEDIAL NA;CONSONANT SIGN MON MEDIAL MA;CONSONANT SIGN MON MEDIAL LA;
LETTER SGAW KAREN SHA;VOWEL SIGN SGAW KAREN EU;TONE MARK SGAW KAREN HATHI;
TONE MARK SGAW KAREN KE PHO;LETTER WESTERN PWO KAREN THA;LETTER WESTERN PWO KAREN PWA;
VOWEL SIGN WESTERN PWO KAREN EU;VOWEL SIGN WESTERN PWO KAREN UE;SIGN WESTERN PWO KAREN TONE-1;
SIGN WESTERN PWO KAREN TONE-2;SIGN WESTERN PWO KAREN TONE-3;SIGN WESTERN PWO KAREN TONE-4;
SIGN WESTERN PWO KAREN TONE-5;LETTER EASTERN PWO KAREN NNA;LETTER EASTERN PWO KAREN YWA;
LETTER EASTERN PWO KAREN GHWA;VOWEL SIGN GEBA KAREN I;VOWEL SIGN KAYAH OE;VOWEL SIGN KAYAH U;
VOWEL SIGN KAYAH EE;LETTER SHAN KA;LETTER SHAN KHA;LETTER SHAN GA;LETTER SHAN CA;LETTER SHAN ZA;
LETTER SHAN NYA;LETTER SHAN DA;LETTER SHAN NA;LETTER SHAN PHA;LETTER SHAN FA;LETTER SHAN BA;
LETTER SHAN THA;LETTER SHAN HA;CONSONANT SIGN SHAN MEDIAL WA;VOWEL SIGN SHAN AA;VOWEL SIGN SHAN E;
VOWEL SIGN SHAN E ABOVE;VOWEL SIGN SHAN FINAL Y;SIGN SHAN TONE-2;SIGN SHAN TONE-3;SIGN SHAN TONE-5;
SIGN SHAN TONE-6;SIGN SHAN COUNCIL TONE-2;SIGN SHAN COUNCIL TONE-3;SIGN SHAN COUNCIL EMPHATIC TONE;
LETTER RUMAI PALAUNG FA;SIGN RUMAI PALAUNG TONE-5;SHAN DIGIT ZERO;SHAN DIGIT ONE;SHAN DIGIT TWO;
SHAN DIGIT THREE;SHAN DIGIT FOUR;SHAN DIGIT FIVE;SHAN DIGIT SIX;SHAN DIGIT SEVEN;SHAN DIGIT EIGHT;
SHAN DIGIT NINE;SIGN KHAMTI TONE-1;SIGN KHAMTI TONE-3;VOWEL SIGN AITON A;VOWEL SIGN AITON AI;
SYMBOL SHAN ONE;SYMBOL SHAN EXCLAMATION.10A0=GEORGIAN CAPITAL LETTER :AN;BAN;GAN;DON;EN;VIN;ZEN;
TAN;IN;KAN;LAS;MAN;NAR;ON;PAR;ZHAR;RAE;SAN;TAR;UN;PHAR;KHAR;GHAN;QAR;SHIN;CHIN;CAN;JIL;CIL;CHAR;
XAN;JHAN;HAE;HE;HIE;WE;HAR;HOE.10C7=:GEORGIAN CAPITAL LETTER YN.10CD=:GEORGIAN CAPITAL LETTER AEN.
10D0=GEORGIAN LETTER :AN;BAN;GAN;DON;EN;VIN;ZEN;TAN;IN;KAN;LAS;MAN;NAR;ON;PAR;ZHAR;RAE;SAN;TAR;UN;
PHAR;KHAR;GHAN;QAR;SHIN;CHIN;CAN;JIL;CIL;CHAR;XAN;JHAN;HAE;HE;HIE;WE;HAR;HOE;FI;YN;ELIFI;
TURNED GAN;AIN.10FB=:GEORGIAN PARAGRAPH SEPARATOR;MODIFIER LETTER GEORGIAN NAR.
10FD=GEORGIAN LETTER :AEN;HARD SIGN;LABIAL SIGN.1100=HANGUL :CHOSEONG KIYEOK;CHOSEONG SSANGKIYEOK;
CHOSEONG NIEUN;CHOSEONG TIKEUT;CHOSEONG SSANGTIKEUT;CHOSEONG RIEUL;CHOSEONG MIEUM;CHOSEONG PIEUP;
CHOSEONG SSANGPIEUP;CHOSEONG SIOS;CHOSEONG SSANGSIOS;CHOSEONG IEUNG;CHOSEONG CIEUC;
CHOSEONG SSANGCIEUC;CHOSEONG CHIEUCH;CHOSEONG KHIEUKH;CHOSEONG THIEUTH;CHOSEONG PHIEUPH;
CHOSEONG HIEUH;CHOSEONG NIEUN-KIYEOK;CHOSEONG SSANGNIEUN;CHOSEONG NIEUN-TIKEUT;
CHOSEONG NIEUN-PIEUP;CHOSEONG TIKEUT-KIYEOK;CHOSEONG RIEUL-NIEUN;CHOSEONG SSANGRIEUL;
CHOSEONG RIEUL-HIEUH;CHOSEONG KAPYEOUNRIEUL;CHOSEONG MIEUM-PIEUP;CHOSEONG KAPYEOUNMIEUM;
CHOSEONG PIEUP-KIYEOK;CHOSEONG PIEUP-NIEUN;CHOSEONG PIEUP-TIKEUT;CHOSEONG PIEUP-SIOS;
CHOSEONG PIEUP-SIOS-KIYEOK;CHOSEONG PIEUP-SIOS-TIKEUT;CHOSEONG PIEUP-SIOS-PIEUP;
CHOSEONG PIEUP-SSANGSIOS;CHOSEONG PIEUP-SIOS-CIEUC;CHOSEONG PIEUP-CIEUC;CHOSEONG PIEUP-CHIEUCH;
CHOSEONG PIEUP-THIEUTH;CHOSEONG PIEUP-PHIEUPH;CHOSEONG KAPYEOUNPIEUP;CHOSEONG KAPYEOUNSSANGPIEUP;
CHOSEONG SIOS-KIYEOK;CHOSEONG SIOS-NIEUN;CHOSEONG SIOS-TIKEUT;CHOSEONG SIOS-RIEUL;
CHOSEONG SIOS-MIEUM;CHOSEONG SIOS-PIEUP;CHOSEONG SIOS-PIEUP-KIYEOK;CHOSEONG SIOS-SSANGSIOS;
CHOSEONG SIOS-IEUNG;CHOSEONG SIOS-CIEUC;CHOSEONG SIOS-CHIEUCH;CHOSEONG SIOS-KHIEUKH;
CHOSEONG SIOS-THIEUTH;CHOSEONG SIOS-PHIEUPH;CHOSEONG SIOS-HIEUH;CHOSEONG CHITUEUMSIOS;
CHOSEONG CHITUEUMSSANGSIOS;CHOSEONG CEONGCHIEUMSIOS;CHOSEONG CEONGCHIEUMSSANGSIOS;CHOSEONG PANSIOS;
CHOSEONG IEUNG-KIYEOK;CHOSEONG IEUNG-TIKEUT;CHOSEONG IEUNG-MIEUM;CHOSEONG IEUNG-PIEUP;
CHOSEONG IEUNG-SIOS;CHOSEONG IEUNG-PANSIOS;CHOSEONG SSANGIEUNG;CHOSEONG IEUNG-CIEUC;
CHOSEONG IEUNG-CHIEUCH;CHOSEONG IEUNG-THIEUTH;CHOSEONG IEUNG-PHIEUPH;CHOSEONG YESIEUNG;
CHOSEONG CIEUC-IEUNG;CHOSEONG CHITUEUMCIEUC;CHOSEONG CHITUEUMSSANGCIEUC;CHOSEONG CEONGCHIEUMCIEUC;
CHOSEONG CEONGCHIEUMSSANGCIEUC;CHOSEONG CHIEUCH-KHIEUKH;CHOSEONG CHIEUCH-HIEUH;
CHOSEONG CHITUEUMCHIEUCH;CHOSEONG CEONGCHIEUMCHIEUCH;CHOSEONG PHIEUPH-PIEUP;
CHOSEONG KAPYEOUNPHIEUPH;CHOSEONG SSANGHIEUH;CHOSEONG YEORINHIEUH;CHOSEONG KIYEOK-TIKEUT;
CHOSEONG NIEUN-SIOS;CHOSEONG NIEUN-CIEUC;CHOSEONG NIEUN-HIEUH;CHOSEONG TIKEUT-RIEUL;
CHOSEONG FILLER;JUNGSEONG FILLER;JUNGSEONG A;JUNGSEONG AE;JUNGSEONG YA;JUNGSEONG YAE;JUNGSEONG EO;
JUNGSEONG E;JUNGSEONG YEO;JUNGSEONG YE;JUNGSEONG O;JUNGSEONG WA;JUNGSEONG WAE;JUNGSEONG OE;
JUNGSEONG YO;JUNGSEONG U;JUNGSEONG WEO;JUNGSEONG WE;JUNGSEONG WI;JUNGSEONG YU;JUNGSEONG EU;
JUNGSEONG YI;JUNGSEONG I;JUNGSEONG A-O;JUNGSEONG A-U;JUNGSEONG YA-O;JUNGSEONG YA-YO;JUNGSEONG EO-O;
JUNGSEONG EO-U;JUNGSEONG EO-EU;JUNGSEONG YEO-O;JUNGSEONG YEO-U;JUNGSEONG O-EO;JUNGSEONG O-E;
JUNGSEONG O-YE;JUNGSEONG O-O;JUNGSEONG O-U;JUNGSEONG YO-YA;JUNGSEONG YO-YAE;JUNGSEONG YO-YEO;
JUNGSEONG YO-O;JUNGSEONG YO-I;JUNGSEONG U-A;JUNGSEONG U-AE;JUNGSEONG U-EO-EU;JUNGSEONG U-YE;
JUNGSEONG U-U;JUNGSEONG YU-A;JUNGSEONG YU-EO;JUNGSEONG YU-E;JUNGSEONG YU-YEO;JUNGSEONG YU-YE;
JUNGSEONG YU-U;JUNGSEONG YU-I;JUNGSEONG EU-U;JUNGSEONG EU-EU;JUNGSEONG YI-U;JUNGSEONG I-A;
JUNGSEONG I-YA;JUNGSEONG I-O;JUNGSEONG I-U;JUNGSEONG I-EU;JUNGSEONG I-ARAEA;JUNGSEONG ARAEA;
JUNGSEONG ARAEA-EO;JUNGSEONG ARAEA-U;JUNGSEONG ARAEA-I;JUNGSEONG SSANGARAEA;JUNGSEONG A-EU;
JUNGSEONG YA-U;JUNGSEONG YEO-YA;JUNGSEONG O-YA;JUNGSEONG O-YAE;JONGSEONG KIYEOK;
JONGSEONG SSANGKIYEOK;JONGSEONG KIYEOK-SIOS;JONGSEONG NIEUN;JONGSEONG NIEUN-CIEUC;
JONGSEONG NIEUN-HIEUH;JONGSEONG TIKEUT;JONGSEONG RIEUL;JONGSEONG RIEUL-KIYEOK;
JONGSEONG RIEUL-MIEUM;JONGSEONG RIEUL-PIEUP;JONGSEONG RIEUL-SIOS;JONGSEONG RIEUL-THIEUTH;
JONGSEONG RIEUL-PHIEUPH;JONGSEONG RIEUL-HIEUH;JONGSEONG MIEUM;JONGSEONG PIEUP;JONGSEONG PIEUP-SIOS;
JONGSEONG SIOS;JONGSEONG SSANGSIOS;JONGSEONG IEUNG;JONGSEONG CIEUC;JONGSEONG CHIEUCH;
JONGSEONG KHIEUKH;JONGSEONG THIEUTH;JONGSEONG PHIEUPH;JONGSEONG HIEUH;JONGSEONG KIYEOK-RIEUL;
JONGSEONG KIYEOK-SIOS-KIYEOK;JONGSEONG NIEUN-KIYEOK;JONGSEONG NIEUN-TIKEUT;JONGSEONG NIEUN-SIOS;
JONGSEONG NIEUN-PANSIOS;JONGSEONG NIEUN-THIEUTH;JONGSEONG TIKEUT-KIYEOK;JONGSEONG TIKEUT-RIEUL;
JONGSEONG RIEUL-KIYEOK-SIOS;JONGSEONG RIEUL-NIEUN;JONGSEONG RIEUL-TIKEUT;
JONGSEONG RIEUL-TIKEUT-HIEUH;JONGSEONG SSANGRIEUL;JONGSEONG RIEUL-MIEUM-KIYEOK;
JONGSEONG RIEUL-MIEUM-SIOS;JONGSEONG RIEUL-PIEUP-SIOS;JONGSEONG RIEUL-PIEUP-HIEUH;
JONGSEONG RIEUL-KAPYEOUNPIEUP;JONGSEONG RIEUL-SSANGSIOS;JONGSEONG RIEUL-PANSIOS;
JONGSEONG RIEUL-KHIEUKH;JONGSEONG RIEUL-YEORINHIEUH;JONGSEONG MIEUM-KIYEOK;JONGSEONG MIEUM-RIEUL;
JONGSEONG MIEUM-PIEUP;JONGSEONG MIEUM-SIOS;JONGSEONG MIEUM-SSANGSIOS;JONGSEONG MIEUM-PANSIOS;
JONGSEONG MIEUM-CHIEUCH;JONGSEONG MIEUM-HIEUH;JONGSEONG KAPYEOUNMIEUM;JONGSEONG PIEUP-RIEUL;
JONGSEONG PIEUP-PHIEUPH;JONGSEONG PIEUP-HIEUH;JONGSEONG KAPYEOUNPIEUP;JONGSEONG SIOS-KIYEOK;
JONGSEONG SIOS-TIKEUT;JONGSEONG SIOS-RIEUL;JONGSEONG SIOS-PIEUP;JONGSEONG PANSIOS;
JONGSEONG IEUNG-KIYEOK;JONGSEONG IEUNG-SSANGKIYEOK;JONGSEONG SSANGIEUNG;JONGSEONG IEUNG-KHIEUKH;
JONGSEONG YESIEUNG;JONGSEONG YESIEUNG-SIOS;JONGSEONG YESIEUNG-PANSIOS;JONGSEONG PHIEUPH-PIEUP;
JONGSEONG KAPYEOUNPHIEUPH;JONGSEONG HIEUH-NIEUN;JONGSEONG HIEUH-RIEUL;JONGSEONG HIEUH-MIEUM;
JONGSEONG HIEUH-PIEUP;JONGSEONG YEORINHIEUH;JONGSEONG KIYEOK-NIEUN;JONGSEONG KIYEOK-PIEUP;
JONGSEONG KIYEOK-CHIEUCH;JONGSEONG KIYEOK-KHIEUKH;JONGSEONG KIYEOK-HIEUH;JONGSEONG SSANGNIEUN.
1200=ETHIOPIC SYLLABLE :HA;HU;HI;HAA;HEE;HE;HO;HOA;LA;LU;LI;LAA;LEE;LE;LO;LWA;HHA;HHU;HHI;HHAA;
HHEE;HHE;HHO;HHWA;MA;MU;MI;MAA;MEE;ME;MO;MWA;SZA;SZU;SZI;SZAA;SZEE;SZE;SZO;SZWA;RA;RU;RI;RAA;REE;
RE;RO;RWA;SA;SU;SI;SAA;SEE;SE;SO;SWA;SHA;SHU;SHI;SHAA;SHEE;SHE;SHO;SHWA;QA;QU;QI;QAA;QEE;QE;QO;QOA;
QWA.124A=ETHIOPIC SYLLABLE :QWI;QWAA;QWEE;QWE.1250=ETHIOPIC SYLLABLE :QHA;QHU;QHI;QHAA;QHEE;QHE;
QHO.1258=:ETHIOPIC SYLLABLE QHWA.125A=ETHIOPIC SYLLABLE :QHWI;QHWAA;QHWEE;QHWE.
1260=ETHIOPIC SYLLABLE :BA;BU;BI;BAA;BEE;BE;BO;BWA;VA;VU;VI;VAA;VEE;VE;VO;VWA;TA;TU;TI;TAA;TEE;TE;
TO;TWA;CA;CU;CI;CAA;CEE;CE;CO;CWA;XA;XU;XI;XAA;XEE;XE;XO;XOA;XWA.128A=ETHIOPIC SYLLABLE :XWI;XWAA;
XWEE;XWE.1290=ETHIOPIC SYLLABLE :NA;NU;NI;NAA;NEE;NE;NO;NWA;NYA;NYU;NYI;NYAA;NYEE;NYE;NYO;NYWA;
GLOTTAL A;GLOTTAL U;GLOTTAL I;GLOTTAL AA;GLOTTAL EE;GLOTTAL E;GLOTTAL O;GLOTTAL WA;KA;KU;KI;KAA;
KEE;KE;KO;KOA;KWA.12B2=ETHIOPIC SYLLABLE :KWI;KWAA;KWEE;KWE.12B8=ETHIOPIC SYLLABLE :KXA;KXU;KXI;
KXAA;KXEE;KXE;KXO.12C0=:ETHIOPIC SYLLABLE KXWA.12C2=ETHIOPIC SYLLABLE :KXWI;KXWAA;KXWEE;KXWE.
12C8=ETHIOPIC SYLLABLE :WA;WU;WI;WAA;WEE;WE;WO;WOA;PHARYNGEAL A;PHARYNGEAL U;PHARYNGEAL I;
PHARYNGEAL AA;PHARYNGEAL EE;PHARYNGEAL E;PHARYNGEAL O.12D8=ETHIOPIC SYLLABLE :ZA;ZU;ZI;ZAA;ZEE;ZE;
ZO;ZWA;ZHA;ZHU;ZHI;ZHAA;ZHEE;ZHE;ZHO;ZHWA;YA;YU;YI;YAA;YEE;YE;YO;YOA;DA;DU;DI;DAA;DEE;DE;DO;DWA;
DDA;DDU;DDI;DDAA;DDEE;DDE;DDO;DDWA;JA;JU;JI;JAA;JEE;JE;JO;JWA;GA;GU;GI;GAA;GEE;GE;GO;GOA;GWA.
1312=ETHIOPIC SYLLABLE :GWI;GWAA;GWEE;GWE.1318=ETHIOPIC SYLLABLE :GGA;GGU;GGI;GGAA;GGEE;GGE;GGO;
GGWAA;THA;THU;THI;THAA;THEE;THE;THO;THWA;CHA;CHU;CHI;CHAA;CHEE;CHE;CHO;CHWA;PHA;PHU;PHI;PHAA;PHEE;
PHE;PHO;PHWA;TSA;TSU;TSI;TSAA;TSEE;TSE;TSO;TSWA;TZA;TZU;TZI;TZAA;TZEE;TZE;TZO;TZOA;FA;FU;FI;FAA;
FEE;FE;FO;FWA;PA;PU;PI;PAA;PEE;PE;PO;PWA;RYA;MYA;FYA.135D=ETHIOPIC :
COMBINING GEMINATION AND VOWEL LENGTH MARK;COMBINING VOWEL LENGTH MARK;COMBINING GEMINATION MARK;
SECTION MARK;WORDSPACE;FULL STOP;COMMA;SEMICOLON;COLON;PREFACE COLON;QUESTION MARK;
PARAGRAPH SEPARATOR;DIGIT ONE;DIGIT TWO;DIGIT THREE;DIGIT FOUR;DIGIT FIVE;DIGIT SIX;DIGIT SEVEN;
DIGIT EIGHT;DIGIT NINE;NUMBER TEN;NUMBER TWENTY;NUMBER THIRTY;NUMBER FORTY;NUMBER FIFTY;
NUMBER SIXTY;NUMBER SEVENTY;NUMBER EIGHTY;NUMBER NINETY;NUMBER HUNDRED;NUMBER TEN THOUSAND.
1380=ETHIOPIC SYLLABLE :SEBATBEIT MWA;MWI;MWEE;MWE;SEBATBEIT BWA;BWI;BWEE;BWE;SEBATBEIT FWA;FWI;
FWEE;FWE;SEBATBEIT PWA;PWI;PWEE;PWE.1390=ETHIOPIC TONAL MARK :YIZET;DERET;RIKRIK;SHORT RIKRIK;
DIFAT;KENAT;CHIRET;HIDET;DERET-HIDET;KURT.13A0=CHEROKEE LETTER :A;E;I;O;U;V;GA;KA;GE;GI;GO;GU;GV;
HA;HE;HI;HO;HU;HV;LA;LE;LI;LO;LU;LV;MA;ME;MI;MO;MU;NA;HNA;NAH;NE;NI;NO;NU;NV;QUA;QUE;QUI;QUO;QUU;
QUV;SA;S;SE;SI;SO;SU;SV;DA;TA;DE;TE;DI;TI;DO;DU;DV;DLA;TLA;TLE;TLI;TLO;TLU;TLV;TSA;TSE;TSI;TSO;TSU;
TSV;WA;WE;WI;WO;WU;WV;YA;YE;YI;YO;YU;YV;MV.13F8=CHEROKEE SMALL LETTER :YE;YI;YO;YU;YV;MV.
1400=CANADIAN SYLLABICS :HYPHEN;E;AAI;I;II;O;OO;Y-CREE OO;CARRIER EE;CARRIER I;A;AA;WE;
WEST-CREE WE;WI;WEST-CREE WI;WII;WEST-CREE WII;WO;WEST-CREE WO;WOO;WEST-CREE WOO;NASKAPI WOO;WA;
WEST-CREE WA;WAA;WEST-CREE WAA;NASKAPI WAA;AI;Y-CREE W;GLOTTAL STOP;FINAL ACUTE;FINAL GRAVE;
FINAL BOTTOM HALF RING;FINAL TOP HALF RING;FINAL RIGHT HALF RING;FINAL RING;FINAL DOUBLE ACUTE;
FINAL DOUBLE SHORT VERTICAL STROKES;FINAL MIDDLE DOT;FINAL SHORT HORIZONTAL STROKE;FINAL PLUS;
FINAL DOWN TACK;EN;IN;ON;AN;PE;PAAI;PI;PII;PO;POO;Y-CREE POO;CARRIER HEE;CARRIER HI;PA;PAA;PWE;
WEST-CREE PWE;PWI;WEST-CREE PWI;PWII;WEST-CREE PWII;PWO;WEST-CREE PWO;PWOO;WEST-CREE PWOO;PWA;
WEST-CREE PWA;PWAA;WEST-CREE PWAA;Y-CREE PWAA;P;WEST-CREE P;CARRIER H;TE;TAAI;TI;TII;TO;TOO;
Y-CREE TOO;CARRIER DEE;CARRIER DI;TA;TAA;TWE;WEST-CREE TWE;TWI;WEST-CREE TWI;TWII;WEST-CREE TWII;
TWO;WEST-CREE TWO;TWOO;WEST-CREE TWOO;TWA;WEST-CREE TWA;TWAA;WEST-CREE TWAA;NASKAPI TWAA;T;TTE;TTI;
TTO;TTA;KE;KAAI;KI;KII;KO;KOO;Y-CREE KOO;KA;KAA;KWE;WEST-CREE KWE;KWI;WEST-CREE KWI;KWII;
WEST-CREE KWII;KWO;WEST-CREE KWO;KWOO;WEST-CREE KWOO;KWA;WEST-CREE KWA;KWAA;WEST-CREE KWAA;
NASKAPI KWAA;K;KW;SOUTH-SLAVEY KEH;SOUTH-SLAVEY KIH;SOUTH-SLAVEY KOH;SOUTH-SLAVEY KAH;CE;CAAI;CI;
CII;CO;COO;Y-CREE COO;CA;CAA;CWE;WEST-CREE CWE;CWI;WEST-CREE CWI;CWII;WEST-CREE CWII;CWO;
WEST-CREE CWO;CWOO;WEST-CREE CWOO;CWA;WEST-CREE CWA;CWAA;WEST-CREE CWAA;NASKAPI CWAA;C;SAYISI TH;
ME;MAAI;MI;MII;MO;MOO;Y-CREE MOO;MA;MAA;MWE;WEST-CREE MWE;MWI;WEST-CREE MWI;MWII;WEST-CREE MWII;
MWO;WEST-CREE MWO;MWOO;WEST-CREE MWOO;MWA;WEST-CREE MWA;MWAA;WEST-CREE MWAA;NASKAPI MWAA;M;
WEST-CREE M;MH;ATHAPASCAN M;SAYISI M;NE;NAAI;NI;NII;NO;NOO;Y-CREE NOO;NA;NAA;NWE;WEST-CREE NWE;NWA;
WEST-CREE NWA;NWAA;WEST-CREE NWAA;NASKAPI NWAA;N;CARRIER NG;NH;LE;LAAI;LI;LII;LO;LOO;Y-CREE LOO;LA;
LAA;LWE;WEST-CREE LWE;LWI;WEST-CREE LWI;LWII;WEST-CREE LWII;LWO;WEST-CREE LWO;LWOO;WEST-CREE LWOO;
LWA;WEST-CREE LWA;LWAA;WEST-CREE LWAA;L;WEST-CREE L;MEDIAL L;SE;SAAI;SI;SII;SO;SOO;Y-CREE SOO;SA;
SAA;SWE;WEST-CREE SWE;SWI;WEST-CREE SWI;SWII;WEST-CREE SWII;SWO;WEST-CREE SWO;SWOO;WEST-CREE SWOO;
SWA;WEST-CREE SWA;SWAA;WEST-CREE SWAA;NASKAPI SWAA;S;ATHAPASCAN S;SW;BLACKFOOT S;MOOSE-CREE SK;
NASKAPI SKW;NASKAPI S-W;NASKAPI SPWA;NASKAPI STWA;NASKAPI SKWA;NASKAPI SCWA;SHE;SHI;SHII;SHO;SHOO;
SHA;SHAA;SHWE;WEST-CREE SHWE;SHWI;WEST-CREE SHWI;SHWII;WEST-CREE SHWII;SHWO;WEST-CREE SHWO;SHWOO;
WEST-CREE SHWOO;SHWA;WEST-CREE SHWA;SHWAA;WEST-CREE SHWAA;SH;YE;YAAI;YI;YII;YO;YOO;Y-CREE YOO;YA;
YAA;YWE;WEST-CREE YWE;YWI;WEST-CREE YWI;YWII;WEST-CREE YWII;YWO;WEST-CREE YWO;YWOO;WEST-CREE YWOO;
YWA;WEST-CREE YWA;YWAA;WEST-CREE YWAA;NASKAPI YWAA;Y;BIBLE-CREE Y;WEST-CREE Y;SAYISI YI;RE;
R-CREE RE;WEST-CREE LE;RAAI;RI;RII;RO;ROO;WEST-CREE LO;RA;RAA;WEST-CREE LA;RWAA;WEST-CREE RWAA;R;
WEST-CREE R;MEDIAL R;FE;FAAI;FI;FII;FO;FOO;FA;FAA;FWAA;WEST-CREE FWAA;F;THE;N-CREE THE;THI;
N-CREE THI;THII;N-CREE THII;THO;THOO;THA;THAA;THWAA;WEST-CREE THWAA;TH;TTHE;TTHI;TTHO;TTHA;TTH;TYE;
TYI;TYO;TYA;NUNAVIK HE;NUNAVIK HI;NUNAVIK HII;NUNAVIK HO;NUNAVIK HOO;NUNAVIK HA;NUNAVIK HAA;
NUNAVIK H;NUNAVUT H;HK;QAAI;QI;QII;QO;QOO;QA;QAA;Q;TLHE;TLHI;TLHO;TLHA;WEST-CREE RE;WEST-CREE RI;
WEST-CREE RO;WEST-CREE RA;NGAAI;NGI;NGII;NGO;NGOO;NGA;NGAA;NG;NNG;SAYISI SHE;SAYISI SHI;SAYISI SHO;
SAYISI SHA;WOODS-CREE THE;WOODS-CREE THI;WOODS-CREE THO;WOODS-CREE THA;WOODS-CREE TH;LHI;LHII;LHO;
LHOO;LHA;LHAA;LH;TH-CREE THE;TH-CREE THI;TH-CREE THII;TH-CREE THO;TH-CREE THOO;TH-CREE THA;
TH-CREE THAA;TH-CREE TH;AIVILIK B;BLACKFOOT E;BLACKFOOT I;BLACKFOOT O;BLACKFOOT A;BLACKFOOT WE;
BLACKFOOT WI;BLACKFOOT WO;BLACKFOOT WA;BLACKFOOT NE;BLACKFOOT NI;BLACKFOOT NO;BLACKFOOT NA;
BLACKFOOT KE;BLACKFOOT KI;BLACKFOOT KO;BLACKFOOT KA;SAYISI HE;SAYISI HI;SAYISI HO;SAYISI HA;
CARRIER GHU;CARRIER GHO;CARRIER GHE;CARRIER GHEE;CARRIER GHI;CARRIER GHA;CARRIER RU;CARRIER RO;
CARRIER RE;CARRIER REE;CARRIER RI;CARRIER RA;CARRIER WU;CARRIER WO;CARRIER WE;CARRIER WEE;
CARRIER WI;CARRIER WA;CARRIER HWU;CARRIER HWO;CARRIER HWE;CARRIER HWEE;CARRIER HWI;CARRIER HWA;
CARRIER THU;CARRIER THO;CARRIER THE;CARRIER THEE;CARRIER THI;CARRIER THA;CARRIER TTU;CARRIER TTO;
CARRIER TTE;CARRIER TTEE;CARRIER TTI;CARRIER TTA;CARRIER PU;CARRIER PO;CARRIER PE;CARRIER PEE;
CARRIER PI;CARRIER PA;CARRIER P;CARRIER GU;CARRIER GO;CARRIER GE;CARRIER GEE;CARRIER GI;CARRIER GA;
CARRIER KHU;CARRIER KHO;CARRIER KHE;CARRIER KHEE;CARRIER KHI;CARRIER KHA;CARRIER KKU;CARRIER KKO;
CARRIER KKE;CARRIER KKEE;CARRIER KKI;CARRIER KKA;CARRIER KK;CARRIER NU;CARRIER NO;CARRIER NE;
CARRIER NEE;CARRIER NI;CARRIER NA;CARRIER MU;CARRIER MO;CARRIER ME;CARRIER MEE;CARRIER MI;
CARRIER MA;CARRIER YU;CARRIER YO;CARRIER YE;CARRIER YEE;CARRIER YI;CARRIER YA;CARRIER JU;SAYISI JU;
CARRIER JO;CARRIER JE;CARRIER JEE;CARRIER JI;SAYISI JI;CARRIER JA;CARRIER JJU;CARRIER JJO;
CARRIER JJE;CARRIER JJEE;CARRIER JJI;CARRIER JJA;CARRIER LU;CARRIER LO;CARRIER LE;CARRIER LEE;
CARRIER LI;CARRIER LA;CARRIER DLU;CARRIER DLO;CARRIER DLE;CARRIER DLEE;CARRIER DLI;CARRIER DLA;
CARRIER LHU;CARRIER LHO;CARRIER LHE;CARRIER LHEE;CARRIER LHI;CARRIER LHA;CARRIER TLHU;CARRIER TLHO;
CARRIER TLHE;CARRIER TLHEE;CARRIER TLHI;CARRIER TLHA;CARRIER TLU;CARRIER TLO;CARRIER TLE;
CARRIER TLEE;CARRIER TLI;CARRIER TLA;CARRIER ZU;CARRIER ZO;CARRIER ZE;CARRIER ZEE;CARRIER ZI;
CARRIER ZA;CARRIER Z;CARRIER INITIAL Z;CARRIER DZU;CARRIER DZO;CARRIER DZE;CARRIER DZEE;
CARRIER DZI;CARRIER DZA;CARRIER SU;CARRIER SO;CARRIER SE;CARRIER SEE;CARRIER SI;CARRIER SA;
CARRIER SHU;CARRIER SHO;CARRIER SHE;CARRIER SHEE;CARRIER SHI;CARRIER SHA;CARRIER SH;CARRIER TSU;
CARRIER TSO;CARRIER TSE;CARRIER TSEE;CARRIER TSI;CARRIER TSA;CARRIER CHU;CARRIER CHO;CARRIER CHE;
CARRIER CHEE;CARRIER CHI;CARRIER CHA;CARRIER TTSU;CARRIER TTSO;CARRIER TTSE;CARRIER TTSEE;
CARRIER TTSI;CARRIER TTSA;CHI SIGN;FULL STOP;QAI;NGAI;NNGI;NNGII;NNGO;NNGOO;NNGA;NNGAA;
WOODS-CREE THWEE;WOODS-CREE THWI;WOODS-CREE THWII;WOODS-CREE THWO;WOODS-CREE THWOO;WOODS-CREE THWA;
WOODS-CREE THWAA;WOODS-CREE FINAL TH;BLACKFOOT W.1680=OGHAM :SPACE MARK;LETTER BEITH;LETTER LUIS;
LETTER FEARN;LETTER SAIL;LETTER NION;LETTER UATH;LETTER DAIR;LETTER TINNE;LETTER COLL;LETTER CEIRT;
LETTER MUIN;LETTER GORT;LETTER NGEADAL;LETTER STRAIF;LETTER RUIS;LETTER AILM;LETTER ONN;LETTER UR;
LETTER EADHADH;LETTER IODHADH;LETTER EABHADH;LETTER OR;LETTER UILLEANN;LETTER IFIN;
LETTER EAMHANCHOLL;LETTER PEITH;FEATHER MARK;REVERSED FEATHER MARK.16A0=RUNIC LETTER :
FEHU FEOH FE F;V;URUZ UR U;YR;Y;W;THURISAZ THURS THORN;ETH;ANSUZ A;OS O;AC A;AESC;
LONG-BRANCH-OSS O;SHORT-TWIG-OSS O;O;OE;ON;RAIDO RAD REID R;KAUNA;CEN;KAUN K;G;ENG;GEBO GYFU G;GAR;
WUNJO WYNN W;HAGLAZ H;HAEGL H;LONG-BRANCH-HAGALL H;SHORT-TWIG-HAGALL H;NAUDIZ NYD NAUD N;
SHORT-TWIG-NAUD N;DOTTED-N;ISAZ IS ISS I;E;JERAN J;GER;LONG-BRANCH-AR AE;SHORT-TWIG-AR A;IWAZ EOH;
PERTHO PEORTH P;ALGIZ EOLHX;SOWILO S;SIGEL LONG-BRANCH-SOL S;SHORT-TWIG-SOL S;C;Z;TIWAZ TIR TYR T;
SHORT-TWIG-TYR T;D;BERKANAN BEORC BJARKAN B;SHORT-TWIG-BJARKAN B;DOTTED-P;OPEN-P;EHWAZ EH E;
MANNAZ MAN M;LONG-BRANCH-MADR M;SHORT-TWIG-MADR M;LAUKAZ LAGU LOGR L;DOTTED-L;INGWAZ;ING;
DAGAZ DAEG D;OTHALAN ETHEL O;EAR;IOR;CWEORTH;CALC;CEALC;STAN;LONG-BRANCH-YR;SHORT-TWIG-YR;
ICELANDIC-YR;Q;X.16EB=RUNIC :SINGLE PUNCTUATION;MULTIPLE PUNCTUATION;CROSS PUNCTUATION;
ARLAUG SYMBOL;TVIMADUR SYMBOL;BELGTHOR SYMBOL;LETTER K;LETTER SH;LETTER OO;LETTER FRANKS CASKET OS;
LETTER FRANKS CASKET IS;LETTER FRANKS CASKET EH;LETTER FRANKS CASKET AC;LETTER FRANKS CASKET AESC.
1700=TAGALOG LETTER :A;I;U;KA;GA;NGA;TA;DA;NA;PA;BA;MA;YA;RA;LA;WA;SA;HA.1712=TAGALOG :
VOWEL SIGN I;VOWEL SIGN U;SIGN VIRAMA;SIGN PAMUDPOD.171F=:TAGALOG LETTER ARCHAIC RA.
1720=HANUNOO LETTER :A;I;U;KA;GA;NGA;TA;DA;NA;PA;BA;MA;YA;RA;LA;WA;SA;HA.1732=HANUNOO VOWEL SIGN :
I;U.1734=:HANUNOO SIGN PAMUDPOD.1735=PHILIPPINE :SINGLE PUNCTUATION;DOUBLE PUNCTUATION.
1740=BUHID LETTER :A;I;U;KA;GA;NGA;TA;DA;NA;PA;BA;MA;YA;RA;LA;WA;SA;HA.1752=BUHID VOWEL SIGN :I;U.
1760=TAGBANWA LETTER :A;I;U;KA;GA;NGA;TA;DA;NA;PA;BA;MA;YA.176E=TAGBANWA LETTER :LA;WA;SA.
1772=TAGBANWA VOWEL SIGN :I;U.1780=KHMER :LETTER KA;LETTER KHA;LETTER KO;LETTER KHO;LETTER NGO;
LETTER CA;LETTER CHA;LETTER CO;LETTER CHO;LETTER NYO;LETTER DA;LETTER TTHA;LETTER DO;LETTER TTHO;
LETTER NNO;LETTER TA;LETTER THA;LETTER TO;LETTER THO;LETTER NO;LETTER BA;LETTER PHA;LETTER PO;
LETTER PHO;LETTER MO;LETTER YO;LETTER RO;LETTER LO;LETTER VO;LETTER SHA;LETTER SSO;LETTER SA;
LETTER HA;LETTER LA;LETTER QA;INDEPENDENT VOWEL QAQ;INDEPENDENT VOWEL QAA;INDEPENDENT VOWEL QI;
INDEPENDENT VOWEL QII;INDEPENDENT VOWEL QU;INDEPENDENT VOWEL QUK;INDEPENDENT VOWEL QUU;
INDEPENDENT VOWEL QUUV;INDEPENDENT VOWEL RY;INDEPENDENT VOWEL RYY;INDEPENDENT VOWEL LY;
INDEPENDENT VOWEL LYY;INDEPENDENT VOWEL QE;INDEPENDENT VOWEL QAI;INDEPENDENT VOWEL QOO TYPE ONE;
INDEPENDENT VOWEL QOO TYPE TWO;INDEPENDENT VOWEL QAU;VOWEL INHERENT AQ;VOWEL INHERENT AA;
VOWEL SIGN AA;VOWEL SIGN I;VOWEL SIGN II;VOWEL SIGN Y;VOWEL SIGN YY;VOWEL SIGN U;VOWEL SIGN UU;
VOWEL SIGN UA;VOWEL SIGN OE;VOWEL SIGN YA;VOWEL SIGN IE;VOWEL SIGN E;VOWEL SIGN AE;VOWEL SIGN AI;
VOWEL SIGN OO;VOWEL SIGN AU;SIGN NIKAHIT;SIGN REAHMUK;SIGN YUUKALEAPINTU;SIGN MUUSIKATOAN;
SIGN TRIISAP;SIGN BANTOC;SIGN ROBAT;SIGN TOANDAKHIAT;SIGN KAKABAT;SIGN AHSDA;SIGN SAMYOK SANNYA;
SIGN VIRIAM;SIGN COENG;SIGN BATHAMASAT;SIGN KHAN;SIGN BARIYOOSAN;SIGN CAMNUC PII KUUH;SIGN LEK TOO;
SIGN BEYYAL;SIGN PHNAEK MUAN;SIGN KOOMUUT;CURRENCY SYMBOL RIEL;SIGN AVAKRAHASANYA;SIGN ATTHACAN.
17E0=KHMER DIGIT :ZERO;ONE;TWO;THREE;FOUR;FIVE;SIX;SEVEN;EIGHT;NINE.17F0=KHMER SYMBOL LEK ATTAK :
SON;MUOY;PII;BEI;BUON;PRAM;PRAM-MUOY;PRAM-PII;PRAM-BEI;PRAM-BUON.1800=MONGOLIAN :BIRGA;ELLIPSIS;
COMMA;FULL STOP;COLON;FOUR DOTS;TODO SOFT HYPHEN;SIBE SYLLABLE BOUNDARY MARKER;MANCHU COMMA;
MANCHU FULL STOP;NIRUGU;FREE VARIATION SELECTOR ONE;FREE VARIATION SELECTOR TWO;
FREE VARIATION SELECTOR THREE;VOWEL SEPARATOR;FREE VARIATION SELECTOR FOUR;DIGIT ZERO;DIGIT ONE;
DIGIT TWO;DIGIT THREE;DIGIT FOUR;DIGIT FIVE;DIGIT SIX;DIGIT SEVEN;DIGIT EIGHT;DIGIT NINE.
1820=MONGOLIAN LETTER :A;E;I;O;U;OE;UE;EE;NA;ANG;BA;PA;QA;GA;MA;LA;SA;SHA;TA;DA;CHA;JA;YA;RA;WA;FA;
KA;KHA;TSA;ZA;HAA;ZRA;LHA;ZHI;CHI;TODO LONG VOWEL SIGN;TODO E;TODO I;TODO O;TODO U;TODO OE;TODO UE;
TODO ANG;TODO BA;TODO PA;TODO QA;TODO GA;TODO MA;TODO TA;TODO DA;TODO CHA;TODO JA;TODO TSA;TODO YA;
TODO WA;TODO KA;TODO GAA;TODO HAA;TODO JIA;TODO NIA;TODO DZA;SIBE E;SIBE I;SIBE IY;SIBE UE;SIBE U;
SIBE ANG;SIBE KA;SIBE GA;SIBE HA;SIBE PA;SIBE SHA;SIBE TA;SIBE DA;SIBE JA;SIBE FA;SIBE GAA;
SIBE HAA;SIBE TSA;SIBE ZA;SIBE RAA;SIBE CHA;SIBE ZHA;MANCHU I;MANCHU KA;MANCHU RA;MANCHU FA;
MANCHU ZHA;CHA WITH TWO DOTS.1880=MONGOLIAN LETTER :ALI GALI ANUSVARA ONE;ALI GALI VISARGA ONE;
ALI GALI DAMARU;ALI GALI UBADAMA;ALI GALI INVERTED UBADAMA;ALI GALI BALUDA;ALI GALI THREE BALUDA;
ALI GALI A;ALI GALI I;ALI GALI KA;ALI GALI NGA;ALI GALI CA;ALI GALI TTA;ALI GALI TTHA;ALI GALI DDA;
ALI GALI NNA;ALI GALI TA;ALI GALI DA;ALI GALI PA;ALI GALI PHA;ALI GALI SSA;ALI GALI ZHA;
ALI GALI ZA;ALI GALI AH;TODO ALI GALI TA;TODO ALI GALI ZHA;MANCHU ALI GALI GHA;MANCHU ALI GALI NGA;
MANCHU ALI GALI CA;MANCHU ALI GALI JHA;MANCHU ALI GALI TTA;MANCHU ALI GALI DDHA;MANCHU ALI GALI TA;
MANCHU ALI GALI DHA;MANCHU ALI GALI SSA;MANCHU ALI GALI CYA;MANCHU ALI GALI ZHA;MANCHU ALI GALI ZA;
ALI GALI HALF U;ALI GALI HALF YA;MANCHU ALI GALI BHA;ALI GALI DAGALGA;MANCHU ALI GALI LHA.
18B0=CANADIAN SYLLABICS :OY;AY;AAY;WAY;POY;PAY;PWOY;TAY;KAY;KWAY;MAY;NOY;NAY;LAY;SOY;SAY;SHOY;SHAY;
SHWOY;YOY;YAY;RAY;NWI;OJIBWAY NWI;NWII;OJIBWAY NWII;NWO;OJIBWAY NWO;NWOO;OJIBWAY NWOO;RWEE;RWI;
RWII;RWO;RWOO;RWA;OJIBWAY P;OJIBWAY T;OJIBWAY K;OJIBWAY C;OJIBWAY M;OJIBWAY N;OJIBWAY S;OJIBWAY SH;
EASTERN W;WESTERN W;FINAL SMALL RING;FINAL RAISED DOT;R-CREE RWE;WEST-CREE LOO;WEST-CREE LAA;THWE;
THWA;TTHWE;TTHOO;TTHAA;TLHWE;TLHOO;SAYISI SHWE;SAYISI SHOO;SAYISI HOO;CARRIER GWU;CARRIER DENE GEE;
CARRIER GAA;CARRIER GWA;SAYISI JUU;CARRIER JWA;BEAVER DENE L;BEAVER DENE R;CARRIER DENTAL S.
1900=LIMBU :VOWEL-CARRIER LETTER;LETTER KA;LETTER KHA;LETTER GA;LETTER GHA;LETTER NGA;LETTER CA;
LETTER CHA;LETTER JA;LETTER JHA;LETTER YAN;LETTER TA;LETTER THA;LETTER DA;LETTER DHA;LETTER NA;
LETTER PA;LETTER PHA;LETTER BA;LETTER BHA;LETTER MA;LETTER YA;LETTER RA;LETTER LA;LETTER WA;
LETTER SHA;LETTER SSA;LETTER SA;LETTER HA;LETTER GYAN;LETTER TRA.1920=LIMBU VOWEL SIGN :A;I;U;EE;
AI;OO;AU;E;O.1929=LIMBU SUBJOINED LETTER :YA;RA;WA.1930=LIMBU SMALL LETTER :KA;NGA;ANUSVARA;TA;NA;
PA;MA;RA;LA.1939=LIMBU SIGN :MUKPHRENG;KEMPHRENG;SA-I.1940=:LIMBU SIGN LOO.1944=LIMBU :
EXCLAMATION MARK;QUESTION MARK;DIGIT ZERO;DIGIT ONE;DIGIT TWO;DIGIT THREE;DIGIT FOUR;DIGIT FIVE;
DIGIT SIX;DIGIT SEVEN;DIGIT EIGHT;DIGIT NINE.1950=TAI LE LETTER :KA;XA;NGA;TSA;SA;YA;TA;THA;LA;PA;
PHA;MA;FA;VA;HA;QA;KHA;TSHA;NA;A;I;EE;EH;U;OO;O;UE;E;AUE;AI.1970=TAI LE LETTER TONE-:2;3;4;5;6.
1980=NEW TAI LUE LETTER :HIGH QA;LOW QA;HIGH KA;HIGH XA;HIGH NGA;LOW KA;LOW XA;LOW NGA;HIGH TSA;
HIGH SA;HIGH YA;LOW TSA;LOW SA;LOW YA;HIGH TA;HIGH THA;HIGH NA;LOW TA;LOW THA;LOW NA;HIGH PA;
HIGH PHA;HIGH MA;LOW PA;LOW PHA;LOW MA;HIGH FA;HIGH VA;HIGH LA;LOW FA;LOW VA;LOW LA;HIGH HA;
HIGH DA;HIGH BA;LOW HA;LOW DA;LOW BA;HIGH KVA;HIGH XVA;LOW KVA;LOW XVA;HIGH SUA;LOW SUA.
19B0=NEW TAI LUE VOWEL SIGN :VOWEL SHORTENER;AA;II;U;UU;E;AE;O;OA;UE;AY;AAY;UY;OY;OAY;UEY;IY.
19C1=NEW TAI LUE LETTER FINAL :V;NG;N;M;K;D;B.19C8=NEW TAI LUE TONE MARK-:1;2.
19D0=NEW TAI LUE DIGIT :ZERO;ONE;TWO;THREE;FOUR;FIVE;SIX;SEVEN;EIGHT;NINE.19DA=:
NEW TAI LUE THAM DIGIT ONE.19DE=NEW TAI LUE SIGN :LAE;LAEV.19E0=KHMER SYMBOL :PATHAMASAT;MUOY KOET;
PII KOET;BEI KOET;BUON KOET;PRAM KOET;PRAM-MUOY KOET;PRAM-PII KOET;PRAM-BEI KOET;PRAM-BUON KOET;
DAP KOET;DAP-MUOY KOET;DAP-PII KOET;DAP-BEI KOET;DAP-BUON KOET;DAP-PRAM KOET;TUTEYASAT;MUOY ROC;
PII ROC;BEI ROC;BUON ROC;PRAM ROC;PRAM-MUOY ROC;PRAM-PII ROC;PRAM-BEI ROC;PRAM-BUON ROC;DAP ROC;
DAP-MUOY ROC;DAP-PII ROC;DAP-BEI ROC;DAP-BUON ROC;DAP-PRAM ROC.1A00=BUGINESE LETTER :KA;GA;NGA;
NGKA;PA;BA;MA;MPA;TA;DA;NA;NRA;CA;JA;NYA;NYCA;YA;RA;LA;VA;SA;A;HA.1A17=BUGINESE VOWEL SIGN :I;U;E;
O;AE.1A1E=BUGINESE :PALLAWA;END OF SECTION.1A20=TAI THAM LETTER :HIGH KA;HIGH KHA;HIGH KXA;LOW KA;
LOW KXA;LOW KHA;NGA;HIGH CA;HIGH CHA;LOW CA;LOW SA;LOW CHA;NYA;RATA;HIGH RATHA;DA;LOW RATHA;RANA;
HIGH TA;HIGH THA;LOW TA;LOW THA;NA;BA;HIGH PA;HIGH PHA;HIGH FA;LOW PA;LOW FA;LOW PHA;MA;LOW YA;
HIGH YA;RA;RUE;LA;LUE;WA;HIGH SHA;HIGH SSA;HIGH SA;HIGH HA;LLA;A;LOW HA;I;II;U;UU;EE;OO;LAE;
GREAT SA.1A55=TAI THAM :CONSONANT SIGN MEDIAL RA;CONSONANT SIGN MEDIAL LA;
CONSONANT SIGN LA TANG LAI;SIGN MAI KANG LAI;CONSONANT SIGN FINAL NGA;CONSONANT SIGN LOW PA;
CONSONANT SIGN HIGH RATHA OR LOW PA;CONSONANT SIGN MA;CONSONANT SIGN BA;CONSONANT SIGN SA.
1A60=TAI THAM :SIGN SAKOT;VOWEL SIGN A;VOWEL SIGN MAI SAT;VOWEL SIGN AA;VOWEL SIGN TALL AA;
VOWEL SIGN I;VOWEL SIGN II;VOWEL SIGN UE;VOWEL SIGN UUE;VOWEL SIGN U;VOWEL SIGN UU;VOWEL SIGN O;
VOWEL SIGN OA BELOW;VOWEL SIGN OY;VOWEL SIGN E;VOWEL SIGN AE;VOWEL SIGN OO;VOWEL SIGN AI;
VOWEL SIGN THAM AI;VOWEL SIGN OA ABOVE;SIGN MAI KANG;SIGN TONE-1;SIGN TONE-2;SIGN KHUEN TONE-3;
SIGN KHUEN TONE-4;SIGN KHUEN TONE-5;SIGN RA HAAM;SIGN MAI SAM;SIGN KHUEN-LUE KARAN.1A7F=TAI THAM :
COMBINING CRYPTOGRAMMIC DOT;HORA DIGIT ZERO;HORA DIGIT ONE;HORA DIGIT TWO;HORA DIGIT THREE;
HORA DIGIT FOUR;HORA DIGIT FIVE;HORA DIGIT SIX;HORA DIGIT SEVEN;HORA DIGIT EIGHT;HORA DIGIT NINE.
1A90=TAI THAM THAM DIGIT :ZERO;ONE;TWO;THREE;FOUR;FIVE;SIX;SEVEN;EIGHT;NINE.1AA0=TAI THAM SIGN :
WIANG;WIANGWAAK;SAWAN;KEOW;HOY;DOKMAI;REVERSED ROTATED RANA;MAI YAMOK;KAAN;KAANKUU;SATKAAN;
SATKAANKUU;HANG;CAANG.1AB0=COMBINING :DOUBLED CIRCUMFLEX ACCENT;DIAERESIS-RING;INFINITY;
DOWNWARDS ARROW;TRIPLE DOT;X-X BELOW;WIGGLY LINE BELOW;OPEN MARK BELOW;DOUBLE OPEN MARK BELOW;
LIGHT CENTRALIZATION STROKE BELOW;STRONG CENTRALIZATION STROKE BELOW;PARENTHESES ABOVE;
DOUBLE PARENTHESES ABOVE;PARENTHESES BELOW;PARENTHESES OVERLAY;LATIN SMALL LETTER W BELOW;
LATIN SMALL LETTER TURNED W BELOW;LEFT PARENTHESIS ABOVE LEFT;RIGHT PARENTHESIS ABOVE RIGHT;
LEFT PARENTHESIS BELOW LEFT;RIGHT PARENTHESIS BELOW RIGHT;SQUARE BRACKETS ABOVE;NUMBER SIGN ABOVE;
INVERTED DOUBLE ARCH ABOVE;PLUS SIGN ABOVE;DOUBLE PLUS SIGN ABOVE;DOUBLE PLUS SIGN BELOW;
TRIPLE ACUTE ACCENT;LATIN SMALL LETTER INSULAR G;LATIN SMALL LETTER INSULAR R;
LATIN SMALL LETTER INSULAR T.1B00=BALINESE :SIGN ULU RICEM;SIGN ULU CANDRA;SIGN CECEK;SIGN SURANG;
SIGN BISAH;LETTER AKARA;LETTER AKARA TEDUNG;LETTER IKARA;LETTER IKARA TEDUNG;LETTER UKARA;
LETTER UKARA TEDUNG;LETTER RA REPA;LETTER RA REPA TEDUNG;LETTER LA LENGA;LETTER LA LENGA TEDUNG;
LETTER EKARA;LETTER AIKARA;LETTER OKARA;LETTER OKARA TEDUNG;LETTER KA;LETTER KA MAHAPRANA;
LETTER GA;LETTER GA GORA;LETTER NGA;LETTER CA;LETTER CA LACA;LETTER JA;LETTER JA JERA;LETTER NYA;
LETTER TA LATIK;LETTER TA MURDA MAHAPRANA;LETTER DA MURDA ALPAPRANA;LETTER DA MURDA MAHAPRANA;
LETTER NA RAMBAT;LETTER TA;LETTER TA TAWA;LETTER DA;LETTER DA MADU;LETTER NA;LETTER PA;
LETTER PA KAPAL;LETTER BA;LETTER BA KEMBANG;LETTER MA;LETTER YA;LETTER RA;LETTER LA;LETTER WA;
LETTER SA SAGA;LETTER SA SAPA;LETTER SA;LETTER HA;SIGN REREKAN;VOWEL SIGN TEDUNG;VOWEL SIGN ULU;
VOWEL SIGN ULU SARI;VOWEL SIGN SUKU;VOWEL SIGN SUKU ILUT;VOWEL SIGN RA REPA;
VOWEL SIGN RA REPA TEDUNG;VOWEL SIGN LA LENGA;VOWEL SIGN LA LENGA TEDUNG;VOWEL SIGN TALING;
VOWEL SIGN TALING REPA;VOWEL SIGN TALING TEDUNG;VOWEL SIGN TALING REPA TEDUNG;VOWEL SIGN PEPET;
VOWEL SIGN PEPET TEDUNG;ADEG ADEG;LETTER KAF SASAK;LETTER KHOT SASAK;LETTER TZIR SASAK;
LETTER EF SASAK;LETTER VE SASAK;LETTER ZAL SASAK;LETTER ASYURA SASAK;LETTER ARCHAIC JNYA.
1B50=BALINESE :DIGIT ZERO;DIGIT ONE;DIGIT TWO;DIGIT THREE;DIGIT FOUR;DIGIT FIVE;DIGIT SIX;
DIGIT SEVEN;DIGIT EIGHT;DIGIT NINE;PANTI;PAMADA;WINDU;CARIK PAMUNGKAH;CARIK SIKI;CARIK PAREREN;
PAMENENG;MUSICAL SYMBOL DONG;MUSICAL SYMBOL DENG;MUSICAL SYMBOL DUNG;MUSICAL SYMBOL DANG;
MUSICAL SYMBOL DANG SURANG;MUSICAL SYMBOL DING;MUSICAL SYMBOL DAENG;MUSICAL SYMBOL DEUNG;
MUSICAL SYMBOL DAING;MUSICAL SYMBOL DANG GEDE;MUSICAL SYMBOL COMBINING TEGEH;
MUSICAL SYMBOL COMBINING ENDEP;MUSICAL SYMBOL COMBINING KEMPUL;MUSICAL SYMBOL COMBINING KEMPLI;
MUSICAL SYMBOL COMBINING JEGOGAN;MUSICAL SYMBOL COMBINING KEMPUL WITH JEGOGAN;
MUSICAL SYMBOL COMBINING KEMPLI WITH JEGOGAN;MUSICAL SYMBOL COMBINING BENDE;
MUSICAL SYMBOL COMBINING GONG;MUSICAL SYMBOL RIGHT-HAND OPEN DUG;
MUSICAL SYMBOL RIGHT-HAND OPEN DAG;MUSICAL SYMBOL RIGHT-HAND CLOSED TUK;
MUSICAL SYMBOL RIGHT-HAND CLOSED TAK;MUSICAL SYMBOL LEFT-HAND OPEN PANG;
MUSICAL SYMBOL LEFT-HAND OPEN PUNG;MUSICAL SYMBOL LEFT-HAND CLOSED PLAK;
MUSICAL SYMBOL LEFT-HAND CLOSED PLUK;MUSICAL SYMBOL LEFT-HAND OPEN PING;PANTI LANTANG;
PAMADA LANTANG.1B80=SUNDANESE :SIGN PANYECEK;SIGN PANGLAYAR;SIGN PANGWISAD;LETTER A;LETTER I;
LETTER U;LETTER AE;LETTER O;LETTER E;LETTER EU;LETTER KA;LETTER QA;LETTER GA;LETTER NGA;LETTER CA;
LETTER JA;LETTER ZA;LETTER NYA;LETTER TA;LETTER DA;LETTER NA;LETTER PA;LETTER FA;LETTER VA;
LETTER BA;LETTER MA;LETTER YA;LETTER RA;LETTER LA;LETTER WA;LETTER SA;LETTER XA;LETTER HA;
CONSONANT SIGN PAMINGKAL;CONSONANT SIGN PANYAKRA;CONSONANT SIGN PANYIKU;VOWEL SIGN PANGHULU;
VOWEL SIGN PANYUKU;VOWEL SIGN PANAELAENG;VOWEL SIGN PANOLONG;VOWEL SIGN PAMEPET;
VOWEL SIGN PANEULEUNG;SIGN PAMAAEH;SIGN VIRAMA;CONSONANT SIGN PASANGAN MA;
CONSONANT SIGN PASANGAN WA;LETTER KHA;LETTER SYA;DIGIT ZERO;DIGIT ONE;DIGIT TWO;DIGIT THREE;
DIGIT FOUR;DIGIT FIVE;DIGIT SIX;DIGIT SEVEN;DIGIT EIGHT;DIGIT NINE;AVAGRAHA;LETTER REU;LETTER LEU;
LETTER BHA;LETTER FINAL K;LETTER FINAL M.1BC0=BATAK LETTER :A;SIMALUNGUN A;HA;SIMALUNGUN HA;
MANDAILING HA;BA;KARO BA;PA;SIMALUNGUN PA;NA;MANDAILING NA;WA;SIMALUNGUN WA;PAKPAK WA;GA;
SIMALUNGUN GA;JA;DA;RA;SIMALUNGUN RA;MA;SIMALUNGUN MA;SOUTHERN TA;NORTHERN TA;SA;SIMALUNGUN SA;
MANDAILING SA;YA;SIMALUNGUN YA;NGA;LA;SIMALUNGUN LA;NYA;CA;NDA;MBA;I;U.1BE6=BATAK :SIGN TOMPI;
VOWEL SIGN E;VOWEL SIGN PAKPAK E;VOWEL SIGN EE;VOWEL SIGN I;VOWEL SIGN KARO I;VOWEL SIGN O;
VOWEL SIGN KARO O;VOWEL SIGN U;VOWEL SIGN U FOR SIMALUNGUN SA;CONSONANT SIGN NG;CONSONANT SIGN H;
PANGOLAT;PANONGONAN.1BFC=BATAK SYMBOL BINDU :NA METEK;PINARBORAS;JUDUL;PANGOLAT.
1C00=LEPCHA LETTER :KA;KLA;KHA;GA;GLA;NGA;CA;CHA;JA;NYA;TA;THA;DA;NA;PA;PLA;PHA;FA;FLA;BA;BLA;MA;
MLA;TSA;TSHA;DZA;YA;RA;LA;HA;HLA;VA;SA;SHA;WA;A.1C24=LEPCHA :SUBJOINED LETTER YA;
SUBJOINED LETTER RA;VOWEL SIGN AA;VOWEL SIGN I;VOWEL SIGN O;VOWEL SIGN OO;VOWEL SIGN U;
VOWEL SIGN UU;VOWEL SIGN E;CONSONANT SIGN K;CONSONANT SIGN M;CONSONANT SIGN L;CONSONANT SIGN N;
CONSONANT SIGN P;CONSONANT SIGN R;CONSONANT SIGN T;CONSONANT SIGN NYIN-DO;CONSONANT SIGN KANG;
SIGN RAN;SIGN NUKTA.1C3B=LEPCHA :PUNCTUATION TA-ROL;PUNCTUATION NYET THYOOM TA-ROL;
PUNCTUATION CER-WA;PUNCTUATION TSHOOK CER-WA;PUNCTUATION TSHOOK;DIGIT ZERO;DIGIT ONE;DIGIT TWO;
DIGIT THREE;DIGIT FOUR;DIGIT FIVE;DIGIT SIX;DIGIT SEVEN;DIGIT EIGHT;DIGIT NINE.1C4D=LEPCHA LETTER :
TTA;TTHA;DDA.1C50=OL CHIKI :DIGIT ZERO;DIGIT ONE;DIGIT TWO;DIGIT THREE;DIGIT FOUR;DIGIT FIVE;
DIGIT SIX;DIGIT SEVEN;DIGIT EIGHT;DIGIT NINE;LETTER LA;LETTER AT;LETTER AG;LETTER ANG;LETTER AL;
LETTER LAA;LETTER AAK;LETTER AAJ;LETTER AAM;LETTER AAW;LETTER LI;LETTER IS;LETTER IH;LETTER INY;
LETTER IR;LETTER LU;LETTER UC;LETTER UD;LETTER UNN;LETTER UY;LETTER LE;LETTER EP;LETTER EDD;
LETTER EN;LETTER ERR;LETTER LO;LETTER OTT;LETTER OB;LETTER OV;LETTER OH;MU TTUDDAG;
GAAHLAA TTUDDAAG;MU-GAAHLAA TTUDDAAG;RELAA;PHAARKAA;AHAD;PUNCTUATION MUCAAD;
PUNCTUATION DOUBLE MUCAAD.1C80=CYRILLIC SMALL LETTER :ROUNDED VE;LONG-LEGGED DE;NARROW O;WIDE ES;
TALL TE;THREE-LEGGED TE;TALL HARD SIGN;TALL YAT;UNBLENDED UK.
1C90=GEORGIAN MTAVRULI CAPITAL LETTER :AN;BAN;GAN;DON;EN;VIN;ZEN;TAN;IN;KAN;LAS;MAN;NAR;ON;PAR;
ZHAR;RAE;SAN;TAR;UN;PHAR;KHAR;GHAN;QAR;SHIN;CHIN;CAN;JIL;CIL;CHAR;XAN;JHAN;HAE;HE;HIE;WE;HAR;HOE;
FI;YN;ELIFI;TURNED GAN;AIN.1CBD=GEORGIAN MTAVRULI CAPITAL LETTER :AEN;HARD SIGN;LABIAL SIGN.
1CC0=SUNDANESE PUNCTUATION BINDU :SURYA;PANGLONG;PURNAMA;CAKRA;LEU SATANGA;KA SATANGA;DA SATANGA;
BA SATANGA.1CD0=VEDIC :TONE KARSHANA;TONE SHARA;TONE PRENKHA;SIGN NIHSHVASA;
SIGN YAJURVEDIC MIDLINE SVARITA;TONE YAJURVEDIC AGGRAVATED INDEPENDENT SVARITA;
TONE YAJURVEDIC INDEPENDENT SVARITA;TONE YAJURVEDIC KATHAKA INDEPENDENT SVARITA;TONE CANDRA BELOW;
TONE YAJURVEDIC KATHAKA INDEPENDENT SVARITA SCHROEDER;TONE DOUBLE SVARITA;TONE TRIPLE SVARITA;
TONE KATHAKA ANUDATTA;TONE DOT BELOW;TONE TWO DOTS BELOW;TONE THREE DOTS BELOW;
TONE RIGVEDIC KASHMIRI INDEPENDENT SVARITA;TONE ATHARVAVEDIC INDEPENDENT SVARITA;
SIGN VISARGA SVARITA;SIGN VISARGA UDATTA;SIGN REVERSED VISARGA UDATTA;SIGN VISARGA ANUDATTA;
SIGN REVERSED VISARGA ANUDATTA;SIGN VISARGA UDATTA WITH TAIL;SIGN VISARGA ANUDATTA WITH TAIL;
SIGN ANUSVARA ANTARGOMUKHA;SIGN ANUSVARA BAHIRGOMUKHA;SIGN ANUSVARA VAMAGOMUKHA;
SIGN ANUSVARA VAMAGOMUKHA WITH TAIL;SIGN TIRYAK;SIGN HEXIFORM LONG ANUSVARA;SIGN LONG ANUSVARA;
SIGN RTHANG LONG ANUSVARA;SIGN ANUSVARA UBHAYATO MUKHA;SIGN ARDHAVISARGA;SIGN ROTATED ARDHAVISARGA;
TONE CANDRA ABOVE;SIGN JIHVAMULIYA;SIGN UPADHMANIYA;SIGN ATIKRAMA;TONE RING ABOVE;
TONE DOUBLE RING ABOVE;SIGN DOUBLE ANUSVARA ANTARGOMUKHA."

end Workflow.Text
