/-!
# Names: letters of the past

Runs of names of characters of scripts that are no longer in common use. A run gives the code of
its first character, the start that its names share, and the rest of each name. Line ends mean
nothing.
-/

namespace Workflow.Text

/-- The names of these characters. -/
def ancientNames : String := "
10000=LINEAR B SYLLABLE :B008 A;B038 E;B028 I;B061 O;B010 U;B001 DA;B045 DE;B007 DI;B014 DO;
B051 DU;B057 JA;B046 JE.1000D=LINEAR B SYLLABLE :B036 JO;B065 JU;B077 KA;B044 KE;B067 KI;B070 KO;
B081 KU;B080 MA;B013 ME;B073 MI;B015 MO;B023 MU;B006 NA;B024 NE;B030 NI;B052 NO;B055 NU;B003 PA;
B072 PE;B039 PI;B011 PO;B050 PU;B016 QA;B078 QE;B021 QI;B032 QO.10028=LINEAR B SYLLABLE :B060 RA;
B027 RE;B053 RI;B002 RO;B026 RU;B031 SA;B009 SE;B041 SI;B012 SO;B058 SU;B059 TA;B004 TE;B037 TI;
B005 TO;B069 TU;B054 WA;B075 WE;B040 WI;B042 WO.1003C=LINEAR B SYLLABLE :B017 ZA;B074 ZE.
1003F=LINEAR B SYLLABLE :B020 ZO;B025 A2;B043 A3;B085 AU;B071 DWE;B090 DWO;B048 NWA;B029 PU2;
B062 PTE;B076 RA2;B033 RA3;B068 RO2;B066 TA2;B087 TWE;B091 TWO.10050=LINEAR B SYMBOL :B018;B019;
B022;B034;B047;B049;B056;B063;B064;B079;B082;B083;B086;B089.10080=LINEAR B :IDEOGRAM B100 MAN;
IDEOGRAM B102 WOMAN;IDEOGRAM B104 DEER;IDEOGRAM B105 EQUID;IDEOGRAM B105F MARE;
IDEOGRAM B105M STALLION;IDEOGRAM B106F EWE;IDEOGRAM B106M RAM;IDEOGRAM B107F SHE-GOAT;
IDEOGRAM B107M HE-GOAT;IDEOGRAM B108F SOW;IDEOGRAM B108M BOAR;IDEOGRAM B109F COW;
IDEOGRAM B109M BULL;IDEOGRAM B120 WHEAT;IDEOGRAM B121 BARLEY;IDEOGRAM B122 OLIVE;
IDEOGRAM B123 SPICE;IDEOGRAM B125 CYPERUS;MONOGRAM B127 KAPO;MONOGRAM B128 KANAKO;
IDEOGRAM B130 OIL;IDEOGRAM B131 WINE;IDEOGRAM B132;MONOGRAM B133 AREPA;MONOGRAM B135 MERI;
IDEOGRAM B140 BRONZE;IDEOGRAM B141 GOLD;IDEOGRAM B142;IDEOGRAM B145 WOOL;IDEOGRAM B146;
IDEOGRAM B150;IDEOGRAM B151 HORN;IDEOGRAM B152;IDEOGRAM B153;IDEOGRAM B154;MONOGRAM B156 TURO2;
IDEOGRAM B157;IDEOGRAM B158;IDEOGRAM B159 CLOTH;IDEOGRAM B160;IDEOGRAM B161;IDEOGRAM B162 GARMENT;
IDEOGRAM B163 ARMOUR;IDEOGRAM B164;IDEOGRAM B165;IDEOGRAM B166;IDEOGRAM B167;IDEOGRAM B168;
IDEOGRAM B169;IDEOGRAM B170;IDEOGRAM B171;IDEOGRAM B172;IDEOGRAM B173 MONTH;IDEOGRAM B174;
IDEOGRAM B176 TREE;IDEOGRAM B177;IDEOGRAM B178;IDEOGRAM B179;IDEOGRAM B180;IDEOGRAM B181;
IDEOGRAM B182;IDEOGRAM B183;IDEOGRAM B184;IDEOGRAM B185;IDEOGRAM B189;IDEOGRAM B190;
IDEOGRAM B191 HELMET;IDEOGRAM B220 FOOTSTOOL;IDEOGRAM B225 BATHTUB;IDEOGRAM B230 SPEAR;
IDEOGRAM B231 ARROW;IDEOGRAM B232;IDEOGRAM B233 SWORD;IDEOGRAM B234;IDEOGRAM B236;
IDEOGRAM B240 WHEELED CHARIOT;IDEOGRAM B241 CHARIOT;IDEOGRAM B242 CHARIOT FRAME;
IDEOGRAM B243 WHEEL;IDEOGRAM B245;IDEOGRAM B246;MONOGRAM B247 DIPTE;IDEOGRAM B248;IDEOGRAM B249;
IDEOGRAM B251;IDEOGRAM B252;IDEOGRAM B253;IDEOGRAM B254 DART;IDEOGRAM B255;IDEOGRAM B256;
IDEOGRAM B257;IDEOGRAM B258;IDEOGRAM B259;IDEOGRAM VESSEL B155;IDEOGRAM VESSEL B200;
IDEOGRAM VESSEL B201;IDEOGRAM VESSEL B202;IDEOGRAM VESSEL B203;IDEOGRAM VESSEL B204;
IDEOGRAM VESSEL B205;IDEOGRAM VESSEL B206;IDEOGRAM VESSEL B207;IDEOGRAM VESSEL B208;
IDEOGRAM VESSEL B209;IDEOGRAM VESSEL B210;IDEOGRAM VESSEL B211;IDEOGRAM VESSEL B212;
IDEOGRAM VESSEL B213;IDEOGRAM VESSEL B214;IDEOGRAM VESSEL B215;IDEOGRAM VESSEL B216;
IDEOGRAM VESSEL B217;IDEOGRAM VESSEL B218;IDEOGRAM VESSEL B219;IDEOGRAM VESSEL B221;
IDEOGRAM VESSEL B222;IDEOGRAM VESSEL B226;IDEOGRAM VESSEL B227;IDEOGRAM VESSEL B228;
IDEOGRAM VESSEL B229;IDEOGRAM VESSEL B250;IDEOGRAM VESSEL B305.10100=AEGEAN WORD SEPARATOR :LINE;
DOT.10102=:AEGEAN CHECK MARK.10107=AEGEAN NUMBER :ONE;TWO;THREE;FOUR;FIVE;SIX;SEVEN;EIGHT;NINE;TEN;
TWENTY;THIRTY;FORTY;FIFTY;SIXTY;SEVENTY;EIGHTY;NINETY;ONE HUNDRED;TWO HUNDRED;THREE HUNDRED;
FOUR HUNDRED;FIVE HUNDRED;SIX HUNDRED;SEVEN HUNDRED;EIGHT HUNDRED;NINE HUNDRED;ONE THOUSAND;
TWO THOUSAND;THREE THOUSAND;FOUR THOUSAND;FIVE THOUSAND;SIX THOUSAND;SEVEN THOUSAND;EIGHT THOUSAND;
NINE THOUSAND;TEN THOUSAND;TWENTY THOUSAND;THIRTY THOUSAND;FORTY THOUSAND;FIFTY THOUSAND;
SIXTY THOUSAND;SEVENTY THOUSAND;EIGHTY THOUSAND;NINETY THOUSAND.10137=AEGEAN WEIGHT :BASE UNIT;
FIRST SUBUNIT;SECOND SUBUNIT;THIRD SUBUNIT;FOURTH SUBUNIT.1013C=AEGEAN :DRY MEASURE FIRST SUBUNIT;
LIQUID MEASURE FIRST SUBUNIT;MEASURE SECOND SUBUNIT;MEASURE THIRD SUBUNIT.10140=GREEK ACROPHONIC :
ATTIC ONE QUARTER;ATTIC ONE HALF;ATTIC ONE DRACHMA;ATTIC FIVE;ATTIC FIFTY;ATTIC FIVE HUNDRED;
ATTIC FIVE THOUSAND;ATTIC FIFTY THOUSAND;ATTIC FIVE TALENTS;ATTIC TEN TALENTS;ATTIC FIFTY TALENTS;
ATTIC ONE HUNDRED TALENTS;ATTIC FIVE HUNDRED TALENTS;ATTIC ONE THOUSAND TALENTS;
ATTIC FIVE THOUSAND TALENTS;ATTIC FIVE STATERS;ATTIC TEN STATERS;ATTIC FIFTY STATERS;
ATTIC ONE HUNDRED STATERS;ATTIC FIVE HUNDRED STATERS;ATTIC ONE THOUSAND STATERS;
ATTIC TEN THOUSAND STATERS;ATTIC FIFTY THOUSAND STATERS;ATTIC TEN MNAS;HERAEUM ONE PLETHRON;
THESPIAN ONE;HERMIONIAN ONE;EPIDAUREAN TWO;THESPIAN TWO;CYRENAIC TWO DRACHMAS;
EPIDAUREAN TWO DRACHMAS;TROEZENIAN FIVE;TROEZENIAN TEN;TROEZENIAN TEN ALTERNATE FORM;
HERMIONIAN TEN;MESSENIAN TEN;THESPIAN TEN;THESPIAN THIRTY;TROEZENIAN FIFTY;
TROEZENIAN FIFTY ALTERNATE FORM;HERMIONIAN FIFTY;THESPIAN FIFTY;THESPIAN ONE HUNDRED;
THESPIAN THREE HUNDRED;EPIDAUREAN FIVE HUNDRED;TROEZENIAN FIVE HUNDRED;THESPIAN FIVE HUNDRED;
CARYSTIAN FIVE HUNDRED;NAXIAN FIVE HUNDRED;THESPIAN ONE THOUSAND;THESPIAN FIVE THOUSAND;
DELPHIC FIVE MNAS;STRATIAN FIFTY MNAS.10175=GREEK :ONE HALF SIGN;ONE HALF SIGN ALTERNATE FORM;
TWO THIRDS SIGN;THREE QUARTERS SIGN;YEAR SIGN;TALENT SIGN;DRACHMA SIGN;OBOL SIGN;TWO OBOLS SIGN;
THREE OBOLS SIGN;FOUR OBOLS SIGN;FIVE OBOLS SIGN;METRETES SIGN;KYATHOS BASE SIGN;LITRA SIGN;
OUNKIA SIGN;XESTES SIGN;ARTABE SIGN;AROURA SIGN;GRAMMA SIGN;TRYBLION BASE SIGN;ZERO SIGN;
ONE QUARTER SIGN;SINUSOID SIGN;INDICTION SIGN.1018E=:NOMISMA SIGN.10190=ROMAN :SEXTANS SIGN;
UNCIA SIGN;SEMUNCIA SIGN;SEXTULA SIGN;DIMIDIA SEXTULA SIGN;SILIQUA SIGN;DENARIUS SIGN;
QUINARIUS SIGN;SESTERTIUS SIGN;DUPONDIUS SIGN;AS SIGN;CENTURIAL SIGN.1019C=:ASCIA SYMBOL.101A0=:
GREEK SYMBOL TAU RHO.101D0=PHAISTOS DISC SIGN :PEDESTRIAN;PLUMED HEAD;TATTOOED HEAD;CAPTIVE;CHILD;
WOMAN;HELMET;GAUNTLET;TIARA;ARROW;BOW;SHIELD;CLUB;MANACLES;MATTOCK;SAW;LID;BOOMERANG;
CARPENTRY PLANE;DOLIUM;COMB;SLING;COLUMN;BEEHIVE;SHIP;HORN;HIDE;BULLS LEG;CAT;RAM;EAGLE;DOVE;TUNNY;
BEE;PLANE TREE;VINE;PAPYRUS;ROSETTE;LILY;OX BACK;FLUTE;GRATER;STRAINER;SMALL AXE;WAVY BAND;
COMBINING OBLIQUE STROKE.10280=LYCIAN LETTER :A;E;B;BH;G;D;I;W;Z;TH;J;K;Q;L;M;N;MM;NN;U;P;KK;R;S;T;
TT;AN;EN;H;X.102A0=CARIAN LETTER :A;P2;D;L;UUU;R;LD;A2;Q;B;M;O;D2;T;SH;SH2;S;C-18;U;NN;X;N;TT2;P;
SS;I;E;UUUU;K;K2;ND;UU;G;G2;ST;ST2;NG;II;C-39;TT;UUU2;RR;MB;MB2;MB3;MB4;LD2;E2;UUU3.
102E0=COPTIC EPACT :THOUSANDS MARK;DIGIT ONE;DIGIT TWO;DIGIT THREE;DIGIT FOUR;DIGIT FIVE;DIGIT SIX;
DIGIT SEVEN;DIGIT EIGHT;DIGIT NINE;NUMBER TEN;NUMBER TWENTY;NUMBER THIRTY;NUMBER FORTY;
NUMBER FIFTY;NUMBER SIXTY;NUMBER SEVENTY;NUMBER EIGHTY;NUMBER NINETY;NUMBER ONE HUNDRED;
NUMBER TWO HUNDRED;NUMBER THREE HUNDRED;NUMBER FOUR HUNDRED;NUMBER FIVE HUNDRED;NUMBER SIX HUNDRED;
NUMBER SEVEN HUNDRED;NUMBER EIGHT HUNDRED;NUMBER NINE HUNDRED.10300=OLD ITALIC LETTER :A;BE;KE;DE;
E;VE;ZE;HE;THE;I;KA;EL;EM;EN;ESH;O;PE;SHE;KU;ER;ES;TE;U;EKS;PHE;KHE;EF;ERS;CHE;II;UU;ESS.
10320=OLD ITALIC NUMERAL :ONE;FIVE;TEN;FIFTY.1032D=OLD ITALIC LETTER :YE;NORTHERN TSE;SOUTHERN TSE.
10330=GOTHIC LETTER :AHSA;BAIRKAN;GIBA;DAGS;AIHVUS;QAIRTHRA;IUJA;HAGL;THIUTH;EIS;KUSMA;LAGUS;MANNA;
NAUTHS;JER;URUS;PAIRTHRA;NINETY;RAIDA;SAUIL;TEIWS;WINJA;FAIHU;IGGWS;HWAIR;OTHAL;NINE HUNDRED.
10350=OLD PERMIC LETTER :AN;BUR;GAI;DOI;E;ZHOI;DZHOI;ZATA;DZITA;I;KOKE;LEI;MENOE;NENOE;VOOI;PEEI;
REI;SII;TAI;U;CHERY;SHOOI;SHCHOOI;YRY;YERU;O;OO;EF;HA;TSIU;VER;YER;YERI;YAT;IE;YU;YA;IA.
10376=COMBINING OLD PERMIC LETTER :AN;DOI;ZATA;NENOE;SII.10380=UGARITIC LETTER :ALPA;BETA;GAMLA;
KHA;DELTA;HO;WO;ZETA;HOTA;TET;YOD;KAF;SHIN;LAMDA;MEM;DHAL;NUN;ZU;SAMKA;AIN;PU;SADE;QOPA;RASHA;
THANNA;GHAIN;TO;I;U;SSU.1039F=:UGARITIC WORD DIVIDER.103A0=OLD PERSIAN SIGN :A;I;U;KA;KU;GA;GU;XA;
CA;JA;JI;TA;TU;DA;DI;DU;THA;PA;BA;FA;NA;NU;MA;MI;MU;YA;VA;VI;RA;RU;LA;SA;ZA;SHA;SSA;HA.
103C8=OLD PERSIAN :SIGN AURAMAZDAA;SIGN AURAMAZDAA-2;SIGN AURAMAZDAAHA;SIGN XSHAAYATHIYA;
SIGN DAHYAAUSH;SIGN DAHYAAUSH-2;SIGN BAGA;SIGN BUUMISH;WORD DIVIDER;NUMBER ONE;NUMBER TWO;
NUMBER TEN;NUMBER TWENTY;NUMBER HUNDRED.10400=DESERET CAPITAL LETTER :LONG I;LONG E;LONG A;LONG AH;
LONG O;LONG OO;SHORT I;SHORT E;SHORT A;SHORT AH;SHORT O;SHORT OO;AY;OW;WU;YEE;H;PEE;BEE;TEE;DEE;
CHEE;JEE;KAY;GAY;EF;VEE;ETH;THEE;ES;ZEE;ESH;ZHEE;ER;EL;EM;EN;ENG;OI;EW.10428=DESERET SMALL LETTER :
LONG I;LONG E;LONG A;LONG AH;LONG O;LONG OO;SHORT I;SHORT E;SHORT A;SHORT AH;SHORT O;SHORT OO;AY;
OW;WU;YEE;H;PEE;BEE;TEE;DEE;CHEE;JEE;KAY;GAY;EF;VEE;ETH;THEE;ES;ZEE;ESH;ZHEE;ER;EL;EM;EN;ENG;OI;EW.
10450=SHAVIAN LETTER :PEEP;TOT;KICK;FEE;THIGH;SO;SURE;CHURCH;YEA;HUNG;BIB;DEAD;GAG;VOW;THEY;ZOO;
MEASURE;JUDGE;WOE;HA-HA;LOLL;MIME;IF;EGG;ASH;ADO;ON;WOOL;OUT;AH;ROAR;NUN;EAT;AGE;ICE;UP;OAK;OOZE;
OIL;AWE;ARE;OR;AIR;ERR;ARRAY;EAR;IAN;YEW.10480=OSMANYA LETTER :ALEF;BA;TA;JA;XA;KHA;DEEL;RA;SA;
SHIIN;DHA;CAYN;GA;FA;QAAF;KAAF;LAAN;MIIN;NUUN;WAW;HA;YA;A;E;I;O;U;AA;EE;OO.104A0=OSMANYA DIGIT :
ZERO;ONE;TWO;THREE;FOUR;FIVE;SIX;SEVEN;EIGHT;NINE.104B0=OSAGE CAPITAL LETTER :A;AI;AIN;AH;BRA;CHA;
EHCHA;E;EIN;HA;HYA;I;KA;EHKA;KYA;LA;MA;NA;O;OIN;PA;EHPA;SA;SHA;TA;EHTA;TSA;EHTSA;TSHA;DHA;U;WA;KHA;
GHA;ZA;ZHA.104D8=OSAGE SMALL LETTER :A;AI;AIN;AH;BRA;CHA;EHCHA;E;EIN;HA;HYA;I;KA;EHKA;KYA;LA;MA;NA;
O;OIN;PA;EHPA;SA;SHA;TA;EHTA;TSA;EHTSA;TSHA;DHA;U;WA;KHA;GHA;ZA;ZHA.10500=ELBASAN LETTER :A;BE;CE;
CHE;DE;NDE;DHE;EI;E;FE;GE;GJE;HE;I;JE;KE;LE;LLE;ME;NE;NA;NJE;O;PE;QE;RE;RRE;SE;SHE;TE;THE;U;VE;XE;
Y;ZE;ZHE;GHE;GHAMMA;KHE.10530=CAUCASIAN ALBANIAN LETTER :ALT;BET;GIM;DAT;EB;ZARL;EYN;ZHIL;TAS;CHA;
YOWD;ZHA;IRB;SHA;LAN;INYA;XEYN;DYAN;CAR;JHOX;KAR;LYIT;HEYT;QAY;AOR;CHOY;CHI;CYAY;MAQ;QAR;NOWC;
DZYAY;SHAK;JAYN;ON;TYAY;FAM;DZAY;CHAT;PEN;GHEYS;RAT;SEYK;VEYZ;TIWR;SHOY;IWN;CYAW;CAYN;YAYD;PIWR;
KIW.1056F=:CAUCASIAN ALBANIAN CITATION MARK.10570=VITHKUQI CAPITAL LETTER :A;BBE;BE;CE;CHE;DE;DHE;
EI;E;FE;GA.1057C=VITHKUQI CAPITAL LETTER :HA;HHA;I;IJE;JE;KA;LA;LLA;ME;NE;NJE;O;PE;QA;RE.
1058C=VITHKUQI CAPITAL LETTER :SE;SHE;TE;THE;U;VE;XE.10594=VITHKUQI CAPITAL LETTER :Y;ZE.
10597=VITHKUQI SMALL LETTER :A;BBE;BE;CE;CHE;DE;DHE;EI;E;FE;GA.105A3=VITHKUQI SMALL LETTER :HA;HHA;
I;IJE;JE;KA;LA;LLA;ME;NE;NJE;O;PE;QA;RE.105B3=VITHKUQI SMALL LETTER :SE;SHE;TE;THE;U;VE;XE.
105BB=VITHKUQI SMALL LETTER :Y;ZE.10600=LINEAR A SIGN :AB001;AB002;AB003;AB004;AB005;AB006;AB007;
AB008;AB009;AB010;AB011;AB013;AB016;AB017;AB020;AB021;AB021F;AB021M;AB022;AB022F;AB022M;AB023;
AB023M;AB024;AB026;AB027;AB028;A028B;AB029;AB030;AB031;AB034;AB037;AB038;AB039;AB040;AB041;AB044;
AB045;AB046;AB047;AB048;AB049;AB050;AB051;AB053;AB054;AB055;AB056;AB057;AB058;AB059;AB060;AB061;
AB065;AB066;AB067;AB069;AB070;AB073;AB074;AB076;AB077;AB078;AB079;AB080;AB081;AB082;AB085;AB086;
AB087;A100-102;AB118;AB120;A120B;AB122;AB123;AB131A;AB131B;A131C;AB164;AB171;AB180;AB188;AB191;
A301;A302;A303;A304;A305;A306;A307;A308;A309A;A309B;A309C;A310;A311;A312;A313A;A313B;A313C;A314;
A315;A316;A317;A318;A319;A320;A321;A322;A323;A324;A325;A326;A327;A328;A329;A330;A331;A332;A333;
A334;A335;A336;A337;A338;A339;A340;A341;A342;A343;A344;A345;A346;A347;A348;A349;A350;A351;A352;
A353;A354;A355;A356;A357;A358;A359;A360;A361;A362;A363;A364;A365;A366;A367;A368;A369;A370;A371;
A400-VAS;A401-VAS;A402-VAS;A403-VAS;A404-VAS;A405-VAS;A406-VAS;A407-VAS;A408-VAS;A409-VAS;A410-VAS;
A411-VAS;A412-VAS;A413-VAS;A414-VAS;A415-VAS;A416-VAS;A417-VAS;A418-VAS;A501;A502;A503;A504;A505;
A506;A508;A509;A510;A511;A512;A513;A515;A516;A520;A521;A523;A524;A525;A526;A527;A528;A529;A530;
A531;A532;A534;A535;A536;A537;A538;A539;A540;A541;A542;A545;A547;A548;A549;A550;A551;A552;A553;
A554;A555;A556;A557;A559;A563;A564;A565;A566;A568;A569;A570;A571;A572;A573;A574;A575;A576;A577;
A578;A579;A580;A581;A582;A583;A584;A585;A586;A587;A588;A589;A591;A592;A594;A595;A596;A598;A600;
A601;A602;A603;A604;A606;A608;A609;A610;A611;A612;A613;A614;A615;A616;A617;A618;A619;A620;A621;
A622;A623;A624;A626;A627;A628;A629;A634;A637;A638;A640;A642;A643;A644;A645;A646;A648;A649;A651;
A652;A653;A654;A655;A656;A657;A658;A659;A660;A661;A662;A663;A664.10740=LINEAR A SIGN :A701 A;
A702 B;A703 D;A704 E;A705 F;A706 H;A707 J;A708 K;A709 L;A709-2 L2;A709-3 L3;A709-4 L4;A709-6 L6;
A710 W;A711 X;A712 Y;A713 OMEGA;A714 ABB;A715 BB;A717 DD;A726 EYYY;A732 JE.10760=LINEAR A SIGN :
A800;A801;A802;A803;A804;A805;A806;A807.10780=MODIFIER LETTER :SMALL CAPITAL AA;
SUPERSCRIPT TRIANGULAR COLON;SUPERSCRIPT HALF TRIANGULAR COLON;SMALL AE;SMALL CAPITAL B;
SMALL B WITH HOOK.10787=MODIFIER LETTER SMALL :DZ DIGRAPH;DZ DIGRAPH WITH RETROFLEX HOOK;
DZ DIGRAPH WITH CURL;DEZH DIGRAPH;D WITH TAIL;D WITH HOOK;D WITH HOOK AND TAIL;REVERSED E;
CLOSED REVERSED OPEN E;FENG DIGRAPH;RAMS HORN;CAPITAL G;G WITH HOOK;CAPITAL G WITH HOOK;
H WITH STROKE;CAPITAL H;HENG WITH HOOK;DOTLESS J WITH STROKE AND HOOK;LS DIGRAPH;LZ DIGRAPH;
L WITH BELT;CAPITAL L WITH BELT;L WITH RETROFLEX HOOK AND BELT;LEZH;LEZH WITH RETROFLEX HOOK;
TURNED Y;TURNED Y WITH BELT;O WITH STROKE;CAPITAL OE;CLOSED OMEGA;Q;TURNED R WITH LONG LEG;
TURNED R WITH LONG LEG AND RETROFLEX HOOK;R WITH TAIL;R WITH FISHHOOK;CAPITAL R;
TC DIGRAPH WITH CURL;TS DIGRAPH;TS DIGRAPH WITH RETROFLEX HOOK;TESH DIGRAPH;T WITH RETROFLEX HOOK;
V WITH RIGHT HOOK.107B2=MODIFIER LETTER :SMALL CAPITAL Y;GLOTTAL STOP WITH STROKE;
REVERSED GLOTTAL STOP WITH STROKE;BILABIAL CLICK;DENTAL CLICK;LATERAL CLICK;ALVEOLAR CLICK;
RETROFLEX CLICK WITH RETROFLEX HOOK;SMALL S WITH CURL.10800=CYPRIOT SYLLABLE :A;E;I;O;U;JA.10808=:
CYPRIOT SYLLABLE JO.1080A=CYPRIOT SYLLABLE :KA;KE;KI;KO;KU;LA;LE;LI;LO;LU;MA;ME;MI;MO;MU;NA;NE;NI;
NO;NU;PA;PE;PI;PO;PU;RA;RE;RI;RO;RU;SA;SE;SI;SO;SU;TA;TE;TI;TO;TU;WA;WE;WI;WO.
10837=CYPRIOT SYLLABLE :XA;XE.1083C=:CYPRIOT SYLLABLE ZA.1083F=:CYPRIOT SYLLABLE ZO.
10840=IMPERIAL ARAMAIC LETTER :ALEPH;BETH;GIMEL;DALETH;HE;WAW;ZAYIN;HETH;TETH;YODH;KAPH;LAMEDH;MEM;
NUN;SAMEKH;AYIN;PE;SADHE;QOPH;RESH;SHIN;TAW.10857=IMPERIAL ARAMAIC :SECTION SIGN;NUMBER ONE;
NUMBER TWO;NUMBER THREE;NUMBER TEN;NUMBER TWENTY;NUMBER ONE HUNDRED;NUMBER ONE THOUSAND;
NUMBER TEN THOUSAND.10860=PALMYRENE LETTER :ALEPH;BETH;GIMEL;DALETH;HE;WAW;ZAYIN;HETH;TETH;YODH;
KAPH;LAMEDH;MEM;FINAL NUN;NUN;SAMEKH;AYIN;PE;SADHE;QOPH;RESH;SHIN;TAW.10877=PALMYRENE :
LEFT-POINTING FLEURON;RIGHT-POINTING FLEURON;NUMBER ONE;NUMBER TWO;NUMBER THREE;NUMBER FOUR;
NUMBER FIVE;NUMBER TEN;NUMBER TWENTY.10880=NABATAEAN LETTER :FINAL ALEPH;ALEPH;FINAL BETH;BETH;
GIMEL;DALETH;FINAL HE;HE;WAW;ZAYIN;HETH;TETH;FINAL YODH;YODH;FINAL KAPH;KAPH;FINAL LAMEDH;LAMEDH;
FINAL MEM;MEM;FINAL NUN;NUN;SAMEKH;AYIN;PE;SADHE;QOPH;RESH;FINAL SHIN;SHIN;TAW.108A7=NABATAEAN :
NUMBER ONE;NUMBER TWO;NUMBER THREE;NUMBER FOUR;CRUCIFORM NUMBER FOUR;NUMBER FIVE;NUMBER TEN;
NUMBER TWENTY;NUMBER ONE HUNDRED.108E0=HATRAN LETTER :ALEPH;BETH;GIMEL;DALETH-RESH;HE;WAW;ZAYN;
HETH;TETH;YODH;KAPH;LAMEDH;MEM;NUN;SAMEKH;AYN;PE;SADHE;QOPH.108F4=HATRAN LETTER :SHIN;TAW.
108FB=HATRAN NUMBER :ONE;FIVE;TEN;TWENTY;ONE HUNDRED.10900=PHOENICIAN LETTER :ALF;BET;GAML;DELT;HE;
WAU;ZAI;HET;TET;YOD;KAF;LAMD;MEM;NUN;SEMK;AIN;PE;SADE;QOF;ROSH;SHIN;TAU.10916=PHOENICIAN NUMBER :
ONE;TEN;TWENTY;ONE HUNDRED;TWO;THREE.1091F=:PHOENICIAN WORD SEPARATOR.10920=LYDIAN LETTER :A;B;G;D;
E;V;I;Y;K;L;M;N;O;R;SS;T;U;F;Q;S;TT;AN;EN;LY;NN;C.1093F=:LYDIAN TRIANGULAR MARK.
10980=MEROITIC HIEROGLYPHIC LETTER :A;E;I;O;YA;WA;BA;BA-2;PA;MA;NA;NA-2;NE;NE-2;RA;RA-2;LA;KHA;HHA;
SA;SA-2;SE;KA;QA;TA;TA-2;TE;TE-2;TO;DA.1099E=MEROITIC :HIEROGLYPHIC SYMBOL VIDJ;
HIEROGLYPHIC SYMBOL VIDJ-2;CURSIVE LETTER A;CURSIVE LETTER E;CURSIVE LETTER I;CURSIVE LETTER O;
CURSIVE LETTER YA;CURSIVE LETTER WA;CURSIVE LETTER BA;CURSIVE LETTER PA;CURSIVE LETTER MA;
CURSIVE LETTER NA;CURSIVE LETTER NE;CURSIVE LETTER RA;CURSIVE LETTER LA;CURSIVE LETTER KHA;
CURSIVE LETTER HHA;CURSIVE LETTER SA;CURSIVE LETTER ARCHAIC SA;CURSIVE LETTER SE;CURSIVE LETTER KA;
CURSIVE LETTER QA;CURSIVE LETTER TA;CURSIVE LETTER TE;CURSIVE LETTER TO;CURSIVE LETTER DA.
109BC=MEROITIC CURSIVE :FRACTION ELEVEN TWELFTHS;FRACTION ONE HALF;LOGOGRAM RMT;LOGOGRAM IMN;
NUMBER ONE;NUMBER TWO;NUMBER THREE;NUMBER FOUR;NUMBER FIVE;NUMBER SIX;NUMBER SEVEN;NUMBER EIGHT;
NUMBER NINE;NUMBER TEN;NUMBER TWENTY;NUMBER THIRTY;NUMBER FORTY;NUMBER FIFTY;NUMBER SIXTY;
NUMBER SEVENTY.109D2=MEROITIC CURSIVE NUMBER :ONE HUNDRED;TWO HUNDRED;THREE HUNDRED;FOUR HUNDRED;
FIVE HUNDRED;SIX HUNDRED;SEVEN HUNDRED;EIGHT HUNDRED;NINE HUNDRED;ONE THOUSAND;TWO THOUSAND;
THREE THOUSAND;FOUR THOUSAND;FIVE THOUSAND;SIX THOUSAND;SEVEN THOUSAND;EIGHT THOUSAND;
NINE THOUSAND;TEN THOUSAND;TWENTY THOUSAND;THIRTY THOUSAND;FORTY THOUSAND;FIFTY THOUSAND;
SIXTY THOUSAND;SEVENTY THOUSAND;EIGHTY THOUSAND;NINETY THOUSAND;ONE HUNDRED THOUSAND;
TWO HUNDRED THOUSAND;THREE HUNDRED THOUSAND;FOUR HUNDRED THOUSAND;FIVE HUNDRED THOUSAND;
SIX HUNDRED THOUSAND;SEVEN HUNDRED THOUSAND;EIGHT HUNDRED THOUSAND;NINE HUNDRED THOUSAND.
109F6=MEROITIC CURSIVE FRACTION :ONE TWELFTH;TWO TWELFTHS;THREE TWELFTHS;FOUR TWELFTHS;
FIVE TWELFTHS;SIX TWELFTHS;SEVEN TWELFTHS;EIGHT TWELFTHS;NINE TWELFTHS;TEN TWELFTHS.
10A00=KHAROSHTHI :LETTER A;VOWEL SIGN I;VOWEL SIGN U;VOWEL SIGN VOCALIC R.
10A05=KHAROSHTHI VOWEL SIGN :E;O.10A0C=KHAROSHTHI :VOWEL LENGTH MARK;SIGN DOUBLE RING BELOW;
SIGN ANUSVARA;SIGN VISARGA;LETTER KA;LETTER KHA;LETTER GA;LETTER GHA.10A15=KHAROSHTHI LETTER :CA;
CHA;JA.10A19=KHAROSHTHI LETTER :NYA;TTA;TTHA;DDA;DDHA;NNA;TA;THA;DA;DHA;NA;PA;PHA;BA;BHA;MA;YA;RA;
LA;VA;SHA;SSA;SA;ZA;HA;KKA;TTTHA;TTTA;VHA.10A38=KHAROSHTHI SIGN :BAR ABOVE;CAUDA;DOT BELOW.
10A3F=KHAROSHTHI :VIRAMA;DIGIT ONE;DIGIT TWO;DIGIT THREE;DIGIT FOUR;NUMBER TEN;NUMBER TWENTY;
NUMBER ONE HUNDRED;NUMBER ONE THOUSAND;FRACTION ONE HALF.10A50=KHAROSHTHI PUNCTUATION :DOT;
SMALL CIRCLE;CIRCLE;CRESCENT BAR;MANGALAM;LOTUS;DANDA;DOUBLE DANDA;LINES.
10A60=OLD SOUTH ARABIAN LETTER :HE;LAMEDH;HETH;MEM;QOPH;WAW;SHIN;RESH;BETH;TAW;SAT;KAPH;NUN;KHETH;
SADHE;SAMEKH;FE;ALEF;AYN;DHADHE;GIMEL;DALETH;GHAYN;TETH;ZAYN;DHALETH;YODH;THAW;THETH.10A7D=OLD :
SOUTH ARABIAN NUMBER ONE;SOUTH ARABIAN NUMBER FIFTY;SOUTH ARABIAN NUMERIC INDICATOR;
NORTH ARABIAN LETTER HEH;NORTH ARABIAN LETTER LAM;NORTH ARABIAN LETTER HAH;
NORTH ARABIAN LETTER MEEM;NORTH ARABIAN LETTER QAF;NORTH ARABIAN LETTER WAW;
NORTH ARABIAN LETTER ES-2;NORTH ARABIAN LETTER REH;NORTH ARABIAN LETTER BEH;
NORTH ARABIAN LETTER TEH;NORTH ARABIAN LETTER ES-1;NORTH ARABIAN LETTER KAF;
NORTH ARABIAN LETTER NOON;NORTH ARABIAN LETTER KHAH;NORTH ARABIAN LETTER SAD;
NORTH ARABIAN LETTER ES-3;NORTH ARABIAN LETTER FEH;NORTH ARABIAN LETTER ALEF;
NORTH ARABIAN LETTER AIN;NORTH ARABIAN LETTER DAD;NORTH ARABIAN LETTER GEEM;
NORTH ARABIAN LETTER DAL;NORTH ARABIAN LETTER GHAIN;NORTH ARABIAN LETTER TAH;
NORTH ARABIAN LETTER ZAIN;NORTH ARABIAN LETTER THAL;NORTH ARABIAN LETTER YEH;
NORTH ARABIAN LETTER THEH;NORTH ARABIAN LETTER ZAH;NORTH ARABIAN NUMBER ONE;
NORTH ARABIAN NUMBER TEN;NORTH ARABIAN NUMBER TWENTY.10AC0=MANICHAEAN :LETTER ALEPH;LETTER BETH;
LETTER BHETH;LETTER GIMEL;LETTER GHIMEL;LETTER DALETH;LETTER HE;LETTER WAW;SIGN UD;LETTER ZAYIN;
LETTER ZHAYIN;LETTER JAYIN;LETTER JHAYIN;LETTER HETH;LETTER TETH;LETTER YODH;LETTER KAPH;
LETTER XAPH;LETTER KHAPH;LETTER LAMEDH;LETTER DHAMEDH;LETTER THAMEDH;LETTER MEM;LETTER NUN;
LETTER SAMEKH;LETTER AYIN;LETTER AAYIN;LETTER PE;LETTER FE;LETTER SADHE;LETTER QOPH;LETTER XOPH;
LETTER QHOPH;LETTER RESH;LETTER SHIN;LETTER SSHIN;LETTER TAW;ABBREVIATION MARK ABOVE;
ABBREVIATION MARK BELOW.10AEB=MANICHAEAN :NUMBER ONE;NUMBER FIVE;NUMBER TEN;NUMBER TWENTY;
NUMBER ONE HUNDRED;PUNCTUATION STAR;PUNCTUATION FLEURON;PUNCTUATION DOUBLE DOT WITHIN DOT;
PUNCTUATION DOT WITHIN DOT;PUNCTUATION DOT;PUNCTUATION TWO DOTS;PUNCTUATION LINE FILLER.
10B00=AVESTAN LETTER :A;AA;AO;AAO;AN;AAN;AE;AEE;E;EE;O;OO;I;II;U;UU;KE;XE;XYE;XVE;GE;GGE;GHE;CE;JE;
TE;THE;DE;DHE;TTE;PE;FE;BE;BHE;NGE;NGYE;NGVE;NE;NYE;NNE;ME;HME;YYE;YE;VE;RE;LE;SE;ZE;SHE;ZHE;SHYE;
SSHE;HE.10B39=:AVESTAN ABBREVIATION MARK;TINY TWO DOTS OVER ONE DOT PUNCTUATION;
SMALL TWO DOTS OVER ONE DOT PUNCTUATION.10B3C=LARGE :TWO DOTS OVER ONE DOT PUNCTUATION;
ONE DOT OVER TWO DOTS PUNCTUATION;TWO RINGS OVER ONE RING PUNCTUATION;
ONE RING OVER TWO RINGS PUNCTUATION.10B40=INSCRIPTIONAL PARTHIAN LETTER :ALEPH;BETH;GIMEL;DALETH;
HE;WAW;ZAYIN;HETH;TETH;YODH;KAPH;LAMEDH;MEM;NUN;SAMEKH;AYIN;PE;SADHE;QOPH;RESH;SHIN;TAW.
10B58=INSCRIPTIONAL :PARTHIAN NUMBER ONE;PARTHIAN NUMBER TWO;PARTHIAN NUMBER THREE;
PARTHIAN NUMBER FOUR;PARTHIAN NUMBER TEN;PARTHIAN NUMBER TWENTY;PARTHIAN NUMBER ONE HUNDRED;
PARTHIAN NUMBER ONE THOUSAND;PAHLAVI LETTER ALEPH;PAHLAVI LETTER BETH;PAHLAVI LETTER GIMEL;
PAHLAVI LETTER DALETH;PAHLAVI LETTER HE;PAHLAVI LETTER WAW-AYIN-RESH;PAHLAVI LETTER ZAYIN;
PAHLAVI LETTER HETH;PAHLAVI LETTER TETH;PAHLAVI LETTER YODH;PAHLAVI LETTER KAPH;
PAHLAVI LETTER LAMEDH;PAHLAVI LETTER MEM-QOPH;PAHLAVI LETTER NUN;PAHLAVI LETTER SAMEKH;
PAHLAVI LETTER PE;PAHLAVI LETTER SADHE;PAHLAVI LETTER SHIN;PAHLAVI LETTER TAW.
10B78=INSCRIPTIONAL PAHLAVI NUMBER :ONE;TWO;THREE;FOUR;TEN;TWENTY;ONE HUNDRED;ONE THOUSAND.
10B80=PSALTER PAHLAVI LETTER :ALEPH;BETH;GIMEL;DALETH;HE;WAW-AYIN-RESH;ZAYIN;HETH;YODH;KAPH;LAMEDH;
MEM-QOPH;NUN;SAMEKH;PE;SADHE;SHIN;TAW.10B99=PSALTER PAHLAVI :SECTION MARK;TURNED SECTION MARK;
FOUR DOTS WITH CROSS;FOUR DOTS WITH DOT.10BA9=PSALTER PAHLAVI NUMBER :ONE;TWO;THREE;FOUR;TEN;
TWENTY;ONE HUNDRED.10C00=OLD TURKIC LETTER :ORKHON A;YENISEI A;YENISEI AE;ORKHON I;YENISEI I;
YENISEI E;ORKHON O;ORKHON OE;YENISEI OE;ORKHON AB;YENISEI AB;ORKHON AEB;YENISEI AEB;ORKHON AG;
YENISEI AG;ORKHON AEG;YENISEI AEG;ORKHON AD;YENISEI AD;ORKHON AED;ORKHON EZ;YENISEI EZ;ORKHON AY;
YENISEI AY;ORKHON AEY;YENISEI AEY;ORKHON AEK;YENISEI AEK;ORKHON OEK;YENISEI OEK;ORKHON AL;
YENISEI AL;ORKHON AEL;ORKHON ELT;ORKHON EM;ORKHON AN;ORKHON AEN;YENISEI AEN;ORKHON ENT;YENISEI ENT;
ORKHON ENC;YENISEI ENC;ORKHON ENY;YENISEI ENY;YENISEI ANG;ORKHON ENG;YENISEI AENG;ORKHON EP;
ORKHON OP;ORKHON IC;ORKHON EC;YENISEI EC;ORKHON AQ;YENISEI AQ;ORKHON IQ;YENISEI IQ;ORKHON OQ;
YENISEI OQ;ORKHON AR;YENISEI AR;ORKHON AER;ORKHON AS;ORKHON AES;ORKHON ASH;YENISEI ASH;ORKHON ESH;
YENISEI ESH;ORKHON AT;YENISEI AT;ORKHON AET;YENISEI AET;ORKHON OT;ORKHON BASH.
10C80=OLD HUNGARIAN CAPITAL LETTER :A;AA;EB;AMB;EC;ENC;ECS;ED;AND;E;CLOSE E;EE;EF;EG;EGY;EH;I;II;
EJ;EK;AK;UNK;EL;ELY;EM;EN;ENY;O;OO;NIKOLSBURG OE;RUDIMENTA OE;OEE;EP;EMP;ER;SHORT ER;ES;ESZ;ET;ENT;
ETY;ECH;U;UU;NIKOLSBURG UE;RUDIMENTA UE;EV;EZ;EZS;ENT-SHAPED SIGN;US.
10CC0=OLD HUNGARIAN SMALL LETTER :A;AA;EB;AMB;EC;ENC;ECS;ED;AND;E;CLOSE E;EE;EF;EG;EGY;EH;I;II;EJ;
EK;AK;UNK;EL;ELY;EM;EN;ENY;O;OO;NIKOLSBURG OE;RUDIMENTA OE;OEE;EP;EMP;ER;SHORT ER;ES;ESZ;ET;ENT;
ETY;ECH;U;UU;NIKOLSBURG UE;RUDIMENTA UE;EV;EZ;EZS;ENT-SHAPED SIGN;US.10CFA=OLD HUNGARIAN NUMBER :
ONE;FIVE;TEN;FIFTY;ONE HUNDRED;ONE THOUSAND.10D00=HANIFI ROHINGYA LETTER :A;BA;PA;TA;TTA;JA;CA;HA;
KHA;FA;DA;DDA;RA;RRA;ZA;SA;SHA;KA;GA;LA;MA;NA;WA;KINNA WA;YA;KINNA YA;NGA;NYA;VA.
10D1D=HANIFI ROHINGYA :VOWEL A;VOWEL I;VOWEL U;VOWEL E;VOWEL O;MARK SAKIN;MARK NA KHONNA;
SIGN HARBAHAY;SIGN TAHALA;SIGN TANA;SIGN TASSI.10D30=HANIFI ROHINGYA DIGIT :ZERO;ONE;TWO;THREE;
FOUR;FIVE;SIX;SEVEN;EIGHT;NINE.10E60=RUMI :DIGIT ONE;DIGIT TWO;DIGIT THREE;DIGIT FOUR;DIGIT FIVE;
DIGIT SIX;DIGIT SEVEN;DIGIT EIGHT;DIGIT NINE;NUMBER TEN;NUMBER TWENTY;NUMBER THIRTY;NUMBER FORTY;
NUMBER FIFTY;NUMBER SIXTY;NUMBER SEVENTY;NUMBER EIGHTY;NUMBER NINETY;NUMBER ONE HUNDRED;
NUMBER TWO HUNDRED;NUMBER THREE HUNDRED;NUMBER FOUR HUNDRED;NUMBER FIVE HUNDRED;NUMBER SIX HUNDRED;
NUMBER SEVEN HUNDRED;NUMBER EIGHT HUNDRED;NUMBER NINE HUNDRED;FRACTION ONE HALF;
FRACTION ONE QUARTER;FRACTION ONE THIRD;FRACTION TWO THIRDS.10E80=YEZIDI LETTER :ELIF;BE;PE;PHE;
THE;SE;CIM;CHIM;CHHIM;HHA;XA;DAL;ZAL;RA;RHA;ZA;JA;SIN;SHIN;SAD;DAD;TA;ZE;EYN;XHEYN;FA;VA;
VA ALTERNATE FORM;QAF;KAF;KHAF;GAF;LAM;MIM;NUN;UM;WAW;OW;EW;HAY;YOT;ET.10EAB=YEZIDI COMBINING :
HAMZA MARK;MADDA MARK.10EAD=:YEZIDI HYPHENATION MARK.10EB0=YEZIDI LETTER :LAM WITH DOT ABOVE;
YOT WITH CIRCUMFLEX ABOVE.10F00=OLD SOGDIAN LETTER :ALEPH;FINAL ALEPH;BETH;FINAL BETH;GIMEL;HE;
FINAL HE;WAW;ZAYIN;HETH;YODH;KAPH;LAMEDH;MEM;NUN;FINAL NUN;FINAL NUN WITH VERTICAL TAIL;SAMEKH;
AYIN;ALTERNATE AYIN;PE;SADHE;FINAL SADHE;FINAL SADHE WITH VERTICAL TAIL;RESH-AYIN-DALETH;SHIN;TAW;
FINAL TAW;FINAL TAW WITH VERTICAL TAIL.10F1D=OLD SOGDIAN NUMBER :ONE;TWO;THREE;FOUR;FIVE;TEN;
TWENTY;THIRTY;ONE HUNDRED.10F26=OLD SOGDIAN :FRACTION ONE HALF;LIGATURE AYIN-DALETH.10F30=SOGDIAN :
LETTER ALEPH;LETTER BETH;LETTER GIMEL;LETTER HE;LETTER WAW;LETTER ZAYIN;LETTER HETH;LETTER YODH;
LETTER KAPH;LETTER LAMEDH;LETTER MEM;LETTER NUN;LETTER SAMEKH;LETTER AYIN;LETTER PE;LETTER SADHE;
LETTER RESH-AYIN;LETTER SHIN;LETTER TAW;LETTER FETH;LETTER LESH;INDEPENDENT SHIN;
COMBINING DOT BELOW;COMBINING TWO DOTS BELOW;COMBINING DOT ABOVE;COMBINING TWO DOTS ABOVE;
COMBINING CURVE ABOVE;COMBINING CURVE BELOW;COMBINING HOOK ABOVE;COMBINING HOOK BELOW;
COMBINING LONG HOOK BELOW;COMBINING RESH BELOW;COMBINING STROKE BELOW;NUMBER ONE;NUMBER TEN;
NUMBER TWENTY;NUMBER ONE HUNDRED;PUNCTUATION TWO VERTICAL BARS;
PUNCTUATION TWO VERTICAL BARS WITH DOTS;PUNCTUATION CIRCLE WITH DOT;
PUNCTUATION TWO CIRCLES WITH DOTS;PUNCTUATION HALF CIRCLE WITH DOT.10F70=OLD UYGHUR LETTER :ALEPH;
BETH;GIMEL-HETH;WAW;ZAYIN;FINAL HETH;YODH;KAPH;LAMEDH;MEM;NUN;SAMEKH;PE;SADHE;RESH;SHIN;TAW;LESH.
10F82=OLD UYGHUR :COMBINING DOT ABOVE;COMBINING DOT BELOW;COMBINING TWO DOTS ABOVE;
COMBINING TWO DOTS BELOW;PUNCTUATION BAR;PUNCTUATION TWO BARS;PUNCTUATION TWO DOTS;
PUNCTUATION FOUR DOTS.10FB0=CHORASMIAN LETTER :ALEPH;SMALL ALEPH;BETH;GIMEL;DALETH;HE;WAW;
CURLED WAW;ZAYIN;HETH;YODH;KAPH;LAMEDH;MEM;NUN;SAMEKH;AYIN;PE;RESH;SHIN;TAW.
10FC5=CHORASMIAN NUMBER :ONE;TWO;THREE;FOUR;TEN;TWENTY;ONE HUNDRED.10FE0=ELYMAIC LETTER :ALEPH;
BETH;GIMEL;DALETH;HE;WAW;ZAYIN;HETH;TETH;YODH;KAPH;LAMEDH;MEM;NUN;SAMEKH;AYIN;PE;SADHE;QOPH;RESH;
SHIN;TAW.10FF6=:ELYMAIC LIGATURE ZAYIN-YODH.11000=BRAHMI :SIGN CANDRABINDU;SIGN ANUSVARA;
SIGN VISARGA;SIGN JIHVAMULIYA;SIGN UPADHMANIYA;LETTER A;LETTER AA;LETTER I;LETTER II;LETTER U;
LETTER UU;LETTER VOCALIC R;LETTER VOCALIC RR;LETTER VOCALIC L;LETTER VOCALIC LL;LETTER E;LETTER AI;
LETTER O;LETTER AU;LETTER KA;LETTER KHA;LETTER GA;LETTER GHA;LETTER NGA;LETTER CA;LETTER CHA;
LETTER JA;LETTER JHA;LETTER NYA;LETTER TTA;LETTER TTHA;LETTER DDA;LETTER DDHA;LETTER NNA;LETTER TA;
LETTER THA;LETTER DA;LETTER DHA;LETTER NA;LETTER PA;LETTER PHA;LETTER BA;LETTER BHA;LETTER MA;
LETTER YA;LETTER RA;LETTER LA;LETTER VA;LETTER SHA;LETTER SSA;LETTER SA;LETTER HA;LETTER LLA;
LETTER OLD TAMIL LLLA;LETTER OLD TAMIL RRA;LETTER OLD TAMIL NNNA;VOWEL SIGN AA;
VOWEL SIGN BHATTIPROLU AA;VOWEL SIGN I;VOWEL SIGN II;VOWEL SIGN U;VOWEL SIGN UU;
VOWEL SIGN VOCALIC R;VOWEL SIGN VOCALIC RR;VOWEL SIGN VOCALIC L;VOWEL SIGN VOCALIC LL;VOWEL SIGN E;
VOWEL SIGN AI;VOWEL SIGN O;VOWEL SIGN AU;VIRAMA;DANDA;DOUBLE DANDA;PUNCTUATION DOT;
PUNCTUATION DOUBLE DOT;PUNCTUATION LINE;PUNCTUATION CRESCENT BAR;PUNCTUATION LOTUS.
11052=BRAHMI NUMBER :ONE;TWO;THREE;FOUR;FIVE;SIX;SEVEN;EIGHT;NINE;TEN;TWENTY;THIRTY;FORTY;FIFTY;
SIXTY;SEVENTY;EIGHTY;NINETY;ONE HUNDRED;ONE THOUSAND.11066=BRAHMI DIGIT :ZERO;ONE;TWO;THREE;FOUR;
FIVE;SIX;SEVEN;EIGHT;NINE.11070=BRAHMI :SIGN OLD TAMIL VIRAMA;LETTER OLD TAMIL SHORT E;
LETTER OLD TAMIL SHORT O;VOWEL SIGN OLD TAMIL SHORT E;VOWEL SIGN OLD TAMIL SHORT O;
LETTER OLD TAMIL LLA.1107F=:BRAHMI NUMBER JOINER.11080=KAITHI :SIGN CANDRABINDU;SIGN ANUSVARA;
SIGN VISARGA;LETTER A;LETTER AA;LETTER I;LETTER II;LETTER U;LETTER UU;LETTER E;LETTER AI;LETTER O;
LETTER AU;LETTER KA;LETTER KHA;LETTER GA;LETTER GHA;LETTER NGA;LETTER CA;LETTER CHA;LETTER JA;
LETTER JHA;LETTER NYA;LETTER TTA;LETTER TTHA;LETTER DDA;LETTER DDDHA;LETTER DDHA;LETTER RHA;
LETTER NNA;LETTER TA;LETTER THA;LETTER DA;LETTER DHA;LETTER NA;LETTER PA;LETTER PHA;LETTER BA;
LETTER BHA;LETTER MA;LETTER YA;LETTER RA;LETTER LA;LETTER VA;LETTER SHA;LETTER SSA;LETTER SA;
LETTER HA;VOWEL SIGN AA;VOWEL SIGN I;VOWEL SIGN II;VOWEL SIGN U;VOWEL SIGN UU;VOWEL SIGN E;
VOWEL SIGN AI;VOWEL SIGN O;VOWEL SIGN AU;SIGN VIRAMA;SIGN NUKTA;ABBREVIATION SIGN;ENUMERATION SIGN;
NUMBER SIGN;SECTION MARK;DOUBLE SECTION MARK;DANDA;DOUBLE DANDA;VOWEL SIGN VOCALIC R.110CD=:
KAITHI NUMBER SIGN ABOVE.110D0=SORA SOMPENG LETTER :SAH;TAH;BAH;CAH;DAH;GAH;MAH;NGAH;LAH;NAH;VAH;
PAH;YAH;RAH;HAH;KAH;JAH;NYAH;AH;EEH;IH;UH;OH;EH;MAE.110F0=SORA SOMPENG DIGIT :ZERO;ONE;TWO;THREE;
FOUR;FIVE;SIX;SEVEN;EIGHT;NINE.11100=CHAKMA :SIGN CANDRABINDU;SIGN ANUSVARA;SIGN VISARGA;LETTER AA;
LETTER I;LETTER U;LETTER E;LETTER KAA;LETTER KHAA;LETTER GAA;LETTER GHAA;LETTER NGAA;LETTER CAA;
LETTER CHAA;LETTER JAA;LETTER JHAA;LETTER NYAA;LETTER TTAA;LETTER TTHAA;LETTER DDAA;LETTER DDHAA;
LETTER NNAA;LETTER TAA;LETTER THAA;LETTER DAA;LETTER DHAA;LETTER NAA;LETTER PAA;LETTER PHAA;
LETTER BAA;LETTER BHAA;LETTER MAA;LETTER YYAA;LETTER YAA;LETTER RAA;LETTER LAA;LETTER WAA;
LETTER SAA;LETTER HAA;VOWEL SIGN A;VOWEL SIGN I;VOWEL SIGN II;VOWEL SIGN U;VOWEL SIGN UU;
VOWEL SIGN E;VOWEL SIGN AI;VOWEL SIGN O;VOWEL SIGN AU;VOWEL SIGN OI;O MARK;AU MARK;VIRAMA;MAAYYAA.
11136=CHAKMA :DIGIT ZERO;DIGIT ONE;DIGIT TWO;DIGIT THREE;DIGIT FOUR;DIGIT FIVE;DIGIT SIX;
DIGIT SEVEN;DIGIT EIGHT;DIGIT NINE;SECTION MARK;DANDA;DOUBLE DANDA;QUESTION MARK;LETTER LHAA;
VOWEL SIGN AA;VOWEL SIGN EI;LETTER VAA.11150=MAHAJANI LETTER :A;I;U;E;O;KA;KHA;GA;GHA;CA;CHA;JA;
JHA;NYA;TTA;TTHA;DDA;DDHA;NNA;TA;THA;DA;DHA;NA;PA;PHA;BA;BHA;MA;RA;LA;VA;SA;HA;RRA.11173=MAHAJANI :
SIGN NUKTA;ABBREVIATION SIGN;SECTION MARK;LIGATURE SHRI.11180=SHARADA :SIGN CANDRABINDU;
SIGN ANUSVARA;SIGN VISARGA;LETTER A;LETTER AA;LETTER I;LETTER II;LETTER U;LETTER UU;
LETTER VOCALIC R;LETTER VOCALIC RR;LETTER VOCALIC L;LETTER VOCALIC LL;LETTER E;LETTER AI;LETTER O;
LETTER AU;LETTER KA;LETTER KHA;LETTER GA;LETTER GHA;LETTER NGA;LETTER CA;LETTER CHA;LETTER JA;
LETTER JHA;LETTER NYA;LETTER TTA;LETTER TTHA;LETTER DDA;LETTER DDHA;LETTER NNA;LETTER TA;
LETTER THA;LETTER DA;LETTER DHA;LETTER NA;LETTER PA;LETTER PHA;LETTER BA;LETTER BHA;LETTER MA;
LETTER YA;LETTER RA;LETTER LA;LETTER LLA;LETTER VA;LETTER SHA;LETTER SSA;LETTER SA;LETTER HA;
VOWEL SIGN AA;VOWEL SIGN I;VOWEL SIGN II;VOWEL SIGN U;VOWEL SIGN UU;VOWEL SIGN VOCALIC R;
VOWEL SIGN VOCALIC RR;VOWEL SIGN VOCALIC L;VOWEL SIGN VOCALIC LL;VOWEL SIGN E;VOWEL SIGN AI;
VOWEL SIGN O;VOWEL SIGN AU;SIGN VIRAMA;SIGN AVAGRAHA;SIGN JIHVAMULIYA;SIGN UPADHMANIYA;OM;DANDA;
DOUBLE DANDA;ABBREVIATION SIGN;SEPARATOR;SANDHI MARK;SIGN NUKTA;VOWEL MODIFIER MARK;
EXTRA SHORT VOWEL MARK;SUTRA MARK;VOWEL SIGN PRISHTHAMATRA E;SIGN INVERTED CANDRABINDU;DIGIT ZERO;
DIGIT ONE;DIGIT TWO;DIGIT THREE;DIGIT FOUR;DIGIT FIVE;DIGIT SIX;DIGIT SEVEN;DIGIT EIGHT;DIGIT NINE;
EKAM;SIGN SIDDHAM;HEADSTROKE;CONTINUATION SIGN;SECTION MARK-1;SECTION MARK-2.
111E1=SINHALA ARCHAIC :DIGIT ONE;DIGIT TWO;DIGIT THREE;DIGIT FOUR;DIGIT FIVE;DIGIT SIX;DIGIT SEVEN;
DIGIT EIGHT;DIGIT NINE;NUMBER TEN;NUMBER TWENTY;NUMBER THIRTY;NUMBER FORTY;NUMBER FIFTY;
NUMBER SIXTY;NUMBER SEVENTY;NUMBER EIGHTY;NUMBER NINETY;NUMBER ONE HUNDRED;NUMBER ONE THOUSAND.
11200=KHOJKI LETTER :A;AA;I;U;E;AI;O;AU;KA;KHA;GA;GGA;GHA;NGA;CA;CHA;JA;JJA.11213=KHOJKI LETTER :
NYA;TTA;TTHA;DDA;DDHA;NNA;TA;THA;DA;DDDA;DHA;NA;PA;PHA;BA;BBA;BHA;MA;YA;RA;LA;VA;SA;HA;LLA.
1122C=KHOJKI VOWEL SIGN :AA;I;II;U;E;AI;O;AU.11234=KHOJKI :SIGN ANUSVARA;SIGN VIRAMA;SIGN NUKTA;
SIGN SHADDA;DANDA;DOUBLE DANDA;WORD SEPARATOR;SECTION MARK;DOUBLE SECTION MARK;ABBREVIATION SIGN;
SIGN SUKUN.11280=MULTANI LETTER :A;I;U;E;KA;KHA;GA.11288=:MULTANI LETTER GHA.1128A=MULTANI LETTER :
CA;CHA;JA;JJA.1128F=MULTANI LETTER :NYA;TTA;TTHA;DDA;DDDA;DDHA;NNA;TA;THA;DA;DHA;NA;PA;PHA;BA.
1129F=MULTANI LETTER :BHA;MA;YA;RA;LA;VA;SA;HA;RRA;RHA.112A9=:MULTANI SECTION MARK.
112B0=KHUDAWADI LETTER :A;AA;I;II;U;UU;E;AI;O;AU;KA;KHA;GA;GGA;GHA;NGA;CA;CHA;JA;JJA;JHA;NYA;TTA;
TTHA;DDA;DDDA;RRA;DDHA;NNA;TA;THA;DA;DHA;NA;PA;PHA;BA;BBA;BHA;MA;YA;RA;LA;VA;SHA;SA;HA.
112DF=KHUDAWADI :SIGN ANUSVARA;VOWEL SIGN AA;VOWEL SIGN I;VOWEL SIGN II;VOWEL SIGN U;VOWEL SIGN UU;
VOWEL SIGN E;VOWEL SIGN AI;VOWEL SIGN O;VOWEL SIGN AU;SIGN NUKTA;SIGN VIRAMA.
112F0=KHUDAWADI DIGIT :ZERO;ONE;TWO;THREE;FOUR;FIVE;SIX;SEVEN;EIGHT;NINE.11300=GRANTHA SIGN :
COMBINING ANUSVARA ABOVE;CANDRABINDU;ANUSVARA;VISARGA.11305=GRANTHA LETTER :A;AA;I;II;U;UU;
VOCALIC R;VOCALIC L.1130F=GRANTHA LETTER :EE;AI.11313=GRANTHA LETTER :OO;AU;KA;KHA;GA;GHA;NGA;CA;
CHA;JA;JHA;NYA;TTA;TTHA;DDA;DDHA;NNA;TA;THA;DA;DHA;NA.1132A=GRANTHA LETTER :PA;PHA;BA;BHA;MA;YA;RA.
11332=GRANTHA LETTER :LA;LLA.11335=GRANTHA LETTER :VA;SHA;SSA;SA;HA.1133B=:COMBINING BINDU BELOW.
1133C=GRANTHA :SIGN NUKTA;SIGN AVAGRAHA;VOWEL SIGN AA;VOWEL SIGN I;VOWEL SIGN II;VOWEL SIGN U;
VOWEL SIGN UU;VOWEL SIGN VOCALIC R;VOWEL SIGN VOCALIC RR.11347=GRANTHA VOWEL SIGN :EE;AI.
1134B=GRANTHA VOWEL SIGN :OO;AU.1134D=:GRANTHA SIGN VIRAMA.11350=:GRANTHA OM.11357=:
GRANTHA AU LENGTH MARK.1135D=GRANTHA :SIGN PLUTA;LETTER VEDIC ANUSVARA;
LETTER VEDIC DOUBLE ANUSVARA;LETTER VOCALIC RR;LETTER VOCALIC LL;VOWEL SIGN VOCALIC L;
VOWEL SIGN VOCALIC LL.11366=COMBINING GRANTHA DIGIT :ZERO;ONE;TWO;THREE;FOUR;FIVE;SIX.
11370=COMBINING GRANTHA LETTER :A;KA;NA;VI;PA.11400=NEWA LETTER :A;AA;I;II;U;UU;VOCALIC R;
VOCALIC RR;VOCALIC L;VOCALIC LL;E;AI;O;AU;KA;KHA;GA;GHA;NGA;NGHA;CA;CHA;JA;JHA;NYA;NYHA;TTA;TTHA;
DDA;DDHA;NNA;TA;THA;DA;DHA;NA;NHA;PA;PHA;BA;BHA;MA;MHA;YA;RA;RHA;LA;LHA;WA;SHA;SSA;SA;HA.
11435=NEWA VOWEL SIGN :AA;I;II;U;UU;VOCALIC R;VOCALIC RR;VOCALIC L;VOCALIC LL;E;AI;O;AU.
11442=NEWA :SIGN VIRAMA;SIGN CANDRABINDU;SIGN ANUSVARA;SIGN VISARGA;SIGN NUKTA;SIGN AVAGRAHA;
SIGN FINAL ANUSVARA;OM;SIDDHI;DANDA;DOUBLE DANDA;COMMA;GAP FILLER;ABBREVIATION SIGN;DIGIT ZERO;
DIGIT ONE;DIGIT TWO;DIGIT THREE;DIGIT FOUR;DIGIT FIVE;DIGIT SIX;DIGIT SEVEN;DIGIT EIGHT;DIGIT NINE;
DOUBLE COMMA;PLACEHOLDER MARK.1145D=NEWA :INSERTION SIGN;SANDHI MARK;LETTER VEDIC ANUSVARA;
SIGN JIHVAMULIYA;SIGN UPADHMANIYA.11480=TIRHUTA :ANJI;LETTER A;LETTER AA;LETTER I;LETTER II;
LETTER U;LETTER UU;LETTER VOCALIC R;LETTER VOCALIC RR;LETTER VOCALIC L;LETTER VOCALIC LL;LETTER E;
LETTER AI;LETTER O;LETTER AU;LETTER KA;LETTER KHA;LETTER GA;LETTER GHA;LETTER NGA;LETTER CA;
LETTER CHA;LETTER JA;LETTER JHA;LETTER NYA;LETTER TTA;LETTER TTHA;LETTER DDA;LETTER DDHA;
LETTER NNA;LETTER TA;LETTER THA;LETTER DA;LETTER DHA;LETTER NA;LETTER PA;LETTER PHA;LETTER BA;
LETTER BHA;LETTER MA;LETTER YA;LETTER RA;LETTER LA;LETTER VA;LETTER SHA;LETTER SSA;LETTER SA;
LETTER HA;VOWEL SIGN AA;VOWEL SIGN I;VOWEL SIGN II;VOWEL SIGN U;VOWEL SIGN UU;VOWEL SIGN VOCALIC R;
VOWEL SIGN VOCALIC RR;VOWEL SIGN VOCALIC L;VOWEL SIGN VOCALIC LL;VOWEL SIGN E;VOWEL SIGN SHORT E;
VOWEL SIGN AI;VOWEL SIGN O;VOWEL SIGN SHORT O;VOWEL SIGN AU;SIGN CANDRABINDU;SIGN ANUSVARA;
SIGN VISARGA;SIGN VIRAMA;SIGN NUKTA;SIGN AVAGRAHA;GVANG;ABBREVIATION SIGN;OM.114D0=TIRHUTA DIGIT :
ZERO;ONE;TWO;THREE;FOUR;FIVE;SIX;SEVEN;EIGHT;NINE.11580=SIDDHAM LETTER :A;AA;I;II;U;UU;VOCALIC R;
VOCALIC RR;VOCALIC L;VOCALIC LL;E;AI;O;AU;KA;KHA;GA;GHA;NGA;CA;CHA;JA;JHA;NYA;TTA;TTHA;DDA;DDHA;
NNA;TA;THA;DA;DHA;NA;PA;PHA;BA;BHA;MA;YA;RA;LA;VA;SHA;SSA;SA;HA.115AF=SIDDHAM VOWEL SIGN :AA;I;II;
U;UU;VOCALIC R;VOCALIC RR.115B8=SIDDHAM :VOWEL SIGN E;VOWEL SIGN AI;VOWEL SIGN O;VOWEL SIGN AU;
SIGN CANDRABINDU;SIGN ANUSVARA;SIGN VISARGA;SIGN VIRAMA;SIGN NUKTA;SIGN SIDDHAM;DANDA;DOUBLE DANDA;
SEPARATOR DOT;SEPARATOR BAR;REPETITION MARK-1;REPETITION MARK-2;REPETITION MARK-3;END OF TEXT MARK;
SECTION MARK WITH TRIDENT AND U-SHAPED ORNAMENTS;SECTION MARK WITH TRIDENT AND DOTTED CRESCENTS;
SECTION MARK WITH RAYS AND DOTTED CRESCENTS;SECTION MARK WITH RAYS AND DOTTED DOUBLE CRESCENTS;
SECTION MARK WITH RAYS AND DOTTED TRIPLE CRESCENTS;SECTION MARK DOUBLE RING;
SECTION MARK DOUBLE RING WITH RAYS;SECTION MARK WITH DOUBLE CRESCENTS;
SECTION MARK WITH TRIPLE CRESCENTS;SECTION MARK WITH QUADRUPLE CRESCENTS;
SECTION MARK WITH SEPTUPLE CRESCENTS;SECTION MARK WITH CIRCLES AND RAYS;
SECTION MARK WITH CIRCLES AND TWO ENCLOSURES;SECTION MARK WITH CIRCLES AND FOUR ENCLOSURES;
LETTER THREE-CIRCLE ALTERNATE I;LETTER TWO-CIRCLE ALTERNATE I;LETTER TWO-CIRCLE ALTERNATE II;
LETTER ALTERNATE U;VOWEL SIGN ALTERNATE U;VOWEL SIGN ALTERNATE UU.11600=MODI LETTER :A;AA;I;II;U;
UU;VOCALIC R;VOCALIC RR;VOCALIC L;VOCALIC LL;E;AI;O;AU;KA;KHA;GA;GHA;NGA;CA;CHA;JA;JHA;NYA;TTA;
TTHA;DDA;DDHA;NNA;TA;THA;DA;DHA;NA;PA;PHA;BA;BHA;MA;YA;RA;LA;VA;SHA;SSA;SA;HA;LLA.
11630=MODI VOWEL SIGN :AA;I;II;U;UU;VOCALIC R;VOCALIC RR;VOCALIC L;VOCALIC LL;E;AI;O;AU.
1163D=MODI :SIGN ANUSVARA;SIGN VISARGA;SIGN VIRAMA;SIGN ARDHACANDRA;DANDA;DOUBLE DANDA;
ABBREVIATION SIGN;SIGN HUVA.11650=MODI DIGIT :ZERO;ONE;TWO;THREE;FOUR;FIVE;SIX;SEVEN;EIGHT;NINE.
11660=MONGOLIAN :BIRGA WITH ORNAMENT;ROTATED BIRGA;DOUBLE BIRGA WITH ORNAMENT;
TRIPLE BIRGA WITH ORNAMENT;BIRGA WITH DOUBLE ORNAMENT;ROTATED BIRGA WITH ORNAMENT;
ROTATED BIRGA WITH DOUBLE ORNAMENT;INVERTED BIRGA;INVERTED BIRGA WITH DOUBLE ORNAMENT;SWIRL BIRGA;
SWIRL BIRGA WITH ORNAMENT;SWIRL BIRGA WITH DOUBLE ORNAMENT;TURNED SWIRL BIRGA WITH DOUBLE ORNAMENT.
11680=TAKRI LETTER :A;AA;I;II;U;UU;E;AI;O;AU;KA;KHA;GA;GHA;NGA;CA;CHA;JA;JHA;NYA;TTA;TTHA;DDA;DDHA;
NNA;TA;THA;DA;DHA;NA;PA;PHA;BA;BHA;MA;YA;RA;LA;VA;SHA;SA;HA;RRA.116AB=TAKRI :SIGN ANUSVARA;
SIGN VISARGA;VOWEL SIGN AA;VOWEL SIGN I;VOWEL SIGN II;VOWEL SIGN U;VOWEL SIGN UU;VOWEL SIGN E;
VOWEL SIGN AI;VOWEL SIGN O;VOWEL SIGN AU;SIGN VIRAMA;SIGN NUKTA;LETTER ARCHAIC KHA;
ABBREVIATION SIGN.116C0=TAKRI DIGIT :ZERO;ONE;TWO;THREE;FOUR;FIVE;SIX;SEVEN;EIGHT;NINE.
11700=AHOM LETTER :KA;KHA;NGA;NA;TA;ALTERNATE TA;PA;PHA;BA;MA;JA;CHA;THA;RA;LA;SA;NYA;HA;A;DA;DHA;
GA;ALTERNATE GA;GHA;BHA;JHA;ALTERNATE BA.1171D=AHOM :CONSONANT SIGN MEDIAL LA;
CONSONANT SIGN MEDIAL RA;CONSONANT SIGN MEDIAL LIGATING RA;VOWEL SIGN A;VOWEL SIGN AA;VOWEL SIGN I;
VOWEL SIGN II;VOWEL SIGN U;VOWEL SIGN UU;VOWEL SIGN E;VOWEL SIGN AW;VOWEL SIGN O;VOWEL SIGN AI;
VOWEL SIGN AM;SIGN KILLER.11730=AHOM :DIGIT ZERO;DIGIT ONE;DIGIT TWO;DIGIT THREE;DIGIT FOUR;
DIGIT FIVE;DIGIT SIX;DIGIT SEVEN;DIGIT EIGHT;DIGIT NINE;NUMBER TEN;NUMBER TWENTY;
SIGN SMALL SECTION;SIGN SECTION;SIGN RULAI;SYMBOL VI;LETTER CA;LETTER TTA;LETTER TTHA;LETTER DDA;
LETTER DDHA;LETTER NNA;LETTER LLA.11800=DOGRA LETTER :A;AA;I;II;U;UU;E;AI;O;AU;KA;KHA;GA;GHA;NGA;
CA;CHA;JA;JHA;NYA;TTA;TTHA;DDA;DDHA;NNA;TA;THA;DA;DHA;NA;PA;PHA;BA;BHA;MA;YA;RA;LA;VA;SHA;SSA;SA;
HA;RRA.1182C=DOGRA VOWEL SIGN :AA;I;II;U;UU;VOCALIC R;VOCALIC RR;E;AI;O;AU.11837=DOGRA SIGN :
ANUSVARA;VISARGA;VIRAMA;NUKTA.1183B=:DOGRA ABBREVIATION SIGN.118A0=WARANG CITI :
CAPITAL LETTER NGAA;CAPITAL LETTER A;CAPITAL LETTER WI;CAPITAL LETTER YU;CAPITAL LETTER YA;
CAPITAL LETTER YO;CAPITAL LETTER II;CAPITAL LETTER UU;CAPITAL LETTER E;CAPITAL LETTER O;
CAPITAL LETTER ANG;CAPITAL LETTER GA;CAPITAL LETTER KO;CAPITAL LETTER ENY;CAPITAL LETTER YUJ;
CAPITAL LETTER UC;CAPITAL LETTER ENN;CAPITAL LETTER ODD;CAPITAL LETTER TTE;CAPITAL LETTER NUNG;
CAPITAL LETTER DA;CAPITAL LETTER AT;CAPITAL LETTER AM;CAPITAL LETTER BU;CAPITAL LETTER PU;
CAPITAL LETTER HIYO;CAPITAL LETTER HOLO;CAPITAL LETTER HORR;CAPITAL LETTER HAR;CAPITAL LETTER SSUU;
CAPITAL LETTER SII;CAPITAL LETTER VIYO;SMALL LETTER NGAA;SMALL LETTER A;SMALL LETTER WI;
SMALL LETTER YU;SMALL LETTER YA;SMALL LETTER YO;SMALL LETTER II;SMALL LETTER UU;SMALL LETTER E;
SMALL LETTER O;SMALL LETTER ANG;SMALL LETTER GA;SMALL LETTER KO;SMALL LETTER ENY;SMALL LETTER YUJ;
SMALL LETTER UC;SMALL LETTER ENN;SMALL LETTER ODD;SMALL LETTER TTE;SMALL LETTER NUNG;
SMALL LETTER DA;SMALL LETTER AT;SMALL LETTER AM;SMALL LETTER BU;SMALL LETTER PU;SMALL LETTER HIYO;
SMALL LETTER HOLO;SMALL LETTER HORR;SMALL LETTER HAR;SMALL LETTER SSUU;SMALL LETTER SII;
SMALL LETTER VIYO;DIGIT ZERO;DIGIT ONE;DIGIT TWO;DIGIT THREE;DIGIT FOUR;DIGIT FIVE;DIGIT SIX;
DIGIT SEVEN;DIGIT EIGHT;DIGIT NINE;NUMBER TEN;NUMBER TWENTY;NUMBER THIRTY;NUMBER FORTY;
NUMBER FIFTY;NUMBER SIXTY;NUMBER SEVENTY;NUMBER EIGHTY;NUMBER NINETY.118FF=:WARANG CITI OM.
11900=DIVES AKURU LETTER :A;AA;I;II;U;UU;E.11909=:DIVES AKURU LETTER O.1190C=DIVES AKURU LETTER :
KA;KHA;GA;GHA;NGA;CA;CHA;JA.11915=DIVES AKURU LETTER :NYA;TTA.11918=DIVES AKURU LETTER :DDA;DDHA;
NNA;TA;THA;DA;DHA;NA;PA;PHA;BA;BHA;MA;YA;YYA;RA;LA;VA;SHA;SSA;SA;HA;LLA;ZA.
11930=DIVES AKURU VOWEL SIGN :AA;I;II;U;UU;E.11937=DIVES AKURU VOWEL SIGN :AI;O.1193B=DIVES AKURU :
SIGN ANUSVARA;SIGN CANDRABINDU;SIGN HALANTA;VIRAMA;PREFIXED NASAL SIGN;MEDIAL YA;INITIAL RA;
MEDIAL RA;SIGN NUKTA;DOUBLE DANDA;GAP FILLER;END OF TEXT MARK.11950=DIVES AKURU DIGIT :ZERO;ONE;
TWO;THREE;FOUR;FIVE;SIX;SEVEN;EIGHT;NINE.119A0=NANDINAGARI LETTER :A;AA;I;II;U;UU;VOCALIC R;
VOCALIC RR.119AA=NANDINAGARI LETTER :E;AI;O;AU;KA;KHA;GA;GHA;NGA;CA;CHA;JA;JHA;NYA;TTA;TTHA;DDA;
DDHA;NNA;TA;THA;DA;DHA;NA;PA;PHA;BA;BHA;MA;YA;RA;LA;VA;SHA;SSA;SA;HA;LLA;RRA.
119D1=NANDINAGARI VOWEL SIGN :AA;I;II;U;UU;VOCALIC R;VOCALIC RR.119DA=NANDINAGARI :VOWEL SIGN E;
VOWEL SIGN AI;VOWEL SIGN O;VOWEL SIGN AU;SIGN ANUSVARA;SIGN VISARGA;SIGN VIRAMA;SIGN AVAGRAHA;
SIGN SIDDHAM;HEADSTROKE;VOWEL SIGN PRISHTHAMATRA E.11A00=ZANABAZAR SQUARE :LETTER A;VOWEL SIGN I;
VOWEL SIGN UE;VOWEL SIGN U;VOWEL SIGN E;VOWEL SIGN OE;VOWEL SIGN O;VOWEL SIGN AI;VOWEL SIGN AU;
VOWEL SIGN REVERSED I;VOWEL LENGTH MARK;LETTER KA;LETTER KHA;LETTER GA;LETTER GHA;LETTER NGA;
LETTER CA;LETTER CHA;LETTER JA;LETTER NYA;LETTER TTA;LETTER TTHA;LETTER DDA;LETTER DDHA;LETTER NNA;
LETTER TA;LETTER THA;LETTER DA;LETTER DHA;LETTER NA;LETTER PA;LETTER PHA;LETTER BA;LETTER BHA;
LETTER MA;LETTER TSA;LETTER TSHA;LETTER DZA;LETTER DZHA;LETTER ZHA;LETTER ZA;LETTER -A;LETTER YA;
LETTER RA;LETTER LA;LETTER VA;LETTER SHA;LETTER SSA;LETTER SA;LETTER HA;LETTER KSSA;
FINAL CONSONANT MARK;SIGN VIRAMA;SIGN CANDRABINDU;SIGN CANDRABINDU WITH ORNAMENT;
SIGN CANDRA WITH ORNAMENT;SIGN ANUSVARA;SIGN VISARGA;CLUSTER-INITIAL LETTER RA;
CLUSTER-FINAL LETTER YA;CLUSTER-FINAL LETTER RA;CLUSTER-FINAL LETTER LA;CLUSTER-FINAL LETTER VA;
INITIAL HEAD MARK;CLOSING HEAD MARK;MARK TSHEG;MARK SHAD;MARK DOUBLE SHAD;MARK LONG TSHEG;
INITIAL DOUBLE-LINED HEAD MARK;CLOSING DOUBLE-LINED HEAD MARK;SUBJOINER.11A50=SOYOMBO :LETTER A;
VOWEL SIGN I;VOWEL SIGN UE;VOWEL SIGN U;VOWEL SIGN E;VOWEL SIGN O;VOWEL SIGN OE;VOWEL SIGN AI;
VOWEL SIGN AU;VOWEL SIGN VOCALIC R;VOWEL SIGN VOCALIC L;VOWEL LENGTH MARK;LETTER KA;LETTER KHA;
LETTER GA;LETTER GHA;LETTER NGA;LETTER CA;LETTER CHA;LETTER JA;LETTER JHA;LETTER NYA;LETTER TTA;
LETTER TTHA;LETTER DDA;LETTER DDHA;LETTER NNA;LETTER TA;LETTER THA;LETTER DA;LETTER DHA;LETTER NA;
LETTER PA;LETTER PHA;LETTER BA;LETTER BHA;LETTER MA;LETTER TSA;LETTER TSHA;LETTER DZA;LETTER ZHA;
LETTER ZA;LETTER -A;LETTER YA;LETTER RA;LETTER LA;LETTER VA;LETTER SHA;LETTER SSA;LETTER SA;
LETTER HA;LETTER KSSA;SIGN JIHVAMULIYA;SIGN UPADHMANIYA;CLUSTER-INITIAL LETTER RA;
CLUSTER-INITIAL LETTER LA;CLUSTER-INITIAL LETTER SHA;CLUSTER-INITIAL LETTER SA;
FINAL CONSONANT SIGN G;FINAL CONSONANT SIGN K;FINAL CONSONANT SIGN NG;FINAL CONSONANT SIGN D;
FINAL CONSONANT SIGN N;FINAL CONSONANT SIGN B;FINAL CONSONANT SIGN M;FINAL CONSONANT SIGN R;
FINAL CONSONANT SIGN L;FINAL CONSONANT SIGN SH;FINAL CONSONANT SIGN S;FINAL CONSONANT SIGN -A;
SIGN ANUSVARA;SIGN VISARGA;GEMINATION MARK;SUBJOINER;MARK TSHEG;MARK SHAD;MARK DOUBLE SHAD;
MARK PLUTA;HEAD MARK WITH MOON AND SUN AND TRIPLE FLAME;HEAD MARK WITH MOON AND SUN AND FLAME;
HEAD MARK WITH MOON AND SUN;TERMINAL MARK-1;TERMINAL MARK-2.11AB0=CANADIAN SYLLABICS NATTILIK :HI;
HII;HO;HOO;HA;HAA;SHRI;SHRII;SHRO;SHROO;SHRA;SHRAA.11ABC=CANADIAN SYLLABICS :SPE;SPI;SPO;SPA.
11AC0=PAU CIN HAU LETTER :PA;KA;LA;MA;DA;ZA;VA;NGA;HA;GA;KHA;SA;BA;CA;TA;THA;NA;PHA;RA;FA;CHA;A;E;
I;O;U;UA;IA;FINAL P;FINAL K;FINAL T;FINAL M;FINAL N;FINAL L;FINAL W;FINAL NG;FINAL Y.
11AE5=PAU CIN HAU :RISING TONE LONG;RISING TONE;SANDHI GLOTTAL STOP;RISING TONE LONG FINAL;
RISING TONE FINAL;SANDHI GLOTTAL STOP FINAL;SANDHI TONE LONG;SANDHI TONE;SANDHI TONE LONG FINAL;
SANDHI TONE FINAL;MID-LEVEL TONE;GLOTTAL STOP VARIANT;MID-LEVEL TONE LONG FINAL;
MID-LEVEL TONE FINAL;LOW-FALLING TONE LONG;LOW-FALLING TONE;GLOTTAL STOP;
LOW-FALLING TONE LONG FINAL;LOW-FALLING TONE FINAL;GLOTTAL STOP FINAL.11C00=BHAIKSUKI LETTER :A;AA;
I;II;U;UU;VOCALIC R;VOCALIC RR;VOCALIC L.11C0A=BHAIKSUKI LETTER :E;AI;O;AU;KA;KHA;GA;GHA;NGA;CA;
CHA;JA;JHA;NYA;TTA;TTHA;DDA;DDHA;NNA;TA;THA;DA;DHA;NA;PA;PHA;BA;BHA;MA;YA;RA;LA;VA;SHA;SSA;SA;HA.
11C2F=BHAIKSUKI VOWEL SIGN :AA;I;II;U;UU;VOCALIC R;VOCALIC RR;VOCALIC L.11C38=BHAIKSUKI :
VOWEL SIGN E;VOWEL SIGN AI;VOWEL SIGN O;VOWEL SIGN AU;SIGN CANDRABINDU;SIGN ANUSVARA;SIGN VISARGA;
SIGN VIRAMA;SIGN AVAGRAHA;DANDA;DOUBLE DANDA;WORD SEPARATOR;GAP FILLER-1;GAP FILLER-2.
11C50=BHAIKSUKI :DIGIT ZERO;DIGIT ONE;DIGIT TWO;DIGIT THREE;DIGIT FOUR;DIGIT FIVE;DIGIT SIX;
DIGIT SEVEN;DIGIT EIGHT;DIGIT NINE;NUMBER ONE;NUMBER TWO;NUMBER THREE;NUMBER FOUR;NUMBER FIVE;
NUMBER SIX;NUMBER SEVEN;NUMBER EIGHT;NUMBER NINE;NUMBER TEN;NUMBER TWENTY;NUMBER THIRTY;
NUMBER FORTY;NUMBER FIFTY;NUMBER SIXTY;NUMBER SEVENTY;NUMBER EIGHTY;NUMBER NINETY;
HUNDREDS UNIT MARK.11C70=MARCHEN :HEAD MARK;MARK SHAD;LETTER KA;LETTER KHA;LETTER GA;LETTER NGA;
LETTER CA;LETTER CHA;LETTER JA;LETTER NYA;LETTER TA;LETTER THA;LETTER DA;LETTER NA;LETTER PA;
LETTER PHA;LETTER BA;LETTER MA;LETTER TSA;LETTER TSHA;LETTER DZA;LETTER WA;LETTER ZHA;LETTER ZA;
LETTER -A;LETTER YA;LETTER RA;LETTER LA;LETTER SHA;LETTER SA;LETTER HA;LETTER A.
11C92=MARCHEN SUBJOINED LETTER :KA;KHA;GA;NGA;CA;CHA;JA;NYA;TA;THA;DA;NA;PA;PHA;BA;MA;TSA;TSHA;DZA;
WA;ZHA;ZA.11CA9=MARCHEN SUBJOINED LETTER :YA;RA;LA;SHA;SA;HA;A.11CB0=MARCHEN VOWEL SIGN :AA;I;U;E;
O.11CB5=MARCHEN SIGN :ANUSVARA;CANDRABINDU.11D00=MASARAM GONDI LETTER :A;AA;I;II;U;UU;E.
11D08=MASARAM GONDI LETTER :AI;O.11D0B=MASARAM GONDI LETTER :AU;KA;KHA;GA;GHA;NGA;CA;CHA;JA;JHA;
NYA;TTA;TTHA;DDA;DDHA;NNA;TA;THA;DA;DHA;NA;PA;PHA;BA;BHA;MA;YA;RA;LA;VA;SHA;SSA;SA;HA;LLA;KSSA;
JNYA;TRA.11D31=MASARAM GONDI VOWEL SIGN :AA;I;II;U;UU;VOCALIC R.11D3A=:MASARAM GONDI VOWEL SIGN E.
11D3C=MASARAM GONDI VOWEL SIGN :AI;O.11D3F=MASARAM GONDI :VOWEL SIGN AU;SIGN ANUSVARA;SIGN VISARGA;
SIGN NUKTA;SIGN CANDRA;SIGN HALANTA;VIRAMA;REPHA;RA-KARA.11D50=MASARAM GONDI DIGIT :ZERO;ONE;TWO;
THREE;FOUR;FIVE;SIX;SEVEN;EIGHT;NINE.11D60=GUNJALA GONDI LETTER :A;AA;I;II;U;UU.
11D67=GUNJALA GONDI LETTER :EE;AI.11D6A=GUNJALA GONDI LETTER :OO;AU;YA;VA;BA;BHA;MA;KA;KHA;TA;THA;
LA;GA;GHA;DA;DHA;NA;CA;CHA;TTA;TTHA;LLA;JA;JHA;DDA;DDHA;NGA;PA;PHA;HA;RA;SA.
11D8A=GUNJALA GONDI VOWEL SIGN :AA;I;II;U;UU.11D90=GUNJALA GONDI VOWEL SIGN :EE;AI.
11D93=GUNJALA GONDI :VOWEL SIGN OO;VOWEL SIGN AU;SIGN ANUSVARA;SIGN VISARGA;VIRAMA;OM.
11DA0=GUNJALA GONDI DIGIT :ZERO;ONE;TWO;THREE;FOUR;FIVE;SIX;SEVEN;EIGHT;NINE.11EE0=MAKASAR LETTER :
KA;GA;NGA;PA;BA;MA;TA;DA;NA;CA;JA;NYA;YA;RA;LA;VA;SA;A.11EF2=MAKASAR :ANGKA;VOWEL SIGN I;
VOWEL SIGN U;VOWEL SIGN E;VOWEL SIGN O;PASSIMBANG;END OF SECTION.11FB0=:LISU LETTER YHA.
11FC0=TAMIL FRACTION :ONE THREE-HUNDRED-AND-TWENTIETH;ONE ONE-HUNDRED-AND-SIXTIETH;ONE EIGHTIETH;
ONE SIXTY-FOURTH;ONE FORTIETH;ONE THIRTY-SECOND;THREE EIGHTIETHS;THREE SIXTY-FOURTHS;ONE TWENTIETH;
ONE SIXTEENTH-1;ONE SIXTEENTH-2;ONE TENTH;ONE EIGHTH;THREE TWENTIETHS;THREE SIXTEENTHS;ONE FIFTH;
ONE QUARTER;ONE HALF-1;ONE HALF-2;THREE QUARTERS;DOWNSCALING FACTOR KIIZH.11FD5=TAMIL :SIGN NEL;
SIGN CEVITU;SIGN AAZHAAKKU;SIGN UZHAKKU;SIGN MUUVUZHAKKU;SIGN KURUNI;SIGN PATHAKKU;SIGN MUKKURUNI;
SIGN KAACU;SIGN PANAM;SIGN PON;SIGN VARAAKAN;SIGN PAARAM;SIGN KUZHI;SIGN VELI;WET CULTIVATION SIGN;
DRY CULTIVATION SIGN;LAND SIGN;SALT PAN SIGN;TRADITIONAL CREDIT SIGN;TRADITIONAL NUMBER SIGN;
CURRENT SIGN;AND ODD SIGN;SPENT SIGN;TOTAL SIGN;IN POSSESSION SIGN;STARTING FROM SIGN;
SIGN MUTHALIYA;SIGN VAKAIYARAA.11FFF=:TAMIL PUNCTUATION END OF TEXT.12000=CUNEIFORM SIGN :A;
A TIMES A;A TIMES BAD;A TIMES GAN2 TENU;A TIMES HA;A TIMES IGI;A TIMES LAGAR GUNU;A TIMES MUSH;
A TIMES SAG;A2;AB;AB TIMES ASH2;AB TIMES DUN3 GUNU;AB TIMES GAL;AB TIMES GAN2 TENU;AB TIMES HA;
AB TIMES IGI GUNU;AB TIMES IMIN;AB TIMES LAGAB;AB TIMES SHESH;AB TIMES U PLUS U PLUS U;AB GUNU;AB2;
AB2 TIMES BALAG;AB2 TIMES GAN2 TENU;AB2 TIMES ME PLUS EN;AB2 TIMES SHA3;AB2 TIMES TAK4;AD;AK;
AK TIMES ERIN2;AK TIMES SHITA PLUS GISH;AL;AL TIMES AL;AL TIMES DIM2;AL TIMES GISH;AL TIMES HA;
AL TIMES KAD3;AL TIMES KI;AL TIMES SHE;AL TIMES USH;ALAN;ALEPH;AMAR;AMAR TIMES SHE;AN;AN OVER AN;
AN THREE TIMES;AN PLUS NAGA OPPOSING AN PLUS NAGA;AN PLUS NAGA SQUARED;ANSHE;APIN;ARAD;
ARAD TIMES KUR;ARKAB;ASAL2;ASH;ASH ZIDA TENU;ASH KABA TENU;
ASH OVER ASH TUG2 OVER TUG2 TUG2 OVER TUG2 PAP;ASH OVER ASH OVER ASH;
ASH OVER ASH OVER ASH CROSSING ASH OVER ASH OVER ASH;ASH2;ASHGAB;BA;BAD;BAG3;BAHAR2;BAL;
BAL OVER BAL;BALAG;BAR;BARA2;BI;BI TIMES A;BI TIMES GAR;BI TIMES IGI GUNU;BU;BU OVER BU AB;
BU OVER BU UN;BU CROSSING BU;BULUG;BULUG OVER BULUG;BUR;BUR2;DA;DAG;DAG KISIM5 TIMES A PLUS MASH;
DAG KISIM5 TIMES AMAR;DAG KISIM5 TIMES BALAG;DAG KISIM5 TIMES BI;DAG KISIM5 TIMES GA;
DAG KISIM5 TIMES GA PLUS MASH;DAG KISIM5 TIMES GI;DAG KISIM5 TIMES GIR2;DAG KISIM5 TIMES GUD;
DAG KISIM5 TIMES HA;DAG KISIM5 TIMES IR;DAG KISIM5 TIMES IR PLUS LU;DAG KISIM5 TIMES KAK;
DAG KISIM5 TIMES LA;DAG KISIM5 TIMES LU;DAG KISIM5 TIMES LU PLUS MASH2;DAG KISIM5 TIMES LUM;
DAG KISIM5 TIMES NE;DAG KISIM5 TIMES PAP PLUS PAP;DAG KISIM5 TIMES SI;DAG KISIM5 TIMES TAK4;
DAG KISIM5 TIMES U2 PLUS GIR2;DAG KISIM5 TIMES USH;DAM;DAR;DARA3;DARA4;DI;DIB;DIM;DIM TIMES SHE;
DIM2;DIN;DIN KASKAL U GUNU DISH;DISH;DU;DU OVER DU;DU GUNU;DU SHESHIG;DUB;DUB TIMES ESH2;DUB2;DUG;
DUGUD;DUH;DUN;DUN3;DUN3 GUNU;DUN3 GUNU GUNU;DUN4;DUR2;E;E TIMES PAP;E OVER E NUN OVER NUN;E2;
E2 TIMES A PLUS HA PLUS DA;E2 TIMES GAR;E2 TIMES MI;E2 TIMES SAL;E2 TIMES SHE;E2 TIMES U;EDIN;EGIR;
EL;EN;EN TIMES GAN2;EN TIMES GAN2 TENU;EN TIMES ME;EN CROSSING EN;EN OPPOSING EN;EN SQUARED;EREN;
ERIN2;ESH2;EZEN;EZEN TIMES A;EZEN TIMES A PLUS LAL;EZEN TIMES A PLUS LAL TIMES LAL;EZEN TIMES AN;
EZEN TIMES BAD;EZEN TIMES DUN3 GUNU;EZEN TIMES DUN3 GUNU GUNU;EZEN TIMES HA;EZEN TIMES HA GUNU;
EZEN TIMES IGI GUNU;EZEN TIMES KASKAL;EZEN TIMES KASKAL SQUARED;EZEN TIMES KU3;EZEN TIMES LA;
EZEN TIMES LAL TIMES LAL;EZEN TIMES LI;EZEN TIMES LU;EZEN TIMES U2;EZEN TIMES UD;GA;GA GUNU;GA2;
GA2 TIMES A PLUS DA PLUS HA;GA2 TIMES A PLUS HA;GA2 TIMES A PLUS IGI;GA2 TIMES AB2 TENU PLUS TAB;
GA2 TIMES AN;GA2 TIMES ASH;GA2 TIMES ASH2 PLUS GAL;GA2 TIMES BAD;GA2 TIMES BAR PLUS RA;
GA2 TIMES BUR;GA2 TIMES BUR PLUS RA;GA2 TIMES DA;GA2 TIMES DI;GA2 TIMES DIM TIMES SHE;
GA2 TIMES DUB;GA2 TIMES EL;GA2 TIMES EL PLUS LA;GA2 TIMES EN;GA2 TIMES EN TIMES GAN2 TENU;
GA2 TIMES GAN2 TENU;GA2 TIMES GAR;GA2 TIMES GI;GA2 TIMES GI4;GA2 TIMES GI4 PLUS A;
GA2 TIMES GIR2 PLUS SU;GA2 TIMES HA PLUS LU PLUS ESH2;GA2 TIMES HAL;GA2 TIMES HAL PLUS LA;
GA2 TIMES HI PLUS LI;GA2 TIMES HUB2;GA2 TIMES IGI GUNU;GA2 TIMES ISH PLUS HU PLUS ASH;
GA2 TIMES KAK;GA2 TIMES KASKAL;GA2 TIMES KID;GA2 TIMES KID PLUS LAL;GA2 TIMES KU3 PLUS AN;
GA2 TIMES LA;GA2 TIMES ME PLUS EN;GA2 TIMES MI;GA2 TIMES NUN;GA2 TIMES NUN OVER NUN;GA2 TIMES PA;
GA2 TIMES SAL;GA2 TIMES SAR;GA2 TIMES SHE;GA2 TIMES SHE PLUS TUR;GA2 TIMES SHID;GA2 TIMES SUM;
GA2 TIMES TAK4;GA2 TIMES U;GA2 TIMES UD;GA2 TIMES UD PLUS DU;GA2 OVER GA2;GABA;GABA CROSSING GABA;
GAD;GAD OVER GAD GAR OVER GAR;GAL;GAL GAD OVER GAD GAR OVER GAR;GALAM;GAM;GAN;GAN2;GAN2 TENU;
GAN2 OVER GAN2;GAN2 CROSSING GAN2;GAR;GAR3;GASHAN;GESHTIN;GESHTIN TIMES KUR;GI;GI TIMES E;
GI TIMES U;GI CROSSING GI;GI4;GI4 OVER GI4;GI4 CROSSING GI4;GIDIM;GIR2;GIR2 GUNU;GIR3;
GIR3 TIMES A PLUS IGI;GIR3 TIMES GAN2 TENU;GIR3 TIMES IGI;GIR3 TIMES LU PLUS IGI;GIR3 TIMES PA;
GISAL;GISH;GISH CROSSING GISH;GISH TIMES BAD;GISH TIMES TAK4;GISH TENU;GU;GU CROSSING GU;GU2;
GU2 TIMES KAK;GU2 TIMES KAK TIMES IGI GUNU;GU2 TIMES NUN;GU2 TIMES SAL PLUS TUG2;GU2 GUNU;GUD;
GUD TIMES A PLUS KUR;GUD TIMES KUR;GUD OVER GUD LUGAL;GUL;GUM;GUM TIMES SHE;GUR;GUR7;GURUN;GURUSH;
HA;HA TENU;HA GUNU;HAL;HI;HI TIMES ASH;HI TIMES ASH2;HI TIMES BAD;HI TIMES DISH;HI TIMES GAD;
HI TIMES KIN;HI TIMES NUN;HI TIMES SHE;HI TIMES U;HU;HUB2;HUB2 TIMES AN;HUB2 TIMES HAL;
HUB2 TIMES KASKAL;HUB2 TIMES LISH;HUB2 TIMES UD;HUL2;I;I A;IB;IDIM;IDIM OVER IDIM BUR;
IDIM OVER IDIM SQUARED;IG;IGI;IGI DIB;IGI RI;IGI OVER IGI SHIR OVER SHIR UD OVER UD;IGI GUNU;IL;
IL TIMES GAN2 TENU;IL2;IM;IM TIMES TAK4;IM CROSSING IM;IM OPPOSING IM;IM SQUARED;IMIN;IN;IR;ISH;KA;
KA TIMES A;KA TIMES AD;KA TIMES AD PLUS KU3;KA TIMES ASH2;KA TIMES BAD;KA TIMES BALAG;KA TIMES BAR;
KA TIMES BI;KA TIMES ERIN2;KA TIMES ESH2;KA TIMES GA;KA TIMES GAL;KA TIMES GAN2 TENU;KA TIMES GAR;
KA TIMES GAR PLUS SHA3 PLUS A;KA TIMES GI;KA TIMES GIR2;KA TIMES GISH PLUS SAR;
KA TIMES GISH CROSSING GISH;KA TIMES GU;KA TIMES GUR7;KA TIMES IGI;KA TIMES IM;KA TIMES KAK;
KA TIMES KI;KA TIMES KID;KA TIMES LI;KA TIMES LU;KA TIMES ME;KA TIMES ME PLUS DU;
KA TIMES ME PLUS GI;KA TIMES ME PLUS TE;KA TIMES MI;KA TIMES MI PLUS NUNUZ;KA TIMES NE;
KA TIMES NUN;KA TIMES PI;KA TIMES RU;KA TIMES SA;KA TIMES SAR;KA TIMES SHA;KA TIMES SHE;
KA TIMES SHID;KA TIMES SHU;KA TIMES SIG;KA TIMES SUHUR;KA TIMES TAR;KA TIMES U;KA TIMES U2;
KA TIMES UD;KA TIMES UMUM TIMES PA;KA TIMES USH;KA TIMES ZI;KA2;KA2 CROSSING KA2;KAB;KAD2;KAD3;
KAD4;KAD5;KAD5 OVER KAD5;KAK;KAK TIMES IGI GUNU;KAL;KAL TIMES BAD;KAL CROSSING KAL;KAM2;KAM4;
KASKAL;KASKAL LAGAB TIMES U OVER LAGAB TIMES U;KASKAL OVER KASKAL LAGAB TIMES U OVER LAGAB TIMES U;
KESH2;KI;KI TIMES BAD;KI TIMES U;KI TIMES UD;KID;KIN;KISAL;KISH;KISIM5;KISIM5 OVER KISIM5;KU;
KU OVER HI TIMES ASH2 KU OVER HI TIMES ASH2;KU3;KU4;KU4 VARIANT FORM;KU7;KUL;KUL GUNU;KUN;KUR;
KUR OPPOSING KUR;KUSHU2;KWU318;LA;LAGAB;LAGAB TIMES A;LAGAB TIMES A PLUS DA PLUS HA;
LAGAB TIMES A PLUS GAR;LAGAB TIMES A PLUS LAL;LAGAB TIMES AL;LAGAB TIMES AN;
LAGAB TIMES ASH ZIDA TENU;LAGAB TIMES BAD;LAGAB TIMES BI;LAGAB TIMES DAR;LAGAB TIMES EN;
LAGAB TIMES GA;LAGAB TIMES GAR;LAGAB TIMES GUD;LAGAB TIMES GUD PLUS GUD;LAGAB TIMES HA;
LAGAB TIMES HAL;LAGAB TIMES HI TIMES NUN;LAGAB TIMES IGI GUNU;LAGAB TIMES IM;
LAGAB TIMES IM PLUS HA;LAGAB TIMES IM PLUS LU;LAGAB TIMES KI;LAGAB TIMES KIN;LAGAB TIMES KU3;
LAGAB TIMES KUL;LAGAB TIMES KUL PLUS HI PLUS A;LAGAB TIMES LAGAB;LAGAB TIMES LISH;LAGAB TIMES LU;
LAGAB TIMES LUL;LAGAB TIMES ME;LAGAB TIMES ME PLUS EN;LAGAB TIMES MUSH;LAGAB TIMES NE;
LAGAB TIMES SHE PLUS SUM;LAGAB TIMES SHITA PLUS GISH PLUS ERIN2;LAGAB TIMES SHITA PLUS GISH TENU;
LAGAB TIMES SHU2;LAGAB TIMES SHU2 PLUS SHU2;LAGAB TIMES SUM;LAGAB TIMES TAG;LAGAB TIMES TAK4;
LAGAB TIMES TE PLUS A PLUS SU PLUS NA;LAGAB TIMES U;LAGAB TIMES U PLUS A;
LAGAB TIMES U PLUS U PLUS U;LAGAB TIMES U2 PLUS ASH;LAGAB TIMES UD;LAGAB TIMES USH;LAGAB SQUARED;
LAGAR;LAGAR TIMES SHE;LAGAR TIMES SHE PLUS SUM;LAGAR GUNU;LAGAR GUNU OVER LAGAR GUNU SHE;LAHSHU;
LAL;LAL TIMES LAL;LAM;LAM TIMES KUR;LAM TIMES KUR PLUS RU;LI;LIL;LIMMU2;LISH;LU;LU TIMES BAD;LU2;
LU2 TIMES AL;LU2 TIMES BAD;LU2 TIMES ESH2;LU2 TIMES ESH2 TENU;LU2 TIMES GAN2 TENU;
LU2 TIMES HI TIMES BAD;LU2 TIMES IM;LU2 TIMES KAD2;LU2 TIMES KAD3;LU2 TIMES KAD3 PLUS ASH;
LU2 TIMES KI;LU2 TIMES LA PLUS ASH;LU2 TIMES LAGAB;LU2 TIMES ME PLUS EN;LU2 TIMES NE;LU2 TIMES NU;
LU2 TIMES SI PLUS ASH;LU2 TIMES SIK2 PLUS BU;LU2 TIMES TUG2;LU2 TENU;LU2 CROSSING LU2;
LU2 OPPOSING LU2;LU2 SQUARED;LU2 SHESHIG;LU3;LUGAL;LUGAL OVER LUGAL;LUGAL OPPOSING LUGAL;
LUGAL SHESHIG;LUH;LUL;LUM;LUM OVER LUM;LUM OVER LUM GAR OVER GAR;MA;MA TIMES TAK4;MA GUNU;MA2;MAH;
MAR;MASH;MASH2;ME;MES;MI;MIN;MU;MU OVER MU;MUG;MUG GUNU;MUNSUB;MURGU2;MUSH;MUSH TIMES A;
MUSH TIMES KUR;MUSH TIMES ZA;MUSH OVER MUSH;MUSH OVER MUSH TIMES A PLUS NA;MUSH CROSSING MUSH;
MUSH3;MUSH3 TIMES A;MUSH3 TIMES A PLUS DI;MUSH3 TIMES DI;MUSH3 GUNU;NA;NA2;NAGA;NAGA INVERTED;
NAGA TIMES SHU TENU;NAGA OPPOSING NAGA;NAGAR;NAM NUTILLU;NAM;NAM2;NE;NE TIMES A;NE TIMES UD;
NE SHESHIG;NI;NI TIMES E;NI2;NIM;NIM TIMES GAN2 TENU;NIM TIMES GAR PLUS GAN2 TENU;NINDA2;
NINDA2 TIMES AN;NINDA2 TIMES ASH;NINDA2 TIMES ASH PLUS ASH;NINDA2 TIMES GUD;
NINDA2 TIMES ME PLUS GAN2 TENU;NINDA2 TIMES NE;NINDA2 TIMES NUN;NINDA2 TIMES SHE;
NINDA2 TIMES SHE PLUS A AN;NINDA2 TIMES SHE PLUS ASH;NINDA2 TIMES SHE PLUS ASH PLUS ASH;
NINDA2 TIMES U2 PLUS ASH;NINDA2 TIMES USH;NISAG;NU;NU11;NUN;NUN LAGAR TIMES GAR;
NUN LAGAR TIMES MASH;NUN LAGAR TIMES SAL;NUN LAGAR TIMES SAL OVER NUN LAGAR TIMES SAL;
NUN LAGAR TIMES USH;NUN TENU;NUN OVER NUN;NUN CROSSING NUN;NUN CROSSING NUN LAGAR OVER LAGAR;NUNUZ;
NUNUZ AB2 TIMES ASHGAB;NUNUZ AB2 TIMES BI;NUNUZ AB2 TIMES DUG;NUNUZ AB2 TIMES GUD;
NUNUZ AB2 TIMES IGI GUNU;NUNUZ AB2 TIMES KAD3;NUNUZ AB2 TIMES LA;NUNUZ AB2 TIMES NE;
NUNUZ AB2 TIMES SILA3;NUNUZ AB2 TIMES U2;NUNUZ KISIM5 TIMES BI;NUNUZ KISIM5 TIMES BI U;PA;PAD;PAN;
PAP;PESH2;PI;PI TIMES A;PI TIMES AB;PI TIMES BI;PI TIMES BU;PI TIMES E;PI TIMES I;PI TIMES IB;
PI TIMES U;PI TIMES U2;PI CROSSING PI;PIRIG;PIRIG TIMES KAL;PIRIG TIMES UD;PIRIG TIMES ZA;
PIRIG OPPOSING PIRIG;RA;RAB;RI;RU;SA;SAG NUTILLU;SAG;SAG TIMES A;SAG TIMES DU;SAG TIMES DUB;
SAG TIMES HA;SAG TIMES KAK;SAG TIMES KUR;SAG TIMES LUM;SAG TIMES MI;SAG TIMES NUN;SAG TIMES SAL;
SAG TIMES SHID;SAG TIMES TAB;SAG TIMES U2;SAG TIMES UB;SAG TIMES UM;SAG TIMES UR;SAG TIMES USH;
SAG OVER SAG;SAG GUNU;SAL;SAL LAGAB TIMES ASH2;SANGA2;SAR;SHA;SHA3;SHA3 TIMES A;SHA3 TIMES BAD;
SHA3 TIMES GISH;SHA3 TIMES NE;SHA3 TIMES SHU2;SHA3 TIMES TUR;SHA3 TIMES U;SHA3 TIMES U PLUS A;SHA6;
SHAB6;SHAR2;SHE;SHE HU;SHE OVER SHE GAD OVER GAD GAR OVER GAR;
SHE OVER SHE TAB OVER TAB GAR OVER GAR;SHEG9;SHEN;SHESH;SHESH2;SHESHLAM;SHID;SHID TIMES A;
SHID TIMES IM;SHIM;SHIM TIMES A;SHIM TIMES BAL;SHIM TIMES BULUG;SHIM TIMES DIN;SHIM TIMES GAR;
SHIM TIMES IGI;SHIM TIMES IGI GUNU;SHIM TIMES KUSHU2;SHIM TIMES LUL;SHIM TIMES MUG;SHIM TIMES SAL;
SHINIG;SHIR;SHIR TENU;SHIR OVER SHIR BUR OVER BUR;SHITA;SHU;SHU OVER INVERTED SHU;SHU2;SHUBUR;SI;
SI GUNU;SIG;SIG4;SIG4 OVER SIG4 SHU2;SIK2;SILA3;SU;SU OVER SU;SUD;SUD2;SUHUR;SUM;SUMASH;SUR;SUR9;
TA;TA ASTERISK;TA TIMES HI;TA TIMES MI;TA GUNU;TAB;TAB OVER TAB NI OVER NI DISH OVER DISH;
TAB SQUARED;TAG;TAG TIMES BI;TAG TIMES GUD;TAG TIMES SHE;TAG TIMES SHU;TAG TIMES TUG2;TAG TIMES UD;
TAK4;TAR;TE;TE GUNU;TI;TI TENU;TIL;TIR;TIR TIMES TAK4;TIR OVER TIR;
TIR OVER TIR GAD OVER GAD GAR OVER GAR;TU;TUG2;TUK;TUM;TUR;TUR OVER TUR ZA OVER ZA;U;U GUD;U U U;
U OVER U PA OVER PA GAR OVER GAR;U OVER U SUR OVER SUR;U OVER U U REVERSED OVER U REVERSED;U2;UB;
UD;UD KUSHU2;UD TIMES BAD;UD TIMES MI;UD TIMES U PLUS U PLUS U;UD TIMES U PLUS U PLUS U GUNU;
UD GUNU;UD SHESHIG;UD SHESHIG TIMES BAD;UDUG;UM;UM TIMES LAGAB;UM TIMES ME PLUS DA;UM TIMES SHA3;
UM TIMES U;UMBIN;UMUM;UMUM TIMES KASKAL;UMUM TIMES PA;UN;UN GUNU;UR;UR CROSSING UR;UR SHESHIG;UR2;
UR2 TIMES A PLUS HA;UR2 TIMES A PLUS NA;UR2 TIMES AL;UR2 TIMES HA;UR2 TIMES NUN;UR2 TIMES U2;
UR2 TIMES U2 PLUS ASH;UR2 TIMES U2 PLUS BI;UR4;URI;URI3;URU;URU TIMES A;URU TIMES ASHGAB;
URU TIMES BAR;URU TIMES DUN;URU TIMES GA;URU TIMES GAL;URU TIMES GAN2 TENU;URU TIMES GAR;
URU TIMES GU;URU TIMES HA;URU TIMES IGI;URU TIMES IM;URU TIMES ISH;URU TIMES KI;URU TIMES LUM;
URU TIMES MIN;URU TIMES PA;URU TIMES SHE;URU TIMES SIG4;URU TIMES TU;URU TIMES U PLUS GUD;
URU TIMES UD;URU TIMES URUDA;URUDA;URUDA TIMES U;USH;USH TIMES A;USH TIMES KU;USH TIMES KUR;
USH TIMES TAK4;USHX;USH2;USHUMX;UTUKI;UZ3;UZ3 TIMES KASKAL;UZU;ZA;ZA TENU;ZA SQUARED TIMES KUR;ZAG;
ZAMX;ZE2;ZI;ZI OVER ZI;ZI3;ZIB;ZIB KABA TENU;ZIG;ZIZ2;ZU;ZU5;ZU5 TIMES A;ZUBUR;ZUM;KAP ELAMITE;
AB TIMES NUN;AB2 TIMES A;AMAR TIMES KUG;DAG KISIM5 TIMES U2 PLUS MASH;DAG3;DISH PLUS SHU;
DUB TIMES SHE;EZEN TIMES GUD;EZEN TIMES SHE;GA2 TIMES AN PLUS KAK PLUS A;GA2 TIMES ASH2;GE22;GIG;
HUSH;KA TIMES ANSHE;KA TIMES ASH3;KA TIMES GISH;KA TIMES GUD;KA TIMES HI TIMES ASH2;KA TIMES LUM;
KA TIMES PA;KA TIMES SHUL;KA TIMES TU;KA TIMES UR2;LAGAB TIMES GI;LU2 SHESHIG TIMES BAD;
LU2 TIMES ESH2 PLUS LAL;LU2 TIMES SHU;MESH;MUSH3 TIMES ZA;NA4;NIN;NIN9;NINDA2 TIMES BAL;
NINDA2 TIMES GI;NU11 ROTATED NINETY DEGREES;PESH2 ASTERISK;PIR2;SAG TIMES IGI GUNU;TI2;UM TIMES ME;
U U.12400=CUNEIFORM NUMERIC SIGN :TWO ASH;THREE ASH;FOUR ASH;FIVE ASH;SIX ASH;SEVEN ASH;EIGHT ASH;
NINE ASH;THREE DISH;FOUR DISH;FIVE DISH;SIX DISH;SEVEN DISH;EIGHT DISH;NINE DISH;FOUR U;FIVE U;
SIX U;SEVEN U;EIGHT U;NINE U;ONE GESH2;TWO GESH2;THREE GESH2;FOUR GESH2;FIVE GESH2;SIX GESH2;
SEVEN GESH2;EIGHT GESH2;NINE GESH2;ONE GESHU;TWO GESHU;THREE GESHU;FOUR GESHU;FIVE GESHU;TWO SHAR2;
THREE SHAR2;THREE SHAR2 VARIANT FORM;FOUR SHAR2;FIVE SHAR2;SIX SHAR2;SEVEN SHAR2;EIGHT SHAR2;
NINE SHAR2;ONE SHARU;TWO SHARU;THREE SHARU;THREE SHARU VARIANT FORM;FOUR SHARU;FIVE SHARU;
SHAR2 TIMES GAL PLUS DISH;SHAR2 TIMES GAL PLUS MIN;ONE BURU;TWO BURU;THREE BURU;
THREE BURU VARIANT FORM;FOUR BURU;FIVE BURU;THREE VARIANT FORM ESH16;THREE VARIANT FORM ESH21;
FOUR VARIANT FORM LIMMU;FOUR VARIANT FORM LIMMU4;FOUR VARIANT FORM LIMMU A;
FOUR VARIANT FORM LIMMU B;SIX VARIANT FORM ASH9;SEVEN VARIANT FORM IMIN3;SEVEN VARIANT FORM IMIN A;
SEVEN VARIANT FORM IMIN B;EIGHT VARIANT FORM USSU;EIGHT VARIANT FORM USSU3;
NINE VARIANT FORM ILIMMU;NINE VARIANT FORM ILIMMU3;NINE VARIANT FORM ILIMMU4;
NINE VARIANT FORM ILIMMU A;TWO ASH TENU;THREE ASH TENU;FOUR ASH TENU;FIVE ASH TENU;SIX ASH TENU;
ONE BAN2;TWO BAN2;THREE BAN2;FOUR BAN2;FOUR BAN2 VARIANT FORM;FIVE BAN2;FIVE BAN2 VARIANT FORM;
NIGIDAMIN;NIGIDAESH;ONE ESHE3;TWO ESHE3;ONE THIRD DISH;TWO THIRDS DISH;FIVE SIXTHS DISH;
ONE THIRD VARIANT FORM A;TWO THIRDS VARIANT FORM A;ONE EIGHTH ASH;ONE QUARTER ASH;
OLD ASSYRIAN ONE SIXTH;OLD ASSYRIAN ONE QUARTER;ONE QUARTER GUR;ONE HALF GUR;ELAMITE ONE THIRD;
ELAMITE TWO THIRDS;ELAMITE FORTY;ELAMITE FIFTY;FOUR U VARIANT FORM;FIVE U VARIANT FORM;
SIX U VARIANT FORM;SEVEN U VARIANT FORM;EIGHT U VARIANT FORM;NINE U VARIANT FORM.
12470=CUNEIFORM PUNCTUATION SIGN :OLD ASSYRIAN WORD DIVIDER;VERTICAL COLON;DIAGONAL COLON;
DIAGONAL TRICOLON;DIAGONAL QUADCOLON.12480=CUNEIFORM SIGN :AB TIMES NUN TENU;AB TIMES SHU2;
AD TIMES ESH2;BAD TIMES DISH TENU;BAHAR2 TIMES AB2;BAHAR2 TIMES NI;BAHAR2 TIMES ZA;
BU OVER BU TIMES NA2;DA TIMES TAK4;DAG TIMES KUR;DIM TIMES IGI;DIM TIMES U U U;DIM2 TIMES UD;
DUG TIMES ANSHE;DUG TIMES ASH;DUG TIMES ASH AT LEFT;DUG TIMES DIN;DUG TIMES DUN;DUG TIMES ERIN2;
DUG TIMES GA;DUG TIMES GI;DUG TIMES GIR2 GUNU;DUG TIMES GISH;DUG TIMES HA;DUG TIMES HI;
DUG TIMES IGI GUNU;DUG TIMES KASKAL;DUG TIMES KUR;DUG TIMES KUSHU2;DUG TIMES KUSHU2 PLUS KASKAL;
DUG TIMES LAK-020;DUG TIMES LAM;DUG TIMES LAM TIMES KUR;DUG TIMES LUH PLUS GISH;DUG TIMES MASH;
DUG TIMES MES;DUG TIMES MI;DUG TIMES NI;DUG TIMES PI;DUG TIMES SHE;DUG TIMES SI GUNU;E2 TIMES KUR;
E2 TIMES PAP;ERIN2 X;ESH2 CROSSING ESH2;EZEN SHESHIG TIMES ASH;EZEN SHESHIG TIMES HI;
EZEN SHESHIG TIMES IGI GUNU;EZEN SHESHIG TIMES LA;EZEN SHESHIG TIMES LAL;EZEN SHESHIG TIMES ME;
EZEN SHESHIG TIMES MES;EZEN SHESHIG TIMES SU;EZEN TIMES SU;GA2 TIMES BAHAR2;GA2 TIMES DIM GUNU;
GA2 TIMES DUG TIMES IGI GUNU;GA2 TIMES DUG TIMES KASKAL;GA2 TIMES EREN;GA2 TIMES GA;
GA2 TIMES GAR PLUS DI;GA2 TIMES GAR PLUS NE;GA2 TIMES HA PLUS A;GA2 TIMES KUSHU2 PLUS KASKAL;
GA2 TIMES LAM;GA2 TIMES LAM TIMES KUR;GA2 TIMES LUH;GA2 TIMES MUSH;GA2 TIMES NE;
GA2 TIMES NE PLUS E2;GA2 TIMES NE PLUS GI;GA2 TIMES SHIM;GA2 TIMES ZIZ2;
GABA ROTATED NINETY DEGREES;GESHTIN TIMES U;GISH TIMES GISH CROSSING GISH;GU2 TIMES IGI GUNU;
GUD PLUS GISH TIMES TAK4;HA TENU GUNU;HI TIMES ASH OVER HI TIMES ASH;KA TIMES BU;KA TIMES KA;
KA TIMES U U U;KA TIMES UR;LAGAB TIMES ZU OVER ZU;LAK-003;LAK-021;LAK-025;LAK-030;LAK-050;LAK-051;
LAK-062;LAK-079 OVER LAK-079 GUNU;LAK-080;LAK-081 OVER LAK-081;LAK-092;LAK-130;LAK-142;LAK-210;
LAK-219;LAK-220;LAK-225;LAK-228;LAK-238;LAK-265;LAK-266;LAK-343;LAK-347;LAK-348;LAK-383;LAK-384;
LAK-390;LAK-441;LAK-449;LAK-449 TIMES GU;LAK-449 TIMES IGI;LAK-449 TIMES PAP PLUS LU3;
LAK-449 TIMES PAP PLUS PAP PLUS LU3;LAK-449 TIMES U2 PLUS BA;LAK-450;LAK-457;LAK-470;LAK-483;
LAK-490;LAK-492;LAK-493;LAK-495;LAK-550;LAK-608;LAK-617;LAK-617 TIMES ASH;LAK-617 TIMES BAD;
LAK-617 TIMES DUN3 GUNU GUNU;LAK-617 TIMES KU3;LAK-617 TIMES LA;LAK-617 TIMES TAR;LAK-617 TIMES TE;
LAK-617 TIMES U2;LAK-617 TIMES UD;LAK-617 TIMES URUDA;LAK-636;LAK-648;LAK-648 TIMES DUB;
LAK-648 TIMES GA;LAK-648 TIMES IGI;LAK-648 TIMES IGI GUNU;LAK-648 TIMES NI;
LAK-648 TIMES PAP PLUS PAP PLUS LU3;LAK-648 TIMES SHESH PLUS KI;LAK-648 TIMES UD;
LAK-648 TIMES URUDA;LAK-724;LAK-749;LU2 GUNU TIMES ASH;LU2 TIMES DISH;LU2 TIMES HAL;LU2 TIMES PAP;
LU2 TIMES PAP PLUS PAP PLUS LU3;LU2 TIMES TAK4;MI PLUS ZA7;MUSH OVER MUSH TIMES GA;
MUSH OVER MUSH TIMES KAK;NINDA2 TIMES DIM GUNU;NINDA2 TIMES GISH;NINDA2 TIMES GUL;NINDA2 TIMES HI;
NINDA2 TIMES KESH2;NINDA2 TIMES LAK-050;NINDA2 TIMES MASH;NINDA2 TIMES PAP PLUS PAP;NINDA2 TIMES U;
NINDA2 TIMES U PLUS U;NINDA2 TIMES URUDA;SAG GUNU TIMES HA;SAG TIMES EN;SAG TIMES SHE AT LEFT;
SAG TIMES TAK4;SHA6 TENU;SHE OVER SHE;SHE PLUS HUB2;SHE PLUS NAM2;SHE PLUS SAR;
SHU2 PLUS DUG TIMES NI;SHU2 PLUS E2 TIMES AN;SI TIMES TAK4;TAK4 PLUS SAG;TUM TIMES GAN2 TENU;
TUM TIMES THREE DISH;UR2 INVERTED;UR2 TIMES UD;URU TIMES DARA3;URU TIMES LAK-668;URU TIMES LU3;ZA7;
ZU OVER ZU PLUS SAR;ZU5 TIMES THREE DISH TENU.12F90=CYPRO-MINOAN SIGN :CM001;CM002;CM004;CM005;
CM006;CM007;CM008;CM009;CM010;CM011;CM012;CM012B;CM013;CM015;CM017;CM019;CM021;CM023;CM024;CM025;
CM026;CM027;CM028;CM029;CM030;CM033;CM034;CM035;CM036;CM037;CM038;CM039;CM040;CM041;CM044;CM046;
CM047;CM049;CM050;CM051;CM052;CM053;CM054;CM055;CM056;CM058;CM059;CM060;CM061;CM062;CM063;CM064;
CM066;CM067;CM068;CM069;CM070;CM071;CM072;CM073;CM074;CM075;CM075B;CM076;CM078;CM079;CM080;CM081;
CM082;CM083;CM084;CM085;CM086;CM087;CM088;CM089;CM090;CM091;CM092;CM094;CM095;CM096;CM097;CM098;
CM099;CM100;CM101;CM102;CM103;CM104;CM105;CM107;CM108;CM109;CM110;CM112;CM114;CM301;CM302.
13000=EGYPTIAN HIEROGLYPH :A001;A002;A003;A004;A005;A005A;A006;A006A;A006B;A007;A008;A009;A010;
A011;A012;A013;A014;A014A;A015;A016;A017;A017A;A018;A019;A020;A021;A022;A023;A024;A025;A026;A027;
A028;A029;A030;A031;A032;A032A;A033;A034;A035;A036;A037;A038;A039;A040;A040A;A041;A042;A042A;A043;
A043A;A044;A045;A045A;A046;A047;A048;A049;A050;A051;A052;A053;A054;A055;A056;A057;A058;A059;A060;
A061;A062;A063;A064;A065;A066;A067;A068;A069;A070;B001;B002;B003;B004;B005;B005A;B006;B007;B008;
B009;C001;C002;C002A;C002B;C002C;C003;C004;C005;C006;C007;C008;C009;C010;C010A;C011;C012;C013;C014;
C015;C016;C017;C018;C019;C020;C021;C022;C023;C024;D001;D002;D003;D004;D005;D006;D007;D008;D008A;
D009;D010;D011;D012;D013;D014;D015;D016;D017;D018;D019;D020;D021;D022;D023;D024;D025;D026;D027;
D027A;D028;D029;D030;D031;D031A;D032;D033;D034;D034A;D035;D036;D037;D038;D039;D040;D041;D042;D043;
D044;D045;D046;D046A;D047;D048;D048A;D049;D050;D050A;D050B;D050C;D050D;D050E;D050F;D050G;D050H;
D050I;D051;D052;D052A;D053;D054;D054A;D055;D056;D057;D058;D059;D060;D061;D062;D063;D064;D065;D066;
D067;D067A;D067B;D067C;D067D;D067E;D067F;D067G;D067H;E001;E002;E003;E004;E005;E006;E007;E008;E008A;
E009;E009A;E010;E011;E012;E013;E014;E015;E016;E016A;E017;E017A;E018;E019;E020;E020A;E021;E022;E023;
E024;E025;E026;E027;E028;E028A;E029;E030;E031;E032;E033;E034;E034A;E036;E037;E038;F001;F001A;F002;
F003;F004;F005;F006;F007;F008;F009;F010;F011;F012;F013;F013A;F014;F015;F016;F017;F018;F019;F020;
F021;F021A;F022;F023;F024;F025;F026;F027;F028;F029;F030;F031;F031A;F032;F033;F034;F035;F036;F037;
F037A;F038;F038A;F039;F040;F041;F042;F043;F044;F045;F045A;F046;F046A;F047;F047A;F048;F049;F050;
F051;F051A;F051B;F051C;F052;F053;G001;G002;G003;G004;G005;G006;G006A;G007;G007A;G007B;G008;G009;
G010;G011;G011A;G012;G013;G014;G015;G016;G017;G018;G019;G020;G020A;G021;G022;G023;G024;G025;G026;
G026A;G027;G028;G029;G030;G031;G032;G033;G034;G035;G036;G036A;G037;G037A;G038;G039;G040;G041;G042;
G043;G043A;G044;G045;G045A;G046;G047;G048;G049;G050;G051;G052;G053;G054;H001;H002;H003;H004;H005;
H006;H006A;H007;H008;I001;I002;I003;I004;I005;I005A;I006;I007;I008;I009;I009A;I010;I010A;I011;
I011A;I012;I013;I014;I015;K001;K002;K003;K004;K005;K006;K007;K008;L001;L002;L002A;L003;L004;L005;
L006;L006A;L007;L008;M001;M001A;M001B;M002;M003;M003A;M004;M005;M006;M007;M008;M009;M010;M010A;
M011;M012;M012A;M012B;M012C;M012D;M012E;M012F;M012G;M012H;M013;M014;M015;M015A;M016;M016A;M017;
M017A;M018;M019;M020;M021;M022;M022A;M023;M024;M024A;M025;M026;M027;M028;M028A;M029;M030;M031;
M031A;M032;M033;M033A;M033B;M034;M035;M036;M037;M038;M039;M040;M040A;M041;M042;M043;M044;N001;N002;
N003;N004;N005;N006;N007;N008;N009;N010;N011;N012;N013;N014;N015;N016;N017;N018;N018A;N018B;N019;
N020;N021;N022;N023;N024;N025;N025A;N026;N027;N028;N029;N030;N031;N032;N033;N033A;N034;N034A;N035;
N035A;N036;N037;N037A;N038;N039;N040;N041;N042;NL001;NL002;NL003;NL004;NL005;NL005A;NL006;NL007;
NL008;NL009;NL010;NL011;NL012;NL013;NL014;NL015;NL016;NL017;NL017A;NL018;NL019;NL020;NU001;NU002;
NU003;NU004;NU005;NU006;NU007;NU008;NU009;NU010;NU010A;NU011;NU011A;NU012;NU013;NU014;NU015;NU016;
NU017;NU018;NU018A;NU019;NU020;NU021;NU022;NU022A;O001;O001A;O002;O003;O004;O005;O005A;O006;O006A;
O006B;O006C;O006D;O006E;O006F;O007;O008;O009;O010;O010A;O010B;O010C;O011;O012;O013;O014;O015;O016;
O017;O018;O019;O019A;O020;O020A;O021;O022;O023;O024;O024A;O025;O025A;O026;O027;O028;O029;O029A;
O030;O030A;O031;O032;O033;O033A;O034;O035;O036;O036A;O036B;O036C;O036D;O037;O038;O039;O040;O041;
O042;O043;O044;O045;O046;O047;O048;O049;O050;O050A;O050B;O051;P001;P001A;P002;P003;P003A;P004;P005;
P006;P007;P008;P009;P010;P011;Q001;Q002;Q003;Q004;Q005;Q006;Q007;R001;R002;R002A;R003;R003A;R003B;
R004;R005;R006;R007;R008;R009;R010;R010A;R011;R012;R013;R014;R015;R016;R016A;R017;R018;R019;R020;
R021;R022;R023;R024;R025;R026;R027;R028;R029;S001;S002;S002A;S003;S004;S005;S006;S006A;S007;S008;
S009;S010;S011;S012;S013;S014;S014A;S014B;S015;S016;S017;S017A;S018;S019;S020;S021;S022;S023;S024;
S025;S026;S026A;S026B;S027;S028;S029;S030;S031;S032;S033;S034;S035;S035A;S036;S037;S038;S039;S040;
S041;S042;S043;S044;S045;S046;T001;T002;T003;T003A;T004;T005;T006;T007;T007A;T008;T008A;T009;T009A;
T010;T011;T011A;T012;T013;T014;T015;T016;T016A;T017;T018;T019;T020;T021;T022;T023;T024;T025;T026;
T027;T028;T029;T030;T031;T032;T032A;T033;T033A;T034;T035;T036;U001;U002;U003;U004;U005;U006;U006A;
U006B;U007;U008;U009;U010;U011;U012;U013;U014;U015;U016;U017;U018;U019;U020;U021;U022;U023;U023A;
U024;U025;U026;U027;U028;U029;U029A;U030;U031;U032;U032A;U033;U034;U035;U036;U037;U038;U039;U040;
U041;U042;V001;V001A;V001B;V001C;V001D;V001E;V001F;V001G;V001H;V001I;V002;V002A;V003;V004;V005;
V006;V007;V007A;V007B;V008;V009;V010;V011;V011A;V011B;V011C;V012;V012A;V012B;V013;V014;V015;V016;
V017;V018;V019;V020;V020A;V020B;V020C;V020D;V020E;V020F;V020G;V020H;V020I;V020J;V020K;V020L;V021;
V022;V023;V023A;V024;V025;V026;V027;V028;V028A;V029;V029A;V030;V030A;V031;V031A;V032;V033;V033A;
V034;V035;V036;V037;V037A;V038;V039;V040;V040A;W001;W002;W003;W003A;W004;W005;W006;W007;W008;W009;
W009A;W010;W010A;W011;W012;W013;W014;W014A;W015;W016;W017;W017A;W018;W018A;W019;W020;W021;W022;
W023;W024;W024A;W025;X001;X002;X003;X004;X004A;X004B;X005;X006;X006A;X007;X008;X008A;Y001;Y001A;
Y002;Y003;Y004;Y005;Y006;Y007;Y008;Z001;Z002;Z002A;Z002B;Z002C;Z002D;Z003;Z003A;Z003B;Z004;Z004A;
Z005;Z005A;Z006;Z007;Z008;Z009;Z010;Z011;Z012;Z013;Z014;Z015;Z015A;Z015B;Z015C;Z015D;Z015E;Z015F;
Z015G;Z015H;Z015I;Z016;Z016A;Z016B;Z016C;Z016D;Z016E;Z016F;Z016G;Z016H;AA001;AA002;AA003;AA004;
AA005;AA006;AA007;AA007A;AA007B;AA008;AA009;AA010;AA011;AA012;AA013;AA014;AA015;AA016;AA017;AA018;
AA019;AA020;AA021;AA022;AA023;AA024;AA025;AA026;AA027;AA028;AA029;AA030;AA031;AA032.
13430=EGYPTIAN HIEROGLYPH :VERTICAL JOINER;HORIZONTAL JOINER;INSERT AT TOP START;
INSERT AT BOTTOM START;INSERT AT TOP END;INSERT AT BOTTOM END;OVERLAY MIDDLE;BEGIN SEGMENT;
END SEGMENT.14400=ANATOLIAN HIEROGLYPH :A001;A002;A003;A004;A005;A006;A007;A008;A009;A010;A010A;
A011;A012;A013;A014;A015;A016;A017;A018;A019;A020;A021;A022;A023;A024;A025;A026;A026A;A027;A028;
A029;A030;A031;A032;A033;A034;A035;A036;A037;A038;A039;A039A;A040;A041;A041A;A042;A043;A044;A045;
A045A;A046;A046A;A046B;A047;A048;A049;A050;A051;A052;A053;A054;A055;A056;A057;A058;A059;A060;A061;
A062;A063;A064;A065;A066;A066A;A066B;A066C;A067;A068;A069;A070;A071;A072;A073;A074;A075;A076;A077;
A078;A079;A080;A081;A082;A083;A084;A085;A086;A087;A088;A089;A090;A091;A092;A093;A094;A095;A096;
A097;A097A;A098;A098A;A099;A100;A100A;A101;A101A;A102;A102A;A103;A104;A104A;A104B;A104C;A105;A105A;
A105B;A106;A107;A107A;A107B;A107C;A108;A109;A110;A110A;A110B;A111;A112;A113;A114;A115;A115A;A116;
A117;A118;A119;A120;A121;A122;A123;A124;A125;A125A;A126;A127;A128;A129;A130;A131;A132;A133;A134;
A135;A135A;A136;A137;A138;A139;A140;A141;A142;A143;A144;A145;A146;A147;A148;A149;A150;A151;A152;
A153;A154;A155;A156;A157;A158;A159;A160;A161;A162;A163;A164;A165;A166;A167;A168;A169;A170;A171;
A172;A173;A174;A175;A176;A177;A178;A179;A180;A181;A182;A183;A184;A185;A186;A187;A188;A189;A190;
A191;A192;A193;A194;A195;A196;A197;A198;A199;A200;A201;A202;A202A;A202B;A203;A204;A205;A206;A207;
A207A;A208;A209;A209A;A210;A211;A212;A213;A214;A215;A215A;A216;A216A;A217;A218;A219;A220;A221;A222;
A223;A224;A225;A226;A227;A227A;A228;A229;A230;A231;A232;A233;A234;A235;A236;A237;A238;A239;A240;
A241;A242;A243;A244;A245;A246;A247;A248;A249;A250;A251;A252;A253;A254;A255;A256;A257;A258;A259;
A260;A261;A262;A263;A264;A265;A266;A267;A267A;A268;A269;A270;A271;A272;A273;A274;A275;A276;A277;
A278;A279;A280;A281;A282;A283;A284;A285;A286;A287;A288;A289;A289A;A290;A291;A292;A293;A294;A294A;
A295;A296;A297;A298;A299;A299A;A300;A301;A302;A303;A304;A305;A306;A307;A308;A309;A309A;A310;A311;
A312;A313;A314;A315;A316;A317;A318;A319;A320;A321;A322;A323;A324;A325;A326;A327;A328;A329;A329A;
A330;A331;A332A;A332B;A332C;A333;A334;A335;A336;A336A;A336B;A336C;A337;A338;A339;A340;A341;A342;
A343;A344;A345;A346;A347;A348;A349;A350;A351;A352;A353;A354;A355;A356;A357;A358;A359;A359A;A360;
A361;A362;A363;A364;A364A;A365;A366;A367;A368;A368A;A369;A370;A371;A371A;A372;A373;A374;A375;A376;
A377;A378;A379;A380;A381;A381A;A382;A383 RA OR RI;A383A;A384;A385;A386;A386A;A387;A388;A389;A390;
A391;A392;A393 EIGHT;A394;A395;A396;A397;A398;A399;A400;A401;A402;A403;A404;A405;A406;A407;A408;
A409;A410 BEGIN LOGOGRAM MARK;A410A END LOGOGRAM MARK;A411;A412;A413;A414;A415;A416;A417;A418;A419;
A420;A421;A422;A423;A424;A425;A426;A427;A428;A429;A430;A431;A432;A433;A434;A435;A436;A437;A438;
A439;A440;A441;A442;A443;A444;A445;A446;A447;A448;A449;A450;A450A;A451;A452;A453;A454;A455;A456;
A457;A457A;A458;A459;A460;A461;A462;A463;A464;A465;A466;A467;A468;A469;A470;A471;A472;A473;A474;
A475;A476;A477;A478;A479;A480;A481;A482;A483;A484;A485;A486;A487;A488;A489;A490;A491;A492;A493;
A494;A495;A496;A497;A501;A502;A503;A504;A505;A506;A507;A508;A509;A510;A511;A512;A513;A514;A515;
A516;A517;A518;A519;A520;A521;A522;A523;A524;A525;A526;A527;A528;A529;A530.
16800=BAMUM LETTER PHASE-:A NGKUE MFON;A GBIEE FON;A PON MFON PIPAEMGBIEE;A PON MFON PIPAEMBA;
A NAA MFON;A SHUENSHUET;A TITA MFON;A NZA MFON;A SHINDA PA NJI;A PON PA NJI PIPAEMGBIEE;
A PON PA NJI PIPAEMBA;A MAEMBGBIEE;A TU MAEMBA;A NGANGU;A MAEMVEUX;A MANSUAE;A MVEUAENGAM;
A SEUNYAM;A NTOQPEN;A KEUKEUTNDA;A NKINDI;A SUU;A NGKUENZEUM;A LAPAQ;A LET KUT;A NTAP MFAA;
A MAEKEUP;A PASHAE;A GHEUAERAE;A PAMSHAE;A MON NGGEUAET;A NZUN MEUT;A U YUQ NAE;A GHEUAEGHEUAE;
A NTAP NTAA;A SISA;A MGBASA;A MEUNJOMNDEUQ;A MOOMPUQ;A KAFA;A PA LEERAEWA;A NDA LEERAEWA;A PET;
A MAEMKPEN;A NIKA;A PUP;A TUAEP;A LUAEP;A SONJAM;A TEUTEUWEN;A MAENYI;A KET;A NDAANGGEUAET;A KUOQ;
A MOOMEUT;A SHUM;A LOMMAE;A FIRI;A ROM;A KPOQ;A SOQ;A MAP PIEET;A SHIRAE;A NTAP;A SHOQ NSHUT YUM;
A NYIT MONGKEUAEQ;A PAARAE;A NKAARAE;A UNKNOWN;A NGGEN;A MAESI;A NJAM;A MBANYI;A NYET;A TEUAEN;
A SOT;A PAAM;A NSHIEE;A MAEM;A NYI;A KAQ;A NSHA;A VEE;A LU;A NEN;A NAQ;A MBAQ;B NSHUET;
B TU MAEMGBIEE;B SIEE;B SET TU;B LOM NTEUM;B MBA MAELEE;B KIEEM;B YEURAE;B MBAARAE;B KAM;B PEESHI;
B YAFU LEERAEWA;B LAM NSHUT NYAM;B NTIEE SHEUOQ;B NDU NJAA;B GHEUGHEUAEM;B PIT;B TU NSIEE;
B SHET NJAQ;B SHEUAEQTU;B MFON TEUAEQ;B MBIT MBAAKET;B NYI NTEUM;B KEUPUQ;B GHEUGHEN;B KEUYEUX;
B LAANAE;B PARUM;B VEUM;B NGKINDI MVOP;B NGGEU MBU;B WUAET;B SAKEUAE;B TAAM;B MEUQ;B NGGUOQ;
B NGGUOQ LARGE;B MFIYAQ;B SUE;B MBEURI;B MONTIEEN;B NYAEMAE;B PUNGAAM;B MEUT NGGEET;B FEUX;B MBUOQ;
B FEE;B KEUAEM;B MA NJEUAENA;B MA NJUQA;B LET;B NGGAAM;B NSEN;B MA;B KIQ;B NGOM;C NGKUE MAEMBA;
C NZA;C YUM;C WANGKUOQ;C NGGEN;C NDEUAEREE;C NGKAQ;C GHARAE;C MBEEKEET;C GBAYI;C NYIR MKPARAQ MEUN;
C NTU MBIT;C MBEUM;C PIRIEEN;C NDOMBU;C MBAA CABBAGE-TREE;C KEUSHEUAEP;C GHAP;C KEUKAQ;C YU MUOMAE;
C NZEUM;C MBUE;C NSEUAEN;C MBIT;C YEUQ;C KPARAQ;C KAA;C SEUX;C NDIDA;C TAASHAE;C NJUEQ;C TITA YUE;
C SUAET;C NGGUAEN NYAM;C VEUX;C NANSANAQ;C MA KEUAERI;C NTAA;C NGGUON;C LAP;C MBIRIEEN;C MGBASAQ;
C NTEUNGBA;C TEUTEUX;C NGGUM;C FUE;C NDEUT;C NSA;C NSHAQ;C BUNG;C VEUAEPEN;C MBERAE;C RU;C NJAEM;
C LAM;C TITUAEP;C NSUOT NGOM;C NJEEEE;C KET;C NGGU;C MAESI;C MBUAEM;C LU;C KUT;C NJAM;C NGOM;C WUP;
C NGGUEET;C NSOM;C NTEN;C KUOP NKAARAE;C NSUN;C NDAM;C MA NSIEE;C YAA;C NDAP;C SHUEQ;C SETFON;
C MBI;C MAEMBA;C MBANYI;C KEUSEUX;C MBEUX;C KEUM;C MBAA PICKET;C YUWOQ;C NJEUX;C MIEE;C MUAE;
C SHIQ;C KEN LAW;C KEN FATIGUE;C NGAQ;C NAQ;C LIQ;C PIN;C PEN;C TET;D MBUO;D WAP;D NJI;D MFON;
D NJIEE;D LIEE;D NJEUT;D NSHEE;D NGGAAMAE;D NYAM;D WUAEN;D NGKUN;D SHEE;D NGKAP;D KEUAETMEUN;
D TEUT;D SHEUAE;D NJAP;D SUE;D KET;D YAEMMAE;D KUOM;D SAP;D MFEUT;D NDEUX;D MALEERI;D MEUT;
D SEUAEQ;D YEN;D NJEUAEM;D KEUOT MBUAE;D NGKEURI;D TU;D GHAA;D NGKYEE;D FEUFEUAET;D NDEE;D MGBOFUM;
D LEUAEP;D NDON;D MONI;D MGBEUN;D PUUT;D MGBIEE;D MFO;D LUM;D NSIEEP;D MBAA;D KWAET;D NYET;
D TEUAEN;D SOT;D YUWOQ;D KEUM;D RAEM;D TEEEE;D NGKEUAEQ;D MFEUAE;D NSIEET;D KEUP;D PIP;D PEUTAE;
D NYUE;D LET;D NGGAAM;D MFIEE;D NGGWAEN;D YUOM;D PAP;D YUOP;D NDAM;D NTEUM;D SUAE;D KUN;D NGGEUX;
D NGKIEE;D TUOT;D MEUN;D KUQ;D NSUM;D TEUN;D MAENJET;D NGGAP;D LEUM;D NGGUOM;D NSHUT;D NJUEQ;
D GHEUAE;D KU;D REN OLD;D TAE;D TOQ;D NYI;D RII;D LEEEE;D MEEEE;D M;D SUU;D MU;D SHII;D SHEUX;
D KYEE;D NU;D SHU;D NTEE;D PEE;D NI;D SHOQ;D PUQ;D MVOP;D LOQ;D REN MUCH;D TI;D NTUU;D MBAA SEVEN;
D SAQ;D FAA;E NDAP;E TOON;E MBEUM;E LAP;E VOM;E LOON;E PAA;E SOM;E RAQ;E NSHUOP;E NDUN;E PUAE;
E TAM;E NGKA;E KPEUX;E WUO;E SEE;E NGGEUAET;E PAAM;E TOO;E KUOP;E LOM;E NSHIEE;E NGOP;E MAEM;
E NGKEUX;E NGOQ;E NSHUE;E RIMGBA;E NJEUX;E PEEM;E SAA;E NGGURAE;E MGBA;E GHEUX;E NGKEUAEM;
E NJAEMLI;E MAP;E LOOT;E NGGEEEE;E NDIQ;E TAEN NTEUM;E SET;E PUM;E NDAA SOFTNESS;E NGGUAESHAE NYAM;
E YIEE;E GHEUN;E TUAE;E YEUAE;E PO;E TUMAE;E KEUAE;E SUAEN;E TEUAEQ;E VEUAE;E WEUX;E LAAM;E PU;
E TAAQ;E GHAAMAE;E NGEUREUT;E SHEUAEQ;E MGBEN;E MBEE;E NZAQ;E NKOM;E GBET;E TUM;E KUET;E YAP;
E NYI CLEAVER;E YIT;E MFEUQ;E NDIAQ;E PIEEQ;E YUEQ;E LEUAEM;E FUE;E GBEUX;E NGKUP;E KET;E MAE;
E NGKAAMI;E GHET;E FA;E NTUM;E PEUT;E YEUM;E NGGEUAE;E NYI BETWEEN;E NZUQ;E POON;E MIEE;E FUET;
E NAE;E MUAE;E GHEUAE;E FU I;E MVI;E PUAQ;E NGKUM;E KUT;E PIET;E NTAP;E YEUAET;E NGGUP;E PA PEOPLE;
E FU CALL;E FOM;E NJEE;E A;E TOQ;E O;E I;E LAQ;E PA PLURAL;E TAA;E TAQ;E NDAA MY HOUSE;E SHIQ;
E YEUX;E NGUAE;E YUAEN;E YOQ SWIMMING;E YOQ COVER;E YUQ;E YUN;E KEUX;E PEUX;E NJEE EPOCH;E PUE;
E WUE;E FEE;E VEE;E LU;E MI;E REUX;E RAE;E NGUAET;E NGA;E SHO;E SHOQ;E FU REMEDY;E NA;E PI;E LOQ;
E KO;E MEN;E MA;E MAQ;E TEU;E KI;E MON;E TEN;E FAQ;E GHOM;F KA;F U;F KU;F EE;F REE;F TAE;F NYI;
F LA;F RII;F RIEE;F MEEEE;F TAA;F NDAA;F NJAEM;F M;F SUU;F SHII;F SI;F SEUX;F KYEE;F KET;F NUAE;
F NU;F NJUAE;F YOQ;F SHU;F YA;F NSHA;F PEUX;F NTEE;F WUE;F PEE;F RU;F NI;F REUX;F KEN;F NGKWAEN;
F NGGA;F SHO;F PUAE;F FOM;F WA;F LI;F LOQ;F KO;F MBEN;F REN;F MA;F MO;F MBAA;F TET;F KPA;F SAMBA;
F VUEQ.16A40=MRO LETTER :TA;NGI;YO;MIM;BA;DA;A;PHI;KHAI;HAO;DAI;CHU;KEAAE;OL;MAEM;NIN;PA;OO;O;RO;
SHI;THEA;EA;WA;E;KO;LAN;LA;HAI;RI;TEK.16A60=MRO DIGIT :ZERO;ONE;TWO;THREE;FOUR;FIVE;SIX;SEVEN;
EIGHT;NINE.16A6E=:MRO DANDA;MRO DOUBLE DANDA.16A70=TANGSA LETTER :OZ;OC;OQ;OX;AZ;AC;AQ;AX;VZ;VC;VQ;
VX;EZ;EC;EQ;EX;IZ;IC;IQ;IX;UZ;UC;UQ;UX;AWZ;AWC;AWQ;AWX;UIZ;UIC;UIQ;UIX;FINAL NG;LONG UEX;SHORT UEZ;
SHORT AWX;UEC;UEZ;UEQ;UEX;UIUZ;UIUC;UIUQ;UIUX;MZ;MC;MQ;MX;KA;KHA;GA;NGA;SA;YA;WA;PA;NYA;PHA;BA;MA;
NA;HA;LA;HTA;TA;DA;RA;NHA;SHA;CA;TSA;GHA;HTTA;THA;XA;FA;DHA;CHA;ZA.16AC0=TANGSA DIGIT :ZERO;ONE;
TWO;THREE;FOUR;FIVE;SIX;SEVEN;EIGHT;NINE.16AD0=BASSA VAH LETTER :ENNI;KA;SE;FA;MBE;YIE;GAH;DHII;
KPAH;JO;HWAH;WA;ZO;GBU;DO;CE;UWU;TO;BA;VU;YEIN;PA;WADDA;A;O;OO;U;EE;E;I.16AF0=BASSA VAH COMBINING :
HIGH TONE;LOW TONE;MID TONE;LOW-MID TONE;HIGH-LOW TONE.16AF5=:BASSA VAH FULL STOP.
16B00=PAHAWH HMONG :VOWEL KEEB;VOWEL KEEV;VOWEL KIB;VOWEL KIV;VOWEL KAUB;VOWEL KAUV;VOWEL KUB;
VOWEL KUV;VOWEL KEB;VOWEL KEV;VOWEL KAIB;VOWEL KAIV;VOWEL KOOB;VOWEL KOOV;VOWEL KAWB;VOWEL KAWV;
VOWEL KUAB;VOWEL KUAV;VOWEL KOB;VOWEL KOV;VOWEL KIAB;VOWEL KIAV;VOWEL KAB;VOWEL KAV;VOWEL KWB;
VOWEL KWV;VOWEL KAAB;VOWEL KAAV;CONSONANT VAU;CONSONANT NTSAU;CONSONANT LAU;CONSONANT HAU;
CONSONANT NLAU;CONSONANT RAU;CONSONANT NKAU;CONSONANT QHAU;CONSONANT YAU;CONSONANT HLAU;
CONSONANT MAU;CONSONANT CHAU;CONSONANT NCHAU;CONSONANT HNAU;CONSONANT PLHAU;CONSONANT NTHAU;
CONSONANT NAU;CONSONANT AU;CONSONANT XAU;CONSONANT CAU;MARK CIM TUB;MARK CIM SO;MARK CIM KES;
MARK CIM KHAV;MARK CIM SUAM;MARK CIM HOM;MARK CIM TAUM;SIGN VOS THOM;SIGN VOS TSHAB CEEB;
SIGN CIM CHEEM;SIGN VOS THIAB;SIGN VOS FEEM;SIGN XYEEM NTXIV;SIGN XYEEM RHO;SIGN XYEEM TOV;
SIGN XYEEM FAIB;SIGN VOS SEEV;SIGN MEEJ SUAB;SIGN VOS NRUA;SIGN IB YAM;SIGN XAUS;SIGN CIM TSOV ROG.
16B50=PAHAWH HMONG DIGIT :ZERO;ONE;TWO;THREE;FOUR;FIVE;SIX;SEVEN;EIGHT;NINE.
16B5B=PAHAWH HMONG NUMBER :TENS;HUNDREDS;TEN THOUSANDS;MILLIONS;HUNDRED MILLIONS;TEN BILLIONS;
TRILLIONS.16B63=PAHAWH HMONG SIGN :VOS LUB;XYOO;HLI;THIRD-STAGE HLI;ZWJ THAJ;HNUB;NQIG;XIAB;NTUJ;
AV;TXHEEJ CEEV;MEEJ TSEEB;TAU;LOS;MUS;CIM HAIS LUS NTOG NTOG;CIM CUAM TSHOOJ;CIM TXWV;
CIM TXWV CHWV;CIM PUB DAWB;CIM NRES TOS.16B7D=PAHAWH HMONG CLAN SIGN :TSHEEJ;YEEG;LIS;LAUJ;XYOOJ;
KOO;HAWJ;MUAS;THOJ;TSAB;PHAB;KHAB;HAM;VAJ;FAJ;YAJ;TSWB;KWM;VWJ.16E40=MEDEFAIDRIN :CAPITAL LETTER M;
CAPITAL LETTER S;CAPITAL LETTER V;CAPITAL LETTER W;CAPITAL LETTER ATIU;CAPITAL LETTER Z;
CAPITAL LETTER KP;CAPITAL LETTER P;CAPITAL LETTER T;CAPITAL LETTER G;CAPITAL LETTER F;
CAPITAL LETTER I;CAPITAL LETTER K;CAPITAL LETTER A;CAPITAL LETTER J;CAPITAL LETTER E;
CAPITAL LETTER B;CAPITAL LETTER C;CAPITAL LETTER U;CAPITAL LETTER YU;CAPITAL LETTER L;
CAPITAL LETTER Q;CAPITAL LETTER HP;CAPITAL LETTER NY;CAPITAL LETTER X;CAPITAL LETTER D;
CAPITAL LETTER OE;CAPITAL LETTER N;CAPITAL LETTER R;CAPITAL LETTER O;CAPITAL LETTER AI;
CAPITAL LETTER Y;SMALL LETTER M;SMALL LETTER S;SMALL LETTER V;SMALL LETTER W;SMALL LETTER ATIU;
SMALL LETTER Z;SMALL LETTER KP;SMALL LETTER P;SMALL LETTER T;SMALL LETTER G;SMALL LETTER F;
SMALL LETTER I;SMALL LETTER K;SMALL LETTER A;SMALL LETTER J;SMALL LETTER E;SMALL LETTER B;
SMALL LETTER C;SMALL LETTER U;SMALL LETTER YU;SMALL LETTER L;SMALL LETTER Q;SMALL LETTER HP;
SMALL LETTER NY;SMALL LETTER X;SMALL LETTER D;SMALL LETTER OE;SMALL LETTER N;SMALL LETTER R;
SMALL LETTER O;SMALL LETTER AI;SMALL LETTER Y;DIGIT ZERO;DIGIT ONE;DIGIT TWO;DIGIT THREE;
DIGIT FOUR;DIGIT FIVE;DIGIT SIX;DIGIT SEVEN;DIGIT EIGHT;DIGIT NINE;NUMBER TEN;NUMBER ELEVEN;
NUMBER TWELVE;NUMBER THIRTEEN;NUMBER FOURTEEN;NUMBER FIFTEEN;NUMBER SIXTEEN;NUMBER SEVENTEEN;
NUMBER EIGHTEEN;NUMBER NINETEEN;DIGIT ONE ALTERNATE FORM;DIGIT TWO ALTERNATE FORM;
DIGIT THREE ALTERNATE FORM;COMMA;FULL STOP;SYMBOL AIVA;EXCLAMATION OH.16F00=MIAO LETTER :PA;BA;
YI PA;PLA;MA;MHA;ARCHAIC MA;FA;VA;VFA;TA;DA;YI TTA;YI TA;TTA;DDA;NA;NHA;YI NNA;ARCHAIC NA;NNA;NNHA;
LA;LYA;LHA;LHYA;TLHA;DLHA;TLHYA;DLHYA;KA;GA;YI KA;QA;QGA;NGA;NGHA;ARCHAIC NGA;HA;XA;GHA;GHHA;TSSA;
DZZA;NYA;NYHA;TSHA;DZHA;YI TSHA;YI DZHA;REFORMED TSHA;SHA;SSA;ZHA;ZSHA;TSA;DZA;YI TSA;SA;ZA;ZSA;
ZZA;ZZSA;ARCHAIC ZZA;ZZYA;ZZSYA;WA;AH;HHA;BRI;SYI;DZYI;TE;TSE;RTE.16F4F=MIAO :
SIGN CONSONANT MODIFIER BAR;LETTER NASALIZATION;SIGN ASPIRATION;SIGN REFORMED VOICING;
SIGN REFORMED ASPIRATION;VOWEL SIGN A;VOWEL SIGN AA;VOWEL SIGN AHH;VOWEL SIGN AN;VOWEL SIGN ANG;
VOWEL SIGN O;VOWEL SIGN OO;VOWEL SIGN WO;VOWEL SIGN W;VOWEL SIGN E;VOWEL SIGN EN;VOWEL SIGN ENG;
VOWEL SIGN OEY;VOWEL SIGN I;VOWEL SIGN IA;VOWEL SIGN IAN;VOWEL SIGN IANG;VOWEL SIGN IO;
VOWEL SIGN IE;VOWEL SIGN II;VOWEL SIGN IU;VOWEL SIGN ING;VOWEL SIGN U;VOWEL SIGN UA;VOWEL SIGN UAN;
VOWEL SIGN UANG;VOWEL SIGN UU;VOWEL SIGN UEI;VOWEL SIGN UNG;VOWEL SIGN Y;VOWEL SIGN YI;
VOWEL SIGN AE;VOWEL SIGN AEE;VOWEL SIGN ERR;VOWEL SIGN ROUNDED ERR;VOWEL SIGN ER;
VOWEL SIGN ROUNDED ER;VOWEL SIGN AI;VOWEL SIGN EI;VOWEL SIGN AU;VOWEL SIGN OU;VOWEL SIGN N;
VOWEL SIGN NG;VOWEL SIGN UOG;VOWEL SIGN YUI;VOWEL SIGN OG;VOWEL SIGN OER;VOWEL SIGN VW;
VOWEL SIGN IG;VOWEL SIGN EA;VOWEL SIGN IONG;VOWEL SIGN UI.16F8F=MIAO :TONE RIGHT;TONE TOP RIGHT;
TONE ABOVE;TONE BELOW;LETTER TONE-2;LETTER TONE-3;LETTER TONE-4;LETTER TONE-5;LETTER TONE-6;
LETTER TONE-7;LETTER TONE-8;LETTER REFORMED TONE-1;LETTER REFORMED TONE-2;LETTER REFORMED TONE-4;
LETTER REFORMED TONE-5;LETTER REFORMED TONE-6;LETTER REFORMED TONE-8.16FE0=:TANGUT ITERATION MARK;
NUSHU ITERATION MARK.16FE2=OLD CHINESE :HOOK MARK;ITERATION MARK.16FE4=:KHITAN SMALL SCRIPT FILLER.
16FF0=VIETNAMESE ALTERNATE READING MARK :CA;NHAY.18800=TANGUT COMPONENT-:001;002;003;004;005;006;
007;008;009;010;011;012;013;014;015;016;017;018;019;020;021;022;023;024;025;026;027;028;029;030;
031;032;033;034;035;036;037;038;039;040;041;042;043;044;045;046;047;048;049;050;051;052;053;054;
055;056;057;058;059;060;061;062;063;064;065;066;067;068;069;070;071;072;073;074;075;076;077;078;
079;080;081;082;083;084;085;086;087;088;089;090;091;092;093;094;095;096;097;098;099;100;101;102;
103;104;105;106;107;108;109;110;111;112;113;114;115;116;117;118;119;120;121;122;123;124;125;126;
127;128;129;130;131;132;133;134;135;136;137;138;139;140;141;142;143;144;145;146;147;148;149;150;
151;152;153;154;155;156;157;158;159;160;161;162;163;164;165;166;167;168;169;170;171;172;173;174;
175;176;177;178;179;180;181;182;183;184;185;186;187;188;189;190;191;192;193;194;195;196;197;198;
199;200;201;202;203;204;205;206;207;208;209;210;211;212;213;214;215;216;217;218;219;220;221;222;
223;224;225;226;227;228;229;230;231;232;233;234;235;236;237;238;239;240;241;242;243;244;245;246;
247;248;249;250;251;252;253;254;255;256;257;258;259;260;261;262;263;264;265;266;267;268;269;270;
271;272;273;274;275;276;277;278;279;280;281;282;283;284;285;286;287;288;289;290;291;292;293;294;
295;296;297;298;299;300;301;302;303;304;305;306;307;308;309;310;311;312;313;314;315;316;317;318;
319;320;321;322;323;324;325;326;327;328;329;330;331;332;333;334;335;336;337;338;339;340;341;342;
343;344;345;346;347;348;349;350;351;352;353;354;355;356;357;358;359;360;361;362;363;364;365;366;
367;368;369;370;371;372;373;374;375;376;377;378;379;380;381;382;383;384;385;386;387;388;389;390;
391;392;393;394;395;396;397;398;399;400;401;402;403;404;405;406;407;408;409;410;411;412;413;414;
415;416;417;418;419;420;421;422;423;424;425;426;427;428;429;430;431;432;433;434;435;436;437;438;
439;440;441;442;443;444;445;446;447;448;449;450;451;452;453;454;455;456;457;458;459;460;461;462;
463;464;465;466;467;468;469;470;471;472;473;474;475;476;477;478;479;480;481;482;483;484;485;486;
487;488;489;490;491;492;493;494;495;496;497;498;499;500;501;502;503;504;505;506;507;508;509;510;
511;512;513;514;515;516;517;518;519;520;521;522;523;524;525;526;527;528;529;530;531;532;533;534;
535;536;537;538;539;540;541;542;543;544;545;546;547;548;549;550;551;552;553;554;555;556;557;558;
559;560;561;562;563;564;565;566;567;568;569;570;571;572;573;574;575;576;577;578;579;580;581;582;
583;584;585;586;587;588;589;590;591;592;593;594;595;596;597;598;599;600;601;602;603;604;605;606;
607;608;609;610;611;612;613;614;615;616;617;618;619;620;621;622;623;624;625;626;627;628;629;630;
631;632;633;634;635;636;637;638;639;640;641;642;643;644;645;646;647;648;649;650;651;652;653;654;
655;656;657;658;659;660;661;662;663;664;665;666;667;668;669;670;671;672;673;674;675;676;677;678;
679;680;681;682;683;684;685;686;687;688;689;690;691;692;693;694;695;696;697;698;699;700;701;702;
703;704;705;706;707;708;709;710;711;712;713;714;715;716;717;718;719;720;721;722;723;724;725;726;
727;728;729;730;731;732;733;734;735;736;737;738;739;740;741;742;743;744;745;746;747;748;749;750;
751;752;753;754;755;756;757;758;759;760;761;762;763;764;765;766;767;768.
18B00=KHITAN SMALL SCRIPT CHARACTER-:18B00;18B01;18B02;18B03;18B04;18B05;18B06;18B07;18B08;18B09;
18B0A;18B0B;18B0C;18B0D;18B0E;18B0F;18B10;18B11;18B12;18B13;18B14;18B15;18B16;18B17;18B18;18B19;
18B1A;18B1B;18B1C;18B1D;18B1E;18B1F;18B20;18B21;18B22;18B23;18B24;18B25;18B26;18B27;18B28;18B29;
18B2A;18B2B;18B2C;18B2D;18B2E;18B2F;18B30;18B31;18B32;18B33;18B34;18B35;18B36;18B37;18B38;18B39;
18B3A;18B3B;18B3C;18B3D;18B3E;18B3F;18B40;18B41;18B42;18B43;18B44;18B45;18B46;18B47;18B48;18B49;
18B4A;18B4B;18B4C;18B4D;18B4E;18B4F;18B50;18B51;18B52;18B53;18B54;18B55;18B56;18B57;18B58;18B59;
18B5A;18B5B;18B5C;18B5D;18B5E;18B5F;18B60;18B61;18B62;18B63;18B64;18B65;18B66;18B67;18B68;18B69;
18B6A;18B6B;18B6C;18B6D;18B6E;18B6F;18B70;18B71;18B72;18B73;18B74;18B75;18B76;18B77;18B78;18B79;
18B7A;18B7B;18B7C;18B7D;18B7E;18B7F;18B80;18B81;18B82;18B83;18B84;18B85;18B86;18B87;18B88;18B89;
18B8A;18B8B;18B8C;18B8D;18B8E;18B8F;18B90;18B91;18B92;18B93;18B94;18B95;18B96;18B97;18B98;18B99;
18B9A;18B9B;18B9C;18B9D;18B9E;18B9F;18BA0;18BA1;18BA2;18BA3;18BA4;18BA5;18BA6;18BA7;18BA8;18BA9;
18BAA;18BAB;18BAC;18BAD;18BAE;18BAF;18BB0;18BB1;18BB2;18BB3;18BB4;18BB5;18BB6;18BB7;18BB8;18BB9;
18BBA;18BBB;18BBC;18BBD;18BBE;18BBF;18BC0;18BC1;18BC2;18BC3;18BC4;18BC5;18BC6;18BC7;18BC8;18BC9;
18BCA;18BCB;18BCC;18BCD;18BCE;18BCF;18BD0;18BD1;18BD2;18BD3;18BD4;18BD5;18BD6;18BD7;18BD8;18BD9;
18BDA;18BDB;18BDC;18BDD;18BDE;18BDF;18BE0;18BE1;18BE2;18BE3;18BE4;18BE5;18BE6;18BE7;18BE8;18BE9;
18BEA;18BEB;18BEC;18BED;18BEE;18BEF;18BF0;18BF1;18BF2;18BF3;18BF4;18BF5;18BF6;18BF7;18BF8;18BF9;
18BFA;18BFB;18BFC;18BFD;18BFE;18BFF;18C00;18C01;18C02;18C03;18C04;18C05;18C06;18C07;18C08;18C09;
18C0A;18C0B;18C0C;18C0D;18C0E;18C0F;18C10;18C11;18C12;18C13;18C14;18C15;18C16;18C17;18C18;18C19;
18C1A;18C1B;18C1C;18C1D;18C1E;18C1F;18C20;18C21;18C22;18C23;18C24;18C25;18C26;18C27;18C28;18C29;
18C2A;18C2B;18C2C;18C2D;18C2E;18C2F;18C30;18C31;18C32;18C33;18C34;18C35;18C36;18C37;18C38;18C39;
18C3A;18C3B;18C3C;18C3D;18C3E;18C3F;18C40;18C41;18C42;18C43;18C44;18C45;18C46;18C47;18C48;18C49;
18C4A;18C4B;18C4C;18C4D;18C4E;18C4F;18C50;18C51;18C52;18C53;18C54;18C55;18C56;18C57;18C58;18C59;
18C5A;18C5B;18C5C;18C5D;18C5E;18C5F;18C60;18C61;18C62;18C63;18C64;18C65;18C66;18C67;18C68;18C69;
18C6A;18C6B;18C6C;18C6D;18C6E;18C6F;18C70;18C71;18C72;18C73;18C74;18C75;18C76;18C77;18C78;18C79;
18C7A;18C7B;18C7C;18C7D;18C7E;18C7F;18C80;18C81;18C82;18C83;18C84;18C85;18C86;18C87;18C88;18C89;
18C8A;18C8B;18C8C;18C8D;18C8E;18C8F;18C90;18C91;18C92;18C93;18C94;18C95;18C96;18C97;18C98;18C99;
18C9A;18C9B;18C9C;18C9D;18C9E;18C9F;18CA0;18CA1;18CA2;18CA3;18CA4;18CA5;18CA6;18CA7;18CA8;18CA9;
18CAA;18CAB;18CAC;18CAD;18CAE;18CAF;18CB0;18CB1;18CB2;18CB3;18CB4;18CB5;18CB6;18CB7;18CB8;18CB9;
18CBA;18CBB;18CBC;18CBD;18CBE;18CBF;18CC0;18CC1;18CC2;18CC3;18CC4;18CC5;18CC6;18CC7;18CC8;18CC9;
18CCA;18CCB;18CCC;18CCD;18CCE;18CCF;18CD0;18CD1;18CD2;18CD3;18CD4;18CD5.
1AFF0=KATAKANA LETTER MINNAN TONE-:2;3;4;5.1AFF5=KATAKANA LETTER MINNAN :TONE-7;TONE-8;
NASALIZED TONE-1;NASALIZED TONE-2;NASALIZED TONE-3;NASALIZED TONE-4;NASALIZED TONE-5.
1AFFD=KATAKANA LETTER MINNAN NASALIZED TONE-:7;8."

end Workflow.Text
