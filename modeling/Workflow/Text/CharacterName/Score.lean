/-!
# Names: music, mathematics and signs

Runs of names of characters of music, of mathematical alphabets and of written signs. A run gives
the code of its first character, the start that its names share, and the rest of each name. Line
ends mean nothing.
-/

namespace Workflow.Text

/-- The names of these characters. -/
def scoreNames : String := "
1B000=:KATAKANA LETTER ARCHAIC E;HIRAGANA LETTER ARCHAIC YE.1B002=HENTAIGANA LETTER :A-1;A-2;A-3;
A-WO;I-1;I-2;I-3;I-4;U-1;U-2;U-3;U-4;U-5;E-2;E-3;E-4;E-5;E-6;O-1;O-2;O-3;KA-1;KA-2;KA-3;KA-4;KA-5;
KA-6;KA-7;KA-8;KA-9;KA-10;KA-11;KA-KE;KI-1;KI-2;KI-3;KI-4;KI-5;KI-6;KI-7;KI-8;KU-1;KU-2;KU-3;KU-4;
KU-5;KU-6;KU-7;KE-1;KE-2;KE-3;KE-4;KE-5;KE-6;KO-1;KO-2;KO-3;KO-KI;SA-1;SA-2;SA-3;SA-4;SA-5;SA-6;
SA-7;SA-8;SI-1;SI-2;SI-3;SI-4;SI-5;SI-6;SU-1;SU-2;SU-3;SU-4;SU-5;SU-6;SU-7;SU-8;SE-1;SE-2;SE-3;
SE-4;SE-5;SO-1;SO-2;SO-3;SO-4;SO-5;SO-6;SO-7;TA-1;TA-2;TA-3;TA-4;TI-1;TI-2;TI-3;TI-4;TI-5;TI-6;
TI-7;TU-1;TU-2;TU-3;TU-4;TU-TO;TE-1;TE-2;TE-3;TE-4;TE-5;TE-6;TE-7;TE-8;TE-9;TO-1;TO-2;TO-3;TO-4;
TO-5;TO-6;TO-RA;NA-1;NA-2;NA-3;NA-4;NA-5;NA-6;NA-7;NA-8;NA-9;NI-1;NI-2;NI-3;NI-4;NI-5;NI-6;NI-7;
NI-TE;NU-1;NU-2;NU-3;NE-1;NE-2;NE-3;NE-4;NE-5;NE-6;NE-KO;NO-1;NO-2;NO-3;NO-4;NO-5;HA-1;HA-2;HA-3;
HA-4;HA-5;HA-6;HA-7;HA-8;HA-9;HA-10;HA-11;HI-1;HI-2;HI-3;HI-4;HI-5;HI-6;HI-7;HU-1;HU-2;HU-3;HE-1;
HE-2;HE-3;HE-4;HE-5;HE-6;HE-7;HO-1;HO-2;HO-3;HO-4;HO-5;HO-6;HO-7;HO-8;MA-1;MA-2;MA-3;MA-4;MA-5;
MA-6;MA-7;MI-1;MI-2;MI-3;MI-4;MI-5;MI-6;MI-7;MU-1;MU-2;MU-3;MU-4;ME-1;ME-2;ME-MA;MO-1;MO-2;MO-3;
MO-4;MO-5;MO-6;YA-1;YA-2;YA-3;YA-4;YA-5;YA-YO;YU-1;YU-2;YU-3;YU-4;YO-1;YO-2;YO-3;YO-4;YO-5;YO-6;
RA-1;RA-2;RA-3;RA-4;RI-1;RI-2;RI-3;RI-4;RI-5;RI-6;RI-7;RU-1;RU-2;RU-3;RU-4;RU-5;RU-6;RE-1;RE-2;
RE-3;RE-4;RO-1;RO-2;RO-3;RO-4;RO-5;RO-6;WA-1;WA-2;WA-3;WA-4;WA-5;WI-1;WI-2;WI-3;WI-4;WI-5;WE-1;
WE-2;WE-3;WE-4;WO-1;WO-2;WO-3;WO-4;WO-5;WO-6;WO-7;N-MU-MO-1;N-MU-MO-2.1B11F=:
HIRAGANA LETTER ARCHAIC WU.1B120=KATAKANA LETTER ARCHAIC :YI;YE;WU.1B150=HIRAGANA LETTER SMALL :WI;
WE;WO.1B164=KATAKANA LETTER SMALL :WI;WE;WO;N.1B170=NUSHU CHARACTER-:1B170;1B171;1B172;1B173;1B174;
1B175;1B176;1B177;1B178;1B179;1B17A;1B17B;1B17C;1B17D;1B17E;1B17F;1B180;1B181;1B182;1B183;1B184;
1B185;1B186;1B187;1B188;1B189;1B18A;1B18B;1B18C;1B18D;1B18E;1B18F;1B190;1B191;1B192;1B193;1B194;
1B195;1B196;1B197;1B198;1B199;1B19A;1B19B;1B19C;1B19D;1B19E;1B19F;1B1A0;1B1A1;1B1A2;1B1A3;1B1A4;
1B1A5;1B1A6;1B1A7;1B1A8;1B1A9;1B1AA;1B1AB;1B1AC;1B1AD;1B1AE;1B1AF;1B1B0;1B1B1;1B1B2;1B1B3;1B1B4;
1B1B5;1B1B6;1B1B7;1B1B8;1B1B9;1B1BA;1B1BB;1B1BC;1B1BD;1B1BE;1B1BF;1B1C0;1B1C1;1B1C2;1B1C3;1B1C4;
1B1C5;1B1C6;1B1C7;1B1C8;1B1C9;1B1CA;1B1CB;1B1CC;1B1CD;1B1CE;1B1CF;1B1D0;1B1D1;1B1D2;1B1D3;1B1D4;
1B1D5;1B1D6;1B1D7;1B1D8;1B1D9;1B1DA;1B1DB;1B1DC;1B1DD;1B1DE;1B1DF;1B1E0;1B1E1;1B1E2;1B1E3;1B1E4;
1B1E5;1B1E6;1B1E7;1B1E8;1B1E9;1B1EA;1B1EB;1B1EC;1B1ED;1B1EE;1B1EF;1B1F0;1B1F1;1B1F2;1B1F3;1B1F4;
1B1F5;1B1F6;1B1F7;1B1F8;1B1F9;1B1FA;1B1FB;1B1FC;1B1FD;1B1FE;1B1FF;1B200;1B201;1B202;1B203;1B204;
1B205;1B206;1B207;1B208;1B209;1B20A;1B20B;1B20C;1B20D;1B20E;1B20F;1B210;1B211;1B212;1B213;1B214;
1B215;1B216;1B217;1B218;1B219;1B21A;1B21B;1B21C;1B21D;1B21E;1B21F;1B220;1B221;1B222;1B223;1B224;
1B225;1B226;1B227;1B228;1B229;1B22A;1B22B;1B22C;1B22D;1B22E;1B22F;1B230;1B231;1B232;1B233;1B234;
1B235;1B236;1B237;1B238;1B239;1B23A;1B23B;1B23C;1B23D;1B23E;1B23F;1B240;1B241;1B242;1B243;1B244;
1B245;1B246;1B247;1B248;1B249;1B24A;1B24B;1B24C;1B24D;1B24E;1B24F;1B250;1B251;1B252;1B253;1B254;
1B255;1B256;1B257;1B258;1B259;1B25A;1B25B;1B25C;1B25D;1B25E;1B25F;1B260;1B261;1B262;1B263;1B264;
1B265;1B266;1B267;1B268;1B269;1B26A;1B26B;1B26C;1B26D;1B26E;1B26F;1B270;1B271;1B272;1B273;1B274;
1B275;1B276;1B277;1B278;1B279;1B27A;1B27B;1B27C;1B27D;1B27E;1B27F;1B280;1B281;1B282;1B283;1B284;
1B285;1B286;1B287;1B288;1B289;1B28A;1B28B;1B28C;1B28D;1B28E;1B28F;1B290;1B291;1B292;1B293;1B294;
1B295;1B296;1B297;1B298;1B299;1B29A;1B29B;1B29C;1B29D;1B29E;1B29F;1B2A0;1B2A1;1B2A2;1B2A3;1B2A4;
1B2A5;1B2A6;1B2A7;1B2A8;1B2A9;1B2AA;1B2AB;1B2AC;1B2AD;1B2AE;1B2AF;1B2B0;1B2B1;1B2B2;1B2B3;1B2B4;
1B2B5;1B2B6;1B2B7;1B2B8;1B2B9;1B2BA;1B2BB;1B2BC;1B2BD;1B2BE;1B2BF;1B2C0;1B2C1;1B2C2;1B2C3;1B2C4;
1B2C5;1B2C6;1B2C7;1B2C8;1B2C9;1B2CA;1B2CB;1B2CC;1B2CD;1B2CE;1B2CF;1B2D0;1B2D1;1B2D2;1B2D3;1B2D4;
1B2D5;1B2D6;1B2D7;1B2D8;1B2D9;1B2DA;1B2DB;1B2DC;1B2DD;1B2DE;1B2DF;1B2E0;1B2E1;1B2E2;1B2E3;1B2E4;
1B2E5;1B2E6;1B2E7;1B2E8;1B2E9;1B2EA;1B2EB;1B2EC;1B2ED;1B2EE;1B2EF;1B2F0;1B2F1;1B2F2;1B2F3;1B2F4;
1B2F5;1B2F6;1B2F7;1B2F8;1B2F9;1B2FA;1B2FB.1BC00=DUPLOYAN LETTER :H;X;P;T;F;K;L;B;D;V;G;R;P N;D S;
F N;K M;R S;TH;SLOAN DH;DH;KK;SLOAN J;HL;LH;RH;M;N;J;S;M N;N M;J M;S J;M WITH DOT;N WITH DOT;
J WITH DOT;J WITH DOTS INSIDE AND ABOVE;S WITH DOT;S WITH DOT BELOW;M S;N S;J S;S S;M N S;N M S;
J M S;S J S;J S WITH DOT;J N;J N S;S T;S T R;S P;S P R;T S;T R S;W;WH;W R;S N;S M;K R S;G R S;S K;
S K R;A;SLOAN OW;OA;O;AOU;I;E;IE;SHORT I;UI;EE;SLOAN EH;ROMANIAN I;SLOAN EE;LONG I;YE;U;EU;XW;U N;
LONG U;ROMANIAN U;UH;SLOAN U;OOH;OW;OU;WA;WO;WI;WEI;WOW;NASAL U;NASAL O;NASAL I;NASAL A;PERNIN AN;
PERNIN AM;SLOAN EN;SLOAN AN;SLOAN ON;VOCALIC M.1BC70=DUPLOYAN AFFIX :LEFT HORIZONTAL SECANT;
MID HORIZONTAL SECANT;RIGHT HORIZONTAL SECANT;LOW VERTICAL SECANT;MID VERTICAL SECANT;
HIGH VERTICAL SECANT;ATTACHED SECANT;ATTACHED LEFT-TO-RIGHT SECANT;ATTACHED TANGENT;ATTACHED TAIL;
ATTACHED E HOOK;ATTACHED I HOOK;ATTACHED TANGENT HOOK.1BC80=DUPLOYAN AFFIX HIGH :ACUTE;TIGHT ACUTE;
GRAVE;LONG GRAVE;DOT;CIRCLE;LINE;WAVE;VERTICAL.1BC90=DUPLOYAN AFFIX LOW :ACUTE;TIGHT ACUTE;GRAVE;
LONG GRAVE;DOT;CIRCLE;LINE;WAVE;VERTICAL;ARROW.1BC9C=DUPLOYAN :SIGN O WITH CROSS;
THICK LETTER SELECTOR;DOUBLE MARK;PUNCTUATION CHINOOK FULL STOP.1BCA0=SHORTHAND FORMAT :
LETTER OVERLAP;CONTINUING OVERLAP;DOWN STEP;UP STEP.1CF00=ZNAMENNY COMBINING MARK :
GORAZDO NIZKO S KRYZHEM ON LEFT;NIZKO S KRYZHEM ON LEFT;TSATA ON LEFT;GORAZDO NIZKO ON LEFT;
NIZKO ON LEFT;SREDNE ON LEFT;MALO POVYSHE ON LEFT;POVYSHE ON LEFT;VYSOKO ON LEFT;
MALO POVYSHE S KHOKHLOM ON LEFT;POVYSHE S KHOKHLOM ON LEFT;VYSOKO S KHOKHLOM ON LEFT;
GORAZDO NIZKO S KRYZHEM ON RIGHT;NIZKO S KRYZHEM ON RIGHT;TSATA ON RIGHT;GORAZDO NIZKO ON RIGHT;
NIZKO ON RIGHT;SREDNE ON RIGHT;MALO POVYSHE ON RIGHT;POVYSHE ON RIGHT;VYSOKO ON RIGHT;
MALO POVYSHE S KHOKHLOM ON RIGHT;POVYSHE S KHOKHLOM ON RIGHT;VYSOKO S KHOKHLOM ON RIGHT;
TSATA S KRYZHEM;MALO POVYSHE S KRYZHEM;STRANNO MALO POVYSHE;POVYSHE S KRYZHEM;POVYSHE STRANNO;
VYSOKO S KRYZHEM;MALO POVYSHE STRANNO;GORAZDO VYSOKO;ZELO;ON;RAVNO;TIKHAYA;BORZAYA;UDARKA;
PODVERTKA;LOMKA;KUPNAYA;KACHKA;ZEVOK;SKOBA;RAZSEKA;KRYZH ON LEFT.1CF30=ZNAMENNY COMBINING :
TONAL RANGE MARK MRACHNO;TONAL RANGE MARK SVETLO;TONAL RANGE MARK TRESVETLO;MARK ZADERZHKA;
MARK DEMESTVENNY ZADERZHKA;MARK OTSECHKA;MARK PODCHASHIE;MARK PODCHASHIE WITH VERTICAL STROKE;
MARK CHASHKA;MARK CHASHKA POLNAYA;MARK OBLACHKO;MARK SOROCHYA NOZHKA;MARK TOCHKA;MARK DVOETOCHIE;
ATTACHING VERTICAL OMET;MARK CURVED OMET;MARK KRYZH;LOWER TONAL RANGE INDICATOR.
1CF42=ZNAMENNY PRIZNAK MODIFIER :LEVEL-2;LEVEL-3;DIRECTION FLIP;KRYZH;ROG.1CF50=ZNAMENNY NEUME :
KRYUK;KRYUK TIKHY;PARAKLIT;DVA V CHELNU;KLYUCH;ZANOZHEK;STOPITSA;STOPITSA S OCHKOM;PEREVODKA;
PEREVODKA NEPOSTOYANNAYA;STOPITSA WITH SOROCHYA NOZHKA;CHELYUSTKA;PALKA;ZAPYATAYA;GOLUBCHIK BORZY;
GOLUBCHIK TIKHY;GOLUBCHIK MRACHNY;GOLUBCHIK SVETLY;GOLUBCHIK TRESVETLY;VRAKHIYA PROSTAYA;
VRAKHIYA MRACHNAYA;VRAKHIYA SVETLAYA;VRAKHIYA TRESVETLAYA;VRAKHIYA KLYUCHEVAYA PROSTAYA;
VRAKHIYA KLYUCHEVAYA MRACHNAYA;VRAKHIYA KLYUCHEVAYA SVETLAYA;VRAKHIYA KLYUCHEVAYA TRESVETLAYA;
DOUBLE ZAPYATAYA;REVERSED CHELYUSTKA;DERBITSA;KHAMILO;CHASHKA;PODCHASHIE;SKAMEYTSA MRACHNAYA;
SKAMEYTSA SVETLAYA;SKAMEYTSA TRESVETLAYA;SKAMEYTSA TIKHAYA;DEMESTVENNY KLYUCH;
SKAMEYTSA KLYUCHEVAYA SVETLAYA;SKAMEYTSA KLYUCHENEPOSTOYANNAYA;SKAMEYTSA KLYUCHEVAYA TIKHAYA;
SKAMEYTSA DVOECHELNAYA PROSTAYA;SKAMEYTSA DVOECHELNAYA SVETLAYA;
SKAMEYTSA DVOECHELNAYA NEPOSTOYANNAYA;SKAMEYTSA DVOECHELNAYA KLYUCHEVAYA;SLOZHITIE;
SLOZHITIE S ZAPYATOY;SLOZHITIE ZAKRYTOE;SLOZHITIE S KRYZHEM;KRYZH;ROG;FITA;KOBYLA;ZMEYTSA;STATYA;
STATYA S ZAPYATOY;STATYA S KRYZHEM;STATYA S ZAPYATOY I KRYZHEM;STATYA S KRYZHEM I ZAPYATOY;
STATYA ZAKRYTAYA;STATYA ZAKRYTAYA S ZAPYATOY;STATYA S ROGOM;STATYA S DVUMYA ZAPYATYMI;
STATYA S ZAPYATOY I PODCHASHIEM;POLKULIZMY;STATYA NEPOSTOYANNAYA;STRELA PROSTAYA;
STRELA MRACHNOTIKHAYA;STRELA KRYZHEVAYA;STRELA POLUPOVODNAYA;STRELA POVODNAYA;
STRELA NEPOSTOYANNAYA;STRELA KLYUCHEPOVODNAYA;STRELA KLYUCHENEPOSTOYANNAYA;STRELA TIKHAYA PUTNAYA;
STRELA DVOECHELNAYA;STRELA DVOECHELNOKRYZHEVAYA;STRELA DVOECHELNOPOVODNAYA;
STRELA DVOECHELNAYA KLYUCHEVAYA;STRELA DVOECHELNOPOVODNAYA KLYUCHEVAYA;
STRELA GROMNAYA WITH SINGLE ZAPYATAYA;STRELA GROMOPOVODNAYA WITH SINGLE ZAPYATAYA;STRELA GROMNAYA;
STRELA GROMOPOVODNAYA;STRELA GROMOPOVODNAYA WITH DOUBLE ZAPYATAYA;STRELA GROMOKRYZHEVAYA;
STRELA GROMOKRYZHEVAYA POVODNAYA;MECHIK;MECHIK POVODNY;MECHIK KLYUCHEVOY;MECHIK KLYUCHEPOVODNY;
MECHIK KLYUCHENEPOSTOYANNY;STRELA TRYASOGLASNAYA;STRELA TRYASOPOVODNAYA;STRELA TRYASOSTRELNAYA;
OSOKA;OSOKA SVETLAYA;OSOKA TRESVETLAYA;OSOKA KRYUKOVAYA SVETLAYA;OSOKA KLYUCHEVAYA SVETLAYA;
OSOKA KLYUCHEVAYA NEPOSTOYANNAYA;STRELA KRYUKOVAYA;STRELA KRYUKOVAYA POVODNAYA;
STRELA KRYUKOVAYA GROMNAYA WITH SINGLE ZAPYATAYA;
STRELA KRYUKOVAYA GROMOPOVODNAYA WITH SINGLE ZAPYATAYA;STRELA KRYUKOVAYA GROMNAYA;
STRELA KRYUKOVAYA GROMOPOVODNAYA;STRELA KRYUKOVAYA GROMOPOVODNAYA WITH DOUBLE ZAPYATAYA;
STRELA KRYUKOVAYA GROMOKRYZHEVAYA;STRELA KRYUKOVAYA GROMOKRYZHEVAYA POVODNAYA;
STRELA KRYUKOVAYA TRYASKA;KUFISMA;OBLAKO;DUDA;NEMKA;PAUK.1D000=BYZANTINE MUSICAL SYMBOL :PSILI;
DASEIA;PERISPOMENI;OXEIA EKFONITIKON;OXEIA DIPLI;VAREIA EKFONITIKON;VAREIA DIPLI;KATHISTI;
SYRMATIKI;PARAKLITIKI;YPOKRISIS;YPOKRISIS DIPLI;KREMASTI;APESO EKFONITIKON;EXO EKFONITIKON;TELEIA;
KENTIMATA;APOSTROFOS;APOSTROFOS DIPLI;SYNEVMA;THITA;OLIGON ARCHAION;GORGON ARCHAION;PSILON;
CHAMILON;VATHY;ISON ARCHAION;KENTIMA ARCHAION;KENTIMATA ARCHAION;SAXIMATA;PARICHON;
STAVROS APODEXIA;OXEIAI ARCHAION;VAREIAI ARCHAION;APODERMA ARCHAION;APOTHEMA;KLASMA;REVMA;
PIASMA ARCHAION;TINAGMA;ANATRICHISMA;SEISMA;SYNAGMA ARCHAION;SYNAGMA META STAVROU;
OYRANISMA ARCHAION;THEMA;LEMOI;DYO;TRIA;TESSERA;KRATIMATA;APESO EXO NEO;FTHORA ARCHAION;IMIFTHORA;
TROMIKON ARCHAION;KATAVA TROMIKON;PELASTON;PSIFISTON;KONTEVMA;CHOREVMA ARCHAION;RAPISMA;
PARAKALESMA ARCHAION;PARAKLITIKI ARCHAION;ICHADIN;NANA;PETASMA;KONTEVMA ALLO;TROMIKON ALLO;
STRAGGISMATA;GRONTHISMATA;ISON NEO;OLIGON NEO;OXEIA NEO;PETASTI;KOUFISMA;PETASTOKOUFISMA;
KRATIMOKOUFISMA;PELASTON NEO;KENTIMATA NEO ANO;KENTIMA NEO ANO;YPSILI;APOSTROFOS NEO;
APOSTROFOI SYNDESMOS NEO;YPORROI;KRATIMOYPORROON;ELAFRON;CHAMILI;MIKRON ISON;VAREIA NEO;PIASMA NEO;
PSIFISTON NEO;OMALON;ANTIKENOMA;LYGISMA;PARAKLITIKI NEO;PARAKALESMA NEO;ETERON PARAKALESMA;KYLISMA;
ANTIKENOKYLISMA;TROMIKON NEO;EKSTREPTON;SYNAGMA NEO;SYRMA;CHOREVMA NEO;EPEGERMA;SEISMA NEO;
XIRON KLASMA;TROMIKOPSIFISTON;PSIFISTOLYGISMA;TROMIKOLYGISMA;TROMIKOPARAKALESMA;
PSIFISTOPARAKALESMA;TROMIKOSYNAGMA;PSIFISTOSYNAGMA;GORGOSYNTHETON;ARGOSYNTHETON;
ETERON ARGOSYNTHETON;OYRANISMA NEO;THEMATISMOS ESO;THEMATISMOS EXO;THEMA APLOUN;THES KAI APOTHES;
KATAVASMA;ENDOFONON;YFEN KATO;YFEN ANO;STAVROS;KLASMA ANO;DIPLI ARCHAION;KRATIMA ARCHAION;
KRATIMA ALLO;KRATIMA NEO;APODERMA NEO;APLI;DIPLI;TRIPLI;TETRAPLI;KORONIS;LEIMMA ENOS CHRONOU;
LEIMMA DYO CHRONON;LEIMMA TRION CHRONON;LEIMMA TESSARON CHRONON;LEIMMA IMISEOS CHRONOU;
GORGON NEO ANO;GORGON PARESTIGMENON ARISTERA;GORGON PARESTIGMENON DEXIA;DIGORGON;
DIGORGON PARESTIGMENON ARISTERA KATO;DIGORGON PARESTIGMENON ARISTERA ANO;
DIGORGON PARESTIGMENON DEXIA;TRIGORGON;ARGON;IMIDIARGON;DIARGON;AGOGI POLI ARGI;AGOGI ARGOTERI;
AGOGI ARGI;AGOGI METRIA;AGOGI MESI;AGOGI GORGI;AGOGI GORGOTERI;AGOGI POLI GORGI;
MARTYRIA PROTOS ICHOS;MARTYRIA ALLI PROTOS ICHOS;MARTYRIA DEYTEROS ICHOS;
MARTYRIA ALLI DEYTEROS ICHOS;MARTYRIA TRITOS ICHOS;MARTYRIA TRIFONIAS;MARTYRIA TETARTOS ICHOS;
MARTYRIA TETARTOS LEGETOS ICHOS;MARTYRIA LEGETOS ICHOS;MARTYRIA PLAGIOS ICHOS;
ISAKIA TELOUS ICHIMATOS;APOSTROFOI TELOUS ICHIMATOS;FANEROSIS TETRAFONIAS;FANEROSIS MONOFONIAS;
FANEROSIS DIFONIAS;MARTYRIA VARYS ICHOS;MARTYRIA PROTOVARYS ICHOS;MARTYRIA PLAGIOS TETARTOS ICHOS;
GORTHMIKON N APLOUN;GORTHMIKON N DIPLOUN;ENARXIS KAI FTHORA VOU;IMIFONON;IMIFTHORON;
FTHORA ARCHAION DEYTEROU ICHOU;FTHORA DIATONIKI PA;FTHORA DIATONIKI NANA;FTHORA NAOS ICHOS;
FTHORA DIATONIKI DI;FTHORA SKLIRON DIATONON DI;FTHORA DIATONIKI KE;FTHORA DIATONIKI ZO;
FTHORA DIATONIKI NI KATO;FTHORA DIATONIKI NI ANO;FTHORA MALAKON CHROMA DIFONIAS;
FTHORA MALAKON CHROMA MONOFONIAS;FHTORA SKLIRON CHROMA VASIS;FTHORA SKLIRON CHROMA SYNAFI;
FTHORA NENANO;CHROA ZYGOS;CHROA KLITON;CHROA SPATHI;FTHORA I YFESIS TETARTIMORION;
FTHORA ENARMONIOS ANTIFONIA;YFESIS TRITIMORION;DIESIS TRITIMORION;DIESIS TETARTIMORION;
DIESIS APLI DYO DODEKATA;DIESIS MONOGRAMMOS TESSERA DODEKATA;DIESIS DIGRAMMOS EX DODEKATA;
DIESIS TRIGRAMMOS OKTO DODEKATA;YFESIS APLI DYO DODEKATA;YFESIS MONOGRAMMOS TESSERA DODEKATA;
YFESIS DIGRAMMOS EX DODEKATA;YFESIS TRIGRAMMOS OKTO DODEKATA;GENIKI DIESIS;GENIKI YFESIS;
DIASTOLI APLI MIKRI;DIASTOLI APLI MEGALI;DIASTOLI DIPLI;DIASTOLI THESEOS;SIMANSIS THESEOS;
SIMANSIS THESEOS DISIMOU;SIMANSIS THESEOS TRISIMOU;SIMANSIS THESEOS TETRASIMOU;SIMANSIS ARSEOS;
SIMANSIS ARSEOS DISIMOU;SIMANSIS ARSEOS TRISIMOU;SIMANSIS ARSEOS TETRASIMOU;DIGRAMMA GG;
DIFTOGGOS OU;STIGMA;ARKTIKO PA;ARKTIKO VOU;ARKTIKO GA;ARKTIKO DI;ARKTIKO KE;ARKTIKO ZO;ARKTIKO NI;
KENTIMATA NEO MESO;KENTIMA NEO MESO;KENTIMATA NEO KATO;KENTIMA NEO KATO;KLASMA KATO;
GORGON NEO KATO.1D100=MUSICAL SYMBOL :SINGLE BARLINE;DOUBLE BARLINE;FINAL BARLINE;
REVERSE FINAL BARLINE;DASHED BARLINE;SHORT BARLINE;LEFT REPEAT SIGN;RIGHT REPEAT SIGN;REPEAT DOTS;
DAL SEGNO;DA CAPO;SEGNO;CODA;REPEATED FIGURE-1;REPEATED FIGURE-2;REPEATED FIGURE-3;FERMATA;
FERMATA BELOW;BREATH MARK;CAESURA;BRACE;BRACKET;ONE-LINE STAFF;TWO-LINE STAFF;THREE-LINE STAFF;
FOUR-LINE STAFF;FIVE-LINE STAFF;SIX-LINE STAFF;SIX-STRING FRETBOARD;FOUR-STRING FRETBOARD;G CLEF;
G CLEF OTTAVA ALTA;G CLEF OTTAVA BASSA;C CLEF;F CLEF;F CLEF OTTAVA ALTA;F CLEF OTTAVA BASSA;
DRUM CLEF-1;DRUM CLEF-2.1D129=MUSICAL SYMBOL :MULTIPLE MEASURE REST;DOUBLE SHARP;DOUBLE FLAT;
FLAT UP;FLAT DOWN;NATURAL UP;NATURAL DOWN;SHARP UP;SHARP DOWN;QUARTER TONE SHARP;QUARTER TONE FLAT;
COMMON TIME;CUT TIME;OTTAVA ALTA;OTTAVA BASSA;QUINDICESIMA ALTA;QUINDICESIMA BASSA;MULTI REST;
WHOLE REST;HALF REST;QUARTER REST;EIGHTH REST;SIXTEENTH REST;THIRTY-SECOND REST;SIXTY-FOURTH REST;
ONE HUNDRED TWENTY-EIGHTH REST;X NOTEHEAD;PLUS NOTEHEAD;CIRCLE X NOTEHEAD;SQUARE NOTEHEAD WHITE;
SQUARE NOTEHEAD BLACK;TRIANGLE NOTEHEAD UP WHITE;TRIANGLE NOTEHEAD UP BLACK;
TRIANGLE NOTEHEAD LEFT WHITE;TRIANGLE NOTEHEAD LEFT BLACK;TRIANGLE NOTEHEAD RIGHT WHITE;
TRIANGLE NOTEHEAD RIGHT BLACK;TRIANGLE NOTEHEAD DOWN WHITE;TRIANGLE NOTEHEAD DOWN BLACK;
TRIANGLE NOTEHEAD UP RIGHT WHITE;TRIANGLE NOTEHEAD UP RIGHT BLACK;MOON NOTEHEAD WHITE;
MOON NOTEHEAD BLACK;TRIANGLE-ROUND NOTEHEAD DOWN WHITE;TRIANGLE-ROUND NOTEHEAD DOWN BLACK;
PARENTHESIS NOTEHEAD;VOID NOTEHEAD;NOTEHEAD BLACK;NULL NOTEHEAD;CLUSTER NOTEHEAD WHITE;
CLUSTER NOTEHEAD BLACK;BREVE;WHOLE NOTE;HALF NOTE;QUARTER NOTE;EIGHTH NOTE;SIXTEENTH NOTE;
THIRTY-SECOND NOTE;SIXTY-FOURTH NOTE;ONE HUNDRED TWENTY-EIGHTH NOTE;COMBINING STEM;
COMBINING SPRECHGESANG STEM;COMBINING TREMOLO-1;COMBINING TREMOLO-2;COMBINING TREMOLO-3;
FINGERED TREMOLO-1;FINGERED TREMOLO-2;FINGERED TREMOLO-3;COMBINING AUGMENTATION DOT;
COMBINING FLAG-1;COMBINING FLAG-2;COMBINING FLAG-3;COMBINING FLAG-4;COMBINING FLAG-5;BEGIN BEAM;
END BEAM;BEGIN TIE;END TIE;BEGIN SLUR;END SLUR;BEGIN PHRASE;END PHRASE;COMBINING ACCENT;
COMBINING STACCATO;COMBINING TENUTO;COMBINING STACCATISSIMO;COMBINING MARCATO;
COMBINING MARCATO-STACCATO;COMBINING ACCENT-STACCATO;COMBINING LOURE;ARPEGGIATO UP;ARPEGGIATO DOWN;
COMBINING DOIT;COMBINING RIP;COMBINING FLIP;COMBINING SMEAR;COMBINING BEND;COMBINING DOUBLE TONGUE;
COMBINING TRIPLE TONGUE;RINFORZANDO;SUBITO;Z;PIANO;MEZZO;FORTE;CRESCENDO;DECRESCENDO;
GRACE NOTE SLASH;GRACE NOTE NO SLASH;TR;TURN;INVERTED TURN;TURN SLASH;TURN UP;ORNAMENT STROKE-1;
ORNAMENT STROKE-2;ORNAMENT STROKE-3;ORNAMENT STROKE-4;ORNAMENT STROKE-5;ORNAMENT STROKE-6;
ORNAMENT STROKE-7;ORNAMENT STROKE-8;ORNAMENT STROKE-9;ORNAMENT STROKE-10;ORNAMENT STROKE-11;
HAUPTSTIMME;NEBENSTIMME;END OF STIMME;DEGREE SLASH;COMBINING DOWN BOW;COMBINING UP BOW;
COMBINING HARMONIC;COMBINING SNAP PIZZICATO;PEDAL MARK;PEDAL UP MARK;HALF PEDAL MARK;GLISSANDO UP;
GLISSANDO DOWN;WITH FINGERNAILS;DAMP;DAMP ALL;MAXIMA;LONGA;BREVIS;SEMIBREVIS WHITE;
SEMIBREVIS BLACK;MINIMA;MINIMA BLACK;SEMIMINIMA WHITE;SEMIMINIMA BLACK;FUSA WHITE;FUSA BLACK;
LONGA PERFECTA REST;LONGA IMPERFECTA REST;BREVIS REST;SEMIBREVIS REST;MINIMA REST;SEMIMINIMA REST;
TEMPUS PERFECTUM CUM PROLATIONE PERFECTA;TEMPUS PERFECTUM CUM PROLATIONE IMPERFECTA;
TEMPUS PERFECTUM CUM PROLATIONE PERFECTA DIMINUTION-1;TEMPUS IMPERFECTUM CUM PROLATIONE PERFECTA;
TEMPUS IMPERFECTUM CUM PROLATIONE IMPERFECTA;
TEMPUS IMPERFECTUM CUM PROLATIONE IMPERFECTA DIMINUTION-1;
TEMPUS IMPERFECTUM CUM PROLATIONE IMPERFECTA DIMINUTION-2;
TEMPUS IMPERFECTUM CUM PROLATIONE IMPERFECTA DIMINUTION-3;CROIX;GREGORIAN C CLEF;GREGORIAN F CLEF;
SQUARE B;VIRGA;PODATUS;CLIVIS;SCANDICUS;CLIMACUS;TORCULUS;PORRECTUS;PORRECTUS FLEXUS;
SCANDICUS FLEXUS;TORCULUS RESUPINUS;PES SUBPUNCTIS;KIEVAN C CLEF;KIEVAN END OF PIECE;
KIEVAN FINAL NOTE;KIEVAN RECITATIVE MARK;KIEVAN WHOLE NOTE;KIEVAN HALF NOTE;
KIEVAN QUARTER NOTE STEM DOWN;KIEVAN QUARTER NOTE STEM UP;KIEVAN EIGHTH NOTE STEM DOWN;
KIEVAN EIGHTH NOTE STEM UP;KIEVAN FLAT SIGN;SORI;KORON.1D200=GREEK VOCAL NOTATION SYMBOL-:1;2;3;4;
5;6;7;8;9;10;11;12;13;14;15;16;17;18;19;20;21;22;23;24;50;51;52;53;54.
1D21D=GREEK INSTRUMENTAL NOTATION SYMBOL-:1;2;4;5;7;8;11;12;13;14;17;18;19;23;24;25;26;27;29;30;32;
36;37;38;39;40;42;43;45;47;48;49;50;51;52;53;54.1D242=COMBINING GREEK MUSICAL :TRISEME;TETRASEME;
PENTASEME.1D245=:GREEK MUSICAL LEIMMA.1D2E0=MAYAN NUMERAL :ZERO;ONE;TWO;THREE;FOUR;FIVE;SIX;SEVEN;
EIGHT;NINE;TEN;ELEVEN;TWELVE;THIRTEEN;FOURTEEN;FIFTEEN;SIXTEEN;SEVENTEEN;EIGHTEEN;NINETEEN.1D300=:
MONOGRAM FOR EARTH.1D301=DIGRAM FOR :HEAVENLY EARTH;HUMAN EARTH;EARTHLY HEAVEN;EARTHLY HUMAN;EARTH.
1D306=TETRAGRAM FOR :CENTRE;FULL CIRCLE;MIRED;BARRIER;KEEPING SMALL;CONTRARIETY;ASCENT;OPPOSITION;
BRANCHING OUT;DEFECTIVENESS OR DISTORTION;DIVERGENCE;YOUTHFULNESS;INCREASE;PENETRATION;REACH;
CONTACT;HOLDING BACK;WAITING;FOLLOWING;ADVANCE;RELEASE;RESISTANCE;EASE;JOY;CONTENTION;ENDEAVOUR;
DUTIES;CHANGE;DECISIVENESS;BOLD RESOLUTION;PACKING;LEGION;CLOSENESS;KINSHIP;GATHERING;STRENGTH;
PURITY;FULLNESS;RESIDENCE;LAW OR MODEL;RESPONSE;GOING TO MEET;ENCOUNTERS;STOVE;GREATNESS;
ENLARGEMENT;PATTERN;RITUAL;FLIGHT;VASTNESS OR WASTING;CONSTANCY;MEASURE;ETERNITY;UNITY;
DIMINISHMENT;CLOSED MOUTH;GUARDEDNESS;GATHERING IN;MASSING;ACCUMULATION;EMBELLISHMENT;DOUBT;WATCH;
SINKING;INNER;DEPARTURE;DARKENING;DIMMING;EXHAUSTION;SEVERANCE;STOPPAGE;HARDNESS;COMPLETION;
CLOSURE;FAILURE;AGGRAVATION;COMPLIANCE;ON THE VERGE;DIFFICULTIES;LABOURING;FOSTERING.
1D360=COUNTING ROD :UNIT DIGIT ONE;UNIT DIGIT TWO;UNIT DIGIT THREE;UNIT DIGIT FOUR;UNIT DIGIT FIVE;
UNIT DIGIT SIX;UNIT DIGIT SEVEN;UNIT DIGIT EIGHT;UNIT DIGIT NINE;TENS DIGIT ONE;TENS DIGIT TWO;
TENS DIGIT THREE;TENS DIGIT FOUR;TENS DIGIT FIVE;TENS DIGIT SIX;TENS DIGIT SEVEN;TENS DIGIT EIGHT;
TENS DIGIT NINE.1D372=IDEOGRAPHIC TALLY MARK :ONE;TWO;THREE;FOUR;FIVE.1D377=TALLY MARK :ONE;FIVE.
1D400=MATHEMATICAL :BOLD CAPITAL A;BOLD CAPITAL B;BOLD CAPITAL C;BOLD CAPITAL D;BOLD CAPITAL E;
BOLD CAPITAL F;BOLD CAPITAL G;BOLD CAPITAL H;BOLD CAPITAL I;BOLD CAPITAL J;BOLD CAPITAL K;
BOLD CAPITAL L;BOLD CAPITAL M;BOLD CAPITAL N;BOLD CAPITAL O;BOLD CAPITAL P;BOLD CAPITAL Q;
BOLD CAPITAL R;BOLD CAPITAL S;BOLD CAPITAL T;BOLD CAPITAL U;BOLD CAPITAL V;BOLD CAPITAL W;
BOLD CAPITAL X;BOLD CAPITAL Y;BOLD CAPITAL Z;BOLD SMALL A;BOLD SMALL B;BOLD SMALL C;BOLD SMALL D;
BOLD SMALL E;BOLD SMALL F;BOLD SMALL G;BOLD SMALL H;BOLD SMALL I;BOLD SMALL J;BOLD SMALL K;
BOLD SMALL L;BOLD SMALL M;BOLD SMALL N;BOLD SMALL O;BOLD SMALL P;BOLD SMALL Q;BOLD SMALL R;
BOLD SMALL S;BOLD SMALL T;BOLD SMALL U;BOLD SMALL V;BOLD SMALL W;BOLD SMALL X;BOLD SMALL Y;
BOLD SMALL Z;ITALIC CAPITAL A;ITALIC CAPITAL B;ITALIC CAPITAL C;ITALIC CAPITAL D;ITALIC CAPITAL E;
ITALIC CAPITAL F;ITALIC CAPITAL G;ITALIC CAPITAL H;ITALIC CAPITAL I;ITALIC CAPITAL J;
ITALIC CAPITAL K;ITALIC CAPITAL L;ITALIC CAPITAL M;ITALIC CAPITAL N;ITALIC CAPITAL O;
ITALIC CAPITAL P;ITALIC CAPITAL Q;ITALIC CAPITAL R;ITALIC CAPITAL S;ITALIC CAPITAL T;
ITALIC CAPITAL U;ITALIC CAPITAL V;ITALIC CAPITAL W;ITALIC CAPITAL X;ITALIC CAPITAL Y;
ITALIC CAPITAL Z;ITALIC SMALL A;ITALIC SMALL B;ITALIC SMALL C;ITALIC SMALL D;ITALIC SMALL E;
ITALIC SMALL F;ITALIC SMALL G.1D456=MATHEMATICAL :ITALIC SMALL I;ITALIC SMALL J;ITALIC SMALL K;
ITALIC SMALL L;ITALIC SMALL M;ITALIC SMALL N;ITALIC SMALL O;ITALIC SMALL P;ITALIC SMALL Q;
ITALIC SMALL R;ITALIC SMALL S;ITALIC SMALL T;ITALIC SMALL U;ITALIC SMALL V;ITALIC SMALL W;
ITALIC SMALL X;ITALIC SMALL Y;ITALIC SMALL Z;BOLD ITALIC CAPITAL A;BOLD ITALIC CAPITAL B;
BOLD ITALIC CAPITAL C;BOLD ITALIC CAPITAL D;BOLD ITALIC CAPITAL E;BOLD ITALIC CAPITAL F;
BOLD ITALIC CAPITAL G;BOLD ITALIC CAPITAL H;BOLD ITALIC CAPITAL I;BOLD ITALIC CAPITAL J;
BOLD ITALIC CAPITAL K;BOLD ITALIC CAPITAL L;BOLD ITALIC CAPITAL M;BOLD ITALIC CAPITAL N;
BOLD ITALIC CAPITAL O;BOLD ITALIC CAPITAL P;BOLD ITALIC CAPITAL Q;BOLD ITALIC CAPITAL R;
BOLD ITALIC CAPITAL S;BOLD ITALIC CAPITAL T;BOLD ITALIC CAPITAL U;BOLD ITALIC CAPITAL V;
BOLD ITALIC CAPITAL W;BOLD ITALIC CAPITAL X;BOLD ITALIC CAPITAL Y;BOLD ITALIC CAPITAL Z;
BOLD ITALIC SMALL A;BOLD ITALIC SMALL B;BOLD ITALIC SMALL C;BOLD ITALIC SMALL D;
BOLD ITALIC SMALL E;BOLD ITALIC SMALL F;BOLD ITALIC SMALL G;BOLD ITALIC SMALL H;
BOLD ITALIC SMALL I;BOLD ITALIC SMALL J;BOLD ITALIC SMALL K;BOLD ITALIC SMALL L;
BOLD ITALIC SMALL M;BOLD ITALIC SMALL N;BOLD ITALIC SMALL O;BOLD ITALIC SMALL P;
BOLD ITALIC SMALL Q;BOLD ITALIC SMALL R;BOLD ITALIC SMALL S;BOLD ITALIC SMALL T;
BOLD ITALIC SMALL U;BOLD ITALIC SMALL V;BOLD ITALIC SMALL W;BOLD ITALIC SMALL X;
BOLD ITALIC SMALL Y;BOLD ITALIC SMALL Z;SCRIPT CAPITAL A.1D49E=MATHEMATICAL SCRIPT CAPITAL :C;D.
1D4A2=:MATHEMATICAL SCRIPT CAPITAL G.1D4A5=MATHEMATICAL SCRIPT CAPITAL :J;K.
1D4A9=MATHEMATICAL SCRIPT CAPITAL :N;O;P;Q.1D4AE=MATHEMATICAL SCRIPT :CAPITAL S;CAPITAL T;
CAPITAL U;CAPITAL V;CAPITAL W;CAPITAL X;CAPITAL Y;CAPITAL Z;SMALL A;SMALL B;SMALL C;SMALL D.1D4BB=:
MATHEMATICAL SCRIPT SMALL F.1D4BD=MATHEMATICAL SCRIPT SMALL :H;I;J;K;L;M;N.1D4C5=MATHEMATICAL :
SCRIPT SMALL P;SCRIPT SMALL Q;SCRIPT SMALL R;SCRIPT SMALL S;SCRIPT SMALL T;SCRIPT SMALL U;
SCRIPT SMALL V;SCRIPT SMALL W;SCRIPT SMALL X;SCRIPT SMALL Y;SCRIPT SMALL Z;BOLD SCRIPT CAPITAL A;
BOLD SCRIPT CAPITAL B;BOLD SCRIPT CAPITAL C;BOLD SCRIPT CAPITAL D;BOLD SCRIPT CAPITAL E;
BOLD SCRIPT CAPITAL F;BOLD SCRIPT CAPITAL G;BOLD SCRIPT CAPITAL H;BOLD SCRIPT CAPITAL I;
BOLD SCRIPT CAPITAL J;BOLD SCRIPT CAPITAL K;BOLD SCRIPT CAPITAL L;BOLD SCRIPT CAPITAL M;
BOLD SCRIPT CAPITAL N;BOLD SCRIPT CAPITAL O;BOLD SCRIPT CAPITAL P;BOLD SCRIPT CAPITAL Q;
BOLD SCRIPT CAPITAL R;BOLD SCRIPT CAPITAL S;BOLD SCRIPT CAPITAL T;BOLD SCRIPT CAPITAL U;
BOLD SCRIPT CAPITAL V;BOLD SCRIPT CAPITAL W;BOLD SCRIPT CAPITAL X;BOLD SCRIPT CAPITAL Y;
BOLD SCRIPT CAPITAL Z;BOLD SCRIPT SMALL A;BOLD SCRIPT SMALL B;BOLD SCRIPT SMALL C;
BOLD SCRIPT SMALL D;BOLD SCRIPT SMALL E;BOLD SCRIPT SMALL F;BOLD SCRIPT SMALL G;
BOLD SCRIPT SMALL H;BOLD SCRIPT SMALL I;BOLD SCRIPT SMALL J;BOLD SCRIPT SMALL K;
BOLD SCRIPT SMALL L;BOLD SCRIPT SMALL M;BOLD SCRIPT SMALL N;BOLD SCRIPT SMALL O;
BOLD SCRIPT SMALL P;BOLD SCRIPT SMALL Q;BOLD SCRIPT SMALL R;BOLD SCRIPT SMALL S;
BOLD SCRIPT SMALL T;BOLD SCRIPT SMALL U;BOLD SCRIPT SMALL V;BOLD SCRIPT SMALL W;
BOLD SCRIPT SMALL X;BOLD SCRIPT SMALL Y;BOLD SCRIPT SMALL Z;FRAKTUR CAPITAL A;FRAKTUR CAPITAL B.
1D507=MATHEMATICAL FRAKTUR CAPITAL :D;E;F;G.1D50D=MATHEMATICAL FRAKTUR CAPITAL :J;K;L;M;N;O;P;Q.
1D516=MATHEMATICAL FRAKTUR CAPITAL :S;T;U;V;W;X;Y.1D51E=MATHEMATICAL FRAKTUR SMALL :A;B;C;D;E;F;G;
H;I;J;K;L;M;N;O;P;Q;R;S;T;U;V;W;X;Y;Z.1D538=MATHEMATICAL DOUBLE-STRUCK CAPITAL :A;B.
1D53B=MATHEMATICAL DOUBLE-STRUCK CAPITAL :D;E;F;G.1D540=MATHEMATICAL DOUBLE-STRUCK CAPITAL :I;J;K;
L;M.1D546=:MATHEMATICAL DOUBLE-STRUCK CAPITAL O.1D54A=MATHEMATICAL DOUBLE-STRUCK CAPITAL :S;T;U;V;
W;X;Y.1D552=MATHEMATICAL :DOUBLE-STRUCK SMALL A;DOUBLE-STRUCK SMALL B;DOUBLE-STRUCK SMALL C;
DOUBLE-STRUCK SMALL D;DOUBLE-STRUCK SMALL E;DOUBLE-STRUCK SMALL F;DOUBLE-STRUCK SMALL G;
DOUBLE-STRUCK SMALL H;DOUBLE-STRUCK SMALL I;DOUBLE-STRUCK SMALL J;DOUBLE-STRUCK SMALL K;
DOUBLE-STRUCK SMALL L;DOUBLE-STRUCK SMALL M;DOUBLE-STRUCK SMALL N;DOUBLE-STRUCK SMALL O;
DOUBLE-STRUCK SMALL P;DOUBLE-STRUCK SMALL Q;DOUBLE-STRUCK SMALL R;DOUBLE-STRUCK SMALL S;
DOUBLE-STRUCK SMALL T;DOUBLE-STRUCK SMALL U;DOUBLE-STRUCK SMALL V;DOUBLE-STRUCK SMALL W;
DOUBLE-STRUCK SMALL X;DOUBLE-STRUCK SMALL Y;DOUBLE-STRUCK SMALL Z;BOLD FRAKTUR CAPITAL A;
BOLD FRAKTUR CAPITAL B;BOLD FRAKTUR CAPITAL C;BOLD FRAKTUR CAPITAL D;BOLD FRAKTUR CAPITAL E;
BOLD FRAKTUR CAPITAL F;BOLD FRAKTUR CAPITAL G;BOLD FRAKTUR CAPITAL H;BOLD FRAKTUR CAPITAL I;
BOLD FRAKTUR CAPITAL J;BOLD FRAKTUR CAPITAL K;BOLD FRAKTUR CAPITAL L;BOLD FRAKTUR CAPITAL M;
BOLD FRAKTUR CAPITAL N;BOLD FRAKTUR CAPITAL O;BOLD FRAKTUR CAPITAL P;BOLD FRAKTUR CAPITAL Q;
BOLD FRAKTUR CAPITAL R;BOLD FRAKTUR CAPITAL S;BOLD FRAKTUR CAPITAL T;BOLD FRAKTUR CAPITAL U;
BOLD FRAKTUR CAPITAL V;BOLD FRAKTUR CAPITAL W;BOLD FRAKTUR CAPITAL X;BOLD FRAKTUR CAPITAL Y;
BOLD FRAKTUR CAPITAL Z;BOLD FRAKTUR SMALL A;BOLD FRAKTUR SMALL B;BOLD FRAKTUR SMALL C;
BOLD FRAKTUR SMALL D;BOLD FRAKTUR SMALL E;BOLD FRAKTUR SMALL F;BOLD FRAKTUR SMALL G;
BOLD FRAKTUR SMALL H;BOLD FRAKTUR SMALL I;BOLD FRAKTUR SMALL J;BOLD FRAKTUR SMALL K;
BOLD FRAKTUR SMALL L;BOLD FRAKTUR SMALL M;BOLD FRAKTUR SMALL N;BOLD FRAKTUR SMALL O;
BOLD FRAKTUR SMALL P;BOLD FRAKTUR SMALL Q;BOLD FRAKTUR SMALL R;BOLD FRAKTUR SMALL S;
BOLD FRAKTUR SMALL T;BOLD FRAKTUR SMALL U;BOLD FRAKTUR SMALL V;BOLD FRAKTUR SMALL W;
BOLD FRAKTUR SMALL X;BOLD FRAKTUR SMALL Y;BOLD FRAKTUR SMALL Z;SANS-SERIF CAPITAL A;
SANS-SERIF CAPITAL B;SANS-SERIF CAPITAL C;SANS-SERIF CAPITAL D;SANS-SERIF CAPITAL E;
SANS-SERIF CAPITAL F;SANS-SERIF CAPITAL G;SANS-SERIF CAPITAL H;SANS-SERIF CAPITAL I;
SANS-SERIF CAPITAL J;SANS-SERIF CAPITAL K;SANS-SERIF CAPITAL L;SANS-SERIF CAPITAL M;
SANS-SERIF CAPITAL N;SANS-SERIF CAPITAL O;SANS-SERIF CAPITAL P;SANS-SERIF CAPITAL Q;
SANS-SERIF CAPITAL R;SANS-SERIF CAPITAL S;SANS-SERIF CAPITAL T;SANS-SERIF CAPITAL U;
SANS-SERIF CAPITAL V;SANS-SERIF CAPITAL W;SANS-SERIF CAPITAL X;SANS-SERIF CAPITAL Y;
SANS-SERIF CAPITAL Z;SANS-SERIF SMALL A;SANS-SERIF SMALL B;SANS-SERIF SMALL C;SANS-SERIF SMALL D;
SANS-SERIF SMALL E;SANS-SERIF SMALL F;SANS-SERIF SMALL G;SANS-SERIF SMALL H;SANS-SERIF SMALL I;
SANS-SERIF SMALL J;SANS-SERIF SMALL K;SANS-SERIF SMALL L;SANS-SERIF SMALL M;SANS-SERIF SMALL N;
SANS-SERIF SMALL O;SANS-SERIF SMALL P;SANS-SERIF SMALL Q;SANS-SERIF SMALL R;SANS-SERIF SMALL S;
SANS-SERIF SMALL T;SANS-SERIF SMALL U;SANS-SERIF SMALL V;SANS-SERIF SMALL W;SANS-SERIF SMALL X;
SANS-SERIF SMALL Y;SANS-SERIF SMALL Z;SANS-SERIF BOLD CAPITAL A;SANS-SERIF BOLD CAPITAL B;
SANS-SERIF BOLD CAPITAL C;SANS-SERIF BOLD CAPITAL D;SANS-SERIF BOLD CAPITAL E;
SANS-SERIF BOLD CAPITAL F;SANS-SERIF BOLD CAPITAL G;SANS-SERIF BOLD CAPITAL H;
SANS-SERIF BOLD CAPITAL I;SANS-SERIF BOLD CAPITAL J;SANS-SERIF BOLD CAPITAL K;
SANS-SERIF BOLD CAPITAL L;SANS-SERIF BOLD CAPITAL M;SANS-SERIF BOLD CAPITAL N;
SANS-SERIF BOLD CAPITAL O;SANS-SERIF BOLD CAPITAL P;SANS-SERIF BOLD CAPITAL Q;
SANS-SERIF BOLD CAPITAL R;SANS-SERIF BOLD CAPITAL S;SANS-SERIF BOLD CAPITAL T;
SANS-SERIF BOLD CAPITAL U;SANS-SERIF BOLD CAPITAL V;SANS-SERIF BOLD CAPITAL W;
SANS-SERIF BOLD CAPITAL X;SANS-SERIF BOLD CAPITAL Y;SANS-SERIF BOLD CAPITAL Z;
SANS-SERIF BOLD SMALL A;SANS-SERIF BOLD SMALL B;SANS-SERIF BOLD SMALL C;SANS-SERIF BOLD SMALL D;
SANS-SERIF BOLD SMALL E;SANS-SERIF BOLD SMALL F;SANS-SERIF BOLD SMALL G;SANS-SERIF BOLD SMALL H;
SANS-SERIF BOLD SMALL I;SANS-SERIF BOLD SMALL J;SANS-SERIF BOLD SMALL K;SANS-SERIF BOLD SMALL L;
SANS-SERIF BOLD SMALL M;SANS-SERIF BOLD SMALL N;SANS-SERIF BOLD SMALL O;SANS-SERIF BOLD SMALL P;
SANS-SERIF BOLD SMALL Q;SANS-SERIF BOLD SMALL R;SANS-SERIF BOLD SMALL S;SANS-SERIF BOLD SMALL T;
SANS-SERIF BOLD SMALL U;SANS-SERIF BOLD SMALL V;SANS-SERIF BOLD SMALL W;SANS-SERIF BOLD SMALL X;
SANS-SERIF BOLD SMALL Y;SANS-SERIF BOLD SMALL Z;SANS-SERIF ITALIC CAPITAL A;
SANS-SERIF ITALIC CAPITAL B;SANS-SERIF ITALIC CAPITAL C;SANS-SERIF ITALIC CAPITAL D;
SANS-SERIF ITALIC CAPITAL E;SANS-SERIF ITALIC CAPITAL F;SANS-SERIF ITALIC CAPITAL G;
SANS-SERIF ITALIC CAPITAL H;SANS-SERIF ITALIC CAPITAL I;SANS-SERIF ITALIC CAPITAL J;
SANS-SERIF ITALIC CAPITAL K;SANS-SERIF ITALIC CAPITAL L;SANS-SERIF ITALIC CAPITAL M;
SANS-SERIF ITALIC CAPITAL N;SANS-SERIF ITALIC CAPITAL O;SANS-SERIF ITALIC CAPITAL P;
SANS-SERIF ITALIC CAPITAL Q;SANS-SERIF ITALIC CAPITAL R;SANS-SERIF ITALIC CAPITAL S;
SANS-SERIF ITALIC CAPITAL T;SANS-SERIF ITALIC CAPITAL U;SANS-SERIF ITALIC CAPITAL V;
SANS-SERIF ITALIC CAPITAL W;SANS-SERIF ITALIC CAPITAL X;SANS-SERIF ITALIC CAPITAL Y;
SANS-SERIF ITALIC CAPITAL Z;SANS-SERIF ITALIC SMALL A;SANS-SERIF ITALIC SMALL B;
SANS-SERIF ITALIC SMALL C;SANS-SERIF ITALIC SMALL D;SANS-SERIF ITALIC SMALL E;
SANS-SERIF ITALIC SMALL F;SANS-SERIF ITALIC SMALL G;SANS-SERIF ITALIC SMALL H;
SANS-SERIF ITALIC SMALL I;SANS-SERIF ITALIC SMALL J;SANS-SERIF ITALIC SMALL K;
SANS-SERIF ITALIC SMALL L;SANS-SERIF ITALIC SMALL M;SANS-SERIF ITALIC SMALL N;
SANS-SERIF ITALIC SMALL O;SANS-SERIF ITALIC SMALL P;SANS-SERIF ITALIC SMALL Q;
SANS-SERIF ITALIC SMALL R;SANS-SERIF ITALIC SMALL S;SANS-SERIF ITALIC SMALL T;
SANS-SERIF ITALIC SMALL U;SANS-SERIF ITALIC SMALL V;SANS-SERIF ITALIC SMALL W;
SANS-SERIF ITALIC SMALL X;SANS-SERIF ITALIC SMALL Y;SANS-SERIF ITALIC SMALL Z;
SANS-SERIF BOLD ITALIC CAPITAL A;SANS-SERIF BOLD ITALIC CAPITAL B;SANS-SERIF BOLD ITALIC CAPITAL C;
SANS-SERIF BOLD ITALIC CAPITAL D;SANS-SERIF BOLD ITALIC CAPITAL E;SANS-SERIF BOLD ITALIC CAPITAL F;
SANS-SERIF BOLD ITALIC CAPITAL G;SANS-SERIF BOLD ITALIC CAPITAL H;SANS-SERIF BOLD ITALIC CAPITAL I;
SANS-SERIF BOLD ITALIC CAPITAL J;SANS-SERIF BOLD ITALIC CAPITAL K;SANS-SERIF BOLD ITALIC CAPITAL L;
SANS-SERIF BOLD ITALIC CAPITAL M;SANS-SERIF BOLD ITALIC CAPITAL N;SANS-SERIF BOLD ITALIC CAPITAL O;
SANS-SERIF BOLD ITALIC CAPITAL P;SANS-SERIF BOLD ITALIC CAPITAL Q;SANS-SERIF BOLD ITALIC CAPITAL R;
SANS-SERIF BOLD ITALIC CAPITAL S;SANS-SERIF BOLD ITALIC CAPITAL T;SANS-SERIF BOLD ITALIC CAPITAL U;
SANS-SERIF BOLD ITALIC CAPITAL V;SANS-SERIF BOLD ITALIC CAPITAL W;SANS-SERIF BOLD ITALIC CAPITAL X;
SANS-SERIF BOLD ITALIC CAPITAL Y;SANS-SERIF BOLD ITALIC CAPITAL Z;SANS-SERIF BOLD ITALIC SMALL A;
SANS-SERIF BOLD ITALIC SMALL B;SANS-SERIF BOLD ITALIC SMALL C;SANS-SERIF BOLD ITALIC SMALL D;
SANS-SERIF BOLD ITALIC SMALL E;SANS-SERIF BOLD ITALIC SMALL F;SANS-SERIF BOLD ITALIC SMALL G;
SANS-SERIF BOLD ITALIC SMALL H;SANS-SERIF BOLD ITALIC SMALL I;SANS-SERIF BOLD ITALIC SMALL J;
SANS-SERIF BOLD ITALIC SMALL K;SANS-SERIF BOLD ITALIC SMALL L;SANS-SERIF BOLD ITALIC SMALL M;
SANS-SERIF BOLD ITALIC SMALL N;SANS-SERIF BOLD ITALIC SMALL O;SANS-SERIF BOLD ITALIC SMALL P;
SANS-SERIF BOLD ITALIC SMALL Q;SANS-SERIF BOLD ITALIC SMALL R;SANS-SERIF BOLD ITALIC SMALL S;
SANS-SERIF BOLD ITALIC SMALL T;SANS-SERIF BOLD ITALIC SMALL U;SANS-SERIF BOLD ITALIC SMALL V;
SANS-SERIF BOLD ITALIC SMALL W;SANS-SERIF BOLD ITALIC SMALL X;SANS-SERIF BOLD ITALIC SMALL Y;
SANS-SERIF BOLD ITALIC SMALL Z;MONOSPACE CAPITAL A;MONOSPACE CAPITAL B;MONOSPACE CAPITAL C;
MONOSPACE CAPITAL D;MONOSPACE CAPITAL E;MONOSPACE CAPITAL F;MONOSPACE CAPITAL G;
MONOSPACE CAPITAL H;MONOSPACE CAPITAL I;MONOSPACE CAPITAL J;MONOSPACE CAPITAL K;
MONOSPACE CAPITAL L;MONOSPACE CAPITAL M;MONOSPACE CAPITAL N;MONOSPACE CAPITAL O;
MONOSPACE CAPITAL P;MONOSPACE CAPITAL Q;MONOSPACE CAPITAL R;MONOSPACE CAPITAL S;
MONOSPACE CAPITAL T;MONOSPACE CAPITAL U;MONOSPACE CAPITAL V;MONOSPACE CAPITAL W;
MONOSPACE CAPITAL X;MONOSPACE CAPITAL Y;MONOSPACE CAPITAL Z;MONOSPACE SMALL A;MONOSPACE SMALL B;
MONOSPACE SMALL C;MONOSPACE SMALL D;MONOSPACE SMALL E;MONOSPACE SMALL F;MONOSPACE SMALL G;
MONOSPACE SMALL H;MONOSPACE SMALL I;MONOSPACE SMALL J;MONOSPACE SMALL K;MONOSPACE SMALL L;
MONOSPACE SMALL M;MONOSPACE SMALL N;MONOSPACE SMALL O;MONOSPACE SMALL P;MONOSPACE SMALL Q;
MONOSPACE SMALL R;MONOSPACE SMALL S;MONOSPACE SMALL T;MONOSPACE SMALL U;MONOSPACE SMALL V;
MONOSPACE SMALL W;MONOSPACE SMALL X;MONOSPACE SMALL Y;MONOSPACE SMALL Z;ITALIC SMALL DOTLESS I;
ITALIC SMALL DOTLESS J.1D6A8=MATHEMATICAL :BOLD CAPITAL ALPHA;BOLD CAPITAL BETA;BOLD CAPITAL GAMMA;
BOLD CAPITAL DELTA;BOLD CAPITAL EPSILON;BOLD CAPITAL ZETA;BOLD CAPITAL ETA;BOLD CAPITAL THETA;
BOLD CAPITAL IOTA;BOLD CAPITAL KAPPA;BOLD CAPITAL LAMDA;BOLD CAPITAL MU;BOLD CAPITAL NU;
BOLD CAPITAL XI;BOLD CAPITAL OMICRON;BOLD CAPITAL PI;BOLD CAPITAL RHO;BOLD CAPITAL THETA SYMBOL;
BOLD CAPITAL SIGMA;BOLD CAPITAL TAU;BOLD CAPITAL UPSILON;BOLD CAPITAL PHI;BOLD CAPITAL CHI;
BOLD CAPITAL PSI;BOLD CAPITAL OMEGA;BOLD NABLA;BOLD SMALL ALPHA;BOLD SMALL BETA;BOLD SMALL GAMMA;
BOLD SMALL DELTA;BOLD SMALL EPSILON;BOLD SMALL ZETA;BOLD SMALL ETA;BOLD SMALL THETA;
BOLD SMALL IOTA;BOLD SMALL KAPPA;BOLD SMALL LAMDA;BOLD SMALL MU;BOLD SMALL NU;BOLD SMALL XI;
BOLD SMALL OMICRON;BOLD SMALL PI;BOLD SMALL RHO;BOLD SMALL FINAL SIGMA;BOLD SMALL SIGMA;
BOLD SMALL TAU;BOLD SMALL UPSILON;BOLD SMALL PHI;BOLD SMALL CHI;BOLD SMALL PSI;BOLD SMALL OMEGA;
BOLD PARTIAL DIFFERENTIAL;BOLD EPSILON SYMBOL;BOLD THETA SYMBOL;BOLD KAPPA SYMBOL;BOLD PHI SYMBOL;
BOLD RHO SYMBOL;BOLD PI SYMBOL;ITALIC CAPITAL ALPHA;ITALIC CAPITAL BETA;ITALIC CAPITAL GAMMA;
ITALIC CAPITAL DELTA;ITALIC CAPITAL EPSILON;ITALIC CAPITAL ZETA;ITALIC CAPITAL ETA;
ITALIC CAPITAL THETA;ITALIC CAPITAL IOTA;ITALIC CAPITAL KAPPA;ITALIC CAPITAL LAMDA;
ITALIC CAPITAL MU;ITALIC CAPITAL NU;ITALIC CAPITAL XI;ITALIC CAPITAL OMICRON;ITALIC CAPITAL PI;
ITALIC CAPITAL RHO;ITALIC CAPITAL THETA SYMBOL;ITALIC CAPITAL SIGMA;ITALIC CAPITAL TAU;
ITALIC CAPITAL UPSILON;ITALIC CAPITAL PHI;ITALIC CAPITAL CHI;ITALIC CAPITAL PSI;
ITALIC CAPITAL OMEGA;ITALIC NABLA;ITALIC SMALL ALPHA;ITALIC SMALL BETA;ITALIC SMALL GAMMA;
ITALIC SMALL DELTA;ITALIC SMALL EPSILON;ITALIC SMALL ZETA;ITALIC SMALL ETA;ITALIC SMALL THETA;
ITALIC SMALL IOTA;ITALIC SMALL KAPPA;ITALIC SMALL LAMDA;ITALIC SMALL MU;ITALIC SMALL NU;
ITALIC SMALL XI;ITALIC SMALL OMICRON;ITALIC SMALL PI;ITALIC SMALL RHO;ITALIC SMALL FINAL SIGMA;
ITALIC SMALL SIGMA;ITALIC SMALL TAU;ITALIC SMALL UPSILON;ITALIC SMALL PHI;ITALIC SMALL CHI;
ITALIC SMALL PSI;ITALIC SMALL OMEGA;ITALIC PARTIAL DIFFERENTIAL;ITALIC EPSILON SYMBOL;
ITALIC THETA SYMBOL;ITALIC KAPPA SYMBOL;ITALIC PHI SYMBOL;ITALIC RHO SYMBOL;ITALIC PI SYMBOL;
BOLD ITALIC CAPITAL ALPHA;BOLD ITALIC CAPITAL BETA;BOLD ITALIC CAPITAL GAMMA;
BOLD ITALIC CAPITAL DELTA;BOLD ITALIC CAPITAL EPSILON;BOLD ITALIC CAPITAL ZETA;
BOLD ITALIC CAPITAL ETA;BOLD ITALIC CAPITAL THETA;BOLD ITALIC CAPITAL IOTA;
BOLD ITALIC CAPITAL KAPPA;BOLD ITALIC CAPITAL LAMDA;BOLD ITALIC CAPITAL MU;BOLD ITALIC CAPITAL NU;
BOLD ITALIC CAPITAL XI;BOLD ITALIC CAPITAL OMICRON;BOLD ITALIC CAPITAL PI;BOLD ITALIC CAPITAL RHO;
BOLD ITALIC CAPITAL THETA SYMBOL;BOLD ITALIC CAPITAL SIGMA;BOLD ITALIC CAPITAL TAU;
BOLD ITALIC CAPITAL UPSILON;BOLD ITALIC CAPITAL PHI;BOLD ITALIC CAPITAL CHI;
BOLD ITALIC CAPITAL PSI;BOLD ITALIC CAPITAL OMEGA;BOLD ITALIC NABLA;BOLD ITALIC SMALL ALPHA;
BOLD ITALIC SMALL BETA;BOLD ITALIC SMALL GAMMA;BOLD ITALIC SMALL DELTA;BOLD ITALIC SMALL EPSILON;
BOLD ITALIC SMALL ZETA;BOLD ITALIC SMALL ETA;BOLD ITALIC SMALL THETA;BOLD ITALIC SMALL IOTA;
BOLD ITALIC SMALL KAPPA;BOLD ITALIC SMALL LAMDA;BOLD ITALIC SMALL MU;BOLD ITALIC SMALL NU;
BOLD ITALIC SMALL XI;BOLD ITALIC SMALL OMICRON;BOLD ITALIC SMALL PI;BOLD ITALIC SMALL RHO;
BOLD ITALIC SMALL FINAL SIGMA;BOLD ITALIC SMALL SIGMA;BOLD ITALIC SMALL TAU;
BOLD ITALIC SMALL UPSILON;BOLD ITALIC SMALL PHI;BOLD ITALIC SMALL CHI;BOLD ITALIC SMALL PSI;
BOLD ITALIC SMALL OMEGA;BOLD ITALIC PARTIAL DIFFERENTIAL;BOLD ITALIC EPSILON SYMBOL;
BOLD ITALIC THETA SYMBOL;BOLD ITALIC KAPPA SYMBOL;BOLD ITALIC PHI SYMBOL;BOLD ITALIC RHO SYMBOL;
BOLD ITALIC PI SYMBOL;SANS-SERIF BOLD CAPITAL ALPHA;SANS-SERIF BOLD CAPITAL BETA;
SANS-SERIF BOLD CAPITAL GAMMA;SANS-SERIF BOLD CAPITAL DELTA;SANS-SERIF BOLD CAPITAL EPSILON;
SANS-SERIF BOLD CAPITAL ZETA;SANS-SERIF BOLD CAPITAL ETA;SANS-SERIF BOLD CAPITAL THETA;
SANS-SERIF BOLD CAPITAL IOTA;SANS-SERIF BOLD CAPITAL KAPPA;SANS-SERIF BOLD CAPITAL LAMDA;
SANS-SERIF BOLD CAPITAL MU;SANS-SERIF BOLD CAPITAL NU;SANS-SERIF BOLD CAPITAL XI;
SANS-SERIF BOLD CAPITAL OMICRON;SANS-SERIF BOLD CAPITAL PI;SANS-SERIF BOLD CAPITAL RHO;
SANS-SERIF BOLD CAPITAL THETA SYMBOL;SANS-SERIF BOLD CAPITAL SIGMA;SANS-SERIF BOLD CAPITAL TAU;
SANS-SERIF BOLD CAPITAL UPSILON;SANS-SERIF BOLD CAPITAL PHI;SANS-SERIF BOLD CAPITAL CHI;
SANS-SERIF BOLD CAPITAL PSI;SANS-SERIF BOLD CAPITAL OMEGA;SANS-SERIF BOLD NABLA;
SANS-SERIF BOLD SMALL ALPHA;SANS-SERIF BOLD SMALL BETA;SANS-SERIF BOLD SMALL GAMMA;
SANS-SERIF BOLD SMALL DELTA;SANS-SERIF BOLD SMALL EPSILON;SANS-SERIF BOLD SMALL ZETA;
SANS-SERIF BOLD SMALL ETA;SANS-SERIF BOLD SMALL THETA;SANS-SERIF BOLD SMALL IOTA;
SANS-SERIF BOLD SMALL KAPPA;SANS-SERIF BOLD SMALL LAMDA;SANS-SERIF BOLD SMALL MU;
SANS-SERIF BOLD SMALL NU;SANS-SERIF BOLD SMALL XI;SANS-SERIF BOLD SMALL OMICRON;
SANS-SERIF BOLD SMALL PI;SANS-SERIF BOLD SMALL RHO;SANS-SERIF BOLD SMALL FINAL SIGMA;
SANS-SERIF BOLD SMALL SIGMA;SANS-SERIF BOLD SMALL TAU;SANS-SERIF BOLD SMALL UPSILON;
SANS-SERIF BOLD SMALL PHI;SANS-SERIF BOLD SMALL CHI;SANS-SERIF BOLD SMALL PSI;
SANS-SERIF BOLD SMALL OMEGA;SANS-SERIF BOLD PARTIAL DIFFERENTIAL;SANS-SERIF BOLD EPSILON SYMBOL;
SANS-SERIF BOLD THETA SYMBOL;SANS-SERIF BOLD KAPPA SYMBOL;SANS-SERIF BOLD PHI SYMBOL;
SANS-SERIF BOLD RHO SYMBOL;SANS-SERIF BOLD PI SYMBOL;SANS-SERIF BOLD ITALIC CAPITAL ALPHA;
SANS-SERIF BOLD ITALIC CAPITAL BETA;SANS-SERIF BOLD ITALIC CAPITAL GAMMA;
SANS-SERIF BOLD ITALIC CAPITAL DELTA;SANS-SERIF BOLD ITALIC CAPITAL EPSILON;
SANS-SERIF BOLD ITALIC CAPITAL ZETA;SANS-SERIF BOLD ITALIC CAPITAL ETA;
SANS-SERIF BOLD ITALIC CAPITAL THETA;SANS-SERIF BOLD ITALIC CAPITAL IOTA;
SANS-SERIF BOLD ITALIC CAPITAL KAPPA;SANS-SERIF BOLD ITALIC CAPITAL LAMDA;
SANS-SERIF BOLD ITALIC CAPITAL MU;SANS-SERIF BOLD ITALIC CAPITAL NU;
SANS-SERIF BOLD ITALIC CAPITAL XI;SANS-SERIF BOLD ITALIC CAPITAL OMICRON;
SANS-SERIF BOLD ITALIC CAPITAL PI;SANS-SERIF BOLD ITALIC CAPITAL RHO;
SANS-SERIF BOLD ITALIC CAPITAL THETA SYMBOL;SANS-SERIF BOLD ITALIC CAPITAL SIGMA;
SANS-SERIF BOLD ITALIC CAPITAL TAU;SANS-SERIF BOLD ITALIC CAPITAL UPSILON;
SANS-SERIF BOLD ITALIC CAPITAL PHI;SANS-SERIF BOLD ITALIC CAPITAL CHI;
SANS-SERIF BOLD ITALIC CAPITAL PSI;SANS-SERIF BOLD ITALIC CAPITAL OMEGA;
SANS-SERIF BOLD ITALIC NABLA;SANS-SERIF BOLD ITALIC SMALL ALPHA;SANS-SERIF BOLD ITALIC SMALL BETA;
SANS-SERIF BOLD ITALIC SMALL GAMMA;SANS-SERIF BOLD ITALIC SMALL DELTA;
SANS-SERIF BOLD ITALIC SMALL EPSILON;SANS-SERIF BOLD ITALIC SMALL ZETA;
SANS-SERIF BOLD ITALIC SMALL ETA;SANS-SERIF BOLD ITALIC SMALL THETA;
SANS-SERIF BOLD ITALIC SMALL IOTA;SANS-SERIF BOLD ITALIC SMALL KAPPA;
SANS-SERIF BOLD ITALIC SMALL LAMDA;SANS-SERIF BOLD ITALIC SMALL MU;SANS-SERIF BOLD ITALIC SMALL NU;
SANS-SERIF BOLD ITALIC SMALL XI;SANS-SERIF BOLD ITALIC SMALL OMICRON;
SANS-SERIF BOLD ITALIC SMALL PI;SANS-SERIF BOLD ITALIC SMALL RHO;
SANS-SERIF BOLD ITALIC SMALL FINAL SIGMA;SANS-SERIF BOLD ITALIC SMALL SIGMA;
SANS-SERIF BOLD ITALIC SMALL TAU;SANS-SERIF BOLD ITALIC SMALL UPSILON;
SANS-SERIF BOLD ITALIC SMALL PHI;SANS-SERIF BOLD ITALIC SMALL CHI;SANS-SERIF BOLD ITALIC SMALL PSI;
SANS-SERIF BOLD ITALIC SMALL OMEGA;SANS-SERIF BOLD ITALIC PARTIAL DIFFERENTIAL;
SANS-SERIF BOLD ITALIC EPSILON SYMBOL;SANS-SERIF BOLD ITALIC THETA SYMBOL;
SANS-SERIF BOLD ITALIC KAPPA SYMBOL;SANS-SERIF BOLD ITALIC PHI SYMBOL;
SANS-SERIF BOLD ITALIC RHO SYMBOL;SANS-SERIF BOLD ITALIC PI SYMBOL;BOLD CAPITAL DIGAMMA;
BOLD SMALL DIGAMMA.1D7CE=MATHEMATICAL :BOLD DIGIT ZERO;BOLD DIGIT ONE;BOLD DIGIT TWO;
BOLD DIGIT THREE;BOLD DIGIT FOUR;BOLD DIGIT FIVE;BOLD DIGIT SIX;BOLD DIGIT SEVEN;BOLD DIGIT EIGHT;
BOLD DIGIT NINE;DOUBLE-STRUCK DIGIT ZERO;DOUBLE-STRUCK DIGIT ONE;DOUBLE-STRUCK DIGIT TWO;
DOUBLE-STRUCK DIGIT THREE;DOUBLE-STRUCK DIGIT FOUR;DOUBLE-STRUCK DIGIT FIVE;
DOUBLE-STRUCK DIGIT SIX;DOUBLE-STRUCK DIGIT SEVEN;DOUBLE-STRUCK DIGIT EIGHT;
DOUBLE-STRUCK DIGIT NINE;SANS-SERIF DIGIT ZERO;SANS-SERIF DIGIT ONE;SANS-SERIF DIGIT TWO;
SANS-SERIF DIGIT THREE;SANS-SERIF DIGIT FOUR;SANS-SERIF DIGIT FIVE;SANS-SERIF DIGIT SIX;
SANS-SERIF DIGIT SEVEN;SANS-SERIF DIGIT EIGHT;SANS-SERIF DIGIT NINE;SANS-SERIF BOLD DIGIT ZERO;
SANS-SERIF BOLD DIGIT ONE;SANS-SERIF BOLD DIGIT TWO;SANS-SERIF BOLD DIGIT THREE;
SANS-SERIF BOLD DIGIT FOUR;SANS-SERIF BOLD DIGIT FIVE;SANS-SERIF BOLD DIGIT SIX;
SANS-SERIF BOLD DIGIT SEVEN;SANS-SERIF BOLD DIGIT EIGHT;SANS-SERIF BOLD DIGIT NINE;
MONOSPACE DIGIT ZERO;MONOSPACE DIGIT ONE;MONOSPACE DIGIT TWO;MONOSPACE DIGIT THREE;
MONOSPACE DIGIT FOUR;MONOSPACE DIGIT FIVE;MONOSPACE DIGIT SIX;MONOSPACE DIGIT SEVEN;
MONOSPACE DIGIT EIGHT;MONOSPACE DIGIT NINE.1D800=SIGNWRITING :HAND-FIST INDEX;HAND-CIRCLE INDEX;
HAND-CUP INDEX;HAND-OVAL INDEX;HAND-HINGE INDEX;HAND-ANGLE INDEX;HAND-FIST INDEX BENT;
HAND-CIRCLE INDEX BENT;HAND-FIST THUMB UNDER INDEX BENT;HAND-FIST INDEX RAISED KNUCKLE;
HAND-FIST INDEX CUPPED;HAND-FIST INDEX HINGED;HAND-FIST INDEX HINGED LOW;HAND-CIRCLE INDEX HINGE;
HAND-FIST INDEX MIDDLE;HAND-CIRCLE INDEX MIDDLE;HAND-FIST INDEX MIDDLE BENT;
HAND-FIST INDEX MIDDLE RAISED KNUCKLES;HAND-FIST INDEX MIDDLE HINGED;
HAND-FIST INDEX UP MIDDLE HINGED;HAND-FIST INDEX HINGED MIDDLE UP;HAND-FIST INDEX MIDDLE CONJOINED;
HAND-FIST INDEX MIDDLE CONJOINED INDEX BENT;HAND-FIST INDEX MIDDLE CONJOINED MIDDLE BENT;
HAND-FIST INDEX MIDDLE CONJOINED CUPPED;HAND-FIST INDEX MIDDLE CONJOINED HINGED;
HAND-FIST INDEX MIDDLE CROSSED;HAND-CIRCLE INDEX MIDDLE CROSSED;HAND-FIST MIDDLE BENT OVER INDEX;
HAND-FIST INDEX BENT OVER MIDDLE;HAND-FIST INDEX MIDDLE THUMB;HAND-CIRCLE INDEX MIDDLE THUMB;
HAND-FIST INDEX MIDDLE STRAIGHT THUMB BENT;HAND-FIST INDEX MIDDLE BENT THUMB STRAIGHT;
HAND-FIST INDEX MIDDLE THUMB BENT;HAND-FIST INDEX MIDDLE HINGED SPREAD THUMB SIDE;
HAND-FIST INDEX UP MIDDLE HINGED THUMB SIDE;HAND-FIST INDEX UP MIDDLE HINGED THUMB CONJOINED;
HAND-FIST INDEX HINGED MIDDLE UP THUMB SIDE;HAND-FIST INDEX MIDDLE UP SPREAD THUMB FORWARD;
HAND-FIST INDEX MIDDLE THUMB CUPPED;HAND-FIST INDEX MIDDLE THUMB CIRCLED;
HAND-FIST INDEX MIDDLE THUMB HOOKED;HAND-FIST INDEX MIDDLE THUMB HINGED;
HAND-FIST THUMB BETWEEN INDEX MIDDLE STRAIGHT;HAND-FIST INDEX MIDDLE CONJOINED THUMB SIDE;
HAND-FIST INDEX MIDDLE CONJOINED THUMB SIDE CONJOINED;
HAND-FIST INDEX MIDDLE CONJOINED THUMB SIDE BENT;HAND-FIST MIDDLE THUMB HOOKED INDEX UP;
HAND-FIST INDEX THUMB HOOKED MIDDLE UP;HAND-FIST INDEX MIDDLE CONJOINED HINGED THUMB SIDE;
HAND-FIST INDEX MIDDLE CROSSED THUMB SIDE;HAND-FIST INDEX MIDDLE CONJOINED THUMB FORWARD;
HAND-FIST INDEX MIDDLE CONJOINED CUPPED THUMB FORWARD;HAND-FIST MIDDLE THUMB CUPPED INDEX UP;
HAND-FIST INDEX THUMB CUPPED MIDDLE UP;HAND-FIST MIDDLE THUMB CIRCLED INDEX UP;
HAND-FIST MIDDLE THUMB CIRCLED INDEX HINGED;HAND-FIST INDEX THUMB ANGLED OUT MIDDLE UP;
HAND-FIST INDEX THUMB ANGLED IN MIDDLE UP;HAND-FIST INDEX THUMB CIRCLED MIDDLE UP;
HAND-FIST INDEX MIDDLE THUMB CONJOINED HINGED;HAND-FIST INDEX MIDDLE THUMB ANGLED OUT;
HAND-FIST INDEX MIDDLE THUMB ANGLED;HAND-FIST MIDDLE THUMB ANGLED OUT INDEX UP;
HAND-FIST MIDDLE THUMB ANGLED OUT INDEX CROSSED;HAND-FIST MIDDLE THUMB ANGLED INDEX UP;
HAND-FIST INDEX THUMB HOOKED MIDDLE HINGED;HAND-FLAT FOUR FINGERS;HAND-FLAT FOUR FINGERS BENT;
HAND-FLAT FOUR FINGERS HINGED;HAND-FLAT FOUR FINGERS CONJOINED;
HAND-FLAT FOUR FINGERS CONJOINED SPLIT;HAND-CLAW FOUR FINGERS CONJOINED;
HAND-FIST FOUR FINGERS CONJOINED BENT;HAND-HINGE FOUR FINGERS CONJOINED;
HAND-FLAT FIVE FINGERS SPREAD;HAND-FLAT HEEL FIVE FINGERS SPREAD;
HAND-FLAT FIVE FINGERS SPREAD FOUR BENT;HAND-FLAT HEEL FIVE FINGERS SPREAD FOUR BENT;
HAND-FLAT FIVE FINGERS SPREAD BENT;HAND-FLAT HEEL FIVE FINGERS SPREAD BENT;
HAND-FLAT FIVE FINGERS SPREAD THUMB FORWARD;HAND-CUP FIVE FINGERS SPREAD;
HAND-CUP FIVE FINGERS SPREAD OPEN;HAND-HINGE FIVE FINGERS SPREAD OPEN;
HAND-OVAL FIVE FINGERS SPREAD;HAND-FLAT FIVE FINGERS SPREAD HINGED;
HAND-FLAT FIVE FINGERS SPREAD HINGED THUMB SIDE;HAND-FLAT FIVE FINGERS SPREAD HINGED NO THUMB;
HAND-FLAT;HAND-FLAT BETWEEN PALM FACINGS;HAND-FLAT HEEL;HAND-FLAT THUMB SIDE;
HAND-FLAT HEEL THUMB SIDE;HAND-FLAT THUMB BENT;HAND-FLAT THUMB FORWARD;
HAND-FLAT SPLIT INDEX THUMB SIDE;HAND-FLAT SPLIT CENTRE;HAND-FLAT SPLIT CENTRE THUMB SIDE;
HAND-FLAT SPLIT CENTRE THUMB SIDE BENT;HAND-FLAT SPLIT LITTLE;HAND-CLAW;HAND-CLAW THUMB SIDE;
HAND-CLAW NO THUMB;HAND-CLAW THUMB FORWARD;HAND-HOOK CURLICUE;HAND-HOOK;HAND-CUP OPEN;HAND-CUP;
HAND-CUP OPEN THUMB SIDE;HAND-CUP THUMB SIDE;HAND-CUP OPEN NO THUMB;HAND-CUP NO THUMB;
HAND-CUP OPEN THUMB FORWARD;HAND-CUP THUMB FORWARD;HAND-CURLICUE OPEN;HAND-CURLICUE;HAND-CIRCLE;
HAND-OVAL;HAND-OVAL THUMB SIDE;HAND-OVAL NO THUMB;HAND-OVAL THUMB FORWARD;HAND-HINGE OPEN;
HAND-HINGE OPEN THUMB FORWARD;HAND-HINGE;HAND-HINGE SMALL;HAND-HINGE OPEN THUMB SIDE;
HAND-HINGE THUMB SIDE;HAND-HINGE OPEN NO THUMB;HAND-HINGE NO THUMB;
HAND-HINGE THUMB SIDE TOUCHING INDEX;HAND-HINGE THUMB BETWEEN MIDDLE RING;HAND-ANGLE;
HAND-FIST INDEX MIDDLE RING;HAND-CIRCLE INDEX MIDDLE RING;HAND-HINGE INDEX MIDDLE RING;
HAND-ANGLE INDEX MIDDLE RING;HAND-HINGE LITTLE;HAND-FIST INDEX MIDDLE RING BENT;
HAND-FIST INDEX MIDDLE RING CONJOINED;HAND-HINGE INDEX MIDDLE RING CONJOINED;HAND-FIST LITTLE DOWN;
HAND-FIST LITTLE DOWN RIPPLE STRAIGHT;HAND-FIST LITTLE DOWN RIPPLE CURVED;
HAND-FIST LITTLE DOWN OTHERS CIRCLED;HAND-FIST LITTLE UP;HAND-FIST THUMB UNDER LITTLE UP;
HAND-CIRCLE LITTLE UP;HAND-OVAL LITTLE UP;HAND-ANGLE LITTLE UP;HAND-FIST LITTLE RAISED KNUCKLE;
HAND-FIST LITTLE BENT;HAND-FIST LITTLE TOUCHES THUMB;HAND-FIST LITTLE THUMB;
HAND-HINGE LITTLE THUMB;HAND-FIST LITTLE INDEX THUMB;HAND-HINGE LITTLE INDEX THUMB;
HAND-ANGLE LITTLE INDEX THUMB INDEX THUMB OUT;HAND-ANGLE LITTLE INDEX THUMB INDEX THUMB;
HAND-FIST LITTLE INDEX;HAND-CIRCLE LITTLE INDEX;HAND-HINGE LITTLE INDEX;HAND-ANGLE LITTLE INDEX;
HAND-FIST INDEX MIDDLE LITTLE;HAND-CIRCLE INDEX MIDDLE LITTLE;HAND-HINGE INDEX MIDDLE LITTLE;
HAND-HINGE RING;HAND-ANGLE INDEX MIDDLE LITTLE;HAND-FIST INDEX MIDDLE CROSS LITTLE;
HAND-CIRCLE INDEX MIDDLE CROSS LITTLE;HAND-FIST RING DOWN;
HAND-HINGE RING DOWN INDEX THUMB HOOK MIDDLE;HAND-ANGLE RING DOWN MIDDLE THUMB INDEX CROSS;
HAND-FIST RING UP;HAND-FIST RING RAISED KNUCKLE;HAND-FIST RING LITTLE;HAND-CIRCLE RING LITTLE;
HAND-OVAL RING LITTLE;HAND-ANGLE RING LITTLE;HAND-FIST RING MIDDLE;HAND-FIST RING MIDDLE CONJOINED;
HAND-FIST RING MIDDLE RAISED KNUCKLES;HAND-FIST RING INDEX;HAND-FIST RING THUMB;
HAND-HOOK RING THUMB;HAND-FIST INDEX RING LITTLE;HAND-CIRCLE INDEX RING LITTLE;
HAND-CURLICUE INDEX RING LITTLE ON;HAND-HOOK INDEX RING LITTLE OUT;HAND-HOOK INDEX RING LITTLE IN;
HAND-HOOK INDEX RING LITTLE UNDER;HAND-CUP INDEX RING LITTLE;HAND-HINGE INDEX RING LITTLE;
HAND-ANGLE INDEX RING LITTLE OUT;HAND-ANGLE INDEX RING LITTLE;HAND-FIST MIDDLE DOWN;
HAND-HINGE MIDDLE;HAND-FIST MIDDLE UP;HAND-CIRCLE MIDDLE UP;HAND-FIST MIDDLE RAISED KNUCKLE;
HAND-FIST MIDDLE UP THUMB SIDE;HAND-HOOK MIDDLE THUMB;HAND-FIST MIDDLE THUMB LITTLE;
HAND-FIST MIDDLE LITTLE;HAND-FIST MIDDLE RING LITTLE;HAND-CIRCLE MIDDLE RING LITTLE;
HAND-CURLICUE MIDDLE RING LITTLE ON;HAND-CUP MIDDLE RING LITTLE;HAND-HINGE MIDDLE RING LITTLE;
HAND-ANGLE MIDDLE RING LITTLE OUT;HAND-ANGLE MIDDLE RING LITTLE IN;HAND-ANGLE MIDDLE RING LITTLE;
HAND-CIRCLE MIDDLE RING LITTLE BENT;HAND-CLAW MIDDLE RING LITTLE CONJOINED;
HAND-CLAW MIDDLE RING LITTLE CONJOINED SIDE;HAND-HOOK MIDDLE RING LITTLE CONJOINED OUT;
HAND-HOOK MIDDLE RING LITTLE CONJOINED IN;HAND-HOOK MIDDLE RING LITTLE CONJOINED;
HAND-HINGE INDEX HINGED;HAND-FIST INDEX THUMB SIDE;HAND-HINGE INDEX THUMB SIDE;
HAND-FIST INDEX THUMB SIDE THUMB DIAGONAL;HAND-FIST INDEX THUMB SIDE THUMB CONJOINED;
HAND-FIST INDEX THUMB SIDE THUMB BENT;HAND-FIST INDEX THUMB SIDE INDEX BENT;
HAND-FIST INDEX THUMB SIDE BOTH BENT;HAND-FIST INDEX THUMB SIDE INDEX HINGE;
HAND-FIST INDEX THUMB FORWARD INDEX STRAIGHT;HAND-FIST INDEX THUMB FORWARD INDEX BENT;
HAND-FIST INDEX THUMB HOOK;HAND-FIST INDEX THUMB CURLICUE;HAND-FIST INDEX THUMB CURVE THUMB INSIDE;
HAND-CLAW INDEX THUMB CURVE THUMB INSIDE;HAND-FIST INDEX THUMB CURVE THUMB UNDER;
HAND-FIST INDEX THUMB CIRCLE;HAND-CUP INDEX THUMB;HAND-CUP INDEX THUMB OPEN;
HAND-HINGE INDEX THUMB OPEN;HAND-HINGE INDEX THUMB LARGE;HAND-HINGE INDEX THUMB;
HAND-HINGE INDEX THUMB SMALL;HAND-ANGLE INDEX THUMB OUT;HAND-ANGLE INDEX THUMB IN;
HAND-ANGLE INDEX THUMB;HAND-FIST THUMB;HAND-FIST THUMB HEEL;HAND-FIST THUMB SIDE DIAGONAL;
HAND-FIST THUMB SIDE CONJOINED;HAND-FIST THUMB SIDE BENT;HAND-FIST THUMB FORWARD;
HAND-FIST THUMB BETWEEN INDEX MIDDLE;HAND-FIST THUMB BETWEEN MIDDLE RING;
HAND-FIST THUMB BETWEEN RING LITTLE;HAND-FIST THUMB UNDER TWO FINGERS;
HAND-FIST THUMB OVER TWO FINGERS;HAND-FIST THUMB UNDER THREE FINGERS;
HAND-FIST THUMB UNDER FOUR FINGERS;HAND-FIST THUMB OVER FOUR RAISED KNUCKLES;HAND-FIST;
HAND-FIST HEEL;TOUCH SINGLE;TOUCH MULTIPLE;TOUCH BETWEEN;GRASP SINGLE;GRASP MULTIPLE;GRASP BETWEEN;
STRIKE SINGLE;STRIKE MULTIPLE;STRIKE BETWEEN;BRUSH SINGLE;BRUSH MULTIPLE;BRUSH BETWEEN;RUB SINGLE;
RUB MULTIPLE;RUB BETWEEN;SURFACE SYMBOLS;SURFACE BETWEEN;SQUEEZE LARGE SINGLE;SQUEEZE SMALL SINGLE;
SQUEEZE LARGE MULTIPLE;SQUEEZE SMALL MULTIPLE;SQUEEZE SEQUENTIAL;FLICK LARGE SINGLE;
FLICK SMALL SINGLE;FLICK LARGE MULTIPLE;FLICK SMALL MULTIPLE;FLICK SEQUENTIAL;
SQUEEZE FLICK ALTERNATING;MOVEMENT-HINGE UP DOWN LARGE;MOVEMENT-HINGE UP DOWN SMALL;
MOVEMENT-HINGE UP SEQUENTIAL;MOVEMENT-HINGE DOWN SEQUENTIAL;
MOVEMENT-HINGE UP DOWN ALTERNATING LARGE;MOVEMENT-HINGE UP DOWN ALTERNATING SMALL;
MOVEMENT-HINGE SIDE TO SIDE SCISSORS;MOVEMENT-WALLPLANE FINGER CONTACT;
MOVEMENT-FLOORPLANE FINGER CONTACT;MOVEMENT-WALLPLANE SINGLE STRAIGHT SMALL;
MOVEMENT-WALLPLANE SINGLE STRAIGHT MEDIUM;MOVEMENT-WALLPLANE SINGLE STRAIGHT LARGE;
MOVEMENT-WALLPLANE SINGLE STRAIGHT LARGEST;MOVEMENT-WALLPLANE SINGLE WRIST FLEX;
MOVEMENT-WALLPLANE DOUBLE STRAIGHT;MOVEMENT-WALLPLANE DOUBLE WRIST FLEX;
MOVEMENT-WALLPLANE DOUBLE ALTERNATING;MOVEMENT-WALLPLANE DOUBLE ALTERNATING WRIST FLEX;
MOVEMENT-WALLPLANE CROSS;MOVEMENT-WALLPLANE TRIPLE STRAIGHT MOVEMENT;
MOVEMENT-WALLPLANE TRIPLE WRIST FLEX;MOVEMENT-WALLPLANE TRIPLE ALTERNATING;
MOVEMENT-WALLPLANE TRIPLE ALTERNATING WRIST FLEX;MOVEMENT-WALLPLANE BEND SMALL;
MOVEMENT-WALLPLANE BEND MEDIUM;MOVEMENT-WALLPLANE BEND LARGE;MOVEMENT-WALLPLANE CORNER SMALL;
MOVEMENT-WALLPLANE CORNER MEDIUM;MOVEMENT-WALLPLANE CORNER LARGE;
MOVEMENT-WALLPLANE CORNER ROTATION;MOVEMENT-WALLPLANE CHECK SMALL;MOVEMENT-WALLPLANE CHECK MEDIUM;
MOVEMENT-WALLPLANE CHECK LARGE;MOVEMENT-WALLPLANE BOX SMALL;MOVEMENT-WALLPLANE BOX MEDIUM;
MOVEMENT-WALLPLANE BOX LARGE;MOVEMENT-WALLPLANE ZIGZAG SMALL;MOVEMENT-WALLPLANE ZIGZAG MEDIUM;
MOVEMENT-WALLPLANE ZIGZAG LARGE;MOVEMENT-WALLPLANE PEAKS SMALL;MOVEMENT-WALLPLANE PEAKS MEDIUM;
MOVEMENT-WALLPLANE PEAKS LARGE;TRAVEL-WALLPLANE ROTATION-WALLPLANE SINGLE;
TRAVEL-WALLPLANE ROTATION-WALLPLANE DOUBLE;TRAVEL-WALLPLANE ROTATION-WALLPLANE ALTERNATING;
TRAVEL-WALLPLANE ROTATION-FLOORPLANE SINGLE;TRAVEL-WALLPLANE ROTATION-FLOORPLANE DOUBLE;
TRAVEL-WALLPLANE ROTATION-FLOORPLANE ALTERNATING;TRAVEL-WALLPLANE SHAKING;
TRAVEL-WALLPLANE ARM SPIRAL SINGLE;TRAVEL-WALLPLANE ARM SPIRAL DOUBLE;
TRAVEL-WALLPLANE ARM SPIRAL TRIPLE;MOVEMENT-DIAGONAL AWAY SMALL;MOVEMENT-DIAGONAL AWAY MEDIUM;
MOVEMENT-DIAGONAL AWAY LARGE;MOVEMENT-DIAGONAL AWAY LARGEST;MOVEMENT-DIAGONAL TOWARDS SMALL;
MOVEMENT-DIAGONAL TOWARDS MEDIUM;MOVEMENT-DIAGONAL TOWARDS LARGE;MOVEMENT-DIAGONAL TOWARDS LARGEST;
MOVEMENT-DIAGONAL BETWEEN AWAY SMALL;MOVEMENT-DIAGONAL BETWEEN AWAY MEDIUM;
MOVEMENT-DIAGONAL BETWEEN AWAY LARGE;MOVEMENT-DIAGONAL BETWEEN AWAY LARGEST;
MOVEMENT-DIAGONAL BETWEEN TOWARDS SMALL;MOVEMENT-DIAGONAL BETWEEN TOWARDS MEDIUM;
MOVEMENT-DIAGONAL BETWEEN TOWARDS LARGE;MOVEMENT-DIAGONAL BETWEEN TOWARDS LARGEST;
MOVEMENT-FLOORPLANE SINGLE STRAIGHT SMALL;MOVEMENT-FLOORPLANE SINGLE STRAIGHT MEDIUM;
MOVEMENT-FLOORPLANE SINGLE STRAIGHT LARGE;MOVEMENT-FLOORPLANE SINGLE STRAIGHT LARGEST;
MOVEMENT-FLOORPLANE SINGLE WRIST FLEX;MOVEMENT-FLOORPLANE DOUBLE STRAIGHT;
MOVEMENT-FLOORPLANE DOUBLE WRIST FLEX;MOVEMENT-FLOORPLANE DOUBLE ALTERNATING;
MOVEMENT-FLOORPLANE DOUBLE ALTERNATING WRIST FLEX;MOVEMENT-FLOORPLANE CROSS;
MOVEMENT-FLOORPLANE TRIPLE STRAIGHT MOVEMENT;MOVEMENT-FLOORPLANE TRIPLE WRIST FLEX;
MOVEMENT-FLOORPLANE TRIPLE ALTERNATING MOVEMENT;MOVEMENT-FLOORPLANE TRIPLE ALTERNATING WRIST FLEX;
MOVEMENT-FLOORPLANE BEND;MOVEMENT-FLOORPLANE CORNER SMALL;MOVEMENT-FLOORPLANE CORNER MEDIUM;
MOVEMENT-FLOORPLANE CORNER LARGE;MOVEMENT-FLOORPLANE CHECK;MOVEMENT-FLOORPLANE BOX SMALL;
MOVEMENT-FLOORPLANE BOX MEDIUM;MOVEMENT-FLOORPLANE BOX LARGE;MOVEMENT-FLOORPLANE ZIGZAG SMALL;
MOVEMENT-FLOORPLANE ZIGZAG MEDIUM;MOVEMENT-FLOORPLANE ZIGZAG LARGE;MOVEMENT-FLOORPLANE PEAKS SMALL;
MOVEMENT-FLOORPLANE PEAKS MEDIUM;MOVEMENT-FLOORPLANE PEAKS LARGE;
TRAVEL-FLOORPLANE ROTATION-FLOORPLANE SINGLE;TRAVEL-FLOORPLANE ROTATION-FLOORPLANE DOUBLE;
TRAVEL-FLOORPLANE ROTATION-FLOORPLANE ALTERNATING;TRAVEL-FLOORPLANE ROTATION-WALLPLANE SINGLE;
TRAVEL-FLOORPLANE ROTATION-WALLPLANE DOUBLE;TRAVEL-FLOORPLANE ROTATION-WALLPLANE ALTERNATING;
TRAVEL-FLOORPLANE SHAKING;MOVEMENT-WALLPLANE CURVE QUARTER SMALL;
MOVEMENT-WALLPLANE CURVE QUARTER MEDIUM;MOVEMENT-WALLPLANE CURVE QUARTER LARGE;
MOVEMENT-WALLPLANE CURVE QUARTER LARGEST;MOVEMENT-WALLPLANE CURVE HALF-CIRCLE SMALL;
MOVEMENT-WALLPLANE CURVE HALF-CIRCLE MEDIUM;MOVEMENT-WALLPLANE CURVE HALF-CIRCLE LARGE;
MOVEMENT-WALLPLANE CURVE HALF-CIRCLE LARGEST;MOVEMENT-WALLPLANE CURVE THREE-QUARTER CIRCLE SMALL;
MOVEMENT-WALLPLANE CURVE THREE-QUARTER CIRCLE MEDIUM;MOVEMENT-WALLPLANE HUMP SMALL;
MOVEMENT-WALLPLANE HUMP MEDIUM;MOVEMENT-WALLPLANE HUMP LARGE;MOVEMENT-WALLPLANE LOOP SMALL;
MOVEMENT-WALLPLANE LOOP MEDIUM;MOVEMENT-WALLPLANE LOOP LARGE;MOVEMENT-WALLPLANE LOOP SMALL DOUBLE;
MOVEMENT-WALLPLANE WAVE CURVE DOUBLE SMALL;MOVEMENT-WALLPLANE WAVE CURVE DOUBLE MEDIUM;
MOVEMENT-WALLPLANE WAVE CURVE DOUBLE LARGE;MOVEMENT-WALLPLANE WAVE CURVE TRIPLE SMALL;
MOVEMENT-WALLPLANE WAVE CURVE TRIPLE MEDIUM;MOVEMENT-WALLPLANE WAVE CURVE TRIPLE LARGE;
MOVEMENT-WALLPLANE CURVE THEN STRAIGHT;MOVEMENT-WALLPLANE CURVED CROSS SMALL;
MOVEMENT-WALLPLANE CURVED CROSS MEDIUM;ROTATION-WALLPLANE SINGLE;ROTATION-WALLPLANE DOUBLE;
ROTATION-WALLPLANE ALTERNATE;MOVEMENT-WALLPLANE SHAKING;
MOVEMENT-WALLPLANE CURVE HITTING FRONT WALL;MOVEMENT-WALLPLANE HUMP HITTING FRONT WALL;
MOVEMENT-WALLPLANE LOOP HITTING FRONT WALL;MOVEMENT-WALLPLANE WAVE HITTING FRONT WALL;
ROTATION-WALLPLANE SINGLE HITTING FRONT WALL;ROTATION-WALLPLANE DOUBLE HITTING FRONT WALL;
ROTATION-WALLPLANE ALTERNATING HITTING FRONT WALL;MOVEMENT-WALLPLANE CURVE HITTING CHEST;
MOVEMENT-WALLPLANE HUMP HITTING CHEST;MOVEMENT-WALLPLANE LOOP HITTING CHEST;
MOVEMENT-WALLPLANE WAVE HITTING CHEST;ROTATION-WALLPLANE SINGLE HITTING CHEST;
ROTATION-WALLPLANE DOUBLE HITTING CHEST;ROTATION-WALLPLANE ALTERNATING HITTING CHEST;
MOVEMENT-WALLPLANE WAVE DIAGONAL PATH SMALL;MOVEMENT-WALLPLANE WAVE DIAGONAL PATH MEDIUM;
MOVEMENT-WALLPLANE WAVE DIAGONAL PATH LARGE;MOVEMENT-FLOORPLANE CURVE HITTING CEILING SMALL;
MOVEMENT-FLOORPLANE CURVE HITTING CEILING LARGE;
MOVEMENT-FLOORPLANE HUMP HITTING CEILING SMALL DOUBLE;
MOVEMENT-FLOORPLANE HUMP HITTING CEILING LARGE DOUBLE;
MOVEMENT-FLOORPLANE HUMP HITTING CEILING SMALL TRIPLE;
MOVEMENT-FLOORPLANE HUMP HITTING CEILING LARGE TRIPLE;
MOVEMENT-FLOORPLANE LOOP HITTING CEILING SMALL SINGLE;
MOVEMENT-FLOORPLANE LOOP HITTING CEILING LARGE SINGLE;
MOVEMENT-FLOORPLANE LOOP HITTING CEILING SMALL DOUBLE;
MOVEMENT-FLOORPLANE LOOP HITTING CEILING LARGE DOUBLE;
MOVEMENT-FLOORPLANE WAVE HITTING CEILING SMALL;MOVEMENT-FLOORPLANE WAVE HITTING CEILING LARGE;
ROTATION-FLOORPLANE SINGLE HITTING CEILING;ROTATION-FLOORPLANE DOUBLE HITTING CEILING;
ROTATION-FLOORPLANE ALTERNATING HITTING CEILING;MOVEMENT-FLOORPLANE CURVE HITTING FLOOR SMALL;
MOVEMENT-FLOORPLANE CURVE HITTING FLOOR LARGE;MOVEMENT-FLOORPLANE HUMP HITTING FLOOR SMALL DOUBLE;
MOVEMENT-FLOORPLANE HUMP HITTING FLOOR LARGE DOUBLE;
MOVEMENT-FLOORPLANE HUMP HITTING FLOOR TRIPLE SMALL TRIPLE;
MOVEMENT-FLOORPLANE HUMP HITTING FLOOR TRIPLE LARGE TRIPLE;
MOVEMENT-FLOORPLANE LOOP HITTING FLOOR SMALL SINGLE;
MOVEMENT-FLOORPLANE LOOP HITTING FLOOR LARGE SINGLE;
MOVEMENT-FLOORPLANE LOOP HITTING FLOOR SMALL DOUBLE;
MOVEMENT-FLOORPLANE LOOP HITTING FLOOR LARGE DOUBLE;MOVEMENT-FLOORPLANE WAVE HITTING FLOOR SMALL;
MOVEMENT-FLOORPLANE WAVE HITTING FLOOR LARGE;ROTATION-FLOORPLANE SINGLE HITTING FLOOR;
ROTATION-FLOORPLANE DOUBLE HITTING FLOOR;ROTATION-FLOORPLANE ALTERNATING HITTING FLOOR;
MOVEMENT-FLOORPLANE CURVE SMALL;MOVEMENT-FLOORPLANE CURVE MEDIUM;MOVEMENT-FLOORPLANE CURVE LARGE;
MOVEMENT-FLOORPLANE CURVE LARGEST;MOVEMENT-FLOORPLANE CURVE COMBINED;
MOVEMENT-FLOORPLANE HUMP SMALL;MOVEMENT-FLOORPLANE LOOP SMALL;MOVEMENT-FLOORPLANE WAVE SNAKE;
MOVEMENT-FLOORPLANE WAVE SMALL;MOVEMENT-FLOORPLANE WAVE LARGE;ROTATION-FLOORPLANE SINGLE;
ROTATION-FLOORPLANE DOUBLE;ROTATION-FLOORPLANE ALTERNATING;MOVEMENT-FLOORPLANE SHAKING PARALLEL;
MOVEMENT-WALLPLANE ARM CIRCLE SMALL SINGLE;MOVEMENT-WALLPLANE ARM CIRCLE MEDIUM SINGLE;
MOVEMENT-WALLPLANE ARM CIRCLE SMALL DOUBLE;MOVEMENT-WALLPLANE ARM CIRCLE MEDIUM DOUBLE;
MOVEMENT-FLOORPLANE ARM CIRCLE HITTING WALL SMALL SINGLE;
MOVEMENT-FLOORPLANE ARM CIRCLE HITTING WALL MEDIUM SINGLE;
MOVEMENT-FLOORPLANE ARM CIRCLE HITTING WALL LARGE SINGLE;
MOVEMENT-FLOORPLANE ARM CIRCLE HITTING WALL SMALL DOUBLE;
MOVEMENT-FLOORPLANE ARM CIRCLE HITTING WALL MEDIUM DOUBLE;
MOVEMENT-FLOORPLANE ARM CIRCLE HITTING WALL LARGE DOUBLE;
MOVEMENT-WALLPLANE WRIST CIRCLE FRONT SINGLE;MOVEMENT-WALLPLANE WRIST CIRCLE FRONT DOUBLE;
MOVEMENT-FLOORPLANE WRIST CIRCLE HITTING WALL SINGLE;
MOVEMENT-FLOORPLANE WRIST CIRCLE HITTING WALL DOUBLE;MOVEMENT-WALLPLANE FINGER CIRCLES SINGLE;
MOVEMENT-WALLPLANE FINGER CIRCLES DOUBLE;MOVEMENT-FLOORPLANE FINGER CIRCLES HITTING WALL SINGLE;
MOVEMENT-FLOORPLANE FINGER CIRCLES HITTING WALL DOUBLE;DYNAMIC ARROWHEAD SMALL;
DYNAMIC ARROWHEAD LARGE;DYNAMIC FAST;DYNAMIC SLOW;DYNAMIC TENSE;DYNAMIC RELAXED;
DYNAMIC SIMULTANEOUS;DYNAMIC SIMULTANEOUS ALTERNATING;DYNAMIC EVERY OTHER TIME;DYNAMIC GRADUAL;
HEAD;HEAD RIM;HEAD MOVEMENT-WALLPLANE STRAIGHT;HEAD MOVEMENT-WALLPLANE TILT;
HEAD MOVEMENT-FLOORPLANE STRAIGHT;HEAD MOVEMENT-WALLPLANE CURVE;HEAD MOVEMENT-FLOORPLANE CURVE;
HEAD MOVEMENT CIRCLE;FACE DIRECTION POSITION NOSE FORWARD TILTING;
FACE DIRECTION POSITION NOSE UP OR DOWN;FACE DIRECTION POSITION NOSE UP OR DOWN TILTING;
EYEBROWS STRAIGHT UP;EYEBROWS STRAIGHT NEUTRAL;EYEBROWS STRAIGHT DOWN;DREAMY EYEBROWS NEUTRAL DOWN;
DREAMY EYEBROWS DOWN NEUTRAL;DREAMY EYEBROWS UP NEUTRAL;DREAMY EYEBROWS NEUTRAL UP;
FOREHEAD NEUTRAL;FOREHEAD CONTACT;FOREHEAD WRINKLED;EYES OPEN;EYES SQUEEZED;EYES CLOSED;
EYE BLINK SINGLE;EYE BLINK MULTIPLE;EYES HALF OPEN;EYES WIDE OPEN;EYES HALF CLOSED;
EYES WIDENING MOVEMENT;EYE WINK;EYELASHES UP;EYELASHES DOWN;EYELASHES FLUTTERING;
EYEGAZE-WALLPLANE STRAIGHT;EYEGAZE-WALLPLANE STRAIGHT DOUBLE;
EYEGAZE-WALLPLANE STRAIGHT ALTERNATING;EYEGAZE-FLOORPLANE STRAIGHT;
EYEGAZE-FLOORPLANE STRAIGHT DOUBLE;EYEGAZE-FLOORPLANE STRAIGHT ALTERNATING;
EYEGAZE-WALLPLANE CURVED;EYEGAZE-FLOORPLANE CURVED;EYEGAZE-WALLPLANE CIRCLING;CHEEKS PUFFED;
CHEEKS NEUTRAL;CHEEKS SUCKED;TENSE CHEEKS HIGH;TENSE CHEEKS MIDDLE;TENSE CHEEKS LOW;EARS;
NOSE NEUTRAL;NOSE CONTACT;NOSE WRINKLES;NOSE WIGGLES;AIR BLOWING OUT;AIR SUCKING IN;
AIR BLOW SMALL ROTATIONS;AIR SUCK SMALL ROTATIONS;BREATH INHALE;BREATH EXHALE;MOUTH CLOSED NEUTRAL;
MOUTH CLOSED FORWARD;MOUTH CLOSED CONTACT;MOUTH SMILE;MOUTH SMILE WRINKLED;MOUTH SMILE OPEN;
MOUTH FROWN;MOUTH FROWN WRINKLED;MOUTH FROWN OPEN;MOUTH OPEN CIRCLE;MOUTH OPEN FORWARD;
MOUTH OPEN WRINKLED;MOUTH OPEN OVAL;MOUTH OPEN OVAL WRINKLED;MOUTH OPEN OVAL YAWN;
MOUTH OPEN RECTANGLE;MOUTH OPEN RECTANGLE WRINKLED;MOUTH OPEN RECTANGLE YAWN;MOUTH KISS;
MOUTH KISS FORWARD;MOUTH KISS WRINKLED;MOUTH TENSE;MOUTH TENSE FORWARD;MOUTH TENSE SUCKED;
LIPS PRESSED TOGETHER;LIP LOWER OVER UPPER;LIP UPPER OVER LOWER;MOUTH CORNERS;
MOUTH WRINKLES SINGLE;MOUTH WRINKLES DOUBLE;TONGUE STICKING OUT FAR;TONGUE LICKING LIPS;
TONGUE TIP BETWEEN LIPS;TONGUE TIP TOUCHING INSIDE MOUTH;TONGUE INSIDE MOUTH RELAXED;
TONGUE MOVES AGAINST CHEEK;TONGUE CENTRE STICKING OUT;TONGUE CENTRE INSIDE MOUTH;TEETH;
TEETH MOVEMENT;TEETH ON TONGUE;TEETH ON TONGUE MOVEMENT;TEETH ON LIPS;TEETH ON LIPS MOVEMENT;
TEETH BITE LIPS;MOVEMENT-WALLPLANE JAW;MOVEMENT-FLOORPLANE JAW;NECK;HAIR;EXCITEMENT;
SHOULDER HIP SPINE;SHOULDER HIP POSITIONS;WALLPLANE SHOULDER HIP MOVE;FLOORPLANE SHOULDER HIP MOVE;
SHOULDER TILTING FROM WAIST;TORSO-WALLPLANE STRAIGHT STRETCH;TORSO-WALLPLANE CURVED BEND;
TORSO-FLOORPLANE TWISTING;UPPER BODY TILTING FROM HIP JOINTS;LIMB COMBINATION;LIMB LENGTH-1;
LIMB LENGTH-2;LIMB LENGTH-3;LIMB LENGTH-4;LIMB LENGTH-5;LIMB LENGTH-6;LIMB LENGTH-7;FINGER;
LOCATION-WALLPLANE SPACE;LOCATION-FLOORPLANE SPACE;LOCATION HEIGHT;LOCATION WIDTH;LOCATION DEPTH;
LOCATION HEAD NECK;LOCATION TORSO;LOCATION LIMBS DIGITS;COMMA;FULL STOP;SEMICOLON;COLON;
PARENTHESIS.1DA9B=SIGNWRITING FILL MODIFIER-:2;3;4;5;6.1DAA1=SIGNWRITING ROTATION MODIFIER-:2;3;4;
5;6;7;8;9;10;11;12;13;14;15;16.1DF00=LATIN :SMALL LETTER FENG DIGRAPH WITH TRILL;
SMALL LETTER REVERSED SCRIPT G;LETTER SMALL CAPITAL TURNED G;SMALL LETTER REVERSED K;
LETTER SMALL CAPITAL L WITH BELT;SMALL LETTER LEZH WITH RETROFLEX HOOK;
SMALL LETTER TURNED Y WITH BELT;SMALL LETTER REVERSED ENG;
SMALL LETTER TURNED R WITH LONG LEG AND RETROFLEX HOOK;SMALL LETTER T WITH HOOK AND RETROFLEX HOOK;
LETTER RETROFLEX CLICK WITH RETROFLEX HOOK;SMALL LETTER ESH WITH DOUBLE BAR;
SMALL LETTER ESH WITH DOUBLE BAR AND CURL;SMALL LETTER TURNED T WITH CURL;
LETTER INVERTED GLOTTAL STOP WITH CURL;LETTER STRETCHED C WITH CURL;LETTER SMALL CAPITAL TURNED K;
SMALL LETTER L WITH FISHHOOK;SMALL LETTER DEZH DIGRAPH WITH PALATAL HOOK;
SMALL LETTER L WITH BELT AND PALATAL HOOK;SMALL LETTER ENG WITH PALATAL HOOK;
SMALL LETTER TURNED R WITH PALATAL HOOK;SMALL LETTER R WITH FISHHOOK AND PALATAL HOOK;
SMALL LETTER TESH DIGRAPH WITH PALATAL HOOK;SMALL LETTER EZH WITH PALATAL HOOK;
SMALL LETTER DEZH DIGRAPH WITH RETROFLEX HOOK;SMALL LETTER I WITH STROKE AND RETROFLEX HOOK;
SMALL LETTER O WITH RETROFLEX HOOK;SMALL LETTER TESH DIGRAPH WITH RETROFLEX HOOK;
SMALL LETTER C WITH RETROFLEX HOOK;SMALL LETTER S WITH CURL."

end Workflow.Text
