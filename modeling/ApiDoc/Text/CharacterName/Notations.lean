import ApiDoc.Text.CharacterName.Coded

/-!
# Names of characters: Notations

The names of music, mathematical alphabets and the writing of gestures.
-/

namespace ApiDoc.Text.CharacterName

/-- The names of the characters from `1c000` to `1dfff`. -/
def notations : Coded where
  first := 0x1c000
  lines := [
    "+F00;00ZNAMENNY COMBINING MARK GORAZDO NIZKO S KRYZHEM ON LEFT;24NIZKO S KRYZHEM ON LEFT",
    "24TSATA ON LEFT;24GORAZDO NIZKO ON LEFT;24NIZKO ON LEFT;24SREDNE ON LEFT",
    "24MALO POVYSHE ON LEFT;24POVYSHE ON LEFT;24VYSOKO ON LEFT",
    "24MALO POVYSHE S KHOKHLOM ON LEFT;24POVYSHE S KHOKHLOM ON LEFT",
    "24VYSOKO S KHOKHLOM ON LEFT;24GORAZDO NIZKO S KRYZHEM ON RIGHT",
    "24NIZKO S KRYZHEM ON RIGHT;24TSATA ON RIGHT;24GORAZDO NIZKO ON RIGHT;24NIZKO ON RIGHT",
    "24SREDNE ON RIGHT;24MALO POVYSHE ON RIGHT;24POVYSHE ON RIGHT;24VYSOKO ON RIGHT",
    "24MALO POVYSHE S KHOKHLOM ON RIGHT;24POVYSHE S KHOKHLOM ON RIGHT",
    "24VYSOKO S KHOKHLOM ON RIGHT;24TSATA S KRYZHEM;24MALO POVYSHE S KRYZHEM",
    "24STRANNO MALO POVYSHE;24POVYSHE S KRYZHEM;33TRANNO;24VYSOKO S KRYZHEM",
    "24MALO POVYSHE STRANNO;24GORAZDO VYSOKO;24ZELO;24ON;24RAVNO;24TIKHAYA;24BORZAYA;24UDARKA",
    "24PODVERTKA;24LOMKA;24KUPNAYA;25ACHKA;24ZEVOK;24SKOBA;24RAZSEKA;24KRYZH ON LEFT;+2",
    "19TONAL RANGE MARK MRACHNO;36SVETLO;36TRESVETLO;19MARK ZADERZHKA;24DEMESTVENNY ZADERZHKA",
    "24OTSECHKA;24PODCHASHIE;34 WITH VERTICAL STROKE;24CHASHKA;31 POLNAYA;24OBLACHKO",
    "24SOROCHYA NOZHKA;24TOCHKA;24DVOETOCHIE;19ATTACHING VERTICAL OMET;19MARK CURVED OMET",
    "24KRYZH;19LOWER TONAL RANGE INDICATOR;09PRIZNAK MODIFIER LEVEL-2;323;26DIRECTION FLIP",
    "26KRYZH;26ROG;+9;09NEUME KRYUK;20 TIKHY;15PARAKLIT;15DVA V CHELNU;15KLYUCH;15ZANOZHEK",
    "15STOPITSA;23 S OCHKOM;15PEREVODKA;24 NEPOSTOYANNAYA;15STOPITSA WITH SOROCHYA NOZHKA",
    "15CHELYUSTKA;15PALKA;15ZAPYATAYA;15GOLUBCHIK BORZY;25TIKHY;25MRACHNY;25SVETLY",
    "25TRESVETLY;15VRAKHIYA PROSTAYA;24MRACHNAYA;24SVETLAYA;24TRESVETLAYA",
    "24KLYUCHEVAYA PROSTAYA;36MRACHNAYA;36SVETLAYA;36TRESVETLAYA;15DOUBLE ZAPYATAYA",
    "15REVERSED CHELYUSTKA;15DERBITSA;15KHAMILO;15CHASHKA;15PODCHASHIE;15SKAMEYTSA MRACHNAYA",
    "25SVETLAYA;25TRESVETLAYA;26IKHAYA;15DEMESTVENNY KLYUCH;15SKAMEYTSA KLYUCHEVAYA SVETLAYA",
    "32NEPOSTOYANNAYA;32VAYA TIKHAYA;25DVOECHELNAYA PROSTAYA;38SVETLAYA;38NEPOSTOYANNAYA",
    "38KLYUCHEVAYA;16LOZHITIE;24 S ZAPYATOY;25ZAKRYTOE;25S KRYZHEM;15KRYZH;15ROG;15FITA",
    "15KOBYLA;15ZMEYTSA;15STATYA;21 S ZAPYATOY;24KRYZHEM;24ZAPYATOY I KRYZHEM",
    "24KRYZHEM I ZAPYATOY;22ZAKRYTAYA;31 S ZAPYATOY;22S ROGOM;24DVUMYA ZAPYATYMI",
    "24ZAPYATOY I PODCHASHIEM;15POLKULIZMY;15STATYA NEPOSTOYANNAYA;17RELA PROSTAYA",
    "22MRACHNOTIKHAYA;22KRYZHEVAYA;22POLUPOVODNAYA;24VODNAYA;22NEPOSTOYANNAYA",
    "22KLYUCHEPOVODNAYA;29NEPOSTOYANNAYA;22TIKHAYA PUTNAYA;22DVOECHELNAYA;31OKRYZHEVAYA",
    "32POVODNAYA;31AYA KLYUCHEVAYA;31OPOVODNAYA KLYUCHEVAYA;22GROMNAYA WITH SINGLE ZAPYATAYA",
    "26OPOVODNAYA WITH SINGLE ZAPYATAYA;26NAYA;26OPOVODNAYA;36 WITH DOUBLE ZAPYATAYA",
    "27KRYZHEVAYA;37 POVODNAYA;15MECHIK;21 POVODNY;22KLYUCHEVOY;29POVODNY;29NEPOSTOYANNY",
    "15STRELA TRYASOGLASNAYA;28POVODNAYA;28STRELNAYA;15OSOKA;20 SVETLAYA;21TRESVETLAYA",
    "21KRYUKOVAYA SVETLAYA;22LYUCHEVAYA SVETLAYA;33NEPOSTOYANNAYA;15STRELA KRYUKOVAYA",
    "32 POVODNAYA;33GROMNAYA WITH SINGLE ZAPYATAYA;37OPOVODNAYA WITH SINGLE ZAPYATAYA;37NAYA",
    "37OPOVODNAYA;47 WITH DOUBLE ZAPYATAYA;38KRYZHEVAYA;48 POVODNAYA;33TRYASKA;15KUFISMA",
    "15OBLAKO;15DUDA;15NEMKA;15PAUK;+3C;00BYZANTINE MUSICAL SYMBOL PSILI;25DASEIA",
    "25PERISPOMENI;25OXEIA EKFONITIKON;31DIPLI;25VAREIA EKFONITIKON;32DIPLI;25KATHISTI",
    "25SYRMATIKI;25PARAKLITIKI;25YPOKRISIS;34 DIPLI;25KREMASTI;25APESO EKFONITIKON",
    "25EXO EKFONITIKON;25TELEIA;25KENTIMATA;25APOSTROFOS;35 DIPLI;25SYNEVMA;25THITA",
    "25OLIGON ARCHAION;25GORGON ARCHAION;25PSILON;25CHAMILON;25VATHY;25ISON ARCHAION",
    "25KENTIMA ARCHAION;32TA ARCHAION;25SAXIMATA;25PARICHON;25STAVROS APODEXIA",
    "25OXEIAI ARCHAION;25VAREIAI ARCHAION;25APODERMA ARCHAION;28THEMA;25KLASMA;25REVMA",
    "25PIASMA ARCHAION;25TINAGMA;25ANATRICHISMA;25SEISMA;26YNAGMA ARCHAION;33META STAVROU",
    "25OYRANISMA ARCHAION;25THEMA;25LEMOI;25DYO;25TRIA;26ESSERA;25KRATIMATA;25APESO EXO NEO",
    "25FTHORA ARCHAION;25IMIFTHORA;25TROMIKON ARCHAION;25KATAVA TROMIKON;25PELASTON",
    "26SIFISTON;25KONTEVMA;25CHOREVMA ARCHAION;25RAPISMA;25PARAKALESMA ARCHAION",
    "30LITIKI ARCHAION;25ICHADIN;25NANA;25PETASMA;25KONTEVMA ALLO;25TROMIKON ALLO",
    "25STRAGGISMATA;25GRONTHISMATA;25ISON NEO;25OLIGON NEO;26XEIA NEO;25PETASTI;25KOUFISMA",
    "25PETASTOKOUFISMA;25KRATIMOKOUFISMA;25PELASTON NEO;25KENTIMATA NEO ANO;32 NEO ANO",
    "25YPSILI;25APOSTROFOS NEO;34I SYNDESMOS NEO;25YPORROI;25KRATIMOYPORROON;25ELAFRON",
    "25CHAMILI;25MIKRON ISON;25VAREIA NEO;25PIASMA NEO;26SIFISTON NEO;25OMALON;25ANTIKENOMA",
    "25LYGISMA;25PARAKLITIKI NEO;30ALESMA NEO;25ETERON PARAKALESMA;25KYLISMA",
    "25ANTIKENOKYLISMA;25TROMIKON NEO;25EKSTREPTON;25SYNAGMA NEO;27RMA;25CHOREVMA NEO",
    "25EPEGERMA;25SEISMA NEO;25XIRON KLASMA;25TROMIKOPSIFISTON;25PSIFISTOLYGISMA",
    "25TROMIKOLYGISMA;32PARAKALESMA;25PSIFISTOPARAKALESMA;25TROMIKOSYNAGMA;25PSIFISTOSYNAGMA",
    "25GORGOSYNTHETON;25ARGOSYNTHETON;25ETERON ARGOSYNTHETON;25OYRANISMA NEO",
    "25THEMATISMOS ESO;38XO;30 APLOUN;28S KAI APOTHES;25KATAVASMA;25ENDOFONON;25YFEN KATO",
    "30ANO;25STAVROS;25KLASMA ANO;25DIPLI ARCHAION;25KRATIMA ARCHAION;34LLO;33NEO",
    "25APODERMA NEO;27LI;25DIPLI;25TRIPLI;26ETRAPLI;25KORONIS;25LEIMMA ENOS CHRONOU",
    "32DYO CHRONON;32TRION CHRONON;33ESSARON CHRONON;32IMISEOS CHRONOU;25GORGON NEO ANO",
    "32PARESTIGMENON ARISTERA;46DEXIA;25DIGORGON;33 PARESTIGMENON ARISTERA KATO;57ANO;48DEXIA",
    "25TRIGORGON;25ARGON;25IMIDIARGON;25DIARGON;25AGOGI POLI ARGI;31ARGOTERI;34I;31METRIA",
    "33SI;31GORGI;35OTERI;31POLI GORGI;25MARTYRIA PROTOS ICHOS;34ALLI PROTOS ICHOS",
    "34DEYTEROS ICHOS;34ALLI DEYTEROS ICHOS;34TRITOS ICHOS;37FONIAS;35ETARTOS ICHOS",
    "43LEGETOS ICHOS;34LEGETOS ICHOS;34PLAGIOS ICHOS;25ISAKIA TELOUS ICHIMATOS",
    "25APOSTROFOI TELOUS ICHIMATOS;25FANEROSIS TETRAFONIAS;35MONOFONIAS;35DIFONIAS",
    "25MARTYRIA VARYS ICHOS;34PROTOVARYS ICHOS;35LAGIOS TETARTOS ICHOS;25GORTHMIKON N APLOUN",
    "38DIPLOUN;25ENARXIS KAI FTHORA VOU;25IMIFONON;29THORON;25FTHORA ARCHAION DEYTEROU ICHOU",
    "32DIATONIKI PA;42NANA;32NAOS ICHOS;32DIATONIKI DI;32SKLIRON DIATONON DI;32DIATONIKI KE",
    "42ZO;42NI KATO;45ANO;32MALAKON CHROMA DIFONIAS;47MONOFONIAS;26HTORA SKLIRON CHROMA VASIS",
    "26THORA SKLIRON CHROMA SYNAFI;32NENANO;25CHROA ZYGOS;31KLITON;31SPATHI",
    "25FTHORA I YFESIS TETARTIMORION;32ENARMONIOS ANTIFONIA;25YFESIS TRITIMORION",
    "25DIESIS TRITIMORION;33ETARTIMORION;32APLI DYO DODEKATA;32MONOGRAMMOS TESSERA DODEKATA",
    "32DIGRAMMOS EX DODEKATA;32TRIGRAMMOS OKTO DODEKATA;25YFESIS APLI DYO DODEKATA",
    "32MONOGRAMMOS TESSERA DODEKATA;32DIGRAMMOS EX DODEKATA;32TRIGRAMMOS OKTO DODEKATA",
    "25GENIKI DIESIS;32YFESIS;25DIASTOLI APLI MIKRI;40EGALI;34DIPLI;34THESEOS",
    "25SIMANSIS THESEOS;41 DISIMOU;42TRISIMOU;43ETRASIMOU;34ARSEOS;40 DISIMOU;41TRISIMOU",
    "42ETRASIMOU;25DIGRAMMA GG;27FTOGGOS OU;25STIGMA;25ARKTIKO PA;33VOU;33GA;33DI;33KE;33ZO",
    "33NI;25KENTIMATA NEO MESO;32 NEO MESO;32TA NEO KATO;32 NEO KATO;26LASMA KATO",
    "25GORGON NEO KATO;+A;00MUSICAL SYMBOL SINGLE BARLINE;15DOUBLE BARLINE;15FINAL BARLINE",
    "15REVERSE FINAL BARLINE;15DASHED BARLINE;15SHORT BARLINE;15LEFT REPEAT SIGN",
    "15RIGHT REPEAT SIGN;16EPEAT DOTS;15DAL SEGNO;17 CAPO;15SEGNO;15CODA;15REPEATED FIGURE-1",
    "312;313;15FERMATA;22 BELOW;15BREATH MARK;15CAESURA;15BRACE;19KET;15ONE-LINE STAFF",
    "15TWO-LINE STAFF;16HREE-LINE STAFF;15FOUR-LINE STAFF;16IVE-LINE STAFF;15SIX-LINE STAFF",
    "19STRING FRETBOARD;15FOUR-STRING FRETBOARD;15G CLEF;21 OTTAVA ALTA;29BASSA;15C CLEF",
    "15F CLEF;21 OTTAVA ALTA;29BASSA;15DRUM CLEF-1;252;+2;15MULTIPLE MEASURE REST",
    "15DOUBLE SHARP;22FLAT;15FLAT UP;20DOWN;15NATURAL UP;23DOWN;15SHARP UP;21DOWN",
    "15QUARTER TONE SHARP;28FLAT;15COMMON TIME;16UT TIME;15OTTAVA ALTA;22BASSA",
    "15QUINDICESIMA ALTA;28BASSA;15MULTI REST;15WHOLE REST;15HALF REST;15QUARTER REST",
    "15EIGHTH REST;15SIXTEENTH REST;15THIRTY-SECOND REST;15SIXTY-FOURTH REST",
    "15ONE HUNDRED TWENTY-EIGHTH REST;15X NOTEHEAD;15PLUS NOTEHEAD;15CIRCLE X NOTEHEAD",
    "15SQUARE NOTEHEAD WHITE;31BLACK;15TRIANGLE NOTEHEAD UP WHITE;36BLACK;33LEFT WHITE",
    "38BLACK;33RIGHT WHITE;39BLACK;33DOWN WHITE;38BLACK;33UP RIGHT WHITE;42BLACK",
    "15MOON NOTEHEAD WHITE;29BLACK;15TRIANGLE-ROUND NOTEHEAD DOWN WHITE;44BLACK",
    "15PARENTHESIS NOTEHEAD;15VOID NOTEHEAD;15NOTEHEAD BLACK;16ULL NOTEHEAD",
    "15CLUSTER NOTEHEAD WHITE;32BLACK;15BREVE;15WHOLE NOTE;15HALF NOTE;15QUARTER NOTE",
    "15EIGHTH NOTE;15SIXTEENTH NOTE;15THIRTY-SECOND NOTE;15SIXTY-FOURTH NOTE",
    "15ONE HUNDRED TWENTY-EIGHTH NOTE;15COMBINING STEM;26PRECHGESANG STEM;25TREMOLO-1;332;333",
    "15FINGERED TREMOLO-1;322;323;15COMBINING AUGMENTATION DOT;25FLAG-1;302;303;304;305",
    "15BEGIN BEAM;15END BEAM;15BEGIN TIE;15END TIE;15BEGIN SLUR;15END SLUR;15BEGIN PHRASE",
    "15END PHRASE;15COMBINING ACCENT;25STACCATO;25TENUTO;25STACCATISSIMO;25MARCATO",
    "32-STACCATO;25ACCENT-STACCATO;25LOURE;15ARPEGGIATO UP;26DOWN;15COMBINING DOIT;25RIP",
    "25FLIP;25SMEAR;25BEND;25DOUBLE TONGUE;25TRIPLE TONGUE;15RINFORZANDO;15SUBITO;15Z;15PIANO",
    "15MEZZO;15FORTE;15CRESCENDO;15DECRESCENDO;15GRACE NOTE SLASH;26NO SLASH;15TR;16URN",
    "15INVERTED TURN;15TURN SLASH;20UP;15ORNAMENT STROKE-1;312;313;314;315;316;317;318;319",
    "3110;321;15HAUPTSTIMME;15NEBENSTIMME;15END OF STIMME;15DEGREE SLASH;15COMBINING DOWN BOW",
    "25UP BOW;25HARMONIC;25SNAP PIZZICATO;15PEDAL MARK;21UP MARK;15HALF PEDAL MARK",
    "15GLISSANDO UP;25DOWN;15WITH FINGERNAILS;15DAMP;19 ALL;15MAXIMA;15LONGA;15BREVIS",
    "15SEMIBREVIS WHITE;26BLACK;15MINIMA;21 BLACK;15SEMIMINIMA WHITE;26BLACK;15FUSA WHITE",
    "20BLACK;15LONGA PERFECTA REST;21IMPERFECTA REST;15BREVIS REST;15SEMIBREVIS REST",
    "15MINIMA REST;15SEMIMINIMA REST;15TEMPUS PERFECTUM CUM PROLATIONE PERFECTA;47IMPERFECTA",
    "47PERFECTA DIMINUTION-1;22IMPERFECTUM CUM PROLATIONE PERFECTA;49IMPERFECTA",
    "59 DIMINUTION-1;712;713;15CROIX;15GREGORIAN C CLEF;25F CLEF;15SQUARE B;15VIRGA;15PODATUS",
    "15CLIVIS;15SCANDICUS;15CLIMACUS;15TORCULUS;15PORRECTUS;24 FLEXUS;15SCANDICUS FLEXUS",
    "15TORCULUS RESUPINUS;15PES SUBPUNCTIS;15KIEVAN C CLEF;22END OF PIECE;22FINAL NOTE",
    "22RECITATIVE MARK;22WHOLE NOTE;22HALF NOTE;22QUARTER NOTE STEM DOWN;40UP",
    "22EIGHTH NOTE STEM DOWN;39UP;22FLAT SIGN;15SORI;15KORON;+15",
    "00GREEK VOCAL NOTATION SYMBOL-1;282;283;284;285;286;287;288;289;2810;291;292;293;294;295",
    "296;297;298;299;2820;291;292;293;294;2850;291;292;293;294",
    "06INSTRUMENTAL NOTATION SYMBOL-1;352;354;355;357;358;3511;362;363;364;367;368;369;3523",
    "364;365;366;367;369;3530;362;366;367;368;369;3540;362;363;365;367;368;369;3550;361;362",
    "363;364;00COMBINING GREEK MUSICAL TRISEME;25ETRASEME;24PENTASEME;00GREEK MUSICAL LEIMMA",
    "+9A;00MAYAN NUMERAL ZERO;14ONE;14TWO;15HREE;14FOUR;15IVE;14SIX;15EVEN;14EIGHT;14NINE",
    "14TEN;14ELEVEN;14TWELVE;15HIRTEEN;14FOURTEEN;15IFTEEN;14SIXTEEN;15EVENTEEN;14EIGHTEEN",
    "14NINETEEN;+C;01ONOGRAM FOR EARTH;00DIGRAM FOR HEAVENLY EARTH;12UMAN EARTH",
    "11EARTHLY HEAVEN;20UMAN;16;00TETRAGRAM FOR CENTRE;14FULL CIRCLE;14MIRED;14BARRIER",
    "14KEEPING SMALL;14CONTRARIETY;14ASCENT;14OPPOSITION;14BRANCHING OUT",
    "14DEFECTIVENESS OR DISTORTION;15IVERGENCE;14YOUTHFULNESS;14INCREASE;14PENETRATION",
    "14REACH;14CONTACT;14HOLDING BACK;14WAITING;14FOLLOWING;14ADVANCE;14RELEASE;16SISTANCE",
    "14EASE;14JOY;14CONTENTION;14ENDEAVOUR;14DUTIES;14CHANGE;14DECISIVENESS;14BOLD RESOLUTION",
    "14PACKING;14LEGION;14CLOSENESS;14KINSHIP;14GATHERING;14STRENGTH;14PURITY;14FULLNESS",
    "14RESIDENCE;14LAW OR MODEL;14RESPONSE;14GOING TO MEET;14ENCOUNTERS;14STOVE;14GREATNESS",
    "14ENLARGEMENT;14PATTERN;14RITUAL;14FLIGHT;14VASTNESS OR WASTING;14CONSTANCY;14MEASURE",
    "14ETERNITY;14UNITY;14DIMINISHMENT;14CLOSED MOUTH;14GUARDEDNESS;15ATHERING IN;14MASSING",
    "14ACCUMULATION;14EMBELLISHMENT;14DOUBT;14WATCH;14SINKING;14INNER;14DEPARTURE;15ARKENING",
    "15IMMING;14EXHAUSTION;14SEVERANCE;15TOPPAGE;14HARDNESS;14COMPLETION;15LOSURE;14FAILURE",
    "14AGGRAVATION;14COMPLIANCE;14ON THE VERGE;14DIFFICULTIES;14LABOURING;14FOSTERING;+9",
    "00COUNTING ROD UNIT DIGIT ONE;24TWO;25HREE;24FOUR;25IVE;24SIX;25EVEN;24EIGHT;24NINE",
    "13TENS DIGIT ONE;24TWO;25HREE;24FOUR;25IVE;24SIX;25EVEN;24EIGHT;24NINE",
    "00IDEOGRAPHIC TALLY MARK ONE;23TWO;24HREE;23FOUR;24IVE;00TALLY MARK ONE;11FIVE;+87",
    "00MATHEMATICAL BOLD CAPITAL A;26B;26C;26D;26E;26F;26G;26H;26I;26J;26K;26L;26M;26N;26O",
    "26P;26Q;26R;26S;26T;26U;26V;26W;26X;26Y;26Z;18SMALL A;24B;24C;24D;24E;24F;24G;24H;24I",
    "24J;24K;24L;24M;24N;24O;24P;24Q;24R;24S;24T;24U;24V;24W;24X;24Y;24Z;13ITALIC CAPITAL A",
    "28B;28C;28D;28E;28F;28G;28H;28I;28J;28K;28L;28M;28N;28O;28P;28Q;28R;28S;28T;28U;28V;28W",
    "28X;28Y;28Z;20SMALL A;26B;26C;26D;26E;26F;26G;+1;26I;26J;26K;26L;26M;26N;26O;26P;26Q;26R",
    "26S;26T;26U;26V;26W;26X;26Y;26Z;13BOLD ITALIC CAPITAL A;33B;33C;33D;33E;33F;33G;33H;33I",
    "33J;33K;33L;33M;33N;33O;33P;33Q;33R;33S;33T;33U;33V;33W;33X;33Y;33Z;25SMALL A;31B;31C",
    "31D;31E;31F;31G;31H;31I;31J;31K;31L;31M;31N;31O;31P;31Q;31R;31S;31T;31U;31V;31W;31X;31Y",
    "31Z;13SCRIPT CAPITAL A;+1;28C;28D;+2;28G;+2;28J;28K;+2;28N;28O;28P;28Q;+1;28S;28T;28U",
    "28V;28W;28X;28Y;28Z;20SMALL A;26B;26C;26D;+1;26F;+1;26H;26I;26J;26K;26L;26M;26N;+1;26P",
    "26Q;26R;26S;26T;26U;26V;26W;26X;26Y;26Z;13BOLD SCRIPT CAPITAL A;33B;33C;33D;33E;33F;33G",
    "33H;33I;33J;33K;33L;33M;33N;33O;33P;33Q;33R;33S;33T;33U;33V;33W;33X;33Y;33Z;25SMALL A",
    "31B;31C;31D;31E;31F;31G;31H;31I;31J;31K;31L;31M;31N;31O;31P;31Q;31R;31S;31T;31U;31V;31W",
    "31X;31Y;31Z;13FRAKTUR CAPITAL A;29B;+1;29D;29E;29F;29G;+2;29J;29K;29L;29M;29N;29O;29P",
    "29Q;+1;29S;29T;29U;29V;29W;29X;29Y;+1;21SMALL A;27B;27C;27D;27E;27F;27G;27H;27I;27J;27K",
    "27L;27M;27N;27O;27P;27Q;27R;27S;27T;27U;27V;27W;27X;27Y;27Z;13DOUBLE-STRUCK CAPITAL A",
    "35B;+1;35D;35E;35F;35G;+1;35I;35J;35K;35L;35M;+1;35O;+3;35S;35T;35U;35V;35W;35X;35Y;+1",
    "27SMALL A;33B;33C;33D;33E;33F;33G;33H;33I;33J;33K;33L;33M;33N;33O;33P;33Q;33R;33S;33T",
    "33U;33V;33W;33X;33Y;33Z;13BOLD FRAKTUR CAPITAL A;34B;34C;34D;34E;34F;34G;34H;34I;34J;34K",
    "34L;34M;34N;34O;34P;34Q;34R;34S;34T;34U;34V;34W;34X;34Y;34Z;26SMALL A;32B;32C;32D;32E",
    "32F;32G;32H;32I;32J;32K;32L;32M;32N;32O;32P;32Q;32R;32S;32T;32U;32V;32W;32X;32Y;32Z",
    "13SANS-SERIF CAPITAL A;32B;32C;32D;32E;32F;32G;32H;32I;32J;32K;32L;32M;32N;32O;32P;32Q",
    "32R;32S;32T;32U;32V;32W;32X;32Y;32Z;24SMALL A;30B;30C;30D;30E;30F;30G;30H;30I;30J;30K",
    "30L;30M;30N;30O;30P;30Q;30R;30S;30T;30U;30V;30W;30X;30Y;30Z;24BOLD CAPITAL A;37B;37C;37D",
    "37E;37F;37G;37H;37I;37J;37K;37L;37M;37N;37O;37P;37Q;37R;37S;37T;37U;37V;37W;37X;37Y;37Z",
    "29SMALL A;35B;35C;35D;35E;35F;35G;35H;35I;35J;35K;35L;35M;35N;35O;35P;35Q;35R;35S;35T",
    "35U;35V;35W;35X;35Y;35Z;24ITALIC CAPITAL A;39B;39C;39D;39E;39F;39G;39H;39I;39J;39K;39L",
    "39M;39N;39O;39P;39Q;39R;39S;39T;39U;39V;39W;39X;39Y;39Z;31SMALL A;37B;37C;37D;37E;37F",
    "37G;37H;37I;37J;37K;37L;37M;37N;37O;37P;37Q;37R;37S;37T;37U;37V;37W;37X;37Y;37Z",
    "24BOLD ITALIC CAPITAL A;44B;44C;44D;44E;44F;44G;44H;44I;44J;44K;44L;44M;44N;44O;44P;44Q",
    "44R;44S;44T;44U;44V;44W;44X;44Y;44Z;36SMALL A;42B;42C;42D;42E;42F;42G;42H;42I;42J;42K",
    "42L;42M;42N;42O;42P;42Q;42R;42S;42T;42U;42V;42W;42X;42Y;42Z;13MONOSPACE CAPITAL A;31B",
    "31C;31D;31E;31F;31G;31H;31I;31J;31K;31L;31M;31N;31O;31P;31Q;31R;31S;31T;31U;31V;31W;31X",
    "31Y;31Z;23SMALL A;29B;29C;29D;29E;29F;29G;29H;29I;29J;29K;29L;29M;29N;29O;29P;29Q;29R",
    "29S;29T;29U;29V;29W;29X;29Y;29Z;13ITALIC SMALL DOTLESS I;34J;+2;13BOLD CAPITAL ALPHA",
    "26BETA;26GAMMA;26DELTA;26EPSILON;26ZETA;26ETA;26THETA;26IOTA;26KAPPA;26LAMDA;26MU;26NU",
    "26XI;26OMICRON;26PI;26RHO;26THETA SYMBOL;26SIGMA;26TAU;26UPSILON;26PHI;26CHI;26PSI",
    "26OMEGA;18NABLA;18SMALL ALPHA;24BETA;24GAMMA;24DELTA;24EPSILON;24ZETA;24ETA;24THETA",
    "24IOTA;24KAPPA;24LAMDA;24MU;24NU;24XI;24OMICRON;24PI;24RHO;24FINAL SIGMA;24SIGMA;24TAU",
    "24UPSILON;24PHI;24CHI;24PSI;24OMEGA;18PARTIAL DIFFERENTIAL;18EPSILON SYMBOL",
    "18THETA SYMBOL;18KAPPA SYMBOL;18PHI SYMBOL;18RHO SYMBOL;18PI SYMBOL",
    "13ITALIC CAPITAL ALPHA;28BETA;28GAMMA;28DELTA;28EPSILON;28ZETA;28ETA;28THETA;28IOTA",
    "28KAPPA;28LAMDA;28MU;28NU;28XI;28OMICRON;28PI;28RHO;28THETA SYMBOL;28SIGMA;28TAU",
    "28UPSILON;28PHI;28CHI;28PSI;28OMEGA;20NABLA;20SMALL ALPHA;26BETA;26GAMMA;26DELTA",
    "26EPSILON;26ZETA;26ETA;26THETA;26IOTA;26KAPPA;26LAMDA;26MU;26NU;26XI;26OMICRON;26PI",
    "26RHO;26FINAL SIGMA;26SIGMA;26TAU;26UPSILON;26PHI;26CHI;26PSI;26OMEGA",
    "20PARTIAL DIFFERENTIAL;20EPSILON SYMBOL;20THETA SYMBOL;20KAPPA SYMBOL;20PHI SYMBOL",
    "20RHO SYMBOL;20PI SYMBOL;13BOLD ITALIC CAPITAL ALPHA;33BETA;33GAMMA;33DELTA;33EPSILON",
    "33ZETA;33ETA;33THETA;33IOTA;33KAPPA;33LAMDA;33MU;33NU;33XI;33OMICRON;33PI;33RHO",
    "33THETA SYMBOL;33SIGMA;33TAU;33UPSILON;33PHI;33CHI;33PSI;33OMEGA;25NABLA;25SMALL ALPHA",
    "31BETA;31GAMMA;31DELTA;31EPSILON;31ZETA;31ETA;31THETA;31IOTA;31KAPPA;31LAMDA;31MU;31NU",
    "31XI;31OMICRON;31PI;31RHO;31FINAL SIGMA;31SIGMA;31TAU;31UPSILON;31PHI;31CHI;31PSI",
    "31OMEGA;25PARTIAL DIFFERENTIAL;25EPSILON SYMBOL;25THETA SYMBOL;25KAPPA SYMBOL",
    "25PHI SYMBOL;25RHO SYMBOL;25PI SYMBOL;13SANS-SERIF BOLD CAPITAL ALPHA;37BETA;37GAMMA",
    "37DELTA;37EPSILON;37ZETA;37ETA;37THETA;37IOTA;37KAPPA;37LAMDA;37MU;37NU;37XI;37OMICRON",
    "37PI;37RHO;37THETA SYMBOL;37SIGMA;37TAU;37UPSILON;37PHI;37CHI;37PSI;37OMEGA;29NABLA",
    "29SMALL ALPHA;35BETA;35GAMMA;35DELTA;35EPSILON;35ZETA;35ETA;35THETA;35IOTA;35KAPPA",
    "35LAMDA;35MU;35NU;35XI;35OMICRON;35PI;35RHO;35FINAL SIGMA;35SIGMA;35TAU;35UPSILON;35PHI",
    "35CHI;35PSI;35OMEGA;29PARTIAL DIFFERENTIAL;29EPSILON SYMBOL;29THETA SYMBOL",
    "29KAPPA SYMBOL;29PHI SYMBOL;29RHO SYMBOL;29PI SYMBOL;29ITALIC CAPITAL ALPHA;44BETA",
    "44GAMMA;44DELTA;44EPSILON;44ZETA;44ETA;44THETA;44IOTA;44KAPPA;44LAMDA;44MU;44NU;44XI",
    "44OMICRON;44PI;44RHO;44THETA SYMBOL;44SIGMA;44TAU;44UPSILON;44PHI;44CHI;44PSI;44OMEGA",
    "36NABLA;36SMALL ALPHA;42BETA;42GAMMA;42DELTA;42EPSILON;42ZETA;42ETA;42THETA;42IOTA",
    "42KAPPA;42LAMDA;42MU;42NU;42XI;42OMICRON;42PI;42RHO;42FINAL SIGMA;42SIGMA;42TAU",
    "42UPSILON;42PHI;42CHI;42PSI;42OMEGA;36PARTIAL DIFFERENTIAL;36EPSILON SYMBOL",
    "36THETA SYMBOL;36KAPPA SYMBOL;36PHI SYMBOL;36RHO SYMBOL;36PI SYMBOL",
    "13BOLD CAPITAL DIGAMMA;18SMALL DIGAMMA;+2;18DIGIT ZERO;24ONE;24TWO;25HREE;24FOUR;25IVE",
    "24SIX;25EVEN;24EIGHT;24NINE;13DOUBLE-STRUCK DIGIT ZERO;33ONE;33TWO;34HREE;33FOUR;34IVE",
    "33SIX;34EVEN;33EIGHT;33NINE;13SANS-SERIF DIGIT ZERO;30ONE;30TWO;31HREE;30FOUR;31IVE",
    "30SIX;31EVEN;30EIGHT;30NINE;24BOLD DIGIT ZERO;35ONE;35TWO;36HREE;35FOUR;36IVE;35SIX",
    "36EVEN;35EIGHT;35NINE;13MONOSPACE DIGIT ZERO;29ONE;29TWO;30HREE;29FOUR;30IVE;29SIX",
    "30EVEN;29EIGHT;29NINE;00SIGNWRITING HAND-FIST INDEX;17CIRCLE INDEX;18UP INDEX",
    "17OVAL INDEX;17HINGE INDEX;17ANGLE INDEX;17FIST INDEX BENT;17CIRCLE INDEX BENT",
    "17FIST THUMB UNDER INDEX BENT;22INDEX RAISED KNUCKLE;28CUPPED;28HINGED;34 LOW",
    "17CIRCLE INDEX HINGE;17FIST INDEX MIDDLE;17CIRCLE INDEX MIDDLE;17FIST INDEX MIDDLE BENT",
    "35RAISED KNUCKLES;35HINGED;28UP MIDDLE HINGED;28HINGED MIDDLE UP;28MIDDLE CONJOINED",
    "44 INDEX BENT;45MIDDLE BENT;45CUPPED;45HINGED;36ROSSED;17CIRCLE INDEX MIDDLE CROSSED",
    "17FIST MIDDLE BENT OVER INDEX;22INDEX BENT OVER MIDDLE;28MIDDLE THUMB",
    "17CIRCLE INDEX MIDDLE THUMB;17FIST INDEX MIDDLE STRAIGHT THUMB BENT",
    "35BENT THUMB STRAIGHT;35THUMB BENT;35HINGED SPREAD THUMB SIDE",
    "28UP MIDDLE HINGED THUMB SIDE;51CONJOINED;28HINGED MIDDLE UP THUMB SIDE",
    "28MIDDLE UP SPREAD THUMB FORWARD;35THUMB CUPPED;42IRCLED;41HOOKED;42INGED",
    "22THUMB BETWEEN INDEX MIDDLE STRAIGHT;22INDEX MIDDLE CONJOINED THUMB SIDE;55 CONJOINED",
    "56BENT;22MIDDLE THUMB HOOKED INDEX UP;22INDEX THUMB HOOKED MIDDLE UP",
    "28MIDDLE CONJOINED HINGED THUMB SIDE;36ROSSED THUMB SIDE;36ONJOINED THUMB FORWARD",
    "45CUPPED THUMB FORWARD;22MIDDLE THUMB CUPPED INDEX UP;22INDEX THUMB CUPPED MIDDLE UP",
    "22MIDDLE THUMB CIRCLED INDEX UP;49HINGED;22INDEX THUMB ANGLED OUT MIDDLE UP",
    "41IN MIDDLE UP;34CIRCLED MIDDLE UP;28MIDDLE THUMB CONJOINED HINGED;41ANGLED OUT;47",
    "22MIDDLE THUMB ANGLED OUT INDEX UP;52CROSSED;42INDEX UP",
    "22INDEX THUMB HOOKED MIDDLE HINGED;18LAT FOUR FINGERS;34 BENT;35HINGED;35CONJOINED",
    "44 SPLIT;17CLAW FOUR FINGERS CONJOINED;17FIST FOUR FINGERS CONJOINED BENT",
    "17HINGE FOUR FINGERS CONJOINED;17FLAT FIVE FINGERS SPREAD;22HEEL FIVE FINGERS SPREAD",
    "22FIVE FINGERS SPREAD FOUR BENT;22HEEL FIVE FINGERS SPREAD FOUR BENT",
    "22FIVE FINGERS SPREAD BENT;22HEEL FIVE FINGERS SPREAD BENT",
    "22FIVE FINGERS SPREAD THUMB FORWARD;17CUP FIVE FINGERS SPREAD;40 OPEN",
    "17HINGE FIVE FINGERS SPREAD OPEN;17OVAL FIVE FINGERS SPREAD",
    "17FLAT FIVE FINGERS SPREAD HINGED;48 THUMB SIDE;49NO THUMB;21;21 BETWEEN PALM FACINGS",
    "22HEEL;22THUMB SIDE;22HEEL THUMB SIDE;22THUMB BENT;28FORWARD;22SPLIT INDEX THUMB SIDE",
    "28CENTRE;34 THUMB SIDE;45 BENT;28LITTLE;17CLAW;21 THUMB SIDE;22NO THUMB;22THUMB FORWARD",
    "17HOOK CURLICUE;21;17CUP OPEN;20;20 OPEN THUMB SIDE;21THUMB SIDE;21OPEN NO THUMB",
    "21NO THUMB;21OPEN THUMB FORWARD;21THUMB FORWARD;19RLICUE OPEN;25;18IRCLE;17OVAL",
    "21 THUMB SIDE;22NO THUMB;22THUMB FORWARD;17HINGE OPEN;27 THUMB FORWARD;22;22 SMALL",
    "23OPEN THUMB SIDE;23THUMB SIDE;23OPEN NO THUMB;23NO THUMB;23THUMB SIDE TOUCHING INDEX",
    "29BETWEEN MIDDLE RING;17ANGLE;17FIST INDEX MIDDLE RING;17CIRCLE INDEX MIDDLE RING",
    "17HINGE INDEX MIDDLE RING;17ANGLE INDEX MIDDLE RING;17HINGE LITTLE",
    "17FIST INDEX MIDDLE RING BENT;40CONJOINED;17HINGE INDEX MIDDLE RING CONJOINED",
    "17FIST LITTLE DOWN;33 RIPPLE STRAIGHT;41CURVED;34OTHERS CIRCLED;29UP",
    "22THUMB UNDER LITTLE UP;17CIRCLE LITTLE UP;17OVAL LITTLE UP;17ANGLE LITTLE UP",
    "17FIST LITTLE RAISED KNUCKLE;29BENT;29TOUCHES THUMB;30HUMB;17HINGE LITTLE THUMB",
    "17FIST LITTLE INDEX THUMB;17HINGE LITTLE INDEX THUMB",
    "17ANGLE LITTLE INDEX THUMB INDEX THUMB OUT;53;17FIST LITTLE INDEX;17CIRCLE LITTLE INDEX",
    "17HINGE LITTLE INDEX;17ANGLE LITTLE INDEX;17FIST INDEX MIDDLE LITTLE",
    "17CIRCLE INDEX MIDDLE LITTLE;17HINGE INDEX MIDDLE LITTLE;23RING",
    "17ANGLE INDEX MIDDLE LITTLE;17FIST INDEX MIDDLE CROSS LITTLE",
    "17CIRCLE INDEX MIDDLE CROSS LITTLE;17FIST RING DOWN",
    "17HINGE RING DOWN INDEX THUMB HOOK MIDDLE;17ANGLE RING DOWN MIDDLE THUMB INDEX CROSS",
    "17FIST RING UP;27RAISED KNUCKLE;27LITTLE;17CIRCLE RING LITTLE;17OVAL RING LITTLE",
    "17ANGLE RING LITTLE;17FIST RING MIDDLE;33 CONJOINED;34RAISED KNUCKLES;27INDEX;27THUMB",
    "17HOOK RING THUMB;17FIST INDEX RING LITTLE;17CIRCLE INDEX RING LITTLE",
    "18URLICUE INDEX RING LITTLE ON;17HOOK INDEX RING LITTLE OUT;40IN;40UNDER",
    "17CUP INDEX RING LITTLE;17HINGE INDEX RING LITTLE;17ANGLE INDEX RING LITTLE OUT;40",
    "17FIST MIDDLE DOWN;17HINGE MIDDLE;17FIST MIDDLE UP;17CIRCLE MIDDLE UP",
    "17FIST MIDDLE RAISED KNUCKLE;29UP THUMB SIDE;17HOOK MIDDLE THUMB",
    "17FIST MIDDLE THUMB LITTLE;29LITTLE;29RING LITTLE;17CIRCLE MIDDLE RING LITTLE",
    "18URLICUE MIDDLE RING LITTLE ON;19P MIDDLE RING LITTLE;17HINGE MIDDLE RING LITTLE",
    "17ANGLE MIDDLE RING LITTLE OUT;42IN;41;17CIRCLE MIDDLE RING LITTLE BENT",
    "18LAW MIDDLE RING LITTLE CONJOINED;50 SIDE;17HOOK MIDDLE RING LITTLE CONJOINED OUT;51IN",
    "50;18INGE INDEX HINGED;17FIST INDEX THUMB SIDE;17HINGE INDEX THUMB SIDE",
    "17FIST INDEX THUMB SIDE THUMB DIAGONAL;45CONJOINED;45BENT;39INDEX BENT;39BOTH BENT",
    "39INDEX HINGE;34FORWARD INDEX STRAIGHT;48BENT;34HOOK;34CURLICUE;37VE THUMB INSIDE",
    "17CLAW INDEX THUMB CURVE THUMB INSIDE;17FIST INDEX THUMB CURVE THUMB UNDER;35IRCLE",
    "17CUP INDEX THUMB;32 OPEN;17HINGE INDEX THUMB OPEN;35LARGE;34;34 SMALL",
    "17ANGLE INDEX THUMB OUT;35IN;34;17FIST THUMB;27 HEEL;28SIDE DIAGONAL;33CONJOINED;33BENT",
    "28FORWARD;28BETWEEN INDEX MIDDLE;36MIDDLE RING;36RING LITTLE;28UNDER TWO FINGERS",
    "28OVER TWO FINGERS;28UNDER THREE FINGERS;34FOUR FINGERS;28OVER FOUR RAISED KNUCKLES;21",
    "21 HEEL;12TOUCH SINGLE;18MULTIPLE;18BETWEEN;12GRASP SINGLE;18MULTIPLE;18BETWEEN",
    "12STRIKE SINGLE;19MULTIPLE;19BETWEEN;12BRUSH SINGLE;18MULTIPLE;18BETWEEN;12RUB SINGLE",
    "16MULTIPLE;16BETWEEN;12SURFACE SYMBOLS;20BETWEEN;13QUEEZE LARGE SINGLE;20SMALL SINGLE",
    "20LARGE MULTIPLE;20SMALL MULTIPLE;21EQUENTIAL;12FLICK LARGE SINGLE;18SMALL SINGLE",
    "18LARGE MULTIPLE;18SMALL MULTIPLE;19EQUENTIAL;12SQUEEZE FLICK ALTERNATING",
    "12MOVEMENT-HINGE UP DOWN LARGE;35SMALL;30SEQUENTIAL;27DOWN SEQUENTIAL",
    "27UP DOWN ALTERNATING LARGE;47SMALL;27SIDE TO SIDE SCISSORS;21WALLPLANE FINGER CONTACT",
    "21FLOORPLANE FINGER CONTACT;21WALLPLANE SINGLE STRAIGHT SMALL;47MEDIUM;47LARGE;52ST",
    "38WRIST FLEX;31DOUBLE STRAIGHT;38WRIST FLEX;38ALTERNATING;49 WRIST FLEX;31CROSS",
    "31TRIPLE STRAIGHT MOVEMENT;38WRIST FLEX;38ALTERNATING;49 WRIST FLEX;31BEND SMALL",
    "36MEDIUM;36LARGE;31CORNER SMALL;38MEDIUM;38LARGE;38ROTATION;32HECK SMALL;37MEDIUM",
    "37LARGE;31BOX SMALL;35MEDIUM;35LARGE;31ZIGZAG SMALL;38MEDIUM;38LARGE;31PEAKS SMALL",
    "37MEDIUM;37LARGE;12TRAVEL-WALLPLANE ROTATION-WALLPLANE SINGLE;48DOUBLE;48ALTERNATING",
    "38FLOORPLANE SINGLE;49DOUBLE;49ALTERNATING;29SHAKING;29ARM SPIRAL SINGLE;40DOUBLE",
    "40TRIPLE;12MOVEMENT-DIAGONAL AWAY SMALL;35MEDIUM;35LARGE;40ST;30TOWARDS SMALL;38MEDIUM",
    "38LARGE;43ST;30BETWEEN AWAY SMALL;43MEDIUM;43LARGE;48ST;38TOWARDS SMALL;46MEDIUM;46LARGE",
    "51ST;21FLOORPLANE SINGLE STRAIGHT SMALL;48MEDIUM;48LARGE;53ST;39WRIST FLEX",
    "32DOUBLE STRAIGHT;39WRIST FLEX;39ALTERNATING;50 WRIST FLEX;32CROSS",
    "32TRIPLE STRAIGHT MOVEMENT;39WRIST FLEX;39ALTERNATING MOVEMENT;51WRIST FLEX;32BEND",
    "32CORNER SMALL;39MEDIUM;39LARGE;33HECK;32BOX SMALL;36MEDIUM;36LARGE;32ZIGZAG SMALL",
    "39MEDIUM;39LARGE;32PEAKS SMALL;38MEDIUM;38LARGE",
    "12TRAVEL-FLOORPLANE ROTATION-FLOORPLANE SINGLE;50DOUBLE;50ALTERNATING;39WALLPLANE SINGLE",
    "49DOUBLE;49ALTERNATING;30SHAKING;12MOVEMENT-WALLPLANE CURVE QUARTER SMALL;45MEDIUM",
    "45LARGE;50ST;37HALF-CIRCLE SMALL;49MEDIUM;49LARGE;54ST;37THREE-QUARTER CIRCLE SMALL",
    "58MEDIUM;31HUMP SMALL;36MEDIUM;36LARGE;31LOOP SMALL;36MEDIUM;36LARGE;36SMALL DOUBLE",
    "31WAVE CURVE DOUBLE SMALL;49MEDIUM;49LARGE;42TRIPLE SMALL;49MEDIUM;49LARGE",
    "31CURVE THEN STRAIGHT;36D CROSS SMALL;44MEDIUM;12ROTATION-WALLPLANE SINGLE;31DOUBLE",
    "31ALTERNATE;12MOVEMENT-WALLPLANE SHAKING;31CURVE HITTING FRONT WALL",
    "31HUMP HITTING FRONT WALL;31LOOP HITTING FRONT WALL;31WAVE HITTING FRONT WALL",
    "12ROTATION-WALLPLANE SINGLE HITTING FRONT WALL;31DOUBLE HITTING FRONT WALL",
    "31ALTERNATING HITTING FRONT WALL;12MOVEMENT-WALLPLANE CURVE HITTING CHEST",
    "31HUMP HITTING CHEST;31LOOP HITTING CHEST;31WAVE HITTING CHEST",
    "12ROTATION-WALLPLANE SINGLE HITTING CHEST;31DOUBLE HITTING CHEST",
    "31ALTERNATING HITTING CHEST;12MOVEMENT-WALLPLANE WAVE DIAGONAL PATH SMALL;50MEDIUM",
    "50LARGE;21FLOORPLANE CURVE HITTING CEILING SMALL;54LARGE",
    "32HUMP HITTING CEILING SMALL DOUBLE;53LARGE DOUBLE;53SMALL TRIPLE;53LARGE TRIPLE",
    "32LOOP HITTING CEILING SMALL SINGLE;53LARGE SINGLE;53SMALL DOUBLE;53LARGE DOUBLE",
    "32WAVE HITTING CEILING SMALL;53LARGE;12ROTATION-FLOORPLANE SINGLE HITTING CEILING",
    "32DOUBLE HITTING CEILING;32ALTERNATING HITTING CEILING",
    "12MOVEMENT-FLOORPLANE CURVE HITTING FLOOR SMALL;52LARGE",
    "32HUMP HITTING FLOOR SMALL DOUBLE;51LARGE DOUBLE;51TRIPLE SMALL TRIPLE;58LARGE TRIPLE",
    "32LOOP HITTING FLOOR SMALL SINGLE;51LARGE SINGLE;51SMALL DOUBLE;51LARGE DOUBLE",
    "32WAVE HITTING FLOOR SMALL;51LARGE;12ROTATION-FLOORPLANE SINGLE HITTING FLOOR",
    "32DOUBLE HITTING FLOOR;32ALTERNATING HITTING FLOOR;12MOVEMENT-FLOORPLANE CURVE SMALL",
    "38MEDIUM;38LARGE;43ST;38COMBINED;32HUMP SMALL;32LOOP SMALL;32WAVE SNAKE;38MALL;37LARGE",
    "12ROTATION-FLOORPLANE SINGLE;32DOUBLE;32ALTERNATING",
    "12MOVEMENT-FLOORPLANE SHAKING PARALLEL;21WALLPLANE ARM CIRCLE SMALL SINGLE",
    "42MEDIUM SINGLE;42SMALL DOUBLE;42MEDIUM DOUBLE",
    "21FLOORPLANE ARM CIRCLE HITTING WALL SMALL SINGLE;56MEDIUM SINGLE;56LARGE SINGLE",
    "56SMALL DOUBLE;56MEDIUM DOUBLE;56LARGE DOUBLE;21WALLPLANE WRIST CIRCLE FRONT SINGLE",
    "50DOUBLE;21FLOORPLANE WRIST CIRCLE HITTING WALL SINGLE;58DOUBLE",
    "21WALLPLANE FINGER CIRCLES SINGLE;46DOUBLE",
    "21FLOORPLANE FINGER CIRCLES HITTING WALL SINGLE;60DOUBLE;12DYNAMIC ARROWHEAD SMALL",
    "30LARGE;20FAST;20SLOW;20TENSE;20RELAXED;20SIMULTANEOUS;32 ALTERNATING;20EVERY OTHER TIME",
    "20GRADUAL;12HEAD;16 RIM;17MOVEMENT-WALLPLANE STRAIGHT;36TILT;26FLOORPLANE STRAIGHT",
    "26WALLPLANE CURVE;26FLOORPLANE CURVE;25 CIRCLE",
    "12FACE DIRECTION POSITION NOSE FORWARD TILTING;41UP OR DOWN;51 TILTING",
    "12EYEBROWS STRAIGHT UP;30NEUTRAL;30DOWN;12DREAMY EYEBROWS NEUTRAL DOWN;28DOWN NEUTRAL",
    "28UP NEUTRAL;28NEUTRAL UP;12FOREHEAD NEUTRAL;21CONTACT;21WRINKLED;12EYES OPEN;17SQUEEZED",
    "17CLOSED;15 BLINK SINGLE;22MULTIPLE;15S HALF OPEN;17WIDE OPEN;17HALF CLOSED",
    "17WIDENING MOVEMENT;15 WINK;15LASHES UP;22DOWN;22FLUTTERING;15GAZE-WALLPLANE STRAIGHT",
    "38 DOUBLE;39ALTERNATING;20FLOORPLANE STRAIGHT;39 DOUBLE;40ALTERNATING;20WALLPLANE CURVED",
    "20FLOORPLANE CURVED;20WALLPLANE CIRCLING;12CHEEKS PUFFED;19NEUTRAL;19SUCKED",
    "12TENSE CHEEKS HIGH;25MIDDLE;25LOW;12EARS;12NOSE NEUTRAL;17CONTACT;17WRINKLES;18IGGLES",
    "12AIR BLOWING OUT;16SUCKING IN;16BLOW SMALL ROTATIONS;16SUCK SMALL ROTATIONS",
    "12BREATH INHALE;19EXHALE;12MOUTH CLOSED NEUTRAL;25FORWARD;25CONTACT;18SMILE;23 WRINKLED",
    "24OPEN;18FROWN;23 WRINKLED;24OPEN;18OPEN CIRCLE;23FORWARD;23WRINKLED;23OVAL;27 WRINKLED",
    "28YAWN;23RECTANGLE;32 WRINKLED;33YAWN;18KISS;22 FORWARD;23WRINKLED;18TENSE;23 FORWARD",
    "24SUCKED;12LIPS PRESSED TOGETHER;15 LOWER OVER UPPER;16UPPER OVER LOWER;12MOUTH CORNERS",
    "18WRINKLES SINGLE;27DOUBLE;12TONGUE STICKING OUT FAR;19LICKING LIPS;19TIP BETWEEN LIPS",
    "23TOUCHING INSIDE MOUTH;19INSIDE MOUTH RELAXED;19MOVES AGAINST CHEEK",
    "19CENTRE STICKING OUT;26INSIDE MOUTH;13EETH;17 MOVEMENT;18ON TONGUE;27 MOVEMENT;21LIPS",
    "25 MOVEMENT;18BITE LIPS;12MOVEMENT-WALLPLANE JAW;21FLOORPLANE JAW;12NECK;12HAIR",
    "12EXCITEMENT;12SHOULDER HIP SPINE;25POSITIONS;12WALLPLANE SHOULDER HIP MOVE",
    "12FLOORPLANE SHOULDER HIP MOVE;12SHOULDER TILTING FROM WAIST",
    "12TORSO-WALLPLANE STRAIGHT STRETCH;28CURVED BEND;18FLOORPLANE TWISTING",
    "12UPPER BODY TILTING FROM HIP JOINTS;12LIMB COMBINATION;17LENGTH-1;242;243;244;245;246",
    "247;12FINGER;12LOCATION-WALLPLANE SPACE;21FLOORPLANE SPACE;20 HEIGHT;21WIDTH;21DEPTH",
    "21HEAD NECK;21TORSO;21LIMBS DIGITS;12COMMA;12FULL STOP;12SEMICOLON;12COLON;12PARENTHESIS",
    "+F;12FILL MODIFIER-2;263;264;265;266;+1;12ROTATION MODIFIER-2;303;304;305;306;307;308",
    "309;3010;311;312;313;314;315;316;+450;00LATIN SMALL LETTER FENG DIGRAPH WITH TRILL",
    "19REVERSED SCRIPT G;06LETTER SMALL CAPITAL TURNED G;06SMALL LETTER REVERSED K",
    "06LETTER SMALL CAPITAL L WITH BELT;06SMALL LETTER LEZH WITH RETROFLEX HOOK",
    "19TURNED Y WITH BELT;19REVERSED ENG;19TURNED R WITH LONG LEG AND RETROFLEX HOOK",
    "20 WITH HOOK AND RETROFLEX HOOK;06LETTER RETROFLEX CLICK WITH RETROFLEX HOOK",
    "06SMALL LETTER ESH WITH DOUBLE BAR;38 AND CURL;19TURNED T WITH CURL",
    "06LETTER INVERTED GLOTTAL STOP WITH CURL;13STRETCHED C WITH CURL;14MALL CAPITAL TURNED K",
    "06SMALL LETTER L WITH FISHHOOK;19DEZH DIGRAPH WITH PALATAL HOOK",
    "19L WITH BELT AND PALATAL HOOK;19ENG WITH PALATAL HOOK;19TURNED R WITH PALATAL HOOK",
    "19R WITH FISHHOOK AND PALATAL HOOK;19TESH DIGRAPH WITH PALATAL HOOK",
    "19EZH WITH PALATAL HOOK;19DEZH DIGRAPH WITH RETROFLEX HOOK",
    "19I WITH STROKE AND RETROFLEX HOOK;19O WITH RETROFLEX HOOK",
    "19TESH DIGRAPH WITH RETROFLEX HOOK;19C WITH RETROFLEX HOOK;19S WITH CURL"
  ]

end ApiDoc.Text.CharacterName
