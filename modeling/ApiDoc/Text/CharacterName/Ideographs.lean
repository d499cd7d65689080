import ApiDoc.Text.CharacterName.Coded

/-!
# Names of characters: Ideographs

The names of the marks and syllables of East Asia, and some further alphabets.
-/

namespace ApiDoc.Text.CharacterName

/-- The names of the characters from `2c00` to `a4cf`. -/
def ideographs : Coded where
  first := 0x2c00
  lines := [
    "00GLAGOLITIC CAPITAL LETTER AZU;26BUKY;26VEDE;26GLAGOLI;26DOBRO;26YESTU;26ZHIVETE",
    "26DZELO;26ZEMLJA;26IZHE;27NITIAL IZHE;27;26DJERVI;26KAKO;26LJUDIJE;26MYSLITE;26NASHI",
    "26ONU;26POKOJI;26RITSI;26SLOVO;26TVRIDO;26UKU;26FRITU;26HERU;26OTU;26PE;26SHTA;26TSI",
    "26CHRIVI;26SHA;26YERU;29I;27ATI;26SPIDERY HA;26YU;26SMALL YUS;35 WITH TAIL;26YO",
    "26IOTATED SMALL YUS;26BIG YUS;26IOTATED BIG YUS;26FITA;26IZHITSA;26SHTAPIC",
    "26TROKUTASTI A;26LATINATE MYSLITE;26CAUDATE CHRIVI;11SMALL LETTER AZU;24BUKY;24VEDE",
    "24GLAGOLI;24DOBRO;24YESTU;24ZHIVETE;24DZELO;24ZEMLJA;24IZHE;25NITIAL IZHE;25;24DJERVI",
    "24KAKO;24LJUDIJE;24MYSLITE;24NASHI;24ONU;24POKOJI;24RITSI;24SLOVO;24TVRIDO;24UKU;24FRITU",
    "24HERU;24OTU;24PE;24SHTA;24TSI;24CHRIVI;24SHA;24YERU;27I;25ATI;24SPIDERY HA;24YU",
    "24SMALL YUS;33 WITH TAIL;24YO;24IOTATED SMALL YUS;24BIG YUS;24IOTATED BIG YUS;24FITA",
    "24IZHITSA;24SHTAPIC;24TROKUTASTI A;24LATINATE MYSLITE;24CAUDATE CHRIVI",
    "00LATIN CAPITAL LETTER L WITH DOUBLE BAR;06SMALL LETTER L WITH DOUBLE BAR",
    "06CAPITAL LETTER L WITH MIDDLE TILDE;21P WITH STROKE;21R WITH TAIL",
    "06SMALL LETTER A WITH STROKE;19T WITH DIAGONAL STROKE;06CAPITAL LETTER H WITH DESCENDER",
    "06SMALL LETTER H WITH DESCENDER;06CAPITAL LETTER K WITH DESCENDER",
    "06SMALL LETTER K WITH DESCENDER;06CAPITAL LETTER Z WITH DESCENDER",
    "06SMALL LETTER Z WITH DESCENDER;06CAPITAL LETTER ALPHA;21M WITH HOOK;21TURNED A;29LPHA",
    "06SMALL LETTER V WITH RIGHT HOOK;06CAPITAL LETTER W WITH HOOK;06SMALL LETTER W WITH HOOK",
    "19V WITH CURL;06CAPITAL LETTER HALF H;06SMALL LETTER HALF H;19TAILLESS PHI",
    "19E WITH NOTCH;19TURNED R WITH TAIL;19O WITH LOW RING INSIDE",
    "06LETTER SMALL CAPITAL TURNED E;06SUBSCRIPT SMALL LETTER J;00MODIFIER LETTER CAPITAL V",
    "00LATIN CAPITAL LETTER S WITH SWASH TAIL;21Z WITH SWASH TAIL",
    "00COPTIC CAPITAL LETTER ALFA;07SMALL LETTER ALFA;07CAPITAL LETTER VIDA",
    "07SMALL LETTER VIDA;07CAPITAL LETTER GAMMA;07SMALL LETTER GAMMA;07CAPITAL LETTER DALDA",
    "07SMALL LETTER DALDA;07CAPITAL LETTER EIE;07SMALL LETTER EIE;07CAPITAL LETTER SOU",
    "07SMALL LETTER SOU;07CAPITAL LETTER ZATA;07SMALL LETTER ZATA;07CAPITAL LETTER HATE",
    "07SMALL LETTER HATE;07CAPITAL LETTER THETHE;07SMALL LETTER THETHE;07CAPITAL LETTER IAUDA",
    "07SMALL LETTER IAUDA;07CAPITAL LETTER KAPA;07SMALL LETTER KAPA;07CAPITAL LETTER LAULA",
    "07SMALL LETTER LAULA;07CAPITAL LETTER MI;07SMALL LETTER MI;07CAPITAL LETTER NI",
    "07SMALL LETTER NI;07CAPITAL LETTER KSI;07SMALL LETTER KSI;07CAPITAL LETTER O",
    "07SMALL LETTER O;07CAPITAL LETTER PI;07SMALL LETTER PI;07CAPITAL LETTER RO",
    "07SMALL LETTER RO;07CAPITAL LETTER SIMA;07SMALL LETTER SIMA;07CAPITAL LETTER TAU",
    "07SMALL LETTER TAU;07CAPITAL LETTER UA;07SMALL LETTER UA;07CAPITAL LETTER FI",
    "07SMALL LETTER FI;07CAPITAL LETTER KHI;07SMALL LETTER KHI;07CAPITAL LETTER PSI",
    "07SMALL LETTER PSI;07CAPITAL LETTER OOU;07SMALL LETTER OOU",
    "07CAPITAL LETTER DIALECT-P ALEF;07SMALL LETTER DIALECT-P ALEF",
    "07CAPITAL LETTER OLD COPTIC AIN;07SMALL LETTER OLD COPTIC AIN",
    "07CAPITAL LETTER CRYPTOGRAMMIC EIE;07SMALL LETTER CRYPTOGRAMMIC EIE",
    "07CAPITAL LETTER DIALECT-P KAPA;07SMALL LETTER DIALECT-P KAPA",
    "07CAPITAL LETTER DIALECT-P NI;07SMALL LETTER DIALECT-P NI",
    "07CAPITAL LETTER CRYPTOGRAMMIC NI;07SMALL LETTER CRYPTOGRAMMIC NI",
    "07CAPITAL LETTER OLD COPTIC OOU;07SMALL LETTER OLD COPTIC OOU;07CAPITAL LETTER SAMPI",
    "07SMALL LETTER SAMPI;07CAPITAL LETTER CROSSED SHEI;07SMALL LETTER CROSSED SHEI",
    "07CAPITAL LETTER OLD COPTIC SHEI;07SMALL LETTER OLD COPTIC SHEI",
    "07CAPITAL LETTER OLD COPTIC ESH;07SMALL LETTER OLD COPTIC ESH",
    "07CAPITAL LETTER AKHMIMIC KHEI;07SMALL LETTER AKHMIMIC KHEI",
    "07CAPITAL LETTER DIALECT-P HORI;07SMALL LETTER DIALECT-P HORI",
    "07CAPITAL LETTER OLD COPTIC HORI;07SMALL LETTER OLD COPTIC HORI",
    "07CAPITAL LETTER OLD COPTIC HA;07SMALL LETTER OLD COPTIC HA;07CAPITAL LETTER L-SHAPED HA",
    "07SMALL LETTER L-SHAPED HA;07CAPITAL LETTER OLD COPTIC HEI;07SMALL LETTER OLD COPTIC HEI",
    "07CAPITAL LETTER OLD COPTIC HAT;07SMALL LETTER OLD COPTIC HAT",
    "07CAPITAL LETTER OLD COPTIC GANGIA;07SMALL LETTER OLD COPTIC GANGIA",
    "07CAPITAL LETTER OLD COPTIC DJA;07SMALL LETTER OLD COPTIC DJA",
    "07CAPITAL LETTER OLD COPTIC SHIMA;07SMALL LETTER OLD COPTIC SHIMA",
    "07CAPITAL LETTER OLD NUBIAN SHIMA;07SMALL LETTER OLD NUBIAN SHIMA",
    "07CAPITAL LETTER OLD NUBIAN NGI;07SMALL LETTER OLD NUBIAN NGI",
    "07CAPITAL LETTER OLD NUBIAN NYI;07SMALL LETTER OLD NUBIAN NYI",
    "07CAPITAL LETTER OLD NUBIAN WAU;07SMALL LETTER OLD NUBIAN WAU;08YMBOL KAI;14MI RO",
    "14PI RO;14STAUROS;14TAU RO;14KHI RO;14SHIMA SIMA;07CAPITAL LETTER CRYPTOGRAMMIC SHEI",
    "07SMALL LETTER CRYPTOGRAMMIC SHEI;07CAPITAL LETTER CRYPTOGRAMMIC GANGIA",
    "07SMALL LETTER CRYPTOGRAMMIC GANGIA;07COMBINING NI ABOVE;17SPIRITUS ASPER;26LENIS",
    "08APITAL LETTER BOHAIRIC KHEI;07SMALL LETTER BOHAIRIC KHEI;+5;07OLD NUBIAN FULL STOP",
    "18DIRECT QUESTION MARK;18INDIRECT QUESTION MARK;18VERSE DIVIDER;07FRACTION ONE HALF",
    "08ULL STOP;07MORPHOLOGICAL DIVIDER;00GEORGIAN SMALL LETTER AN;22BAN;22GAN;22DON;22EN",
    "22VIN;22ZEN;22TAN;22IN;22KAN;22LAS;22MAN;22NAR;22ON;22PAR;22ZHAR;22RAE;22SAN;22TAR;22UN",
    "22PHAR;22KHAR;22GHAN;22QAR;22SHIN;22CHIN;23AN;22JIL;22CIL;23HAR;22XAN;22JHAN;22HAE;23E",
    "23IE;22WE;22HAR;23OE;+1;22YN;+5;22AEN;+2;00TIFINAGH LETTER YA;18B;19H;18G;19HH",
    "16BERBER ACADEMY YAJ;16YAJ;18D;19H;19D;20H;17EY;17AF;18K;16TUAREG YAK;16YAKHH;18H",
    "16BERBER ACADEMY YAH;16TUAREG YAH;16YAHH;18A;18KH;16TUAREG YAKH;16YAQ;16TUAREG YAQ;16YI",
    "17AZH;16AHAGGAR YAZH;16TUAREG YAZH;16YAL;18M;18N;16TUAREG YAGN;25NG;16YAP;17U;17AR;19R",
    "18GH;16TUAREG YAGH;16AYER YAGH;16YAS;19S;19H;18T;19H;18CH;18TT;18V;18W;18Y;18Z",
    "16TAWELLEMET YAZ;16YAZZ;17E;17O;+7;09MODIFIER LETTER LABIALIZATION MARK;09SEPARATOR MARK",
    "+E;09CONSONANT JOINER;00ETHIOPIC SYLLABLE LOA;18MOA;18ROA;18SOA;19HOA;18BOA;18TOA;18COA",
    "18NOA;19YOA;18GLOTTAL OA;18ZOA;18DOA;19DOA;18JOA;18THOA;18CHOA;18PHOA;19OA;18GGWA;21I",
    "21EE;22;+9;18SSA;20U;20I;20AA;20EE;21;20O;+1;18CCA;20U;20I;20AA;20EE;21;20O;+1;18ZZA;20U",
    "20I;20AA;20EE;21;20O;+1;18CCHA;21U;21I;21AA;21EE;22;21O;+1;18QYA;20U;20I;20AA;20EE;21",
    "20O;+1;18KYA;20U;20I;20AA;20EE;21;20O;+1;18XYA;20U;20I;20AA;20EE;21;20O;+1;18GYA;20U;20I",
    "20AA;20EE;21;20O;+1;00COMBINING CYRILLIC LETTER BE;26VE;26GHE;26DE;26ZHE;27E;26KA;26EL",
    "27M;27N;26O;26PE;26ER;27S;26TE;26HA;26TSE;26CHE;26SHA;28CHA;26FITA;26ES-TE;26A;26IE",
    "26DJERV;26MONOGRAPH UK;26YAT;27U;26IOTIFIED A;26LITTLE YUS;26BIG YUS;26IOTIFIED BIG YUS",
    "00RIGHT ANGLE SUBSTITUTION MARKER;12DOTTED SUBSTITUTION MARKER",
    "00LEFT SUBSTITUTION BRACKET;00RIGHT SUBSTITUTION BRACKET",
    "00LEFT DOTTED SUBSTITUTION BRACKET;00RIGHT DOTTED SUBSTITUTION BRACKET",
    "01AISED INTERPOLATION MARKER;07DOTTED INTERPOLATION MARKER;00DOTTED TRANSPOSITION MARKER",
    "00LEFT TRANSPOSITION BRACKET;00RIGHT TRANSPOSITION BRACKET;01AISED SQUARE",
    "00LEFT RAISED OMISSION BRACKET;00RIGHT RAISED OMISSION BRACKET;00EDITORIAL CORONIS",
    "00PARAGRAPHOS;00FORKED PARAGRAPHOS;00REVERSED FORKED PARAGRAPHOS;00HYPODIASTOLE",
    "00DOTTED OBELOS;02WNWARDS ANCORA;00UPWARDS ANCORA;00DOTTED RIGHT-POINTING ANGLE",
    "02UBLE OBLIQUE HYPHEN;00INVERTED INTERROBANG;00PALM BRANCH;00HYPHEN WITH DIAERESIS",
    "00TILDE WITH RING ABOVE;00LEFT LOW PARAPHRASE BRACKET;00RIGHT LOW PARAPHRASE BRACKET",
    "00TILDE WITH DOT ABOVE;15BELOW;00LEFT VERTICAL BAR WITH QUILL",
    "00RIGHT VERTICAL BAR WITH QUILL;00TOP LEFT HALF BRACKET;04RIGHT HALF BRACKET",
    "00BOTTOM LEFT HALF BRACKET;07RIGHT HALF BRACKET;00LEFT SIDEWAYS U BRACKET",
    "00RIGHT SIDEWAYS U BRACKET;00LEFT DOUBLE PARENTHESIS;00RIGHT DOUBLE PARENTHESIS",
    "00TWO DOTS OVER ONE DOT PUNCTUATION;00ONE DOT OVER TWO DOTS PUNCTUATION",
    "00SQUARED FOUR DOT PUNCTUATION;00FIVE DOT MARK;00REVERSED QUESTION MARK;00VERTICAL TILDE",
    "00RING POINT;00WORD SEPARATOR MIDDLE DOT;00TURNED COMMA;00RAISED DOT;07COMMA",
    "00TURNED SEMICOLON;00DAGGER WITH LEFT GUARD;12RIGHT GUARD;00TURNED DAGGER",
    "01OP HALF SECTION SIGN;01WO-EM DASH;01HREE-EM DASH;00STENOGRAPHIC FULL STOP",
    "00VERTICAL SIX DOTS;00WIGGLY VERTICAL LINE;00CAPITULUM;00DOUBLE HYPHEN;00REVERSED COMMA",
    "00DOUBLE LOW-REVERSED-9 QUOTATION MARK;01ASH WITH LEFT UPTURN;01OUBLE SUSPENSION MARK",
    "00INVERTED LOW KAVYKA;19 WITH KAVYKA ABOVE;00LOW KAVYKA;10 WITH DOT",
    "00DOUBLE STACKED COMMA;02TTED SOLIDUS;00TRIPLE DAGGER;00MEDIEVAL COMMA",
    "00PARAGRAPHUS MARK;01UNCTUS ELEVATUS MARK;00CORNISH VERSE DIVIDER",
    "01ROSS PATTY WITH RIGHT CROSSBAR;17LEFT CROSSBAR;00TIRONIAN SIGN CAPITAL ET",
    "00MEDIEVAL EXCLAMATION MARK;09QUESTION MARK;00LEFT SQUARE BRACKET WITH STROKE",
    "00RIGHT SQUARE BRACKET WITH STROKE;00LEFT SQUARE BRACKET WITH DOUBLE STROKE",
    "00RIGHT SQUARE BRACKET WITH DOUBLE STROKE;00TOP HALF LEFT PARENTHESIS",
    "09RIGHT PARENTHESIS;00BOTTOM HALF LEFT PARENTHESIS;12RIGHT PARENTHESIS;00OBLIQUE HYPHEN",
    "+22;00CJK RADICAL REPEAT;12CLIFF;12SECOND ONE;19TWO;20HREE;12PERSON;12BOX;12TABLE",
    "12KNIFE ONE;18TWO;12DIVINATION;12SEAL;13MALL ONE;18TWO;12LAME ONE;17TWO;18HREE;17FOUR",
    "12SNAKE;12THREAD;12SNOUT ONE;18TWO;12HEART ONE;18TWO;13AND;12RAP;+1;12CHOKE;12SUN;12MOON",
    "12DEATH;12MOTHER;12CIVILIAN;12WATER ONE;18TWO;12FIRE;12PAW ONE;16TWO",
    "12SIMPLIFIED HALF TREE TRUNK;12COW;12DOG;12JADE;12BOLT OF CLOTH;12EYE;12SPIRIT ONE;19TWO",
    "12BAMBOO;12SILK;12C-SIMPLIFIED SILK;12NET ONE;16TWO;17HREE;16FOUR;12MESH;12SHEEP;12RAM",
    "12EWE;12OLD;12BRUSH ONE;18TWO;12MEAT;13ORTAR;12GRASS ONE;18TWO;19HREE;12TIGER;12CLOTHES",
    "12WEST ONE;17TWO;12C-SIMPLIFIED SEE;12SIMPLIFIED HORN;12HORN;12C-SIMPLIFIED SPEECH",
    "26HELL;12FOOT;12C-SIMPLIFIED CART;12SIMPLIFIED WALK;12WALK ONE;17TWO;12CITY",
    "13-SIMPLIFIED GOLD;12LONG ONE;17TWO;12C-SIMPLIFIED LONG;25GATE;12MOUND ONE;18TWO;12RAIN",
    "12BLUE;12C-SIMPLIFIED TANNED LEATHER;25LEAF;25WIND;25FLY;12EAT ONE;16TWO;17HREE",
    "12C-SIMPLIFIED EAT;12HEAD;12C-SIMPLIFIED HORSE;12BONE;12GHOST;12C-SIMPLIFIED FISH;25BIRD",
    "25SALT;12SIMPLIFIED WHEAT;23YELLOW;12C-SIMPLIFIED FROG;12J-SIMPLIFIED EVEN",
    "12C-SIMPLIFIED EVEN;12J-SIMPLIFIED TOOTH;12C-SIMPLIFIED TOOTH;12J-SIMPLIFIED DRAGON",
    "12C-SIMPLIFIED DRAGON;12TURTLE;12J-SIMPLIFIED TURTLE;12C-SIMPLIFIED TURTLE;+C",
    "00KANGXI RADICAL ONE;15LINE;15DOT;15SLASH;16ECOND;15HOOK;15TWO;15LID;15MAN;15LEGS",
    "15ENTER;16IGHT;15DOWN BOX;15COVER;15ICE;15TABLE;15OPEN BOX;15KNIFE;15POWER;15WRAP",
    "15SPOON;15RIGHT OPEN BOX;15HIDING ENCLOSURE;15TEN;15DIVINATION;15SEAL;15CLIFF;15PRIVATE",
    "15AGAIN;15MOUTH;15ENCLOSURE;16ARTH;15SCHOLAR;15GO;17 SLOWLY;15EVENING;15BIG;15WOMAN",
    "15CHILD;15ROOF;15INCH;15SMALL;15LAME;15CORPSE;15SPROUT;15MOUNTAIN;15RIVER;15WORK",
    "15ONESELF;15TURBAN;15DRY;15SHORT THREAD;15DOTTED CLIFF;15LONG STRIDE;15TWO HANDS;15SHOOT",
    "15BOW;15SNOUT;15BRISTLE;15STEP;15HEART;16ALBERD;15DOOR;15HAND;15BRANCH;15RAP;15SCRIPT",
    "15DIPPER;15AXE;15SQUARE;15NOT;15SUN;16AY;15MOON;15TREE;15LACK;15STOP;15DEATH;15WEAPON",
    "15DO NOT;15COMPARE;15FUR;15CLAN;15STEAM;15WATER;15FIRE;15CLAW;15FATHER;15DOUBLE X",
    "15HALF TREE TRUNK;15SLICE;15FANG;15COW;15DOG;15PROFOUND;15JADE;15MELON;15TILE;15SWEET",
    "15LIFE;15USE;15FIELD;15BOLT OF CLOTH;15SICKNESS;15DOTTED TENT;15WHITE;15SKIN;15DISH",
    "15EYE;15SPEAR;15ARROW;15STONE;16PIRIT;15TRACK;15GRAIN;15CAVE;15STAND;15BAMBOO;15RICE",
    "15SILK;15JAR;15NET;15SHEEP;15FEATHER;15OLD;15AND;15PLOW;15EAR;15BRUSH;15MEAT;16INISTER",
    "15SELF;15ARRIVE;15MORTAR;15TONGUE;15OPPOSE;15BOAT;15STOPPING;15COLOR;15GRASS;15TIGER",
    "15INSECT;15BLOOD;15WALK ENCLOSURE;15CLOTHES;15WEST;15SEE;15HORN;15SPEECH;15VALLEY;15BEAN",
    "15PIG;15BADGER;15SHELL;15RED;16UN;15FOOT;15BODY;15CART;15BITTER;15MORNING;15WALK;15CITY",
    "15WINE;15DISTINGUISH;15VILLAGE;15GOLD;15LONG;15GATE;15MOUND;15SLAVE;16HORT TAILED BIRD",
    "15RAIN;15BLUE;15WRONG;15FACE;15LEATHER;15TANNED LEATHER;15LEEK;15SOUND;15LEAF;15WIND",
    "15FLY;15EAT;15HEAD;15FRAGRANT;15HORSE;15BONE;15TALL;15HAIR;15FIGHT;15SACRIFICIAL WINE",
    "15CAULDRON;15GHOST;15FISH;15BIRD;15SALT;15DEER;15WHEAT;15HEMP;15YELLOW;15MILLET;15BLACK",
    "15EMBROIDERY;15FROG;15TRIPOD;15DRUM;15RAT;15NOSE;15EVEN;15TOOTH;15DRAGON;15TURTLE",
    "15FLUTE;+1A;00IDEOGRAPHIC DESCRIPTION CHARACTER LEFT TO RIGHT;34ABOVE TO BELOW",
    "34LEFT TO MIDDLE AND RIGHT;34ABOVE TO MIDDLE AND BELOW;34FULL SURROUND",
    "34SURROUND FROM ABOVE;48BELOW;48LEFT;48UPPER LEFT;54RIGHT;48LOWER LEFT;34OVERLAID;+4",
    "12SPACE;12COMMA;12FULL STOP;00DITTO MARK;00JAPANESE INDUSTRIAL STANDARD SYMBOL",
    "00IDEOGRAPHIC ITERATION MARK;12CLOSING MARK;12NUMBER ZERO;00LEFT ANGLE BRACKET",
    "00RIGHT ANGLE BRACKET;00LEFT DOUBLE ANGLE BRACKET;00RIGHT DOUBLE ANGLE BRACKET",
    "00LEFT CORNER BRACKET;00RIGHT CORNER BRACKET;00LEFT WHITE CORNER BRACKET",
    "00RIGHT WHITE CORNER BRACKET;00LEFT BLACK LENTICULAR BRACKET",
    "00RIGHT BLACK LENTICULAR BRACKET;00POSTAL MARK;00GETA MARK;00LEFT TORTOISE SHELL BRACKET",
    "00RIGHT TORTOISE SHELL BRACKET;00LEFT WHITE LENTICULAR BRACKET",
    "00RIGHT WHITE LENTICULAR BRACKET;00LEFT WHITE TORTOISE SHELL BRACKET",
    "00RIGHT WHITE TORTOISE SHELL BRACKET;00LEFT WHITE SQUARE BRACKET",
    "00RIGHT WHITE SQUARE BRACKET;00WAVE DASH;00REVERSED DOUBLE PRIME QUOTATION MARK",
    "00DOUBLE PRIME QUOTATION MARK;00LOW DOUBLE PRIME QUOTATION MARK;00POSTAL MARK FACE",
    "00HANGZHOU NUMERAL ONE;17TWO;18HREE;17FOUR;18IVE;17SIX;18EVEN;17EIGHT;17NINE",
    "00IDEOGRAPHIC LEVEL TONE MARK;12RISING TONE MARK;12DEPARTING TONE MARK",
    "12ENTERING TONE MARK;00HANGUL SINGLE DOT TONE MARK;07DOUBLE DOT TONE MARK;00WAVY DASH",
    "00VERTICAL KANA REPEAT MARK;21WITH VOICED SOUND MARK;21MARK UPPER HALF",
    "21WITH VOICED SOUND MARK UPPER HALF;21MARK LOWER HALF;00CIRCLED POSTAL MARK",
    "00IDEOGRAPHIC TELEGRAPH LINE FEED SEPARATOR SYMBOL;00HANGZHOU NUMERAL TEN;18WENTY",
    "18HIRTY;00VERTICAL IDEOGRAPHIC ITERATION MARK;00MASU MARK;00PART ALTERNATION MARK",
    "00IDEOGRAPHIC VARIATION INDICATOR;12HALF FILL SPACE;+1;00HIRAGANA LETTER SMALL A;16A",
    "16SMALL I;16I;16SMALL U;16U;16SMALL E;16E;16SMALL O;16O;16KA;16GA;16KI;16GI;16KU;16GU",
    "16KE;16GE;16KO;16GO;16SA;16ZA;16SI;16ZI;16SU;16ZU;16SE;16ZE;16SO;16ZO;16TA;16DA;16TI",
    "16DI;16SMALL TU;16TU;16DU;16TE;16DE;16TO;16DO;16NA;17I;17U;17E;17O;16HA;16BA;16PA;16HI",
    "16BI;16PI;16HU;16BU;16PU;16HE;16BE;16PE;16HO;16BO;16PO;16MA;17I;17U;17E;17O;16SMALL YA",
    "16YA;16SMALL YU;16YU;16SMALL YO;16YO;16RA;17I;17U;17E;17O;16SMALL WA;16WA;17I;17E;17O",
    "16N;16VU;16SMALL KA;23E;+2;00COMBINING KATAKANA-HIRAGANA VOICED SOUND MARK",
    "28SEMI-VOICED SOUND MARK;00KATAKANA-HIRAGANA VOICED SOUND MARK;18SEMI-VOICED SOUND MARK",
    "00HIRAGANA ITERATION MARK;09VOICED ITERATION MARK;09DIGRAPH YORI",
    "00KATAKANA-HIRAGANA DOUBLE HYPHEN;08 LETTER SMALL A;16A;16SMALL I;16I;16SMALL U;16U",
    "16SMALL E;16E;16SMALL O;16O;16KA;16GA;16KI;16GI;16KU;16GU;16KE;16GE;16KO;16GO;16SA;16ZA",
    "16SI;16ZI;16SU;16ZU;16SE;16ZE;16SO;16ZO;16TA;16DA;16TI;16DI;16SMALL TU;16TU;16DU;16TE",
    "16DE;16TO;16DO;16NA;17I;17U;17E;17O;16HA;16BA;16PA;16HI;16BI;16PI;16HU;16BU;16PU;16HE",
    "16BE;16PE;16HO;16BO;16PO;16MA;17I;17U;17E;17O;16SMALL YA;16YA;16SMALL YU;16YU;16SMALL YO",
    "16YO;16RA;17I;17U;17E;17O;16SMALL WA;16WA;17I;17E;17O;16N;16VU;16SMALL KA;23E;16VA;17I",
    "17E;17O;09MIDDLE DOT;08-HIRAGANA PROLONGED SOUND MARK;08 ITERATION MARK",
    "09VOICED ITERATION MARK;09DIGRAPH KOTO;+5;00BOPOMOFO LETTER B;16P;16M;16F;16D;16T;16N",
    "16L;16G;16K;16H;16J;16Q;16X;16ZH;16CH;16SH;16R;16Z;16C;16S;16A;16O;16E;17H;16AI;16EI",
    "16AU;16OU;16AN;16EN;16ANG;16ENG;17R;16I;16U;16IU;16V;16NG;16GN;16IH;16O WITH DOT ABOVE",
    "16NN;+1;00HANGUL LETTER KIYEOK;14SSANGKIYEOK;14KIYEOK-SIOS;14NIEUN;19-CIEUC;20HIEUH",
    "14TIKEUT;14SSANGTIKEUT;14RIEUL;19-KIYEOK;20MIEUM;20PIEUP;20SIOS;20THIEUTH;20PHIEUPH",
    "20HIEUH;14MIEUM;14PIEUP;14SSANGPIEUP;14PIEUP-SIOS;14SIOS;15SANGSIOS;14IEUNG;14CIEUC",
    "14SSANGCIEUC;14CHIEUCH;14KHIEUKH;14THIEUTH;14PHIEUPH;14HIEUH;14A;15E;14YA;16E;14EO;15",
    "14YEO;16;14O;14WA;16E;14OE;14YO;14U;14WEO;16;15I;14YU;14EU;14YI;14I;07FILLER",
    "07LETTER SSANGNIEUN;14NIEUN-TIKEUT;20SIOS;20PANSIOS;14RIEUL-KIYEOK-SIOS;20TIKEUT",
    "20PIEUP-SIOS;21ANSIOS;20YEORINHIEUH;14MIEUM-PIEUP;20SIOS;20PANSIOS;14KAPYEOUNMIEUM",
    "14PIEUP-KIYEOK;20TIKEUT;20SIOS-KIYEOK;25TIKEUT;20CIEUC;20THIEUTH;14KAPYEOUNPIEUP",
    "22SSANGPIEUP;14SIOS-KIYEOK;19NIEUN;19TIKEUT;19PIEUP;19CIEUC;14PANSIOS;14SSANGIEUNG",
    "14YESIEUNG;22-SIOS;23PANSIOS;14KAPYEOUNPHIEUPH;14SSANGHIEUH;14YEORINHIEUH;15O-YA;19E;17I",
    "15U-YEO;19;17I;14ARAEA;19E;+1;00IDEOGRAPHIC ANNOTATION LINKING MARK;23REVERSE MARK",
    "23ONE MARK;23TWO MARK;24HREE MARK;23FOUR MARK;23TOP MARK;23MIDDLE MARK;23BOTTOM MARK",
    "23FIRST MARK;23SECOND MARK;23THIRD MARK;23FOURTH MARK;23HEAVEN MARK;23EARTH MARK",
    "23MAN MARK;00BOPOMOFO LETTER BU;16ZI;16JI;16GU;16EE;17NN;16OO;17NN;16IR;16ANN;16INN",
    "16UNN;16IM;16NGG;16AINN;17UNN;17M;16OM;17NG;16INNN;09FINAL LETTER P;22T;22K;22H",
    "09LETTER GH;16LH;16ZY;09FINAL LETTER G;09LETTER GW;16KW;16OE;16AH;00CJK STROKE T;11WG",
    "11XG;11BXG;11SW;11HZZ;13G;12P;12ZWG;11SZWG;11HZT;13ZP;12PWG;12ZW;13ZZ;11N;11H;11S;11P",
    "11SP;11D;11HZ;12G;11SZ;12WZ;12T;12G;11PD;12Z;11TN;11SZZ;12WG;11HXWG;12ZZZG;11PG;11Q;+C",
    "00KATAKANA LETTER SMALL KU;22SI;23U;22TO;22NU;22HA;23I;23U;23E;23O;22MU;22RA;23I;23U;23E",
    "23O;00PARENTHESIZED HANGUL KIYEOK;21NIEUN;21TIKEUT;21RIEUL;21MIEUM;21PIEUP;21SIOS",
    "21IEUNG;21CIEUC;22HIEUCH;21KHIEUKH;21THIEUTH;21PHIEUPH;21HIEUH;21KIYEOK A;21NIEUN A",
    "21TIKEUT A;21RIEUL A;21MIEUM A;21PIEUP A;21SIOS A;21IEUNG A;21CIEUC A;22HIEUCH A",
    "21KHIEUKH A;21THIEUTH A;21PHIEUPH A;21HIEUH A;21CIEUC U;14KOREAN CHARACTER OJEON;32 HU",
    "+1;14IDEOGRAPH ONE;24TWO;25HREE;24FOUR;25IVE;24SIX;25EVEN;24EIGHT;24NINE;24TEN;24MOON",
    "24FIRE;24WATER;25OOD;24METAL;24EARTH;24SUN;25TOCK;24HAVE;24SOCIETY;24NAME;24SPECIAL",
    "24FINANCIAL;24CONGRATULATION;24LABOR;24REPRESENT;24CALL;24STUDY;25UPERVISE;24ENTERPRISE",
    "24RESOURCE;24ALLIANCE;24FESTIVAL;24REST;24SELF;24REACH;00CIRCLED IDEOGRAPH QUESTION",
    "18KINDERGARTEN;18SCHOOL;18KOTO;08NUMBER TEN ON BLACK SQUARE;16WENTY ON BLACK SQUARE",
    "16HIRTY ON BLACK SQUARE;15FORTY ON BLACK SQUARE;16IFTY ON BLACK SQUARE",
    "15SIXTY ON BLACK SQUARE;16EVENTY ON BLACK SQUARE;15EIGHTY ON BLACK SQUARE",
    "00PARTNERSHIP SIGN;00CIRCLED NUMBER TWENTY ONE;22TWO;23HREE;22FOUR;23IVE;22SIX;23EVEN",
    "22EIGHT;22NINE;16HIRTY;21 ONE;22TWO;23HREE;22FOUR;23IVE;08HANGUL KIYEOK;15NIEUN;15TIKEUT",
    "15RIEUL;15MIEUM;15PIEUP;15SIOS;15IEUNG;15CIEUC;16HIEUCH;15KHIEUKH;15THIEUTH;15PHIEUPH",
    "15HIEUH;15KIYEOK A;15NIEUN A;15TIKEUT A;15RIEUL A;15MIEUM A;15PIEUP A;15SIOS A;15IEUNG A",
    "15CIEUC A;16HIEUCH A;15KHIEUKH A;15THIEUTH A;15PHIEUPH A;15HIEUH A",
    "08KOREAN CHARACTER CHAMKO;25JUEUI;08HANGUL IEUNG U;00KOREAN STANDARD SYMBOL",
    "00CIRCLED IDEOGRAPH ONE;18TWO;19HREE;18FOUR;19IVE;18SIX;19EVEN;18EIGHT;18NINE;18TEN",
    "18MOON;18FIRE;18WATER;19OOD;18METAL;18EARTH;18SUN;19TOCK;18HAVE;18SOCIETY;18NAME",
    "18SPECIAL;18FINANCIAL;18CONGRATULATION;18LABOR;18SECRET;18MALE;18FEMALE;18SUITABLE",
    "18EXCELLENT;18PRINT;18ATTENTION;18ITEM;18REST;18COPY;20RRECT;18HIGH;18CENTRE;18LOW;19EFT",
    "18RIGHT;18MEDICINE;18RELIGION;18STUDY;19UPERVISE;18ENTERPRISE;18RESOURCE;18ALLIANCE",
    "18NIGHT;08NUMBER THIRTY SIX;23EVEN;22EIGHT;22NINE;15FORTY;20 ONE;21TWO;22HREE;21FOUR",
    "22IVE;21SIX;22EVEN;21EIGHT;21NINE;16IFTY;00IDEOGRAPHIC TELEGRAPH SYMBOL FOR JANUARY",
    "33FEBRUARY;33MARCH;33APRIL;33MAY;33JUNE;35LY;33AUGUST;33SEPTEMBER;33OCTOBER;33NOVEMBER",
    "33DECEMBER;00SQUARE HG;07ERG;08V;00LIMITED LIABILITY SIGN;00CIRCLED KATAKANA A;17I;17U",
    "17E;17O;17KA;18I;18U;18E;18O;17SA;18I;18U;18E;18O;17TA;18I;18U;18E;18O;17NA;18I;18U;18E",
    "18O;17HA;18I;18U;18E;18O;17MA;18I;18U;18E;18O;17YA;18U;18O;17RA;18I;18U;18E;18O;17WA;18I",
    "18E;18O;00SQUARE ERA NAME REIWA;07APAATO;08RUHUA;08NPEA;08ARU;07ININGU;09TI;07UON",
    "07ESUKUUDO;08EKAA;07ONSU;08OMU;07KAIRI;09RATTO;10ORII;07GARON;09NMA;08IGA;09NII;07KYURII",
    "07GIRUDAA;07KIRO;11GURAMU;11MEETORU;11WATTO;07GURAMU;13TON;07KURUZEIRO;10OONE;08EESU",
    "08ORUNA;09OPO;07SAIKURU;09NTIIMU;08IRINGU;08ENTI;11O;07DAASU;08ESI;08ORU;07TON;07NANO",
    "08OTTO;07HAITU;07PAASENTO;10TU;07BAARERU;07PIASUTORU;09KURU;10O;07BIRU;07HUARADDO;09IITO",
    "07BUSSYERU;07HURAN;08EKUTAARU;07PESO;09NIHI;07HERUTU;07PENSU;09EZI;07BEETA;07POINTO",
    "07BORUTO;07HON;07PONDO;07HOORU;10N;07MAIKURO;10RU;09HHA;09RUKU;09NSYON;08IKURON;09RI",
    "11BAARU;08EGA;11TON;09ETORU;07YAADO;10RU;08UAN;07RITTORU;09RA;08UPII;09UBURU;08EMU",
    "09NTOGEN;07WATTO;00IDEOGRAPHIC TELEGRAPH SYMBOL FOR HOUR ZERO;38ONE;38TWO;39HREE;38FOUR",
    "39IVE;38SIX;39EVEN;38EIGHT;38NINE;38TEN;38ELEVEN;38TWELVE;39HIRTEEN;38FOURTEEN;39IFTEEN",
    "38SIXTEEN;39EVENTEEN;38EIGHTEEN;38NINETEEN;38TWENTY;44-ONE;45TWO;46HREE;45FOUR",
    "00SQUARE HPA;07DA;07AU;07BAR;07OV;07PC;07DM;09 SQUARED;10CUBED;07IU;07ERA NAME HEISEI",
    "16SYOUWA;16TAISYOU;16MEIZI;07CORPORATION;07PA AMPS;07NA;07MU A;08A;07KA;08B;07MB;07GB",
    "07CAL;07KCAL;07PF;07NF;07MU F;10G;08G;07KG;07HZ;07KHZ;07MHZ;07GHZ;07THZ;07MU L;08L;07DL",
    "07KL;07FM;07NM;07MU M;08M;07CM;07KM;07MM SQUARED;07CM SQUARED;07M SQUARED;07KM SQUARED",
    "07MM CUBED;07CM CUBED;07M CUBED;07KM CUBED;07M OVER S;15 SQUARED;07PA;07KPA;07MPA;07GPA",
    "07RAD;10 OVER S;17 SQUARED;07PS;07NS;07MU S;08S;07PV;07NV;07MU V;08V;07KV;07MV MEGA;07PW",
    "07NW;07MU W;08W;07KW;07MW MEGA;07K OHM;07M OHM;07AM;07BQ;07CC;08D;08 OVER KG;08O;07DB",
    "07GY;07HA;08P;07IN;07KK;08M CAPITAL;08T;07LM;08N;08OG;08X;07MB SMALL;08IL;08OL;07PH;08M",
    "08PM;08R;07SR;08V;07WB;07V OVER M;07A OVER M;00IDEOGRAPHIC TELEGRAPH SYMBOL FOR DAY ONE",
    "37TWO;38HREE;37FOUR;38IVE;37SIX;38EVEN;37EIGHT;37NINE;37TEN;37ELEVEN;37TWELVE;38HIRTEEN",
    "37FOURTEEN;38IFTEEN;37SIXTEEN;38EVENTEEN;37EIGHTEEN;37NINETEEN;37TWENTY;43-ONE;44TWO",
    "45HREE;44FOUR;45IVE;44SIX;45EVEN;44EIGHT;44NINE;38HIRTY;43-ONE;00SQUARE GAL;+19C0",
    "00HEXAGRAM FOR THE CREATIVE HEAVEN;17RECEPTIVE EARTH;13DIFFICULTY AT THE BEGINNING",
    "13YOUTHFUL FOLLY;13WAITING;13CONFLICT;13THE ARMY;13HOLDING TOGETHER;13SMALL TAMING",
    "13TREADING;13PEACE;13STANDSTILL;13FELLOWSHIP;13GREAT POSSESSION;13MODESTY;13ENTHUSIASM",
    "13FOLLOWING;13WORK ON THE DECAYED;13APPROACH;13CONTEMPLATION;13BITING THROUGH;13GRACE",
    "13SPLITTING APART;13RETURN;13INNOCENCE;13GREAT TAMING;13MOUTH CORNERS",
    "13GREAT PREPONDERANCE;13THE ABYSMAL WATER;17CLINGING FIRE;13INFLUENCE;13DURATION",
    "13RETREAT;13GREAT POWER;13PROGRESS;13DARKENING OF THE LIGHT;13THE FAMILY;13OPPOSITION",
    "14BSTRUCTION;13DELIVERANCE;15CREASE;13INCREASE;13BREAKTHROUGH;13COMING TO MEET",
    "13GATHERING TOGETHER;13PUSHING UPWARD;13OPPRESSION;13THE WELL;13REVOLUTION",
    "13THE CAULDRON;17AROUSING THUNDER;17KEEPING STILL MOUNTAIN;13DEVELOPMENT",
    "13THE MARRYING MAIDEN;13ABUNDANCE;13THE WANDERER;17GENTLE WIND;17JOYOUS LAKE",
    "13DISPERSION;13LIMITATION;13INNER TRUTH;13SMALL PREPONDERANCE;13AFTER COMPLETION",
    "13BEFORE COMPLETION;+5200;00YI SYLLABLE IT;13X;13;13P;13ET;14X;14;14P;12AT;13X;13;13P",
    "12UOX;14;14P;12OT;13X;13;13P;12EX;13;12WU;12BIT;14X;14;14P;14ET;15X;15;15P;13AT;14X;14",
    "14P;13UOX;15;15P;13OT;14X;14;14P;13EX;14;14P;13UT;14X;14;14P;14RX;15;13YT;14X;14;14P",
    "14RX;15;12PIT;14X;14;14P;14EX;15;15P;13AT;14X;14;14P;13UOX;15;15P;13OT;14X;14;14P;13UT",
    "14X;14;14P;14RX;15;13YT;14X;14;14P;14RX;15;12BBIT;15X;15;15P;15ET;16X;16;16P;14AT;15X;15",
    "15P;14UOX;16;16P;14OT;15X;15;15P;14EX;15;15P;14UT;15X;15;15P;15RX;16;14YT;15X;15;15P",
    "12NBIT;15X;15;15P;15EX;16;16P;14AT;15X;15;15P;14OT;15X;15;15P;14UT;15X;15;15P;15RX;16",
    "14YT;15X;15;15P;15RX;16;12HMIT;15X;15;15P;15EX;16;16P;14AT;15X;15;15P;14UOX;16;16P;14OT",
    "15X;15;15P;14UT;15X;15;15P;15RX;16;14YX;15;15P;15RX;16;12MIT;14X;14;14P;14EX;15;15P;13AT",
    "14X;14;14P;13UOT;15X;15;15P;13OT;14X;14;14P;13EX;14;13UT;14X;14;14P;14RX;15;13YT;14X;14",
    "14P;12FIT;14X;14;14P;13AT;14X;14;14P;13OX;14;14P;13UT;14X;14;14P;14RX;15;13YT;14X;14;14P",
    "12VIT;14X;14;14P;14ET;15X;15;15P;13AT;14X;14;14P;13OT;14X;14;14P;13EX;14P;13UT;14X;14",
    "14P;14RX;15;13YT;14X;14;14P;14RX;15;12DIT;14X;14;14P;14EX;15;15P;13AT;14X;14;14P;13UOX",
    "15;13OT;14X;14;14P;13EX;14;14P;13UT;14X;14;14P;14RX;15;12TIT;14X;14;14P;14EX;15;15P;13AT",
    "14X;14;14P;13UOT;15X;15;15P;13OT;14X;14;14P;13EX;14;14P;13UT;14X;14;14P;14RX;15;12DDIT",
    "15X;15;15P;15EX;16;16P;14AT;15X;15;15P;14UOX;16;16P;14OT;15X;15;15P;14EX;15;15P;14UT;15X",
    "15;15P;15RX;16;12NDIT;15X;15;15P;15EX;16;14AT;15X;15;15P;14OT;15X;15;15P;14EX;15;15P",
    "14UT;15X;15;15P;15RX;16;12HNIT;15X;15;15P;15ET;16X;16;16P;14AT;15X;15;15P;14UOX;16;14OT",
    "15X;15P;14EX;15;15P;14UT;12NIT;14X;14;14P;14EX;15;15P;13AX;14;14P;13UOX;15;15P;13OT;14X",
    "14;14P;13EX;14;14P;13UT;14X;14;14P;14RX;15;12HLIT;15X;15;15P;15EX;16;16P;14AT;15X;15;15P",
    "14UOX;16;16P;14OX;15;15P;14EX;15;15P;14UT;15X;15;15P;15RX;16;14YT;15X;15;15P;15RX;16",
    "12LIT;14X;14;14P;14ET;15X;15;15P;13AT;14X;14;14P;13UOT;15X;15;15P;13OT;14X;14;14P;13EX",
    "14;14P;13UT;14X;14;14P;14RX;15;13YT;14X;14;14P;14RX;15;12GIT;14X;14;14P;14ET;15X;15;15P",
    "13AT;14X;14;14P;13UOT;15X;15;15P;13OT;14X;14;14P;13ET;14X;14;14P;13UT;14X;14;14P;14RX;15",
    "12KIT;14X;14;14P;14EX;15;15P;13AT;14X;14;14P;13UOX;15;15P;13OT;14X;14;14P;13ET;14X;14",
    "14P;13UT;14X;14;14P;14RX;15;12GGIT;15X;15;15EX;16;16P;14AT;15X;15;15P;14UOT;16X;16;16P",
    "14OT;15X;15;15P;14ET;15X;15;15P;14UT;15X;15;15P;15RX;16;12MGIEX;16;14AT;15X;15;15P;14UOX",
    "16;16P;14OT;15X;15;15P;14EX;15;15P;14UT;15X;15;15P;15RX;16;12HXIT;15X;15;15P;15ET;16X;16",
    "16P;14AT;15X;15;15P;14UOT;16X;16;16P;14OT;15X;15;15P;14EX;15;15P;12NGIEX;16;16P;14AT;15X",
    "15;15P;14UOT;16X;16;14OT;15X;15;15P;14EX;15;15P;12HIT;14EX;15;13AT;14X;14;14P;13UOT;15X",
    "15;15P;13OT;14X;14;14P;13EX;14;14P;12WAT;14X;14;14P;13UOX;15;15P;13OX;14;14P;13EX;14;14P",
    "12ZIT;14X;14;14P;14EX;15;15P;13AT;14X;14;14P;13UOX;15;15P;13OT;14X;14;14P;13EX;14;14P",
    "13UT;14X;14;14P;14RX;15;13YT;14X;14;14P;14RX;15;12CIT;14X;14;14P;14ET;15X;15;15P;13AT",
    "14X;14;14P;13UOX;15;15P;13OT;14X;14;14P;13EX;14;14P;13UT;14X;14;14P;14RX;15;13YT;14X;14",
    "14P;14RX;15;12ZZIT;15X;15;15P;15ET;16X;16;16P;14AT;15X;15;15P;14OX;15;15P;14EX;15;15P",
    "14UX;15;15P;15RX;16;14YT;15X;15;15P;15RX;16;12NZIT;15X;15;15P;15EX;16;16P;14AT;15X;15",
    "15P;14UOX;16;14OX;15P;14EX;15;14UX;15;15P;15RX;16;14YT;15X;15;15P;15RX;16;12SIT;14X;14",
    "14P;14EX;15;15P;13AT;14X;14;14P;13UOX;15;15P;13OT;14X;14;14P;13EX;14;14P;13UT;14X;14;14P",
    "14RX;15;13YT;14X;14;14P;14RX;15;13SIT;15X;15;15P;15EX;16;16P;14AT;15X;15;15P;14OT;15X;15",
    "15P;14EX;15;15P;14UT;15X;15;15P;14YT;15X;15;15P;15RX;16;12ZHAT;15X;15;15P;14UOX;16;16P",
    "14OT;15X;15;15P;14ET;15X;15;15P;14UT;15X;15;15P;15RX;16;14YT;15X;15;15P;15RX;16;12CHAT",
    "15X;15;15P;14UOT;16X;16;16P;14OT;15X;15;15P;14ET;15X;15;15P;14UX;15;15P;15RX;16;14YT;15X",
    "15;15P;15RX;16;12RRAX;15;14UOX;16;14OT;15X;15;15P;14ET;15X;15;15P;14UT;15X;15;15P;15RX",
    "16;14YT;15X;15;15P;15RX;16;12NRAT;15X;15;15P;14OX;15;15P;14ET;15X;15;15P;14UT;15X;15;15P",
    "15RX;16;14YT;15X;15;15P;15RX;16;12SHAT;15X;15;15P;14UOX;16;16P;14OT;15X;15;15P;14ET;15X",
    "15;15P;14UT;15X;15;15P;15RX;16;14YT;15X;15;15P;15RX;16;12RAT;14X;14;14P;13UOX;15;15P",
    "13OT;14X;14;14P;13EX;14;14P;13UT;14X;14;14P;14RX;15;13YT;14X;14;14P;14RX;15;12JIT;14X;14",
    "14P;14ET;15X;15;15P;13UOT;15X;15;15P;13OT;14X;14;14P;13UT;14X;14;14P;14RX;15;13YT;14X;14",
    "14P;14RX;15;12QIT;14X;14;14P;14ET;15X;15;15P;13UOT;15X;15;15P;13OT;14X;14;14P;13UT;14X",
    "14;14P;14RX;15;13YT;14X;14;14P;14RX;15;12JJIT;15X;15;15P;15ET;16X;16;16P;14UOX;16;16P",
    "14OT;15X;15;15P;14UT;15X;15;15P;15RX;16;14YT;15X;15;15P;12NJIT;15X;15;15P;15ET;16X;16",
    "16P;14UOX;16;14OT;15X;15;15P;14UX;15;15P;15RX;16;14YT;15X;15;15P;15RX;16;13YIT;15X;15",
    "15P;15ET;16X;16;16P;14UOX;16;16P;14OT;15X;15;15P;14UT;15X;15;15P;12XIT;14X;14;14P;14ET",
    "15X;15;15P;13UOX;15;13OT;14X;14;14P;13YT;14X;14;14P;14RX;15;12YIT;14X;14;14P;14ET;15X;15",
    "15P;13UOT;15X;15;15P;13OT;14X;14;14P;13UT;14X;14;14P;14RX;15;13YT;14X;14;14P;14RX;15;+3",
    "03RADICAL QOT;11LI;11KIT;11NYIP;11CYP;11SSI;11GGOP;12EP;11MI;11HXIT;11LYR;11BBUT;11MOP",
    "11YO;11PUT;11HXUO;11TAT;11GA;11ZUP;11CYT;11DDUR;11BUR;11GGUO;11NYOP;11TU;11OP;11JJUT",
    "11ZOT;11PYT;11HMO;11YIT;11VUR;11SHY;11VEP;11ZA;11JO;11NZUP;11JJY;11GOT;11JJIE;11WO;11DU",
    "11SHUR;11LIE;11CY;12UOP;12IP;11HXOP;11SHAT;11ZUR;11SHOP;11CHE;11ZZIET;11NBIE;11KE"
  ]

end ApiDoc.Text.CharacterName
