import ApiDoc.Text.CharacterName.Coded

/-!
# Names of characters: AncientScripts

The names of ancient scripts and scripts of minorities.
-/

namespace ApiDoc.Text.CharacterName

/-- The names of the characters from `10000` to `11fff`. -/
def ancientScripts : Coded where
  first := 0x10000
  lines := [
    "00LINEAR B SYLLABLE B008 A;2038 E;2028 I;2061 O;2010 U;2001 DA;2045 DE;2007 DI;2014 DO",
    "2051 DU;217 JA;2046 JE;+1;2036 JO;2065 JU;2077 KA;2044 KE;2067 KI;2070 KO;2081 KU;210 MA",
    "2013 ME;2073 MI;2015 MO;2023 MU;2006 NA;2024 NE;2030 NI;2052 NO;215 NU;2003 PA;2072 PE",
    "2039 PI;2011 PO;2050 PU;2016 QA;2078 QE;2021 QI;2032 QO;+1;2060 RA;2027 RE;2053 RI",
    "2002 RO;2026 RU;2031 SA;2009 SE;2041 SI;2012 SO;2058 SU;219 TA;2004 TE;2037 TI;2005 TO",
    "2069 TU;2054 WA;2075 WE;2040 WI;212 WO;+1;2017 ZA;2074 ZE;+1;2020 ZO;215 A2;2043 A3",
    "2085 AU;2071 DWE;2090 DWO;2048 NWA;2029 PU2;2062 PTE;2076 RA2;2033 RA3;2068 RO2;216 TA2",
    "2087 TWE;2091 TWO;+2;11MBOL B018;199;1822;1834;1847;199;1856;1863;194;1879;1882;193;196",
    "199;+22;09IDEOGRAM B100 MAN;212 WOMAN;214 DEER;215 EQUID;22F MARE;22M STALLION;216F EWE",
    "22M RAM;217F SHE-GOAT;22M HE-GOAT;218F SOW;22M BOAR;219F COW;22M BULL;2020 WHEAT",
    "211 BARLEY;212 OLIVE;213 SPICE;215 CYPERUS;09MONOGRAM B127 KAPO;218 KANAKO",
    "09IDEOGRAM B130 OIL;211 WINE;212;09MONOGRAM B133 AREPA;215 MERI;09IDEOGRAM B140 BRONZE",
    "211 GOLD;212;215 WOOL;216;2050;211 HORN;212;213;214;09MONOGRAM B156 TURO2",
    "09IDEOGRAM B157;218;219 CLOTH;2060;211;212 GARMENT;213 ARMOUR;214;215;216;217;218;219",
    "2070;211;212;213 MONTH;214;216 TREE;217;218;219;2080;211;212;213;214;215;219;2090",
    "211 HELMET;19220 FOOTSTOOL;215 BATHTUB;2030 SPEAR;211 ARROW;212;213 SWORD;214;216",
    "2040 WHEELED CHARIOT;211 CHARIOT;212 CHARIOT FRAME;213 WHEEL;215;216",
    "09MONOGRAM B247 DIPTE;09IDEOGRAM B248;219;2051;212;213;214 DART;215;216;217;218;219",
    "18VESSEL B155;26200;281;282;283;284;285;286;287;288;289;2710;281;282;283;284;285;286;287",
    "288;289;2721;282;286;287;288;289;2750;26305;+5;00AEGEAN WORD SEPARATOR LINE;22DOT",
    "07CHECK MARK;+4;07NUMBER ONE;14TWO;15HREE;14FOUR;15IVE;14SIX;15EVEN;14EIGHT;14NINE;14TEN",
    "15WENTY;15HIRTY;14FORTY;15IFTY;14SIXTY;15EVENTY;14EIGHTY;14NINETY;14ONE HUNDRED",
    "14TWO HUNDRED;15HREE HUNDRED;14FOUR HUNDRED;15IVE HUNDRED;14SIX HUNDRED;15EVEN HUNDRED",
    "14EIGHT HUNDRED;14NINE HUNDRED;14ONE THOUSAND;14TWO THOUSAND;15HREE THOUSAND",
    "14FOUR THOUSAND;15IVE THOUSAND;14SIX THOUSAND;15EVEN THOUSAND;14EIGHT THOUSAND",
    "14NINE THOUSAND;14TEN THOUSAND;15WENTY THOUSAND;15HIRTY THOUSAND;14FORTY THOUSAND",
    "15IFTY THOUSAND;14SIXTY THOUSAND;15EVENTY THOUSAND;14EIGHTY THOUSAND;14NINETY THOUSAND",
    "+3;07WEIGHT BASE UNIT;14FIRST SUBUNIT;14SECOND SUBUNIT;14THIRD SUBUNIT;14FOURTH SUBUNIT",
    "07DRY MEASURE FIRST SUBUNIT;07LIQUID MEASURE FIRST SUBUNIT;07MEASURE SECOND SUBUNIT",
    "15THIRD SUBUNIT;00GREEK ACROPHONIC ATTIC ONE QUARTER;27HALF;27DRACHMA;23FIVE;25FTY",
    "25VE HUNDRED;28THOUSAND;25FTY THOUSAND;25VE TALENTS;23TEN TALENTS;23FIFTY TALENTS",
    "23ONE HUNDRED TALENTS;23FIVE HUNDRED TALENTS;23ONE THOUSAND TALENTS",
    "23FIVE THOUSAND TALENTS;28STATERS;23TEN STATERS;23FIFTY STATERS;23ONE HUNDRED STATERS",
    "23FIVE HUNDRED STATERS;23ONE THOUSAND STATERS;23TEN THOUSAND STATERS",
    "23FIFTY THOUSAND STATERS;23TEN MNAS;17HERAEUM ONE PLETHRON;17THESPIAN ONE",
    "17HERMIONIAN ONE;17EPIDAUREAN TWO;17THESPIAN TWO;17CYRENAIC TWO DRACHMAS",
    "17EPIDAUREAN TWO DRACHMAS;17TROEZENIAN FIVE;28TEN;31 ALTERNATE FORM;17HERMIONIAN TEN",
    "17MESSENIAN TEN;17THESPIAN TEN;27HIRTY;18ROEZENIAN FIFTY;33 ALTERNATE FORM",
    "17HERMIONIAN FIFTY;17THESPIAN FIFTY;26ONE HUNDRED;26THREE HUNDRED",
    "17EPIDAUREAN FIVE HUNDRED;17TROEZENIAN FIVE HUNDRED;18HESPIAN FIVE HUNDRED",
    "17CARYSTIAN FIVE HUNDRED;17NAXIAN FIVE HUNDRED;17THESPIAN ONE THOUSAND;26FIVE THOUSAND",
    "17DELPHIC FIVE MNAS;17STRATIAN FIFTY MNAS;06ONE HALF SIGN;19 ALTERNATE FORM",
    "06TWO THIRDS SIGN;07HREE QUARTERS SIGN;06YEAR SIGN;06TALENT SIGN;06DRACHMA SIGN",
    "06OBOL SIGN;06TWO OBOLS SIGN;07HREE OBOLS SIGN;06FOUR OBOLS SIGN;07IVE OBOLS SIGN",
    "06METRETES SIGN;06KYATHOS BASE SIGN;06LITRA SIGN;06OUNKIA SIGN;06XESTES SIGN",
    "06ARTABE SIGN;08OURA SIGN;06GRAMMA SIGN;06TRYBLION BASE SIGN;06ZERO SIGN",
    "06ONE QUARTER SIGN;06SINUSOID SIGN;06INDICTION SIGN;00NOMISMA SIGN;+1",
    "00ROMAN SEXTANS SIGN;06UNCIA SIGN;06SEMUNCIA SIGN;08XTULA SIGN;06DIMIDIA SEXTULA SIGN",
    "06SILIQUA SIGN;06DENARIUS SIGN;06QUINARIUS SIGN;06SESTERTIUS SIGN;06DUPONDIUS SIGN",
    "06AS SIGN;06CENTURIAL SIGN;00ASCIA SYMBOL;+3;00GREEK SYMBOL TAU RHO;+2F",
    "00PHAISTOS DISC SIGN PEDESTRIAN;20LUMED HEAD;19TATTOOED HEAD;19CAPTIVE;20HILD;19WOMAN",
    "19HELMET;19GAUNTLET;19TIARA;19ARROW;19BOW;19SHIELD;19CLUB;19MANACLES;21TTOCK;19SAW;19LID",
    "19BOOMERANG;19CARPENTRY PLANE;19DOLIUM;19COMB;19SLING;19COLUMN;19BEEHIVE;19SHIP;19HORN",
    "20IDE;19BULLS LEG;19CAT;19RAM;19EAGLE;19DOVE;19TUNNY;19BEE;19PLANE TREE;19VINE;19PAPYRUS",
    "19ROSETTE;19LILY;19OX BACK;19FLUTE;19GRATER;19STRAINER;20MALL AXE;19WAVY BAND",
    "19COMBINING OBLIQUE STROKE;+82;00LYCIAN LETTER A;14E;14B;15H;14G;14D;14I;14W;14Z;14TH",
    "14J;14K;14Q;14L;14M;14N;14MM;14NN;14U;14P;14KK;14R;14S;14T;15T;14AN;14EN;14H;14X;+3",
    "00CARIAN LETTER A;14P2;14D;14L;14UUU;14R;14LD;14A2;14Q;14B;14M;14O;14D2;14T;14SH;162;15",
    "14C-18;14U;14NN;14X;14N;14TT2;14P;14SS;14I;14E;14UUUU;14K;152;14ND;14UU;14G;152;14ST;162",
    "14NG;14II;14C-39;14TT;14UUU2;14RR;14MB;162;163;164;14LD2;14E2;14UUU3;+F",
    "01OPTIC EPACT THOUSANDS MARK;13DIGIT ONE;19TWO;20HREE;19FOUR;20IVE;19SIX;20EVEN;19EIGHT",
    "19NINE;13NUMBER TEN;21WENTY;21HIRTY;20FORTY;21IFTY;20SIXTY;21EVENTY;20EIGHTY;20NINETY",
    "20ONE HUNDRED;20TWO HUNDRED;21HREE HUNDRED;20FOUR HUNDRED;21IVE HUNDRED;20SIX HUNDRED",
    "21EVEN HUNDRED;20EIGHT HUNDRED;20NINE HUNDRED;+4;00OLD ITALIC LETTER A;18BE;18KE;18DE",
    "18E;18VE;18ZE;18HE;18THE;18I;18KA;18EL;19M;19N;19SH;18O;18PE;18SHE;18KU;18ER;19S;18TE",
    "18U;18EKS;18PHE;18KHE;18EF;19RS;18CHE;18II;18UU;18ESS;11NUMERAL ONE;19FIVE;19TEN;19FIFTY",
    "+9;11LETTER YE;18NORTHERN TSE;18SOUTHERN TSE;00GOTHIC LETTER AHSA;14BAIRKAN;14GIBA",
    "14DAGS;14AIHVUS;14QAIRTHRA;14IUJA;14HAGL;14THIUTH;14EIS;14KUSMA;14LAGUS;14MANNA;14NAUTHS",
    "14JER;14URUS;14PAIRTHRA;14NINETY;14RAIDA;14SAUIL;14TEIWS;14WINJA;14FAIHU;14IGGWS;14HWAIR",
    "14OTHAL;14NINE HUNDRED;+5;00OLD PERMIC LETTER AN;18BUR;18GAI;18DOI;18E;18ZHOI;18DZHOI",
    "18ZATA;18DZITA;18I;18KOKE;18LEI;18MENOE;18NENOE;18VOOI;18PEEI;18REI;18SII;18TAI;18U",
    "18CHERY;18SHOOI;20CHOOI;18YRY;19ERU;18O;19O;18EF;18HA;18TSIU;18VER;18YER;21I;19AT;18IE",
    "18YU;19A;18IA;00COMBINING OLD PERMIC LETTER AN;28DOI;28ZATA;28NENOE;28SII;+5",
    "00UGARITIC LETTER ALPA;16BETA;16GAMLA;16KHA;16DELTA;16HO;16WO;16ZETA;16HOTA;16TET;16YOD",
    "16KAF;16SHIN;16LAMDA;16MEM;16DHAL;16NUN;16ZU;16SAMKA;16AIN;16PU;16SADE;16QOPA;16RASHA",
    "16THANNA;16GHAIN;16TO;16I;16U;16SSU;+1;09WORD DIVIDER;00OLD PERSIAN SIGN A;17I;17U;17KA",
    "18U;17GA;18U;17XA;17CA;17JA;18I;17TA;18U;17DA;18I;18U;17THA;17PA;17BA;17FA;17NA;18U;17MA",
    "18I;18U;17YA;17VA;18I;17RA;18U;17LA;17SA;17ZA;17SHA;18SA;17HA;+4;17AURAMAZDAA;27-2;27HA",
    "17XSHAAYATHIYA;17DAHYAAUSH;26-2;17BAGA;18UUMISH;12WORD DIVIDER;12NUMBER ONE;19TWO;20EN",
    "20WENTY;19HUNDRED;+2A;00DESERET CAPITAL LETTER LONG I;28E;28A;29H;28O;29O;23SHORT I;29E",
    "29A;30H;29O;30O;23AY;23OW;23WU;23YEE;23H;23PEE;23BEE;23TEE;23DEE;23CHEE;23JEE;23KAY",
    "23GAY;23EF;23VEE;23ETH;23THEE;23ES;23ZEE;23ESH;23ZHEE;23ER;24L;24M;24N;25G;23OI;23EW",
    "08SMALL LETTER LONG I;26E;26A;27H;26O;27O;21SHORT I;27E;27A;28H;27O;28O;21AY;21OW;21WU",
    "21YEE;21H;21PEE;21BEE;21TEE;21DEE;21CHEE;21JEE;21KAY;21GAY;21EF;21VEE;21ETH;21THEE;21ES",
    "21ZEE;21ESH;21ZHEE;21ER;22L;22M;22N;23G;21OI;21EW;00SHAVIAN LETTER PEEP;15TOT;15KICK",
    "15FEE;15THIGH;15SO;16URE;15CHURCH;15YEA;15HUNG;15BIB;15DEAD;15GAG;15VOW;15THEY;15ZOO",
    "15MEASURE;15JUDGE;15WOE;15HA-HA;15LOLL;15MIME;15IF;15EGG;15ASH;16DO;15ON;15WOOL;15OUT",
    "15AH;15ROAR;15NUN;15EAT;15AGE;15ICE;15UP;15OAK;16OZE;16IL;15AWE;16RE;15OR;15AIR;15ERR",
    "15ARRAY;15EAR;15IAN;15YEW;00OSMANYA LETTER ALEF;15BA;15TA;15JA;15XA;15KHA;15DEEL;15RA",
    "15SA;16HIIN;15DHA;15CAYN;15GA;15FA;15QAAF;15KAAF;15LAAN;15MIIN;15NUUN;15WAW;15HA;15YA",
    "15A;15E;15I;15O;15U;15AA;15EE;15OO;+2;08DIGIT ZERO;14ONE;14TWO;15HREE;14FOUR;15IVE;14SIX",
    "15EVEN;14EIGHT;14NINE;+6;02AGE CAPITAL LETTER A;22I;23N;22H;21BRA;21CHA;21EHCHA;22;22IN",
    "21HA;22YA;21I;21KA;21EHKA;21KYA;21LA;21MA;21NA;21O;22IN;21PA;21EHPA;21SA;22HA;21TA",
    "21EHTA;21TSA;21EHTSA;21TSHA;21DHA;21U;21WA;21KHA;21GHA;21ZA;22HA;+4;06SMALL LETTER A;20I",
    "21N;20H;19BRA;19CHA;19EHCHA;20;20IN;19HA;20YA;19I;19KA;19EHKA;19KYA;19LA;19MA;19NA;19O",
    "20IN;19PA;19EHPA;19SA;20HA;19TA;19EHTA;19TSA;19EHTSA;19TSHA;19DHA;19U;19WA;19KHA;19GHA",
    "19ZA;20HA;+4;00ELBASAN LETTER A;15BE;15CE;16HE;15DE;15NDE;15DHE;15EI;16;15FE;15GE;16JE",
    "15HE;15I;15JE;15KE;15LE;16LE;15ME;15NE;16A;16JE;15O;15PE;15QE;15RE;16RE;15SE;16HE;15TE",
    "16HE;15U;15VE;15XE;15Y;15ZE;16HE;15GHE;17AMMA;15KHE;+8;00CAUCASIAN ALBANIAN LETTER ALT",
    "26BET;26GIM;26DAT;26EB;26ZARL;26EYN;26ZHIL;26TAS;26CHA;26YOWD;26ZHA;26IRB;26SHA;26LAN",
    "26INYA;26XEYN;26DYAN;26CAR;26JHOX;26KAR;26LYIT;26HEYT;26QAY;26AOR;26CHOY;28I;27YAY;26MAQ",
    "26QAR;26NOWC;26DZYAY;26SHAK;26JAYN;26ON;26TYAY;26FAM;26DZAY;26CHAT;26PEN;26GHEYS;26RAT",
    "26SEYK;26VEYZ;26TIWR;26SHOY;26IWN;26CYAW;27AYN;26YAYD;26PIWR;26KIW;+B;19CITATION MARK",
    "00VITHKUQI CAPITAL LETTER A;24BBE;25E;24CE;25HE;24DE;25HE;24EI;25;24FE;24GA;+1;24HA;25HA",
    "24I;25JE;24JE;24KA;24LA;25LA;24ME;24NE;25JE;24O;24PE;24QA;24RE;+1;24SE;25HE;24TE;25HE",
    "24U;24VE;24XE;+1;24Y;24ZE;+1;09SMALL LETTER A;22BBE;23E;22CE;23HE;22DE;23HE;22EI;23;22FE",
    "22GA;+1;22HA;23HA;22I;23JE;22JE;22KA;22LA;23LA;22ME;22NE;23JE;22O;22PE;22QA;22RE;+1;22SE",
    "23HE;22TE;23HE;22U;22VE;22XE;+1;22Y;22ZE;+43;00LINEAR A SIGN AB001;182;183;184;185;186",
    "187;188;189;1710;181;183;186;187;1720;181;19F;19M;182;19F;19M;183;19M;184;186;187;188",
    "15028B;15B029;1730;181;184;187;188;189;1740;181;184;185;186;187;188;189;1750;181;183;184",
    "185;186;187;188;189;1760;181;185;186;187;189;1770;183;184;186;187;188;189;1780;181;182",
    "185;186;187;15100-102;15B118;1720;15120B;15B122;183;1731A;19B;15131C;15B164;1771;1780",
    "188;1791;15301;172;173;174;175;176;177;178;179A;18B;18C;1610;171;172;173A;18B;18C;174",
    "175;176;177;178;179;1620;171;172;173;174;175;176;177;178;179;1630;171;172;173;174;175",
    "176;177;178;179;1640;171;172;173;174;175;176;177;178;179;1650;171;172;173;174;175;176",
    "177;178;179;1660;171;172;173;174;175;176;177;178;179;1670;171;15400-VAS;171-VAS;172-VAS",
    "173-VAS;174-VAS;175-VAS;176-VAS;177-VAS;178-VAS;179-VAS;1610-VAS;171-VAS;172-VAS;173-VAS",
    "174-VAS;175-VAS;176-VAS;177-VAS;178-VAS;15501;172;173;174;175;176;178;179;1610;171;172",
    "173;175;176;1620;171;173;174;175;176;177;178;179;1630;171;172;174;175;176;177;178;179",
    "1640;171;172;175;177;178;179;1650;171;172;173;174;175;176;177;179;1663;174;175;176;178",
    "179;1670;171;172;173;174;175;176;177;178;179;1680;171;172;173;174;175;176;177;178;179",
    "1691;172;174;175;176;178;15600;171;172;173;174;176;178;179;1610;171;172;173;174;175;176",
    "177;178;179;1620;171;172;173;174;176;177;178;179;1634;177;178;1640;172;173;174;175;176",
    "178;179;1651;172;173;174;175;176;177;178;179;1660;171;172;173;174;+9;15701 A;172 B;173 D",
    "174 E;175 F;176 H;177 J;178 K;179 L;18-2 L2;193 L3;194 L4;196 L6;1610 W;171 X;172 Y",
    "173 OMEGA;174 ABB;175 BB;177 DD;1626 EYYY;1632 JE;+A;15800;171;172;173;174;175;176;177",
    "+18;00MODIFIER LETTER SMALL CAPITAL AA;17UPERSCRIPT TRIANGULAR COLON",
    "28HALF TRIANGULAR COLON;17MALL AE;22CAPITAL B;22B WITH HOOK;+1;22DZ DIGRAPH",
    "32 WITH RETROFLEX HOOK;38CURL;23EZH DIGRAPH;23 WITH TAIL;29HOOK;33 AND TAIL;22REVERSED E",
    "22CLOSED REVERSED OPEN E;22FENG DIGRAPH;22RAMS HORN;22CAPITAL G;22G WITH HOOK",
    "22CAPITAL G WITH HOOK;22H WITH STROKE;22CAPITAL H;22HENG WITH HOOK",
    "22DOTLESS J WITH STROKE AND HOOK;22LS DIGRAPH;23Z DIGRAPH;23 WITH BELT",
    "22CAPITAL L WITH BELT;22L WITH RETROFLEX HOOK AND BELT;23EZH;26 WITH RETROFLEX HOOK",
    "22TURNED Y;30 WITH BELT;22O WITH STROKE;22CAPITAL OE;23LOSED OMEGA;22Q",
    "22TURNED R WITH LONG LEG;44 AND RETROFLEX HOOK;22R WITH TAIL;29FISHHOOK;22CAPITAL R",
    "22TC DIGRAPH WITH CURL;23S DIGRAPH;32 WITH RETROFLEX HOOK;23ESH DIGRAPH",
    "23 WITH RETROFLEX HOOK;22V WITH RIGHT HOOK;+1;22CAPITAL Y;16GLOTTAL STOP WITH STROKE",
    "16REVERSED GLOTTAL STOP WITH STROKE;16BILABIAL CLICK;16DENTAL CLICK;16LATERAL CLICK",
    "16ALVEOLAR CLICK;16RETROFLEX CLICK WITH RETROFLEX HOOK;16SMALL S WITH CURL;+45",
    "00CYPRIOT SYLLABLE A;17E;17I;17O;17U;17JA;+2;18O;+1;17KA;18E;18I;18O;18U;17LA;18E;18I",
    "18O;18U;17MA;18E;18I;18O;18U;17NA;18E;18I;18O;18U;17PA;18E;18I;18O;18U;17RA;18E;18I;18O",
    "18U;17SA;18E;18I;18O;18U;17TA;18E;18I;18O;18U;17WA;18E;18I;18O;+1;17XA;18E;+3;17ZA;+2",
    "18O;00IMPERIAL ARAMAIC LETTER ALEPH;24BETH;24GIMEL;24DALETH;24HE;24WAW;24ZAYIN;24HETH",
    "24TETH;24YODH;24KAPH;24LAMEDH;24MEM;24NUN;24SAMEKH;24AYIN;24PE;24SADHE;24QOPH;24RESH",
    "24SHIN;24TAW;+1;17SECTION SIGN;17NUMBER ONE;24TWO;25HREE;25EN;25WENTY;24ONE HUNDRED",
    "28THOUSAND;24TEN THOUSAND;00PALMYRENE LETTER ALEPH;17BETH;17GIMEL;17DALETH;17HE;17WAW",
    "17ZAYIN;17HETH;17TETH;17YODH;17KAPH;17LAMEDH;17MEM;17FINAL NUN;17NUN;17SAMEKH;17AYIN",
    "17PE;17SADHE;17QOPH;17RESH;17SHIN;17TAW;12FT-POINTING FLEURON;10RIGHT-POINTING FLEURON",
    "10NUMBER ONE;17TWO;18HREE;17FOUR;18IVE;17TEN;18WENTY;00NABATAEAN LETTER FINAL ALEPH",
    "17ALEPH;17FINAL BETH;17BETH;17GIMEL;17DALETH;17FINAL HE;17HE;17WAW;17ZAYIN;17HETH;17TETH",
    "17FINAL YODH;17YODH;17FINAL KAPH;17KAPH;17FINAL LAMEDH;17LAMEDH;17FINAL MEM;17MEM",
    "17FINAL NUN;17NUN;17SAMEKH;17AYIN;17PE;17SADHE;17QOPH;17RESH;17FINAL SHIN;17SHIN;17TAW",
    "+8;10NUMBER ONE;17TWO;18HREE;17FOUR;10CRUCIFORM NUMBER FOUR;10NUMBER FIVE;17TEN;18WENTY",
    "17ONE HUNDRED;+30;00HATRAN LETTER ALEPH;14BETH;14GIMEL;14DALETH-RESH;14HE;14WAW;14ZAYN",
    "14HETH;14TETH;14YODH;14KAPH;14LAMEDH;14MEM;14NUN;14SAMEKH;14AYN;14PE;14SADHE;14QOPH;+1",
    "14SHIN;14TAW;+5;07NUMBER ONE;14FIVE;14TEN;15WENTY;14ONE HUNDRED;00PHOENICIAN LETTER ALF",
    "18BET;18GAML;18DELT;18HE;18WAU;18ZAI;18HET;18TET;18YOD;18KAF;18LAMD;18MEM;18NUN;18SEMK",
    "18AIN;18PE;18SADE;18QOF;18ROSH;18SHIN;18TAU;11NUMBER ONE;18TEN;19WENTY;18ONE HUNDRED",
    "18TWO;19HREE;+3;11WORD SEPARATOR;00LYDIAN LETTER A;14B;14G;14D;14E;14V;14I;14Y;14K;14L",
    "14M;14N;14O;14R;14SS;14T;14U;14F;14Q;14S;14TT;14AN;14EN;14LY;14NN;14C;+5",
    "07TRIANGULAR MARK;+40;00MEROITIC HIEROGLYPHIC LETTER A;29E;29I;29O;29YA;29WA;29BA;31-2",
    "29PA;29MA;29NA;31-2;30E;31-2;29RA;31-2;29LA;29KHA;29HHA;29SA;31-2;30E;29KA;29QA;29TA",
    "31-2;30E;31-2;30O;29DA;22SYMBOL VIDJ;33-2;09CURSIVE LETTER A;24E;24I;24O;24YA;24WA;24BA",
    "24PA;24MA;24NA;25E;24RA;24LA;24KHA;24HHA;24SA;24ARCHAIC SA;24SE;24KA;24QA;24TA;25E;25O",
    "24DA;+4;17FRACTION ELEVEN TWELFTHS;26ONE HALF;17LOGOGRAM RMT;26IMN;17NUMBER ONE;24TWO",
    "25HREE;24FOUR;25IVE;24SIX;25EVEN;24EIGHT;24NINE;24TEN;25WENTY;25HIRTY;24FORTY;25IFTY",
    "24SIXTY;25EVENTY;+2;24ONE HUNDRED;24TWO HUNDRED;25HREE HUNDRED;24FOUR HUNDRED",
    "25IVE HUNDRED;24SIX HUNDRED;25EVEN HUNDRED;24EIGHT HUNDRED;24NINE HUNDRED;24ONE THOUSAND",
    "24TWO THOUSAND;25HREE THOUSAND;24FOUR THOUSAND;25IVE THOUSAND;24SIX THOUSAND",
    "25EVEN THOUSAND;24EIGHT THOUSAND;24NINE THOUSAND;24TEN THOUSAND;25WENTY THOUSAND",
    "25HIRTY THOUSAND;24FORTY THOUSAND;25IFTY THOUSAND;24SIXTY THOUSAND;25EVENTY THOUSAND",
    "24EIGHTY THOUSAND;24NINETY THOUSAND;24ONE HUNDRED THOUSAND;24TWO HUNDRED THOUSAND",
    "25HREE HUNDRED THOUSAND;24FOUR HUNDRED THOUSAND;25IVE HUNDRED THOUSAND",
    "24SIX HUNDRED THOUSAND;25EVEN HUNDRED THOUSAND;24EIGHT HUNDRED THOUSAND",
    "24NINE HUNDRED THOUSAND;17FRACTION ONE TWELFTH;26TWO TWELFTHS;27HREE TWELFTHS",
    "26FOUR TWELFTHS;27IVE TWELFTHS;26SIX TWELFTHS;27EVEN TWELFTHS;26EIGHT TWELFTHS",
    "26NINE TWELFTHS;26TEN TWELFTHS;00KHAROSHTHI LETTER A;11VOWEL SIGN I;22U;22VOCALIC R;+1",
    "22E;22O;+5;17LENGTH MARK;11SIGN DOUBLE RING BELOW;16ANUSVARA;16VISARGA;11LETTER KA;19HA",
    "18GA;19HA;+1;18CA;19HA;18JA;+1;18NYA;18TTA;20HA;18DDA;20HA;18NNA;18TA;19HA;18DA;19HA",
    "18NA;18PA;19HA;18BA;19HA;18MA;18YA;18RA;18LA;18VA;18SHA;19SA;19A;18ZA;18HA;18KKA;18TTTHA",
    "21A;18VHA;+2;11SIGN BAR ABOVE;16CAUDA;16DOT BELOW;+4;11VIRAMA;11DIGIT ONE;17TWO;18HREE",
    "17FOUR;11NUMBER TEN;19WENTY;18ONE HUNDRED;22THOUSAND;11FRACTION ONE HALF;+7",
    "11PUNCTUATION DOT;23SMALL CIRCLE;23CIRCLE;24RESCENT BAR;23MANGALAM;23LOTUS;23DANDA",
    "24OUBLE DANDA;23LINES;+7;00OLD SOUTH ARABIAN LETTER HE;25LAMEDH;25HETH;25MEM;25QOPH",
    "25WAW;25SHIN;25RESH;25BETH;25TAW;25SAT;25KAPH;25NUN;25KHETH;25SADHE;27MEKH;25FE;25ALEF",
    "26YN;25DHADHE;25GIMEL;25DALETH;25GHAYN;25TETH;25ZAYN;25DHALETH;25YODH;25THAW;27ETH",
    "18NUMBER ONE;25FIFTY;21ERIC INDICATOR;04NORTH ARABIAN LETTER HEH;25LAM;25HAH;25MEEM",
    "25QAF;25WAW;25ES-2;25REH;25BEH;25TEH;25ES-1;25KAF;25NOON;25KHAH;25SAD;25ES-3;25FEH",
    "25ALEF;26IN;25DAD;25GEEM;25DAL;25GHAIN;25TAH;25ZAIN;25THAL;25YEH;25THEH;25ZAH",
    "18NUMBER ONE;25TEN;26WENTY;+20;00MANICHAEAN LETTER ALEPH;18BETH;19HETH;18GIMEL;19HIMEL",
    "18DALETH;18HE;18WAW;11SIGN UD;11LETTER ZAYIN;19HAYIN;18JAYIN;19HAYIN;18HETH;18TETH",
    "18YODH;18KAPH;18XAPH;18KHAPH;18LAMEDH;18DHAMEDH;18THAMEDH;18MEM;18NUN;18SAMEKH;18AYIN",
    "19AYIN;18PE;18FE;18SADHE;18QOPH;18XOPH;18QHOPH;18RESH;18SHIN;19SHIN;18TAW",
    "11ABBREVIATION MARK ABOVE;29BELOW;+4;11NUMBER ONE;18FIVE;18TEN;19WENTY;18ONE HUNDRED",
    "11PUNCTUATION STAR;23FLEURON;23DOUBLE DOT WITHIN DOT;25T WITHIN DOT;26;23TWO DOTS",
    "23LINE FILLER;+9;00AVESTAN LETTER A;16A;16O;16AO;16N;16AN;16E;17E;15E;16E;15O;16O;15I",
    "16I;15U;16U;15KE;15XE;16YE;16VE;15GE;16GE;16HE;15CE;15JE;15TE;16HE;15DE;16HE;15TTE;15PE",
    "15FE;15BE;16HE;15NGE;17YE;17VE;16E;16YE;16NE;15ME;15HME;15YYE;16E;15VE;15RE;15LE;15SE",
    "15ZE;15SHE;15ZHE;15SHYE;16SHE;15HE;+3;08ABBREVIATION MARK",
    "00TINY TWO DOTS OVER ONE DOT PUNCTUATION;00SMALL TWO DOTS OVER ONE DOT PUNCTUATION",
    "00LARGE TWO DOTS OVER ONE DOT PUNCTUATION;06ONE DOT OVER TWO DOTS PUNCTUATION",
    "06TWO RINGS OVER ONE RING PUNCTUATION;06ONE RING OVER TWO RINGS PUNCTUATION",
    "00INSCRIPTIONAL PARTHIAN LETTER ALEPH;30BETH;30GIMEL;30DALETH;30HE;30WAW;30ZAYIN;30HETH",
    "30TETH;30YODH;30KAPH;30LAMEDH;30MEM;30NUN;30SAMEKH;30AYIN;30PE;30SADHE;30QOPH;30RESH",
    "30SHIN;30TAW;+2;23NUMBER ONE;30TWO;31HREE;30FOUR;30TEN;31WENTY;30ONE HUNDRED;34THOUSAND",
    "16HLAVI LETTER ALEPH;29BETH;29GIMEL;29DALETH;29HE;29WAW-AYIN-RESH;29ZAYIN;29HETH;29TETH",
    "29YODH;29KAPH;29LAMEDH;29MEM-QOPH;29NUN;29SAMEKH;29PE;29SADHE;30HIN;29TAW;+5",
    "22NUMBER ONE;29TWO;30HREE;29FOUR;29TEN;30WENTY;29ONE HUNDRED;33THOUSAND",
    "00PSALTER PAHLAVI LETTER ALEPH;23BETH;23GIMEL;23DALETH;23HE;23WAW-AYIN-RESH;23ZAYIN",
    "23HETH;23YODH;23KAPH;23LAMEDH;23MEM-QOPH;23NUN;23SAMEKH;23PE;23SADHE;24HIN;23TAW;+7",
    "16SECTION MARK;16TURNED SECTION MARK;16FOUR DOTS WITH CROSS;31DOT;+C;16NUMBER ONE;23TWO",
    "24HREE;23FOUR;23TEN;24WENTY;23ONE HUNDRED;+50;00OLD TURKIC LETTER ORKHON A;18YENISEI A",
    "27E;18ORKHON I;18YENISEI I;26E;18ORKHON O;26E;18YENISEI OE;18ORKHON AB;18YENISEI AB",
    "18ORKHON AEB;18YENISEI AEB;18ORKHON AG;18YENISEI AG;18ORKHON AEG;18YENISEI AEG",
    "18ORKHON AD;18YENISEI AD;18ORKHON AED;25EZ;18YENISEI EZ;18ORKHON AY;18YENISEI AY",
    "18ORKHON AEY;18YENISEI AEY;18ORKHON AEK;18YENISEI AEK;18ORKHON OEK;18YENISEI OEK",
    "18ORKHON AL;18YENISEI AL;18ORKHON AEL;25ELT;26M;25AN;26EN;18YENISEI AEN;18ORKHON ENT",
    "18YENISEI ENT;18ORKHON ENC;18YENISEI ENC;18ORKHON ENY;18YENISEI ENY;26ANG;18ORKHON ENG",
    "18YENISEI AENG;18ORKHON EP;25OP;25IC;25EC;18YENISEI EC;18ORKHON AQ;18YENISEI AQ",
    "18ORKHON IQ;18YENISEI IQ;18ORKHON OQ;18YENISEI OQ;18ORKHON AR;18YENISEI AR;18ORKHON AER",
    "26S;26ES;26SH;18YENISEI ASH;18ORKHON ESH;18YENISEI ESH;18ORKHON AT;18YENISEI AT",
    "18ORKHON AET;18YENISEI AET;18ORKHON OT;25BASH;+37;04HUNGARIAN CAPITAL LETTER A;30A;29EB",
    "29AMB;29EC;30NC;30CS;30D;29AND;29E;29CLOSE E;29EE;30F;30G;31Y;30H;29I;30I;29EJ;30K;29AK",
    "29UNK;29EL;31Y;30M;30N;31Y;29O;30O;29NIKOLSBURG OE;29RUDIMENTA OE;29OEE;29EP;30MP;30R",
    "29SHORT ER;29ES;31Z;30T;30NT;30TY;30CH;29U;30U;29NIKOLSBURG UE;29RUDIMENTA UE;29EV;30Z",
    "31S;30NT-SHAPED SIGN;29US;+D;14SMALL LETTER A;28A;27EB;27AMB;27EC;28NC;28CS;28D;27AND",
    "27E;27CLOSE E;27EE;28F;28G;29Y;28H;27I;28I;27EJ;28K;27AK;27UNK;27EL;29Y;28M;28N;29Y;27O",
    "28O;27NIKOLSBURG OE;27RUDIMENTA OE;27OEE;27EP;28MP;28R;27SHORT ER;27ES;29Z;28T;28NT;28TY",
    "28CH;27U;28U;27NIKOLSBURG UE;27RUDIMENTA UE;27EV;28Z;29S;28NT-SHAPED SIGN;27US;+7",
    "14NUMBER ONE;21FIVE;21TEN;21FIFTY;21ONE HUNDRED;25THOUSAND;00HANIFI ROHINGYA LETTER A",
    "23BA;23PA;23TA;24TA;23JA;23CA;23HA;23KHA;23FA;23DA;24DA;23RA;24RA;23ZA;23SA;24HA;23KA",
    "23GA;23LA;23MA;23NA;23WA;23KINNA WA;23YA;23KINNA YA;23NGA;24YA;23VA;16VOWEL A;22I;22U",
    "22E;22O;16MARK SAKIN;21NA KHONNA;16SIGN HARBAHAY;21TAHALA;23NA;23SSI;+8;16DIGIT ZERO",
    "22ONE;22TWO;23HREE;22FOUR;23IVE;22SIX;23EVEN;22EIGHT;22NINE;+126;00RUMI DIGIT ONE;11TWO",
    "12HREE;11FOUR;12IVE;11SIX;12EVEN;11EIGHT;11NINE;05NUMBER TEN;13WENTY;13HIRTY;12FORTY",
    "13IFTY;12SIXTY;13EVENTY;12EIGHTY;12NINETY;12ONE HUNDRED;12TWO HUNDRED;13HREE HUNDRED",
    "12FOUR HUNDRED;13IVE HUNDRED;12SIX HUNDRED;13EVEN HUNDRED;12EIGHT HUNDRED;12NINE HUNDRED",
    "05FRACTION ONE HALF;18QUARTER;18THIRD;14TWO THIRDS;+1;00YEZIDI LETTER ELIF;14BE;14PE",
    "15HE;14THE;14SE;14CIM;15HIM;16HIM;14HHA;14XA;14DAL;14ZAL;14RA;15HA;14ZA;14JA;14SIN;15HIN",
    "15AD;14DAD;14TA;14ZE;14EYN;14XHEYN;14FA;14VA;16 ALTERNATE FORM;14QAF;14KAF;15HAF;14GAF",
    "14LAM;14MIM;14NUN;14UM;14WAW;14OW;14EW;14HAY;14YOT;14ET;+1;07COMBINING HAMZA MARK",
    "17MADDA MARK;07HYPHENATION MARK;+2;07LETTER LAM WITH DOT ABOVE",
    "14YOT WITH CIRCUMFLEX ABOVE;+4E;00OLD SOGDIAN LETTER ALEPH;19FINAL ALEPH;19BETH",
    "19FINAL BETH;19GIMEL;19HE;19FINAL HE;19WAW;19ZAYIN;19HETH;19YODH;19KAPH;19LAMEDH;19MEM",
    "19NUN;19FINAL NUN;28 WITH VERTICAL TAIL;19SAMEKH;19AYIN;20LTERNATE AYIN;19PE;19SADHE",
    "19FINAL SADHE;30 WITH VERTICAL TAIL;19RESH-AYIN-DALETH;19SHIN;19TAW;19FINAL TAW",
    "28 WITH VERTICAL TAIL;12NUMBER ONE;19TWO;20HREE;19FOUR;20IVE;19TEN;20WENTY;20HIRTY",
    "19ONE HUNDRED;12FRACTION ONE HALF;12LIGATURE AYIN-DALETH;+8;00SOGDIAN LETTER ALEPH",
    "15BETH;15GIMEL;15HE;15WAW;15ZAYIN;15HETH;15YODH;15KAPH;15LAMEDH;15MEM;15NUN;15SAMEKH",
    "15AYIN;15PE;15SADHE;15RESH-AYIN;15SHIN;15TAW;15FETH;15LESH;08INDEPENDENT SHIN",
    "08COMBINING DOT BELOW;18TWO DOTS BELOW;18DOT ABOVE;18TWO DOTS ABOVE;18CURVE ABOVE",
    "24BELOW;18HOOK ABOVE;23BELOW;18LONG HOOK BELOW;18RESH BELOW;18STROKE BELOW;08NUMBER ONE",
    "15TEN;16WENTY;15ONE HUNDRED;08PUNCTUATION TWO VERTICAL BARS;37 WITH DOTS",
    "20CIRCLE WITH DOT;20TWO CIRCLES WITH DOTS;20HALF CIRCLE WITH DOT;+16",
    "00OLD UYGHUR LETTER ALEPH;18BETH;18GIMEL-HETH;18WAW;18ZAYIN;18FINAL HETH;18YODH;18KAPH",
    "18LAMEDH;18MEM;18NUN;18SAMEKH;18PE;18SADHE;18RESH;18SHIN;18TAW;18LESH",
    "11COMBINING DOT ABOVE;25BELOW;21TWO DOTS ABOVE;30BELOW;11PUNCTUATION BAR;23TWO BARS",
    "27DOTS;23FOUR DOTS;+26;00CHORASMIAN LETTER ALEPH;18SMALL ALEPH;18BETH;18GIMEL;18DALETH",
    "18HE;18WAW;18CURLED WAW;18ZAYIN;18HETH;18YODH;18KAPH;18LAMEDH;18MEM;18NUN;18SAMEKH",
    "18AYIN;18PE;18RESH;18SHIN;18TAW;11NUMBER ONE;18TWO;19HREE;18FOUR;18TEN;19WENTY",
    "18ONE HUNDRED;+14;00ELYMAIC LETTER ALEPH;15BETH;15GIMEL;15DALETH;15HE;15WAW;15ZAYIN",
    "15HETH;15TETH;15YODH;15KAPH;15LAMEDH;15MEM;15NUN;15SAMEKH;15AYIN;15PE;15SADHE;15QOPH",
    "15RESH;15SHIN;15TAW;09IGATURE ZAYIN-YODH;+9;00BRAHMI SIGN CANDRABINDU;12ANUSVARA",
    "12VISARGA;12JIHVAMULIYA;12UPADHMANIYA;07LETTER A;15A;14I;15I;14U;15U;14VOCALIC R;23R;22L",
    "23L;14E;14AI;14O;14AU;14KA;15HA;14GA;15HA;14NGA;14CA;15HA;14JA;15HA;14NYA;14TTA;16HA",
    "14DDA;16HA;14NNA;14TA;15HA;14DA;15HA;14NA;14PA;15HA;14BA;15HA;14MA;14YA;14RA;14LA;14VA",
    "14SHA;15SA;15A;14HA;14LLA;14OLD TAMIL LLLA;24RRA;24NNNA;07VOWEL SIGN AA;18BHATTIPROLU AA",
    "18I;19I;18U;19U;18VOCALIC R;27R;26L;27L;18E;18AI;18O;18AU;08IRAMA;07DANDA;08OUBLE DANDA",
    "07PUNCTUATION DOT;21UBLE DOT;19LINE;19CRESCENT BAR;19LOTUS;+4;07NUMBER ONE;14TWO;15HREE",
    "14FOUR;15IVE;14SIX;15EVEN;14EIGHT;14NINE;14TEN;15WENTY;15HIRTY;14FORTY;15IFTY;14SIXTY",
    "15EVENTY;14EIGHTY;14NINETY;14ONE HUNDRED;18THOUSAND;07DIGIT ZERO;13ONE;13TWO;14HREE",
    "13FOUR;14IVE;13SIX;14EVEN;13EIGHT;13NINE;07SIGN OLD TAMIL VIRAMA",
    "07LETTER OLD TAMIL SHORT E;30O;07VOWEL SIGN OLD TAMIL SHORT E;34O;07LETTER OLD TAMIL LLA",
    "+9;07NUMBER JOINER;00KAITHI SIGN CANDRABINDU;12ANUSVARA;12VISARGA;07LETTER A;15A;14I;15I",
    "14U;15U;14E;14AI;14O;14AU;14KA;15HA;14GA;15HA;14NGA;14CA;15HA;14JA;15HA;14NYA;14TTA;16HA",
    "14DDA;16DHA;16HA;14RHA;14NNA;14TA;15HA;14DA;15HA;14NA;14PA;15HA;14BA;15HA;14MA;14YA;14RA",
    "14LA;14VA;14SHA;15SA;15A;14HA;07VOWEL SIGN AA;18I;19I;18U;19U;18E;18AI;18O;18AU",
    "07SIGN VIRAMA;12NUKTA;07ABBREVIATION SIGN;07ENUMERATION SIGN;07NUMBER SIGN",
    "07SECTION MARK;07DOUBLE SECTION MARK;08ANDA;08OUBLE DANDA;07VOWEL SIGN VOCALIC R;+A",
    "07NUMBER SIGN ABOVE;+2;00SORA SOMPENG LETTER SAH;20TAH;20BAH;20CAH;20DAH;20GAH;20MAH",
    "20NGAH;20LAH;20NAH;20VAH;20PAH;20YAH;20RAH;20HAH;20KAH;20JAH;20NYAH;20AH;20EEH;20IH;20UH",
    "20OH;20EH;20MAE;+7;13DIGIT ZERO;19ONE;19TWO;20HREE;19FOUR;20IVE;19SIX;20EVEN;19EIGHT",
    "19NINE;+6;00CHAKMA SIGN CANDRABINDU;12ANUSVARA;12VISARGA;07LETTER AA;14I;14U;14E;14KAA",
    "15HAA;14GAA;15HAA;14NGAA;14CAA;15HAA;14JAA;15HAA;14NYAA;14TTAA;16HAA;14DDAA;16HAA;14NNAA",
    "14TAA;15HAA;14DAA;15HAA;14NAA;14PAA;15HAA;14BAA;15HAA;14MAA;14YYAA;15AA;14RAA;14LAA",
    "14WAA;14SAA;14HAA;07VOWEL SIGN A;18I;19I;18U;19U;18E;18AI;18O;18AU;18OI;07O MARK",
    "07AU MARK;07VIRAMA;07MAAYYAA;+1;07DIGIT ZERO;13ONE;13TWO;14HREE;13FOUR;14IVE;13SIX",
    "14EVEN;13EIGHT;13NINE;07SECTION MARK;07DANDA;08OUBLE DANDA;07QUESTION MARK;07LETTER LHAA",
    "07VOWEL SIGN AA;18EI;07LETTER VAA;+8;00MAHAJANI LETTER A;16I;16U;16E;16O;16KA;17HA;16GA",
    "17HA;16CA;17HA;16JA;17HA;16NYA;16TTA;18HA;16DDA;18HA;16NNA;16TA;17HA;16DA;17HA;16NA;16PA",
    "17HA;16BA;17HA;16MA;16RA;16LA;16VA;16SA;16HA;16RRA;09SIGN NUKTA;09ABBREVIATION SIGN",
    "09SECTION MARK;09LIGATURE SHRI;+9;00SHARADA SIGN CANDRABINDU;13ANUSVARA;13VISARGA",
    "08LETTER A;16A;15I;16I;15U;16U;15VOCALIC R;24R;23L;24L;15E;15AI;15O;15AU;15KA;16HA;15GA",
    "16HA;15NGA;15CA;16HA;15JA;16HA;15NYA;15TTA;17HA;15DDA;17HA;15NNA;15TA;16HA;15DA;16HA",
    "15NA;15PA;16HA;15BA;16HA;15MA;15YA;15RA;15LA;16LA;15VA;15SHA;16SA;16A;15HA",
    "08VOWEL SIGN AA;19I;20I;19U;20U;19VOCALIC R;28R;27L;28L;19E;19AI;19O;19AU;08SIGN VIRAMA",
    "13AVAGRAHA;13JIHVAMULIYA;13UPADHMANIYA;08OM;08DANDA;09OUBLE DANDA;08ABBREVIATION SIGN",
    "08SEPARATOR;09ANDHI MARK;09IGN NUKTA;08VOWEL MODIFIER MARK;08EXTRA SHORT VOWEL MARK",
    "08SUTRA MARK;08VOWEL SIGN PRISHTHAMATRA E;08SIGN INVERTED CANDRABINDU;08DIGIT ZERO;14ONE",
    "14TWO;15HREE;14FOUR;15IVE;14SIX;15EVEN;14EIGHT;14NINE;08EKAM;08SIGN SIDDHAM;08HEADSTROKE",
    "08CONTINUATION SIGN;08SECTION MARK-1;212;+1;01INHALA ARCHAIC DIGIT ONE;22TWO;23HREE",
    "22FOUR;23IVE;22SIX;23EVEN;22EIGHT;22NINE;16NUMBER TEN;24WENTY;24HIRTY;23FORTY;24IFTY",
    "23SIXTY;24EVENTY;23EIGHTY;23NINETY;23ONE HUNDRED;27THOUSAND;+B;00KHOJKI LETTER A;15A;14I",
    "14U;14E;14AI;14O;14AU;14KA;15HA;14GA;15GA;15HA;14NGA;14CA;15HA;14JA;15JA;+1;14NYA;14TTA",
    "16HA;14DDA;16HA;14NNA;14TA;15HA;14DA;15DDA;15HA;14NA;14PA;15HA;14BA;15BA;15HA;14MA;14YA",
    "14RA;14LA;14VA;14SA;14HA;14LLA;07VOWEL SIGN AA;18I;19I;18U;18E;18AI;18O;18AU",
    "07SIGN ANUSVARA;12VIRAMA;12NUKTA;12SHADDA;07DANDA;08OUBLE DANDA;07WORD SEPARATOR",
    "07SECTION MARK;07DOUBLE SECTION MARK;07ABBREVIATION SIGN;07SIGN SUKUN;+41",
    "00MULTANI LETTER A;15I;15U;15E;15KA;16HA;15GA;+1;16HA;+1;15CA;16HA;15JA;16JA;+1;15NYA",
    "15TTA;17HA;15DDA;17DA;17HA;15NNA;15TA;16HA;15DA;16HA;15NA;15PA;16HA;15BA;+1;16HA;15MA",
    "15YA;15RA;15LA;15VA;15SA;15HA;15RRA;16HA;08SECTION MARK;+6;00KHUDAWADI LETTER A;18A;17I",
    "18I;17U;18U;17E;17AI;17O;17AU;17KA;18HA;17GA;18GA;18HA;17NGA;17CA;18HA;17JA;18JA;18HA",
    "17NYA;17TTA;19HA;17DDA;19DA;17RRA;17DDHA;17NNA;17TA;18HA;17DA;18HA;17NA;17PA;18HA;17BA",
    "18BA;18HA;17MA;17YA;17RA;17LA;17VA;17SHA;18A;17HA;10SIGN ANUSVARA;10VOWEL SIGN AA;21I",
    "22I;21U;22U;21E;21AI;21O;21AU;10SIGN NUKTA;15VIRAMA;+5;10DIGIT ZERO;16ONE;16TWO;17HREE",
    "16FOUR;17IVE;16SIX;17EVEN;16EIGHT;16NINE;+6;00GRANTHA SIGN COMBINING ANUSVARA ABOVE",
    "14ANDRABINDU;13ANUSVARA;13VISARGA;+1;08LETTER A;16A;15I;16I;15U;16U;15VOCALIC R;23L;+2",
    "15EE;15AI;+2;15OO;15AU;15KA;16HA;15GA;16HA;15NGA;15CA;16HA;15JA;16HA;15NYA;15TTA;17HA",
    "15DDA;17HA;15NNA;15TA;16HA;15DA;16HA;15NA;+1;15PA;16HA;15BA;16HA;15MA;15YA;15RA;+1;15LA",
    "16LA;+1;15VA;15SHA;16SA;16A;15HA;+1;00COMBINING BINDU BELOW;00GRANTHA SIGN NUKTA",
    "13AVAGRAHA;08VOWEL SIGN AA;19I;20I;19U;20U;19VOCALIC R;28R;+2;19EE;19AI;+2;19OO;19AU",
    "08SIGN VIRAMA;+2;08OM;+6;08AU LENGTH MARK;+5;08SIGN PLUTA;08LETTER VEDIC ANUSVARA",
    "21DOUBLE ANUSVARA;16OCALIC RR;23LL;08VOWEL SIGN VOCALIC L;28L;+2",
    "00COMBINING GRANTHA DIGIT ZERO;24ONE;24TWO;25HREE;24FOUR;25IVE;24SIX;+3;18LETTER A;25KA",
    "25NA;25VI;25PA;+8B;00NEWA LETTER A;13A;12I;13I;12U;13U;12VOCALIC R;21R;20L;21L;12E;12AI",
    "12O;12AU;12KA;13HA;12GA;13HA;12NGA;14HA;12CA;13HA;12JA;13HA;12NYA;14HA;12TTA;14HA;12DDA",
    "14HA;12NNA;12TA;13HA;12DA;13HA;12NA;13HA;12PA;13HA;12BA;13HA;12MA;13HA;12YA;12RA;13HA",
    "12LA;13HA;12WA;12SHA;13SA;13A;12HA;05VOWEL SIGN AA;16I;17I;16U;17U;16VOCALIC R;25R;24L",
    "25L;16E;16AI;16O;16AU;05SIGN VIRAMA;10CANDRABINDU;10ANUSVARA;10VISARGA;10NUKTA",
    "10AVAGRAHA;10FINAL ANUSVARA;05OM;05SIDDHI;05DANDA;06OUBLE DANDA;05COMMA;05GAP FILLER",
    "05ABBREVIATION SIGN;05DIGIT ZERO;11ONE;11TWO;12HREE;11FOUR;12IVE;11SIX;12EVEN;11EIGHT",
    "11NINE;06OUBLE COMMA;05PLACEHOLDER MARK;+1;05INSERTION SIGN;05SANDHI MARK",
    "05LETTER VEDIC ANUSVARA;05SIGN JIHVAMULIYA;10UPADHMANIYA;+1E;00TIRHUTA ANJI;08LETTER A",
    "16A;15I;16I;15U;16U;15VOCALIC R;24R;23L;24L;15E;15AI;15O;15AU;15KA;16HA;15GA;16HA;15NGA",
    "15CA;16HA;15JA;16HA;15NYA;15TTA;17HA;15DDA;17HA;15NNA;15TA;16HA;15DA;16HA;15NA;15PA;16HA",
    "15BA;16HA;15MA;15YA;15RA;15LA;15VA;15SHA;16SA;16A;15HA;08VOWEL SIGN AA;19I;20I;19U;20U",
    "19VOCALIC R;28R;27L;28L;19E;19SHORT E;19AI;19O;19SHORT O;19AU;08SIGN CANDRABINDU",
    "13ANUSVARA;13VISARGA;15RAMA;13NUKTA;13AVAGRAHA;08GVANG;08ABBREVIATION SIGN;08OM;+8",
    "08DIGIT ZERO;14ONE;14TWO;15HREE;14FOUR;15IVE;14SIX;15EVEN;14EIGHT;14NINE;+A6",
    "00SIDDHAM LETTER A;16A;15I;16I;15U;16U;15VOCALIC R;24R;23L;24L;15E;15AI;15O;15AU;15KA",
    "16HA;15GA;16HA;15NGA;15CA;16HA;15JA;16HA;15NYA;15TTA;17HA;15DDA;17HA;15NNA;15TA;16HA",
    "15DA;16HA;15NA;15PA;16HA;15BA;16HA;15MA;15YA;15RA;15LA;15VA;15SHA;16SA;16A;15HA",
    "08VOWEL SIGN AA;19I;20I;19U;20U;19VOCALIC R;28R;+2;19E;19AI;19O;19AU;08SIGN CANDRABINDU",
    "13ANUSVARA;13VISARGA;15RAMA;13NUKTA;13SIDDHAM;08DANDA;09OUBLE DANDA;08SEPARATOR DOT",
    "18BAR;08REPETITION MARK-1;242;243;08END OF TEXT MARK",
    "08SECTION MARK WITH TRIDENT AND U-SHAPED ORNAMENTS;38DOTTED CRESCENTS",
    "26RAYS AND DOTTED CRESCENTS;42DOUBLE CRESCENTS;42TRIPLE CRESCENTS;21DOUBLE RING",
    "32 WITH RAYS;21WITH DOUBLE CRESCENTS;26TRIPLE CRESCENTS;26QUADRUPLE CRESCENTS",
    "26SEPTUPLE CRESCENTS;26CIRCLES AND RAYS;38TWO ENCLOSURES;38FOUR ENCLOSURES",
    "08LETTER THREE-CIRCLE ALTERNATE I;16WO-CIRCLE ALTERNATE I;37I;15ALTERNATE U",
    "08VOWEL SIGN ALTERNATE U;30U;+22;00MODI LETTER A;13A;12I;13I;12U;13U;12VOCALIC R;21R;20L",
    "21L;12E;12AI;12O;12AU;12KA;13HA;12GA;13HA;12NGA;12CA;13HA;12JA;13HA;12NYA;12TTA;14HA",
    "12DDA;14HA;12NNA;12TA;13HA;12DA;13HA;12NA;12PA;13HA;12BA;13HA;12MA;12YA;12RA;12LA;12VA",
    "12SHA;13SA;13A;12HA;12LLA;05VOWEL SIGN AA;16I;17I;16U;17U;16VOCALIC R;25R;24L;25L;16E",
    "16AI;16O;16AU;05SIGN ANUSVARA;10VISARGA;12RAMA;10ARDHACANDRA;05DANDA;06OUBLE DANDA",
    "05ABBREVIATION SIGN;05SIGN HUVA;+B;05DIGIT ZERO;11ONE;11TWO;12HREE;11FOUR;12IVE;11SIX",
    "12EVEN;11EIGHT;11NINE;+6;02NGOLIAN BIRGA WITH ORNAMENT;10ROTATED BIRGA",
    "10DOUBLE BIRGA WITH ORNAMENT;10TRIPLE BIRGA WITH ORNAMENT;10BIRGA WITH DOUBLE ORNAMENT",
    "10ROTATED BIRGA WITH ORNAMENT;29DOUBLE ORNAMENT;10INVERTED BIRGA;24 WITH DOUBLE ORNAMENT",
    "10SWIRL BIRGA;21 WITH ORNAMENT;27DOUBLE ORNAMENT",
    "10TURNED SWIRL BIRGA WITH DOUBLE ORNAMENT;+13;00TAKRI LETTER A;14A;13I;14I;13U;14U;13E",
    "13AI;13O;13AU;13KA;14HA;13GA;14HA;13NGA;13CA;14HA;13JA;14HA;13NYA;13TTA;15HA;13DDA;15HA",
    "13NNA;13TA;14HA;13DA;14HA;13NA;13PA;14HA;13BA;14HA;13MA;13YA;13RA;13LA;13VA;13SHA;14A",
    "13HA;13RRA;06SIGN ANUSVARA;11VISARGA;06VOWEL SIGN AA;17I;18I;17U;18U;17E;17AI;17O;17AU",
    "06SIGN VIRAMA;11NUKTA;06LETTER ARCHAIC KHA;06ABBREVIATION SIGN;+6;06DIGIT ZERO;12ONE",
    "12TWO;13HREE;12FOUR;13IVE;12SIX;13EVEN;12EIGHT;12NINE;+36;00AHOM LETTER KA;13HA;12NGA",
    "13A;12TA;12ALTERNATE TA;12PA;13HA;12BA;12MA;12JA;12CHA;12THA;12RA;12LA;12SA;12NYA;12HA",
    "12A;12DA;13HA;12GA;12ALTERNATE GA;12GHA;12BHA;12JHA;12ALTERNATE BA;+2",
    "05CONSONANT SIGN MEDIAL LA;27RA;27LIGATING RA;05VOWEL SIGN A;17A;16I;17I;16U;17U;16E",
    "16AW;16O;16AI;17M;05SIGN KILLER;+4;05DIGIT ZERO;11ONE;11TWO;12HREE;11FOUR;12IVE;11SIX",
    "12EVEN;11EIGHT;11NINE;05NUMBER TEN;13WENTY;05SIGN SMALL SECTION;11ECTION;10RULAI",
    "06YMBOL VI;05LETTER CA;12TTA;14HA;12DDA;14HA;12NNA;12LLA;+B9;00DOGRA LETTER A;14A;13I",
    "14I;13U;14U;13E;13AI;13O;13AU;13KA;14HA;13GA;14HA;13NGA;13CA;14HA;13JA;14HA;13NYA;13TTA",
    "15HA;13DDA;15HA;13NNA;13TA;14HA;13DA;14HA;13NA;13PA;14HA;13BA;14HA;13MA;13YA;13RA;13LA",
    "13VA;13SHA;14SA;14A;13HA;13RRA;06VOWEL SIGN AA;17I;18I;17U;18U;17VOCALIC R;26R;17E;17AI",
    "17O;17AU;06SIGN ANUSVARA;11VISARGA;13RAMA;11NUKTA;06ABBREVIATION SIGN;+64",
    "00WARANG CITI CAPITAL LETTER NGAA;27A;27WI;27YU;28A;28O;27II;27UU;27E;27O;27ANG;27GA",
    "27KO;27ENY;27YUJ;27UC;27ENN;27ODD;27TTE;27NUNG;27DA;27AT;28M;27BU;27PU;27HIYO;28OLO;29RR",
    "28AR;27SSUU;28II;27VIYO;12SMALL LETTER NGAA;25A;25WI;25YU;26A;26O;25II;25UU;25E;25O",
    "25ANG;25GA;25KO;25ENY;25YUJ;25UC;25ENN;25ODD;25TTE;25NUNG;25DA;25AT;26M;25BU;25PU;25HIYO",
    "26OLO;27RR;26AR;25SSUU;26II;25VIYO;12DIGIT ZERO;18ONE;18TWO;19HREE;18FOUR;19IVE;18SIX",
    "19EVEN;18EIGHT;18NINE;12NUMBER TEN;20WENTY;20HIRTY;19FORTY;20IFTY;19SIXTY;20EVENTY",
    "19EIGHTY;19NINETY;+C;12OM;00DIVES AKURU LETTER A;20A;19I;20I;19U;20U;19E;+2;19O;+2;19KA",
    "20HA;19GA;20HA;19NGA;19CA;20HA;19JA;+1;19NYA;19TTA;+1;19DDA;21HA;19NNA;19TA;20HA;19DA",
    "20HA;19NA;19PA;20HA;19BA;20HA;19MA;19YA;20YA;19RA;19LA;19VA;19SHA;20SA;20A;19HA;19LLA",
    "19ZA;12VOWEL SIGN AA;23I;24I;23U;24U;23E;+1;23AI;23O;+2;12SIGN ANUSVARA;17CANDRABINDU",
    "17HALANTA;12VIRAMA;12PREFIXED NASAL SIGN;12MEDIAL YA;12INITIAL RA;12MEDIAL RA",
    "12SIGN NUKTA;12DOUBLE DANDA;12GAP FILLER;12END OF TEXT MARK;+9;12DIGIT ZERO;18ONE;18TWO",
    "19HREE;18FOUR;19IVE;18SIX;19EVEN;18EIGHT;18NINE;+46;00NANDINAGARI LETTER A;20A;19I;20I",
    "19U;20U;19VOCALIC R;28R;+2;19E;19AI;19O;19AU;19KA;20HA;19GA;20HA;19NGA;19CA;20HA;19JA",
    "20HA;19NYA;19TTA;21HA;19DDA;21HA;19NNA;19TA;20HA;19DA;20HA;19NA;19PA;20HA;19BA;20HA;19MA",
    "19YA;19RA;19LA;19VA;19SHA;20SA;20A;19HA;19LLA;19RRA;12VOWEL SIGN AA;23I;24I;23U;24U",
    "23VOCALIC R;32R;+2;23E;23AI;23O;23AU;12SIGN ANUSVARA;17VISARGA;19RAMA;17AVAGRAHA",
    "17SIDDHAM;12HEADSTROKE;12VOWEL SIGN PRISHTHAMATRA E;+1B;00ZANABAZAR SQUARE LETTER A",
    "17VOWEL SIGN I;28UE;29;28E;28OE;29;28AI;29U;28REVERSED I;23LENGTH MARK;17LETTER KA;25HA",
    "24GA;25HA;24NGA;24CA;25HA;24JA;24NYA;24TTA;26HA;24DDA;26HA;24NNA;24TA;25HA;24DA;25HA",
    "24NA;24PA;25HA;24BA;25HA;24MA;24TSA;26HA;24DZA;26HA;24ZHA;25A;24-A;24YA;24RA;24LA;24VA",
    "24SHA;25SA;25A;24HA;24KSSA;17FINAL CONSONANT MARK;17SIGN VIRAMA;22CANDRABINDU",
    "33 WITH ORNAMENT;28 WITH ORNAMENT;22ANUSVARA;22VISARGA;17CLUSTER-INITIAL LETTER RA",
    "25FINAL LETTER YA;38RA;38LA;38VA;17INITIAL HEAD MARK;17CLOSING HEAD MARK;17MARK TSHEG",
    "22SHAD;22DOUBLE SHAD;22LONG TSHEG;17INITIAL DOUBLE-LINED HEAD MARK",
    "17CLOSING DOUBLE-LINED HEAD MARK;17SUBJOINER;+8;00SOYOMBO LETTER A;08VOWEL SIGN I;19UE",
    "20;19E;19O;20E;19AI;20U;19VOCALIC R;27L;14LENGTH MARK;08LETTER KA;16HA;15GA;16HA;15NGA",
    "15CA;16HA;15JA;16HA;15NYA;15TTA;17HA;15DDA;17HA;15NNA;15TA;16HA;15DA;16HA;15NA;15PA;16HA",
    "15BA;16HA;15MA;15TSA;17HA;15DZA;15ZHA;16A;15-A;15YA;15RA;15LA;15VA;15SHA;16SA;16A;15HA",
    "15KSSA;08SIGN JIHVAMULIYA;13UPADHMANIYA;08CLUSTER-INITIAL LETTER RA;31LA;31SHA;32A",
    "08FINAL CONSONANT SIGN G;29K;29NG;29D;29N;29B;29M;29R;29L;29SH;30;29-A;08SIGN ANUSVARA",
    "13VISARGA;08GEMINATION MARK;08SUBJOINER;08MARK TSHEG;13SHAD;13DOUBLE SHAD;13PLUTA",
    "08HEAD MARK WITH MOON AND SUN AND TRIPLE FLAME;40FLAME;35;08TERMINAL MARK-1;222;+D",
    "00CANADIAN SYLLABICS NATTILIK HI;30I;29O;30O;29A;30A;28SHRI;32I;31O;32O;31A;32A;19SPE",
    "21I;21O;21A;00PAU CIN HAU LETTER PA;19KA;19LA;19MA;19DA;19ZA;19VA;19NGA;19HA;19GA;19KHA",
    "19SA;19BA;19CA;19TA;20HA;19NA;19PHA;19RA;19FA;19CHA;19A;19E;19I;19O;19U;20A;19IA",
    "19FINAL P;25K;25T;25M;25N;25L;25W;25NG;25Y;12RISING TONE LONG;23;12SANDHI GLOTTAL STOP",
    "12RISING TONE LONG FINAL;24FINAL;12SANDHI GLOTTAL STOP FINAL;19TONE LONG;23",
    "23 LONG FINAL;24FINAL;12MID-LEVEL TONE;12GLOTTAL STOP VARIANT",
    "12MID-LEVEL TONE LONG FINAL;27FINAL;12LOW-FALLING TONE LONG;28;12GLOTTAL STOP",
    "12LOW-FALLING TONE LONG FINAL;29FINAL;12GLOTTAL STOP FINAL;+107;00BHAIKSUKI LETTER A;18A",
    "17I;18I;17U;18U;17VOCALIC R;26R;25L;+1;17E;17AI;17O;17AU;17KA;18HA;17GA;18HA;17NGA;17CA",
    "18HA;17JA;18HA;17NYA;17TTA;19HA;17DDA;19HA;17NNA;17TA;18HA;17DA;18HA;17NA;17PA;18HA;17BA",
    "18HA;17MA;17YA;17RA;17LA;17VA;17SHA;18SA;18A;17HA;10VOWEL SIGN AA;21I;22I;21U;22U",
    "21VOCALIC R;30R;29L;+1;21E;21AI;21O;21AU;10SIGN CANDRABINDU;15ANUSVARA;15VISARGA;17RAMA",
    "15AVAGRAHA;10DANDA;11OUBLE DANDA;10WORD SEPARATOR;10GAP FILLER-1;212;+A;10DIGIT ZERO",
    "16ONE;16TWO;17HREE;16FOUR;17IVE;16SIX;17EVEN;16EIGHT;16NINE;10NUMBER ONE;17TWO;18HREE",
    "17FOUR;18IVE;17SIX;18EVEN;17EIGHT;17NINE;17TEN;18WENTY;18HIRTY;17FORTY;18IFTY;17SIXTY",
    "18EVENTY;17EIGHTY;17NINETY;10HUNDREDS UNIT MARK;+3;00MARCHEN HEAD MARK;08MARK SHAD",
    "08LETTER KA;16HA;15GA;15NGA;15CA;16HA;15JA;15NYA;15TA;16HA;15DA;15NA;15PA;16HA;15BA;15MA",
    "15TSA;17HA;15DZA;15WA;15ZHA;16A;15-A;15YA;15RA;15LA;15SHA;16A;15HA;15A;+2",
    "08SUBJOINED LETTER KA;26HA;25GA;25NGA;25CA;26HA;25JA;25NYA;25TA;26HA;25DA;25NA;25PA;26HA",
    "25BA;25MA;25TSA;27HA;25DZA;25WA;25ZHA;26A;+1;25YA;25RA;25LA;25SHA;26A;25HA;25A",
    "08VOWEL SIGN AA;19I;19U;19E;19O;08SIGN ANUSVARA;13CANDRABINDU;+49;02SARAM GONDI LETTER A",
    "22A;21I;22I;21U;22U;21E;+1;21AI;21O;+1;21AU;21KA;22HA;21GA;22HA;21NGA;21CA;22HA;21JA",
    "22HA;21NYA;21TTA;23HA;21DDA;23HA;21NNA;21TA;22HA;21DA;22HA;21NA;21PA;22HA;21BA;22HA;21MA",
    "21YA;21RA;21LA;21VA;21SHA;22SA;22A;21HA;21LLA;21KSSA;21JNYA;21TRA;14VOWEL SIGN AA;25I",
    "26I;25U;26U;25VOCALIC R;+3;25E;+1;25AI;25O;+1;25AU;14SIGN ANUSVARA;19VISARGA;19NUKTA",
    "19CANDRA;19HALANTA;14VIRAMA;14REPHA;15A-KARA;+8;14DIGIT ZERO;20ONE;20TWO;21HREE;20FOUR",
    "21IVE;20SIX;21EVEN;20EIGHT;20NINE;+6;00GUNJALA GONDI LETTER A;22A;21I;22I;21U;22U;+1",
    "21EE;21AI;+1;21OO;21AU;21YA;21VA;21BA;22HA;21MA;21KA;22HA;21TA;22HA;21LA;21GA;22HA;21DA",
    "22HA;21NA;21CA;22HA;21TTA;23HA;21LLA;21JA;22HA;21DDA;23HA;21NGA;21PA;22HA;21HA;21RA;21SA",
    "14VOWEL SIGN AA;25I;26I;25U;26U;+1;25EE;25AI;+1;25OO;25AU;14SIGN ANUSVARA;19VISARGA",
    "14VIRAMA;14OM;+7;14DIGIT ZERO;20ONE;20TWO;21HREE;20FOUR;21IVE;20SIX;21EVEN;20EIGHT",
    "20NINE;+136;00MAKASAR LETTER KA;15GA;15NGA;15PA;15BA;15MA;15TA;15DA;15NA;15CA;15JA;15NYA",
    "15YA;15RA;15LA;15VA;15SA;15A;08ANGKA;08VOWEL SIGN I;19U;19E;19O;08PASSIMBANG",
    "08END OF SECTION;+B7;00LISU LETTER YHA;+F",
    "00TAMIL FRACTION ONE THREE-HUNDRED-AND-TWENTIETH;19ONE-HUNDRED-AND-SIXTIETH;19EIGHTIETH",
    "19SIXTY-FOURTH;19FORTIETH;19THIRTY-SECOND;15THREE EIGHTIETHS;21SIXTY-FOURTHS",
    "15ONE TWENTIETH;19SIXTEENTH-1;292;19TENTH;19EIGHTH;15THREE TWENTIETHS;21SIXTEENTHS",
    "15ONE FIFTH;19QUARTER;19HALF-1;242;15THREE QUARTERS;15DOWNSCALING FACTOR KIIZH",
    "06SIGN NEL;11CEVITU;11AAZHAAKKU;11UZHAKKU;11MUUVUZHAKKU;11KURUNI;11PATHAKKU;11MUKKURUNI",
    "11KAACU;11PANAM;12ON;11VARAAKAN;11PAARAM;11KUZHI;11VELI;06WET CULTIVATION SIGN",
    "06DRY CULTIVATION SIGN;06LAND SIGN;06SALT PAN SIGN;06TRADITIONAL CREDIT SIGN",
    "18NUMBER SIGN;06CURRENT SIGN;06AND ODD SIGN;06SPENT SIGN;06TOTAL SIGN",
    "06IN POSSESSION SIGN;06STARTING FROM SIGN;07IGN MUTHALIYA;11VAKAIYARAA;+D",
    "06PUNCTUATION END OF TEXT"
  ]

end ApiDoc.Text.CharacterName
