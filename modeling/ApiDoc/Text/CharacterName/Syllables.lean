import ApiDoc.Text.CharacterName.Coded

/-!
# Names of characters: Syllables

The names of the parts of Hangul, Ethiopic, Cherokee and other scripts, and further letters.
-/

namespace ApiDoc.Text.CharacterName

/-- The names of the characters from `1100` to `1fff`. -/
def syllables : Coded where
  first := 0x1100
  lines := [
    "00HANGUL CHOSEONG KIYEOK;16SSANGKIYEOK;16NIEUN;16TIKEUT;16SSANGTIKEUT;16RIEUL;16MIEUM",
    "16PIEUP;16SSANGPIEUP;17IOS;17SANGSIOS;16IEUNG;16CIEUC;16SSANGCIEUC;16CHIEUCH;16KHIEUKH",
    "16THIEUTH;16PHIEUPH;16HIEUH;16NIEUN-KIYEOK;16SSANGNIEUN;16NIEUN-TIKEUT;22PIEUP",
    "16TIKEUT-KIYEOK;16RIEUL-NIEUN;16SSANGRIEUL;16RIEUL-HIEUH;16KAPYEOUNRIEUL;16MIEUM-PIEUP",
    "16KAPYEOUNMIEUM;16PIEUP-KIYEOK;22NIEUN;22TIKEUT;22SIOS;26-KIYEOK;27TIKEUT;27PIEUP",
    "23SANGSIOS;23IOS-CIEUC;22CIEUC;23HIEUCH;22THIEUTH;22PHIEUPH;16KAPYEOUNPIEUP;24SSANGPIEUP",
    "16SIOS-KIYEOK;21NIEUN;21TIKEUT;21RIEUL;21MIEUM;21PIEUP;26-KIYEOK;21SSANGSIOS;21IEUNG",
    "21CIEUC;22HIEUCH;21KHIEUKH;21THIEUTH;21PHIEUPH;21HIEUH;16CHITUEUMSIOS;25SANGSIOS",
    "17EONGCHIEUMSIOS;28SANGSIOS;16PANSIOS;16IEUNG-KIYEOK;22TIKEUT;22MIEUM;22PIEUP;22SIOS",
    "22PANSIOS;16SSANGIEUNG;16IEUNG-CIEUC;23HIEUCH;22THIEUTH;22PHIEUPH;16YESIEUNG",
    "16CIEUC-IEUNG;17HITUEUMCIEUC;24SSANGCIEUC;17EONGCHIEUMCIEUC;27SSANGCIEUC",
    "17HIEUCH-KHIEUKH;24HIEUH;19TUEUMCHIEUCH;17EONGCHIEUMCHIEUCH;16PHIEUPH-PIEUP",
    "16KAPYEOUNPHIEUPH;16SSANGHIEUH;16YEORINHIEUH;16KIYEOK-TIKEUT;16NIEUN-SIOS;22CIEUC",
    "22HIEUH;16TIKEUT-RIEUL;16FILLER;07JUNGSEONG FILLER;17A;18E;17YA;19E;17EO;18;17YEO;19;17O",
    "17WA;19E;17OE;17YO;17U;17WEO;19;18I;17YU;17EU;17YI;17I;17A-O;19U;17YA-O;20YO;17EO-O;20U",
    "20EU;17YEO-O;21U;17O-EO;20;19YE;19O;19U;17YO-YA;22E;21EO;20O;20I;17U-A;20E;19EO-EU;19YE",
    "19U;17YU-A;20EO;21;20YEO;22;20U;20I;17EU-U;20EU;17YI-U;17I-A;19YA;19O;19U;19EU;19ARAEA",
    "17ARAEA;22-EO;23U;23I;17SSANGARAEA;17A-EU;17YA-U;18EO-YA;17O-YA;21E;08ONGSEONG KIYEOK",
    "17SSANGKIYEOK;17KIYEOK-SIOS;17NIEUN;22-CIEUC;23HIEUH;17TIKEUT;17RIEUL;22-KIYEOK;23MIEUM",
    "23PIEUP;23SIOS;23THIEUTH;23PHIEUPH;23HIEUH;17MIEUM;17PIEUP;22-SIOS;17SIOS;18SANGSIOS",
    "17IEUNG;17CIEUC;18HIEUCH;17KHIEUKH;17THIEUTH;17PHIEUPH;17HIEUH;17KIYEOK-RIEUL",
    "24SIOS-KIYEOK;17NIEUN-KIYEOK;23TIKEUT;23SIOS;23PANSIOS;23THIEUTH;17TIKEUT-KIYEOK;24RIEUL",
    "17RIEUL-KIYEOK-SIOS;23NIEUN;23TIKEUT;29-HIEUH;17SSANGRIEUL;17RIEUL-MIEUM-KIYEOK;29SIOS",
    "23PIEUP-SIOS;29HIEUH;23KAPYEOUNPIEUP;23SSANGSIOS;23PANSIOS;23KHIEUKH;23YEORINHIEUH",
    "17MIEUM-KIYEOK;23RIEUL;23PIEUP;23SIOS;24SANGSIOS;23PANSIOS;23CHIEUCH;23HIEUH",
    "17KAPYEOUNMIEUM;17PIEUP-RIEUL;23PHIEUPH;23HIEUH;17KAPYEOUNPIEUP;17SIOS-KIYEOK;22TIKEUT",
    "22RIEUL;22PIEUP;17PANSIOS;17IEUNG-KIYEOK;23SSANGKIYEOK;17SSANGIEUNG;17IEUNG-KHIEUKH",
    "17YESIEUNG;25-SIOS;26PANSIOS;17PHIEUPH-PIEUP;17KAPYEOUNPHIEUPH;17HIEUH-NIEUN;23RIEUL",
    "23MIEUM;23PIEUP;17YEORINHIEUH;17KIYEOK-NIEUN;24PIEUP;24CHIEUCH;24KHIEUKH;24HIEUH",
    "17SSANGNIEUN;00ETHIOPIC SYLLABLE HA;19U;19I;19AA;19EE;20;19O;20A;18LA;19U;19I;19AA;19EE",
    "20;19O;19WA;18HHA;20U;20I;20AA;20EE;21;20O;20WA;18MA;19U;19I;19AA;19EE;20;19O;19WA;18SZA",
    "20U;20I;20AA;20EE;21;20O;20WA;18RA;19U;19I;19AA;19EE;20;19O;19WA;18SA;19U;19I;19AA;19EE",
    "20;19O;19WA;19HA;20U;20I;20AA;20EE;21;20O;20WA;18QA;19U;19I;19AA;19EE;20;19O;20A;19WA;+1",
    "20I;20AA;20EE;21;+2;19HA;20U;20I;20AA;20EE;21;20O;+1;20WA;+1;21I;21AA;21EE;22;+2;18BA",
    "19U;19I;19AA;19EE;20;19O;19WA;18VA;19U;19I;19AA;19EE;20;19O;19WA;18TA;19U;19I;19AA;19EE",
    "20;19O;19WA;18CA;19U;19I;19AA;19EE;20;19O;19WA;18XA;19U;19I;19AA;19EE;20;19O;20A;19WA;+1",
    "20I;20AA;20EE;21;+2;18NA;19U;19I;19AA;19EE;20;19O;19WA;19YA;20U;20I;20AA;20EE;21;20O",
    "20WA;18GLOTTAL A;26U;26I;26AA;26EE;27;26O;26WA;18KA;19U;19I;19AA;19EE;20;19O;20A;19WA;+1",
    "20I;20AA;20EE;21;+2;19XA;20U;20I;20AA;20EE;21;20O;+1;20WA;+1;21I;21AA;21EE;22;+2;18WA",
    "19U;19I;19AA;19EE;20;19O;20A;18PHARYNGEAL A;29U;29I;29AA;29EE;30;29O;+1;18ZA;19U;19I",
    "19AA;19EE;20;19O;19WA;19HA;20U;20I;20AA;20EE;21;20O;20WA;18YA;19U;19I;19AA;19EE;20;19O",
    "20A;18DA;19U;19I;19AA;19EE;20;19O;19WA;19DA;20U;20I;20AA;20EE;21;20O;20WA;18JA;19U;19I",
    "19AA;19EE;20;19O;19WA;18GA;19U;19I;19AA;19EE;20;19O;20A;19WA;+1;20I;20AA;20EE;21;+2;19GA",
    "20U;20I;20AA;20EE;21;20O;20WAA;18THA;20U;20I;20AA;20EE;21;20O;20WA;18CHA;20U;20I;20AA",
    "20EE;21;20O;20WA;18PHA;20U;20I;20AA;20EE;21;20O;20WA;18TSA;20U;20I;20AA;20EE;21;20O;20WA",
    "19ZA;20U;20I;20AA;20EE;21;20O;21A;18FA;19U;19I;19AA;19EE;20;19O;19WA;18PA;19U;19I;19AA",
    "19EE;20;19O;19WA;18RYA;18MYA;18FYA;+2;09COMBINING GEMINATION AND VOWEL LENGTH MARK",
    "19VOWEL LENGTH MARK;19GEMINATION MARK;09SECTION MARK;09WORDSPACE;09FULL STOP;09COMMA",
    "09SEMICOLON;09COLON;09PREFACE COLON;09QUESTION MARK;09PARAGRAPH SEPARATOR;09DIGIT ONE",
    "15TWO;16HREE;15FOUR;16IVE;15SIX;16EVEN;15EIGHT;15NINE;09NUMBER TEN;17WENTY;17HIRTY",
    "16FORTY;17IFTY;16SIXTY;17EVENTY;16EIGHTY;16NINETY;16HUNDRED;16TEN THOUSAND;+3",
    "09SYLLABLE SEBATBEIT MWA;18MWI;20EE;21;18SEBATBEIT BWA;18BWI;20EE;21;18SEBATBEIT FWA",
    "18FWI;20EE;21;18SEBATBEIT PWA;18PWI;20EE;21;09TONAL MARK YIZET;20DERET;20RIKRIK",
    "20SHORT RIKRIK;20DIFAT;20KENAT;20CHIRET;20HIDET;20DERET-HIDET;20KURT;+6",
    "00CHEROKEE LETTER A;16E;16I;16O;16U;16V;16GA;16KA;16GE;17I;17O;17U;17V;16HA;17E;17I;17O",
    "17U;17V;16LA;17E;17I;17O;17U;17V;16MA;17E;17I;17O;17U;16NA;16HNA;16NAH;17E;17I;17O;17U",
    "17V;16QUA;18E;18I;18O;18U;18V;16SA;17;17E;17I;17O;17U;17V;16DA;16TA;16DE;16TE;16DI;16TI",
    "16DO;17U;17V;17LA;16TLA;18E;18I;18O;18U;18V;17SA;18E;18I;18O;18U;18V;16WA;17E;17I;17O",
    "17U;17V;16YA;17E;17I;17O;17U;17V;16MV;+2;09SMALL LETTER YE;23I;23O;23U;23V;22MV;+2",
    "01ANADIAN SYLLABICS HYPHEN;19E;19AAI;19I;20I;19O;20O;19Y-CREE OO;19CARRIER EE;27I;19A",
    "20A;19WE;21ST-CREE WE;20I;20EST-CREE WI;20II;20EST-CREE WII;20O;20EST-CREE WO;20OO",
    "20EST-CREE WOO;19NASKAPI WOO;19WA;20EST-CREE WA;20AA;20EST-CREE WAA;19NASKAPI WAA;19AI",
    "19Y-CREE W;19GLOTTAL STOP;19FINAL ACUTE;25GRAVE;25BOTTOM HALF RING;25TOP HALF RING",
    "25RIGHT HALF RING;27NG;25DOUBLE ACUTE;32SHORT VERTICAL STROKES;25MIDDLE DOT",
    "25SHORT HORIZONTAL STROKE;25PLUS;25DOWN TACK;19EN;19IN;19ON;19AN;19PE;20AAI;20I;21I;20O",
    "21O;19Y-CREE POO;19CARRIER HEE;28I;19PA;21A;20WE;19WEST-CREE PWE;19PWI;19WEST-CREE PWI",
    "19PWII;19WEST-CREE PWII;19PWO;19WEST-CREE PWO;19PWOO;19WEST-CREE PWOO;19PWA",
    "19WEST-CREE PWA;19PWAA;19WEST-CREE PWAA;19Y-CREE PWAA;19P;19WEST-CREE P;19CARRIER H;19TE",
    "20AAI;20I;21I;20O;21O;19Y-CREE TOO;19CARRIER DEE;28I;19TA;21A;20WE;19WEST-CREE TWE;19TWI",
    "19WEST-CREE TWI;19TWII;19WEST-CREE TWII;19TWO;19WEST-CREE TWO;19TWOO;19WEST-CREE TWOO",
    "19TWA;19WEST-CREE TWA;19TWAA;19WEST-CREE TWAA;19NASKAPI TWAA;19T;20TE;21I;21O;21A;19KE",
    "20AAI;20I;21I;20O;21O;19Y-CREE KOO;19KA;21A;20WE;19WEST-CREE KWE;19KWI;19WEST-CREE KWI",
    "19KWII;19WEST-CREE KWII;19KWO;19WEST-CREE KWO;19KWOO;19WEST-CREE KWOO;19KWA",
    "19WEST-CREE KWA;19KWAA;19WEST-CREE KWAA;19NASKAPI KWAA;19K;20W;19SOUTH-SLAVEY KEH;33IH",
    "33OH;33AH;19CE;20AAI;20I;21I;20O;21O;19Y-CREE COO;19CA;21A;20WE;19WEST-CREE CWE;19CWI",
    "19WEST-CREE CWI;19CWII;19WEST-CREE CWII;19CWO;19WEST-CREE CWO;19CWOO;19WEST-CREE CWOO",
    "19CWA;19WEST-CREE CWA;19CWAA;19WEST-CREE CWAA;19NASKAPI CWAA;19C;19SAYISI TH;19ME;20AAI",
    "20I;21I;20O;21O;19Y-CREE MOO;19MA;21A;20WE;19WEST-CREE MWE;19MWI;19WEST-CREE MWI;19MWII",
    "19WEST-CREE MWII;19MWO;19WEST-CREE MWO;19MWOO;19WEST-CREE MWOO;19MWA;19WEST-CREE MWA",
    "19MWAA;19WEST-CREE MWAA;19NASKAPI MWAA;19M;19WEST-CREE M;19MH;19ATHAPASCAN M;19SAYISI M",
    "19NE;20AAI;20I;21I;20O;21O;19Y-CREE NOO;19NA;21A;20WE;19WEST-CREE NWE;19NWA",
    "19WEST-CREE NWA;19NWAA;19WEST-CREE NWAA;19NASKAPI NWAA;20;19CARRIER NG;19NH;19LE;20AAI",
    "20I;21I;20O;21O;19Y-CREE LOO;19LA;21A;20WE;19WEST-CREE LWE;19LWI;19WEST-CREE LWI;19LWII",
    "19WEST-CREE LWII;19LWO;19WEST-CREE LWO;19LWOO;19WEST-CREE LWOO;19LWA;19WEST-CREE LWA",
    "19LWAA;19WEST-CREE LWAA;19L;19WEST-CREE L;19MEDIAL L;19SE;20AAI;20I;21I;20O;21O",
    "19Y-CREE SOO;19SA;21A;20WE;19WEST-CREE SWE;19SWI;19WEST-CREE SWI;19SWII;19WEST-CREE SWII",
    "19SWO;19WEST-CREE SWO;19SWOO;19WEST-CREE SWOO;19SWA;19WEST-CREE SWA;19SWAA",
    "19WEST-CREE SWAA;19NASKAPI SWAA;19S;19ATHAPASCAN S;19SW;19BLACKFOOT S;19MOOSE-CREE SK",
    "19NASKAPI SKW;28-W;28PWA;28TWA;28KWA;28CWA;19SHE;21I;22I;21O;22O;21A;22A;21WE",
    "19WEST-CREE SHWE;19SHWI;19WEST-CREE SHWI;19SHWII;19WEST-CREE SHWII;19SHWO",
    "19WEST-CREE SHWO;19SHWOO;19WEST-CREE SHWOO;19SHWA;19WEST-CREE SHWA;19SHWAA",
    "19WEST-CREE SHWAA;19SH;19YE;20AAI;20I;21I;20O;21O;20-CREE YOO;20A;21A;20WE",
    "19WEST-CREE YWE;19YWI;19WEST-CREE YWI;19YWII;19WEST-CREE YWII;19YWO;19WEST-CREE YWO",
    "19YWOO;19WEST-CREE YWOO;19YWA;19WEST-CREE YWA;19YWAA;19WEST-CREE YWAA;19NASKAPI YWAA;19Y",
    "19BIBLE-CREE Y;19WEST-CREE Y;19SAYISI YI;19RE;20-CREE RE;19WEST-CREE LE;19RAAI;20I;21I",
    "20O;21O;19WEST-CREE LO;19RA;21A;19WEST-CREE LA;19RWAA;19WEST-CREE RWAA;19R;19WEST-CREE R",
    "19MEDIAL R;19FE;20AAI;20I;21I;20O;21O;20A;21A;20WAA;19WEST-CREE FWAA;19F;19THE",
    "19N-CREE THE;19THI;19N-CREE THI;19THII;19N-CREE THII;19THO;22O;21A;22A;21WAA",
    "19WEST-CREE THWAA;19TH;20THE;22I;22O;22A;22;20YE;21I;21O;21A;19NUNAVIK HE;28I;29I;28O",
    "29O;28A;29A;28;24UT H;19HK;19QAAI;20I;21I;20O;21O;20A;21A;20;19TLHE;22I;22O;22A",
    "19WEST-CREE RE;30I;30O;30A;19NGAAI;21I;22I;21O;22O;21A;22A;21;20NG;19SAYISI SHE;28I;28O",
    "28A;19WOODS-CREE THE;32I;32O;32A;32;19LHI;22I;21O;22O;21A;22A;21;19TH-CREE THE;29I;30I",
    "29O;30O;29A;30A;29;19AIVILIK B;19BLACKFOOT E;29I;29O;29A;29WE;30I;30O;30A;29NE;30I;30O",
    "30A;29KE;30I;30O;30A;19SAYISI HE;27I;27O;27A;19CARRIER GHU;29O;29E;30E;29I;29A;27RU;28O",
    "28E;29E;28I;28A;27WU;28O;28E;29E;28I;28A;27HWU;29O;29E;30E;29I;29A;27THU;29O;29E;30E;29I",
    "29A;28TU;29O;29E;30E;29I;29A;27PU;28O;28E;29E;28I;28A;28;27GU;28O;28E;29E;28I;28A;27KHU",
    "29O;29E;30E;29I;29A;28KU;29O;29E;30E;29I;29A;29;27NU;28O;28E;29E;28I;28A;27MU;28O;28E",
    "29E;28I;28A;27YU;28O;28E;29E;28I;28A;27JU;19SAYISI JU;19CARRIER JO;28E;29E;28I",
    "19SAYISI JI;19CARRIER JA;28JU;29O;29E;30E;29I;29A;27LU;28O;28E;29E;28I;28A;27DLU;29O;29E",
    "30E;29I;29A;27LHU;29O;29E;30E;29I;29A;27TLHU;30O;30E;31E;30I;30A;29U;29O;29E;30E;29I;29A",
    "27ZU;28O;28E;29E;28I;28A;28;27INITIAL Z;27DZU;29O;29E;30E;29I;29A;27SU;28O;28E;29E;28I",
    "28A;28HU;29O;29E;30E;29I;29A;29;27TSU;29O;29E;30E;29I;29A;27CHU;29O;29E;30E;29I;29A",
    "27TTSU;30O;30E;31E;30I;30A;20HI SIGN;19FULL STOP;19QAI;19NGAI;20NGI;23I;22O;23O;22A;23A",
    "19WOODS-CREE THWEE;33I;34I;33O;34O;33A;34A;30FINAL TH;19BLACKFOOT W;00OGHAM SPACE MARK",
    "06LETTER BEITH;13LUIS;13FEARN;13SAIL;13NION;13UATH;13DAIR;13TINNE;13COLL;14EIRT;13MUIN",
    "13GORT;13NGEADAL;13STRAIF;13RUIS;13AILM;13ONN;13UR;13EADHADH;13IODHADH;13EABHADH;13OR",
    "13UILLEANN;13IFIN;13EAMHANCHOLL;13PEITH;06FEATHER MARK;06REVERSED FEATHER MARK;+3",
    "00RUNIC LETTER FEHU FEOH FE F;13V;13URUZ UR U;13YR;14;13W;13THURISAZ THURS THORN;13ETH",
    "13ANSUZ A;13OS O;13AC A;14ESC;13LONG-BRANCH-OSS O;13SHORT-TWIG-OSS O;13O;14E;14N",
    "13RAIDO RAD REID R;13KAUNA;13CEN;13KAUN K;13G;13ENG;13GEBO GYFU G;14AR;13WUNJO WYNN W",
    "13HAGLAZ H;15EGL H;13LONG-BRANCH-HAGALL H;13SHORT-TWIG-HAGALL H;13NAUDIZ NYD NAUD N",
    "13SHORT-TWIG-NAUD N;13DOTTED-N;13ISAZ IS ISS I;13E;13JERAN J;13GER;13LONG-BRANCH-AR AE",
    "13SHORT-TWIG-AR A;13IWAZ EOH;13PERTHO PEORTH P;13ALGIZ EOLHX;13SOWILO S",
    "14IGEL LONG-BRANCH-SOL S;14HORT-TWIG-SOL S;13C;13Z;13TIWAZ TIR TYR T;13SHORT-TWIG-TYR T",
    "13D;13BERKANAN BEORC BJARKAN B;13SHORT-TWIG-BJARKAN B;13DOTTED-P;13OPEN-P;13EHWAZ EH E",
    "13MANNAZ MAN M;13LONG-BRANCH-MADR M;13SHORT-TWIG-MADR M;13LAUKAZ LAGU LOGR L;13DOTTED-L",
    "13INGWAZ;16;13DAGAZ DAEG D;13OTHALAN ETHEL O;13EAR;13IOR;13CWEORTH;14ALC;14EALC;13STAN",
    "13LONG-BRANCH-YR;13SHORT-TWIG-YR;13ICELANDIC-YR;13Q;13X;06SINGLE PUNCTUATION",
    "06MULTIPLE PUNCTUATION;06CROSS PUNCTUATION;06ARLAUG SYMBOL;06TVIMADUR SYMBOL",
    "06BELGTHOR SYMBOL;06LETTER K;13SH;13OO;13FRANKS CASKET OS;27IS;27EH;27AC;28ESC;+7",
    "00TAGALOG LETTER A;15I;15U;15KA;15GA;15NGA;15TA;15DA;15NA;15PA;15BA;15MA;15YA;15RA;15LA",
    "15WA;15SA;15HA;08VOWEL SIGN I;19U;08SIGN VIRAMA;13PAMUDPOD;+9;08LETTER ARCHAIC RA",
    "00HANUNOO LETTER A;15I;15U;15KA;15GA;15NGA;15TA;15DA;15NA;15PA;15BA;15MA;15YA;15RA;15LA",
    "15WA;15SA;15HA;08VOWEL SIGN I;19U;08SIGN PAMUDPOD;00PHILIPPINE SINGLE PUNCTUATION",
    "11DOUBLE PUNCTUATION;+9;00BUHID LETTER A;13I;13U;13KA;13GA;13NGA;13TA;13DA;13NA;13PA",
    "13BA;13MA;13YA;13RA;13LA;13WA;13SA;13HA;06VOWEL SIGN I;17U;+C;00TAGBANWA LETTER A;16I",
    "16U;16KA;16GA;16NGA;16TA;16DA;16NA;16PA;16BA;16MA;16YA;+1;16LA;16WA;16SA;+1",
    "09VOWEL SIGN I;20U;+C;00KHMER LETTER KA;14HA;14O;14HO;13NGO;13CA;14HA;14O;14HO;13NYO",
    "13DA;13TTHA;13DO;13TTHO;13NNO;13TA;14HA;14O;14HO;13NO;13BA;13PHA;14O;14HO;13MO;13YO;13RO",
    "13LO;13VO;13SHA;14SO;14A;13HA;13LA;13QA;06INDEPENDENT VOWEL QAQ;26A;25I;26I;25U;26K;26U",
    "27V;24RY;26Y;24LY;26Y;24QE;25AI;25OO TYPE ONE;33TWO;25AU;06VOWEL INHERENT AQ;22A",
    "12SIGN AA;17I;18I;17Y;18Y;17U;18U;18A;17OE;17YA;17IE;17E;17AE;18I;17OO;17AU",
    "06SIGN NIKAHIT;11REAHMUK;11YUUKALEAPINTU;11MUUSIKATOAN;11TRIISAP;11BANTOC;11ROBAT",
    "11TOANDAKHIAT;11KAKABAT;11AHSDA;11SAMYOK SANNYA;11VIRIAM;11COENG;11BATHAMASAT;11KHAN",
    "11BARIYOOSAN;11CAMNUC PII KUUH;11LEK TOO;11BEYYAL;11PHNAEK MUAN;11KOOMUUT",
    "06CURRENCY SYMBOL RIEL;06SIGN AVAKRAHASANYA;12TTHACAN;+2;06DIGIT ZERO;12ONE;12TWO;13HREE",
    "12FOUR;13IVE;12SIX;13EVEN;12EIGHT;12NINE;+6;06SYMBOL LEK ATTAK SON;23MUOY;23PII;23BEI",
    "24UON;23PRAM;27-MUOY;28PII;28BEI;29UON;+6;00MONGOLIAN BIRGA;10ELLIPSIS;10COMMA",
    "10FULL STOP;10COLON;10FOUR DOTS;10TODO SOFT HYPHEN;10SIBE SYLLABLE BOUNDARY MARKER",
    "10MANCHU COMMA;17FULL STOP;10NIRUGU;10FREE VARIATION SELECTOR ONE;34TWO;35HREE",
    "10VOWEL SEPARATOR;10FREE VARIATION SELECTOR FOUR;10DIGIT ZERO;16ONE;16TWO;17HREE;16FOUR",
    "17IVE;16SIX;17EVEN;16EIGHT;16NINE;+6;10LETTER A;17E;17I;17O;17U;17OE;17UE;17EE;17NA",
    "17ANG;17BA;17PA;17QA;17GA;17MA;17LA;17SA;18HA;17TA;17DA;17CHA;17JA;17YA;17RA;17WA;17FA",
    "17KA;18HA;17TSA;17ZA;17HAA;17ZRA;17LHA;17ZHI;17CHI;17TODO LONG VOWEL SIGN;22E;22I;22O",
    "22U;22OE;22UE;22ANG;22BA;22PA;22QA;22GA;22MA;22TA;22DA;22CHA;22JA;22TSA;22YA;22WA;22KA",
    "22GAA;22HAA;22JIA;22NIA;22DZA;17SIBE E;22I;23Y;22UE;23;22ANG;22KA;22GA;22HA;22PA;22SHA",
    "22TA;22DA;22JA;22FA;22GAA;22HAA;22TSA;22ZA;22RAA;22CHA;22ZHA;17MANCHU I;24KA;24RA;24FA",
    "24ZHA;17CHA WITH TWO DOTS;+7;17ALI GALI ANUSVARA ONE;26VISARGA ONE;26DAMARU;26UBADAMA",
    "26INVERTED UBADAMA;26BALUDA;26THREE BALUDA;26A;26I;26KA;26NGA;26CA;26TTA;28HA;26DDA",
    "26NNA;26TA;26DA;26PA;27HA;26SSA;26ZHA;27A;26AH;17TODO ALI GALI TA;31ZHA",
    "17MANCHU ALI GALI GHA;33NGA;33CA;33JHA;33TTA;33DDHA;33TA;33DHA;33SSA;33CYA;33ZHA;34A",
    "17ALI GALI HALF U;31YA;17MANCHU ALI GALI BHA;17ALI GALI DAGALGA;17MANCHU ALI GALI LHA;+5",
    "00CANADIAN SYLLABICS OY;19AY;20AY;19WAY;19POY;20AY;20WOY;19TAY;19KAY;20WAY;19MAY;19NOY",
    "20AY;19LAY;19SOY;20AY;20HOY;21AY;21WOY;19YOY;20AY;19RAY;19NWI;19OJIBWAY NWI;19NWII",
    "19OJIBWAY NWII;19NWO;19OJIBWAY NWO;19NWOO;19OJIBWAY NWOO;19RWEE;21I;22I;21O;22O;21A",
    "19OJIBWAY P;27T;27K;27C;27M;27N;27S;28H;19EASTERN W;19WESTERN W;19FINAL SMALL RING",
    "25RAISED DOT;19R-CREE RWE;19WEST-CREE LOO;30AA;19THWE;22A;20THWE;22OO;22AA;20LHWE;22OO",
    "19SAYISI SHWE;28OO;26HOO;19CARRIER GWU;27DENE GEE;27GAA;28WA;19SAYISI JUU;19CARRIER JWA",
    "19BEAVER DENE L;31R;19CARRIER DENTAL S;+A;00LIMBU VOWEL-CARRIER LETTER;06LETTER KA;14HA",
    "13GA;14HA;13NGA;13CA;14HA;13JA;14HA;13YAN;13TA;14HA;13DA;14HA;13NA;13PA;14HA;13BA;14HA",
    "13MA;13YA;13RA;13LA;13WA;13SHA;14SA;14A;13HA;13GYAN;13TRA;+1;06VOWEL SIGN A;17I;17U;17EE",
    "17AI;17OO;17AU;17E;17O;06SUBJOINED LETTER YA;23RA;23WA;+4;07MALL LETTER KA;19NGA",
    "19ANUSVARA;19TA;19NA;19PA;19MA;19RA;19LA;07IGN MUKPHRENG;11KEMPHRENG;11SA-I;+4;11LOO;+3",
    "06EXCLAMATION MARK;06QUESTION MARK;06DIGIT ZERO;12ONE;12TWO;13HREE;12FOUR;13IVE;12SIX",
    "13EVEN;12EIGHT;12NINE;00TAI LE LETTER KA;14XA;14NGA;14TSA;14SA;14YA;14TA;15HA;14LA;14PA",
    "15HA;14MA;14FA;14VA;14HA;14QA;14KHA;14TSHA;14NA;14A;14I;14EE;15H;14U;14OO;15;14UE;14E",
    "14AUE;15I;+2;14TONE-2;193;194;195;196;+B;00NEW TAI LUE LETTER HIGH QA;19LOW QA;19HIGH KA",
    "24XA;24NGA;19LOW KA;23XA;23NGA;19HIGH TSA;24SA;24YA;19LOW TSA;23SA;23YA;19HIGH TA;25HA",
    "24NA;19LOW TA;24HA;23NA;19HIGH PA;25HA;24MA;19LOW PA;24HA;23MA;19HIGH FA;24VA;24LA",
    "19LOW FA;23VA;23LA;19HIGH HA;24DA;24BA;19LOW HA;23DA;23BA;19HIGH KVA;24XVA;19LOW KVA",
    "23XVA;19HIGH SUA;19LOW SUA;+4;12VOWEL SIGN VOWEL SHORTENER;23AA;23II;23U;24U;23E;23AE",
    "23O;24A;23UE;23AY;24AY;23UY;23OY;24AY;23UEY;23IY;12LETTER FINAL V;25NG;26;25M;25K;25D",
    "25B;12TONE MARK-1;222;+6;12DIGIT ZERO;18ONE;18TWO;19HREE;18FOUR;19IVE;18SIX;19EVEN",
    "18EIGHT;18NINE;12THAM DIGIT ONE;+3;12SIGN LAE;20V;00KHMER SYMBOL PATHAMASAT;13MUOY KOET",
    "13PII KOET;13BEI KOET;14UON KOET;13PRAM KOET;17-MUOY KOET;18PII KOET;18BEI KOET",
    "19UON KOET;13DAP KOET;16-MUOY KOET;17PII KOET;17BEI KOET;18UON KOET;17PRAM KOET",
    "13TUTEYASAT;13MUOY ROC;13PII ROC;13BEI ROC;14UON ROC;13PRAM ROC;17-MUOY ROC;18PII ROC",
    "18BEI ROC;19UON ROC;13DAP ROC;16-MUOY ROC;17PII ROC;17BEI ROC;18UON ROC;17PRAM ROC",
    "00BUGINESE LETTER KA;16GA;16NGA;18KA;16PA;16BA;16MA;17PA;16TA;16DA;16NA;17RA;16CA;16JA",
    "16NYA;18CA;16YA;16RA;16LA;16VA;16SA;16A;16HA;09VOWEL SIGN I;20U;20E;20O;20AE;+2",
    "09PALLAWA;09END OF SECTION;00TAI THAM LETTER HIGH KA;22HA;22XA;16LOW KA;21XA;21HA;16NGA",
    "16HIGH CA;22HA;16LOW CA;20SA;20CHA;16NYA;16RATA;16HIGH RATHA;16DA;16LOW RATHA;16RANA",
    "16HIGH TA;22HA;16LOW TA;21HA;16NA;16BA;16HIGH PA;22HA;21FA;16LOW PA;20FA;20PHA;16MA",
    "16LOW YA;16HIGH YA;16RA;17UE;16LA;17UE;16WA;16HIGH SHA;22SA;22A;21HA;16LLA;16A;16LOW HA",
    "16I;17I;16U;17U;16EE;16OO;16LAE;16GREAT SA;09CONSONANT SIGN MEDIAL RA;31LA;24LA TANG LAI",
    "09SIGN MAI KANG LAI;09CONSONANT SIGN FINAL NGA;24LOW PA;24HIGH RATHA OR LOW PA;24MA;24BA",
    "24SA;+1;09SIGN SAKOT;09VOWEL SIGN A;20MAI SAT;20AA;20TALL AA;20I;21I;20UE;21UE;21;21U",
    "20O;21A BELOW;21Y;20E;20AE;20OO;20AI;20THAM AI;20OA ABOVE;09SIGN MAI KANG;14TONE-1;192",
    "14KHUEN TONE-3;254;255;14RA HAAM;14MAI SAM;14KHUEN-LUE KARAN;+2",
    "09COMBINING CRYPTOGRAMMIC DOT;09HORA DIGIT ZERO;20ONE;20TWO;21HREE;20FOUR;21IVE;20SIX",
    "21EVEN;20EIGHT;20NINE;+6;09THAM DIGIT ZERO;20ONE;20TWO;21HREE;20FOUR;21IVE;20SIX;21EVEN",
    "20EIGHT;20NINE;+6;09SIGN WIANG;19WAAK;14SAWAN;14KEOW;14HOY;14DOKMAI",
    "14REVERSED ROTATED RANA;14MAI YAMOK;14KAAN;18KUU;14SATKAAN;21KUU;14HANG;14CAANG;+2",
    "00COMBINING DOUBLED CIRCUMFLEX ACCENT;11IAERESIS-RING;10INFINITY;10DOWNWARDS ARROW",
    "10TRIPLE DOT;10X-X BELOW;10WIGGLY LINE BELOW;10OPEN MARK BELOW;10DOUBLE OPEN MARK BELOW",
    "10LIGHT CENTRALIZATION STROKE BELOW;10STRONG CENTRALIZATION STROKE BELOW",
    "10PARENTHESES ABOVE;10DOUBLE PARENTHESES ABOVE;10PARENTHESES BELOW;22OVERLAY",
    "10LATIN SMALL LETTER W BELOW;29TURNED W BELOW;11EFT PARENTHESIS ABOVE LEFT",
    "10RIGHT PARENTHESIS ABOVE RIGHT;10LEFT PARENTHESIS BELOW LEFT",
    "10RIGHT PARENTHESIS BELOW RIGHT;10SQUARE BRACKETS ABOVE;10NUMBER SIGN ABOVE",
    "10INVERTED DOUBLE ARCH ABOVE;10PLUS SIGN ABOVE;10DOUBLE PLUS SIGN ABOVE;27BELOW",
    "10TRIPLE ACUTE ACCENT;10LATIN SMALL LETTER INSULAR G;37R;37T;+31",
    "00BALINESE SIGN ULU RICEM;18CANDRA;14CECEK;14SURANG;14BISAH;09LETTER AKARA;21 TEDUNG",
    "16IKARA;21 TEDUNG;16UKARA;21 TEDUNG;16RA REPA;23 TEDUNG;16LA LENGA;24 TEDUNG;16EKARA",
    "16AIKARA;16OKARA;21 TEDUNG;16KA;18 MAHAPRANA;16GA;18 GORA;16NGA;16CA;18 LACA;16JA",
    "18 JERA;16NYA;16TA LATIK;19MURDA MAHAPRANA;16DA MURDA ALPAPRANA;25MAHAPRANA;16NA RAMBAT",
    "16TA;18 TAWA;16DA;18 MADU;16NA;16PA;18 KAPAL;16BA;18 KEMBANG;16MA;16YA;16RA;16LA;16WA",
    "16SA SAGA;21PA;18;16HA;09SIGN REREKAN;09VOWEL SIGN TEDUNG;20ULU;23 SARI;20SUKU;24 ILUT",
    "20RA REPA;27 TEDUNG;20LA LENGA;28 TEDUNG;20TALING;26 REPA;27TEDUNG;27REPA TEDUNG;20PEPET",
    "25 TEDUNG;09ADEG ADEG;09LETTER KAF SASAK;17HOT SASAK;16TZIR SASAK;16EF SASAK;16VE SASAK",
    "16ZAL SASAK;16ASYURA SASAK;17RCHAIC JNYA;+3;09DIGIT ZERO;15ONE;15TWO;16HREE;15FOUR;16IVE",
    "15SIX;16EVEN;15EIGHT;15NINE;09PANTI;11MADA;09WINDU;09CARIK PAMUNGKAH;15SIKI;15PAREREN",
    "09PAMENENG;09MUSICAL SYMBOL DONG;25ENG;25UNG;25ANG;28 SURANG;25ING;25AENG;25EUNG;25AING",
    "26NG GEDE;24COMBINING TEGEH;34ENDEP;34KEMPUL;38LI;34JEGOGAN;34KEMPUL WITH JEGOGAN",
    "38LI WITH JEGOGAN;34BENDE;34GONG;24RIGHT-HAND OPEN DUG;41AG;35CLOSED TUK;43AK",
    "24LEFT-HAND OPEN PANG;40UNG;34CLOSED PLAK;43UK;34OPEN PING;09PANTI LANTANG",
    "11MADA LANTANG;+1;00SUNDANESE SIGN PANYECEK;18GLAYAR;19WISAD;10LETTER A;17I;17U;17AE;17O",
    "17E;18U;17KA;17QA;17GA;17NGA;17CA;17JA;17ZA;17NYA;17TA;17DA;17NA;17PA;17FA;17VA;17BA",
    "17MA;17YA;17RA;17LA;17WA;17SA;17XA;17HA;10CONSONANT SIGN PAMINGKAL;27NYAKRA;29IKU",
    "10VOWEL SIGN PANGHULU;24YUKU;24AELAENG;24OLONG;23MEPET;23NEULEUNG;10SIGN PAMAAEH",
    "15VIRAMA;10CONSONANT SIGN PASANGAN MA;34WA;10LETTER KHA;17SYA;10DIGIT ZERO;16ONE;16TWO",
    "17HREE;16FOUR;17IVE;16SIX;17EVEN;16EIGHT;16NINE;10AVAGRAHA;10LETTER REU;17LEU;17BHA",
    "17FINAL K;23M;00BATAK LETTER A;13SIMALUNGUN A;13HA;13SIMALUNGUN HA;13MANDAILING HA;13BA",
    "13KARO BA;13PA;13SIMALUNGUN PA;13NA;13MANDAILING NA;13WA;13SIMALUNGUN WA;13PAKPAK WA",
    "13GA;13SIMALUNGUN GA;13JA;13DA;13RA;13SIMALUNGUN RA;13MA;13SIMALUNGUN MA;14OUTHERN TA",
    "13NORTHERN TA;13SA;14IMALUNGUN SA;13MANDAILING SA;13YA;13SIMALUNGUN YA;13NGA;13LA",
    "13SIMALUNGUN LA;13NYA;13CA;13NDA;13MBA;13I;13U;06SIGN TOMPI;06VOWEL SIGN E;17PAKPAK E",
    "17EE;17I;17KARO I;17O;17KARO O;17U;18 FOR SIMALUNGUN SA;06CONSONANT SIGN NG;21H",
    "06PANGOLAT;09ONGONAN;+8;06SYMBOL BINDU NA METEK;19PINARBORAS;19JUDUL;19PANGOLAT",
    "00LEPCHA LETTER KA;15LA;15HA;14GA;15LA;14NGA;14CA;15HA;14JA;14NYA;14TA;15HA;14DA;14NA",
    "14PA;15LA;15HA;14FA;15LA;14BA;15LA;14MA;15LA;14TSA;16HA;14DZA;14YA;14RA;14LA;14HA;15LA",
    "14VA;14SA;15HA;14WA;14A;07SUBJOINED LETTER YA;24RA;07VOWEL SIGN AA;18I;18O;19O;18U;19U",
    "18E;07CONSONANT SIGN K;22M;22L;22N;22P;22R;22T;22NYIN-DO;22KANG;07SIGN RAN;12NUKTA;+3",
    "07PUNCTUATION TA-ROL;19NYET THYOOM TA-ROL;19CER-WA;19TSHOOK CER-WA;25;07DIGIT ZERO;13ONE",
    "13TWO;14HREE;13FOUR;14IVE;13SIX;14EVEN;13EIGHT;13NINE;+3;07LETTER TTA;16HA;14DDA",
    "00OL CHIKI DIGIT ZERO;15ONE;15TWO;16HREE;15FOUR;16IVE;15SIX;16EVEN;15EIGHT;15NINE",
    "09LETTER LA;16AT;17G;17NG;17L;16LAA;16AAK;18J;18M;18W;16LI;16IS;17H;17NY;17R;16LU;16UC",
    "17D;17NN;17Y;16LE;16EP;17DD;17N;17RR;16LO;16OTT;17B;17V;17H;09MU TTUDDAG",
    "09GAAHLAA TTUDDAAG;09MU-GAAHLAA TTUDDAAG;09RELAA;09PHAARKAA;09AHAD;09PUNCTUATION MUCAAD",
    "21DOUBLE MUCAAD;00CYRILLIC SMALL LETTER ROUNDED VE;22LONG-LEGGED DE;22NARROW O;22WIDE ES",
    "22TALL TE;23HREE-LEGGED TE;23ALL HARD SIGN;27YAT;22UNBLENDED UK;+7",
    "00GEORGIAN MTAVRULI CAPITAL LETTER AN;33BAN;33GAN;33DON;33EN;33VIN;33ZEN;33TAN;33IN",
    "33KAN;33LAS;33MAN;33NAR;33ON;33PAR;33ZHAR;33RAE;33SAN;33TAR;33UN;33PHAR;33KHAR;33GHAN",
    "33QAR;33SHIN;33CHIN;34AN;33JIL;33CIL;34HAR;33XAN;33JHAN;33HAE;34E;34IE;33WE;33HAR;34OE",
    "33FI;33YN;33ELIFI;33TURNED GAN;33AIN;+2;34EN;33HARD SIGN;33LABIAL SIGN",
    "00SUNDANESE PUNCTUATION BINDU SURYA;28PANGLONG;29URNAMA;28CAKRA;28LEU SATANGA",
    "28KA SATANGA;28DA SATANGA;28BA SATANGA;+8;00VEDIC TONE KARSHANA;11SHARA;11PRENKHA",
    "06SIGN NIHSHVASA;11YAJURVEDIC MIDLINE SVARITA",
    "06TONE YAJURVEDIC AGGRAVATED INDEPENDENT SVARITA;22INDEPENDENT SVARITA",
    "22KATHAKA INDEPENDENT SVARITA;11CANDRA BELOW",
    "11YAJURVEDIC KATHAKA INDEPENDENT SVARITA SCHROEDER;11DOUBLE SVARITA;11TRIPLE SVARITA",
    "11KATHAKA ANUDATTA;11DOT BELOW;11TWO DOTS BELOW;12HREE DOTS BELOW",
    "11RIGVEDIC KASHMIRI INDEPENDENT SVARITA;11ATHARVAVEDIC INDEPENDENT SVARITA",
    "06SIGN VISARGA SVARITA;19UDATTA;11REVERSED VISARGA UDATTA;11VISARGA ANUDATTA",
    "11REVERSED VISARGA ANUDATTA;11VISARGA UDATTA WITH TAIL;19ANUDATTA WITH TAIL",
    "11ANUSVARA ANTARGOMUKHA;20BAHIRGOMUKHA;20VAMAGOMUKHA;31 WITH TAIL;11TIRYAK",
    "11HEXIFORM LONG ANUSVARA;11LONG ANUSVARA;11RTHANG LONG ANUSVARA",
    "11ANUSVARA UBHAYATO MUKHA;12RDHAVISARGA;11ROTATED ARDHAVISARGA;06TONE CANDRA ABOVE",
    "06SIGN JIHVAMULIYA;11UPADHMANIYA;11ATIKRAMA;06TONE RING ABOVE;11DOUBLE RING ABOVE",
    "06SIGN DOUBLE ANUSVARA ANTARGOMUKHA;+5;00LATIN LETTER SMALL CAPITAL A;28E",
    "06SMALL LETTER TURNED AE;06LETTER SMALL CAPITAL BARRED B;27C;27D;27ETH;28",
    "06SMALL LETTER TURNED OPEN E;26I;06LETTER SMALL CAPITAL J;27K;27L WITH STROKE;27M",
    "27REVERSED N;27O;28PEN O;06SMALL LETTER SIDEWAYS O;29PEN O;29 WITH STROKE;19TURNED OE",
    "06LETTER SMALL CAPITAL OU;06SMALL LETTER TOP HALF O;19BOTTOM HALF O",
    "06LETTER SMALL CAPITAL P;27REVERSED R;27TURNED R;28;27U;06SMALL LETTER SIDEWAYS U",
    "28DIAERESIZED U;28TURNED M;06LETTER SMALL CAPITAL V;27W;27Z;27EZH",
    "13VOICED LARYNGEAL SPIRANT;13AIN;00GREEK LETTER SMALL CAPITAL GAMMA;27LAMDA;27PI;27RHO",
    "27PSI;00CYRILLIC LETTER SMALL CAPITAL EL;00MODIFIER LETTER CAPITAL A;25E;24B;25ARRED B",
    "24D;24E;24REVERSED E;24G;24H;24I;24J;24K;24L;24M;24N;24REVERSED N;24O;25U;24P;24R;24T",
    "24U;24W;16SMALL A;22TURNED A;22ALPHA;22TURNED AE;22B;22D;22E;22SCHWA;22OPEN E",
    "22TURNED OPEN E;22G;22TURNED I;22K;22M;22ENG;22O;23PEN O;22TOP HALF O;22BOTTOM HALF O",
    "22P;22T;22U;22SIDEWAYS U;22TURNED M;22V;22AIN;22BETA;22GREEK GAMMA;22DELTA;22GREEK PHI",
    "22CHI;00LATIN SUBSCRIPT SMALL LETTER I;29R;29U;29V;00GREEK SUBSCRIPT SMALL LETTER BETA",
    "29GAMMA;29RHO;29PHI;29CHI;00LATIN SMALL LETTER UE;19B WITH MIDDLE TILDE",
    "19D WITH MIDDLE TILDE;19F WITH MIDDLE TILDE;19M WITH MIDDLE TILDE;19N WITH MIDDLE TILDE",
    "19P WITH MIDDLE TILDE;19R WITH MIDDLE TILDE;26FISHHOOK AND MIDDLE TILDE",
    "19S WITH MIDDLE TILDE;19T WITH MIDDLE TILDE;19Z WITH MIDDLE TILDE;19TURNED G",
    "00MODIFIER LETTER CYRILLIC EN;00LATIN SMALL LETTER INSULAR G;19TH WITH STRIKETHROUGH",
    "12CAPITAL LETTER I WITH STROKE;12LETTER IOTA WITH STROKE;19P WITH STROKE",
    "12CAPITAL LETTER U WITH STROKE;12LETTER UPSILON WITH STROKE;19B WITH PALATAL HOOK",
    "19D WITH PALATAL HOOK;19F WITH PALATAL HOOK;19G WITH PALATAL HOOK;19K WITH PALATAL HOOK",
    "19L WITH PALATAL HOOK;19M WITH PALATAL HOOK;19N WITH PALATAL HOOK;19P WITH PALATAL HOOK",
    "19R WITH PALATAL HOOK;19S WITH PALATAL HOOK;19ESH WITH PALATAL HOOK",
    "19V WITH PALATAL HOOK;19X WITH PALATAL HOOK;19Z WITH PALATAL HOOK",
    "19A WITH RETROFLEX HOOK;20LPHA WITH RETROFLEX HOOK;19D WITH HOOK AND TAIL",
    "19E WITH RETROFLEX HOOK;19OPEN E WITH RETROFLEX HOOK",
    "19REVERSED OPEN E WITH RETROFLEX HOOK;19SCHWA WITH RETROFLEX HOOK",
    "19I WITH RETROFLEX HOOK;19OPEN O WITH RETROFLEX HOOK;19ESH WITH RETROFLEX HOOK",
    "19U WITH RETROFLEX HOOK;19EZH WITH RETROFLEX HOOK;00MODIFIER LETTER SMALL TURNED ALPHA",
    "22C;23 WITH CURL;22ETH;22REVERSED OPEN E;22F;22DOTLESS J WITH STROKE;22SCRIPT G",
    "22TURNED H;22I WITH STROKE;23OTA;22CAPITAL I;31 WITH STROKE;22J WITH CROSSED-TAIL",
    "22L WITH RETROFLEX HOOK;29PALATAL HOOK;22CAPITAL L;22M WITH HOOK",
    "22TURNED M WITH LONG LEG;22N WITH LEFT HOOK;29RETROFLEX HOOK;22CAPITAL N;22BARRED O",
    "22PHI;22S WITH HOOK;22ESH;22T WITH PALATAL HOOK;22U BAR;23PSILON;22CAPITAL U",
    "22V WITH HOOK;22TURNED V;22Z;23 WITH RETROFLEX HOOK;29CURL;22EZH;22THETA",
    "00COMBINING DOTTED GRAVE ACCENT;17ACUTE ACCENT;10SNAKE BELOW;11USPENSION MARK",
    "10MACRON-ACUTE;10GRAVE-MACRON;10MACRON-GRAVE;10ACUTE-MACRON;10GRAVE-ACUTE-GRAVE",
    "10ACUTE-GRAVE-ACUTE;10LATIN SMALL LETTER R BELOW;10BREVE-MACRON;10MACRON-BREVE",
    "10DOUBLE CIRCUMFLEX ABOVE;10OGONEK ABOVE;10ZIGZAG BELOW;10IS BELOW;10UR ABOVE;11S ABOVE",
    "10LATIN SMALL LETTER FLATTENED OPEN A ABOVE;29AE;30O;30V;29C CEDILLA;29INSULAR D;29ETH",
    "29G;16LETTER SMALL CAPITAL G;16SMALL LETTER K;29L;16LETTER SMALL CAPITAL L;37M",
    "16SMALL LETTER N;16LETTER SMALL CAPITAL N;37R;16SMALL LETTER R ROTUNDA;29S;29LONG S;29Z",
    "29ALPHA;29B;30ETA;29SCHWA;29F;29L WITH DOUBLE MIDDLE TILDE",
    "29O WITH LIGHT CENTRALIZATION STROKE;29P;29ESH;29U WITH LIGHT CENTRALIZATION STROKE;29W",
    "29A WITH DIAERESIS;29O WITH DIAERESIS;29U WITH DIAERESIS;10UP TACK ABOVE",
    "10KAVYKA ABOVE RIGHT;23LEFT;10DOT ABOVE LEFT;10WIDE INVERTED BRIDGE BELOW",
    "10DOT BELOW LEFT;11ELETION MARK;11OUBLE INVERTED BREVE BELOW;10ALMOST EQUAL TO BELOW",
    "10LEFT ARROWHEAD ABOVE;10RIGHT ARROWHEAD AND DOWN ARROWHEAD BELOW",
    "00LATIN CAPITAL LETTER A WITH RING BELOW;06SMALL LETTER A WITH RING BELOW",
    "06CAPITAL LETTER B WITH DOT ABOVE;06SMALL LETTER B WITH DOT ABOVE",
    "06CAPITAL LETTER B WITH DOT BELOW;06SMALL LETTER B WITH DOT BELOW",
    "06CAPITAL LETTER B WITH LINE BELOW;06SMALL LETTER B WITH LINE BELOW",
    "06CAPITAL LETTER C WITH CEDILLA AND ACUTE;06SMALL LETTER C WITH CEDILLA AND ACUTE",
    "06CAPITAL LETTER D WITH DOT ABOVE;06SMALL LETTER D WITH DOT ABOVE",
    "06CAPITAL LETTER D WITH DOT BELOW;06SMALL LETTER D WITH DOT BELOW",
    "06CAPITAL LETTER D WITH LINE BELOW;06SMALL LETTER D WITH LINE BELOW",
    "06CAPITAL LETTER D WITH CEDILLA;06SMALL LETTER D WITH CEDILLA",
    "06CAPITAL LETTER D WITH CIRCUMFLEX BELOW;06SMALL LETTER D WITH CIRCUMFLEX BELOW",
    "06CAPITAL LETTER E WITH MACRON AND GRAVE;06SMALL LETTER E WITH MACRON AND GRAVE",
    "06CAPITAL LETTER E WITH MACRON AND ACUTE;06SMALL LETTER E WITH MACRON AND ACUTE",
    "06CAPITAL LETTER E WITH CIRCUMFLEX BELOW;06SMALL LETTER E WITH CIRCUMFLEX BELOW",
    "06CAPITAL LETTER E WITH TILDE BELOW;06SMALL LETTER E WITH TILDE BELOW",
    "06CAPITAL LETTER E WITH CEDILLA AND BREVE;06SMALL LETTER E WITH CEDILLA AND BREVE",
    "06CAPITAL LETTER F WITH DOT ABOVE;06SMALL LETTER F WITH DOT ABOVE",
    "06CAPITAL LETTER G WITH MACRON;06SMALL LETTER G WITH MACRON",
    "06CAPITAL LETTER H WITH DOT ABOVE;06SMALL LETTER H WITH DOT ABOVE",
    "06CAPITAL LETTER H WITH DOT BELOW;06SMALL LETTER H WITH DOT BELOW",
    "06CAPITAL LETTER H WITH DIAERESIS;06SMALL LETTER H WITH DIAERESIS",
    "06CAPITAL LETTER H WITH CEDILLA;06SMALL LETTER H WITH CEDILLA",
    "06CAPITAL LETTER H WITH BREVE BELOW;06SMALL LETTER H WITH BREVE BELOW",
    "06CAPITAL LETTER I WITH TILDE BELOW;06SMALL LETTER I WITH TILDE BELOW",
    "06CAPITAL LETTER I WITH DIAERESIS AND ACUTE;06SMALL LETTER I WITH DIAERESIS AND ACUTE",
    "06CAPITAL LETTER K WITH ACUTE;06SMALL LETTER K WITH ACUTE",
    "06CAPITAL LETTER K WITH DOT BELOW;06SMALL LETTER K WITH DOT BELOW",
    "06CAPITAL LETTER K WITH LINE BELOW;06SMALL LETTER K WITH LINE BELOW",
    "06CAPITAL LETTER L WITH DOT BELOW;06SMALL LETTER L WITH DOT BELOW",
    "06CAPITAL LETTER L WITH DOT BELOW AND MACRON;06SMALL LETTER L WITH DOT BELOW AND MACRON",
    "06CAPITAL LETTER L WITH LINE BELOW;06SMALL LETTER L WITH LINE BELOW",
    "06CAPITAL LETTER L WITH CIRCUMFLEX BELOW;06SMALL LETTER L WITH CIRCUMFLEX BELOW",
    "06CAPITAL LETTER M WITH ACUTE;06SMALL LETTER M WITH ACUTE",
    "06CAPITAL LETTER M WITH DOT ABOVE;06SMALL LETTER M WITH DOT ABOVE",
    "06CAPITAL LETTER M WITH DOT BELOW;06SMALL LETTER M WITH DOT BELOW",
    "06CAPITAL LETTER N WITH DOT ABOVE;06SMALL LETTER N WITH DOT ABOVE",
    "06CAPITAL LETTER N WITH DOT BELOW;06SMALL LETTER N WITH DOT BELOW",
    "06CAPITAL LETTER N WITH LINE BELOW;06SMALL LETTER N WITH LINE BELOW",
    "06CAPITAL LETTER N WITH CIRCUMFLEX BELOW;06SMALL LETTER N WITH CIRCUMFLEX BELOW",
    "06CAPITAL LETTER O WITH TILDE AND ACUTE;06SMALL LETTER O WITH TILDE AND ACUTE",
    "06CAPITAL LETTER O WITH TILDE AND DIAERESIS;06SMALL LETTER O WITH TILDE AND DIAERESIS",
    "06CAPITAL LETTER O WITH MACRON AND GRAVE;06SMALL LETTER O WITH MACRON AND GRAVE",
    "06CAPITAL LETTER O WITH MACRON AND ACUTE;06SMALL LETTER O WITH MACRON AND ACUTE",
    "06CAPITAL LETTER P WITH ACUTE;06SMALL LETTER P WITH ACUTE",
    "06CAPITAL LETTER P WITH DOT ABOVE;06SMALL LETTER P WITH DOT ABOVE",
    "06CAPITAL LETTER R WITH DOT ABOVE;06SMALL LETTER R WITH DOT ABOVE",
    "06CAPITAL LETTER R WITH DOT BELOW;06SMALL LETTER R WITH DOT BELOW",
    "06CAPITAL LETTER R WITH DOT BELOW AND MACRON;06SMALL LETTER R WITH DOT BELOW AND MACRON",
    "06CAPITAL LETTER R WITH LINE BELOW;06SMALL LETTER R WITH LINE BELOW",
    "06CAPITAL LETTER S WITH DOT ABOVE;06SMALL LETTER S WITH DOT ABOVE",
    "06CAPITAL LETTER S WITH DOT BELOW;06SMALL LETTER S WITH DOT BELOW",
    "06CAPITAL LETTER S WITH ACUTE AND DOT ABOVE;06SMALL LETTER S WITH ACUTE AND DOT ABOVE",
    "06CAPITAL LETTER S WITH CARON AND DOT ABOVE;06SMALL LETTER S WITH CARON AND DOT ABOVE",
    "06CAPITAL LETTER S WITH DOT BELOW AND DOT ABOVE",
    "06SMALL LETTER S WITH DOT BELOW AND DOT ABOVE;06CAPITAL LETTER T WITH DOT ABOVE",
    "06SMALL LETTER T WITH DOT ABOVE;06CAPITAL LETTER T WITH DOT BELOW",
    "06SMALL LETTER T WITH DOT BELOW;06CAPITAL LETTER T WITH LINE BELOW",
    "06SMALL LETTER T WITH LINE BELOW;06CAPITAL LETTER T WITH CIRCUMFLEX BELOW",
    "06SMALL LETTER T WITH CIRCUMFLEX BELOW;06CAPITAL LETTER U WITH DIAERESIS BELOW",
    "06SMALL LETTER U WITH DIAERESIS BELOW;06CAPITAL LETTER U WITH TILDE BELOW",
    "06SMALL LETTER U WITH TILDE BELOW;06CAPITAL LETTER U WITH CIRCUMFLEX BELOW",
    "06SMALL LETTER U WITH CIRCUMFLEX BELOW;06CAPITAL LETTER U WITH TILDE AND ACUTE",
    "06SMALL LETTER U WITH TILDE AND ACUTE;06CAPITAL LETTER U WITH MACRON AND DIAERESIS",
    "06SMALL LETTER U WITH MACRON AND DIAERESIS;06CAPITAL LETTER V WITH TILDE",
    "06SMALL LETTER V WITH TILDE;06CAPITAL LETTER V WITH DOT BELOW",
    "06SMALL LETTER V WITH DOT BELOW;06CAPITAL LETTER W WITH GRAVE",
    "06SMALL LETTER W WITH GRAVE;06CAPITAL LETTER W WITH ACUTE;06SMALL LETTER W WITH ACUTE",
    "06CAPITAL LETTER W WITH DIAERESIS;06SMALL LETTER W WITH DIAERESIS",
    "06CAPITAL LETTER W WITH DOT ABOVE;06SMALL LETTER W WITH DOT ABOVE",
    "06CAPITAL LETTER W WITH DOT BELOW;06SMALL LETTER W WITH DOT BELOW",
    "06CAPITAL LETTER X WITH DOT ABOVE;06SMALL LETTER X WITH DOT ABOVE",
    "06CAPITAL LETTER X WITH DIAERESIS;06SMALL LETTER X WITH DIAERESIS",
    "06CAPITAL LETTER Y WITH DOT ABOVE;06SMALL LETTER Y WITH DOT ABOVE",
    "06CAPITAL LETTER Z WITH CIRCUMFLEX;06SMALL LETTER Z WITH CIRCUMFLEX",
    "06CAPITAL LETTER Z WITH DOT BELOW;06SMALL LETTER Z WITH DOT BELOW",
    "06CAPITAL LETTER Z WITH LINE BELOW;06SMALL LETTER Z WITH LINE BELOW;19H WITH LINE BELOW",
    "19T WITH DIAERESIS;19W WITH RING ABOVE;19Y WITH RING ABOVE;19A WITH RIGHT HALF RING",
    "19LONG S WITH DOT ABOVE;32IAGONAL STROKE;31HIGH STROKE;06CAPITAL LETTER SHARP S",
    "06SMALL LETTER DELTA;06CAPITAL LETTER A WITH DOT BELOW;06SMALL LETTER A WITH DOT BELOW",
    "06CAPITAL LETTER A WITH HOOK ABOVE;06SMALL LETTER A WITH HOOK ABOVE",
    "06CAPITAL LETTER A WITH CIRCUMFLEX AND ACUTE;06SMALL LETTER A WITH CIRCUMFLEX AND ACUTE",
    "06CAPITAL LETTER A WITH CIRCUMFLEX AND GRAVE;06SMALL LETTER A WITH CIRCUMFLEX AND GRAVE",
    "06CAPITAL LETTER A WITH CIRCUMFLEX AND HOOK ABOVE",
    "06SMALL LETTER A WITH CIRCUMFLEX AND HOOK ABOVE",
    "06CAPITAL LETTER A WITH CIRCUMFLEX AND TILDE;06SMALL LETTER A WITH CIRCUMFLEX AND TILDE",
    "06CAPITAL LETTER A WITH CIRCUMFLEX AND DOT BELOW",
    "06SMALL LETTER A WITH CIRCUMFLEX AND DOT BELOW;06CAPITAL LETTER A WITH BREVE AND ACUTE",
    "06SMALL LETTER A WITH BREVE AND ACUTE;06CAPITAL LETTER A WITH BREVE AND GRAVE",
    "06SMALL LETTER A WITH BREVE AND GRAVE;06CAPITAL LETTER A WITH BREVE AND HOOK ABOVE",
    "06SMALL LETTER A WITH BREVE AND HOOK ABOVE;06CAPITAL LETTER A WITH BREVE AND TILDE",
    "06SMALL LETTER A WITH BREVE AND TILDE;06CAPITAL LETTER A WITH BREVE AND DOT BELOW",
    "06SMALL LETTER A WITH BREVE AND DOT BELOW;06CAPITAL LETTER E WITH DOT BELOW",
    "06SMALL LETTER E WITH DOT BELOW;06CAPITAL LETTER E WITH HOOK ABOVE",
    "06SMALL LETTER E WITH HOOK ABOVE;06CAPITAL LETTER E WITH TILDE",
    "06SMALL LETTER E WITH TILDE;06CAPITAL LETTER E WITH CIRCUMFLEX AND ACUTE",
    "06SMALL LETTER E WITH CIRCUMFLEX AND ACUTE;06CAPITAL LETTER E WITH CIRCUMFLEX AND GRAVE",
    "06SMALL LETTER E WITH CIRCUMFLEX AND GRAVE",
    "06CAPITAL LETTER E WITH CIRCUMFLEX AND HOOK ABOVE",
    "06SMALL LETTER E WITH CIRCUMFLEX AND HOOK ABOVE",
    "06CAPITAL LETTER E WITH CIRCUMFLEX AND TILDE;06SMALL LETTER E WITH CIRCUMFLEX AND TILDE",
    "06CAPITAL LETTER E WITH CIRCUMFLEX AND DOT BELOW",
    "06SMALL LETTER E WITH CIRCUMFLEX AND DOT BELOW;06CAPITAL LETTER I WITH HOOK ABOVE",
    "06SMALL LETTER I WITH HOOK ABOVE;06CAPITAL LETTER I WITH DOT BELOW",
    "06SMALL LETTER I WITH DOT BELOW;06CAPITAL LETTER O WITH DOT BELOW",
    "06SMALL LETTER O WITH DOT BELOW;06CAPITAL LETTER O WITH HOOK ABOVE",
    "06SMALL LETTER O WITH HOOK ABOVE;06CAPITAL LETTER O WITH CIRCUMFLEX AND ACUTE",
    "06SMALL LETTER O WITH CIRCUMFLEX AND ACUTE;06CAPITAL LETTER O WITH CIRCUMFLEX AND GRAVE",
    "06SMALL LETTER O WITH CIRCUMFLEX AND GRAVE",
    "06CAPITAL LETTER O WITH CIRCUMFLEX AND HOOK ABOVE",
    "06SMALL LETTER O WITH CIRCUMFLEX AND HOOK ABOVE",
    "06CAPITAL LETTER O WITH CIRCUMFLEX AND TILDE;06SMALL LETTER O WITH CIRCUMFLEX AND TILDE",
    "06CAPITAL LETTER O WITH CIRCUMFLEX AND DOT BELOW",
    "06SMALL LETTER O WITH CIRCUMFLEX AND DOT BELOW;06CAPITAL LETTER O WITH HORN AND ACUTE",
    "06SMALL LETTER O WITH HORN AND ACUTE;06CAPITAL LETTER O WITH HORN AND GRAVE",
    "06SMALL LETTER O WITH HORN AND GRAVE;06CAPITAL LETTER O WITH HORN AND HOOK ABOVE",
    "06SMALL LETTER O WITH HORN AND HOOK ABOVE;06CAPITAL LETTER O WITH HORN AND TILDE",
    "06SMALL LETTER O WITH HORN AND TILDE;06CAPITAL LETTER O WITH HORN AND DOT BELOW",
    "06SMALL LETTER O WITH HORN AND DOT BELOW;06CAPITAL LETTER U WITH DOT BELOW",
    "06SMALL LETTER U WITH DOT BELOW;06CAPITAL LETTER U WITH HOOK ABOVE",
    "06SMALL LETTER U WITH HOOK ABOVE;06CAPITAL LETTER U WITH HORN AND ACUTE",
    "06SMALL LETTER U WITH HORN AND ACUTE;06CAPITAL LETTER U WITH HORN AND GRAVE",
    "06SMALL LETTER U WITH HORN AND GRAVE;06CAPITAL LETTER U WITH HORN AND HOOK ABOVE",
    "06SMALL LETTER U WITH HORN AND HOOK ABOVE;06CAPITAL LETTER U WITH HORN AND TILDE",
    "06SMALL LETTER U WITH HORN AND TILDE;06CAPITAL LETTER U WITH HORN AND DOT BELOW",
    "06SMALL LETTER U WITH HORN AND DOT BELOW;06CAPITAL LETTER Y WITH GRAVE",
    "06SMALL LETTER Y WITH GRAVE;06CAPITAL LETTER Y WITH DOT BELOW",
    "06SMALL LETTER Y WITH DOT BELOW;06CAPITAL LETTER Y WITH HOOK ABOVE",
    "06SMALL LETTER Y WITH HOOK ABOVE;06CAPITAL LETTER Y WITH TILDE",
    "06SMALL LETTER Y WITH TILDE;06CAPITAL LETTER MIDDLE-WELSH LL",
    "06SMALL LETTER MIDDLE-WELSH LL;06CAPITAL LETTER MIDDLE-WELSH V",
    "06SMALL LETTER MIDDLE-WELSH V;06CAPITAL LETTER Y WITH LOOP;06SMALL LETTER Y WITH LOOP",
    "00GREEK SMALL LETTER ALPHA WITH PSILI;30DASIA;30PSILI AND VARIA;30DASIA AND VARIA",
    "30PSILI AND OXIA;30DASIA AND OXIA;30PSILI AND PERISPOMENI;30DASIA AND PERISPOMENI",
    "06CAPITAL LETTER ALPHA WITH PSILI;32DASIA;32PSILI AND VARIA;32DASIA AND VARIA",
    "32PSILI AND OXIA;32DASIA AND OXIA;32PSILI AND PERISPOMENI;32DASIA AND PERISPOMENI",
    "06SMALL LETTER EPSILON WITH PSILI;32DASIA;32PSILI AND VARIA;32DASIA AND VARIA",
    "32PSILI AND OXIA;32DASIA AND OXIA;+2;06CAPITAL LETTER EPSILON WITH PSILI;34DASIA",
    "34PSILI AND VARIA;34DASIA AND VARIA;34PSILI AND OXIA;34DASIA AND OXIA;+2",
    "06SMALL LETTER ETA WITH PSILI;28DASIA;28PSILI AND VARIA;28DASIA AND VARIA",
    "28PSILI AND OXIA;28DASIA AND OXIA;28PSILI AND PERISPOMENI;28DASIA AND PERISPOMENI",
    "06CAPITAL LETTER ETA WITH PSILI;30DASIA;30PSILI AND VARIA;30DASIA AND VARIA",
    "30PSILI AND OXIA;30DASIA AND OXIA;30PSILI AND PERISPOMENI;30DASIA AND PERISPOMENI",
    "06SMALL LETTER IOTA WITH PSILI;29DASIA;29PSILI AND VARIA;29DASIA AND VARIA",
    "29PSILI AND OXIA;29DASIA AND OXIA;29PSILI AND PERISPOMENI;29DASIA AND PERISPOMENI",
    "06CAPITAL LETTER IOTA WITH PSILI;31DASIA;31PSILI AND VARIA;31DASIA AND VARIA",
    "31PSILI AND OXIA;31DASIA AND OXIA;31PSILI AND PERISPOMENI;31DASIA AND PERISPOMENI",
    "06SMALL LETTER OMICRON WITH PSILI;32DASIA;32PSILI AND VARIA;32DASIA AND VARIA",
    "32PSILI AND OXIA;32DASIA AND OXIA;+2;06CAPITAL LETTER OMICRON WITH PSILI;34DASIA",
    "34PSILI AND VARIA;34DASIA AND VARIA;34PSILI AND OXIA;34DASIA AND OXIA;+2",
    "06SMALL LETTER UPSILON WITH PSILI;32DASIA;32PSILI AND VARIA;32DASIA AND VARIA",
    "32PSILI AND OXIA;32DASIA AND OXIA;32PSILI AND PERISPOMENI;32DASIA AND PERISPOMENI;+1",
    "06CAPITAL LETTER UPSILON WITH DASIA;+1;39 AND VARIA;+1;44OXIA;+1;44PERISPOMENI",
    "06SMALL LETTER OMEGA WITH PSILI;30DASIA;30PSILI AND VARIA;30DASIA AND VARIA",
    "30PSILI AND OXIA;30DASIA AND OXIA;30PSILI AND PERISPOMENI;30DASIA AND PERISPOMENI",
    "06CAPITAL LETTER OMEGA WITH PSILI;32DASIA;32PSILI AND VARIA;32DASIA AND VARIA",
    "32PSILI AND OXIA;32DASIA AND OXIA;32PSILI AND PERISPOMENI;32DASIA AND PERISPOMENI",
    "06SMALL LETTER ALPHA WITH VARIA;30OXIA;19EPSILON WITH VARIA;32OXIA;20TA WITH VARIA",
    "28OXIA;19IOTA WITH VARIA;29OXIA;19OMICRON WITH VARIA;32OXIA;19UPSILON WITH VARIA;32OXIA",
    "19OMEGA WITH VARIA;30OXIA;+2;19ALPHA WITH PSILI AND YPOGEGRAMMENI",
    "30DASIA AND YPOGEGRAMMENI;30PSILI AND VARIA AND YPOGEGRAMMENI",
    "30DASIA AND VARIA AND YPOGEGRAMMENI;30PSILI AND OXIA AND YPOGEGRAMMENI",
    "30DASIA AND OXIA AND YPOGEGRAMMENI;30PSILI AND PERISPOMENI AND YPOGEGRAMMENI",
    "30DASIA AND PERISPOMENI AND YPOGEGRAMMENI",
    "06CAPITAL LETTER ALPHA WITH PSILI AND PROSGEGRAMMENI;32DASIA AND PROSGEGRAMMENI",
    "32PSILI AND VARIA AND PROSGEGRAMMENI;32DASIA AND VARIA AND PROSGEGRAMMENI",
    "32PSILI AND OXIA AND PROSGEGRAMMENI;32DASIA AND OXIA AND PROSGEGRAMMENI",
    "32PSILI AND PERISPOMENI AND PROSGEGRAMMENI;32DASIA AND PERISPOMENI AND PROSGEGRAMMENI",
    "06SMALL LETTER ETA WITH PSILI AND YPOGEGRAMMENI;28DASIA AND YPOGEGRAMMENI",
    "28PSILI AND VARIA AND YPOGEGRAMMENI;28DASIA AND VARIA AND YPOGEGRAMMENI",
    "28PSILI AND OXIA AND YPOGEGRAMMENI;28DASIA AND OXIA AND YPOGEGRAMMENI",
    "28PSILI AND PERISPOMENI AND YPOGEGRAMMENI;28DASIA AND PERISPOMENI AND YPOGEGRAMMENI",
    "06CAPITAL LETTER ETA WITH PSILI AND PROSGEGRAMMENI;30DASIA AND PROSGEGRAMMENI",
    "30PSILI AND VARIA AND PROSGEGRAMMENI;30DASIA AND VARIA AND PROSGEGRAMMENI",
    "30PSILI AND OXIA AND PROSGEGRAMMENI;30DASIA AND OXIA AND PROSGEGRAMMENI",
    "30PSILI AND PERISPOMENI AND PROSGEGRAMMENI;30DASIA AND PERISPOMENI AND PROSGEGRAMMENI",
    "06SMALL LETTER OMEGA WITH PSILI AND YPOGEGRAMMENI;30DASIA AND YPOGEGRAMMENI",
    "30PSILI AND VARIA AND YPOGEGRAMMENI;30DASIA AND VARIA AND YPOGEGRAMMENI",
    "30PSILI AND OXIA AND YPOGEGRAMMENI;30DASIA AND OXIA AND YPOGEGRAMMENI",
    "30PSILI AND PERISPOMENI AND YPOGEGRAMMENI;30DASIA AND PERISPOMENI AND YPOGEGRAMMENI",
    "06CAPITAL LETTER OMEGA WITH PSILI AND PROSGEGRAMMENI;32DASIA AND PROSGEGRAMMENI",
    "32PSILI AND VARIA AND PROSGEGRAMMENI;32DASIA AND VARIA AND PROSGEGRAMMENI",
    "32PSILI AND OXIA AND PROSGEGRAMMENI;32DASIA AND OXIA AND PROSGEGRAMMENI",
    "32PSILI AND PERISPOMENI AND PROSGEGRAMMENI;32DASIA AND PERISPOMENI AND PROSGEGRAMMENI",
    "06SMALL LETTER ALPHA WITH VRACHY;30MACRON;30VARIA AND YPOGEGRAMMENI;30YPOGEGRAMMENI",
    "30OXIA AND YPOGEGRAMMENI;+1;30PERISPOMENI;41 AND YPOGEGRAMMENI",
    "06CAPITAL LETTER ALPHA WITH VRACHY;32MACRON;32VARIA;32OXIA;32PROSGEGRAMMENI;06KORONIS",
    "06PROSGEGRAMMENI;07SILI;07ERISPOMENI;06DIALYTIKA AND PERISPOMENI",
    "06SMALL LETTER ETA WITH VARIA AND YPOGEGRAMMENI;28YPOGEGRAMMENI;28OXIA AND YPOGEGRAMMENI",
    "+1;28PERISPOMENI;39 AND YPOGEGRAMMENI;06CAPITAL LETTER EPSILON WITH VARIA;34OXIA",
    "22TA WITH VARIA;30OXIA;30PROSGEGRAMMENI;06PSILI AND VARIA;16OXIA;16PERISPOMENI",
    "06SMALL LETTER IOTA WITH VRACHY;29MACRON;29DIALYTIKA AND VARIA;43OXIA;+2;29PERISPOMENI",
    "29DIALYTIKA AND PERISPOMENI;06CAPITAL LETTER IOTA WITH VRACHY;31MACRON;31VARIA;31OXIA;+1",
    "06DASIA AND VARIA;16OXIA;16PERISPOMENI;06SMALL LETTER UPSILON WITH VRACHY;32MACRON",
    "32DIALYTIKA AND VARIA;46OXIA;19RHO WITH PSILI;28DASIA;19UPSILON WITH PERISPOMENI",
    "32DIALYTIKA AND PERISPOMENI;06CAPITAL LETTER UPSILON WITH VRACHY;34MACRON;34VARIA;34OXIA",
    "21RHO WITH DASIA;06DIALYTIKA AND VARIA;20OXIA;06VARIA;+2",
    "06SMALL LETTER OMEGA WITH VARIA AND YPOGEGRAMMENI;30YPOGEGRAMMENI",
    "30OXIA AND YPOGEGRAMMENI;+1;30PERISPOMENI;41 AND YPOGEGRAMMENI",
    "06CAPITAL LETTER OMICRON WITH VARIA;34OXIA;23EGA WITH VARIA;32OXIA;32PROSGEGRAMMENI",
    "06OXIA;06DASIA"
  ]

end ApiDoc.Text.CharacterName
