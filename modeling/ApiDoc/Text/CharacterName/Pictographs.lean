import ApiDoc.Text.CharacterName.Coded

/-!
# Names of characters: Pictographs

The names of pictographs, emoticons and tags.
-/

namespace ApiDoc.Text.CharacterName

/-- The names of the characters from `1e000` to `10ffff`. -/
def pictographs : Coded where
  first := 0x1e000
  lines := [
    "00COMBINING GLAGOLITIC LETTER AZU;28BUKY;28VEDE;28GLAGOLI;28DOBRO;28YESTU;28ZHIVETE;+1",
    "29EMLJA;28IZHE;29NITIAL IZHE;29;28DJERVI;28KAKO;28LJUDIJE;28MYSLITE;28NASHI;28ONU",
    "28POKOJI;28RITSI;28SLOVO;28TVRIDO;28UKU;28FRITU;28HERU;+2;28SHTA;28TSI;28CHRIVI;28SHA",
    "28YERU;31I;29ATI;+1;29U;28SMALL YUS;+1;28YO;28IOTATED SMALL YUS;28BIG YUS",
    "28IOTATED BIG YUS;28FITA;+D5;00NYIAKENG PUACHUE HMONG LETTER MA;30TSA;30NTA;30TA;30HA",
    "30NA;30XA;30NKA;30CA;30LA;30SA;30ZA;30NCA;31TSA;30KA;30DA;30NYA;31RA;30VA;30NTXA;30TXA",
    "30FA;30RA;30QA;30YA;30NQA;30PA;30XYA;30NPA;30DLA;30NPLA;30HAH;30MLA;30PLA;30GA;30RRA;30A",
    "31A;30I;30U;30O;31O;30E;31E;30W;+3;23TONE-B;28M;28J;28V;28S;28G;28D;23SIGN FOR PERSON",
    "32THING;32LOCATION;32ANIMAL;32INVERTEBRATE;28XW XW;24YLLABLE LENGTHENER;+2;23DIGIT ZERO",
    "29ONE;29TWO;30HREE;29FOUR;30IVE;29SIX;30EVEN;29EIGHT;29NINE;+4;23LOGOGRAM NYAJ",
    "23CIRCLED CA;+140;00TOTO LETTER PA;12BA;12TA;12DA;12KA;12GA;12MA;12NA;13GA;12SA;12CHA",
    "12YA;12WA;12JA;12HA;12RA;12LA;12I;12BREATHY I;12IU;12BREATHY IU;12U;12E;12BREATHY E;12EO",
    "12BREATHY EO;12O;12AE;12BREATHY AE;12A;05SIGN RISING TONE;+11;00WANCHO LETTER AA;15;14BA",
    "14CA;14DA;14GA;14YA;14PHA;14LA;14NA;14PA;14TA;15HA;14FA;14SA;15HA;14JA;14ZA;14WA;14VA",
    "14KA;14O;14AU;14RA;14MA;14KHA;14HA;14E;14I;14NGA;14U;14LLHA;14TSA;15RA;14ONG;14AANG;15NG",
    "14ING;14ON;14EN;14AAN;14NYA;14UEN;14YIH;07TONE TUP;15NI;12KOI;15NI;07DIGIT ZERO;13ONE",
    "13TWO;14HREE;13FOUR;14IVE;13SIX;14EVEN;13EIGHT;13NINE;+5;07NGUN SIGN;+4E0",
    "00ETHIOPIC SYLLABLE HHYA;21U;21I;21AA;21EE;22;21O;+1;18GURAGE HHWA;18HHWI;21EE;22;+1",
    "18GURAGE MWI;27EE;+1;25QWI;27EE;28;25BWI;27EE;25KWI;27EE;28;25GWI;27EE;28;25FWI;27EE",
    "25PWI;27EE;+1;00MENDE KIKAKUI SYLLABLE M001 KI;262 KA;263 KU;2565 KEE;2595 KE;2576 KOO",
    "2548 KO;24179 KUA;24004 WI;265 WA;266 WU;24126 WEE;2518 WE;264 WOO;24045 WO;24194 WUI",
    "2543 WEI;24061 WVI;2549 WVA;24139 WVE;24007 MIN;268 MAN;269 MUN;2559 MEN;2594 MON",
    "24154 MUAN;2589 MUEN;24010 BI;261 BA;262 BU;24150 BEE;24097 BE;24103 BOO;2538 BO;24013 I",
    "264 A;265 U;24163 EE;2500 E;2565 OO;2547 O;2537 EI;261 IN;265 IN;2595 AN;2578 EN",
    "24019 SI;2520 SA;261 SU;24162 SEE;2516 SE;2536 SOO;24079 SO;24196 SIA;24025 LI;266 LA",
    "267 LU;2584 LEE;2573 LE;2554 LOO;24153 LO;2510 LONG LE;24016 DI;267 DA;268 DU;2589 DEE",
    "24180 DOO;261 DO;24022 TI;263 TA;264 TU;2591 TEE;2555 TE;24104 TOO;24069 TO;2528 JI",
    "269 JA;2530 JU;24157 JEE;2513 JE;2560 JOO;24063 JO;24175 LONG JO;24031 YI;262 YA;263 YU",
    "24109 YEE;24080 YE;24141 YOO;2521 YO;24034 FI;265 FA;266 FU;2578 FEE;265 FE;24133 FOO",
    "24088 FO;24197 FUA;2501 FAN;24037 NIN;268 NAN;269 NUN;24117 NEN;2569 NON;2576 HI",
    "24041 HA;24186 HU;24040 HEE;2596 HE;2542 HOO;24140 HO;24083 HEEI;24128 HOOU;24053 HIN",
    "24130 HAN;24087 HUN;2552 HEN;24193 HON;24046 HUAN;2590 NGGI;2543 NGGA;2582 NGGU",
    "24115 NGGEE;2546 NGGE;2556 NGGOO;2520 NGGO;2559 NGGAA;2527 NGGUA;24086 LONG NGGE",
    "24106 LONG NGGOO;2583 LONG NGGO;2555 GI;2511 GA;2568 GU;2590 GEE;2566 GUEI;267 GUAN",
    "2584 NGEN;24057 NGON;24177 NGUAN;24068 PI;2599 PA;2550 PU;2581 PEE;2551 PE;24102 POO",
    "24066 PO;24145 MBI;24062 MBA;24122 MBU;24047 MBEE;24188 MBEE;24072 MBE;24172 MBOO",
    "264 MBO;2587 MBUU;2561 LONG MBE;2505 LONG MBOO;2542 LONG MBO;2532 KPI;24092 KPA;2574 KPU",
    "2544 KPEE;24108 KPE;2512 KPOO;2558 KPO;2524 GBI;24056 GBA;24148 GBU;24093 GBEE;24107 GBE",
    "24071 GBOO;260 GBO;24171 RA;2523 NDI;269 NDA;265 NDU;2591 NDEE;2519 NDE;24067 NDOO",
    "264 NDO;24152 NJA;2592 NJU;2549 NJEE;2534 NJOO;2582 VI;265 VA;2551 VU;2573 VEE;24085 VE",
    "24144 VOO;24077 VO;24164 NYIN;24058 NYAN;24170 NYUN;24098 NYEN;2560 NYON;+2;14DIGIT ONE",
    "20TWO;21HREE;20FOUR;21IVE;20SIX;21EVEN;20EIGHT;20NINE;14COMBINING NUMBER TEENS;33NS",
    "31HUNDREDS;31THOUSANDS;32EN THOUSANDS;31HUNDRED THOUSANDS;31MILLIONS;+29",
    "00ADLAM CAPITAL LETTER ALIF;21DAALI;21LAAM;21MIIM;21BA;21SINNYIIYHE;21PE;21BHE;21RA;21E",
    "21FA;21I;21O;21DHA;21YHE;21WAW;21NUN;21KAF;21YA;21U;21JIIM;21CHI;21HA;21QAAF;21GA;21NYA",
    "21TU;21NHA;21VA;21KHA;21GBE;21ZAL;21KPO;21SHA;06SMALL LETTER ALIF;19DAALI;19LAAM;19MIIM",
    "19BA;19SINNYIIYHE;19PE;19BHE;19RA;19E;19FA;19I;19O;19DHA;19YHE;19WAW;19NUN;19KAF;19YA",
    "19U;19JIIM;19CHI;19HA;19QAAF;19GA;19NYA;19TU;19NHA;19VA;19KHA;19GBE;19ZAL;19KPO;19SHA",
    "06ALIF LENGTHENER;06VOWEL LENGTHENER;06GEMINATION MARK;06HAMZA;06CONSONANT MODIFIER",
    "06GEMINATE CONSONANT MODIFIER;06NUKTA;07ASALIZATION MARK;+4;06DIGIT ZERO;12ONE;12TWO",
    "13HREE;12FOUR;13IVE;12SIX;13EVEN;12EIGHT;12NINE;+4;06INITIAL EXCLAMATION MARK",
    "14QUESTION MARK;+311;00INDIC SIYAQ NUMBER ONE;19TWO;20HREE;19FOUR;20IVE;19SIX;20EVEN",
    "19EIGHT;19NINE;19TEN;20WENTY;20HIRTY;19FORTY;20IFTY;19SIXTY;20EVENTY;19EIGHTY;19NINETY",
    "19ONE HUNDRED;19TWO HUNDRED;20HREE HUNDRED;19FOUR HUNDRED;20IVE HUNDRED;19SIX HUNDRED",
    "20EVEN HUNDRED;19EIGHT HUNDRED;19NINE HUNDRED;19ONE THOUSAND;19TWO THOUSAND",
    "20HREE THOUSAND;19FOUR THOUSAND;20IVE THOUSAND;19SIX THOUSAND;20EVEN THOUSAND",
    "19EIGHT THOUSAND;19NINE THOUSAND;19TEN THOUSAND;20WENTY THOUSAND;20HIRTY THOUSAND",
    "19FORTY THOUSAND;20IFTY THOUSAND;19SIXTY THOUSAND;20EVENTY THOUSAND;19EIGHTY THOUSAND",
    "19NINETY THOUSAND;19LAKH;23AN;12LAKH MARK;12NUMBER KAROR;24AN;19PREFIXED ONE;28TWO",
    "29HREE;28FOUR;29IVE;28SIX;29EVEN;28EIGHT;28NINE;12PLACEHOLDER;12FRACTION ONE QUARTER",
    "25HALF;21THREE QUARTERS;12RUPEE MARK;12NUMBER ALTERNATE ONE;29TWO;30EN THOUSAND",
    "12ALTERNATE LAKH MARK;+4C;00OTTOMAN SIYAQ NUMBER ONE;21TWO;22HREE;21FOUR;22IVE;21SIX",
    "22EVEN;21EIGHT;21NINE;21TEN;22WENTY;22HIRTY;21FORTY;22IFTY;21SIXTY;22EVENTY;21EIGHTY",
    "21NINETY;21ONE HUNDRED;21TWO HUNDRED;22HREE HUNDRED;21FOUR HUNDRED;22IVE HUNDRED",
    "21SIX HUNDRED;22EVEN HUNDRED;21EIGHT HUNDRED;21NINE HUNDRED;21ONE THOUSAND",
    "21TWO THOUSAND;22HREE THOUSAND;21FOUR THOUSAND;22IVE THOUSAND;21SIX THOUSAND",
    "22EVEN THOUSAND;21EIGHT THOUSAND;21NINE THOUSAND;21TEN THOUSAND;22WENTY THOUSAND",
    "22HIRTY THOUSAND;21FORTY THOUSAND;22IFTY THOUSAND;21SIXTY THOUSAND;22EVENTY THOUSAND",
    "21EIGHTY THOUSAND;21NINETY THOUSAND;14MARRATAN;14ALTERNATE NUMBER TWO;32HREE;31FOUR",
    "32IVE;31SIX;32EVEN;31EIGHT;31NINE;31TEN;31FOUR HUNDRED;31SIX HUNDRED;31TWO THOUSAND",
    "32EN THOUSAND;14FRACTION ONE HALF;27SIXTH;+C2;00ARABIC MATHEMATICAL ALEF;20BEH;20JEEM",
    "20DAL;+1;20WAW;20ZAIN;20HAH;20TAH;20YEH;20KAF;20LAM;20MEEM;20NOON;20SEEN;20AIN;20FEH",
    "20SAD;20QAF;20REH;20SHEEN;20TEH;21HEH;20KHAH;20THAL;20DAD;20ZAH;20GHAIN;20DOTLESS BEH",
    "28NOON;28FEH;28QAF;+1;20INITIAL BEH;28JEEM;+1;28HEH;+2;29AH;+1;28YEH;28KAF;28LAM;28MEEM",
    "28NOON;28SEEN;28AIN;28FEH;28SAD;28QAF;+1;28SHEEN;28TEH;29HEH;28KHAH;+1;28DAD;+1;28GHAIN",
    "+6;20TAILED JEEM;+4;27HAH;+1;27YEH;+1;27LAM;+1;27NOON;27SEEN;27AIN;+1;27SAD;27QAF;+1",
    "27SHEEN;+2;27KHAH;+1;27DAD;+1;27GHAIN;+1;27DOTLESS NOON;+1;35QAF;+1;20STRETCHED BEH",
    "30JEEM;+1;30HEH;+2;31AH;30TAH;30YEH;30KAF;+1;30MEEM;30NOON;30SEEN;30AIN;30FEH;30SAD",
    "30QAF;+1;30SHEEN;30TEH;31HEH;30KHAH;+1;30DAD;30ZAH;30GHAIN;30DOTLESS BEH;+1;38FEH;+1",
    "20LOOPED ALEF;27BEH;27JEEM;27DAL;27HEH;27WAW;27ZAIN;27HAH;27TAH;27YEH;+1;27LAM;27MEEM",
    "27NOON;27SEEN;27AIN;27FEH;27SAD;27QAF;27REH;27SHEEN;27TEH;28HEH;27KHAH;27THAL;27DAD",
    "27ZAH;27GHAIN;+5;20DOUBLE-STRUCK BEH;34JEEM;34DAL;+1;34WAW;34ZAIN;34HAH;34TAH;34YEH;+1",
    "34LAM;34MEEM;34NOON;34SEEN;34AIN;34FEH;34SAD;34QAF;34REH;34SHEEN;34TEH;35HEH;34KHAH",
    "34THAL;34DAD;34ZAH;34GHAIN;+34;20OPERATOR MEEM WITH HAH WITH TATWEEL;29HAH WITH DAL;+10E",
    "00MAHJONG TILE EAST WIND;13SOUTH WIND;13WEST WIND;13NORTH WIND;13RED DRAGON",
    "13GREEN DRAGON;13WHITE DRAGON;13ONE OF CHARACTERS;13TWO OF CHARACTERS",
    "14HREE OF CHARACTERS;13FOUR OF CHARACTERS;14IVE OF CHARACTERS;13SIX OF CHARACTERS",
    "14EVEN OF CHARACTERS;13EIGHT OF CHARACTERS;13NINE OF CHARACTERS;13ONE OF BAMBOOS",
    "13TWO OF BAMBOOS;14HREE OF BAMBOOS;13FOUR OF BAMBOOS;14IVE OF BAMBOOS;13SIX OF BAMBOOS",
    "14EVEN OF BAMBOOS;13EIGHT OF BAMBOOS;13NINE OF BAMBOOS;13ONE OF CIRCLES;13TWO OF CIRCLES",
    "14HREE OF CIRCLES;13FOUR OF CIRCLES;14IVE OF CIRCLES;13SIX OF CIRCLES;14EVEN OF CIRCLES",
    "13EIGHT OF CIRCLES;13NINE OF CIRCLES;13PLUM;13ORCHID;13BAMBOO;13CHRYSANTHEMUM;13SPRING",
    "14UMMER;13AUTUMN;13WINTER;13JOKER;13BACK;+4;00DOMINO TILE HORIZONTAL BACK;22-00-00;271",
    "272;273;274;275;276;241-00;271;272;273;274;275;276;242-00;271;272;273;274;275;276;243-00",
    "271;272;273;274;275;276;244-00;271;272;273;274;275;276;245-00;271;272;273;274;275;276",
    "246-00;271;272;273;274;275;276;12VERTICAL BACK;20-00-00;251;252;253;254;255;256;221-00",
    "251;252;253;254;255;256;222-00;251;252;253;254;255;256;223-00;251;252;253;254;255;256",
    "224-00;251;252;253;254;255;256;225-00;251;252;253;254;255;256;226-00;251;252;253;254;255",
    "256;+C;00PLAYING CARD BACK;13ACE OF SPADES;13TWO OF SPADES;14HREE OF SPADES",
    "13FOUR OF SPADES;14IVE OF SPADES;13SIX OF SPADES;14EVEN OF SPADES;13EIGHT OF SPADES",
    "13NINE OF SPADES;13TEN OF SPADES;13JACK OF SPADES;13KNIGHT OF SPADES;13QUEEN OF SPADES",
    "13KING OF SPADES;+2;13ACE OF HEARTS;13TWO OF HEARTS;14HREE OF HEARTS;13FOUR OF HEARTS",
    "14IVE OF HEARTS;13SIX OF HEARTS;14EVEN OF HEARTS;13EIGHT OF HEARTS;13NINE OF HEARTS",
    "13TEN OF HEARTS;13JACK OF HEARTS;13KNIGHT OF HEARTS;13QUEEN OF HEARTS;13KING OF HEARTS",
    "13RED JOKER;+1;13ACE OF DIAMONDS;13TWO OF DIAMONDS;14HREE OF DIAMONDS;13FOUR OF DIAMONDS",
    "14IVE OF DIAMONDS;13SIX OF DIAMONDS;14EVEN OF DIAMONDS;13EIGHT OF DIAMONDS",
    "13NINE OF DIAMONDS;13TEN OF DIAMONDS;13JACK OF DIAMONDS;13KNIGHT OF DIAMONDS",
    "13QUEEN OF DIAMONDS;13KING OF DIAMONDS;13BLACK JOKER;+1;13ACE OF CLUBS;13TWO OF CLUBS",
    "14HREE OF CLUBS;13FOUR OF CLUBS;14IVE OF CLUBS;13SIX OF CLUBS;14EVEN OF CLUBS",
    "13EIGHT OF CLUBS;13NINE OF CLUBS;13TEN OF CLUBS;13JACK OF CLUBS;13KNIGHT OF CLUBS",
    "13QUEEN OF CLUBS;13KING OF CLUBS;13WHITE JOKER;13FOOL;13TRUMP-1;192;193;194;195;196;197",
    "198;199;1910;201;202;203;204;205;206;207;208;209;1920;201;+A;00DIGIT ZERO FULL STOP",
    "11COMMA;06ONE COMMA;06TWO COMMA;07HREE COMMA;06FOUR COMMA;07IVE COMMA;06SIX COMMA",
    "07EVEN COMMA;06EIGHT COMMA;06NINE COMMA;02NGBAT CIRCLED SANS-SERIF DIGIT ZERO",
    "08NEGATIVE CIRCLED SANS-SERIF DIGIT ZERO;00CIRCLED ZERO WITH SLASH;08ANTICLOCKWISE ARROW",
    "08DOLLAR SIGN WITH OVERLAID BACKSLASH;00PARENTHESIZED LATIN CAPITAL LETTER A;35B;35C;35D",
    "35E;35F;35G;35H;35I;35J;35K;35L;35M;35N;35O;35P;35Q;35R;35S;35T;35U;35V;35W;35X;35Y;35Z",
    "00TORTOISE SHELL BRACKETED LATIN CAPITAL LETTER S",
    "00CIRCLED ITALIC LATIN CAPITAL LETTER C;36R;08CD;08WZ;01OPYLEFT SYMBOL",
    "00SQUARED LATIN CAPITAL LETTER A;29B;29C;29D;29E;29F;29G;29H;29I;29J;29K;29L;29M;29N;29O",
    "29P;29Q;29R;29S;29T;29U;29V;29W;29X;29Y;29Z;08HV;08MV;08SD;09S;08PPV;08WC",
    "00NEGATIVE CIRCLED LATIN CAPITAL LETTER A;38B;38C;38D;38E;38F;38G;38H;38I;38J;38K;38L",
    "38M;38N;38O;38P;38Q;38R;38S;38T;38U;38V;38W;38X;38Y;38Z;00RAISED MC SIGN;08D SIGN",
    "08R SIGN;00CIRCLED CC;09 WITH OVERLAID BACKSLASH;08HUMAN FIGURE",
    "00NEGATIVE SQUARED LATIN CAPITAL LETTER A;38B;38C;38D;38E;38F;38G;38H;38I;38J;38K;38L",
    "38M;38N;38O;38P;38Q;38R;38S;38T;38U;38V;38W;38X;38Y;38Z",
    "00CROSSED NEGATIVE SQUARED LATIN CAPITAL LETTER P;00NEGATIVE SQUARED IC;17PA;17SA;17AB",
    "17WC;00SQUARE DJ;06D CL;09OOL;08FREE;08ID;08NEW;09G;08OK;08SOS",
    "08UP WITH EXCLAMATION MARK;08VS;08THREE D;08SECOND SCREEN;08TWO K;08FOUR K;08EIGHT K",
    "08FIVE POINT ONE;08SEVEN POINT ONE;08TWENTY-TWO POINT TWO;08SIXTY P",
    "08ONE HUNDRED TWENTY P;08LATIN SMALL LETTER D;08HC;09DR;09I-RES;08LOSSLESS;08SHV;08UHD",
    "08VOD;00MASK WORK SYMBOL;+38;00REGIONAL INDICATOR SYMBOL LETTER A;33B;33C;33D;33E;33F",
    "33G;33H;33I;33J;33K;33L;33M;33N;33O;33P;33Q;33R;33S;33T;33U;33V;33W;33X;33Y;33Z",
    "00SQUARE HIRAGANA HOKA;06D KATAKANA KOKO;17SA;+D;08CJK UNIFIED IDEOGRAPH-624B;305B57",
    "313CC;08KATAKANA DE;08CJK UNIFIED IDEOGRAPH-4E8C;30591A;3089E3;305929;304EA4;306620",
    "307121;306599;30524D;31F8C;3118D;3065B0;30521D;307D42;3151F;308CA9;3058F0;31439;306F14",
    "31295;31355;304E00;339;30904A;305DE6;304E2D;3053F3;306307;308D70;306253;307981;31A7A",
    "305408;306E80;31709;338;307533;305272;315B6;30914D;+4",
    "00TORTOISE SHELL BRACKETED CJK UNIFIED IDEOGRAPH-672C;474E09;498C;475B89;4770B9;476253",
    "4776D7;4752DD;476557;+7;00CIRCLED IDEOGRAPH ADVANTAGE;19CCEPT;+E;00ROUNDED SYMBOL FOR FU",
    "19LU;19SHOU;19XI;19SHUANGXI;19CAI;+9A;00CYCLONE;00FOGGY;00CLOSED UMBRELLA",
    "00NIGHT WITH STARS;00SUNRISE OVER MOUNTAINS;07;00CITYSCAPE AT DUSK",
    "00SUNSET OVER BUILDINGS;00RAINBOW;00BRIDGE AT NIGHT;00WATER WAVE;00VOLCANO;00MILKY WAY",
    "00EARTH GLOBE EUROPE-AFRICA;12AMERICAS;13SIA-AUSTRALIA;00GLOBE WITH MERIDIANS",
    "00NEW MOON SYMBOL;00WAXING CRESCENT MOON SYMBOL;00FIRST QUARTER MOON SYMBOL",
    "00WAXING GIBBOUS MOON SYMBOL;00FULL MOON SYMBOL;00WANING GIBBOUS MOON SYMBOL",
    "00LAST QUARTER MOON SYMBOL;00WANING CRESCENT MOON SYMBOL;00CRESCENT MOON",
    "00NEW MOON WITH FACE;00FIRST QUARTER MOON WITH FACE;00LAST QUARTER MOON WITH FACE",
    "00FULL MOON WITH FACE;00SUN WITH FACE;00GLOWING STAR;00SHOOTING STAR;00THERMOMETER",
    "00BLACK DROPLET;00WHITE SUN;09 WITH SMALL CLOUD;10BEHIND CLOUD;22 WITH RAIN",
    "00CLOUD WITH RAIN;11SNOW;11LIGHTNING;11TORNADO;00FOG;00WIND BLOWING FACE;00HOT DOG",
    "00TACO;00BURRITO;00CHESTNUT;00SEEDLING;00EVERGREEN TREE;00DECIDUOUS TREE;00PALM TREE",
    "00CACTUS;00HOT PEPPER;00TULIP;00CHERRY BLOSSOM;00ROSE;00HIBISCUS;00SUNFLOWER;00BLOSSOM",
    "00EAR OF MAIZE;07RICE;00HERB;00FOUR LEAF CLOVER;00MAPLE LEAF;00FALLEN LEAF",
    "00LEAF FLUTTERING IN WIND;00MUSHROOM;00TOMATO;00AUBERGINE;00GRAPES;00MELON;00WATERMELON",
    "00TANGERINE;00LEMON;00BANANA;00PINEAPPLE;00RED APPLE;00GREEN APPLE;00PEAR;03CH",
    "00CHERRIES;00STRAWBERRY;00HAMBURGER;00SLICE OF PIZZA;00MEAT ON BONE;00POULTRY LEG",
    "00RICE CRACKER;05BALL;00COOKED RICE;01URRY AND RICE;00STEAMING BOWL;01PAGHETTI;00BREAD",
    "00FRENCH FRIES;00ROASTED SWEET POTATO;00DANGO;00ODEN;00SUSHI;00FRIED SHRIMP",
    "01ISH CAKE WITH SWIRL DESIGN;00SOFT ICE CREAM;01HAVED ICE;00ICE CREAM;00DOUGHNUT",
    "00COOKIE;01HOCOLATE BAR;01ANDY;00LOLLIPOP;00CUSTARD;00HONEY POT;00SHORTCAKE;00BENTO BOX",
    "00POT OF FOOD;00COOKING;00FORK AND KNIFE;00TEACUP WITHOUT HANDLE;00SAKE BOTTLE AND CUP",
    "00WINE GLASS;00COCKTAIL GLASS;00TROPICAL DRINK;00BEER MUG;00CLINKING BEER MUGS",
    "00BABY BOTTLE;00FORK AND KNIFE WITH PLATE;00BOTTLE WITH POPPING CORK;00POPCORN;00RIBBON",
    "00WRAPPED PRESENT;00BIRTHDAY CAKE;00JACK-O-LANTERN;00CHRISTMAS TREE;00FATHER CHRISTMAS",
    "01IREWORKS;08 SPARKLER;00BALLOON;00PARTY POPPER;00CONFETTI BALL;00TANABATA TREE",
    "00CROSSED FLAGS;00PINE DECORATION;00JAPANESE DOLLS;00CARP STREAMER;00WIND CHIME",
    "00MOON VIEWING CEREMONY;00SCHOOL SATCHEL;00GRADUATION CAP;00HEART WITH TIP ON THE LEFT",
    "00BOUQUET OF FLOWERS;00MILITARY MEDAL;00REMINDER RIBBON;00MUSICAL KEYBOARD WITH JACKS",
    "00STUDIO MICROPHONE;00LEVEL SLIDER;00CONTROL KNOBS;00BEAMED ASCENDING MUSICAL NOTES",
    "07DESCENDING MUSICAL NOTES;00FILM FRAMES;00ADMISSION TICKETS;00CAROUSEL HORSE",
    "00FERRIS WHEEL;00ROLLER COASTER;00FISHING POLE AND FISH;00MICROPHONE;01OVIE CAMERA",
    "00CINEMA;00HEADPHONE;00ARTIST PALETTE;00TOP HAT;00CIRCUS TENT;00TICKET;00CLAPPER BOARD",
    "00PERFORMING ARTS;00VIDEO GAME;00DIRECT HIT;00SLOT MACHINE;00BILLIARDS;00GAME DIE",
    "00BOWLING;00FLOWER PLAYING CARDS;00MUSICAL NOTE;02LTIPLE MUSICAL NOTES;00SAXOPHONE",
    "00GUITAR;00MUSICAL KEYBOARD;00TRUMPET;00VIOLIN;00MUSICAL SCORE;00RUNNING SHIRT WITH SASH",
    "00TENNIS RACQUET AND BALL;00SKI AND SKI BOOT;00BASKETBALL AND HOOP;00CHEQUERED FLAG",
    "00SNOWBOARDER;00RUNNER;00SURFER;01PORTS MEDAL;00TROPHY;00HORSE RACING",
    "00AMERICAN FOOTBALL;00RUGBY FOOTBALL;00SWIMMER;00WEIGHT LIFTER;00GOLFER",
    "00RACING MOTORCYCLE;07CAR;00CRICKET BAT AND BALL;00VOLLEYBALL",
    "00FIELD HOCKEY STICK AND BALL;00ICE HOCKEY STICK AND PUCK;00TABLE TENNIS PADDLE AND BALL",
    "00SNOW CAPPED MOUNTAIN;00CAMPING;00BEACH WITH UMBRELLA;01UILDING CONSTRUCTION",
    "00HOUSE BUILDINGS;00CITYSCAPE;00DERELICT HOUSE BUILDING;00CLASSICAL BUILDING;00DESERT",
    "06 ISLAND;00NATIONAL PARK;00STADIUM;00HOUSE BUILDING;06WITH GARDEN;00OFFICE BUILDING",
    "00JAPANESE POST OFFICE;00EUROPEAN POST OFFICE;00HOSPITAL;00BANK",
    "00AUTOMATED TELLER MACHINE;00HOTEL;00LOVE HOTEL;00CONVENIENCE STORE;00SCHOOL",
    "00DEPARTMENT STORE;00FACTORY;00IZAKAYA LANTERN;00JAPANESE CASTLE;00EUROPEAN CASTLE",
    "00WHITE PENNANT;00BLACK PENNANT;00WAVING WHITE FLAG;07BLACK FLAG;00ROSETTE",
    "00BLACK ROSETTE;00LABEL;00BADMINTON RACQUET AND SHUTTLECOCK;01OW AND ARROW;00AMPHORA",
    "00EMOJI MODIFIER FITZPATRICK TYPE-1-2;323;324;325;326;00RAT;00MOUSE;00OX;00WATER BUFFALO",
    "00COW;00TIGER;00LEOPARD;00RABBIT;00CAT;00DRAGON;00CROCODILE;00WHALE;00SNAIL;03KE;00HORSE",
    "00RAM;00GOAT;00SHEEP;00MONKEY;00ROOSTER;00CHICKEN;00DOG;00PIG;00BOAR;00ELEPHANT",
    "00OCTOPUS;00SPIRAL SHELL;00BUG;00ANT;00HONEYBEE;00LADY BEETLE;00FISH;00TROPICAL FISH",
    "00BLOWFISH;00TURTLE;00HATCHING CHICK;00BABY CHICK;00FRONT-FACING BABY CHICK;00BIRD",
    "00PENGUIN;00KOALA;00POODLE;00DROMEDARY CAMEL;00BACTRIAN CAMEL;00DOLPHIN;00MOUSE FACE",
    "00COW FACE;00TIGER FACE;00RABBIT FACE;00CAT FACE;00DRAGON FACE;00SPOUTING WHALE",
    "00HORSE FACE;00MONKEY FACE;00DOG FACE;00PIG FACE;00FROG FACE;00HAMSTER FACE;00WOLF FACE",
    "00BEAR FACE;00PANDA FACE;01IG NOSE;01AW PRINTS;00CHIPMUNK;00EYES;03;01AR;00NOSE;00MOUTH",
    "00TONGUE;00WHITE UP POINTING BACKHAND INDEX;06DOWN POINTING BACKHAND INDEX",
    "06LEFT POINTING BACKHAND INDEX;06RIGHT POINTING BACKHAND INDEX;00FISTED HAND SIGN",
    "00WAVING HAND SIGN;00OK HAND SIGN;00THUMBS UP SIGN;07DOWN SIGN;00CLAPPING HANDS SIGN",
    "00OPEN HANDS SIGN;00CROWN;00WOMANS HAT;00EYEGLASSES;00NECKTIE;00T-SHIRT;00JEANS;00DRESS",
    "00KIMONO;00BIKINI;00WOMANS CLOTHES;00PURSE;00HANDBAG;00POUCH;00MANS SHOE;00ATHLETIC SHOE",
    "00HIGH-HEELED SHOE;00WOMANS SANDAL;07BOOTS;00FOOTPRINTS;00BUST IN SILHOUETTE",
    "04S IN SILHOUETTE;01OY;00GIRL;00MAN;00WOMAN;00FAMILY;00MAN AND WOMAN HOLDING HANDS",
    "00TWO MEN HOLDING HANDS;04WOMEN HOLDING HANDS;00POLICE OFFICER;00WOMAN WITH BUNNY EARS",
    "00BRIDE WITH VEIL;00PERSON WITH BLOND HAIR;00MAN WITH GUA PI MAO;09TURBAN;00OLDER MAN",
    "06WOMAN;00BABY;00CONSTRUCTION WORKER;00PRINCESS;00JAPANESE OGRE;09GOBLIN;00GHOST",
    "00BABY ANGEL;00EXTRATERRESTRIAL ALIEN;00ALIEN MONSTER;00IMP;00SKULL",
    "00INFORMATION DESK PERSON;00GUARDSMAN;00DANCER;00LIPSTICK;00NAIL POLISH;00FACE MASSAGE",
    "00HAIRCUT;00BARBER POLE;00SYRINGE;00PILL;00KISS MARK;00LOVE LETTER;00RING;00GEM STONE",
    "00KISS;00BOUQUET;00COUPLE WITH HEART;00WEDDING;00BEATING HEART;01ROKEN HEART",
    "00TWO HEARTS;00SPARKLING HEART;00GROWING HEART;00HEART WITH ARROW;00BLUE HEART",
    "00GREEN HEART;00YELLOW HEART;00PURPLE HEART;00HEART WITH RIBBON;00REVOLVING HEARTS",
    "00HEART DECORATION;00DIAMOND SHAPE WITH A DOT INSIDE;00ELECTRIC LIGHT BULB",
    "00ANGER SYMBOL;00BOMB;00SLEEPING SYMBOL;00COLLISION SYMBOL;00SPLASHING SWEAT SYMBOL",
    "00DROPLET;01ASH SYMBOL;00PILE OF POO;00FLEXED BICEPS;00DIZZY SYMBOL;00SPEECH BALLOON",
    "00THOUGHT BALLOON;00WHITE FLOWER;00HUNDRED POINTS SYMBOL;00MONEY BAG;00CURRENCY EXCHANGE",
    "00HEAVY DOLLAR SIGN;00CREDIT CARD;00BANKNOTE WITH YEN SIGN;14DOLLAR SIGN;14EURO SIGN",
    "14POUND SIGN;00MONEY WITH WINGS;00CHART WITH UPWARDS TREND AND YEN SIGN;00SEAT",
    "00PERSONAL COMPUTER;00BRIEFCASE;00MINIDISC;00FLOPPY DISK;00OPTICAL DISC;00DVD",
    "00FILE FOLDER;00OPEN FILE FOLDER;00PAGE WITH CURL;05FACING UP;00CALENDAR",
    "00TEAR-OFF CALENDAR;00CARD INDEX;01HART WITH UPWARDS TREND;11DOWNWARDS TREND;00BAR CHART",
    "00CLIPBOARD;00PUSHPIN;00ROUND PUSHPIN;00PAPERCLIP;00STRAIGHT RULER;00TRIANGULAR RULER",
    "00BOOKMARK TABS;00LEDGER;00NOTEBOOK;08 WITH DECORATIVE COVER;00CLOSED BOOK;00OPEN BOOK",
    "00GREEN BOOK;00BLUE BOOK;00ORANGE BOOK;00BOOKS;00NAME BADGE;00SCROLL;00MEMO",
    "00TELEPHONE RECEIVER;00PAGER;00FAX MACHINE;00SATELLITE ANTENNA",
    "00PUBLIC ADDRESS LOUDSPEAKER;00CHEERING MEGAPHONE;00OUTBOX TRAY;00INBOX TRAY;00PACKAGE",
    "00E-MAIL SYMBOL;00INCOMING ENVELOPE;00ENVELOPE WITH DOWNWARDS ARROW ABOVE",
    "00CLOSED MAILBOX WITH LOWERED FLAG;20RAISED FLAG;00OPEN MAILBOX WITH RAISED FLAG",
    "18LOWERED FLAG;00POSTBOX;04AL HORN;00NEWSPAPER;00MOBILE PHONE",
    "12 WITH RIGHTWARDS ARROW AT LEFT;00VIBRATION MODE;00MOBILE PHONE OFF;00NO MOBILE PHONES",
    "00ANTENNA WITH BARS;00CAMERA;06 WITH FLASH;00VIDEO CAMERA;00TELEVISION;00RADIO",
    "00VIDEOCASSETTE;00FILM PROJECTOR;00PORTABLE STEREO;01RAYER BEADS",
    "00TWISTED RIGHTWARDS ARROWS;00CLOCKWISE RIGHTWARDS AND LEFTWARDS OPEN CIRCLE ARROWS",
    "53 WITH CIRCLED ONE OVERLAY;10DOWNWARDS AND UPWARDS OPEN CIRCLE ARROWS",
    "00ANTICLOCKWISE DOWNWARDS AND UPWARDS OPEN CIRCLE ARROWS;00LOW BRIGHTNESS SYMBOL",
    "00HIGH BRIGHTNESS SYMBOL;00SPEAKER WITH CANCELLATION STROKE;07;07 WITH ONE SOUND WAVE",
    "13THREE SOUND WAVES;00BATTERY;00ELECTRIC PLUG;00LEFT-POINTING MAGNIFYING GLASS",
    "00RIGHT-POINTING MAGNIFYING GLASS;00LOCK WITH INK PEN;00CLOSED LOCK WITH KEY;00KEY",
    "00LOCK;00OPEN LOCK;00BELL;04 WITH CANCELLATION STROKE;01OOKMARK;00LINK SYMBOL",
    "00RADIO BUTTON;00BACK WITH LEFTWARDS ARROW ABOVE;00END WITH LEFTWARDS ARROW ABOVE",
    "00ON WITH EXCLAMATION MARK WITH LEFT RIGHT ARROW ABOVE",
    "00SOON WITH RIGHTWARDS ARROW ABOVE;00TOP WITH UPWARDS ARROW ABOVE",
    "00NO ONE UNDER EIGHTEEN SYMBOL;00KEYCAP TEN;00INPUT SYMBOL FOR LATIN CAPITAL LETTERS",
    "23SMALL LETTERS;17NUMBERS;17SYMBOLS;17LATIN LETTERS;00FIRE;00ELECTRIC TORCH;00WRENCH",
    "00HAMMER;00NUT AND BOLT;00HOCHO;00PISTOL;00MICROSCOPE;00TELESCOPE;00CRYSTAL BALL",
    "00SIX POINTED STAR WITH MIDDLE DOT;00JAPANESE SYMBOL FOR BEGINNER;00TRIDENT EMBLEM",
    "00BLACK SQUARE BUTTON;00WHITE SQUARE BUTTON;00LARGE RED CIRCLE;06BLUE CIRCLE",
    "06ORANGE DIAMOND;06BLUE DIAMOND;00SMALL ORANGE DIAMOND;06BLUE DIAMOND",
    "00UP-POINTING RED TRIANGLE;00DOWN-POINTING RED TRIANGLE;00UP-POINTING SMALL RED TRIANGLE",
    "00DOWN-POINTING SMALL RED TRIANGLE;00LOWER RIGHT SHADOWED WHITE CIRCLE",
    "00UPPER RIGHT SHADOWED WHITE CIRCLE;00CIRCLED CROSS POMMEE",
    "01ROSS POMMEE WITH HALF-CIRCLE BELOW;12;00NOTCHED LEFT SEMICIRCLE WITH THREE DOTS",
    "08RIGHT SEMICIRCLE WITH THREE DOTS;00SYMBOL FOR MARKS CHAPTER;00WHITE LATIN CROSS",
    "00HEAVY LATIN CROSS;00CELTIC CROSS;00OM SYMBOL;00DOVE OF PEACE;00KAABA;00MOSQUE",
    "00SYNAGOGUE;00MENORAH WITH NINE BRANCHES;00BOWL OF HYGIEIA;00CLOCK FACE ONE OCLOCK",
    "11TWO OCLOCK;12HREE OCLOCK;11FOUR OCLOCK;12IVE OCLOCK;11SIX OCLOCK;12EVEN OCLOCK",
    "11EIGHT OCLOCK;11NINE OCLOCK;11TEN OCLOCK;11ELEVEN OCLOCK;11TWELVE OCLOCK;11ONE-THIRTY",
    "11TWO-THIRTY;12HREE-THIRTY;11FOUR-THIRTY;12IVE-THIRTY;11SIX-THIRTY;12EVEN-THIRTY",
    "11EIGHT-THIRTY;11NINE-THIRTY;11TEN-THIRTY;11ELEVEN-THIRTY;11TWELVE-THIRTY",
    "00RIGHT SPEAKER;13 WITH ONE SOUND WAVE;19THREE SOUND WAVES;00BULLHORN",
    "08 WITH SOUND WAVES;00RINGING BELL;00BOOK;00CANDLE;00MANTELPIECE CLOCK",
    "00BLACK SKULL AND CROSSBONES;00NO PIRACY;00HOLE;00MAN IN BUSINESS SUIT LEVITATING",
    "00SLEUTH OR SPY;00DARK SUNGLASSES;00SPIDER;06 WEB;00JOYSTICK;00MAN DANCING",
    "00LEFT HAND TELEPHONE RECEIVER;00TELEPHONE RECEIVER WITH PAGE",
    "00RIGHT HAND TELEPHONE RECEIVER;00WHITE TOUCHTONE TELEPHONE;00BLACK TOUCHTONE TELEPHONE",
    "00TELEPHONE ON TOP OF MODEM;00CLAMSHELL MOBILE PHONE;00BACK OF ENVELOPE",
    "00STAMPED ENVELOPE;00ENVELOPE WITH LIGHTNING;00FLYING ENVELOPE",
    "00PEN OVER STAMPED ENVELOPE;00LINKED PAPERCLIPS;00BLACK PUSHPIN;00LOWER LEFT PENCIL",
    "11BALLPOINT PEN;11FOUNTAIN PEN;11PAINTBRUSH;11CRAYON;01EFT WRITING HAND",
    "00TURNED OK HAND SIGN;00RAISED HAND WITH FINGERS SPLAYED",
    "01EVERSED RAISED HAND WITH FINGERS SPLAYED;09THUMBS UP SIGN;16DOWN SIGN;09VICTORY HAND",
    "09HAND WITH MIDDLE FINGER EXTENDED",
    "01AISED HAND WITH PART BETWEEN MIDDLE AND RING FINGERS",
    "00WHITE DOWN POINTING LEFT HAND INDEX;00SIDEWAYS WHITE LEFT POINTING INDEX",
    "15RIGHT POINTING INDEX;09BLACK LEFT POINTING INDEX;15RIGHT POINTING INDEX",
    "00BLACK LEFT POINTING BACKHAND INDEX;06RIGHT POINTING BACKHAND INDEX",
    "00SIDEWAYS WHITE UP POINTING INDEX;15DOWN POINTING INDEX;09BLACK UP POINTING INDEX",
    "15DOWN POINTING INDEX;00BLACK UP POINTING BACKHAND INDEX;06DOWN POINTING BACKHAND INDEX",
    "06HEART;00DESKTOP COMPUTER;00KEYBOARD AND MOUSE;00THREE NETWORKED COMPUTERS;00PRINTER",
    "01OCKET CALCULATOR;00BLACK HARD SHELL FLOPPY DISK;00WHITE HARD SHELL FLOPPY DISK",
    "00SOFT SHELL FLOPPY DISK;00TAPE CARTRIDGE;00WIRED KEYBOARD;00ONE BUTTON MOUSE",
    "00TWO BUTTON MOUSE;01HREE BUTTON MOUSE;01RACKBALL;00OLD PERSONAL COMPUTER;00HARD DISK",
    "00SCREEN;00PRINTER ICON;00FAX ICON;00OPTICAL DISC ICON;00DOCUMENT WITH TEXT",
    "18 AND PICTURE;14PICTURE;00FRAME WITH PICTURE;11TILES;11AN X;00BLACK FOLDER;00FOLDER",
    "00OPEN FOLDER;00CARD INDEX DIVIDERS;05FILE BOX;00FILE CABINET;00EMPTY NOTE;10 PAGE;13D",
    "00NOTE;04 PAGE;07D;00EMPTY DOCUMENT;06PAGE;10S;00DOCUMENT;00PAGE;04S;00WASTEBASKET",
    "00SPIRAL NOTE PAD;07CALENDAR PAD;00DESKTOP WINDOW;00MINIMIZE;01AXIMIZE;00OVERLAP",
    "00CLOCKWISE RIGHT AND LEFT SEMICIRCLE ARROWS;01ANCELLATION X;00INCREASE FONT SIZE SYMBOL",
    "00DECREASE FONT SIZE SYMBOL;00COMPRESSION;00OLD KEY;00ROLLED-UP NEWSPAPER",
    "00PAGE WITH CIRCLED TEXT;00STOCK CHART;00DAGGER KNIFE;00LIPS",
    "00SPEAKING HEAD IN SILHOUETTE;00THREE RAYS ABOVE;11BELOW;11LEFT;11RIGHT",
    "00LEFT SPEECH BUBBLE;00RIGHT SPEECH BUBBLE;00TWO SPEECH BUBBLES;01HREE SPEECH BUBBLES",
    "00LEFT THOUGHT BUBBLE;00RIGHT THOUGHT BUBBLE;00LEFT ANGER BUBBLE;00RIGHT ANGER BUBBLE",
    "00MOOD BUBBLE;00LIGHTNING MOOD BUBBLE;14;00BALLOT BOX WITH BALLOT;07SCRIPT X",
    "07BOX WITH SCRIPT X;09LD SCRIPT X;09X WITH BOLD SCRIPT X;00LIGHT CHECK MARK",
    "00BALLOT BOX WITH BOLD CHECK;00WORLD MAP;00MOUNT FUJI;00TOKYO TOWER;00STATUE OF LIBERTY",
    "01ILHOUETTE OF JAPAN;00MOYAI;00GRINNING FACE;13 WITH SMILING EYES",
    "00FACE WITH TEARS OF JOY;00SMILING FACE WITH OPEN MOUTH;28 AND SMILING EYES;33COLD SWEAT",
    "33TIGHTLY-CLOSED EYES;18HALO;19ORNS;00WINKING FACE;00SMILING FACE WITH SMILING EYES",
    "00FACE SAVOURING DELICIOUS FOOD;00RELIEVED FACE;00SMILING FACE WITH HEART-SHAPED EYES",
    "18SUNGLASSES;03RKING FACE;00NEUTRAL FACE;00EXPRESSIONLESS FACE;00UNAMUSED FACE",
    "00FACE WITH COLD SWEAT;00PENSIVE FACE;00CONFUSED FACE;04OUNDED FACE;00KISSING FACE",
    "00FACE THROWING A KISS;00KISSING FACE WITH SMILING EYES;18CLOSED EYES",
    "00FACE WITH STUCK-OUT TONGUE;26 AND WINKING EYE;31TIGHTLY-CLOSED EYES",
    "00DISAPPOINTED FACE;00WORRIED FACE;00ANGRY FACE;00POUTING FACE;00CRYING FACE",
    "00PERSEVERING FACE;00FACE WITH LOOK OF TRIUMPH;00DISAPPOINTED BUT RELIEVED FACE",
    "00FROWNING FACE WITH OPEN MOUTH;00ANGUISHED FACE;00FEARFUL FACE;00WEARY FACE",
    "00SLEEPY FACE;00TIRED FACE;00GRIMACING FACE;00LOUDLY CRYING FACE;00FACE WITH OPEN MOUTH",
    "00HUSHED FACE;00FACE WITH OPEN MOUTH AND COLD SWEAT;05SCREAMING IN FEAR",
    "00ASTONISHED FACE;00FLUSHED FACE;00SLEEPING FACE;00DIZZY FACE;00FACE WITHOUT MOUTH",
    "09 MEDICAL MASK;00GRINNING CAT FACE WITH SMILING EYES;00CAT FACE WITH TEARS OF JOY",
    "00SMILING CAT FACE WITH OPEN MOUTH;22HEART-SHAPED EYES;00CAT FACE WITH WRY SMILE",
    "00KISSING CAT FACE WITH CLOSED EYES;00POUTING CAT FACE;00CRYING CAT FACE",
    "00WEARY CAT FACE;00SLIGHTLY FROWNING FACE;09SMILING FACE;00UPSIDE-DOWN FACE",
    "00FACE WITH ROLLING EYES;10NO GOOD GESTURE;10OK GESTURE;00PERSON BOWING DEEPLY",
    "00SEE-NO-EVIL MONKEY;00HEAR-NO-EVIL MONKEY;00SPEAK-NO-EVIL MONKEY",
    "00HAPPY PERSON RAISING ONE HAND;00PERSON RAISING BOTH HANDS IN CELEBRATION;07FROWNING",
    "07WITH POUTING FACE;12FOLDED HANDS;00NORTH WEST POINTING LEAF;00SOUTH WEST POINTING LEAF",
    "00NORTH EAST POINTING LEAF;00SOUTH EAST POINTING LEAF;00TURNED NORTH WEST POINTING LEAF",
    "07SOUTH WEST POINTING LEAF;07NORTH EAST POINTING LEAF;07SOUTH EAST POINTING LEAF",
    "00NORTH WEST POINTING VINE LEAF;00SOUTH WEST POINTING VINE LEAF",
    "00NORTH EAST POINTING VINE LEAF;00SOUTH EAST POINTING VINE LEAF",
    "00HEAVY NORTH WEST POINTING VINE LEAF;06SOUTH WEST POINTING VINE LEAF",
    "06NORTH EAST POINTING VINE LEAF;06SOUTH EAST POINTING VINE LEAF",
    "00NORTH WEST POINTING BUD;00SOUTH WEST POINTING BUD;00NORTH EAST POINTING BUD",
    "00SOUTH EAST POINTING BUD;00HEAVY NORTH WEST POINTING BUD;06SOUTH WEST POINTING BUD",
    "06NORTH EAST POINTING BUD;06SOUTH EAST POINTING BUD;01OLLOW QUILT SQUARE ORNAMENT",
    "28 IN BLACK SQUARE;00SOLID QUILT SQUARE ORNAMENT;27 IN BLACK SQUARE;00LEFTWARDS ROCKET",
    "00UPWARDS ROCKET;00RIGHTWARDS ROCKET;00DOWNWARDS ROCKET;00SCRIPT LIGATURE ET ORNAMENT",
    "00HEAVY SCRIPT LIGATURE ET ORNAMENT;00LIGATURE OPEN ET ORNAMENT",
    "00HEAVY LIGATURE OPEN ET ORNAMENT;06AMPERSAND ORNAMENT;00SWASH AMPERSAND ORNAMENT",
    "01ANS-SERIF HEAVY DOUBLE TURNED COMMA QUOTATION MARK ORNAMENT",
    "24COMMA QUOTATION MARK ORNAMENT;17LOW DOUBLE COMMA QUOTATION MARK ORNAMENT",
    "00HEAVY INTERROBANG ORNAMENT;00SANS-SERIF INTERROBANG ORNAMENT",
    "00HEAVY SANS-SERIF INTERROBANG ORNAMENT;00VERY HEAVY SOLIDUS;11REVERSE SOLIDUS",
    "00CHECKER BOARD;00REVERSE CHECKER BOARD;01OCKET;00HELICOPTER;00STEAM LOCOMOTIVE",
    "00RAILWAY CAR;00HIGH-SPEED TRAIN;16 WITH BULLET NOSE;00TRAIN;00METRO;00LIGHT RAIL",
    "00STATION;00TRAM;04 CAR;00BUS;00ONCOMING BUS;00TROLLEYBUS;00BUS STOP;00MINIBUS",
    "00AMBULANCE;00FIRE ENGINE;00POLICE CAR;00ONCOMING POLICE CAR;00TAXI;00ONCOMING TAXI",
    "00AUTOMOBILE;00ONCOMING AUTOMOBILE;00RECREATIONAL VEHICLE;00DELIVERY TRUCK",
    "00ARTICULATED LORRY;00TRACTOR;00MONORAIL;02UNTAIN RAILWAY;00SUSPENSION RAILWAY",
    "00MOUNTAIN CABLEWAY;00AERIAL TRAMWAY;00SHIP;00ROWBOAT;00SPEEDBOAT",
    "00HORIZONTAL TRAFFIC LIGHT;00VERTICAL TRAFFIC LIGHT;00CONSTRUCTION SIGN",
    "00POLICE CARS REVOLVING LIGHT;00TRIANGULAR FLAG ON POST;00DOOR;00NO ENTRY SIGN",
    "00SMOKING SYMBOL;00NO SMOKING SYMBOL;00PUT LITTER IN ITS PLACE SYMBOL",
    "00DO NOT LITTER SYMBOL;00POTABLE WATER SYMBOL;00NON-POTABLE WATER SYMBOL;00BICYCLE",
    "00NO BICYCLES;00BICYCLIST;00MOUNTAIN BICYCLIST;00PEDESTRIAN;00NO PEDESTRIANS",
    "00CHILDREN CROSSING;00MENS SYMBOL;00WOMENS SYMBOL;00RESTROOM;00BABY SYMBOL;00TOILET",
    "00WATER CLOSET;00SHOWER;00BATH;04TUB;00PASSPORT CONTROL;00CUSTOMS;00BAGGAGE CLAIM",
    "00LEFT LUGGAGE;00TRIANGLE WITH ROUNDED CORNERS;00PROHIBITED SIGN",
    "00CIRCLED INFORMATION SOURCE;00BOYS SYMBOL;00GIRLS SYMBOL;00COUCH AND LAMP",
    "00SLEEPING ACCOMMODATION;01HOPPING BAGS;00BELLHOP BELL;02D;00PLACE OF WORSHIP",
    "00OCTAGONAL SIGN;00SHOPPING TROLLEY;01TUPA;00PAGODA;00HINDU TEMPLE;01UT;00ELEVATOR;+5",
    "00PLAYGROUND SLIDE;00WHEEL;00RING BUOY;00HAMMER AND WRENCH;00SHIELD;00OIL DRUM",
    "00MOTORWAY;00RAILWAY TRACK;00MOTOR BOAT;00UP-POINTING MILITARY AIRPLANE;12AIRPLANE",
    "12SMALL AIRPLANE;00SMALL AIRPLANE;00NORTHEAST-POINTING AIRPLANE;00AIRPLANE DEPARTURE",
    "09ARRIVING;+3;00SATELLITE;00ONCOMING FIRE ENGINE;00DIESEL LOCOMOTIVE;00PASSENGER SHIP",
    "00SCOOTER;00MOTOR SCOOTER;00CANOE;00SLED;00FLYING SAUCER;00SKATEBOARD;00AUTO RICKSHAW",
    "00PICKUP TRUCK;00ROLLER SKATE;+3;00ALCHEMICAL SYMBOL FOR QUINTESSENCE;22AIR;22FIRE",
    "22EARTH;22WATER;22AQUAFORTIS;26 REGIA;32-2;27VITAE;32-2;22VINEGAR;29-2;303;22SULFUR",
    "22PHILOSOPHERS SULFUR;22BLACK SULFUR;22MERCURY SUBLIMATE;39-2;403;22CINNABAR;22SALT",
    "22NITRE;22VITRIOL;29-2;22ROCK SALT;31-2;22GOLD;22SILVER;22IRON ORE;30-2;22CROCUS OF IRON",
    "22REGULUS OF IRON;22COPPER ORE;22IRON-COPPER ORE;22SUBLIMATE OF COPPER",
    "22CROCUS OF COPPER;38-2;23OPPER ANTIMONIATE;22SALT OF COPPER ANTIMONIATE",
    "23UBLIMATE OF SALT OF COPPER;22VERDIGRIS;22TIN ORE;22LEAD ORE;22ANTIMONY ORE",
    "22SUBLIMATE OF ANTIMONY;23ALT OF ANTIMONY;23UBLIMATE OF SALT OF ANTIMONY",
    "22VINEGAR OF ANTIMONY;22REGULUS OF ANTIMONY;41-2;29;29-2;303;304;22ALKALI;28-2",
    "22MARCASITE;22SAL-AMMONIAC;22ARSENIC;22REALGAR;29-2;22AURIPIGMENT;22BISMUTH ORE;22TARTAR",
    "28-2;22QUICK LIME;22BORAX;27-2;283;22ALUM;22OIL;22SPIRIT;22TINCTURE;22GUM;22WAX;22POWDER",
    "22CALX;22TUTTY;22CAPUT MORTUUM;22SCEPTER OF JOVE;22CADUCEUS;22TRIDENT;22STARRED TRIDENT",
    "22LODESTONE;22SOAP;22URINE;22HORSE DUNG;22ASHES;22POT ASHES;22BRICK;22POWDERED BRICK",
    "22AMALGAM;22STRATUM SUPER STRATUM;43-2;23UBLIMATION;22PRECIPITATE;22DISTILL;25SOLVE;30-2",
    "22PURIFY;24TREFACTION;22CRUCIBLE;30-2;313;314;315;22ALEMBIC;22BATH OF MARY;30VAPOURS",
    "22RETORT;22HOUR;22NIGHT;22DAY-NIGHT;22MONTH;22HALF DRAM;27OUNCE;+C",
    "00BLACK LEFT-POINTING ISOSCELES RIGHT TRIANGLE;06UP-POINTING ISOSCELES RIGHT TRIANGLE",
    "06RIGHT-POINTING ISOSCELES RIGHT TRIANGLE;06DOWN-POINTING ISOSCELES RIGHT TRIANGLE",
    "06SLIGHTLY SMALL CIRCLE;00MEDIUM BOLD WHITE CIRCLE;00BOLD WHITE CIRCLE",
    "00HEAVY WHITE CIRCLE;00VERY HEAVY WHITE CIRCLE;00EXTREMELY HEAVY WHITE CIRCLE",
    "00WHITE CIRCLE CONTAINING BLACK SMALL CIRCLE;00ROUND TARGET;00BLACK TINY SQUARE",
    "06SLIGHTLY SMALL SQUARE;00LIGHT WHITE SQUARE;00MEDIUM WHITE SQUARE;00BOLD WHITE SQUARE",
    "00HEAVY WHITE SQUARE;00VERY HEAVY WHITE SQUARE;00EXTREMELY HEAVY WHITE SQUARE",
    "00WHITE SQUARE CONTAINING BLACK VERY SMALL SQUARE;30MEDIUM SQUARE;00SQUARE TARGET",
    "00BLACK TINY DIAMOND;06VERY SMALL DIAMOND;06MEDIUM SMALL DIAMOND",
    "00WHITE DIAMOND CONTAINING BLACK VERY SMALL DIAMOND;31MEDIUM DIAMOND;00DIAMOND TARGET",
    "00BLACK TINY LOZENGE;06VERY SMALL LOZENGE;06MEDIUM SMALL LOZENGE",
    "00WHITE LOZENGE CONTAINING BLACK SMALL LOZENGE;00THIN GREEK CROSS;00LIGHT GREEK CROSS",
    "00MEDIUM GREEK CROSS;00BOLD GREEK CROSS;00VERY BOLD GREEK CROSS;05HEAVY GREEK CROSS",
    "00EXTREMELY HEAVY GREEK CROSS;00THIN SALTIRE;00LIGHT SALTIRE;00MEDIUM SALTIRE",
    "00BOLD SALTIRE;00HEAVY SALTIRE;00VERY HEAVY SALTIRE;00EXTREMELY HEAVY SALTIRE",
    "00LIGHT FIVE SPOKED ASTERISK;00MEDIUM FIVE SPOKED ASTERISK;00BOLD FIVE SPOKED ASTERISK",
    "00HEAVY FIVE SPOKED ASTERISK;00VERY HEAVY FIVE SPOKED ASTERISK",
    "00EXTREMELY HEAVY FIVE SPOKED ASTERISK;00LIGHT SIX SPOKED ASTERISK",
    "00MEDIUM SIX SPOKED ASTERISK;00BOLD SIX SPOKED ASTERISK;00HEAVY SIX SPOKED ASTERISK",
    "00VERY HEAVY SIX SPOKED ASTERISK;00EXTREMELY HEAVY SIX SPOKED ASTERISK",
    "00LIGHT EIGHT SPOKED ASTERISK;00MEDIUM EIGHT SPOKED ASTERISK",
    "00BOLD EIGHT SPOKED ASTERISK;00HEAVY EIGHT SPOKED ASTERISK",
    "00VERY HEAVY EIGHT SPOKED ASTERISK;00LIGHT THREE POINTED BLACK STAR",
    "00MEDIUM THREE POINTED BLACK STAR;00THREE POINTED BLACK STAR",
    "00MEDIUM THREE POINTED PINWHEEL STAR;00LIGHT FOUR POINTED BLACK STAR",
    "00MEDIUM FOUR POINTED BLACK STAR;00FOUR POINTED BLACK STAR",
    "00MEDIUM FOUR POINTED PINWHEEL STAR;00REVERSE LIGHT FOUR POINTED PINWHEEL STAR",
    "00LIGHT FIVE POINTED BLACK STAR;00HEAVY FIVE POINTED BLACK STAR",
    "00MEDIUM SIX POINTED BLACK STAR;00HEAVY SIX POINTED BLACK STAR",
    "00SIX POINTED PINWHEEL STAR;00MEDIUM EIGHT POINTED BLACK STAR",
    "00HEAVY EIGHT POINTED BLACK STAR;00VERY HEAVY EIGHT POINTED BLACK STAR",
    "00HEAVY EIGHT POINTED PINWHEEL STAR;00LIGHT TWELVE POINTED BLACK STAR",
    "00HEAVY TWELVE POINTED BLACK STAR;21PINWHEEL STAR;00CIRCLED TRIANGLE",
    "00NEGATIVE CIRCLED TRIANGLE;00CIRCLED SQUARE;00NEGATIVE CIRCLED SQUARE;+7",
    "00LARGE ORANGE CIRCLE;06YELLOW CIRCLE;06GREEN CIRCLE;06PURPLE CIRCLE;06BROWN CIRCLE",
    "06RED SQUARE;06BLUE SQUARE;06ORANGE SQUARE;06YELLOW SQUARE;06GREEN SQUARE",
    "06PURPLE SQUARE;06BROWN SQUARE;+4;00HEAVY EQUALS SIGN;+F",
    "00LEFTWARDS ARROW WITH SMALL TRIANGLE ARROWHEAD",
    "00UPWARDS ARROW WITH SMALL TRIANGLE ARROWHEAD",
    "00RIGHTWARDS ARROW WITH SMALL TRIANGLE ARROWHEAD",
    "00DOWNWARDS ARROW WITH SMALL TRIANGLE ARROWHEAD",
    "00LEFTWARDS ARROW WITH MEDIUM TRIANGLE ARROWHEAD",
    "00UPWARDS ARROW WITH MEDIUM TRIANGLE ARROWHEAD",
    "00RIGHTWARDS ARROW WITH MEDIUM TRIANGLE ARROWHEAD",
    "00DOWNWARDS ARROW WITH MEDIUM TRIANGLE ARROWHEAD",
    "00LEFTWARDS ARROW WITH LARGE TRIANGLE ARROWHEAD",
    "00UPWARDS ARROW WITH LARGE TRIANGLE ARROWHEAD",
    "00RIGHTWARDS ARROW WITH LARGE TRIANGLE ARROWHEAD",
    "00DOWNWARDS ARROW WITH LARGE TRIANGLE ARROWHEAD;+4",
    "00LEFTWARDS ARROW WITH SMALL EQUILATERAL ARROWHEAD",
    "00UPWARDS ARROW WITH SMALL EQUILATERAL ARROWHEAD",
    "00RIGHTWARDS ARROW WITH SMALL EQUILATERAL ARROWHEAD",
    "00DOWNWARDS ARROW WITH SMALL EQUILATERAL ARROWHEAD",
    "00LEFTWARDS ARROW WITH EQUILATERAL ARROWHEAD;00UPWARDS ARROW WITH EQUILATERAL ARROWHEAD",
    "00RIGHTWARDS ARROW WITH EQUILATERAL ARROWHEAD",
    "00DOWNWARDS ARROW WITH EQUILATERAL ARROWHEAD",
    "00HEAVY LEFTWARDS ARROW WITH EQUILATERAL ARROWHEAD",
    "06UPWARDS ARROW WITH EQUILATERAL ARROWHEAD;06RIGHTWARDS ARROW WITH EQUILATERAL ARROWHEAD",
    "06DOWNWARDS ARROW WITH EQUILATERAL ARROWHEAD",
    "06LEFTWARDS ARROW WITH LARGE EQUILATERAL ARROWHEAD",
    "06UPWARDS ARROW WITH LARGE EQUILATERAL ARROWHEAD",
    "06RIGHTWARDS ARROW WITH LARGE EQUILATERAL ARROWHEAD",
    "06DOWNWARDS ARROW WITH LARGE EQUILATERAL ARROWHEAD",
    "00LEFTWARDS TRIANGLE-HEADED ARROW WITH NARROW SHAFT",
    "00UPWARDS TRIANGLE-HEADED ARROW WITH NARROW SHAFT",
    "00RIGHTWARDS TRIANGLE-HEADED ARROW WITH NARROW SHAFT",
    "00DOWNWARDS TRIANGLE-HEADED ARROW WITH NARROW SHAFT",
    "00LEFTWARDS TRIANGLE-HEADED ARROW WITH MEDIUM SHAFT",
    "00UPWARDS TRIANGLE-HEADED ARROW WITH MEDIUM SHAFT",
    "00RIGHTWARDS TRIANGLE-HEADED ARROW WITH MEDIUM SHAFT",
    "00DOWNWARDS TRIANGLE-HEADED ARROW WITH MEDIUM SHAFT",
    "00LEFTWARDS TRIANGLE-HEADED ARROW WITH BOLD SHAFT",
    "00UPWARDS TRIANGLE-HEADED ARROW WITH BOLD SHAFT",
    "00RIGHTWARDS TRIANGLE-HEADED ARROW WITH BOLD SHAFT",
    "00DOWNWARDS TRIANGLE-HEADED ARROW WITH BOLD SHAFT",
    "00LEFTWARDS TRIANGLE-HEADED ARROW WITH HEAVY SHAFT",
    "00UPWARDS TRIANGLE-HEADED ARROW WITH HEAVY SHAFT",
    "00RIGHTWARDS TRIANGLE-HEADED ARROW WITH HEAVY SHAFT",
    "00DOWNWARDS TRIANGLE-HEADED ARROW WITH HEAVY SHAFT",
    "00LEFTWARDS TRIANGLE-HEADED ARROW WITH VERY HEAVY SHAFT",
    "00UPWARDS TRIANGLE-HEADED ARROW WITH VERY HEAVY SHAFT",
    "00RIGHTWARDS TRIANGLE-HEADED ARROW WITH VERY HEAVY SHAFT",
    "00DOWNWARDS TRIANGLE-HEADED ARROW WITH VERY HEAVY SHAFT;00LEFTWARDS FINGER-POST ARROW",
    "00UPWARDS FINGER-POST ARROW;00RIGHTWARDS FINGER-POST ARROW;00DOWNWARDS FINGER-POST ARROW",
    "00LEFTWARDS SQUARED ARROW;00UPWARDS SQUARED ARROW;00RIGHTWARDS SQUARED ARROW",
    "00DOWNWARDS SQUARED ARROW;00LEFTWARDS COMPRESSED ARROW;00UPWARDS COMPRESSED ARROW",
    "00RIGHTWARDS COMPRESSED ARROW;00DOWNWARDS COMPRESSED ARROW",
    "00LEFTWARDS HEAVY COMPRESSED ARROW;00UPWARDS HEAVY COMPRESSED ARROW",
    "00RIGHTWARDS HEAVY COMPRESSED ARROW;00DOWNWARDS HEAVY COMPRESSED ARROW",
    "00LEFTWARDS HEAVY ARROW;00UPWARDS HEAVY ARROW;00RIGHTWARDS HEAVY ARROW",
    "00DOWNWARDS HEAVY ARROW;+8;00LEFTWARDS SANS-SERIF ARROW;00UPWARDS SANS-SERIF ARROW",
    "00RIGHTWARDS SANS-SERIF ARROW;00DOWNWARDS SANS-SERIF ARROW;00NORTH WEST SANS-SERIF ARROW",
    "06EAST SANS-SERIF ARROW;00SOUTH EAST SANS-SERIF ARROW;06WEST SANS-SERIF ARROW",
    "00LEFT RIGHT SANS-SERIF ARROW;00UP DOWN SANS-SERIF ARROW;+6",
    "00WIDE-HEADED LEFTWARDS LIGHT BARB ARROW;12UPWARDS LIGHT BARB ARROW",
    "12RIGHTWARDS LIGHT BARB ARROW;12DOWNWARDS LIGHT BARB ARROW;12NORTH WEST LIGHT BARB ARROW",
    "18EAST LIGHT BARB ARROW;12SOUTH EAST LIGHT BARB ARROW;18WEST LIGHT BARB ARROW",
    "12LEFTWARDS BARB ARROW;12UPWARDS BARB ARROW;12RIGHTWARDS BARB ARROW",
    "12DOWNWARDS BARB ARROW;12NORTH WEST BARB ARROW;18EAST BARB ARROW;12SOUTH EAST BARB ARROW",
    "18WEST BARB ARROW;12LEFTWARDS MEDIUM BARB ARROW;12UPWARDS MEDIUM BARB ARROW",
    "12RIGHTWARDS MEDIUM BARB ARROW;12DOWNWARDS MEDIUM BARB ARROW",
    "12NORTH WEST MEDIUM BARB ARROW;18EAST MEDIUM BARB ARROW;12SOUTH EAST MEDIUM BARB ARROW",
    "18WEST MEDIUM BARB ARROW;12LEFTWARDS HEAVY BARB ARROW;12UPWARDS HEAVY BARB ARROW",
    "12RIGHTWARDS HEAVY BARB ARROW;12DOWNWARDS HEAVY BARB ARROW;12NORTH WEST HEAVY BARB ARROW",
    "18EAST HEAVY BARB ARROW;12SOUTH EAST HEAVY BARB ARROW;18WEST HEAVY BARB ARROW",
    "12LEFTWARDS VERY HEAVY BARB ARROW;12UPWARDS VERY HEAVY BARB ARROW",
    "12RIGHTWARDS VERY HEAVY BARB ARROW;12DOWNWARDS VERY HEAVY BARB ARROW",
    "12NORTH WEST VERY HEAVY BARB ARROW;18EAST VERY HEAVY BARB ARROW",
    "12SOUTH EAST VERY HEAVY BARB ARROW;18WEST VERY HEAVY BARB ARROW;+8",
    "00LEFTWARDS TRIANGLE ARROWHEAD;00UPWARDS TRIANGLE ARROWHEAD",
    "00RIGHTWARDS TRIANGLE ARROWHEAD;00DOWNWARDS TRIANGLE ARROWHEAD",
    "00LEFTWARDS WHITE ARROW WITHIN TRIANGLE ARROWHEAD",
    "00UPWARDS WHITE ARROW WITHIN TRIANGLE ARROWHEAD",
    "00RIGHTWARDS WHITE ARROW WITHIN TRIANGLE ARROWHEAD",
    "00DOWNWARDS WHITE ARROW WITHIN TRIANGLE ARROWHEAD;00LEFTWARDS ARROW WITH NOTCHED TAIL",
    "00UPWARDS ARROW WITH NOTCHED TAIL;00RIGHTWARDS ARROW WITH NOTCHED TAIL",
    "00DOWNWARDS ARROW WITH NOTCHED TAIL;00HEAVY ARROW SHAFT WIDTH ONE;24TWO THIRDS",
    "24ONE HALF;28THIRD;00LEFTWARDS BOTTOM-SHADED WHITE ARROW",
    "00RIGHTWARDS BOTTOM SHADED WHITE ARROW;00LEFTWARDS TOP SHADED WHITE ARROW",
    "00RIGHTWARDS TOP SHADED WHITE ARROW;00LEFTWARDS LEFT-SHADED WHITE ARROW",
    "00RIGHTWARDS RIGHT-SHADED WHITE ARROW;00LEFTWARDS RIGHT-SHADED WHITE ARROW",
    "00RIGHTWARDS LEFT-SHADED WHITE ARROW;00LEFTWARDS BACK-TILTED SHADOWED WHITE ARROW",
    "00RIGHTWARDS BACK-TILTED SHADOWED WHITE ARROW",
    "00LEFTWARDS FRONT-TILTED SHADOWED WHITE ARROW",
    "00RIGHTWARDS FRONT-TILTED SHADOWED WHITE ARROW;00WHITE ARROW SHAFT WIDTH ONE",
    "24TWO THIRDS;+2;00ARROW POINTING UPWARDS THEN NORTH WEST",
    "15RIGHTWARDS THEN CURVING SOUTH WEST;+4E;00CIRCLED CROSS FORMEE WITH FOUR DOTS",
    "26TWO DOTS;20;00LEFT HALF CIRCLE WITH FOUR DOTS;22THREE DOTS;23WO DOTS;22DOT;16",
    "00DOWNWARD FACING HOOK;16NOTCHED HOOK;16HOOK WITH DOT;16NOTCHED HOOK WITH DOT",
    "00PINCHED FINGERS;00WHITE HEART;00BROWN HEART;00PINCHING HAND;00ZIPPER-MOUTH FACE",
    "00MONEY-MOUTH FACE;00FACE WITH THERMOMETER;00NERD FACE;00THINKING FACE",
    "00FACE WITH HEAD-BANDAGE;00ROBOT FACE;00HUGGING FACE;00SIGN OF THE HORNS;00CALL ME HAND",
    "00RAISED BACK OF HAND;00LEFT-FACING FIST;00RIGHT-FACING FIST;00HANDSHAKE",
    "04 WITH INDEX AND MIDDLE FINGERS CROSSED;00I LOVE YOU HAND SIGN;00FACE WITH COWBOY HAT",
    "00CLOWN FACE;00NAUSEATED FACE;00ROLLING ON THE FLOOR LAUGHING;00DROOLING FACE",
    "00LYING FACE;00FACE PALM;00SNEEZING FACE;00FACE WITH ONE EYEBROW RAISED",
    "00GRINNING FACE WITH STAR EYES;19ONE LARGE AND ONE SMALL EYE",
    "00FACE WITH FINGER COVERING CLOSED LIPS;00SERIOUS FACE WITH SYMBOLS COVERING MOUTH",
    "01MILING FACE WITH SMILING EYES AND HAND COVERING MOUTH;00FACE WITH OPEN MOUTH VOMITING",
    "00SHOCKED FACE WITH EXPLODING HEAD;00PREGNANT WOMAN;00BREAST-FEEDING;00PALMS UP TOGETHER",
    "00SELFIE;00PRINCE;00MAN IN TUXEDO;01OTHER CHRISTMAS;00SHRUG;00PERSON DOING CARTWHEEL",
    "00JUGGLING;00FENCER;00MODERN PENTATHLON;00WRESTLERS;01ATER POLO;00HANDBALL;00DIVING MASK",
    "00WILTED FLOWER;00DRUM WITH DRUMSTICKS;00CLINKING GLASSES;00TUMBLER GLASS;00SPOON",
    "00GOAL NET;00RIFLE;00FIRST PLACE MEDAL;00SECOND PLACE MEDAL;00THIRD PLACE MEDAL",
    "00BOXING GLOVE;00MARTIAL ARTS UNIFORM;00CURLING STONE;00LACROSSE STICK AND BALL",
    "00SOFTBALL;00FLYING DISC;00CROISSANT;00AVOCADO;00CUCUMBER;00BACON;00POTATO;00CARROT",
    "00BAGUETTE BREAD;00GREEN SALAD;00SHALLOW PAN OF FOOD;01TUFFED FLATBREAD;00EGG",
    "00GLASS OF MILK;00PEANUTS;00KIWIFRUIT;00PANCAKES;00DUMPLING;00FORTUNE COOKIE",
    "00TAKEOUT BOX;00CHOPSTICKS;00BOWL WITH SPOON;00CUP WITH STRAW;01OCONUT;00BROCCOLI;00PIE",
    "01RETZEL;00CUT OF MEAT;00SANDWICH;00CANNED FOOD;00LEAFY GREEN;00MANGO;01OON CAKE;00BAGEL",
    "00SMILING FACE WITH SMILING EYES AND THREE HEARTS;00YAWNING FACE",
    "00SMILING FACE WITH TEAR;00FACE WITH PARTY HORN AND PARTY HAT",
    "10UNEVEN EYES AND WAVY MOUTH;00OVERHEATED FACE;00FREEZING FACE;00NINJA;00DISGUISED FACE",
    "00FACE HOLDING BACK TEARS;05WITH PLEADING EYES;00SARI;00LAB COAT;00GOGGLES;00HIKING BOOT",
    "00FLAT SHOE;00CRAB;00LION FACE;00SCORPION;00TURKEY;00UNICORN FACE;00EAGLE;00DUCK;00BAT",
    "00SHARK;00OWL;00FOX FACE;00BUTTERFLY;00DEER;00GORILLA;00LIZARD;00RHINOCEROS;00SHRIMP",
    "01QUID;00GIRAFFE FACE;00ZEBRA FACE;00HEDGEHOG;00SAUROPOD;00T-REX;00CRICKET;00KANGAROO",
    "00LLAMA;00PEACOCK;00HIPPOPOTAMUS;00PARROT;00RACCOON;00LOBSTER;00MOSQUITO;01ICROBE",
    "00BADGER;00SWAN;00MAMMOTH;00DODO;00SLOTH;00OTTER;01RANGUTAN;00SKUNK;00FLAMINGO;00OYSTER",
    "00BEAVER;01ISON;00SEAL;00GUIDE DOG;00PROBING CANE;00EMOJI COMPONENT RED HAIR",
    "16CURLY HAIR;16BALD;16WHITE HAIR;00BONE;00LEG;00FOOT;00TOOTH;00SUPERHERO;05VILLAIN",
    "01AFETY VEST;00EAR WITH HEARING AID;00MOTORIZED WHEELCHAIR;01ANUAL WHEELCHAIR",
    "01ECHANICAL ARM;11LEG;00CHEESE WEDGE;01UPCAKE;00SALT SHAKER;00BEVERAGE BOX;00GARLIC",
    "00ONION;00FALAFEL;00WAFFLE;00BUTTER;00MATE DRINK;00ICE CUBE;00BUBBLE TEA;00TROLL",
    "00STANDING PERSON;00KNEELING PERSON;00DEAF PERSON;00FACE WITH MONOCLE;00ADULT;00CHILD",
    "00OLDER ADULT;00BEARDED PERSON;00PERSON WITH HEADSCARF;07IN STEAMY ROOM;07CLIMBING",
    "07IN LOTUS POSITION;00MAGE;00FAIRY;00VAMPIRE;00MERPERSON;00ELF;00GENIE;00ZOMBIE;00BRAIN",
    "00ORANGE HEART;00BILLED CAP;00SCARF;00GLOVES;00COAT;00SOCKS;00RED GIFT ENVELOPE",
    "00FIRECRACKER;00JIGSAW PUZZLE PIECE;00TEST TUBE;00PETRI DISH;00DNA DOUBLE HELIX",
    "00COMPASS;00ABACUS;00FIRE EXTINGUISHER;00TOOLBOX;00BRICK;00MAGNET;00LUGGAGE",
    "01OTION BOTTLE;00SPOOL OF THREAD;00BALL OF YARN;00SAFETY PIN;00TEDDY BEAR;00BROOM",
    "01ASKET;00ROLL OF PAPER;00BAR OF SOAP;00SPONGE;00RECEIPT;00NAZAR AMULET",
    "01EUTRAL CHESS KING;14QUEEN;14ROOK;14BISHOP;14KNIGHT;14PAWN",
    "00WHITE CHESS KNIGHT ROTATED FORTY-FIVE DEGREES",
    "00BLACK CHESS KNIGHT ROTATED FORTY-FIVE DEGREES",
    "00NEUTRAL CHESS KNIGHT ROTATED FORTY-FIVE DEGREES",
    "00WHITE CHESS KING ROTATED NINETY DEGREES;12QUEEN ROTATED NINETY DEGREES",
    "12ROOK ROTATED NINETY DEGREES;12BISHOP ROTATED NINETY DEGREES",
    "12KNIGHT ROTATED NINETY DEGREES;12PAWN ROTATED NINETY DEGREES",
    "00BLACK CHESS KING ROTATED NINETY DEGREES;12QUEEN ROTATED NINETY DEGREES",
    "12ROOK ROTATED NINETY DEGREES;12BISHOP ROTATED NINETY DEGREES",
    "12KNIGHT ROTATED NINETY DEGREES;12PAWN ROTATED NINETY DEGREES",
    "00NEUTRAL CHESS KING ROTATED NINETY DEGREES;14QUEEN ROTATED NINETY DEGREES",
    "14ROOK ROTATED NINETY DEGREES;14BISHOP ROTATED NINETY DEGREES",
    "14KNIGHT ROTATED NINETY DEGREES;14PAWN ROTATED NINETY DEGREES",
    "00WHITE CHESS KNIGHT ROTATED ONE HUNDRED THIRTY-FIVE DEGREES",
    "00BLACK CHESS KNIGHT ROTATED ONE HUNDRED THIRTY-FIVE DEGREES",
    "00NEUTRAL CHESS KNIGHT ROTATED ONE HUNDRED THIRTY-FIVE DEGREES;00WHITE CHESS TURNED KING",
    "19QUEEN;19ROOK;19BISHOP;19KNIGHT;19PAWN;00BLACK CHESS TURNED KING;19QUEEN;19ROOK",
    "19BISHOP;19KNIGHT;19PAWN;00NEUTRAL CHESS TURNED KING;21QUEEN;21ROOK;21BISHOP;21KNIGHT",
    "21PAWN;00WHITE CHESS KNIGHT ROTATED TWO HUNDRED TWENTY-FIVE DEGREES",
    "00BLACK CHESS KNIGHT ROTATED TWO HUNDRED TWENTY-FIVE DEGREES",
    "00NEUTRAL CHESS KNIGHT ROTATED TWO HUNDRED TWENTY-FIVE DEGREES",
    "00WHITE CHESS KING ROTATED TWO HUNDRED SEVENTY DEGREES",
    "12QUEEN ROTATED TWO HUNDRED SEVENTY DEGREES;12ROOK ROTATED TWO HUNDRED SEVENTY DEGREES",
    "12BISHOP ROTATED TWO HUNDRED SEVENTY DEGREES",
    "12KNIGHT ROTATED TWO HUNDRED SEVENTY DEGREES;12PAWN ROTATED TWO HUNDRED SEVENTY DEGREES",
    "00BLACK CHESS KING ROTATED TWO HUNDRED SEVENTY DEGREES",
    "12QUEEN ROTATED TWO HUNDRED SEVENTY DEGREES;12ROOK ROTATED TWO HUNDRED SEVENTY DEGREES",
    "12BISHOP ROTATED TWO HUNDRED SEVENTY DEGREES",
    "12KNIGHT ROTATED TWO HUNDRED SEVENTY DEGREES;12PAWN ROTATED TWO HUNDRED SEVENTY DEGREES",
    "00NEUTRAL CHESS KING ROTATED TWO HUNDRED SEVENTY DEGREES",
    "14QUEEN ROTATED TWO HUNDRED SEVENTY DEGREES;14ROOK ROTATED TWO HUNDRED SEVENTY DEGREES",
    "14BISHOP ROTATED TWO HUNDRED SEVENTY DEGREES",
    "14KNIGHT ROTATED TWO HUNDRED SEVENTY DEGREES;14PAWN ROTATED TWO HUNDRED SEVENTY DEGREES",
    "00WHITE CHESS KNIGHT ROTATED THREE HUNDRED FIFTEEN DEGREES",
    "00BLACK CHESS KNIGHT ROTATED THREE HUNDRED FIFTEEN DEGREES",
    "00NEUTRAL CHESS KNIGHT ROTATED THREE HUNDRED FIFTEEN DEGREES;00WHITE CHESS EQUIHOPPER",
    "00BLACK CHESS EQUIHOPPER;00NEUTRAL CHESS EQUIHOPPER",
    "00WHITE CHESS EQUIHOPPER ROTATED NINETY DEGREES",
    "00BLACK CHESS EQUIHOPPER ROTATED NINETY DEGREES",
    "00NEUTRAL CHESS EQUIHOPPER ROTATED NINETY DEGREES;00WHITE CHESS KNIGHT-QUEEN;19ROOK",
    "19BISHOP;00BLACK CHESS KNIGHT-QUEEN;19ROOK;19BISHOP;+C;00XIANGQI RED GENERAL;12MANDARIN",
    "12ELEPHANT;12HORSE;12CHARIOT;13ANNON;12SOLDIER;08BLACK GENERAL;14MANDARIN;14ELEPHANT",
    "14HORSE;14CHARIOT;15ANNON;14SOLDIER;+2;00BALLET SHOES;00ONE-PIECE SWIMSUIT;00BRIEFS",
    "00SHORTS;00THONG SANDAL;+3;00DROP OF BLOOD;00ADHESIVE BANDAGE;00STETHOSCOPE;00X-RAY",
    "00CRUTCH;+3;00YO-YO;00KITE;00PARACHUTE;00BOOMERANG;00MAGIC WAND;00PINATA;00NESTING DOLLS",
    "+9;00RINGED PLANET;00CHAIR;00RAZOR;00AXE;00DIYA LAMP;00BANJO;00MILITARY HELMET",
    "00ACCORDION;00LONG DRUM;00COIN;01ARPENTRY SAW;00SCREWDRIVER;00LADDER;00HOOK;00MIRROR",
    "00WINDOW;00PLUNGER;00SEWING NEEDLE;00KNOT;00BUCKET;00MOUSE TRAP;00TOOTHBRUSH;00HEADSTONE",
    "00PLACARD;00ROCK;00MIRROR BALL;00IDENTIFICATION CARD;00LOW BATTERY;00HAMSA;+3;00FLY",
    "00WORM;00BEETLE;00COCKROACH;00POTTED PLANT;00WOOD;00FEATHER;00LOTUS;00CORAL;00EMPTY NEST",
    "00NEST WITH EGGS;+5;00ANATOMICAL HEART;00LUNGS;00PEOPLE HUGGING;01REGNANT MAN;09PERSON",
    "01ERSON WITH CROWN;+A;00BLUEBERRIES;01ELL PEPPER;00OLIVE;00FLATBREAD;00TAMALE;00FONDUE",
    "00TEAPOT;00POURING LIQUID;00BEANS;00JAR;+6;00MELTING FACE;00SALUTING FACE",
    "00FACE WITH OPEN EYES AND HAND OVER MOUTH;10PEEKING EYE;10DIAGONAL MOUTH",
    "00DOTTED LINE FACE;00BITING LIP;01UBBLES;+8;00HAND WITH INDEX FINGER AND THUMB CROSSED",
    "00RIGHTWARDS HAND;00LEFTWARDS HAND;00PALM DOWN HAND;05UP HAND",
    "00INDEX POINTING AT THE VIEWER;00HEART HANDS;+9;00BLOCK SEXTANT-1;142;1412;143;1413;1423",
    "14123;144;1414;1424;14124;1434;14134;14234;141234;145;1415;1425;14125;1435;14235;141235",
    "1445;14145;14245;141245;14345;141345;142345;1412345;146;1416;1426;14126;1436;14136;14236",
    "141236;1446;14146;15246;14346;141346;142346;1412346;1456;14156;14256;141256;14356;141356",
    "142356;1412356;14456;141456;142456;1412456;143456;1413456;1423456",
    "00LOWER LEFT BLOCK DIAGONAL LOWER MIDDLE LEFT TO LOWER CENTRE;53RIGHT",
    "26UPPER MIDDLE LEFT TO LOWER CENTRE;53RIGHT;32LEFT TO LOWER CENTRE",
    "06RIGHT BLOCK DIAGONAL UPPER MIDDLE LEFT TO UPPER CENTRE;54RIGHT",
    "27LOWER MIDDLE LEFT TO UPPER CENTRE;54RIGHT;33LEFT TO UPPER CENTRE",
    "33MIDDLE LEFT TO UPPER MIDDLE RIGHT;33CENTRE TO LOWER MIDDLE RIGHT",
    "33LEFT TO LOWER MIDDLE RIGHT;33CENTRE TO UPPER MIDDLE RIGHT;33LEFT TO UPPER MIDDLE RIGHT",
    "33CENTRE TO UPPER RIGHT;06LEFT BLOCK DIAGONAL UPPER CENTRE TO UPPER MIDDLE RIGHT",
    "32LEFT TO UPPER MIDDLE RIGHT;32CENTRE TO LOWER MIDDLE RIGHT;32LEFT TO LOWER MIDDLE RIGHT",
    "32CENTRE TO LOWER RIGHT;32MIDDLE LEFT TO LOWER MIDDLE RIGHT",
    "00UPPER RIGHT BLOCK DIAGONAL LOWER MIDDLE LEFT TO LOWER CENTRE;54RIGHT",
    "27UPPER MIDDLE LEFT TO LOWER CENTRE;54RIGHT;33LEFT TO LOWER CENTRE",
    "06LEFT BLOCK DIAGONAL UPPER MIDDLE LEFT TO UPPER CENTRE;53RIGHT",
    "26LOWER MIDDLE LEFT TO UPPER CENTRE;53RIGHT;32LEFT TO UPPER CENTRE",
    "32MIDDLE LEFT TO UPPER MIDDLE RIGHT;32CENTRE TO LOWER MIDDLE RIGHT",
    "32LEFT TO LOWER MIDDLE RIGHT;32CENTRE TO UPPER MIDDLE RIGHT;32LEFT TO UPPER MIDDLE RIGHT",
    "32CENTRE TO UPPER RIGHT;06RIGHT BLOCK DIAGONAL UPPER CENTRE TO UPPER MIDDLE RIGHT",
    "33LEFT TO UPPER MIDDLE RIGHT;33CENTRE TO LOWER MIDDLE RIGHT;33LEFT TO LOWER MIDDLE RIGHT",
    "33CENTRE TO LOWER RIGHT;33MIDDLE LEFT TO LOWER MIDDLE RIGHT",
    "06AND RIGHT AND LOWER TRIANGULAR THREE QUARTERS BLOCK",
    "00LEFT AND LOWER AND RIGHT TRIANGULAR THREE QUARTERS BLOCK",
    "00UPPER AND LEFT AND LOWER TRIANGULAR THREE QUARTERS BLOCK",
    "00LEFT AND UPPER AND RIGHT TRIANGULAR THREE QUARTERS BLOCK",
    "05TRIANGULAR ONE QUARTER BLOCK;00UPPER TRIANGULAR ONE QUARTER BLOCK",
    "00RIGHT TRIANGULAR ONE QUARTER BLOCK;00LOWER TRIANGULAR ONE QUARTER BLOCK",
    "00VERTICAL ONE EIGHTH BLOCK-2;263;264;265;266;267;00HORIZONTAL ONE EIGHTH BLOCK-2;283",
    "284;285;286;287;00LEFT AND LOWER ONE EIGHTH BLOCK;09UPPER ONE EIGHTH BLOCK",
    "00RIGHT AND UPPER ONE EIGHTH BLOCK;10LOWER ONE EIGHTH BLOCK",
    "00UPPER AND LOWER ONE EIGHTH BLOCK;00HORIZONTAL ONE EIGHTH BLOCK-1358",
    "00UPPER ONE QUARTER BLOCK;06THREE EIGHTHS BLOCK;06FIVE EIGHTHS BLOCK",
    "06THREE QUARTERS BLOCK;06SEVEN EIGHTHS BLOCK;00RIGHT ONE QUARTER BLOCK",
    "06THREE EIGHTHS BLOCK;06FIVE EIGHTHS BLOCK;06THREE QUARTERS BLOCK;06SEVEN EIGHTHS BLOCK",
    "00LEFT HALF MEDIUM SHADE;00RIGHT HALF MEDIUM SHADE;00UPPER HALF MEDIUM SHADE",
    "00LOWER HALF MEDIUM SHADE;00INVERSE MEDIUM SHADE",
    "00UPPER HALF BLOCK AND LOWER HALF INVERSE MEDIUM SHADE",
    "11INVERSE MEDIUM SHADE AND LOWER HALF BLOCK;+1",
    "00LEFT HALF INVERSE MEDIUM SHADE AND RIGHT HALF BLOCK;00CHECKER BOARD FILL",
    "00INVERSE CHECKER BOARD FILL;00HEAVY HORIZONTAL FILL;00UPPER LEFT TO LOWER RIGHT FILL",
    "06RIGHT TO LOWER LEFT FILL;06AND LOWER TRIANGULAR HALF BLOCK",
    "00LEFT AND RIGHT TRIANGULAR HALF BLOCK;00UPPER LEFT TRIANGULAR MEDIUM SHADE",
    "06RIGHT TRIANGULAR MEDIUM SHADE;00LOWER RIGHT TRIANGULAR MEDIUM SHADE",
    "06LEFT TRIANGULAR MEDIUM SHADE;00BOX DRAWINGS LIGHT DIAGONAL UPPER CENTRE TO MIDDLE LEFT",
    "51RIGHT;28MIDDLE LEFT TO LOWER CENTRE;35RIGHT TO LOWER CENTRE",
    "28UPPER CENTRE TO MIDDLE LEFT TO LOWER CENTRE;51RIGHT TO LOWER CENTRE",
    "28MIDDLE LEFT TO LOWER CENTRE TO MIDDLE RIGHT;43UPPER CENTRE TO MIDDLE RIGHT",
    "28UPPER CENTRE TO MIDDLE LEFT AND MIDDLE RIGHT TO LOWER CENTRE",
    "51RIGHT AND MIDDLE LEFT TO LOWER CENTRE;57TO LOWER CENTRE TO MIDDLE LEFT",
    "51LEFT TO LOWER CENTRE TO MIDDLE RIGHT",
    "28MIDDLE LEFT TO UPPER CENTRE TO MIDDLE RIGHT TO LOWER CENTRE",
    "35RIGHT TO UPPER CENTRE TO MIDDLE LEFT TO LOWER CENTRE;28DIAMOND",
    "19HORIZONTAL WITH VERTICAL STROKE;00ARROWHEAD-SHAPED POINTER;00INVERSE CHECK MARK",
    "00LEFT HALF RUNNING MAN;00RIGHT HALF RUNNING MAN",
    "00INVERSE DOWNWARDS ARROW WITH TIP LEFTWARDS",
    "00LEFTWARDS ARROW AND UPPER AND LOWER ONE EIGHTH BLOCK",
    "00RIGHTWARDS ARROW AND UPPER AND LOWER ONE EIGHTH BLOCK",
    "00DOWNWARDS ARROW AND RIGHT ONE EIGHTH BLOCK;00UPWARDS ARROW AND RIGHT ONE EIGHTH BLOCK",
    "00LEFT HALF FOLDER;00RIGHT HALF FOLDER;00VOIDED GREEK CROSS;00RIGHT OPEN SQUARED DOT",
    "00NEGATIVE DIAGONAL CROSS;18MIDDLE RIGHT TO LOWER CENTRE;18DIAMOND",
    "00WHITE HEAVY SALTIRE WITH ROUNDED CORNERS;00LEFT THIRD WHITE RIGHT POINTING INDEX",
    "00MIDDLE THIRD WHITE RIGHT POINTING INDEX;00RIGHT THIRD WHITE RIGHT POINTING INDEX",
    "00NEGATIVE SQUARED QUESTION MARK;00STICK FIGURE;12 WITH ARMS RAISED;13LEANING LEFT",
    "21RIGHT;13WITH DRESS;00WHITE UP-POINTING CHEVRON;+25;00SEGMENTED DIGIT ZERO;16ONE;16TWO",
    "17HREE;16FOUR;17IVE;16SIX;17EVEN;16EIGHT;16NINE;+C0407;00LANGUAGE TAG;+1E;00TAG SPACE",
    "04EXCLAMATION MARK;04QUOTATION MARK;04NUMBER SIGN;04DOLLAR SIGN;04PERCENT SIGN",
    "04AMPERSAND;05POSTROPHE;04LEFT PARENTHESIS;04RIGHT PARENTHESIS;04ASTERISK;04PLUS SIGN",
    "04COMMA;04HYPHEN-MINUS;04FULL STOP;04SOLIDUS;04DIGIT ZERO;10ONE;10TWO;11HREE;10FOUR",
    "11IVE;10SIX;11EVEN;10EIGHT;10NINE;04COLON;04SEMICOLON;04LESS-THAN SIGN;04EQUALS SIGN",
    "04GREATER-THAN SIGN;04QUESTION MARK;04COMMERCIAL AT;04LATIN CAPITAL LETTER A;25B;25C;25D",
    "25E;25F;25G;25H;25I;25J;25K;25L;25M;25N;25O;25P;25Q;25R;25S;25T;25U;25V;25W;25X;25Y;25Z",
    "05EFT SQUARE BRACKET;04REVERSE SOLIDUS;05IGHT SQUARE BRACKET;04CIRCUMFLEX ACCENT",
    "04LOW LINE;04GRAVE ACCENT;04LATIN SMALL LETTER A;23B;23C;23D;23E;23F;23G;23H;23I;23J;23K",
    "23L;23M;23N;23O;23P;23Q;23R;23S;23T;23U;23V;23W;23X;23Y;23Z;05EFT CURLY BRACKET",
    "04VERTICAL LINE;04RIGHT CURLY BRACKET;04TILDE;00CANCEL TAG;+80;00VARIATION SELECTOR-17",
    "208;209;1920;201;202;203;204;205;206;207;208;209;1930;201;202;203;204;205;206;207;208",
    "209;1940;201;202;203;204;205;206;207;208;209;1950;201;202;203;204;205;206;207;208;209",
    "1960;201;202;203;204;205;206;207;208;209;1970;201;202;203;204;205;206;207;208;209;1980",
    "201;202;203;204;205;206;207;208;209;1990;201;202;203;204;205;206;207;208;209;19100;211",
    "212;213;214;215;216;217;218;219;2010;211;212;213;214;215;216;217;218;219;2020;211;212",
    "213;214;215;216;217;218;219;2030;211;212;213;214;215;216;217;218;219;2040;211;212;213",
    "214;215;216;217;218;219;2050;211;212;213;214;215;216;217;218;219;2060;211;212;213;214",
    "215;216;217;218;219;2070;211;212;213;214;215;216;217;218;219;2080;211;212;213;214;215",
    "216;217;218;219;2090;211;212;213;214;215;216;217;218;219;19200;211;212;213;214;215;216",
    "217;218;219;2010;211;212;213;214;215;216;217;218;219;2020;211;212;213;214;215;216;217",
    "218;219;2030;211;212;213;214;215;216;217;218;219;2040;211;212;213;214;215;216;217;218",
    "219;2050;211;212;213;214;215;216"
  ]

end ApiDoc.Text.CharacterName
