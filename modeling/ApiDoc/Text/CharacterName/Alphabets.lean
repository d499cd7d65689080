import ApiDoc.Text.CharacterName.Coded

/-!
# Names of characters: Alphabets

The names of the alphabets of Europe and the Near East.
-/

namespace ApiDoc.Text.CharacterName

/-- The names of the characters from `0` to `8ff`. -/
def alphabets : Coded where
  first := 0x0
  lines := [
    "+20;00SPACE;00EXCLAMATION MARK;00QUOTATION MARK;00NUMBER SIGN;00DOLLAR SIGN",
    "00PERCENT SIGN;00AMPERSAND;01POSTROPHE;00LEFT PARENTHESIS;00RIGHT PARENTHESIS;00ASTERISK",
    "00PLUS SIGN;00COMMA;00HYPHEN-MINUS;00FULL STOP;00SOLIDUS;00DIGIT ZERO;06ONE;06TWO;07HREE",
    "06FOUR;07IVE;06SIX;07EVEN;06EIGHT;06NINE;00COLON;00SEMICOLON;00LESS-THAN SIGN",
    "00EQUALS SIGN;00GREATER-THAN SIGN;00QUESTION MARK;00COMMERCIAL AT",
    "00LATIN CAPITAL LETTER A;21B;21C;21D;21E;21F;21G;21H;21I;21J;21K;21L;21M;21N;21O;21P;21Q",
    "21R;21S;21T;21U;21V;21W;21X;21Y;21Z;01EFT SQUARE BRACKET;00REVERSE SOLIDUS",
    "01IGHT SQUARE BRACKET;00CIRCUMFLEX ACCENT;00LOW LINE;00GRAVE ACCENT",
    "00LATIN SMALL LETTER A;19B;19C;19D;19E;19F;19G;19H;19I;19J;19K;19L;19M;19N;19O;19P;19Q",
    "19R;19S;19T;19U;19V;19W;19X;19Y;19Z;01EFT CURLY BRACKET;00VERTICAL LINE",
    "00RIGHT CURLY BRACKET;00TILDE;+21;00NO-BREAK SPACE;00INVERTED EXCLAMATION MARK",
    "00CENT SIGN;00POUND SIGN;00CURRENCY SIGN;00YEN SIGN;00BROKEN BAR;00SECTION SIGN",
    "00DIAERESIS;00COPYRIGHT SIGN;00FEMININE ORDINAL INDICATOR",
    "00LEFT-POINTING DOUBLE ANGLE QUOTATION MARK;00NOT SIGN;00SOFT HYPHEN;00REGISTERED SIGN",
    "00MACRON;00DEGREE SIGN;00PLUS-MINUS SIGN;00SUPERSCRIPT TWO;13HREE;00ACUTE ACCENT",
    "00MICRO SIGN;00PILCROW SIGN;00MIDDLE DOT;00CEDILLA;00SUPERSCRIPT ONE",
    "00MASCULINE ORDINAL INDICATOR;00RIGHT-POINTING DOUBLE ANGLE QUOTATION MARK",
    "00VULGAR FRACTION ONE QUARTER;20HALF;16THREE QUARTERS;00INVERTED QUESTION MARK",
    "00LATIN CAPITAL LETTER A WITH GRAVE;28ACUTE;28CIRCUMFLEX;28TILDE;28DIAERESIS",
    "28RING ABOVE;22E;21C WITH CEDILLA;21E WITH GRAVE;28ACUTE;28CIRCUMFLEX;28DIAERESIS",
    "21I WITH GRAVE;28ACUTE;28CIRCUMFLEX;28DIAERESIS;21ETH;21N WITH TILDE;21O WITH GRAVE",
    "28ACUTE;28CIRCUMFLEX;28TILDE;28DIAERESIS;00MULTIPLICATION SIGN",
    "00LATIN CAPITAL LETTER O WITH STROKE;21U WITH GRAVE;28ACUTE;28CIRCUMFLEX;28DIAERESIS",
    "21Y WITH ACUTE;21THORN;06SMALL LETTER SHARP S;19A WITH GRAVE;26ACUTE;26CIRCUMFLEX",
    "26TILDE;26DIAERESIS;26RING ABOVE;20E;19C WITH CEDILLA;19E WITH GRAVE;26ACUTE",
    "26CIRCUMFLEX;26DIAERESIS;19I WITH GRAVE;26ACUTE;26CIRCUMFLEX;26DIAERESIS;19ETH",
    "19N WITH TILDE;19O WITH GRAVE;26ACUTE;26CIRCUMFLEX;26TILDE;26DIAERESIS;00DIVISION SIGN",
    "00LATIN SMALL LETTER O WITH STROKE;19U WITH GRAVE;26ACUTE;26CIRCUMFLEX;26DIAERESIS",
    "19Y WITH ACUTE;19THORN;19Y WITH DIAERESIS;06CAPITAL LETTER A WITH MACRON",
    "06SMALL LETTER A WITH MACRON;06CAPITAL LETTER A WITH BREVE;06SMALL LETTER A WITH BREVE",
    "06CAPITAL LETTER A WITH OGONEK;06SMALL LETTER A WITH OGONEK",
    "06CAPITAL LETTER C WITH ACUTE;06SMALL LETTER C WITH ACUTE",
    "06CAPITAL LETTER C WITH CIRCUMFLEX;06SMALL LETTER C WITH CIRCUMFLEX",
    "06CAPITAL LETTER C WITH DOT ABOVE;06SMALL LETTER C WITH DOT ABOVE",
    "06CAPITAL LETTER C WITH CARON;06SMALL LETTER C WITH CARON;06CAPITAL LETTER D WITH CARON",
    "06SMALL LETTER D WITH CARON;06CAPITAL LETTER D WITH STROKE;06SMALL LETTER D WITH STROKE",
    "06CAPITAL LETTER E WITH MACRON;06SMALL LETTER E WITH MACRON",
    "06CAPITAL LETTER E WITH BREVE;06SMALL LETTER E WITH BREVE",
    "06CAPITAL LETTER E WITH DOT ABOVE;06SMALL LETTER E WITH DOT ABOVE",
    "06CAPITAL LETTER E WITH OGONEK;06SMALL LETTER E WITH OGONEK",
    "06CAPITAL LETTER E WITH CARON;06SMALL LETTER E WITH CARON",
    "06CAPITAL LETTER G WITH CIRCUMFLEX;06SMALL LETTER G WITH CIRCUMFLEX",
    "06CAPITAL LETTER G WITH BREVE;06SMALL LETTER G WITH BREVE",
    "06CAPITAL LETTER G WITH DOT ABOVE;06SMALL LETTER G WITH DOT ABOVE",
    "06CAPITAL LETTER G WITH CEDILLA;06SMALL LETTER G WITH CEDILLA",
    "06CAPITAL LETTER H WITH CIRCUMFLEX;06SMALL LETTER H WITH CIRCUMFLEX",
    "06CAPITAL LETTER H WITH STROKE;06SMALL LETTER H WITH STROKE",
    "06CAPITAL LETTER I WITH TILDE;06SMALL LETTER I WITH TILDE;06CAPITAL LETTER I WITH MACRON",
    "06SMALL LETTER I WITH MACRON;06CAPITAL LETTER I WITH BREVE;06SMALL LETTER I WITH BREVE",
    "06CAPITAL LETTER I WITH OGONEK;06SMALL LETTER I WITH OGONEK",
    "06CAPITAL LETTER I WITH DOT ABOVE;06SMALL LETTER DOTLESS I;06CAPITAL LIGATURE IJ",
    "06SMALL LIGATURE IJ;06CAPITAL LETTER J WITH CIRCUMFLEX;06SMALL LETTER J WITH CIRCUMFLEX",
    "06CAPITAL LETTER K WITH CEDILLA;06SMALL LETTER K WITH CEDILLA;20RA",
    "06CAPITAL LETTER L WITH ACUTE;06SMALL LETTER L WITH ACUTE",
    "06CAPITAL LETTER L WITH CEDILLA;06SMALL LETTER L WITH CEDILLA",
    "06CAPITAL LETTER L WITH CARON;06SMALL LETTER L WITH CARON",
    "06CAPITAL LETTER L WITH MIDDLE DOT;06SMALL LETTER L WITH MIDDLE DOT",
    "06CAPITAL LETTER L WITH STROKE;06SMALL LETTER L WITH STROKE",
    "06CAPITAL LETTER N WITH ACUTE;06SMALL LETTER N WITH ACUTE",
    "06CAPITAL LETTER N WITH CEDILLA;06SMALL LETTER N WITH CEDILLA",
    "06CAPITAL LETTER N WITH CARON;06SMALL LETTER N WITH CARON;21PRECEDED BY APOSTROPHE",
    "06CAPITAL LETTER ENG;06SMALL LETTER ENG;06CAPITAL LETTER O WITH MACRON",
    "06SMALL LETTER O WITH MACRON;06CAPITAL LETTER O WITH BREVE;06SMALL LETTER O WITH BREVE",
    "06CAPITAL LETTER O WITH DOUBLE ACUTE;06SMALL LETTER O WITH DOUBLE ACUTE",
    "06CAPITAL LIGATURE OE;06SMALL LIGATURE OE;06CAPITAL LETTER R WITH ACUTE",
    "06SMALL LETTER R WITH ACUTE;06CAPITAL LETTER R WITH CEDILLA",
    "06SMALL LETTER R WITH CEDILLA;06CAPITAL LETTER R WITH CARON;06SMALL LETTER R WITH CARON",
    "06CAPITAL LETTER S WITH ACUTE;06SMALL LETTER S WITH ACUTE",
    "06CAPITAL LETTER S WITH CIRCUMFLEX;06SMALL LETTER S WITH CIRCUMFLEX",
    "06CAPITAL LETTER S WITH CEDILLA;06SMALL LETTER S WITH CEDILLA",
    "06CAPITAL LETTER S WITH CARON;06SMALL LETTER S WITH CARON",
    "06CAPITAL LETTER T WITH CEDILLA;06SMALL LETTER T WITH CEDILLA",
    "06CAPITAL LETTER T WITH CARON;06SMALL LETTER T WITH CARON;06CAPITAL LETTER T WITH STROKE",
    "06SMALL LETTER T WITH STROKE;06CAPITAL LETTER U WITH TILDE;06SMALL LETTER U WITH TILDE",
    "06CAPITAL LETTER U WITH MACRON;06SMALL LETTER U WITH MACRON",
    "06CAPITAL LETTER U WITH BREVE;06SMALL LETTER U WITH BREVE",
    "06CAPITAL LETTER U WITH RING ABOVE;06SMALL LETTER U WITH RING ABOVE",
    "06CAPITAL LETTER U WITH DOUBLE ACUTE;06SMALL LETTER U WITH DOUBLE ACUTE",
    "06CAPITAL LETTER U WITH OGONEK;06SMALL LETTER U WITH OGONEK",
    "06CAPITAL LETTER W WITH CIRCUMFLEX;06SMALL LETTER W WITH CIRCUMFLEX",
    "06CAPITAL LETTER Y WITH CIRCUMFLEX;06SMALL LETTER Y WITH CIRCUMFLEX",
    "06CAPITAL LETTER Y WITH DIAERESIS;21Z WITH ACUTE;06SMALL LETTER Z WITH ACUTE",
    "06CAPITAL LETTER Z WITH DOT ABOVE;06SMALL LETTER Z WITH DOT ABOVE",
    "06CAPITAL LETTER Z WITH CARON;06SMALL LETTER Z WITH CARON;19LONG S;19B WITH STROKE",
    "06CAPITAL LETTER B WITH HOOK;28TOPBAR;06SMALL LETTER B WITH TOPBAR",
    "06CAPITAL LETTER TONE SIX;06SMALL LETTER TONE SIX;06CAPITAL LETTER OPEN O;21C WITH HOOK",
    "06SMALL LETTER C WITH HOOK;06CAPITAL LETTER AFRICAN D;21D WITH HOOK;28TOPBAR",
    "06SMALL LETTER D WITH TOPBAR;19TURNED DELTA;06CAPITAL LETTER REVERSED E;21SCHWA;21OPEN E",
    "21F WITH HOOK;06SMALL LETTER F WITH HOOK;06CAPITAL LETTER G WITH HOOK;22AMMA",
    "06SMALL LETTER HV;06CAPITAL LETTER IOTA;22 WITH STROKE;21K WITH HOOK",
    "06SMALL LETTER K WITH HOOK;19L WITH BAR;20AMBDA WITH STROKE;06CAPITAL LETTER TURNED M",
    "21N WITH LEFT HOOK;06SMALL LETTER N WITH LONG RIGHT LEG",
    "06CAPITAL LETTER O WITH MIDDLE TILDE;28HORN;06SMALL LETTER O WITH HORN",
    "06CAPITAL LETTER OI;06SMALL LETTER OI;06CAPITAL LETTER P WITH HOOK",
    "06SMALL LETTER P WITH HOOK;06LETTER YR;06CAPITAL LETTER TONE TWO;06SMALL LETTER TONE TWO",
    "06CAPITAL LETTER ESH;06LETTER REVERSED ESH LOOP;06SMALL LETTER T WITH PALATAL HOOK",
    "06CAPITAL LETTER T WITH HOOK;06SMALL LETTER T WITH HOOK",
    "06CAPITAL LETTER T WITH RETROFLEX HOOK;21U WITH HORN;06SMALL LETTER U WITH HORN",
    "06CAPITAL LETTER UPSILON;21V WITH HOOK;21Y WITH HOOK;06SMALL LETTER Y WITH HOOK",
    "06CAPITAL LETTER Z WITH STROKE;06SMALL LETTER Z WITH STROKE;06CAPITAL LETTER EZH",
    "24 REVERSED;06SMALL LETTER EZH REVERSED;23WITH TAIL;06LETTER TWO WITH STROKE",
    "06CAPITAL LETTER TONE FIVE;06SMALL LETTER TONE FIVE",
    "06LETTER INVERTED GLOTTAL STOP WITH STROKE;13WYNN;13DENTAL CLICK;13LATERAL CLICK",
    "13ALVEOLAR CLICK;13RETROFLEX CLICK;06CAPITAL LETTER DZ WITH CARON",
    "22 WITH SMALL LETTER Z WITH CARON;06SMALL LETTER DZ WITH CARON;06CAPITAL LETTER LJ",
    "22 WITH SMALL LETTER J;06SMALL LETTER LJ;06CAPITAL LETTER NJ;22 WITH SMALL LETTER J",
    "06SMALL LETTER NJ;06CAPITAL LETTER A WITH CARON;06SMALL LETTER A WITH CARON",
    "06CAPITAL LETTER I WITH CARON;06SMALL LETTER I WITH CARON;06CAPITAL LETTER O WITH CARON",
    "06SMALL LETTER O WITH CARON;06CAPITAL LETTER U WITH CARON;06SMALL LETTER U WITH CARON",
    "06CAPITAL LETTER U WITH DIAERESIS AND MACRON;06SMALL LETTER U WITH DIAERESIS AND MACRON",
    "06CAPITAL LETTER U WITH DIAERESIS AND ACUTE;06SMALL LETTER U WITH DIAERESIS AND ACUTE",
    "06CAPITAL LETTER U WITH DIAERESIS AND CARON;06SMALL LETTER U WITH DIAERESIS AND CARON",
    "06CAPITAL LETTER U WITH DIAERESIS AND GRAVE;06SMALL LETTER U WITH DIAERESIS AND GRAVE",
    "19TURNED E;06CAPITAL LETTER A WITH DIAERESIS AND MACRON",
    "06SMALL LETTER A WITH DIAERESIS AND MACRON;06CAPITAL LETTER A WITH DOT ABOVE AND MACRON",
    "06SMALL LETTER A WITH DOT ABOVE AND MACRON;06CAPITAL LETTER AE WITH MACRON",
    "06SMALL LETTER AE WITH MACRON;06CAPITAL LETTER G WITH STROKE",
    "06SMALL LETTER G WITH STROKE;06CAPITAL LETTER G WITH CARON;06SMALL LETTER G WITH CARON",
    "06CAPITAL LETTER K WITH CARON;06SMALL LETTER K WITH CARON;06CAPITAL LETTER O WITH OGONEK",
    "06SMALL LETTER O WITH OGONEK;06CAPITAL LETTER O WITH OGONEK AND MACRON",
    "06SMALL LETTER O WITH OGONEK AND MACRON;06CAPITAL LETTER EZH WITH CARON",
    "06SMALL LETTER EZH WITH CARON;19J WITH CARON;06CAPITAL LETTER DZ;22 WITH SMALL LETTER Z",
    "06SMALL LETTER DZ;06CAPITAL LETTER G WITH ACUTE;06SMALL LETTER G WITH ACUTE",
    "06CAPITAL LETTER HWAIR;21WYNN;21N WITH GRAVE;06SMALL LETTER N WITH GRAVE",
    "06CAPITAL LETTER A WITH RING ABOVE AND ACUTE;06SMALL LETTER A WITH RING ABOVE AND ACUTE",
    "06CAPITAL LETTER AE WITH ACUTE;06SMALL LETTER AE WITH ACUTE",
    "06CAPITAL LETTER O WITH STROKE AND ACUTE;06SMALL LETTER O WITH STROKE AND ACUTE",
    "06CAPITAL LETTER A WITH DOUBLE GRAVE;06SMALL LETTER A WITH DOUBLE GRAVE",
    "06CAPITAL LETTER A WITH INVERTED BREVE;06SMALL LETTER A WITH INVERTED BREVE",
    "06CAPITAL LETTER E WITH DOUBLE GRAVE;06SMALL LETTER E WITH DOUBLE GRAVE",
    "06CAPITAL LETTER E WITH INVERTED BREVE;06SMALL LETTER E WITH INVERTED BREVE",
    "06CAPITAL LETTER I WITH DOUBLE GRAVE;06SMALL LETTER I WITH DOUBLE GRAVE",
    "06CAPITAL LETTER I WITH INVERTED BREVE;06SMALL LETTER I WITH INVERTED BREVE",
    "06CAPITAL LETTER O WITH DOUBLE GRAVE;06SMALL LETTER O WITH DOUBLE GRAVE",
    "06CAPITAL LETTER O WITH INVERTED BREVE;06SMALL LETTER O WITH INVERTED BREVE",
    "06CAPITAL LETTER R WITH DOUBLE GRAVE;06SMALL LETTER R WITH DOUBLE GRAVE",
    "06CAPITAL LETTER R WITH INVERTED BREVE;06SMALL LETTER R WITH INVERTED BREVE",
    "06CAPITAL LETTER U WITH DOUBLE GRAVE;06SMALL LETTER U WITH DOUBLE GRAVE",
    "06CAPITAL LETTER U WITH INVERTED BREVE;06SMALL LETTER U WITH INVERTED BREVE",
    "06CAPITAL LETTER S WITH COMMA BELOW;06SMALL LETTER S WITH COMMA BELOW",
    "06CAPITAL LETTER T WITH COMMA BELOW;06SMALL LETTER T WITH COMMA BELOW",
    "06CAPITAL LETTER YOGH;06SMALL LETTER YOGH;06CAPITAL LETTER H WITH CARON",
    "06SMALL LETTER H WITH CARON;06CAPITAL LETTER N WITH LONG RIGHT LEG",
    "06SMALL LETTER D WITH CURL;06CAPITAL LETTER OU;06SMALL LETTER OU",
    "06CAPITAL LETTER Z WITH HOOK;06SMALL LETTER Z WITH HOOK",
    "06CAPITAL LETTER A WITH DOT ABOVE;06SMALL LETTER A WITH DOT ABOVE",
    "06CAPITAL LETTER E WITH CEDILLA;06SMALL LETTER E WITH CEDILLA",
    "06CAPITAL LETTER O WITH DIAERESIS AND MACRON;06SMALL LETTER O WITH DIAERESIS AND MACRON",
    "06CAPITAL LETTER O WITH TILDE AND MACRON;06SMALL LETTER O WITH TILDE AND MACRON",
    "06CAPITAL LETTER O WITH DOT ABOVE;06SMALL LETTER O WITH DOT ABOVE",
    "06CAPITAL LETTER O WITH DOT ABOVE AND MACRON;06SMALL LETTER O WITH DOT ABOVE AND MACRON",
    "06CAPITAL LETTER Y WITH MACRON;06SMALL LETTER Y WITH MACRON;19L WITH CURL;19N WITH CURL",
    "19T WITH CURL;19DOTLESS J;20B DIGRAPH;19QP DIGRAPH;06CAPITAL LETTER A WITH STROKE",
    "21C WITH STROKE;06SMALL LETTER C WITH STROKE;06CAPITAL LETTER L WITH BAR",
    "21T WITH DIAGONAL STROKE;06SMALL LETTER S WITH SWASH TAIL;19Z WITH SWASH TAIL",
    "06CAPITAL LETTER GLOTTAL STOP;06SMALL LETTER GLOTTAL STOP;06CAPITAL LETTER B WITH STROKE",
    "21U BAR;21TURNED V;21E WITH STROKE;06SMALL LETTER E WITH STROKE",
    "06CAPITAL LETTER J WITH STROKE;06SMALL LETTER J WITH STROKE",
    "06CAPITAL LETTER SMALL Q WITH HOOK TAIL;06SMALL LETTER Q WITH HOOK TAIL",
    "06CAPITAL LETTER R WITH STROKE;06SMALL LETTER R WITH STROKE",
    "06CAPITAL LETTER Y WITH STROKE;06SMALL LETTER Y WITH STROKE;19TURNED A;19ALPHA",
    "19TURNED ALPHA;19B WITH HOOK;19OPEN O;19C WITH CURL;19D WITH TAIL;26HOOK;19REVERSED E",
    "19SCHWA;24 WITH HOOK;19OPEN E;19REVERSED OPEN E;34 WITH HOOK;19CLOSED REVERSED OPEN E",
    "19DOTLESS J WITH STROKE;19G WITH HOOK;19SCRIPT G;06LETTER SMALL CAPITAL G",
    "06SMALL LETTER GAMMA;19RAMS HORN;19TURNED H;19H WITH HOOK;20ENG WITH HOOK",
    "19I WITH STROKE;20OTA;06LETTER SMALL CAPITAL I;06SMALL LETTER L WITH MIDDLE TILDE;26BELT",
    "26RETROFLEX HOOK;20EZH;19TURNED M;27 WITH LONG LEG;19M WITH HOOK;19N WITH LEFT HOOK",
    "26RETROFLEX HOOK;06LETTER SMALL CAPITAL N;06SMALL LETTER BARRED O",
    "06LETTER SMALL CAPITAL OE;06SMALL LETTER CLOSED OMEGA;19PHI;19TURNED R;27 WITH LONG LEG",
    "33HOOK;19R WITH LONG LEG;26TAIL;26FISHHOOK;20EVERSED R WITH FISHHOOK",
    "06LETTER SMALL CAPITAL R;27INVERTED R;06SMALL LETTER S WITH HOOK;19ESH",
    "19DOTLESS J WITH STROKE AND HOOK;19SQUAT REVERSED ESH;19ESH WITH CURL;19TURNED T",
    "20 WITH RETROFLEX HOOK;19U BAR;20PSILON;19V WITH HOOK;19TURNED V;26W;26Y",
    "06LETTER SMALL CAPITAL Y;06SMALL LETTER Z WITH RETROFLEX HOOK;26CURL;19EZH;22 WITH CURL",
    "06LETTER GLOTTAL STOP;13PHARYNGEAL VOICED FRICATIVE;13INVERTED GLOTTAL STOP",
    "13STRETCHED C;13BILABIAL CLICK;13SMALL CAPITAL B;06SMALL LETTER CLOSED OPEN E",
    "06LETTER SMALL CAPITAL G WITH HOOK;27H;06SMALL LETTER J WITH CROSSED-TAIL;19TURNED K",
    "06LETTER SMALL CAPITAL L;06SMALL LETTER Q WITH HOOK;06LETTER GLOTTAL STOP WITH STROKE",
    "13REVERSED GLOTTAL STOP WITH STROKE;06SMALL LETTER DZ DIGRAPH;20EZH DIGRAPH",
    "20Z DIGRAPH WITH CURL;19TS DIGRAPH;20ESH DIGRAPH;20C DIGRAPH WITH CURL;19FENG DIGRAPH",
    "19LS DIGRAPH;20Z DIGRAPH;06LETTER BILABIAL PERCUSSIVE;15DENTAL PERCUSSIVE",
    "06SMALL LETTER TURNED H WITH FISHHOOK;41 AND TAIL;00MODIFIER LETTER SMALL H;23 WITH HOOK",
    "22J;22R;22TURNED R;30 WITH HOOK;22CAPITAL INVERTED R;22W;22Y;16PRIME;16DOUBLE PRIME",
    "16TURNED COMMA;16APOSTROPHE;16REVERSED COMMA;17IGHT HALF RING;16LEFT HALF RING",
    "16GLOTTAL STOP;16REVERSED GLOTTAL STOP;16LEFT ARROWHEAD;16RIGHT ARROWHEAD;16UP ARROWHEAD",
    "16DOWN ARROWHEAD;16CIRCUMFLEX ACCENT;00CARON;00MODIFIER LETTER VERTICAL LINE;16MACRON",
    "16ACUTE ACCENT;16GRAVE ACCENT;16LOW VERTICAL LINE;20MACRON;20GRAVE ACCENT;20ACUTE ACCENT",
    "16TRIANGULAR COLON;16HALF TRIANGULAR COLON;16CENTRED RIGHT HALF RING;24LEFT HALF RING",
    "16UP TACK;16DOWN TACK;16PLUS SIGN;16MINUS SIGN;00BREVE;00DOT ABOVE;00RING ABOVE;00OGONEK",
    "00SMALL TILDE;00DOUBLE ACUTE ACCENT;00MODIFIER LETTER RHOTIC HOOK;16CROSS ACCENT",
    "16SMALL GAMMA;22L;22S;22X;22REVERSED GLOTTAL STOP;16EXTRA-HIGH TONE BAR;16HIGH TONE BAR",
    "16MID TONE BAR;16LOW TONE BAR;16EXTRA-LOW TONE BAR;16YIN DEPARTING TONE MARK",
    "17ANG DEPARTING TONE MARK;16VOICING;16UNASPIRATED;16DOUBLE APOSTROPHE",
    "16LOW DOWN ARROWHEAD;20UP ARROWHEAD;20LEFT ARROWHEAD;20RIGHT ARROWHEAD;22NG",
    "16MIDDLE GRAVE ACCENT;23DOUBLE GRAVE ACCENT;30ACUTE ACCENT;16LOW TILDE;16RAISED COLON",
    "16BEGIN HIGH TONE;16END HIGH TONE;16BEGIN LOW TONE;16END LOW TONE;16SHELF;16OPEN SHELF",
    "16LOW LEFT ARROW;00COMBINING GRAVE ACCENT;10ACUTE ACCENT;10CIRCUMFLEX ACCENT;10TILDE",
    "10MACRON;10OVERLINE;10BREVE;10DOT ABOVE;11IAERESIS;10HOOK ABOVE;10RING ABOVE",
    "10DOUBLE ACUTE ACCENT;10CARON;10VERTICAL LINE ABOVE;10DOUBLE VERTICAL LINE ABOVE",
    "17GRAVE ACCENT;10CANDRABINDU;10INVERTED BREVE;10TURNED COMMA ABOVE;10COMMA ABOVE",
    "10REVERSED COMMA ABOVE;10COMMA ABOVE RIGHT;10GRAVE ACCENT BELOW;10ACUTE ACCENT BELOW",
    "10LEFT TACK BELOW;10RIGHT TACK BELOW;10LEFT ANGLE ABOVE;10HORN;10LEFT HALF RING BELOW",
    "10UP TACK BELOW;10DOWN TACK BELOW;10PLUS SIGN BELOW;10MINUS SIGN BELOW",
    "10PALATALIZED HOOK BELOW;10RETROFLEX HOOK BELOW;10DOT BELOW;11IAERESIS BELOW",
    "10RING BELOW;10COMMA BELOW;11EDILLA;10OGONEK;10VERTICAL LINE BELOW;10BRIDGE BELOW",
    "10INVERTED DOUBLE ARCH BELOW;10CARON BELOW;11IRCUMFLEX ACCENT BELOW;10BREVE BELOW",
    "10INVERTED BREVE BELOW;10TILDE BELOW;10MACRON BELOW;10LOW LINE;10DOUBLE LOW LINE",
    "10TILDE OVERLAY;10SHORT STROKE OVERLAY;10LONG STROKE OVERLAY;10SHORT SOLIDUS OVERLAY",
    "10LONG SOLIDUS OVERLAY;10RIGHT HALF RING BELOW;10INVERTED BRIDGE BELOW;10SQUARE BELOW",
    "11EAGULL BELOW;10X ABOVE;10VERTICAL TILDE;10DOUBLE OVERLINE;10GRAVE TONE MARK",
    "10ACUTE TONE MARK;10GREEK PERISPOMENI;16KORONIS;16DIALYTIKA TONOS;16YPOGEGRAMMENI",
    "10BRIDGE ABOVE;10EQUALS SIGN BELOW;10DOUBLE VERTICAL LINE BELOW;10LEFT ANGLE BELOW",
    "10NOT TILDE ABOVE;10HOMOTHETIC ABOVE;10ALMOST EQUAL TO ABOVE;10LEFT RIGHT ARROW BELOW",
    "10UPWARDS ARROW BELOW;10GRAPHEME JOINER;10RIGHT ARROWHEAD ABOVE;10LEFT HALF RING ABOVE",
    "10FERMATA;10X BELOW;10LEFT ARROWHEAD BELOW;10RIGHT ARROWHEAD BELOW",
    "26AND UP ARROWHEAD BELOW;16HALF RING ABOVE;10DOT ABOVE RIGHT;10ASTERISK BELOW",
    "10DOUBLE RING BELOW;10ZIGZAG ABOVE;10DOUBLE BREVE BELOW;22;17MACRON;23 BELOW;17TILDE",
    "17INVERTED BREVE;17RIGHTWARDS ARROW BELOW;10LATIN SMALL LETTER A;29E;29I;29O;29U;29C;29D",
    "29H;29M;29R;29T;29V;29X;00GREEK CAPITAL LETTER HETA;06SMALL LETTER HETA",
    "06CAPITAL LETTER ARCHAIC SAMPI;06SMALL LETTER ARCHAIC SAMPI;06NUMERAL SIGN",
    "06LOWER NUMERAL SIGN;06CAPITAL LETTER PAMPHYLIAN DIGAMMA",
    "06SMALL LETTER PAMPHYLIAN DIGAMMA;+2;06YPOGEGRAMMENI",
    "06SMALL REVERSED LUNATE SIGMA SYMBOL;12DOTTED LUNATE SIGMA SYMBOL",
    "12REVERSED DOTTED LUNATE SIGMA SYMBOL;06QUESTION MARK;06CAPITAL LETTER YOT;+4;06TONOS",
    "06DIALYTIKA TONOS;06CAPITAL LETTER ALPHA WITH TONOS;06ANO TELEIA",
    "06CAPITAL LETTER EPSILON WITH TONOS;22TA WITH TONOS;21IOTA WITH TONOS;+1",
    "21OMICRON WITH TONOS;+1;21UPSILON WITH TONOS;21OMEGA WITH TONOS",
    "06SMALL LETTER IOTA WITH DIALYTIKA AND TONOS;06CAPITAL LETTER ALPHA;21BETA;21GAMMA",
    "21DELTA;21EPSILON;21ZETA;21ETA;21THETA;21IOTA;21KAPPA;21LAMDA;21MU;21NU;21XI;21OMICRON",
    "21PI;21RHO;+1;21SIGMA;21TAU;21UPSILON;21PHI;21CHI;21PSI;21OMEGA;21IOTA WITH DIALYTIKA",
    "21UPSILON WITH DIALYTIKA;06SMALL LETTER ALPHA WITH TONOS;19EPSILON WITH TONOS",
    "20TA WITH TONOS;19IOTA WITH TONOS;19UPSILON WITH DIALYTIKA AND TONOS;19ALPHA;19BETA",
    "19GAMMA;19DELTA;19EPSILON;19ZETA;19ETA;19THETA;19IOTA;19KAPPA;19LAMDA;19MU;19NU;19XI",
    "19OMICRON;19PI;19RHO;19FINAL SIGMA;19SIGMA;19TAU;19UPSILON;19PHI;19CHI;19PSI;19OMEGA",
    "19IOTA WITH DIALYTIKA;19UPSILON WITH DIALYTIKA;19OMICRON WITH TONOS;19UPSILON WITH TONOS",
    "19OMEGA WITH TONOS;06CAPITAL KAI SYMBOL;06BETA SYMBOL;06THETA SYMBOL",
    "06UPSILON WITH HOOK SYMBOL;19ACUTE AND HOOK SYMBOL;19DIAERESIS AND HOOK SYMBOL",
    "06PHI SYMBOL;07I SYMBOL;06KAI SYMBOL;06LETTER ARCHAIC KOPPA;06SMALL LETTER ARCHAIC KOPPA",
    "06LETTER STIGMA;06SMALL LETTER STIGMA;06LETTER DIGAMMA;06SMALL LETTER DIGAMMA",
    "06LETTER KOPPA;06SMALL LETTER KOPPA;06LETTER SAMPI;06SMALL LETTER SAMPI",
    "00COPTIC CAPITAL LETTER SHEI;07SMALL LETTER SHEI;07CAPITAL LETTER FEI;07SMALL LETTER FEI",
    "07CAPITAL LETTER KHEI;07SMALL LETTER KHEI;07CAPITAL LETTER HORI;07SMALL LETTER HORI",
    "07CAPITAL LETTER GANGIA;07SMALL LETTER GANGIA;07CAPITAL LETTER SHIMA",
    "07SMALL LETTER SHIMA;07CAPITAL LETTER DEI;07SMALL LETTER DEI;00GREEK KAPPA SYMBOL",
    "06RHO SYMBOL;06LUNATE SIGMA SYMBOL;07ETTER YOT;06CAPITAL THETA SYMBOL",
    "06LUNATE EPSILON SYMBOL;06REVERSED LUNATE EPSILON SYMBOL;06CAPITAL LETTER SHO",
    "06SMALL LETTER SHO;06CAPITAL LUNATE SIGMA SYMBOL;15ETTER SAN;06SMALL LETTER SAN",
    "06RHO WITH STROKE SYMBOL;06CAPITAL REVERSED LUNATE SIGMA SYMBOL",
    "14DOTTED LUNATE SIGMA SYMBOL;14REVERSED DOTTED LUNATE SIGMA SYMBOL",
    "00CYRILLIC CAPITAL LETTER IE WITH GRAVE;25O;24DJE;24GJE;24UKRAINIAN IE;24DZE",
    "24BYELORUSSIAN-UKRAINIAN I;24YI;24JE;24LJE;24NJE;24TSHE;24KJE;24I WITH GRAVE;24SHORT U",
    "24DZHE;24A;24BE;24VE;24GHE;24DE;24IE;24ZHE;25E;24I;24SHORT I;24KA;24EL;25M;25N;24O;24PE",
    "24ER;25S;24TE;24U;24EF;24HA;24TSE;24CHE;24SHA;26CHA;24HARD SIGN;24YERU;24SOFT SIGN;24E",
    "24YU;25A;09SMALL LETTER A;22BE;22VE;22GHE;22DE;22IE;22ZHE;23E;22I;22SHORT I;22KA;22EL",
    "23M;23N;22O;22PE;22ER;23S;22TE;22U;22EF;22HA;22TSE;22CHE;22SHA;24CHA;22HARD SIGN;22YERU",
    "22SOFT SIGN;22E;22YU;23A;22IE WITH GRAVE;23O;22DJE;22GJE;22UKRAINIAN IE;22DZE",
    "22BYELORUSSIAN-UKRAINIAN I;22YI;22JE;22LJE;22NJE;22TSHE;22KJE;22I WITH GRAVE;22SHORT U",
    "22DZHE;09CAPITAL LETTER OMEGA;09SMALL LETTER OMEGA;09CAPITAL LETTER YAT",
    "09SMALL LETTER YAT;09CAPITAL LETTER IOTIFIED E;09SMALL LETTER IOTIFIED E",
    "09CAPITAL LETTER LITTLE YUS;09SMALL LETTER LITTLE YUS",
    "09CAPITAL LETTER IOTIFIED LITTLE YUS;09SMALL LETTER IOTIFIED LITTLE YUS",
    "09CAPITAL LETTER BIG YUS;09SMALL LETTER BIG YUS;09CAPITAL LETTER IOTIFIED BIG YUS",
    "09SMALL LETTER IOTIFIED BIG YUS;09CAPITAL LETTER KSI;09SMALL LETTER KSI",
    "09CAPITAL LETTER PSI;09SMALL LETTER PSI;09CAPITAL LETTER FITA;09SMALL LETTER FITA",
    "09CAPITAL LETTER IZHITSA;09SMALL LETTER IZHITSA",
    "09CAPITAL LETTER IZHITSA WITH DOUBLE GRAVE ACCENT",
    "09SMALL LETTER IZHITSA WITH DOUBLE GRAVE ACCENT;09CAPITAL LETTER UK;09SMALL LETTER UK",
    "09CAPITAL LETTER ROUND OMEGA;09SMALL LETTER ROUND OMEGA",
    "09CAPITAL LETTER OMEGA WITH TITLO;09SMALL LETTER OMEGA WITH TITLO;09CAPITAL LETTER OT",
    "09SMALL LETTER OT;09CAPITAL LETTER KOPPA;09SMALL LETTER KOPPA;09THOUSANDS SIGN",
    "01OMBINING CYRILLIC TITLO;19PALATALIZATION;19DASIA PNEUMATA;19PSILI PNEUMATA;20OKRYTIE",
    "19HUNDRED THOUSANDS SIGN;19MILLIONS SIGN;01YRILLIC CAPITAL LETTER SHORT I WITH TAIL",
    "09SMALL LETTER SHORT I WITH TAIL;09CAPITAL LETTER SEMISOFT SIGN",
    "09SMALL LETTER SEMISOFT SIGN;09CAPITAL LETTER ER WITH TICK;09SMALL LETTER ER WITH TICK",
    "09CAPITAL LETTER GHE WITH UPTURN;09SMALL LETTER GHE WITH UPTURN",
    "09CAPITAL LETTER GHE WITH STROKE;09SMALL LETTER GHE WITH STROKE",
    "09CAPITAL LETTER GHE WITH MIDDLE HOOK;09SMALL LETTER GHE WITH MIDDLE HOOK",
    "09CAPITAL LETTER ZHE WITH DESCENDER;09SMALL LETTER ZHE WITH DESCENDER",
    "09CAPITAL LETTER ZE WITH DESCENDER;09SMALL LETTER ZE WITH DESCENDER",
    "09CAPITAL LETTER KA WITH DESCENDER;09SMALL LETTER KA WITH DESCENDER",
    "09CAPITAL LETTER KA WITH VERTICAL STROKE;09SMALL LETTER KA WITH VERTICAL STROKE",
    "09CAPITAL LETTER KA WITH STROKE;09SMALL LETTER KA WITH STROKE",
    "09CAPITAL LETTER BASHKIR KA;09SMALL LETTER BASHKIR KA;09CAPITAL LETTER EN WITH DESCENDER",
    "09SMALL LETTER EN WITH DESCENDER;09CAPITAL LIGATURE EN GHE;09SMALL LIGATURE EN GHE",
    "09CAPITAL LETTER PE WITH MIDDLE HOOK;09SMALL LETTER PE WITH MIDDLE HOOK",
    "09CAPITAL LETTER ABKHASIAN HA;09SMALL LETTER ABKHASIAN HA",
    "09CAPITAL LETTER ES WITH DESCENDER;09SMALL LETTER ES WITH DESCENDER",
    "09CAPITAL LETTER TE WITH DESCENDER;09SMALL LETTER TE WITH DESCENDER",
    "09CAPITAL LETTER STRAIGHT U;09SMALL LETTER STRAIGHT U",
    "09CAPITAL LETTER STRAIGHT U WITH STROKE;09SMALL LETTER STRAIGHT U WITH STROKE",
    "09CAPITAL LETTER HA WITH DESCENDER;09SMALL LETTER HA WITH DESCENDER",
    "09CAPITAL LIGATURE TE TSE;09SMALL LIGATURE TE TSE;09CAPITAL LETTER CHE WITH DESCENDER",
    "09SMALL LETTER CHE WITH DESCENDER;09CAPITAL LETTER CHE WITH VERTICAL STROKE",
    "09SMALL LETTER CHE WITH VERTICAL STROKE;09CAPITAL LETTER SHHA;09SMALL LETTER SHHA",
    "09CAPITAL LETTER ABKHASIAN CHE;09SMALL LETTER ABKHASIAN CHE",
    "09CAPITAL LETTER ABKHASIAN CHE WITH DESCENDER",
    "09SMALL LETTER ABKHASIAN CHE WITH DESCENDER;09LETTER PALOCHKA",
    "09CAPITAL LETTER ZHE WITH BREVE;09SMALL LETTER ZHE WITH BREVE",
    "09CAPITAL LETTER KA WITH HOOK;09SMALL LETTER KA WITH HOOK;09CAPITAL LETTER EL WITH TAIL",
    "09SMALL LETTER EL WITH TAIL;09CAPITAL LETTER EN WITH HOOK;09SMALL LETTER EN WITH HOOK",
    "09CAPITAL LETTER EN WITH TAIL;09SMALL LETTER EN WITH TAIL",
    "09CAPITAL LETTER KHAKASSIAN CHE;09SMALL LETTER KHAKASSIAN CHE",
    "09CAPITAL LETTER EM WITH TAIL;09SMALL LETTER EM WITH TAIL;22PALOCHKA",
    "09CAPITAL LETTER A WITH BREVE;09SMALL LETTER A WITH BREVE",
    "09CAPITAL LETTER A WITH DIAERESIS;09SMALL LETTER A WITH DIAERESIS",
    "09CAPITAL LIGATURE A IE;09SMALL LIGATURE A IE;09CAPITAL LETTER IE WITH BREVE",
    "09SMALL LETTER IE WITH BREVE;09CAPITAL LETTER SCHWA;09SMALL LETTER SCHWA",
    "09CAPITAL LETTER SCHWA WITH DIAERESIS;09SMALL LETTER SCHWA WITH DIAERESIS",
    "09CAPITAL LETTER ZHE WITH DIAERESIS;09SMALL LETTER ZHE WITH DIAERESIS",
    "09CAPITAL LETTER ZE WITH DIAERESIS;09SMALL LETTER ZE WITH DIAERESIS",
    "09CAPITAL LETTER ABKHASIAN DZE;09SMALL LETTER ABKHASIAN DZE",
    "09CAPITAL LETTER I WITH MACRON;09SMALL LETTER I WITH MACRON",
    "09CAPITAL LETTER I WITH DIAERESIS;09SMALL LETTER I WITH DIAERESIS",
    "09CAPITAL LETTER O WITH DIAERESIS;09SMALL LETTER O WITH DIAERESIS",
    "09CAPITAL LETTER BARRED O;09SMALL LETTER BARRED O",
    "09CAPITAL LETTER BARRED O WITH DIAERESIS;09SMALL LETTER BARRED O WITH DIAERESIS",
    "09CAPITAL LETTER E WITH DIAERESIS;09SMALL LETTER E WITH DIAERESIS",
    "09CAPITAL LETTER U WITH MACRON;09SMALL LETTER U WITH MACRON",
    "09CAPITAL LETTER U WITH DIAERESIS;09SMALL LETTER U WITH DIAERESIS",
    "09CAPITAL LETTER U WITH DOUBLE ACUTE;09SMALL LETTER U WITH DOUBLE ACUTE",
    "09CAPITAL LETTER CHE WITH DIAERESIS;09SMALL LETTER CHE WITH DIAERESIS",
    "09CAPITAL LETTER GHE WITH DESCENDER;09SMALL LETTER GHE WITH DESCENDER",
    "09CAPITAL LETTER YERU WITH DIAERESIS;09SMALL LETTER YERU WITH DIAERESIS",
    "09CAPITAL LETTER GHE WITH STROKE AND HOOK;09SMALL LETTER GHE WITH STROKE AND HOOK",
    "09CAPITAL LETTER HA WITH HOOK;09SMALL LETTER HA WITH HOOK",
    "09CAPITAL LETTER HA WITH STROKE;09SMALL LETTER HA WITH STROKE;09CAPITAL LETTER KOMI DE",
    "09SMALL LETTER KOMI DE;09CAPITAL LETTER KOMI DJE;09SMALL LETTER KOMI DJE",
    "09CAPITAL LETTER KOMI ZJE;09SMALL LETTER KOMI ZJE;09CAPITAL LETTER KOMI DZJE",
    "09SMALL LETTER KOMI DZJE;09CAPITAL LETTER KOMI LJE;09SMALL LETTER KOMI LJE",
    "09CAPITAL LETTER KOMI NJE;09SMALL LETTER KOMI NJE;09CAPITAL LETTER KOMI SJE",
    "09SMALL LETTER KOMI SJE;09CAPITAL LETTER KOMI TJE;09SMALL LETTER KOMI TJE",
    "09CAPITAL LETTER REVERSED ZE;09SMALL LETTER REVERSED ZE;09CAPITAL LETTER EL WITH HOOK",
    "09SMALL LETTER EL WITH HOOK;09CAPITAL LETTER LHA;09SMALL LETTER LHA;09CAPITAL LETTER RHA",
    "09SMALL LETTER RHA;09CAPITAL LETTER YAE;09SMALL LETTER YAE;09CAPITAL LETTER QA",
    "09SMALL LETTER QA;09CAPITAL LETTER WE;09SMALL LETTER WE;09CAPITAL LETTER ALEUT KA",
    "09SMALL LETTER ALEUT KA;09CAPITAL LETTER EL WITH MIDDLE HOOK",
    "09SMALL LETTER EL WITH MIDDLE HOOK;09CAPITAL LETTER EN WITH MIDDLE HOOK",
    "09SMALL LETTER EN WITH MIDDLE HOOK;09CAPITAL LETTER PE WITH DESCENDER",
    "09SMALL LETTER PE WITH DESCENDER;09CAPITAL LETTER SHHA WITH DESCENDER",
    "09SMALL LETTER SHHA WITH DESCENDER;09CAPITAL LETTER EN WITH LEFT HOOK",
    "09SMALL LETTER EN WITH LEFT HOOK;09CAPITAL LETTER DZZHE;09SMALL LETTER DZZHE",
    "09CAPITAL LETTER DCHE;09SMALL LETTER DCHE;09CAPITAL LETTER EL WITH DESCENDER",
    "09SMALL LETTER EL WITH DESCENDER;+1;00ARMENIAN CAPITAL LETTER AYB;24BEN;24GIM;24DA;24ECH",
    "24ZA;24EH;25T;24TO;24ZHE;24INI;24LIWN;24XEH;24CA;24KEN;24HO;24JA;24GHAD;24CHEH;24MEN",
    "24YI;24NOW;24SHA;24VO;24CHA;24PEH;24JHEH;24RA;24SEH;24VEW;24TIWN;24REH;24CO;24YIWN",
    "24PIWR;24KEH;24OH;24FEH;+2;09MODIFIER LETTER LEFT HALF RING;09APOSTROPHE;09EMPHASIS MARK",
    "10XCLAMATION MARK;09COMMA;09QUESTION MARK;09ABBREVIATION MARK;09SMALL LETTER TURNED AYB",
    "22AYB;22BEN;22GIM;22DA;22ECH;22ZA;22EH;23T;22TO;22ZHE;22INI;22LIWN;22XEH;22CA;22KEN;22HO",
    "22JA;22GHAD;22CHEH;22MEN;22YI;22NOW;22SHA;22VO;22CHA;22PEH;22JHEH;22RA;22SEH;22VEW",
    "22TIWN;22REH;22CO;22YIWN;22PIWR;22KEH;22OH;22FEH;16IGATURE ECH YIWN",
    "16ETTER YI WITH STROKE;09FULL STOP;09HYPHEN;+2;00RIGHT-FACING ARMENIAN ETERNITY SIGN",
    "00LEFT-FACING ARMENIAN ETERNITY SIGN;00ARMENIAN DRAM SIGN;+1;00HEBREW ACCENT ETNAHTA",
    "14SEGOL;15HALSHELET;14ZAQEF QATAN;20GADOL;14TIPEHA;14REVIA;14ZARQA;14PASHTA;14YETIV",
    "14TEVIR;14GERESH;20 MUQDAM;17SHAYIM;14QARNEY PARA;14TELISHA GEDOLA;14PAZER",
    "14ATNAH HAFUKH;14MUNAH;15AHAPAKH;15ERKHA;20 KEFULA;14DARGA;14QADMA;14TELISHA QETANA",
    "14YERAH BEN YOMO;14OLE;14ILUY;14DEHI;14ZINOR;07MARK MASORA CIRCLE;07POINT SHEVA",
    "13HATAF SEGOL;19PATAH;19QAMATS;14IRIQ;13TSERE;13SEGOL;13PATAH;13QAMATS;13HOLAM",
    "18 HASER FOR VAV;13QUBUTS;13DAGESH OR MAPIQ;13METEG;08UNCTUATION MAQAF;08OINT RAFE",
    "08UNCTUATION PASEQ;08OINT SHIN DOT;14IN DOT;08UNCTUATION SOF PASUQ;07MARK UPPER DOT",
    "12LOWER DOT;07PUNCTUATION NUN HAFUKHA;08OINT QAMATS QATAN;+8;07LETTER ALEF;14BET;14GIMEL",
    "14DALET;14HE;14VAV;14ZAYIN;14HET;14TET;14YOD;14FINAL KAF;14KAF;14LAMED;14FINAL MEM;14MEM",
    "14FINAL NUN;14NUN;14SAMEKH;14AYIN;14FINAL PE;14PE;14FINAL TSADI;14TSADI;14QOF;14RESH",
    "14SHIN;14TAV;+4;07YOD TRIANGLE;07LIGATURE YIDDISH DOUBLE VAV;24VAV YOD;24DOUBLE YOD",
    "07PUNCTUATION GERESH;22SHAYIM;+B;00ARABIC NUMBER SIGN;07SIGN SANAH;07FOOTNOTE MARKER",
    "07SIGN SAFHA;14MVAT;07NUMBER MARK ABOVE;06-INDIC CUBE ROOT;13FOURTH ROOT;06 RAY",
    "06-INDIC PER MILLE SIGN;17TEN THOUSAND SIGN;01FGHANI SIGN;01RABIC COMMA;07DATE SEPARATOR",
    "07POETIC VERSE SIGN;07SIGN MISRA;12SALLALLAHOU ALAYHE WASSALLAM;12ALAYHE ASSALLAM",
    "12RAHMATULLAH ALAYHE;14DI ALLAHOU ANHU;12TAKHALLUS;08MALL HIGH TAH",
    "18LIGATURE ALEF WITH LAM WITH YEH;18ZAIN;13FATHA;13DAMMA;13KASRA;08EMICOLON",
    "07LETTER MARK;07END OF TEXT MARK;07TRIPLE DOT PUNCTUATION MARK;07QUESTION MARK",
    "07LETTER KASHMIRI YEH;14HAMZA;14ALEF WITH MADDA ABOVE;24HAMZA ABOVE",
    "14WAW WITH HAMZA ABOVE;14ALEF WITH HAMZA BELOW;14YEH WITH HAMZA ABOVE;14ALEF;14BEH",
    "14TEH MARBUTA;17;15HEH;14JEEM;14HAH;14KHAH;14DAL;14THAL;14REH;14ZAIN;14SEEN;15HEEN;15AD",
    "14DAD;14TAH;14ZAH;14AIN;14GHAIN;14KEHEH WITH TWO DOTS ABOVE;26HREE DOTS BELOW",
    "14FARSI YEH WITH INVERTED V;29TWO DOTS ABOVE;30HREE DOTS ABOVE;07TATWEEL;07LETTER FEH",
    "14QAF;14KAF;14LAM;14MEEM;14NOON;14HEH;14WAW;14ALEF MAKSURA;14YEH;07FATHATAN;07DAMMATAN",
    "07KASRATAN;07FATHA;07DAMMA;07KASRA;07SHADDA;08UKUN;07MADDAH ABOVE;07HAMZA ABOVE;13BELOW",
    "07SUBSCRIPT ALEF;07INVERTED DAMMA;07MARK NOON GHUNNA;07ZWARAKAY",
    "07VOWEL SIGN SMALL V ABOVE;18INVERTED SMALL V ABOVE;18DOT BELOW;07REVERSED DAMMA",
    "07FATHA WITH TWO DOTS;07WAVY HAMZA BELOW;06-INDIC DIGIT ZERO;19ONE;19TWO;20HREE;19FOUR",
    "20IVE;19SIX;20EVEN;19EIGHT;19NINE;06 PERCENT SIGN;07DECIMAL SEPARATOR",
    "07THOUSANDS SEPARATOR;07FIVE POINTED STAR;07LETTER DOTLESS BEH;22QAF;14SUPERSCRIPT ALEF",
    "14ALEF WASLA;20ITH WAVY HAMZA ABOVE;35BELOW;14HIGH HAMZA;24 ALEF;25WAW",
    "14U WITH HAMZA ABOVE;14HIGH HAMZA YEH;14TTEH;18EH;14BEEH;14TEH WITH RING",
    "23THREE DOTS ABOVE DOWNWARDS;14PEH;14TEHEH;14BEHEH;14HAH WITH HAMZA ABOVE",
    "23TWO DOTS VERTICAL ABOVE;14NYEH;14DYEH;14HAH WITH THREE DOTS ABOVE;14TCHEH;19EH;14DDAL",
    "15AL WITH RING;23DOT BELOW;32 AND SMALL TAH;16HAL;15DAHAL;15UL",
    "15AL WITH THREE DOTS ABOVE DOWNWARDS;23FOUR DOTS ABOVE;14RREH;15EH WITH SMALL V;23RING",
    "23DOT BELOW;23SMALL V BELOW;23DOT BELOW AND DOT ABOVE;23TWO DOTS ABOVE;14JEH",
    "14REH WITH FOUR DOTS ABOVE;14SEEN WITH DOT BELOW AND DOT ABOVE;24THREE DOTS BELOW",
    "40 AND THREE DOTS ABOVE;15AD WITH TWO DOTS BELOW;24HREE DOTS ABOVE",
    "14TAH WITH THREE DOTS ABOVE;14AIN WITH THREE DOTS ABOVE;14DOTLESS FEH",
    "14FEH WITH DOT MOVED BELOW;27BELOW;14VEH;14FEH WITH THREE DOTS BELOW;14PEHEH",
    "14QAF WITH DOT ABOVE;23THREE DOTS ABOVE;14KEHEH;14SWASH KAF;14KAF WITH RING;23DOT ABOVE",
    "14NG;14KAF WITH THREE DOTS BELOW;14GAF;17 WITH RING;14NGOEH;14GAF WITH TWO DOTS BELOW",
    "15UEH;15AF WITH THREE DOTS ABOVE;14LAM WITH SMALL V;23DOT ABOVE;23THREE DOTS ABOVE",
    "34BELOW;14NOON WITH DOT BELOW;19GHUNNA;14RNOON;14NOON WITH RING;24THREE DOTS ABOVE",
    "14HEH DOACHASHMEE;14TCHEH WITH DOT ABOVE;14HEH WITH YEH ABOVE;18GOAL;22 WITH HAMZA ABOVE",
    "14TEH MARBUTA GOAL;14WAW WITH RING;14KIRGHIZ OE;14OE;14U;14YU;14KIRGHIZ YU",
    "14WAW WITH TWO DOTS ABOVE;14VE;14FARSI YEH;14YEH WITH TAIL;23SMALL V",
    "14WAW WITH DOT ABOVE;14E;14YEH WITH THREE DOTS BELOW;18BARREE;24 WITH HAMZA ABOVE",
    "07FULL STOP;07LETTER AE;07SMALL HIGH LIGATURE SAD WITH LAM WITH ALEF MAKSURA",
    "27QAF WITH LAM WITH ALEF MAKSURA;18MEEM INITIAL FORM;18LAM ALEF;18JEEM;18THREE DOTS",
    "18SEEN;07END OF AYAH;07START OF RUB EL HIZB;08MALL HIGH ROUNDED ZERO",
    "18UPRIGHT RECTANGULAR ZERO;18DOTLESS HEAD OF KHAH;18MEEM ISOLATED FORM;13LOW SEEN",
    "13HIGH MADDA;13WAW;13YEH;13HIGH YEH;18NOON;07PLACE OF SAJDAH;07EMPTY CENTRE LOW STOP",
    "20HIGH STOP;07ROUNDED HIGH STOP WITH FILLED CENTRE;07SMALL LOW MEEM",
    "07LETTER DAL WITH INVERTED V;14REH WITH INVERTED V;00EXTENDED ARABIC-INDIC DIGIT ZERO",
    "28ONE;28TWO;29HREE;28FOUR;29IVE;28SIX;29EVEN;28EIGHT;28NINE",
    "00ARABIC LETTER SHEEN WITH DOT BELOW;14DAD WITH DOT BELOW;14GHAIN WITH DOT BELOW",
    "07SIGN SINDHI AMPERSAND;19POSTPOSITION MEN;07LETTER HEH WITH INVERTED V",
    "00SYRIAC END OF PARAGRAPH;07SUPRALINEAR FULL STOP;09BLINEAR FULL STOP;09PRALINEAR COLON",
    "09BLINEAR COLON;07HORIZONTAL COLON;07COLON SKEWED LEFT;20RIGHT",
    "07SUPRALINEAR COLON SKEWED LEFT;09BLINEAR COLON SKEWED RIGHT;07CONTRACTION",
    "07HARKLEAN OBELUS;16METOBELUS;16ASTERISCUS;+1;07ABBREVIATION MARK;07LETTER ALAPH",
    "14SUPERSCRIPT ALAPH;14BETH;14GAMAL;19 GARSHUNI;14DALATH;15OTLESS DALATH RISH;14HE;14WAW",
    "14ZAIN;14HETH;14TETH;18 GARSHUNI;14YUDH;18 HE;14KAPH;14LAMADH;14MIM;14NUN;14SEMKATH",
    "14FINAL SEMKATH;14E;14PE;14REVERSED PE;14SADHE;14QAPH;14RISH;14SHIN;14TAW",
    "14PERSIAN BHETH;22GHAMAL;22DHALATH;07PTHAHA ABOVE;14BELOW;14DOTTED;07ZQAPHA ABOVE",
    "14BELOW;14DOTTED;07RBASA ABOVE;13BELOW;07DOTTED ZLAMA HORIZONTAL;20ANGULAR;07HBASA ABOVE",
    "13BELOW;12-ESASA DOTTED;07ESASA ABOVE;13BELOW;07RWAHA;07FEMININE DOT;07QUSHSHAYA",
    "07RUKKAKHA;07TWO VERTICAL DOTS ABOVE;25BELOW;08HREE DOTS ABOVE;18BELOW",
    "07OBLIQUE LINE ABOVE;20BELOW;07MUSIC;07BARREKH;+2;07LETTER SOGDIAN ZHAIN;22KHAPH;22FE",
    "00ARABIC LETTER BEH WITH THREE DOTS HORIZONTALLY BELOW;23DOT BELOW AND THREE DOTS ABOVE",
    "23THREE DOTS POINTING UPWARDS BELOW;56 AND TWO DOTS ABOVE;24WO DOTS BELOW AND DOT ABOVE",
    "23INVERTED SMALL V BELOW;23SMALL V;14HAH WITH TWO DOTS ABOVE",
    "24HREE DOTS POINTING UPWARDS BELOW;14DAL WITH TWO DOTS VERTICALLY BELOW AND SMALL TAH",
    "23INVERTED SMALL V BELOW;14REH WITH STROKE;14SEEN WITH FOUR DOTS ABOVE",
    "14AIN WITH TWO DOTS ABOVE;24HREE DOTS POINTING DOWNWARDS ABOVE",
    "24WO DOTS VERTICALLY ABOVE;14FEH WITH TWO DOTS BELOW;24HREE DOTS POINTING UPWARDS BELOW",
    "14KEHEH WITH DOT ABOVE;25THREE DOTS ABOVE;36POINTING UPWARDS BELOW;14MEEM WITH DOT ABOVE",
    "28BELOW;14NOON WITH TWO DOTS BELOW;24SMALL TAH;30V;14LAM WITH BAR",
    "14REH WITH TWO DOTS VERTICALLY ABOVE;23HAMZA ABOVE;14SEEN WITH TWO DOTS VERTICALLY ABOVE",
    "14HAH WITH SMALL ARABIC LETTER TAH BELOW;47AND TWO DOTS",
    "14SEEN WITH SMALL ARABIC LETTER TAH AND TWO DOTS",
    "14REH WITH SMALL ARABIC LETTER TAH AND TWO DOTS;14HAH WITH SMALL ARABIC LETTER TAH ABOVE",
    "14ALEF WITH EXTENDED ARABIC-INDIC DIGIT TWO ABOVE;53HREE ABOVE",
    "14FARSI YEH WITH EXTENDED ARABIC-INDIC DIGIT TWO ABOVE;58HREE ABOVE;57FOUR BELOW",
    "14WAW WITH EXTENDED ARABIC-INDIC DIGIT TWO ABOVE;52HREE ABOVE",
    "14YEH BARREE WITH EXTENDED ARABIC-INDIC DIGIT TWO ABOVE;59HREE ABOVE",
    "14HAH WITH EXTENDED ARABIC-INDIC DIGIT FOUR BELOW",
    "14SEEN WITH EXTENDED ARABIC-INDIC DIGIT FOUR ABOVE;24INVERTED V",
    "14KAF WITH TWO DOTS ABOVE;00THAANA LETTER HAA;14SHAVIYANI;14NOONU;14RAA;14BAA",
    "14LHAVIYANI;14KAAFU;14ALIFU;14VAAVU;14MEEMU;14FAAFU;14DHAALU;14THAA;14LAAMU;14GAAFU",
    "15NAVIYANI;14SEENU;14DAVIYANI;14ZAVIYANI;14TAVIYANI;14YAA;14PAVIYANI;14JAVIYANI",
    "14CHAVIYANI;14TTAA;14HHAA;14KHAA;14THAALU;14ZAA;14SHEENU;15AADHU;14DAADHU;14TO;14ZO",
    "14AINU;14GHAINU;14QAAFU;14WAAVU;07ABAFILI;08ABAAFILI;07IBIFILI;07EEBEEFILI;07UBUFILI",
    "07OOBOOFILI;07EBEFILI;08YBEYFILI;07OBOFILI;08ABOAFILI;07SUKUN;07LETTER NAA;+E",
    "00NKO DIGIT ZERO;10ONE;10TWO;11HREE;10FOUR;11IVE;10SIX;11EVEN;10EIGHT;10NINE;04LETTER A",
    "11EE;11I;11E;11U;11OO;12;11DAGBASINNA;11N;11BA;11PA;11TA;11JA;11CHA;11DA;11RA;12RA;11SA",
    "11GBA;11FA;11KA;11LA;11NA WOLOSO;11MA;11NYA;12A;11HA;11WA;11YA;11NYA WOLOSO;11JONA JA",
    "16CHA;16RA;04COMBINING SHORT HIGH TONE;20LOW TONE;20RISING TONE;14LONG DESCENDING TONE",
    "19HIGH TONE;19LOW TONE;19RISING TONE;14NASALIZATION MARK;14DOUBLE DOT ABOVE",
    "04HIGH TONE APOSTROPHE;04LOW TONE APOSTROPHE;04SYMBOL OO DENNEN;11GBAKURUNEN;04COMMA",
    "04EXCLAMATION MARK;04LAJANYALAN;+2;04DANTAYALAN;05OROME SIGN;04TAMAN SIGN",
    "00SAMARITAN LETTER ALAF;17BIT;17GAMAN;17DALAT;17IY;17BAA;17ZEN;17IT;17TIT;17YUT;17KAAF",
    "17LABAT;17MIM;17NUN;17SINGAAT;17IN;17FI;17TSAADIY;17QUF;17RISH;17SHAN;17TAAF;10MARK IN",
    "17-ALAF;15OCCLUSION;15DAGESH;11ODIFIER LETTER EPENTHETIC YUT;11ARK EPENTHETIC YUT",
    "10VOWEL SIGN LONG E;21E;21OVERLONG AA;21LONG AA;21AA;21OVERLONG A;21LONG A;21A",
    "10MODIFIER LETTER SHORT A;10VOWEL SIGN SHORT A;21LONG U;21U;10MODIFIER LETTER I",
    "10VOWEL SIGN LONG I;21I;21O;21SUKUN;10MARK NEQUDAA;+2;10PUNCTUATION NEQUDAA;22AFSAAQ",
    "23NGED;22BAU;22ATMAAU;22SHIYYAALAA;10ABBREVIATION MARK;10PUNCTUATION MELODIC QITSA",
    "22ZIQAA;22QITSA;22ZAEF;22TURU;22ARKAANU;22SOF MASHFAAT;22ANNAAU;+1",
    "00MANDAIC LETTER HALQA;15AB;16G;16D;16H;15USHENNA;15AZ;15IT;15ATT;16KSA;17;16L;16M;16N",
    "16S;15IN;15AP;16SZ;16Q;16R;16SH;16T;15DUSHENNA;15KAD;15AIN;08AFFRICATION MARK",
    "08VOCALIZATION MARK;08GEMINATION MARK;+2;08PUNCTUATION;+1;00SYRIAC LETTER MALAYALAM NGA",
    "24JA;24NYA;24TTA;24NNA;26NA;24BHA;24RA;24LLA;26LA;24SSA;+5",
    "00ARABIC LETTER ALEF WITH ATTACHED FATHA;33TOP RIGHT FATHA;24RIGHT MIDDLE STROKE",
    "24LEFT MIDDLE STROKE;24ATTACHED KASRA;33BOTTOM RIGHT KASRA;33ROUND DOT ABOVE",
    "34IGHT ROUND DOT;33LEFT ROUND DOT;33ROUND DOT BELOW;24DOT ABOVE",
    "24ATTACHED TOP RIGHT FATHA AND DOT ABOVE;24RIGHT MIDDLE STROKE AND DOT ABOVE",
    "24ATTACHED BOTTOM RIGHT KASRA AND DOT ABOVE;33TOP RIGHT FATHA AND LEFT RING",
    "24RIGHT MIDDLE STROKE AND LEFT RING;24ATTACHED BOTTOM RIGHT KASRA AND LEFT RING",
    "33RIGHT HAMZA;33LEFT HAMZA;07TATWEEL WITH OVERSTRUCK HAMZA;31WAW;20TWO DOTS BELOW",
    "07LETTER THIN YEH;07BASELINE ROUND DOT;07RAISED ROUND DOT",
    "07LETTER NOON WITH INVERTED SMALL V;14HAH WITH INVERTED SMALL V BELOW",
    "14TAH WITH DOT BELOW;23THREE DOTS BELOW;14KEHEH WITH TWO DOTS VERTICALLY BELOW",
    "07VERTICAL TAIL;+1;07POUND MARK ABOVE;08IASTRE MARK ABOVE;+6;07SMALL HIGH WORD AL-JUZ",
    "13LOW WORD ISHMAAM;23MAALA;22TASHEEL;07MADDA WAAJIB;07SUPERSCRIPT ALEF MOKHASSAS",
    "07DOUBLED MADDA;07HALF MADDA OVER MADDA;07LETTER BEH WITH SMALL V BELOW;23HAMZA ABOVE",
    "14JEEM WITH TWO DOTS ABOVE;14TAH WITH TWO DOTS ABOVE",
    "14FEH WITH DOT BELOW AND THREE DOTS ABOVE;14QAF WITH DOT BELOW;14LAM WITH DOUBLE BAR",
    "14MEEM WITH THREE DOTS ABOVE;14YEH WITH TWO DOTS BELOW AND HAMZA ABOVE;42DOT ABOVE",
    "14REH WITH LOOP;14WAW WITH DOT WITHIN;14ROHINGYA YEH;14LOW ALEF",
    "14DAL WITH THREE DOTS BELOW;14SAD WITH THREE DOTS BELOW;14GAF WITH INVERTED STROKE",
    "14STRAIGHT WAW;14ZAIN WITH INVERTED V ABOVE;14AIN WITH THREE DOTS BELOW",
    "14KAF WITH DOT BELOW;14QAF WITH DOT BELOW AND NO DOTS ABOVE;14BEH WITH SMALL MEEM ABOVE",
    "14PEH WITH SMALL MEEM ABOVE;14TEH WITH SMALL TEH ABOVE;14REH WITH SMALL NOON ABOVE",
    "14YEH WITH TWO DOTS BELOW AND SMALL NOON ABOVE;14AFRICAN FEH;22QAF;22NOON",
    "14PEH WITH SMALL V;14TEH WITH SMALL V;15TEH WITH SMALL V;15CHEH WITH SMALL V",
    "14KEHEH WITH SMALL V;14GHAIN WITH THREE DOTS ABOVE;14AFRICAN QAF WITH THREE DOTS ABOVE",
    "14JEEM WITH THREE DOTS ABOVE;35BELOW;14LAM WITH SMALL ARABIC LETTER TAH ABOVE;14GRAF",
    "07SMALL FARSI YEH;13HIGH FARSI YEH;18YEH BARREE WITH TWO DOTS BELOW;18WORD SAH;18ZAH",
    "07LARGE ROUND DOT ABOVE;23BELOW;07SUKUN BELOW;07LARGE CIRCLE BELOW",
    "13ROUND DOT INSIDE CIRCLE BELOW;07SMALL LOW WAW;13HIGH WORD AR-RUB;18SAD;18AIN;18QAF",
    "18NOON WITH KASRA;13LOW NOON WITH KASRA;13HIGH WORD ATH-THALATHA;24S-SAJDA;24N-NISF",
    "23SAKTA;23QIF;23WAQFA;18FOOTNOTE MARKER;18SIGN SAFHA;07DISPUTED END OF AYAH",
    "07TURNED DAMMA BELOW;07CURLY FATHA;13DAMMA;13KASRA;13FATHATAN;13DAMMATAN;13KASRATAN",
    "07TONE ONE DOT ABOVE;12TWO DOTS ABOVE;12LOOP ABOVE;12ONE DOT BELOW;12TWO DOTS BELOW",
    "12LOOP BELOW;07OPEN FATHATAN;12DAMMATAN;12KASRATAN;07SMALL HIGH WAW;07FATHA WITH RING",
    "18DOT ABOVE;07KASRA WITH DOT BELOW;07LEFT ARROWHEAD ABOVE;07RIGHT ARROWHEAD ABOVE",
    "07LEFT ARROWHEAD BELOW;07RIGHT ARROWHEAD BELOW;07DOUBLE RIGHT ARROWHEAD ABOVE",
    "35 WITH DOT;07RIGHT ARROWHEAD ABOVE WITH DOT;07DAMMA WITH DOT",
    "07MARK SIDEWAYS NOON GHUNNA"
  ]

end ApiDoc.Text.CharacterName
