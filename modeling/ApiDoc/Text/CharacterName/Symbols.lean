import ApiDoc.Text.CharacterName.Coded

/-!
# Names of characters: Symbols

The names of punctuation, currency, arrows, mathematics and other symbols.
-/

namespace ApiDoc.Text.CharacterName

/-- The names of the characters from `2000` to `2bff`. -/
def symbols : Coded where
  first := 0x2000
  lines := [
    "00EN QUAD;01M QUAD;01N SPACE;01M SPACE;00THREE-PER-EM SPACE;00FOUR-PER-EM SPACE",
    "00SIX-PER-EM SPACE;00FIGURE SPACE;00PUNCTUATION SPACE;00THIN SPACE;00HAIR SPACE",
    "00ZERO WIDTH SPACE;11NON-JOINER;11JOINER;00LEFT-TO-RIGHT MARK;00RIGHT-TO-LEFT MARK",
    "00HYPHEN;00NON-BREAKING HYPHEN;00FIGURE DASH;00EN DASH;01M DASH;00HORIZONTAL BAR",
    "00DOUBLE VERTICAL LINE;07LOW LINE;00LEFT SINGLE QUOTATION MARK",
    "00RIGHT SINGLE QUOTATION MARK;00SINGLE LOW-9 QUOTATION MARK",
    "07HIGH-REVERSED-9 QUOTATION MARK;00LEFT DOUBLE QUOTATION MARK",
    "00RIGHT DOUBLE QUOTATION MARK;00DOUBLE LOW-9 QUOTATION MARK",
    "07HIGH-REVERSED-9 QUOTATION MARK;01AGGER;01OUBLE DAGGER;00BULLET;00TRIANGULAR BULLET",
    "00ONE DOT LEADER;00TWO DOT LEADER;00HORIZONTAL ELLIPSIS;01YPHENATION POINT",
    "00LINE SEPARATOR;00PARAGRAPH SEPARATOR;00LEFT-TO-RIGHT EMBEDDING",
    "00RIGHT-TO-LEFT EMBEDDING;00POP DIRECTIONAL FORMATTING;00LEFT-TO-RIGHT OVERRIDE",
    "00RIGHT-TO-LEFT OVERRIDE;00NARROW NO-BREAK SPACE;00PER MILLE SIGN;04TEN THOUSAND SIGN",
    "01RIME;00DOUBLE PRIME;00TRIPLE PRIME;00REVERSED PRIME;09DOUBLE PRIME;09TRIPLE PRIME",
    "00CARET;00SINGLE LEFT-POINTING ANGLE QUOTATION MARK",
    "07RIGHT-POINTING ANGLE QUOTATION MARK;00REFERENCE MARK;00DOUBLE EXCLAMATION MARK",
    "00INTERROBANG;00OVERLINE;00UNDERTIE;00CHARACTER TIE;01ARET INSERTION POINT;00ASTERISM",
    "00HYPHEN BULLET;00FRACTION SLASH;00LEFT SQUARE BRACKET WITH QUILL",
    "00RIGHT SQUARE BRACKET WITH QUILL;00DOUBLE QUESTION MARK;00QUESTION EXCLAMATION MARK",
    "00EXCLAMATION QUESTION MARK;00TIRONIAN SIGN ET;00REVERSED PILCROW SIGN",
    "00BLACK LEFTWARDS BULLET;06RIGHTWARDS BULLET;00LOW ASTERISK;00REVERSED SEMICOLON",
    "00CLOSE UP;00TWO ASTERISKS ALIGNED VERTICALLY;00COMMERCIAL MINUS SIGN;00SWUNG DASH",
    "00INVERTED UNDERTIE;00FLOWER PUNCTUATION MARK;00THREE DOT PUNCTUATION;00QUADRUPLE PRIME",
    "00FOUR DOT PUNCTUATION;01IVE DOT PUNCTUATION;00TWO DOT PUNCTUATION;00FOUR DOT MARK",
    "00DOTTED CROSS;00TRICOLON;00VERTICAL FOUR DOTS;00MEDIUM MATHEMATICAL SPACE;00WORD JOINER",
    "00FUNCTION APPLICATION;00INVISIBLE TIMES;10SEPARATOR;10PLUS;+1;00LEFT-TO-RIGHT ISOLATE",
    "00RIGHT-TO-LEFT ISOLATE;00FIRST STRONG ISOLATE;00POP DIRECTIONAL ISOLATE",
    "00INHIBIT SYMMETRIC SWAPPING;00ACTIVATE SYMMETRIC SWAPPING;00INHIBIT ARABIC FORM SHAPING",
    "00ACTIVATE ARABIC FORM SHAPING;00NATIONAL DIGIT SHAPES;01OMINAL DIGIT SHAPES",
    "00SUPERSCRIPT ZERO;12LATIN SMALL LETTER I;+2;12FOUR;13IVE;12SIX;13EVEN;12EIGHT;12NINE",
    "12PLUS SIGN;12MINUS;12EQUALS SIGN;12LEFT PARENTHESIS;12RIGHT PARENTHESIS",
    "12LATIN SMALL LETTER N;02BSCRIPT ZERO;10ONE;10TWO;11HREE;10FOUR;11IVE;10SIX;11EVEN",
    "10EIGHT;10NINE;10PLUS SIGN;10MINUS;10EQUALS SIGN;10LEFT PARENTHESIS;10RIGHT PARENTHESIS",
    "+1;00LATIN SUBSCRIPT SMALL LETTER A;29E;29O;29X;29SCHWA;29H;29K;29L;29M;29N;29P;29S;29T",
    "+3;00EURO-CURRENCY SIGN;00COLON SIGN;01RUZEIRO SIGN;00FRENCH FRANC SIGN;00LIRA SIGN",
    "00MILL SIGN;00NAIRA SIGN;00PESETA SIGN;00RUPEE SIGN;00WON SIGN;00NEW SHEQEL SIGN",
    "00DONG SIGN;00EURO SIGN;00KIP SIGN;00TUGRIK SIGN;00DRACHMA SIGN;00GERMAN PENNY SIGN",
    "00PESO SIGN;00GUARANI SIGN;00AUSTRAL SIGN;00HRYVNIA SIGN;00CEDI SIGN",
    "00LIVRE TOURNOIS SIGN;00SPESMILO SIGN;00TENGE SIGN;00INDIAN RUPEE SIGN",
    "00TURKISH LIRA SIGN;00NORDIC MARK SIGN;00MANAT SIGN;00RUBLE SIGN;00LARI SIGN",
    "00BITCOIN SIGN;00SOM SIGN;+F;00COMBINING LEFT HARPOON ABOVE;10RIGHT HARPOON ABOVE",
    "10LONG VERTICAL LINE OVERLAY;10SHORT VERTICAL LINE OVERLAY;10ANTICLOCKWISE ARROW ABOVE",
    "10CLOCKWISE ARROW ABOVE;10LEFT ARROW ABOVE;10RIGHT ARROW ABOVE;12NG OVERLAY",
    "10CLOCKWISE RING OVERLAY;10ANTICLOCKWISE RING OVERLAY;10THREE DOTS ABOVE",
    "10FOUR DOTS ABOVE;10ENCLOSING CIRCLE;20SQUARE;20DIAMOND;20CIRCLE BACKSLASH",
    "10LEFT RIGHT ARROW ABOVE;10ENCLOSING SCREEN;20KEYCAP;20UPWARD POINTING TRIANGLE",
    "10REVERSE SOLIDUS OVERLAY;10DOUBLE VERTICAL STROKE OVERLAY;10ANNUITY SYMBOL",
    "10TRIPLE UNDERDOT;10WIDE BRIDGE ABOVE;10LEFTWARDS ARROW OVERLAY",
    "11ONG DOUBLE SOLIDUS OVERLAY;10RIGHTWARDS HARPOON WITH BARB DOWNWARDS",
    "10LEFTWARDS HARPOON WITH BARB DOWNWARDS;14 ARROW BELOW;10RIGHT ARROW BELOW",
    "10ASTERISK ABOVE;+F;00ACCOUNT OF;01DDRESSED TO THE SUBJECT;00DOUBLE-STRUCK CAPITAL C",
    "01EGREE CELSIUS;00CENTRE LINE SYMBOL;01ARE OF;02DA UNA;00EULER CONSTANT;00SCRUPLE",
    "00DEGREE FAHRENHEIT;00SCRIPT SMALL G;07CAPITAL H;00BLACK-LETTER CAPITAL H",
    "00DOUBLE-STRUCK CAPITAL H;00PLANCK CONSTANT;15 OVER TWO PI;00SCRIPT CAPITAL I",
    "00BLACK-LETTER CAPITAL I;00SCRIPT CAPITAL L;07SMALL L;00L B BAR SYMBOL",
    "00DOUBLE-STRUCK CAPITAL N;00NUMERO SIGN;00SOUND RECORDING COPYRIGHT;01CRIPT CAPITAL P",
    "00DOUBLE-STRUCK CAPITAL P;22Q;00SCRIPT CAPITAL R;00BLACK-LETTER CAPITAL R",
    "00DOUBLE-STRUCK CAPITAL R;00PRESCRIPTION TAKE;00RESPONSE;00SERVICE MARK;00TELEPHONE SIGN",
    "01RADE MARK SIGN;00VERSICLE;00DOUBLE-STRUCK CAPITAL Z;00OUNCE SIGN;01HM SIGN",
    "00INVERTED OHM SIGN;00BLACK-LETTER CAPITAL Z;00TURNED GREEK SMALL LETTER IOTA",
    "00KELVIN SIGN;00ANGSTROM SIGN;00SCRIPT CAPITAL B;00BLACK-LETTER CAPITAL C",
    "00ESTIMATED SYMBOL;00SCRIPT SMALL E;07CAPITAL E;15F;00TURNED CAPITAL F",
    "00SCRIPT CAPITAL M;07SMALL O;00ALEF SYMBOL;00BET SYMBOL;00GIMEL SYMBOL;00DALET SYMBOL",
    "00INFORMATION SOURCE;00ROTATED CAPITAL Q;00FACSIMILE SIGN;00DOUBLE-STRUCK SMALL PI",
    "20GAMMA;14CAPITAL GAMMA;22PI;14N-ARY SUMMATION;00TURNED SANS-SERIF CAPITAL G;26L",
    "00REVERSED SANS-SERIF CAPITAL L;00TURNED SANS-SERIF CAPITAL Y",
    "00DOUBLE-STRUCK ITALIC CAPITAL D;21SMALL D;27E;27I;27J;00PROPERTY LINE",
    "00TURNED AMPERSAND;00PER SIGN;00AKTIESELSKAB;00TURNED SMALL F",
    "00SYMBOL FOR SAMARITAN SOURCE;00VULGAR FRACTION ONE SEVENTH;20NINTH;20TENTH;21HIRD",
    "16TWO THIRDS;16ONE FIFTH;16TWO FIFTHS;17HREE FIFTHS;16FOUR FIFTHS;16ONE SIXTH",
    "16FIVE SIXTHS;16ONE EIGHTH;16THREE EIGHTHS;16FIVE EIGHTHS;16SEVEN EIGHTHS",
    "00FRACTION NUMERATOR ONE;00ROMAN NUMERAL ONE;14TWO;15HREE;14FOUR;15IVE;14SIX;15EVEN",
    "14EIGHT;14NINE;14TEN;14ELEVEN;14TWELVE;14FIFTY;14ONE HUNDRED;14FIVE HUNDRED",
    "14ONE THOUSAND;00SMALL ROMAN NUMERAL ONE;20TWO;21HREE;20FOUR;21IVE;20SIX;21EVEN;20EIGHT",
    "20NINE;20TEN;20ELEVEN;20TWELVE;20FIFTY;20ONE HUNDRED;20FIVE HUNDRED;20ONE THOUSAND",
    "00ROMAN NUMERAL ONE THOUSAND C D;14FIVE THOUSAND;14TEN THOUSAND;14REVERSED ONE HUNDRED",
    "00LATIN SMALL LETTER REVERSED C;00ROMAN NUMERAL SIX LATE FORM;14FIFTY EARLY FORM",
    "20THOUSAND;14ONE HUNDRED THOUSAND;00VULGAR FRACTION ZERO THIRDS;00TURNED DIGIT TWO",
    "14HREE;+4;00LEFTWARDS ARROW;00UPWARDS ARROW;00RIGHTWARDS ARROW;00DOWNWARDS ARROW",
    "00LEFT RIGHT ARROW;00UP DOWN ARROW;00NORTH WEST ARROW;06EAST ARROW;00SOUTH EAST ARROW",
    "06WEST ARROW;00LEFTWARDS ARROW WITH STROKE;00RIGHTWARDS ARROW WITH STROKE",
    "00LEFTWARDS WAVE ARROW;00RIGHTWARDS WAVE ARROW;00LEFTWARDS TWO HEADED ARROW",
    "00UPWARDS TWO HEADED ARROW;00RIGHTWARDS TWO HEADED ARROW;00DOWNWARDS TWO HEADED ARROW",
    "00LEFTWARDS ARROW WITH TAIL;00RIGHTWARDS ARROW WITH TAIL;00LEFTWARDS ARROW FROM BAR",
    "00UPWARDS ARROW FROM BAR;00RIGHTWARDS ARROW FROM BAR;00DOWNWARDS ARROW FROM BAR",
    "00UP DOWN ARROW WITH BASE;00LEFTWARDS ARROW WITH HOOK;00RIGHTWARDS ARROW WITH HOOK",
    "00LEFTWARDS ARROW WITH LOOP;00RIGHTWARDS ARROW WITH LOOP;00LEFT RIGHT WAVE ARROW",
    "11ARROW WITH STROKE;00DOWNWARDS ZIGZAG ARROW;00UPWARDS ARROW WITH TIP LEFTWARDS",
    "23RIGHTWARDS;00DOWNWARDS ARROW WITH TIP LEFTWARDS;25RIGHTWARDS",
    "00RIGHTWARDS ARROW WITH CORNER DOWNWARDS;00DOWNWARDS ARROW WITH CORNER LEFTWARDS",
    "00ANTICLOCKWISE TOP SEMICIRCLE ARROW;00CLOCKWISE TOP SEMICIRCLE ARROW",
    "00NORTH WEST ARROW TO LONG BAR;00LEFTWARDS ARROW TO BAR OVER RIGHTWARDS ARROW TO BAR",
    "00ANTICLOCKWISE OPEN CIRCLE ARROW;00CLOCKWISE OPEN CIRCLE ARROW",
    "00LEFTWARDS HARPOON WITH BARB UPWARDS;28DOWNWARDS;00UPWARDS HARPOON WITH BARB RIGHTWARDS",
    "26LEFTWARDS;00RIGHTWARDS HARPOON WITH BARB UPWARDS;29DOWNWARDS",
    "00DOWNWARDS HARPOON WITH BARB RIGHTWARDS;28LEFTWARDS",
    "00RIGHTWARDS ARROW OVER LEFTWARDS ARROW;00UPWARDS ARROW LEFTWARDS OF DOWNWARDS ARROW",
    "00LEFTWARDS ARROW OVER RIGHTWARDS ARROW;10PAIRED ARROWS;00UPWARDS PAIRED ARROWS",
    "00RIGHTWARDS PAIRED ARROWS;00DOWNWARDS PAIRED ARROWS",
    "00LEFTWARDS HARPOON OVER RIGHTWARDS HARPOON;00RIGHTWARDS HARPOON OVER LEFTWARDS HARPOON",
    "00LEFTWARDS DOUBLE ARROW WITH STROKE;04 RIGHT DOUBLE ARROW WITH STROKE",
    "00RIGHTWARDS DOUBLE ARROW WITH STROKE;00LEFTWARDS DOUBLE ARROW;00UPWARDS DOUBLE ARROW",
    "00RIGHTWARDS DOUBLE ARROW;00DOWNWARDS DOUBLE ARROW;00LEFT RIGHT DOUBLE ARROW",
    "00UP DOWN DOUBLE ARROW;00NORTH WEST DOUBLE ARROW;06EAST DOUBLE ARROW",
    "00SOUTH EAST DOUBLE ARROW;06WEST DOUBLE ARROW;00LEFTWARDS TRIPLE ARROW",
    "00RIGHTWARDS TRIPLE ARROW;00LEFTWARDS SQUIGGLE ARROW;00RIGHTWARDS SQUIGGLE ARROW",
    "00UPWARDS ARROW WITH DOUBLE STROKE;00DOWNWARDS ARROW WITH DOUBLE STROKE",
    "00LEFTWARDS DASHED ARROW;00UPWARDS DASHED ARROW;00RIGHTWARDS DASHED ARROW",
    "00DOWNWARDS DASHED ARROW;00LEFTWARDS ARROW TO BAR;00RIGHTWARDS ARROW TO BAR",
    "00LEFTWARDS WHITE ARROW;00UPWARDS WHITE ARROW;00RIGHTWARDS WHITE ARROW",
    "00DOWNWARDS WHITE ARROW;00UPWARDS WHITE ARROW FROM BAR;20ON PEDESTAL",
    "31 WITH HORIZONTAL BAR;37VERTICAL BAR;14DOUBLE ARROW;26 ON PEDESTAL",
    "00RIGHTWARDS WHITE ARROW FROM WALL;00NORTH WEST ARROW TO CORNER",
    "00SOUTH EAST ARROW TO CORNER;00UP DOWN WHITE ARROW;00RIGHT ARROW WITH SMALL CIRCLE",
    "00DOWNWARDS ARROW LEFTWARDS OF UPWARDS ARROW;00THREE RIGHTWARDS ARROWS",
    "00LEFTWARDS ARROW WITH VERTICAL STROKE;00RIGHTWARDS ARROW WITH VERTICAL STROKE",
    "00LEFT RIGHT ARROW WITH VERTICAL STROKE;04WARDS ARROW WITH DOUBLE VERTICAL STROKE",
    "00RIGHTWARDS ARROW WITH DOUBLE VERTICAL STROKE",
    "00LEFT RIGHT ARROW WITH DOUBLE VERTICAL STROKE;04WARDS OPEN-HEADED ARROW",
    "00RIGHTWARDS OPEN-HEADED ARROW;00LEFT RIGHT OPEN-HEADED ARROW;00FOR ALL;00COMPLEMENT",
    "00PARTIAL DIFFERENTIAL;00THERE EXISTS;06DOES NOT EXIST;00EMPTY SET;00INCREMENT;00NABLA",
    "00ELEMENT OF;00NOT AN ELEMENT OF;00SMALL ELEMENT OF;00CONTAINS AS MEMBER",
    "00DOES NOT CONTAIN AS MEMBER;00SMALL CONTAINS AS MEMBER;00END OF PROOF;00N-ARY PRODUCT",
    "06COPRODUCT;06SUMMATION;00MINUS SIGN;05-OR-PLUS SIGN;00DOT PLUS;01IVISION SLASH",
    "00SET MINUS;00ASTERISK OPERATOR;00RING OPERATOR;00BULLET OPERATOR;00SQUARE ROOT",
    "00CUBE ROOT;00FOURTH ROOT;00PROPORTIONAL TO;00INFINITY;00RIGHT ANGLE;00ANGLE",
    "00MEASURED ANGLE;00SPHERICAL ANGLE;00DIVIDES;01OES NOT DIVIDE;00PARALLEL TO",
    "00NOT PARALLEL TO;00LOGICAL AND;08OR;00INTERSECTION;00UNION;00INTEGRAL;00DOUBLE INTEGRAL",
    "00TRIPLE INTEGRAL;00CONTOUR INTEGRAL;00SURFACE INTEGRAL;00VOLUME INTEGRAL",
    "00CLOCKWISE INTEGRAL;10CONTOUR INTEGRAL;00ANTICLOCKWISE CONTOUR INTEGRAL;00THEREFORE",
    "00BECAUSE;00RATIO;00PROPORTION;00DOT MINUS;00EXCESS;00GEOMETRIC PROPORTION;00HOMOTHETIC",
    "00TILDE OPERATOR;00REVERSED TILDE;00INVERTED LAZY S;00SINE WAVE;00WREATH PRODUCT",
    "00NOT TILDE;00MINUS TILDE;00ASYMPTOTICALLY EQUAL TO;00NOT ASYMPTOTICALLY EQUAL TO",
    "00APPROXIMATELY EQUAL TO;14BUT NOT ACTUALLY EQUAL TO",
    "00NEITHER APPROXIMATELY NOR ACTUALLY EQUAL TO;00ALMOST EQUAL TO;00NOT ALMOST EQUAL TO",
    "00ALMOST EQUAL OR EQUAL TO;00TRIPLE TILDE;00ALL EQUAL TO;00EQUIVALENT TO",
    "00GEOMETRICALLY EQUIVALENT TO;00DIFFERENCE BETWEEN;00APPROACHES THE LIMIT",
    "00GEOMETRICALLY EQUAL TO;00APPROXIMATELY EQUAL TO OR THE IMAGE OF",
    "00IMAGE OF OR APPROXIMATELY EQUAL TO;00COLON EQUALS;00EQUALS COLON;00RING IN EQUAL TO",
    "05EQUAL TO;00CORRESPONDS TO;00ESTIMATES;01QUIANGULAR TO;00STAR EQUALS;00DELTA EQUAL TO",
    "00EQUAL TO BY DEFINITION;00MEASURED BY;00QUESTIONED EQUAL TO;00NOT EQUAL TO",
    "00IDENTICAL TO;00NOT IDENTICAL TO;00STRICTLY EQUIVALENT TO;00LESS-THAN OR EQUAL TO",
    "00GREATER-THAN OR EQUAL TO;00LESS-THAN OVER EQUAL TO;00GREATER-THAN OVER EQUAL TO",
    "00LESS-THAN BUT NOT EQUAL TO;00GREATER-THAN BUT NOT EQUAL TO;00MUCH LESS-THAN",
    "05GREATER-THAN;00BETWEEN;00NOT EQUIVALENT TO;04LESS-THAN;04GREATER-THAN",
    "01EITHER LESS-THAN NOR EQUAL TO;08GREATER-THAN NOR EQUAL TO;00LESS-THAN OR EQUIVALENT TO",
    "00GREATER-THAN OR EQUIVALENT TO;00NEITHER LESS-THAN NOR EQUIVALENT TO",
    "08GREATER-THAN NOR EQUIVALENT TO;00LESS-THAN OR GREATER-THAN;00GREATER-THAN OR LESS-THAN",
    "00NEITHER LESS-THAN NOR GREATER-THAN;08GREATER-THAN NOR LESS-THAN;00PRECEDES;00SUCCEEDS",
    "00PRECEDES OR EQUAL TO;00SUCCEEDS OR EQUAL TO;00PRECEDES OR EQUIVALENT TO",
    "00SUCCEEDS OR EQUIVALENT TO;00DOES NOT PRECEDE;09SUCCEED;00SUBSET OF;02PERSET OF",
    "00NOT A SUBSET OF;08PERSET OF;00SUBSET OF OR EQUAL TO;02PERSET OF OR EQUAL TO",
    "00NEITHER A SUBSET OF NOR EQUAL TO;12PERSET OF NOR EQUAL TO",
    "00SUBSET OF WITH NOT EQUAL TO;02PERSET OF WITH NOT EQUAL TO;00MULTISET;08 MULTIPLICATION",
    "09UNION;00SQUARE IMAGE OF;07ORIGINAL OF;07IMAGE OF OR EQUAL TO;07ORIGINAL OF OR EQUAL TO",
    "07CAP;08UP;00CIRCLED PLUS;08MINUS;08TIMES;08DIVISION SLASH;09OT OPERATOR;08RING OPERATOR",
    "08ASTERISK OPERATOR;08EQUALS;08DASH;00SQUARED PLUS;08MINUS;08TIMES;08DOT OPERATOR",
    "00RIGHT TACK;00LEFT TACK;00DOWN TACK;00UP TACK;00ASSERTION;00MODELS;00TRUE;00FORCES",
    "00TRIPLE VERTICAL BAR RIGHT TURNSTILE;00DOUBLE VERTICAL BAR DOUBLE RIGHT TURNSTILE",
    "02ES NOT PROVE;00NOT TRUE;00DOES NOT FORCE",
    "00NEGATED DOUBLE VERTICAL BAR DOUBLE RIGHT TURNSTILE;00PRECEDES UNDER RELATION",
    "00SUCCEEDS UNDER RELATION;00NORMAL SUBGROUP OF;00CONTAINS AS NORMAL SUBGROUP",
    "00NORMAL SUBGROUP OF OR EQUAL TO;00CONTAINS AS NORMAL SUBGROUP OR EQUAL TO;00ORIGINAL OF",
    "00IMAGE OF;00MULTIMAP;00HERMITIAN CONJUGATE MATRIX;00INTERCALATE;00XOR;00NAND;01OR",
    "00RIGHT ANGLE WITH ARC;06TRIANGLE;00N-ARY LOGICAL AND;14OR;06INTERSECTION;06UNION",
    "00DIAMOND OPERATOR;01OT OPERATOR;00STAR OPERATOR;00DIVISION TIMES;00BOWTIE",
    "00LEFT NORMAL FACTOR SEMIDIRECT PRODUCT;00RIGHT NORMAL FACTOR SEMIDIRECT PRODUCT",
    "00LEFT SEMIDIRECT PRODUCT;00RIGHT SEMIDIRECT PRODUCT;01EVERSED TILDE EQUALS",
    "00CURLY LOGICAL OR;14AND;00DOUBLE SUBSET;09PERSET;07INTERSECTION;07UNION;00PITCHFORK",
    "00EQUAL AND PARALLEL TO;00LESS-THAN WITH DOT;00GREATER-THAN WITH DOT",
    "00VERY MUCH LESS-THAN;10GREATER-THAN;00LESS-THAN EQUAL TO OR GREATER-THAN",
    "00GREATER-THAN EQUAL TO OR LESS-THAN;00EQUAL TO OR LESS-THAN;12GREATER-THAN;12PRECEDES",
    "12SUCCEEDS;00DOES NOT PRECEDE OR EQUAL;09SUCCEED OR EQUAL",
    "00NOT SQUARE IMAGE OF OR EQUAL TO;11ORIGINAL OF OR EQUAL TO",
    "00SQUARE IMAGE OF OR NOT EQUAL TO;07ORIGINAL OF OR NOT EQUAL TO",
    "00LESS-THAN BUT NOT EQUIVALENT TO;00GREATER-THAN BUT NOT EQUIVALENT TO",
    "00PRECEDES BUT NOT EQUIVALENT TO;00SUCCEEDS BUT NOT EQUIVALENT TO",
    "00NOT NORMAL SUBGROUP OF;00DOES NOT CONTAIN AS NORMAL SUBGROUP",
    "00NOT NORMAL SUBGROUP OF OR EQUAL TO;00DOES NOT CONTAIN AS NORMAL SUBGROUP OR EQUAL",
    "00VERTICAL ELLIPSIS;00MIDLINE HORIZONTAL ELLIPSIS;00UP RIGHT DIAGONAL ELLIPSIS",
    "00DOWN RIGHT DIAGONAL ELLIPSIS;00ELEMENT OF WITH LONG HORIZONTAL STROKE",
    "16VERTICAL BAR AT END OF HORIZONTAL STROKE",
    "00SMALL ELEMENT OF WITH VERTICAL BAR AT END OF HORIZONTAL STROKE",
    "00ELEMENT OF WITH DOT ABOVE;16OVERBAR;00SMALL ELEMENT OF WITH OVERBAR",
    "00ELEMENT OF WITH UNDERBAR;16TWO HORIZONTAL STROKES",
    "00CONTAINS WITH LONG HORIZONTAL STROKE;14VERTICAL BAR AT END OF HORIZONTAL STROKE",
    "00SMALL CONTAINS WITH VERTICAL BAR AT END OF HORIZONTAL STROKE;00CONTAINS WITH OVERBAR",
    "00SMALL CONTAINS WITH OVERBAR;00Z NOTATION BAG MEMBERSHIP;00DIAMETER SIGN",
    "00ELECTRIC ARROW;00HOUSE;00UP ARROWHEAD;00DOWN ARROWHEAD;00PROJECTIVE;01ERSPECTIVE",
    "00WAVY LINE;00LEFT CEILING;00RIGHT CEILING;00LEFT FLOOR;00RIGHT FLOOR",
    "00BOTTOM RIGHT CROP;07LEFT CROP;00TOP RIGHT CROP;04LEFT CROP;00REVERSED NOT SIGN",
    "00SQUARE LOZENGE;00ARC;00SEGMENT;02CTOR;00TELEPHONE RECORDER;00POSITION INDICATOR",
    "00VIEWDATA SQUARE;00PLACE OF INTEREST SIGN;00TURNED NOT SIGN;00WATCH;00HOURGLASS",
    "00TOP LEFT CORNER;04RIGHT CORNER;00BOTTOM LEFT CORNER;07RIGHT CORNER;00TOP HALF INTEGRAL",
    "00BOTTOM HALF INTEGRAL;00FROWN;00SMILE;00UP ARROWHEAD BETWEEN TWO HORIZONTAL BARS",
    "00OPTION KEY;00ERASE TO THE RIGHT;00X IN A RECTANGLE BOX;00KEYBOARD",
    "00LEFT-POINTING ANGLE BRACKET;00RIGHT-POINTING ANGLE BRACKET;00ERASE TO THE LEFT",
    "00BENZENE RING;00CYLINDRICITY;00ALL AROUND-PROFILE;00SYMMETRY;00TOTAL RUNOUT",
    "00DIMENSION ORIGIN;00CONICAL TAPER;00SLOPE;00COUNTERBORE;07SINK",
    "00APL FUNCTIONAL SYMBOL I-BEAM;22SQUISH QUAD;22QUAD EQUAL;27DIVIDE;29AMOND;27JOT",
    "27CIRCLE;22CIRCLE STILE;29JOT;22SLASH BAR;22BACKSLASH BAR;22QUAD SLASH;27BACKSLASH",
    "27LESS-THAN;27GREATER-THAN;22LEFTWARDS VANE;22RIGHTWARDS VANE;22QUAD LEFTWARDS ARROW",
    "27RIGHTWARDS ARROW;22CIRCLE BACKSLASH;22DOWN TACK UNDERBAR;23ELTA STILE",
    "22QUAD DOWN CARET;28ELTA;22DOWN TACK JOT;22UPWARDS VANE;22QUAD UPWARDS ARROW",
    "22UP TACK OVERBAR;22DEL STILE;22QUAD UP CARET;27DEL;22UP TACK JOT;22DOWNWARDS VANE",
    "22QUAD DOWNWARDS ARROW;24OTE UNDERBAR;22DELTA UNDERBAR;23IAMOND UNDERBAR;22JOT UNDERBAR",
    "22CIRCLE UNDERBAR;22UP SHOE JOT;22QUOTE QUAD;22CIRCLE STAR;22QUAD COLON",
    "22UP TACK DIAERESIS;22DEL DIAERESIS;22STAR DIAERESIS;22JOT DIAERESIS;22CIRCLE DIAERESIS",
    "22DOWN SHOE STILE;22LEFT SHOE STILE;22TILDE DIAERESIS;22GREATER-THAN DIAERESIS",
    "22COMMA BAR;22DEL TILDE;22ZILDE;22STILE TILDE;23EMICOLON UNDERBAR;22QUAD NOT EQUAL",
    "27QUESTION;22DOWN CARET TILDE;22UP CARET TILDE;22IOTA;22RHO;22OMEGA;22ALPHA UNDERBAR",
    "22EPSILON UNDERBAR;22IOTA UNDERBAR;22OMEGA UNDERBAR;22ALPHA;00NOT CHECK MARK",
    "00RIGHT ANGLE WITH DOWNWARDS ZIGZAG ARROW;00SHOULDERED OPEN BOX;00BELL SYMBOL",
    "00VERTICAL LINE WITH MIDDLE DOT;00INSERTION SYMBOL;00CONTINUOUS UNDERLINE SYMBOL",
    "00DISCONTINUOUS UNDERLINE SYMBOL;00EMPHASIS SYMBOL;00COMPOSITION SYMBOL",
    "00WHITE SQUARE WITH CENTRE VERTICAL LINE;00ENTER SYMBOL;00ALTERNATIVE KEY SYMBOL",
    "00HELM SYMBOL;00CIRCLED HORIZONTAL BAR WITH NOTCH;08TRIANGLE DOWN",
    "00BROKEN CIRCLE WITH NORTHWEST ARROW;00UNDO SYMBOL;00MONOSTABLE SYMBOL",
    "00HYSTERESIS SYMBOL;00OPEN-CIRCUIT-OUTPUT H-TYPE SYMBOL;20L-TYPE SYMBOL",
    "00PASSIVE-PULL-DOWN-OUTPUT SYMBOL;13UP-OUTPUT SYMBOL;00DIRECT CURRENT SYMBOL FORM TWO",
    "00SOFTWARE-FUNCTION SYMBOL;00APL FUNCTIONAL SYMBOL QUAD;00DECIMAL SEPARATOR KEY SYMBOL",
    "00PREVIOUS PAGE;00NEXT PAGE;00PRINT SCREEN SYMBOL;00CLEAR SCREEN SYMBOL",
    "00LEFT PARENTHESIS UPPER HOOK;17EXTENSION;17LOWER HOOK;00RIGHT PARENTHESIS UPPER HOOK",
    "18EXTENSION;18LOWER HOOK;00LEFT SQUARE BRACKET UPPER CORNER;20EXTENSION;20LOWER CORNER",
    "00RIGHT SQUARE BRACKET UPPER CORNER;21EXTENSION;21LOWER CORNER",
    "00LEFT CURLY BRACKET UPPER HOOK;19MIDDLE PIECE;19LOWER HOOK;00CURLY BRACKET EXTENSION",
    "00RIGHT CURLY BRACKET UPPER HOOK;20MIDDLE PIECE;20LOWER HOOK;00INTEGRAL EXTENSION",
    "00HORIZONTAL LINE EXTENSION;00UPPER LEFT OR LOWER RIGHT CURLY BRACKET SECTION",
    "06RIGHT OR LOWER LEFT CURLY BRACKET SECTION;00SUMMATION TOP;10BOTTOM",
    "00TOP SQUARE BRACKET;00BOTTOM SQUARE BRACKET;21 OVER TOP SQUARE BRACKET",
    "00RADICAL SYMBOL BOTTOM;00LEFT VERTICAL BOX LINE;00RIGHT VERTICAL BOX LINE",
    "00HORIZONTAL SCAN LINE-1;213;217;219;00DENTISTRY SYMBOL LIGHT VERTICAL AND TOP RIGHT",
    "36BOTTOM RIGHT;32WITH CIRCLE;23DOWN AND HORIZONTAL WITH CIRCLE",
    "23UP AND HORIZONTAL WITH CIRCLE;23VERTICAL WITH TRIANGLE",
    "23DOWN AND HORIZONTAL WITH TRIANGLE;23UP AND HORIZONTAL WITH TRIANGLE",
    "23VERTICAL AND WAVE;23DOWN AND HORIZONTAL WITH WAVE;23UP AND HORIZONTAL WITH WAVE",
    "23DOWN AND HORIZONTAL;23UP AND HORIZONTAL;23VERTICAL AND TOP LEFT;36BOTTOM LEFT",
    "00SQUARE FOOT;00RETURN SYMBOL;00EJECT SYMBOL;00VERTICAL LINE EXTENSION;00METRICAL BREVE",
    "09LONG OVER SHORT;09SHORT OVER LONG;09LONG OVER TWO SHORTS;09TWO SHORTS OVER LONG",
    "20JOINED;10RISEME;10ETRASEME;09PENTASEME;00EARTH GROUND;00FUSE;00TOP PARENTHESIS",
    "00BOTTOM PARENTHESIS;00TOP CURLY BRACKET;00BOTTOM CURLY BRACKET",
    "00TOP TORTOISE SHELL BRACKET;00BOTTOM TORTOISE SHELL BRACKET;00WHITE TRAPEZIUM",
    "00BENZENE RING WITH CIRCLE;00STRAIGHTNESS;00FLATNESS;00AC CURRENT",
    "00ELECTRICAL INTERSECTION;00DECIMAL EXPONENT SYMBOL",
    "00BLACK RIGHT-POINTING DOUBLE TRIANGLE;06LEFT-POINTING DOUBLE TRIANGLE",
    "06UP-POINTING DOUBLE TRIANGLE;06DOWN-POINTING DOUBLE TRIANGLE",
    "06RIGHT-POINTING DOUBLE TRIANGLE WITH VERTICAL BAR",
    "06LEFT-POINTING DOUBLE TRIANGLE WITH VERTICAL BAR",
    "06RIGHT-POINTING TRIANGLE WITH DOUBLE VERTICAL BAR;00ALARM CLOCK;00STOPWATCH",
    "00TIMER CLOCK;00HOURGLASS WITH FLOWING SAND;00BLACK MEDIUM LEFT-POINTING TRIANGLE",
    "13RIGHT-POINTING TRIANGLE;13UP-POINTING TRIANGLE;13DOWN-POINTING TRIANGLE",
    "00DOUBLE VERTICAL BAR;00BLACK SQUARE FOR STOP;06CIRCLE FOR RECORD;00POWER SYMBOL",
    "06ON-OFF SYMBOL;08 SYMBOL;06SLEEP SYMBOL;00OBSERVER EYE SYMBOL;00SYMBOL FOR NULL",
    "11START OF HEADING;20TEXT;11END OF TEXT;19RANSMISSION;13QUIRY;11ACKNOWLEDGE;11BELL",
    "12ACKSPACE;11HORIZONTAL TABULATION;11LINE FEED;11VERTICAL TABULATION;11FORM FEED",
    "11CARRIAGE RETURN;11SHIFT OUT;17IN;11DATA LINK ESCAPE;12EVICE CONTROL ONE;26TWO;27HREE",
    "26FOUR;11NEGATIVE ACKNOWLEDGE;11SYNCHRONOUS IDLE;11END OF TRANSMISSION BLOCK;11CANCEL",
    "11END OF MEDIUM;11SUBSTITUTE;11ESCAPE;11FILE SEPARATOR;11GROUP SEPARATOR",
    "11RECORD SEPARATOR;11UNIT SEPARATOR;11SPACE;11DELETE;00BLANK SYMBOL;00OPEN BOX",
    "00SYMBOL FOR NEWLINE;11DELETE FORM TWO;11SUBSTITUTE FORM TWO;+19;00OCR HOOK;04CHAIR",
    "04FORK;04INVERTED FORK;04BELT BUCKLE;05OW TIE;05RANCH BANK IDENTIFICATION",
    "04AMOUNT OF CHECK;04DASH;04CUSTOMER ACCOUNT NUMBER;04DOUBLE BACKSLASH;+15",
    "00CIRCLED DIGIT ONE;14TWO;15HREE;14FOUR;15IVE;14SIX;15EVEN;14EIGHT;14NINE;08NUMBER TEN",
    "15ELEVEN;15TWELVE;16HIRTEEN;15FOURTEEN;16IFTEEN;15SIXTEEN;16EVENTEEN;15EIGHTEEN",
    "15NINETEEN;15TWENTY;00PARENTHESIZED DIGIT ONE;20TWO;21HREE;20FOUR;21IVE;20SIX;21EVEN",
    "20EIGHT;20NINE;14NUMBER TEN;21ELEVEN;21TWELVE;22HIRTEEN;21FOURTEEN;22IFTEEN;21SIXTEEN",
    "22EVENTEEN;21EIGHTEEN;21NINETEEN;21TWENTY;00DIGIT ONE FULL STOP;06TWO FULL STOP",
    "07HREE FULL STOP;06FOUR FULL STOP;07IVE FULL STOP;06SIX FULL STOP;07EVEN FULL STOP",
    "06EIGHT FULL STOP;06NINE FULL STOP;00NUMBER TEN FULL STOP;07ELEVEN FULL STOP",
    "07TWELVE FULL STOP;08HIRTEEN FULL STOP;07FOURTEEN FULL STOP;08IFTEEN FULL STOP",
    "07SIXTEEN FULL STOP;08EVENTEEN FULL STOP;07EIGHTEEN FULL STOP;07NINETEEN FULL STOP",
    "07TWENTY FULL STOP;00PARENTHESIZED LATIN SMALL LETTER A;33B;33C;33D;33E;33F;33G;33H;33I",
    "33J;33K;33L;33M;33N;33O;33P;33Q;33R;33S;33T;33U;33V;33W;33X;33Y;33Z",
    "00CIRCLED LATIN CAPITAL LETTER A;29B;29C;29D;29E;29F;29G;29H;29I;29J;29K;29L;29M;29N;29O",
    "29P;29Q;29R;29S;29T;29U;29V;29W;29X;29Y;29Z;14SMALL LETTER A;27B;27C;27D;27E;27F;27G;27H",
    "27I;27J;27K;27L;27M;27N;27O;27P;27Q;27R;27S;27T;27U;27V;27W;27X;27Y;27Z;08DIGIT ZERO",
    "00NEGATIVE CIRCLED NUMBER ELEVEN;24TWELVE;25HIRTEEN;24FOURTEEN;25IFTEEN;24SIXTEEN",
    "25EVENTEEN;24EIGHTEEN;24NINETEEN;24TWENTY;00DOUBLE CIRCLED DIGIT ONE;21TWO;22HREE;21FOUR",
    "22IVE;21SIX;22EVEN;21EIGHT;21NINE;15NUMBER TEN;00NEGATIVE CIRCLED DIGIT ZERO",
    "00BOX DRAWINGS LIGHT HORIZONTAL;13HEAVY HORIZONTAL;13LIGHT VERTICAL;13HEAVY VERTICAL",
    "13LIGHT TRIPLE DASH HORIZONTAL;13HEAVY TRIPLE DASH HORIZONTAL",
    "13LIGHT TRIPLE DASH VERTICAL;13HEAVY TRIPLE DASH VERTICAL",
    "13LIGHT QUADRUPLE DASH HORIZONTAL;13HEAVY QUADRUPLE DASH HORIZONTAL",
    "13LIGHT QUADRUPLE DASH VERTICAL;13HEAVY QUADRUPLE DASH VERTICAL;13LIGHT DOWN AND RIGHT",
    "13DOWN LIGHT AND RIGHT HEAVY;18HEAVY AND RIGHT LIGHT;13HEAVY DOWN AND RIGHT",
    "13LIGHT DOWN AND LEFT;13DOWN LIGHT AND LEFT HEAVY;18HEAVY AND LEFT LIGHT",
    "13HEAVY DOWN AND LEFT;13LIGHT UP AND RIGHT;13UP LIGHT AND RIGHT HEAVY",
    "16HEAVY AND RIGHT LIGHT;13HEAVY UP AND RIGHT;13LIGHT UP AND LEFT",
    "13UP LIGHT AND LEFT HEAVY;16HEAVY AND LEFT LIGHT;13HEAVY UP AND LEFT",
    "13LIGHT VERTICAL AND RIGHT;13VERTICAL LIGHT AND RIGHT HEAVY",
    "13UP HEAVY AND RIGHT DOWN LIGHT;13DOWN HEAVY AND RIGHT UP LIGHT",
    "13VERTICAL HEAVY AND RIGHT LIGHT;13DOWN LIGHT AND RIGHT UP HEAVY",
    "13UP LIGHT AND RIGHT DOWN HEAVY;13HEAVY VERTICAL AND RIGHT;13LIGHT VERTICAL AND LEFT",
    "13VERTICAL LIGHT AND LEFT HEAVY;13UP HEAVY AND LEFT DOWN LIGHT",
    "13DOWN HEAVY AND LEFT UP LIGHT;13VERTICAL HEAVY AND LEFT LIGHT",
    "13DOWN LIGHT AND LEFT UP HEAVY;13UP LIGHT AND LEFT DOWN HEAVY;13HEAVY VERTICAL AND LEFT",
    "13LIGHT DOWN AND HORIZONTAL;14EFT HEAVY AND RIGHT DOWN LIGHT",
    "13RIGHT HEAVY AND LEFT DOWN LIGHT;13DOWN LIGHT AND HORIZONTAL HEAVY",
    "18HEAVY AND HORIZONTAL LIGHT;13RIGHT LIGHT AND LEFT DOWN HEAVY",
    "13LEFT LIGHT AND RIGHT DOWN HEAVY;13HEAVY DOWN AND HORIZONTAL;13LIGHT UP AND HORIZONTAL",
    "14EFT HEAVY AND RIGHT UP LIGHT;13RIGHT HEAVY AND LEFT UP LIGHT",
    "13UP LIGHT AND HORIZONTAL HEAVY;16HEAVY AND HORIZONTAL LIGHT",
    "13RIGHT LIGHT AND LEFT UP HEAVY;13LEFT LIGHT AND RIGHT UP HEAVY",
    "13HEAVY UP AND HORIZONTAL;13LIGHT VERTICAL AND HORIZONTAL",
    "14EFT HEAVY AND RIGHT VERTICAL LIGHT;13RIGHT HEAVY AND LEFT VERTICAL LIGHT",
    "13VERTICAL LIGHT AND HORIZONTAL HEAVY;13UP HEAVY AND DOWN HORIZONTAL LIGHT",
    "13DOWN HEAVY AND UP HORIZONTAL LIGHT;13VERTICAL HEAVY AND HORIZONTAL LIGHT",
    "13LEFT UP HEAVY AND RIGHT DOWN LIGHT;13RIGHT UP HEAVY AND LEFT DOWN LIGHT",
    "13LEFT DOWN HEAVY AND RIGHT UP LIGHT;13RIGHT DOWN HEAVY AND LEFT UP LIGHT",
    "13DOWN LIGHT AND UP HORIZONTAL HEAVY;13UP LIGHT AND DOWN HORIZONTAL HEAVY",
    "13RIGHT LIGHT AND LEFT VERTICAL HEAVY;13LEFT LIGHT AND RIGHT VERTICAL HEAVY",
    "13HEAVY VERTICAL AND HORIZONTAL;13LIGHT DOUBLE DASH HORIZONTAL",
    "13HEAVY DOUBLE DASH HORIZONTAL;13LIGHT DOUBLE DASH VERTICAL;13HEAVY DOUBLE DASH VERTICAL",
    "13DOUBLE HORIZONTAL;20VERTICAL;15WN SINGLE AND RIGHT DOUBLE;18DOUBLE AND RIGHT SINGLE",
    "15UBLE DOWN AND RIGHT;15WN SINGLE AND LEFT DOUBLE;18DOUBLE AND LEFT SINGLE",
    "15UBLE DOWN AND LEFT;13UP SINGLE AND RIGHT DOUBLE;16DOUBLE AND RIGHT SINGLE",
    "13DOUBLE UP AND RIGHT;13UP SINGLE AND LEFT DOUBLE;16DOUBLE AND LEFT SINGLE",
    "13DOUBLE UP AND LEFT;13VERTICAL SINGLE AND RIGHT DOUBLE;22DOUBLE AND RIGHT SINGLE",
    "13DOUBLE VERTICAL AND RIGHT;13VERTICAL SINGLE AND LEFT DOUBLE;22DOUBLE AND LEFT SINGLE",
    "13DOUBLE VERTICAL AND LEFT;15WN SINGLE AND HORIZONTAL DOUBLE",
    "18DOUBLE AND HORIZONTAL SINGLE;15UBLE DOWN AND HORIZONTAL",
    "13UP SINGLE AND HORIZONTAL DOUBLE;16DOUBLE AND HORIZONTAL SINGLE",
    "13DOUBLE UP AND HORIZONTAL;13VERTICAL SINGLE AND HORIZONTAL DOUBLE",
    "22DOUBLE AND HORIZONTAL SINGLE;13DOUBLE VERTICAL AND HORIZONTAL",
    "13LIGHT ARC DOWN AND RIGHT;32LEFT;23UP AND LEFT;30RIGHT",
    "19DIAGONAL UPPER RIGHT TO LOWER LEFT;34LEFT TO LOWER RIGHT;28CROSS;19LEFT;19UP;19RIGHT",
    "19DOWN;13HEAVY LEFT;19UP;19RIGHT;19DOWN;13LIGHT LEFT AND HEAVY RIGHT;19UP AND HEAVY DOWN",
    "13HEAVY LEFT AND LIGHT RIGHT;19UP AND LIGHT DOWN;00UPPER HALF BLOCK",
    "00LOWER ONE EIGHTH BLOCK;10QUARTER BLOCK;06THREE EIGHTHS BLOCK;06HALF BLOCK",
    "06FIVE EIGHTHS BLOCK;06THREE QUARTERS BLOCK;06SEVEN EIGHTHS BLOCK;00FULL BLOCK",
    "00LEFT SEVEN EIGHTHS BLOCK;05THREE QUARTERS BLOCK;05FIVE EIGHTHS BLOCK;05HALF BLOCK",
    "05THREE EIGHTHS BLOCK;05ONE QUARTER BLOCK;09EIGHTH BLOCK;00RIGHT HALF BLOCK",
    "00LIGHT SHADE;00MEDIUM SHADE;00DARK SHADE;00UPPER ONE EIGHTH BLOCK",
    "00RIGHT ONE EIGHTH BLOCK;00QUADRANT LOWER LEFT;15RIGHT;09UPPER LEFT",
    "19 AND LOWER LEFT AND LOWER RIGHT;30RIGHT;24UPPER RIGHT AND LOWER LEFT;46RIGHT;15RIGHT",
    "20 AND LOWER LEFT;35 AND LOWER RIGHT;00BLACK SQUARE;00WHITE SQUARE",
    "12 WITH ROUNDED CORNERS;13CONTAINING BLACK SMALL SQUARE;00SQUARE WITH HORIZONTAL FILL",
    "12VERTICAL FILL;12ORTHOGONAL CROSSHATCH FILL;12UPPER LEFT TO LOWER RIGHT FILL",
    "18RIGHT TO LOWER LEFT FILL;12DIAGONAL CROSSHATCH FILL;00BLACK SMALL SQUARE",
    "00WHITE SMALL SQUARE;00BLACK RECTANGLE;00WHITE RECTANGLE;00BLACK VERTICAL RECTANGLE",
    "00WHITE VERTICAL RECTANGLE;00BLACK PARALLELOGRAM;00WHITE PARALLELOGRAM",
    "00BLACK UP-POINTING TRIANGLE;00WHITE UP-POINTING TRIANGLE",
    "00BLACK UP-POINTING SMALL TRIANGLE;00WHITE UP-POINTING SMALL TRIANGLE",
    "00BLACK RIGHT-POINTING TRIANGLE;00WHITE RIGHT-POINTING TRIANGLE",
    "00BLACK RIGHT-POINTING SMALL TRIANGLE;00WHITE RIGHT-POINTING SMALL TRIANGLE",
    "00BLACK RIGHT-POINTING POINTER;00WHITE RIGHT-POINTING POINTER",
    "00BLACK DOWN-POINTING TRIANGLE;00WHITE DOWN-POINTING TRIANGLE",
    "00BLACK DOWN-POINTING SMALL TRIANGLE;00WHITE DOWN-POINTING SMALL TRIANGLE",
    "00BLACK LEFT-POINTING TRIANGLE;00WHITE LEFT-POINTING TRIANGLE",
    "00BLACK LEFT-POINTING SMALL TRIANGLE;00WHITE LEFT-POINTING SMALL TRIANGLE",
    "00BLACK LEFT-POINTING POINTER;00WHITE LEFT-POINTING POINTER;00BLACK DIAMOND",
    "00WHITE DIAMOND;13 CONTAINING BLACK SMALL DIAMOND;00FISHEYE;00LOZENGE;00WHITE CIRCLE",
    "00DOTTED CIRCLE;00CIRCLE WITH VERTICAL FILL;00BULLSEYE;01LACK CIRCLE",
    "00CIRCLE WITH LEFT HALF BLACK;12RIGHT HALF BLACK;12LOWER HALF BLACK;12UPPER HALF BLACK",
    "18RIGHT QUADRANT BLACK;12ALL BUT UPPER LEFT QUADRANT BLACK;00LEFT HALF BLACK CIRCLE",
    "00RIGHT HALF BLACK CIRCLE;00INVERSE BULLET;08WHITE CIRCLE",
    "00UPPER HALF INVERSE WHITE CIRCLE;00LOWER HALF INVERSE WHITE CIRCLE",
    "00UPPER LEFT QUADRANT CIRCULAR ARC;06RIGHT QUADRANT CIRCULAR ARC",
    "00LOWER RIGHT QUADRANT CIRCULAR ARC;06LEFT QUADRANT CIRCULAR ARC;00UPPER HALF CIRCLE",
    "00LOWER HALF CIRCLE;00BLACK LOWER RIGHT TRIANGLE;12LEFT TRIANGLE;06UPPER LEFT TRIANGLE",
    "12RIGHT TRIANGLE;00WHITE BULLET;00SQUARE WITH LEFT HALF BLACK;12RIGHT HALF BLACK",
    "12UPPER LEFT DIAGONAL HALF BLACK;12LOWER RIGHT DIAGONAL HALF BLACK",
    "00WHITE SQUARE WITH VERTICAL BISECTING LINE;06UP-POINTING TRIANGLE WITH DOT",
    "00UP-POINTING TRIANGLE WITH LEFT HALF BLACK;26RIGHT HALF BLACK;00LARGE CIRCLE",
    "00WHITE SQUARE WITH UPPER LEFT QUADRANT;18LOWER LEFT QUADRANT;24RIGHT QUADRANT",
    "18UPPER RIGHT QUADRANT;06CIRCLE WITH UPPER LEFT QUADRANT;18LOWER LEFT QUADRANT",
    "24RIGHT QUADRANT;18UPPER RIGHT QUADRANT;00UPPER LEFT TRIANGLE;06RIGHT TRIANGLE",
    "00LOWER LEFT TRIANGLE;00WHITE MEDIUM SQUARE;00BLACK MEDIUM SQUARE",
    "00WHITE MEDIUM SMALL SQUARE;00BLACK MEDIUM SMALL SQUARE;00LOWER RIGHT TRIANGLE",
    "00BLACK SUN WITH RAYS;00CLOUD;00UMBRELLA;00SNOWMAN;00COMET;00BLACK STAR;00WHITE STAR",
    "00LIGHTNING;00THUNDERSTORM;00SUN;00ASCENDING NODE;00DESCENDING NODE;00CONJUNCTION",
    "00OPPOSITION;00BLACK TELEPHONE;00WHITE TELEPHONE;00BALLOT BOX;10 WITH CHECK;16X",
    "00SALTIRE;00UMBRELLA WITH RAIN DROPS;00HOT BEVERAGE;00WHITE SHOGI PIECE",
    "00BLACK SHOGI PIECE;00SHAMROCK;00REVERSED ROTATED FLORAL HEART BULLET",
    "00BLACK LEFT POINTING INDEX;06RIGHT POINTING INDEX;00WHITE LEFT POINTING INDEX",
    "06UP POINTING INDEX;06RIGHT POINTING INDEX;06DOWN POINTING INDEX;00SKULL AND CROSSBONES",
    "00CAUTION SIGN;00RADIOACTIVE SIGN;00BIOHAZARD SIGN;00CADUCEUS;00ANKH;00ORTHODOX CROSS",
    "00CHI RHO;01ROSS OF LORRAINE;09JERUSALEM;00STAR AND CRESCENT;00FARSI SYMBOL;00ADI SHAKTI",
    "00HAMMER AND SICKLE;00PEACE SYMBOL;00YIN YANG;00TRIGRAM FOR HEAVEN;12LAKE;12FIRE",
    "12THUNDER;12WIND;13ATER;12MOUNTAIN;12EARTH;00WHEEL OF DHARMA;02ITE FROWNING FACE",
    "06SMILING FACE;00BLACK SMILING FACE;00WHITE SUN WITH RAYS;00FIRST QUARTER MOON",
    "00LAST QUARTER MOON;00MERCURY;00FEMALE SIGN;00EARTH;00MALE SIGN;00JUPITER;00SATURN",
    "00URANUS;00NEPTUNE;00PLUTO;00ARIES;00TAURUS;00GEMINI;00CANCER;00LEO;00VIRGO;00LIBRA",
    "00SCORPIUS;01AGITTARIUS;00CAPRICORN;00AQUARIUS;00PISCES;00WHITE CHESS KING;12QUEEN",
    "12ROOK;12BISHOP;12KNIGHT;12PAWN;00BLACK CHESS KING;12QUEEN;12ROOK;12BISHOP;12KNIGHT",
    "12PAWN;06SPADE SUIT;00WHITE HEART SUIT;06DIAMOND SUIT;00BLACK CLUB SUIT",
    "00WHITE SPADE SUIT;00BLACK HEART SUIT;06DIAMOND SUIT;00WHITE CLUB SUIT;00HOT SPRINGS",
    "00QUARTER NOTE;00EIGHTH NOTE;00BEAMED EIGHTH NOTES;07SIXTEENTH NOTES;00MUSIC FLAT SIGN",
    "06NATURAL SIGN;06SHARP SIGN;00WEST SYRIAC CROSS;00EAST SYRIAC CROSS",
    "00UNIVERSAL RECYCLING SYMBOL;00RECYCLING SYMBOL FOR TYPE-1 PLASTICS;262 PLASTICS",
    "263 PLASTICS;264 PLASTICS;265 PLASTICS;266 PLASTICS;267 PLASTICS;21GENERIC MATERIALS",
    "00BLACK UNIVERSAL RECYCLING SYMBOL;00RECYCLED PAPER SYMBOL",
    "00PARTIALLY-RECYCLED PAPER SYMBOL;01ERMANENT PAPER SIGN;00WHEELCHAIR SYMBOL;00DIE FACE-1",
    "092;093;094;095;096;00WHITE CIRCLE WITH DOT RIGHT;18TWO DOTS",
    "00BLACK CIRCLE WITH WHITE DOT RIGHT;18TWO WHITE DOTS;00MONOGRAM FOR YANG;14IN",
    "00DIGRAM FOR GREATER YANG;11LESSER YIN;19ANG;11GREATER YIN;00WHITE FLAG;00BLACK FLAG",
    "00HAMMER AND PICK;00ANCHOR;00CROSSED SWORDS;00STAFF OF AESCULAPIUS;01CALES;00ALEMBIC",
    "00FLOWER;00GEAR;00STAFF OF HERMES;00ATOM SYMBOL;00FLEUR-DE-LIS;00OUTLINED WHITE STAR",
    "00THREE LINES CONVERGING RIGHT;23LEFT;00WARNING SIGN;00HIGH VOLTAGE SIGN",
    "00DOUBLED FEMALE SIGN;08MALE SIGN;00INTERLOCKED FEMALE AND MALE SIGN",
    "00MALE AND FEMALE SIGN;05WITH STROKE SIGN;17AND MALE AND FEMALE SIGN",
    "00VERTICAL MALE WITH STROKE SIGN;00HORIZONTAL MALE WITH STROKE SIGN",
    "00MEDIUM WHITE CIRCLE;07BLACK CIRCLE;07SMALL WHITE CIRCLE;01ARRIAGE SYMBOL",
    "00DIVORCE SYMBOL;00UNMARRIED PARTNERSHIP SYMBOL;00COFFIN;00FUNERAL URN;00NEUTER;00CERES",
    "00PALLAS;00JUNO;00VESTA;00CHIRON;00BLACK MOON LILITH;00SEXTILE;02MISEXTILE;00QUINCUNX",
    "00SESQUIQUADRATE;01OCCER BALL;00BASEBALL;00SQUARED KEY;00WHITE DRAUGHTS MAN;15KING",
    "00BLACK DRAUGHTS MAN;15KING;00SNOWMAN WITHOUT SNOW;01UN BEHIND CLOUD;00RAIN",
    "00BLACK SNOWMAN;00THUNDER CLOUD AND RAIN;01URNED WHITE SHOGI PIECE;07BLACK SHOGI PIECE",
    "00WHITE DIAMOND IN SQUARE;00CROSSING LANES;00DISABLED CAR;00OPHIUCHUS;00PICK",
    "00CAR SLIDING;00HELMET WITH WHITE CROSS;00CIRCLED CROSSING LANES;01HAINS;00NO ENTRY",
    "00ALTERNATE ONE-WAY LEFT WAY TRAFFIC;00BLACK TWO-WAY LEFT WAY TRAFFIC",
    "00WHITE TWO-WAY LEFT WAY TRAFFIC;00BLACK LEFT LANE MERGE;00WHITE LEFT LANE MERGE",
    "00DRIVE SLOW SIGN;00HEAVY WHITE DOWN-POINTING TRIANGLE;00LEFT CLOSED ENTRY",
    "00SQUARED SALTIRE;00FALLING DIAGONAL IN WHITE CIRCLE IN BLACK SQUARE;00BLACK TRUCK",
    "00RESTRICTED LEFT ENTRY-1;222;00ASTRONOMICAL SYMBOL FOR URANUS",
    "00HEAVY CIRCLE WITH STROKE AND TWO DOTS ABOVE;00PENTAGRAM",
    "00RIGHT-HANDED INTERLACED PENTAGRAM;00LEFT-HANDED INTERLACED PENTAGRAM",
    "00INVERTED PENTAGRAM;00BLACK CROSS ON SHIELD;00SHINTO SHRINE;00CHURCH;01ASTLE",
    "00HISTORIC SITE;00GEAR WITHOUT HUB;09 HANDLES;00MAP SYMBOL FOR LIGHTHOUSE;01OUNTAIN",
    "00UMBRELLA ON GROUND;00FOUNTAIN;01LAG IN HOLE;01ERRY;00SAILBOAT;01QUARE FOUR CORNERS",
    "01KIER;00ICE SKATE;00PERSON WITH BALL;00TENT;00JAPANESE BANK SYMBOL",
    "00HEADSTONE GRAVEYARD SYMBOL;00FUEL PUMP;00CUP ON BLACK SQUARE",
    "00WHITE FLAG WITH HORIZONTAL MIDDLE BLACK STRIPE;00BLACK SAFETY SCISSORS",
    "00UPPER BLADE SCISSORS;00BLACK SCISSORS;00LOWER BLADE SCISSORS;00WHITE SCISSORS",
    "06HEAVY CHECK MARK;00TELEPHONE LOCATION SIGN;01APE DRIVE;00AIRPLANE;00ENVELOPE",
    "00RAISED FIST;07HAND;00VICTORY HAND;00WRITING HAND;00LOWER RIGHT PENCIL;00PENCIL",
    "00UPPER RIGHT PENCIL;00WHITE NIB;00BLACK NIB;00CHECK MARK;00HEAVY CHECK MARK",
    "00MULTIPLICATION X;00HEAVY MULTIPLICATION X;00BALLOT X;00HEAVY BALLOT X",
    "00OUTLINED GREEK CROSS;00HEAVY GREEK CROSS;00OPEN CENTRE CROSS;00HEAVY OPEN CENTRE CROSS",
    "00LATIN CROSS;00SHADOWED WHITE LATIN CROSS;00OUTLINED LATIN CROSS;00MALTESE CROSS",
    "00STAR OF DAVID;00FOUR TEARDROP-SPOKED ASTERISK;05BALLOON-SPOKED ASTERISK",
    "00HEAVY FOUR BALLOON-SPOKED ASTERISK;00FOUR CLUB-SPOKED ASTERISK",
    "00BLACK FOUR POINTED STAR;00WHITE FOUR POINTED STAR;00SPARKLES",
    "01TRESS OUTLINED WHITE STAR;00CIRCLED WHITE STAR;00OPEN CENTRE BLACK STAR",
    "00BLACK CENTRE WHITE STAR;00OUTLINED BLACK STAR;00HEAVY OUTLINED BLACK STAR",
    "00PINWHEEL STAR;00SHADOWED WHITE STAR;00HEAVY ASTERISK;00OPEN CENTRE ASTERISK",
    "00EIGHT SPOKED ASTERISK;06POINTED BLACK STAR;14PINWHEEL STAR;00SIX POINTED BLACK STAR",
    "00EIGHT POINTED RECTILINEAR BLACK STAR;00HEAVY EIGHT POINTED RECTILINEAR BLACK STAR",
    "00TWELVE POINTED BLACK STAR;00SIXTEEN POINTED ASTERISK;00TEARDROP-SPOKED ASTERISK",
    "00OPEN CENTRE TEARDROP-SPOKED ASTERISK;00HEAVY TEARDROP-SPOKED ASTERISK",
    "00SIX PETALLED BLACK AND WHITE FLORETTE;00BLACK FLORETTE;00WHITE FLORETTE",
    "00EIGHT PETALLED OUTLINED BLACK FLORETTE;00CIRCLED OPEN CENTRE EIGHT POINTED STAR",
    "00HEAVY TEARDROP-SPOKED PINWHEEL ASTERISK;00SNOWFLAKE;00TIGHT TRIFOLIATE SNOWFLAKE",
    "00HEAVY CHEVRON SNOWFLAKE;00SPARKLE;00HEAVY SPARKLE;00BALLOON-SPOKED ASTERISK",
    "00EIGHT TEARDROP-SPOKED PROPELLER ASTERISK",
    "00HEAVY EIGHT TEARDROP-SPOKED PROPELLER ASTERISK;00CROSS MARK;00SHADOWED WHITE CIRCLE",
    "00NEGATIVE SQUARED CROSS MARK;00LOWER RIGHT DROP-SHADOWED WHITE SQUARE",
    "00UPPER RIGHT DROP-SHADOWED WHITE SQUARE;00LOWER RIGHT SHADOWED WHITE SQUARE",
    "00UPPER RIGHT SHADOWED WHITE SQUARE;00BLACK QUESTION MARK ORNAMENT",
    "00WHITE QUESTION MARK ORNAMENT;06EXCLAMATION MARK ORNAMENT;00BLACK DIAMOND MINUS WHITE X",
    "00HEAVY EXCLAMATION MARK SYMBOL;00LIGHT VERTICAL BAR;00MEDIUM VERTICAL BAR",
    "00HEAVY VERTICAL BAR;06SINGLE TURNED COMMA QUOTATION MARK ORNAMENT",
    "13COMMA QUOTATION MARK ORNAMENT;06DOUBLE TURNED COMMA QUOTATION MARK ORNAMENT",
    "13COMMA QUOTATION MARK ORNAMENT;06LOW SINGLE COMMA QUOTATION MARK ORNAMENT",
    "10DOUBLE COMMA QUOTATION MARK ORNAMENT;00CURVED STEM PARAGRAPH SIGN ORNAMENT",
    "00HEAVY EXCLAMATION MARK ORNAMENT;06HEART EXCLAMATION MARK ORNAMENT;06BLACK HEART",
    "00ROTATED HEAVY BLACK HEART BULLET;00FLORAL HEART;00ROTATED FLORAL HEART BULLET",
    "00MEDIUM LEFT PARENTHESIS ORNAMENT;07RIGHT PARENTHESIS ORNAMENT",
    "07FLATTENED LEFT PARENTHESIS ORNAMENT;17RIGHT PARENTHESIS ORNAMENT",
    "07LEFT-POINTING ANGLE BRACKET ORNAMENT;07RIGHT-POINTING ANGLE BRACKET ORNAMENT",
    "00HEAVY LEFT-POINTING ANGLE QUOTATION MARK ORNAMENT",
    "06RIGHT-POINTING ANGLE QUOTATION MARK ORNAMENT;06LEFT-POINTING ANGLE BRACKET ORNAMENT",
    "06RIGHT-POINTING ANGLE BRACKET ORNAMENT;00LIGHT LEFT TORTOISE SHELL BRACKET ORNAMENT",
    "06RIGHT TORTOISE SHELL BRACKET ORNAMENT;00MEDIUM LEFT CURLY BRACKET ORNAMENT",
    "07RIGHT CURLY BRACKET ORNAMENT;00DINGBAT NEGATIVE CIRCLED DIGIT ONE;31TWO;32HREE;31FOUR",
    "32IVE;31SIX;32EVEN;31EIGHT;31NINE;25NUMBER TEN;08CIRCLED SANS-SERIF DIGIT ONE;33TWO",
    "34HREE;33FOUR;34IVE;33SIX;34EVEN;33EIGHT;33NINE;27NUMBER TEN",
    "08NEGATIVE CIRCLED SANS-SERIF DIGIT ONE;42TWO;43HREE;42FOUR;43IVE;42SIX;43EVEN;42EIGHT",
    "42NINE;36NUMBER TEN;00HEAVY WIDE-HEADED RIGHTWARDS ARROW;06PLUS SIGN;06MINUS SIGN",
    "06DIVISION SIGN;06SOUTH EAST ARROW;06RIGHTWARDS ARROW;06NORTH EAST ARROW",
    "00DRAFTING POINT RIGHTWARDS ARROW;00HEAVY ROUND-TIPPED RIGHTWARDS ARROW",
    "00TRIANGLE-HEADED RIGHTWARDS ARROW;00HEAVY TRIANGLE-HEADED RIGHTWARDS ARROW",
    "00DASHED TRIANGLE-HEADED RIGHTWARDS ARROW",
    "00HEAVY DASHED TRIANGLE-HEADED RIGHTWARDS ARROW;00BLACK RIGHTWARDS ARROW",
    "00THREE-D TOP-LIGHTED RIGHTWARDS ARROWHEAD;08BOTTOM-LIGHTED RIGHTWARDS ARROWHEAD",
    "00BLACK RIGHTWARDS ARROWHEAD;00HEAVY BLACK CURVED DOWNWARDS AND RIGHTWARDS ARROW",
    "19UPWARDS AND RIGHTWARDS ARROW;00SQUAT BLACK RIGHTWARDS ARROW",
    "00HEAVY CONCAVE-POINTED BLACK RIGHTWARDS ARROW;00RIGHT-SHADED WHITE RIGHTWARDS ARROW",
    "00LEFT-SHADED WHITE RIGHTWARDS ARROW;00BACK-TILTED SHADOWED WHITE RIGHTWARDS ARROW",
    "00FRONT-TILTED SHADOWED WHITE RIGHTWARDS ARROW",
    "00HEAVY LOWER RIGHT-SHADOWED WHITE RIGHTWARDS ARROW",
    "06UPPER RIGHT-SHADOWED WHITE RIGHTWARDS ARROW",
    "00NOTCHED LOWER RIGHT-SHADOWED WHITE RIGHTWARDS ARROW;00CURLY LOOP",
    "00NOTCHED UPPER RIGHT-SHADOWED WHITE RIGHTWARDS ARROW",
    "00CIRCLED HEAVY WHITE RIGHTWARDS ARROW;00WHITE-FEATHERED RIGHTWARDS ARROW",
    "00BLACK-FEATHERED SOUTH EAST ARROW;16RIGHTWARDS ARROW;16NORTH EAST ARROW",
    "00HEAVY BLACK-FEATHERED SOUTH EAST ARROW;22RIGHTWARDS ARROW;22NORTH EAST ARROW",
    "00TEARDROP-BARBED RIGHTWARDS ARROW;00HEAVY TEARDROP-SHANKED RIGHTWARDS ARROW",
    "00WEDGE-TAILED RIGHTWARDS ARROW;00HEAVY WEDGE-TAILED RIGHTWARDS ARROW",
    "00OPEN-OUTLINED RIGHTWARDS ARROW;00DOUBLE CURLY LOOP;00THREE DIMENSIONAL ANGLE",
    "00WHITE TRIANGLE CONTAINING SMALL WHITE TRIANGLE;00PERPENDICULAR;00OPEN SUBSET;07PERSET",
    "00LEFT S-SHAPED BAG DELIMITER;00RIGHT S-SHAPED BAG DELIMITER;00OR WITH DOT INSIDE",
    "00REVERSE SOLIDUS PRECEDING SUBSET;00SUPERSET PRECEDING SOLIDUS",
    "00VERTICAL BAR WITH HORIZONTAL STROKE;00MATHEMATICAL RISING DIAGONAL;00LONG DIVISION",
    "00MATHEMATICAL FALLING DIAGONAL;00SQUARED LOGICAL AND;16OR",
    "00WHITE DIAMOND WITH CENTRED DOT;00AND WITH DOT;00ELEMENT OF OPENING UPWARDS",
    "00LOWER RIGHT CORNER WITH DOT;00UPPER LEFT CORNER WITH DOT;00LEFT OUTER JOIN",
    "00RIGHT OUTER JOIN;00FULL OUTER JOIN;00LARGE UP TACK;06DOWN TACK",
    "01EFT AND RIGHT DOUBLE TURNSTILE;15TACK;05MULTIMAP;01ONG RIGHT TACK;05LEFT TACK",
    "00UP TACK WITH CIRCLE ABOVE;00LOZENGE DIVIDED BY HORIZONTAL RULE",
    "00WHITE CONCAVE-SIDED DIAMOND;27 WITH LEFTWARDS TICK;33RIGHTWARDS TICK",
    "06SQUARE WITH LEFTWARDS TICK;18RIGHTWARDS TICK;00MATHEMATICAL LEFT WHITE SQUARE BRACKET",
    "13RIGHT WHITE SQUARE BRACKET;13LEFT ANGLE BRACKET;13RIGHT ANGLE BRACKET",
    "13LEFT DOUBLE ANGLE BRACKET;13RIGHT DOUBLE ANGLE BRACKET",
    "13LEFT WHITE TORTOISE SHELL BRACKET;13RIGHT WHITE TORTOISE SHELL BRACKET",
    "13LEFT FLATTENED PARENTHESIS;13RIGHT FLATTENED PARENTHESIS;00UPWARDS QUADRUPLE ARROW",
    "00DOWNWARDS QUADRUPLE ARROW;00ANTICLOCKWISE GAPPED CIRCLE ARROW",
    "00CLOCKWISE GAPPED CIRCLE ARROW;00RIGHT ARROW WITH CIRCLED PLUS;00LONG LEFTWARDS ARROW",
    "05RIGHTWARDS ARROW;05LEFT RIGHT ARROW;09WARDS DOUBLE ARROW;05RIGHTWARDS DOUBLE ARROW",
    "05LEFT RIGHT DOUBLE ARROW;09WARDS ARROW FROM BAR;05RIGHTWARDS ARROW FROM BAR",
    "05LEFTWARDS DOUBLE ARROW FROM BAR;05RIGHTWARDS DOUBLE ARROW FROM BAR;16SQUIGGLE ARROW",
    "00BRAILLE PATTERN BLANK;16DOTS-1;212;2112;213;2113;2123;21123;214;2114;2124;21124;2134",
    "21134;21234;211234;215;2115;2125;21125;2135;21135;21235;211235;2145;21145;21245;211245",
    "21345;211345;212345;2112345;216;2116;2126;21126;2136;21136;21236;211236;2146;21146;21246",
    "211246;21346;211346;212346;2112346;2156;21156;21256;211256;21356;211356;212356;2112356",
    "21456;211456;212456;2112456;213456;2113456;2123456;21123456;217;2117;2127;21127;2137",
    "21137;21237;211237;2147;21147;21247;211247;21347;211347;212347;2112347;2157;21157;21257",
    "211257;21357;211357;212357;2112357;21457;211457;212457;2112457;213457;2113457;2123457",
    "21123457;2167;21167;21267;211267;21367;211367;212367;2112367;21467;211467;212467;2112467",
    "213467;2113467;2123467;21123467;21567;211567;212567;2112567;213567;2113567;2123567",
    "21123567;214567;2114567;2124567;21124567;2134567;21134567;21234567;211234567;218;2118",
    "2128;21128;2138;21138;21238;211238;2148;21148;21248;211248;21348;211348;212348;2112348",
    "2158;21158;21258;211258;21358;211358;212358;2112358;21458;211458;212458;2112458;213458",
    "2113458;2123458;21123458;2168;21168;21268;211268;21368;211368;212368;2112368;21468",
    "211468;212468;2112468;213468;2113468;2123468;21123468;21568;211568;212568;2112568;213568",
    "2113568;2123568;21123568;214568;2114568;2124568;21124568;2134568;21134568;21234568",
    "211234568;2178;21178;21278;211278;21378;211378;212378;2112378;21478;211478;212478",
    "2112478;213478;2113478;2123478;21123478;21578;211578;212578;2112578;213578;2113578",
    "2123578;21123578;214578;2114578;2124578;21124578;2134578;21134578;21234578;211234578",
    "21678;211678;212678;2112678;213678;2113678;2123678;21123678;214678;2114678;2124678",
    "21124678;2134678;21134678;21234678;211234678;215678;2115678;2125678;21125678;2135678",
    "21135678;21235678;211235678;2145678;21145678;21245678;211245678;21345678;211345678",
    "212345678;2112345678;00RIGHTWARDS TWO-HEADED ARROW WITH VERTICAL STROKE",
    "33DOUBLE VERTICAL STROKE;00LEFTWARDS DOUBLE ARROW WITH VERTICAL STROKE",
    "00RIGHTWARDS DOUBLE ARROW WITH VERTICAL STROKE",
    "00LEFT RIGHT DOUBLE ARROW WITH VERTICAL STROKE;00RIGHTWARDS TWO-HEADED ARROW FROM BAR",
    "00LEFTWARDS DOUBLE ARROW FROM BAR;00RIGHTWARDS DOUBLE ARROW FROM BAR",
    "00DOWNWARDS ARROW WITH HORIZONTAL STROKE;00UPWARDS ARROW WITH HORIZONTAL STROKE",
    "08TRIPLE ARROW;00DOWNWARDS TRIPLE ARROW;00LEFTWARDS DOUBLE DASH ARROW",
    "00RIGHTWARDS DOUBLE DASH ARROW;00LEFTWARDS TRIPLE DASH ARROW",
    "00RIGHTWARDS TRIPLE DASH ARROW;12WO-HEADED TRIPLE DASH ARROW;11ARROW WITH DOTTED STEM",
    "00UPWARDS ARROW TO BAR;00DOWNWARDS ARROW TO BAR",
    "00RIGHTWARDS ARROW WITH TAIL WITH VERTICAL STROKE;32DOUBLE VERTICAL STROKE",
    "11TWO-HEADED ARROW WITH TAIL;37 WITH VERTICAL STROKE;43DOUBLE VERTICAL STROKE",
    "00LEFTWARDS ARROW-TAIL;00RIGHTWARDS ARROW-TAIL;00LEFTWARDS DOUBLE ARROW-TAIL",
    "00RIGHTWARDS DOUBLE ARROW-TAIL;00LEFTWARDS ARROW TO BLACK DIAMOND",
    "00RIGHTWARDS ARROW TO BLACK DIAMOND;00LEFTWARDS ARROW FROM BAR TO BLACK DIAMOND",
    "00RIGHTWARDS ARROW FROM BAR TO BLACK DIAMOND;00NORTH WEST AND SOUTH EAST ARROW",
    "06EAST AND SOUTH WEST ARROW;06WEST ARROW WITH HOOK;06EAST ARROW WITH HOOK",
    "00SOUTH EAST ARROW WITH HOOK;06WEST ARROW WITH HOOK",
    "00NORTH WEST ARROW AND NORTH EAST ARROW;06EAST ARROW AND SOUTH EAST ARROW",
    "00SOUTH EAST ARROW AND SOUTH WEST ARROW;06WEST ARROW AND NORTH WEST ARROW",
    "00RISING DIAGONAL CROSSING FALLING DIAGONAL;00FALLING DIAGONAL CROSSING RISING DIAGONAL",
    "00SOUTH EAST ARROW CROSSING NORTH EAST ARROW",
    "00NORTH EAST ARROW CROSSING SOUTH EAST ARROW",
    "00FALLING DIAGONAL CROSSING NORTH EAST ARROW;00RISING DIAGONAL CROSSING SOUTH EAST ARROW",
    "00NORTH EAST ARROW CROSSING NORTH WEST ARROW;06WEST ARROW CROSSING NORTH EAST ARROW",
    "00WAVE ARROW POINTING DIRECTLY RIGHT;00ARROW POINTING RIGHTWARDS THEN CURVING UPWARDS",
    "39DOWNWARDS;15DOWNWARDS THEN CURVING LEFTWARDS;38RIGHTWARDS",
    "00RIGHT-SIDE ARC CLOCKWISE ARROW;00LEFT-SIDE ARC ANTICLOCKWISE ARROW",
    "00TOP ARC ANTICLOCKWISE ARROW;00BOTTOM ARC ANTICLOCKWISE ARROW",
    "00TOP ARC CLOCKWISE ARROW WITH MINUS;08ANTICLOCKWISE ARROW WITH PLUS",
    "00LOWER RIGHT SEMICIRCULAR CLOCKWISE ARROW;06LEFT SEMICIRCULAR ANTICLOCKWISE ARROW",
    "00ANTICLOCKWISE CLOSED CIRCLE ARROW;00CLOCKWISE CLOSED CIRCLE ARROW",
    "00RIGHTWARDS ARROW ABOVE SHORT LEFTWARDS ARROW",
    "00LEFTWARDS ARROW ABOVE SHORT RIGHTWARDS ARROW",
    "00SHORT RIGHTWARDS ARROW ABOVE LEFTWARDS ARROW;00RIGHTWARDS ARROW WITH PLUS BELOW",
    "00LEFTWARDS ARROW WITH PLUS BELOW;00RIGHTWARDS ARROW THROUGH X",
    "00LEFT RIGHT ARROW THROUGH SMALL CIRCLE;00UPWARDS TWO-HEADED ARROW FROM SMALL CIRCLE",
    "00LEFT BARB UP RIGHT BARB DOWN HARPOON;10DOWN RIGHT BARB UP HARPOON",
    "00UP BARB RIGHT DOWN BARB LEFT HARPOON;08LEFT DOWN BARB RIGHT HARPOON",
    "00LEFT BARB UP RIGHT BARB UP HARPOON;00UP BARB RIGHT DOWN BARB RIGHT HARPOON",
    "00LEFT BARB DOWN RIGHT BARB DOWN HARPOON;00UP BARB LEFT DOWN BARB LEFT HARPOON",
    "00LEFTWARDS HARPOON WITH BARB UP TO BAR;00RIGHTWARDS HARPOON WITH BARB UP TO BAR",
    "00UPWARDS HARPOON WITH BARB RIGHT TO BAR;00DOWNWARDS HARPOON WITH BARB RIGHT TO BAR",
    "00LEFTWARDS HARPOON WITH BARB DOWN TO BAR;00RIGHTWARDS HARPOON WITH BARB DOWN TO BAR",
    "00UPWARDS HARPOON WITH BARB LEFT TO BAR;00DOWNWARDS HARPOON WITH BARB LEFT TO BAR",
    "00LEFTWARDS HARPOON WITH BARB UP FROM BAR;00RIGHTWARDS HARPOON WITH BARB UP FROM BAR",
    "00UPWARDS HARPOON WITH BARB RIGHT FROM BAR;00DOWNWARDS HARPOON WITH BARB RIGHT FROM BAR",
    "00LEFTWARDS HARPOON WITH BARB DOWN FROM BAR;00RIGHTWARDS HARPOON WITH BARB DOWN FROM BAR",
    "00UPWARDS HARPOON WITH BARB LEFT FROM BAR;00DOWNWARDS HARPOON WITH BARB LEFT FROM BAR",
    "00LEFTWARDS HARPOON WITH BARB UP ABOVE LEFTWARDS HARPOON WITH BARB DOWN",
    "00UPWARDS HARPOON WITH BARB LEFT BESIDE UPWARDS HARPOON WITH BARB RIGHT",
    "00RIGHTWARDS HARPOON WITH BARB UP ABOVE RIGHTWARDS HARPOON WITH BARB DOWN",
    "00DOWNWARDS HARPOON WITH BARB LEFT BESIDE DOWNWARDS HARPOON WITH BARB RIGHT",
    "00LEFTWARDS HARPOON WITH BARB UP ABOVE RIGHTWARDS HARPOON WITH BARB UP",
    "28DOWN ABOVE RIGHTWARDS HARPOON WITH BARB DOWN",
    "00RIGHTWARDS HARPOON WITH BARB UP ABOVE LEFTWARDS HARPOON WITH BARB UP",
    "29DOWN ABOVE LEFTWARDS HARPOON WITH BARB DOWN",
    "00LEFTWARDS HARPOON WITH BARB UP ABOVE LONG DASH;28DOWN BELOW LONG DASH",
    "00RIGHTWARDS HARPOON WITH BARB UP ABOVE LONG DASH;29DOWN BELOW LONG DASH",
    "00UPWARDS HARPOON WITH BARB LEFT BESIDE DOWNWARDS HARPOON WITH BARB RIGHT",
    "00DOWNWARDS HARPOON WITH BARB LEFT BESIDE UPWARDS HARPOON WITH BARB RIGHT",
    "00RIGHT DOUBLE ARROW WITH ROUNDED HEAD;00EQUALS SIGN ABOVE RIGHTWARDS ARROW",
    "00TILDE OPERATOR ABOVE RIGHTWARDS ARROW;00LEFTWARDS ARROW ABOVE TILDE OPERATOR",
    "00RIGHTWARDS ARROW ABOVE TILDE OPERATOR;23ALMOST EQUAL TO",
    "00LESS-THAN ABOVE LEFTWARDS ARROW;02FTWARDS ARROW THROUGH LESS-THAN",
    "00GREATER-THAN ABOVE RIGHTWARDS ARROW;00SUBSET ABOVE RIGHTWARDS ARROW",
    "00LEFTWARDS ARROW THROUGH SUBSET;00SUPERSET ABOVE LEFTWARDS ARROW;00LEFT FISH TAIL",
    "00RIGHT FISH TAIL;00UP FISH TAIL;00DOWN FISH TAIL;00TRIPLE VERTICAL BAR DELIMITER",
    "00Z NOTATION SPOT;11TYPE COLON;00LEFT WHITE CURLY BRACKET;00RIGHT WHITE CURLY BRACKET",
    "00LEFT WHITE PARENTHESIS;00RIGHT WHITE PARENTHESIS;00Z NOTATION LEFT IMAGE BRACKET",
    "11RIGHT IMAGE BRACKET;11LEFT BINDING BRACKET;11RIGHT BINDING BRACKET",
    "00LEFT SQUARE BRACKET WITH UNDERBAR;00RIGHT SQUARE BRACKET WITH UNDERBAR",
    "00LEFT SQUARE BRACKET WITH TICK IN TOP CORNER",
    "00RIGHT SQUARE BRACKET WITH TICK IN BOTTOM CORNER",
    "00LEFT SQUARE BRACKET WITH TICK IN BOTTOM CORNER",
    "00RIGHT SQUARE BRACKET WITH TICK IN TOP CORNER;00LEFT ANGLE BRACKET WITH DOT",
    "00RIGHT ANGLE BRACKET WITH DOT;00LEFT ARC LESS-THAN BRACKET",
    "00RIGHT ARC GREATER-THAN BRACKET;00DOUBLE LEFT ARC GREATER-THAN BRACKET",
    "07RIGHT ARC LESS-THAN BRACKET;00LEFT BLACK TORTOISE SHELL BRACKET",
    "00RIGHT BLACK TORTOISE SHELL BRACKET;00DOTTED FENCE;00VERTICAL ZIGZAG LINE",
    "00MEASURED ANGLE OPENING LEFT;00RIGHT ANGLE VARIANT WITH SQUARE",
    "00MEASURED RIGHT ANGLE WITH DOT;00ANGLE WITH S INSIDE;01CUTE ANGLE",
    "00SPHERICAL ANGLE OPENING LEFT;24UP;00TURNED ANGLE;00REVERSED ANGLE",
    "00ANGLE WITH UNDERBAR;00REVERSED ANGLE WITH UNDERBAR;00OBLIQUE ANGLE OPENING UP;22DOWN",
    "00MEASURED ANGLE WITH OPEN ARM ENDING IN ARROW POINTING UP AND RIGHT;61LEFT",
    "54DOWN AND RIGHT;63LEFT;54RIGHT AND UP;54LEFT AND UP;54RIGHT AND DOWN;54LEFT AND DOWN",
    "00REVERSED EMPTY SET;00EMPTY SET WITH OVERBAR;15SMALL CIRCLE ABOVE;15RIGHT ARROW ABOVE",
    "15LEFT ARROW ABOVE;00CIRCLE WITH HORIZONTAL BAR;06D VERTICAL BAR;08PARALLEL",
    "08REVERSE SOLIDUS;08PERPENDICULAR",
    "06 DIVIDED BY HORIZONTAL BAR AND TOP HALF DIVIDED BY VERTICAL BAR;07WITH SUPERIMPOSED X",
    "06D ANTICLOCKWISE-ROTATED DIVISION SIGN;00UP ARROW THROUGH CIRCLE;00CIRCLED WHITE BULLET",
    "08BULLET;08LESS-THAN;08GREATER-THAN;06 WITH SMALL CIRCLE TO THE RIGHT",
    "12TWO HORIZONTAL STROKES TO THE RIGHT;00SQUARED RISING DIAGONAL SLASH",
    "08FALLING DIAGONAL SLASH;08ASTERISK;08SMALL CIRCLE;09QUARE;00TWO JOINED SQUARES",
    "01RIANGLE WITH DOT ABOVE;14UNDERBAR;00S IN TRIANGLE;00TRIANGLE WITH SERIFS AT BOTTOM",
    "00RIGHT TRIANGLE ABOVE LEFT TRIANGLE;00LEFT TRIANGLE BESIDE VERTICAL BAR",
    "00VERTICAL BAR BESIDE RIGHT TRIANGLE;00BOWTIE WITH LEFT HALF BLACK;12RIGHT HALF BLACK",
    "01LACK BOWTIE;00TIMES WITH LEFT HALF BLACK;11RIGHT HALF BLACK;00WHITE HOURGLASS",
    "00BLACK HOURGLASS;00LEFT WIGGLY FENCE;00RIGHT WIGGLY FENCE;00LEFT DOUBLE WIGGLY FENCE",
    "00RIGHT DOUBLE WIGGLY FENCE;00INCOMPLETE INFINITY;00TIE OVER INFINITY",
    "00INFINITY NEGATED WITH VERTICAL BAR;00DOUBLE-ENDED MULTIMAP",
    "00SQUARE WITH CONTOURED OUTLINE;00INCREASES AS;00SHUFFLE PRODUCT",
    "00EQUALS SIGN AND SLANTED PARALLEL;32 WITH TILDE ABOVE",
    "00IDENTICAL TO AND SLANTED PARALLEL;00GLEICH STARK;00THERMODYNAMIC",
    "00DOWN-POINTING TRIANGLE WITH LEFT HALF BLACK;28RIGHT HALF BLACK",
    "00BLACK DIAMOND WITH DOWN ARROW;06LOZENGE;00WHITE CIRCLE WITH DOWN ARROW",
    "00BLACK CIRCLE WITH DOWN ARROW;00ERROR-BARRED WHITE SQUARE;13BLACK SQUARE",
    "13WHITE DIAMOND;13BLACK DIAMOND;13WHITE CIRCLE;13BLACK CIRCLE;00RULE-DELAYED",
    "01EVERSE SOLIDUS OPERATOR;00SOLIDUS WITH OVERBAR",
    "00REVERSE SOLIDUS WITH HORIZONTAL STROKE;00BIG SOLIDUS;04REVERSE SOLIDUS;00DOUBLE PLUS",
    "00TRIPLE PLUS;00LEFT-POINTING CURVED ANGLE BRACKET;00RIGHT-POINTING CURVED ANGLE BRACKET",
    "00TINY;00MINY;00N-ARY CIRCLED DOT OPERATOR;14PLUS OPERATOR;14TIMES OPERATOR",
    "06UNION OPERATOR WITH DOT;26PLUS;06SQUARE INTERSECTION OPERATOR;13UNION OPERATOR",
    "00TWO LOGICAL AND OPERATOR;12OR OPERATOR;00N-ARY TIMES OPERATOR;00MODULO TWO SUM",
    "00SUMMATION WITH INTEGRAL;00QUADRUPLE INTEGRAL OPERATOR;00FINITE PART INTEGRAL",
    "00INTEGRAL WITH DOUBLE STROKE;09AVERAGE WITH SLASH;00CIRCULATION FUNCTION",
    "00ANTICLOCKWISE INTEGRATION;00LINE INTEGRATION WITH RECTANGULAR PATH AROUND POLE",
    "22SEMICIRCULAR PATH AROUND POLE;17NOT INCLUDING THE POLE",
    "00INTEGRAL AROUND A POINT OPERATOR;00QUATERNION INTEGRAL OPERATOR",
    "00INTEGRAL WITH LEFTWARDS ARROW WITH HOOK;14TIMES SIGN;14INTERSECTION;14UNION;14OVERBAR",
    "14UNDERBAR;00JOIN;00LARGE LEFT TRIANGLE OPERATOR;00Z NOTATION SCHEMA COMPOSITION",
    "18PIPING;19ROJECTION;00PLUS SIGN WITH SMALL CIRCLE ABOVE;15CIRCUMFLEX ACCENT ABOVE",
    "15TILDE ABOVE;15DOT BELOW;15TILDE BELOW;15SUBSCRIPT TWO;15BLACK TRIANGLE",
    "00MINUS SIGN WITH COMMA ABOVE;16DOT BELOW;16FALLING DOTS;16RISING DOTS",
    "00PLUS SIGN IN LEFT HALF CIRCLE;13RIGHT HALF CIRCLE;00VECTOR OR CROSS PRODUCT",
    "00MULTIPLICATION SIGN WITH DOT ABOVE;25UNDERBAR;00SEMIDIRECT PRODUCT WITH BOTTOM CLOSED",
    "01MASH PRODUCT;00MULTIPLICATION SIGN IN LEFT HALF CIRCLE;23RIGHT HALF CIRCLE",
    "00CIRCLED MULTIPLICATION SIGN WITH CIRCUMFLEX ACCENT",
    "00MULTIPLICATION SIGN IN DOUBLE CIRCLE;00CIRCLED DIVISION SIGN;00PLUS SIGN IN TRIANGLE",
    "00MINUS SIGN IN TRIANGLE;01ULTIPLICATION SIGN IN TRIANGLE;00INTERIOR PRODUCT",
    "00RIGHTHAND INTERIOR PRODUCT;00Z NOTATION RELATIONAL COMPOSITION",
    "00AMALGAMATION OR COPRODUCT;00INTERSECTION WITH DOT;00UNION WITH MINUS SIGN;11OVERBAR",
    "00INTERSECTION WITH OVERBAR;18LOGICAL AND;00UNION WITH LOGICAL OR;06ABOVE INTERSECTION",
    "00INTERSECTION ABOVE UNION;00UNION ABOVE BAR ABOVE INTERSECTION",
    "00INTERSECTION ABOVE BAR ABOVE UNION;00UNION BESIDE AND JOINED WITH UNION",
    "00INTERSECTION BESIDE AND JOINED WITH INTERSECTION;00CLOSED UNION WITH SERIFS",
    "07INTERSECTION WITH SERIFS;00DOUBLE SQUARE INTERSECTION;14UNION",
    "00CLOSED UNION WITH SERIFS AND SMASH PRODUCT;00LOGICAL AND WITH DOT ABOVE",
    "08OR WITH DOT ABOVE;00DOUBLE LOGICAL AND;15OR;00TWO INTERSECTING LOGICAL AND;25OR",
    "00SLOPING LARGE OR;14AND;00LOGICAL OR OVERLAPPING LOGICAL AND;08AND WITH MIDDLE STEM",
    "08OR WITH MIDDLE STEM;08AND WITH HORIZONTAL DASH;08OR WITH HORIZONTAL DASH",
    "08AND WITH DOUBLE OVERBAR;17UNDERBAR;17DOUBLE UNDERBAR;00SMALL VEE WITH UNDERBAR",
    "00LOGICAL OR WITH DOUBLE OVERBAR;23UNDERBAR;00Z NOTATION DOMAIN ANTIRESTRICTION",
    "11RANGE ANTIRESTRICTION;00EQUALS SIGN WITH DOT BELOW;00IDENTICAL WITH DOT ABOVE",
    "00TRIPLE HORIZONTAL BAR WITH DOUBLE VERTICAL STROKE;27TRIPLE VERTICAL STROKE",
    "01ILDE OPERATOR WITH DOT ABOVE;20RISING DOTS;00SIMILAR MINUS SIMILAR",
    "00CONGRUENT WITH DOT ABOVE;00EQUALS WITH ASTERISK",
    "00ALMOST EQUAL TO WITH CIRCUMFLEX ACCENT;01PPROXIMATELY EQUAL OR EQUAL TO",
    "00EQUALS SIGN ABOVE PLUS SIGN;00PLUS SIGN ABOVE EQUALS SIGN",
    "00EQUALS SIGN ABOVE TILDE OPERATOR;00DOUBLE COLON EQUAL;00TWO CONSECUTIVE EQUALS SIGNS",
    "01HREE CONSECUTIVE EQUALS SIGNS;00EQUALS SIGN WITH TWO DOTS ABOVE AND TWO DOTS BELOW",
    "03IVALENT WITH FOUR DOTS ABOVE;00LESS-THAN WITH CIRCLE INSIDE",
    "00GREATER-THAN WITH CIRCLE INSIDE;00LESS-THAN WITH QUESTION MARK ABOVE",
    "00GREATER-THAN WITH QUESTION MARK ABOVE;00LESS-THAN OR SLANTED EQUAL TO",
    "00GREATER-THAN OR SLANTED EQUAL TO;00LESS-THAN OR SLANTED EQUAL TO WITH DOT INSIDE",
    "00GREATER-THAN OR SLANTED EQUAL TO WITH DOT INSIDE",
    "00LESS-THAN OR SLANTED EQUAL TO WITH DOT ABOVE",
    "00GREATER-THAN OR SLANTED EQUAL TO WITH DOT ABOVE",
    "00LESS-THAN OR SLANTED EQUAL TO WITH DOT ABOVE RIGHT",
    "00GREATER-THAN OR SLANTED EQUAL TO WITH DOT ABOVE LEFT;00LESS-THAN OR APPROXIMATE",
    "00GREATER-THAN OR APPROXIMATE;00LESS-THAN AND SINGLE-LINE NOT EQUAL TO",
    "00GREATER-THAN AND SINGLE-LINE NOT EQUAL TO;00LESS-THAN AND NOT APPROXIMATE",
    "00GREATER-THAN AND NOT APPROXIMATE",
    "00LESS-THAN ABOVE DOUBLE-LINE EQUAL ABOVE GREATER-THAN",
    "00GREATER-THAN ABOVE DOUBLE-LINE EQUAL ABOVE LESS-THAN",
    "00LESS-THAN ABOVE SIMILAR OR EQUAL;00GREATER-THAN ABOVE SIMILAR OR EQUAL",
    "00LESS-THAN ABOVE SIMILAR ABOVE GREATER-THAN",
    "00GREATER-THAN ABOVE SIMILAR ABOVE LESS-THAN",
    "00LESS-THAN ABOVE GREATER-THAN ABOVE DOUBLE-LINE EQUAL",
    "00GREATER-THAN ABOVE LESS-THAN ABOVE DOUBLE-LINE EQUAL",
    "00LESS-THAN ABOVE SLANTED EQUAL ABOVE GREATER-THAN ABOVE SLANTED EQUAL",
    "00GREATER-THAN ABOVE SLANTED EQUAL ABOVE LESS-THAN ABOVE SLANTED EQUAL",
    "00SLANTED EQUAL TO OR LESS-THAN;20GREATER-THAN;20LESS-THAN WITH DOT INSIDE",
    "20GREATER-THAN WITH DOT INSIDE;00DOUBLE-LINE EQUAL TO OR LESS-THAN;24GREATER-THAN",
    "12SLANTED EQUAL TO OR LESS-THAN;32GREATER-THAN;00SIMILAR OR LESS-THAN;11GREATER-THAN",
    "08ABOVE LESS-THAN ABOVE EQUALS SIGN;14GREATER-THAN ABOVE EQUALS SIGN",
    "00DOUBLE NESTED LESS-THAN;14GREATER-THAN;14LESS-THAN WITH UNDERBAR",
    "00GREATER-THAN OVERLAPPING LESS-THAN;13BESIDE LESS-THAN;00LESS-THAN CLOSED BY CURVE",
    "00GREATER-THAN CLOSED BY CURVE;00LESS-THAN CLOSED BY CURVE ABOVE SLANTED EQUAL",
    "00GREATER-THAN CLOSED BY CURVE ABOVE SLANTED EQUAL;00SMALLER THAN;00LARGER THAN",
    "00SMALLER THAN OR EQUAL TO;00LARGER THAN OR EQUAL TO;00EQUALS SIGN WITH BUMPY ABOVE",
    "00PRECEDES ABOVE SINGLE-LINE EQUALS SIGN;00SUCCEEDS ABOVE SINGLE-LINE EQUALS SIGN",
    "00PRECEDES ABOVE SINGLE-LINE NOT EQUAL TO;00SUCCEEDS ABOVE SINGLE-LINE NOT EQUAL TO",
    "00PRECEDES ABOVE EQUALS SIGN;00SUCCEEDS ABOVE EQUALS SIGN;00PRECEDES ABOVE NOT EQUAL TO",
    "00SUCCEEDS ABOVE NOT EQUAL TO;00PRECEDES ABOVE ALMOST EQUAL TO",
    "00SUCCEEDS ABOVE ALMOST EQUAL TO;00PRECEDES ABOVE NOT ALMOST EQUAL TO",
    "00SUCCEEDS ABOVE NOT ALMOST EQUAL TO;00DOUBLE PRECEDES;07SUCCEEDS;00SUBSET WITH DOT",
    "02PERSET WITH DOT;02BSET WITH PLUS SIGN BELOW;02PERSET WITH PLUS SIGN BELOW",
    "02BSET WITH MULTIPLICATION SIGN BELOW;02PERSET WITH MULTIPLICATION SIGN BELOW",
    "02BSET OF OR EQUAL TO WITH DOT ABOVE;02PERSET OF OR EQUAL TO WITH DOT ABOVE",
    "02BSET OF ABOVE EQUALS SIGN;02PERSET OF ABOVE EQUALS SIGN;02BSET OF ABOVE TILDE OPERATOR",
    "02PERSET OF ABOVE TILDE OPERATOR;02BSET OF ABOVE ALMOST EQUAL TO",
    "02PERSET OF ABOVE ALMOST EQUAL TO;02BSET OF ABOVE NOT EQUAL TO",
    "02PERSET OF ABOVE NOT EQUAL TO;01QUARE LEFT OPEN BOX OPERATOR;07RIGHT OPEN BOX OPERATOR",
    "00CLOSED SUBSET;09PERSET;09BSET OR EQUAL TO;09PERSET OR EQUAL TO;00SUBSET ABOVE SUPERSET",
    "02PERSET ABOVE SUBSET;02BSET ABOVE SUBSET;02PERSET ABOVE SUPERSET;09BESIDE SUBSET",
    "16AND JOINED BY DASH WITH SUBSET;00ELEMENT OF OPENING DOWNWARDS;00PITCHFORK WITH TEE TOP",
    "00TRANSVERSAL INTERSECTION;00FORKING;00NONFORKING;00SHORT LEFT TACK;06DOWN TACK",
    "06UP TACK;00PERPENDICULAR WITH S;00VERTICAL BAR TRIPLE RIGHT TURNSTILE",
    "00DOUBLE VERTICAL BAR LEFT TURNSTILE;00VERTICAL BAR DOUBLE LEFT TURNSTILE",
    "00DOUBLE VERTICAL BAR DOUBLE LEFT TURNSTILE",
    "00LONG DASH FROM LEFT MEMBER OF DOUBLE VERTICAL;00SHORT DOWN TACK WITH OVERBAR",
    "06UP TACK WITH UNDERBAR;14ABOVE SHORT DOWN TACK;00DOUBLE DOWN TACK;07UP TACK",
    "07STROKE NOT SIGN;00REVERSED DOUBLE STROKE NOT SIGN",
    "00DOES NOT DIVIDE WITH REVERSED NEGATION SLASH;00VERTICAL LINE WITH CIRCLE ABOVE;26BELOW",
    "00DOWN TACK WITH CIRCLE BELOW;00PARALLEL WITH HORIZONTAL STROKE;14TILDE OPERATOR",
    "00TRIPLE VERTICAL BAR BINARY RELATION;20WITH HORIZONTAL STROKE;07COLON OPERATOR",
    "07NESTED LESS-THAN;14GREATER-THAN;00DOUBLE-LINE SLANTED LESS-THAN OR EQUAL TO",
    "20GREATER-THAN OR EQUAL TO;00TRIPLE SOLIDUS BINARY RELATION",
    "00LARGE TRIPLE VERTICAL BAR OPERATOR;00DOUBLE SOLIDUS OPERATOR;00WHITE VERTICAL BAR",
    "00N-ARY WHITE VERTICAL BAR;01ORTH EAST WHITE ARROW;06WEST WHITE ARROW",
    "00SOUTH EAST WHITE ARROW;06WEST WHITE ARROW;00LEFT RIGHT WHITE ARROW;04WARDS BLACK ARROW",
    "00UPWARDS BLACK ARROW;00DOWNWARDS BLACK ARROW;00NORTH EAST BLACK ARROW",
    "06WEST BLACK ARROW;00SOUTH EAST BLACK ARROW;06WEST BLACK ARROW;00LEFT RIGHT BLACK ARROW",
    "00UP DOWN BLACK ARROW;00RIGHTWARDS ARROW WITH TIP DOWNWARDS;26UPWARDS",
    "00LEFTWARDS ARROW WITH TIP DOWNWARDS;25UPWARDS;00SQUARE WITH TOP HALF BLACK",
    "12BOTTOM HALF BLACK;12UPPER RIGHT DIAGONAL HALF BLACK;12LOWER LEFT DIAGONAL HALF BLACK",
    "00DIAMOND WITH LEFT HALF BLACK;13RIGHT HALF BLACK;13TOP HALF BLACK;13BOTTOM HALF BLACK",
    "01OTTED SQUARE;00BLACK LARGE SQUARE;00WHITE LARGE SQUARE;00BLACK VERY SMALL SQUARE",
    "00WHITE VERY SMALL SQUARE;00BLACK PENTAGON;00WHITE PENTAGON;06HEXAGON;00BLACK HEXAGON",
    "00HORIZONTAL BLACK HEXAGON;00BLACK LARGE CIRCLE;06MEDIUM DIAMOND;00WHITE MEDIUM DIAMOND",
    "00BLACK MEDIUM LOZENGE;00WHITE MEDIUM LOZENGE;00BLACK SMALL DIAMOND;12LOZENGE",
    "00WHITE SMALL LOZENGE;00BLACK HORIZONTAL ELLIPSE;00WHITE HORIZONTAL ELLIPSE",
    "00BLACK VERTICAL ELLIPSE;00WHITE VERTICAL ELLIPSE;00LEFT ARROW WITH SMALL CIRCLE",
    "00THREE LEFTWARDS ARROWS;00LEFT ARROW WITH CIRCLED PLUS;01ONG LEFTWARDS SQUIGGLE ARROW",
    "01EFTWARDS TWO-HEADED ARROW WITH VERTICAL STROKE;32DOUBLE VERTICAL STROKE;27FROM BAR",
    "21TRIPLE DASH ARROW;10ARROW WITH DOTTED STEM;21TAIL WITH VERTICAL STROKE",
    "31DOUBLE VERTICAL STROKE;10TWO-HEADED ARROW WITH TAIL;36 WITH VERTICAL STROKE",
    "42DOUBLE VERTICAL STROKE;10ARROW THROUGH X;00WAVE ARROW POINTING DIRECTLY LEFT",
    "00EQUALS SIGN ABOVE LEFTWARDS ARROW;00REVERSE TILDE OPERATOR ABOVE LEFTWARDS ARROW",
    "00LEFTWARDS ARROW ABOVE REVERSE ALMOST EQUAL TO;00RIGHTWARDS ARROW THROUGH GREATER-THAN",
    "25SUPERSET;00LEFTWARDS QUADRUPLE ARROW;00RIGHTWARDS QUADRUPLE ARROW",
    "01EVERSE TILDE OPERATOR ABOVE RIGHTWARDS ARROW",
    "01IGHTWARDS ARROW ABOVE REVERSE ALMOST EQUAL TO;00TILDE OPERATOR ABOVE LEFTWARDS ARROW",
    "00LEFTWARDS ARROW ABOVE ALMOST EQUAL TO;22REVERSE TILDE OPERATOR",
    "00RIGHTWARDS ARROW ABOVE REVERSE TILDE OPERATOR;00DOWNWARDS TRIANGLE-HEADED ZIGZAG ARROW",
    "00SHORT SLANTED NORTH ARROW;06BACKSLANTED SOUTH ARROW;00WHITE MEDIUM STAR",
    "00BLACK SMALL STAR;00WHITE SMALL STAR;00BLACK RIGHT-POINTING PENTAGON",
    "00WHITE RIGHT-POINTING PENTAGON;00HEAVY LARGE CIRCLE;06OVAL WITH OVAL INSIDE",
    "06CIRCLE WITH CIRCLE INSIDE;12;12D SALTIRE;00SLANTED NORTH ARROW WITH HOOKED HEAD",
    "00BACKSLANTED SOUTH ARROW WITH HOOKED TAIL;00SLANTED NORTH ARROW WITH HORIZONTAL TAIL",
    "00BACKSLANTED SOUTH ARROW WITH HORIZONTAL TAIL",
    "01ENT ARROW POINTING DOWNWARDS THEN NORTH EAST",
    "00SHORT BENT ARROW POINTING DOWNWARDS THEN NORTH EAST;00LEFTWARDS TRIANGLE-HEADED ARROW",
    "00UPWARDS TRIANGLE-HEADED ARROW;00RIGHTWARDS TRIANGLE-HEADED ARROW",
    "00DOWNWARDS TRIANGLE-HEADED ARROW;00LEFT RIGHT TRIANGLE-HEADED ARROW",
    "00UP DOWN TRIANGLE-HEADED ARROW;00NORTH WEST TRIANGLE-HEADED ARROW",
    "06EAST TRIANGLE-HEADED ARROW;00SOUTH EAST TRIANGLE-HEADED ARROW",
    "06WEST TRIANGLE-HEADED ARROW;00LEFTWARDS TRIANGLE-HEADED DASHED ARROW",
    "00UPWARDS TRIANGLE-HEADED DASHED ARROW;00RIGHTWARDS TRIANGLE-HEADED DASHED ARROW",
    "00DOWNWARDS TRIANGLE-HEADED DASHED ARROW;00CLOCKWISE TRIANGLE-HEADED OPEN CIRCLE ARROW",
    "00ANTICLOCKWISE TRIANGLE-HEADED OPEN CIRCLE ARROW",
    "00LEFTWARDS TRIANGLE-HEADED ARROW TO BAR;00UPWARDS TRIANGLE-HEADED ARROW TO BAR",
    "00RIGHTWARDS TRIANGLE-HEADED ARROW TO BAR;00DOWNWARDS TRIANGLE-HEADED ARROW TO BAR;+2",
    "00NORTH WEST TRIANGLE-HEADED ARROW TO BAR;06EAST TRIANGLE-HEADED ARROW TO BAR",
    "00SOUTH EAST TRIANGLE-HEADED ARROW TO BAR;06WEST TRIANGLE-HEADED ARROW TO BAR",
    "00LEFTWARDS TRIANGLE-HEADED ARROW WITH DOUBLE HORIZONTAL STROKE",
    "00UPWARDS TRIANGLE-HEADED ARROW WITH DOUBLE HORIZONTAL STROKE",
    "00RIGHTWARDS TRIANGLE-HEADED ARROW WITH DOUBLE HORIZONTAL STROKE",
    "00DOWNWARDS TRIANGLE-HEADED ARROW WITH DOUBLE HORIZONTAL STROKE;00HORIZONTAL TAB KEY",
    "00VERTICAL TAB KEY",
    "00LEFTWARDS TRIANGLE-HEADED ARROW OVER RIGHTWARDS TRIANGLE-HEADED ARROW",
    "00UPWARDS TRIANGLE-HEADED ARROW LEFTWARDS OF DOWNWARDS TRIANGLE-HEADED ARROW",
    "00RIGHTWARDS TRIANGLE-HEADED ARROW OVER LEFTWARDS TRIANGLE-HEADED ARROW",
    "00DOWNWARDS TRIANGLE-HEADED ARROW LEFTWARDS OF UPWARDS TRIANGLE-HEADED ARROW",
    "00LEFTWARDS TRIANGLE-HEADED PAIRED ARROWS;00UPWARDS TRIANGLE-HEADED PAIRED ARROWS",
    "00RIGHTWARDS TRIANGLE-HEADED PAIRED ARROWS;00DOWNWARDS TRIANGLE-HEADED PAIRED ARROWS",
    "00LEFTWARDS BLACK CIRCLED WHITE ARROW;00UPWARDS BLACK CIRCLED WHITE ARROW",
    "00RIGHTWARDS BLACK CIRCLED WHITE ARROW;00DOWNWARDS BLACK CIRCLED WHITE ARROW",
    "00ANTICLOCKWISE TRIANGLE-HEADED RIGHT U-SHAPED ARROW;30BOTTOM U-SHAPED ARROW",
    "30LEFT U-SHAPED ARROW;30TOP U-SHAPED ARROW;00RETURN LEFT;07RIGHT;00NEWLINE LEFT;08RIGHT",
    "00FOUR CORNER ARROWS CIRCLING ANTICLOCKWISE;00RIGHTWARDS BLACK ARROW;+1",
    "00SYMBOL FOR TYPE A ELECTRONICS;00THREE-D TOP-LIGHTED LEFTWARDS EQUILATERAL ARROWHEAD",
    "08RIGHT-LIGHTED UPWARDS EQUILATERAL ARROWHEAD",
    "08TOP-LIGHTED RIGHTWARDS EQUILATERAL ARROWHEAD",
    "08LEFT-LIGHTED DOWNWARDS EQUILATERAL ARROWHEAD;00BLACK LEFTWARDS EQUILATERAL ARROWHEAD",
    "06UPWARDS EQUILATERAL ARROWHEAD;06RIGHTWARDS EQUILATERAL ARROWHEAD",
    "06DOWNWARDS EQUILATERAL ARROWHEAD",
    "00DOWNWARDS TRIANGLE-HEADED ARROW WITH LONG TIP LEFTWARDS;46RIGHTWARDS",
    "00UPWARDS TRIANGLE-HEADED ARROW WITH LONG TIP LEFTWARDS;44RIGHTWARDS",
    "00LEFTWARDS TRIANGLE-HEADED ARROW WITH LONG TIP UPWARDS",
    "00RIGHTWARDS TRIANGLE-HEADED ARROW WITH LONG TIP UPWARDS",
    "00LEFTWARDS TRIANGLE-HEADED ARROW WITH LONG TIP DOWNWARDS",
    "00RIGHTWARDS TRIANGLE-HEADED ARROW WITH LONG TIP DOWNWARDS",
    "00BLACK CURVED DOWNWARDS AND LEFTWARDS ARROW;27RIGHTWARDS ARROW",
    "13UPWARDS AND LEFTWARDS ARROW;25RIGHTWARDS ARROW;13LEFTWARDS AND UPWARDS ARROW",
    "13RIGHTWARDS AND UPWARDS ARROW;13LEFTWARDS AND DOWNWARDS ARROW",
    "13RIGHTWARDS AND DOWNWARDS ARROW;00RIBBON ARROW DOWN LEFT;18RIGHT;13UP LEFT;16RIGHT",
    "13LEFT UP;13RIGHT UP;13LEFT DOWN;13RIGHT DOWN",
    "00UPWARDS WHITE ARROW FROM BAR WITH HORIZONTAL BAR;02 ARROWHEAD IN A RECTANGLE BOX",
    "00OVERLAPPING WHITE SQUARES;18AND BLACK SQUARES;12BLACK SQUARES",
    "00BALLOT BOX WITH LIGHT X;00CIRCLED X;08BOLD X;00BLACK SQUARE CENTRED;06DIAMOND CENTRED",
    "00TURNED BLACK PENTAGON;00HORIZONTAL BLACK OCTAGON;00BLACK OCTAGON",
    "06MEDIUM UP-POINTING TRIANGLE CENTRED;13DOWN-POINTING TRIANGLE CENTRED",
    "13LEFT-POINTING TRIANGLE CENTRED;13RIGHT-POINTING TRIANGLE CENTRED;00NEPTUNE FORM TWO",
    "00TOP HALF BLACK CIRCLE;00BOTTOM HALF BLACK CIRCLE;00LIGHT FOUR POINTED BLACK CUSP",
    "00ROTATED LIGHT FOUR POINTED BLACK CUSP;00WHITE FOUR POINTED CUSP",
    "00ROTATED WHITE FOUR POINTED CUSP;00SQUARE POSITION INDICATOR;00UNCERTAINTY SIGN",
    "00GROUP MARK;00PLUTO FORM TWO;12HREE;11FOUR;12IVE;00TRANSPLUTO;00PROSERPINA;00ASTRAEA",
    "00HYGIEA;00PHOLUS;00NESSUS;00WHITE MOON SELENA;00BLACK DIAMOND ON CROSS",
    "00TRUE LIGHT MOON ARTA;00CUPIDO;00HADES;00ZEUS;00KRONOS;00APOLLON;01DMETOS;00VULCANUS",
    "00POSEIDON;00LEFT HALF BLACK STAR;00RIGHT HALF BLACK STAR;00STAR WITH LEFT HALF BLACK",
    "10RIGHT HALF BLACK;00LEFTWARDS TWO-HEADED ARROW WITH TRIANGLE ARROWHEADS",
    "00UPWARDS TWO-HEADED ARROW WITH TRIANGLE ARROWHEADS",
    "00RIGHTWARDS TWO-HEADED ARROW WITH TRIANGLE ARROWHEADS",
    "00DOWNWARDS TWO-HEADED ARROW WITH TRIANGLE ARROWHEADS;00ERIS FORM ONE;10TWO;00SEDNA",
    "00RUSSIAN ASTROLOGICAL SYMBOL VIGINTILE;28NOVILE;28QUINTILE;28BINOVILE;28SENTAGON",
    "28TREDECILE;00EQUALS SIGN WITH INFINITY BELOW;00UNITED SYMBOL;00SEPARATED SYMBOL",
    "00DOUBLED SYMBOL;00PASSED SYMBOL;00REVERSED RIGHT ANGLE;00HELLSCHREIBER PAUSE SYMBOL"
  ]

end ApiDoc.Text.CharacterName
