import ApiDoc.Text.CharacterName.Coded

/-!
# Names of characters: Abugidas

The names of the scripts of India and its neighbours.
-/

namespace ApiDoc.Text.CharacterName

/-- The names of the characters from `900` to `10ff`. -/
def abugidas : Coded where
  first := 0x900
  lines := [
    "00DEVANAGARI SIGN INVERTED CANDRABINDU;16CANDRABINDU;16ANUSVARA;16VISARGA",
    "11LETTER SHORT A;18A;19A;18I;19I;18U;19U;18VOCALIC R;26L;18CANDRA E;18SHORT E;18E;18AI",
    "18CANDRA O;18SHORT O;18O;18AU;18KA;19HA;18GA;19HA;18NGA;18CA;19HA;18JA;19HA;18NYA;18TTA",
    "20HA;18DDA;20HA;18NNA;18TA;19HA;18DA;19HA;18NA;19NNA;18PA;19HA;18BA;19HA;18MA;18YA;18RA",
    "19RA;18LA;19LA;20LA;18VA;18SHA;19SA;19A;18HA;11VOWEL SIGN OE;23OE;11SIGN NUKTA",
    "16AVAGRAHA;11VOWEL SIGN AA;22I;23I;22U;23U;22VOCALIC R;31R;22CANDRA E;22SHORT E;22E;22AI",
    "22CANDRA O;22SHORT O;22O;22AU;11SIGN VIRAMA;11VOWEL SIGN PRISHTHAMATRA E;22AW;11OM",
    "11STRESS SIGN UDATTA;23ANUDATTA;11GRAVE ACCENT;11ACUTE ACCENT;11VOWEL SIGN CANDRA LONG E",
    "22UE;23UE;11LETTER QA;18KHHA;18GHHA;18ZA;18DDDHA;18RHA;18FA;18YYA;18VOCALIC RR;26LL",
    "11VOWEL SIGN VOCALIC L;31L;11DANDA;12OUBLE DANDA;12IGIT ZERO;17ONE;17TWO;18HREE;17FOUR",
    "18IVE;17SIX;18EVEN;17EIGHT;17NINE;11ABBREVIATION SIGN;11SIGN HIGH SPACING DOT",
    "11LETTER CANDRA A;18OE;19OE;18AW;18UE;19UE;18MARWARI DDA;18ZHA;18HEAVY YA;18GGA;18JJA",
    "18GLOTTAL STOP;18DDDA;18BBA;00BENGALI ANJI;08SIGN CANDRABINDU;13ANUSVARA;13VISARGA;+1",
    "08LETTER A;16A;15I;16I;15U;16U;15VOCALIC R;23L;+2;15E;15AI;+2;15O;15AU;15KA;16HA;15GA",
    "16HA;15NGA;15CA;16HA;15JA;16HA;15NYA;15TTA;17HA;15DDA;17HA;15NNA;15TA;16HA;15DA;16HA",
    "15NA;+1;15PA;16HA;15BA;16HA;15MA;15YA;15RA;+1;15LA;+3;15SHA;16SA;16A;15HA;+2",
    "08SIGN NUKTA;13AVAGRAHA;08VOWEL SIGN AA;19I;20I;19U;20U;19VOCALIC R;28R;+2;19E;19AI;+2",
    "19O;19AU;08SIGN VIRAMA;08LETTER KHANDA TA;+8;08AU LENGTH MARK;+4;08LETTER RRA;16HA;+1",
    "15YYA;15VOCALIC RR;23LL;08VOWEL SIGN VOCALIC L;28L;+2;08DIGIT ZERO;14ONE;14TWO;15HREE",
    "14FOUR;15IVE;14SIX;15EVEN;14EIGHT;14NINE;08LETTER RA WITH MIDDLE DIAGONAL",
    "23LOWER DIAGONAL;08RUPEE MARK;14SIGN;08CURRENCY NUMERATOR ONE;27TWO;28HREE;27FOUR",
    "27ONE LESS THAN THE DENOMINATOR;17DENOMINATOR SIXTEEN;08ISSHAR;08GANDA MARK",
    "08LETTER VEDIC ANUSVARA;08ABBREVIATION SIGN;08SANDHI MARK;+2;00GURMUKHI SIGN ADAK BINDI",
    "14BINDI;14VISARGA;+1;09LETTER A;17A;16I;17I;16U;17U;+4;16EE;16AI;+2;16OO;16AU;16KA;17HA",
    "16GA;17HA;16NGA;16CA;17HA;16JA;17HA;16NYA;16TTA;18HA;16DDA;18HA;16NNA;16TA;17HA;16DA",
    "17HA;16NA;+1;16PA;17HA;16BA;17HA;16MA;16YA;16RA;+1;16LA;17LA;+1;16VA;16SHA;+1;17A;16HA",
    "+2;09SIGN NUKTA;+1;09VOWEL SIGN AA;20I;21I;20U;21U;+4;20EE;20AI;+2;20OO;20AU",
    "09SIGN VIRAMA;+3;14UDAAT;+7;09LETTER KHHA;16GHHA;16ZA;16RRA;+1;16FA;+7;09DIGIT ZERO",
    "15ONE;15TWO;16HREE;15FOUR;16IVE;15SIX;16EVEN;15EIGHT;15NINE;09TIPPI;09ADDAK;09IRI;09URA",
    "09EK ONKAR;09SIGN YAKASH;09ABBREVIATION SIGN;+A;02JARATI SIGN CANDRABINDU;14ANUSVARA",
    "14VISARGA;+1;09LETTER A;17A;16I;17I;16U;17U;16VOCALIC R;24L;09VOWEL CANDRA E;+1",
    "09LETTER E;16AI;09VOWEL CANDRA O;+1;09LETTER O;16AU;16KA;17HA;16GA;17HA;16NGA;16CA;17HA",
    "16JA;17HA;16NYA;16TTA;18HA;16DDA;18HA;16NNA;16TA;17HA;16DA;17HA;16NA;+1;16PA;17HA;16BA",
    "17HA;16MA;16YA;16RA;+1;16LA;17LA;+1;16VA;16SHA;17SA;17A;16HA;+2;09SIGN NUKTA;14AVAGRAHA",
    "09VOWEL SIGN AA;20I;21I;20U;21U;20VOCALIC R;29R;20CANDRA E;+1;20E;20AI;20CANDRA O;+1;20O",
    "20AU;09SIGN VIRAMA;+2;09OM;+F;09LETTER VOCALIC RR;24LL;09VOWEL SIGN VOCALIC L;29L;+2",
    "09DIGIT ZERO;15ONE;15TWO;16HREE;15FOUR;16IVE;15SIX;16EVEN;15EIGHT;15NINE",
    "09ABBREVIATION SIGN;09RUPEE SIGN;+7;09LETTER ZHA;09SIGN SUKUN;15HADDA;14MADDAH",
    "14THREE-DOT NUKTA ABOVE;14CIRCLE NUKTA ABOVE;14TWO-CIRCLE NUKTA ABOVE;+1",
    "00ORIYA SIGN CANDRABINDU;11ANUSVARA;11VISARGA;+1;06LETTER A;14A;13I;14I;13U;14U",
    "13VOCALIC R;21L;+2;13E;13AI;+2;13O;13AU;13KA;14HA;13GA;14HA;13NGA;13CA;14HA;13JA;14HA",
    "13NYA;13TTA;15HA;13DDA;15HA;13NNA;13TA;14HA;13DA;14HA;13NA;+1;13PA;14HA;13BA;14HA;13MA",
    "13YA;13RA;+1;13LA;14LA;+1;13VA;13SHA;14SA;14A;13HA;+2;06SIGN NUKTA;11AVAGRAHA",
    "06VOWEL SIGN AA;17I;18I;17U;18U;17VOCALIC R;26R;+2;17E;17AI;+2;17O;17AU;06SIGN VIRAMA;+7",
    "11OVERLINE;06AI LENGTH MARK;07U LENGTH MARK;+4;06LETTER RRA;14HA;+1;13YYA;13VOCALIC RR",
    "21LL;06VOWEL SIGN VOCALIC L;26L;+2;06DIGIT ZERO;12ONE;12TWO;13HREE;12FOUR;13IVE;12SIX",
    "13EVEN;12EIGHT;12NINE;06ISSHAR;06LETTER WA;06FRACTION ONE QUARTER;19HALF",
    "15THREE QUARTERS;15ONE SIXTEENTH;19EIGHTH;15THREE SIXTEENTHS;+A;00TAMIL SIGN ANUSVARA",
    "11VISARGA;+1;06LETTER A;14A;13I;14I;13U;14U;+3;13E;14E;13AI;+1;13O;14O;13AU;13KA;+3",
    "13NGA;13CA;+1;13JA;+1;13NYA;13TTA;+3;13NNA;13TA;+3;13NA;14NNA;13PA;+3;13MA;13YA;13RA",
    "14RA;13LA;14LA;15LA;13VA;13SHA;14SA;14A;13HA;+4;06VOWEL SIGN AA;17I;18I;17U;18U;+3;17E",
    "18E;17AI;+1;17O;18O;17AU;06SIGN VIRAMA;+2;06OM;+6;06AU LENGTH MARK;+E;06DIGIT ZERO;12ONE",
    "12TWO;13HREE;12FOUR;13IVE;12SIX;13EVEN;12EIGHT;12NINE;06NUMBER TEN;13ONE HUNDRED",
    "17THOUSAND;06DAY SIGN;06MONTH SIGN;06YEAR SIGN;06DEBIT SIGN;06CREDIT SIGN",
    "06AS ABOVE SIGN;06RUPEE SIGN;06NUMBER SIGN;+5;01ELUGU SIGN COMBINING CANDRABINDU ABOVE",
    "13ANDRABINDU;12ANUSVARA;12VISARGA;12COMBINING ANUSVARA ABOVE;07LETTER A;15A;14I;15I;14U",
    "15U;14VOCALIC R;22L;+1;14E;15E;14AI;+1;14O;15O;14AU;14KA;15HA;14GA;15HA;14NGA;14CA;15HA",
    "14JA;15HA;14NYA;14TTA;16HA;14DDA;16HA;14NNA;14TA;15HA;14DA;15HA;14NA;+1;14PA;15HA;14BA",
    "15HA;14MA;14YA;14RA;15RA;14LA;15LA;16LA;14VA;14SHA;15SA;15A;14HA;+2;07SIGN NUKTA",
    "12AVAGRAHA;07VOWEL SIGN AA;18I;19I;18U;19U;18VOCALIC R;27R;+1;18E;19E;18AI;+1;18O;19O",
    "18AU;07SIGN VIRAMA;+7;07LENGTH MARK;07AI LENGTH MARK;+1;07LETTER TSA;14DZA;14RRRA;+2",
    "14NAKAARA POLLU;+2;14VOCALIC RR;22LL;07VOWEL SIGN VOCALIC L;27L;+2;07DIGIT ZERO;13ONE",
    "13TWO;14HREE;13FOUR;14IVE;13SIX;14EVEN;13EIGHT;13NINE;+7;07SIGN SIDDHAM",
    "07FRACTION DIGIT ZERO FOR ODD POWERS OF FOUR;22ONE FOR ODD POWERS OF FOUR",
    "22TWO FOR ODD POWERS OF FOUR;23HREE FOR ODD POWERS OF FOUR;22ONE FOR EVEN POWERS OF FOUR",
    "22TWO FOR EVEN POWERS OF FOUR;23HREE FOR EVEN POWERS OF FOUR;07SIGN TUUMU",
    "00KANNADA SIGN SPACING CANDRABINDU;13CANDRABINDU;13ANUSVARA;13VISARGA;13SIDDHAM",
    "08LETTER A;16A;15I;16I;15U;16U;15VOCALIC R;23L;+1;15E;16E;15AI;+1;15O;16O;15AU;15KA;16HA",
    "15GA;16HA;15NGA;15CA;16HA;15JA;16HA;15NYA;15TTA;17HA;15DDA;17HA;15NNA;15TA;16HA;15DA",
    "16HA;15NA;+1;15PA;16HA;15BA;16HA;15MA;15YA;15RA;16RA;15LA;16LA;+1;15VA;15SHA;16SA;16A",
    "15HA;+2;08SIGN NUKTA;13AVAGRAHA;08VOWEL SIGN AA;19I;20I;19U;20U;19VOCALIC R;28R;+1;19E",
    "20E;19AI;+1;19O;20O;19AU;08SIGN VIRAMA;+7;08LENGTH MARK;08AI LENGTH MARK;+6",
    "08LETTER NAKAARA POLLU;15FA;+1;15VOCALIC RR;23LL;08VOWEL SIGN VOCALIC L;28L;+2",
    "08DIGIT ZERO;14ONE;14TWO;15HREE;14FOUR;15IVE;14SIX;15EVEN;14EIGHT;14NINE;+1",
    "08SIGN JIHVAMULIYA;13UPADHMANIYA;+D;00MALAYALAM SIGN COMBINING ANUSVARA ABOVE",
    "16ANDRABINDU;15ANUSVARA;15VISARGA;10LETTER VEDIC ANUSVARA;17A;18A;17I;18I;17U;18U",
    "17VOCALIC R;25L;+1;17E;18E;17AI;+1;17O;18O;17AU;17KA;18HA;17GA;18HA;17NGA;17CA;18HA;17JA",
    "18HA;17NYA;17TTA;19HA;17DDA;19HA;17NNA;17TA;18HA;17DA;18HA;17NA;18NNA;17PA;18HA;17BA",
    "18HA;17MA;17YA;17RA;18RA;17LA;18LA;19LA;17VA;17SHA;18SA;18A;17HA;17TTTA",
    "10SIGN VERTICAL BAR VIRAMA;15CIRCULAR VIRAMA;15AVAGRAHA;10VOWEL SIGN AA;21I;22I;21U;22U",
    "21VOCALIC R;30R;+1;21E;22E;21AI;+1;21O;22O;21AU;10SIGN VIRAMA;10LETTER DOT REPH",
    "10SIGN PARA;+4;10LETTER CHILLU M;24Y;24LLL;10AU LENGTH MARK",
    "10FRACTION ONE ONE-HUNDRED-AND-SIXTIETH;23FORTIETH;19THREE EIGHTIETHS;19ONE TWENTIETH",
    "24ENTH;19THREE TWENTIETHS;19ONE FIFTH;10LETTER ARCHAIC II;17VOCALIC RR;25LL",
    "10VOWEL SIGN VOCALIC L;30L;+2;10DIGIT ZERO;16ONE;16TWO;17HREE;16FOUR;17IVE;16SIX;17EVEN",
    "16EIGHT;16NINE;10NUMBER TEN;17ONE HUNDRED;21THOUSAND;10FRACTION ONE QUARTER;23HALF",
    "19THREE QUARTERS;19ONE SIXTEENTH;23EIGHTH;19THREE SIXTEENTHS;10DATE MARK",
    "10LETTER CHILLU NN;25;24RR;24L;25L;24K;+1;00SINHALA SIGN CANDRABINDU;13ANUSVARAYA",
    "13VISARGAYA;+1;08LETTER AYANNA;16AYANNA;16EYANNA;17EYANNA;15IYANNA;16IYANNA;15UYANNA",
    "16UYANNA;15IRUYANNA;18UYANNA;16LUYANNA;18UYANNA;15EYANNA;16EYANNA;15AIYANNA;15OYANNA",
    "16OYANNA;15AUYANNA;+3;16LPAPRAANA KAYANNA;15MAHAAPRAANA KAYANNA;15ALPAPRAANA GAYANNA",
    "15MAHAAPRAANA GAYANNA;15KANTAJA NAASIKYAYA;15SANYAKA GAYANNA;15ALPAPRAANA CAYANNA",
    "15MAHAAPRAANA CAYANNA;15ALPAPRAANA JAYANNA;15MAHAAPRAANA JAYANNA;15TAALUJA NAASIKYAYA",
    "23SANYOOGA NAAKSIKYAYA;15SANYAKA JAYANNA;15ALPAPRAANA TTAYANNA;15MAHAAPRAANA TTAYANNA",
    "15ALPAPRAANA DDAYANNA;15MAHAAPRAANA DDAYANNA;16UURDHAJA NAYANNA;15SANYAKA DDAYANNA",
    "15ALPAPRAANA TAYANNA;15MAHAAPRAANA TAYANNA;15ALPAPRAANA DAYANNA;15MAHAAPRAANA DAYANNA",
    "15DANTAJA NAYANNA;+1;15SANYAKA DAYANNA;15ALPAPRAANA PAYANNA;15MAHAAPRAANA PAYANNA",
    "15ALPAPRAANA BAYANNA;15MAHAAPRAANA BAYANNA;17YANNA;15AMBA BAYANNA;15YAYANNA;15RAYANNA;+1",
    "15DANTAJA LAYANNA;+2;15VAYANNA;15TAALUJA SAYANNA;15MUURDHAJA SAYANNA;15DANTAJA SAYANNA",
    "15HAYANNA;15MUURDHAJA LAYANNA;15FAYANNA;+3;08SIGN AL-LAKUNA;+4;08VOWEL SIGN AELA-PILLA",
    "19KETTI AEDA-PILLA;19DIGA AEDA-PILLA;19KETTI IS-PILLA;19DIGA IS-PILLA;19KETTI PAA-PILLA",
    "+1;19DIGA PAA-PILLA;+1;19GAETTA-PILLA;19KOMBUVA;19DIGA KOMBUVA;19KOMBU DEKA",
    "24VA HAA AELA-PILLA;31DIGA AELA-PILLA;31GAYANUKITTA;19GAYANUKITTA;+6;08LITH DIGIT ZERO",
    "19ONE;19TWO;20HREE;19FOUR;20IVE;19SIX;20EVEN;19EIGHT;19NINE;+2",
    "08VOWEL SIGN DIGA GAETTA-PILLA;26YANUKITTA;08PUNCTUATION KUNDDALIYA;+C",
    "00THAI CHARACTER KO KAI;16HO KHAI;21UAT;21WAI;21ON;19RAKHANG;15NGO NGU;15CHO CHAN;21ING",
    "21ANG;15SO SO;15CHO CHOE;15YO YING;15DO CHADA;15TO PATAK;16HO THAN;19NANGMONTHO",
    "19PHUTHAO;15NO NEN;15DO DEK;15TO TAO;16HO THUNG;21AHAN;21ONG;15NO NU;15BO BAIMAI",
    "15PO PLA;16HO PHUNG;15FO FA;15PHO PHAN;15FO FAN;15PHO SAMPHAO;15MO MA;15YO YAK;15RO RUA",
    "16U;15LO LING;16U;15WO WAEN;15SO SALA;18RUSI;18SUA;15HO HIP;15LO CHULA;15O ANG",
    "15HO NOKHUK;15PAIYANNOI;15SARA A;15MAI HAN-AKAT;15SARA AA;21M;20I;21I;20UE;22E;21;21U",
    "15PHINTHU;+4;06URRENCY SYMBOL BAHT;06HARACTER SARA E;20AE;20O;20AI MAIMUAN;27ALAI",
    "15LAKKHANGYAO;15MAIYAMOK;18TAIKHU;18 EK;19THO;20RI;19CHATTAWA;15THANTHAKHAT;15NIKHAHIT",
    "15YAMAKKAN;15FONGMAN;05DIGIT ZERO;11ONE;11TWO;12HREE;11FOUR;12IVE;11SIX;12EVEN;11EIGHT",
    "11NINE;05CHARACTER ANGKHANKHU;15KHOMUT;+25;00LAO LETTER KO;12HO SUNG;+1;15TAM;+1",
    "11PALI GHA;11NGO;11CO;11PALI CHA;11SO TAM;+1;11PALI JHA;11NYO;11PALI NYA;16TTA;18HA",
    "16DDA;18HA;16NNA;11DO;11TO;12HO SUNG;15TAM;11PALI DHA;11NO;11BO;11PO;12HO SUNG;11FO TAM",
    "11PHO TAM;11FO SUNG;11PALI BHA;11MO;11YO;11LO LING;+1;15OOT;+1;11WO;11SANSKRIT SHA;21SA",
    "12O SUNG;11HO SUNG;11PALI LLA;11O;11HO TAM;04ELLIPSIS;04VOWEL SIGN A;15MAI KAN;15AA;16M",
    "15I;16I;15Y;16Y;15U;16U;04SIGN PALI VIRAMA;04VOWEL SIGN MAI KON;04SEMIVOWEL SIGN LO",
    "19NYO;+2;04VOWEL SIGN E;16I;15O;15AY;16I;+1;04KO LA;+1;04TONE MAI EK;13THO;14I;13CATAWA",
    "04CANCELLATION MARK;04NIGGAHITA;+2;04DIGIT ZERO;10ONE;10TWO;11HREE;10FOUR;11IVE;10SIX",
    "11EVEN;10EIGHT;10NINE;+2;04HO NO;07MO;04LETTER KHMU GO;16NYO;+20;00TIBETAN SYLLABLE OM",
    "08MARK GTER YIG MGO TRUNCATED A;26-UM RNAM BCAD MA;30GTER TSHEG MA",
    "13INITIAL YIG MGO MDUN MA;13CLOSING YIG MGO SGAB MA;14ARET YIG MGO PHUR SHAD MA",
    "13YIG MGO TSHEG SHAD MA;13SBRUL SHAD;13BSKUR YIG MGO;14KA- SHOG YIG MGO",
    "13INTERSYLLABIC TSHEG;13DELIMITER TSHEG BSTAR;13SHAD;13NYIS SHAD;13TSHEG SHAD",
    "13NYIS TSHEG SHAD;13RIN CHEN SPUNGS SHAD;14GYA GRAM SHAD;13CARET -DZUD RTAGS ME LONG CAN",
    "13GTER TSHEG;08LOGOTYPE SIGN CHAD RTAGS;22LHAG RTAGS",
    "08ASTROLOGICAL SIGN SGRA GCAN -CHAR RTAGS;26-KHYUD PA;26SDONG TSHUGS",
    "08SIGN RDEL DKAR GCIG;24NYIS;24SUM;18NAG GCIG;23NYIS;18DKAR RDEL NAG;08DIGIT ZERO;14ONE",
    "14TWO;15HREE;14FOUR;15IVE;14SIX;15EVEN;14EIGHT;14NINE;14HALF ONE;19TWO;20HREE;19FOUR",
    "20IVE;19SIX;20EVEN;19EIGHT;19NINE;19ZERO;08MARK BSDUS RTAGS;13NGAS BZUNG NYI ZLA",
    "13CARET -DZUD RTAGS BZHI MIG CAN;13NGAS BZUNG SGOR RTAGS;13CHE MGO;13TSA -PHRU",
    "13GUG RTAGS GYON;25AS;13ANG KHANG GYON;25AS;08SIGN YAR TSHES;13MAR TSHES;08LETTER KA",
    "16HA;15GA;16HA;15NGA;15CA;16HA;15JA;+1;15NYA;15TTA;17HA;15DDA;17HA;15NNA;15TA;16HA;15DA",
    "16HA;15NA;15PA;16HA;15BA;16HA;15MA;15TSA;17HA;15DZA;17HA;15WA;15ZHA;16A;15-A;15YA;15RA",
    "15LA;15SHA;16SA;16A;15HA;15A;15KSSA;15FIXED-FORM RA;15KKA;15RRA;+4;08VOWEL SIGN AA;19I",
    "20I;19U;20U;19VOCALIC R;28R;27L;28L;19E;20E;19O;20O;08SIGN RJES SU NGA RO;14NAM BCAD",
    "08VOWEL SIGN REVERSED I;29I;08SIGN NYI ZLA NAA DA;13SNA LDAN;08MARK HALANTA;13PALUTA",
    "08SIGN LCI RTAGS;13YANG RTAGS;13LCE TSA CAN;13MCHU CAN;13GRU CAN RGYINGS;17MED RGYINGS",
    "13INVERTED MCHU CAN;09UBJOINED SIGN LCE TSA CAN;23MCHU CAN;23INVERTED MCHU CAN",
    "18LETTER KA;26HA;25GA;26HA;25NGA;25CA;26HA;25JA;+1;25NYA;25TTA;27HA;25DDA;27HA;25NNA",
    "25TA;26HA;25DA;26HA;25NA;25PA;26HA;25BA;26HA;25MA;25TSA;27HA;25DZA;27HA;25WA;25ZHA;26A",
    "25-A;25YA;25RA;25LA;25SHA;26SA;26A;25HA;25A;25KSSA;25FIXED-FORM WA;36YA;36RA;+1",
    "08KU RU KHA;17 BZHI MIG CAN;08CANTILLATION SIGN HEAVY BEAT;26LIGHT BEAT;26CANG TE-U",
    "26SBUB -CHAL;08SYMBOL DRIL BU;15RDO RJE;15PADMA GDAN;15RDO RJE RGYA GRAM;15PHUR PA",
    "15NOR BU;21 NYIS -KHYIL;22GSUM -KHYIL;22BZHI -KHYIL;+1;09IGN RDEL NAG RDEL DKAR;22GSUM",
    "08MARK BSKA- SHOG GI MGO RGYAN;13MNYAM YIG GI MGO RGYAN;13NYIS TSHEG",
    "13INITIAL BRDA RNYING YIG MGO MDUN MA;13CLOSING BRDA RNYING YIG MGO SGAB MA",
    "00RIGHT-FACING SVASTI SIGN;00LEFT-FACING SVASTI SIGN",
    "00RIGHT-FACING SVASTI SIGN WITH DOTS;00LEFT-FACING SVASTI SIGN WITH DOTS",
    "00TIBETAN MARK LEADING MCHAN RTAGS;13TRAILING MCHAN RTAGS;+25;00MYANMAR LETTER KA;16HA",
    "15GA;16HA;15NGA;15CA;16HA;15JA;16HA;15NYA;16NYA;15TTA;17HA;15DDA;17HA;15NNA;15TA;16HA",
    "15DA;16HA;15NA;15PA;16HA;15BA;16HA;15MA;15YA;15RA;15LA;15WA;15SA;15HA;15LLA;15A;15SHAN A",
    "15I;16I;15U;16U;15E;15MON E;15O;15AU;08VOWEL SIGN TALL AA;19AA;19I;20I;19U;20U;19E;19AI",
    "19MON II;23O;19E ABOVE;08SIGN ANUSVARA;13DOT BELOW;13VISARGA;15RAMA;13ASAT",
    "08CONSONANT SIGN MEDIAL YA;30RA;30WA;30HA;08LETTER GREAT SA;08DIGIT ZERO;14ONE;14TWO",
    "15HREE;14FOUR;15IVE;14SIX;15EVEN;14EIGHT;14NINE;08SIGN LITTLE SECTION;13SECTION",
    "09YMBOL LOCATIVE;15COMPLETED;15AFOREMENTIONED;15GENITIVE;08LETTER SHA;16SA;15VOCALIC R",
    "24R;23L;24L;08VOWEL SIGN VOCALIC R;28R;27L;28L;08LETTER MON NGA;19JHA;19BBA;21E",
    "08CONSONANT SIGN MON MEDIAL NA;34MA;34LA;08LETTER SGAW KAREN SHA",
    "08VOWEL SIGN SGAW KAREN EU;08TONE MARK SGAW KAREN HATHI;29KE PHO",
    "08LETTER WESTERN PWO KAREN THA;33PWA;08VOWEL SIGN WESTERN PWO KAREN EU;37UE",
    "08SIGN WESTERN PWO KAREN TONE-1;362;363;364;365;08LETTER EASTERN PWO KAREN NNA;33YWA",
    "33GHWA;08VOWEL SIGN GEBA KAREN I;19KAYAH OE;25U;25EE;08LETTER SHAN KA;21HA;20GA;20CA",
    "20ZA;20NYA;20DA;20NA;20PHA;20FA;20BA;20THA;20HA;08CONSONANT SIGN SHAN MEDIAL WA",
    "08VOWEL SIGN SHAN AA;24E;25 ABOVE;24FINAL Y;08SIGN SHAN TONE-2;233;235;236",
    "18COUNCIL TONE-2;313;26EMPHATIC TONE;08LETTER RUMAI PALAUNG FA",
    "08SIGN RUMAI PALAUNG TONE-5;09HAN DIGIT ZERO;19ONE;19TWO;20HREE;19FOUR;20IVE;19SIX",
    "20EVEN;19EIGHT;19NINE;09IGN KHAMTI TONE-1;253;08VOWEL SIGN AITON A;26I;08SYMBOL SHAN ONE",
    "20EXCLAMATION;00GEORGIAN CAPITAL LETTER AN;24BAN;24GAN;24DON;24EN;24VIN;24ZEN;24TAN;24IN",
    "24KAN;24LAS;24MAN;24NAR;24ON;24PAR;24ZHAR;24RAE;24SAN;24TAR;24UN;24PHAR;24KHAR;24GHAN",
    "24QAR;24SHIN;24CHIN;25AN;24JIL;24CIL;25HAR;24XAN;24JHAN;24HAE;25E;25IE;24WE;24HAR;25OE",
    "+1;24YN;+5;24AEN;+2;09LETTER AN;16BAN;16GAN;16DON;16EN;16VIN;16ZEN;16TAN;16IN;16KAN",
    "16LAS;16MAN;16NAR;16ON;16PAR;16ZHAR;16RAE;16SAN;16TAR;16UN;16PHAR;16KHAR;16GHAN;16QAR",
    "16SHIN;16CHIN;17AN;16JIL;16CIL;17HAR;16XAN;16JHAN;16HAE;17E;17IE;16WE;16HAR;17OE;16FI",
    "16YN;16ELIFI;16TURNED GAN;16AIN;09PARAGRAPH SEPARATOR;00MODIFIER LETTER GEORGIAN NAR",
    "00GEORGIAN LETTER AEN;16HARD SIGN;16LABIAL SIGN"
  ]

end ApiDoc.Text.CharacterName
