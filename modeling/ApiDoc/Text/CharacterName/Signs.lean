import ApiDoc.Text.CharacterName.Coded

/-!
# Names of characters: Signs

The names of cuneiform signs, hieroglyphs and other signs.
-/

namespace ApiDoc.Text.CharacterName

/-- The names of the characters from `12000` to `1bfff`. -/
def signs : Coded where
  first := 0x12000
  lines := [
    "00CUNEIFORM SIGN A;16 TIMES A;23BAD;23GAN2 TENU;23HA;23IGI;23LAGAR GUNU;23MUSH;23SAG;162",
    "16B;17 TIMES ASH2;24DUN3 GUNU;24GAL;26N2 TENU;24HA;24IGI GUNU;25MIN;24LAGAB;24SHESH",
    "24U PLUS U PLUS U;18GUNU;172;18 TIMES BALAG;25GAN2 TENU;25ME PLUS EN;25SHA3;25TAK4;16D",
    "16K;17 TIMES ERIN2;24SHITA PLUS GISH;16L;17 TIMES AL;24DIM2;24GISH;24HA;24KAD3;25I;24SHE",
    "24USH;17AN;17EPH;16MAR;19 TIMES SHE;16N;17 OVER AN;18THREE TIMES",
    "18PLUS NAGA OPPOSING AN PLUS NAGA;28SQUARED;17SHE;16PIN;16RAD;19 TIMES KUR;17KAB;16SAL2",
    "17H;18 ZIDA TENU;19KABA TENU;19OVER ASH TUG2 OVER TUG2 TUG2 OVER TUG2 PAP;28OVER ASH",
    "36 CROSSING ASH OVER ASH OVER ASH;182;18GAB;15BA;17D;17G3;17HAR2;17L;18 OVER BAL;18AG",
    "17R;18A2;16I;17 TIMES A;24GAR;24IGI GUNU;16U;17 OVER BU AB;26UN;18CROSSING BU;17LUG",
    "20 OVER BULUG;17R;182;15DA;17G;18 KISIM5 TIMES A PLUS MASH;33MAR;32BALAG;33I;32GA",
    "34 PLUS MASH;33I;34R2;33UD;32HA;32IR;34 PLUS LU;32KAK;32LA;33U;34 PLUS MASH2;34M;32NE",
    "32PAP PLUS PAP;32SI;32TAK4;32U2 PLUS GIR2;33SH;17M;17R;18A3;194;16I;17B;17M;18 TIMES SHE",
    "182;17N;18 KASKAL U GUNU DISH;17SH;16U;17 OVER DU;18GUNU;18SHESHIG;17B;18 TIMES ESH2;182",
    "17G;18UD;17H;17N;183;19 GUNU;24 GUNU;184;17R2;15E;16 TIMES PAP;17OVER E NUN OVER NUN;162",
    "17 TIMES A PLUS HA PLUS DA;24GAR;24MI;24SAL;25HE;24U;16DIN;16GIR;16L;16N;17 TIMES GAN2",
    "28 TENU;24ME;18CROSSING EN;18OPPOSING EN;18SQUARED;16REN;17IN2;16SH2;16ZEN;19 TIMES A",
    "27 PLUS LAL;36 TIMES LAL;27N;26BAD;26DUN3 GUNU;35 GUNU;26HA;28 GUNU;26IGI GUNU;26KASKAL",
    "32 SQUARED;27U3;26LA;28L TIMES LAL;27I;27U;26U2;27D;15GA;17 GUNU;172",
    "18 TIMES A PLUS DA PLUS HA;32HA;32IGI;26B2 TENU PLUS TAB;26N;26SH;282 PLUS GAL;25BAD",
    "27R PLUS RA;26UR;28 PLUS RA;25DA;26I;27M TIMES SHE;26UB;25EL;27 PLUS LA;26N",
    "27 TIMES GAN2 TENU;25GAN2 TENU;27R;26I;274;28 PLUS A;27R2 PLUS SU;25HA PLUS LU PLUS ESH2",
    "27L;28 PLUS LA;26I PLUS LI;26UB2;25IGI GUNU;26SH PLUS HU PLUS ASH;25KAK;27SKAL;26ID",
    "28 PLUS LAL;26U3 PLUS AN;25LA;25ME PLUS EN;26I;25NUN;28 OVER NUN;25PA;25SAL;27R;26HE",
    "28 PLUS TUR;27ID;26UM;25TAK4;25U;26D;27 PLUS DU;19OVER GA2;17BA;19 CROSSING GABA;17D",
    "18 OVER GAD GAR OVER GAR;17L;18 GAD OVER GAD GAR OVER GAR;18AM;17M;17N;182;19 TENU",
    "20OVER GAN2;20CROSSING GAN2;17R;183;17SHAN;16ESHTIN;22 TIMES KUR;16I;17 TIMES E;24U",
    "18CROSSING GI;174;18 OVER GI4;19CROSSING GI4;17DIM;17R2;19 GUNU;183;19 TIMES A PLUS IGI",
    "26GAN2 TENU;26IGI;26LU PLUS IGI;26PA;17SAL;18H;19 CROSSING GISH;20TIMES BAD;26TAK4;21ENU",
    "16U;17 CROSSING GU;172;18 TIMES KAK;28 TIMES IGI GUNU;25NUN;25SAL PLUS TUG2;19GUNU;17D",
    "18 TIMES A PLUS KUR;25KUR;19OVER GUD LUGAL;17L;17M;18 TIMES SHE;17R;187;18UN;19SH;15HA",
    "17 TENU;18GUNU;17L;16I;17 TIMES ASH;272;24BAD;24DISH;24GAD;24KIN;24NUN;24SHE;24U;16U",
    "17B2;19 TIMES AN;26HAL;26KASKAL;26LISH;26UD;17L2;15I;16 A;16B;16DIM;19 OVER IDIM BUR",
    "30SQUARED;16G;17I;18 DIB;19RI;19OVER IGI SHIR OVER SHIR UD OVER UD;19GUNU;16L",
    "17 TIMES GAN2 TENU;172;16M;17 TIMES TAK4;18CROSSING IM;18OPPOSING IM;18SQUARED;17IN;16N",
    "16R;16SH;15KA;17 TIMES A;25D;26 PLUS KU3;25SH2;24BAD;26LAG;26R;25I;24ERIN2;25SH2;24GA",
    "26L;26N2 TENU;26R;27 PLUS SHA3 PLUS A;25I;26R2;26SH PLUS SAR;29CROSSING GISH;25U;26R7",
    "24IGI;25M;24KAK;25I;26D;24LI;25U;24ME;26 PLUS DU;32GI;32TE;25I;26 PLUS NUNUZ;24NE;25UN",
    "24PI;24RU;24SA;26R;25HA;26E;26ID;26U;25IG;25UHUR;24TAR;24U;252;25D;25MUM TIMES PA;25SH",
    "24ZI;172;18 CROSSING KA2;17B;17D2;183;184;185;19 OVER KAD5;17K;18 TIMES IGI GUNU;17L",
    "18 TIMES BAD;19CROSSING KAL;17M2;184;17SKAL;21 LAGAB TIMES U OVER LAGAB TIMES U",
    "22OVER KASKAL LAGAB TIMES U OVER LAGAB TIMES U;16ESH2;16I;17 TIMES BAD;24U;25D;17D;17N",
    "17SAL;18H;18IM5;21 OVER KISIM5;16U;17 OVER HI TIMES ASH2 KU OVER HI TIMES ASH2;173;174",
    "18 VARIANT FORM;177;17L;18 GUNU;17N;17R;18 OPPOSING KUR;17SHU2;16WU318;15LA;17GAB",
    "20 TIMES A;28 PLUS DA PLUS HA;34GAR;34LAL;28L;28N;28SH ZIDA TENU;27BAD;28I;27DAR;27EN",
    "27GA;29R;28UD;30 PLUS GUD;27HA;29L;28I TIMES NUN;27IGI GUNU;28M;29 PLUS HA;35LU;27KI;29N",
    "28U3;29L;30 PLUS HI PLUS A;27LAGAB;28ISH;28U;29L;27ME;29 PLUS EN;28USH;27NE",
    "27SHE PLUS SUM;29ITA PLUS GISH PLUS ERIN2;43TENU;29U2;31 PLUS SHU2;28UM;27TAG;29K4",
    "28E PLUS A PLUS SU PLUS NA;27U;28 PLUS A;34U PLUS U;282 PLUS ASH;28D;28SH;21SQUARED;19R",
    "20 TIMES SHE;30 PLUS SUM;21GUNU;25 OVER LAGAR GUNU SHE;17HSHU;17L;18 TIMES LAL;17M",
    "18 TIMES KUR;28 PLUS RU;16I;17L;17MMU2;17SH;16U;17 TIMES BAD;172;18 TIMES AL;25BAD",
    "25ESH2;29 TENU;25GAN2 TENU;25HI TIMES BAD;25IM;25KAD2;283;29 PLUS ASH;26I;25LA PLUS ASH",
    "27GAB;25ME PLUS EN;25NE;26U;25SI PLUS ASH;27K2 PLUS BU;25TUG2;20ENU;19CROSSING LU2",
    "19OPPOSING LU2;19SQUARED;20HESHIG;173;17GAL;20 OVER LUGAL;22PPOSING LUGAL;21SHESHIG;17H",
    "17L;17M;18 OVER LUM;27 GAR OVER GAR;15MA;17 TIMES TAK4;18GUNU;172;17H;17R;17SH;192;16E",
    "17S;16I;17N;16U;17 OVER MU;17G;18 GUNU;17NSUB;17RGU2;17SH;19 TIMES A;26KUR;26ZA",
    "20OVER MUSH;29 TIMES A PLUS NA;20CROSSING MUSH;193;20 TIMES A;28 PLUS DI;27DI;21GUNU",
    "15NA;172;17GA;19 INVERTED;20TIMES SHU TENU;20OPPOSING NAGA;19R;17M NUTILLU;18;182;16E",
    "17 TIMES A;24UD;18SHESHIG;16I;17 TIMES E;172;17M;18 TIMES GAN2 TENU;27R PLUS GAN2 TENU",
    "17NDA2;21 TIMES AN;29SH;31 PLUS ASH;28GUD;28ME PLUS GAN2 TENU;28NE;29UN;28SHE",
    "31 PLUS A AN;38SH;40 PLUS ASH;28U2 PLUS ASH;29SH;17SAG;16U;1711;17N;18 LAGAR TIMES GAR",
    "31MASH;31SAL;34 OVER NUN LAGAR TIMES SAL;31USH;19TENU;19OVER NUN;19CROSSING NUN",
    "31 LAGAR OVER LAGAR;18UZ;20 AB2 TIMES ASHGAB;31BI;31DUG;31GUD;31IGI GUNU;31KAD3;31LA",
    "31NE;31SILA3;31U2;21KISIM5 TIMES BI;36 U;15PA;17D;17N;17P;16ESH2;16I;17 TIMES A;25B;24BI",
    "25U;24E;24I;25B;24U;252;18CROSSING PI;17RIG;20 TIMES KAL;27UD;27ZA;21OPPOSING PIRIG;15RA",
    "17B;16I;16U;15SA;17G NUTILLU;18;18 TIMES A;25DU;27B;25HA;25KAK;26UR;25LUM;25MI;25NUN",
    "25SAL;26HID;25TAB;25U2;26B;26M;26R;26SH;19OVER SAG;19GUNU;17L;18 LAGAB TIMES ASH2;17NGA2",
    "17R;16HA;183;19 TIMES A;26BAD;26GISH;26NE;26SHU2;26TUR;26U;27 PLUS A;186;18B6;18R2;17E",
    "18 HU;19OVER SHE GAD OVER GAD GAR OVER GAR;28TAB OVER TAB GAR OVER GAR;18G9;18N;18SH;202",
    "20LAM;17ID;19 TIMES A;26IM;18M;19 TIMES A;26BAL;27ULUG;26DIN;26GAR;26IGI;29 GUNU",
    "26KUSHU2;26LUL;26MUG;26SAL;18NIG;18R;19 TENU;20OVER SHIR BUR OVER BUR;18TA;17U",
    "18 OVER INVERTED SHU;182;18BUR;16I;17 GUNU;17G;184;19 OVER SIG4 SHU2;17K2;17LA3;16U",
    "17 OVER SU;17D;182;17HUR;17M;18ASH;17R;189;15TA;17 ASTERISK;18TIMES HI;24MI;18GUNU;17B",
    "18 OVER TAB NI OVER NI DISH OVER DISH;19SQUARED;17G;18 TIMES BI;25GUD;25SHE;27U;25TUG2",
    "25UD;17K4;17R;16E;17 GUNU;16I;17 TENU;17L;17R;18 TIMES TAK4;19OVER TIR",
    "27 GAD OVER GAD GAR OVER GAR;16U;17G2;17K;17M;17R;18 OVER TUR ZA OVER ZA;15U;16 GUD",
    "17U U;17OVER U PA OVER PA GAR OVER GAR;24SUR OVER SUR;24U REVERSED OVER U REVERSED;162",
    "16B;16D;17 KUSHU2;18TIMES BAD;24MI;24U PLUS U PLUS U;39 GUNU;18GUNU;18SHESHIG",
    "25 TIMES BAD;17UG;16M;17 TIMES LAGAB;24ME PLUS DA;24SHA3;24U;17BIN;17UM;19 TIMES KASKAL",
    "26PA;16N;17 GUNU;16R;17 CROSSING UR;18SHESHIG;172;18 TIMES A PLUS HA;32NA;26L;25HA;25NUN",
    "25U2;27 PLUS ASH;33BI;174;17I;183;17U;18 TIMES A;26SHGAB;25BAR;25DUN;25GA;27L;27N2 TENU",
    "27R;26U;25HA;25IGI;26M;26SH;25KI;25LUM;25MIN;25PA;25SHE;26IG4;25TU;25U PLUS GUD;26D",
    "26RUDA;18DA;20 TIMES U;16SH;18 TIMES A;25KU;27R;25TAK4;18X;182;18UMX;16TUKI;16Z3",
    "18 TIMES KASKAL;17U;15ZA;17 TENU;18SQUARED TIMES KUR;17G;17MX;16E2;16I;17 OVER ZI;173",
    "17B;18 KABA TENU;17G;17Z2;16U;175;18 TIMES A;17BUR;17M;15KAP ELAMITE;15AB TIMES NUN",
    "172 TIMES A;16MAR TIMES KUG;15DAG KISIM5 TIMES U2 PLUS MASH;183;16ISH PLUS SHU",
    "16UB TIMES SHE;15EZEN TIMES GUD;26SHE;15GA2 TIMES AN PLUS KAK PLUS A;26SH2;16E22;16IG",
    "15HUSH;15KA TIMES ANSHE;25SH3;24GISH;25UD;24HI TIMES ASH2;24LUM;24PA;24SHUL;24TU;24UR2",
    "15LAGAB TIMES GI;16U2 SHESHIG TIMES BAD;19TIMES ESH2 PLUS LAL;25SHU;15MESH",
    "16USH3 TIMES ZA;15NA4;16IN;189;18DA2 TIMES BAL;28GI;16U11 ROTATED NINETY DEGREES",
    "15PESH2 ASTERISK;16IR2;15SAG TIMES IGI GUNU;15TI2;15UM TIMES ME;16 U;+66",
    "10NUMERIC SIGN TWO ASH;24HREE ASH;23FOUR ASH;24IVE ASH;23SIX ASH;24EVEN ASH;23EIGHT ASH",
    "23NINE ASH;23THREE DISH;23FOUR DISH;24IVE DISH;23SIX DISH;24EVEN DISH;23EIGHT DISH",
    "23NINE DISH;23FOUR U;24IVE U;23SIX U;24EVEN U;23EIGHT U;23NINE U;23ONE GESH2;23TWO GESH2",
    "24HREE GESH2;23FOUR GESH2;24IVE GESH2;23SIX GESH2;24EVEN GESH2;23EIGHT GESH2",
    "23NINE GESH2;23ONE GESHU;23TWO GESHU;24HREE GESHU;23FOUR GESHU;24IVE GESHU;23TWO SHAR2",
    "24HREE SHAR2;34 VARIANT FORM;23FOUR SHAR2;24IVE SHAR2;23SIX SHAR2;24EVEN SHAR2",
    "23EIGHT SHAR2;23NINE SHAR2;23ONE SHARU;23TWO SHARU;24HREE SHARU;34 VARIANT FORM",
    "23FOUR SHARU;24IVE SHARU;23SHAR2 TIMES GAL PLUS DISH;44MIN;23ONE BURU;23TWO BURU",
    "24HREE BURU;33 VARIANT FORM;23FOUR BURU;24IVE BURU;23THREE VARIANT FORM ESH16;4521",
    "23FOUR VARIANT FORM LIMMU;464;46 A;47B;23SIX VARIANT FORM ASH9;24EVEN VARIANT FORM IMIN3",
    "46 A;47B;23EIGHT VARIANT FORM USSU;463;23NINE VARIANT FORM ILIMMU;473;474;47 A",
    "23TWO ASH TENU;24HREE ASH TENU;23FOUR ASH TENU;24IVE ASH TENU;23SIX ASH TENU;23ONE BAN2",
    "23TWO BAN2;24HREE BAN2;23FOUR BAN2;32 VARIANT FORM;24IVE BAN2;32 VARIANT FORM",
    "23NIGIDAMIN;29ESH;23ONE ESHE3;23TWO ESHE3;23ONE THIRD DISH;23TWO THIRDS DISH",
    "23FIVE SIXTHS DISH;23ONE THIRD VARIANT FORM A;23TWO THIRDS VARIANT FORM A",
    "23ONE EIGHTH ASH;27QUARTER ASH;24LD ASSYRIAN ONE SIXTH;40QUARTER;24NE QUARTER GUR",
    "27HALF GUR;23ELAMITE ONE THIRD;31TWO THIRDS;31FORTY;32IFTY;23FOUR U VARIANT FORM",
    "24IVE U VARIANT FORM;23SIX U VARIANT FORM;24EVEN U VARIANT FORM;23EIGHT U VARIANT FORM",
    "23NINE U VARIANT FORM;+1;10PUNCTUATION SIGN OLD ASSYRIAN WORD DIVIDER;27VERTICAL COLON",
    "27DIAGONAL COLON;36TRICOLON;36QUADCOLON;+B;10SIGN AB TIMES NUN TENU;24SHU2",
    "16D TIMES ESH2;15BAD TIMES DISH TENU;17HAR2 TIMES AB2;28NI;28ZA;16U OVER BU TIMES NA2",
    "15DA TIMES TAK4;17G TIMES KUR;16IM TIMES IGI;25U U U;182 TIMES UD;16UG TIMES ANSHE;26SH",
    "28 AT LEFT;25DIN;26UN;25ERIN2;25GA;26I;27R2 GUNU;27SH;25HA;26I;25IGI GUNU;25KASKAL;26UR",
    "27SHU2;31 PLUS KASKAL;25LAK-020;27M;28 TIMES KUR;26UH PLUS GISH;25MASH;26ES;26I;25NI",
    "25PI;25SHE;26I GUNU;15E2 TIMES KUR;24PAP;16RIN2 X;16SH2 CROSSING ESH2",
    "16ZEN SHESHIG TIMES ASH;34HI;34IGI GUNU;34LA;36L;34ME;36S;34SU;20TIMES SU",
    "15GA2 TIMES BAHAR2;25DIM GUNU;26UG TIMES IGI GUNU;35KASKAL;25EREN;25GA;27R PLUS DI;34NE",
    "25HA PLUS A;25KUSHU2 PLUS KASKAL;25LAM;28 TIMES KUR;26UH;25MUSH;25NE;27 PLUS E2;33GI",
    "25SHIM;25ZIZ2;17BA ROTATED NINETY DEGREES;16ESHTIN TIMES U",
    "16ISH TIMES GISH CROSSING GISH;16U2 TIMES IGI GUNU;17D PLUS GISH TIMES TAK4",
    "15HA TENU GUNU;16I TIMES ASH OVER HI TIMES ASH;15KA TIMES BU;24KA;24U U U;25R",
    "15LAGAB TIMES ZU OVER ZU;17K-003;2021;215;2030;2050;211;2062;2079 OVER LAK-079 GUNU;2080",
    "211 OVER LAK-081;2092;19130;2042;19210;219;2020;215;218;2038;2065;216;19343;217;218;2083",
    "214;2090;19441;219;22 TIMES GU;29IGI;29PAP PLUS LU3;38PAP PLUS LU3;29U2 PLUS BA;2050;217",
    "2070;2083;2090;212;213;215;19550;19608;2017;22 TIMES ASH;29BAD;29DUN3 GUNU GUNU;29KU3",
    "29LA;29TAR;30E;29U2;30D;30RUDA;2036;2048;22 TIMES DUB;29GA;29IGI;32 GUNU;29NI",
    "29PAP PLUS PAP PLUS LU3;29SHESH PLUS KI;29UD;30RUDA;19724;2049;16U2 GUNU TIMES ASH",
    "19TIMES DISH;25HAL;25PAP;28 PLUS PAP PLUS LU3;25TAK4;15MI PLUS ZA7",
    "16USH OVER MUSH TIMES GA;36KAK;15NINDA2 TIMES DIM GUNU;28GISH;29UL;28HI;28KESH2",
    "28LAK-050;28MASH;28PAP PLUS PAP;28U;29 PLUS U;29RUDA;15SAG GUNU TIMES HA;19TIMES EN",
    "25SHE AT LEFT;25TAK4;16HA6 TENU;17E OVER SHE;19PLUS HUB2;24NAM2;24SAR",
    "17U2 PLUS DUG TIMES NI;25E2 TIMES AN;16I TIMES TAK4;15TAK4 PLUS SAG;16UM TIMES GAN2 TENU",
    "25THREE DISH;15UR2 INVERTED;19TIMES UD;17U TIMES DARA3;25LAK-668;26U3;15ZA7",
    "16U OVER ZU PLUS SAR;175 TIMES THREE DISH TENU;+A4C;01YPRO-MINOAN SIGN CM001;222;224;225",
    "226;227;228;229;2110;221;222;23B;223;225;227;229;2121;223;224;225;226;227;228;229;2130",
    "223;224;225;226;227;228;229;2140;221;224;226;227;229;2150;221;222;223;224;225;226;228",
    "229;2160;221;222;223;224;226;227;228;229;2170;221;222;223;224;225;23B;226;228;229;2180",
    "221;222;223;224;225;226;227;228;229;2190;221;222;224;225;226;227;228;229;20100;221;222",
    "223;224;225;227;228;229;2110;222;224;20301;222;+D;00EGYPTIAN HIEROGLYPH A001;232;233;234",
    "235;24A;236;24A;24B;237;238;239;2210;231;232;233;234;24A;235;236;237;24A;238;239;2220",
    "231;232;233;234;235;236;237;238;239;2230;231;232;24A;233;234;235;236;237;238;239;2240",
    "24A;231;232;24A;233;24A;234;235;24A;236;237;238;239;2250;231;232;233;234;235;236;237;238",
    "239;2260;231;232;233;234;235;236;237;238;239;2270;20B001;232;233;234;235;24A;236;237;238",
    "239;20C001;232;24A;24B;24C;233;234;235;236;237;238;239;2210;24A;231;232;233;234;235;236",
    "237;238;239;2220;231;232;233;234;20D001;232;233;234;235;236;237;238;24A;239;2210;231;232",
    "233;234;235;236;237;238;239;2220;231;232;233;234;235;236;237;24A;238;239;2230;231;24A",
    "232;233;234;24A;235;236;237;238;239;2240;231;232;233;234;235;236;24A;237;238;24A;239",
    "2250;24A;24B;24C;24D;24E;24F;24G;24H;24I;231;232;24A;233;234;24A;235;236;237;238;239",
    "2260;231;232;233;234;235;236;237;24A;24B;24C;24D;24E;24F;24G;24H;20E001;232;233;234;235",
    "236;237;238;24A;239;24A;2210;231;232;233;234;235;236;24A;237;24A;238;239;2220;24A;231",
    "232;233;234;235;236;237;238;24A;239;2230;231;232;233;234;24A;236;237;238;20F001;24A;232",
    "233;234;235;236;237;238;239;2210;231;232;233;24A;234;235;236;237;238;239;2220;231;24A",
    "232;233;234;235;236;237;238;239;2230;231;24A;232;233;234;235;236;237;24A;238;24A;239",
    "2240;231;232;233;234;235;24A;236;24A;237;24A;238;239;2250;231;24A;24B;24C;232;233;20G001",
    "232;233;234;235;236;24A;237;24A;24B;238;239;2210;231;24A;232;233;234;235;236;237;238;239",
    "2220;24A;231;232;233;234;235;236;24A;237;238;239;2230;231;232;233;234;235;236;24A;237",
    "24A;238;239;2240;231;232;233;24A;234;235;24A;236;237;238;239;2250;231;232;233;234;20H001",
    "232;233;234;235;236;24A;237;238;20I001;232;233;234;235;24A;236;237;238;239;24A;2210;24A",
    "231;24A;232;233;234;235;20K001;232;233;234;235;236;237;238;20L001;232;24A;233;234;235",
    "236;24A;237;238;20M001;24A;24B;232;233;24A;234;235;236;237;238;239;2210;24A;231;232;24A",
    "24B;24C;24D;24E;24F;24G;24H;233;234;235;24A;236;24A;237;24A;238;239;2220;231;232;24A;233",
    "234;24A;235;236;237;238;24A;239;2230;231;24A;232;233;24A;24B;234;235;236;237;238;239",
    "2240;24A;231;232;233;234;20N001;232;233;234;235;236;237;238;239;2210;231;232;233;234;235",
    "236;237;238;24A;24B;239;2220;231;232;233;234;235;24A;236;237;238;239;2230;231;232;233",
    "24A;234;24A;235;24A;236;237;24A;238;239;2240;231;232;21L001;242;243;244;245;25A;246;247",
    "248;249;2310;241;242;243;244;245;246;247;25A;248;249;2320;21U001;242;243;244;245;246;247",
    "248;249;2310;25A;241;25A;242;243;244;245;246;247;248;25A;249;2320;241;242;25A;20O001;24A",
    "232;233;234;235;24A;236;24A;24B;24C;24D;24E;24F;237;238;239;2210;24A;24B;24C;231;232;233",
    "234;235;236;237;238;239;24A;2220;24A;231;232;233;234;24A;235;24A;236;237;238;239;24A",
    "2230;24A;231;232;233;24A;234;235;236;24A;24B;24C;24D;237;238;239;2240;231;232;233;234",
    "235;236;237;238;239;2250;24A;24B;231;20P001;24A;232;233;24A;234;235;236;237;238;239;2210",
    "231;20Q001;232;233;234;235;236;237;20R001;232;24A;233;24A;24B;234;235;236;237;238;239",
    "2210;24A;231;232;233;234;235;236;24A;237;238;239;2220;231;232;233;234;235;236;237;238",
    "239;20S001;232;24A;233;234;235;236;24A;237;238;239;2210;231;232;233;234;24A;24B;235;236",
    "237;24A;238;239;2220;231;232;233;234;235;236;24A;24B;237;238;239;2230;231;232;233;234",
    "235;24A;236;237;238;239;2240;231;232;233;234;235;236;20T001;232;233;24A;234;235;236;237",
    "24A;238;24A;239;24A;2210;231;24A;232;233;234;235;236;24A;237;238;239;2220;231;232;233",
    "234;235;236;237;238;239;2230;231;232;24A;233;24A;234;235;236;20U001;232;233;234;235;236",
    "24A;24B;237;238;239;2210;231;232;233;234;235;236;237;238;239;2220;231;232;233;24A;234",
    "235;236;237;238;239;24A;2230;231;232;24A;233;234;235;236;237;238;239;2240;231;232;20V001",
    "24A;24B;24C;24D;24E;24F;24G;24H;24I;232;24A;233;234;235;236;237;24A;24B;238;239;2210;231",
    "24A;24B;24C;232;24A;24B;233;234;235;236;237;238;239;2220;24A;24B;24C;24D;24E;24F;24G;24H",
    "24I;24J;24K;24L;231;232;233;24A;234;235;236;237;238;24A;239;24A;2230;24A;231;24A;232;233",
    "24A;234;235;236;237;24A;238;239;2240;24A;20W001;232;233;24A;234;235;236;237;238;239;24A",
    "2210;24A;231;232;233;234;24A;235;236;237;24A;238;24A;239;2220;231;232;233;234;24A;235",
    "20X001;232;233;234;24A;24B;235;236;24A;237;238;24A;20Y001;24A;232;233;234;235;236;237",
    "238;20Z001;232;24A;24B;24C;24D;233;24A;24B;234;24A;235;24A;236;237;238;239;2210;231;232",
    "233;234;235;24A;24B;24C;24D;24E;24F;24G;24H;24I;236;24A;24B;24C;24D;24E;24F;24G;24H",
    "20AA001;242;243;244;245;246;247;25A;25B;248;249;2310;241;242;243;244;245;246;247;248;249",
    "2320;241;242;243;244;245;246;247;248;249;2330;241;242;+1;20VERTICAL JOINER",
    "20HORIZONTAL JOINER;20INSERT AT TOP START;30BOTTOM START;30TOP END;30BOTTOM END",
    "20OVERLAY MIDDLE;20BEGIN SEGMENT;20END SEGMENT;+FC7;00ANATOLIAN HIEROGLYPH A001;242;243",
    "244;245;246;247;248;249;2310;25A;241;242;243;244;245;246;247;248;249;2320;241;242;243",
    "244;245;246;25A;247;248;249;2330;241;242;243;244;245;246;247;248;249;25A;2340;241;25A",
    "242;243;244;245;25A;246;25A;25B;247;248;249;2350;241;242;243;244;245;246;247;248;249",
    "2360;241;242;243;244;245;246;25A;25B;25C;247;248;249;2370;241;242;243;244;245;246;247",
    "248;249;2380;241;242;243;244;245;246;247;248;249;2390;241;242;243;244;245;246;247;25A",
    "248;25A;249;22100;25A;241;25A;242;25A;243;244;25A;25B;25C;245;25A;25B;246;247;25A;25B",
    "25C;248;249;2310;25A;25B;241;242;243;244;245;25A;246;247;248;249;2320;241;242;243;244",
    "245;25A;246;247;248;249;2330;241;242;243;244;245;25A;246;247;248;249;2340;241;242;243",
    "244;245;246;247;248;249;2350;241;242;243;244;245;246;247;248;249;2360;241;242;243;244",
    "245;246;247;248;249;2370;241;242;243;244;245;246;247;248;249;2380;241;242;243;244;245",
    "246;247;248;249;2390;241;242;243;244;245;246;247;248;249;22200;241;242;25A;25B;243;244",
    "245;246;247;25A;248;249;25A;2310;241;242;243;244;245;25A;246;25A;247;248;249;2320;241",
    "242;243;244;245;246;247;25A;248;249;2330;241;242;243;244;245;246;247;248;249;2340;241",
    "242;243;244;245;246;247;248;249;2350;241;242;243;244;245;246;247;248;249;2360;241;242",
    "243;244;245;246;247;25A;248;249;2370;241;242;243;244;245;246;247;248;249;2380;241;242",
    "243;244;245;246;247;248;249;25A;2390;241;242;243;244;25A;245;246;247;248;249;25A;22300",
    "241;242;243;244;245;246;247;248;249;25A;2310;241;242;243;244;245;246;247;248;249;2320",
    "241;242;243;244;245;246;247;248;249;25A;2330;241;242A;25B;25C;243;244;245;246;25A;25B",
    "25C;247;248;249;2340;241;242;243;244;245;246;247;248;249;2350;241;242;243;244;245;246",
    "247;248;249;25A;2360;241;242;243;244;25A;245;246;247;248;25A;249;2370;241;25A;242;243",
    "244;245;246;247;248;249;2380;241;25A;242;243 RA OR RI;25A;244;245;246;25A;247;248;249",
    "2390;241;242;243 EIGHT;244;245;246;247;248;249;22400;241;242;243;244;245;246;247;248;249",
    "2310 BEGIN LOGOGRAM MARK;25A END LOGOGRAM MARK;241;242;243;244;245;246;247;248;249;2320",
    "241;242;243;244;245;246;247;248;249;2330;241;242;243;244;245;246;247;248;249;2340;241",
    "242;243;244;245;246;247;248;249;2350;25A;241;242;243;244;245;246;247;25A;248;249;2360",
    "241;242;243;244;245;246;247;248;249;2370;241;242;243;244;245;246;247;248;249;2380;241",
    "242;243;244;245;246;247;248;249;2390;241;242;243;244;245;246;247;22501;242;243;244;245",
    "246;247;248;249;2310;241;242;243;244;245;246;247;248;249;2320;241;242;243;244;245;246",
    "247;248;249;2330;+21B9;00BAMUM LETTER PHASE-A NGKUE MFON;21GBIEE FON",
    "21PON MFON PIPAEMGBIEE;36BA;21NAA MFON;21SHUENSHUET;21TITA MFON;21NZA MFON",
    "21SHINDA PA NJI;21PON PA NJI PIPAEMGBIEE;38BA;21MAEMBGBIEE;21TU MAEMBA;21NGANGU",
    "21MAEMVEUX;23NSUAE;22VEUAENGAM;21SEUNYAM;21NTOQPEN;21KEUKEUTNDA;21NKINDI;21SUU",
    "21NGKUENZEUM;21LAPAQ;22ET KUT;21NTAP MFAA;21MAEKEUP;21PASHAE;21GHEUAERAE;21PAMSHAE",
    "21MON NGGEUAET;21NZUN MEUT;21U YUQ NAE;21GHEUAEGHEUAE;21NTAP NTAA;21SISA;21MGBASA",
    "22EUNJOMNDEUQ;22OOMPUQ;21KAFA;21PA LEERAEWA;21NDA LEERAEWA;21PET;21MAEMKPEN;21NIKA;21PUP",
    "21TUAEP;21LUAEP;21SONJAM;21TEUTEUWEN;21MAENYI;21KET;21NDAANGGEUAET;21KUOQ;21MOOMEUT",
    "21SHUM;21LOMMAE;21FIRI;21ROM;21KPOQ;21SOQ;21MAP PIEET;21SHIRAE;21NTAP;21SHOQ NSHUT YUM",
    "21NYIT MONGKEUAEQ;21PAARAE;21NKAARAE;21UNKNOWN;21NGGEN;21MAESI;21NJAM;21MBANYI;21NYET",
    "21TEUAEN;21SOT;21PAAM;21NSHIEE;21MAEM;21NYI;21KAQ;21NSHA;21VEE;21LU;21NEN;22AQ;21MBAQ",
    "19B NSHUET;21TU MAEMGBIEE;21SIEE;22ET TU;21LOM NTEUM;21MBA MAELEE;21KIEEM;21YEURAE",
    "21MBAARAE;21KAM;21PEESHI;21YAFU LEERAEWA;21LAM NSHUT NYAM;21NTIEE SHEUOQ;22DU NJAA",
    "21GHEUGHEUAEM;21PIT;21TU NSIEE;21SHET NJAQ;24UAEQTU;21MFON TEUAEQ;22BIT MBAAKET",
    "21NYI NTEUM;21KEUPUQ;21GHEUGHEN;21KEUYEUX;21LAANAE;21PARUM;21VEUM;21NGKINDI MVOP",
    "23GEU MBU;21WUAET;21SAKEUAE;21TAAM;21MEUQ;21NGGUOQ;27 LARGE;21MFIYAQ;21SUE;21MBEURI",
    "22ONTIEEN;21NYAEMAE;21PUNGAAM;21MEUT NGGEET;21FEUX;21MBUOQ;21FEE;21KEUAEM;21MA NJEUAENA",
    "26UQA;21LET;21NGGAAM;22SEN;21MA;21KIQ;21NGOM;19C NGKUE MAEMBA;22ZA;21YUM;21WANGKUOQ",
    "21NGGEN;22DEUAEREE;22GKAQ;21GHARAE;21MBEEKEET;21GBAYI;21NYIR MKPARAQ MEUN;22TU MBIT",
    "21MBEUM;21PIRIEEN;21NDOMBU;21MBAA CABBAGE-TREE;21KEUSHEUAEP;21GHAP;21KEUKAQ;21YU MUOMAE",
    "21NZEUM;21MBUE;21NSEUAEN;21MBIT;21YEUQ;21KPARAQ;22AA;21SEUX;21NDIDA;21TAASHAE;21NJUEQ",
    "21TITA YUE;21SUAET;21NGGUAEN NYAM;21VEUX;21NANSANAQ;21MA KEUAERI;21NTAA;22GGUON;21LAP",
    "21MBIRIEEN;22GBASAQ;21NTEUNGBA;21TEUTEUX;21NGGUM;21FUE;21NDEUT;22SA;23HAQ;21BUNG",
    "21VEUAEPEN;21MBERAE;21RU;21NJAEM;21LAM;21TITUAEP;21NSUOT NGOM;22JEEEE;21KET;21NGGU",
    "21MAESI;22BUAEM;21LU;21KUT;21NJAM;22GOM;21WUP;21NGGUEET;22SOM;22TEN;21KUOP NKAARAE",
    "21NSUN;22DAM;21MA NSIEE;21YAA;21NDAP;21SHUEQ;22ETFON;21MBI;22AEMBA;22BANYI;21KEUSEUX",
    "21MBEUX;21KEUM;21MBAA PICKET;21YUWOQ;21NJEUX;21MIEE;22UAE;21SHIQ;21KEN LAW;25FATIGUE",
    "21NGAQ;22AQ;21LIQ;21PIN;22EN;21TET;19D MBUO;21WAP;21NJI;21MFON;21NJIEE;21LIEE;21NJEUT",
    "22SHEE;22GGAAMAE;22YAM;21WUAEN;21NGKUN;21SHEE;21NGKAP;21KEUAETMEUN;21TEUT;21SHEUAE",
    "21NJAP;21SUE;21KET;21YAEMMAE;21KUOM;21SAP;21MFEUT;21NDEUX;21MALEERI;22EUT;21SEUAEQ;21YEN",
    "21NJEUAEM;21KEUOT MBUAE;21NGKEURI;21TU;21GHAA;21NGKYEE;21FEUFEUAET;21NDEE;21MGBOFUM",
    "21LEUAEP;21NDON;21MONI;22GBEUN;21PUUT;21MGBIEE;22FO;21LUM;21NSIEEP;21MBAA;21KWAET;21NYET",
    "21TEUAEN;21SOT;21YUWOQ;21KEUM;21RAEM;21TEEEE;21NGKEUAEQ;21MFEUAE;21NSIEET;21KEUP;21PIP",
    "22EUTAE;21NYUE;21LET;21NGGAAM;21MFIEE;21NGGWAEN;21YUOM;21PAP;21YUOP;21NDAM;22TEUM;21SUAE",
    "21KUN;21NGGEUX;23KIEE;21TUOT;21MEUN;21KUQ;21NSUM;21TEUN;21MAENJET;21NGGAP;21LEUM",
    "21NGGUOM;22SHUT;22JUEQ;21GHEUAE;21KU;21REN OLD;21TAE;22OQ;21NYI;21RII;21LEEEE;21MEEEE;22",
    "21SUU;21MU;21SHII;23EUX;21KYEE;21NU;21SHU;21NTEE;21PEE;21NI;21SHOQ;21PUQ;21MVOP;21LOQ",
    "21REN MUCH;21TI;21NTUU;21MBAA SEVEN;21SAQ;21FAA;19E NDAP;21TOON;21MBEUM;21LAP;21VOM",
    "21LOON;21PAA;21SOM;21RAQ;21NSHUOP;22DUN;21PUAE;21TAM;21NGKA;21KPEUX;21WUO;21SEE",
    "21NGGEUAET;21PAAM;21TOO;21KUOP;21LOM;21NSHIEE;22GOP;21MAEM;21NGKEUX;23OQ;22SHUE;21RIMGBA",
    "21NJEUX;21PEEM;21SAA;21NGGURAE;21MGBA;21GHEUX;21NGKEUAEM;22JAEMLI;21MAP;21LOOT;21NGGEEEE",
    "22DIQ;21TAEN NTEUM;21SET;21PUM;21NDAA SOFTNESS;22GGUAESHAE NYAM;21YIEE;21GHEUN;21TUAE",
    "21YEUAE;21PO;21TUMAE;21KEUAE;21SUAEN;21TEUAEQ;21VEUAE;21WEUX;21LAAM;21PU;21TAAQ",
    "21GHAAMAE;21NGEUREUT;21SHEUAEQ;21MGBEN;22BEE;21NZAQ;22KOM;21GBET;21TUM;21KUET;21YAP",
    "21NYI CLEAVER;21YIT;21MFEUQ;21NDIAQ;21PIEEQ;21YUEQ;21LEUAEM;21FUE;21GBEUX;21NGKUP;21KET",
    "21MAE;21NGKAAMI;21GHET;21FA;21NTUM;21PEUT;21YEUM;21NGGEUAE;22YI BETWEEN;22ZUQ;21POON",
    "21MIEE;21FUET;21NAE;21MUAE;21GHEUAE;21FU I;21MVI;21PUAQ;21NGKUM;21KUT;21PIET;21NTAP",
    "21YEUAET;21NGGUP;21PA PEOPLE;21FU CALL;22OM;21NJEE;21A;21TOQ;21O;21I;21LAQ;21PA PLURAL",
    "21TAA;23Q;21NDAA MY HOUSE;21SHIQ;21YEUX;21NGUAE;21YUAEN;22OQ SWIMMING;25COVER;22UQ;23N",
    "21KEUX;21PEUX;21NJEE EPOCH;21PUE;21WUE;21FEE;21VEE;21LU;21MI;21REUX;22AE;21NGUAET;23A",
    "21SHO;24Q;21FU REMEDY;21NA;21PI;21LOQ;21KO;21MEN;22A;23Q;21TEU;21KI;21MON;21TEN;21FAQ",
    "21GHOM;19F KA;21U;21KU;21EE;21REE;21TAE;21NYI;21LA;21RII;23EE;21MEEEE;21TAA;21NDAA",
    "22JAEM;21M;21SUU;22HII;22I;22EUX;21KYEE;22ET;21NUAE;23;22JUAE;21YOQ;21SHU;21YA;21NSHA",
    "21PEUX;21NTEE;21WUE;21PEE;21RU;21NI;21REUX;21KEN;21NGKWAEN;23GA;21SHO;21PUAE;21FOM;21WA",
    "21LI;22OQ;21KO;21MBEN;21REN;21MA;22O;22BAA;21TET;21KPA;21SAMBA;21VUEQ;+7;00MRO LETTER TA",
    "11NGI;11YO;11MIM;11BA;11DA;11A;11PHI;11KHAI;11HAO;11DAI;11CHU;11KEAAE;11OL;11MAEM;11NIN",
    "11PA;11OO;12;11RO;11SHI;11THEA;11EA;11WA;11E;11KO;11LAN;13;11HAI;11RI;11TEK;+1",
    "04DIGIT ZERO;10ONE;10TWO;11HREE;10FOUR;11IVE;10SIX;11EVEN;10EIGHT;10NINE;+4;05ANDA",
    "05OUBLE DANDA;00TANGSA LETTER OZ;15C;15Q;15X;14AZ;15C;15Q;15X;14VZ;15C;15Q;15X;14EZ;15C",
    "15Q;15X;14IZ;15C;15Q;15X;14UZ;15C;15Q;15X;14AWZ;16C;16Q;16X;14UIZ;16C;16Q;16X;14FINAL NG",
    "14LONG UEX;14SHORT UEZ;20AWX;14UEC;16Z;16Q;16X;15IUZ;17C;17Q;17X;14MZ;15C;15Q;15X;14KA",
    "15HA;14GA;14NGA;14SA;14YA;14WA;14PA;14NYA;14PHA;14BA;14MA;14NA;14HA;14LA;14HTA;14TA;14DA",
    "14RA;14NHA;14SHA;14CA;14TSA;14GHA;14HTTA;14THA;14XA;14FA;14DHA;14CHA;14ZA;+1",
    "07DIGIT ZERO;13ONE;13TWO;14HREE;13FOUR;14IVE;13SIX;14EVEN;13EIGHT;13NINE;+6",
    "00BASSA VAH LETTER ENNI;17KA;17SE;17FA;17MBE;17YIE;17GAH;17DHII;17KPAH;17JO;17HWAH;17WA",
    "17ZO;17GBU;17DO;17CE;17UWU;17TO;17BA;17VU;17YEIN;17PA;17WADDA;17A;17O;18O;17U;17EE;18",
    "17I;+2;10COMBINING HIGH TONE;20LOW TONE;20MID TONE;20LOW-MID TONE;20HIGH-LOW TONE",
    "10FULL STOP;+A;00PAHAWH HMONG VOWEL KEEB;22V;20IB;21V;20AUB;22V;20UB;21V;20EB;21V;20AIB",
    "22V;20OOB;22V;20AWB;22V;20UAB;22V;20OB;21V;20IAB;22V;20AB;21V;20WB;21V;20AAB;22V",
    "13CONSONANT VAU;23NTSAU;23LAU;23HAU;23NLAU;23RAU;23NKAU;23QHAU;23YAU;23HLAU;23MAU;23CHAU",
    "23NCHAU;23HNAU;23PLHAU;23NTHAU;24AU;23AU;23XAU;23CAU;13MARK CIM TUB;22SO;22KES;23HAV",
    "22SUAM;22HOM;22TAUM;13SIGN VOS THOM;23SHAB CEEB;18CIM CHEEM;18VOS THIAB;22FEEM",
    "18XYEEM NTXIV;24RHO;24TOV;24FAIB;18VOS SEEV;18MEEJ SUAB;18VOS NRUA;18IB YAM;18XAUS",
    "18CIM TSOV ROG;+A;13DIGIT ZERO;19ONE;19TWO;20HREE;19FOUR;20IVE;19SIX;20EVEN;19EIGHT",
    "19NINE;+1;13NUMBER TENS;20HUNDREDS;20TEN THOUSANDS;20MILLIONS;20HUNDRED MILLIONS",
    "20TEN BILLIONS;21RILLIONS;+1;13SIGN VOS LUB;18XYOO;18HLI;18THIRD-STAGE HLI;18ZWJ THAJ",
    "18HNUB;18NQIG;18XIAB;18NTUJ;18AV;18TXHEEJ CEEV;18MEEJ TSEEB;18TAU;18LOS;18MUS",
    "18CIM HAIS LUS NTOG NTOG;22CUAM TSHOOJ;22TXWV;26 CHWV;22PUB DAWB;22NRES TOS;+5",
    "13CLAN SIGN TSHEEJ;23YEEG;23LIS;24AUJ;23XYOOJ;23KOO;23HAWJ;23MUAS;23THOJ;24SAB;23PHAB",
    "23KHAB;23HAM;23VAJ;23FAJ;23YAJ;23TSWB;23KWM;23VWJ;+2B0;00MEDEFAIDRIN CAPITAL LETTER M",
    "27S;27V;27W;27ATIU;27Z;27KP;27P;27T;27G;27F;27I;27K;27A;27J;27E;27B;27C;27U;27YU;27L;27Q",
    "27HP;27NY;27X;27D;27OE;27N;27R;27O;27AI;27Y;12SMALL LETTER M;25S;25V;25W;25ATIU;25Z;25KP",
    "25P;25T;25G;25F;25I;25K;25A;25J;25E;25B;25C;25U;25YU;25L;25Q;25HP;25NY;25X;25D;25OE;25N",
    "25R;25O;25AI;25Y;12DIGIT ZERO;18ONE;18TWO;19HREE;18FOUR;19IVE;18SIX;19EVEN;18EIGHT",
    "18NINE;12NUMBER TEN;19ELEVEN;19TWELVE;20HIRTEEN;19FOURTEEN;20IFTEEN;19SIXTEEN;20EVENTEEN",
    "19EIGHTEEN;19NINETEEN;12DIGIT ONE ALTERNATE FORM;18TWO ALTERNATE FORM",
    "19HREE ALTERNATE FORM;12COMMA;12FULL STOP;12SYMBOL AIVA;12EXCLAMATION OH;+65",
    "01IAO LETTER PA;12BA;12YI PA;12PLA;12MA;13HA;12ARCHAIC MA;12FA;12VA;13FA;12TA;12DA",
    "12YI TTA;16A;12TTA;12DDA;12NA;13HA;12YI NNA;12ARCHAIC NA;12NNA;14HA;12LA;13YA;13HA;14YA",
    "12TLHA;12DLHA;12TLHYA;12DLHYA;12KA;12GA;12YI KA;12QA;13GA;12NGA;14HA;12ARCHAIC NGA;12HA",
    "12XA;12GHA;14HA;12TSSA;12DZZA;12NYA;14HA;12TSHA;12DZHA;12YI TSHA;15DZHA;12REFORMED TSHA",
    "12SHA;13SA;12ZHA;13SHA;12TSA;12DZA;12YI TSA;12SA;12ZA;13SA;13ZA;14SA;12ARCHAIC ZZA",
    "12ZZYA;14SYA;12WA;12AH;12HHA;12BRI;12SYI;12DZYI;12TE;13SE;12RTE;+4",
    "05SIGN CONSONANT MODIFIER BAR;05LETTER NASALIZATION;05SIGN ASPIRATION;10REFORMED VOICING",
    "19ASPIRATION;05VOWEL SIGN A;17A;17HH;17N;18G;16O;17O;16WO;17;16E;17N;18G;16OEY;16I;17A",
    "18N;19G;17O;17E;17I;17U;17NG;16U;17A;18N;19G;17U;17EI;17NG;16Y;17I;16AE;18E;16ERR",
    "16ROUNDED ERR;16ER;16ROUNDED ER;16AI;16EI;16AU;16OU;16N;17G;16UOG;16YUI;16OG;17ER;16VW",
    "16IG;16EA;16IONG;16UI;+7;05TONE RIGHT;10TOP RIGHT;10ABOVE;10BELOW;05LETTER TONE-2;173",
    "174;175;176;177;178;12REFORMED TONE-1;262;264;265;266;268;+40;00TANGUT ITERATION MARK",
    "00NUSHU ITERATION MARK;00OLD CHINESE HOOK MARK;12ITERATION MARK",
    "00KHITAN SMALL SCRIPT FILLER;+B;00VIETNAMESE ALTERNATE READING MARK CA;34NHAY;+180E",
    "00TANGUT COMPONENT-001;192;193;194;195;196;197;198;199;1810;191;192;193;194;195;196;197",
    "198;199;1820;191;192;193;194;195;196;197;198;199;1830;191;192;193;194;195;196;197;198",
    "199;1840;191;192;193;194;195;196;197;198;199;1850;191;192;193;194;195;196;197;198;199",
    "1860;191;192;193;194;195;196;197;198;199;1870;191;192;193;194;195;196;197;198;199;1880",
    "191;192;193;194;195;196;197;198;199;1890;191;192;193;194;195;196;197;198;199;17100;191",
    "192;193;194;195;196;197;198;199;1810;191;192;193;194;195;196;197;198;199;1820;191;192",
    "193;194;195;196;197;198;199;1830;191;192;193;194;195;196;197;198;199;1840;191;192;193",
    "194;195;196;197;198;199;1850;191;192;193;194;195;196;197;198;199;1860;191;192;193;194",
    "195;196;197;198;199;1870;191;192;193;194;195;196;197;198;199;1880;191;192;193;194;195",
    "196;197;198;199;1890;191;192;193;194;195;196;197;198;199;17200;191;192;193;194;195;196",
    "197;198;199;1810;191;192;193;194;195;196;197;198;199;1820;191;192;193;194;195;196;197",
    "198;199;1830;191;192;193;194;195;196;197;198;199;1840;191;192;193;194;195;196;197;198",
    "199;1850;191;192;193;194;195;196;197;198;199;1860;191;192;193;194;195;196;197;198;199",
    "1870;191;192;193;194;195;196;197;198;199;1880;191;192;193;194;195;196;197;198;199;1890",
    "191;192;193;194;195;196;197;198;199;17300;191;192;193;194;195;196;197;198;199;1810;191",
    "192;193;194;195;196;197;198;199;1820;191;192;193;194;195;196;197;198;199;1830;191;192",
    "193;194;195;196;197;198;199;1840;191;192;193;194;195;196;197;198;199;1850;191;192;193",
    "194;195;196;197;198;199;1860;191;192;193;194;195;196;197;198;199;1870;191;192;193;194",
    "195;196;197;198;199;1880;191;192;193;194;195;196;197;198;199;1890;191;192;193;194;195",
    "196;197;198;199;17400;191;192;193;194;195;196;197;198;199;1810;191;192;193;194;195;196",
    "197;198;199;1820;191;192;193;194;195;196;197;198;199;1830;191;192;193;194;195;196;197",
    "198;199;1840;191;192;193;194;195;196;197;198;199;1850;191;192;193;194;195;196;197;198",
    "199;1860;191;192;193;194;195;196;197;198;199;1870;191;192;193;194;195;196;197;198;199",
    "1880;191;192;193;194;195;196;197;198;199;1890;191;192;193;194;195;196;197;198;199;17500",
    "191;192;193;194;195;196;197;198;199;1810;191;192;193;194;195;196;197;198;199;1820;191",
    "192;193;194;195;196;197;198;199;1830;191;192;193;194;195;196;197;198;199;1840;191;192",
    "193;194;195;196;197;198;199;1850;191;192;193;194;195;196;197;198;199;1860;191;192;193",
    "194;195;196;197;198;199;1870;191;192;193;194;195;196;197;198;199;1880;191;192;193;194",
    "195;196;197;198;199;1890;191;192;193;194;195;196;197;198;199;17600;191;192;193;194;195",
    "196;197;198;199;1810;191;192;193;194;195;196;197;198;199;1820;191;192;193;194;195;196",
    "197;198;199;1830;191;192;193;194;195;196;197;198;199;1840;191;192;193;194;195;196;197",
    "198;199;1850;191;192;193;194;195;196;197;198;199;1860;191;192;193;194;195;196;197;198",
    "199;1870;191;192;193;194;195;196;197;198;199;1880;191;192;193;194;195;196;197;198;199",
    "1890;191;192;193;194;195;196;197;198;199;17700;191;192;193;194;195;196;197;198;199;1810",
    "191;192;193;194;195;196;197;198;199;1820;191;192;193;194;195;196;197;198;199;1830;191",
    "192;193;194;195;196;197;198;199;1840;191;192;193;194;195;196;197;198;199;1850;191;192",
    "193;194;195;196;197;198;199;1860;191;192;193;194;195;196;197;198;+24F0",
    "00KATAKANA LETTER MINNAN TONE-2;283;284;285;+1;287;288;23NASALIZED TONE-1;382;383;384",
    "385;+1;387;388;+1;16ARCHAIC E;00HIRAGANA LETTER ARCHAIC YE;01ENTAIGANA LETTER A-1;202",
    "203;20WO;18I-1;202;203;204;18U-1;202;203;204;205;18E-2;203;204;205;206;18O-1;202;203",
    "18KA-1;212;213;214;215;216;217;218;219;2110;221;21KE;19I-1;212;213;214;215;216;217;218",
    "19U-1;212;213;214;215;216;217;19E-1;212;213;214;215;216;19O-1;212;213;21KI;18SA-1;212",
    "213;214;215;216;217;218;19I-1;212;213;214;215;216;19U-1;212;213;214;215;216;217;218",
    "19E-1;212;213;214;215;19O-1;212;213;214;215;216;217;18TA-1;212;213;214;19I-1;212;213;214",
    "215;216;217;19U-1;212;213;214;21TO;19E-1;212;213;214;215;216;217;218;219;19O-1;212;213",
    "214;215;216;21RA;18NA-1;212;213;214;215;216;217;218;219;19I-1;212;213;214;215;216;217",
    "21TE;19U-1;212;213;19E-1;212;213;214;215;216;21KO;19O-1;212;213;214;215;18HA-1;212;213",
    "214;215;216;217;218;219;2110;221;19I-1;212;213;214;215;216;217;19U-1;212;213;19E-1;212",
    "213;214;215;216;217;19O-1;212;213;214;215;216;217;218;18MA-1;212;213;214;215;216;217",
    "19I-1;212;213;214;215;216;217;19U-1;212;213;214;19E-1;212;21MA;19O-1;212;213;214;215;216",
    "18YA-1;212;213;214;215;21YO;19U-1;212;213;214;19O-1;212;213;214;215;216;18RA-1;212;213",
    "214;19I-1;212;213;214;215;216;217;19U-1;212;213;214;215;216;19E-1;212;213;214;19O-1;212",
    "213;214;215;216;18WA-1;212;213;214;215;19I-1;212;213;214;215;19E-1;212;213;214;19O-1;212",
    "213;214;215;216;217;18N-MU-MO-1;262;01IRAGANA LETTER ARCHAIC WU",
    "00KATAKANA LETTER ARCHAIC YI;25E;24WU;+2D;00HIRAGANA LETTER SMALL WI;23E;23O;+11",
    "00KATAKANA LETTER SMALL WI;23E;23O;22N;+A98;00DUPLOYAN LETTER H;16X;16P;16T;16F;16K;16L",
    "16B;16D;16V;16G;16R;16P N;16D S;16F N;16K M;16R S;16TH;16SLOAN DH;16DH;16KK;16SLOAN J",
    "16HL;16LH;16RH;16M;16N;16J;16S;16M N;16N M;16J M;16S J;16M WITH DOT;16N WITH DOT",
    "16J WITH DOT;26S INSIDE AND ABOVE;16S WITH DOT;26 BELOW;16M S;16N S;16J S;16S S;16M N S",
    "16N M S;16J M S;16S J S;16J S WITH DOT;18N;19 S;16S T;19 R;18P;19 R;16T S;18R S;16W;17H",
    "17 R;16S N;18M;16K R S;16G R S;16S K;19 R;16A;16SLOAN OW;16OA;17;16AOU;16I;16E;16IE",
    "16SHORT I;16UI;16EE;16SLOAN EH;16ROMANIAN I;16SLOAN EE;16LONG I;16YE;16U;16EU;16XW;16U N",
    "16LONG U;16ROMANIAN U;16UH;16SLOAN U;16OOH;17W;17U;16WA;17O;17I;17EI;17OW;16NASAL U;22O",
    "22I;22A;16PERNIN AN;24M;16SLOAN EN;22AN;22ON;16VOCALIC M;+5",
    "09AFFIX LEFT HORIZONTAL SECANT;15MID HORIZONTAL SECANT;15RIGHT HORIZONTAL SECANT",
    "15LOW VERTICAL SECANT;15MID VERTICAL SECANT;15HIGH VERTICAL SECANT;15ATTACHED SECANT",
    "24LEFT-TO-RIGHT SECANT;24TANGENT;26IL;24E HOOK;24I HOOK;24TANGENT HOOK;+3;15HIGH ACUTE",
    "20TIGHT ACUTE;20GRAVE;20LONG GRAVE;20DOT;20CIRCLE;20LINE;20WAVE;20VERTICAL;+7",
    "15LOW ACUTE;19TIGHT ACUTE;19GRAVE;19LONG GRAVE;19DOT;19CIRCLE;19LINE;19WAVE;19VERTICAL",
    "19ARROW;+2;09SIGN O WITH CROSS;09THICK LETTER SELECTOR;09DOUBLE MARK",
    "09PUNCTUATION CHINOOK FULL STOP;00SHORTHAND FORMAT LETTER OVERLAP;17CONTINUING OVERLAP",
    "17DOWN STEP;17UP STEP"
  ]

end ApiDoc.Text.CharacterName
