/-!
Names of the characters above U+FFFF.  An entry is a count of characters shared with the
name before it and the rest of the name; an entry with an exclamation mark gives the code
point of the next name, and names without one follow each other.
-/
namespace QueryCriteria
namespace Text
namespace CharacterName

def supplementary : String := "
  !10000,0LINEAR B SYLLABLE B008 A,D38 E,D28 I,D61 O,D10 U,D01 DA,D45 DE,D07 DI,D14 DO,D51 DU,
  E7 JA,D46 JE,!1000D,D36 JO,D65 JU,D77 KA,D44 KE,D67 KI,D70 KO,D81 KU,E0 MA,D13 ME,D73 MI,D15 MO,
  D23 MU,D06 NA,D24 NE,D30 NI,D52 NO,E5 NU,D03 PA,D72 PE,D39 PI,D11 PO,D50 PU,D16 QA,D78 QE,
  D21 QI,D32 QO,!10028,D60 RA,D27 RE,D53 RI,D02 RO,D26 RU,D31 SA,D09 SE,D41 SI,D12 SO,D58 SU,
  E9 TA,D04 TE,D37 TI,D05 TO,D69 TU,D54 WA,D75 WE,D40 WI,E2 WO,!1003C,D17 ZA,D74 ZE,!1003F,D20 ZO,
  E5 A2,D43 A3,D85 AU,D71 DWE,D90 DWO,D48 NWA,D29 PU2,D62 PTE,D76 RA2,D33 RA3,D68 RO2,E6 TA2,
  D87 TWE,D91 TWO,!10050,;MBOL B018,C9,B22,B34,B47,C9,B56,B63,C4,B79,B82,C3,C6,C9,!10080,
  9IDEOGRAM B100 MAN,E2 WOMAN,E4 DEER,E5 EQUID,FF MARE,FM STALLION,E6F EWE,FM RAM,E7F SHE-GOAT,
  FM HE-GOAT,E8F SOW,FM BOAR,E9F COW,FM BULL,D20 WHEAT,E1 BARLEY,E2 OLIVE,E3 SPICE,E5 CYPERUS,
  9MONOGRAM B127 KAPO,E8 KANAKO,9IDEOGRAM B130 OIL,E1 WINE,E2,9MONOGRAM B133 AREPA,E5 MERI,
  9IDEOGRAM B140 BRONZE,E1 GOLD,E2,E5 WOOL,E6,D50,E1 HORN,E2,E3,E4,9MONOGRAM B156 TURO2,
  9IDEOGRAM B157,E8,E9 CLOTH,D60,E1,E2 GARMENT,E3 ARMOUR,E4,E5,E6,E7,E8,E9,D70,E1,E2,E3 MONTH,E4,
  E6 TREE,E7,E8,E9,D80,E1,E2,E3,E4,E5,E9,D90,E1 HELMET,C220 FOOTSTOOL,E5 BATHTUB,D30 SPEAR,
  E1 ARROW,E2,E3 SWORD,E4,E6,D40 WHEELED CHARIOT,E1 CHARIOT,E2 CHARIOT FRAME,E3 WHEEL,E5,E6,
  9MONOGRAM B247 DIPTE,9IDEOGRAM B248,E9,D51,E2,E3,E4 DART,E5,E6,E7,E8,E9,BVESSEL B155,J200,L1,L2,
  L3,L4,L5,L6,L7,L8,L9,K10,L1,L2,L3,L4,L5,L6,L7,L8,L9,K21,L2,L6,L7,L8,L9,K50,J305,!10100,
  0AEGEAN WORD SEPARATOR LINE,FDOT,7CHECK MARK,!10107,7NUMBER ONE,>TWO,?HREE,>FOUR,?IVE,>SIX,
  ?EVEN,>EIGHT,>NINE,>TEN,?WENTY,?HIRTY,>FORTY,?IFTY,>SIXTY,?EVENTY,>EIGHTY,>NINETY,>ONE HUNDRED,
  >TWO HUNDRED,?HREE HUNDRED,>FOUR HUNDRED,?IVE HUNDRED,>SIX HUNDRED,?EVEN HUNDRED,>EIGHT HUNDRED,
  >NINE HUNDRED,>ONE THOUSAND,>TWO THOUSAND,?HREE THOUSAND,>FOUR THOUSAND,?IVE THOUSAND,
  >SIX THOUSAND,?EVEN THOUSAND,>EIGHT THOUSAND,>NINE THOUSAND,>TEN THOUSAND,?WENTY THOUSAND,
  ?HIRTY THOUSAND,>FORTY THOUSAND,?IFTY THOUSAND,>SIXTY THOUSAND,?EVENTY THOUSAND,
  >EIGHTY THOUSAND,>NINETY THOUSAND,!10137,7WEIGHT BASE UNIT,>FIRST SUBUNIT,>SECOND SUBUNIT,
  >THIRD SUBUNIT,>FOURTH SUBUNIT,7DRY MEASURE FIRST SUBUNIT,7LIQUID MEASURE FIRST SUBUNIT,
  7MEASURE SECOND SUBUNIT,?THIRD SUBUNIT,0GREEK ACROPHONIC ATTIC ONE QUARTER,KHALF,KDRACHMA,GFIVE,
  IFTY,IVE HUNDRED,LTHOUSAND,IFTY THOUSAND,IVE TALENTS,GTEN TALENTS,GFIFTY TALENTS,
  GONE HUNDRED TALENTS,GFIVE HUNDRED TALENTS,GONE THOUSAND TALENTS,GFIVE THOUSAND TALENTS,
  LSTATERS,GTEN STATERS,GFIFTY STATERS,GONE HUNDRED STATERS,GFIVE HUNDRED STATERS,
  GONE THOUSAND STATERS,GTEN THOUSAND STATERS,GFIFTY THOUSAND STATERS,GTEN MNAS,
  AHERAEUM ONE PLETHRON,ATHESPIAN ONE,AHERMIONIAN ONE,AEPIDAUREAN TWO,ATHESPIAN TWO,
  ACYRENAIC TWO DRACHMAS,AEPIDAUREAN TWO DRACHMAS,ATROEZENIAN FIVE,LTEN,O ALTERNATE FORM,
  AHERMIONIAN TEN,AMESSENIAN TEN,ATHESPIAN TEN,KHIRTY,BROEZENIAN FIFTY,Q ALTERNATE FORM,
  AHERMIONIAN FIFTY,ATHESPIAN FIFTY,JONE HUNDRED,JTHREE HUNDRED,AEPIDAUREAN FIVE HUNDRED,
  ATROEZENIAN FIVE HUNDRED,BHESPIAN FIVE HUNDRED,ACARYSTIAN FIVE HUNDRED,ANAXIAN FIVE HUNDRED,
  ATHESPIAN ONE THOUSAND,JFIVE THOUSAND,ADELPHIC FIVE MNAS,ASTRATIAN FIFTY MNAS,6ONE HALF SIGN,
  C ALTERNATE FORM,6TWO THIRDS SIGN,7HREE QUARTERS SIGN,6YEAR SIGN,6TALENT SIGN,6DRACHMA SIGN,
  6OBOL SIGN,6TWO OBOLS SIGN,7HREE OBOLS SIGN,6FOUR OBOLS SIGN,7IVE OBOLS SIGN,6METRETES SIGN,
  6KYATHOS BASE SIGN,6LITRA SIGN,6OUNKIA SIGN,6XESTES SIGN,6ARTABE SIGN,8OURA SIGN,6GRAMMA SIGN,
  6TRYBLION BASE SIGN,6ZERO SIGN,6ONE QUARTER SIGN,6SINUSOID SIGN,6INDICTION SIGN,0NOMISMA SIGN,
  !10190,0ROMAN SEXTANS SIGN,6UNCIA SIGN,6SEMUNCIA SIGN,8XTULA SIGN,6DIMIDIA SEXTULA SIGN,
  6SILIQUA SIGN,6DENARIUS SIGN,6QUINARIUS SIGN,6SESTERTIUS SIGN,6DUPONDIUS SIGN,6AS SIGN,
  6CENTURIAL SIGN,0ASCIA SYMBOL,!101A0,0GREEK SYMBOL TAU RHO,!101D0,
  0PHAISTOS DISC SIGN PEDESTRIAN,DLUMED HEAD,CTATTOOED HEAD,CCAPTIVE,DHILD,CWOMAN,CHELMET,
  CGAUNTLET,CTIARA,CARROW,CBOW,CSHIELD,CCLUB,CMANACLES,ETTOCK,CSAW,CLID,CBOOMERANG,
  CCARPENTRY PLANE,CDOLIUM,CCOMB,CSLING,CCOLUMN,CBEEHIVE,CSHIP,CHORN,DIDE,CBULLS LEG,CCAT,CRAM,
  CEAGLE,CDOVE,CTUNNY,CBEE,CPLANE TREE,CVINE,CPAPYRUS,CROSETTE,CLILY,COX BACK,CFLUTE,CGRATER,
  CSTRAINER,DMALL AXE,CWAVY BAND,CCOMBINING OBLIQUE STROKE,!10280,0LYCIAN LETTER A,>E,>B,?H,>G,>D,
  >I,>W,>Z,>TH,>J,>K,>Q,>L,>M,>N,>MM,>NN,>U,>P,>KK,>R,>S,>T,?T,>AN,>EN,>H,>X,!102A0,
  0CARIAN LETTER A,>P2,>D,>L,>UUU,>R,>LD,>A2,>Q,>B,>M,>O,>D2,>T,>SH,@2,?,>C-18,>U,>NN,>X,>N,>TT2,
  >P,>SS,>I,>E,>UUUU,>K,?2,>ND,>UU,>G,?2,>ST,@2,>NG,>II,>C-39,>TT,>UUU2,>RR,>MB,@2,@3,@4,>LD2,>E2,
  >UUU3,!102E0,1OPTIC EPACT THOUSANDS MARK,=DIGIT ONE,CTWO,DHREE,CFOUR,DIVE,CSIX,DEVEN,CEIGHT,
  CNINE,=NUMBER TEN,EWENTY,EHIRTY,DFORTY,EIFTY,DSIXTY,EEVENTY,DEIGHTY,DNINETY,DONE HUNDRED,
  DTWO HUNDRED,EHREE HUNDRED,DFOUR HUNDRED,EIVE HUNDRED,DSIX HUNDRED,EEVEN HUNDRED,DEIGHT HUNDRED,
  DNINE HUNDRED,!10300,0OLD ITALIC LETTER A,BBE,BKE,BDE,BE,BVE,BZE,BHE,BTHE,BI,BKA,BEL,CM,CN,CSH,
  BO,BPE,BSHE,BKU,BER,CS,BTE,BU,BEKS,BPHE,BKHE,BEF,CRS,BCHE,BII,BUU,BESS,;NUMERAL ONE,CFIVE,CTEN,
  CFIFTY,!1032D,;LETTER YE,BNORTHERN TSE,BSOUTHERN TSE,0GOTHIC LETTER AHSA,>BAIRKAN,>GIBA,>DAGS,
  >AIHVUS,>QAIRTHRA,>IUJA,>HAGL,>THIUTH,>EIS,>KUSMA,>LAGUS,>MANNA,>NAUTHS,>JER,>URUS,>PAIRTHRA,
  >NINETY,>RAIDA,>SAUIL,>TEIWS,>WINJA,>FAIHU,>IGGWS,>HWAIR,>OTHAL,>NINE HUNDRED,!10350,
  0OLD PERMIC LETTER AN,BBUR,BGAI,BDOI,BE,BZHOI,BDZHOI,BZATA,BDZITA,BI,BKOKE,BLEI,BMENOE,BNENOE,
  BVOOI,BPEEI,BREI,BSII,BTAI,BU,BCHERY,BSHOOI,DCHOOI,BYRY,CERU,BO,CO,BEF,BHA,BTSIU,BVER,BYER,EI,
  CAT,BIE,BYU,CA,BIA,0COMBINING OLD PERMIC LETTER AN,LDOI,LZATA,LNENOE,LSII,!10380,
  0UGARITIC LETTER ALPA,@BETA,@GAMLA,@KHA,@DELTA,@HO,@WO,@ZETA,@HOTA,@TET,@YOD,@KAF,@SHIN,@LAMDA,
  @MEM,@DHAL,@NUN,@ZU,@SAMKA,@AIN,@PU,@SADE,@QOPA,@RASHA,@THANNA,@GHAIN,@TO,@I,@U,@SSU,!1039F,
  9WORD DIVIDER,0OLD PERSIAN SIGN A,AI,AU,AKA,BU,AGA,BU,AXA,ACA,AJA,BI,ATA,BU,ADA,BI,BU,ATHA,APA,
  ABA,AFA,ANA,BU,AMA,BI,BU,AYA,AVA,BI,ARA,BU,ALA,ASA,AZA,ASHA,BSA,AHA,!103C8,AAURAMAZDAA,K-2,KHA,
  AXSHAAYATHIYA,ADAHYAAUSH,J-2,ABAGA,BUUMISH,<WORD DIVIDER,<NUMBER ONE,CTWO,DEN,DWENTY,CHUNDRED,
  !10400,0DESERET CAPITAL LETTER LONG I,LE,LA,MH,LO,MO,GSHORT I,ME,MA,NH,MO,NO,GAY,GOW,GWU,GYEE,
  GH,GPEE,GBEE,GTEE,GDEE,GCHEE,GJEE,GKAY,GGAY,GEF,GVEE,GETH,GTHEE,GES,GZEE,GESH,GZHEE,GER,HL,HM,
  HN,IG,GOI,GEW,8SMALL LETTER LONG I,JE,JA,KH,JO,KO,ESHORT I,KE,KA,LH,KO,LO,EAY,EOW,EWU,EYEE,EH,
  EPEE,EBEE,ETEE,EDEE,ECHEE,EJEE,EKAY,EGAY,EEF,EVEE,EETH,ETHEE,EES,EZEE,EESH,EZHEE,EER,FL,FM,FN,
  GG,EOI,EEW,0SHAVIAN LETTER PEEP,?TOT,?KICK,?FEE,?THIGH,?SO,@URE,?CHURCH,?YEA,?HUNG,?BIB,?DEAD,
  ?GAG,?VOW,?THEY,?ZOO,?MEASURE,?JUDGE,?WOE,?HA-HA,?LOLL,?MIME,?IF,?EGG,?ASH,@DO,?ON,?WOOL,?OUT,
  ?AH,?ROAR,?NUN,?EAT,?AGE,?ICE,?UP,?OAK,@OZE,@IL,?AWE,@RE,?OR,?AIR,?ERR,?ARRAY,?EAR,?IAN,?YEW,
  0OSMANYA LETTER ALEF,?BA,?TA,?JA,?XA,?KHA,?DEEL,?RA,?SA,@HIIN,?DHA,?CAYN,?GA,?FA,?QAAF,?KAAF,
  ?LAAN,?MIIN,?NUUN,?WAW,?HA,?YA,?A,?E,?I,?O,?U,?AA,?EE,?OO,!104A0,8DIGIT ZERO,>ONE,>TWO,?HREE,
  >FOUR,?IVE,>SIX,?EVEN,>EIGHT,>NINE,!104B0,2AGE CAPITAL LETTER A,FI,GN,FH,EBRA,ECHA,EEHCHA,F,FIN,
  EHA,FYA,EI,EKA,EEHKA,EKYA,ELA,EMA,ENA,EO,FIN,EPA,EEHPA,ESA,FHA,ETA,EEHTA,ETSA,EEHTSA,ETSHA,EDHA,
  EU,EWA,EKHA,EGHA,EZA,FHA,!104D8,6SMALL LETTER A,DI,EN,DH,CBRA,CCHA,CEHCHA,D,DIN,CHA,DYA,CI,CKA,
  CEHKA,CKYA,CLA,CMA,CNA,CO,DIN,CPA,CEHPA,CSA,DHA,CTA,CEHTA,CTSA,CEHTSA,CTSHA,CDHA,CU,CWA,CKHA,
  CGHA,CZA,DHA,!10500,0ELBASAN LETTER A,?BE,?CE,@HE,?DE,?NDE,?DHE,?EI,@,?FE,?GE,@JE,?HE,?I,?JE,
  ?KE,?LE,@LE,?ME,?NE,@A,@JE,?O,?PE,?QE,?RE,@RE,?SE,@HE,?TE,@HE,?U,?VE,?XE,?Y,?ZE,@HE,?GHE,AAMMA,
  ?KHE,!10530,0CAUCASIAN ALBANIAN LETTER ALT,JBET,JGIM,JDAT,JEB,JZARL,JEYN,JZHIL,JTAS,JCHA,JYOWD,
  JZHA,JIRB,JSHA,JLAN,JINYA,JXEYN,JDYAN,JCAR,JJHOX,JKAR,JLYIT,JHEYT,JQAY,JAOR,JCHOY,LI,KYAY,JMAQ,
  JQAR,JNOWC,JDZYAY,JSHAK,JJAYN,JON,JTYAY,JFAM,JDZAY,JCHAT,JPEN,JGHEYS,JRAT,JSEYK,JVEYZ,JTIWR,
  JSHOY,JIWN,JCYAW,KAYN,JYAYD,JPIWR,JKIW,!1056F,CCITATION MARK,0VITHKUQI CAPITAL LETTER A,HBBE,IE,
  HCE,IHE,HDE,IHE,HEI,I,HFE,HGA,!1057C,HHA,IHA,HI,IJE,HJE,HKA,HLA,ILA,HME,HNE,IJE,HO,HPE,HQA,HRE,
  !1058C,HSE,IHE,HTE,IHE,HU,HVE,HXE,!10594,HY,HZE,!10597,9SMALL LETTER A,FBBE,GE,FCE,GHE,FDE,GHE,
  FEI,G,FFE,FGA,!105A3,FHA,GHA,FI,GJE,FJE,FKA,FLA,GLA,FME,FNE,GJE,FO,FPE,FQA,FRE,!105B3,FSE,GHE,
  FTE,GHE,FU,FVE,FXE,!105BB,FY,FZE,!10600,0LINEAR A SIGN AB001,B2,B3,B4,B5,B6,B7,B8,B9,A10,B1,B3,
  B6,B7,A20,B1,CF,CM,B2,CF,CM,B3,CM,B4,B6,B7,B8,?028B,?B029,A30,B1,B4,B7,B8,B9,A40,B1,B4,B5,B6,B7,
  B8,B9,A50,B1,B3,B4,B5,B6,B7,B8,B9,A60,B1,B5,B6,B7,B9,A70,B3,B4,B6,B7,B8,B9,A80,B1,B2,B5,B6,B7,
  ?100-102,?B118,A20,?120B,?B122,B3,A31A,CB,?131C,?B164,A71,A80,B8,A91,?301,A2,A3,A4,A5,A6,A7,A8,
  A9A,BB,BC,@10,A1,A2,A3A,BB,BC,A4,A5,A6,A7,A8,A9,@20,A1,A2,A3,A4,A5,A6,A7,A8,A9,@30,A1,A2,A3,A4,
  A5,A6,A7,A8,A9,@40,A1,A2,A3,A4,A5,A6,A7,A8,A9,@50,A1,A2,A3,A4,A5,A6,A7,A8,A9,@60,A1,A2,A3,A4,A5,
  A6,A7,A8,A9,@70,A1,?400-VAS,A1-VAS,A2-VAS,A3-VAS,A4-VAS,A5-VAS,A6-VAS,A7-VAS,A8-VAS,A9-VAS,
  @10-VAS,A1-VAS,A2-VAS,A3-VAS,A4-VAS,A5-VAS,A6-VAS,A7-VAS,A8-VAS,?501,A2,A3,A4,A5,A6,A8,A9,@10,
  A1,A2,A3,A5,A6,@20,A1,A3,A4,A5,A6,A7,A8,A9,@30,A1,A2,A4,A5,A6,A7,A8,A9,@40,A1,A2,A5,A7,A8,A9,
  @50,A1,A2,A3,A4,A5,A6,A7,A9,@63,A4,A5,A6,A8,A9,@70,A1,A2,A3,A4,A5,A6,A7,A8,A9,@80,A1,A2,A3,A4,
  A5,A6,A7,A8,A9,@91,A2,A4,A5,A6,A8,?600,A1,A2,A3,A4,A6,A8,A9,@10,A1,A2,A3,A4,A5,A6,A7,A8,A9,@20,
  A1,A2,A3,A4,A6,A7,A8,A9,@34,A7,A8,@40,A2,A3,A4,A5,A6,A8,A9,@51,A2,A3,A4,A5,A6,A7,A8,A9,@60,A1,
  A2,A3,A4,!10740,?701 A,A2 B,A3 D,A4 E,A5 F,A6 H,A7 J,A8 K,A9 L,B-2 L2,C3 L3,C4 L4,C6 L6,@10 W,
  A1 X,A2 Y,A3 OMEGA,A4 ABB,A5 BB,A7 DD,@26 EYYY,@32 JE,!10760,?800,A1,A2,A3,A4,A5,A6,A7,!10780,
  0MODIFIER LETTER SMALL CAPITAL AA,AUPERSCRIPT TRIANGULAR COLON,LHALF TRIANGULAR COLON,AMALL AE,
  FCAPITAL B,FB WITH HOOK,!10787,FDZ DIGRAPH,P WITH RETROFLEX HOOK,VCURL,GEZH DIGRAPH,G WITH TAIL,
  MHOOK,Q AND TAIL,FREVERSED E,FCLOSED REVERSED OPEN E,FFENG DIGRAPH,FRAMS HORN,FCAPITAL G,
  FG WITH HOOK,FCAPITAL G WITH HOOK,FH WITH STROKE,FCAPITAL H,FHENG WITH HOOK,
  FDOTLESS J WITH STROKE AND HOOK,FLS DIGRAPH,GZ DIGRAPH,G WITH BELT,FCAPITAL L WITH BELT,
  FL WITH RETROFLEX HOOK AND BELT,GEZH,J WITH RETROFLEX HOOK,FTURNED Y,N WITH BELT,FO WITH STROKE,
  FCAPITAL OE,GLOSED OMEGA,FQ,FTURNED R WITH LONG LEG,[G AND RETROFLEX HOOK,FR WITH TAIL,
  MFISHHOOK,FCAPITAL R,FTC DIGRAPH WITH CURL,GS DIGRAPH,P WITH RETROFLEX HOOK,GESH DIGRAPH,
  G WITH RETROFLEX HOOK,FV WITH RIGHT HOOK,!107B2,FCAPITAL Y,@GLOTTAL STOP WITH STROKE,
  @REVERSED GLOTTAL STOP WITH STROKE,@BILABIAL CLICK,@DENTAL CLICK,@LATERAL CLICK,@ALVEOLAR CLICK,
  @RETROFLEX CLICK WITH RETROFLEX HOOK,@SMALL S WITH CURL,!10800,0CYPRIOT SYLLABLE A,AE,AI,AO,AU,
  AJA,!10808,BO,!1080A,AKA,BE,BI,BO,BU,ALA,BE,BI,BO,BU,AMA,BE,BI,BO,BU,ANA,BE,BI,BO,BU,APA,BE,BI,
  BO,BU,ARA,BE,BI,BO,BU,ASA,BE,BI,BO,BU,ATA,BE,BI,BO,BU,AWA,BE,BI,BO,!10837,AXA,BE,!1083C,AZA,
  !1083F,BO,0IMPERIAL ARAMAIC LETTER ALEPH,HBETH,HGIMEL,HDALETH,HHE,HWAW,HZAYIN,HHETH,HTETH,HYODH,
  HKAPH,HLAMEDH,HMEM,HNUN,HSAMEKH,HAYIN,HPE,HSADHE,HQOPH,HRESH,HSHIN,HTAW,!10857,ASECTION SIGN,
  ANUMBER ONE,HTWO,IHREE,IEN,IWENTY,HONE HUNDRED,LTHOUSAND,HTEN THOUSAND,0PALMYRENE LETTER ALEPH,
  ABETH,AGIMEL,ADALETH,AHE,AWAW,AZAYIN,AHETH,ATETH,AYODH,AKAPH,ALAMEDH,AMEM,AFINAL NUN,ANUN,
  ASAMEKH,AAYIN,APE,ASADHE,AQOPH,ARESH,ASHIN,ATAW,<FT-POINTING FLEURON,:RIGHT-POINTING FLEURON,
  :NUMBER ONE,ATWO,BHREE,AFOUR,BIVE,ATEN,BWENTY,0NABATAEAN LETTER FINAL ALEPH,AALEPH,AFINAL BETH,
  ABETH,AGIMEL,ADALETH,AFINAL HE,AHE,AWAW,AZAYIN,AHETH,ATETH,AFINAL YODH,AYODH,AFINAL KAPH,AKAPH,
  AFINAL LAMEDH,ALAMEDH,AFINAL MEM,AMEM,AFINAL NUN,ANUN,ASAMEKH,AAYIN,APE,ASADHE,AQOPH,ARESH,
  AFINAL SHIN,ASHIN,ATAW,!108A7,:NUMBER ONE,ATWO,BHREE,AFOUR,:CRUCIFORM NUMBER FOUR,:NUMBER FIVE,
  ATEN,BWENTY,AONE HUNDRED,!108E0,0HATRAN LETTER ALEPH,>BETH,>GIMEL,>DALETH-RESH,>HE,>WAW,>ZAYN,
  >HETH,>TETH,>YODH,>KAPH,>LAMEDH,>MEM,>NUN,>SAMEKH,>AYN,>PE,>SADHE,>QOPH,!108F4,>SHIN,>TAW,
  !108FB,7NUMBER ONE,>FIVE,>TEN,?WENTY,>ONE HUNDRED,0PHOENICIAN LETTER ALF,BBET,BGAML,BDELT,BHE,
  BWAU,BZAI,BHET,BTET,BYOD,BKAF,BLAMD,BMEM,BNUN,BSEMK,BAIN,BPE,BSADE,BQOF,BROSH,BSHIN,BTAU,
  ;NUMBER ONE,BTEN,CWENTY,BONE HUNDRED,BTWO,CHREE,!1091F,;WORD SEPARATOR,0LYDIAN LETTER A,>B,>G,
  >D,>E,>V,>I,>Y,>K,>L,>M,>N,>O,>R,>SS,>T,>U,>F,>Q,>S,>TT,>AN,>EN,>LY,>NN,>C,!1093F,
  7TRIANGULAR MARK,!10980,0MEROITIC HIEROGLYPHIC LETTER A,ME,MI,MO,MYA,MWA,MBA,O-2,MPA,MMA,MNA,
  O-2,NE,O-2,MRA,O-2,MLA,MKHA,MHHA,MSA,O-2,NE,MKA,MQA,MTA,O-2,NE,O-2,NO,MDA,FSYMBOL VIDJ,Q-2,
  9CURSIVE LETTER A,HE,HI,HO,HYA,HWA,HBA,HPA,HMA,HNA,IE,HRA,HLA,HKHA,HHHA,HSA,HARCHAIC SA,HSE,HKA,
  HQA,HTA,IE,IO,HDA,!109BC,AFRACTION ELEVEN TWELFTHS,JONE HALF,ALOGOGRAM RMT,JIMN,ANUMBER ONE,
  HTWO,IHREE,HFOUR,IIVE,HSIX,IEVEN,HEIGHT,HNINE,HTEN,IWENTY,IHIRTY,HFORTY,IIFTY,HSIXTY,IEVENTY,
  !109D2,HONE HUNDRED,HTWO HUNDRED,IHREE HUNDRED,HFOUR HUNDRED,IIVE HUNDRED,HSIX HUNDRED,
  IEVEN HUNDRED,HEIGHT HUNDRED,HNINE HUNDRED,HONE THOUSAND,HTWO THOUSAND,IHREE THOUSAND,
  HFOUR THOUSAND,IIVE THOUSAND,HSIX THOUSAND,IEVEN THOUSAND,HEIGHT THOUSAND,HNINE THOUSAND,
  HTEN THOUSAND,IWENTY THOUSAND,IHIRTY THOUSAND,HFORTY THOUSAND,IIFTY THOUSAND,HSIXTY THOUSAND,
  IEVENTY THOUSAND,HEIGHTY THOUSAND,HNINETY THOUSAND,HONE HUNDRED THOUSAND,HTWO HUNDRED THOUSAND,
  IHREE HUNDRED THOUSAND,HFOUR HUNDRED THOUSAND,IIVE HUNDRED THOUSAND,HSIX HUNDRED THOUSAND,
  IEVEN HUNDRED THOUSAND,HEIGHT HUNDRED THOUSAND,HNINE HUNDRED THOUSAND,AFRACTION ONE TWELFTH,
  JTWO TWELFTHS,KHREE TWELFTHS,JFOUR TWELFTHS,KIVE TWELFTHS,JSIX TWELFTHS,KEVEN TWELFTHS,
  JEIGHT TWELFTHS,JNINE TWELFTHS,JTEN TWELFTHS,0KHAROSHTHI LETTER A,;VOWEL SIGN I,FU,FVOCALIC R,
  !10A05,FE,FO,!10A0C,ALENGTH MARK,;SIGN DOUBLE RING BELOW,@ANUSVARA,@VISARGA,;LETTER KA,CHA,BGA,
  CHA,!10A15,BCA,CHA,BJA,!10A19,BNYA,BTTA,DHA,BDDA,DHA,BNNA,BTA,CHA,BDA,CHA,BNA,BPA,CHA,BBA,CHA,
  BMA,BYA,BRA,BLA,BVA,BSHA,CSA,CA,BZA,BHA,BKKA,BTTTHA,EA,BVHA,!10A38,;SIGN BAR ABOVE,@CAUDA,
  @DOT BELOW,!10A3F,;VIRAMA,;DIGIT ONE,ATWO,BHREE,AFOUR,;NUMBER TEN,CWENTY,BONE HUNDRED,FTHOUSAND,
  ;FRACTION ONE HALF,!10A50,;PUNCTUATION DOT,GSMALL CIRCLE,GCIRCLE,HRESCENT BAR,GMANGALAM,GLOTUS,
  GDANDA,HOUBLE DANDA,GLINES,!10A60,0OLD SOUTH ARABIAN LETTER HE,ILAMEDH,IHETH,IMEM,IQOPH,IWAW,
  ISHIN,IRESH,IBETH,ITAW,ISAT,IKAPH,INUN,IKHETH,ISADHE,KMEKH,IFE,IALEF,JYN,IDHADHE,IGIMEL,IDALETH,
  IGHAYN,ITETH,IZAYN,IDHALETH,IYODH,ITHAW,KETH,BNUMBER ONE,IFIFTY,EERIC INDICATOR,
  4NORTH ARABIAN LETTER HEH,ILAM,IHAH,IMEEM,IQAF,IWAW,IES-2,IREH,IBEH,ITEH,IES-1,IKAF,INOON,IKHAH,
  ISAD,IES-3,IFEH,IALEF,JIN,IDAD,IGEEM,IDAL,IGHAIN,ITAH,IZAIN,ITHAL,IYEH,ITHEH,IZAH,BNUMBER ONE,
  ITEN,JWENTY,!10AC0,0MANICHAEAN LETTER ALEPH,BBETH,CHETH,BGIMEL,CHIMEL,BDALETH,BHE,BWAW,;SIGN UD,
  ;LETTER ZAYIN,CHAYIN,BJAYIN,CHAYIN,BHETH,BTETH,BYODH,BKAPH,BXAPH,BKHAPH,BLAMEDH,BDHAMEDH,
  BTHAMEDH,BMEM,BNUN,BSAMEKH,BAYIN,CAYIN,BPE,BFE,BSADHE,BQOPH,BXOPH,BQHOPH,BRESH,BSHIN,CSHIN,BTAW,
  ;ABBREVIATION MARK ABOVE,MBELOW,!10AEB,;NUMBER ONE,BFIVE,BTEN,CWENTY,BONE HUNDRED,
  ;PUNCTUATION STAR,GFLEURON,GDOUBLE DOT WITHIN DOT,IT WITHIN DOT,J,GTWO DOTS,GLINE FILLER,!10B00,
  0AVESTAN LETTER A,@A,@O,@AO,@N,@AN,@E,AE,?E,@E,?O,@O,?I,@I,?U,@U,?KE,?XE,@YE,@VE,?GE,@GE,@HE,
  ?CE,?JE,?TE,@HE,?DE,@HE,?TTE,?PE,?FE,?BE,@HE,?NGE,AYE,AVE,@E,@YE,@NE,?ME,?HME,?YYE,@E,?VE,?RE,
  ?LE,?SE,?ZE,?SHE,?ZHE,?SHYE,@SHE,?HE,!10B39,8ABBREVIATION MARK,
  0TINY TWO DOTS OVER ONE DOT PUNCTUATION,0SMALL TWO DOTS OVER ONE DOT PUNCTUATION,
  0LARGE TWO DOTS OVER ONE DOT PUNCTUATION,6ONE DOT OVER TWO DOTS PUNCTUATION,
  6TWO RINGS OVER ONE RING PUNCTUATION,6ONE RING OVER TWO RINGS PUNCTUATION,
  0INSCRIPTIONAL PARTHIAN LETTER ALEPH,NBETH,NGIMEL,NDALETH,NHE,NWAW,NZAYIN,NHETH,NTETH,NYODH,
  NKAPH,NLAMEDH,NMEM,NNUN,NSAMEKH,NAYIN,NPE,NSADHE,NQOPH,NRESH,NSHIN,NTAW,!10B58,GNUMBER ONE,NTWO,
  OHREE,NFOUR,NTEN,OWENTY,NONE HUNDRED,RTHOUSAND,@HLAVI LETTER ALEPH,MBETH,MGIMEL,MDALETH,MHE,
  MWAW-AYIN-RESH,MZAYIN,MHETH,MTETH,MYODH,MKAPH,MLAMEDH,MMEM-QOPH,MNUN,MSAMEKH,MPE,MSADHE,NHIN,
  MTAW,!10B78,FNUMBER ONE,MTWO,NHREE,MFOUR,MTEN,NWENTY,MONE HUNDRED,QTHOUSAND,
  0PSALTER PAHLAVI LETTER ALEPH,GBETH,GGIMEL,GDALETH,GHE,GWAW-AYIN-RESH,GZAYIN,GHETH,GYODH,GKAPH,
  GLAMEDH,GMEM-QOPH,GNUN,GSAMEKH,GPE,GSADHE,HHIN,GTAW,!10B99,@SECTION MARK,@TURNED SECTION MARK,
  @FOUR DOTS WITH CROSS,ODOT,!10BA9,@NUMBER ONE,GTWO,HHREE,GFOUR,GTEN,HWENTY,GONE HUNDRED,!10C00,
  0OLD TURKIC LETTER ORKHON A,BYENISEI A,KE,BORKHON I,BYENISEI I,JE,BORKHON O,JE,BYENISEI OE,
  BORKHON AB,BYENISEI AB,BORKHON AEB,BYENISEI AEB,BORKHON AG,BYENISEI AG,BORKHON AEG,BYENISEI AEG,
  BORKHON AD,BYENISEI AD,BORKHON AED,IEZ,BYENISEI EZ,BORKHON AY,BYENISEI AY,BORKHON AEY,
  BYENISEI AEY,BORKHON AEK,BYENISEI AEK,BORKHON OEK,BYENISEI OEK,BORKHON AL,BYENISEI AL,
  BORKHON AEL,IELT,JM,IAN,JEN,BYENISEI AEN,BORKHON ENT,BYENISEI ENT,BORKHON ENC,BYENISEI ENC,
  BORKHON ENY,BYENISEI ENY,JANG,BORKHON ENG,BYENISEI AENG,BORKHON EP,IOP,IIC,IEC,BYENISEI EC,
  BORKHON AQ,BYENISEI AQ,BORKHON IQ,BYENISEI IQ,BORKHON OQ,BYENISEI OQ,BORKHON AR,BYENISEI AR,
  BORKHON AER,JS,JES,JSH,BYENISEI ASH,BORKHON ESH,BYENISEI ESH,BORKHON AT,BYENISEI AT,BORKHON AET,
  BYENISEI AET,BORKHON OT,IBASH,!10C80,4HUNGARIAN CAPITAL LETTER A,NA,MEB,MAMB,MEC,NNC,NCS,ND,
  MAND,ME,MCLOSE E,MEE,NF,NG,OY,NH,MI,NI,MEJ,NK,MAK,MUNK,MEL,OY,NM,NN,OY,MO,NO,MNIKOLSBURG OE,
  MRUDIMENTA OE,MOEE,MEP,NMP,NR,MSHORT ER,MES,OZ,NT,NNT,NTY,NCH,MU,NU,MNIKOLSBURG UE,
  MRUDIMENTA UE,MEV,NZ,OS,NNT-SHAPED SIGN,MUS,!10CC0,>SMALL LETTER A,LA,KEB,KAMB,KEC,LNC,LCS,LD,
  KAND,KE,KCLOSE E,KEE,LF,LG,MY,LH,KI,LI,KEJ,LK,KAK,KUNK,KEL,MY,LM,LN,MY,KO,LO,KNIKOLSBURG OE,
  KRUDIMENTA OE,KOEE,KEP,LMP,LR,KSHORT ER,KES,MZ,LT,LNT,LTY,LCH,KU,LU,KNIKOLSBURG UE,
  KRUDIMENTA UE,KEV,LZ,MS,LNT-SHAPED SIGN,KUS,!10CFA,>NUMBER ONE,EFIVE,ETEN,EFIFTY,EONE HUNDRED,
  ITHOUSAND,0HANIFI ROHINGYA LETTER A,GBA,GPA,GTA,HTA,GJA,GCA,GHA,GKHA,GFA,GDA,HDA,GRA,HRA,GZA,
  GSA,HHA,GKA,GGA,GLA,GMA,GNA,GWA,GKINNA WA,GYA,GKINNA YA,GNGA,HYA,GVA,@VOWEL A,FI,FU,FE,FO,
  @MARK SAKIN,ENA KHONNA,@SIGN HARBAHAY,ETAHALA,GNA,GSSI,!10D30,@DIGIT ZERO,FONE,FTWO,GHREE,FFOUR,
  GIVE,FSIX,GEVEN,FEIGHT,FNINE,!10E60,0RUMI DIGIT ONE,;TWO,<HREE,;FOUR,<IVE,;SIX,<EVEN,;EIGHT,
  ;NINE,5NUMBER TEN,=WENTY,=HIRTY,<FORTY,=IFTY,<SIXTY,=EVENTY,<EIGHTY,<NINETY,<ONE HUNDRED,
  <TWO HUNDRED,=HREE HUNDRED,<FOUR HUNDRED,=IVE HUNDRED,<SIX HUNDRED,=EVEN HUNDRED,<EIGHT HUNDRED,
  <NINE HUNDRED,5FRACTION ONE HALF,BQUARTER,BTHIRD,>TWO THIRDS,!10E80,0YEZIDI LETTER ELIF,>BE,>PE,
  ?HE,>THE,>SE,>CIM,?HIM,@HIM,>HHA,>XA,>DAL,>ZAL,>RA,?HA,>ZA,>JA,>SIN,?HIN,?AD,>DAD,>TA,>ZE,>EYN,
  >XHEYN,>FA,>VA,@ ALTERNATE FORM,>QAF,>KAF,?HAF,>GAF,>LAM,>MIM,>NUN,>UM,>WAW,>OW,>EW,>HAY,>YOT,
  >ET,!10EAB,7COMBINING HAMZA MARK,AMADDA MARK,7HYPHENATION MARK,!10EB0,
  7LETTER LAM WITH DOT ABOVE,>YOT WITH CIRCUMFLEX ABOVE,!10F00,0OLD SOGDIAN LETTER ALEPH,
  CFINAL ALEPH,CBETH,CFINAL BETH,CGIMEL,CHE,CFINAL HE,CWAW,CZAYIN,CHETH,CYODH,CKAPH,CLAMEDH,CMEM,
  CNUN,CFINAL NUN,L WITH VERTICAL TAIL,CSAMEKH,CAYIN,DLTERNATE AYIN,CPE,CSADHE,CFINAL SADHE,
  N WITH VERTICAL TAIL,CRESH-AYIN-DALETH,CSHIN,CTAW,CFINAL TAW,L WITH VERTICAL TAIL,<NUMBER ONE,
  CTWO,DHREE,CFOUR,DIVE,CTEN,DWENTY,DHIRTY,CONE HUNDRED,<FRACTION ONE HALF,<LIGATURE AYIN-DALETH,
  !10F30,0SOGDIAN LETTER ALEPH,?BETH,?GIMEL,?HE,?WAW,?ZAYIN,?HETH,?YODH,?KAPH,?LAMEDH,?MEM,?NUN,
  ?SAMEKH,?AYIN,?PE,?SADHE,?RESH-AYIN,?SHIN,?TAW,?FETH,?LESH,8INDEPENDENT SHIN,
  8COMBINING DOT BELOW,BTWO DOTS BELOW,BDOT ABOVE,BTWO DOTS ABOVE,BCURVE ABOVE,HBELOW,BHOOK ABOVE,
  GBELOW,BLONG HOOK BELOW,BRESH BELOW,BSTROKE BELOW,8NUMBER ONE,?TEN,@WENTY,?ONE HUNDRED,
  8PUNCTUATION TWO VERTICAL BARS,U WITH DOTS,DCIRCLE WITH DOT,DTWO CIRCLES WITH DOTS,
  DHALF CIRCLE WITH DOT,!10F70,0OLD UYGHUR LETTER ALEPH,BBETH,BGIMEL-HETH,BWAW,BZAYIN,BFINAL HETH,
  BYODH,BKAPH,BLAMEDH,BMEM,BNUN,BSAMEKH,BPE,BSADHE,BRESH,BSHIN,BTAW,BLESH,;COMBINING DOT ABOVE,
  IBELOW,ETWO DOTS ABOVE,NBELOW,;PUNCTUATION BAR,GTWO BARS,KDOTS,GFOUR DOTS,!10FB0,
  0CHORASMIAN LETTER ALEPH,BSMALL ALEPH,BBETH,BGIMEL,BDALETH,BHE,BWAW,BCURLED WAW,BZAYIN,BHETH,
  BYODH,BKAPH,BLAMEDH,BMEM,BNUN,BSAMEKH,BAYIN,BPE,BRESH,BSHIN,BTAW,;NUMBER ONE,BTWO,CHREE,BFOUR,
  BTEN,CWENTY,BONE HUNDRED,!10FE0,0ELYMAIC LETTER ALEPH,?BETH,?GIMEL,?DALETH,?HE,?WAW,?ZAYIN,
  ?HETH,?TETH,?YODH,?KAPH,?LAMEDH,?MEM,?NUN,?SAMEKH,?AYIN,?PE,?SADHE,?QOPH,?RESH,?SHIN,?TAW,
  9IGATURE ZAYIN-YODH,!11000,0BRAHMI SIGN CANDRABINDU,<ANUSVARA,<VISARGA,<JIHVAMULIYA,
  <UPADHMANIYA,7LETTER A,?A,>I,?I,>U,?U,>VOCALIC R,GR,FL,GL,>E,>AI,>O,>AU,>KA,?HA,>GA,?HA,>NGA,
  >CA,?HA,>JA,?HA,>NYA,>TTA,@HA,>DDA,@HA,>NNA,>TA,?HA,>DA,?HA,>NA,>PA,?HA,>BA,?HA,>MA,>YA,>RA,>LA,
  >VA,>SHA,?SA,?A,>HA,>LLA,>OLD TAMIL LLLA,HRRA,HNNNA,7VOWEL SIGN AA,BBHATTIPROLU AA,BI,CI,BU,CU,
  BVOCALIC R,KR,JL,KL,BE,BAI,BO,BAU,8IRAMA,7DANDA,8OUBLE DANDA,7PUNCTUATION DOT,EUBLE DOT,CLINE,
  CCRESCENT BAR,CLOTUS,!11052,7NUMBER ONE,>TWO,?HREE,>FOUR,?IVE,>SIX,?EVEN,>EIGHT,>NINE,>TEN,
  ?WENTY,?HIRTY,>FORTY,?IFTY,>SIXTY,?EVENTY,>EIGHTY,>NINETY,>ONE HUNDRED,BTHOUSAND,7DIGIT ZERO,
  =ONE,=TWO,>HREE,=FOUR,>IVE,=SIX,>EVEN,=EIGHT,=NINE,7SIGN OLD TAMIL VIRAMA,
  7LETTER OLD TAMIL SHORT E,NO,7VOWEL SIGN OLD TAMIL SHORT E,RO,7LETTER OLD TAMIL LLA,!1107F,
  7NUMBER JOINER,0KAITHI SIGN CANDRABINDU,<ANUSVARA,<VISARGA,7LETTER A,?A,>I,?I,>U,?U,>E,>AI,>O,
  >AU,>KA,?HA,>GA,?HA,>NGA,>CA,?HA,>JA,?HA,>NYA,>TTA,@HA,>DDA,@DHA,@HA,>RHA,>NNA,>TA,?HA,>DA,?HA,
  >NA,>PA,?HA,>BA,?HA,>MA,>YA,>RA,>LA,>VA,>SHA,?SA,?A,>HA,7VOWEL SIGN AA,BI,CI,BU,CU,BE,BAI,BO,
  BAU,7SIGN VIRAMA,<NUKTA,7ABBREVIATION SIGN,7ENUMERATION SIGN,7NUMBER SIGN,7SECTION MARK,
  7DOUBLE SECTION MARK,8ANDA,8OUBLE DANDA,7VOWEL SIGN VOCALIC R,!110CD,7NUMBER SIGN ABOVE,!110D0,
  0SORA SOMPENG LETTER SAH,DTAH,DBAH,DCAH,DDAH,DGAH,DMAH,DNGAH,DLAH,DNAH,DVAH,DPAH,DYAH,DRAH,DHAH,
  DKAH,DJAH,DNYAH,DAH,DEEH,DIH,DUH,DOH,DEH,DMAE,!110F0,=DIGIT ZERO,CONE,CTWO,DHREE,CFOUR,DIVE,
  CSIX,DEVEN,CEIGHT,CNINE,!11100,0CHAKMA SIGN CANDRABINDU,<ANUSVARA,<VISARGA,7LETTER AA,>I,>U,>E,
  >KAA,?HAA,>GAA,?HAA,>NGAA,>CAA,?HAA,>JAA,?HAA,>NYAA,>TTAA,@HAA,>DDAA,@HAA,>NNAA,>TAA,?HAA,>DAA,
  ?HAA,>NAA,>PAA,?HAA,>BAA,?HAA,>MAA,>YYAA,?AA,>RAA,>LAA,>WAA,>SAA,>HAA,7VOWEL SIGN A,BI,CI,BU,CU,
  BE,BAI,BO,BAU,BOI,7O MARK,7AU MARK,7VIRAMA,7MAAYYAA,!11136,7DIGIT ZERO,=ONE,=TWO,>HREE,=FOUR,
  >IVE,=SIX,>EVEN,=EIGHT,=NINE,7SECTION MARK,7DANDA,8OUBLE DANDA,7QUESTION MARK,7LETTER LHAA,
  7VOWEL SIGN AA,BEI,7LETTER VAA,!11150,0MAHAJANI LETTER A,@I,@U,@E,@O,@KA,AHA,@GA,AHA,@CA,AHA,
  @JA,AHA,@NYA,@TTA,BHA,@DDA,BHA,@NNA,@TA,AHA,@DA,AHA,@NA,@PA,AHA,@BA,AHA,@MA,@RA,@LA,@VA,@SA,@HA,
  @RRA,9SIGN NUKTA,9ABBREVIATION SIGN,9SECTION MARK,9LIGATURE SHRI,!11180,
  0SHARADA SIGN CANDRABINDU,=ANUSVARA,=VISARGA,8LETTER A,@A,?I,@I,?U,@U,?VOCALIC R,HR,GL,HL,?E,
  ?AI,?O,?AU,?KA,@HA,?GA,@HA,?NGA,?CA,@HA,?JA,@HA,?NYA,?TTA,AHA,?DDA,AHA,?NNA,?TA,@HA,?DA,@HA,?NA,
  ?PA,@HA,?BA,@HA,?MA,?YA,?RA,?LA,@LA,?VA,?SHA,@SA,@A,?HA,8VOWEL SIGN AA,CI,DI,CU,DU,CVOCALIC R,
  LR,KL,LL,CE,CAI,CO,CAU,8SIGN VIRAMA,=AVAGRAHA,=JIHVAMULIYA,=UPADHMANIYA,8OM,8DANDA,9OUBLE DANDA,
  8ABBREVIATION SIGN,8SEPARATOR,9ANDHI MARK,9IGN NUKTA,8VOWEL MODIFIER MARK,
  8EXTRA SHORT VOWEL MARK,8SUTRA MARK,8VOWEL SIGN PRISHTHAMATRA E,8SIGN INVERTED CANDRABINDU,
  8DIGIT ZERO,>ONE,>TWO,?HREE,>FOUR,?IVE,>SIX,?EVEN,>EIGHT,>NINE,8EKAM,8SIGN SIDDHAM,8HEADSTROKE,
  8CONTINUATION SIGN,8SECTION MARK-1,E2,!111E1,1INHALA ARCHAIC DIGIT ONE,FTWO,GHREE,FFOUR,GIVE,
  FSIX,GEVEN,FEIGHT,FNINE,@NUMBER TEN,HWENTY,HHIRTY,GFORTY,HIFTY,GSIXTY,HEVENTY,GEIGHTY,GNINETY,
  GONE HUNDRED,KTHOUSAND,!11200,0KHOJKI LETTER A,?A,>I,>U,>E,>AI,>O,>AU,>KA,?HA,>GA,?GA,?HA,>NGA,
  >CA,?HA,>JA,?JA,!11213,>NYA,>TTA,@HA,>DDA,@HA,>NNA,>TA,?HA,>DA,?DDA,?HA,>NA,>PA,?HA,>BA,?BA,?HA,
  >MA,>YA,>RA,>LA,>VA,>SA,>HA,>LLA,7VOWEL SIGN AA,BI,CI,BU,BE,BAI,BO,BAU,7SIGN ANUSVARA,<VIRAMA,
  <NUKTA,<SHADDA,7DANDA,8OUBLE DANDA,7WORD SEPARATOR,7SECTION MARK,7DOUBLE SECTION MARK,
  7ABBREVIATION SIGN,7SIGN SUKUN,!11280,0MULTANI LETTER A,?I,?U,?E,?KA,@HA,?GA,!11288,@HA,!1128A,
  ?CA,@HA,?JA,@JA,!1128F,?NYA,?TTA,AHA,?DDA,ADA,AHA,?NNA,?TA,@HA,?DA,@HA,?NA,?PA,@HA,?BA,!1129F,
  @HA,?MA,?YA,?RA,?LA,?VA,?SA,?HA,?RRA,@HA,8SECTION MARK,!112B0,0KHUDAWADI LETTER A,BA,AI,BI,AU,
  BU,AE,AAI,AO,AAU,AKA,BHA,AGA,BGA,BHA,ANGA,ACA,BHA,AJA,BJA,BHA,ANYA,ATTA,CHA,ADDA,CDA,ARRA,ADDHA,
  ANNA,ATA,BHA,ADA,BHA,ANA,APA,BHA,ABA,BBA,BHA,AMA,AYA,ARA,ALA,AVA,ASHA,BA,AHA,:SIGN ANUSVARA,
  :VOWEL SIGN AA,EI,FI,EU,FU,EE,EAI,EO,EAU,:SIGN NUKTA,?VIRAMA,!112F0,:DIGIT ZERO,@ONE,@TWO,AHREE,
  @FOUR,AIVE,@SIX,AEVEN,@EIGHT,@NINE,!11300,0GRANTHA SIGN COMBINING ANUSVARA ABOVE,>ANDRABINDU,
  =ANUSVARA,=VISARGA,!11305,8LETTER A,@A,?I,@I,?U,@U,?VOCALIC R,GL,!1130F,?EE,?AI,!11313,?OO,?AU,
  ?KA,@HA,?GA,@HA,?NGA,?CA,@HA,?JA,@HA,?NYA,?TTA,AHA,?DDA,AHA,?NNA,?TA,@HA,?DA,@HA,?NA,!1132A,?PA,
  @HA,?BA,@HA,?MA,?YA,?RA,!11332,?LA,@LA,!11335,?VA,?SHA,@SA,@A,?HA,!1133B,0COMBINING BINDU BELOW,
  0GRANTHA SIGN NUKTA,=AVAGRAHA,8VOWEL SIGN AA,CI,DI,CU,DU,CVOCALIC R,LR,!11347,CEE,CAI,!1134B,
  COO,CAU,8SIGN VIRAMA,!11350,8OM,!11357,8AU LENGTH MARK,!1135D,8SIGN PLUTA,
  8LETTER VEDIC ANUSVARA,EDOUBLE ANUSVARA,@OCALIC RR,GLL,8VOWEL SIGN VOCALIC L,LL,!11366,
  0COMBINING GRANTHA DIGIT ZERO,HONE,HTWO,IHREE,HFOUR,IIVE,HSIX,!11370,BLETTER A,IKA,INA,IVI,IPA,
  !11400,0NEWA LETTER A,=A,<I,=I,<U,=U,<VOCALIC R,ER,DL,EL,<E,<AI,<O,<AU,<KA,=HA,<GA,=HA,<NGA,>HA,
  <CA,=HA,<JA,=HA,<NYA,>HA,<TTA,>HA,<DDA,>HA,<NNA,<TA,=HA,<DA,=HA,<NA,=HA,<PA,=HA,<BA,=HA,<MA,=HA,
  <YA,<RA,=HA,<LA,=HA,<WA,<SHA,=SA,=A,<HA,5VOWEL SIGN AA,@I,AI,@U,AU,@VOCALIC R,IR,HL,IL,@E,@AI,
  @O,@AU,5SIGN VIRAMA,:CANDRABINDU,:ANUSVARA,:VISARGA,:NUKTA,:AVAGRAHA,:FINAL ANUSVARA,5OM,
  5SIDDHI,5DANDA,6OUBLE DANDA,5COMMA,5GAP FILLER,5ABBREVIATION SIGN,5DIGIT ZERO,;ONE,;TWO,<HREE,
  ;FOUR,<IVE,;SIX,<EVEN,;EIGHT,;NINE,6OUBLE COMMA,5PLACEHOLDER MARK,!1145D,5INSERTION SIGN,
  5SANDHI MARK,5LETTER VEDIC ANUSVARA,5SIGN JIHVAMULIYA,:UPADHMANIYA,!11480,0TIRHUTA ANJI,
  8LETTER A,@A,?I,@I,?U,@U,?VOCALIC R,HR,GL,HL,?E,?AI,?O,?AU,?KA,@HA,?GA,@HA,?NGA,?CA,@HA,?JA,@HA,
  ?NYA,?TTA,AHA,?DDA,AHA,?NNA,?TA,@HA,?DA,@HA,?NA,?PA,@HA,?BA,@HA,?MA,?YA,?RA,?LA,?VA,?SHA,@SA,@A,
  ?HA,8VOWEL SIGN AA,CI,DI,CU,DU,CVOCALIC R,LR,KL,LL,CE,CSHORT E,CAI,CO,CSHORT O,CAU,
  8SIGN CANDRABINDU,=ANUSVARA,=VISARGA,?RAMA,=NUKTA,=AVAGRAHA,8GVANG,8ABBREVIATION SIGN,8OM,
  !114D0,8DIGIT ZERO,>ONE,>TWO,?HREE,>FOUR,?IVE,>SIX,?EVEN,>EIGHT,>NINE,!11580,0SIDDHAM LETTER A,
  @A,?I,@I,?U,@U,?VOCALIC R,HR,GL,HL,?E,?AI,?O,?AU,?KA,@HA,?GA,@HA,?NGA,?CA,@HA,?JA,@HA,?NYA,?TTA,
  AHA,?DDA,AHA,?NNA,?TA,@HA,?DA,@HA,?NA,?PA,@HA,?BA,@HA,?MA,?YA,?RA,?LA,?VA,?SHA,@SA,@A,?HA,
  8VOWEL SIGN AA,CI,DI,CU,DU,CVOCALIC R,LR,!115B8,CE,CAI,CO,CAU,8SIGN CANDRABINDU,=ANUSVARA,
  =VISARGA,?RAMA,=NUKTA,=SIDDHAM,8DANDA,9OUBLE DANDA,8SEPARATOR DOT,BBAR,8REPETITION MARK-1,H2,H3,
  8END OF TEXT MARK,8SECTION MARK WITH TRIDENT AND U-SHAPED ORNAMENTS,VDOTTED CRESCENTS,
  JRAYS AND DOTTED CRESCENTS,ZDOUBLE CRESCENTS,ZTRIPLE CRESCENTS,EDOUBLE RING,P WITH RAYS,
  EWITH DOUBLE CRESCENTS,JTRIPLE CRESCENTS,JQUADRUPLE CRESCENTS,JSEPTUPLE CRESCENTS,
  JCIRCLES AND RAYS,VTWO ENCLOSURES,VFOUR ENCLOSURES,8LETTER THREE-CIRCLE ALTERNATE I,
  @WO-CIRCLE ALTERNATE I,UI,?ALTERNATE U,8VOWEL SIGN ALTERNATE U,NU,!11600,0MODI LETTER A,=A,<I,
  =I,<U,=U,<VOCALIC R,ER,DL,EL,<E,<AI,<O,<AU,<KA,=HA,<GA,=HA,<NGA,<CA,=HA,<JA,=HA,<NYA,<TTA,>HA,
  <DDA,>HA,<NNA,<TA,=HA,<DA,=HA,<NA,<PA,=HA,<BA,=HA,<MA,<YA,<RA,<LA,<VA,<SHA,=SA,=A,<HA,<LLA,
  5VOWEL SIGN AA,@I,AI,@U,AU,@VOCALIC R,IR,HL,IL,@E,@AI,@O,@AU,5SIGN ANUSVARA,:VISARGA,<RAMA,
  :ARDHACANDRA,5DANDA,6OUBLE DANDA,5ABBREVIATION SIGN,5SIGN HUVA,!11650,5DIGIT ZERO,;ONE,;TWO,
  <HREE,;FOUR,<IVE,;SIX,<EVEN,;EIGHT,;NINE,!11660,2NGOLIAN BIRGA WITH ORNAMENT,:ROTATED BIRGA,
  :DOUBLE BIRGA WITH ORNAMENT,:TRIPLE BIRGA WITH ORNAMENT,:BIRGA WITH DOUBLE ORNAMENT,
  :ROTATED BIRGA WITH ORNAMENT,MDOUBLE ORNAMENT,:INVERTED BIRGA,H WITH DOUBLE ORNAMENT,
  :SWIRL BIRGA,E WITH ORNAMENT,KDOUBLE ORNAMENT,:TURNED SWIRL BIRGA WITH DOUBLE ORNAMENT,!11680,
  0TAKRI LETTER A,>A,=I,>I,=U,>U,=E,=AI,=O,=AU,=KA,>HA,=GA,>HA,=NGA,=CA,>HA,=JA,>HA,=NYA,=TTA,?HA,
  =DDA,?HA,=NNA,=TA,>HA,=DA,>HA,=NA,=PA,>HA,=BA,>HA,=MA,=YA,=RA,=LA,=VA,=SHA,>A,=HA,=RRA,
  6SIGN ANUSVARA,;VISARGA,6VOWEL SIGN AA,AI,BI,AU,BU,AE,AAI,AO,AAU,6SIGN VIRAMA,;NUKTA,
  6LETTER ARCHAIC KHA,6ABBREVIATION SIGN,!116C0,6DIGIT ZERO,<ONE,<TWO,=HREE,<FOUR,=IVE,<SIX,=EVEN,
  <EIGHT,<NINE,!11700,0AHOM LETTER KA,=HA,<NGA,=A,<TA,<ALTERNATE TA,<PA,=HA,<BA,<MA,<JA,<CHA,<THA,
  <RA,<LA,<SA,<NYA,<HA,<A,<DA,=HA,<GA,<ALTERNATE GA,<GHA,<BHA,<JHA,<ALTERNATE BA,!1171D,
  5CONSONANT SIGN MEDIAL LA,KRA,KLIGATING RA,5VOWEL SIGN A,AA,@I,AI,@U,AU,@E,@AW,@O,@AI,AM,
  5SIGN KILLER,!11730,5DIGIT ZERO,;ONE,;TWO,<HREE,;FOUR,<IVE,;SIX,<EVEN,;EIGHT,;NINE,5NUMBER TEN,
  =WENTY,5SIGN SMALL SECTION,;ECTION,:RULAI,6YMBOL VI,5LETTER CA,<TTA,>HA,<DDA,>HA,<NNA,<LLA,
  !11800,0DOGRA LETTER A,>A,=I,>I,=U,>U,=E,=AI,=O,=AU,=KA,>HA,=GA,>HA,=NGA,=CA,>HA,=JA,>HA,=NYA,
  =TTA,?HA,=DDA,?HA,=NNA,=TA,>HA,=DA,>HA,=NA,=PA,>HA,=BA,>HA,=MA,=YA,=RA,=LA,=VA,=SHA,>SA,>A,=HA,
  =RRA,6VOWEL SIGN AA,AI,BI,AU,BU,AVOCALIC R,JR,AE,AAI,AO,AAU,6SIGN ANUSVARA,;VISARGA,=RAMA,
  ;NUKTA,6ABBREVIATION SIGN,!118A0,0WARANG CITI CAPITAL LETTER NGAA,KA,KWI,KYU,LA,LO,KII,KUU,KE,
  KO,KANG,KGA,KKO,KENY,KYUJ,KUC,KENN,KODD,KTTE,KNUNG,KDA,KAT,LM,KBU,KPU,KHIYO,LOLO,MRR,LAR,KSSUU,
  LII,KVIYO,<SMALL LETTER NGAA,IA,IWI,IYU,JA,JO,III,IUU,IE,IO,IANG,IGA,IKO,IENY,IYUJ,IUC,IENN,
  IODD,ITTE,INUNG,IDA,IAT,JM,IBU,IPU,IHIYO,JOLO,KRR,JAR,ISSUU,JII,IVIYO,<DIGIT ZERO,BONE,BTWO,
  CHREE,BFOUR,CIVE,BSIX,CEVEN,BEIGHT,BNINE,<NUMBER TEN,DWENTY,DHIRTY,CFORTY,DIFTY,CSIXTY,DEVENTY,
  CEIGHTY,CNINETY,!118FF,<OM,0DIVES AKURU LETTER A,DA,CI,DI,CU,DU,CE,!11909,CO,!1190C,CKA,DHA,CGA,
  DHA,CNGA,CCA,DHA,CJA,!11915,CNYA,CTTA,!11918,CDDA,EHA,CNNA,CTA,DHA,CDA,DHA,CNA,CPA,DHA,CBA,DHA,
  CMA,CYA,DYA,CRA,CLA,CVA,CSHA,DSA,DA,CHA,CLLA,CZA,<VOWEL SIGN AA,GI,HI,GU,HU,GE,!11937,GAI,GO,
  !1193B,<SIGN ANUSVARA,ACANDRABINDU,AHALANTA,<VIRAMA,<PREFIXED NASAL SIGN,<MEDIAL YA,<INITIAL RA,
  <MEDIAL RA,<SIGN NUKTA,<DOUBLE DANDA,<GAP FILLER,<END OF TEXT MARK,!11950,<DIGIT ZERO,BONE,BTWO,
  CHREE,BFOUR,CIVE,BSIX,CEVEN,BEIGHT,BNINE,!119A0,0NANDINAGARI LETTER A,DA,CI,DI,CU,DU,CVOCALIC R,
  LR,!119AA,CE,CAI,CO,CAU,CKA,DHA,CGA,DHA,CNGA,CCA,DHA,CJA,DHA,CNYA,CTTA,EHA,CDDA,EHA,CNNA,CTA,
  DHA,CDA,DHA,CNA,CPA,DHA,CBA,DHA,CMA,CYA,CRA,CLA,CVA,CSHA,DSA,DA,CHA,CLLA,CRRA,<VOWEL SIGN AA,GI,
  HI,GU,HU,GVOCALIC R,PR,!119DA,GE,GAI,GO,GAU,<SIGN ANUSVARA,AVISARGA,CRAMA,AAVAGRAHA,ASIDDHAM,
  <HEADSTROKE,<VOWEL SIGN PRISHTHAMATRA E,!11A00,0ZANABAZAR SQUARE LETTER A,AVOWEL SIGN I,LUE,M,
  LE,LOE,M,LAI,MU,LREVERSED I,GLENGTH MARK,ALETTER KA,IHA,HGA,IHA,HNGA,HCA,IHA,HJA,HNYA,HTTA,JHA,
  HDDA,JHA,HNNA,HTA,IHA,HDA,IHA,HNA,HPA,IHA,HBA,IHA,HMA,HTSA,JHA,HDZA,JHA,HZHA,IA,H-A,HYA,HRA,HLA,
  HVA,HSHA,ISA,IA,HHA,HKSSA,AFINAL CONSONANT MARK,ASIGN VIRAMA,FCANDRABINDU,Q WITH ORNAMENT,
  L WITH ORNAMENT,FANUSVARA,FVISARGA,ACLUSTER-INITIAL LETTER RA,IFINAL LETTER YA,VRA,VLA,VVA,
  AINITIAL HEAD MARK,ACLOSING HEAD MARK,AMARK TSHEG,FSHAD,FDOUBLE SHAD,FLONG TSHEG,
  AINITIAL DOUBLE-LINED HEAD MARK,ACLOSING DOUBLE-LINED HEAD MARK,ASUBJOINER,!11A50,
  0SOYOMBO LETTER A,8VOWEL SIGN I,CUE,D,CE,CO,DE,CAI,DU,CVOCALIC R,KL,>LENGTH MARK,8LETTER KA,@HA,
  ?GA,@HA,?NGA,?CA,@HA,?JA,@HA,?NYA,?TTA,AHA,?DDA,AHA,?NNA,?TA,@HA,?DA,@HA,?NA,?PA,@HA,?BA,@HA,
  ?MA,?TSA,AHA,?DZA,?ZHA,@A,?-A,?YA,?RA,?LA,?VA,?SHA,@SA,@A,?HA,?KSSA,8SIGN JIHVAMULIYA,
  =UPADHMANIYA,8CLUSTER-INITIAL LETTER RA,OLA,OSHA,PA,8FINAL CONSONANT SIGN G,MK,MNG,MD,MN,MB,MM,
  MR,ML,MSH,N,M-A,8SIGN ANUSVARA,=VISARGA,8GEMINATION MARK,8SUBJOINER,8MARK TSHEG,=SHAD,
  =DOUBLE SHAD,=PLUTA,8HEAD MARK WITH MOON AND SUN AND TRIPLE FLAME,XFLAME,S,8TERMINAL MARK-1,F2,
  !11AB0,0CANADIAN SYLLABICS NATTILIK HI,NI,MO,NO,MA,NA,LSHRI,PI,OO,PO,OA,PA,CSPE,EI,EO,EA,
  0PAU CIN HAU LETTER PA,CKA,CLA,CMA,CDA,CZA,CVA,CNGA,CHA,CGA,CKHA,CSA,CBA,CCA,CTA,DHA,CNA,CPHA,
  CRA,CFA,CCHA,CA,CE,CI,CO,CU,DA,CIA,CFINAL P,IK,IT,IM,IN,IL,IW,ING,IY,<RISING TONE LONG,G,
  <SANDHI GLOTTAL STOP,<RISING TONE LONG FINAL,HFINAL,<SANDHI GLOTTAL STOP FINAL,CTONE LONG,G,
  G LONG FINAL,HFINAL,<MID-LEVEL TONE,<GLOTTAL STOP VARIANT,<MID-LEVEL TONE LONG FINAL,KFINAL,
  <LOW-FALLING TONE LONG,L,<GLOTTAL STOP,<LOW-FALLING TONE LONG FINAL,MFINAL,<GLOTTAL STOP FINAL,
  !11C00,0BHAIKSUKI LETTER A,BA,AI,BI,AU,BU,AVOCALIC R,JR,IL,!11C0A,AE,AAI,AO,AAU,AKA,BHA,AGA,BHA,
  ANGA,ACA,BHA,AJA,BHA,ANYA,ATTA,CHA,ADDA,CHA,ANNA,ATA,BHA,ADA,BHA,ANA,APA,BHA,ABA,BHA,AMA,AYA,
  ARA,ALA,AVA,ASHA,BSA,BA,AHA,:VOWEL SIGN AA,EI,FI,EU,FU,EVOCALIC R,NR,ML,!11C38,EE,EAI,EO,EAU,
  :SIGN CANDRABINDU,?ANUSVARA,?VISARGA,ARAMA,?AVAGRAHA,:DANDA,;OUBLE DANDA,:WORD SEPARATOR,
  :GAP FILLER-1,E2,!11C50,:DIGIT ZERO,@ONE,@TWO,AHREE,@FOUR,AIVE,@SIX,AEVEN,@EIGHT,@NINE,
  :NUMBER ONE,ATWO,BHREE,AFOUR,BIVE,ASIX,BEVEN,AEIGHT,ANINE,ATEN,BWENTY,BHIRTY,AFORTY,BIFTY,
  ASIXTY,BEVENTY,AEIGHTY,ANINETY,:HUNDREDS UNIT MARK,!11C70,0MARCHEN HEAD MARK,8MARK SHAD,
  8LETTER KA,@HA,?GA,?NGA,?CA,@HA,?JA,?NYA,?TA,@HA,?DA,?NA,?PA,@HA,?BA,?MA,?TSA,AHA,?DZA,?WA,?ZHA,
  @A,?-A,?YA,?RA,?LA,?SHA,@A,?HA,?A,!11C92,8SUBJOINED LETTER KA,JHA,IGA,INGA,ICA,JHA,IJA,INYA,ITA,
  JHA,IDA,INA,IPA,JHA,IBA,IMA,ITSA,KHA,IDZA,IWA,IZHA,JA,!11CA9,IYA,IRA,ILA,ISHA,JA,IHA,IA,
  8VOWEL SIGN AA,CI,CU,CE,CO,8SIGN ANUSVARA,=CANDRABINDU,!11D00,2SARAM GONDI LETTER A,FA,EI,FI,EU,
  FU,EE,!11D08,EAI,EO,!11D0B,EAU,EKA,FHA,EGA,FHA,ENGA,ECA,FHA,EJA,FHA,ENYA,ETTA,GHA,EDDA,GHA,ENNA,
  ETA,FHA,EDA,FHA,ENA,EPA,FHA,EBA,FHA,EMA,EYA,ERA,ELA,EVA,ESHA,FSA,FA,EHA,ELLA,EKSSA,EJNYA,ETRA,
  >VOWEL SIGN AA,II,JI,IU,JU,IVOCALIC R,!11D3A,IE,!11D3C,IAI,IO,!11D3F,IAU,>SIGN ANUSVARA,
  CVISARGA,CNUKTA,CCANDRA,CHALANTA,>VIRAMA,>REPHA,?A-KARA,!11D50,>DIGIT ZERO,DONE,DTWO,EHREE,
  DFOUR,EIVE,DSIX,EEVEN,DEIGHT,DNINE,!11D60,0GUNJALA GONDI LETTER A,FA,EI,FI,EU,FU,!11D67,EEE,EAI,
  !11D6A,EOO,EAU,EYA,EVA,EBA,FHA,EMA,EKA,FHA,ETA,FHA,ELA,EGA,FHA,EDA,FHA,ENA,ECA,FHA,ETTA,GHA,
  ELLA,EJA,FHA,EDDA,GHA,ENGA,EPA,FHA,EHA,ERA,ESA,>VOWEL SIGN AA,II,JI,IU,JU,!11D90,IEE,IAI,!11D93,
  IOO,IAU,>SIGN ANUSVARA,CVISARGA,>VIRAMA,>OM,!11DA0,>DIGIT ZERO,DONE,DTWO,EHREE,DFOUR,EIVE,DSIX,
  EEVEN,DEIGHT,DNINE,!11EE0,0MAKASAR LETTER KA,?GA,?NGA,?PA,?BA,?MA,?TA,?DA,?NA,?CA,?JA,?NYA,?YA,
  ?RA,?LA,?VA,?SA,?A,8ANGKA,8VOWEL SIGN I,CU,CE,CO,8PASSIMBANG,8END OF SECTION,!11FB0,
  0LISU LETTER YHA,!11FC0,0TAMIL FRACTION ONE THREE-HUNDRED-AND-TWENTIETH,
  CONE-HUNDRED-AND-SIXTIETH,CEIGHTIETH,CSIXTY-FOURTH,CFORTIETH,CTHIRTY-SECOND,?THREE EIGHTIETHS,
  ESIXTY-FOURTHS,?ONE TWENTIETH,CSIXTEENTH-1,M2,CTENTH,CEIGHTH,?THREE TWENTIETHS,ESIXTEENTHS,
  ?ONE FIFTH,CQUARTER,CHALF-1,H2,?THREE QUARTERS,?DOWNSCALING FACTOR KIIZH,6SIGN NEL,;CEVITU,
  ;AAZHAAKKU,;UZHAKKU,;MUUVUZHAKKU,;KURUNI,;PATHAKKU,;MUKKURUNI,;KAACU,;PANAM,<ON,;VARAAKAN,
  ;PAARAM,;KUZHI,;VELI,6WET CULTIVATION SIGN,6DRY CULTIVATION SIGN,6LAND SIGN,6SALT PAN SIGN,
  6TRADITIONAL CREDIT SIGN,BNUMBER SIGN,6CURRENT SIGN,6AND ODD SIGN,6SPENT SIGN,6TOTAL SIGN,
  6IN POSSESSION SIGN,6STARTING FROM SIGN,7IGN MUTHALIYA,;VAKAIYARAA,!11FFF,
  6PUNCTUATION END OF TEXT,0CUNEIFORM SIGN A,@ TIMES A,GBAD,GGAN2 TENU,GHA,GIGI,GLAGAR GUNU,GMUSH,
  GSAG,@2,@B,A TIMES ASH2,HDUN3 GUNU,HGAL,JN2 TENU,HHA,HIGI GUNU,IMIN,HLAGAB,HSHESH,
  HU PLUS U PLUS U,BGUNU,A2,B TIMES BALAG,IGAN2 TENU,IME PLUS EN,ISHA3,ITAK4,@D,@K,A TIMES ERIN2,
  HSHITA PLUS GISH,@L,A TIMES AL,HDIM2,HGISH,HHA,HKAD3,II,HSHE,HUSH,AAN,AEPH,@MAR,C TIMES SHE,@N,
  A OVER AN,BTHREE TIMES,BPLUS NAGA OPPOSING AN PLUS NAGA,LSQUARED,ASHE,@PIN,@RAD,C TIMES KUR,
  AKAB,@SAL2,AH,B ZIDA TENU,CKABA TENU,COVER ASH TUG2 OVER TUG2 TUG2 OVER TUG2 PAP,LOVER ASH,
  T CROSSING ASH OVER ASH OVER ASH,B2,BGAB,?BA,AD,AG3,AHAR2,AL,B OVER BAL,BAG,AR,BA2,@I,A TIMES A,
  HGAR,HIGI GUNU,@U,A OVER BU AB,JUN,BCROSSING BU,ALUG,D OVER BULUG,AR,B2,?DA,AG,
  B KISIM5 TIMES A PLUS MASH,QMAR,PBALAG,QI,PGA,R PLUS MASH,QI,RR2,QUD,PHA,PIR,R PLUS LU,PKAK,PLA,
  QU,R PLUS MASH2,RM,PNE,PPAP PLUS PAP,PSI,PTAK4,PU2 PLUS GIR2,QSH,AM,AR,BA3,C4,@I,AB,AM,
  B TIMES SHE,B2,AN,B KASKAL U GUNU DISH,ASH,@U,A OVER DU,BGUNU,BSHESHIG,AB,B TIMES ESH2,B2,AG,
  BUD,AH,AN,B3,C GUNU,H GUNU,B4,AR2,?E,@ TIMES PAP,AOVER E NUN OVER NUN,@2,
  A TIMES A PLUS HA PLUS DA,HGAR,HMI,HSAL,IHE,HU,@DIN,@GIR,@L,@N,A TIMES GAN2,L TENU,HME,
  BCROSSING EN,BOPPOSING EN,BSQUARED,@REN,AIN2,@SH2,@ZEN,C TIMES A,K PLUS LAL,T TIMES LAL,KN,JBAD,
  JDUN3 GUNU,S GUNU,JHA,L GUNU,JIGI GUNU,JKASKAL,P SQUARED,KU3,JLA,LL TIMES LAL,KI,KU,JU2,KD,?GA,
  A GUNU,A2,B TIMES A PLUS DA PLUS HA,PHA,PIGI,JB2 TENU PLUS TAB,JN,JSH,L2 PLUS GAL,IBAD,
  KR PLUS RA,JUR,L PLUS RA,IDA,JI,KM TIMES SHE,JUB,IEL,K PLUS LA,JN,K TIMES GAN2 TENU,IGAN2 TENU,
  KR,JI,K4,L PLUS A,KR2 PLUS SU,IHA PLUS LU PLUS ESH2,KL,L PLUS LA,JI PLUS LI,JUB2,IIGI GUNU,
  JSH PLUS HU PLUS ASH,IKAK,KSKAL,JID,L PLUS LAL,JU3 PLUS AN,ILA,IME PLUS EN,JI,INUN,L OVER NUN,
  IPA,ISAL,KR,JHE,L PLUS TUR,KID,JUM,ITAK4,IU,JD,K PLUS DU,COVER GA2,ABA,C CROSSING GABA,AD,
  B OVER GAD GAR OVER GAR,AL,B GAD OVER GAD GAR OVER GAR,BAM,AM,AN,B2,C TENU,DOVER GAN2,
  DCROSSING GAN2,AR,B3,ASHAN,@ESHTIN,F TIMES KUR,@I,A TIMES E,HU,BCROSSING GI,A4,B OVER GI4,
  CCROSSING GI4,ADIM,AR2,C GUNU,B3,C TIMES A PLUS IGI,JGAN2 TENU,JIGI,JLU PLUS IGI,JPA,ASAL,BH,
  C CROSSING GISH,DTIMES BAD,JTAK4,EENU,@U,A CROSSING GU,A2,B TIMES KAK,L TIMES IGI GUNU,INUN,
  ISAL PLUS TUG2,CGUNU,AD,B TIMES A PLUS KUR,IKUR,COVER GUD LUGAL,AL,AM,B TIMES SHE,AR,B7,BUN,CSH,
  ?HA,A TENU,BGUNU,AL,@I,A TIMES ASH,K2,HBAD,HDISH,HGAD,HKIN,HNUN,HSHE,HU,@U,AB2,C TIMES AN,JHAL,
  JKASKAL,JLISH,JUD,AL2,?I,@ A,@B,@DIM,C OVER IDIM BUR,NSQUARED,@G,AI,B DIB,CRI,
  COVER IGI SHIR OVER SHIR UD OVER UD,CGUNU,@L,A TIMES GAN2 TENU,A2,@M,A TIMES TAK4,BCROSSING IM,
  BOPPOSING IM,BSQUARED,AIN,@N,@R,@SH,?KA,A TIMES A,ID,J PLUS KU3,ISH2,HBAD,JLAG,JR,II,HERIN2,
  ISH2,HGA,JL,JN2 TENU,JR,K PLUS SHA3 PLUS A,II,JR2,JSH PLUS SAR,MCROSSING GISH,IU,JR7,HIGI,IM,
  HKAK,II,JD,HLI,IU,HME,J PLUS DU,PGI,PTE,II,J PLUS NUNUZ,HNE,IUN,HPI,HRU,HSA,JR,IHA,JE,JID,JU,
  IIG,IUHUR,HTAR,HU,I2,ID,IMUM TIMES PA,ISH,HZI,A2,B CROSSING KA2,AB,AD2,B3,B4,B5,C OVER KAD5,AK,
  B TIMES IGI GUNU,AL,B TIMES BAD,CCROSSING KAL,AM2,B4,ASKAL,E LAGAB TIMES U OVER LAGAB TIMES U,
  FOVER KASKAL LAGAB TIMES U OVER LAGAB TIMES U,@ESH2,@I,A TIMES BAD,HU,ID,AD,AN,ASAL,BH,BIM5,
  E OVER KISIM5,@U,A OVER HI TIMES ASH2 KU OVER HI TIMES ASH2,A3,A4,B VARIANT FORM,A7,AL,B GUNU,
  AN,AR,B OPPOSING KUR,ASHU2,@WU318,?LA,AGAB,D TIMES A,L PLUS DA PLUS HA,RGAR,RLAL,LL,LN,
  LSH ZIDA TENU,KBAD,LI,KDAR,KEN,KGA,MR,LUD,N PLUS GUD,KHA,ML,LI TIMES NUN,KIGI GUNU,LM,M PLUS HA,
  SLU,KKI,MN,LU3,ML,N PLUS HI PLUS A,KLAGAB,LISH,LU,ML,KME,M PLUS EN,LUSH,KNE,KSHE PLUS SUM,
  MITA PLUS GISH PLUS ERIN2,[TENU,MU2,O PLUS SHU2,LUM,KTAG,MK4,LE PLUS A PLUS SU PLUS NA,KU,
  L PLUS A,RU PLUS U,L2 PLUS ASH,LD,LSH,ESQUARED,CR,D TIMES SHE,N PLUS SUM,EGUNU,
  I OVER LAGAR GUNU SHE,AHSHU,AL,B TIMES LAL,AM,B TIMES KUR,L PLUS RU,@I,AL,AMMU2,ASH,@U,
  A TIMES BAD,A2,B TIMES AL,IBAD,IESH2,M TENU,IGAN2 TENU,IHI TIMES BAD,IIM,IKAD2,L3,M PLUS ASH,JI,
  ILA PLUS ASH,KGAB,IME PLUS EN,INE,JU,ISI PLUS ASH,KK2 PLUS BU,ITUG2,DENU,CCROSSING LU2,
  COPPOSING LU2,CSQUARED,DHESHIG,A3,AGAL,D OVER LUGAL,FPPOSING LUGAL,ESHESHIG,AH,AL,AM,B OVER LUM,
  K GAR OVER GAR,?MA,A TIMES TAK4,BGUNU,A2,AH,AR,ASH,C2,@E,AS,@I,AN,@U,A OVER MU,AG,B GUNU,ANSUB,
  ARGU2,ASH,C TIMES A,JKUR,JZA,DOVER MUSH,M TIMES A PLUS NA,DCROSSING MUSH,C3,D TIMES A,L PLUS DI,
  KDI,EGUNU,?NA,A2,AGA,C INVERTED,DTIMES SHU TENU,DOPPOSING NAGA,CR,AM NUTILLU,B,B2,@E,A TIMES A,
  HUD,BSHESHIG,@I,A TIMES E,A2,AM,B TIMES GAN2 TENU,KR PLUS GAN2 TENU,ANDA2,E TIMES AN,MSH,
  O PLUS ASH,LGUD,LME PLUS GAN2 TENU,LNE,MUN,LSHE,O PLUS A AN,VSH,X PLUS ASH,LU2 PLUS ASH,MSH,
  ASAG,@U,A11,AN,B LAGAR TIMES GAR,OMASH,OSAL,R OVER NUN LAGAR TIMES SAL,OUSH,CTENU,COVER NUN,
  CCROSSING NUN,O LAGAR OVER LAGAR,BUZ,D AB2 TIMES ASHGAB,OBI,ODUG,OGUD,OIGI GUNU,OKAD3,OLA,ONE,
  OSILA3,OU2,EKISIM5 TIMES BI,T U,?PA,AD,AN,AP,@ESH2,@I,A TIMES A,IB,HBI,IU,HE,HI,IB,HU,I2,
  BCROSSING PI,ARIG,D TIMES KAL,KUD,KZA,EOPPOSING PIRIG,?RA,AB,@I,@U,?SA,AG NUTILLU,B,B TIMES A,
  IDU,KB,IHA,IKAK,JUR,ILUM,IMI,INUN,ISAL,JHID,ITAB,IU2,JB,JM,JR,JSH,COVER SAG,CGUNU,AL,
  B LAGAB TIMES ASH2,ANGA2,AR,@HA,B3,C TIMES A,JBAD,JGISH,JNE,JSHU2,JTUR,JU,K PLUS A,B6,BB6,BR2,
  AE,B HU,COVER SHE GAD OVER GAD GAR OVER GAR,LTAB OVER TAB GAR OVER GAR,BG9,BN,BSH,D2,DLAM,AID,
  C TIMES A,JIM,BM,C TIMES A,JBAL,KULUG,JDIN,JGAR,JIGI,M GUNU,JKUSHU2,JLUL,JMUG,JSAL,BNIG,BR,
  C TENU,DOVER SHIR BUR OVER BUR,BTA,AU,B OVER INVERTED SHU,B2,BBUR,@I,A GUNU,AG,B4,
  C OVER SIG4 SHU2,AK2,ALA3,@U,A OVER SU,AD,B2,AHUR,AM,BASH,AR,B9,?TA,A ASTERISK,BTIMES HI,HMI,
  BGUNU,AB,B OVER TAB NI OVER NI DISH OVER DISH,CSQUARED,AG,B TIMES BI,IGUD,ISHE,KU,ITUG2,IUD,AK4,
  AR,@E,A GUNU,@I,A TENU,AL,AR,B TIMES TAK4,COVER TIR,K GAD OVER GAD GAR OVER GAR,@U,AG2,AK,AM,AR,
  B OVER TUR ZA OVER ZA,?U,@ GUD,AU U,AOVER U PA OVER PA GAR OVER GAR,HSUR OVER SUR,
  HU REVERSED OVER U REVERSED,@2,@B,@D,A KUSHU2,BTIMES BAD,HMI,HU PLUS U PLUS U,W GUNU,BGUNU,
  BSHESHIG,I TIMES BAD,AUG,@M,A TIMES LAGAB,HME PLUS DA,HSHA3,HU,ABIN,AUM,C TIMES KASKAL,JPA,@N,
  A GUNU,@R,A CROSSING UR,BSHESHIG,A2,B TIMES A PLUS HA,PNA,JL,IHA,INUN,IU2,K PLUS ASH,QBI,A4,AI,
  B3,AU,B TIMES A,JSHGAB,IBAR,IDUN,IGA,KL,KN2 TENU,KR,JU,IHA,IIGI,JM,JSH,IKI,ILUM,IMIN,IPA,ISHE,
  JIG4,ITU,IU PLUS GUD,JD,JRUDA,BDA,D TIMES U,@SH,B TIMES A,IKU,KR,ITAK4,BX,B2,BUMX,@TUKI,@Z3,
  B TIMES KASKAL,AU,?ZA,A TENU,BSQUARED TIMES KUR,AG,AMX,@E2,@I,A OVER ZI,A3,AB,B KABA TENU,AG,
  AZ2,@U,A5,B TIMES A,ABUR,AM,?KAP ELAMITE,?AB TIMES NUN,A2 TIMES A,@MAR TIMES KUG,
  ?DAG KISIM5 TIMES U2 PLUS MASH,B3,@ISH PLUS SHU,@UB TIMES SHE,?EZEN TIMES GUD,JSHE,
  ?GA2 TIMES AN PLUS KAK PLUS A,JSH2,@E22,@IG,?HUSH,?KA TIMES ANSHE,ISH3,HGISH,IUD,HHI TIMES ASH2,
  HLUM,HPA,HSHUL,HTU,HUR2,?LAGAB TIMES GI,@U2 SHESHIG TIMES BAD,CTIMES ESH2 PLUS LAL,ISHU,?MESH,
  @USH3 TIMES ZA,?NA4,@IN,B9,BDA2 TIMES BAL,LGI,@U11 ROTATED NINETY DEGREES,?PESH2 ASTERISK,@IR2,
  ?SAG TIMES IGI GUNU,?TI2,?UM TIMES ME,@ U,!12400,:NUMERIC SIGN TWO ASH,HHREE ASH,GFOUR ASH,
  HIVE ASH,GSIX ASH,HEVEN ASH,GEIGHT ASH,GNINE ASH,GTHREE DISH,GFOUR DISH,HIVE DISH,GSIX DISH,
  HEVEN DISH,GEIGHT DISH,GNINE DISH,GFOUR U,HIVE U,GSIX U,HEVEN U,GEIGHT U,GNINE U,GONE GESH2,
  GTWO GESH2,HHREE GESH2,GFOUR GESH2,HIVE GESH2,GSIX GESH2,HEVEN GESH2,GEIGHT GESH2,GNINE GESH2,
  GONE GESHU,GTWO GESHU,HHREE GESHU,GFOUR GESHU,HIVE GESHU,GTWO SHAR2,HHREE SHAR2,R VARIANT FORM,
  GFOUR SHAR2,HIVE SHAR2,GSIX SHAR2,HEVEN SHAR2,GEIGHT SHAR2,GNINE SHAR2,GONE SHARU,GTWO SHARU,
  HHREE SHARU,R VARIANT FORM,GFOUR SHARU,HIVE SHARU,GSHAR2 TIMES GAL PLUS DISH,[ MIN,GONE BURU,
  GTWO BURU,HHREE BURU,Q VARIANT FORM,GFOUR BURU,HIVE BURU,GTHREE VARIANT FORM ESH16,[SH21,
  GFOUR VARIANT FORM LIMMU,[MMU4,[MMU A,[MMU B,GSIX VARIANT FORM ASH9,HEVEN VARIANT FORM IMIN3,
  [MIN A,[MIN B,GEIGHT VARIANT FORM USSU,[SSU3,GNINE VARIANT FORM ILIMMU,[IMMU3,[IMMU4,[IMMU A,
  GTWO ASH TENU,HHREE ASH TENU,GFOUR ASH TENU,HIVE ASH TENU,GSIX ASH TENU,GONE BAN2,GTWO BAN2,
  HHREE BAN2,GFOUR BAN2,P VARIANT FORM,HIVE BAN2,P VARIANT FORM,GNIGIDAMIN,MESH,GONE ESHE3,
  GTWO ESHE3,GONE THIRD DISH,GTWO THIRDS DISH,GFIVE SIXTHS DISH,GONE THIRD VARIANT FORM A,
  GTWO THIRDS VARIANT FORM A,GONE EIGHTH ASH,KQUARTER ASH,HLD ASSYRIAN ONE SIXTH,XQUARTER,
  HNE QUARTER GUR,KHALF GUR,GELAMITE ONE THIRD,OTWO THIRDS,OFORTY,PIFTY,GFOUR U VARIANT FORM,
  HIVE U VARIANT FORM,GSIX U VARIANT FORM,HEVEN U VARIANT FORM,GEIGHT U VARIANT FORM,
  GNINE U VARIANT FORM,!12470,:PUNCTUATION SIGN OLD ASSYRIAN WORD DIVIDER,KVERTICAL COLON,
  KDIAGONAL COLON,TTRICOLON,TQUADCOLON,!12480,:SIGN AB TIMES NUN TENU,HSHU2,@D TIMES ESH2,
  ?BAD TIMES DISH TENU,AHAR2 TIMES AB2,LNI,LZA,@U OVER BU TIMES NA2,?DA TIMES TAK4,AG TIMES KUR,
  @IM TIMES IGI,IU U U,B2 TIMES UD,@UG TIMES ANSHE,JSH,L AT LEFT,IDIN,JUN,IERIN2,IGA,JI,KR2 GUNU,
  KSH,IHA,JI,IIGI GUNU,IKASKAL,JUR,KSHU2,O PLUS KASKAL,ILAK-020,KM,L TIMES KUR,JUH PLUS GISH,
  IMASH,JES,JI,INI,IPI,ISHE,JI GUNU,?E2 TIMES KUR,HPAP,@RIN2 X,@SH2 CROSSING ESH2,
  @ZEN SHESHIG TIMES ASH,RHI,RIGI GUNU,RLA,TL,RME,TS,RSU,DTIMES SU,?GA2 TIMES BAHAR2,IDIM GUNU,
  JUG TIMES IGI GUNU,SKASKAL,IEREN,IGA,KR PLUS DI,RNE,IHA PLUS A,IKUSHU2 PLUS KASKAL,ILAM,
  L TIMES KUR,JUH,IMUSH,INE,K PLUS E2,QGI,ISHIM,IZIZ2,ABA ROTATED NINETY DEGREES,@ESHTIN TIMES U,
  @ISH TIMES GISH CROSSING GISH,@U2 TIMES IGI GUNU,AD PLUS GISH TIMES TAK4,?HA TENU GUNU,
  @I TIMES ASH OVER HI TIMES ASH,?KA TIMES BU,HKA,HU U U,IR,?LAGAB TIMES ZU OVER ZU,AK-003,D21,E5,
  D30,D50,E1,D62,D79 OVER LAK-079 GUNU,D80,E1 OVER LAK-081,D92,C130,D42,C210,E9,D20,E5,E8,D38,D65,
  E6,C343,E7,E8,D83,E4,D90,C441,E9,F TIMES GU,MIGI,MPAP PLUS LU3,VPAP PLUS LU3,MU2 PLUS BA,D50,E7,
  D70,D83,D90,E2,E3,E5,C550,C608,D17,F TIMES ASH,MBAD,MDUN3 GUNU GUNU,MKU3,MLA,MTAR,NE,MU2,ND,
  NRUDA,D36,D48,F TIMES DUB,MGA,MIGI,P GUNU,MNI,MPAP PLUS PAP PLUS LU3,MSHESH PLUS KI,MUD,NRUDA,
  C724,D49,@U2 GUNU TIMES ASH,CTIMES DISH,IHAL,IPAP,L PLUS PAP PLUS LU3,ITAK4,?MI PLUS ZA7,
  @USH OVER MUSH TIMES GA,TKAK,?NINDA2 TIMES DIM GUNU,LGISH,MUL,LHI,LKESH2,LLAK-050,LMASH,
  LPAP PLUS PAP,LU,M PLUS U,MRUDA,?SAG GUNU TIMES HA,CTIMES EN,ISHE AT LEFT,ITAK4,@HA6 TENU,
  AE OVER SHE,CPLUS HUB2,HNAM2,HSAR,AU2 PLUS DUG TIMES NI,IE2 TIMES AN,@I TIMES TAK4,
  ?TAK4 PLUS SAG,@UM TIMES GAN2 TENU,ITHREE DISH,?UR2 INVERTED,CTIMES UD,AU TIMES DARA3,ILAK-668,
  JU3,?ZA7,@U OVER ZU PLUS SAR,A5 TIMES THREE DISH TENU,!12F90,1YPRO-MINOAN SIGN CM001,F2,F4,F5,
  F6,F7,F8,F9,E10,F1,F2,GB,F3,F5,F7,F9,E21,F3,F4,F5,F6,F7,F8,F9,E30,F3,F4,F5,F6,F7,F8,F9,E40,F1,
  F4,F6,F7,F9,E50,F1,F2,F3,F4,F5,F6,F8,F9,E60,F1,F2,F3,F4,F6,F7,F8,F9,E70,F1,F2,F3,F4,F5,GB,F6,F8,
  F9,E80,F1,F2,F3,F4,F5,F6,F7,F8,F9,E90,F1,F2,F4,F5,F6,F7,F8,F9,D100,F1,F2,F3,F4,F5,F7,F8,F9,E10,
  F2,F4,D301,F2,!13000,0EGYPTIAN HIEROGLYPH A001,G2,G3,G4,G5,HA,G6,HA,HB,G7,G8,G9,F10,G1,G2,G3,G4,
  HA,G5,G6,G7,HA,G8,G9,F20,G1,G2,G3,G4,G5,G6,G7,G8,G9,F30,G1,G2,HA,G3,G4,G5,G6,G7,G8,G9,F40,HA,G1,
  G2,HA,G3,HA,G4,G5,HA,G6,G7,G8,G9,F50,G1,G2,G3,G4,G5,G6,G7,G8,G9,F60,G1,G2,G3,G4,G5,G6,G7,G8,G9,
  F70,DB001,G2,G3,G4,G5,HA,G6,G7,G8,G9,DC001,G2,HA,HB,HC,G3,G4,G5,G6,G7,G8,G9,F10,HA,G1,G2,G3,G4,
  G5,G6,G7,G8,G9,F20,G1,G2,G3,G4,DD001,G2,G3,G4,G5,G6,G7,G8,HA,G9,F10,G1,G2,G3,G4,G5,G6,G7,G8,G9,
  F20,G1,G2,G3,G4,G5,G6,G7,HA,G8,G9,F30,G1,HA,G2,G3,G4,HA,G5,G6,G7,G8,G9,F40,G1,G2,G3,G4,G5,G6,HA,
  G7,G8,HA,G9,F50,HA,HB,HC,HD,HE,HF,HG,HH,HI,G1,G2,HA,G3,G4,HA,G5,G6,G7,G8,G9,F60,G1,G2,G3,G4,G5,
  G6,G7,HA,HB,HC,HD,HE,HF,HG,HH,DE001,G2,G3,G4,G5,G6,G7,G8,HA,G9,HA,F10,G1,G2,G3,G4,G5,G6,HA,G7,
  HA,G8,G9,F20,HA,G1,G2,G3,G4,G5,G6,G7,G8,HA,G9,F30,G1,G2,G3,G4,HA,G6,G7,G8,DF001,HA,G2,G3,G4,G5,
  G6,G7,G8,G9,F10,G1,G2,G3,HA,G4,G5,G6,G7,G8,G9,F20,G1,HA,G2,G3,G4,G5,G6,G7,G8,G9,F30,G1,HA,G2,G3,
  G4,G5,G6,G7,HA,G8,HA,G9,F40,G1,G2,G3,G4,G5,HA,G6,HA,G7,HA,G8,G9,F50,G1,HA,HB,HC,G2,G3,DG001,G2,
  G3,G4,G5,G6,HA,G7,HA,HB,G8,G9,F10,G1,HA,G2,G3,G4,G5,G6,G7,G8,G9,F20,HA,G1,G2,G3,G4,G5,G6,HA,G7,
  G8,G9,F30,G1,G2,G3,G4,G5,G6,HA,G7,HA,G8,G9,F40,G1,G2,G3,HA,G4,G5,HA,G6,G7,G8,G9,F50,G1,G2,G3,G4,
  DH001,G2,G3,G4,G5,G6,HA,G7,G8,DI001,G2,G3,G4,G5,HA,G6,G7,G8,G9,HA,F10,HA,G1,HA,G2,G3,G4,G5,
  DK001,G2,G3,G4,G5,G6,G7,G8,DL001,G2,HA,G3,G4,G5,G6,HA,G7,G8,DM001,HA,HB,G2,G3,HA,G4,G5,G6,G7,G8,
  G9,F10,HA,G1,G2,HA,HB,HC,HD,HE,HF,HG,HH,G3,G4,G5,HA,G6,HA,G7,HA,G8,G9,F20,G1,G2,HA,G3,G4,HA,G5,
  G6,G7,G8,HA,G9,F30,G1,HA,G2,G3,HA,HB,G4,G5,G6,G7,G8,G9,F40,HA,G1,G2,G3,G4,DN001,G2,G3,G4,G5,G6,
  G7,G8,G9,F10,G1,G2,G3,G4,G5,G6,G7,G8,HA,HB,G9,F20,G1,G2,G3,G4,G5,HA,G6,G7,G8,G9,F30,G1,G2,G3,HA,
  G4,HA,G5,HA,G6,G7,HA,G8,G9,F40,G1,G2,EL001,H2,H3,H4,H5,IA,H6,H7,H8,H9,G10,H1,H2,H3,H4,H5,H6,H7,
  IA,H8,H9,G20,EU001,H2,H3,H4,H5,H6,H7,H8,H9,G10,IA,H1,IA,H2,H3,H4,H5,H6,H7,H8,IA,H9,G20,H1,H2,IA,
  DO001,HA,G2,G3,G4,G5,HA,G6,HA,HB,HC,HD,HE,HF,G7,G8,G9,F10,HA,HB,HC,G1,G2,G3,G4,G5,G6,G7,G8,G9,
  HA,F20,HA,G1,G2,G3,G4,HA,G5,HA,G6,G7,G8,G9,HA,F30,HA,G1,G2,G3,HA,G4,G5,G6,HA,HB,HC,HD,G7,G8,G9,
  F40,G1,G2,G3,G4,G5,G6,G7,G8,G9,F50,HA,HB,G1,DP001,HA,G2,G3,HA,G4,G5,G6,G7,G8,G9,F10,G1,DQ001,G2,
  G3,G4,G5,G6,G7,DR001,G2,HA,G3,HA,HB,G4,G5,G6,G7,G8,G9,F10,HA,G1,G2,G3,G4,G5,G6,HA,G7,G8,G9,F20,
  G1,G2,G3,G4,G5,G6,G7,G8,G9,DS001,G2,HA,G3,G4,G5,G6,HA,G7,G8,G9,F10,G1,G2,G3,G4,HA,HB,G5,G6,G7,
  HA,G8,G9,F20,G1,G2,G3,G4,G5,G6,HA,HB,G7,G8,G9,F30,G1,G2,G3,G4,G5,HA,G6,G7,G8,G9,F40,G1,G2,G3,G4,
  G5,G6,DT001,G2,G3,HA,G4,G5,G6,G7,HA,G8,HA,G9,HA,F10,G1,HA,G2,G3,G4,G5,G6,HA,G7,G8,G9,F20,G1,G2,
  G3,G4,G5,G6,G7,G8,G9,F30,G1,G2,HA,G3,HA,G4,G5,G6,DU001,G2,G3,G4,G5,G6,HA,HB,G7,G8,G9,F10,G1,G2,
  G3,G4,G5,G6,G7,G8,G9,F20,G1,G2,G3,HA,G4,G5,G6,G7,G8,G9,HA,F30,G1,G2,HA,G3,G4,G5,G6,G7,G8,G9,F40,
  G1,G2,DV001,HA,HB,HC,HD,HE,HF,HG,HH,HI,G2,HA,G3,G4,G5,G6,G7,HA,HB,G8,G9,F10,G1,HA,HB,HC,G2,HA,
  HB,G3,G4,G5,G6,G7,G8,G9,F20,HA,HB,HC,HD,HE,HF,HG,HH,HI,HJ,HK,HL,G1,G2,G3,HA,G4,G5,G6,G7,G8,HA,
  G9,HA,F30,HA,G1,HA,G2,G3,HA,G4,G5,G6,G7,HA,G8,G9,F40,HA,DW001,G2,G3,HA,G4,G5,G6,G7,G8,G9,HA,F10,
  HA,G1,G2,G3,G4,HA,G5,G6,G7,HA,G8,HA,G9,F20,G1,G2,G3,G4,HA,G5,DX001,G2,G3,G4,HA,HB,G5,G6,HA,G7,
  G8,HA,DY001,HA,G2,G3,G4,G5,G6,G7,G8,DZ001,G2,HA,HB,HC,HD,G3,HA,HB,G4,HA,G5,HA,G6,G7,G8,G9,F10,
  G1,G2,G3,G4,G5,HA,HB,HC,HD,HE,HF,HG,HH,HI,G6,HA,HB,HC,HD,HE,HF,HG,HH,DAA001,H2,H3,H4,H5,H6,H7,
  IA,IB,H8,H9,G10,H1,H2,H3,H4,H5,H6,H7,H8,H9,G20,H1,H2,H3,H4,H5,H6,H7,H8,H9,G30,H1,H2,!13430,
  DVERTICAL JOINER,DHORIZONTAL JOINER,DINSERT AT TOP START,NBOTTOM START,NTOP END,NBOTTOM END,
  DOVERLAY MIDDLE,DBEGIN SEGMENT,DEND SEGMENT,!14400,0ANATOLIAN HIEROGLYPH A001,H2,H3,H4,H5,H6,H7,
  H8,H9,G10,IA,H1,H2,H3,H4,H5,H6,H7,H8,H9,G20,H1,H2,H3,H4,H5,H6,IA,H7,H8,H9,G30,H1,H2,H3,H4,H5,H6,
  H7,H8,H9,IA,G40,H1,IA,H2,H3,H4,H5,IA,H6,IA,IB,H7,H8,H9,G50,H1,H2,H3,H4,H5,H6,H7,H8,H9,G60,H1,H2,
  H3,H4,H5,H6,IA,IB,IC,H7,H8,H9,G70,H1,H2,H3,H4,H5,H6,H7,H8,H9,G80,H1,H2,H3,H4,H5,H6,H7,H8,H9,G90,
  H1,H2,H3,H4,H5,H6,H7,IA,H8,IA,H9,F100,IA,H1,IA,H2,IA,H3,H4,IA,IB,IC,H5,IA,IB,H6,H7,IA,IB,IC,H8,
  H9,G10,IA,IB,H1,H2,H3,H4,H5,IA,H6,H7,H8,H9,G20,H1,H2,H3,H4,H5,IA,H6,H7,H8,H9,G30,H1,H2,H3,H4,H5,
  IA,H6,H7,H8,H9,G40,H1,H2,H3,H4,H5,H6,H7,H8,H9,G50,H1,H2,H3,H4,H5,H6,H7,H8,H9,G60,H1,H2,H3,H4,H5,
  H6,H7,H8,H9,G70,H1,H2,H3,H4,H5,H6,H7,H8,H9,G80,H1,H2,H3,H4,H5,H6,H7,H8,H9,G90,H1,H2,H3,H4,H5,H6,
  H7,H8,H9,F200,H1,H2,IA,IB,H3,H4,H5,H6,H7,IA,H8,H9,IA,G10,H1,H2,H3,H4,H5,IA,H6,IA,H7,H8,H9,G20,
  H1,H2,H3,H4,H5,H6,H7,IA,H8,H9,G30,H1,H2,H3,H4,H5,H6,H7,H8,H9,G40,H1,H2,H3,H4,H5,H6,H7,H8,H9,G50,
  H1,H2,H3,H4,H5,H6,H7,H8,H9,G60,H1,H2,H3,H4,H5,H6,H7,IA,H8,H9,G70,H1,H2,H3,H4,H5,H6,H7,H8,H9,G80,
  H1,H2,H3,H4,H5,H6,H7,H8,H9,IA,G90,H1,H2,H3,H4,IA,H5,H6,H7,H8,H9,IA,F300,H1,H2,H3,H4,H5,H6,H7,H8,
  H9,IA,G10,H1,H2,H3,H4,H5,H6,H7,H8,H9,G20,H1,H2,H3,H4,H5,H6,H7,H8,H9,IA,G30,H1,H2A,IB,IC,H3,H4,
  H5,H6,IA,IB,IC,H7,H8,H9,G40,H1,H2,H3,H4,H5,H6,H7,H8,H9,G50,H1,H2,H3,H4,H5,H6,H7,H8,H9,IA,G60,H1,
  H2,H3,H4,IA,H5,H6,H7,H8,IA,H9,G70,H1,IA,H2,H3,H4,H5,H6,H7,H8,H9,G80,H1,IA,H2,H3 RA OR RI,IA,H4,
  H5,H6,IA,H7,H8,H9,G90,H1,H2,H3 EIGHT,H4,H5,H6,H7,H8,H9,F400,H1,H2,H3,H4,H5,H6,H7,H8,H9,
  G10 BEGIN LOGOGRAM MARK,IA END LOGOGRAM MARK,H1,H2,H3,H4,H5,H6,H7,H8,H9,G20,H1,H2,H3,H4,H5,H6,
  H7,H8,H9,G30,H1,H2,H3,H4,H5,H6,H7,H8,H9,G40,H1,H2,H3,H4,H5,H6,H7,H8,H9,G50,IA,H1,H2,H3,H4,H5,H6,
  H7,IA,H8,H9,G60,H1,H2,H3,H4,H5,H6,H7,H8,H9,G70,H1,H2,H3,H4,H5,H6,H7,H8,H9,G80,H1,H2,H3,H4,H5,H6,
  H7,H8,H9,G90,H1,H2,H3,H4,H5,H6,H7,F501,H2,H3,H4,H5,H6,H7,H8,H9,G10,H1,H2,H3,H4,H5,H6,H7,H8,H9,
  G20,H1,H2,H3,H4,H5,H6,H7,H8,H9,G30,!16800,0BAMUM LETTER PHASE-A NGKUE MFON,EGBIEE FON,
  EPON MFON PIPAEMGBIEE,TBA,ENAA MFON,ESHUENSHUET,ETITA MFON,ENZA MFON,ESHINDA PA NJI,
  EPON PA NJI PIPAEMGBIEE,VBA,EMAEMBGBIEE,ETU MAEMBA,ENGANGU,EMAEMVEUX,GNSUAE,FVEUAENGAM,ESEUNYAM,
  ENTOQPEN,EKEUKEUTNDA,ENKINDI,ESUU,ENGKUENZEUM,ELAPAQ,FET KUT,ENTAP MFAA,EMAEKEUP,EPASHAE,
  EGHEUAERAE,EPAMSHAE,EMON NGGEUAET,ENZUN MEUT,EU YUQ NAE,EGHEUAEGHEUAE,ENTAP NTAA,ESISA,EMGBASA,
  FEUNJOMNDEUQ,FOOMPUQ,EKAFA,EPA LEERAEWA,ENDA LEERAEWA,EPET,EMAEMKPEN,ENIKA,EPUP,ETUAEP,ELUAEP,
  ESONJAM,ETEUTEUWEN,EMAENYI,EKET,ENDAANGGEUAET,EKUOQ,EMOOMEUT,ESHUM,ELOMMAE,EFIRI,EROM,EKPOQ,
  ESOQ,EMAP PIEET,ESHIRAE,ENTAP,ESHOQ NSHUT YUM,ENYIT MONGKEUAEQ,EPAARAE,ENKAARAE,EUNKNOWN,ENGGEN,
  EMAESI,ENJAM,EMBANYI,ENYET,ETEUAEN,ESOT,EPAAM,ENSHIEE,EMAEM,ENYI,EKAQ,ENSHA,EVEE,ELU,ENEN,FAQ,
  EMBAQ,CB NSHUET,ETU MAEMGBIEE,ESIEE,FET TU,ELOM NTEUM,EMBA MAELEE,EKIEEM,EYEURAE,EMBAARAE,EKAM,
  EPEESHI,EYAFU LEERAEWA,ELAM NSHUT NYAM,ENTIEE SHEUOQ,FDU NJAA,EGHEUGHEUAEM,EPIT,ETU NSIEE,
  ESHET NJAQ,HUAEQTU,EMFON TEUAEQ,FBIT MBAAKET,ENYI NTEUM,EKEUPUQ,EGHEUGHEN,EKEUYEUX,ELAANAE,
  EPARUM,EVEUM,ENGKINDI MVOP,GGEU MBU,EWUAET,ESAKEUAE,ETAAM,EMEUQ,ENGGUOQ,K LARGE,EMFIYAQ,ESUE,
  EMBEURI,FONTIEEN,ENYAEMAE,EPUNGAAM,EMEUT NGGEET,EFEUX,EMBUOQ,EFEE,EKEUAEM,EMA NJEUAENA,JUQA,
  ELET,ENGGAAM,FSEN,EMA,EKIQ,ENGOM,CC NGKUE MAEMBA,FZA,EYUM,EWANGKUOQ,ENGGEN,FDEUAEREE,FGKAQ,
  EGHARAE,EMBEEKEET,EGBAYI,ENYIR MKPARAQ MEUN,FTU MBIT,EMBEUM,EPIRIEEN,ENDOMBU,EMBAA CABBAGE-TREE,
  EKEUSHEUAEP,EGHAP,EKEUKAQ,EYU MUOMAE,ENZEUM,EMBUE,ENSEUAEN,EMBIT,EYEUQ,EKPARAQ,FAA,ESEUX,ENDIDA,
  ETAASHAE,ENJUEQ,ETITA YUE,ESUAET,ENGGUAEN NYAM,EVEUX,ENANSANAQ,EMA KEUAERI,ENTAA,FGGUON,ELAP,
  EMBIRIEEN,FGBASAQ,ENTEUNGBA,ETEUTEUX,ENGGUM,EFUE,ENDEUT,FSA,GHAQ,EBUNG,EVEUAEPEN,EMBERAE,ERU,
  ENJAEM,ELAM,ETITUAEP,ENSUOT NGOM,FJEEEE,EKET,ENGGU,EMAESI,FBUAEM,ELU,EKUT,ENJAM,FGOM,EWUP,
  ENGGUEET,FSOM,FTEN,EKUOP NKAARAE,ENSUN,FDAM,EMA NSIEE,EYAA,ENDAP,ESHUEQ,FETFON,EMBI,FAEMBA,
  FBANYI,EKEUSEUX,EMBEUX,EKEUM,EMBAA PICKET,EYUWOQ,ENJEUX,EMIEE,FUAE,ESHIQ,EKEN LAW,IFATIGUE,
  ENGAQ,FAQ,ELIQ,EPIN,FEN,ETET,CD MBUO,EWAP,ENJI,EMFON,ENJIEE,ELIEE,ENJEUT,FSHEE,FGGAAMAE,FYAM,
  EWUAEN,ENGKUN,ESHEE,ENGKAP,EKEUAETMEUN,ETEUT,ESHEUAE,ENJAP,ESUE,EKET,EYAEMMAE,EKUOM,ESAP,EMFEUT,
  ENDEUX,EMALEERI,FEUT,ESEUAEQ,EYEN,ENJEUAEM,EKEUOT MBUAE,ENGKEURI,ETU,EGHAA,ENGKYEE,EFEUFEUAET,
  ENDEE,EMGBOFUM,ELEUAEP,ENDON,EMONI,FGBEUN,EPUUT,EMGBIEE,FFO,ELUM,ENSIEEP,EMBAA,EKWAET,ENYET,
  ETEUAEN,ESOT,EYUWOQ,EKEUM,ERAEM,ETEEEE,ENGKEUAEQ,EMFEUAE,ENSIEET,EKEUP,EPIP,FEUTAE,ENYUE,ELET,
  ENGGAAM,EMFIEE,ENGGWAEN,EYUOM,EPAP,EYUOP,ENDAM,FTEUM,ESUAE,EKUN,ENGGEUX,GKIEE,ETUOT,EMEUN,EKUQ,
  ENSUM,ETEUN,EMAENJET,ENGGAP,ELEUM,ENGGUOM,FSHUT,FJUEQ,EGHEUAE,EKU,EREN OLD,ETAE,FOQ,ENYI,ERII,
  ELEEEE,EMEEEE,F,ESUU,EMU,ESHII,GEUX,EKYEE,ENU,ESHU,ENTEE,EPEE,ENI,ESHOQ,EPUQ,EMVOP,ELOQ,
  EREN MUCH,ETI,ENTUU,EMBAA SEVEN,ESAQ,EFAA,CE NDAP,ETOON,EMBEUM,ELAP,EVOM,ELOON,EPAA,ESOM,ERAQ,
  ENSHUOP,FDUN,EPUAE,ETAM,ENGKA,EKPEUX,EWUO,ESEE,ENGGEUAET,EPAAM,ETOO,EKUOP,ELOM,ENSHIEE,FGOP,
  EMAEM,ENGKEUX,GOQ,FSHUE,ERIMGBA,ENJEUX,EPEEM,ESAA,ENGGURAE,EMGBA,EGHEUX,ENGKEUAEM,FJAEMLI,EMAP,
  ELOOT,ENGGEEEE,FDIQ,ETAEN NTEUM,ESET,EPUM,ENDAA SOFTNESS,FGGUAESHAE NYAM,EYIEE,EGHEUN,ETUAE,
  EYEUAE,EPO,ETUMAE,EKEUAE,ESUAEN,ETEUAEQ,EVEUAE,EWEUX,ELAAM,EPU,ETAAQ,EGHAAMAE,ENGEUREUT,
  ESHEUAEQ,EMGBEN,FBEE,ENZAQ,FKOM,EGBET,ETUM,EKUET,EYAP,ENYI CLEAVER,EYIT,EMFEUQ,ENDIAQ,EPIEEQ,
  EYUEQ,ELEUAEM,EFUE,EGBEUX,ENGKUP,EKET,EMAE,ENGKAAMI,EGHET,EFA,ENTUM,EPEUT,EYEUM,ENGGEUAE,
  FYI BETWEEN,FZUQ,EPOON,EMIEE,EFUET,ENAE,EMUAE,EGHEUAE,EFU I,EMVI,EPUAQ,ENGKUM,EKUT,EPIET,ENTAP,
  EYEUAET,ENGGUP,EPA PEOPLE,EFU CALL,FOM,ENJEE,EA,ETOQ,EO,EI,ELAQ,EPA PLURAL,ETAA,GQ,
  ENDAA MY HOUSE,ESHIQ,EYEUX,ENGUAE,EYUAEN,FOQ SWIMMING,ICOVER,FUQ,GN,EKEUX,EPEUX,ENJEE EPOCH,
  EPUE,EWUE,EFEE,EVEE,ELU,EMI,EREUX,FAE,ENGUAET,GA,ESHO,HQ,EFU REMEDY,ENA,EPI,ELOQ,EKO,EMEN,FA,GQ,
  ETEU,EKI,EMON,ETEN,EFAQ,EGHOM,CF KA,EU,EKU,EEE,EREE,ETAE,ENYI,ELA,ERII,GEE,EMEEEE,ETAA,ENDAA,
  FJAEM,EM,ESUU,FHII,FI,FEUX,EKYEE,FET,ENUAE,G,FJUAE,EYOQ,ESHU,EYA,ENSHA,EPEUX,ENTEE,EWUE,EPEE,
  ERU,ENI,EREUX,EKEN,ENGKWAEN,GGA,ESHO,EPUAE,EFOM,EWA,ELI,FOQ,EKO,EMBEN,EREN,EMA,FO,FBAA,ETET,
  EKPA,ESAMBA,EVUEQ,!16A40,0MRO LETTER TA,;NGI,;YO,;MIM,;BA,;DA,;A,;PHI,;KHAI,;HAO,;DAI,;CHU,
  ;KEAAE,;OL,;MAEM,;NIN,;PA,;OO,<,;RO,;SHI,;THEA,;EA,;WA,;E,;KO,;LAN,=,;HAI,;RI,;TEK,!16A60,
  4DIGIT ZERO,:ONE,:TWO,;HREE,:FOUR,;IVE,:SIX,;EVEN,:EIGHT,:NINE,!16A6E,5ANDA,5OUBLE DANDA,
  0TANGSA LETTER OZ,?C,?Q,?X,>AZ,?C,?Q,?X,>VZ,?C,?Q,?X,>EZ,?C,?Q,?X,>IZ,?C,?Q,?X,>UZ,?C,?Q,?X,
  >AWZ,@C,@Q,@X,>UIZ,@C,@Q,@X,>FINAL NG,>LONG UEX,>SHORT UEZ,DAWX,>UEC,@Z,@Q,@X,?IUZ,AC,AQ,AX,>MZ,
  ?C,?Q,?X,>KA,?HA,>GA,>NGA,>SA,>YA,>WA,>PA,>NYA,>PHA,>BA,>MA,>NA,>HA,>LA,>HTA,>TA,>DA,>RA,>NHA,
  >SHA,>CA,>TSA,>GHA,>HTTA,>THA,>XA,>FA,>DHA,>CHA,>ZA,!16AC0,7DIGIT ZERO,=ONE,=TWO,>HREE,=FOUR,
  >IVE,=SIX,>EVEN,=EIGHT,=NINE,!16AD0,0BASSA VAH LETTER ENNI,AKA,ASE,AFA,AMBE,AYIE,AGAH,ADHII,
  AKPAH,AJO,AHWAH,AWA,AZO,AGBU,ADO,ACE,AUWU,ATO,ABA,AVU,AYEIN,APA,AWADDA,AA,AO,BO,AU,AEE,B,AI,
  !16AF0,:COMBINING HIGH TONE,DLOW TONE,DMID TONE,DLOW-MID TONE,DHIGH-LOW TONE,:FULL STOP,!16B00,
  0PAHAWH HMONG VOWEL KEEB,FV,DIB,EV,DAUB,FV,DUB,EV,DEB,EV,DAIB,FV,DOOB,FV,DAWB,FV,DUAB,FV,DOB,EV,
  DIAB,FV,DAB,EV,DWB,EV,DAAB,FV,=CONSONANT VAU,GNTSAU,GLAU,GHAU,GNLAU,GRAU,GNKAU,GQHAU,GYAU,GHLAU,
  GMAU,GCHAU,GNCHAU,GHNAU,GPLHAU,GNTHAU,HAU,GAU,GXAU,GCAU,=MARK CIM TUB,FSO,FKES,GHAV,FSUAM,FHOM,
  FTAUM,=SIGN VOS THOM,GSHAB CEEB,BCIM CHEEM,BVOS THIAB,FFEEM,BXYEEM NTXIV,HRHO,HTOV,HFAIB,
  BVOS SEEV,BMEEJ SUAB,BVOS NRUA,BIB YAM,BXAUS,BCIM TSOV ROG,!16B50,=DIGIT ZERO,CONE,CTWO,DHREE,
  CFOUR,DIVE,CSIX,DEVEN,CEIGHT,CNINE,!16B5B,=NUMBER TENS,DHUNDREDS,DTEN THOUSANDS,DMILLIONS,
  DHUNDRED MILLIONS,DTEN BILLIONS,ERILLIONS,!16B63,=SIGN VOS LUB,BXYOO,BHLI,BTHIRD-STAGE HLI,
  BZWJ THAJ,BHNUB,BNQIG,BXIAB,BNTUJ,BAV,BTXHEEJ CEEV,BMEEJ TSEEB,BTAU,BLOS,BMUS,
  BCIM HAIS LUS NTOG NTOG,FCUAM TSHOOJ,FTXWV,J CHWV,FPUB DAWB,FNRES TOS,!16B7D,=CLAN SIGN TSHEEJ,
  GYEEG,GLIS,HAUJ,GXYOOJ,GKOO,GHAWJ,GMUAS,GTHOJ,HSAB,GPHAB,GKHAB,GHAM,GVAJ,GFAJ,GYAJ,GTSWB,GKWM,
  GVWJ,!16E40,0MEDEFAIDRIN CAPITAL LETTER M,KS,KV,KW,KATIU,KZ,KKP,KP,KT,KG,KF,KI,KK,KA,KJ,KE,KB,
  KC,KU,KYU,KL,KQ,KHP,KNY,KX,KD,KOE,KN,KR,KO,KAI,KY,<SMALL LETTER M,IS,IV,IW,IATIU,IZ,IKP,IP,IT,
  IG,IF,II,IK,IA,IJ,IE,IB,IC,IU,IYU,IL,IQ,IHP,INY,IX,ID,IOE,IN,IR,IO,IAI,IY,<DIGIT ZERO,BONE,BTWO,
  CHREE,BFOUR,CIVE,BSIX,CEVEN,BEIGHT,BNINE,<NUMBER TEN,CELEVEN,CTWELVE,DHIRTEEN,CFOURTEEN,DIFTEEN,
  CSIXTEEN,DEVENTEEN,CEIGHTEEN,CNINETEEN,<DIGIT ONE ALTERNATE FORM,BTWO ALTERNATE FORM,
  CHREE ALTERNATE FORM,<COMMA,<FULL STOP,<SYMBOL AIVA,<EXCLAMATION OH,!16F00,1IAO LETTER PA,<BA,
  <YI PA,<PLA,<MA,=HA,<ARCHAIC MA,<FA,<VA,=FA,<TA,<DA,<YI TTA,@A,<TTA,<DDA,<NA,=HA,<YI NNA,
  <ARCHAIC NA,<NNA,>HA,<LA,=YA,=HA,>YA,<TLHA,<DLHA,<TLHYA,<DLHYA,<KA,<GA,<YI KA,<QA,=GA,<NGA,>HA,
  <ARCHAIC NGA,<HA,<XA,<GHA,>HA,<TSSA,<DZZA,<NYA,>HA,<TSHA,<DZHA,<YI TSHA,?DZHA,<REFORMED TSHA,
  <SHA,=SA,<ZHA,=SHA,<TSA,<DZA,<YI TSA,<SA,<ZA,=SA,=ZA,>SA,<ARCHAIC ZZA,<ZZYA,>SYA,<WA,<AH,<HHA,
  <BRI,<SYI,<DZYI,<TE,=SE,<RTE,!16F4F,5SIGN CONSONANT MODIFIER BAR,5LETTER NASALIZATION,
  5SIGN ASPIRATION,:REFORMED VOICING,CASPIRATION,5VOWEL SIGN A,AA,AHH,AN,BG,@O,AO,@WO,A,@E,AN,BG,
  @OEY,@I,AA,BN,CG,AO,AE,AI,AU,ANG,@U,AA,BN,CG,AU,AEI,ANG,@Y,AI,@AE,BE,@ERR,@ROUNDED ERR,@ER,
  @ROUNDED ER,@AI,@EI,@AU,@OU,@N,AG,@UOG,@YUI,@OG,AER,@VW,@IG,@EA,@IONG,@UI,!16F8F,5TONE RIGHT,
  :TOP RIGHT,:ABOVE,:BELOW,5LETTER TONE-2,A3,A4,A5,A6,A7,A8,<REFORMED TONE-1,J2,J4,J5,J6,J8,
  !16FE0,0TANGUT ITERATION MARK,0NUSHU ITERATION MARK,0OLD CHINESE HOOK MARK,<ITERATION MARK,
  0KHITAN SMALL SCRIPT FILLER,!16FF0,0VIETNAMESE ALTERNATE READING MARK CA,RNHAY,!18800,
  0TANGUT COMPONENT-001,C2,C3,C4,C5,C6,C7,C8,C9,B10,C1,C2,C3,C4,C5,C6,C7,C8,C9,B20,C1,C2,C3,C4,C5,
  C6,C7,C8,C9,B30,C1,C2,C3,C4,C5,C6,C7,C8,C9,B40,C1,C2,C3,C4,C5,C6,C7,C8,C9,B50,C1,C2,C3,C4,C5,C6,
  C7,C8,C9,B60,C1,C2,C3,C4,C5,C6,C7,C8,C9,B70,C1,C2,C3,C4,C5,C6,C7,C8,C9,B80,C1,C2,C3,C4,C5,C6,C7,
  C8,C9,B90,C1,C2,C3,C4,C5,C6,C7,C8,C9,A100,C1,C2,C3,C4,C5,C6,C7,C8,C9,B10,C1,C2,C3,C4,C5,C6,C7,
  C8,C9,B20,C1,C2,C3,C4,C5,C6,C7,C8,C9,B30,C1,C2,C3,C4,C5,C6,C7,C8,C9,B40,C1,C2,C3,C4,C5,C6,C7,C8,
  C9,B50,C1,C2,C3,C4,C5,C6,C7,C8,C9,B60,C1,C2,C3,C4,C5,C6,C7,C8,C9,B70,C1,C2,C3,C4,C5,C6,C7,C8,C9,
  B80,C1,C2,C3,C4,C5,C6,C7,C8,C9,B90,C1,C2,C3,C4,C5,C6,C7,C8,C9,A200,C1,C2,C3,C4,C5,C6,C7,C8,C9,
  B10,C1,C2,C3,C4,C5,C6,C7,C8,C9,B20,C1,C2,C3,C4,C5,C6,C7,C8,C9,B30,C1,C2,C3,C4,C5,C6,C7,C8,C9,
  B40,C1,C2,C3,C4,C5,C6,C7,C8,C9,B50,C1,C2,C3,C4,C5,C6,C7,C8,C9,B60,C1,C2,C3,C4,C5,C6,C7,C8,C9,
  B70,C1,C2,C3,C4,C5,C6,C7,C8,C9,B80,C1,C2,C3,C4,C5,C6,C7,C8,C9,B90,C1,C2,C3,C4,C5,C6,C7,C8,C9,
  A300,C1,C2,C3,C4,C5,C6,C7,C8,C9,B10,C1,C2,C3,C4,C5,C6,C7,C8,C9,B20,C1,C2,C3,C4,C5,C6,C7,C8,C9,
  B30,C1,C2,C3,C4,C5,C6,C7,C8,C9,B40,C1,C2,C3,C4,C5,C6,C7,C8,C9,B50,C1,C2,C3,C4,C5,C6,C7,C8,C9,
  B60,C1,C2,C3,C4,C5,C6,C7,C8,C9,B70,C1,C2,C3,C4,C5,C6,C7,C8,C9,B80,C1,C2,C3,C4,C5,C6,C7,C8,C9,
  B90,C1,C2,C3,C4,C5,C6,C7,C8,C9,A400,C1,C2,C3,C4,C5,C6,C7,C8,C9,B10,C1,C2,C3,C4,C5,C6,C7,C8,C9,
  B20,C1,C2,C3,C4,C5,C6,C7,C8,C9,B30,C1,C2,C3,C4,C5,C6,C7,C8,C9,B40,C1,C2,C3,C4,C5,C6,C7,C8,C9,
  B50,C1,C2,C3,C4,C5,C6,C7,C8,C9,B60,C1,C2,C3,C4,C5,C6,C7,C8,C9,B70,C1,C2,C3,C4,C5,C6,C7,C8,C9,
  B80,C1,C2,C3,C4,C5,C6,C7,C8,C9,B90,C1,C2,C3,C4,C5,C6,C7,C8,C9,A500,C1,C2,C3,C4,C5,C6,C7,C8,C9,
  B10,C1,C2,C3,C4,C5,C6,C7,C8,C9,B20,C1,C2,C3,C4,C5,C6,C7,C8,C9,B30,C1,C2,C3,C4,C5,C6,C7,C8,C9,
  B40,C1,C2,C3,C4,C5,C6,C7,C8,C9,B50,C1,C2,C3,C4,C5,C6,C7,C8,C9,B60,C1,C2,C3,C4,C5,C6,C7,C8,C9,
  B70,C1,C2,C3,C4,C5,C6,C7,C8,C9,B80,C1,C2,C3,C4,C5,C6,C7,C8,C9,B90,C1,C2,C3,C4,C5,C6,C7,C8,C9,
  A600,C1,C2,C3,C4,C5,C6,C7,C8,C9,B10,C1,C2,C3,C4,C5,C6,C7,C8,C9,B20,C1,C2,C3,C4,C5,C6,C7,C8,C9,
  B30,C1,C2,C3,C4,C5,C6,C7,C8,C9,B40,C1,C2,C3,C4,C5,C6,C7,C8,C9,B50,C1,C2,C3,C4,C5,C6,C7,C8,C9,
  B60,C1,C2,C3,C4,C5,C6,C7,C8,C9,B70,C1,C2,C3,C4,C5,C6,C7,C8,C9,B80,C1,C2,C3,C4,C5,C6,C7,C8,C9,
  B90,C1,C2,C3,C4,C5,C6,C7,C8,C9,A700,C1,C2,C3,C4,C5,C6,C7,C8,C9,B10,C1,C2,C3,C4,C5,C6,C7,C8,C9,
  B20,C1,C2,C3,C4,C5,C6,C7,C8,C9,B30,C1,C2,C3,C4,C5,C6,C7,C8,C9,B40,C1,C2,C3,C4,C5,C6,C7,C8,C9,
  B50,C1,C2,C3,C4,C5,C6,C7,C8,C9,B60,C1,C2,C3,C4,C5,C6,C7,C8,0KHITAN SMALL SCRIPT CHARACTER-18B00,
  R1,R2,R3,R4,R5,R6,R7,R8,R9,RA,RB,RC,RD,RE,RF,Q10,R1,R2,R3,R4,R5,R6,R7,R8,R9,RA,RB,RC,RD,RE,RF,
  Q20,R1,R2,R3,R4,R5,R6,R7,R8,R9,RA,RB,RC,RD,RE,RF,Q30,R1,R2,R3,R4,R5,R6,R7,R8,R9,RA,RB,RC,RD,RE,
  RF,Q40,R1,R2,R3,R4,R5,R6,R7,R8,R9,RA,RB,RC,RD,RE,RF,Q50,R1,R2,R3,R4,R5,R6,R7,R8,R9,RA,RB,RC,RD,
  RE,RF,Q60,R1,R2,R3,R4,R5,R6,R7,R8,R9,RA,RB,RC,RD,RE,RF,Q70,R1,R2,R3,R4,R5,R6,R7,R8,R9,RA,RB,RC,
  RD,RE,RF,Q80,R1,R2,R3,R4,R5,R6,R7,R8,R9,RA,RB,RC,RD,RE,RF,Q90,R1,R2,R3,R4,R5,R6,R7,R8,R9,RA,RB,
  RC,RD,RE,RF,QA0,R1,R2,R3,R4,R5,R6,R7,R8,R9,RA,RB,RC,RD,RE,RF,QB0,R1,R2,R3,R4,R5,R6,R7,R8,R9,RA,
  RB,RC,RD,RE,RF,QC0,R1,R2,R3,R4,R5,R6,R7,R8,R9,RA,RB,RC,RD,RE,RF,QD0,R1,R2,R3,R4,R5,R6,R7,R8,R9,
  RA,RB,RC,RD,RE,RF,QE0,R1,R2,R3,R4,R5,R6,R7,R8,R9,RA,RB,RC,RD,RE,RF,QF0,R1,R2,R3,R4,R5,R6,R7,R8,
  R9,RA,RB,RC,RD,RE,RF,PC00,R1,R2,R3,R4,R5,R6,R7,R8,R9,RA,RB,RC,RD,RE,RF,Q10,R1,R2,R3,R4,R5,R6,R7,
  R8,R9,RA,RB,RC,RD,RE,RF,Q20,R1,R2,R3,R4,R5,R6,R7,R8,R9,RA,RB,RC,RD,RE,RF,Q30,R1,R2,R3,R4,R5,R6,
  R7,R8,R9,RA,RB,RC,RD,RE,RF,Q40,R1,R2,R3,R4,R5,R6,R7,R8,R9,RA,RB,RC,RD,RE,RF,Q50,R1,R2,R3,R4,R5,
  R6,R7,R8,R9,RA,RB,RC,RD,RE,RF,Q60,R1,R2,R3,R4,R5,R6,R7,R8,R9,RA,RB,RC,RD,RE,RF,Q70,R1,R2,R3,R4,
  R5,R6,R7,R8,R9,RA,RB,RC,RD,RE,RF,Q80,R1,R2,R3,R4,R5,R6,R7,R8,R9,RA,RB,RC,RD,RE,RF,Q90,R1,R2,R3,
  R4,R5,R6,R7,R8,R9,RA,RB,RC,RD,RE,RF,QA0,R1,R2,R3,R4,R5,R6,R7,R8,R9,RA,RB,RC,RD,RE,RF,QB0,R1,R2,
  R3,R4,R5,R6,R7,R8,R9,RA,RB,RC,RD,RE,RF,QC0,R1,R2,R3,R4,R5,R6,R7,R8,R9,RA,RB,RC,RD,RE,RF,QD0,R1,
  R2,R3,R4,R5,!1AFF0,1ATAKANA LETTER MINNAN TONE-2,L3,L4,L5,!1AFF5,L7,L8,GNASALIZED TONE-1,V2,V3,
  V4,V5,!1AFFD,V7,V8,!1B000,@ARCHAIC E,0HIRAGANA LETTER ARCHAIC YE,1ENTAIGANA LETTER A-1,D2,D3,
  DWO,BI-1,D2,D3,D4,BU-1,D2,D3,D4,D5,BE-2,D3,D4,D5,D6,BO-1,D2,D3,BKA-1,E2,E3,E4,E5,E6,E7,E8,E9,
  E10,F1,EKE,CI-1,E2,E3,E4,E5,E6,E7,E8,CU-1,E2,E3,E4,E5,E6,E7,CE-1,E2,E3,E4,E5,E6,CO-1,E2,E3,EKI,
  BSA-1,E2,E3,E4,E5,E6,E7,E8,CI-1,E2,E3,E4,E5,E6,CU-1,E2,E3,E4,E5,E6,E7,E8,CE-1,E2,E3,E4,E5,CO-1,
  E2,E3,E4,E5,E6,E7,BTA-1,E2,E3,E4,CI-1,E2,E3,E4,E5,E6,E7,CU-1,E2,E3,E4,ETO,CE-1,E2,E3,E4,E5,E6,
  E7,E8,E9,CO-1,E2,E3,E4,E5,E6,ERA,BNA-1,E2,E3,E4,E5,E6,E7,E8,E9,CI-1,E2,E3,E4,E5,E6,E7,ETE,CU-1,
  E2,E3,CE-1,E2,E3,E4,E5,E6,EKO,CO-1,E2,E3,E4,E5,BHA-1,E2,E3,E4,E5,E6,E7,E8,E9,E10,F1,CI-1,E2,E3,
  E4,E5,E6,E7,CU-1,E2,E3,CE-1,E2,E3,E4,E5,E6,E7,CO-1,E2,E3,E4,E5,E6,E7,E8,BMA-1,E2,E3,E4,E5,E6,E7,
  CI-1,E2,E3,E4,E5,E6,E7,CU-1,E2,E3,E4,CE-1,E2,EMA,CO-1,E2,E3,E4,E5,E6,BYA-1,E2,E3,E4,E5,EYO,CU-1,
  E2,E3,E4,CO-1,E2,E3,E4,E5,E6,BRA-1,E2,E3,E4,CI-1,E2,E3,E4,E5,E6,E7,CU-1,E2,E3,E4,E5,E6,CE-1,E2,
  E3,E4,CO-1,E2,E3,E4,E5,E6,BWA-1,E2,E3,E4,E5,CI-1,E2,E3,E4,E5,CE-1,E2,E3,E4,CO-1,E2,E3,E4,E5,E6,
  E7,BN-MU-MO-1,J2,1IRAGANA LETTER ARCHAIC WU,0KATAKANA LETTER ARCHAIC YI,IE,HWU,!1B150,
  0HIRAGANA LETTER SMALL WI,GE,GO,!1B164,0KATAKANA LETTER SMALL WI,GE,GO,FN,!1B170,
  0NUSHU CHARACTER-1B170,D1,D2,D3,D4,D5,D6,D7,D8,D9,DA,DB,DC,DD,DE,DF,C80,D1,D2,D3,D4,D5,D6,D7,D8,
  D9,DA,DB,DC,DD,DE,DF,C90,D1,D2,D3,D4,D5,D6,D7,D8,D9,DA,DB,DC,DD,DE,DF,CA0,D1,D2,D3,D4,D5,D6,D7,
  D8,D9,DA,DB,DC,DD,DE,DF,CB0,D1,D2,D3,D4,D5,D6,D7,D8,D9,DA,DB,DC,DD,DE,DF,CC0,D1,D2,D3,D4,D5,D6,
  D7,D8,D9,DA,DB,DC,DD,DE,DF,CD0,D1,D2,D3,D4,D5,D6,D7,D8,D9,DA,DB,DC,DD,DE,DF,CE0,D1,D2,D3,D4,D5,
  D6,D7,D8,D9,DA,DB,DC,DD,DE,DF,CF0,D1,D2,D3,D4,D5,D6,D7,D8,D9,DA,DB,DC,DD,DE,DF,B200,D1,D2,D3,D4,
  D5,D6,D7,D8,D9,DA,DB,DC,DD,DE,DF,C10,D1,D2,D3,D4,D5,D6,D7,D8,D9,DA,DB,DC,DD,DE,DF,C20,D1,D2,D3,
  D4,D5,D6,D7,D8,D9,DA,DB,DC,DD,DE,DF,C30,D1,D2,D3,D4,D5,D6,D7,D8,D9,DA,DB,DC,DD,DE,DF,C40,D1,D2,
  D3,D4,D5,D6,D7,D8,D9,DA,DB,DC,DD,DE,DF,C50,D1,D2,D3,D4,D5,D6,D7,D8,D9,DA,DB,DC,DD,DE,DF,C60,D1,
  D2,D3,D4,D5,D6,D7,D8,D9,DA,DB,DC,DD,DE,DF,C70,D1,D2,D3,D4,D5,D6,D7,D8,D9,DA,DB,DC,DD,DE,DF,C80,
  D1,D2,D3,D4,D5,D6,D7,D8,D9,DA,DB,DC,DD,DE,DF,C90,D1,D2,D3,D4,D5,D6,D7,D8,D9,DA,DB,DC,DD,DE,DF,
  CA0,D1,D2,D3,D4,D5,D6,D7,D8,D9,DA,DB,DC,DD,DE,DF,CB0,D1,D2,D3,D4,D5,D6,D7,D8,D9,DA,DB,DC,DD,DE,
  DF,CC0,D1,D2,D3,D4,D5,D6,D7,D8,D9,DA,DB,DC,DD,DE,DF,CD0,D1,D2,D3,D4,D5,D6,D7,D8,D9,DA,DB,DC,DD,
  DE,DF,CE0,D1,D2,D3,D4,D5,D6,D7,D8,D9,DA,DB,DC,DD,DE,DF,CF0,D1,D2,D3,D4,D5,D6,D7,D8,D9,DA,DB,
  !1BC00,0DUPLOYAN LETTER H,@X,@P,@T,@F,@K,@L,@B,@D,@V,@G,@R,@P N,@D S,@F N,@K M,@R S,@TH,
  @SLOAN DH,@DH,@KK,@SLOAN J,@HL,@LH,@RH,@M,@N,@J,@S,@M N,@N M,@J M,@S J,@M WITH DOT,@N WITH DOT,
  @J WITH DOT,JS INSIDE AND ABOVE,@S WITH DOT,J BELOW,@M S,@N S,@J S,@S S,@M N S,@N M S,@J M S,
  @S J S,@J S WITH DOT,BN,C S,@S T,C R,BP,C R,@T S,BR S,@W,AH,A R,@S N,BM,@K R S,@G R S,@S K,C R,
  @A,@SLOAN OW,@OA,A,@AOU,@I,@E,@IE,@SHORT I,@UI,@EE,@SLOAN EH,@ROMANIAN I,@SLOAN EE,@LONG I,@YE,
  @U,@EU,@XW,@U N,@LONG U,@ROMANIAN U,@UH,@SLOAN U,@OOH,AW,AU,@WA,AO,AI,AEI,AOW,@NASAL U,FO,FI,FA,
  @PERNIN AN,HM,@SLOAN EN,FAN,FON,@VOCALIC M,!1BC70,9AFFIX LEFT HORIZONTAL SECANT,
  ?MID HORIZONTAL SECANT,?RIGHT HORIZONTAL SECANT,?LOW VERTICAL SECANT,?MID VERTICAL SECANT,
  ?HIGH VERTICAL SECANT,?ATTACHED SECANT,HLEFT-TO-RIGHT SECANT,HTANGENT,JIL,HE HOOK,HI HOOK,
  HTANGENT HOOK,!1BC80,?HIGH ACUTE,DTIGHT ACUTE,DGRAVE,DLONG GRAVE,DDOT,DCIRCLE,DLINE,DWAVE,
  DVERTICAL,!1BC90,?LOW ACUTE,CTIGHT ACUTE,CGRAVE,CLONG GRAVE,CDOT,CCIRCLE,CLINE,CWAVE,CVERTICAL,
  CARROW,!1BC9C,9SIGN O WITH CROSS,9THICK LETTER SELECTOR,9DOUBLE MARK,
  9PUNCTUATION CHINOOK FULL STOP,0SHORTHAND FORMAT LETTER OVERLAP,ACONTINUING OVERLAP,ADOWN STEP,
  AUP STEP,!1CF00,0ZNAMENNY COMBINING MARK GORAZDO NIZKO S KRYZHEM ON LEFT,
  HNIZKO S KRYZHEM ON LEFT,HTSATA ON LEFT,HGORAZDO NIZKO ON LEFT,HNIZKO ON LEFT,HSREDNE ON LEFT,
  HMALO POVYSHE ON LEFT,HPOVYSHE ON LEFT,HVYSOKO ON LEFT,HMALO POVYSHE S KHOKHLOM ON LEFT,
  HPOVYSHE S KHOKHLOM ON LEFT,HVYSOKO S KHOKHLOM ON LEFT,HGORAZDO NIZKO S KRYZHEM ON RIGHT,
  HNIZKO S KRYZHEM ON RIGHT,HTSATA ON RIGHT,HGORAZDO NIZKO ON RIGHT,HNIZKO ON RIGHT,
  HSREDNE ON RIGHT,HMALO POVYSHE ON RIGHT,HPOVYSHE ON RIGHT,HVYSOKO ON RIGHT,
  HMALO POVYSHE S KHOKHLOM ON RIGHT,HPOVYSHE S KHOKHLOM ON RIGHT,HVYSOKO S KHOKHLOM ON RIGHT,
  HTSATA S KRYZHEM,HMALO POVYSHE S KRYZHEM,HSTRANNO MALO POVYSHE,HPOVYSHE S KRYZHEM,QTRANNO,
  HVYSOKO S KRYZHEM,HMALO POVYSHE STRANNO,HGORAZDO VYSOKO,HZELO,HON,HRAVNO,HTIKHAYA,HBORZAYA,
  HUDARKA,HPODVERTKA,HLOMKA,HKUPNAYA,IACHKA,HZEVOK,HSKOBA,HRAZSEKA,HKRYZH ON LEFT,!1CF30,
  CTONAL RANGE MARK MRACHNO,TSVETLO,TTRESVETLO,CMARK ZADERZHKA,HDEMESTVENNY ZADERZHKA,HOTSECHKA,
  HPODCHASHIE,R WITH VERTICAL STROKE,HCHASHKA,O POLNAYA,HOBLACHKO,HSOROCHYA NOZHKA,HTOCHKA,
  HDVOETOCHIE,CATTACHING VERTICAL OMET,CMARK CURVED OMET,HKRYZH,CLOWER TONAL RANGE INDICATOR,
  9PRIZNAK MODIFIER LEVEL-2,P3,JDIRECTION FLIP,JKRYZH,JROG,!1CF50,9NEUME KRYUK,D TIKHY,?PARAKLIT,
  ?DVA V CHELNU,?KLYUCH,?ZANOZHEK,?STOPITSA,G S OCHKOM,?PEREVODKA,H NEPOSTOYANNAYA,
  ?STOPITSA WITH SOROCHYA NOZHKA,?CHELYUSTKA,?PALKA,?ZAPYATAYA,?GOLUBCHIK BORZY,ITIKHY,IMRACHNY,
  ISVETLY,ITRESVETLY,?VRAKHIYA PROSTAYA,HMRACHNAYA,HSVETLAYA,HTRESVETLAYA,HKLYUCHEVAYA PROSTAYA,
  TMRACHNAYA,TSVETLAYA,TTRESVETLAYA,?DOUBLE ZAPYATAYA,?REVERSED CHELYUSTKA,?DERBITSA,?KHAMILO,
  ?CHASHKA,?PODCHASHIE,?SKAMEYTSA MRACHNAYA,ISVETLAYA,ITRESVETLAYA,JIKHAYA,?DEMESTVENNY KLYUCH,
  ?SKAMEYTSA KLYUCHEVAYA SVETLAYA,PNEPOSTOYANNAYA,PVAYA TIKHAYA,IDVOECHELNAYA PROSTAYA,VSVETLAYA,
  VNEPOSTOYANNAYA,VKLYUCHEVAYA,@LOZHITIE,H S ZAPYATOY,IZAKRYTOE,IS KRYZHEM,?KRYZH,?ROG,?FITA,
  ?KOBYLA,?ZMEYTSA,?STATYA,E S ZAPYATOY,HKRYZHEM,HZAPYATOY I KRYZHEM,HKRYZHEM I ZAPYATOY,
  FZAKRYTAYA,O S ZAPYATOY,FS ROGOM,HDVUMYA ZAPYATYMI,HZAPYATOY I PODCHASHIEM,?POLKULIZMY,
  ?STATYA NEPOSTOYANNAYA,ARELA PROSTAYA,FMRACHNOTIKHAYA,FKRYZHEVAYA,FPOLUPOVODNAYA,HVODNAYA,
  FNEPOSTOYANNAYA,FKLYUCHEPOVODNAYA,MNEPOSTOYANNAYA,FTIKHAYA PUTNAYA,FDVOECHELNAYA,OOKRYZHEVAYA,
  PPOVODNAYA,OAYA KLYUCHEVAYA,OOPOVODNAYA KLYUCHEVAYA,FGROMNAYA WITH SINGLE ZAPYATAYA,
  JOPOVODNAYA WITH SINGLE ZAPYATAYA,JNAYA,JOPOVODNAYA,T WITH DOUBLE ZAPYATAYA,KKRYZHEVAYA,
  U POVODNAYA,?MECHIK,E POVODNY,FKLYUCHEVOY,MPOVODNY,MNEPOSTOYANNY,?STRELA TRYASOGLASNAYA,
  LPOVODNAYA,LSTRELNAYA,?OSOKA,D SVETLAYA,ETRESVETLAYA,EKRYUKOVAYA SVETLAYA,FLYUCHEVAYA SVETLAYA,
  QNEPOSTOYANNAYA,?STRELA KRYUKOVAYA,P POVODNAYA,QGROMNAYA WITH SINGLE ZAPYATAYA,
  UOPOVODNAYA WITH SINGLE ZAPYATAYA,UNAYA,UOPOVODNAYA,[NAYA WITH DOUBLE ZAPYATAYA,VKRYZHEVAYA,
  [EVAYA POVODNAYA,QTRYASKA,?KUFISMA,?OBLAKO,?DUDA,?NEMKA,?PAUK,!1D000,
  0BYZANTINE MUSICAL SYMBOL PSILI,IDASEIA,IPERISPOMENI,IOXEIA EKFONITIKON,ODIPLI,
  IVAREIA EKFONITIKON,PDIPLI,IKATHISTI,ISYRMATIKI,IPARAKLITIKI,IYPOKRISIS,R DIPLI,IKREMASTI,
  IAPESO EKFONITIKON,IEXO EKFONITIKON,ITELEIA,IKENTIMATA,IAPOSTROFOS,S DIPLI,ISYNEVMA,ITHITA,
  IOLIGON ARCHAION,IGORGON ARCHAION,IPSILON,ICHAMILON,IVATHY,IISON ARCHAION,IKENTIMA ARCHAION,
  PTA ARCHAION,ISAXIMATA,IPARICHON,ISTAVROS APODEXIA,IOXEIAI ARCHAION,IVAREIAI ARCHAION,
  IAPODERMA ARCHAION,LTHEMA,IKLASMA,IREVMA,IPIASMA ARCHAION,ITINAGMA,IANATRICHISMA,ISEISMA,
  JYNAGMA ARCHAION,QMETA STAVROU,IOYRANISMA ARCHAION,ITHEMA,ILEMOI,IDYO,ITRIA,JESSERA,IKRATIMATA,
  IAPESO EXO NEO,IFTHORA ARCHAION,IIMIFTHORA,ITROMIKON ARCHAION,IKATAVA TROMIKON,IPELASTON,
  JSIFISTON,IKONTEVMA,ICHOREVMA ARCHAION,IRAPISMA,IPARAKALESMA ARCHAION,NLITIKI ARCHAION,IICHADIN,
  INANA,IPETASMA,IKONTEVMA ALLO,ITROMIKON ALLO,ISTRAGGISMATA,IGRONTHISMATA,IISON NEO,IOLIGON NEO,
  JXEIA NEO,IPETASTI,IKOUFISMA,IPETASTOKOUFISMA,IKRATIMOKOUFISMA,IPELASTON NEO,IKENTIMATA NEO ANO,
  P NEO ANO,IYPSILI,IAPOSTROFOS NEO,RI SYNDESMOS NEO,IYPORROI,IKRATIMOYPORROON,IELAFRON,ICHAMILI,
  IMIKRON ISON,IVAREIA NEO,IPIASMA NEO,JSIFISTON NEO,IOMALON,IANTIKENOMA,ILYGISMA,
  IPARAKLITIKI NEO,NALESMA NEO,IETERON PARAKALESMA,IKYLISMA,IANTIKENOKYLISMA,ITROMIKON NEO,
  IEKSTREPTON,ISYNAGMA NEO,KRMA,ICHOREVMA NEO,IEPEGERMA,ISEISMA NEO,IXIRON KLASMA,
  ITROMIKOPSIFISTON,IPSIFISTOLYGISMA,ITROMIKOLYGISMA,PPARAKALESMA,IPSIFISTOPARAKALESMA,
  ITROMIKOSYNAGMA,IPSIFISTOSYNAGMA,IGORGOSYNTHETON,IARGOSYNTHETON,IETERON ARGOSYNTHETON,
  IOYRANISMA NEO,ITHEMATISMOS ESO,VXO,N APLOUN,LS KAI APOTHES,IKATAVASMA,IENDOFONON,IYFEN KATO,
  NANO,ISTAVROS,IKLASMA ANO,IDIPLI ARCHAION,IKRATIMA ARCHAION,RLLO,QNEO,IAPODERMA NEO,KLI,IDIPLI,
  ITRIPLI,JETRAPLI,IKORONIS,ILEIMMA ENOS CHRONOU,PDYO CHRONON,PTRION CHRONON,QESSARON CHRONON,
  PIMISEOS CHRONOU,IGORGON NEO ANO,PPARESTIGMENON ARISTERA,[ON DEXIA,IDIGORGON,
  Q PARESTIGMENON ARISTERA KATO,[ENON ARISTERA ANO,[ENON DEXIA,ITRIGORGON,IARGON,IIMIDIARGON,
  IDIARGON,IAGOGI POLI ARGI,OARGOTERI,RI,OMETRIA,QSI,OGORGI,SOTERI,OPOLI GORGI,
  IMARTYRIA PROTOS ICHOS,RALLI PROTOS ICHOS,RDEYTEROS ICHOS,RALLI DEYTEROS ICHOS,RTRITOS ICHOS,
  UFONIAS,SETARTOS ICHOS,[LEGETOS ICHOS,RLEGETOS ICHOS,RPLAGIOS ICHOS,IISAKIA TELOUS ICHIMATOS,
  IAPOSTROFOI TELOUS ICHIMATOS,IFANEROSIS TETRAFONIAS,SMONOFONIAS,SDIFONIAS,IMARTYRIA VARYS ICHOS,
  RPROTOVARYS ICHOS,SLAGIOS TETARTOS ICHOS,IGORTHMIKON N APLOUN,VDIPLOUN,IENARXIS KAI FTHORA VOU,
  IIMIFONON,MTHORON,IFTHORA ARCHAION DEYTEROU ICHOU,PDIATONIKI PA,ZNANA,PNAOS ICHOS,PDIATONIKI DI,
  PSKLIRON DIATONON DI,PDIATONIKI KE,ZZO,ZNI KATO,[I ANO,PMALAKON CHROMA DIFONIAS,[OMA MONOFONIAS,
  JHTORA SKLIRON CHROMA VASIS,JTHORA SKLIRON CHROMA SYNAFI,PNENANO,ICHROA ZYGOS,OKLITON,OSPATHI,
  IFTHORA I YFESIS TETARTIMORION,PENARMONIOS ANTIFONIA,IYFESIS TRITIMORION,IDIESIS TRITIMORION,
  QETARTIMORION,PAPLI DYO DODEKATA,PMONOGRAMMOS TESSERA DODEKATA,PDIGRAMMOS EX DODEKATA,
  PTRIGRAMMOS OKTO DODEKATA,IYFESIS APLI DYO DODEKATA,PMONOGRAMMOS TESSERA DODEKATA,
  PDIGRAMMOS EX DODEKATA,PTRIGRAMMOS OKTO DODEKATA,IGENIKI DIESIS,PYFESIS,IDIASTOLI APLI MIKRI,
  XEGALI,RDIPLI,RTHESEOS,ISIMANSIS THESEOS,Y DISIMOU,ZTRISIMOU,[ETRASIMOU,RARSEOS,X DISIMOU,
  YTRISIMOU,ZETRASIMOU,IDIGRAMMA GG,KFTOGGOS OU,ISTIGMA,IARKTIKO PA,QVOU,QGA,QDI,QKE,QZO,QNI,
  IKENTIMATA NEO MESO,P NEO MESO,PTA NEO KATO,P NEO KATO,JLASMA KATO,IGORGON NEO KATO,!1D100,
  0MUSICAL SYMBOL SINGLE BARLINE,?DOUBLE BARLINE,?FINAL BARLINE,?REVERSE FINAL BARLINE,
  ?DASHED BARLINE,?SHORT BARLINE,?LEFT REPEAT SIGN,?RIGHT REPEAT SIGN,@EPEAT DOTS,?DAL SEGNO,
  A CAPO,?SEGNO,?CODA,?REPEATED FIGURE-1,O2,O3,?FERMATA,F BELOW,?BREATH MARK,?CAESURA,?BRACE,CKET,
  ?ONE-LINE STAFF,?TWO-LINE STAFF,@HREE-LINE STAFF,?FOUR-LINE STAFF,@IVE-LINE STAFF,
  ?SIX-LINE STAFF,CSTRING FRETBOARD,?FOUR-STRING FRETBOARD,?G CLEF,E OTTAVA ALTA,MBASSA,?C CLEF,
  ?F CLEF,E OTTAVA ALTA,MBASSA,?DRUM CLEF-1,I2,!1D129,?MULTIPLE MEASURE REST,?DOUBLE SHARP,FFLAT,
  ?FLAT UP,DDOWN,?NATURAL UP,GDOWN,?SHARP UP,EDOWN,?QUARTER TONE SHARP,LFLAT,?COMMON TIME,
  @UT TIME,?OTTAVA ALTA,FBASSA,?QUINDICESIMA ALTA,LBASSA,?MULTI REST,?WHOLE REST,?HALF REST,
  ?QUARTER REST,?EIGHTH REST,?SIXTEENTH REST,?THIRTY-SECOND REST,?SIXTY-FOURTH REST,
  ?ONE HUNDRED TWENTY-EIGHTH REST,?X NOTEHEAD,?PLUS NOTEHEAD,?CIRCLE X NOTEHEAD,
  ?SQUARE NOTEHEAD WHITE,OBLACK,?TRIANGLE NOTEHEAD UP WHITE,TBLACK,QLEFT WHITE,VBLACK,
  QRIGHT WHITE,WBLACK,QDOWN WHITE,VBLACK,QUP RIGHT WHITE,ZBLACK,?MOON NOTEHEAD WHITE,MBLACK,
  ?TRIANGLE-ROUND NOTEHEAD DOWN WHITE,[ BLACK,?PARENTHESIS NOTEHEAD,?VOID NOTEHEAD,
  ?NOTEHEAD BLACK,@ULL NOTEHEAD,?CLUSTER NOTEHEAD WHITE,PBLACK,?BREVE,?WHOLE NOTE,?HALF NOTE,
  ?QUARTER NOTE,?EIGHTH NOTE,?SIXTEENTH NOTE,?THIRTY-SECOND NOTE,?SIXTY-FOURTH NOTE,
  ?ONE HUNDRED TWENTY-EIGHTH NOTE,?COMBINING STEM,JPRECHGESANG STEM,ITREMOLO-1,Q2,Q3,
  ?FINGERED TREMOLO-1,P2,P3,?COMBINING AUGMENTATION DOT,IFLAG-1,N2,N3,N4,N5,?BEGIN BEAM,?END BEAM,
  ?BEGIN TIE,?END TIE,?BEGIN SLUR,?END SLUR,?BEGIN PHRASE,?END PHRASE,?COMBINING ACCENT,ISTACCATO,
  ITENUTO,ISTACCATISSIMO,IMARCATO,P-STACCATO,IACCENT-STACCATO,ILOURE,?ARPEGGIATO UP,JDOWN,
  ?COMBINING DOIT,IRIP,IFLIP,ISMEAR,IBEND,IDOUBLE TONGUE,ITRIPLE TONGUE,?RINFORZANDO,?SUBITO,?Z,
  ?PIANO,?MEZZO,?FORTE,?CRESCENDO,?DECRESCENDO,?GRACE NOTE SLASH,JNO SLASH,?TR,@URN,
  ?INVERTED TURN,?TURN SLASH,DUP,?ORNAMENT STROKE-1,O2,O3,O4,O5,O6,O7,O8,O9,O10,P1,?HAUPTSTIMME,
  ?NEBENSTIMME,?END OF STIMME,?DEGREE SLASH,?COMBINING DOWN BOW,IUP BOW,IHARMONIC,ISNAP PIZZICATO,
  ?PEDAL MARK,EUP MARK,?HALF PEDAL MARK,?GLISSANDO UP,IDOWN,?WITH FINGERNAILS,?DAMP,C ALL,?MAXIMA,
  ?LONGA,?BREVIS,?SEMIBREVIS WHITE,JBLACK,?MINIMA,E BLACK,?SEMIMINIMA WHITE,JBLACK,?FUSA WHITE,
  DBLACK,?LONGA PERFECTA REST,EIMPERFECTA REST,?BREVIS REST,?SEMIBREVIS REST,?MINIMA REST,
  ?SEMIMINIMA REST,?TEMPUS PERFECTUM CUM PROLATIONE PERFECTA,[ONE IMPERFECTA,
  [ONE PERFECTA DIMINUTION-1,FIMPERFECTUM CUM PROLATIONE PERFECTA,[TIONE IMPERFECTA,
  [TIONE IMPERFECTA DIMINUTION-1,[TIONE IMPERFECTA DIMINUTION-2,[TIONE IMPERFECTA DIMINUTION-3,
  ?CROIX,?GREGORIAN C CLEF,IF CLEF,?SQUARE B,?VIRGA,?PODATUS,?CLIVIS,?SCANDICUS,?CLIMACUS,
  ?TORCULUS,?PORRECTUS,H FLEXUS,?SCANDICUS FLEXUS,?TORCULUS RESUPINUS,?PES SUBPUNCTIS,
  ?KIEVAN C CLEF,FEND OF PIECE,FFINAL NOTE,FRECITATIVE MARK,FWHOLE NOTE,FHALF NOTE,
  FQUARTER NOTE STEM DOWN,XUP,FEIGHTH NOTE STEM DOWN,WUP,FFLAT SIGN,?SORI,?KORON,!1D200,
  0GREEK VOCAL NOTATION SYMBOL-1,L2,L3,L4,L5,L6,L7,L8,L9,L10,M1,M2,M3,M4,M5,M6,M7,M8,M9,L20,M1,M2,
  M3,M4,L50,M1,M2,M3,M4,6INSTRUMENTAL NOTATION SYMBOL-1,S2,S4,S5,S7,S8,S11,T2,T3,T4,T7,T8,T9,S23,
  T4,T5,T6,T7,T9,S30,T2,T6,T7,T8,T9,S40,T2,T3,T5,T7,T8,T9,S50,T1,T2,T3,T4,
  0COMBINING GREEK MUSICAL TRISEME,IETRASEME,HPENTASEME,0GREEK MUSICAL LEIMMA,!1D2E0,
  0MAYAN NUMERAL ZERO,>ONE,>TWO,?HREE,>FOUR,?IVE,>SIX,?EVEN,>EIGHT,>NINE,>TEN,>ELEVEN,>TWELVE,
  ?HIRTEEN,>FOURTEEN,?IFTEEN,>SIXTEEN,?EVENTEEN,>EIGHTEEN,>NINETEEN,!1D300,1ONOGRAM FOR EARTH,
  0DIGRAM FOR HEAVENLY EARTH,<UMAN EARTH,;EARTHLY HEAVEN,DUMAN,@,0TETRAGRAM FOR CENTRE,
  >FULL CIRCLE,>MIRED,>BARRIER,>KEEPING SMALL,>CONTRARIETY,>ASCENT,>OPPOSITION,>BRANCHING OUT,
  >DEFECTIVENESS OR DISTORTION,?IVERGENCE,>YOUTHFULNESS,>INCREASE,>PENETRATION,>REACH,>CONTACT,
  >HOLDING BACK,>WAITING,>FOLLOWING,>ADVANCE,>RELEASE,@SISTANCE,>EASE,>JOY,>CONTENTION,>ENDEAVOUR,
  >DUTIES,>CHANGE,>DECISIVENESS,>BOLD RESOLUTION,>PACKING,>LEGION,>CLOSENESS,>KINSHIP,>GATHERING,
  >STRENGTH,>PURITY,>FULLNESS,>RESIDENCE,>LAW OR MODEL,>RESPONSE,>GOING TO MEET,>ENCOUNTERS,
  >STOVE,>GREATNESS,>ENLARGEMENT,>PATTERN,>RITUAL,>FLIGHT,>VASTNESS OR WASTING,>CONSTANCY,
  >MEASURE,>ETERNITY,>UNITY,>DIMINISHMENT,>CLOSED MOUTH,>GUARDEDNESS,?ATHERING IN,>MASSING,
  >ACCUMULATION,>EMBELLISHMENT,>DOUBT,>WATCH,>SINKING,>INNER,>DEPARTURE,?ARKENING,?IMMING,
  >EXHAUSTION,>SEVERANCE,?TOPPAGE,>HARDNESS,>COMPLETION,?LOSURE,>FAILURE,>AGGRAVATION,>COMPLIANCE,
  >ON THE VERGE,>DIFFICULTIES,>LABOURING,>FOSTERING,!1D360,0COUNTING ROD UNIT DIGIT ONE,HTWO,
  IHREE,HFOUR,IIVE,HSIX,IEVEN,HEIGHT,HNINE,=TENS DIGIT ONE,HTWO,IHREE,HFOUR,IIVE,HSIX,IEVEN,
  HEIGHT,HNINE,0IDEOGRAPHIC TALLY MARK ONE,GTWO,HHREE,GFOUR,HIVE,0TALLY MARK ONE,;FIVE,!1D400,
  0MATHEMATICAL BOLD CAPITAL A,JB,JC,JD,JE,JF,JG,JH,JI,JJ,JK,JL,JM,JN,JO,JP,JQ,JR,JS,JT,JU,JV,JW,
  JX,JY,JZ,BSMALL A,HB,HC,HD,HE,HF,HG,HH,HI,HJ,HK,HL,HM,HN,HO,HP,HQ,HR,HS,HT,HU,HV,HW,HX,HY,HZ,
  =ITALIC CAPITAL A,LB,LC,LD,LE,LF,LG,LH,LI,LJ,LK,LL,LM,LN,LO,LP,LQ,LR,LS,LT,LU,LV,LW,LX,LY,LZ,
  DSMALL A,JB,JC,JD,JE,JF,JG,!1D456,JI,JJ,JK,JL,JM,JN,JO,JP,JQ,JR,JS,JT,JU,JV,JW,JX,JY,JZ,
  =BOLD ITALIC CAPITAL A,QB,QC,QD,QE,QF,QG,QH,QI,QJ,QK,QL,QM,QN,QO,QP,QQ,QR,QS,QT,QU,QV,QW,QX,QY,
  QZ,ISMALL A,OB,OC,OD,OE,OF,OG,OH,OI,OJ,OK,OL,OM,ON,OO,OP,OQ,OR,OS,OT,OU,OV,OW,OX,OY,OZ,
  =SCRIPT CAPITAL A,!1D49E,LC,LD,!1D4A2,LG,!1D4A5,LJ,LK,!1D4A9,LN,LO,LP,LQ,!1D4AE,LS,LT,LU,LV,LW,
  LX,LY,LZ,DSMALL A,JB,JC,JD,!1D4BB,JF,!1D4BD,JH,JI,JJ,JK,JL,JM,JN,!1D4C5,JP,JQ,JR,JS,JT,JU,JV,JW,
  JX,JY,JZ,=BOLD SCRIPT CAPITAL A,QB,QC,QD,QE,QF,QG,QH,QI,QJ,QK,QL,QM,QN,QO,QP,QQ,QR,QS,QT,QU,QV,
  QW,QX,QY,QZ,ISMALL A,OB,OC,OD,OE,OF,OG,OH,OI,OJ,OK,OL,OM,ON,OO,OP,OQ,OR,OS,OT,OU,OV,OW,OX,OY,OZ,
  =FRAKTUR CAPITAL A,MB,!1D507,MD,ME,MF,MG,!1D50D,MJ,MK,ML,MM,MN,MO,MP,MQ,!1D516,MS,MT,MU,MV,MW,
  MX,MY,!1D51E,ESMALL A,KB,KC,KD,KE,KF,KG,KH,KI,KJ,KK,KL,KM,KN,KO,KP,KQ,KR,KS,KT,KU,KV,KW,KX,KY,
  KZ,=DOUBLE-STRUCK CAPITAL A,SB,!1D53B,SD,SE,SF,SG,!1D540,SI,SJ,SK,SL,SM,!1D546,SO,!1D54A,SS,ST,
  SU,SV,SW,SX,SY,!1D552,KSMALL A,QB,QC,QD,QE,QF,QG,QH,QI,QJ,QK,QL,QM,QN,QO,QP,QQ,QR,QS,QT,QU,QV,
  QW,QX,QY,QZ,=BOLD FRAKTUR CAPITAL A,RB,RC,RD,RE,RF,RG,RH,RI,RJ,RK,RL,RM,RN,RO,RP,RQ,RR,RS,RT,RU,
  RV,RW,RX,RY,RZ,JSMALL A,PB,PC,PD,PE,PF,PG,PH,PI,PJ,PK,PL,PM,PN,PO,PP,PQ,PR,PS,PT,PU,PV,PW,PX,PY,
  PZ,=SANS-SERIF CAPITAL A,PB,PC,PD,PE,PF,PG,PH,PI,PJ,PK,PL,PM,PN,PO,PP,PQ,PR,PS,PT,PU,PV,PW,PX,
  PY,PZ,HSMALL A,NB,NC,ND,NE,NF,NG,NH,NI,NJ,NK,NL,NM,NN,NO,NP,NQ,NR,NS,NT,NU,NV,NW,NX,NY,NZ,
  HBOLD CAPITAL A,UB,UC,UD,UE,UF,UG,UH,UI,UJ,UK,UL,UM,UN,UO,UP,UQ,UR,US,UT,UU,UV,UW,UX,UY,UZ,
  MSMALL A,SB,SC,SD,SE,SF,SG,SH,SI,SJ,SK,SL,SM,SN,SO,SP,SQ,SR,SS,ST,SU,SV,SW,SX,SY,SZ,
  HITALIC CAPITAL A,WB,WC,WD,WE,WF,WG,WH,WI,WJ,WK,WL,WM,WN,WO,WP,WQ,WR,WS,WT,WU,WV,WW,WX,WY,WZ,
  OSMALL A,UB,UC,UD,UE,UF,UG,UH,UI,UJ,UK,UL,UM,UN,UO,UP,UQ,UR,US,UT,UU,UV,UW,UX,UY,UZ,
  HBOLD ITALIC CAPITAL A,[ B,[ C,[ D,[ E,[ F,[ G,[ H,[ I,[ J,[ K,[ L,[ M,[ N,[ O,[ P,[ Q,[ R,[ S,
  [ T,[ U,[ V,[ W,[ X,[ Y,[ Z,TSMALL A,ZB,ZC,ZD,ZE,ZF,ZG,ZH,ZI,ZJ,ZK,ZL,ZM,ZN,ZO,ZP,ZQ,ZR,ZS,ZT,
  ZU,ZV,ZW,ZX,ZY,ZZ,=MONOSPACE CAPITAL A,OB,OC,OD,OE,OF,OG,OH,OI,OJ,OK,OL,OM,ON,OO,OP,OQ,OR,OS,OT,
  OU,OV,OW,OX,OY,OZ,GSMALL A,MB,MC,MD,ME,MF,MG,MH,MI,MJ,MK,ML,MM,MN,MO,MP,MQ,MR,MS,MT,MU,MV,MW,MX,
  MY,MZ,=ITALIC SMALL DOTLESS I,RJ,!1D6A8,=BOLD CAPITAL ALPHA,JBETA,JGAMMA,JDELTA,JEPSILON,JZETA,
  JETA,JTHETA,JIOTA,JKAPPA,JLAMDA,JMU,JNU,JXI,JOMICRON,JPI,JRHO,JTHETA SYMBOL,JSIGMA,JTAU,
  JUPSILON,JPHI,JCHI,JPSI,JOMEGA,BNABLA,BSMALL ALPHA,HBETA,HGAMMA,HDELTA,HEPSILON,HZETA,HETA,
  HTHETA,HIOTA,HKAPPA,HLAMDA,HMU,HNU,HXI,HOMICRON,HPI,HRHO,HFINAL SIGMA,HSIGMA,HTAU,HUPSILON,HPHI,
  HCHI,HPSI,HOMEGA,BPARTIAL DIFFERENTIAL,BEPSILON SYMBOL,BTHETA SYMBOL,BKAPPA SYMBOL,BPHI SYMBOL,
  BRHO SYMBOL,BPI SYMBOL,=ITALIC CAPITAL ALPHA,LBETA,LGAMMA,LDELTA,LEPSILON,LZETA,LETA,LTHETA,
  LIOTA,LKAPPA,LLAMDA,LMU,LNU,LXI,LOMICRON,LPI,LRHO,LTHETA SYMBOL,LSIGMA,LTAU,LUPSILON,LPHI,LCHI,
  LPSI,LOMEGA,DNABLA,DSMALL ALPHA,JBETA,JGAMMA,JDELTA,JEPSILON,JZETA,JETA,JTHETA,JIOTA,JKAPPA,
  JLAMDA,JMU,JNU,JXI,JOMICRON,JPI,JRHO,JFINAL SIGMA,JSIGMA,JTAU,JUPSILON,JPHI,JCHI,JPSI,JOMEGA,
  DPARTIAL DIFFERENTIAL,DEPSILON SYMBOL,DTHETA SYMBOL,DKAPPA SYMBOL,DPHI SYMBOL,DRHO SYMBOL,
  DPI SYMBOL,=BOLD ITALIC CAPITAL ALPHA,QBETA,QGAMMA,QDELTA,QEPSILON,QZETA,QETA,QTHETA,QIOTA,
  QKAPPA,QLAMDA,QMU,QNU,QXI,QOMICRON,QPI,QRHO,QTHETA SYMBOL,QSIGMA,QTAU,QUPSILON,QPHI,QCHI,QPSI,
  QOMEGA,INABLA,ISMALL ALPHA,OBETA,OGAMMA,ODELTA,OEPSILON,OZETA,OETA,OTHETA,OIOTA,OKAPPA,OLAMDA,
  OMU,ONU,OXI,OOMICRON,OPI,ORHO,OFINAL SIGMA,OSIGMA,OTAU,OUPSILON,OPHI,OCHI,OPSI,OOMEGA,
  IPARTIAL DIFFERENTIAL,IEPSILON SYMBOL,ITHETA SYMBOL,IKAPPA SYMBOL,IPHI SYMBOL,IRHO SYMBOL,
  IPI SYMBOL,=SANS-SERIF BOLD CAPITAL ALPHA,UBETA,UGAMMA,UDELTA,UEPSILON,UZETA,UETA,UTHETA,UIOTA,
  UKAPPA,ULAMDA,UMU,UNU,UXI,UOMICRON,UPI,URHO,UTHETA SYMBOL,USIGMA,UTAU,UUPSILON,UPHI,UCHI,UPSI,
  UOMEGA,MNABLA,MSMALL ALPHA,SBETA,SGAMMA,SDELTA,SEPSILON,SZETA,SETA,STHETA,SIOTA,SKAPPA,SLAMDA,
  SMU,SNU,SXI,SOMICRON,SPI,SRHO,SFINAL SIGMA,SSIGMA,STAU,SUPSILON,SPHI,SCHI,SPSI,SOMEGA,
  MPARTIAL DIFFERENTIAL,MEPSILON SYMBOL,MTHETA SYMBOL,MKAPPA SYMBOL,MPHI SYMBOL,MRHO SYMBOL,
  MPI SYMBOL,MITALIC CAPITAL ALPHA,[ BETA,[ GAMMA,[ DELTA,[ EPSILON,[ ZETA,[ ETA,[ THETA,[ IOTA,
  [ KAPPA,[ LAMDA,[ MU,[ NU,[ XI,[ OMICRON,[ PI,[ RHO,[ THETA SYMBOL,[ SIGMA,[ TAU,[ UPSILON,
  [ PHI,[ CHI,[ PSI,[ OMEGA,TNABLA,TSMALL ALPHA,ZBETA,ZGAMMA,ZDELTA,ZEPSILON,ZZETA,ZETA,ZTHETA,
  ZIOTA,ZKAPPA,ZLAMDA,ZMU,ZNU,ZXI,ZOMICRON,ZPI,ZRHO,ZFINAL SIGMA,ZSIGMA,ZTAU,ZUPSILON,ZPHI,ZCHI,
  ZPSI,ZOMEGA,TPARTIAL DIFFERENTIAL,TEPSILON SYMBOL,TTHETA SYMBOL,TKAPPA SYMBOL,TPHI SYMBOL,
  TRHO SYMBOL,TPI SYMBOL,=BOLD CAPITAL DIGAMMA,BSMALL DIGAMMA,!1D7CE,BDIGIT ZERO,HONE,HTWO,IHREE,
  HFOUR,IIVE,HSIX,IEVEN,HEIGHT,HNINE,=DOUBLE-STRUCK DIGIT ZERO,QONE,QTWO,RHREE,QFOUR,RIVE,QSIX,
  REVEN,QEIGHT,QNINE,=SANS-SERIF DIGIT ZERO,NONE,NTWO,OHREE,NFOUR,OIVE,NSIX,OEVEN,NEIGHT,NNINE,
  HBOLD DIGIT ZERO,SONE,STWO,THREE,SFOUR,TIVE,SSIX,TEVEN,SEIGHT,SNINE,=MONOSPACE DIGIT ZERO,MONE,
  MTWO,NHREE,MFOUR,NIVE,MSIX,NEVEN,MEIGHT,MNINE,0SIGNWRITING HAND-FIST INDEX,ACIRCLE INDEX,
  BUP INDEX,AOVAL INDEX,AHINGE INDEX,AANGLE INDEX,AFIST INDEX BENT,ACIRCLE INDEX BENT,
  AFIST THUMB UNDER INDEX BENT,FINDEX RAISED KNUCKLE,LCUPPED,LHINGED,R LOW,ACIRCLE INDEX HINGE,
  AFIST INDEX MIDDLE,ACIRCLE INDEX MIDDLE,AFIST INDEX MIDDLE BENT,SRAISED KNUCKLES,SHINGED,
  LUP MIDDLE HINGED,LHINGED MIDDLE UP,LMIDDLE CONJOINED,[D INDEX BENT,[D MIDDLE BENT,[D CUPPED,
  [D HINGED,TROSSED,ACIRCLE INDEX MIDDLE CROSSED,AFIST MIDDLE BENT OVER INDEX,
  FINDEX BENT OVER MIDDLE,LMIDDLE THUMB,ACIRCLE INDEX MIDDLE THUMB,
  AFIST INDEX MIDDLE STRAIGHT THUMB BENT,SBENT THUMB STRAIGHT,STHUMB BENT,
  SHINGED SPREAD THUMB SIDE,LUP MIDDLE HINGED THUMB SIDE,[D THUMB CONJOINED,
  LHINGED MIDDLE UP THUMB SIDE,LMIDDLE UP SPREAD THUMB FORWARD,STHUMB CUPPED,ZIRCLED,YHOOKED,
  ZINGED,FTHUMB BETWEEN INDEX MIDDLE STRAIGHT,FINDEX MIDDLE CONJOINED THUMB SIDE,
  [D THUMB SIDE CONJOINED,[D THUMB SIDE BENT,FMIDDLE THUMB HOOKED INDEX UP,
  FINDEX THUMB HOOKED MIDDLE UP,LMIDDLE CONJOINED HINGED THUMB SIDE,TROSSED THUMB SIDE,
  TONJOINED THUMB FORWARD,[D CUPPED THUMB FORWARD,FMIDDLE THUMB CUPPED INDEX UP,
  FINDEX THUMB CUPPED MIDDLE UP,FMIDDLE THUMB CIRCLED INDEX UP,[INDEX HINGED,
  FINDEX THUMB ANGLED OUT MIDDLE UP,YIN MIDDLE UP,RCIRCLED MIDDLE UP,
  LMIDDLE THUMB CONJOINED HINGED,YANGLED OUT,[GLED,FMIDDLE THUMB ANGLED OUT INDEX UP,
  [UT INDEX CROSSED,ZINDEX UP,FINDEX THUMB HOOKED MIDDLE HINGED,BLAT FOUR FINGERS,R BENT,SHINGED,
  SCONJOINED,[D SPLIT,ACLAW FOUR FINGERS CONJOINED,AFIST FOUR FINGERS CONJOINED BENT,
  AHINGE FOUR FINGERS CONJOINED,AFLAT FIVE FINGERS SPREAD,FHEEL FIVE FINGERS SPREAD,
  FFIVE FINGERS SPREAD FOUR BENT,FHEEL FIVE FINGERS SPREAD FOUR BENT,FFIVE FINGERS SPREAD BENT,
  FHEEL FIVE FINGERS SPREAD BENT,FFIVE FINGERS SPREAD THUMB FORWARD,ACUP FIVE FINGERS SPREAD,
  X OPEN,AHINGE FIVE FINGERS SPREAD OPEN,AOVAL FIVE FINGERS SPREAD,
  AFLAT FIVE FINGERS SPREAD HINGED,[INGED THUMB SIDE,[INGED NO THUMB,E,E BETWEEN PALM FACINGS,
  FHEEL,FTHUMB SIDE,FHEEL THUMB SIDE,FTHUMB BENT,LFORWARD,FSPLIT INDEX THUMB SIDE,LCENTRE,
  R THUMB SIDE,[DE BENT,LLITTLE,ACLAW,E THUMB SIDE,FNO THUMB,FTHUMB FORWARD,AHOOK CURLICUE,E,
  ACUP OPEN,D,D OPEN THUMB SIDE,ETHUMB SIDE,EOPEN NO THUMB,ENO THUMB,EOPEN THUMB FORWARD,
  ETHUMB FORWARD,CRLICUE OPEN,I,BIRCLE,AOVAL,E THUMB SIDE,FNO THUMB,FTHUMB FORWARD,AHINGE OPEN,
  K THUMB FORWARD,F,F SMALL,GOPEN THUMB SIDE,GTHUMB SIDE,GOPEN NO THUMB,GNO THUMB,
  GTHUMB SIDE TOUCHING INDEX,MBETWEEN MIDDLE RING,AANGLE,AFIST INDEX MIDDLE RING,
  ACIRCLE INDEX MIDDLE RING,AHINGE INDEX MIDDLE RING,AANGLE INDEX MIDDLE RING,AHINGE LITTLE,
  AFIST INDEX MIDDLE RING BENT,XCONJOINED,AHINGE INDEX MIDDLE RING CONJOINED,AFIST LITTLE DOWN,
  Q RIPPLE STRAIGHT,YCURVED,ROTHERS CIRCLED,MUP,FTHUMB UNDER LITTLE UP,ACIRCLE LITTLE UP,
  AOVAL LITTLE UP,AANGLE LITTLE UP,AFIST LITTLE RAISED KNUCKLE,MBENT,MTOUCHES THUMB,NHUMB,
  AHINGE LITTLE THUMB,AFIST LITTLE INDEX THUMB,AHINGE LITTLE INDEX THUMB,
  AANGLE LITTLE INDEX THUMB INDEX THUMB OUT,[NDEX THUMB,AFIST LITTLE INDEX,ACIRCLE LITTLE INDEX,
  AHINGE LITTLE INDEX,AANGLE LITTLE INDEX,AFIST INDEX MIDDLE LITTLE,ACIRCLE INDEX MIDDLE LITTLE,
  AHINGE INDEX MIDDLE LITTLE,GRING,AANGLE INDEX MIDDLE LITTLE,AFIST INDEX MIDDLE CROSS LITTLE,
  ACIRCLE INDEX MIDDLE CROSS LITTLE,AFIST RING DOWN,AHINGE RING DOWN INDEX THUMB HOOK MIDDLE,
  AANGLE RING DOWN MIDDLE THUMB INDEX CROSS,AFIST RING UP,KRAISED KNUCKLE,KLITTLE,
  ACIRCLE RING LITTLE,AOVAL RING LITTLE,AANGLE RING LITTLE,AFIST RING MIDDLE,Q CONJOINED,
  RRAISED KNUCKLES,KINDEX,KTHUMB,AHOOK RING THUMB,AFIST INDEX RING LITTLE,
  ACIRCLE INDEX RING LITTLE,BURLICUE INDEX RING LITTLE ON,AHOOK INDEX RING LITTLE OUT,XIN,XUNDER,
  ACUP INDEX RING LITTLE,AHINGE INDEX RING LITTLE,AANGLE INDEX RING LITTLE OUT,X,
  AFIST MIDDLE DOWN,AHINGE MIDDLE,AFIST MIDDLE UP,ACIRCLE MIDDLE UP,AFIST MIDDLE RAISED KNUCKLE,
  MUP THUMB SIDE,AHOOK MIDDLE THUMB,AFIST MIDDLE THUMB LITTLE,MLITTLE,MRING LITTLE,
  ACIRCLE MIDDLE RING LITTLE,BURLICUE MIDDLE RING LITTLE ON,CP MIDDLE RING LITTLE,
  AHINGE MIDDLE RING LITTLE,AANGLE MIDDLE RING LITTLE OUT,ZIN,Y,ACIRCLE MIDDLE RING LITTLE BENT,
  BLAW MIDDLE RING LITTLE CONJOINED,[NJOINED SIDE,AHOOK MIDDLE RING LITTLE CONJOINED OUT,
  [NJOINED IN,[NJOINED,BINGE INDEX HINGED,AFIST INDEX THUMB SIDE,AHINGE INDEX THUMB SIDE,
  AFIST INDEX THUMB SIDE THUMB DIAGONAL,[B CONJOINED,[B BENT,WINDEX BENT,WBOTH BENT,WINDEX HINGE,
  RFORWARD INDEX STRAIGHT,[NDEX BENT,RHOOK,RCURLICUE,UVE THUMB INSIDE,
  ACLAW INDEX THUMB CURVE THUMB INSIDE,AFIST INDEX THUMB CURVE THUMB UNDER,SIRCLE,
  ACUP INDEX THUMB,P OPEN,AHINGE INDEX THUMB OPEN,SLARGE,R,R SMALL,AANGLE INDEX THUMB OUT,SIN,R,
  AFIST THUMB,K HEEL,LSIDE DIAGONAL,QCONJOINED,QBENT,LFORWARD,LBETWEEN INDEX MIDDLE,TMIDDLE RING,
  TRING LITTLE,LUNDER TWO FINGERS,LOVER TWO FINGERS,LUNDER THREE FINGERS,RFOUR FINGERS,
  LOVER FOUR RAISED KNUCKLES,E,E HEEL,<TOUCH SINGLE,BMULTIPLE,BBETWEEN,<GRASP SINGLE,BMULTIPLE,
  BBETWEEN,<STRIKE SINGLE,CMULTIPLE,CBETWEEN,<BRUSH SINGLE,BMULTIPLE,BBETWEEN,<RUB SINGLE,
  @MULTIPLE,@BETWEEN,<SURFACE SYMBOLS,DBETWEEN,=QUEEZE LARGE SINGLE,DSMALL SINGLE,DLARGE MULTIPLE,
  DSMALL MULTIPLE,EEQUENTIAL,<FLICK LARGE SINGLE,BSMALL SINGLE,BLARGE MULTIPLE,BSMALL MULTIPLE,
  CEQUENTIAL,<SQUEEZE FLICK ALTERNATING,<MOVEMENT-HINGE UP DOWN LARGE,SSMALL,NSEQUENTIAL,
  KDOWN SEQUENTIAL,KUP DOWN ALTERNATING LARGE,[ING SMALL,KSIDE TO SIDE SCISSORS,
  EWALLPLANE FINGER CONTACT,EFLOORPLANE FINGER CONTACT,EWALLPLANE SINGLE STRAIGHT SMALL,
  [GHT MEDIUM,[GHT LARGE,[GHT LARGEST,VWRIST FLEX,ODOUBLE STRAIGHT,VWRIST FLEX,VALTERNATING,
  [NATING WRIST FLEX,OCROSS,OTRIPLE STRAIGHT MOVEMENT,VWRIST FLEX,VALTERNATING,[NATING WRIST FLEX,
  OBEND SMALL,TMEDIUM,TLARGE,OCORNER SMALL,VMEDIUM,VLARGE,VROTATION,PHECK SMALL,UMEDIUM,ULARGE,
  OBOX SMALL,SMEDIUM,SLARGE,OZIGZAG SMALL,VMEDIUM,VLARGE,OPEAKS SMALL,UMEDIUM,ULARGE,
  <TRAVEL-WALLPLANE ROTATION-WALLPLANE SINGLE,[LANE DOUBLE,[LANE ALTERNATING,VFLOORPLANE SINGLE,
  [PLANE DOUBLE,[PLANE ALTERNATING,MSHAKING,MARM SPIRAL SINGLE,XDOUBLE,XTRIPLE,
  <MOVEMENT-DIAGONAL AWAY SMALL,SMEDIUM,SLARGE,XST,NTOWARDS SMALL,VMEDIUM,VLARGE,[ST,
  NBETWEEN AWAY SMALL,[MEDIUM,[LARGE,[LARGEST,VTOWARDS SMALL,[DS MEDIUM,[DS LARGE,[DS LARGEST,
  EFLOORPLANE SINGLE STRAIGHT SMALL,[IGHT MEDIUM,[IGHT LARGE,[IGHT LARGEST,WWRIST FLEX,
  PDOUBLE STRAIGHT,WWRIST FLEX,WALTERNATING,[RNATING WRIST FLEX,PCROSS,PTRIPLE STRAIGHT MOVEMENT,
  WWRIST FLEX,WALTERNATING MOVEMENT,[RNATING WRIST FLEX,PBEND,PCORNER SMALL,WMEDIUM,WLARGE,QHECK,
  PBOX SMALL,TMEDIUM,TLARGE,PZIGZAG SMALL,WMEDIUM,WLARGE,PPEAKS SMALL,VMEDIUM,VLARGE,
  <TRAVEL-FLOORPLANE ROTATION-FLOORPLANE SINGLE,[RPLANE DOUBLE,[RPLANE ALTERNATING,
  WWALLPLANE SINGLE,[PLANE DOUBLE,[PLANE ALTERNATING,NSHAKING,
  <MOVEMENT-WALLPLANE CURVE QUARTER SMALL,[R MEDIUM,[R LARGE,[R LARGEST,UHALF-CIRCLE SMALL,
  [IRCLE MEDIUM,[IRCLE LARGE,[IRCLE LARGEST,UTHREE-QUARTER CIRCLE SMALL,[QUARTER CIRCLE MEDIUM,
  OHUMP SMALL,TMEDIUM,TLARGE,OLOOP SMALL,TMEDIUM,TLARGE,TSMALL DOUBLE,OWAVE CURVE DOUBLE SMALL,
  [OUBLE MEDIUM,[OUBLE LARGE,ZTRIPLE SMALL,[RIPLE MEDIUM,[RIPLE LARGE,OCURVE THEN STRAIGHT,
  TD CROSS SMALL,[ MEDIUM,<ROTATION-WALLPLANE SINGLE,ODOUBLE,OALTERNATE,
  <MOVEMENT-WALLPLANE SHAKING,OCURVE HITTING FRONT WALL,OHUMP HITTING FRONT WALL,
  OLOOP HITTING FRONT WALL,OWAVE HITTING FRONT WALL,<ROTATION-WALLPLANE SINGLE HITTING FRONT WALL,
  ODOUBLE HITTING FRONT WALL,OALTERNATING HITTING FRONT WALL,
  <MOVEMENT-WALLPLANE CURVE HITTING CHEST,OHUMP HITTING CHEST,OLOOP HITTING CHEST,
  OWAVE HITTING CHEST,<ROTATION-WALLPLANE SINGLE HITTING CHEST,ODOUBLE HITTING CHEST,
  OALTERNATING HITTING CHEST,<MOVEMENT-WALLPLANE WAVE DIAGONAL PATH SMALL,[L PATH MEDIUM,
  [L PATH LARGE,EFLOORPLANE CURVE HITTING CEILING SMALL,[NG CEILING LARGE,
  PHUMP HITTING CEILING SMALL DOUBLE,[G CEILING LARGE DOUBLE,[G CEILING SMALL TRIPLE,
  [G CEILING LARGE TRIPLE,PLOOP HITTING CEILING SMALL SINGLE,[G CEILING LARGE SINGLE,
  [G CEILING SMALL DOUBLE,[G CEILING LARGE DOUBLE,PWAVE HITTING CEILING SMALL,[G CEILING LARGE,
  <ROTATION-FLOORPLANE SINGLE HITTING CEILING,PDOUBLE HITTING CEILING,
  PALTERNATING HITTING CEILING,<MOVEMENT-FLOORPLANE CURVE HITTING FLOOR SMALL,[NG FLOOR LARGE,
  PHUMP HITTING FLOOR SMALL DOUBLE,[G FLOOR LARGE DOUBLE,[G FLOOR TRIPLE SMALL TRIPLE,
  [G FLOOR TRIPLE LARGE TRIPLE,PLOOP HITTING FLOOR SMALL SINGLE,[G FLOOR LARGE SINGLE,
  [G FLOOR SMALL DOUBLE,[G FLOOR LARGE DOUBLE,PWAVE HITTING FLOOR SMALL,[G FLOOR LARGE,
  <ROTATION-FLOORPLANE SINGLE HITTING FLOOR,PDOUBLE HITTING FLOOR,PALTERNATING HITTING FLOOR,
  <MOVEMENT-FLOORPLANE CURVE SMALL,VMEDIUM,VLARGE,[ST,VCOMBINED,PHUMP SMALL,PLOOP SMALL,
  PWAVE SNAKE,VMALL,ULARGE,<ROTATION-FLOORPLANE SINGLE,PDOUBLE,PALTERNATING,
  <MOVEMENT-FLOORPLANE SHAKING PARALLEL,EWALLPLANE ARM CIRCLE SMALL SINGLE,ZMEDIUM SINGLE,
  ZSMALL DOUBLE,ZMEDIUM DOUBLE,EFLOORPLANE ARM CIRCLE HITTING WALL SMALL SINGLE,
  [HITTING WALL MEDIUM SINGLE,[HITTING WALL LARGE SINGLE,[HITTING WALL SMALL DOUBLE,
  [HITTING WALL MEDIUM DOUBLE,[HITTING WALL LARGE DOUBLE,EWALLPLANE WRIST CIRCLE FRONT SINGLE,
  [ FRONT DOUBLE,EFLOORPLANE WRIST CIRCLE HITTING WALL SINGLE,[E HITTING WALL DOUBLE,
  EWALLPLANE FINGER CIRCLES SINGLE,[ES DOUBLE,EFLOORPLANE FINGER CIRCLES HITTING WALL SINGLE,
  [LES HITTING WALL DOUBLE,<DYNAMIC ARROWHEAD SMALL,NLARGE,DFAST,DSLOW,DTENSE,DRELAXED,
  DSIMULTANEOUS,P ALTERNATING,DEVERY OTHER TIME,DGRADUAL,<HEAD,@ RIM,AMOVEMENT-WALLPLANE STRAIGHT,
  TTILT,JFLOORPLANE STRAIGHT,JWALLPLANE CURVE,JFLOORPLANE CURVE,I CIRCLE,
  <FACE DIRECTION POSITION NOSE FORWARD TILTING,YUP OR DOWN,[ OR DOWN TILTING,
  <EYEBROWS STRAIGHT UP,NNEUTRAL,NDOWN,<DREAMY EYEBROWS NEUTRAL DOWN,LDOWN NEUTRAL,LUP NEUTRAL,
  LNEUTRAL UP,<FOREHEAD NEUTRAL,ECONTACT,EWRINKLED,<EYES OPEN,ASQUEEZED,ACLOSED,? BLINK SINGLE,
  FMULTIPLE,?S HALF OPEN,AWIDE OPEN,AHALF CLOSED,AWIDENING MOVEMENT,? WINK,?LASHES UP,FDOWN,
  FFLUTTERING,?GAZE-WALLPLANE STRAIGHT,V DOUBLE,WALTERNATING,DFLOORPLANE STRAIGHT,W DOUBLE,
  XALTERNATING,DWALLPLANE CURVED,DFLOORPLANE CURVED,DWALLPLANE CIRCLING,<CHEEKS PUFFED,CNEUTRAL,
  CSUCKED,<TENSE CHEEKS HIGH,IMIDDLE,ILOW,<EARS,<NOSE NEUTRAL,ACONTACT,AWRINKLES,BIGGLES,
  <AIR BLOWING OUT,@SUCKING IN,@BLOW SMALL ROTATIONS,@SUCK SMALL ROTATIONS,<BREATH INHALE,CEXHALE,
  <MOUTH CLOSED NEUTRAL,IFORWARD,ICONTACT,BSMILE,G WRINKLED,HOPEN,BFROWN,G WRINKLED,HOPEN,
  BOPEN CIRCLE,GFORWARD,GWRINKLED,GOVAL,K WRINKLED,LYAWN,GRECTANGLE,P WRINKLED,QYAWN,BKISS,
  F FORWARD,GWRINKLED,BTENSE,G FORWARD,HSUCKED,<LIPS PRESSED TOGETHER,? LOWER OVER UPPER,
  @UPPER OVER LOWER,<MOUTH CORNERS,BWRINKLES SINGLE,KDOUBLE,<TONGUE STICKING OUT FAR,
  CLICKING LIPS,CTIP BETWEEN LIPS,GTOUCHING INSIDE MOUTH,CINSIDE MOUTH RELAXED,
  CMOVES AGAINST CHEEK,CCENTRE STICKING OUT,JINSIDE MOUTH,=EETH,A MOVEMENT,BON TONGUE,K MOVEMENT,
  ELIPS,I MOVEMENT,BBITE LIPS,<MOVEMENT-WALLPLANE JAW,EFLOORPLANE JAW,<NECK,<HAIR,<EXCITEMENT,
  <SHOULDER HIP SPINE,IPOSITIONS,<WALLPLANE SHOULDER HIP MOVE,<FLOORPLANE SHOULDER HIP MOVE,
  <SHOULDER TILTING FROM WAIST,<TORSO-WALLPLANE STRAIGHT STRETCH,LCURVED BEND,
  BFLOORPLANE TWISTING,<UPPER BODY TILTING FROM HIP JOINTS,<LIMB COMBINATION,ALENGTH-1,H2,H3,H4,
  H5,H6,H7,<FINGER,<LOCATION-WALLPLANE SPACE,EFLOORPLANE SPACE,D HEIGHT,EWIDTH,EDEPTH,EHEAD NECK,
  ETORSO,ELIMBS DIGITS,<COMMA,<FULL STOP,<SEMICOLON,<COLON,<PARENTHESIS,!1DA9B,<FILL MODIFIER-2,
  J3,J4,J5,J6,!1DAA1,<ROTATION MODIFIER-2,N3,N4,N5,N6,N7,N8,N9,N10,O1,O2,O3,O4,O5,O6,!1DF00,
  0LATIN SMALL LETTER FENG DIGRAPH WITH TRILL,CREVERSED SCRIPT G,6LETTER SMALL CAPITAL TURNED G,
  6SMALL LETTER REVERSED K,6LETTER SMALL CAPITAL L WITH BELT,
  6SMALL LETTER LEZH WITH RETROFLEX HOOK,CTURNED Y WITH BELT,CREVERSED ENG,
  CTURNED R WITH LONG LEG AND RETROFLEX HOOK,D WITH HOOK AND RETROFLEX HOOK,
  6LETTER RETROFLEX CLICK WITH RETROFLEX HOOK,6SMALL LETTER ESH WITH DOUBLE BAR,V AND CURL,
  CTURNED T WITH CURL,6LETTER INVERTED GLOTTAL STOP WITH CURL,=STRETCHED C WITH CURL,
  >MALL CAPITAL TURNED K,6SMALL LETTER L WITH FISHHOOK,CDEZH DIGRAPH WITH PALATAL HOOK,
  CL WITH BELT AND PALATAL HOOK,CENG WITH PALATAL HOOK,CTURNED R WITH PALATAL HOOK,
  CR WITH FISHHOOK AND PALATAL HOOK,CTESH DIGRAPH WITH PALATAL HOOK,CEZH WITH PALATAL HOOK,
  CDEZH DIGRAPH WITH RETROFLEX HOOK,CI WITH STROKE AND RETROFLEX HOOK,CO WITH RETROFLEX HOOK,
  CTESH DIGRAPH WITH RETROFLEX HOOK,CC WITH RETROFLEX HOOK,CS WITH CURL,!1E000,
  0COMBINING GLAGOLITIC LETTER AZU,LBUKY,LVEDE,LGLAGOLI,LDOBRO,LYESTU,LZHIVETE,!1E008,MEMLJA,
  LIZHE,MNITIAL IZHE,M,LDJERVI,LKAKO,LLJUDIJE,LMYSLITE,LNASHI,LONU,LPOKOJI,LRITSI,LSLOVO,LTVRIDO,
  LUKU,LFRITU,LHERU,!1E01B,LSHTA,LTSI,LCHRIVI,LSHA,LYERU,OI,MATI,!1E023,MU,LSMALL YUS,!1E026,LYO,
  LIOTATED SMALL YUS,LBIG YUS,LIOTATED BIG YUS,LFITA,!1E100,0NYIAKENG PUACHUE HMONG LETTER MA,
  NTSA,NNTA,NTA,NHA,NNA,NXA,NNKA,NCA,NLA,NSA,NZA,NNCA,OTSA,NKA,NDA,NNYA,ORA,NVA,NNTXA,NTXA,NFA,
  NRA,NQA,NYA,NNQA,NPA,NXYA,NNPA,NDLA,NNPLA,NHAH,NMLA,NPLA,NGA,NRRA,NA,OA,NI,NU,NO,OO,NE,OE,NW,
  !1E130,GTONE-B,LM,LJ,LV,LS,LG,LD,GSIGN FOR PERSON,PTHING,PLOCATION,PANIMAL,PINVERTEBRATE,LXW XW,
  HYLLABLE LENGTHENER,!1E140,GDIGIT ZERO,MONE,MTWO,NHREE,MFOUR,NIVE,MSIX,NEVEN,MEIGHT,MNINE,
  !1E14E,GLOGOGRAM NYAJ,GCIRCLED CA,!1E290,0TOTO LETTER PA,<BA,<TA,<DA,<KA,<GA,<MA,<NA,=GA,<SA,
  <CHA,<YA,<WA,<JA,<HA,<RA,<LA,<I,<BREATHY I,<IU,<BREATHY IU,<U,<E,<BREATHY E,<EO,<BREATHY EO,<O,
  <AE,<BREATHY AE,<A,5SIGN RISING TONE,!1E2C0,0WANCHO LETTER AA,?,>BA,>CA,>DA,>GA,>YA,>PHA,>LA,
  >NA,>PA,>TA,?HA,>FA,>SA,?HA,>JA,>ZA,>WA,>VA,>KA,>O,>AU,>RA,>MA,>KHA,>HA,>E,>I,>NGA,>U,>LLHA,
  >TSA,?RA,>ONG,>AANG,?NG,>ING,>ON,>EN,>AAN,>NYA,>UEN,>YIH,7TONE TUP,?NI,<KOI,?NI,7DIGIT ZERO,
  =ONE,=TWO,>HREE,=FOUR,>IVE,=SIX,>EVEN,=EIGHT,=NINE,!1E2FF,7NGUN SIGN,!1E7E0,
  0ETHIOPIC SYLLABLE HHYA,EU,EI,EAA,EEE,F,EO,!1E7E8,BGURAGE HHWA,BHHWI,EEE,F,!1E7ED,BGURAGE MWI,
  KEE,!1E7F0,IQWI,KEE,L,IBWI,KEE,IKWI,KEE,L,IGWI,KEE,L,IFWI,KEE,IPWI,KEE,!1E800,
  0MENDE KIKAKUI SYLLABLE M001 KI,J2 KA,J3 KU,I65 KEE,I95 KE,I76 KOO,I48 KO,H179 KUA,H004 WI,
  J5 WA,J6 WU,H126 WEE,I18 WE,J4 WOO,H045 WO,H194 WUI,I43 WEI,H061 WVI,I49 WVA,H139 WVE,H007 MIN,
  J8 MAN,J9 MUN,I59 MEN,I94 MON,H154 MUAN,I89 MUEN,H010 BI,J1 BA,J2 BU,H150 BEE,H097 BE,H103 BOO,
  I38 BO,H013 I,J4 A,J5 U,H163 EE,I00 E,I65 OO,I47 O,I37 EI,J1 IN,J5 IN,I95 AN,I78 EN,H019 SI,
  I20 SA,J1 SU,H162 SEE,I16 SE,I36 SOO,H079 SO,H196 SIA,H025 LI,J6 LA,J7 LU,I84 LEE,I73 LE,
  I54 LOO,H153 LO,I10 LONG LE,H016 DI,J7 DA,J8 DU,I89 DEE,H180 DOO,J1 DO,H022 TI,J3 TA,J4 TU,
  I91 TEE,I55 TE,H104 TOO,H069 TO,I28 JI,J9 JA,I30 JU,H157 JEE,I13 JE,I60 JOO,H063 JO,
  H175 LONG JO,H031 YI,J2 YA,J3 YU,H109 YEE,H080 YE,H141 YOO,I21 YO,H034 FI,J5 FA,J6 FU,I78 FEE,
  J5 FE,H133 FOO,H088 FO,H197 FUA,I01 FAN,H037 NIN,J8 NAN,J9 NUN,H117 NEN,I69 NON,I76 HI,H041 HA,
  H186 HU,H040 HEE,I96 HE,I42 HOO,H140 HO,H083 HEEI,H128 HOOU,H053 HIN,H130 HAN,H087 HUN,I52 HEN,
  H193 HON,H046 HUAN,I90 NGGI,I43 NGGA,I82 NGGU,H115 NGGEE,I46 NGGE,I56 NGGOO,I20 NGGO,I59 NGGAA,
  I27 NGGUA,H086 LONG NGGE,H106 LONG NGGOO,I83 LONG NGGO,I55 GI,I11 GA,I68 GU,I90 GEE,I66 GUEI,
  J7 GUAN,I84 NGEN,H057 NGON,H177 NGUAN,H068 PI,I99 PA,I50 PU,I81 PEE,I51 PE,H102 POO,H066 PO,
  H145 MBI,H062 MBA,H122 MBU,H047 MBEE,H188 MBEE,H072 MBE,H172 MBOO,J4 MBO,I87 MBUU,I61 LONG MBE,
  I05 LONG MBOO,I42 LONG MBO,I32 KPI,H092 KPA,I74 KPU,I44 KPEE,H108 KPE,I12 KPOO,I58 KPO,I24 GBI,
  H056 GBA,H148 GBU,H093 GBEE,H107 GBE,H071 GBOO,J0 GBO,H171 RA,I23 NDI,J9 NDA,J5 NDU,I91 NDEE,
  I19 NDE,H067 NDOO,J4 NDO,H152 NJA,I92 NJU,I49 NJEE,I34 NJOO,I82 VI,J5 VA,I51 VU,I73 VEE,H085 VE,
  H144 VOO,H077 VO,H164 NYIN,H058 NYAN,H170 NYUN,H098 NYEN,I60 NYON,!1E8C7,>DIGIT ONE,DTWO,EHREE,
  DFOUR,EIVE,DSIX,EEVEN,DEIGHT,DNINE,>COMBINING NUMBER TEENS,QNS,OHUNDREDS,OTHOUSANDS,
  PEN THOUSANDS,OHUNDRED THOUSANDS,OMILLIONS,!1E900,0ADLAM CAPITAL LETTER ALIF,EDAALI,ELAAM,EMIIM,
  EBA,ESINNYIIYHE,EPE,EBHE,ERA,EE,EFA,EI,EO,EDHA,EYHE,EWAW,ENUN,EKAF,EYA,EU,EJIIM,ECHI,EHA,EQAAF,
  EGA,ENYA,ETU,ENHA,EVA,EKHA,EGBE,EZAL,EKPO,ESHA,6SMALL LETTER ALIF,CDAALI,CLAAM,CMIIM,CBA,
  CSINNYIIYHE,CPE,CBHE,CRA,CE,CFA,CI,CO,CDHA,CYHE,CWAW,CNUN,CKAF,CYA,CU,CJIIM,CCHI,CHA,CQAAF,CGA,
  CNYA,CTU,CNHA,CVA,CKHA,CGBE,CZAL,CKPO,CSHA,6ALIF LENGTHENER,6VOWEL LENGTHENER,6GEMINATION MARK,
  6HAMZA,6CONSONANT MODIFIER,6GEMINATE CONSONANT MODIFIER,6NUKTA,7ASALIZATION MARK,!1E950,
  6DIGIT ZERO,<ONE,<TWO,=HREE,<FOUR,=IVE,<SIX,=EVEN,<EIGHT,<NINE,!1E95E,6INITIAL EXCLAMATION MARK,
  >QUESTION MARK,!1EC71,0INDIC SIYAQ NUMBER ONE,CTWO,DHREE,CFOUR,DIVE,CSIX,DEVEN,CEIGHT,CNINE,
  CTEN,DWENTY,DHIRTY,CFORTY,DIFTY,CSIXTY,DEVENTY,CEIGHTY,CNINETY,CONE HUNDRED,CTWO HUNDRED,
  DHREE HUNDRED,CFOUR HUNDRED,DIVE HUNDRED,CSIX HUNDRED,DEVEN HUNDRED,CEIGHT HUNDRED,
  CNINE HUNDRED,CONE THOUSAND,CTWO THOUSAND,DHREE THOUSAND,CFOUR THOUSAND,DIVE THOUSAND,
  CSIX THOUSAND,DEVEN THOUSAND,CEIGHT THOUSAND,CNINE THOUSAND,CTEN THOUSAND,DWENTY THOUSAND,
  DHIRTY THOUSAND,CFORTY THOUSAND,DIFTY THOUSAND,CSIXTY THOUSAND,DEVENTY THOUSAND,
  CEIGHTY THOUSAND,CNINETY THOUSAND,CLAKH,GAN,<LAKH MARK,<NUMBER KAROR,HAN,CPREFIXED ONE,LTWO,
  MHREE,LFOUR,MIVE,LSIX,MEVEN,LEIGHT,LNINE,<PLACEHOLDER,<FRACTION ONE QUARTER,IHALF,
  ETHREE QUARTERS,<RUPEE MARK,<NUMBER ALTERNATE ONE,MTWO,NEN THOUSAND,<ALTERNATE LAKH MARK,!1ED01,
  0OTTOMAN SIYAQ NUMBER ONE,ETWO,FHREE,EFOUR,FIVE,ESIX,FEVEN,EEIGHT,ENINE,ETEN,FWENTY,FHIRTY,
  EFORTY,FIFTY,ESIXTY,FEVENTY,EEIGHTY,ENINETY,EONE HUNDRED,ETWO HUNDRED,FHREE HUNDRED,
  EFOUR HUNDRED,FIVE HUNDRED,ESIX HUNDRED,FEVEN HUNDRED,EEIGHT HUNDRED,ENINE HUNDRED,
  EONE THOUSAND,ETWO THOUSAND,FHREE THOUSAND,EFOUR THOUSAND,FIVE THOUSAND,ESIX THOUSAND,
  FEVEN THOUSAND,EEIGHT THOUSAND,ENINE THOUSAND,ETEN THOUSAND,FWENTY THOUSAND,FHIRTY THOUSAND,
  EFORTY THOUSAND,FIFTY THOUSAND,ESIXTY THOUSAND,FEVENTY THOUSAND,EEIGHTY THOUSAND,
  ENINETY THOUSAND,>MARRATAN,>ALTERNATE NUMBER TWO,PHREE,OFOUR,PIVE,OSIX,PEVEN,OEIGHT,ONINE,OTEN,
  OFOUR HUNDRED,OSIX HUNDRED,OTWO THOUSAND,PEN THOUSAND,>FRACTION ONE HALF,KSIXTH,!1EE00,
  0ARABIC MATHEMATICAL ALEF,DBEH,DJEEM,DDAL,!1EE05,DWAW,DZAIN,DHAH,DTAH,DYEH,DKAF,DLAM,DMEEM,
  DNOON,DSEEN,DAIN,DFEH,DSAD,DQAF,DREH,DSHEEN,DTEH,EHEH,DKHAH,DTHAL,DDAD,DZAH,DGHAIN,DDOTLESS BEH,
  LNOON,LFEH,LQAF,!1EE21,DINITIAL BEH,LJEEM,!1EE24,LHEH,!1EE27,MAH,!1EE29,LYEH,LKAF,LLAM,LMEEM,
  LNOON,LSEEN,LAIN,LFEH,LSAD,LQAF,!1EE34,LSHEEN,LTEH,MHEH,LKHAH,!1EE39,LDAD,!1EE3B,LGHAIN,!1EE42,
  DTAILED JEEM,!1EE47,KHAH,!1EE49,KYEH,!1EE4B,KLAM,!1EE4D,KNOON,KSEEN,KAIN,!1EE51,KSAD,KQAF,
  !1EE54,KSHEEN,!1EE57,KKHAH,!1EE59,KDAD,!1EE5B,KGHAIN,!1EE5D,KDOTLESS NOON,!1EE5F,SQAF,!1EE61,
  DSTRETCHED BEH,NJEEM,!1EE64,NHEH,!1EE67,OAH,NTAH,NYEH,NKAF,!1EE6C,NMEEM,NNOON,NSEEN,NAIN,NFEH,
  NSAD,NQAF,!1EE74,NSHEEN,NTEH,OHEH,NKHAH,!1EE79,NDAD,NZAH,NGHAIN,NDOTLESS BEH,!1EE7E,VFEH,!1EE80,
  DLOOPED ALEF,KBEH,KJEEM,KDAL,KHEH,KWAW,KZAIN,KHAH,KTAH,KYEH,!1EE8B,KLAM,KMEEM,KNOON,KSEEN,KAIN,
  KFEH,KSAD,KQAF,KREH,KSHEEN,KTEH,LHEH,KKHAH,KTHAL,KDAD,KZAH,KGHAIN,!1EEA1,DDOUBLE-STRUCK BEH,
  RJEEM,RDAL,!1EEA5,RWAW,RZAIN,RHAH,RTAH,RYEH,!1EEAB,RLAM,RMEEM,RNOON,RSEEN,RAIN,RFEH,RSAD,RQAF,
  RREH,RSHEEN,RTEH,SHEH,RKHAH,RTHAL,RDAD,RZAH,RGHAIN,!1EEF0,DOPERATOR MEEM WITH HAH WITH TATWEEL,
  MHAH WITH DAL,!1F000,0MAHJONG TILE EAST WIND,=SOUTH WIND,=WEST WIND,=NORTH WIND,=RED DRAGON,
  =GREEN DRAGON,=WHITE DRAGON,=ONE OF CHARACTERS,=TWO OF CHARACTERS,>HREE OF CHARACTERS,
  =FOUR OF CHARACTERS,>IVE OF CHARACTERS,=SIX OF CHARACTERS,>EVEN OF CHARACTERS,
  =EIGHT OF CHARACTERS,=NINE OF CHARACTERS,=ONE OF BAMBOOS,=TWO OF BAMBOOS,>HREE OF BAMBOOS,
  =FOUR OF BAMBOOS,>IVE OF BAMBOOS,=SIX OF BAMBOOS,>EVEN OF BAMBOOS,=EIGHT OF BAMBOOS,
  =NINE OF BAMBOOS,=ONE OF CIRCLES,=TWO OF CIRCLES,>HREE OF CIRCLES,=FOUR OF CIRCLES,
  >IVE OF CIRCLES,=SIX OF CIRCLES,>EVEN OF CIRCLES,=EIGHT OF CIRCLES,=NINE OF CIRCLES,=PLUM,
  =ORCHID,=BAMBOO,=CHRYSANTHEMUM,=SPRING,>UMMER,=AUTUMN,=WINTER,=JOKER,=BACK,!1F030,
  0DOMINO TILE HORIZONTAL BACK,F-00-00,K1,K2,K3,K4,K5,K6,H1-00,K1,K2,K3,K4,K5,K6,H2-00,K1,K2,K3,
  K4,K5,K6,H3-00,K1,K2,K3,K4,K5,K6,H4-00,K1,K2,K3,K4,K5,K6,H5-00,K1,K2,K3,K4,K5,K6,H6-00,K1,K2,K3,
  K4,K5,K6,<VERTICAL BACK,D-00-00,I1,I2,I3,I4,I5,I6,F1-00,I1,I2,I3,I4,I5,I6,F2-00,I1,I2,I3,I4,I5,
  I6,F3-00,I1,I2,I3,I4,I5,I6,F4-00,I1,I2,I3,I4,I5,I6,F5-00,I1,I2,I3,I4,I5,I6,F6-00,I1,I2,I3,I4,I5,
  I6,!1F0A0,0PLAYING CARD BACK,=ACE OF SPADES,=TWO OF SPADES,>HREE OF SPADES,=FOUR OF SPADES,
  >IVE OF SPADES,=SIX OF SPADES,>EVEN OF SPADES,=EIGHT OF SPADES,=NINE OF SPADES,=TEN OF SPADES,
  =JACK OF SPADES,=KNIGHT OF SPADES,=QUEEN OF SPADES,=KING OF SPADES,!1F0B1,=ACE OF HEARTS,
  =TWO OF HEARTS,>HREE OF HEARTS,=FOUR OF HEARTS,>IVE OF HEARTS,=SIX OF HEARTS,>EVEN OF HEARTS,
  =EIGHT OF HEARTS,=NINE OF HEARTS,=TEN OF HEARTS,=JACK OF HEARTS,=KNIGHT OF HEARTS,
  =QUEEN OF HEARTS,=KING OF HEARTS,=RED JOKER,!1F0C1,=ACE OF DIAMONDS,=TWO OF DIAMONDS,
  >HREE OF DIAMONDS,=FOUR OF DIAMONDS,>IVE OF DIAMONDS,=SIX OF DIAMONDS,>EVEN OF DIAMONDS,
  =EIGHT OF DIAMONDS,=NINE OF DIAMONDS,=TEN OF DIAMONDS,=JACK OF DIAMONDS,=KNIGHT OF DIAMONDS,
  =QUEEN OF DIAMONDS,=KING OF DIAMONDS,=BLACK JOKER,!1F0D1,=ACE OF CLUBS,=TWO OF CLUBS,
  >HREE OF CLUBS,=FOUR OF CLUBS,>IVE OF CLUBS,=SIX OF CLUBS,>EVEN OF CLUBS,=EIGHT OF CLUBS,
  =NINE OF CLUBS,=TEN OF CLUBS,=JACK OF CLUBS,=KNIGHT OF CLUBS,=QUEEN OF CLUBS,=KING OF CLUBS,
  =WHITE JOKER,=FOOL,=TRUMP-1,C2,C3,C4,C5,C6,C7,C8,C9,C10,D1,D2,D3,D4,D5,D6,D7,D8,D9,C20,D1,
  !1F100,0DIGIT ZERO FULL STOP,;COMMA,6ONE COMMA,6TWO COMMA,7HREE COMMA,6FOUR COMMA,7IVE COMMA,
  6SIX COMMA,7EVEN COMMA,6EIGHT COMMA,6NINE COMMA,2NGBAT CIRCLED SANS-SERIF DIGIT ZERO,
  8NEGATIVE CIRCLED SANS-SERIF DIGIT ZERO,0CIRCLED ZERO WITH SLASH,8ANTICLOCKWISE ARROW,
  8DOLLAR SIGN WITH OVERLAID BACKSLASH,0PARENTHESIZED LATIN CAPITAL LETTER A,SB,SC,SD,SE,SF,SG,SH,
  SI,SJ,SK,SL,SM,SN,SO,SP,SQ,SR,SS,ST,SU,SV,SW,SX,SY,SZ,
  0TORTOISE SHELL BRACKETED LATIN CAPITAL LETTER S,0CIRCLED ITALIC LATIN CAPITAL LETTER C,TR,8CD,
  8WZ,1OPYLEFT SYMBOL,0SQUARED LATIN CAPITAL LETTER A,MB,MC,MD,ME,MF,MG,MH,MI,MJ,MK,ML,MM,MN,MO,
  MP,MQ,MR,MS,MT,MU,MV,MW,MX,MY,MZ,8HV,8MV,8SD,9S,8PPV,8WC,
  0NEGATIVE CIRCLED LATIN CAPITAL LETTER A,VB,VC,VD,VE,VF,VG,VH,VI,VJ,VK,VL,VM,VN,VO,VP,VQ,VR,VS,
  VT,VU,VV,VW,VX,VY,VZ,0RAISED MC SIGN,8D SIGN,8R SIGN,0CIRCLED CC,9 WITH OVERLAID BACKSLASH,
  8HUMAN FIGURE,0NEGATIVE SQUARED LATIN CAPITAL LETTER A,VB,VC,VD,VE,VF,VG,VH,VI,VJ,VK,VL,VM,VN,
  VO,VP,VQ,VR,VS,VT,VU,VV,VW,VX,VY,VZ,0CROSSED NEGATIVE SQUARED LATIN CAPITAL LETTER P,
  0NEGATIVE SQUARED IC,APA,ASA,AAB,AWC,0SQUARE DJ,6D CL,9OOL,8FREE,8ID,8NEW,9G,8OK,8SOS,
  8UP WITH EXCLAMATION MARK,8VS,8THREE D,8SECOND SCREEN,8TWO K,8FOUR K,8EIGHT K,8FIVE POINT ONE,
  8SEVEN POINT ONE,8TWENTY-TWO POINT TWO,8SIXTY P,8ONE HUNDRED TWENTY P,8LATIN SMALL LETTER D,8HC,
  9DR,9I-RES,8LOSSLESS,8SHV,8UHD,8VOD,0MASK WORK SYMBOL,!1F1E6,
  0REGIONAL INDICATOR SYMBOL LETTER A,QB,QC,QD,QE,QF,QG,QH,QI,QJ,QK,QL,QM,QN,QO,QP,QQ,QR,QS,QT,QU,
  QV,QW,QX,QY,QZ,0SQUARE HIRAGANA HOKA,6D KATAKANA KOKO,ASA,!1F210,8CJK UNIFIED IDEOGRAPH-624B,
  N5B57,O3CC,8KATAKANA DE,8CJK UNIFIED IDEOGRAPH-4E8C,N591A,N89E3,N5929,N4EA4,N6620,N7121,N6599,
  N524D,OF8C,O18D,N65B0,N521D,N7D42,O51F,N8CA9,N58F0,O439,N6F14,O295,O355,N4E00,Q9,N904A,N5DE6,
  N4E2D,N53F3,N6307,N8D70,N6253,N7981,OA7A,N5408,N6E80,O709,Q8,N7533,N5272,O5B6,N914D,!1F240,
  0TORTOISE SHELL BRACKETED CJK UNIFIED IDEOGRAPH-672C,[APH-4E09,[APH-4E8C,[APH-5B89,[APH-70B9,
  [APH-6253,[APH-76D7,[APH-52DD,[APH-6557,!1F250,0CIRCLED IDEOGRAPH ADVANTAGE,CCCEPT,!1F260,
  0ROUNDED SYMBOL FOR FU,CLU,CSHOU,CXI,CSHUANGXI,CCAI,!1F300,0CYCLONE,0FOGGY,0CLOSED UMBRELLA,
  0NIGHT WITH STARS,0SUNRISE OVER MOUNTAINS,7,0CITYSCAPE AT DUSK,0SUNSET OVER BUILDINGS,0RAINBOW,
  0BRIDGE AT NIGHT,0WATER WAVE,0VOLCANO,0MILKY WAY,0EARTH GLOBE EUROPE-AFRICA,<AMERICAS,
  =SIA-AUSTRALIA,0GLOBE WITH MERIDIANS,0NEW MOON SYMBOL,0WAXING CRESCENT MOON SYMBOL,
  0FIRST QUARTER MOON SYMBOL,0WAXING GIBBOUS MOON SYMBOL,0FULL MOON SYMBOL,
  0WANING GIBBOUS MOON SYMBOL,0LAST QUARTER MOON SYMBOL,0WANING CRESCENT MOON SYMBOL,
  0CRESCENT MOON,0NEW MOON WITH FACE,0FIRST QUARTER MOON WITH FACE,0LAST QUARTER MOON WITH FACE,
  0FULL MOON WITH FACE,0SUN WITH FACE,0GLOWING STAR,0SHOOTING STAR,0THERMOMETER,0BLACK DROPLET,
  0WHITE SUN,9 WITH SMALL CLOUD,:BEHIND CLOUD,F WITH RAIN,0CLOUD WITH RAIN,;SNOW,;LIGHTNING,
  ;TORNADO,0FOG,0WIND BLOWING FACE,0HOT DOG,0TACO,0BURRITO,0CHESTNUT,0SEEDLING,0EVERGREEN TREE,
  0DECIDUOUS TREE,0PALM TREE,0CACTUS,0HOT PEPPER,0TULIP,0CHERRY BLOSSOM,0ROSE,0HIBISCUS,
  0SUNFLOWER,0BLOSSOM,0EAR OF MAIZE,7RICE,0HERB,0FOUR LEAF CLOVER,0MAPLE LEAF,0FALLEN LEAF,
  0LEAF FLUTTERING IN WIND,0MUSHROOM,0TOMATO,0AUBERGINE,0GRAPES,0MELON,0WATERMELON,0TANGERINE,
  0LEMON,0BANANA,0PINEAPPLE,0RED APPLE,0GREEN APPLE,0PEAR,3CH,0CHERRIES,0STRAWBERRY,0HAMBURGER,
  0SLICE OF PIZZA,0MEAT ON BONE,0POULTRY LEG,0RICE CRACKER,5BALL,0COOKED RICE,1URRY AND RICE,
  0STEAMING BOWL,1PAGHETTI,0BREAD,0FRENCH FRIES,0ROASTED SWEET POTATO,0DANGO,0ODEN,0SUSHI,
  0FRIED SHRIMP,1ISH CAKE WITH SWIRL DESIGN,0SOFT ICE CREAM,1HAVED ICE,0ICE CREAM,0DOUGHNUT,
  0COOKIE,1HOCOLATE BAR,1ANDY,0LOLLIPOP,0CUSTARD,0HONEY POT,0SHORTCAKE,0BENTO BOX,0POT OF FOOD,
  0COOKING,0FORK AND KNIFE,0TEACUP WITHOUT HANDLE,0SAKE BOTTLE AND CUP,0WINE GLASS,
  0COCKTAIL GLASS,0TROPICAL DRINK,0BEER MUG,0CLINKING BEER MUGS,0BABY BOTTLE,
  0FORK AND KNIFE WITH PLATE,0BOTTLE WITH POPPING CORK,0POPCORN,0RIBBON,0WRAPPED PRESENT,
  0BIRTHDAY CAKE,0JACK-O-LANTERN,0CHRISTMAS TREE,0FATHER CHRISTMAS,1IREWORKS,8 SPARKLER,0BALLOON,
  0PARTY POPPER,0CONFETTI BALL,0TANABATA TREE,0CROSSED FLAGS,0PINE DECORATION,0JAPANESE DOLLS,
  0CARP STREAMER,0WIND CHIME,0MOON VIEWING CEREMONY,0SCHOOL SATCHEL,0GRADUATION CAP,
  0HEART WITH TIP ON THE LEFT,0BOUQUET OF FLOWERS,0MILITARY MEDAL,0REMINDER RIBBON,
  0MUSICAL KEYBOARD WITH JACKS,0STUDIO MICROPHONE,0LEVEL SLIDER,0CONTROL KNOBS,
  0BEAMED ASCENDING MUSICAL NOTES,7DESCENDING MUSICAL NOTES,0FILM FRAMES,0ADMISSION TICKETS,
  0CAROUSEL HORSE,0FERRIS WHEEL,0ROLLER COASTER,0FISHING POLE AND FISH,0MICROPHONE,1OVIE CAMERA,
  0CINEMA,0HEADPHONE,0ARTIST PALETTE,0TOP HAT,0CIRCUS TENT,0TICKET,0CLAPPER BOARD,
  0PERFORMING ARTS,0VIDEO GAME,0DIRECT HIT,0SLOT MACHINE,0BILLIARDS,0GAME DIE,0BOWLING,
  0FLOWER PLAYING CARDS,0MUSICAL NOTE,2LTIPLE MUSICAL NOTES,0SAXOPHONE,0GUITAR,0MUSICAL KEYBOARD,
  0TRUMPET,0VIOLIN,0MUSICAL SCORE,0RUNNING SHIRT WITH SASH,0TENNIS RACQUET AND BALL,
  0SKI AND SKI BOOT,0BASKETBALL AND HOOP,0CHEQUERED FLAG,0SNOWBOARDER,0RUNNER,0SURFER,
  1PORTS MEDAL,0TROPHY,0HORSE RACING,0AMERICAN FOOTBALL,0RUGBY FOOTBALL,0SWIMMER,0WEIGHT LIFTER,
  0GOLFER,0RACING MOTORCYCLE,7CAR,0CRICKET BAT AND BALL,0VOLLEYBALL,0FIELD HOCKEY STICK AND BALL,
  0ICE HOCKEY STICK AND PUCK,0TABLE TENNIS PADDLE AND BALL,0SNOW CAPPED MOUNTAIN,0CAMPING,
  0BEACH WITH UMBRELLA,1UILDING CONSTRUCTION,0HOUSE BUILDINGS,0CITYSCAPE,0DERELICT HOUSE BUILDING,
  0CLASSICAL BUILDING,0DESERT,6 ISLAND,0NATIONAL PARK,0STADIUM,0HOUSE BUILDING,6WITH GARDEN,
  0OFFICE BUILDING,0JAPANESE POST OFFICE,0EUROPEAN POST OFFICE,0HOSPITAL,0BANK,
  0AUTOMATED TELLER MACHINE,0HOTEL,0LOVE HOTEL,0CONVENIENCE STORE,0SCHOOL,0DEPARTMENT STORE,
  0FACTORY,0IZAKAYA LANTERN,0JAPANESE CASTLE,0EUROPEAN CASTLE,0WHITE PENNANT,0BLACK PENNANT,
  0WAVING WHITE FLAG,7BLACK FLAG,0ROSETTE,0BLACK ROSETTE,0LABEL,
  0BADMINTON RACQUET AND SHUTTLECOCK,1OW AND ARROW,0AMPHORA,0EMOJI MODIFIER FITZPATRICK TYPE-1-2,
  P3,P4,P5,P6,0RAT,0MOUSE,0OX,0WATER BUFFALO,0COW,0TIGER,0LEOPARD,0RABBIT,0CAT,0DRAGON,0CROCODILE,
  0WHALE,0SNAIL,3KE,0HORSE,0RAM,0GOAT,0SHEEP,0MONKEY,0ROOSTER,0CHICKEN,0DOG,0PIG,0BOAR,0ELEPHANT,
  0OCTOPUS,0SPIRAL SHELL,0BUG,0ANT,0HONEYBEE,0LADY BEETLE,0FISH,0TROPICAL FISH,0BLOWFISH,0TURTLE,
  0HATCHING CHICK,0BABY CHICK,0FRONT-FACING BABY CHICK,0BIRD,0PENGUIN,0KOALA,0POODLE,
  0DROMEDARY CAMEL,0BACTRIAN CAMEL,0DOLPHIN,0MOUSE FACE,0COW FACE,0TIGER FACE,0RABBIT FACE,
  0CAT FACE,0DRAGON FACE,0SPOUTING WHALE,0HORSE FACE,0MONKEY FACE,0DOG FACE,0PIG FACE,0FROG FACE,
  0HAMSTER FACE,0WOLF FACE,0BEAR FACE,0PANDA FACE,1IG NOSE,1AW PRINTS,0CHIPMUNK,0EYES,3,1AR,0NOSE,
  0MOUTH,0TONGUE,0WHITE UP POINTING BACKHAND INDEX,6DOWN POINTING BACKHAND INDEX,
  6LEFT POINTING BACKHAND INDEX,6RIGHT POINTING BACKHAND INDEX,0FISTED HAND SIGN,
  0WAVING HAND SIGN,0OK HAND SIGN,0THUMBS UP SIGN,7DOWN SIGN,0CLAPPING HANDS SIGN,
  0OPEN HANDS SIGN,0CROWN,0WOMANS HAT,0EYEGLASSES,0NECKTIE,0T-SHIRT,0JEANS,0DRESS,0KIMONO,0BIKINI,
  0WOMANS CLOTHES,0PURSE,0HANDBAG,0POUCH,0MANS SHOE,0ATHLETIC SHOE,0HIGH-HEELED SHOE,
  0WOMANS SANDAL,7BOOTS,0FOOTPRINTS,0BUST IN SILHOUETTE,4S IN SILHOUETTE,1OY,0GIRL,0MAN,0WOMAN,
  0FAMILY,0MAN AND WOMAN HOLDING HANDS,0TWO MEN HOLDING HANDS,4WOMEN HOLDING HANDS,
  0POLICE OFFICER,0WOMAN WITH BUNNY EARS,0BRIDE WITH VEIL,0PERSON WITH BLOND HAIR,
  0MAN WITH GUA PI MAO,9TURBAN,0OLDER MAN,6WOMAN,0BABY,0CONSTRUCTION WORKER,0PRINCESS,
  0JAPANESE OGRE,9GOBLIN,0GHOST,0BABY ANGEL,0EXTRATERRESTRIAL ALIEN,0ALIEN MONSTER,0IMP,0SKULL,
  0INFORMATION DESK PERSON,0GUARDSMAN,0DANCER,0LIPSTICK,0NAIL POLISH,0FACE MASSAGE,0HAIRCUT,
  0BARBER POLE,0SYRINGE,0PILL,0KISS MARK,0LOVE LETTER,0RING,0GEM STONE,0KISS,0BOUQUET,
  0COUPLE WITH HEART,0WEDDING,0BEATING HEART,1ROKEN HEART,0TWO HEARTS,0SPARKLING HEART,
  0GROWING HEART,0HEART WITH ARROW,0BLUE HEART,0GREEN HEART,0YELLOW HEART,0PURPLE HEART,
  0HEART WITH RIBBON,0REVOLVING HEARTS,0HEART DECORATION,0DIAMOND SHAPE WITH A DOT INSIDE,
  0ELECTRIC LIGHT BULB,0ANGER SYMBOL,0BOMB,0SLEEPING SYMBOL,0COLLISION SYMBOL,
  0SPLASHING SWEAT SYMBOL,0DROPLET,1ASH SYMBOL,0PILE OF POO,0FLEXED BICEPS,0DIZZY SYMBOL,
  0SPEECH BALLOON,0THOUGHT BALLOON,0WHITE FLOWER,0HUNDRED POINTS SYMBOL,0MONEY BAG,
  0CURRENCY EXCHANGE,0HEAVY DOLLAR SIGN,0CREDIT CARD,0BANKNOTE WITH YEN SIGN,>DOLLAR SIGN,
  >EURO SIGN,>POUND SIGN,0MONEY WITH WINGS,0CHART WITH UPWARDS TREND AND YEN SIGN,0SEAT,
  0PERSONAL COMPUTER,0BRIEFCASE,0MINIDISC,0FLOPPY DISK,0OPTICAL DISC,0DVD,0FILE FOLDER,
  0OPEN FILE FOLDER,0PAGE WITH CURL,5FACING UP,0CALENDAR,0TEAR-OFF CALENDAR,0CARD INDEX,
  1HART WITH UPWARDS TREND,;DOWNWARDS TREND,0BAR CHART,0CLIPBOARD,0PUSHPIN,0ROUND PUSHPIN,
  0PAPERCLIP,0STRAIGHT RULER,0TRIANGULAR RULER,0BOOKMARK TABS,0LEDGER,0NOTEBOOK,
  8 WITH DECORATIVE COVER,0CLOSED BOOK,0OPEN BOOK,0GREEN BOOK,0BLUE BOOK,0ORANGE BOOK,0BOOKS,
  0NAME BADGE,0SCROLL,0MEMO,0TELEPHONE RECEIVER,0PAGER,0FAX MACHINE,0SATELLITE ANTENNA,
  0PUBLIC ADDRESS LOUDSPEAKER,0CHEERING MEGAPHONE,0OUTBOX TRAY,0INBOX TRAY,0PACKAGE,
  0E-MAIL SYMBOL,0INCOMING ENVELOPE,0ENVELOPE WITH DOWNWARDS ARROW ABOVE,
  0CLOSED MAILBOX WITH LOWERED FLAG,DRAISED FLAG,0OPEN MAILBOX WITH RAISED FLAG,BLOWERED FLAG,
  0POSTBOX,4AL HORN,0NEWSPAPER,0MOBILE PHONE,< WITH RIGHTWARDS ARROW AT LEFT,0VIBRATION MODE,
  0MOBILE PHONE OFF,0NO MOBILE PHONES,0ANTENNA WITH BARS,0CAMERA,6 WITH FLASH,0VIDEO CAMERA,
  0TELEVISION,0RADIO,0VIDEOCASSETTE,0FILM PROJECTOR,0PORTABLE STEREO,1RAYER BEADS,
  0TWISTED RIGHTWARDS ARROWS,0CLOCKWISE RIGHTWARDS AND LEFTWARDS OPEN CIRCLE ARROWS,
  [CLE ARROWS WITH CIRCLED ONE OVERLAY,:DOWNWARDS AND UPWARDS OPEN CIRCLE ARROWS,
  0ANTICLOCKWISE DOWNWARDS AND UPWARDS OPEN CIRCLE ARROWS,0LOW BRIGHTNESS SYMBOL,
  0HIGH BRIGHTNESS SYMBOL,0SPEAKER WITH CANCELLATION STROKE,7,7 WITH ONE SOUND WAVE,
  =THREE SOUND WAVES,0BATTERY,0ELECTRIC PLUG,0LEFT-POINTING MAGNIFYING GLASS,
  0RIGHT-POINTING MAGNIFYING GLASS,0LOCK WITH INK PEN,0CLOSED LOCK WITH KEY,0KEY,0LOCK,0OPEN LOCK,
  0BELL,4 WITH CANCELLATION STROKE,1OOKMARK,0LINK SYMBOL,0RADIO BUTTON,
  0BACK WITH LEFTWARDS ARROW ABOVE,0END WITH LEFTWARDS ARROW ABOVE,
  0ON WITH EXCLAMATION MARK WITH LEFT RIGHT ARROW ABOVE,0SOON WITH RIGHTWARDS ARROW ABOVE,
  0TOP WITH UPWARDS ARROW ABOVE,0NO ONE UNDER EIGHTEEN SYMBOL,0KEYCAP TEN,
  0INPUT SYMBOL FOR LATIN CAPITAL LETTERS,GSMALL LETTERS,ANUMBERS,ASYMBOLS,ALATIN LETTERS,0FIRE,
  0ELECTRIC TORCH,0WRENCH,0HAMMER,0NUT AND BOLT,0HOCHO,0PISTOL,0MICROSCOPE,0TELESCOPE,
  0CRYSTAL BALL,0SIX POINTED STAR WITH MIDDLE DOT,0JAPANESE SYMBOL FOR BEGINNER,0TRIDENT EMBLEM,
  0BLACK SQUARE BUTTON,0WHITE SQUARE BUTTON,0LARGE RED CIRCLE,6BLUE CIRCLE,6ORANGE DIAMOND,
  6BLUE DIAMOND,0SMALL ORANGE DIAMOND,6BLUE DIAMOND,0UP-POINTING RED TRIANGLE,
  0DOWN-POINTING RED TRIANGLE,0UP-POINTING SMALL RED TRIANGLE,0DOWN-POINTING SMALL RED TRIANGLE,
  0LOWER RIGHT SHADOWED WHITE CIRCLE,0UPPER RIGHT SHADOWED WHITE CIRCLE,0CIRCLED CROSS POMMEE,
  1ROSS POMMEE WITH HALF-CIRCLE BELOW,<,0NOTCHED LEFT SEMICIRCLE WITH THREE DOTS,
  8RIGHT SEMICIRCLE WITH THREE DOTS,0SYMBOL FOR MARKS CHAPTER,0WHITE LATIN CROSS,
  0HEAVY LATIN CROSS,0CELTIC CROSS,0OM SYMBOL,0DOVE OF PEACE,0KAABA,0MOSQUE,0SYNAGOGUE,
  0MENORAH WITH NINE BRANCHES,0BOWL OF HYGIEIA,0CLOCK FACE ONE OCLOCK,;TWO OCLOCK,<HREE OCLOCK,
  ;FOUR OCLOCK,<IVE OCLOCK,;SIX OCLOCK,<EVEN OCLOCK,;EIGHT OCLOCK,;NINE OCLOCK,;TEN OCLOCK,
  ;ELEVEN OCLOCK,;TWELVE OCLOCK,;ONE-THIRTY,;TWO-THIRTY,<HREE-THIRTY,;FOUR-THIRTY,<IVE-THIRTY,
  ;SIX-THIRTY,<EVEN-THIRTY,;EIGHT-THIRTY,;NINE-THIRTY,;TEN-THIRTY,;ELEVEN-THIRTY,;TWELVE-THIRTY,
  0RIGHT SPEAKER,= WITH ONE SOUND WAVE,CTHREE SOUND WAVES,0BULLHORN,8 WITH SOUND WAVES,
  0RINGING BELL,0BOOK,0CANDLE,0MANTELPIECE CLOCK,0BLACK SKULL AND CROSSBONES,0NO PIRACY,0HOLE,
  0MAN IN BUSINESS SUIT LEVITATING,0SLEUTH OR SPY,0DARK SUNGLASSES,0SPIDER,6 WEB,0JOYSTICK,
  0MAN DANCING,0LEFT HAND TELEPHONE RECEIVER,0TELEPHONE RECEIVER WITH PAGE,
  0RIGHT HAND TELEPHONE RECEIVER,0WHITE TOUCHTONE TELEPHONE,0BLACK TOUCHTONE TELEPHONE,
  0TELEPHONE ON TOP OF MODEM,0CLAMSHELL MOBILE PHONE,0BACK OF ENVELOPE,0STAMPED ENVELOPE,
  0ENVELOPE WITH LIGHTNING,0FLYING ENVELOPE,0PEN OVER STAMPED ENVELOPE,0LINKED PAPERCLIPS,
  0BLACK PUSHPIN,0LOWER LEFT PENCIL,;BALLPOINT PEN,;FOUNTAIN PEN,;PAINTBRUSH,;CRAYON,
  1EFT WRITING HAND,0TURNED OK HAND SIGN,0RAISED HAND WITH FINGERS SPLAYED,
  1EVERSED RAISED HAND WITH FINGERS SPLAYED,9THUMBS UP SIGN,@DOWN SIGN,9VICTORY HAND,
  9HAND WITH MIDDLE FINGER EXTENDED,1AISED HAND WITH PART BETWEEN MIDDLE AND RING FINGERS,
  0WHITE DOWN POINTING LEFT HAND INDEX,0SIDEWAYS WHITE LEFT POINTING INDEX,?RIGHT POINTING INDEX,
  9BLACK LEFT POINTING INDEX,?RIGHT POINTING INDEX,0BLACK LEFT POINTING BACKHAND INDEX,
  6RIGHT POINTING BACKHAND INDEX,0SIDEWAYS WHITE UP POINTING INDEX,?DOWN POINTING INDEX,
  9BLACK UP POINTING INDEX,?DOWN POINTING INDEX,0BLACK UP POINTING BACKHAND INDEX,
  6DOWN POINTING BACKHAND INDEX,6HEART,0DESKTOP COMPUTER,0KEYBOARD AND MOUSE,
  0THREE NETWORKED COMPUTERS,0PRINTER,1OCKET CALCULATOR,0BLACK HARD SHELL FLOPPY DISK,
  0WHITE HARD SHELL FLOPPY DISK,0SOFT SHELL FLOPPY DISK,0TAPE CARTRIDGE,0WIRED KEYBOARD,
  0ONE BUTTON MOUSE,0TWO BUTTON MOUSE,1HREE BUTTON MOUSE,1RACKBALL,0OLD PERSONAL COMPUTER,
  0HARD DISK,0SCREEN,0PRINTER ICON,0FAX ICON,0OPTICAL DISC ICON,0DOCUMENT WITH TEXT,B AND PICTURE,
  >PICTURE,0FRAME WITH PICTURE,;TILES,;AN X,0BLACK FOLDER,0FOLDER,0OPEN FOLDER,
  0CARD INDEX DIVIDERS,5FILE BOX,0FILE CABINET,0EMPTY NOTE,: PAGE,=D,0NOTE,4 PAGE,7D,
  0EMPTY DOCUMENT,6PAGE,:S,0DOCUMENT,0PAGE,4S,0WASTEBASKET,0SPIRAL NOTE PAD,7CALENDAR PAD,
  0DESKTOP WINDOW,0MINIMIZE,1AXIMIZE,0OVERLAP,0CLOCKWISE RIGHT AND LEFT SEMICIRCLE ARROWS,
  1ANCELLATION X,0INCREASE FONT SIZE SYMBOL,0DECREASE FONT SIZE SYMBOL,0COMPRESSION,0OLD KEY,
  0ROLLED-UP NEWSPAPER,0PAGE WITH CIRCLED TEXT,0STOCK CHART,0DAGGER KNIFE,0LIPS,
  0SPEAKING HEAD IN SILHOUETTE,0THREE RAYS ABOVE,;BELOW,;LEFT,;RIGHT,0LEFT SPEECH BUBBLE,
  0RIGHT SPEECH BUBBLE,0TWO SPEECH BUBBLES,1HREE SPEECH BUBBLES,0LEFT THOUGHT BUBBLE,
  0RIGHT THOUGHT BUBBLE,0LEFT ANGER BUBBLE,0RIGHT ANGER BUBBLE,0MOOD BUBBLE,
  0LIGHTNING MOOD BUBBLE,>,0BALLOT BOX WITH BALLOT,7SCRIPT X,7BOX WITH SCRIPT X,9LD SCRIPT X,
  9X WITH BOLD SCRIPT X,0LIGHT CHECK MARK,0BALLOT BOX WITH BOLD CHECK,0WORLD MAP,0MOUNT FUJI,
  0TOKYO TOWER,0STATUE OF LIBERTY,1ILHOUETTE OF JAPAN,0MOYAI,0GRINNING FACE,= WITH SMILING EYES,
  0FACE WITH TEARS OF JOY,0SMILING FACE WITH OPEN MOUTH,L AND SMILING EYES,QCOLD SWEAT,
  QTIGHTLY-CLOSED EYES,BHALO,CORNS,0WINKING FACE,0SMILING FACE WITH SMILING EYES,
  0FACE SAVOURING DELICIOUS FOOD,0RELIEVED FACE,0SMILING FACE WITH HEART-SHAPED EYES,BSUNGLASSES,
  3RKING FACE,0NEUTRAL FACE,0EXPRESSIONLESS FACE,0UNAMUSED FACE,0FACE WITH COLD SWEAT,
  0PENSIVE FACE,0CONFUSED FACE,4OUNDED FACE,0KISSING FACE,0FACE THROWING A KISS,
  0KISSING FACE WITH SMILING EYES,BCLOSED EYES,0FACE WITH STUCK-OUT TONGUE,J AND WINKING EYE,
  OTIGHTLY-CLOSED EYES,0DISAPPOINTED FACE,0WORRIED FACE,0ANGRY FACE,0POUTING FACE,0CRYING FACE,
  0PERSEVERING FACE,0FACE WITH LOOK OF TRIUMPH,0DISAPPOINTED BUT RELIEVED FACE,
  0FROWNING FACE WITH OPEN MOUTH,0ANGUISHED FACE,0FEARFUL FACE,0WEARY FACE,0SLEEPY FACE,
  0TIRED FACE,0GRIMACING FACE,0LOUDLY CRYING FACE,0FACE WITH OPEN MOUTH,0HUSHED FACE,
  0FACE WITH OPEN MOUTH AND COLD SWEAT,5SCREAMING IN FEAR,0ASTONISHED FACE,0FLUSHED FACE,
  0SLEEPING FACE,0DIZZY FACE,0FACE WITHOUT MOUTH,9 MEDICAL MASK,
  0GRINNING CAT FACE WITH SMILING EYES,0CAT FACE WITH TEARS OF JOY,
  0SMILING CAT FACE WITH OPEN MOUTH,FHEART-SHAPED EYES,0CAT FACE WITH WRY SMILE,
  0KISSING CAT FACE WITH CLOSED EYES,0POUTING CAT FACE,0CRYING CAT FACE,0WEARY CAT FACE,
  0SLIGHTLY FROWNING FACE,9SMILING FACE,0UPSIDE-DOWN FACE,0FACE WITH ROLLING EYES,
  :NO GOOD GESTURE,:OK GESTURE,0PERSON BOWING DEEPLY,0SEE-NO-EVIL MONKEY,0HEAR-NO-EVIL MONKEY,
  0SPEAK-NO-EVIL MONKEY,0HAPPY PERSON RAISING ONE HAND,0PERSON RAISING BOTH HANDS IN CELEBRATION,
  7FROWNING,7WITH POUTING FACE,<FOLDED HANDS,0NORTH WEST POINTING LEAF,0SOUTH WEST POINTING LEAF,
  0NORTH EAST POINTING LEAF,0SOUTH EAST POINTING LEAF,0TURNED NORTH WEST POINTING LEAF,
  7SOUTH WEST POINTING LEAF,7NORTH EAST POINTING LEAF,7SOUTH EAST POINTING LEAF,
  0NORTH WEST POINTING VINE LEAF,0SOUTH WEST POINTING VINE LEAF,0NORTH EAST POINTING VINE LEAF,
  0SOUTH EAST POINTING VINE LEAF,0HEAVY NORTH WEST POINTING VINE LEAF,
  6SOUTH WEST POINTING VINE LEAF,6NORTH EAST POINTING VINE LEAF,6SOUTH EAST POINTING VINE LEAF,
  0NORTH WEST POINTING BUD,0SOUTH WEST POINTING BUD,0NORTH EAST POINTING BUD,
  0SOUTH EAST POINTING BUD,0HEAVY NORTH WEST POINTING BUD,6SOUTH WEST POINTING BUD,
  6NORTH EAST POINTING BUD,6SOUTH EAST POINTING BUD,1OLLOW QUILT SQUARE ORNAMENT,
  L IN BLACK SQUARE,0SOLID QUILT SQUARE ORNAMENT,K IN BLACK SQUARE,0LEFTWARDS ROCKET,
  0UPWARDS ROCKET,0RIGHTWARDS ROCKET,0DOWNWARDS ROCKET,0SCRIPT LIGATURE ET ORNAMENT,
  0HEAVY SCRIPT LIGATURE ET ORNAMENT,0LIGATURE OPEN ET ORNAMENT,0HEAVY LIGATURE OPEN ET ORNAMENT,
  6AMPERSAND ORNAMENT,0SWASH AMPERSAND ORNAMENT,
  1ANS-SERIF HEAVY DOUBLE TURNED COMMA QUOTATION MARK ORNAMENT,HCOMMA QUOTATION MARK ORNAMENT,
  ALOW DOUBLE COMMA QUOTATION MARK ORNAMENT,0HEAVY INTERROBANG ORNAMENT,
  0SANS-SERIF INTERROBANG ORNAMENT,0HEAVY SANS-SERIF INTERROBANG ORNAMENT,0VERY HEAVY SOLIDUS,
  ;REVERSE SOLIDUS,0CHECKER BOARD,0REVERSE CHECKER BOARD,1OCKET,0HELICOPTER,0STEAM LOCOMOTIVE,
  0RAILWAY CAR,0HIGH-SPEED TRAIN,@ WITH BULLET NOSE,0TRAIN,0METRO,0LIGHT RAIL,0STATION,0TRAM,
  4 CAR,0BUS,0ONCOMING BUS,0TROLLEYBUS,0BUS STOP,0MINIBUS,0AMBULANCE,0FIRE ENGINE,0POLICE CAR,
  0ONCOMING POLICE CAR,0TAXI,0ONCOMING TAXI,0AUTOMOBILE,0ONCOMING AUTOMOBILE,
  0RECREATIONAL VEHICLE,0DELIVERY TRUCK,0ARTICULATED LORRY,0TRACTOR,0MONORAIL,2UNTAIN RAILWAY,
  0SUSPENSION RAILWAY,0MOUNTAIN CABLEWAY,0AERIAL TRAMWAY,0SHIP,0ROWBOAT,0SPEEDBOAT,
  0HORIZONTAL TRAFFIC LIGHT,0VERTICAL TRAFFIC LIGHT,0CONSTRUCTION SIGN,
  0POLICE CARS REVOLVING LIGHT,0TRIANGULAR FLAG ON POST,0DOOR,0NO ENTRY SIGN,0SMOKING SYMBOL,
  0NO SMOKING SYMBOL,0PUT LITTER IN ITS PLACE SYMBOL,0DO NOT LITTER SYMBOL,0POTABLE WATER SYMBOL,
  0NON-POTABLE WATER SYMBOL,0BICYCLE,0NO BICYCLES,0BICYCLIST,0MOUNTAIN BICYCLIST,0PEDESTRIAN,
  0NO PEDESTRIANS,0CHILDREN CROSSING,0MENS SYMBOL,0WOMENS SYMBOL,0RESTROOM,0BABY SYMBOL,0TOILET,
  0WATER CLOSET,0SHOWER,0BATH,4TUB,0PASSPORT CONTROL,0CUSTOMS,0BAGGAGE CLAIM,0LEFT LUGGAGE,
  0TRIANGLE WITH ROUNDED CORNERS,0PROHIBITED SIGN,0CIRCLED INFORMATION SOURCE,0BOYS SYMBOL,
  0GIRLS SYMBOL,0COUCH AND LAMP,0SLEEPING ACCOMMODATION,1HOPPING BAGS,0BELLHOP BELL,2D,
  0PLACE OF WORSHIP,0OCTAGONAL SIGN,0SHOPPING TROLLEY,1TUPA,0PAGODA,0HINDU TEMPLE,1UT,0ELEVATOR,
  !1F6DD,0PLAYGROUND SLIDE,0WHEEL,0RING BUOY,0HAMMER AND WRENCH,0SHIELD,0OIL DRUM,0MOTORWAY,
  0RAILWAY TRACK,0MOTOR BOAT,0UP-POINTING MILITARY AIRPLANE,<AIRPLANE,<SMALL AIRPLANE,
  0SMALL AIRPLANE,0NORTHEAST-POINTING AIRPLANE,0AIRPLANE DEPARTURE,9ARRIVING,!1F6F0,0SATELLITE,
  0ONCOMING FIRE ENGINE,0DIESEL LOCOMOTIVE,0PASSENGER SHIP,0SCOOTER,0MOTOR SCOOTER,0CANOE,0SLED,
  0FLYING SAUCER,0SKATEBOARD,0AUTO RICKSHAW,0PICKUP TRUCK,0ROLLER SKATE,!1F700,
  0ALCHEMICAL SYMBOL FOR QUINTESSENCE,FAIR,FFIRE,FEARTH,FWATER,FAQUAFORTIS,J REGIA,P-2,KVITAE,P-2,
  FVINEGAR,M-2,N3,FSULFUR,FPHILOSOPHERS SULFUR,FBLACK SULFUR,FMERCURY SUBLIMATE,W-2,X3,FCINNABAR,
  FSALT,FNITRE,FVITRIOL,M-2,FROCK SALT,O-2,FGOLD,FSILVER,FIRON ORE,N-2,FCROCUS OF IRON,
  FREGULUS OF IRON,FCOPPER ORE,FIRON-COPPER ORE,FSUBLIMATE OF COPPER,FCROCUS OF COPPER,V-2,
  GOPPER ANTIMONIATE,FSALT OF COPPER ANTIMONIATE,GUBLIMATE OF SALT OF COPPER,FVERDIGRIS,FTIN ORE,
  FLEAD ORE,FANTIMONY ORE,FSUBLIMATE OF ANTIMONY,GALT OF ANTIMONY,GUBLIMATE OF SALT OF ANTIMONY,
  FVINEGAR OF ANTIMONY,FREGULUS OF ANTIMONY,Y-2,M,M-2,N3,N4,FALKALI,L-2,FMARCASITE,FSAL-AMMONIAC,
  FARSENIC,FREALGAR,M-2,FAURIPIGMENT,FBISMUTH ORE,FTARTAR,L-2,FQUICK LIME,FBORAX,K-2,L3,FALUM,
  FOIL,FSPIRIT,FTINCTURE,FGUM,FWAX,FPOWDER,FCALX,FTUTTY,FCAPUT MORTUUM,FSCEPTER OF JOVE,FCADUCEUS,
  FTRIDENT,FSTARRED TRIDENT,FLODESTONE,FSOAP,FURINE,FHORSE DUNG,FASHES,FPOT ASHES,FBRICK,
  FPOWDERED BRICK,FAMALGAM,FSTRATUM SUPER STRATUM,[-2,GUBLIMATION,FPRECIPITATE,FDISTILL,ISOLVE,
  N-2,FPURIFY,HTREFACTION,FCRUCIBLE,N-2,O3,O4,O5,FALEMBIC,FBATH OF MARY,NVAPOURS,FRETORT,FHOUR,
  FNIGHT,FDAY-NIGHT,FMONTH,FHALF DRAM,KOUNCE,!1F780,0BLACK LEFT-POINTING ISOSCELES RIGHT TRIANGLE,
  6UP-POINTING ISOSCELES RIGHT TRIANGLE,6RIGHT-POINTING ISOSCELES RIGHT TRIANGLE,
  6DOWN-POINTING ISOSCELES RIGHT TRIANGLE,6SLIGHTLY SMALL CIRCLE,0MEDIUM BOLD WHITE CIRCLE,
  0BOLD WHITE CIRCLE,0HEAVY WHITE CIRCLE,0VERY HEAVY WHITE CIRCLE,0EXTREMELY HEAVY WHITE CIRCLE,
  0WHITE CIRCLE CONTAINING BLACK SMALL CIRCLE,0ROUND TARGET,0BLACK TINY SQUARE,
  6SLIGHTLY SMALL SQUARE,0LIGHT WHITE SQUARE,0MEDIUM WHITE SQUARE,0BOLD WHITE SQUARE,
  0HEAVY WHITE SQUARE,0VERY HEAVY WHITE SQUARE,0EXTREMELY HEAVY WHITE SQUARE,
  0WHITE SQUARE CONTAINING BLACK VERY SMALL SQUARE,NMEDIUM SQUARE,0SQUARE TARGET,
  0BLACK TINY DIAMOND,6VERY SMALL DIAMOND,6MEDIUM SMALL DIAMOND,
  0WHITE DIAMOND CONTAINING BLACK VERY SMALL DIAMOND,OMEDIUM DIAMOND,0DIAMOND TARGET,
  0BLACK TINY LOZENGE,6VERY SMALL LOZENGE,6MEDIUM SMALL LOZENGE,
  0WHITE LOZENGE CONTAINING BLACK SMALL LOZENGE,0THIN GREEK CROSS,0LIGHT GREEK CROSS,
  0MEDIUM GREEK CROSS,0BOLD GREEK CROSS,0VERY BOLD GREEK CROSS,5HEAVY GREEK CROSS,
  0EXTREMELY HEAVY GREEK CROSS,0THIN SALTIRE,0LIGHT SALTIRE,0MEDIUM SALTIRE,0BOLD SALTIRE,
  0HEAVY SALTIRE,0VERY HEAVY SALTIRE,0EXTREMELY HEAVY SALTIRE,0LIGHT FIVE SPOKED ASTERISK,
  0MEDIUM FIVE SPOKED ASTERISK,0BOLD FIVE SPOKED ASTERISK,0HEAVY FIVE SPOKED ASTERISK,
  0VERY HEAVY FIVE SPOKED ASTERISK,0EXTREMELY HEAVY FIVE SPOKED ASTERISK,
  0LIGHT SIX SPOKED ASTERISK,0MEDIUM SIX SPOKED ASTERISK,0BOLD SIX SPOKED ASTERISK,
  0HEAVY SIX SPOKED ASTERISK,0VERY HEAVY SIX SPOKED ASTERISK,0EXTREMELY HEAVY SIX SPOKED ASTERISK,
  0LIGHT EIGHT SPOKED ASTERISK,0MEDIUM EIGHT SPOKED ASTERISK,0BOLD EIGHT SPOKED ASTERISK,
  0HEAVY EIGHT SPOKED ASTERISK,0VERY HEAVY EIGHT SPOKED ASTERISK,0LIGHT THREE POINTED BLACK STAR,
  0MEDIUM THREE POINTED BLACK STAR,0THREE POINTED BLACK STAR,0MEDIUM THREE POINTED PINWHEEL STAR,
  0LIGHT FOUR POINTED BLACK STAR,0MEDIUM FOUR POINTED BLACK STAR,0FOUR POINTED BLACK STAR,
  0MEDIUM FOUR POINTED PINWHEEL STAR,0REVERSE LIGHT FOUR POINTED PINWHEEL STAR,
  0LIGHT FIVE POINTED BLACK STAR,0HEAVY FIVE POINTED BLACK STAR,0MEDIUM SIX POINTED BLACK STAR,
  0HEAVY SIX POINTED BLACK STAR,0SIX POINTED PINWHEEL STAR,0MEDIUM EIGHT POINTED BLACK STAR,
  0HEAVY EIGHT POINTED BLACK STAR,0VERY HEAVY EIGHT POINTED BLACK STAR,
  0HEAVY EIGHT POINTED PINWHEEL STAR,0LIGHT TWELVE POINTED BLACK STAR,
  0HEAVY TWELVE POINTED BLACK STAR,EPINWHEEL STAR,0CIRCLED TRIANGLE,0NEGATIVE CIRCLED TRIANGLE,
  0CIRCLED SQUARE,0NEGATIVE CIRCLED SQUARE,!1F7E0,0LARGE ORANGE CIRCLE,6YELLOW CIRCLE,
  6GREEN CIRCLE,6PURPLE CIRCLE,6BROWN CIRCLE,6RED SQUARE,6BLUE SQUARE,6ORANGE SQUARE,
  6YELLOW SQUARE,6GREEN SQUARE,6PURPLE SQUARE,6BROWN SQUARE,!1F7F0,0HEAVY EQUALS SIGN,!1F800,
  0LEFTWARDS ARROW WITH SMALL TRIANGLE ARROWHEAD,0UPWARDS ARROW WITH SMALL TRIANGLE ARROWHEAD,
  0RIGHTWARDS ARROW WITH SMALL TRIANGLE ARROWHEAD,0DOWNWARDS ARROW WITH SMALL TRIANGLE ARROWHEAD,
  0LEFTWARDS ARROW WITH MEDIUM TRIANGLE ARROWHEAD,0UPWARDS ARROW WITH MEDIUM TRIANGLE ARROWHEAD,
  0RIGHTWARDS ARROW WITH MEDIUM TRIANGLE ARROWHEAD,
  0DOWNWARDS ARROW WITH MEDIUM TRIANGLE ARROWHEAD,0LEFTWARDS ARROW WITH LARGE TRIANGLE ARROWHEAD,
  0UPWARDS ARROW WITH LARGE TRIANGLE ARROWHEAD,0RIGHTWARDS ARROW WITH LARGE TRIANGLE ARROWHEAD,
  0DOWNWARDS ARROW WITH LARGE TRIANGLE ARROWHEAD,!1F810,
  0LEFTWARDS ARROW WITH SMALL EQUILATERAL ARROWHEAD,
  0UPWARDS ARROW WITH SMALL EQUILATERAL ARROWHEAD,
  0RIGHTWARDS ARROW WITH SMALL EQUILATERAL ARROWHEAD,
  0DOWNWARDS ARROW WITH SMALL EQUILATERAL ARROWHEAD,0LEFTWARDS ARROW WITH EQUILATERAL ARROWHEAD,
  0UPWARDS ARROW WITH EQUILATERAL ARROWHEAD,0RIGHTWARDS ARROW WITH EQUILATERAL ARROWHEAD,
  0DOWNWARDS ARROW WITH EQUILATERAL ARROWHEAD,0HEAVY LEFTWARDS ARROW WITH EQUILATERAL ARROWHEAD,
  6UPWARDS ARROW WITH EQUILATERAL ARROWHEAD,6RIGHTWARDS ARROW WITH EQUILATERAL ARROWHEAD,
  6DOWNWARDS ARROW WITH EQUILATERAL ARROWHEAD,6LEFTWARDS ARROW WITH LARGE EQUILATERAL ARROWHEAD,
  6UPWARDS ARROW WITH LARGE EQUILATERAL ARROWHEAD,
  6RIGHTWARDS ARROW WITH LARGE EQUILATERAL ARROWHEAD,
  6DOWNWARDS ARROW WITH LARGE EQUILATERAL ARROWHEAD,
  0LEFTWARDS TRIANGLE-HEADED ARROW WITH NARROW SHAFT,
  0UPWARDS TRIANGLE-HEADED ARROW WITH NARROW SHAFT,
  0RIGHTWARDS TRIANGLE-HEADED ARROW WITH NARROW SHAFT,
  0DOWNWARDS TRIANGLE-HEADED ARROW WITH NARROW SHAFT,
  0LEFTWARDS TRIANGLE-HEADED ARROW WITH MEDIUM SHAFT,
  0UPWARDS TRIANGLE-HEADED ARROW WITH MEDIUM SHAFT,
  0RIGHTWARDS TRIANGLE-HEADED ARROW WITH MEDIUM SHAFT,
  0DOWNWARDS TRIANGLE-HEADED ARROW WITH MEDIUM SHAFT,
  0LEFTWARDS TRIANGLE-HEADED ARROW WITH BOLD SHAFT,0UPWARDS TRIANGLE-HEADED ARROW WITH BOLD SHAFT,
  0RIGHTWARDS TRIANGLE-HEADED ARROW WITH BOLD SHAFT,
  0DOWNWARDS TRIANGLE-HEADED ARROW WITH BOLD SHAFT,
  0LEFTWARDS TRIANGLE-HEADED ARROW WITH HEAVY SHAFT,
  0UPWARDS TRIANGLE-HEADED ARROW WITH HEAVY SHAFT,
  0RIGHTWARDS TRIANGLE-HEADED ARROW WITH HEAVY SHAFT,
  0DOWNWARDS TRIANGLE-HEADED ARROW WITH HEAVY SHAFT,
  0LEFTWARDS TRIANGLE-HEADED ARROW WITH VERY HEAVY SHAFT,
  0UPWARDS TRIANGLE-HEADED ARROW WITH VERY HEAVY SHAFT,
  0RIGHTWARDS TRIANGLE-HEADED ARROW WITH VERY HEAVY SHAFT,
  0DOWNWARDS TRIANGLE-HEADED ARROW WITH VERY HEAVY SHAFT,0LEFTWARDS FINGER-POST ARROW,
  0UPWARDS FINGER-POST ARROW,0RIGHTWARDS FINGER-POST ARROW,0DOWNWARDS FINGER-POST ARROW,
  0LEFTWARDS SQUARED ARROW,0UPWARDS SQUARED ARROW,0RIGHTWARDS SQUARED ARROW,
  0DOWNWARDS SQUARED ARROW,0LEFTWARDS COMPRESSED ARROW,0UPWARDS COMPRESSED ARROW,
  0RIGHTWARDS COMPRESSED ARROW,0DOWNWARDS COMPRESSED ARROW,0LEFTWARDS HEAVY COMPRESSED ARROW,
  0UPWARDS HEAVY COMPRESSED ARROW,0RIGHTWARDS HEAVY COMPRESSED ARROW,
  0DOWNWARDS HEAVY COMPRESSED ARROW,0LEFTWARDS HEAVY ARROW,0UPWARDS HEAVY ARROW,
  0RIGHTWARDS HEAVY ARROW,0DOWNWARDS HEAVY ARROW,!1F850,0LEFTWARDS SANS-SERIF ARROW,
  0UPWARDS SANS-SERIF ARROW,0RIGHTWARDS SANS-SERIF ARROW,0DOWNWARDS SANS-SERIF ARROW,
  0NORTH WEST SANS-SERIF ARROW,6EAST SANS-SERIF ARROW,0SOUTH EAST SANS-SERIF ARROW,
  6WEST SANS-SERIF ARROW,0LEFT RIGHT SANS-SERIF ARROW,0UP DOWN SANS-SERIF ARROW,!1F860,
  0WIDE-HEADED LEFTWARDS LIGHT BARB ARROW,<UPWARDS LIGHT BARB ARROW,<RIGHTWARDS LIGHT BARB ARROW,
  <DOWNWARDS LIGHT BARB ARROW,<NORTH WEST LIGHT BARB ARROW,BEAST LIGHT BARB ARROW,
  <SOUTH EAST LIGHT BARB ARROW,BWEST LIGHT BARB ARROW,<LEFTWARDS BARB ARROW,<UPWARDS BARB ARROW,
  <RIGHTWARDS BARB ARROW,<DOWNWARDS BARB ARROW,<NORTH WEST BARB ARROW,BEAST BARB ARROW,
  <SOUTH EAST BARB ARROW,BWEST BARB ARROW,<LEFTWARDS MEDIUM BARB ARROW,<UPWARDS MEDIUM BARB ARROW,
  <RIGHTWARDS MEDIUM BARB ARROW,<DOWNWARDS MEDIUM BARB ARROW,<NORTH WEST MEDIUM BARB ARROW,
  BEAST MEDIUM BARB ARROW,<SOUTH EAST MEDIUM BARB ARROW,BWEST MEDIUM BARB ARROW,
  <LEFTWARDS HEAVY BARB ARROW,<UPWARDS HEAVY BARB ARROW,<RIGHTWARDS HEAVY BARB ARROW,
  <DOWNWARDS HEAVY BARB ARROW,<NORTH WEST HEAVY BARB ARROW,BEAST HEAVY BARB ARROW,
  <SOUTH EAST HEAVY BARB ARROW,BWEST HEAVY BARB ARROW,<LEFTWARDS VERY HEAVY BARB ARROW,
  <UPWARDS VERY HEAVY BARB ARROW,<RIGHTWARDS VERY HEAVY BARB ARROW,
  <DOWNWARDS VERY HEAVY BARB ARROW,<NORTH WEST VERY HEAVY BARB ARROW,BEAST VERY HEAVY BARB ARROW,
  <SOUTH EAST VERY HEAVY BARB ARROW,BWEST VERY HEAVY BARB ARROW,!1F890,
  0LEFTWARDS TRIANGLE ARROWHEAD,0UPWARDS TRIANGLE ARROWHEAD,0RIGHTWARDS TRIANGLE ARROWHEAD,
  0DOWNWARDS TRIANGLE ARROWHEAD,0LEFTWARDS WHITE ARROW WITHIN TRIANGLE ARROWHEAD,
  0UPWARDS WHITE ARROW WITHIN TRIANGLE ARROWHEAD,
  0RIGHTWARDS WHITE ARROW WITHIN TRIANGLE ARROWHEAD,
  0DOWNWARDS WHITE ARROW WITHIN TRIANGLE ARROWHEAD,0LEFTWARDS ARROW WITH NOTCHED TAIL,
  0UPWARDS ARROW WITH NOTCHED TAIL,0RIGHTWARDS ARROW WITH NOTCHED TAIL,
  0DOWNWARDS ARROW WITH NOTCHED TAIL,0HEAVY ARROW SHAFT WIDTH ONE,HTWO THIRDS,HONE HALF,LTHIRD,
  0LEFTWARDS BOTTOM-SHADED WHITE ARROW,0RIGHTWARDS BOTTOM SHADED WHITE ARROW,
  0LEFTWARDS TOP SHADED WHITE ARROW,0RIGHTWARDS TOP SHADED WHITE ARROW,
  0LEFTWARDS LEFT-SHADED WHITE ARROW,0RIGHTWARDS RIGHT-SHADED WHITE ARROW,
  0LEFTWARDS RIGHT-SHADED WHITE ARROW,0RIGHTWARDS LEFT-SHADED WHITE ARROW,
  0LEFTWARDS BACK-TILTED SHADOWED WHITE ARROW,0RIGHTWARDS BACK-TILTED SHADOWED WHITE ARROW,
  0LEFTWARDS FRONT-TILTED SHADOWED WHITE ARROW,0RIGHTWARDS FRONT-TILTED SHADOWED WHITE ARROW,
  0WHITE ARROW SHAFT WIDTH ONE,HTWO THIRDS,!1F8B0,0ARROW POINTING UPWARDS THEN NORTH WEST,
  ?RIGHTWARDS THEN CURVING SOUTH WEST,!1F900,0CIRCLED CROSS FORMEE WITH FOUR DOTS,JTWO DOTS,D,
  0LEFT HALF CIRCLE WITH FOUR DOTS,FTHREE DOTS,GWO DOTS,FDOT,@,0DOWNWARD FACING HOOK,
  @NOTCHED HOOK,@HOOK WITH DOT,@NOTCHED HOOK WITH DOT,0PINCHED FINGERS,0WHITE HEART,0BROWN HEART,
  0PINCHING HAND,0ZIPPER-MOUTH FACE,0MONEY-MOUTH FACE,0FACE WITH THERMOMETER,0NERD FACE,
  0THINKING FACE,0FACE WITH HEAD-BANDAGE,0ROBOT FACE,0HUGGING FACE,0SIGN OF THE HORNS,
  0CALL ME HAND,0RAISED BACK OF HAND,0LEFT-FACING FIST,0RIGHT-FACING FIST,0HANDSHAKE,
  4 WITH INDEX AND MIDDLE FINGERS CROSSED,0I LOVE YOU HAND SIGN,0FACE WITH COWBOY HAT,0CLOWN FACE,
  0NAUSEATED FACE,0ROLLING ON THE FLOOR LAUGHING,0DROOLING FACE,0LYING FACE,0FACE PALM,
  0SNEEZING FACE,0FACE WITH ONE EYEBROW RAISED,0GRINNING FACE WITH STAR EYES,
  CONE LARGE AND ONE SMALL EYE,0FACE WITH FINGER COVERING CLOSED LIPS,
  0SERIOUS FACE WITH SYMBOLS COVERING MOUTH,
  1MILING FACE WITH SMILING EYES AND HAND COVERING MOUTH,0FACE WITH OPEN MOUTH VOMITING,
  0SHOCKED FACE WITH EXPLODING HEAD,0PREGNANT WOMAN,0BREAST-FEEDING,0PALMS UP TOGETHER,0SELFIE,
  0PRINCE,0MAN IN TUXEDO,1OTHER CHRISTMAS,0SHRUG,0PERSON DOING CARTWHEEL,0JUGGLING,0FENCER,
  0MODERN PENTATHLON,0WRESTLERS,1ATER POLO,0HANDBALL,0DIVING MASK,0WILTED FLOWER,
  0DRUM WITH DRUMSTICKS,0CLINKING GLASSES,0TUMBLER GLASS,0SPOON,0GOAL NET,0RIFLE,
  0FIRST PLACE MEDAL,0SECOND PLACE MEDAL,0THIRD PLACE MEDAL,0BOXING GLOVE,0MARTIAL ARTS UNIFORM,
  0CURLING STONE,0LACROSSE STICK AND BALL,0SOFTBALL,0FLYING DISC,0CROISSANT,0AVOCADO,0CUCUMBER,
  0BACON,0POTATO,0CARROT,0BAGUETTE BREAD,0GREEN SALAD,0SHALLOW PAN OF FOOD,1TUFFED FLATBREAD,0EGG,
  0GLASS OF MILK,0PEANUTS,0KIWIFRUIT,0PANCAKES,0DUMPLING,0FORTUNE COOKIE,0TAKEOUT BOX,0CHOPSTICKS,
  0BOWL WITH SPOON,0CUP WITH STRAW,1OCONUT,0BROCCOLI,0PIE,1RETZEL,0CUT OF MEAT,0SANDWICH,
  0CANNED FOOD,0LEAFY GREEN,0MANGO,1OON CAKE,0BAGEL,
  0SMILING FACE WITH SMILING EYES AND THREE HEARTS,0YAWNING FACE,0SMILING FACE WITH TEAR,
  0FACE WITH PARTY HORN AND PARTY HAT,:UNEVEN EYES AND WAVY MOUTH,0OVERHEATED FACE,0FREEZING FACE,
  0NINJA,0DISGUISED FACE,0FACE HOLDING BACK TEARS,5WITH PLEADING EYES,0SARI,0LAB COAT,0GOGGLES,
  0HIKING BOOT,0FLAT SHOE,0CRAB,0LION FACE,0SCORPION,0TURKEY,0UNICORN FACE,0EAGLE,0DUCK,0BAT,
  0SHARK,0OWL,0FOX FACE,0BUTTERFLY,0DEER,0GORILLA,0LIZARD,0RHINOCEROS,0SHRIMP,1QUID,0GIRAFFE FACE,
  0ZEBRA FACE,0HEDGEHOG,0SAUROPOD,0T-REX,0CRICKET,0KANGAROO,0LLAMA,0PEACOCK,0HIPPOPOTAMUS,0PARROT,
  0RACCOON,0LOBSTER,0MOSQUITO,1ICROBE,0BADGER,0SWAN,0MAMMOTH,0DODO,0SLOTH,0OTTER,1RANGUTAN,0SKUNK,
  0FLAMINGO,0OYSTER,0BEAVER,1ISON,0SEAL,0GUIDE DOG,0PROBING CANE,0EMOJI COMPONENT RED HAIR,
  @CURLY HAIR,@BALD,@WHITE HAIR,0BONE,0LEG,0FOOT,0TOOTH,0SUPERHERO,5VILLAIN,1AFETY VEST,
  0EAR WITH HEARING AID,0MOTORIZED WHEELCHAIR,1ANUAL WHEELCHAIR,1ECHANICAL ARM,;LEG,0CHEESE WEDGE,
  1UPCAKE,0SALT SHAKER,0BEVERAGE BOX,0GARLIC,0ONION,0FALAFEL,0WAFFLE,0BUTTER,0MATE DRINK,
  0ICE CUBE,0BUBBLE TEA,0TROLL,0STANDING PERSON,0KNEELING PERSON,0DEAF PERSON,0FACE WITH MONOCLE,
  0ADULT,0CHILD,0OLDER ADULT,0BEARDED PERSON,0PERSON WITH HEADSCARF,7IN STEAMY ROOM,7CLIMBING,
  7IN LOTUS POSITION,0MAGE,0FAIRY,0VAMPIRE,0MERPERSON,0ELF,0GENIE,0ZOMBIE,0BRAIN,0ORANGE HEART,
  0BILLED CAP,0SCARF,0GLOVES,0COAT,0SOCKS,0RED GIFT ENVELOPE,0FIRECRACKER,0JIGSAW PUZZLE PIECE,
  0TEST TUBE,0PETRI DISH,0DNA DOUBLE HELIX,0COMPASS,0ABACUS,0FIRE EXTINGUISHER,0TOOLBOX,0BRICK,
  0MAGNET,0LUGGAGE,1OTION BOTTLE,0SPOOL OF THREAD,0BALL OF YARN,0SAFETY PIN,0TEDDY BEAR,0BROOM,
  1ASKET,0ROLL OF PAPER,0BAR OF SOAP,0SPONGE,0RECEIPT,0NAZAR AMULET,1EUTRAL CHESS KING,>QUEEN,
  >ROOK,>BISHOP,>KNIGHT,>PAWN,0WHITE CHESS KNIGHT ROTATED FORTY-FIVE DEGREES,
  0BLACK CHESS KNIGHT ROTATED FORTY-FIVE DEGREES,0NEUTRAL CHESS KNIGHT ROTATED FORTY-FIVE DEGREES,
  0WHITE CHESS KING ROTATED NINETY DEGREES,<QUEEN ROTATED NINETY DEGREES,
  <ROOK ROTATED NINETY DEGREES,<BISHOP ROTATED NINETY DEGREES,<KNIGHT ROTATED NINETY DEGREES,
  <PAWN ROTATED NINETY DEGREES,0BLACK CHESS KING ROTATED NINETY DEGREES,
  <QUEEN ROTATED NINETY DEGREES,<ROOK ROTATED NINETY DEGREES,<BISHOP ROTATED NINETY DEGREES,
  <KNIGHT ROTATED NINETY DEGREES,<PAWN ROTATED NINETY DEGREES,
  0NEUTRAL CHESS KING ROTATED NINETY DEGREES,>QUEEN ROTATED NINETY DEGREES,
  >ROOK ROTATED NINETY DEGREES,>BISHOP ROTATED NINETY DEGREES,>KNIGHT ROTATED NINETY DEGREES,
  >PAWN ROTATED NINETY DEGREES,0WHITE CHESS KNIGHT ROTATED ONE HUNDRED THIRTY-FIVE DEGREES,
  0BLACK CHESS KNIGHT ROTATED ONE HUNDRED THIRTY-FIVE DEGREES,
  0NEUTRAL CHESS KNIGHT ROTATED ONE HUNDRED THIRTY-FIVE DEGREES,0WHITE CHESS TURNED KING,CQUEEN,
  CROOK,CBISHOP,CKNIGHT,CPAWN,0BLACK CHESS TURNED KING,CQUEEN,CROOK,CBISHOP,CKNIGHT,CPAWN,
  0NEUTRAL CHESS TURNED KING,EQUEEN,EROOK,EBISHOP,EKNIGHT,EPAWN,
  0WHITE CHESS KNIGHT ROTATED TWO HUNDRED TWENTY-FIVE DEGREES,
  0BLACK CHESS KNIGHT ROTATED TWO HUNDRED TWENTY-FIVE DEGREES,
  0NEUTRAL CHESS KNIGHT ROTATED TWO HUNDRED TWENTY-FIVE DEGREES,
  0WHITE CHESS KING ROTATED TWO HUNDRED SEVENTY DEGREES,
  <QUEEN ROTATED TWO HUNDRED SEVENTY DEGREES,<ROOK ROTATED TWO HUNDRED SEVENTY DEGREES,
  <BISHOP ROTATED TWO HUNDRED SEVENTY DEGREES,<KNIGHT ROTATED TWO HUNDRED SEVENTY DEGREES,
  <PAWN ROTATED TWO HUNDRED SEVENTY DEGREES,0BLACK CHESS KING ROTATED TWO HUNDRED SEVENTY DEGREES,
  <QUEEN ROTATED TWO HUNDRED SEVENTY DEGREES,<ROOK ROTATED TWO HUNDRED SEVENTY DEGREES,
  <BISHOP ROTATED TWO HUNDRED SEVENTY DEGREES,<KNIGHT ROTATED TWO HUNDRED SEVENTY DEGREES,
  <PAWN ROTATED TWO HUNDRED SEVENTY DEGREES,
  0NEUTRAL CHESS KING ROTATED TWO HUNDRED SEVENTY DEGREES,
  >QUEEN ROTATED TWO HUNDRED SEVENTY DEGREES,>ROOK ROTATED TWO HUNDRED SEVENTY DEGREES,
  >BISHOP ROTATED TWO HUNDRED SEVENTY DEGREES,>KNIGHT ROTATED TWO HUNDRED SEVENTY DEGREES,
  >PAWN ROTATED TWO HUNDRED SEVENTY DEGREES,
  0WHITE CHESS KNIGHT ROTATED THREE HUNDRED FIFTEEN DEGREES,
  0BLACK CHESS KNIGHT ROTATED THREE HUNDRED FIFTEEN DEGREES,
  0NEUTRAL CHESS KNIGHT ROTATED THREE HUNDRED FIFTEEN DEGREES,0WHITE CHESS EQUIHOPPER,
  0BLACK CHESS EQUIHOPPER,0NEUTRAL CHESS EQUIHOPPER,
  0WHITE CHESS EQUIHOPPER ROTATED NINETY DEGREES,0BLACK CHESS EQUIHOPPER ROTATED NINETY DEGREES,
  0NEUTRAL CHESS EQUIHOPPER ROTATED NINETY DEGREES,0WHITE CHESS KNIGHT-QUEEN,CROOK,CBISHOP,
  0BLACK CHESS KNIGHT-QUEEN,CROOK,CBISHOP,!1FA60,0XIANGQI RED GENERAL,<MANDARIN,<ELEPHANT,<HORSE,
  <CHARIOT,=ANNON,<SOLDIER,8BLACK GENERAL,>MANDARIN,>ELEPHANT,>HORSE,>CHARIOT,?ANNON,>SOLDIER,
  !1FA70,0BALLET SHOES,0ONE-PIECE SWIMSUIT,0BRIEFS,0SHORTS,0THONG SANDAL,!1FA78,0DROP OF BLOOD,
  0ADHESIVE BANDAGE,0STETHOSCOPE,0X-RAY,0CRUTCH,!1FA80,0YO-YO,0KITE,0PARACHUTE,0BOOMERANG,
  0MAGIC WAND,0PINATA,0NESTING DOLLS,!1FA90,0RINGED PLANET,0CHAIR,0RAZOR,0AXE,0DIYA LAMP,0BANJO,
  0MILITARY HELMET,0ACCORDION,0LONG DRUM,0COIN,1ARPENTRY SAW,0SCREWDRIVER,0LADDER,0HOOK,0MIRR
  OR,0WINDOW,0PLUNGER,0SEWING NEEDLE,0KNOT,0BUCKET,0MOUSE TRAP,0TOOTHBRUSH,0HEADSTONE,0PLACARD,
  0ROCK,0MIRR
  OR BALL,0IDENTIFICATION CARD,0LOW BATTERY,0HAMSA,!1FAB0,0FLY,0WORM,0BEETLE,0COCKROACH,
  0POTTED PLANT,0WOOD,0FEATHER,0LOTUS,0CORAL,0EMPTY NEST,0NEST WITH EGGS,!1FAC0,0ANATOMICAL HEART,
  0LUNGS,0PEOPLE HUGGING,1REGNANT MAN,9PERSON,1ERSON WITH CROWN,!1FAD0,0BLUEBERRIES,1ELL PEPPER,
  0OLIVE,0FLATBREAD,0TAMALE,0FONDUE,0TEAPOT,0POURING LIQUID,0BEANS,0JAR,!1FAE0,0MELTING FACE,
  0SALUTING FACE,0FACE WITH OPEN EYES AND HAND OVER MOUTH,:PEEKING EYE,:DIAGONAL MOUTH,
  0DOTTED LINE FACE,0BITING LIP,1UBBLES,!1FAF0,0HAND WITH INDEX FINGER AND THUMB CROSSED,
  0RIGHTWARDS HAND,0LEFTWARDS HAND,0PALM DOWN HAND,5UP HAND,0INDEX POINTING AT THE VIEWER,
  0HEART HANDS,!1FB00,0BLOCK SEXTANT-1,>2,>12,>3,>13,>23,>123,>4,>14,>24,>124,>34,>134,>234,>1234,
  >5,>15,>25,>125,>35,>235,>1235,>45,>145,>245,>1245,>345,>1345,>2345,>12345,>6,>16,>26,>126,>36,
  >136,>236,>1236,>46,>146,?246,>346,>1346,>2346,>12346,>56,>156,>256,>1256,>356,>1356,>2356,
  >12356,>456,>1456,>2456,>12456,>3456,>13456,>23456,
  0LOWER LEFT BLOCK DIAGONAL LOWER MIDDLE LEFT TO LOWER CENTRE,[ TO LOWER RIGHT,
  JUPPER MIDDLE LEFT TO LOWER CENTRE,[ TO LOWER RIGHT,PLEFT TO LOWER CENTRE,
  6RIGHT BLOCK DIAGONAL UPPER MIDDLE LEFT TO UPPER CENTRE,[T TO UPPER RIGHT,
  KLOWER MIDDLE LEFT TO UPPER CENTRE,[T TO UPPER RIGHT,QLEFT TO UPPER CENTRE,
  QMIDDLE LEFT TO UPPER MIDDLE RIGHT,QCENTRE TO LOWER MIDDLE RIGHT,QLEFT TO LOWER MIDDLE RIGHT,
  QCENTRE TO UPPER MIDDLE RIGHT,QLEFT TO UPPER MIDDLE RIGHT,QCENTRE TO UPPER RIGHT,
  6LEFT BLOCK DIAGONAL UPPER CENTRE TO UPPER MIDDLE RIGHT,PLEFT TO UPPER MIDDLE RIGHT,
  PCENTRE TO LOWER MIDDLE RIGHT,PLEFT TO LOWER MIDDLE RIGHT,PCENTRE TO LOWER RIGHT,
  PMIDDLE LEFT TO LOWER MIDDLE RIGHT,
  0UPPER RIGHT BLOCK DIAGONAL LOWER MIDDLE LEFT TO LOWER CENTRE,[T TO LOWER RIGHT,
  KUPPER MIDDLE LEFT TO LOWER CENTRE,[T TO LOWER RIGHT,QLEFT TO LOWER CENTRE,
  6LEFT BLOCK DIAGONAL UPPER MIDDLE LEFT TO UPPER CENTRE,[ TO UPPER RIGHT,
  JLOWER MIDDLE LEFT TO UPPER CENTRE,[ TO UPPER RIGHT,PLEFT TO UPPER CENTRE,
  PMIDDLE LEFT TO UPPER MIDDLE RIGHT,PCENTRE TO LOWER MIDDLE RIGHT,PLEFT TO LOWER MIDDLE RIGHT,
  PCENTRE TO UPPER MIDDLE RIGHT,PLEFT TO UPPER MIDDLE RIGHT,PCENTRE TO UPPER RIGHT,
  6RIGHT BLOCK DIAGONAL UPPER CENTRE TO UPPER MIDDLE RIGHT,QLEFT TO UPPER MIDDLE RIGHT,
  QCENTRE TO LOWER MIDDLE RIGHT,QLEFT TO LOWER MIDDLE RIGHT,QCENTRE TO LOWER RIGHT,
  QMIDDLE LEFT TO LOWER MIDDLE RIGHT,6AND RIGHT AND LOWER TRIANGULAR THREE QUARTERS BLOCK,
  0LEFT AND LOWER AND RIGHT TRIANGULAR THREE QUARTERS BLOCK,
  0UPPER AND LEFT AND LOWER TRIANGULAR THREE QUARTERS BLOCK,
  0LEFT AND UPPER AND RIGHT TRIANGULAR THREE QUARTERS BLOCK,5TRIANGULAR ONE QUARTER BLOCK,
  0UPPER TRIANGULAR ONE QUARTER BLOCK,0RIGHT TRIANGULAR ONE QUARTER BLOCK,
  0LOWER TRIANGULAR ONE QUARTER BLOCK,0VERTICAL ONE EIGHTH BLOCK-2,J3,J4,J5,J6,J7,
  0HORIZONTAL ONE EIGHTH BLOCK-2,L3,L4,L5,L6,L7,0LEFT AND LOWER ONE EIGHTH BLOCK,
  9UPPER ONE EIGHTH BLOCK,0RIGHT AND UPPER ONE EIGHTH BLOCK,:LOWER ONE EIGHTH BLOCK,
  0UPPER AND LOWER ONE EIGHTH BLOCK,0HORIZONTAL ONE EIGHTH BLOCK-1358,0UPPER ONE QUARTER BLOCK,
  6THREE EIGHTHS BLOCK,6FIVE EIGHTHS BLOCK,6THREE QUARTERS BLOCK,6SEVEN EIGHTHS BLOCK,
  0RIGHT ONE QUARTER BLOCK,6THREE EIGHTHS BLOCK,6FIVE EIGHTHS BLOCK,6THREE QUARTERS BLOCK,
  6SEVEN EIGHTHS BLOCK,0LEFT HALF MEDIUM SHADE,0RIGHT HALF MEDIUM SHADE,0UPPER HALF MEDIUM SHADE,
  0LOWER HALF MEDIUM SHADE,0INVERSE MEDIUM SHADE,
  0UPPER HALF BLOCK AND LOWER HALF INVERSE MEDIUM SHADE,
  ;INVERSE MEDIUM SHADE AND LOWER HALF BLOCK,!1FB94,
  0LEFT HALF INVERSE MEDIUM SHADE AND RIGHT HALF BLOCK,0CHECKER BOARD FILL,
  0INVERSE CHECKER BOARD FILL,0HEAVY HORIZONTAL FILL,0UPPER LEFT TO LOWER RIGHT FILL,
  6RIGHT TO LOWER LEFT FILL,6AND LOWER TRIANGULAR HALF BLOCK,
  0LEFT AND RIGHT TRIANGULAR HALF BLOCK,0UPPER LEFT TRIANGULAR MEDIUM SHADE,
  6RIGHT TRIANGULAR MEDIUM SHADE,0LOWER RIGHT TRIANGULAR MEDIUM SHADE,
  6LEFT TRIANGULAR MEDIUM SHADE,0BOX DRAWINGS LIGHT DIAGONAL UPPER CENTRE TO MIDDLE LEFT,
  [ MIDDLE RIGHT,LMIDDLE LEFT TO LOWER CENTRE,SRIGHT TO LOWER CENTRE,
  LUPPER CENTRE TO MIDDLE LEFT TO LOWER CENTRE,[ MIDDLE RIGHT TO LOWER CENTRE,
  LMIDDLE LEFT TO LOWER CENTRE TO MIDDLE RIGHT,[UPPER CENTRE TO MIDDLE RIGHT,
  LUPPER CENTRE TO MIDDLE LEFT AND MIDDLE RIGHT TO LOWER CENTRE,
  [ MIDDLE RIGHT AND MIDDLE LEFT TO LOWER CENTRE,[ MIDDLE RIGHT TO LOWER CENTRE TO MIDDLE LEFT,
  [ MIDDLE LEFT TO LOWER CENTRE TO MIDDLE RIGHT,
  LMIDDLE LEFT TO UPPER CENTRE TO MIDDLE RIGHT TO LOWER CENTRE,
  SRIGHT TO UPPER CENTRE TO MIDDLE LEFT TO LOWER CENTRE,LDIAMOND,CHORIZONTAL WITH VERTICAL STROKE,
  0ARROWHEAD-SHAPED POINTER,0INVERSE CHECK MARK,0LEFT HALF RUNNING MAN,0RIGHT HALF RUNNING MAN,
  0INVERSE DOWNWARDS ARROW WITH TIP LEFTWARDS,
  0LEFTWARDS ARROW AND UPPER AND LOWER ONE EIGHTH BLOCK,
  0RIGHTWARDS ARROW AND UPPER AND LOWER ONE EIGHTH BLOCK,
  0DOWNWARDS ARROW AND RIGHT ONE EIGHTH BLOCK,0UPWARDS ARROW AND RIGHT ONE EIGHTH BLOCK,
  0LEFT HALF FOLDER,0RIGHT HALF FOLDER,0VOIDED GREEK CROSS,0RIGHT OPEN SQUARED DOT,
  0NEGATIVE DIAGONAL CROSS,BMIDDLE RIGHT TO LOWER CENTRE,BDIAMOND,
  0WHITE HEAVY SALTIRE WITH ROUNDED CORNERS,0LEFT THIRD WHITE RIGHT POINTING INDEX,
  0MIDDLE THIRD WHITE RIGHT POINTING INDEX,0RIGHT THIRD WHITE RIGHT POINTING INDEX,
  0NEGATIVE SQUARED QUESTION MARK,0STICK FIGURE,< WITH ARMS RAISED,=LEANING LEFT,ERIGHT,
  =WITH DRESS,0WHITE UP-POINTING CHEVRON,!1FBF0,0SEGMENTED DIGIT ZERO,@ONE,@TWO,AHREE,@FOUR,AIVE,
  @SIX,AEVEN,@EIGHT,@NINE,!2F800,0CJK COMPATIBILITY IDEOGRAPH-2F800,P1,P2,P3,P4,P5,P6,P7,P8,P9,PA,
  PB,PC,PD,PE,PF,O10,P1,P2,P3,P4,P5,P6,P7,P8,P9,PA,PB,PC,PD,PE,PF,O20,P1,P2,P3,P4,P5,P6,P7,P8,P9,
  PA,PB,PC,PD,PE,PF,O30,P1,P2,P3,P4,P5,P6,P7,P8,P9,PA,PB,PC,PD,PE,PF,O40,P1,P2,P3,P4,P5,P6,P7,P8,
  P9,PA,PB,PC,PD,PE,PF,O50,P1,P2,P3,P4,P5,P6,P7,P8,P9,PA,PB,PC,PD,PE,PF,O60,P1,P2,P3,P4,P5,P6,P7,
  P8,P9,PA,PB,PC,PD,PE,PF,O70,P1,P2,P3,P4,P5,P6,P7,P8,P9,PA,PB,PC,PD,PE,PF,O80,P1,P2,P3,P4,P5,P6,
  P7,P8,P9,PA,PB,PC,PD,PE,PF,O90,P1,P2,P3,P4,P5,P6,P7,P8,P9,PA,PB,PC,PD,PE,PF,OA0,P1,P2,P3,P4,P5,
  P6,P7,P8,P9,PA,PB,PC,PD,PE,PF,OB0,P1,P2,P3,P4,P5,P6,P7,P8,P9,PA,PB,PC,PD,PE,PF,OC0,P1,P2,P3,P4,
  P5,P6,P7,P8,P9,PA,PB,PC,PD,PE,PF,OD0,P1,P2,P3,P4,P5,P6,P7,P8,P9,PA,PB,PC,PD,PE,PF,OE0,P1,P2,P3,
  P4,P5,P6,P7,P8,P9,PA,PB,PC,PD,PE,PF,OF0,P1,P2,P3,P4,P5,P6,P7,P8,P9,PA,PB,PC,PD,PE,PF,N900,P1,P2,
  P3,P4,P5,P6,P7,P8,P9,PA,PB,PC,PD,PE,PF,O10,P1,P2,P3,P4,P5,P6,P7,P8,P9,PA,PB,PC,PD,PE,PF,O20,P1,
  P2,P3,P4,P5,P6,P7,P8,P9,PA,PB,PC,PD,PE,PF,O30,P1,P2,P3,P4,P5,P6,P7,P8,P9,PA,PB,PC,PD,PE,PF,O40,
  P1,P2,P3,P4,P5,P6,P7,P8,P9,PA,PB,PC,PD,PE,PF,O50,P1,P2,P3,P4,P5,P6,P7,P8,P9,PA,PB,PC,PD,PE,PF,
  O60,P1,P2,P3,P4,P5,P6,P7,P8,P9,PA,PB,PC,PD,PE,PF,O70,P1,P2,P3,P4,P5,P6,P7,P8,P9,PA,PB,PC,PD,PE,
  PF,O80,P1,P2,P3,P4,P5,P6,P7,P8,P9,PA,PB,PC,PD,PE,PF,O90,P1,P2,P3,P4,P5,P6,P7,P8,P9,PA,PB,PC,PD,
  PE,PF,OA0,P1,P2,P3,P4,P5,P6,P7,P8,P9,PA,PB,PC,PD,PE,PF,OB0,P1,P2,P3,P4,P5,P6,P7,P8,P9,PA,PB,PC,
  PD,PE,PF,OC0,P1,P2,P3,P4,P5,P6,P7,P8,P9,PA,PB,PC,PD,PE,PF,OD0,P1,P2,P3,P4,P5,P6,P7,P8,P9,PA,PB,
  PC,PD,PE,PF,OE0,P1,P2,P3,P4,P5,P6,P7,P8,P9,PA,PB,PC,PD,PE,PF,OF0,P1,P2,P3,P4,P5,P6,P7,P8,P9,PA,
  PB,PC,PD,PE,PF,NA00,P1,P2,P3,P4,P5,P6,P7,P8,P9,PA,PB,PC,PD,PE,PF,O10,P1,P2,P3,P4,P5,P6,P7,P8,P9,
  PA,PB,PC,PD,!E0001,0LANGUAGE TAG,!E0020,0TAG SPACE,4EXCLAMATION MARK,4QUOTATION MARK,
  4NUMBER SIGN,4DOLLAR SIGN,4PERCENT SIGN,4AMPERSAND,5POSTROPHE,4LEFT PARENTHESIS,
  4RIGHT PARENTHESIS,4ASTERISK,4PLUS SIGN,4COMMA,4HYPHEN-MINUS,4FULL STOP,4SOLIDUS,4DIGIT ZERO,
  :ONE,:TWO,;HREE,:FOUR,;IVE,:SIX,;EVEN,:EIGHT,:NINE,4COLON,4SEMICOLON,4LESS-THAN SIGN,
  4EQUALS SIGN,4GREATER-THAN SIGN,4QUESTION MARK,4COMMERCIAL AT,4LATIN CAPITAL LETTER A,IB,IC,ID,
  IE,IF,IG,IH,II,IJ,IK,IL,IM,IN,IO,IP,IQ,IR,IS,IT,IU,IV,IW,IX,IY,IZ,5EFT SQUARE BRACKET,
  4REVERSE SOLIDUS,5IGHT SQUARE BRACKET,4CIRCUMFLEX ACCENT,4LOW LINE,4GRAVE ACCENT,
  4LATIN SMALL LETTER A,GB,GC,GD,GE,GF,GG,GH,GI,GJ,GK,GL,GM,GN,GO,GP,GQ,GR,GS,GT,GU,GV,GW,GX,GY,
  GZ,5EFT CURLY BRACKET,4VERTICAL LINE,4RIGHT CURLY BRACKET,4TILDE,0CANCEL TAG,!E0100,
  0VARIATION SELECTOR-17,D8,D9,C20,D1,D2,D3,D4,D5,D6,D7,D8,D9,C30,D1,D2,D3,D4,D5,D6,D7,D8,D9,C40,
  D1,D2,D3,D4,D5,D6,D7,D8,D9,C50,D1,D2,D3,D4,D5,D6,D7,D8,D9,C60,D1,D2,D3,D4,D5,D6,D7,D8,D9,C70,D1,
  D2,D3,D4,D5,D6,D7,D8,D9,C80,D1,D2,D3,D4,D5,D6,D7,D8,D9,C90,D1,D2,D3,D4,D5,D6,D7,D8,D9,C100,E1,
  E2,E3,E4,E5,E6,E7,E8,E9,D10,E1,E2,E3,E4,E5,E6,E7,E8,E9,D20,E1,E2,E3,E4,E5,E6,E7,E8,E9,D30,E1,E2,
  E3,E4,E5,E6,E7,E8,E9,D40,E1,E2,E3,E4,E5,E6,E7,E8,E9,D50,E1,E2,E3,E4,E5,E6,E7,E8,E9,D60,E1,E2,E3,
  E4,E5,E6,E7,E8,E9,D70,E1,E2,E3,E4,E5,E6,E7,E8,E9,D80,E1,E2,E3,E4,E5,E6,E7,E8,E9,D90,E1,E2,E3,E4,
  E5,E6,E7,E8,E9,C200,E1,E2,E3,E4,E5,E6,E7,E8,E9,D10,E1,E2,E3,E4,E5,E6,E7,E8,E9,D20,E1,E2,E3,E4,
  E5,E6,E7,E8,E9,D30,E1,E2,E3,E4,E5,E6,E7,E8,E9,D40,E1,E2,E3,E4,E5,E6,E7,E8,E9,D50,E1,E2,E3,E4,E5,
  E6"

end CharacterName
end Text
end QueryCriteria
