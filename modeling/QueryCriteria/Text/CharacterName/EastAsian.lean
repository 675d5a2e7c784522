/-!
Names of the characters from U+3000 to U+FFFF, which are mostly East Asian scripts.  An
entry is a count of characters shared with the name before it and the rest of the name; an
entry with an exclamation mark gives the code point of the next name, and names without
one follow each other.
-/
namespace QueryCriteria
namespace Text
namespace CharacterName

def eastAsian : String := "
  !3000,0IDEOGRAPHIC SPACE,<COMMA,<FULL STOP,0DITTO MARK,0JAPANESE INDUSTRIAL STANDARD SYMBOL,
  0IDEOGRAPHIC ITERATION MARK,<CLOSING MARK,<NUMBER ZERO,0LEFT ANGLE BRACKET,0RIGHT ANGLE BRACKET,
  0LEFT DOUBLE ANGLE BRACKET,0RIGHT DOUBLE ANGLE BRACKET,0LEFT CORNER BRACKET,
  0RIGHT CORNER BRACKET,0LEFT WHITE CORNER BRACKET,0RIGHT WHITE CORNER BRACKET,
  0LEFT BLACK LENTICULAR BRACKET,0RIGHT BLACK LENTICULAR BRACKET,0POSTAL MARK,0GETA MARK,
  0LEFT TORTOISE SHELL BRACKET,0RIGHT TORTOISE SHELL BRACKET,0LEFT WHITE LENTICULAR BRACKET,
  0RIGHT WHITE LENTICULAR BRACKET,0LEFT WHITE TORTOISE SHELL BRACKET,
  0RIGHT WHITE TORTOISE SHELL BRACKET,0LEFT WHITE SQUARE BRACKET,0RIGHT WHITE SQUARE BRACKET,
  0WAVE DASH,0REVERSED DOUBLE PRIME QUOTATION MARK,0DOUBLE PRIME QUOTATION MARK,
  0LOW DOUBLE PRIME QUOTATION MARK,0POSTAL MARK FACE,0HANGZHOU NUMERAL ONE,ATWO,BHREE,AFOUR,BIVE,
  ASIX,BEVEN,AEIGHT,ANINE,0IDEOGRAPHIC LEVEL TONE MARK,<RISING TONE MARK,<DEPARTING TONE MARK,
  <ENTERING TONE MARK,0HANGUL SINGLE DOT TONE MARK,7DOUBLE DOT TONE MARK,0WAVY DASH,
  0VERTICAL KANA REPEAT MARK,EWITH VOICED SOUND MARK,EMARK UPPER HALF,
  EWITH VOICED SOUND MARK UPPER HALF,EMARK LOWER HALF,0CIRCLED POSTAL MARK,
  0IDEOGRAPHIC TELEGRAPH LINE FEED SEPARATOR SYMBOL,0HANGZHOU NUMERAL TEN,BWENTY,BHIRTY,
  0VERTICAL IDEOGRAPHIC ITERATION MARK,0MASU MARK,0PART ALTERNATION MARK,
  0IDEOGRAPHIC VARIATION INDICATOR,<HALF FILL SPACE,!3041,0HIRAGANA LETTER SMALL A,@A,@SMALL I,@I,
  @SMALL U,@U,@SMALL E,@E,@SMALL O,@O,@KA,@GA,@KI,@GI,@KU,@GU,@KE,@GE,@KO,@GO,@SA,@ZA,@SI,@ZI,@SU,
  @ZU,@SE,@ZE,@SO,@ZO,@TA,@DA,@TI,@DI,@SMALL TU,@TU,@DU,@TE,@DE,@TO,@DO,@NA,AI,AU,AE,AO,@HA,@BA,
  @PA,@HI,@BI,@PI,@HU,@BU,@PU,@HE,@BE,@PE,@HO,@BO,@PO,@MA,AI,AU,AE,AO,@SMALL YA,@YA,@SMALL YU,@YU,
  @SMALL YO,@YO,@RA,AI,AU,AE,AO,@SMALL WA,@WA,AI,AE,AO,@N,@VU,@SMALL KA,GE,!3099,
  0COMBINING KATAKANA-HIRAGANA VOICED SOUND MARK,LSEMI-VOICED SOUND MARK,
  0KATAKANA-HIRAGANA VOICED SOUND MARK,BSEMI-VOICED SOUND MARK,0HIRAGANA ITERATION MARK,
  9VOICED ITERATION MARK,9DIGRAPH YORI,0KATAKANA-HIRAGANA DOUBLE HYPHEN,8 LETTER SMALL A,@A,
  @SMALL I,@I,@SMALL U,@U,@SMALL E,@E,@SMALL O,@O,@KA,@GA,@KI,@GI,@KU,@GU,@KE,@GE,@KO,@GO,@SA,@ZA,
  @SI,@ZI,@SU,@ZU,@SE,@ZE,@SO,@ZO,@TA,@DA,@TI,@DI,@SMALL TU,@TU,@DU,@TE,@DE,@TO,@DO,@NA,AI,AU,AE,
  AO,@HA,@BA,@PA,@HI,@BI,@PI,@HU,@BU,@PU,@HE,@BE,@PE,@HO,@BO,@PO,@MA,AI,AU,AE,AO,@SMALL YA,@YA,
  @SMALL YU,@YU,@SMALL YO,@YO,@RA,AI,AU,AE,AO,@SMALL WA,@WA,AI,AE,AO,@N,@VU,@SMALL KA,GE,@VA,AI,
  AE,AO,9MIDDLE DOT,8-HIRAGANA PROLONGED SOUND MARK,8 ITERATION MARK,9VOICED ITERATION MARK,
  9DIGRAPH KOTO,!3105,0BOPOMOFO LETTER B,@P,@M,@F,@D,@T,@N,@L,@G,@K,@H,@J,@Q,@X,@ZH,@CH,@SH,@R,@Z,
  @C,@S,@A,@O,@E,AH,@AI,@EI,@AU,@OU,@AN,@EN,@ANG,@ENG,AR,@I,@U,@IU,@V,@NG,@GN,@IH,
  @O WITH DOT ABOVE,@NN,!3131,0HANGUL LETTER KIYEOK,>SSANGKIYEOK,>KIYEOK-SIOS,>NIEUN,C-CIEUC,
  DHIEUH,>TIKEUT,>SSANGTIKEUT,>RIEUL,C-KIYEOK,DMIEUM,DPIEUP,DSIOS,DTHIEUTH,DPHIEUPH,DHIEUH,>MIEUM,
  >PIEUP,>SSANGPIEUP,>PIEUP-SIOS,>SIOS,?SANGSIOS,>IEUNG,>CIEUC,>SSANGCIEUC,>CHIEUCH,>KHIEUKH,
  >THIEUTH,>PHIEUPH,>HIEUH,>A,?E,>YA,@E,>EO,?,>YEO,@,>O,>WA,@E,>OE,>YO,>U,>WEO,@,?I,>YU,>EU,>YI,
  >I,7FILLER,7LETTER SSANGNIEUN,>NIEUN-TIKEUT,DSIOS,DPANSIOS,>RIEUL-KIYEOK-SIOS,DTIKEUT,
  DPIEUP-SIOS,EANSIOS,DYEORINHIEUH,>MIEUM-PIEUP,DSIOS,DPANSIOS,>KAPYEOUNMIEUM,>PIEUP-KIYEOK,
  DTIKEUT,DSIOS-KIYEOK,ITIKEUT,DCIEUC,DTHIEUTH,>KAPYEOUNPIEUP,FSSANGPIEUP,>SIOS-KIYEOK,CNIEUN,
  CTIKEUT,CPIEUP,CCIEUC,>PANSIOS,>SSANGIEUNG,>YESIEUNG,F-SIOS,GPANSIOS,>KAPYEOUNPHIEUPH,
  >SSANGHIEUH,>YEORINHIEUH,?O-YA,CE,AI,?U-YEO,C,AI,>ARAEA,CE,!3190,
  0IDEOGRAPHIC ANNOTATION LINKING MARK,GREVERSE MARK,GONE MARK,GTWO MARK,HHREE MARK,GFOUR MARK,
  GTOP MARK,GMIDDLE MARK,GBOTTOM MARK,GFIRST MARK,GSECOND MARK,GTHIRD MARK,GFOURTH MARK,
  GHEAVEN MARK,GEARTH MARK,GMAN MARK,0BOPOMOFO LETTER BU,@ZI,@JI,@GU,@EE,ANN,@OO,ANN,@IR,@ANN,
  @INN,@UNN,@IM,@NGG,@AINN,AUNN,AM,@OM,ANG,@INNN,9FINAL LETTER P,FT,FK,FH,9LETTER GH,@LH,@ZY,
  9FINAL LETTER G,9LETTER GW,@KW,@OE,@AH,0CJK STROKE T,;WG,;XG,;BXG,;SW,;HZZ,=G,<P,<ZWG,;SZWG,
  ;HZT,=ZP,<PWG,<ZW,=ZZ,;N,;H,;S,;P,;SP,;D,;HZ,<G,;SZ,<WZ,<T,<G,;PD,<Z,;TN,;SZZ,<WG,;HXWG,<ZZZG,
  ;PG,;Q,!31F0,0KATAKANA LETTER SMALL KU,FSI,GU,FTO,FNU,FHA,GI,GU,GE,GO,FMU,FRA,GI,GU,GE,GO,
  0PARENTHESIZED HANGUL KIYEOK,ENIEUN,ETIKEUT,ERIEUL,EMIEUM,EPIEUP,ESIOS,EIEUNG,ECIEUC,FHIEUCH,
  EKHIEUKH,ETHIEUTH,EPHIEUPH,EHIEUH,EKIYEOK A,ENIEUN A,ETIKEUT A,ERIEUL A,EMIEUM A,EPIEUP A,
  ESIOS A,EIEUNG A,ECIEUC A,FHIEUCH A,EKHIEUKH A,ETHIEUTH A,EPHIEUPH A,EHIEUH A,ECIEUC U,
  >KOREAN CHARACTER OJEON,P HU,!3220,>IDEOGRAPH ONE,HTWO,IHREE,HFOUR,IIVE,HSIX,IEVEN,HEIGHT,HNINE,
  HTEN,HMOON,HFIRE,HWATER,IOOD,HMETAL,HEARTH,HSUN,ITOCK,HHAVE,HSOCIETY,HNAME,HSPECIAL,HFINANCIAL,
  HCONGRATULATION,HLABOR,HREPRESENT,HCALL,HSTUDY,IUPERVISE,HENTERPRISE,HRESOURCE,HALLIANCE,
  HFESTIVAL,HREST,HSELF,HREACH,0CIRCLED IDEOGRAPH QUESTION,BKINDERGARTEN,BSCHOOL,BKOTO,
  8NUMBER TEN ON BLACK SQUARE,@WENTY ON BLACK SQUARE,@HIRTY ON BLACK SQUARE,
  ?FORTY ON BLACK SQUARE,@IFTY ON BLACK SQUARE,?SIXTY ON BLACK SQUARE,@EVENTY ON BLACK SQUARE,
  ?EIGHTY ON BLACK SQUARE,0PARTNERSHIP SIGN,0CIRCLED NUMBER TWENTY ONE,FTWO,GHREE,FFOUR,GIVE,FSIX,
  GEVEN,FEIGHT,FNINE,@HIRTY,E ONE,FTWO,GHREE,FFOUR,GIVE,8HANGUL KIYEOK,?NIEUN,?TIKEUT,?RIEUL,
  ?MIEUM,?PIEUP,?SIOS,?IEUNG,?CIEUC,@HIEUCH,?KHIEUKH,?THIEUTH,?PHIEUPH,?HIEUH,?KIYEOK A,?NIEUN A,
  ?TIKEUT A,?RIEUL A,?MIEUM A,?PIEUP A,?SIOS A,?IEUNG A,?CIEUC A,@HIEUCH A,?KHIEUKH A,?THIEUTH A,
  ?PHIEUPH A,?HIEUH A,8KOREAN CHARACTER CHAMKO,IJUEUI,8HANGUL IEUNG U,0KOREAN STANDARD SYMBOL,
  0CIRCLED IDEOGRAPH ONE,BTWO,CHREE,BFOUR,CIVE,BSIX,CEVEN,BEIGHT,BNINE,BTEN,BMOON,BFIRE,BWATER,
  COOD,BMETAL,BEARTH,BSUN,CTOCK,BHAVE,BSOCIETY,BNAME,BSPECIAL,BFINANCIAL,BCONGRATULATION,BLABOR,
  BSECRET,BMALE,BFEMALE,BSUITABLE,BEXCELLENT,BPRINT,BATTENTION,BITEM,BREST,BCOPY,DRRECT,BHIGH,
  BCENTRE,BLOW,CEFT,BRIGHT,BMEDICINE,BRELIGION,BSTUDY,CUPERVISE,BENTERPRISE,BRESOURCE,BALLIANCE,
  BNIGHT,8NUMBER THIRTY SIX,GEVEN,FEIGHT,FNINE,?FORTY,D ONE,ETWO,FHREE,EFOUR,FIVE,ESIX,FEVEN,
  EEIGHT,ENINE,@IFTY,0IDEOGRAPHIC TELEGRAPH SYMBOL FOR JANUARY,QFEBRUARY,QMARCH,QAPRIL,QMAY,QJUNE,
  SLY,QAUGUST,QSEPTEMBER,QOCTOBER,QNOVEMBER,QDECEMBER,0SQUARE HG,7ERG,8V,0LIMITED LIABILITY SIGN,
  0CIRCLED KATAKANA A,AI,AU,AE,AO,AKA,BI,BU,BE,BO,ASA,BI,BU,BE,BO,ATA,BI,BU,BE,BO,ANA,BI,BU,BE,BO,
  AHA,BI,BU,BE,BO,AMA,BI,BU,BE,BO,AYA,BU,BO,ARA,BI,BU,BE,BO,AWA,BI,BE,BO,0SQUARE ERA NAME REIWA,
  7APAATO,8RUHUA,8NPEA,8ARU,7ININGU,9TI,7UON,7ESUKUUDO,8EKAA,7ONSU,8OMU,7KAIRI,9RATTO,:ORII,
  7GARON,9NMA,8IGA,9NII,7KYURII,7GIRUDAA,7KIRO,;GURAMU,;MEETORU,;WATTO,7GURAMU,=TON,7KURUZEIRO,
  :OONE,8EESU,8ORUNA,9OPO,7SAIKURU,9NTIIMU,8IRINGU,8ENTI,;O,7DAASU,8ESI,8ORU,7TON,7NANO,8OTTO,
  7HAITU,7PAASENTO,:TU,7BAARERU,7PIASUTORU,9KURU,:O,7BIRU,7HUARADDO,9IITO,7BUSSYERU,7HURAN,
  8EKUTAARU,7PESO,9NIHI,7HERUTU,7PENSU,9EZI,7BEETA,7POINTO,7BORUTO,7HON,7PONDO,7HOORU,:N,7MAIKURO,
  :RU,9HHA,9RUKU,9NSYON,8IKURON,9RI,;BAARU,8EGA,;TON,9ETORU,7YAADO,:RU,8UAN,7RITTORU,9RA,8UPII,
  9UBURU,8EMU,9NTOGEN,7WATTO,0IDEOGRAPHIC TELEGRAPH SYMBOL FOR HOUR ZERO,VONE,VTWO,WHREE,VFOUR,
  WIVE,VSIX,WEVEN,VEIGHT,VNINE,VTEN,VELEVEN,VTWELVE,WHIRTEEN,VFOURTEEN,WIFTEEN,VSIXTEEN,WEVENTEEN,
  VEIGHTEEN,VNINETEEN,VTWENTY,[Y-ONE,[Y-TWO,[Y-THREE,[Y-FOUR,0SQUARE HPA,7DA,7AU,7BAR,7OV,7PC,7DM,
  9 SQUARED,:CUBED,7IU,7ERA NAME HEISEI,@SYOUWA,@TAISYOU,@MEIZI,7CORPORATION,7PA AMPS,7NA,7MU A,
  8A,7KA,8B,7MB,7GB,7CAL,7KCAL,7PF,7NF,7MU F,:G,8G,7KG,7HZ,7KHZ,7MHZ,7GHZ,7THZ,7MU L,8L,7DL,7KL,
  7FM,7NM,7MU M,8M,7CM,7KM,7MM SQUARED,7CM SQUARED,7M SQUARED,7KM SQUARED,7MM CUBED,7CM CUBED,
  7M CUBED,7KM CUBED,7M OVER S,? SQUARED,7PA,7KPA,7MPA,7GPA,7RAD,: OVER S,A SQUARED,7PS,7NS,7MU S,
  8S,7PV,7NV,7MU V,8V,7KV,7MV MEGA,7PW,7NW,7MU W,8W,7KW,7MW MEGA,7K OHM,7M OHM,7AM,7BQ,7CC,8D,
  8 OVER KG,8O,7DB,7GY,7HA,8P,7IN,7KK,8M CAPITAL,8T,7LM,8N,8OG,8X,7MB SMALL,8IL,8OL,7PH,8M,8PM,8R,
  7SR,8V,7WB,7V OVER M,7A OVER M,0IDEOGRAPHIC TELEGRAPH SYMBOL FOR DAY ONE,UTWO,VHREE,UFOUR,VIVE,
  USIX,VEVEN,UEIGHT,UNINE,UTEN,UELEVEN,UTWELVE,VHIRTEEN,UFOURTEEN,VIFTEEN,USIXTEEN,VEVENTEEN,
  UEIGHTEEN,UNINETEEN,UTWENTY,[-ONE,[-TWO,[-THREE,[-FOUR,[-FIVE,[-SIX,[-SEVEN,[-EIGHT,[-NINE,
  VHIRTY,[-ONE,0SQUARE GAL,!4DC0,0HEXAGRAM FOR THE CREATIVE HEAVEN,ARECEPTIVE EARTH,
  =DIFFICULTY AT THE BEGINNING,=YOUTHFUL FOLLY,=WAITING,=CONFLICT,=THE ARMY,=HOLDING TOGETHER,
  =SMALL TAMING,=TREADING,=PEACE,=STANDSTILL,=FELLOWSHIP,=GREAT POSSESSION,=MODESTY,=ENTHUSIASM,
  =FOLLOWING,=WORK ON THE DECAYED,=APPROACH,=CONTEMPLATION,=BITING THROUGH,=GRACE,
  =SPLITTING APART,=RETURN,=INNOCENCE,=GREAT TAMING,=MOUTH CORNERS,=GREAT PREPONDERANCE,
  =THE ABYSMAL WATER,ACLINGING FIRE,=INFLUENCE,=DURATION,=RETREAT,=GREAT POWER,=PROGRESS,
  =DARKENING OF THE LIGHT,=THE FAMILY,=OPPOSITION,>BSTRUCTION,=DELIVERANCE,?CREASE,=INCREASE,
  =BREAKTHROUGH,=COMING TO MEET,=GATHERING TOGETHER,=PUSHING UPWARD,=OPPRESSION,=THE WELL,
  =REVOLUTION,=THE CAULDRON,AAROUSING THUNDER,AKEEPING STILL MOUNTAIN,=DEVELOPMENT,
  =THE MARRYING MAIDEN,=ABUNDANCE,=THE WANDERER,AGENTLE WIND,AJOYOUS LAKE,=DISPERSION,=LIMITATION,
  =INNER TRUTH,=SMALL PREPONDERANCE,=AFTER COMPLETION,=BEFORE COMPLETION,!A000,0YI SYLLABLE IT,=X,
  =,=P,=ET,>X,>,>P,<AT,=X,=,=P,<UOX,>,>P,<OT,=X,=,=P,<EX,=,<WU,<BIT,>X,>,>P,>ET,?X,?,?P,=AT,>X,>,
  >P,=UOX,?,?P,=OT,>X,>,>P,=EX,>,>P,=UT,>X,>,>P,>RX,?,=YT,>X,>,>P,>RX,?,<PIT,>X,>,>P,>EX,?,?P,=AT,
  >X,>,>P,=UOX,?,?P,=OT,>X,>,>P,=UT,>X,>,>P,>RX,?,=YT,>X,>,>P,>RX,?,<BBIT,?X,?,?P,?ET,@X,@,@P,>AT,
  ?X,?,?P,>UOX,@,@P,>OT,?X,?,?P,>EX,?,?P,>UT,?X,?,?P,?RX,@,>YT,?X,?,?P,<NBIT,?X,?,?P,?EX,@,@P,>AT,
  ?X,?,?P,>OT,?X,?,?P,>UT,?X,?,?P,?RX,@,>YT,?X,?,?P,?RX,@,<HMIT,?X,?,?P,?EX,@,@P,>AT,?X,?,?P,>UOX,
  @,@P,>OT,?X,?,?P,>UT,?X,?,?P,?RX,@,>YX,?,?P,?RX,@,<MIT,>X,>,>P,>EX,?,?P,=AT,>X,>,>P,=UOT,?X,?,
  ?P,=OT,>X,>,>P,=EX,>,=UT,>X,>,>P,>RX,?,=YT,>X,>,>P,<FIT,>X,>,>P,=AT,>X,>,>P,=OX,>,>P,=UT,>X,>,
  >P,>RX,?,=YT,>X,>,>P,<VIT,>X,>,>P,>ET,?X,?,?P,=AT,>X,>,>P,=OT,>X,>,>P,=EX,>P,=UT,>X,>,>P,>RX,?,
  =YT,>X,>,>P,>RX,?,<DIT,>X,>,>P,>EX,?,?P,=AT,>X,>,>P,=UOX,?,=OT,>X,>,>P,=EX,>,>P,=UT,>X,>,>P,>RX,
  ?,<TIT,>X,>,>P,>EX,?,?P,=AT,>X,>,>P,=UOT,?X,?,?P,=OT,>X,>,>P,=EX,>,>P,=UT,>X,>,>P,>RX,?,<DDIT,
  ?X,?,?P,?EX,@,@P,>AT,?X,?,?P,>UOX,@,@P,>OT,?X,?,?P,>EX,?,?P,>UT,?X,?,?P,?RX,@,<NDIT,?X,?,?P,?EX,
  @,>AT,?X,?,?P,>OT,?X,?,?P,>EX,?,?P,>UT,?X,?,?P,?RX,@,<HNIT,?X,?,?P,?ET,@X,@,@P,>AT,?X,?,?P,>UOX,
  @,>OT,?X,?P,>EX,?,?P,>UT,<NIT,>X,>,>P,>EX,?,?P,=AX,>,>P,=UOX,?,?P,=OT,>X,>,>P,=EX,>,>P,=UT,>X,>,
  >P,>RX,?,<HLIT,?X,?,?P,?EX,@,@P,>AT,?X,?,?P,>UOX,@,@P,>OX,?,?P,>EX,?,?P,>UT,?X,?,?P,?RX,@,>YT,
  ?X,?,?P,?RX,@,<LIT,>X,>,>P,>ET,?X,?,?P,=AT,>X,>,>P,=UOT,?X,?,?P,=OT,>X,>,>P,=EX,>,>P,=UT,>X,>,
  >P,>RX,?,=YT,>X,>,>P,>RX,?,<GIT,>X,>,>P,>ET,?X,?,?P,=AT,>X,>,>P,=UOT,?X,?,?P,=OT,>X,>,>P,=ET,>X,
  >,>P,=UT,>X,>,>P,>RX,?,<KIT,>X,>,>P,>EX,?,?P,=AT,>X,>,>P,=UOX,?,?P,=OT,>X,>,>P,=ET,>X,>,>P,=UT,
  >X,>,>P,>RX,?,<GGIT,?X,?,?EX,@,@P,>AT,?X,?,?P,>UOT,@X,@,@P,>OT,?X,?,?P,>ET,?X,?,?P,>UT,?X,?,?P,
  ?RX,@,<MGIEX,@,>AT,?X,?,?P,>UOX,@,@P,>OT,?X,?,?P,>EX,?,?P,>UT,?X,?,?P,?RX,@,<HXIT,?X,?,?P,?ET,
  @X,@,@P,>AT,?X,?,?P,>UOT,@X,@,@P,>OT,?X,?,?P,>EX,?,?P,<NGIEX,@,@P,>AT,?X,?,?P,>UOT,@X,@,>OT,?X,
  ?,?P,>EX,?,?P,<HIT,>EX,?,=AT,>X,>,>P,=UOT,?X,?,?P,=OT,>X,>,>P,=EX,>,>P,<WAT,>X,>,>P,=UOX,?,?P,
  =OX,>,>P,=EX,>,>P,<ZIT,>X,>,>P,>EX,?,?P,=AT,>X,>,>P,=UOX,?,?P,=OT,>X,>,>P,=EX,>,>P,=UT,>X,>,>P,
  >RX,?,=YT,>X,>,>P,>RX,?,<CIT,>X,>,>P,>ET,?X,?,?P,=AT,>X,>,>P,=UOX,?,?P,=OT,>X,>,>P,=EX,>,>P,=UT,
  >X,>,>P,>RX,?,=YT,>X,>,>P,>RX,?,<ZZIT,?X,?,?P,?ET,@X,@,@P,>AT,?X,?,?P,>OX,?,?P,>EX,?,?P,>UX,?,
  ?P,?RX,@,>YT,?X,?,?P,?RX,@,<NZIT,?X,?,?P,?EX,@,@P,>AT,?X,?,?P,>UOX,@,>OX,?P,>EX,?,>UX,?,?P,?RX,
  @,>YT,?X,?,?P,?RX,@,<SIT,>X,>,>P,>EX,?,?P,=AT,>X,>,>P,=UOX,?,?P,=OT,>X,>,>P,=EX,>,>P,=UT,>X,>,
  >P,>RX,?,=YT,>X,>,>P,>RX,?,=SIT,?X,?,?P,?EX,@,@P,>AT,?X,?,?P,>OT,?X,?,?P,>EX,?,?P,>UT,?X,?,?P,
  >YT,?X,?,?P,?RX,@,<ZHAT,?X,?,?P,>UOX,@,@P,>OT,?X,?,?P,>ET,?X,?,?P,>UT,?X,?,?P,?RX,@,>YT,?X,?,?P,
  ?RX,@,<CHAT,?X,?,?P,>UOT,@X,@,@P,>OT,?X,?,?P,>ET,?X,?,?P,>UX,?,?P,?RX,@,>YT,?X,?,?P,?RX,@,<RRAX,
  ?,>UOX,@,>OT,?X,?,?P,>ET,?X,?,?P,>UT,?X,?,?P,?RX,@,>YT,?X,?,?P,?RX,@,<NRAT,?X,?,?P,>OX,?,?P,>ET,
  ?X,?,?P,>UT,?X,?,?P,?RX,@,>YT,?X,?,?P,?RX,@,<SHAT,?X,?,?P,>UOX,@,@P,>OT,?X,?,?P,>ET,?X,?,?P,>UT,
  ?X,?,?P,?RX,@,>YT,?X,?,?P,?RX,@,<RAT,>X,>,>P,=UOX,?,?P,=OT,>X,>,>P,=EX,>,>P,=UT,>X,>,>P,>RX,?,
  =YT,>X,>,>P,>RX,?,<JIT,>X,>,>P,>ET,?X,?,?P,=UOT,?X,?,?P,=OT,>X,>,>P,=UT,>X,>,>P,>RX,?,=YT,>X,>,
  >P,>RX,?,<QIT,>X,>,>P,>ET,?X,?,?P,=UOT,?X,?,?P,=OT,>X,>,>P,=UT,>X,>,>P,>RX,?,=YT,>X,>,>P,>RX,?,
  <JJIT,?X,?,?P,?ET,@X,@,@P,>UOX,@,@P,>OT,?X,?,?P,>UT,?X,?,?P,?RX,@,>YT,?X,?,?P,<NJIT,?X,?,?P,?ET,
  @X,@,@P,>UOX,@,>OT,?X,?,?P,>UX,?,?P,?RX,@,>YT,?X,?,?P,?RX,@,=YIT,?X,?,?P,?ET,@X,@,@P,>UOX,@,@P,
  >OT,?X,?,?P,>UT,?X,?,?P,<XIT,>X,>,>P,>ET,?X,?,?P,=UOX,?,=OT,>X,>,>P,=YT,>X,>,>P,>RX,?,<YIT,>X,>,
  >P,>ET,?X,?,?P,=UOT,?X,?,?P,=OT,>X,>,>P,=UT,>X,>,>P,>RX,?,=YT,>X,>,>P,>RX,?,!A490,3RADICAL QOT,
  ;LI,;KIT,;NYIP,;CYP,;SSI,;GGOP,<EP,;MI,;HXIT,;LYR,;BBUT,;MOP,;YO,;PUT,;HXUO,;TAT,;GA,;ZUP,;CYT,
  ;DDUR,;BUR,;GGUO,;NYOP,;TU,;OP,;JJUT,;ZOT,;PYT,;HMO,;YIT,;VUR,;SHY,;VEP,;ZA,;JO,;NZUP,;JJY,;GOT,
  ;JJIE,;WO,;DU,;SHUR,;LIE,;CY,<UOP,<IP,;HXOP,;SHAT,;ZUR,;SHOP,;CHE,;ZZIET,;NBIE,;KE,!A4D0,
  0LISU LETTER BA,<PA,=HA,<DA,<TA,=HA,<GA,<KA,=HA,<JA,<CA,=HA,<DZA,<TSA,>HA,<MA,<NA,<LA,<SA,<ZHA,
  =A,<NGA,<HA,<XA,<HHA,<FA,<WA,<SHA,<YA,<GHA,<A,=E,<E,=U,<I,<O,<U,=E,=H,<OE,<TONE MYA TI,ANA PO,
  AMYA CYA,EBO,ENA,EJEU,5PUNCTUATION COMMA,AFULL STOP,0VAI SYLLABLE EE,?N,=HEE,=WEE,@N,=PEE,=BHEE,
  >EE,=MBEE,=KPEE,=MGBEE,=GBEE,=FEE,=VEE,=TEE,>HEE,=DHEE,?HEE,=LEE,=REE,=DEE,=NDEE,=SEE,>HEE,=ZEE,
  >HEE,=CEE,=JEE,=NJEE,=YEE,=KEE,=NGGEE,=GEE,=MEE,=NEE,>YEE,=I,>N,=HI,?N,=WI,?N,=PI,=BHI,>I,=MBI,
  =KPI,=MGBI,=GBI,=FI,=VI,=TI,>HI,=DHI,?HI,=LI,=RI,=DI,=NDI,=SI,>HI,=ZI,>HI,=CI,=JI,=NJI,=YI,=KI,
  =NGGI,=GI,=MI,=NI,>YI,=A,>N,=NGAN,=HA,?N,=WA,?N,=PA,=BHA,>A,=MBA,=KPA,@N,=MGBA,=GBA,=FA,=VA,=TA,
  >HA,=DHA,?HA,=LA,=RA,=DA,=NDA,=SA,>HA,=ZA,>HA,=CA,=JA,=NJA,=YA,=KA,?N,=NGGA,=GA,=MA,=NA,>YA,=OO,
  ?N,=HOO,=WOO,@N,=POO,=BHOO,>OO,=MBOO,=KPOO,=MGBOO,=GBOO,=FOO,=VOO,=TOO,>HOO,=DHOO,?HOO,=LOO,
  =ROO,=DOO,=NDOO,=SOO,>HOO,=ZOO,>HOO,=COO,=JOO,=NJOO,=YOO,=KOO,=NGGOO,=GOO,=MOO,=NOO,>YOO,=U,>N,
  =HU,?N,=WU,?N,=PU,=BHU,>U,=MBU,=KPU,=MGBU,=GBU,=FU,=VU,=TU,>HU,=DHU,?HU,=LU,=RU,=DU,=NDU,=SU,
  >HU,=ZU,>HU,=CU,=JU,=NJU,=YU,=KU,=NGGU,=GU,=MU,=NU,>YU,=O,>N,=NGON,=HO,?N,=WO,?N,=PO,=BHO,>O,
  =MBO,=KPO,=MGBO,=GBO,@N,=FO,=VO,=TO,>HO,=DHO,?HO,=LO,=RO,=DO,=NDO,=SO,>HO,=ZO,>HO,=CO,=JO,=NJO,
  =YO,=KO,=NGGO,=GO,=MO,=NO,>YO,=E,>N,=NGEN,=HE,?N,=WE,?N,=PE,=BHE,>E,=MBE,=KPE,@N,=MGBE,=GBE,@N,
  =FE,=VE,=TE,>HE,=DHE,?HE,=LE,=RE,=DE,=NDE,=SE,>HE,=ZE,>HE,=CE,=JE,=NJE,=YE,=KE,=NGGE,AN,=GE,?N,
  =ME,=NE,>YE,>G,=LENGTHENER,4COMMA,4FULL STOP,4QUESTION MARK,4SYLLABLE NDOLE FA,CKA,CSOO,
  6MBOL FEENG,;KEENG,;TING,;NII,;BANG,;FAA,;TAA,;DANG,<OONG,;KUNG,;TONG,;DO-O,;JONG,4DIGIT ZERO,
  :ONE,:TWO,;HREE,:FOUR,;IVE,:SIX,;EVEN,:EIGHT,:NINE,4SYLLABLE NDOLE MA,CDO,!A640,
  0CYRILLIC CAPITAL LETTER ZEMLYA,9SMALL LETTER ZEMLYA,9CAPITAL LETTER DZELO,9SMALL LETTER DZELO,
  9CAPITAL LETTER REVERSED DZE,9SMALL LETTER REVERSED DZE,9CAPITAL LETTER IOTA,9SMALL LETTER IOTA,
  9CAPITAL LETTER DJERV,9SMALL LETTER DJERV,9CAPITAL LETTER MONOGRAPH UK,
  9SMALL LETTER MONOGRAPH UK,9CAPITAL LETTER BROAD OMEGA,9SMALL LETTER BROAD OMEGA,
  9CAPITAL LETTER NEUTRAL YER,9SMALL LETTER NEUTRAL YER,9CAPITAL LETTER YERU WITH BACK YER,
  9SMALL LETTER YERU WITH BACK YER,9CAPITAL LETTER IOTIFIED YAT,9SMALL LETTER IOTIFIED YAT,
  9CAPITAL LETTER REVERSED YU,9SMALL LETTER REVERSED YU,9CAPITAL LETTER IOTIFIED A,
  9SMALL LETTER IOTIFIED A,9CAPITAL LETTER CLOSED LITTLE YUS,9SMALL LETTER CLOSED LITTLE YUS,
  9CAPITAL LETTER BLENDED YUS,9SMALL LETTER BLENDED YUS,
  9CAPITAL LETTER IOTIFIED CLOSED LITTLE YUS,9SMALL LETTER IOTIFIED CLOSED LITTLE YUS,
  9CAPITAL LETTER YN,9SMALL LETTER YN,9CAPITAL LETTER REVERSED TSE,9SMALL LETTER REVERSED TSE,
  9CAPITAL LETTER SOFT DE,9SMALL LETTER SOFT DE,9CAPITAL LETTER SOFT EL,9SMALL LETTER SOFT EL,
  9CAPITAL LETTER SOFT EM,9SMALL LETTER SOFT EM,9CAPITAL LETTER MONOCULAR O,
  9SMALL LETTER MONOCULAR O,9CAPITAL LETTER BINOCULAR O,9SMALL LETTER BINOCULAR O,
  9CAPITAL LETTER DOUBLE MONOCULAR O,9SMALL LETTER DOUBLE MONOCULAR O,9LETTER MULTIOCULAR O,
  1OMBINING CYRILLIC VZMET,CTEN MILLIONS SIGN,CHUNDRED MILLIONS SIGN,CTHOUSAND MILLIONS SIGN,
  0SLAVONIC ASTERISK,0COMBINING CYRILLIC LETTER UKRAINIAN IE,JI,JYI,JU,JHARD SIGN,JYERU,
  JSOFT SIGN,JOMEGA,CKAVYKA,CPAYEROK,1YRILLIC KAVYKA,9PAYEROK,9CAPITAL LETTER DWE,
  9SMALL LETTER DWE,9CAPITAL LETTER DZWE,9SMALL LETTER DZWE,9CAPITAL LETTER ZHWE,
  9SMALL LETTER ZHWE,9CAPITAL LETTER CCHE,9SMALL LETTER CCHE,9CAPITAL LETTER DZZE,
  9SMALL LETTER DZZE,9CAPITAL LETTER TE WITH MIDDLE HOOK,9SMALL LETTER TE WITH MIDDLE HOOK,
  9CAPITAL LETTER TWE,9SMALL LETTER TWE,9CAPITAL LETTER TSWE,9SMALL LETTER TSWE,
  9CAPITAL LETTER TSSE,9SMALL LETTER TSSE,9CAPITAL LETTER TCHE,9SMALL LETTER TCHE,
  9CAPITAL LETTER HWE,9SMALL LETTER HWE,9CAPITAL LETTER SHWE,9SMALL LETTER SHWE,
  9CAPITAL LETTER DOUBLE O,9SMALL LETTER DOUBLE O,9CAPITAL LETTER CROSSED O,
  9SMALL LETTER CROSSED O,0MODIFIER LETTER CYRILLIC HARD SIGN,ISOFT SIGN,
  0COMBINING CYRILLIC LETTER EF,JIOTIFIED E,0BAMUM LETTER A,=KA,=U,=KU,=EE,=REE,=TAE,=O,=NYI,=I,
  =LA,=PA,=RII,?EE,=LEEEE,=MEEEE,=TAA,=NDAA,>JAEM,=M,=SUU,=MU,=SHII,>I,>HEUX,>EUX,=KYEE,>ET,=NUAE,
  ?,>JUAE,=YOQ,=SHU,=YUQ,>A,=NSHA,=KEUX,=PEUX,=NJEE,>TEE,=PUE,=WUE,=PEE,=FEE,=RU,=LU,=MI,=NI,
  =REUX,>AE,=KEN,=NGKWAEN,?GA,?A,=SHO,=PUAE,=FU,>OM,=WA,=NA,=LI,=PI,=LOQ,=KO,=MBEN,=REN,=MEN,>A,
  =TI,=KI,=MO,>BAA,=TET,=KPA,=TEN,=NTUU,=SAMBA,=FAAMAE,=KOVUU,?GHOM,6COMBINING MARK KOQNDON,
  ETUKWENTIS,6NJAEMLI,6FULL STOP,6COLON,8MMA,6SEMICOLON,6QUESTION MARK,!A700,
  0MODIFIER LETTER CHINESE TONE YIN PING,NANG PING,NIN SHANG,NANG SHANG,NIN QU,NANG QU,NIN RU,
  NANG RU,@EXTRA-HIGH DOTTED TONE BAR,@HIGH DOTTED TONE BAR,@MID DOTTED TONE BAR,
  @LOW DOTTED TONE BAR,@EXTRA-LOW DOTTED TONE BAR,FHIGH DOTTED LEFT-STEM TONE BAR,
  @HIGH DOTTED LEFT-STEM TONE BAR,@MID DOTTED LEFT-STEM TONE BAR,@LOW DOTTED LEFT-STEM TONE BAR,
  @EXTRA-LOW DOTTED LEFT-STEM TONE BAR,FHIGH LEFT-STEM TONE BAR,@HIGH LEFT-STEM TONE BAR,
  @MID LEFT-STEM TONE BAR,@LOW LEFT-STEM TONE BAR,@EXTRA-LOW LEFT-STEM TONE BAR,@DOT VERTICAL BAR,
  DSLASH,DHORIZONTAL BAR,@LOWER RIGHT CORNER ANGLE,@RAISED UP ARROW,GDOWN ARROW,GEXCLAMATION MARK,
  GINVERTED EXCLAMATION MARK,@LOW INVERTED EXCLAMATION MARK,@STRESS AND HIGH TONE,KLOW TONE,
  0LATIN CAPITAL LETTER EGYPTOLOGICAL ALEF,6SMALL LETTER EGYPTOLOGICAL ALEF,
  6CAPITAL LETTER EGYPTOLOGICAL AIN,6SMALL LETTER EGYPTOLOGICAL AIN,6CAPITAL LETTER HENG,
  6SMALL LETTER HENG,6CAPITAL LETTER TZ,6SMALL LETTER TZ,6CAPITAL LETTER TRESILLO,
  6SMALL LETTER TRESILLO,6CAPITAL LETTER CUATRILLO,6SMALL LETTER CUATRILLO,
  6CAPITAL LETTER CUATRILLO WITH COMMA,6SMALL LETTER CUATRILLO WITH COMMA,6LETTER SMALL CAPITAL F,
  KS,6CAPITAL LETTER AA,6SMALL LETTER AA,6CAPITAL LETTER AO,6SMALL LETTER AO,6CAPITAL LETTER AU,
  6SMALL LETTER AU,6CAPITAL LETTER AV,6SMALL LETTER AV,6CAPITAL LETTER AV WITH HORIZONTAL BAR,
  6SMALL LETTER AV WITH HORIZONTAL BAR,6CAPITAL LETTER AY,6SMALL LETTER AY,
  6CAPITAL LETTER REVERSED C WITH DOT,6SMALL LETTER REVERSED C WITH DOT,
  6CAPITAL LETTER K WITH STROKE,6SMALL LETTER K WITH STROKE,
  6CAPITAL LETTER K WITH DIAGONAL STROKE,6SMALL LETTER K WITH DIAGONAL STROKE,
  6CAPITAL LETTER K WITH STROKE AND DIAGONAL STROKE,
  6SMALL LETTER K WITH STROKE AND DIAGONAL STROKE,6CAPITAL LETTER BROKEN L,6SMALL LETTER BROKEN L,
  6CAPITAL LETTER L WITH HIGH STROKE,6SMALL LETTER L WITH HIGH STROKE,
  6CAPITAL LETTER O WITH LONG STROKE OVERLAY,6SMALL LETTER O WITH LONG STROKE OVERLAY,
  6CAPITAL LETTER O WITH LOOP,6SMALL LETTER O WITH LOOP,6CAPITAL LETTER OO,6SMALL LETTER OO,
  6CAPITAL LETTER P WITH STROKE THROUGH DESCENDER,6SMALL LETTER P WITH STROKE THROUGH DESCENDER,
  6CAPITAL LETTER P WITH FLOURISH,6SMALL LETTER P WITH FLOURISH,
  6CAPITAL LETTER P WITH SQUIRREL TAIL,6SMALL LETTER P WITH SQUIRREL TAIL,
  6CAPITAL LETTER Q WITH STROKE THROUGH DESCENDER,6SMALL LETTER Q WITH STROKE THROUGH DESCENDER,
  6CAPITAL LETTER Q WITH DIAGONAL STROKE,6SMALL LETTER Q WITH DIAGONAL STROKE,
  6CAPITAL LETTER R ROTUNDA,6SMALL LETTER R ROTUNDA,6CAPITAL LETTER RUM ROTUNDA,
  6SMALL LETTER RUM ROTUNDA,6CAPITAL LETTER V WITH DIAGONAL STROKE,
  6SMALL LETTER V WITH DIAGONAL STROKE,6CAPITAL LETTER VY,6SMALL LETTER VY,
  6CAPITAL LETTER VISIGOTHIC Z,6SMALL LETTER VISIGOTHIC Z,6CAPITAL LETTER THORN WITH STROKE,
  6SMALL LETTER THORN WITH STROKE,6CAPITAL LETTER THORN WITH STROKE THROUGH DESCENDER,
  6SMALL LETTER THORN WITH STROKE THROUGH DESCENDER,6CAPITAL LETTER VEND,6SMALL LETTER VEND,
  6CAPITAL LETTER ET,6SMALL LETTER ET,6CAPITAL LETTER IS,6SMALL LETTER IS,6CAPITAL LETTER CON,
  6SMALL LETTER CON,0MODIFIER LETTER US,0LATIN SMALL LETTER DUM,CLUM,CMUM,CNUM,CRUM,
  6LETTER SMALL CAPITAL RUM,6SMALL LETTER TUM,CUM,6CAPITAL LETTER INSULAR D,
  6SMALL LETTER INSULAR D,6CAPITAL LETTER INSULAR F,6SMALL LETTER INSULAR F,
  6CAPITAL LETTER INSULAR G,ETURNED INSULAR G,6SMALL LETTER TURNED INSULAR G,
  6CAPITAL LETTER TURNED L,6SMALL LETTER TURNED L,6CAPITAL LETTER INSULAR R,
  6SMALL LETTER INSULAR R,6CAPITAL LETTER INSULAR S,6SMALL LETTER INSULAR S,
  6CAPITAL LETTER INSULAR T,6SMALL LETTER INSULAR T,0MODIFIER LETTER LOW CIRCUMFLEX ACCENT,@COLON,
  @SHORT EQUALS SIGN,0LATIN CAPITAL LETTER SALTILLO,6SMALL LETTER SALTILLO,
  6CAPITAL LETTER TURNED H,6SMALL LETTER L WITH RETROFLEX HOOK AND BELT,6LETTER SINOLOGICAL DOT,
  6CAPITAL LETTER N WITH DESCENDER,6SMALL LETTER N WITH DESCENDER,6CAPITAL LETTER C WITH BAR,
  6SMALL LETTER C WITH BAR,JPALATAL HOOK,CH WITH PALATAL HOOK,6CAPITAL LETTER B WITH FLOURISH,
  6SMALL LETTER B WITH FLOURISH,6CAPITAL LETTER F WITH STROKE,6SMALL LETTER F WITH STROKE,
  6CAPITAL LETTER VOLAPUK AE,6SMALL LETTER VOLAPUK AE,6CAPITAL LETTER VOLAPUK OE,
  6SMALL LETTER VOLAPUK OE,6CAPITAL LETTER VOLAPUK UE,6SMALL LETTER VOLAPUK UE,
  6CAPITAL LETTER G WITH OBLIQUE STROKE,6SMALL LETTER G WITH OBLIQUE STROKE,
  6CAPITAL LETTER K WITH OBLIQUE STROKE,6SMALL LETTER K WITH OBLIQUE STROKE,
  6CAPITAL LETTER N WITH OBLIQUE STROKE,6SMALL LETTER N WITH OBLIQUE STROKE,
  6CAPITAL LETTER R WITH OBLIQUE STROKE,6SMALL LETTER R WITH OBLIQUE STROKE,
  6CAPITAL LETTER S WITH OBLIQUE STROKE,6SMALL LETTER S WITH OBLIQUE STROKE,
  6CAPITAL LETTER H WITH HOOK,EREVERSED OPEN E,ESCRIPT G,EL WITH BELT,ESMALL CAPITAL I,
  6LETTER SMALL CAPITAL Q,6CAPITAL LETTER TURNED K,LT,EJ WITH CROSSED-TAIL,ECHI,EBETA,
  6SMALL LETTER BETA,6CAPITAL LETTER OMEGA,6SMALL LETTER OMEGA,6CAPITAL LETTER U WITH STROKE,
  6SMALL LETTER U WITH STROKE,6CAPITAL LETTER GLOTTAL A,6SMALL LETTER GLOTTAL A,
  6CAPITAL LETTER GLOTTAL I,6SMALL LETTER GLOTTAL I,6CAPITAL LETTER GLOTTAL U,
  6SMALL LETTER GLOTTAL U,6CAPITAL LETTER OLD POLISH O,6SMALL LETTER OLD POLISH O,
  6CAPITAL LETTER ANGLICANA W,6SMALL LETTER ANGLICANA W,6CAPITAL LETTER C WITH PALATAL HOOK,
  ES WITH HOOK,EZ WITH PALATAL HOOK,ED WITH SHORT STROKE OVERLAY,
  6SMALL LETTER D WITH SHORT STROKE OVERLAY,6CAPITAL LETTER S WITH SHORT STROKE OVERLAY,
  6SMALL LETTER S WITH SHORT STROKE OVERLAY,!A7D0,6CAPITAL LETTER CLOSED INSULAR G,
  6SMALL LETTER CLOSED INSULAR G,!A7D3,CDOUBLE THORN,!A7D5,JWYNN,6CAPITAL LETTER MIDDLE SCOTS S,
  6SMALL LETTER MIDDLE SCOTS S,6CAPITAL LETTER SIGMOID S,6SMALL LETTER SIGMOID S,!A7F2,
  0MODIFIER LETTER CAPITAL C,HF,HQ,0LATIN CAPITAL LETTER REVERSED HALF H,
  6SMALL LETTER REVERSED HALF H,6EPIGRAPHIC LETTER SIDEWAYS I,
  0MODIFIER LETTER CAPITAL H WITH STROKE,@SMALL LIGATURE OE,0LATIN LETTER SMALL CAPITAL TURNED M,
  6EPIGRAPHIC LETTER REVERSED F,QP,HINVERTED M,I LONGA,HARCHAIC M,0SYLOTI NAGRI LETTER A,DI,
  =SIGN DVISVARA,=LETTER U,DE,DO,=SIGN HASANTA,=LETTER KO,EHO,DGO,EHO,=SIGN ANUSVARA,=LETTER CO,
  EHO,DJO,EHO,DTTO,FHO,DDDO,FHO,DTO,EHO,DDO,EHO,DNO,DPO,EHO,DBO,EHO,DMO,DRO,DLO,DRRO,DSO,DHO,
  =VOWEL SIGN A,HI,HU,HE,HOO,=POETRY MARK-1,I2,I3,I4,=SIGN ALTERNATE HASANTA,!A830,
  0NORTH INDIC FRACTION ONE QUARTER,IHALF,ETHREE QUARTERS,EONE SIXTEENTH,IEIGHTH,
  ETHREE SIXTEENTHS,<QUARTER MARK,<PLACEHOLDER MARK,<RUPEE MARK,<QUANTITY MARK,!A840,
  0PHAGS-PA LETTER KA,AHA,@GA,@NGA,@CA,AHA,@JA,@NYA,@TA,AHA,@DA,@NA,@PA,AHA,@BA,@MA,@TSA,BHA,@DZA,
  @WA,@ZHA,AA,@SMALL A,@YA,@RA,@LA,@SHA,AA,@HA,@A,@I,@U,@E,@O,@QA,@XA,@FA,@GGA,@EE,
  9SUBJOINED LETTER WA,JYA,9LETTER TTA,BHA,@DDA,@NNA,@ALTERNATE YA,@VOICELESS SHA,ED HA,
  @ASPIRATED FA,9SUBJOINED LETTER RA,;PERFIXED LETTER RA,9LETTER CANDRABINDU,9SINGLE HEAD MARK,
  9DOUBLE HEAD MARK,9MARK SHAD,>DOUBLE SHAD,!A880,0SAURASHTRA SIGN ANUSVARA,@VISARGA,;LETTER A,CA,
  BI,CI,BU,CU,BVOCALIC R,KR,JL,KL,BE,CE,BAI,BO,CO,BAU,BKA,CHA,BGA,CHA,BNGA,BCA,CHA,BJA,CHA,BNYA,
  BTTA,DHA,BDDA,DHA,BNNA,BTA,CHA,BDA,CHA,BNA,BPA,CHA,BBA,CHA,BMA,BYA,BRA,BLA,BVA,BSHA,CSA,CA,BHA,
  BLLA,;CONSONANT SIGN HAARU,;VOWEL SIGN AA,FI,GI,FU,GU,FVOCALIC R,OR,NL,OL,FE,GE,FAI,FO,GO,FAU,
  ;SIGN VIRAMA,@CANDRABINDU,!A8CE,;DANDA,<OUBLE DANDA,<IGIT ZERO,AONE,ATWO,BHREE,AFOUR,BIVE,ASIX,
  BEVEN,AEIGHT,ANINE,!A8E0,0COMBINING DEVANAGARI DIGIT ZERO,KONE,KTWO,LHREE,KFOUR,LIVE,KSIX,LEVEN,
  KEIGHT,KNINE,ELETTER A,LU,LKA,LNA,LPA,LRA,LVI,ESIGN AVAGRAHA,
  0DEVANAGARI SIGN SPACING CANDRABINDU,@CANDRABINDU VIRAMA,@DOUBLE CANDRABINDU VIRAMA,
  @CANDRABINDU TWO,MHREE,LAVAGRAHA,@PUSHPIKA,;GAP FILLER,;CARET,;HEADSTROKE,;SIGN SIDDHAM,
  ;JAIN OM,;LETTER AY,;VOWEL SIGN AY,0KAYAH LI DIGIT ZERO,?ONE,?TWO,@HREE,?FOUR,@IVE,?SIX,@EVEN,
  ?EIGHT,?NINE,9LETTER KA,AHA,@GA,@NGA,@SA,AHA,@ZA,@NYA,@TA,@HTA,@NA,@PA,AHA,@MA,@DA,@BA,@RA,@YA,
  @LA,@WA,@THA,@HA,@VA,@CA,@A,@OE,@I,@OO,9VOWEL UE,?E,?U,?EE,?O,9TONE PLOPHU,>CALYA,C PLOPHU,
  9SIGN CWI,>SHYA,0REJANG LETTER KA,>GA,>NGA,>TA,>DA,>NA,>PA,>BA,>MA,>CA,>JA,>NYA,>SA,>RA,>LA,>YA,
  >WA,>HA,>MBA,>NGGA,?DA,?YJA,>A,7VOWEL SIGN I,BU,BE,BAI,BO,BAU,BEU,CA,7CONSONANT SIGN NG,G,FR,FH,
  7VIRAMA,!A95F,7SECTION MARK,0HANGUL CHOSEONG TIKEUT-MIEUM,GPIEUP,GSIOS,GCIEUC,@RIEUL-KIYEOK,
  FSSANGKIYEOK,FTIKEUT,FSSANGTIKEUT,FMIEUM,FPIEUP,FSSANGPIEUP,FKAPYEOUNPIEUP,FSIOS,FCIEUC,
  FKHIEUKH,@MIEUM-KIYEOK,FTIKEUT,FSIOS,@PIEUP-SIOS-THIEUTH,FKHIEUKH,FHIEUH,@SSANGSIOS-PIEUP,
  @IEUNG-RIEUL,FHIEUH,@SSANGCIEUC-HIEUH,ETHIEUTH,@PHIEUPH-HIEUH,@HIEUH-SIOS,@SSANGYEORINHIEUH,
  !A980,0JAVANESE SIGN PANYANGGA,>CECAK,>LAYAR,>WIGNYAN,9LETTER A,@I KAWI,A,AI,@U,@PA CEREK,
  @NGA LELET,I RASWADI,@E,@AI,@O,@KA,B SASAK,CMURDA,@GA,B MURDA,@NGA,@CA,B MURDA,@JA,@NYA MURDA,
  @JA MAHAPRANA,@NYA,@TTA,C MAHAPRANA,@DDA,C MAHAPRANA,@NA MURDA,@TA,B MURDA,@DA,B MAHAPRANA,@NA,
  @PA,B MURDA,@BA,B MURDA,@MA,@YA,@RA,B AGUNG,@LA,@WA,@SA MURDA,DAHAPRANA,B,@HA,9SIGN CECAK TELU,
  9VOWEL SIGN TARUNG,EOLONG,DWULU,H MELIK,DSUKU,H MENDUT,DTALING,DDIRGA MURE,DPEPET,
  9CONSONANT SIGN KERET,HPENGKAL,HCAKRA,9PANGKON,9LEFT RERENGGAN,9RIGHT RERENGGAN,9PADA ANDAP,
  >MADYA,>LUHUR,>WINDU,>PANGKAT,>LINGSA,?UNGSI,>ADEG,B ADEG,>PISELEH,9TURNED PADA PISELEH,!A9CF,
  9PANGRANGKEP,9DIGIT ZERO,?ONE,?TWO,@HREE,?FOUR,@IVE,?SIX,@EVEN,?EIGHT,?NINE,!A9DE,
  9PADA TIRTA TUMETES,>ISEN-ISEN,0MYANMAR LETTER SHAN GHA,DCHA,DJHA,DNNA,DBHA,8SIGN SHAN SAW,
  8MODIFIER LETTER SHAN REDUPLICATION,8LETTER TAI LAING NYA,IFA,IGA,JHA,IJA,JHA,IDDA,KHA,INNA,
  8TAI LAING DIGIT ZERO,HONE,HTWO,IHREE,HFOUR,IIVE,HSIX,IEVEN,HEIGHT,HNINE,8LETTER TAI LAING LLA,
  IDA,JHA,IBA,JHA,!AA00,0CHAM LETTER A,<I,<U,<E,<AI,<O,<KA,=HA,<GA,=HA,<NGUE,>A,<CHA,>HA,<JA,=HA,
  <NHUE,>A,>JA,<TA,=HA,<DA,=HA,<NUE,=A,<DDA,<PA,=PA,=HA,<BA,=HA,<MUE,=A,<BBA,<YA,<RA,<LA,<VA,<SSA,
  =A,<HA,5VOWEL SIGN AA,@I,AI,@EI,@U,@OE,A,@AI,AU,@UE,5CONSONANT SIGN YA,DRA,DLA,DWA,!AA40,
  5LETTER FINAL K,BG,BNG,5CONSONANT SIGN FINAL NG,5LETTER FINAL CH,BT,BN,BP,BY,BR,BL,BSS,
  5CONSONANT SIGN FINAL M,JH,!AA50,5DIGIT ZERO,;ONE,;TWO,<HREE,;FOUR,<IVE,;SIX,<EVEN,;EIGHT,;NINE,
  !AA5C,5PUNCTUATION SPIRAL,ADANDA,BOUBLE DANDA,ATRIPLE DANDA,0MYANMAR LETTER KHAMTI GA,FCA,GHA,
  FJA,GHA,FNYA,FTTA,HHA,FDDA,HHA,GHA,FNA,FSA,FHA,GHA,FFA,8MODIFIER LETTER KHAMTI REDUPLICATION,
  8LETTER KHAMTI XA,FZA,FRA,9OGOGRAM KHAMTI OAY,HQN,HHM,8SYMBOL AITON EXCLAMATION,EONE,ETWO,
  8LETTER AITON RA,8SIGN PAO KAREN TONE,=TAI LAING TONE-2,L5,8LETTER SHWE PALAUNG CHA,LSHA,
  0TAI VIET LETTER LOW KO,@HIGH KO,@LOW KHO,@HIGH KHO,@LOW KHHO,@HIGH KHHO,@LOW GO,@HIGH GO,
  @LOW NGO,@HIGH NGO,@LOW CO,@HIGH CO,@LOW CHO,@HIGH CHO,@LOW SO,@HIGH SO,@LOW NYO,@HIGH NYO,
  @LOW DO,@HIGH DO,@LOW TO,@HIGH TO,@LOW THO,@HIGH THO,@LOW NO,@HIGH NO,@LOW BO,@HIGH BO,@LOW PO,
  @HIGH PO,@LOW PHO,@HIGH PHO,@LOW FO,@HIGH FO,@LOW MO,@HIGH MO,@LOW YO,@HIGH YO,@LOW RO,@HIGH RO,
  @LOW LO,@HIGH LO,@LOW VO,@HIGH VO,@LOW HO,@HIGH HO,@LOW O,@HIGH O,9MAI KANG,9VOWEL AA,?I,?UE,@,
  ?E,?O,9MAI KHIT,9VOWEL IA,?UEA,@A,?AUE,@Y,@N,@M,9TONE MAI EK,BNUENG,BTHO,BSONG,!AADB,
  9SYMBOL KON,@NUENG,@SAM,@HO HOI,@KOI KOI,0MEETEI MAYEK LETTER E,DO,DCHA,DNYA,DTTA,FHA,DDDA,FHA,
  DNNA,DSHA,ESA,=VOWEL SIGN II,HUU,HAAI,IU,IAU,=CHEIKHAN,=AHANG KHUDAM,>NJI,
  =SYLLABLE REPETITION MARK,=WORD REPETITION MARK,=VOWEL SIGN VISARGA,>IRAMA,!AB01,
  0ETHIOPIC SYLLABLE TTHU,EI,EAA,EEE,F,EO,!AB09,BDDHU,EI,EAA,EEE,F,EO,!AB11,CZU,DI,DAA,DEE,E,DO,
  !AB20,BCCHHA,FU,FI,FAA,FEE,G,FO,!AB28,BBBA,DU,DI,DAA,DEE,E,DO,!AB30,
  0LATIN SMALL LETTER BARRED ALPHA,CA REVERSED-SCHWA,CBLACKLETTER E,DARRED E,CE WITH FLOURISH,
  CLENIS F,CSCRIPT G WITH CROSSED-TAIL,CL WITH INVERTED LAZY S,JDOUBLE MIDDLE TILDE,JMIDDLE RING,
  CM WITH CROSSED-TAIL,CN WITH CROSSED-TAIL,CENG WITH CROSSED-TAIL,CBLACKLETTER O,P WITH STROKE,
  COPEN O WITH STROKE,CINVERTED OE,CTURNED OE WITH STROKE,RHORIZONTAL STROKE,K OPEN-O,
  R WITH STROKE,CSTIRRUP R,6LETTER SMALL CAPITAL R WITH RIGHT LEG,6SMALL LETTER R WITHOUT HANDLE,
  CDOUBLE R,CR WITH CROSSED-TAIL,CDOUBLE R WITH CROSSED-TAIL,CSCRIPT R,K WITH RING,CBASELINE ESH,
  CU WITH SHORT RIGHT LEG,EBAR WITH SHORT RIGHT LEG,DI,CTURNED UI,CU WITH LEFT HOOK,CCHI,
  F WITH LOW RIGHT RING,PLEFT SERIF,CX WITH LOW RIGHT RING,LNG LEFT LEG,W AND LOW RIGHT RING,
  XWITH SERIF,CY WITH SHORT RIGHT LEG,0MODIFIER BREVE WITH INVERTED BREVE,9LETTER SMALL HENG,
  FL WITH INVERTED LAZY S,MMIDDLE TILDE,FU WITH LEFT HOOK,0LATIN SMALL LETTER SAKHA YAT,
  CIOTIFIED E,COPEN OE,CUO,CINVERTED ALPHA,0GREEK LETTER SMALL CAPITAL OMEGA,
  0LATIN SMALL LETTER DZ DIGRAPH WITH RETROFLEX HOOK,CTS DIGRAPH WITH RETROFLEX HOOK,
  DURNED R WITH MIDDLE TILDE,0MODIFIER LETTER SMALL TURNED W,@LEFT TACK,@RIGHT TACK,!AB70,
  0CHEROKEE SMALL LETTER A,FE,FI,FO,FU,FV,FGA,FKA,FGE,GI,GO,GU,GV,FHA,GE,GI,GO,GU,GV,FLA,GE,GI,GO,
  GU,GV,FMA,GE,GI,GO,GU,FNA,FHNA,FNAH,GE,GI,GO,GU,GV,FQUA,HE,HI,HO,HU,HV,FSA,G,GE,GI,GO,GU,GV,FDA,
  FTA,FDE,FTE,FDI,FTI,FDO,GU,GV,GLA,FTLA,HE,HI,HO,HU,HV,GSA,HE,HI,HO,HU,HV,FWA,GE,GI,GO,GU,GV,FYA,
  0MEETEI MAYEK LETTER KOK,DSAM,DLAI,DMIT,DPA,DNA,DCHIL,DTIL,DKHOU,DNGOU,DTHOU,DWAI,DYANG,DHUK,
  DUN,DI,DPHAM,DATIYA,DGOK,DJHAM,DRAI,DBA,DJIL,DDIL,DGHOU,DDHOU,DBHAM,DKOK LONSUM,DLAI LONSUM,
  DMIT LONSUM,DPA LONSUM,DNA LONSUM,DTIL LONSUM,DNGOU LONSUM,DI LONSUM,=VOWEL SIGN ONAP,HINAP,
  HANAP,HYENAP,HSOUNAP,HUNAP,HCHEINAP,HNUNG,=CHEIKHEI,=LUM IYEK,=APUN IYEK,!ABF0,=DIGIT ZERO,CONE,
  CTWO,DHREE,CFOUR,DIVE,CSIX,DEVEN,CEIGHT,CNINE,!D7B0,0HANGUL JUNGSEONG O-YEO,CO-I,AYO-A,EE,DEO,
  AU-YEO,CI-I,AYU-AE,DO,AEU-A,DEO,E,DO,AI-YA-O,EE,DEO,E,CO-I,CYO,DU,CI,AARAEA-A,GE,!D7CB,
  8ONGSEONG NIEUN-RIEUL,GCHIEUCH,ASSANGTIKEUT,L-PIEUP,ATIKEUT-PIEUP,HSIOS,L-KIYEOK,HCIEUC,IHIEUCH,
  HTHIEUTH,ARIEUL-SSANGKIYEOK,GKIYEOK-HIEUH,ASSANGRIEUL-KHIEUKH,ARIEUL-MIEUM-HIEUH,GPIEUP-TIKEUT,
  MPHIEUPH,GYESIEUNG,IORINHIEUH-HIEUH,AKAPYEOUNRIEUL,AMIEUM-NIEUN,GSSANGNIEUN,ASSANGMIEUM,
  AMIEUM-PIEUP-SIOS,GCIEUC,APIEUP-TIKEUT,GRIEUL-PHIEUPH,GMIEUM,ASSANGPIEUP,APIEUP-SIOS-TIKEUT,
  GCIEUC,HHIEUCH,ASIOS-MIEUM,FKAPYEOUNPIEUP,BSANGSIOS-KIYEOK,KTIKEUT,BIOS-PANSIOS,FCIEUC,GHIEUCH,
  FTHIEUTH,FHIEUH,APANSIOS-PIEUP,IKAPYEOUNPIEUP,AYESIEUNG-MIEUM,JHIEUH,ACIEUC-PIEUP,GSSANGPIEUP,
  ASSANGCIEUC,APHIEUPH-SIOS,ITHIEUTH,!F900,0CJK COMPATIBILITY IDEOGRAPH-F900,O1,O2,O3,O4,O5,O6,O7,
  O8,O9,OA,OB,OC,OD,OE,OF,N10,O1,O2,O3,O4,O5,O6,O7,O8,O9,OA,OB,OC,OD,OE,OF,N20,O1,O2,O3,O4,O5,O6,
  O7,O8,O9,OA,OB,OC,OD,OE,OF,N30,O1,O2,O3,O4,O5,O6,O7,O8,O9,OA,OB,OC,OD,OE,OF,N40,O1,O2,O3,O4,O5,
  O6,O7,O8,O9,OA,OB,OC,OD,OE,OF,N50,O1,O2,O3,O4,O5,O6,O7,O8,O9,OA,OB,OC,OD,OE,OF,N60,O1,O2,O3,O4,
  O5,O6,O7,O8,O9,OA,OB,OC,OD,OE,OF,N70,O1,O2,O3,O4,O5,O6,O7,O8,O9,OA,OB,OC,OD,OE,OF,N80,O1,O2,O3,
  O4,O5,O6,O7,O8,O9,OA,OB,OC,OD,OE,OF,N90,O1,O2,O3,O4,O5,O6,O7,O8,O9,OA,OB,OC,OD,OE,OF,NA0,O1,O2,
  O3,O4,O5,O6,O7,O8,O9,OA,OB,OC,OD,OE,OF,NB0,O1,O2,O3,O4,O5,O6,O7,O8,O9,OA,OB,OC,OD,OE,OF,NC0,O1,
  O2,O3,O4,O5,O6,O7,O8,O9,OA,OB,OC,OD,OE,OF,ND0,O1,O2,O3,O4,O5,O6,O7,O8,O9,OA,OB,OC,OD,OE,OF,NE0,
  O1,O2,O3,O4,O5,O6,O7,O8,O9,OA,OB,OC,OD,OE,OF,NF0,O1,O2,O3,O4,O5,O6,O7,O8,O9,OA,OB,OC,OD,OE,OF,
  MA00,O1,O2,O3,O4,O5,O6,O7,O8,O9,OA,OB,OC,OD,OE,OF,N10,O1,O2,O3,O4,O5,O6,O7,O8,O9,OA,OB,OC,OD,OE,
  OF,N20,O1,O2,O3,O4,O5,O6,O7,O8,O9,OA,OB,OC,OD,OE,OF,N30,O1,O2,O3,O4,O5,O6,O7,O8,O9,OA,OB,OC,OD,
  OE,OF,N40,O1,O2,O3,O4,O5,O6,O7,O8,O9,OA,OB,OC,OD,OE,OF,N50,O1,O2,O3,O4,O5,O6,O7,O8,O9,OA,OB,OC,
  OD,OE,OF,N60,O1,O2,O3,O4,O5,O6,O7,O8,O9,OA,OB,OC,OD,!FA70,N70,O1,O2,O3,O4,O5,O6,O7,O8,O9,OA,OB,
  OC,OD,OE,OF,N80,O1,O2,O3,O4,O5,O6,O7,O8,O9,OA,OB,OC,OD,OE,OF,N90,O1,O2,O3,O4,O5,O6,O7,O8,O9,OA,
  OB,OC,OD,OE,OF,NA0,O1,O2,O3,O4,O5,O6,O7,O8,O9,OA,OB,OC,OD,OE,OF,NB0,O1,O2,O3,O4,O5,O6,O7,O8,O9,
  OA,OB,OC,OD,OE,OF,NC0,O1,O2,O3,O4,O5,O6,O7,O8,O9,OA,OB,OC,OD,OE,OF,ND0,O1,O2,O3,O4,O5,O6,O7,O8,
  O9,!FB00,0LATIN SMALL LIGATURE FF,FI,FL,FFI,GL,ELONG S T,EST,!FB13,
  0ARMENIAN SMALL LIGATURE MEN NOW,LECH,LINI,HVEW NOW,HMEN XEH,!FB1D,
  0HEBREW LETTER YOD WITH HIRIQ,7POINT JUDEO-SPANISH VARIKA,7LIGATURE YIDDISH YOD YOD PATAH,
  8ETTER ALTERNATIVE AYIN,>WIDE ALEF,CDALET,CHE,CKAF,CLAMED,CFINAL MEM,CRESH,CTAV,
  >ALTERNATIVE PLUS SIGN,>SHIN WITH SHIN DOT,IIN DOT,HDAGESH AND SHIN DOT,TIN DOT,
  >ALEF WITH PATAH,HQAMATS,HMAPIQ,>BET WITH DAGESH,>GIMEL WITH DAGESH,>DALET WITH DAGESH,
  >HE WITH MAPIQ,>VAV WITH DAGESH,>ZAYIN WITH DAGESH,!FB38,>TET WITH DAGESH,>YOD WITH DAGESH,
  >FINAL KAF WITH DAGESH,>KAF WITH DAGESH,>LAMED WITH DAGESH,!FB3E,>MEM WITH DAGESH,!FB40,
  >NUN WITH DAGESH,>SAMEKH WITH DAGESH,!FB43,>FINAL PE WITH DAGESH,>PE WITH DAGESH,!FB46,
  >TSADI WITH DAGESH,>QOF WITH DAGESH,>RESH WITH DAGESH,>SHIN WITH DAGESH,>TAV WITH DAGESH,
  >VAV WITH HOLAM,>BET WITH RAFE,>KAF WITH RAFE,>PE WITH RAFE,8IGATURE ALEF LAMED,
  0ARABIC LETTER ALEF WASLA ISOLATED FORM,IFINAL FORM,>BEEH ISOLATED FORM,CFINAL FORM,
  CINITIAL FORM,CMEDIAL FORM,>PEH ISOLATED FORM,BFINAL FORM,BINITIAL FORM,BMEDIAL FORM,
  >BEHEH ISOLATED FORM,DFINAL FORM,DINITIAL FORM,DMEDIAL FORM,>TTEHEH ISOLATED FORM,EFINAL FORM,
  EINITIAL FORM,EMEDIAL FORM,?EHEH ISOLATED FORM,DFINAL FORM,DINITIAL FORM,DMEDIAL FORM,
  ?TEH ISOLATED FORM,CFINAL FORM,CINITIAL FORM,CMEDIAL FORM,>VEH ISOLATED FORM,BFINAL FORM,
  BINITIAL FORM,BMEDIAL FORM,>PEHEH ISOLATED FORM,DFINAL FORM,DINITIAL FORM,DMEDIAL FORM,
  >DYEH ISOLATED FORM,CFINAL FORM,CINITIAL FORM,CMEDIAL FORM,>NYEH ISOLATED FORM,CFINAL FORM,
  CINITIAL FORM,CMEDIAL FORM,>TCHEH ISOLATED FORM,DFINAL FORM,DINITIAL FORM,DMEDIAL FORM,
  CEH ISOLATED FORM,FFINAL FORM,FINITIAL FORM,FMEDIAL FORM,>DDAHAL ISOLATED FORM,EFINAL FORM,
  ?AHAL ISOLATED FORM,DFINAL FORM,?UL ISOLATED FORM,BFINAL FORM,?DAL ISOLATED FORM,CFINAL FORM,
  >JEH ISOLATED FORM,BFINAL FORM,>RREH ISOLATED FORM,CFINAL FORM,>KEHEH ISOLATED FORM,DFINAL FORM,
  DINITIAL FORM,DMEDIAL FORM,>GAF ISOLATED FORM,BFINAL FORM,BINITIAL FORM,BMEDIAL FORM,
  ?UEH ISOLATED FORM,CFINAL FORM,CINITIAL FORM,CMEDIAL FORM,>NGOEH ISOLATED FORM,DFINAL FORM,
  DINITIAL FORM,DMEDIAL FORM,?OON GHUNNA ISOLATED FORM,JFINAL FORM,>RNOON ISOLATED FORM,
  DFINAL FORM,DINITIAL FORM,DMEDIAL FORM,>HEH WITH YEH ABOVE ISOLATED FORM,QFINAL FORM,
  BGOAL ISOLATED FORM,GFINAL FORM,GINITIAL FORM,GMEDIAL FORM,BDOACHASHMEE ISOLATED FORM,
  NFINAL FORM,NINITIAL FORM,NMEDIAL FORM,>YEH BARREE ISOLATED FORM,IFINAL FORM,
  IWITH HAMZA ABOVE ISOLATED FORM,ZFINAL FORM,7SYMBOL DOT ABOVE,BBELOW,>TWO DOTS ABOVE,GBELOW,
  ?HREE DOTS ABOVE,IBELOW,IPOINTING DOWNWARDS ABOVE,[ BELOW,>FOUR DOTS ABOVE,HBELOW,
  >DOUBLE VERTICAL BAR BELOW,>TWO DOTS VERTICALLY ABOVE,RBELOW,>RING,>SMALL TAH ABOVE,HBELOW,
  >WASLA ABOVE,!FBD3,7LETTER NG ISOLATED FORM,AFINAL FORM,AINITIAL FORM,AMEDIAL FORM,
  >U ISOLATED FORM,@FINAL FORM,>OE ISOLATED FORM,AFINAL FORM,>YU ISOLATED FORM,AFINAL FORM,
  >U WITH HAMZA ABOVE ISOLATED FORM,>VE ISOLATED FORM,AFINAL FORM,>KIRGHIZ OE ISOLATED FORM,
  IFINAL FORM,FYU ISOLATED FORM,IFINAL FORM,>E ISOLATED FORM,@FINAL FORM,@INITIAL FORM,
  @MEDIAL FORM,>UIGHUR KAZAKH KIRGHIZ ALEF MAKSURA INITIAL FORM,[KSURA MEDIAL FORM,
  8IGATURE YEH WITH HAMZA ABOVE WITH ALEF ISOLATED FORM,[LEF FINAL FORM,[E ISOLATED FORM,
  [E FINAL FORM,ZWAW ISOLATED FORM,[AW FINAL FORM,ZU ISOLATED FORM,[ FINAL FORM,ZOE ISOLATED FORM,
  [E FINAL FORM,ZYU ISOLATED FORM,[U FINAL FORM,ZE ISOLATED FORM,[ FINAL FORM,[ INITIAL FORM,
  @UIGHUR KIRGHIZ YEH WITH HAMZA ABOVE WITH ALEF MAKSURA ISOLATED FORM,
  [ZA ABOVE WITH ALEF MAKSURA FINAL FORM,[ZA ABOVE WITH ALEF MAKSURA INITIAL FORM,
  8ETTER FARSI YEH ISOLATED FORM,HFINAL FORM,HINITIAL FORM,HMEDIAL FORM,
  8IGATURE YEH WITH HAMZA ABOVE WITH JEEM ISOLATED FORM,ZHAH ISOLATED FORM,ZMEEM ISOLATED FORM,
  ZALEF MAKSURA ISOLATED FORM,ZYEH ISOLATED FORM,@BEH WITH JEEM ISOLATED FORM,IHAH ISOLATED FORM,
  IKHAH ISOLATED FORM,IMEEM ISOLATED FORM,IALEF MAKSURA ISOLATED FORM,IYEH ISOLATED FORM,
  @TEH WITH JEEM ISOLATED FORM,IHAH ISOLATED FORM,IKHAH ISOLATED FORM,IMEEM ISOLATED FORM,
  IALEF MAKSURA ISOLATED FORM,IYEH ISOLATED FORM,AHEH WITH JEEM ISOLATED FORM,JMEEM ISOLATED FORM,
  JALEF MAKSURA ISOLATED FORM,JYEH ISOLATED FORM,@JEEM WITH HAH ISOLATED FORM,JMEEM ISOLATED FORM,
  @HAH WITH JEEM ISOLATED FORM,IMEEM ISOLATED FORM,@KHAH WITH JEEM ISOLATED FORM,
  JHAH ISOLATED FORM,JMEEM ISOLATED FORM,@SEEN WITH JEEM ISOLATED FORM,JHAH ISOLATED FORM,
  JKHAH ISOLATED FORM,JMEEM ISOLATED FORM,AAD WITH HAH ISOLATED FORM,IMEEM ISOLATED FORM,
  @DAD WITH JEEM ISOLATED FORM,IHAH ISOLATED FORM,IKHAH ISOLATED FORM,IMEEM ISOLATED FORM,
  @TAH WITH HAH ISOLATED FORM,IMEEM ISOLATED FORM,@ZAH WITH MEEM ISOLATED FORM,
  @AIN WITH JEEM ISOLATED FORM,IMEEM ISOLATED FORM,@GHAIN WITH JEEM ISOLATED FORM,
  KMEEM ISOLATED FORM,@FEH WITH JEEM ISOLATED FORM,IHAH ISOLATED FORM,IKHAH ISOLATED FORM,
  IMEEM ISOLATED FORM,IALEF MAKSURA ISOLATED FORM,IYEH ISOLATED FORM,@QAF WITH HAH ISOLATED FORM,
  IMEEM ISOLATED FORM,IALEF MAKSURA ISOLATED FORM,IYEH ISOLATED FORM,@KAF WITH ALEF ISOLATED FORM,
  IJEEM ISOLATED FORM,IHAH ISOLATED FORM,IKHAH ISOLATED FORM,ILAM ISOLATED FORM,
  IMEEM ISOLATED FORM,IALEF MAKSURA ISOLATED FORM,IYEH ISOLATED FORM,@LAM WITH JEEM ISOLATED FORM,
  IHAH ISOLATED FORM,IKHAH ISOLATED FORM,IMEEM ISOLATED FORM,IALEF MAKSURA ISOLATED FORM,
  IYEH ISOLATED FORM,@MEEM WITH JEEM ISOLATED FORM,JHAH ISOLATED FORM,JKHAH ISOLATED FORM,
  JMEEM ISOLATED FORM,JALEF MAKSURA ISOLATED FORM,JYEH ISOLATED FORM,
  @NOON WITH JEEM ISOLATED FORM,JHAH ISOLATED FORM,JKHAH ISOLATED FORM,JMEEM ISOLATED FORM,
  JALEF MAKSURA ISOLATED FORM,JYEH ISOLATED FORM,@HEH WITH JEEM ISOLATED FORM,IMEEM ISOLATED FORM,
  IALEF MAKSURA ISOLATED FORM,IYEH ISOLATED FORM,@YEH WITH JEEM ISOLATED FORM,IHAH ISOLATED FORM,
  IKHAH ISOLATED FORM,IMEEM ISOLATED FORM,IALEF MAKSURA ISOLATED FORM,IYEH ISOLATED FORM,
  @THAL WITH SUPERSCRIPT ALEF ISOLATED FORM,@REH WITH SUPERSCRIPT ALEF ISOLATED FORM,
  @ALEF MAKSURA WITH SUPERSCRIPT ALEF ISOLATED FORM,@SHADDA WITH DAMMATAN ISOLATED FORM,
  LKASRATAN ISOLATED FORM,LFATHA ISOLATED FORM,LDAMMA ISOLATED FORM,LKASRA ISOLATED FORM,
  LSUPERSCRIPT ALEF ISOLATED FORM,@YEH WITH HAMZA ABOVE WITH REH FINAL FORM,ZZAIN FINAL FORM,
  ZMEEM FINAL FORM,ZNOON FINAL FORM,ZALEF MAKSURA FINAL FORM,ZYEH FINAL FORM,
  @BEH WITH REH FINAL FORM,IZAIN FINAL FORM,IMEEM FINAL FORM,INOON FINAL FORM,
  IALEF MAKSURA FINAL FORM,IYEH FINAL FORM,@TEH WITH REH FINAL FORM,IZAIN FINAL FORM,
  IMEEM FINAL FORM,INOON FINAL FORM,IALEF MAKSURA FINAL FORM,IYEH FINAL FORM,
  AHEH WITH REH FINAL FORM,JZAIN FINAL FORM,JMEEM FINAL FORM,JNOON FINAL FORM,
  JALEF MAKSURA FINAL FORM,JYEH FINAL FORM,@FEH WITH ALEF MAKSURA FINAL FORM,IYEH FINAL FORM,
  @QAF WITH ALEF MAKSURA FINAL FORM,IYEH FINAL FORM,@KAF WITH ALEF FINAL FORM,ILAM FINAL FORM,
  IMEEM FINAL FORM,IALEF MAKSURA FINAL FORM,IYEH FINAL FORM,@LAM WITH MEEM FINAL FORM,
  IALEF MAKSURA FINAL FORM,IYEH FINAL FORM,@MEEM WITH ALEF FINAL FORM,JMEEM FINAL FORM,
  @NOON WITH REH FINAL FORM,JZAIN FINAL FORM,JMEEM FINAL FORM,JNOON FINAL FORM,
  JALEF MAKSURA FINAL FORM,JYEH FINAL FORM,@ALEF MAKSURA WITH SUPERSCRIPT ALEF FINAL FORM,
  @YEH WITH REH FINAL FORM,IZAIN FINAL FORM,IMEEM FINAL FORM,INOON FINAL FORM,
  IALEF MAKSURA FINAL FORM,IYEH FINAL FORM,IHAMZA ABOVE WITH JEEM INITIAL FORM,ZHAH INITIAL FORM,
  ZKHAH INITIAL FORM,ZMEEM INITIAL FORM,ZHEH INITIAL FORM,@BEH WITH JEEM INITIAL FORM,
  IHAH INITIAL FORM,IKHAH INITIAL FORM,IMEEM INITIAL FORM,IHEH INITIAL FORM,
  @TEH WITH JEEM INITIAL FORM,IHAH INITIAL FORM,IKHAH INITIAL FORM,IMEEM INITIAL FORM,
  IHEH INITIAL FORM,AHEH WITH MEEM INITIAL FORM,@JEEM WITH HAH INITIAL FORM,JMEEM INITIAL FORM,
  @HAH WITH JEEM INITIAL FORM,IMEEM INITIAL FORM,@KHAH WITH JEEM INITIAL FORM,JMEEM INITIAL FORM,
  @SEEN WITH JEEM INITIAL FORM,JHAH INITIAL FORM,JKHAH INITIAL FORM,JMEEM INITIAL FORM,
  AAD WITH HAH INITIAL FORM,IKHAH INITIAL FORM,IMEEM INITIAL FORM,@DAD WITH JEEM INITIAL FORM,
  IHAH INITIAL FORM,IKHAH INITIAL FORM,IMEEM INITIAL FORM,@TAH WITH HAH INITIAL FORM,
  @ZAH WITH MEEM INITIAL FORM,@AIN WITH JEEM INITIAL FORM,IMEEM INITIAL FORM,
  @GHAIN WITH JEEM INITIAL FORM,KMEEM INITIAL FORM,@FEH WITH JEEM INITIAL FORM,IHAH INITIAL FORM,
  IKHAH INITIAL FORM,IMEEM INITIAL FORM,@QAF WITH HAH INITIAL FORM,IMEEM INITIAL FORM,
  @KAF WITH JEEM INITIAL FORM,IHAH INITIAL FORM,IKHAH INITIAL FORM,ILAM INITIAL FORM,
  IMEEM INITIAL FORM,@LAM WITH JEEM INITIAL FORM,IHAH INITIAL FORM,IKHAH INITIAL FORM,
  IMEEM INITIAL FORM,IHEH INITIAL FORM,@MEEM WITH JEEM INITIAL FORM,JHAH INITIAL FORM,
  JKHAH INITIAL FORM,JMEEM INITIAL FORM,@NOON WITH JEEM INITIAL FORM,JHAH INITIAL FORM,
  JKHAH INITIAL FORM,JMEEM INITIAL FORM,JHEH INITIAL FORM,@HEH WITH JEEM INITIAL FORM,
  IMEEM INITIAL FORM,ISUPERSCRIPT ALEF INITIAL FORM,@YEH WITH JEEM INITIAL FORM,IHAH INITIAL FORM,
  IKHAH INITIAL FORM,IMEEM INITIAL FORM,IHEH INITIAL FORM,JAMZA ABOVE WITH MEEM MEDIAL FORM,
  ZHEH MEDIAL FORM,@BEH WITH MEEM MEDIAL FORM,IHEH MEDIAL FORM,@TEH WITH MEEM MEDIAL FORM,
  IHEH MEDIAL FORM,AHEH WITH MEEM MEDIAL FORM,JHEH MEDIAL FORM,@SEEN WITH MEEM MEDIAL FORM,
  JHEH MEDIAL FORM,AHEEN WITH MEEM MEDIAL FORM,KHEH MEDIAL FORM,@KAF WITH LAM MEDIAL FORM,
  IMEEM MEDIAL FORM,@LAM WITH MEEM MEDIAL FORM,@NOON WITH MEEM MEDIAL FORM,JHEH MEDIAL FORM,
  @YEH WITH MEEM MEDIAL FORM,IHEH MEDIAL FORM,@SHADDA WITH FATHA MEDIAL FORM,LDAMMA MEDIAL FORM,
  LKASRA MEDIAL FORM,@TAH WITH ALEF MAKSURA ISOLATED FORM,IYEH ISOLATED FORM,
  @AIN WITH ALEF MAKSURA ISOLATED FORM,IYEH ISOLATED FORM,@GHAIN WITH ALEF MAKSURA ISOLATED FORM,
  KYEH ISOLATED FORM,@SEEN WITH ALEF MAKSURA ISOLATED FORM,JYEH ISOLATED FORM,
  AHEEN WITH ALEF MAKSURA ISOLATED FORM,KYEH ISOLATED FORM,@HAH WITH ALEF MAKSURA ISOLATED FORM,
  IYEH ISOLATED FORM,@JEEM WITH ALEF MAKSURA ISOLATED FORM,JYEH ISOLATED FORM,
  @KHAH WITH ALEF MAKSURA ISOLATED FORM,JYEH ISOLATED FORM,@SAD WITH ALEF MAKSURA ISOLATED FORM,
  IYEH ISOLATED FORM,@DAD WITH ALEF MAKSURA ISOLATED FORM,IYEH ISOLATED FORM,
  @SHEEN WITH JEEM ISOLATED FORM,KHAH ISOLATED FORM,KKHAH ISOLATED FORM,KMEEM ISOLATED FORM,
  KREH ISOLATED FORM,AEEN WITH REH ISOLATED FORM,AAD WITH REH ISOLATED FORM,
  @DAD WITH REH ISOLATED FORM,@TAH WITH ALEF MAKSURA FINAL FORM,IYEH FINAL FORM,
  @AIN WITH ALEF MAKSURA FINAL FORM,IYEH FINAL FORM,@GHAIN WITH ALEF MAKSURA FINAL FORM,
  KYEH FINAL FORM,@SEEN WITH ALEF MAKSURA FINAL FORM,JYEH FINAL FORM,
  AHEEN WITH ALEF MAKSURA FINAL FORM,KYEH FINAL FORM,@HAH WITH ALEF MAKSURA FINAL FORM,
  IYEH FINAL FORM,@JEEM WITH ALEF MAKSURA FINAL FORM,JYEH FINAL FORM,
  @KHAH WITH ALEF MAKSURA FINAL FORM,JYEH FINAL FORM,@SAD WITH ALEF MAKSURA FINAL FORM,
  IYEH FINAL FORM,@DAD WITH ALEF MAKSURA FINAL FORM,IYEH FINAL FORM,@SHEEN WITH JEEM FINAL FORM,
  KHAH FINAL FORM,KKHAH FINAL FORM,KMEEM FINAL FORM,KREH FINAL FORM,AEEN WITH REH FINAL FORM,
  AAD WITH REH FINAL FORM,@DAD WITH REH FINAL FORM,@SHEEN WITH JEEM INITIAL FORM,
  KHAH INITIAL FORM,KKHAH INITIAL FORM,KMEEM INITIAL FORM,AEEN WITH HEH INITIAL FORM,
  AHEEN WITH HEH INITIAL FORM,@TAH WITH MEEM INITIAL FORM,@SEEN WITH JEEM MEDIAL FORM,
  JHAH MEDIAL FORM,JKHAH MEDIAL FORM,AHEEN WITH JEEM MEDIAL FORM,KHAH MEDIAL FORM,
  KKHAH MEDIAL FORM,@TAH WITH MEEM MEDIAL FORM,@ZAH WITH MEEM MEDIAL FORM,
  @ALEF WITH FATHATAN FINAL FORM,SISOLATED FORM,0ORNATE LEFT PARENTHESIS,7RIGHT PARENTHESIS,
  0ARABIC LIGATURE RAHIMAHU ALLAAH,BDI ALLAAHU ANH,PAA,PUM,RAA,QNNA,@SALLALLAAHU ALAYHI WA-AALIH,
  @ALAYHI AS-SALAAM,FM AS-SALAAM,GAA AS-SALAAM,F AS-SALAATU WAS-SALAAM,@QUDDISA SIRRAH,
  @SALLALLAHU ALAYHI WAAALIHEE WA-SALLAM,@ALAYHAA AS-SALAAM,@TABAARAKA WA-TAAALAA,
  @RAHIMAHUM ALLAAH,@TEH WITH JEEM WITH MEEM INITIAL FORM,IHAH WITH JEEM FINAL FORM,WINITIAL FORM,
  RMEEM INITIAL FORM,IKHAH WITH MEEM INITIAL FORM,IMEEM WITH JEEM INITIAL FORM,SHAH INITIAL FORM,
  SKHAH INITIAL FORM,@JEEM WITH MEEM WITH HAH FINAL FORM,XINITIAL FORM,
  @HAH WITH MEEM WITH YEH FINAL FORM,SALEF MAKSURA FINAL FORM,
  @SEEN WITH HAH WITH JEEM INITIAL FORM,JJEEM WITH HAH INITIAL FORM,TALEF MAKSURA FINAL FORM,
  JMEEM WITH HAH FINAL FORM,XINITIAL FORM,TJEEM INITIAL FORM,TMEEM FINAL FORM,YINITIAL FORM,
  AAD WITH HAH WITH HAH FINAL FORM,VINITIAL FORM,IMEEM WITH MEEM FINAL FORM,
  AHEEN WITH HAH WITH MEEM FINAL FORM,YINITIAL FORM,KJEEM WITH YEH FINAL FORM,
  KMEEM WITH KHAH FINAL FORM,ZINITIAL FORM,UMEEM FINAL FORM,ZINITIAL FORM,
  @DAD WITH HAH WITH ALEF MAKSURA FINAL FORM,IKHAH WITH MEEM FINAL FORM,XINITIAL FORM,
  @TAH WITH MEEM WITH HAH FINAL FORM,WINITIAL FORM,SMEEM INITIAL FORM,SYEH FINAL FORM,
  @AIN WITH JEEM WITH MEEM FINAL FORM,IMEEM WITH MEEM FINAL FORM,XINITIAL FORM,
  SALEF MAKSURA FINAL FORM,@GHAIN WITH MEEM WITH MEEM FINAL FORM,UYEH FINAL FORM,
  UALEF MAKSURA FINAL FORM,@FEH WITH KHAH WITH MEEM FINAL FORM,XINITIAL FORM,
  @QAF WITH MEEM WITH HAH FINAL FORM,SMEEM FINAL FORM,@LAM WITH HAH WITH MEEM FINAL FORM,
  RYEH FINAL FORM,RALEF MAKSURA FINAL FORM,IJEEM WITH JEEM INITIAL FORM,XFINAL FORM,
  IKHAH WITH MEEM FINAL FORM,XINITIAL FORM,IMEEM WITH HAH FINAL FORM,WINITIAL FORM,
  @MEEM WITH HAH WITH JEEM INITIAL FORM,SMEEM INITIAL FORM,SYEH FINAL FORM,
  JJEEM WITH HAH INITIAL FORM,TMEEM INITIAL FORM,JKHAH WITH JEEM INITIAL FORM,TMEEM INITIAL FORM,
  !FD92,JJEEM WITH KHAH INITIAL FORM,@HEH WITH MEEM WITH JEEM INITIAL FORM,SMEEM INITIAL FORM,
  @NOON WITH HAH WITH MEEM INITIAL FORM,SALEF MAKSURA FINAL FORM,JJEEM WITH MEEM FINAL FORM,
  YINITIAL FORM,TALEF MAKSURA FINAL FORM,JMEEM WITH YEH FINAL FORM,TALEF MAKSURA FINAL FORM,
  @YEH WITH MEEM WITH MEEM FINAL FORM,XINITIAL FORM,@BEH WITH KHAH WITH YEH FINAL FORM,
  @TEH WITH JEEM WITH YEH FINAL FORM,SALEF MAKSURA FINAL FORM,IKHAH WITH YEH FINAL FORM,
  SALEF MAKSURA FINAL FORM,IMEEM WITH YEH FINAL FORM,SALEF MAKSURA FINAL FORM,
  @JEEM WITH MEEM WITH YEH FINAL FORM,JHAH WITH ALEF MAKSURA FINAL FORM,
  JMEEM WITH ALEF MAKSURA FINAL FORM,@SEEN WITH KHAH WITH ALEF MAKSURA FINAL FORM,
  AAD WITH HAH WITH YEH FINAL FORM,AHEEN WITH HAH WITH YEH FINAL FORM,
  @DAD WITH HAH WITH YEH FINAL FORM,@LAM WITH JEEM WITH YEH FINAL FORM,IMEEM WITH YEH FINAL FORM,
  @YEH WITH HAH WITH YEH FINAL FORM,IJEEM WITH YEH FINAL FORM,IMEEM WITH YEH FINAL FORM,
  @MEEM WITH MEEM WITH YEH FINAL FORM,@QAF WITH MEEM WITH YEH FINAL FORM,
  @NOON WITH HAH WITH YEH FINAL FORM,@QAF WITH MEEM WITH HAH INITIAL FORM,
  @LAM WITH HAH WITH MEEM INITIAL FORM,@AIN WITH MEEM WITH YEH FINAL FORM,
  @KAF WITH MEEM WITH YEH FINAL FORM,@NOON WITH JEEM WITH HAH INITIAL FORM,
  @MEEM WITH KHAH WITH YEH FINAL FORM,@LAM WITH JEEM WITH MEEM INITIAL FORM,
  @KAF WITH MEEM WITH MEEM FINAL FORM,@LAM WITH JEEM WITH MEEM FINAL FORM,
  @NOON WITH JEEM WITH HAH FINAL FORM,@JEEM WITH HAH WITH YEH FINAL FORM,
  @HAH WITH JEEM WITH YEH FINAL FORM,@MEEM WITH JEEM WITH YEH FINAL FORM,
  @FEH WITH MEEM WITH YEH FINAL FORM,@BEH WITH HAH WITH YEH FINAL FORM,
  @KAF WITH MEEM WITH MEEM INITIAL FORM,@AIN WITH JEEM WITH MEEM INITIAL FORM,
  @SAD WITH MEEM WITH MEEM INITIAL FORM,AEEN WITH KHAH WITH YEH FINAL FORM,
  @NOON WITH JEEM WITH YEH FINAL FORM,!FDCF,@SALAAMUHU ALAYNAA,!FDF0,
  CLA USED AS KORANIC STOP SIGN ISOLATED FORM,@QALA USED AS KORANIC STOP SIGN ISOLATED FORM,
  @ALLAH ISOLATED FORM,AKBAR ISOLATED FORM,@MOHAMMAD ISOLATED FORM,@SALAM ISOLATED FORM,
  @RASOUL ISOLATED FORM,@ALAYHE ISOLATED FORM,@WASALLAM ISOLATED FORM,@SALLA ISOLATED FORM,
  ELLAHOU ALAYHE WASALLAM,@JALLAJALALOUHOU,0RIAL SIGN,
  0ARABIC LIGATURE BISMILLAH AR-RAHMAN AR-RAHEEM,@SUBHAANAHU WA TAAALAA,@AZZA WA JALL,
  0VARIATION SELECTOR-1,C2,C3,C4,C5,C6,C7,C8,C9,C10,D1,D2,D3,D4,D5,D6,
  0PRESENTATION FORM FOR VERTICAL COMMA,OIDEOGRAPHIC COMMA,[FULL STOP,OCOLON,OSEMICOLON,
  OEXCLAMATION MARK,OQUESTION MARK,OLEFT WHITE LENTICULAR BRACKET,ORIGHT WHITE LENTICULAR BRAKCET,
  OHORIZONTAL ELLIPSIS,!FE20,0COMBINING LIGATURE LEFT HALF,CRIGHT HALF,:DOUBLE TILDE LEFT HALF,
  GRIGHT HALF,:MACRON LEFT HALF,ARIGHT HALF,:CONJOINING MACRON,:LIGATURE LEFT HALF BELOW,
  CRIGHT HALF BELOW,:TILDE LEFT HALF BELOW,@RIGHT HALF BELOW,:MACRON LEFT HALF BELOW,
  ARIGHT HALF BELOW,:CONJOINING MACRON BELOW,;YRILLIC TITLO LEFT HALF,IRIGHT HALF,
  0PRESENTATION FORM FOR VERTICAL TWO DOT LEADER,OEM DASH,PN DASH,OLOW LINE,OWAVY LOW LINE,
  OLEFT PARENTHESIS,ORIGHT PARENTHESIS,OLEFT CURLY BRACKET,ORIGHT CURLY BRACKET,
  OLEFT TORTOISE SHELL BRACKET,ORIGHT TORTOISE SHELL BRACKET,OLEFT BLACK LENTICULAR BRACKET,
  ORIGHT BLACK LENTICULAR BRACKET,OLEFT DOUBLE ANGLE BRACKET,ORIGHT DOUBLE ANGLE BRACKET,
  OLEFT ANGLE BRACKET,ORIGHT ANGLE BRACKET,OLEFT CORNER BRACKET,ORIGHT CORNER BRACKET,
  OLEFT WHITE CORNER BRACKET,ORIGHT WHITE CORNER BRACKET,0SESAME DOT,0WHITE SESAME DOT,
  0PRESENTATION FORM FOR VERTICAL LEFT SQUARE BRACKET,ORIGHT SQUARE BRACKET,0DASHED OVERLINE,
  0CENTRELINE OVERLINE,0WAVY OVERLINE,0DOUBLE WAVY OVERLINE,1ASHED LOW LINE,0CENTRELINE LOW LINE,
  0WAVY LOW LINE,0SMALL COMMA,6IDEOGRAPHIC COMMA,6FULL STOP,!FE54,6SEMICOLON,6COLON,
  6QUESTION MARK,6EXCLAMATION MARK,7M DASH,6LEFT PARENTHESIS,6RIGHT PARENTHESIS,
  6LEFT CURLY BRACKET,6RIGHT CURLY BRACKET,6LEFT TORTOISE SHELL BRACKET,
  6RIGHT TORTOISE SHELL BRACKET,6NUMBER SIGN,6AMPERSAND,7STERISK,6PLUS SIGN,6HYPHEN-MINUS,
  6LESS-THAN SIGN,6GREATER-THAN SIGN,6EQUALS SIGN,!FE68,6REVERSE SOLIDUS,6DOLLAR SIGN,
  6PERCENT SIGN,6COMMERCIAL AT,!FE70,0ARABIC FATHATAN ISOLATED FORM,7TATWEEL WITH FATHATAN ABOVE,
  7DAMMATAN ISOLATED FORM,7TAIL FRAGMENT,7KASRATAN ISOLATED FORM,!FE76,7FATHA ISOLATED FORM,
  =MEDIAL FORM,7DAMMA ISOLATED FORM,=MEDIAL FORM,7KASRA ISOLATED FORM,=MEDIAL FORM,
  7SHADDA ISOLATED FORM,>MEDIAL FORM,8UKUN ISOLATED FORM,=MEDIAL FORM,7LETTER HAMZA ISOLATED FORM,
  >ALEF WITH MADDA ABOVE ISOLATED FORM,TFINAL FORM,HHAMZA ABOVE ISOLATED FORM,TFINAL FORM,
  >WAW WITH HAMZA ABOVE ISOLATED FORM,SFINAL FORM,>ALEF WITH HAMZA BELOW ISOLATED FORM,
  TFINAL FORM,>YEH WITH HAMZA ABOVE ISOLATED FORM,SFINAL FORM,SINITIAL FORM,SMEDIAL FORM,
  >ALEF ISOLATED FORM,CFINAL FORM,>BEH ISOLATED FORM,BFINAL FORM,BINITIAL FORM,BMEDIAL FORM,
  >TEH MARBUTA ISOLATED FORM,JFINAL FORM,BISOLATED FORM,BFINAL FORM,BINITIAL FORM,BMEDIAL FORM,
  ?HEH ISOLATED FORM,CFINAL FORM,CINITIAL FORM,CMEDIAL FORM,>JEEM ISOLATED FORM,CFINAL FORM,
  CINITIAL FORM,CMEDIAL FORM,>HAH ISOLATED FORM,BFINAL FORM,BINITIAL FORM,BMEDIAL FORM,
  >KHAH ISOLATED FORM,CFINAL FORM,CINITIAL FORM,CMEDIAL FORM,>DAL ISOLATED FORM,BFINAL FORM,
  >THAL ISOLATED FORM,CFINAL FORM,>REH ISOLATED FORM,BFINAL FORM,>ZAIN ISOLATED FORM,CFINAL FORM,
  >SEEN ISOLATED FORM,CFINAL FORM,CINITIAL FORM,CMEDIAL FORM,?HEEN ISOLATED FORM,DFINAL FORM,
  DINITIAL FORM,DMEDIAL FORM,?AD ISOLATED FORM,BFINAL FORM,BINITIAL FORM,BMEDIAL FORM,
  >DAD ISOLATED FORM,BFINAL FORM,BINITIAL FORM,BMEDIAL FORM,>TAH ISOLATED FORM,BFINAL FORM,
  BINITIAL FORM,BMEDIAL FORM,>ZAH ISOLATED FORM,BFINAL FORM,BINITIAL FORM,BMEDIAL FORM,
  >AIN ISOLATED FORM,BFINAL FORM,BINITIAL FORM,BMEDIAL FORM,>GHAIN ISOLATED FORM,DFINAL FORM,
  DINITIAL FORM,DMEDIAL FORM,>FEH ISOLATED FORM,BFINAL FORM,BINITIAL FORM,BMEDIAL FORM,
  >QAF ISOLATED FORM,BFINAL FORM,BINITIAL FORM,BMEDIAL FORM,>KAF ISOLATED FORM,BFINAL FORM,
  BINITIAL FORM,BMEDIAL FORM,>LAM ISOLATED FORM,BFINAL FORM,BINITIAL FORM,BMEDIAL FORM,
  >MEEM ISOLATED FORM,CFINAL FORM,CINITIAL FORM,CMEDIAL FORM,>NOON ISOLATED FORM,CFINAL FORM,
  CINITIAL FORM,CMEDIAL FORM,>HEH ISOLATED FORM,BFINAL FORM,BINITIAL FORM,BMEDIAL FORM,
  >WAW ISOLATED FORM,BFINAL FORM,>ALEF MAKSURA ISOLATED FORM,KFINAL FORM,>YEH ISOLATED FORM,
  BFINAL FORM,BINITIAL FORM,BMEDIAL FORM,8IGATURE LAM WITH ALEF WITH MADDA ABOVE ISOLATED FORM,
  [OVE FINAL FORM,SHAMZA ABOVE ISOLATED FORM,[OVE FINAL FORM,YBELOW ISOLATED FORM,[LOW FINAL FORM,
  NISOLATED FORM,NFINAL FORM,!FEFF,0ZERO WIDTH NO-BREAK SPACE,!FF01,0FULLWIDTH EXCLAMATION MARK,
  :QUOTATION MARK,:NUMBER SIGN,:DOLLAR SIGN,:PERCENT SIGN,:AMPERSAND,;POSTROPHE,:LEFT PARENTHESIS,
  :RIGHT PARENTHESIS,:ASTERISK,:PLUS SIGN,:COMMA,:HYPHEN-MINUS,:FULL STOP,:SOLIDUS,:DIGIT ZERO,
  @ONE,@TWO,AHREE,@FOUR,AIVE,@SIX,AEVEN,@EIGHT,@NINE,:COLON,:SEMICOLON,:LESS-THAN SIGN,
  :EQUALS SIGN,:GREATER-THAN SIGN,:QUESTION MARK,:COMMERCIAL AT,:LATIN CAPITAL LETTER A,OB,OC,OD,
  OE,OF,OG,OH,OI,OJ,OK,OL,OM,ON,OO,OP,OQ,OR,OS,OT,OU,OV,OW,OX,OY,OZ,;EFT SQUARE BRACKET,
  :REVERSE SOLIDUS,;IGHT SQUARE BRACKET,:CIRCUMFLEX ACCENT,:LOW LINE,:GRAVE ACCENT,
  :LATIN SMALL LETTER A,MB,MC,MD,ME,MF,MG,MH,MI,MJ,MK,ML,MM,MN,MO,MP,MQ,MR,MS,MT,MU,MV,MW,MX,MY,
  MZ,;EFT CURLY BRACKET,:VERTICAL LINE,:RIGHT CURLY BRACKET,:TILDE,:LEFT WHITE PARENTHESIS,
  :RIGHT WHITE PARENTHESIS,0HALFWIDTH IDEOGRAPHIC FULL STOP,:LEFT CORNER BRACKET,
  :RIGHT CORNER BRACKET,:IDEOGRAPHIC COMMA,:KATAKANA MIDDLE DOT,CLETTER WO,JSMALL A,PI,PU,PE,PO,
  PYA,QU,QO,PTU,B-HIRAGANA PROLONGED SOUND MARK,B LETTER A,JI,JU,JE,JO,JKA,KI,KU,KE,KO,JSA,KI,KU,
  KE,KO,JTA,KI,KU,KE,KO,JNA,KI,KU,KE,KO,JHA,KI,KU,KE,KO,JMA,KI,KU,KE,KO,JYA,KU,KO,JRA,KI,KU,KE,KO,
  JWA,JN,CVOICED SOUND MARK,CSEMI-VOICED SOUND MARK,:HANGUL FILLER,ALETTER KIYEOK,HSSANGKIYEOK,
  HKIYEOK-SIOS,HNIEUN,M-CIEUC,NHIEUH,HTIKEUT,HSSANGTIKEUT,HRIEUL,M-KIYEOK,NMIEUM,NPIEUP,NSIOS,
  NTHIEUTH,NPHIEUPH,NHIEUH,HMIEUM,HPIEUP,HSSANGPIEUP,HPIEUP-SIOS,HSIOS,ISANGSIOS,HIEUNG,HCIEUC,
  HSSANGCIEUC,HCHIEUCH,HKHIEUKH,HTHIEUTH,HPHIEUPH,HHIEUH,!FFC2,HA,IE,HYA,JE,HEO,I,!FFCA,HYEO,J,HO,
  HWA,JE,HOE,!FFD2,HYO,HU,HWEO,J,II,HYU,!FFDA,HEU,HYI,HI,!FFE0,0FULLWIDTH CENT SIGN,:POUND SIGN,
  :NOT SIGN,:MACRON,:BROKEN BAR,:YEN SIGN,:WON SIGN,!FFE8,0HALFWIDTH FORMS LIGHT VERTICAL,
  :LEFTWARDS ARROW,:UPWARDS ARROW,:RIGHTWARDS ARROW,:DOWNWARDS ARROW,:BLACK SQUARE,:WHITE CIRCLE,
  !FFF9,0INTERLINEAR ANNOTATION ANCHOR,GSEPARATOR,GTERMINATOR,0OBJECT REPLACEMENT CHARACTER,
  0REPLACEMENT CHARACTER"

end CharacterName
end Text
end QueryCriteria
