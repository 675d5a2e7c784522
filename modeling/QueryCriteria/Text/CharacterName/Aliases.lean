/-!
Further names of characters, mostly of control characters, which have no other ones.
The entries are written as those of the names proper.
-/
namespace QueryCriteria
namespace Text
namespace CharacterName

def aliases : String := "
  !0,0NUL,!0,3L,0SOH,!1,1TART OF HEADING,9TEXT,!2,2X,0END OF TEXT,!3,1TX,1ND OF TRANSMISSION,!4,
  1OT,1NQ,!5,3UIRY,0ACK,!6,3NOWLEDGE,1LERT,!7,0BEL,1ACKSPACE,!8,1S,0CHARACTER TABULATION,!9,
  0HORIZONTAL TABULATION,!9,1T,!9,0TAB,0END OF LINE,!A,1OL,!A,0LF,!A,1INE FEED,!A,0NEW LINE,!A,1L,
  0LINE TABULATION,!B,0VERTICAL TABULATION,!B,1T,0FF,!C,1ORM FEED,0CARRIAGE RETURN,!D,1R,
  0LOCKING-SHIFT ONE,!E,0SHIFT OUT,!E,1O,0LOCKING-SHIFT ZERO,!F,0SHIFT IN,!F,1I,0DATA LINK ESCAPE,
  !10,1LE,1C1,!11,1EVICE CONTROL ONE,1C2,!12,1EVICE CONTROL TWO,1C3,!13,1EVICE CONTROL THREE,1C4,
  !14,1EVICE CONTROL FOUR,0NAK,!15,1EGATIVE ACKNOWLEDGE,0SYN,!16,3CHRONOUS IDLE,
  0END OF TRANSMISSION BLOCK,!17,1TB,0CAN,!18,3CEL,0END OF MEDIUM,!19,1OM,0SUB,!1A,3STITUTE,0ESC,
  !1B,3APE,0FILE SEPARATOR,!1C,1S,!1C,0INFORMATION SEPARATOR FOUR,0GROUP SEPARATOR,!1D,1S,!1D,
  0INFORMATION SEPARATOR THREE,GWO,!1E,0RECORD SEPARATOR,!1E,1S,0INFORMATION SEPARATOR ONE,!1F,
  0UNIT SEPARATOR,!1F,1S,0SP,!7F,0DEL,!7F,3ETE,0PAD,!80,3DING CHARACTER,0HIGH OCTET PRESET,!81,
  1OP,0BPH,!82,1REAK PERMITTED HERE,0NBH,!83,1O BREAK HERE,0IND,!84,3EX,0NEL,!85,2XT LINE,0SSA,
  !86,1TART OF SELECTED AREA,0END OF SELECTED AREA,!87,1SA,0CHARACTER TABULATION SET,!88,
  0HORIZONTAL TABULATION SET,!88,1TS,0CHARACTER TABULATION WITH JUSTIFICATION,!89,
  0HORIZONTAL TABULATION WITH JUSTIFICATION,!89,1TJ,0LINE TABULATION SET,!8A,
  0VERTICAL TABULATION SET,!8A,1TS,0PARTIAL LINE DOWN,!8B,=FORWARD,!8B,1LD,1ARTIAL LINE BACKWARD,
  !8C,=UP,!8C,1LU,0REVERSE INDEX,!8D,8LINE FEED,!8D,1I,0SINGLE SHIFT TWO,!8E,6-SHIFT-2,!8E,1S2,
  1INGLE SHIFT THREE,!8F,6-SHIFT-3,!8F,1S3,0DCS,!90,1EVICE CONTROL STRING,0PRIVATE USE ONE,!91,
  ;-1,!91,1U1,1RIVATE USE TWO,!92,;-2,!92,1U2,0SET TRANSMIT STATE,!93,1TS,0CANCEL CHARACTER,!94,
  1CH,0MESSAGE WAITING,!95,1W,0SPA,!96,1TART OF GUARDED AREA,!96,9PROTECTED AREA,
  0END OF GUARDED AREA,!97,7PROTECTED AREA,!97,1PA,0SOS,!98,1TART OF STRING,1GC,!99,
  1INGLE GRAPHIC CHARACTER INTRODUCER,1CI,!9A,1INGLE CHARACTER INTRODUCER,
  0CONTROL SEQUENCE INTRODUCER,!9B,1SI,0ST,!9C,2RING TERMINATOR,0OPERATING SYSTEM COMMAND,!9D,1SC,
  0PM,!9E,1RIVACY MESSAGE,0APC,!9F,2PLICATION PROGRAM COMMAND,0NBSP,!AD,0SHY,!1A2,
  0LATIN CAPITAL LETTER GHA,6SMALL LETTER GHA,!34F,0CGJ,!61C,0ALM,!709,
  0SYRIAC SUBLINEAR COLON SKEWED LEFT,!CDE,0KANNADA LETTER LLLA,!E9D,0LAO LETTER FO FON,!E9F,?AY,
  !EA3,;RO,!EA5,;LO,!FD0,0TIBETAN MARK BKA- SHOG GI MGO RGYAN,!11EC,
  0HANGUL JONGSEONG YESIEUNG-KIYEOK,JSSANGKIYEOK,ASSANGYESIEUNG,AYESIEUNG-KHIEUKH,!180B,0FVS1,32,
  33,0MVS,0FVS4,!200B,0ZWSP,2NJ,2J,0LRM,0RLM,!202A,0LRE,0RLE,0PDF,0LRO,0RLO,0NNBSP,!205F,0MMSP,
  0WJ,!2066,0LRI,0RLI,0FSI,0PDI,!2118,0WEIERSTRASS ELLIPTIC FUNCTION,!2448,0MICR ON US SYMBOL,
  5DASH SYMBOL,!2B7A,0LEFTWARDS TRIANGLE-HEADED ARROW WITH DOUBLE VERTICAL STROKE,!2B7C,
  0RIGHTWARDS TRIANGLE-HEADED ARROW WITH DOUBLE VERTICAL STROKE,!A015,0YI SYLLABLE ITERATION MARK,
  !AA6E,0MYANMAR LETTER KHAMTI LLA,!FE00,0VS1,22,23,24,25,26,27,28,29,210,31,32,33,34,35,36,!FE18,
  0PRESENTATION FORM FOR VERTICAL RIGHT WHITE LENTICULAR BRACKET,!FEFF,0BOM,!FEFF,1YTE ORDER MARK,
  !FEFF,0ZWNBSP,!122D4,0CUNEIFORM SIGN NU11 TENU,DOVER NU11 BUR OVER BUR,!16E56,
  0MEDEFAIDRIN CAPITAL LETTER H,KNG,!16E76,<SMALL LETTER H,ING,!1B001,0HENTAIGANA LETTER E-1,
  !1D0C5,0BYZANTINE MUSICAL SYMBOL FTHORA SKLIRON CHROMA VASIS,!E0100,0VS17,38,39,220,31,32,33,34,
  35,36,37,38,39,230,31,32,33,34,35,36,37,38,39,240,31,32,33,34,35,36,37,38,39,250,31,32,33,34,35,
  36,37,38,39,260,31,32,33,34,35,36,37,38,39,270,31,32,33,34,35,36,37,38,39,280,31,32,33,34,35,36,
  37,38,39,290,31,32,33,34,35,36,37,38,39,2100,41,42,43,44,45,46,47,48,49,310,41,42,43,44,45,46,
  47,48,49,320,41,42,43,44,45,46,47,48,49,330,41,42,43,44,45,46,47,48,49,340,41,42,43,44,45,46,47,
  48,49,350,41,42,43,44,45,46,47,48,49,360,41,42,43,44,45,46,47,48,49,370,41,42,43,44,45,46,47,48,
  49,380,41,42,43,44,45,46,47,48,49,390,41,42,43,44,45,46,47,48,49,2200,41,42,43,44,45,46,47,48,
  49,310,41,42,43,44,45,46,47,48,49,320,41,42,43,44,45,46,47,48,49,330,41,42,43,44,45,46,47,48,49,
  340,41,42,43,44,45,46,47,48,49,350,41,42,43,44,45,46"

end CharacterName
end Text
end QueryCriteria
