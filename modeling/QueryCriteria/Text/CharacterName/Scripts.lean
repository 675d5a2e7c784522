/-!
Names of the characters below U+2000, which are those of most alphabets.  An entry is a
count of characters shared with the name before it and the rest of the name; an entry with
an exclamation mark gives the code point of the next name, and names without one follow
each other.
-/
namespace QueryCriteria
namespace Text
namespace CharacterName

def scripts : String := "
  !20,0SPACE,0EXCLAMATION MARK,0QUOTATION MARK,0NUMBER SIGN,0DOLLAR SIGN,0PERCENT SIGN,0AMPERSAND,
  1POSTROPHE,0LEFT PARENTHESIS,0RIGHT PARENTHESIS,0ASTERISK,0PLUS SIGN,0COMMA,0HYPHEN-MINUS,
  0FULL STOP,0SOLIDUS,0DIGIT ZERO,6ONE,6TWO,7HREE,6FOUR,7IVE,6SIX,7EVEN,6EIGHT,6NINE,0COLON,
  0SEMICOLON,0LESS-THAN SIGN,0EQUALS SIGN,0GREATER-THAN SIGN,0QUESTION MARK,0COMMERCIAL AT,
  0LATIN CAPITAL LETTER A,EB,EC,ED,EE,EF,EG,EH,EI,EJ,EK,EL,EM,EN,EO,EP,EQ,ER,ES,ET,EU,EV,EW,EX,EY,
  EZ,1EFT SQUARE BRACKET,0REVERSE SOLIDUS,1IGHT SQUARE BRACKET,0CIRCUMFLEX ACCENT,0LOW LINE,
  0GRAVE ACCENT,0LATIN SMALL LETTER A,CB,CC,CD,CE,CF,CG,CH,CI,CJ,CK,CL,CM,CN,CO,CP,CQ,CR,CS,CT,CU,
  CV,CW,CX,CY,CZ,1EFT CURLY BRACKET,0VERTICAL LINE,0RIGHT CURLY BRACKET,0TILDE,!A0,
  0NO-BREAK SPACE,0INVERTED EXCLAMATION MARK,0CENT SIGN,0POUND SIGN,0CURRENCY SIGN,0YEN SIGN,
  0BROKEN BAR,0SECTION SIGN,0DIAERESIS,0COPYRIGHT SIGN,0FEMININE ORDINAL INDICATOR,
  0LEFT-POINTING DOUBLE ANGLE QUOTATION MARK,0NOT SIGN,0SOFT HYPHEN,0REGISTERED SIGN,0MACRON,
  0DEGREE SIGN,0PLUS-MINUS SIGN,0SUPERSCRIPT TWO,=HREE,0ACUTE ACCENT,0MICRO SIGN,0PILCROW SIGN,
  0MIDDLE DOT,0CEDILLA,0SUPERSCRIPT ONE,0MASCULINE ORDINAL INDICATOR,
  0RIGHT-POINTING DOUBLE ANGLE QUOTATION MARK,0VULGAR FRACTION ONE QUARTER,DHALF,@THREE QUARTERS,
  0INVERTED QUESTION MARK,0LATIN CAPITAL LETTER A WITH GRAVE,LACUTE,LCIRCUMFLEX,LTILDE,LDIAERESIS,
  LRING ABOVE,FE,EC WITH CEDILLA,EE WITH GRAVE,LACUTE,LCIRCUMFLEX,LDIAERESIS,EI WITH GRAVE,LACUTE,
  LCIRCUMFLEX,LDIAERESIS,EETH,EN WITH TILDE,EO WITH GRAVE,LACUTE,LCIRCUMFLEX,LTILDE,LDIAERESIS,
  0MULTIPLICATION SIGN,0LATIN CAPITAL LETTER O WITH STROKE,EU WITH GRAVE,LACUTE,LCIRCUMFLEX,
  LDIAERESIS,EY WITH ACUTE,ETHORN,6SMALL LETTER SHARP S,CA WITH GRAVE,JACUTE,JCIRCUMFLEX,JTILDE,
  JDIAERESIS,JRING ABOVE,DE,CC WITH CEDILLA,CE WITH GRAVE,JACUTE,JCIRCUMFLEX,JDIAERESIS,
  CI WITH GRAVE,JACUTE,JCIRCUMFLEX,JDIAERESIS,CETH,CN WITH TILDE,CO WITH GRAVE,JACUTE,JCIRCUMFLEX,
  JTILDE,JDIAERESIS,0DIVISION SIGN,0LATIN SMALL LETTER O WITH STROKE,CU WITH GRAVE,JACUTE,
  JCIRCUMFLEX,JDIAERESIS,CY WITH ACUTE,CTHORN,CY WITH DIAERESIS,6CAPITAL LETTER A WITH MACRON,
  6SMALL LETTER A WITH MACRON,6CAPITAL LETTER A WITH BREVE,6SMALL LETTER A WITH BREVE,
  6CAPITAL LETTER A WITH OGONEK,6SMALL LETTER A WITH OGONEK,6CAPITAL LETTER C WITH ACUTE,
  6SMALL LETTER C WITH ACUTE,6CAPITAL LETTER C WITH CIRCUMFLEX,6SMALL LETTER C WITH CIRCUMFLEX,
  6CAPITAL LETTER C WITH DOT ABOVE,6SMALL LETTER C WITH DOT ABOVE,6CAPITAL LETTER C WITH CARON,
  6SMALL LETTER C WITH CARON,6CAPITAL LETTER D WITH CARON,6SMALL LETTER D WITH CARON,
  6CAPITAL LETTER D WITH STROKE,6SMALL LETTER D WITH STROKE,6CAPITAL LETTER E WITH MACRON,
  6SMALL LETTER E WITH MACRON,6CAPITAL LETTER E WITH BREVE,6SMALL LETTER E WITH BREVE,
  6CAPITAL LETTER E WITH DOT ABOVE,6SMALL LETTER E WITH DOT ABOVE,6CAPITAL LETTER E WITH OGONEK,
  6SMALL LETTER E WITH OGONEK,6CAPITAL LETTER E WITH CARON,6SMALL LETTER E WITH CARON,
  6CAPITAL LETTER G WITH CIRCUMFLEX,6SMALL LETTER G WITH CIRCUMFLEX,6CAPITAL LETTER G WITH BREVE,
  6SMALL LETTER G WITH BREVE,6CAPITAL LETTER G WITH DOT ABOVE,6SMALL LETTER G WITH DOT ABOVE,
  6CAPITAL LETTER G WITH CEDILLA,6SMALL LETTER G WITH CEDILLA,6CAPITAL LETTER H WITH CIRCUMFLEX,
  6SMALL LETTER H WITH CIRCUMFLEX,6CAPITAL LETTER H WITH STROKE,6SMALL LETTER H WITH STROKE,
  6CAPITAL LETTER I WITH TILDE,6SMALL LETTER I WITH TILDE,6CAPITAL LETTER I WITH MACRON,
  6SMALL LETTER I WITH MACRON,6CAPITAL LETTER I WITH BREVE,6SMALL LETTER I WITH BREVE,
  6CAPITAL LETTER I WITH OGONEK,6SMALL LETTER I WITH OGONEK,6CAPITAL LETTER I WITH DOT ABOVE,
  6SMALL LETTER DOTLESS I,6CAPITAL LIGATURE IJ,6SMALL LIGATURE IJ,
  6CAPITAL LETTER J WITH CIRCUMFLEX,6SMALL LETTER J WITH CIRCUMFLEX,
  6CAPITAL LETTER K WITH CEDILLA,6SMALL LETTER K WITH CEDILLA,DRA,6CAPITAL LETTER L WITH ACUTE,
  6SMALL LETTER L WITH ACUTE,6CAPITAL LETTER L WITH CEDILLA,6SMALL LETTER L WITH CEDILLA,
  6CAPITAL LETTER L WITH CARON,6SMALL LETTER L WITH CARON,6CAPITAL LETTER L WITH MIDDLE DOT,
  6SMALL LETTER L WITH MIDDLE DOT,6CAPITAL LETTER L WITH STROKE,6SMALL LETTER L WITH STROKE,
  6CAPITAL LETTER N WITH ACUTE,6SMALL LETTER N WITH ACUTE,6CAPITAL LETTER N WITH CEDILLA,
  6SMALL LETTER N WITH CEDILLA,6CAPITAL LETTER N WITH CARON,6SMALL LETTER N WITH CARON,
  EPRECEDED BY APOSTROPHE,6CAPITAL LETTER ENG,6SMALL LETTER ENG,6CAPITAL LETTER O WITH MACRON,
  6SMALL LETTER O WITH MACRON,6CAPITAL LETTER O WITH BREVE,6SMALL LETTER O WITH BREVE,
  6CAPITAL LETTER O WITH DOUBLE ACUTE,6SMALL LETTER O WITH DOUBLE ACUTE,6CAPITAL LIGATURE OE,
  6SMALL LIGATURE OE,6CAPITAL LETTER R WITH ACUTE,6SMALL LETTER R WITH ACUTE,
  6CAPITAL LETTER R WITH CEDILLA,6SMALL LETTER R WITH CEDILLA,6CAPITAL LETTER R WITH CARON,
  6SMALL LETTER R WITH CARON,6CAPITAL LETTER S WITH ACUTE,6SMALL LETTER S WITH ACUTE,
  6CAPITAL LETTER S WITH CIRCUMFLEX,6SMALL LETTER S WITH CIRCUMFLEX,
  6CAPITAL LETTER S WITH CEDILLA,6SMALL LETTER S WITH CEDILLA,6CAPITAL LETTER S WITH CARON,
  6SMALL LETTER S WITH CARON,6CAPITAL LETTER T WITH CEDILLA,6SMALL LETTER T WITH CEDILLA,
  6CAPITAL LETTER T WITH CARON,6SMALL LETTER T WITH CARON,6CAPITAL LETTER T WITH STROKE,
  6SMALL LETTER T WITH STROKE,6CAPITAL LETTER U WITH TILDE,6SMALL LETTER U WITH TILDE,
  6CAPITAL LETTER U WITH MACRON,6SMALL LETTER U WITH MACRON,6CAPITAL LETTER U WITH BREVE,
  6SMALL LETTER U WITH BREVE,6CAPITAL LETTER U WITH RING ABOVE,6SMALL LETTER U WITH RING ABOVE,
  6CAPITAL LETTER U WITH DOUBLE ACUTE,6SMALL LETTER U WITH DOUBLE ACUTE,
  6CAPITAL LETTER U WITH OGONEK,6SMALL LETTER U WITH OGONEK,6CAPITAL LETTER W WITH CIRCUMFLEX,
  6SMALL LETTER W WITH CIRCUMFLEX,6CAPITAL LETTER Y WITH CIRCUMFLEX,
  6SMALL LETTER Y WITH CIRCUMFLEX,6CAPITAL LETTER Y WITH DIAERESIS,EZ WITH ACUTE,
  6SMALL LETTER Z WITH ACUTE,6CAPITAL LETTER Z WITH DOT ABOVE,6SMALL LETTER Z WITH DOT ABOVE,
  6CAPITAL LETTER Z WITH CARON,6SMALL LETTER Z WITH CARON,CLONG S,CB WITH STROKE,
  6CAPITAL LETTER B WITH HOOK,LTOPBAR,6SMALL LETTER B WITH TOPBAR,6CAPITAL LETTER TONE SIX,
  6SMALL LETTER TONE SIX,6CAPITAL LETTER OPEN O,EC WITH HOOK,6SMALL LETTER C WITH HOOK,
  6CAPITAL LETTER AFRICAN D,ED WITH HOOK,LTOPBAR,6SMALL LETTER D WITH TOPBAR,CTURNED DELTA,
  6CAPITAL LETTER REVERSED E,ESCHWA,EOPEN E,EF WITH HOOK,6SMALL LETTER F WITH HOOK,
  6CAPITAL LETTER G WITH HOOK,FAMMA,6SMALL LETTER HV,6CAPITAL LETTER IOTA,F WITH STROKE,
  EK WITH HOOK,6SMALL LETTER K WITH HOOK,CL WITH BAR,DAMBDA WITH STROKE,6CAPITAL LETTER TURNED M,
  EN WITH LEFT HOOK,6SMALL LETTER N WITH LONG RIGHT LEG,6CAPITAL LETTER O WITH MIDDLE TILDE,LHORN,
  6SMALL LETTER O WITH HORN,6CAPITAL LETTER OI,6SMALL LETTER OI,6CAPITAL LETTER P WITH HOOK,
  6SMALL LETTER P WITH HOOK,6LETTER YR,6CAPITAL LETTER TONE TWO,6SMALL LETTER TONE TWO,
  6CAPITAL LETTER ESH,6LETTER REVERSED ESH LOOP,6SMALL LETTER T WITH PALATAL HOOK,
  6CAPITAL LETTER T WITH HOOK,6SMALL LETTER T WITH HOOK,6CAPITAL LETTER T WITH RETROFLEX HOOK,
  EU WITH HORN,6SMALL LETTER U WITH HORN,6CAPITAL LETTER UPSILON,EV WITH HOOK,EY WITH HOOK,
  6SMALL LETTER Y WITH HOOK,6CAPITAL LETTER Z WITH STROKE,6SMALL LETTER Z WITH STROKE,
  6CAPITAL LETTER EZH,H REVERSED,6SMALL LETTER EZH REVERSED,GWITH TAIL,6LETTER TWO WITH STROKE,
  6CAPITAL LETTER TONE FIVE,6SMALL LETTER TONE FIVE,6LETTER INVERTED GLOTTAL STOP WITH STROKE,
  =WYNN,=DENTAL CLICK,=LATERAL CLICK,=ALVEOLAR CLICK,=RETROFLEX CLICK,
  6CAPITAL LETTER DZ WITH CARON,F WITH SMALL LETTER Z WITH CARON,6SMALL LETTER DZ WITH CARON,
  6CAPITAL LETTER LJ,F WITH SMALL LETTER J,6SMALL LETTER LJ,6CAPITAL LETTER NJ,
  F WITH SMALL LETTER J,6SMALL LETTER NJ,6CAPITAL LETTER A WITH CARON,6SMALL LETTER A WITH CARON,
  6CAPITAL LETTER I WITH CARON,6SMALL LETTER I WITH CARON,6CAPITAL LETTER O WITH CARON,
  6SMALL LETTER O WITH CARON,6CAPITAL LETTER U WITH CARON,6SMALL LETTER U WITH CARON,
  6CAPITAL LETTER U WITH DIAERESIS AND MACRON,6SMALL LETTER U WITH DIAERESIS AND MACRON,
  6CAPITAL LETTER U WITH DIAERESIS AND ACUTE,6SMALL LETTER U WITH DIAERESIS AND ACUTE,
  6CAPITAL LETTER U WITH DIAERESIS AND CARON,6SMALL LETTER U WITH DIAERESIS AND CARON,
  6CAPITAL LETTER U WITH DIAERESIS AND GRAVE,6SMALL LETTER U WITH DIAERESIS AND GRAVE,CTURNED E,
  6CAPITAL LETTER A WITH DIAERESIS AND MACRON,6SMALL LETTER A WITH DIAERESIS AND MACRON,
  6CAPITAL LETTER A WITH DOT ABOVE AND MACRON,6SMALL LETTER A WITH DOT ABOVE AND MACRON,
  6CAPITAL LETTER AE WITH MACRON,6SMALL LETTER AE WITH MACRON,6CAPITAL LETTER G WITH STROKE,
  6SMALL LETTER G WITH STROKE,6CAPITAL LETTER G WITH CARON,6SMALL LETTER G WITH CARON,
  6CAPITAL LETTER K WITH CARON,6SMALL LETTER K WITH CARON,6CAPITAL LETTER O WITH OGONEK,
  6SMALL LETTER O WITH OGONEK,6CAPITAL LETTER O WITH OGONEK AND MACRON,
  6SMALL LETTER O WITH OGONEK AND MACRON,6CAPITAL LETTER EZH WITH CARON,
  6SMALL LETTER EZH WITH CARON,CJ WITH CARON,6CAPITAL LETTER DZ,F WITH SMALL LETTER Z,
  6SMALL LETTER DZ,6CAPITAL LETTER G WITH ACUTE,6SMALL LETTER G WITH ACUTE,6CAPITAL LETTER HWAIR,
  EWYNN,EN WITH GRAVE,6SMALL LETTER N WITH GRAVE,6CAPITAL LETTER A WITH RING ABOVE AND ACUTE,
  6SMALL LETTER A WITH RING ABOVE AND ACUTE,6CAPITAL LETTER AE WITH ACUTE,
  6SMALL LETTER AE WITH ACUTE,6CAPITAL LETTER O WITH STROKE AND ACUTE,
  6SMALL LETTER O WITH STROKE AND ACUTE,6CAPITAL LETTER A WITH DOUBLE GRAVE,
  6SMALL LETTER A WITH DOUBLE GRAVE,6CAPITAL LETTER A WITH INVERTED BREVE,
  6SMALL LETTER A WITH INVERTED BREVE,6CAPITAL LETTER E WITH DOUBLE GRAVE,
  6SMALL LETTER E WITH DOUBLE GRAVE,6CAPITAL LETTER E WITH INVERTED BREVE,
  6SMALL LETTER E WITH INVERTED BREVE,6CAPITAL LETTER I WITH DOUBLE GRAVE,
  6SMALL LETTER I WITH DOUBLE GRAVE,6CAPITAL LETTER I WITH INVERTED BREVE,
  6SMALL LETTER I WITH INVERTED BREVE,6CAPITAL LETTER O WITH DOUBLE GRAVE,
  6SMALL LETTER O WITH DOUBLE GRAVE,6CAPITAL LETTER O WITH INVERTED BREVE,
  6SMALL LETTER O WITH INVERTED BREVE,6CAPITAL LETTER R WITH DOUBLE GRAVE,
  6SMALL LETTER R WITH DOUBLE GRAVE,6CAPITAL LETTER R WITH INVERTED BREVE,
  6SMALL LETTER R WITH INVERTED BREVE,6CAPITAL LETTER U WITH DOUBLE GRAVE,
  6SMALL LETTER U WITH DOUBLE GRAVE,6CAPITAL LETTER U WITH INVERTED BREVE,
  6SMALL LETTER U WITH INVERTED BREVE,6CAPITAL LETTER S WITH COMMA BELOW,
  6SMALL LETTER S WITH COMMA BELOW,6CAPITAL LETTER T WITH COMMA BELOW,
  6SMALL LETTER T WITH COMMA BELOW,6CAPITAL LETTER YOGH,6SMALL LETTER YOGH,
  6CAPITAL LETTER H WITH CARON,6SMALL LETTER H WITH CARON,6CAPITAL LETTER N WITH LONG RIGHT LEG,
  6SMALL LETTER D WITH CURL,6CAPITAL LETTER OU,6SMALL LETTER OU,6CAPITAL LETTER Z WITH HOOK,
  6SMALL LETTER Z WITH HOOK,6CAPITAL LETTER A WITH DOT ABOVE,6SMALL LETTER A WITH DOT ABOVE,
  6CAPITAL LETTER E WITH CEDILLA,6SMALL LETTER E WITH CEDILLA,
  6CAPITAL LETTER O WITH DIAERESIS AND MACRON,6SMALL LETTER O WITH DIAERESIS AND MACRON,
  6CAPITAL LETTER O WITH TILDE AND MACRON,6SMALL LETTER O WITH TILDE AND MACRON,
  6CAPITAL LETTER O WITH DOT ABOVE,6SMALL LETTER O WITH DOT ABOVE,
  6CAPITAL LETTER O WITH DOT ABOVE AND MACRON,6SMALL LETTER O WITH DOT ABOVE AND MACRON,
  6CAPITAL LETTER Y WITH MACRON,6SMALL LETTER Y WITH MACRON,CL WITH CURL,CN WITH CURL,
  CT WITH CURL,CDOTLESS J,DB DIGRAPH,CQP DIGRAPH,6CAPITAL LETTER A WITH STROKE,EC WITH STROKE,
  6SMALL LETTER C WITH STROKE,6CAPITAL LETTER L WITH BAR,ET WITH DIAGONAL STROKE,
  6SMALL LETTER S WITH SWASH TAIL,CZ WITH SWASH TAIL,6CAPITAL LETTER GLOTTAL STOP,
  6SMALL LETTER GLOTTAL STOP,6CAPITAL LETTER B WITH STROKE,EU BAR,ETURNED V,EE WITH STROKE,
  6SMALL LETTER E WITH STROKE,6CAPITAL LETTER J WITH STROKE,6SMALL LETTER J WITH STROKE,
  6CAPITAL LETTER SMALL Q WITH HOOK TAIL,6SMALL LETTER Q WITH HOOK TAIL,
  6CAPITAL LETTER R WITH STROKE,6SMALL LETTER R WITH STROKE,6CAPITAL LETTER Y WITH STROKE,
  6SMALL LETTER Y WITH STROKE,CTURNED A,CALPHA,CTURNED ALPHA,CB WITH HOOK,COPEN O,CC WITH CURL,
  CD WITH TAIL,JHOOK,CREVERSED E,CSCHWA,H WITH HOOK,COPEN E,CREVERSED OPEN E,R WITH HOOK,
  CCLOSED REVERSED OPEN E,CDOTLESS J WITH STROKE,CG WITH HOOK,CSCRIPT G,6LETTER SMALL CAPITAL G,
  6SMALL LETTER GAMMA,CRAMS HORN,CTURNED H,CH WITH HOOK,DENG WITH HOOK,CI WITH STROKE,DOTA,
  6LETTER SMALL CAPITAL I,6SMALL LETTER L WITH MIDDLE TILDE,JBELT,JRETROFLEX HOOK,DEZH,CTURNED M,
  K WITH LONG LEG,CM WITH HOOK,CN WITH LEFT HOOK,JRETROFLEX HOOK,6LETTER SMALL CAPITAL N,
  6SMALL LETTER BARRED O,6LETTER SMALL CAPITAL OE,6SMALL LETTER CLOSED OMEGA,CPHI,CTURNED R,
  K WITH LONG LEG,QHOOK,CR WITH LONG LEG,JTAIL,JFISHHOOK,DEVERSED R WITH FISHHOOK,
  6LETTER SMALL CAPITAL R,KINVERTED R,6SMALL LETTER S WITH HOOK,CESH,
  CDOTLESS J WITH STROKE AND HOOK,CSQUAT REVERSED ESH,CESH WITH CURL,CTURNED T,
  D WITH RETROFLEX HOOK,CU BAR,DPSILON,CV WITH HOOK,CTURNED V,JW,JY,6LETTER SMALL CAPITAL Y,
  6SMALL LETTER Z WITH RETROFLEX HOOK,JCURL,CEZH,F WITH CURL,6LETTER GLOTTAL STOP,
  =PHARYNGEAL VOICED FRICATIVE,=INVERTED GLOTTAL STOP,=STRETCHED C,=BILABIAL CLICK,
  =SMALL CAPITAL B,6SMALL LETTER CLOSED OPEN E,6LETTER SMALL CAPITAL G WITH HOOK,KH,
  6SMALL LETTER J WITH CROSSED-TAIL,CTURNED K,6LETTER SMALL CAPITAL L,6SMALL LETTER Q WITH HOOK,
  6LETTER GLOTTAL STOP WITH STROKE,=REVERSED GLOTTAL STOP WITH STROKE,6SMALL LETTER DZ DIGRAPH,
  DEZH DIGRAPH,DZ DIGRAPH WITH CURL,CTS DIGRAPH,DESH DIGRAPH,DC DIGRAPH WITH CURL,CFENG DIGRAPH,
  CLS DIGRAPH,DZ DIGRAPH,6LETTER BILABIAL PERCUSSIVE,?DENTAL PERCUSSIVE,
  6SMALL LETTER TURNED H WITH FISHHOOK,Y AND TAIL,0MODIFIER LETTER SMALL H,G WITH HOOK,FJ,FR,
  FTURNED R,N WITH HOOK,FCAPITAL INVERTED R,FW,FY,@PRIME,@DOUBLE PRIME,@TURNED COMMA,@APOSTROPHE,
  @REVERSED COMMA,AIGHT HALF RING,@LEFT HALF RING,@GLOTTAL STOP,@REVERSED GLOTTAL STOP,
  @LEFT ARROWHEAD,@RIGHT ARROWHEAD,@UP ARROWHEAD,@DOWN ARROWHEAD,@CIRCUMFLEX ACCENT,0CARON,
  0MODIFIER LETTER VERTICAL LINE,@MACRON,@ACUTE ACCENT,@GRAVE ACCENT,@LOW VERTICAL LINE,DMACRON,
  DGRAVE ACCENT,DACUTE ACCENT,@TRIANGULAR COLON,@HALF TRIANGULAR COLON,@CENTRED RIGHT HALF RING,
  HLEFT HALF RING,@UP TACK,@DOWN TACK,@PLUS SIGN,@MINUS SIGN,0BREVE,0DOT ABOVE,0RING ABOVE,
  0OGONEK,0SMALL TILDE,0DOUBLE ACUTE ACCENT,0MODIFIER LETTER RHOTIC HOOK,@CROSS ACCENT,
  @SMALL GAMMA,FL,FS,FX,FREVERSED GLOTTAL STOP,@EXTRA-HIGH TONE BAR,@HIGH TONE BAR,@MID TONE BAR,
  @LOW TONE BAR,@EXTRA-LOW TONE BAR,@YIN DEPARTING TONE MARK,AANG DEPARTING TONE MARK,@VOICING,
  @UNASPIRATED,@DOUBLE APOSTROPHE,@LOW DOWN ARROWHEAD,DUP ARROWHEAD,DLEFT ARROWHEAD,
  DRIGHT ARROWHEAD,FNG,@MIDDLE GRAVE ACCENT,GDOUBLE GRAVE ACCENT,NACUTE ACCENT,@LOW TILDE,
  @RAISED COLON,@BEGIN HIGH TONE,@END HIGH TONE,@BEGIN LOW TONE,@END LOW TONE,@SHELF,@OPEN SHELF,
  @LOW LEFT ARROW,0COMBINING GRAVE ACCENT,:ACUTE ACCENT,:CIRCUMFLEX ACCENT,:TILDE,:MACRON,
  :OVERLINE,:BREVE,:DOT ABOVE,;IAERESIS,:HOOK ABOVE,:RING ABOVE,:DOUBLE ACUTE ACCENT,:CARON,
  :VERTICAL LINE ABOVE,:DOUBLE VERTICAL LINE ABOVE,AGRAVE ACCENT,:CANDRABINDU,:INVERTED BREVE,
  :TURNED COMMA ABOVE,:COMMA ABOVE,:REVERSED COMMA ABOVE,:COMMA ABOVE RIGHT,:GRAVE ACCENT BELOW,
  :ACUTE ACCENT BELOW,:LEFT TACK BELOW,:RIGHT TACK BELOW,:LEFT ANGLE ABOVE,:HORN,
  :LEFT HALF RING BELOW,:UP TACK BELOW,:DOWN TACK BELOW,:PLUS SIGN BELOW,:MINUS SIGN BELOW,
  :PALATALIZED HOOK BELOW,:RETROFLEX HOOK BELOW,:DOT BELOW,;IAERESIS BELOW,:RING BELOW,
  :COMMA BELOW,;EDILLA,:OGONEK,:VERTICAL LINE BELOW,:BRIDGE BELOW,:INVERTED DOUBLE ARCH BELOW,
  :CARON BELOW,;IRCUMFLEX ACCENT BELOW,:BREVE BELOW,:INVERTED BREVE BELOW,:TILDE BELOW,
  :MACRON BELOW,:LOW LINE,:DOUBLE LOW LINE,:TILDE OVERLAY,:SHORT STROKE OVERLAY,
  :LONG STROKE OVERLAY,:SHORT SOLIDUS OVERLAY,:LONG SOLIDUS OVERLAY,:RIGHT HALF RING BELOW,
  :INVERTED BRIDGE BELOW,:SQUARE BELOW,;EAGULL BELOW,:X ABOVE,:VERTICAL TILDE,:DOUBLE OVERLINE,
  :GRAVE TONE MARK,:ACUTE TONE MARK,:GREEK PERISPOMENI,@KORONIS,@DIALYTIKA TONOS,@YPOGEGRAMMENI,
  :BRIDGE ABOVE,:EQUALS SIGN BELOW,:DOUBLE VERTICAL LINE BELOW,:LEFT ANGLE BELOW,:NOT TILDE ABOVE,
  :HOMOTHETIC ABOVE,:ALMOST EQUAL TO ABOVE,:LEFT RIGHT ARROW BELOW,:UPWARDS ARROW BELOW,
  :GRAPHEME JOINER,:RIGHT ARROWHEAD ABOVE,:LEFT HALF RING ABOVE,:FERMATA,:X BELOW,
  :LEFT ARROWHEAD BELOW,:RIGHT ARROWHEAD BELOW,JAND UP ARROWHEAD BELOW,@HALF RING ABOVE,
  :DOT ABOVE RIGHT,:ASTERISK BELOW,:DOUBLE RING BELOW,:ZIGZAG ABOVE,:DOUBLE BREVE BELOW,F,AMACRON,
  G BELOW,ATILDE,AINVERTED BREVE,ARIGHTWARDS ARROW BELOW,:LATIN SMALL LETTER A,ME,MI,MO,MU,MC,MD,
  MH,MM,MR,MT,MV,MX,0GREEK CAPITAL LETTER HETA,6SMALL LETTER HETA,6CAPITAL LETTER ARCHAIC SAMPI,
  6SMALL LETTER ARCHAIC SAMPI,6NUMERAL SIGN,6LOWER NUMERAL SIGN,
  6CAPITAL LETTER PAMPHYLIAN DIGAMMA,6SMALL LETTER PAMPHYLIAN DIGAMMA,!37A,6YPOGEGRAMMENI,
  6SMALL REVERSED LUNATE SIGMA SYMBOL,<DOTTED LUNATE SIGMA SYMBOL,
  <REVERSED DOTTED LUNATE SIGMA SYMBOL,6QUESTION MARK,6CAPITAL LETTER YOT,!384,6TONOS,
  6DIALYTIKA TONOS,6CAPITAL LETTER ALPHA WITH TONOS,6ANO TELEIA,
  6CAPITAL LETTER EPSILON WITH TONOS,FTA WITH TONOS,EIOTA WITH TONOS,!38C,EOMICRON WITH TONOS,
  !38E,EUPSILON WITH TONOS,EOMEGA WITH TONOS,6SMALL LETTER IOTA WITH DIALYTIKA AND TONOS,
  6CAPITAL LETTER ALPHA,EBETA,EGAMMA,EDELTA,EEPSILON,EZETA,EETA,ETHETA,EIOTA,EKAPPA,ELAMDA,EMU,
  ENU,EXI,EOMICRON,EPI,ERHO,!3A3,ESIGMA,ETAU,EUPSILON,EPHI,ECHI,EPSI,EOMEGA,EIOTA WITH DIALYTIKA,
  EUPSILON WITH DIALYTIKA,6SMALL LETTER ALPHA WITH TONOS,CEPSILON WITH TONOS,DTA WITH TONOS,
  CIOTA WITH TONOS,CUPSILON WITH DIALYTIKA AND TONOS,CALPHA,CBETA,CGAMMA,CDELTA,CEPSILON,CZETA,
  CETA,CTHETA,CIOTA,CKAPPA,CLAMDA,CMU,CNU,CXI,COMICRON,CPI,CRHO,CFINAL SIGMA,CSIGMA,CTAU,CUPSILON,
  CPHI,CCHI,CPSI,COMEGA,CIOTA WITH DIALYTIKA,CUPSILON WITH DIALYTIKA,COMICRON WITH TONOS,
  CUPSILON WITH TONOS,COMEGA WITH TONOS,6CAPITAL KAI SYMBOL,6BETA SYMBOL,6THETA SYMBOL,
  6UPSILON WITH HOOK SYMBOL,CACUTE AND HOOK SYMBOL,CDIAERESIS AND HOOK SYMBOL,6PHI SYMBOL,
  7I SYMBOL,6KAI SYMBOL,6LETTER ARCHAIC KOPPA,6SMALL LETTER ARCHAIC KOPPA,6LETTER STIGMA,
  6SMALL LETTER STIGMA,6LETTER DIGAMMA,6SMALL LETTER DIGAMMA,6LETTER KOPPA,6SMALL LETTER KOPPA,
  6LETTER SAMPI,6SMALL LETTER SAMPI,0COPTIC CAPITAL LETTER SHEI,7SMALL LETTER SHEI,
  7CAPITAL LETTER FEI,7SMALL LETTER FEI,7CAPITAL LETTER KHEI,7SMALL LETTER KHEI,
  7CAPITAL LETTER HORI,7SMALL LETTER HORI,7CAPITAL LETTER GANGIA,7SMALL LETTER GANGIA,
  7CAPITAL LETTER SHIMA,7SMALL LETTER SHIMA,7CAPITAL LETTER DEI,7SMALL LETTER DEI,
  0GREEK KAPPA SYMBOL,6RHO SYMBOL,6LUNATE SIGMA SYMBOL,7ETTER YOT,6CAPITAL THETA SYMBOL,
  6LUNATE EPSILON SYMBOL,6REVERSED LUNATE EPSILON SYMBOL,6CAPITAL LETTER SHO,6SMALL LETTER SHO,
  6CAPITAL LUNATE SIGMA SYMBOL,?ETTER SAN,6SMALL LETTER SAN,6RHO WITH STROKE SYMBOL,
  6CAPITAL REVERSED LUNATE SIGMA SYMBOL,>DOTTED LUNATE SIGMA SYMBOL,
  >REVERSED DOTTED LUNATE SIGMA SYMBOL,0CYRILLIC CAPITAL LETTER IE WITH GRAVE,IO,HDJE,HGJE,
  HUKRAINIAN IE,HDZE,HBYELORUSSIAN-UKRAINIAN I,HYI,HJE,HLJE,HNJE,HTSHE,HKJE,HI WITH GRAVE,
  HSHORT U,HDZHE,HA,HBE,HVE,HGHE,HDE,HIE,HZHE,IE,HI,HSHORT I,HKA,HEL,IM,IN,HO,HPE,HER,IS,HTE,HU,
  HEF,HHA,HTSE,HCHE,HSHA,JCHA,HHARD SIGN,HYERU,HSOFT SIGN,HE,HYU,IA,9SMALL LETTER A,FBE,FVE,FGHE,
  FDE,FIE,FZHE,GE,FI,FSHORT I,FKA,FEL,GM,GN,FO,FPE,FER,GS,FTE,FU,FEF,FHA,FTSE,FCHE,FSHA,HCHA,
  FHARD SIGN,FYERU,FSOFT SIGN,FE,FYU,GA,FIE WITH GRAVE,GO,FDJE,FGJE,FUKRAINIAN IE,FDZE,
  FBYELORUSSIAN-UKRAINIAN I,FYI,FJE,FLJE,FNJE,FTSHE,FKJE,FI WITH GRAVE,FSHORT U,FDZHE,
  9CAPITAL LETTER OMEGA,9SMALL LETTER OMEGA,9CAPITAL LETTER YAT,9SMALL LETTER YAT,
  9CAPITAL LETTER IOTIFIED E,9SMALL LETTER IOTIFIED E,9CAPITAL LETTER LITTLE YUS,
  9SMALL LETTER LITTLE YUS,9CAPITAL LETTER IOTIFIED LITTLE YUS,9SMALL LETTER IOTIFIED LITTLE YUS,
  9CAPITAL LETTER BIG YUS,9SMALL LETTER BIG YUS,9CAPITAL LETTER IOTIFIED BIG YUS,
  9SMALL LETTER IOTIFIED BIG YUS,9CAPITAL LETTER KSI,9SMALL LETTER KSI,9CAPITAL LETTER PSI,
  9SMALL LETTER PSI,9CAPITAL LETTER FITA,9SMALL LETTER FITA,9CAPITAL LETTER IZHITSA,
  9SMALL LETTER IZHITSA,9CAPITAL LETTER IZHITSA WITH DOUBLE GRAVE ACCENT,
  9SMALL LETTER IZHITSA WITH DOUBLE GRAVE ACCENT,9CAPITAL LETTER UK,9SMALL LETTER UK,
  9CAPITAL LETTER ROUND OMEGA,9SMALL LETTER ROUND OMEGA,9CAPITAL LETTER OMEGA WITH TITLO,
  9SMALL LETTER OMEGA WITH TITLO,9CAPITAL LETTER OT,9SMALL LETTER OT,9CAPITAL LETTER KOPPA,
  9SMALL LETTER KOPPA,9THOUSANDS SIGN,1OMBINING CYRILLIC TITLO,CPALATALIZATION,CDASIA PNEUMATA,
  CPSILI PNEUMATA,DOKRYTIE,CHUNDRED THOUSANDS SIGN,CMILLIONS SIGN,
  1YRILLIC CAPITAL LETTER SHORT I WITH TAIL,9SMALL LETTER SHORT I WITH TAIL,
  9CAPITAL LETTER SEMISOFT SIGN,9SMALL LETTER SEMISOFT SIGN,9CAPITAL LETTER ER WITH TICK,
  9SMALL LETTER ER WITH TICK,9CAPITAL LETTER GHE WITH UPTURN,9SMALL LETTER GHE WITH UPTURN,
  9CAPITAL LETTER GHE WITH STROKE,9SMALL LETTER GHE WITH STROKE,
  9CAPITAL LETTER GHE WITH MIDDLE HOOK,9SMALL LETTER GHE WITH MIDDLE HOOK,
  9CAPITAL LETTER ZHE WITH DESCENDER,9SMALL LETTER ZHE WITH DESCENDER,
  9CAPITAL LETTER ZE WITH DESCENDER,9SMALL LETTER ZE WITH DESCENDER,
  9CAPITAL LETTER KA WITH DESCENDER,9SMALL LETTER KA WITH DESCENDER,
  9CAPITAL LETTER KA WITH VERTICAL STROKE,9SMALL LETTER KA WITH VERTICAL STROKE,
  9CAPITAL LETTER KA WITH STROKE,9SMALL LETTER KA WITH STROKE,9CAPITAL LETTER BASHKIR KA,
  9SMALL LETTER BASHKIR KA,9CAPITAL LETTER EN WITH DESCENDER,9SMALL LETTER EN WITH DESCENDER,
  9CAPITAL LIGATURE EN GHE,9SMALL LIGATURE EN GHE,9CAPITAL LETTER PE WITH MIDDLE HOOK,
  9SMALL LETTER PE WITH MIDDLE HOOK,9CAPITAL LETTER ABKHASIAN HA,9SMALL LETTER ABKHASIAN HA,
  9CAPITAL LETTER ES WITH DESCENDER,9SMALL LETTER ES WITH DESCENDER,
  9CAPITAL LETTER TE WITH DESCENDER,9SMALL LETTER TE WITH DESCENDER,9CAPITAL LETTER STRAIGHT U,
  9SMALL LETTER STRAIGHT U,9CAPITAL LETTER STRAIGHT U WITH STROKE,
  9SMALL LETTER STRAIGHT U WITH STROKE,9CAPITAL LETTER HA WITH DESCENDER,
  9SMALL LETTER HA WITH DESCENDER,9CAPITAL LIGATURE TE TSE,9SMALL LIGATURE TE TSE,
  9CAPITAL LETTER CHE WITH DESCENDER,9SMALL LETTER CHE WITH DESCENDER,
  9CAPITAL LETTER CHE WITH VERTICAL STROKE,9SMALL LETTER CHE WITH VERTICAL STROKE,
  9CAPITAL LETTER SHHA,9SMALL LETTER SHHA,9CAPITAL LETTER ABKHASIAN CHE,
  9SMALL LETTER ABKHASIAN CHE,9CAPITAL LETTER ABKHASIAN CHE WITH DESCENDER,
  9SMALL LETTER ABKHASIAN CHE WITH DESCENDER,9LETTER PALOCHKA,9CAPITAL LETTER ZHE WITH BREVE,
  9SMALL LETTER ZHE WITH BREVE,9CAPITAL LETTER KA WITH HOOK,9SMALL LETTER KA WITH HOOK,
  9CAPITAL LETTER EL WITH TAIL,9SMALL LETTER EL WITH TAIL,9CAPITAL LETTER EN WITH HOOK,
  9SMALL LETTER EN WITH HOOK,9CAPITAL LETTER EN WITH TAIL,9SMALL LETTER EN WITH TAIL,
  9CAPITAL LETTER KHAKASSIAN CHE,9SMALL LETTER KHAKASSIAN CHE,9CAPITAL LETTER EM WITH TAIL,
  9SMALL LETTER EM WITH TAIL,FPALOCHKA,9CAPITAL LETTER A WITH BREVE,9SMALL LETTER A WITH BREVE,
  9CAPITAL LETTER A WITH DIAERESIS,9SMALL LETTER A WITH DIAERESIS,9CAPITAL LIGATURE A IE,
  9SMALL LIGATURE A IE,9CAPITAL LETTER IE WITH BREVE,9SMALL LETTER IE WITH BREVE,
  9CAPITAL LETTER SCHWA,9SMALL LETTER SCHWA,9CAPITAL LETTER SCHWA WITH DIAERESIS,
  9SMALL LETTER SCHWA WITH DIAERESIS,9CAPITAL LETTER ZHE WITH DIAERESIS,
  9SMALL LETTER ZHE WITH DIAERESIS,9CAPITAL LETTER ZE WITH DIAERESIS,
  9SMALL LETTER ZE WITH DIAERESIS,9CAPITAL LETTER ABKHASIAN DZE,9SMALL LETTER ABKHASIAN DZE,
  9CAPITAL LETTER I WITH MACRON,9SMALL LETTER I WITH MACRON,9CAPITAL LETTER I WITH DIAERESIS,
  9SMALL LETTER I WITH DIAERESIS,9CAPITAL LETTER O WITH DIAERESIS,9SMALL LETTER O WITH DIAERESIS,
  9CAPITAL LETTER BARRED O,9SMALL LETTER BARRED O,9CAPITAL LETTER BARRED O WITH DIAERESIS,
  9SMALL LETTER BARRED O WITH DIAERESIS,9CAPITAL LETTER E WITH DIAERESIS,
  9SMALL LETTER E WITH DIAERESIS,9CAPITAL LETTER U WITH MACRON,9SMALL LETTER U WITH MACRON,
  9CAPITAL LETTER U WITH DIAERESIS,9SMALL LETTER U WITH DIAERESIS,
  9CAPITAL LETTER U WITH DOUBLE ACUTE,9SMALL LETTER U WITH DOUBLE ACUTE,
  9CAPITAL LETTER CHE WITH DIAERESIS,9SMALL LETTER CHE WITH DIAERESIS,
  9CAPITAL LETTER GHE WITH DESCENDER,9SMALL LETTER GHE WITH DESCENDER,
  9CAPITAL LETTER YERU WITH DIAERESIS,9SMALL LETTER YERU WITH DIAERESIS,
  9CAPITAL LETTER GHE WITH STROKE AND HOOK,9SMALL LETTER GHE WITH STROKE AND HOOK,
  9CAPITAL LETTER HA WITH HOOK,9SMALL LETTER HA WITH HOOK,9CAPITAL LETTER HA WITH STROKE,
  9SMALL LETTER HA WITH STROKE,9CAPITAL LETTER KOMI DE,9SMALL LETTER KOMI DE,
  9CAPITAL LETTER KOMI DJE,9SMALL LETTER KOMI DJE,9CAPITAL LETTER KOMI ZJE,9SMALL LETTER KOMI ZJE,
  9CAPITAL LETTER KOMI DZJE,9SMALL LETTER KOMI DZJE,9CAPITAL LETTER KOMI LJE,
  9SMALL LETTER KOMI LJE,9CAPITAL LETTER KOMI NJE,9SMALL LETTER KOMI NJE,9CAPITAL LETTER KOMI SJE,
  9SMALL LETTER KOMI SJE,9CAPITAL LETTER KOMI TJE,9SMALL LETTER KOMI TJE,
  9CAPITAL LETTER REVERSED ZE,9SMALL LETTER REVERSED ZE,9CAPITAL LETTER EL WITH HOOK,
  9SMALL LETTER EL WITH HOOK,9CAPITAL LETTER LHA,9SMALL LETTER LHA,9CAPITAL LETTER RHA,
  9SMALL LETTER RHA,9CAPITAL LETTER YAE,9SMALL LETTER YAE,9CAPITAL LETTER QA,9SMALL LETTER QA,
  9CAPITAL LETTER WE,9SMALL LETTER WE,9CAPITAL LETTER ALEUT KA,9SMALL LETTER ALEUT KA,
  9CAPITAL LETTER EL WITH MIDDLE HOOK,9SMALL LETTER EL WITH MIDDLE HOOK,
  9CAPITAL LETTER EN WITH MIDDLE HOOK,9SMALL LETTER EN WITH MIDDLE HOOK,
  9CAPITAL LETTER PE WITH DESCENDER,9SMALL LETTER PE WITH DESCENDER,
  9CAPITAL LETTER SHHA WITH DESCENDER,9SMALL LETTER SHHA WITH DESCENDER,
  9CAPITAL LETTER EN WITH LEFT HOOK,9SMALL LETTER EN WITH LEFT HOOK,9CAPITAL LETTER DZZHE,
  9SMALL LETTER DZZHE,9CAPITAL LETTER DCHE,9SMALL LETTER DCHE,9CAPITAL LETTER EL WITH DESCENDER,
  9SMALL LETTER EL WITH DESCENDER,!531,0ARMENIAN CAPITAL LETTER AYB,HBEN,HGIM,HDA,HECH,HZA,HEH,IT,
  HTO,HZHE,HINI,HLIWN,HXEH,HCA,HKEN,HHO,HJA,HGHAD,HCHEH,HMEN,HYI,HNOW,HSHA,HVO,HCHA,HPEH,HJHEH,
  HRA,HSEH,HVEW,HTIWN,HREH,HCO,HYIWN,HPIWR,HKEH,HOH,HFEH,!559,9MODIFIER LETTER LEFT HALF RING,
  9APOSTROPHE,9EMPHASIS MARK,:XCLAMATION MARK,9COMMA,9QUESTION MARK,9ABBREVIATION MARK,
  9SMALL LETTER TURNED AYB,FAYB,FBEN,FGIM,FDA,FECH,FZA,FEH,GT,FTO,FZHE,FINI,FLIWN,FXEH,FCA,FKEN,
  FHO,FJA,FGHAD,FCHEH,FMEN,FYI,FNOW,FSHA,FVO,FCHA,FPEH,FJHEH,FRA,FSEH,FVEW,FTIWN,FREH,FCO,FYIWN,
  FPIWR,FKEH,FOH,FFEH,@IGATURE ECH YIWN,@ETTER YI WITH STROKE,9FULL STOP,9HYPHEN,!58D,
  0RIGHT-FACING ARMENIAN ETERNITY SIGN,0LEFT-FACING ARMENIAN ETERNITY SIGN,0ARMENIAN DRAM SIGN,
  !591,0HEBREW ACCENT ETNAHTA,>SEGOL,?HALSHELET,>ZAQEF QATAN,DGADOL,>TIPEHA,>REVIA,>ZARQA,>PASHTA,
  >YETIV,>TEVIR,>GERESH,D MUQDAM,ASHAYIM,>QARNEY PARA,>TELISHA GEDOLA,>PAZER,>ATNAH HAFUKH,>MUNAH,
  ?AHAPAKH,?ERKHA,D KEFULA,>DARGA,>QADMA,>TELISHA QETANA,>YERAH BEN YOMO,>OLE,>ILUY,>DEHI,>ZINOR,
  7MARK MASORA CIRCLE,7POINT SHEVA,=HATAF SEGOL,CPATAH,CQAMATS,>IRIQ,=TSERE,=SEGOL,=PATAH,=QAMATS,
  =HOLAM,B HASER FOR VAV,=QUBUTS,=DAGESH OR MAPIQ,=METEG,8UNCTUATION MAQAF,8OINT RAFE,
  8UNCTUATION PASEQ,8OINT SHIN DOT,>IN DOT,8UNCTUATION SOF PASUQ,7MARK UPPER DOT,<LOWER DOT,
  7PUNCTUATION NUN HAFUKHA,8OINT QAMATS QATAN,!5D0,7LETTER ALEF,>BET,>GIMEL,>DALET,>HE,>VAV,
  >ZAYIN,>HET,>TET,>YOD,>FINAL KAF,>KAF,>LAMED,>FINAL MEM,>MEM,>FINAL NUN,>NUN,>SAMEKH,>AYIN,
  >FINAL PE,>PE,>FINAL TSADI,>TSADI,>QOF,>RESH,>SHIN,>TAV,!5EF,7YOD TRIANGLE,
  7LIGATURE YIDDISH DOUBLE VAV,HVAV YOD,HDOUBLE YOD,7PUNCTUATION GERESH,FSHAYIM,!600,
  0ARABIC NUMBER SIGN,7SIGN SANAH,7FOOTNOTE MARKER,7SIGN SAFHA,>MVAT,7NUMBER MARK ABOVE,
  6-INDIC CUBE ROOT,=FOURTH ROOT,6 RAY,6-INDIC PER MILLE SIGN,ATEN THOUSAND SIGN,1FGHANI SIGN,
  1RABIC COMMA,7DATE SEPARATOR,7POETIC VERSE SIGN,7SIGN MISRA,<SALLALLAHOU ALAYHE WASSALLAM,
  <ALAYHE ASSALLAM,<RAHMATULLAH ALAYHE,>DI ALLAHOU ANHU,<TAKHALLUS,8MALL HIGH TAH,
  BLIGATURE ALEF WITH LAM WITH YEH,BZAIN,=FATHA,=DAMMA,=KASRA,8EMICOLON,7LETTER MARK,
  7END OF TEXT MARK,7TRIPLE DOT PUNCTUATION MARK,7QUESTION MARK,7LETTER KASHMIRI YEH,>HAMZA,
  >ALEF WITH MADDA ABOVE,HHAMZA ABOVE,>WAW WITH HAMZA ABOVE,>ALEF WITH HAMZA BELOW,
  >YEH WITH HAMZA ABOVE,>ALEF,>BEH,>TEH MARBUTA,A,?HEH,>JEEM,>HAH,>KHAH,>DAL,>THAL,>REH,>ZAIN,
  >SEEN,?HEEN,?AD,>DAD,>TAH,>ZAH,>AIN,>GHAIN,>KEHEH WITH TWO DOTS ABOVE,JHREE DOTS BELOW,
  >FARSI YEH WITH INVERTED V,MTWO DOTS ABOVE,NHREE DOTS ABOVE,7TATWEEL,7LETTER FEH,>QAF,>KAF,>LAM,
  >MEEM,>NOON,>HEH,>WAW,>ALEF MAKSURA,>YEH,7FATHATAN,7DAMMATAN,7KASRATAN,7FATHA,7DAMMA,7KASRA,
  7SHADDA,8UKUN,7MADDAH ABOVE,7HAMZA ABOVE,=BELOW,7SUBSCRIPT ALEF,7INVERTED DAMMA,
  7MARK NOON GHUNNA,7ZWARAKAY,7VOWEL SIGN SMALL V ABOVE,BINVERTED SMALL V ABOVE,BDOT BELOW,
  7REVERSED DAMMA,7FATHA WITH TWO DOTS,7WAVY HAMZA BELOW,6-INDIC DIGIT ZERO,CONE,CTWO,DHREE,CFOUR,
  DIVE,CSIX,DEVEN,CEIGHT,CNINE,6 PERCENT SIGN,7DECIMAL SEPARATOR,7THOUSANDS SEPARATOR,
  7FIVE POINTED STAR,7LETTER DOTLESS BEH,FQAF,>SUPERSCRIPT ALEF,>ALEF WASLA,DITH WAVY HAMZA ABOVE,
  SBELOW,>HIGH HAMZA,H ALEF,IWAW,>U WITH HAMZA ABOVE,>HIGH HAMZA YEH,>TTEH,BEH,>BEEH,
  >TEH WITH RING,GTHREE DOTS ABOVE DOWNWARDS,>PEH,>TEHEH,>BEHEH,>HAH WITH HAMZA ABOVE,
  GTWO DOTS VERTICAL ABOVE,>NYEH,>DYEH,>HAH WITH THREE DOTS ABOVE,>TCHEH,CEH,>DDAL,?AL WITH RING,
  GDOT BELOW,P AND SMALL TAH,@HAL,?DAHAL,?UL,?AL WITH THREE DOTS ABOVE DOWNWARDS,GFOUR DOTS ABOVE,
  >RREH,?EH WITH SMALL V,GRING,GDOT BELOW,GSMALL V BELOW,GDOT BELOW AND DOT ABOVE,GTWO DOTS ABOVE,
  >JEH,>REH WITH FOUR DOTS ABOVE,>SEEN WITH DOT BELOW AND DOT ABOVE,HTHREE DOTS BELOW,
  X AND THREE DOTS ABOVE,?AD WITH TWO DOTS BELOW,HHREE DOTS ABOVE,>TAH WITH THREE DOTS ABOVE,
  >AIN WITH THREE DOTS ABOVE,>DOTLESS FEH,>FEH WITH DOT MOVED BELOW,KBELOW,>VEH,
  >FEH WITH THREE DOTS BELOW,>PEHEH,>QAF WITH DOT ABOVE,GTHREE DOTS ABOVE,>KEHEH,>SWASH KAF,
  >KAF WITH RING,GDOT ABOVE,>NG,>KAF WITH THREE DOTS BELOW,>GAF,A WITH RING,>NGOEH,
  >GAF WITH TWO DOTS BELOW,?UEH,?AF WITH THREE DOTS ABOVE,>LAM WITH SMALL V,GDOT ABOVE,
  GTHREE DOTS ABOVE,RBELOW,>NOON WITH DOT BELOW,CGHUNNA,>RNOON,>NOON WITH RING,HTHREE DOTS ABOVE,
  >HEH DOACHASHMEE,>TCHEH WITH DOT ABOVE,>HEH WITH YEH ABOVE,BGOAL,F WITH HAMZA ABOVE,
  >TEH MARBUTA GOAL,>WAW WITH RING,>KIRGHIZ OE,>OE,>U,>YU,>KIRGHIZ YU,>WAW WITH TWO DOTS ABOVE,
  >VE,>FARSI YEH,>YEH WITH TAIL,GSMALL V,>WAW WITH DOT ABOVE,>E,>YEH WITH THREE DOTS BELOW,
  BBARREE,H WITH HAMZA ABOVE,7FULL STOP,7LETTER AE,
  7SMALL HIGH LIGATURE SAD WITH LAM WITH ALEF MAKSURA,KQAF WITH LAM WITH ALEF MAKSURA,
  BMEEM INITIAL FORM,BLAM ALEF,BJEEM,BTHREE DOTS,BSEEN,7END OF AYAH,7START OF RUB EL HIZB,
  8MALL HIGH ROUNDED ZERO,BUPRIGHT RECTANGULAR ZERO,BDOTLESS HEAD OF KHAH,BMEEM ISOLATED FORM,
  =LOW SEEN,=HIGH MADDA,=WAW,=YEH,=HIGH YEH,BNOON,7PLACE OF SAJDAH,7EMPTY CENTRE LOW STOP,
  DHIGH STOP,7ROUNDED HIGH STOP WITH FILLED CENTRE,7SMALL LOW MEEM,7LETTER DAL WITH INVERTED V,
  >REH WITH INVERTED V,0EXTENDED ARABIC-INDIC DIGIT ZERO,LONE,LTWO,MHREE,LFOUR,MIVE,LSIX,MEVEN,
  LEIGHT,LNINE,0ARABIC LETTER SHEEN WITH DOT BELOW,>DAD WITH DOT BELOW,>GHAIN WITH DOT BELOW,
  7SIGN SINDHI AMPERSAND,CPOSTPOSITION MEN,7LETTER HEH WITH INVERTED V,0SYRIAC END OF PARAGRAPH,
  7SUPRALINEAR FULL STOP,9BLINEAR FULL STOP,9PRALINEAR COLON,9BLINEAR COLON,7HORIZONTAL COLON,
  7COLON SKEWED LEFT,DRIGHT,7SUPRALINEAR COLON SKEWED LEFT,9BLINEAR COLON SKEWED RIGHT,
  7CONTRACTION,7HARKLEAN OBELUS,@METOBELUS,@ASTERISCUS,!70F,7ABBREVIATION MARK,7LETTER ALAPH,
  >SUPERSCRIPT ALAPH,>BETH,>GAMAL,C GARSHUNI,>DALATH,?OTLESS DALATH RISH,>HE,>WAW,>ZAIN,>HETH,
  >TETH,B GARSHUNI,>YUDH,B HE,>KAPH,>LAMADH,>MIM,>NUN,>SEMKATH,>FINAL SEMKATH,>E,>PE,>REVERSED PE,
  >SADHE,>QAPH,>RISH,>SHIN,>TAW,>PERSIAN BHETH,FGHAMAL,FDHALATH,7PTHAHA ABOVE,>BELOW,>DOTTED,
  7ZQAPHA ABOVE,>BELOW,>DOTTED,7RBASA ABOVE,=BELOW,7DOTTED ZLAMA HORIZONTAL,DANGULAR,7HBASA ABOVE,
  =BELOW,<-ESASA DOTTED,7ESASA ABOVE,=BELOW,7RWAHA,7FEMININE DOT,7QUSHSHAYA,7RUKKAKHA,
  7TWO VERTICAL DOTS ABOVE,IBELOW,8HREE DOTS ABOVE,BBELOW,7OBLIQUE LINE ABOVE,DBELOW,7MUSIC,
  7BARREKH,!74D,7LETTER SOGDIAN ZHAIN,FKHAPH,FFE,
  0ARABIC LETTER BEH WITH THREE DOTS HORIZONTALLY BELOW,GDOT BELOW AND THREE DOTS ABOVE,
  GTHREE DOTS POINTING UPWARDS BELOW,[UPWARDS BELOW AND TWO DOTS ABOVE,
  HWO DOTS BELOW AND DOT ABOVE,GINVERTED SMALL V BELOW,GSMALL V,>HAH WITH TWO DOTS ABOVE,
  HHREE DOTS POINTING UPWARDS BELOW,>DAL WITH TWO DOTS VERTICALLY BELOW AND SMALL TAH,
  GINVERTED SMALL V BELOW,>REH WITH STROKE,>SEEN WITH FOUR DOTS ABOVE,>AIN WITH TWO DOTS ABOVE,
  HHREE DOTS POINTING DOWNWARDS ABOVE,HWO DOTS VERTICALLY ABOVE,>FEH WITH TWO DOTS BELOW,
  HHREE DOTS POINTING UPWARDS BELOW,>KEHEH WITH DOT ABOVE,ITHREE DOTS ABOVE,
  TPOINTING UPWARDS BELOW,>MEEM WITH DOT ABOVE,LBELOW,>NOON WITH TWO DOTS BELOW,HSMALL TAH,NV,
  >LAM WITH BAR,>REH WITH TWO DOTS VERTICALLY ABOVE,GHAMZA ABOVE,
  >SEEN WITH TWO DOTS VERTICALLY ABOVE,>HAH WITH SMALL ARABIC LETTER TAH BELOW,[TAH AND TWO DOTS,
  >SEEN WITH SMALL ARABIC LETTER TAH AND TWO DOTS,>REH WITH SMALL ARABIC LETTER TAH AND TWO DOTS,
  >HAH WITH SMALL ARABIC LETTER TAH ABOVE,>ALEF WITH EXTENDED ARABIC-INDIC DIGIT TWO ABOVE,
  [IC DIGIT THREE ABOVE,>FARSI YEH WITH EXTENDED ARABIC-INDIC DIGIT TWO ABOVE,
  [C-INDIC DIGIT THREE ABOVE,[C-INDIC DIGIT FOUR BELOW,
  >WAW WITH EXTENDED ARABIC-INDIC DIGIT TWO ABOVE,[C DIGIT THREE ABOVE,
  >YEH BARREE WITH EXTENDED ARABIC-INDIC DIGIT TWO ABOVE,[IC-INDIC DIGIT THREE ABOVE,
  >HAH WITH EXTENDED ARABIC-INDIC DIGIT FOUR BELOW,
  >SEEN WITH EXTENDED ARABIC-INDIC DIGIT FOUR ABOVE,HINVERTED V,>KAF WITH TWO DOTS ABOVE,
  0THAANA LETTER HAA,>SHAVIYANI,>NOONU,>RAA,>BAA,>LHAVIYANI,>KAAFU,>ALIFU,>VAAVU,>MEEMU,>FAAFU,
  >DHAALU,>THAA,>LAAMU,>GAAFU,?NAVIYANI,>SEENU,>DAVIYANI,>ZAVIYANI,>TAVIYANI,>YAA,>PAVIYANI,
  >JAVIYANI,>CHAVIYANI,>TTAA,>HHAA,>KHAA,>THAALU,>ZAA,>SHEENU,?AADHU,>DAADHU,>TO,>ZO,>AINU,
  >GHAINU,>QAAFU,>WAAVU,7ABAFILI,8ABAAFILI,7IBIFILI,7EEBEEFILI,7UBUFILI,7OOBOOFILI,7EBEFILI,
  8YBEYFILI,7OBOFILI,8ABOAFILI,7SUKUN,7LETTER NAA,!7C0,0NKO DIGIT ZERO,:ONE,:TWO,;HREE,:FOUR,;IVE,
  :SIX,;EVEN,:EIGHT,:NINE,4LETTER A,;EE,;I,;E,;U,;OO,<,;DAGBASINNA,;N,;BA,;PA,;TA,;JA,;CHA,;DA,
  ;RA,<RA,;SA,;GBA,;FA,;KA,;LA,;NA WOLOSO,;MA,;NYA,<A,;HA,;WA,;YA,;NYA WOLOSO,;JONA JA,@CHA,@RA,
  4COMBINING SHORT HIGH TONE,DLOW TONE,DRISING TONE,>LONG DESCENDING TONE,CHIGH TONE,CLOW TONE,
  CRISING TONE,>NASALIZATION MARK,>DOUBLE DOT ABOVE,4HIGH TONE APOSTROPHE,4LOW TONE APOSTROPHE,
  4SYMBOL OO DENNEN,;GBAKURUNEN,4COMMA,4EXCLAMATION MARK,4LAJANYALAN,!7FD,4DANTAYALAN,5OROME SIGN,
  4TAMAN SIGN,0SAMARITAN LETTER ALAF,ABIT,AGAMAN,ADALAT,AIY,ABAA,AZEN,AIT,ATIT,AYUT,AKAAF,ALABAT,
  AMIM,ANUN,ASINGAAT,AIN,AFI,ATSAADIY,AQUF,ARISH,ASHAN,ATAAF,:MARK IN,A-ALAF,?OCCLUSION,?DAGESH,
  ;ODIFIER LETTER EPENTHETIC YUT,;ARK EPENTHETIC YUT,:VOWEL SIGN LONG E,EE,EOVERLONG AA,ELONG AA,
  EAA,EOVERLONG A,ELONG A,EA,:MODIFIER LETTER SHORT A,:VOWEL SIGN SHORT A,ELONG U,EU,
  :MODIFIER LETTER I,:VOWEL SIGN LONG I,EI,EO,ESUKUN,:MARK NEQUDAA,!830,:PUNCTUATION NEQUDAA,
  FAFSAAQ,GNGED,FBAU,FATMAAU,FSHIYYAALAA,:ABBREVIATION MARK,:PUNCTUATION MELODIC QITSA,FZIQAA,
  FQITSA,FZAEF,FTURU,FARKAANU,FSOF MASHFAAT,FANNAAU,!840,0MANDAIC LETTER HALQA,?AB,@G,@D,@H,
  ?USHENNA,?AZ,?IT,?ATT,@KSA,A,@L,@M,@N,@S,?IN,?AP,@SZ,@Q,@R,@SH,@T,?DUSHENNA,?KAD,?AIN,
  8AFFRICATION MARK,8VOCALIZATION MARK,8GEMINATION MARK,!85E,8PUNCTUATION,!860,
  0SYRIAC LETTER MALAYALAM NGA,HJA,HNYA,HTTA,HNNA,JNA,HBHA,HRA,HLLA,JLA,HSSA,!870,
  0ARABIC LETTER ALEF WITH ATTACHED FATHA,QTOP RIGHT FATHA,HRIGHT MIDDLE STROKE,
  HLEFT MIDDLE STROKE,HATTACHED KASRA,QBOTTOM RIGHT KASRA,QROUND DOT ABOVE,RIGHT ROUND DOT,
  QLEFT ROUND DOT,QROUND DOT BELOW,HDOT ABOVE,HATTACHED TOP RIGHT FATHA AND DOT ABOVE,
  HRIGHT MIDDLE STROKE AND DOT ABOVE,HATTACHED BOTTOM RIGHT KASRA AND DOT ABOVE,
  QTOP RIGHT FATHA AND LEFT RING,HRIGHT MIDDLE STROKE AND LEFT RING,
  HATTACHED BOTTOM RIGHT KASRA AND LEFT RING,QRIGHT HAMZA,QLEFT HAMZA,
  7TATWEEL WITH OVERSTRUCK HAMZA,OWAW,DTWO DOTS BELOW,7LETTER THIN YEH,7BASELINE ROUND DOT,
  7RAISED ROUND DOT,7LETTER NOON WITH INVERTED SMALL V,>HAH WITH INVERTED SMALL V BELOW,
  >TAH WITH DOT BELOW,GTHREE DOTS BELOW,>KEHEH WITH TWO DOTS VERTICALLY BELOW,7VERTICAL TAIL,!890,
  7POUND MARK ABOVE,8IASTRE MARK ABOVE,!898,7SMALL HIGH WORD AL-JUZ,=LOW WORD ISHMAAM,GMAALA,
  FTASHEEL,7MADDA WAAJIB,7SUPERSCRIPT ALEF MOKHASSAS,7DOUBLED MADDA,7HALF MADDA OVER MADDA,
  7LETTER BEH WITH SMALL V BELOW,GHAMZA ABOVE,>JEEM WITH TWO DOTS ABOVE,>TAH WITH TWO DOTS ABOVE,
  >FEH WITH DOT BELOW AND THREE DOTS ABOVE,>QAF WITH DOT BELOW,>LAM WITH DOUBLE BAR,
  >MEEM WITH THREE DOTS ABOVE,>YEH WITH TWO DOTS BELOW AND HAMZA ABOVE,ZDOT ABOVE,>REH WITH LOOP,
  >WAW WITH DOT WITHIN,>ROHINGYA YEH,>LOW ALEF,>DAL WITH THREE DOTS BELOW,
  >SAD WITH THREE DOTS BELOW,>GAF WITH INVERTED STROKE,>STRAIGHT WAW,>ZAIN WITH INVERTED V ABOVE,
  >AIN WITH THREE DOTS BELOW,>KAF WITH DOT BELOW,>QAF WITH DOT BELOW AND NO DOTS ABOVE,
  >BEH WITH SMALL MEEM ABOVE,>PEH WITH SMALL MEEM ABOVE,>TEH WITH SMALL TEH ABOVE,
  >REH WITH SMALL NOON ABOVE,>YEH WITH TWO DOTS BELOW AND SMALL NOON ABOVE,>AFRICAN FEH,FQAF,
  FNOON,>PEH WITH SMALL V,>TEH WITH SMALL V,?TEH WITH SMALL V,?CHEH WITH SMALL V,
  >KEHEH WITH SMALL V,>GHAIN WITH THREE DOTS ABOVE,>AFRICAN QAF WITH THREE DOTS ABOVE,
  >JEEM WITH THREE DOTS ABOVE,SBELOW,>LAM WITH SMALL ARABIC LETTER TAH ABOVE,>GRAF,
  7SMALL FARSI YEH,=HIGH FARSI YEH,BYEH BARREE WITH TWO DOTS BELOW,BWORD SAH,BZAH,
  7LARGE ROUND DOT ABOVE,GBELOW,7SUKUN BELOW,7LARGE CIRCLE BELOW,=ROUND DOT INSIDE CIRCLE BELOW,
  7SMALL LOW WAW,=HIGH WORD AR-RUB,BSAD,BAIN,BQAF,BNOON WITH KASRA,=LOW NOON WITH KASRA,
  =HIGH WORD ATH-THALATHA,HS-SAJDA,HN-NISF,GSAKTA,GQIF,GWAQFA,BFOOTNOTE MARKER,BSIGN SAFHA,
  7DISPUTED END OF AYAH,7TURNED DAMMA BELOW,7CURLY FATHA,=DAMMA,=KASRA,=FATHATAN,=DAMMATAN,
  =KASRATAN,7TONE ONE DOT ABOVE,<TWO DOTS ABOVE,<LOOP ABOVE,<ONE DOT BELOW,<TWO DOTS BELOW,
  <LOOP BELOW,7OPEN FATHATAN,<DAMMATAN,<KASRATAN,7SMALL HIGH WAW,7FATHA WITH RING,BDOT ABOVE,
  7KASRA WITH DOT BELOW,7LEFT ARROWHEAD ABOVE,7RIGHT ARROWHEAD ABOVE,7LEFT ARROWHEAD BELOW,
  7RIGHT ARROWHEAD BELOW,7DOUBLE RIGHT ARROWHEAD ABOVE,S WITH DOT,7RIGHT ARROWHEAD ABOVE WITH DOT,
  7DAMMA WITH DOT,7MARK SIDEWAYS NOON GHUNNA,0DEVANAGARI SIGN INVERTED CANDRABINDU,@CANDRABINDU,
  @ANUSVARA,@VISARGA,;LETTER SHORT A,BA,CA,BI,CI,BU,CU,BVOCALIC R,JL,BCANDRA E,BSHORT E,BE,BAI,
  BCANDRA O,BSHORT O,BO,BAU,BKA,CHA,BGA,CHA,BNGA,BCA,CHA,BJA,CHA,BNYA,BTTA,DHA,BDDA,DHA,BNNA,BTA,
  CHA,BDA,CHA,BNA,CNNA,BPA,CHA,BBA,CHA,BMA,BYA,BRA,CRA,BLA,CLA,DLA,BVA,BSHA,CSA,CA,BHA,
  ;VOWEL SIGN OE,GOE,;SIGN NUKTA,@AVAGRAHA,;VOWEL SIGN AA,FI,GI,FU,GU,FVOCALIC R,OR,FCANDRA E,
  FSHORT E,FE,FAI,FCANDRA O,FSHORT O,FO,FAU,;SIGN VIRAMA,;VOWEL SIGN PRISHTHAMATRA E,FAW,;OM,
  ;STRESS SIGN UDATTA,GANUDATTA,;GRAVE ACCENT,;ACUTE ACCENT,;VOWEL SIGN CANDRA LONG E,FUE,GUE,
  ;LETTER QA,BKHHA,BGHHA,BZA,BDDDHA,BRHA,BFA,BYYA,BVOCALIC RR,JLL,;VOWEL SIGN VOCALIC L,OL,;DANDA,
  <OUBLE DANDA,<IGIT ZERO,AONE,ATWO,BHREE,AFOUR,BIVE,ASIX,BEVEN,AEIGHT,ANINE,;ABBREVIATION SIGN,
  ;SIGN HIGH SPACING DOT,;LETTER CANDRA A,BOE,COE,BAW,BUE,CUE,BMARWARI DDA,BZHA,BHEAVY YA,BGGA,
  BJJA,BGLOTTAL STOP,BDDDA,BBBA,0BENGALI ANJI,8SIGN CANDRABINDU,=ANUSVARA,=VISARGA,!985,8LETTER A,
  @A,?I,@I,?U,@U,?VOCALIC R,GL,!98F,?E,?AI,!993,?O,?AU,?KA,@HA,?GA,@HA,?NGA,?CA,@HA,?JA,@HA,?NYA,
  ?TTA,AHA,?DDA,AHA,?NNA,?TA,@HA,?DA,@HA,?NA,!9AA,?PA,@HA,?BA,@HA,?MA,?YA,?RA,!9B2,?LA,!9B6,?SHA,
  @SA,@A,?HA,!9BC,8SIGN NUKTA,=AVAGRAHA,8VOWEL SIGN AA,CI,DI,CU,DU,CVOCALIC R,LR,!9C7,CE,CAI,!9CB,
  CO,CAU,8SIGN VIRAMA,8LETTER KHANDA TA,!9D7,8AU LENGTH MARK,!9DC,8LETTER RRA,@HA,!9DF,?YYA,
  ?VOCALIC RR,GLL,8VOWEL SIGN VOCALIC L,LL,!9E6,8DIGIT ZERO,>ONE,>TWO,?HREE,>FOUR,?IVE,>SIX,?EVEN,
  >EIGHT,>NINE,8LETTER RA WITH MIDDLE DIAGONAL,GLOWER DIAGONAL,8RUPEE MARK,>SIGN,
  8CURRENCY NUMERATOR ONE,KTWO,LHREE,KFOUR,KONE LESS THAN THE DENOMINATOR,ADENOMINATOR SIXTEEN,
  8ISSHAR,8GANDA MARK,8LETTER VEDIC ANUSVARA,8ABBREVIATION SIGN,8SANDHI MARK,!A01,
  0GURMUKHI SIGN ADAK BINDI,>BINDI,>VISARGA,!A05,9LETTER A,AA,@I,AI,@U,AU,!A0F,@EE,@AI,!A13,@OO,
  @AU,@KA,AHA,@GA,AHA,@NGA,@CA,AHA,@JA,AHA,@NYA,@TTA,BHA,@DDA,BHA,@NNA,@TA,AHA,@DA,AHA,@NA,!A2A,
  @PA,AHA,@BA,AHA,@MA,@YA,@RA,!A32,@LA,ALA,!A35,@VA,@SHA,!A38,AA,@HA,!A3C,9SIGN NUKTA,!A3E,
  9VOWEL SIGN AA,DI,EI,DU,EU,!A47,DEE,DAI,!A4B,DOO,DAU,9SIGN VIRAMA,!A51,>UDAAT,!A59,9LETTER KHHA,
  @GHHA,@ZA,@RRA,!A5E,@FA,!A66,9DIGIT ZERO,?ONE,?TWO,@HREE,?FOUR,@IVE,?SIX,@EVEN,?EIGHT,?NINE,
  9TIPPI,9ADDAK,9IRI,9URA,9EK ONKAR,9SIGN YAKASH,9ABBREVIATION SIGN,!A81,2JARATI SIGN CANDRABINDU,
  >ANUSVARA,>VISARGA,!A85,9LETTER A,AA,@I,AI,@U,AU,@VOCALIC R,HL,9VOWEL CANDRA E,!A8F,9LETTER E,
  @AI,9VOWEL CANDRA O,!A93,9LETTER O,@AU,@KA,AHA,@GA,AHA,@NGA,@CA,AHA,@JA,AHA,@NYA,@TTA,BHA,@DDA,
  BHA,@NNA,@TA,AHA,@DA,AHA,@NA,!AAA,@PA,AHA,@BA,AHA,@MA,@YA,@RA,!AB2,@LA,ALA,!AB5,@VA,@SHA,ASA,AA,
  @HA,!ABC,9SIGN NUKTA,>AVAGRAHA,9VOWEL SIGN AA,DI,EI,DU,EU,DVOCALIC R,MR,DCANDRA E,!AC7,DE,DAI,
  DCANDRA O,!ACB,DO,DAU,9SIGN VIRAMA,!AD0,9OM,!AE0,9LETTER VOCALIC RR,HLL,9VOWEL SIGN VOCALIC L,
  ML,!AE6,9DIGIT ZERO,?ONE,?TWO,@HREE,?FOUR,@IVE,?SIX,@EVEN,?EIGHT,?NINE,9ABBREVIATION SIGN,
  9RUPEE SIGN,!AF9,9LETTER ZHA,9SIGN SUKUN,?HADDA,>MADDAH,>THREE-DOT NUKTA ABOVE,
  >CIRCLE NUKTA ABOVE,>TWO-CIRCLE NUKTA ABOVE,!B01,0ORIYA SIGN CANDRABINDU,;ANUSVARA,;VISARGA,
  !B05,6LETTER A,>A,=I,>I,=U,>U,=VOCALIC R,EL,!B0F,=E,=AI,!B13,=O,=AU,=KA,>HA,=GA,>HA,=NGA,=CA,
  >HA,=JA,>HA,=NYA,=TTA,?HA,=DDA,?HA,=NNA,=TA,>HA,=DA,>HA,=NA,!B2A,=PA,>HA,=BA,>HA,=MA,=YA,=RA,
  !B32,=LA,>LA,!B35,=VA,=SHA,>SA,>A,=HA,!B3C,6SIGN NUKTA,;AVAGRAHA,6VOWEL SIGN AA,AI,BI,AU,BU,
  AVOCALIC R,JR,!B47,AE,AAI,!B4B,AO,AAU,6SIGN VIRAMA,!B55,;OVERLINE,6AI LENGTH MARK,
  7U LENGTH MARK,!B5C,6LETTER RRA,>HA,!B5F,=YYA,=VOCALIC RR,ELL,6VOWEL SIGN VOCALIC L,JL,!B66,
  6DIGIT ZERO,<ONE,<TWO,=HREE,<FOUR,=IVE,<SIX,=EVEN,<EIGHT,<NINE,6ISSHAR,6LETTER WA,
  6FRACTION ONE QUARTER,CHALF,?THREE QUARTERS,?ONE SIXTEENTH,CEIGHTH,?THREE SIXTEENTHS,!B82,
  0TAMIL SIGN ANUSVARA,;VISARGA,!B85,6LETTER A,>A,=I,>I,=U,>U,!B8E,=E,>E,=AI,!B92,=O,>O,=AU,=KA,
  !B99,=NGA,=CA,!B9C,=JA,!B9E,=NYA,=TTA,!BA3,=NNA,=TA,!BA8,=NA,>NNA,=PA,!BAE,=MA,=YA,=RA,>RA,=LA,
  >LA,?LA,=VA,=SHA,>SA,>A,=HA,!BBE,6VOWEL SIGN AA,AI,BI,AU,BU,!BC6,AE,BE,AAI,!BCA,AO,BO,AAU,
  6SIGN VIRAMA,!BD0,6OM,!BD7,6AU LENGTH MARK,!BE6,6DIGIT ZERO,<ONE,<TWO,=HREE,<FOUR,=IVE,<SIX,
  =EVEN,<EIGHT,<NINE,6NUMBER TEN,=ONE HUNDRED,ATHOUSAND,6DAY SIGN,6MONTH SIGN,6YEAR SIGN,
  6DEBIT SIGN,6CREDIT SIGN,6AS ABOVE SIGN,6RUPEE SIGN,6NUMBER SIGN,!C00,
  1ELUGU SIGN COMBINING CANDRABINDU ABOVE,=ANDRABINDU,<ANUSVARA,<VISARGA,
  <COMBINING ANUSVARA ABOVE,7LETTER A,?A,>I,?I,>U,?U,>VOCALIC R,FL,!C0E,>E,?E,>AI,!C12,>O,?O,>AU,
  >KA,?HA,>GA,?HA,>NGA,>CA,?HA,>JA,?HA,>NYA,>TTA,@HA,>DDA,@HA,>NNA,>TA,?HA,>DA,?HA,>NA,!C2A,>PA,
  ?HA,>BA,?HA,>MA,>YA,>RA,?RA,>LA,?LA,@LA,>VA,>SHA,?SA,?A,>HA,!C3C,7SIGN NUKTA,<AVAGRAHA,
  7VOWEL SIGN AA,BI,CI,BU,CU,BVOCALIC R,KR,!C46,BE,CE,BAI,!C4A,BO,CO,BAU,7SIGN VIRAMA,!C55,
  7LENGTH MARK,7AI LENGTH MARK,!C58,7LETTER TSA,>DZA,>RRRA,!C5D,>NAKAARA POLLU,!C60,>VOCALIC RR,
  FLL,7VOWEL SIGN VOCALIC L,KL,!C66,7DIGIT ZERO,=ONE,=TWO,>HREE,=FOUR,>IVE,=SIX,>EVEN,=EIGHT,
  =NINE,!C77,7SIGN SIDDHAM,7FRACTION DIGIT ZERO FOR ODD POWERS OF FOUR,
  FONE FOR ODD POWERS OF FOUR,FTWO FOR ODD POWERS OF FOUR,GHREE FOR ODD POWERS OF FOUR,
  FONE FOR EVEN POWERS OF FOUR,FTWO FOR EVEN POWERS OF FOUR,GHREE FOR EVEN POWERS OF FOUR,
  7SIGN TUUMU,0KANNADA SIGN SPACING CANDRABINDU,=CANDRABINDU,=ANUSVARA,=VISARGA,=SIDDHAM,
  8LETTER A,@A,?I,@I,?U,@U,?VOCALIC R,GL,!C8E,?E,@E,?AI,!C92,?O,@O,?AU,?KA,@HA,?GA,@HA,?NGA,?CA,
  @HA,?JA,@HA,?NYA,?TTA,AHA,?DDA,AHA,?NNA,?TA,@HA,?DA,@HA,?NA,!CAA,?PA,@HA,?BA,@HA,?MA,?YA,?RA,
  @RA,?LA,@LA,!CB5,?VA,?SHA,@SA,@A,?HA,!CBC,8SIGN NUKTA,=AVAGRAHA,8VOWEL SIGN AA,CI,DI,CU,DU,
  CVOCALIC R,LR,!CC6,CE,DE,CAI,!CCA,CO,DO,CAU,8SIGN VIRAMA,!CD5,8LENGTH MARK,8AI LENGTH MARK,!CDD,
  8LETTER NAKAARA POLLU,?FA,!CE0,?VOCALIC RR,GLL,8VOWEL SIGN VOCALIC L,LL,!CE6,8DIGIT ZERO,>ONE,
  >TWO,?HREE,>FOUR,?IVE,>SIX,?EVEN,>EIGHT,>NINE,!CF1,8SIGN JIHVAMULIYA,=UPADHMANIYA,!D00,
  0MALAYALAM SIGN COMBINING ANUSVARA ABOVE,@ANDRABINDU,?ANUSVARA,?VISARGA,:LETTER VEDIC ANUSVARA,
  AA,BA,AI,BI,AU,BU,AVOCALIC R,IL,!D0E,AE,BE,AAI,!D12,AO,BO,AAU,AKA,BHA,AGA,BHA,ANGA,ACA,BHA,AJA,
  BHA,ANYA,ATTA,CHA,ADDA,CHA,ANNA,ATA,BHA,ADA,BHA,ANA,BNNA,APA,BHA,ABA,BHA,AMA,AYA,ARA,BRA,ALA,
  BLA,CLA,AVA,ASHA,BSA,BA,AHA,ATTTA,:SIGN VERTICAL BAR VIRAMA,?CIRCULAR VIRAMA,?AVAGRAHA,
  :VOWEL SIGN AA,EI,FI,EU,FU,EVOCALIC R,NR,!D46,EE,FE,EAI,!D4A,EO,FO,EAU,:SIGN VIRAMA,
  :LETTER DOT REPH,:SIGN PARA,!D54,:LETTER CHILLU M,HY,HLLL,:AU LENGTH MARK,
  :FRACTION ONE ONE-HUNDRED-AND-SIXTIETH,GFORTIETH,CTHREE EIGHTIETHS,CONE TWENTIETH,HENTH,
  CTHREE TWENTIETHS,CONE FIFTH,:LETTER ARCHAIC II,AVOCALIC RR,ILL,:VOWEL SIGN VOCALIC L,NL,!D66,
  :DIGIT ZERO,@ONE,@TWO,AHREE,@FOUR,AIVE,@SIX,AEVEN,@EIGHT,@NINE,:NUMBER TEN,AONE HUNDRED,
  ETHOUSAND,:FRACTION ONE QUARTER,GHALF,CTHREE QUARTERS,CONE SIXTEENTH,GEIGHTH,CTHREE SIXTEENTHS,
  :DATE MARK,:LETTER CHILLU NN,I,HRR,HL,IL,HK,!D81,0SINHALA SIGN CANDRABINDU,=ANUSVARAYA,
  =VISARGAYA,!D85,8LETTER AYANNA,@AYANNA,@EYANNA,AEYANNA,?IYANNA,@IYANNA,?UYANNA,@UYANNA,
  ?IRUYANNA,BUYANNA,@LUYANNA,BUYANNA,?EYANNA,@EYANNA,?AIYANNA,?OYANNA,@OYANNA,?AUYANNA,!D9A,
  @LPAPRAANA KAYANNA,?MAHAAPRAANA KAYANNA,?ALPAPRAANA GAYANNA,?MAHAAPRAANA GAYANNA,
  ?KANTAJA NAASIKYAYA,?SANYAKA GAYANNA,?ALPAPRAANA CAYANNA,?MAHAAPRAANA CAYANNA,
  ?ALPAPRAANA JAYANNA,?MAHAAPRAANA JAYANNA,?TAALUJA NAASIKYAYA,GSANYOOGA NAAKSIKYAYA,
  ?SANYAKA JAYANNA,?ALPAPRAANA TTAYANNA,?MAHAAPRAANA TTAYANNA,?ALPAPRAANA DDAYANNA,
  ?MAHAAPRAANA DDAYANNA,@UURDHAJA NAYANNA,?SANYAKA DDAYANNA,?ALPAPRAANA TAYANNA,
  ?MAHAAPRAANA TAYANNA,?ALPAPRAANA DAYANNA,?MAHAAPRAANA DAYANNA,?DANTAJA NAYANNA,!DB3,
  ?SANYAKA DAYANNA,?ALPAPRAANA PAYANNA,?MAHAAPRAANA PAYANNA,?ALPAPRAANA BAYANNA,
  ?MAHAAPRAANA BAYANNA,AYANNA,?AMBA BAYANNA,?YAYANNA,?RAYANNA,!DBD,?DANTAJA LAYANNA,!DC0,?VAYANNA,
  ?TAALUJA SAYANNA,?MUURDHAJA SAYANNA,?DANTAJA SAYANNA,?HAYANNA,?MUURDHAJA LAYANNA,?FAYANNA,!DCA,
  8SIGN AL-LAKUNA,!DCF,8VOWEL SIGN AELA-PILLA,CKETTI AEDA-PILLA,CDIGA AEDA-PILLA,CKETTI IS-PILLA,
  CDIGA IS-PILLA,CKETTI PAA-PILLA,!DD6,CDIGA PAA-PILLA,!DD8,CGAETTA-PILLA,CKOMBUVA,CDIGA KOMBUVA,
  CKOMBU DEKA,HVA HAA AELA-PILLA,ODIGA AELA-PILLA,OGAYANUKITTA,CGAYANUKITTA,!DE6,8LITH DIGIT ZERO,
  CONE,CTWO,DHREE,CFOUR,DIVE,CSIX,DEVEN,CEIGHT,CNINE,!DF2,8VOWEL SIGN DIGA GAETTA-PILLA,
  JYANUKITTA,8PUNCTUATION KUNDDALIYA,!E01,0THAI CHARACTER KO KAI,@HO KHAI,EUAT,EWAI,EON,CRAKHANG,
  ?NGO NGU,?CHO CHAN,EING,EANG,?SO SO,?CHO CHOE,?YO YING,?DO CHADA,?TO PATAK,@HO THAN,CNANGMONTHO,
  CPHUTHAO,?NO NEN,?DO DEK,?TO TAO,@HO THUNG,EAHAN,EONG,?NO NU,?BO BAIMAI,?PO PLA,@HO PHUNG,
  ?FO FA,?PHO PHAN,?FO FAN,?PHO SAMPHAO,?MO MA,?YO YAK,?RO RUA,@U,?LO LING,@U,?WO WAEN,?SO SALA,
  BRUSI,BSUA,?HO HIP,?LO CHULA,?O ANG,?HO NOKHUK,?PAIYANNOI,?SARA A,?MAI HAN-AKAT,?SARA AA,EM,DI,
  EI,DUE,FE,E,EU,?PHINTHU,!E3F,6URRENCY SYMBOL BAHT,6HARACTER SARA E,DAE,DO,DAI MAIMUAN,KALAI,
  ?LAKKHANGYAO,?MAIYAMOK,BTAIKHU,B EK,CTHO,DRI,CCHATTAWA,?THANTHAKHAT,?NIKHAHIT,?YAMAKKAN,
  ?FONGMAN,5DIGIT ZERO,;ONE,;TWO,<HREE,;FOUR,<IVE,;SIX,<EVEN,;EIGHT,;NINE,5CHARACTER ANGKHANKHU,
  ?KHOMUT,!E81,0LAO LETTER KO,<HO SUNG,!E84,?TAM,!E86,;PALI GHA,;NGO,;CO,;PALI CHA,;SO TAM,!E8C,
  ;PALI JHA,;NYO,;PALI NYA,@TTA,BHA,@DDA,BHA,@NNA,;DO,;TO,<HO SUNG,?TAM,;PALI DHA,;NO,;BO,;PO,
  <HO SUNG,;FO TAM,;PHO TAM,;FO SUNG,;PALI BHA,;MO,;YO,;LO LING,!EA5,?OOT,!EA7,;WO,;SANSKRIT SHA,
  ESA,<O SUNG,;HO SUNG,;PALI LLA,;O,;HO TAM,4ELLIPSIS,4VOWEL SIGN A,?MAI KAN,?AA,@M,?I,@I,?Y,@Y,
  ?U,@U,4SIGN PALI VIRAMA,4VOWEL SIGN MAI KON,4SEMIVOWEL SIGN LO,CNYO,!EC0,4VOWEL SIGN E,@I,?O,
  ?AY,@I,!EC6,4KO LA,!EC8,4TONE MAI EK,=THO,>I,=CATAWA,4CANCELLATION MARK,4NIGGAHITA,!ED0,
  4DIGIT ZERO,:ONE,:TWO,;HREE,:FOUR,;IVE,:SIX,;EVEN,:EIGHT,:NINE,!EDC,4HO NO,7MO,4LETTER KHMU GO,
  @NYO,!F00,0TIBETAN SYLLABLE OM,8MARK GTER YIG MGO TRUNCATED A,J-UM RNAM BCAD MA,NGTER TSHEG MA,
  =INITIAL YIG MGO MDUN MA,=CLOSING YIG MGO SGAB MA,>ARET YIG MGO PHUR SHAD MA,
  =YIG MGO TSHEG SHAD MA,=SBRUL SHAD,=BSKUR YIG MGO,>KA- SHOG YIG MGO,=INTERSYLLABIC TSHEG,
  =DELIMITER TSHEG BSTAR,=SHAD,=NYIS SHAD,=TSHEG SHAD,=NYIS TSHEG SHAD,=RIN CHEN SPUNGS SHAD,
  >GYA GRAM SHAD,=CARET -DZUD RTAGS ME LONG CAN,=GTER TSHEG,8LOGOTYPE SIGN CHAD RTAGS,FLHAG RTAGS,
  8ASTROLOGICAL SIGN SGRA GCAN -CHAR RTAGS,J-KHYUD PA,JSDONG TSHUGS,8SIGN RDEL DKAR GCIG,HNYIS,
  HSUM,BNAG GCIG,GNYIS,BDKAR RDEL NAG,8DIGIT ZERO,>ONE,>TWO,?HREE,>FOUR,?IVE,>SIX,?EVEN,>EIGHT,
  >NINE,>HALF ONE,CTWO,DHREE,CFOUR,DIVE,CSIX,DEVEN,CEIGHT,CNINE,CZERO,8MARK BSDUS RTAGS,
  =NGAS BZUNG NYI ZLA,=CARET -DZUD RTAGS BZHI MIG CAN,=NGAS BZUNG SGOR RTAGS,=CHE MGO,=TSA -PHRU,
  =GUG RTAGS GYON,IAS,=ANG KHANG GYON,IAS,8SIGN YAR TSHES,=MAR TSHES,8LETTER KA,@HA,?GA,@HA,?NGA,
  ?CA,@HA,?JA,!F49,?NYA,?TTA,AHA,?DDA,AHA,?NNA,?TA,@HA,?DA,@HA,?NA,?PA,@HA,?BA,@HA,?MA,?TSA,AHA,
  ?DZA,AHA,?WA,?ZHA,@A,?-A,?YA,?RA,?LA,?SHA,@SA,@A,?HA,?A,?KSSA,?FIXED-FORM RA,?KKA,?RRA,!F71,
  8VOWEL SIGN AA,CI,DI,CU,DU,CVOCALIC R,LR,KL,LL,CE,DE,CO,DO,8SIGN RJES SU NGA RO,>NAM BCAD,
  8VOWEL SIGN REVERSED I,MI,8SIGN NYI ZLA NAA DA,=SNA LDAN,8MARK HALANTA,=PALUTA,8SIGN LCI RTAGS,
  =YANG RTAGS,=LCE TSA CAN,=MCHU CAN,=GRU CAN RGYINGS,AMED RGYINGS,=INVERTED MCHU CAN,
  9UBJOINED SIGN LCE TSA CAN,GMCHU CAN,GINVERTED MCHU CAN,BLETTER KA,JHA,IGA,JHA,INGA,ICA,JHA,IJA,
  !F99,INYA,ITTA,KHA,IDDA,KHA,INNA,ITA,JHA,IDA,JHA,INA,IPA,JHA,IBA,JHA,IMA,ITSA,KHA,IDZA,KHA,IWA,
  IZHA,JA,I-A,IYA,IRA,ILA,ISHA,JSA,JA,IHA,IA,IKSSA,IFIXED-FORM WA,TYA,TRA,!FBE,8KU RU KHA,
  A BZHI MIG CAN,8CANTILLATION SIGN HEAVY BEAT,JLIGHT BEAT,JCANG TE-U,JSBUB -CHAL,8SYMBOL DRIL BU,
  ?RDO RJE,?PADMA GDAN,?RDO RJE RGYA GRAM,?PHUR PA,?NOR BU,E NYIS -KHYIL,FGSUM -KHYIL,
  FBZHI -KHYIL,!FCE,9IGN RDEL NAG RDEL DKAR,FGSUM,8MARK BSKA- SHOG GI MGO RGYAN,
  =MNYAM YIG GI MGO RGYAN,=NYIS TSHEG,=INITIAL BRDA RNYING YIG MGO MDUN MA,
  =CLOSING BRDA RNYING YIG MGO SGAB MA,0RIGHT-FACING SVASTI SIGN,0LEFT-FACING SVASTI SIGN,
  0RIGHT-FACING SVASTI SIGN WITH DOTS,0LEFT-FACING SVASTI SIGN WITH DOTS,
  0TIBETAN MARK LEADING MCHAN RTAGS,=TRAILING MCHAN RTAGS,!1000,0MYANMAR LETTER KA,@HA,?GA,@HA,
  ?NGA,?CA,@HA,?JA,@HA,?NYA,@NYA,?TTA,AHA,?DDA,AHA,?NNA,?TA,@HA,?DA,@HA,?NA,?PA,@HA,?BA,@HA,?MA,
  ?YA,?RA,?LA,?WA,?SA,?HA,?LLA,?A,?SHAN A,?I,@I,?U,@U,?E,?MON E,?O,?AU,8VOWEL SIGN TALL AA,CAA,CI,
  DI,CU,DU,CE,CAI,CMON II,GO,CE ABOVE,8SIGN ANUSVARA,=DOT BELOW,=VISARGA,?RAMA,=ASAT,
  8CONSONANT SIGN MEDIAL YA,NRA,NWA,NHA,8LETTER GREAT SA,8DIGIT ZERO,>ONE,>TWO,?HREE,>FOUR,?IVE,
  >SIX,?EVEN,>EIGHT,>NINE,8SIGN LITTLE SECTION,=SECTION,9YMBOL LOCATIVE,?COMPLETED,
  ?AFOREMENTIONED,?GENITIVE,8LETTER SHA,@SA,?VOCALIC R,HR,GL,HL,8VOWEL SIGN VOCALIC R,LR,KL,LL,
  8LETTER MON NGA,CJHA,CBBA,EE,8CONSONANT SIGN MON MEDIAL NA,RMA,RLA,8LETTER SGAW KAREN SHA,
  8VOWEL SIGN SGAW KAREN EU,8TONE MARK SGAW KAREN HATHI,MKE PHO,8LETTER WESTERN PWO KAREN THA,
  QPWA,8VOWEL SIGN WESTERN PWO KAREN EU,UUE,8SIGN WESTERN PWO KAREN TONE-1,T2,T3,T4,T5,
  8LETTER EASTERN PWO KAREN NNA,QYWA,QGHWA,8VOWEL SIGN GEBA KAREN I,CKAYAH OE,IU,IEE,
  8LETTER SHAN KA,EHA,DGA,DCA,DZA,DNYA,DDA,DNA,DPHA,DFA,DBA,DTHA,DHA,
  8CONSONANT SIGN SHAN MEDIAL WA,8VOWEL SIGN SHAN AA,HE,I ABOVE,HFINAL Y,8SIGN SHAN TONE-2,G3,G5,
  G6,BCOUNCIL TONE-2,O3,JEMPHATIC TONE,8LETTER RUMAI PALAUNG FA,8SIGN RUMAI PALAUNG TONE-5,
  9HAN DIGIT ZERO,CONE,CTWO,DHREE,CFOUR,DIVE,CSIX,DEVEN,CEIGHT,CNINE,9IGN KHAMTI TONE-1,I3,
  8VOWEL SIGN AITON A,JI,8SYMBOL SHAN ONE,DEXCLAMATION,0GEORGIAN CAPITAL LETTER AN,HBAN,HGAN,HDON,
  HEN,HVIN,HZEN,HTAN,HIN,HKAN,HLAS,HMAN,HNAR,HON,HPAR,HZHAR,HRAE,HSAN,HTAR,HUN,HPHAR,HKHAR,HGHAN,
  HQAR,HSHIN,HCHIN,IAN,HJIL,HCIL,IHAR,HXAN,HJHAN,HHAE,IE,IIE,HWE,HHAR,IOE,!10C7,HYN,!10CD,HAEN,
  !10D0,9LETTER AN,@BAN,@GAN,@DON,@EN,@VIN,@ZEN,@TAN,@IN,@KAN,@LAS,@MAN,@NAR,@ON,@PAR,@ZHAR,@RAE,
  @SAN,@TAR,@UN,@PHAR,@KHAR,@GHAN,@QAR,@SHIN,@CHIN,AAN,@JIL,@CIL,AHAR,@XAN,@JHAN,@HAE,AE,AIE,@WE,
  @HAR,AOE,@FI,@YN,@ELIFI,@TURNED GAN,@AIN,9PARAGRAPH SEPARATOR,0MODIFIER LETTER GEORGIAN NAR,
  0GEORGIAN LETTER AEN,@HARD SIGN,@LABIAL SIGN,0HANGUL CHOSEONG KIYEOK,@SSANGKIYEOK,@NIEUN,
  @TIKEUT,@SSANGTIKEUT,@RIEUL,@MIEUM,@PIEUP,@SSANGPIEUP,AIOS,ASANGSIOS,@IEUNG,@CIEUC,@SSANGCIEUC,
  @CHIEUCH,@KHIEUKH,@THIEUTH,@PHIEUPH,@HIEUH,@NIEUN-KIYEOK,@SSANGNIEUN,@NIEUN-TIKEUT,FPIEUP,
  @TIKEUT-KIYEOK,@RIEUL-NIEUN,@SSANGRIEUL,@RIEUL-HIEUH,@KAPYEOUNRIEUL,@MIEUM-PIEUP,@KAPYEOUNMIEUM,
  @PIEUP-KIYEOK,FNIEUN,FTIKEUT,FSIOS,J-KIYEOK,KTIKEUT,KPIEUP,GSANGSIOS,GIOS-CIEUC,FCIEUC,GHIEUCH,
  FTHIEUTH,FPHIEUPH,@KAPYEOUNPIEUP,HSSANGPIEUP,@SIOS-KIYEOK,ENIEUN,ETIKEUT,ERIEUL,EMIEUM,EPIEUP,
  J-KIYEOK,ESSANGSIOS,EIEUNG,ECIEUC,FHIEUCH,EKHIEUKH,ETHIEUTH,EPHIEUPH,EHIEUH,@CHITUEUMSIOS,
  ISANGSIOS,AEONGCHIEUMSIOS,LSANGSIOS,@PANSIOS,@IEUNG-KIYEOK,FTIKEUT,FMIEUM,FPIEUP,FSIOS,FPANSIOS,
  @SSANGIEUNG,@IEUNG-CIEUC,GHIEUCH,FTHIEUTH,FPHIEUPH,@YESIEUNG,@CIEUC-IEUNG,AHITUEUMCIEUC,
  HSSANGCIEUC,AEONGCHIEUMCIEUC,KSSANGCIEUC,AHIEUCH-KHIEUKH,HHIEUH,CTUEUMCHIEUCH,
  AEONGCHIEUMCHIEUCH,@PHIEUPH-PIEUP,@KAPYEOUNPHIEUPH,@SSANGHIEUH,@YEORINHIEUH,@KIYEOK-TIKEUT,
  @NIEUN-SIOS,FCIEUC,FHIEUH,@TIKEUT-RIEUL,@FILLER,7JUNGSEONG FILLER,AA,BE,AYA,CE,AEO,B,AYEO,C,AO,
  AWA,CE,AOE,AYO,AU,AWEO,C,BI,AYU,AEU,AYI,AI,AA-O,CU,AYA-O,DYO,AEO-O,DU,DEU,AYEO-O,EU,AO-EO,D,CYE,
  CO,CU,AYO-YA,FE,EEO,DO,DI,AU-A,DE,CEO-EU,CYE,CU,AYU-A,DEO,E,DYEO,F,DU,DI,AEU-U,DEU,AYI-U,AI-A,
  CYA,CO,CU,CEU,CARAEA,AARAEA,F-EO,GU,GI,ASSANGARAEA,AA-EU,AYA-U,BEO-YA,AO-YA,EE,8ONGSEONG KIYEOK,
  ASSANGKIYEOK,AKIYEOK-SIOS,ANIEUN,F-CIEUC,GHIEUH,ATIKEUT,ARIEUL,F-KIYEOK,GMIEUM,GPIEUP,GSIOS,
  GTHIEUTH,GPHIEUPH,GHIEUH,AMIEUM,APIEUP,F-SIOS,ASIOS,BSANGSIOS,AIEUNG,ACIEUC,BHIEUCH,AKHIEUKH,
  ATHIEUTH,APHIEUPH,AHIEUH,AKIYEOK-RIEUL,HSIOS-KIYEOK,ANIEUN-KIYEOK,GTIKEUT,GSIOS,GPANSIOS,
  GTHIEUTH,ATIKEUT-KIYEOK,HRIEUL,ARIEUL-KIYEOK-SIOS,GNIEUN,GTIKEUT,M-HIEUH,ASSANGRIEUL,
  ARIEUL-MIEUM-KIYEOK,MSIOS,GPIEUP-SIOS,MHIEUH,GKAPYEOUNPIEUP,GSSANGSIOS,GPANSIOS,GKHIEUKH,
  GYEORINHIEUH,AMIEUM-KIYEOK,GRIEUL,GPIEUP,GSIOS,HSANGSIOS,GPANSIOS,GCHIEUCH,GHIEUH,
  AKAPYEOUNMIEUM,APIEUP-RIEUL,GPHIEUPH,GHIEUH,AKAPYEOUNPIEUP,ASIOS-KIYEOK,FTIKEUT,FRIEUL,FPIEUP,
  APANSIOS,AIEUNG-KIYEOK,GSSANGKIYEOK,ASSANGIEUNG,AIEUNG-KHIEUKH,AYESIEUNG,I-SIOS,JPANSIOS,
  APHIEUPH-PIEUP,AKAPYEOUNPHIEUPH,AHIEUH-NIEUN,GRIEUL,GMIEUM,GPIEUP,AYEORINHIEUH,AKIYEOK-NIEUN,
  HPIEUP,HCHIEUCH,HKHIEUKH,HHIEUH,ASSANGNIEUN,0ETHIOPIC SYLLABLE HA,CU,CI,CAA,CEE,D,CO,DA,BLA,CU,
  CI,CAA,CEE,D,CO,CWA,BHHA,DU,DI,DAA,DEE,E,DO,DWA,BMA,CU,CI,CAA,CEE,D,CO,CWA,BSZA,DU,DI,DAA,DEE,E,
  DO,DWA,BRA,CU,CI,CAA,CEE,D,CO,CWA,BSA,CU,CI,CAA,CEE,D,CO,CWA,CHA,DU,DI,DAA,DEE,E,DO,DWA,BQA,CU,
  CI,CAA,CEE,D,CO,DA,CWA,!124A,DI,DAA,DEE,E,!1250,CHA,DU,DI,DAA,DEE,E,DO,!1258,DWA,!125A,EI,EAA,
  EEE,F,!1260,BBA,CU,CI,CAA,CEE,D,CO,CWA,BVA,CU,CI,CAA,CEE,D,CO,CWA,BTA,CU,CI,CAA,CEE,D,CO,CWA,
  BCA,CU,CI,CAA,CEE,D,CO,CWA,BXA,CU,CI,CAA,CEE,D,CO,DA,CWA,!128A,DI,DAA,DEE,E,!1290,BNA,CU,CI,CAA,
  CEE,D,CO,CWA,CYA,DU,DI,DAA,DEE,E,DO,DWA,BGLOTTAL A,JU,JI,JAA,JEE,K,JO,JWA,BKA,CU,CI,CAA,CEE,D,
  CO,DA,CWA,!12B2,DI,DAA,DEE,E,!12B8,CXA,DU,DI,DAA,DEE,E,DO,!12C0,DWA,!12C2,EI,EAA,EEE,F,!12C8,
  BWA,CU,CI,CAA,CEE,D,CO,DA,BPHARYNGEAL A,MU,MI,MAA,MEE,N,MO,!12D8,BZA,CU,CI,CAA,CEE,D,CO,CWA,CHA,
  DU,DI,DAA,DEE,E,DO,DWA,BYA,CU,CI,CAA,CEE,D,CO,DA,BDA,CU,CI,CAA,CEE,D,CO,CWA,CDA,DU,DI,DAA,DEE,E,
  DO,DWA,BJA,CU,CI,CAA,CEE,D,CO,CWA,BGA,CU,CI,CAA,CEE,D,CO,DA,CWA,!1312,DI,DAA,DEE,E,!1318,CGA,DU,
  DI,DAA,DEE,E,DO,DWAA,BTHA,DU,DI,DAA,DEE,E,DO,DWA,BCHA,DU,DI,DAA,DEE,E,DO,DWA,BPHA,DU,DI,DAA,DEE,
  E,DO,DWA,BTSA,DU,DI,DAA,DEE,E,DO,DWA,CZA,DU,DI,DAA,DEE,E,DO,EA,BFA,CU,CI,CAA,CEE,D,CO,CWA,BPA,
  CU,CI,CAA,CEE,D,CO,CWA,BRYA,BMYA,BFYA,!135D,9COMBINING GEMINATION AND VOWEL LENGTH MARK,
  CVOWEL LENGTH MARK,CGEMINATION MARK,9SECTION MARK,9WORDSPACE,9FULL STOP,9COMMA,9SEMICOLON,
  9COLON,9PREFACE COLON,9QUESTION MARK,9PARAGRAPH SEPARATOR,9DIGIT ONE,?TWO,@HREE,?FOUR,@IVE,?SIX,
  @EVEN,?EIGHT,?NINE,9NUMBER TEN,AWENTY,AHIRTY,@FORTY,AIFTY,@SIXTY,AEVENTY,@EIGHTY,@NINETY,
  @HUNDRED,@TEN THOUSAND,!1380,9SYLLABLE SEBATBEIT MWA,BMWI,DEE,E,BSEBATBEIT BWA,BBWI,DEE,E,
  BSEBATBEIT FWA,BFWI,DEE,E,BSEBATBEIT PWA,BPWI,DEE,E,9TONAL MARK YIZET,DDERET,DRIKRIK,
  DSHORT RIKRIK,DDIFAT,DKENAT,DCHIRET,DHIDET,DDERET-HIDET,DKURT,!13A0,0CHEROKEE LETTER A,@E,@I,@O,
  @U,@V,@GA,@KA,@GE,AI,AO,AU,AV,@HA,AE,AI,AO,AU,AV,@LA,AE,AI,AO,AU,AV,@MA,AE,AI,AO,AU,@NA,@HNA,
  @NAH,AE,AI,AO,AU,AV,@QUA,BE,BI,BO,BU,BV,@SA,A,AE,AI,AO,AU,AV,@DA,@TA,@DE,@TE,@DI,@TI,@DO,AU,AV,
  ALA,@TLA,BE,BI,BO,BU,BV,ASA,BE,BI,BO,BU,BV,@WA,AE,AI,AO,AU,AV,@YA,AE,AI,AO,AU,AV,@MV,!13F8,
  9SMALL LETTER YE,GI,GO,GU,GV,FMV,!1400,1ANADIAN SYLLABICS HYPHEN,CE,CAAI,CI,DI,CO,DO,CY-CREE OO,
  CCARRIER EE,KI,CA,DA,CWE,EST-CREE WE,DI,DEST-CREE WI,DII,DEST-CREE WII,DO,DEST-CREE WO,DOO,
  DEST-CREE WOO,CNASKAPI WOO,CWA,DEST-CREE WA,DAA,DEST-CREE WAA,CNASKAPI WAA,CAI,CY-CREE W,
  CGLOTTAL STOP,CFINAL ACUTE,IGRAVE,IBOTTOM HALF RING,ITOP HALF RING,IRIGHT HALF RING,KNG,
  IDOUBLE ACUTE,PSHORT VERTICAL STROKES,IMIDDLE DOT,ISHORT HORIZONTAL STROKE,IPLUS,IDOWN TACK,CEN,
  CIN,CON,CAN,CPE,DAAI,DI,EI,DO,EO,CY-CREE POO,CCARRIER HEE,LI,CPA,EA,DWE,CWEST-CREE PWE,CPWI,
  CWEST-CREE PWI,CPWII,CWEST-CREE PWII,CPWO,CWEST-CREE PWO,CPWOO,CWEST-CREE PWOO,CPWA,
  CWEST-CREE PWA,CPWAA,CWEST-CREE PWAA,CY-CREE PWAA,CP,CWEST-CREE P,CCARRIER H,CTE,DAAI,DI,EI,DO,
  EO,CY-CREE TOO,CCARRIER DEE,LI,CTA,EA,DWE,CWEST-CREE TWE,CTWI,CWEST-CREE TWI,CTWII,
  CWEST-CREE TWII,CTWO,CWEST-CREE TWO,CTWOO,CWEST-CREE TWOO,CTWA,CWEST-CREE TWA,CTWAA,
  CWEST-CREE TWAA,CNASKAPI TWAA,CT,DTE,EI,EO,EA,CKE,DAAI,DI,EI,DO,EO,CY-CREE KOO,CKA,EA,DWE,
  CWEST-CREE KWE,CKWI,CWEST-CREE KWI,CKWII,CWEST-CREE KWII,CKWO,CWEST-CREE KWO,CKWOO,
  CWEST-CREE KWOO,CKWA,CWEST-CREE KWA,CKWAA,CWEST-CREE KWAA,CNASKAPI KWAA,CK,DW,CSOUTH-SLAVEY KEH,
  QIH,QOH,QAH,CCE,DAAI,DI,EI,DO,EO,CY-CREE COO,CCA,EA,DWE,CWEST-CREE CWE,CCWI,CWEST-CREE CWI,
  CCWII,CWEST-CREE CWII,CCWO,CWEST-CREE CWO,CCWOO,CWEST-CREE CWOO,CCWA,CWEST-CREE CWA,CCWAA,
  CWEST-CREE CWAA,CNASKAPI CWAA,CC,CSAYISI TH,CME,DAAI,DI,EI,DO,EO,CY-CREE MOO,CMA,EA,DWE,
  CWEST-CREE MWE,CMWI,CWEST-CREE MWI,CMWII,CWEST-CREE MWII,CMWO,CWEST-CREE MWO,CMWOO,
  CWEST-CREE MWOO,CMWA,CWEST-CREE MWA,CMWAA,CWEST-CREE MWAA,CNASKAPI MWAA,CM,CWEST-CREE M,CMH,
  CATHAPASCAN M,CSAYISI M,CNE,DAAI,DI,EI,DO,EO,CY-CREE NOO,CNA,EA,DWE,CWEST-CREE NWE,CNWA,
  CWEST-CREE NWA,CNWAA,CWEST-CREE NWAA,CNASKAPI NWAA,D,CCARRIER NG,CNH,CLE,DAAI,DI,EI,DO,EO,
  CY-CREE LOO,CLA,EA,DWE,CWEST-CREE LWE,CLWI,CWEST-CREE LWI,CLWII,CWEST-CREE LWII,CLWO,
  CWEST-CREE LWO,CLWOO,CWEST-CREE LWOO,CLWA,CWEST-CREE LWA,CLWAA,CWEST-CREE LWAA,CL,CWEST-CREE L,
  CMEDIAL L,CSE,DAAI,DI,EI,DO,EO,CY-CREE SOO,CSA,EA,DWE,CWEST-CREE SWE,CSWI,CWEST-CREE SWI,CSWII,
  CWEST-CREE SWII,CSWO,CWEST-CREE SWO,CSWOO,CWEST-CREE SWOO,CSWA,CWEST-CREE SWA,CSWAA,
  CWEST-CREE SWAA,CNASKAPI SWAA,CS,CATHAPASCAN S,CSW,CBLACKFOOT S,CMOOSE-CREE SK,CNASKAPI SKW,L-W,
  LPWA,LTWA,LKWA,LCWA,CSHE,EI,FI,EO,FO,EA,FA,EWE,CWEST-CREE SHWE,CSHWI,CWEST-CREE SHWI,CSHWII,
  CWEST-CREE SHWII,CSHWO,CWEST-CREE SHWO,CSHWOO,CWEST-CREE SHWOO,CSHWA,CWEST-CREE SHWA,CSHWAA,
  CWEST-CREE SHWAA,CSH,CYE,DAAI,DI,EI,DO,EO,D-CREE YOO,DA,EA,DWE,CWEST-CREE YWE,CYWI,
  CWEST-CREE YWI,CYWII,CWEST-CREE YWII,CYWO,CWEST-CREE YWO,CYWOO,CWEST-CREE YWOO,CYWA,
  CWEST-CREE YWA,CYWAA,CWEST-CREE YWAA,CNASKAPI YWAA,CY,CBIBLE-CREE Y,CWEST-CREE Y,CSAYISI YI,CRE,
  D-CREE RE,CWEST-CREE LE,CRAAI,DI,EI,DO,EO,CWEST-CREE LO,CRA,EA,CWEST-CREE LA,CRWAA,
  CWEST-CREE RWAA,CR,CWEST-CREE R,CMEDIAL R,CFE,DAAI,DI,EI,DO,EO,DA,EA,DWAA,CWEST-CREE FWAA,CF,
  CTHE,CN-CREE THE,CTHI,CN-CREE THI,CTHII,CN-CREE THII,CTHO,FO,EA,FA,EWAA,CWEST-CREE THWAA,CTH,
  DTHE,FI,FO,FA,F,DYE,EI,EO,EA,CNUNAVIK HE,LI,MI,LO,MO,LA,MA,L,HUT H,CHK,CQAAI,DI,EI,DO,EO,DA,EA,
  D,CTLHE,FI,FO,FA,CWEST-CREE RE,NI,NO,NA,CNGAAI,EI,FI,EO,FO,EA,FA,E,DNG,CSAYISI SHE,LI,LO,LA,
  CWOODS-CREE THE,PI,PO,PA,P,CLHI,FI,EO,FO,EA,FA,E,CTH-CREE THE,MI,NI,MO,NO,MA,NA,M,CAIVILIK B,
  CBLACKFOOT E,MI,MO,MA,MWE,NI,NO,NA,MNE,NI,NO,NA,MKE,NI,NO,NA,CSAYISI HE,KI,KO,KA,CCARRIER GHU,
  MO,ME,NE,MI,MA,KRU,LO,LE,ME,LI,LA,KWU,LO,LE,ME,LI,LA,KHWU,MO,ME,NE,MI,MA,KTHU,MO,ME,NE,MI,MA,
  LTU,MO,ME,NE,MI,MA,KPU,LO,LE,ME,LI,LA,L,KGU,LO,LE,ME,LI,LA,KKHU,MO,ME,NE,MI,MA,LKU,MO,ME,NE,MI,
  MA,M,KNU,LO,LE,ME,LI,LA,KMU,LO,LE,ME,LI,LA,KYU,LO,LE,ME,LI,LA,KJU,CSAYISI JU,CCARRIER JO,LE,ME,
  LI,CSAYISI JI,CCARRIER JA,LJU,MO,ME,NE,MI,MA,KLU,LO,LE,ME,LI,LA,KDLU,MO,ME,NE,MI,MA,KLHU,MO,ME,
  NE,MI,MA,KTLHU,NO,NE,OE,NI,NA,MU,MO,ME,NE,MI,MA,KZU,LO,LE,ME,LI,LA,L,KINITIAL Z,KDZU,MO,ME,NE,
  MI,MA,KSU,LO,LE,ME,LI,LA,LHU,MO,ME,NE,MI,MA,M,KTSU,MO,ME,NE,MI,MA,KCHU,MO,ME,NE,MI,MA,KTTSU,NO,
  NE,OE,NI,NA,DHI SIGN,CFULL STOP,CQAI,CNGAI,DNGI,GI,FO,GO,FA,GA,CWOODS-CREE THWEE,QI,RI,QO,RO,QA,
  RA,NFINAL TH,CBLACKFOOT W,0OGHAM SPACE MARK,6LETTER BEITH,=LUIS,=FEARN,=SAIL,=NION,=UATH,=DAIR,
  =TINNE,=COLL,>EIRT,=MUIN,=GORT,=NGEADAL,=STRAIF,=RUIS,=AILM,=ONN,=UR,=EADHADH,=IODHADH,=EABHADH,
  =OR,=UILLEANN,=IFIN,=EAMHANCHOLL,=PEITH,6FEATHER MARK,6REVERSED FEATHER MARK,!16A0,
  0RUNIC LETTER FEHU FEOH FE F,=V,=URUZ UR U,=YR,>,=W,=THURISAZ THURS THORN,=ETH,=ANSUZ A,=OS O,
  =AC A,>ESC,=LONG-BRANCH-OSS O,=SHORT-TWIG-OSS O,=O,>E,>N,=RAIDO RAD REID R,=KAUNA,=CEN,=KAUN K,
  =G,=ENG,=GEBO GYFU G,>AR,=WUNJO WYNN W,=HAGLAZ H,?EGL H,=LONG-BRANCH-HAGALL H,
  =SHORT-TWIG-HAGALL H,=NAUDIZ NYD NAUD N,=SHORT-TWIG-NAUD N,=DOTTED-N,=ISAZ IS ISS I,=E,=JERAN J,
  =GER,=LONG-BRANCH-AR AE,=SHORT-TWIG-AR A,=IWAZ EOH,=PERTHO PEORTH P,=ALGIZ EOLHX,=SOWILO S,
  >IGEL LONG-BRANCH-SOL S,>HORT-TWIG-SOL S,=C,=Z,=TIWAZ TIR TYR T,=SHORT-TWIG-TYR T,=D,
  =BERKANAN BEORC BJARKAN B,=SHORT-TWIG-BJARKAN B,=DOTTED-P,=OPEN-P,=EHWAZ EH E,=MANNAZ MAN M,
  =LONG-BRANCH-MADR M,=SHORT-TWIG-MADR M,=LAUKAZ LAGU LOGR L,=DOTTED-L,=INGWAZ,@,=DAGAZ DAEG D,
  =OTHALAN ETHEL O,=EAR,=IOR,=CWEORTH,>ALC,>EALC,=STAN,=LONG-BRANCH-YR,=SHORT-TWIG-YR,
  =ICELANDIC-YR,=Q,=X,6SINGLE PUNCTUATION,6MULTIPLE PUNCTUATION,6CROSS PUNCTUATION,6ARLAUG SYMBOL,
  6TVIMADUR SYMBOL,6BELGTHOR SYMBOL,6LETTER K,=SH,=OO,=FRANKS CASKET OS,KIS,KEH,KAC,LESC,!1700,
  0TAGALOG LETTER A,?I,?U,?KA,?GA,?NGA,?TA,?DA,?NA,?PA,?BA,?MA,?YA,?RA,?LA,?WA,?SA,?HA,
  8VOWEL SIGN I,CU,8SIGN VIRAMA,=PAMUDPOD,!171F,8LETTER ARCHAIC RA,0HANUNOO LETTER A,?I,?U,?KA,
  ?GA,?NGA,?TA,?DA,?NA,?PA,?BA,?MA,?YA,?RA,?LA,?WA,?SA,?HA,8VOWEL SIGN I,CU,8SIGN PAMUDPOD,
  0PHILIPPINE SINGLE PUNCTUATION,;DOUBLE PUNCTUATION,!1740,0BUHID LETTER A,=I,=U,=KA,=GA,=NGA,=TA,
  =DA,=NA,=PA,=BA,=MA,=YA,=RA,=LA,=WA,=SA,=HA,6VOWEL SIGN I,AU,!1760,0TAGBANWA LETTER A,@I,@U,@KA,
  @GA,@NGA,@TA,@DA,@NA,@PA,@BA,@MA,@YA,!176E,@LA,@WA,@SA,!1772,9VOWEL SIGN I,DU,!1780,
  0KHMER LETTER KA,>HA,>O,>HO,=NGO,=CA,>HA,>O,>HO,=NYO,=DA,=TTHA,=DO,=TTHO,=NNO,=TA,>HA,>O,>HO,
  =NO,=BA,=PHA,>O,>HO,=MO,=YO,=RO,=LO,=VO,=SHA,>SO,>A,=HA,=LA,=QA,6INDEPENDENT VOWEL QAQ,JA,II,JI,
  IU,JK,JU,KV,HRY,JY,HLY,JY,HQE,IAI,IOO TYPE ONE,QTWO,IAU,6VOWEL INHERENT AQ,FA,<SIGN AA,AI,BI,AY,
  BY,AU,BU,BA,AOE,AYA,AIE,AE,AAE,BI,AOO,AAU,6SIGN NIKAHIT,;REAHMUK,;YUUKALEAPINTU,;MUUSIKATOAN,
  ;TRIISAP,;BANTOC,;ROBAT,;TOANDAKHIAT,;KAKABAT,;AHSDA,;SAMYOK SANNYA,;VIRIAM,;COENG,;BATHAMASAT,
  ;KHAN,;BARIYOOSAN,;CAMNUC PII KUUH,;LEK TOO,;BEYYAL,;PHNAEK MUAN,;KOOMUUT,6CURRENCY SYMBOL RIEL,
  6SIGN AVAKRAHASANYA,<TTHACAN,!17E0,6DIGIT ZERO,<ONE,<TWO,=HREE,<FOUR,=IVE,<SIX,=EVEN,<EIGHT,
  <NINE,!17F0,6SYMBOL LEK ATTAK SON,GMUOY,GPII,GBEI,HUON,GPRAM,K-MUOY,LPII,LBEI,MUON,!1800,
  0MONGOLIAN BIRGA,:ELLIPSIS,:COMMA,:FULL STOP,:COLON,:FOUR DOTS,:TODO SOFT HYPHEN,
  :SIBE SYLLABLE BOUNDARY MARKER,:MANCHU COMMA,AFULL STOP,:NIRUGU,:FREE VARIATION SELECTOR ONE,
  RTWO,SHREE,:VOWEL SEPARATOR,:FREE VARIATION SELECTOR FOUR,:DIGIT ZERO,@ONE,@TWO,AHREE,@FOUR,
  AIVE,@SIX,AEVEN,@EIGHT,@NINE,!1820,:LETTER A,AE,AI,AO,AU,AOE,AUE,AEE,ANA,AANG,ABA,APA,AQA,AGA,
  AMA,ALA,ASA,BHA,ATA,ADA,ACHA,AJA,AYA,ARA,AWA,AFA,AKA,BHA,ATSA,AZA,AHAA,AZRA,ALHA,AZHI,ACHI,
  ATODO LONG VOWEL SIGN,FE,FI,FO,FU,FOE,FUE,FANG,FBA,FPA,FQA,FGA,FMA,FTA,FDA,FCHA,FJA,FTSA,FYA,
  FWA,FKA,FGAA,FHAA,FJIA,FNIA,FDZA,ASIBE E,FI,GY,FUE,G,FANG,FKA,FGA,FHA,FPA,FSHA,FTA,FDA,FJA,FFA,
  FGAA,FHAA,FTSA,FZA,FRAA,FCHA,FZHA,AMANCHU I,HKA,HRA,HFA,HZHA,ACHA WITH TWO DOTS,!1880,
  AALI GALI ANUSVARA ONE,JVISARGA ONE,JDAMARU,JUBADAMA,JINVERTED UBADAMA,JBALUDA,JTHREE BALUDA,JA,
  JI,JKA,JNGA,JCA,JTTA,LHA,JDDA,JNNA,JTA,JDA,JPA,KHA,JSSA,JZHA,KA,JAH,ATODO ALI GALI TA,OZHA,
  AMANCHU ALI GALI GHA,QNGA,QCA,QJHA,QTTA,QDDHA,QTA,QDHA,QSSA,QCYA,QZHA,RA,AALI GALI HALF U,OYA,
  AMANCHU ALI GALI BHA,AALI GALI DAGALGA,AMANCHU ALI GALI LHA,!18B0,0CANADIAN SYLLABICS OY,CAY,
  DAY,CWAY,CPOY,DAY,DWOY,CTAY,CKAY,DWAY,CMAY,CNOY,DAY,CLAY,CSOY,DAY,DHOY,EAY,EWOY,CYOY,DAY,CRAY,
  CNWI,COJIBWAY NWI,CNWII,COJIBWAY NWII,CNWO,COJIBWAY NWO,CNWOO,COJIBWAY NWOO,CRWEE,EI,FI,EO,FO,
  EA,COJIBWAY P,KT,KK,KC,KM,KN,KS,LH,CEASTERN W,CWESTERN W,CFINAL SMALL RING,IRAISED DOT,
  CR-CREE RWE,CWEST-CREE LOO,NAA,CTHWE,FA,DTHWE,FOO,FAA,DLHWE,FOO,CSAYISI SHWE,LOO,JHOO,
  CCARRIER GWU,KDENE GEE,KGAA,LWA,CSAYISI JUU,CCARRIER JWA,CBEAVER DENE L,OR,CCARRIER DENTAL S,
  !1900,0LIMBU VOWEL-CARRIER LETTER,6LETTER KA,>HA,=GA,>HA,=NGA,=CA,>HA,=JA,>HA,=YAN,=TA,>HA,=DA,
  >HA,=NA,=PA,>HA,=BA,>HA,=MA,=YA,=RA,=LA,=WA,=SHA,>SA,>A,=HA,=GYAN,=TRA,!1920,6VOWEL SIGN A,AI,
  AU,AEE,AAI,AOO,AAU,AE,AO,6SUBJOINED LETTER YA,GRA,GWA,!1930,7MALL LETTER KA,CNGA,CANUSVARA,CTA,
  CNA,CPA,CMA,CRA,CLA,7IGN MUKPHRENG,;KEMPHRENG,;SA-I,!1940,;LOO,!1944,6EXCLAMATION MARK,
  6QUESTION MARK,6DIGIT ZERO,<ONE,<TWO,=HREE,<FOUR,=IVE,<SIX,=EVEN,<EIGHT,<NINE,0TAI LE LETTER KA,
  >XA,>NGA,>TSA,>SA,>YA,>TA,?HA,>LA,>PA,?HA,>MA,>FA,>VA,>HA,>QA,>KHA,>TSHA,>NA,>A,>I,>EE,?H,>U,
  >OO,?,>UE,>E,>AUE,?I,!1970,>TONE-2,C3,C4,C5,C6,!1980,0NEW TAI LUE LETTER HIGH QA,CLOW QA,
  CHIGH KA,HXA,HNGA,CLOW KA,GXA,GNGA,CHIGH TSA,HSA,HYA,CLOW TSA,GSA,GYA,CHIGH TA,IHA,HNA,CLOW TA,
  HHA,GNA,CHIGH PA,IHA,HMA,CLOW PA,HHA,GMA,CHIGH FA,HVA,HLA,CLOW FA,GVA,GLA,CHIGH HA,HDA,HBA,
  CLOW HA,GDA,GBA,CHIGH KVA,HXVA,CLOW KVA,GXVA,CHIGH SUA,CLOW SUA,!19B0,
  <VOWEL SIGN VOWEL SHORTENER,GAA,GII,GU,HU,GE,GAE,GO,HA,GUE,GAY,HAY,GUY,GOY,HAY,GUEY,GIY,
  <LETTER FINAL V,ING,J,IM,IK,ID,IB,<TONE MARK-1,F2,!19D0,<DIGIT ZERO,BONE,BTWO,CHREE,BFOUR,CIVE,
  BSIX,CEVEN,BEIGHT,BNINE,<THAM DIGIT ONE,!19DE,<SIGN LAE,DV,0KHMER SYMBOL PATHAMASAT,=MUOY KOET,
  =PII KOET,=BEI KOET,>UON KOET,=PRAM KOET,A-MUOY KOET,BPII KOET,BBEI KOET,CUON KOET,=DAP KOET,
  @-MUOY KOET,APII KOET,ABEI KOET,BUON KOET,APRAM KOET,=TUTEYASAT,=MUOY ROC,=PII ROC,=BEI ROC,
  >UON ROC,=PRAM ROC,A-MUOY ROC,BPII ROC,BBEI ROC,CUON ROC,=DAP ROC,@-MUOY ROC,APII ROC,ABEI ROC,
  BUON ROC,APRAM ROC,0BUGINESE LETTER KA,@GA,@NGA,BKA,@PA,@BA,@MA,APA,@TA,@DA,@NA,ARA,@CA,@JA,
  @NYA,BCA,@YA,@RA,@LA,@VA,@SA,@A,@HA,9VOWEL SIGN I,DU,DE,DO,DAE,!1A1E,9PALLAWA,9END OF SECTION,
  0TAI THAM LETTER HIGH KA,FHA,FXA,@LOW KA,EXA,EHA,@NGA,@HIGH CA,FHA,@LOW CA,DSA,DCHA,@NYA,@RATA,
  @HIGH RATHA,@DA,@LOW RATHA,@RANA,@HIGH TA,FHA,@LOW TA,EHA,@NA,@BA,@HIGH PA,FHA,EFA,@LOW PA,DFA,
  DPHA,@MA,@LOW YA,@HIGH YA,@RA,AUE,@LA,AUE,@WA,@HIGH SHA,FSA,FA,EHA,@LLA,@A,@LOW HA,@I,AI,@U,AU,
  @EE,@OO,@LAE,@GREAT SA,9CONSONANT SIGN MEDIAL RA,OLA,HLA TANG LAI,9SIGN MAI KANG LAI,
  9CONSONANT SIGN FINAL NGA,HLOW PA,HHIGH RATHA OR LOW PA,HMA,HBA,HSA,!1A60,9SIGN SAKOT,
  9VOWEL SIGN A,DMAI SAT,DAA,DTALL AA,DI,EI,DUE,EUE,E,EU,DO,EA BELOW,EY,DE,DAE,DOO,DAI,DTHAM AI,
  DOA ABOVE,9SIGN MAI KANG,>TONE-1,C2,>KHUEN TONE-3,I4,I5,>RA HAAM,>MAI SAM,>KHUEN-LUE KARAN,
  !1A7F,9COMBINING CRYPTOGRAMMIC DOT,9HORA DIGIT ZERO,DONE,DTWO,EHREE,DFOUR,EIVE,DSIX,EEVEN,
  DEIGHT,DNINE,!1A90,9THAM DIGIT ZERO,DONE,DTWO,EHREE,DFOUR,EIVE,DSIX,EEVEN,DEIGHT,DNINE,!1AA0,
  9SIGN WIANG,CWAAK,>SAWAN,>KEOW,>HOY,>DOKMAI,>REVERSED ROTATED RANA,>MAI YAMOK,>KAAN,BKUU,
  >SATKAAN,EKUU,>HANG,>CAANG,!1AB0,0COMBINING DOUBLED CIRCUMFLEX ACCENT,;IAERESIS-RING,:INFINITY,
  :DOWNWARDS ARROW,:TRIPLE DOT,:X-X BELOW,:WIGGLY LINE BELOW,:OPEN MARK BELOW,
  :DOUBLE OPEN MARK BELOW,:LIGHT CENTRALIZATION STROKE BELOW,:STRONG CENTRALIZATION STROKE BELOW,
  :PARENTHESES ABOVE,:DOUBLE PARENTHESES ABOVE,:PARENTHESES BELOW,FOVERLAY,
  :LATIN SMALL LETTER W BELOW,MTURNED W BELOW,;EFT PARENTHESIS ABOVE LEFT,
  :RIGHT PARENTHESIS ABOVE RIGHT,:LEFT PARENTHESIS BELOW LEFT,:RIGHT PARENTHESIS BELOW RIGHT,
  :SQUARE BRACKETS ABOVE,:NUMBER SIGN ABOVE,:INVERTED DOUBLE ARCH ABOVE,:PLUS SIGN ABOVE,
  :DOUBLE PLUS SIGN ABOVE,KBELOW,:TRIPLE ACUTE ACCENT,:LATIN SMALL LETTER INSULAR G,UR,UT,!1B00,
  0BALINESE SIGN ULU RICEM,BCANDRA,>CECEK,>SURANG,>BISAH,9LETTER AKARA,E TEDUNG,@IKARA,E TEDUNG,
  @UKARA,E TEDUNG,@RA REPA,G TEDUNG,@LA LENGA,H TEDUNG,@EKARA,@AIKARA,@OKARA,E TEDUNG,@KA,
  B MAHAPRANA,@GA,B GORA,@NGA,@CA,B LACA,@JA,B JERA,@NYA,@TA LATIK,CMURDA MAHAPRANA,
  @DA MURDA ALPAPRANA,IMAHAPRANA,@NA RAMBAT,@TA,B TAWA,@DA,B MADU,@NA,@PA,B KAPAL,@BA,B KEMBANG,
  @MA,@YA,@RA,@LA,@WA,@SA SAGA,EPA,B,@HA,9SIGN REREKAN,9VOWEL SIGN TEDUNG,DULU,G SARI,DSUKU,
  H ILUT,DRA REPA,K TEDUNG,DLA LENGA,L TEDUNG,DTALING,J REPA,KTEDUNG,KREPA TEDUNG,DPEPET,I TEDUNG,
  9ADEG ADEG,9LETTER KAF SASAK,AHOT SASAK,@TZIR SASAK,@EF SASAK,@VE SASAK,@ZAL SASAK,
  @ASYURA SASAK,ARCHAIC JNYA,!1B50,9DIGIT ZERO,?ONE,?TWO,@HREE,?FOUR,@IVE,?SIX,@EVEN,?EIGHT,?NINE,
  9PANTI,;MADA,9WINDU,9CARIK PAMUNGKAH,?SIKI,?PAREREN,9PAMENENG,9MUSICAL SYMBOL DONG,IENG,IUNG,
  IANG,L SURANG,IING,IAENG,IEUNG,IAING,JNG GEDE,HCOMBINING TEGEH,RENDEP,RKEMPUL,VLI,RJEGOGAN,
  RKEMPUL WITH JEGOGAN,VLI WITH JEGOGAN,RBENDE,RGONG,HRIGHT-HAND OPEN DUG,YAG,SCLOSED TUK,[AK,
  HLEFT-HAND OPEN PANG,XUNG,RCLOSED PLAK,[UK,ROPEN PING,9PANTI LANTANG,;MADA LANTANG,!1B80,
  0SUNDANESE SIGN PANYECEK,BGLAYAR,CWISAD,:LETTER A,AI,AU,AAE,AO,AE,BU,AKA,AQA,AGA,ANGA,ACA,AJA,
  AZA,ANYA,ATA,ADA,ANA,APA,AFA,AVA,ABA,AMA,AYA,ARA,ALA,AWA,ASA,AXA,AHA,:CONSONANT SIGN PAMINGKAL,
  KNYAKRA,MIKU,:VOWEL SIGN PANGHULU,HYUKU,HAELAENG,HOLONG,GMEPET,GNEULEUNG,:SIGN PAMAAEH,?VIRAMA,
  :CONSONANT SIGN PASANGAN MA,RWA,:LETTER KHA,ASYA,:DIGIT ZERO,@ONE,@TWO,AHREE,@FOUR,AIVE,@SIX,
  AEVEN,@EIGHT,@NINE,:AVAGRAHA,:LETTER REU,ALEU,ABHA,AFINAL K,GM,0BATAK LETTER A,=SIMALUNGUN A,
  =HA,=SIMALUNGUN HA,=MANDAILING HA,=BA,=KARO BA,=PA,=SIMALUNGUN PA,=NA,=MANDAILING NA,=WA,
  =SIMALUNGUN WA,=PAKPAK WA,=GA,=SIMALUNGUN GA,=JA,=DA,=RA,=SIMALUNGUN RA,=MA,=SIMALUNGUN MA,
  >OUTHERN TA,=NORTHERN TA,=SA,>IMALUNGUN SA,=MANDAILING SA,=YA,=SIMALUNGUN YA,=NGA,=LA,
  =SIMALUNGUN LA,=NYA,=CA,=NDA,=MBA,=I,=U,6SIGN TOMPI,6VOWEL SIGN E,APAKPAK E,AEE,AI,AKARO I,AO,
  AKARO O,AU,B FOR SIMALUNGUN SA,6CONSONANT SIGN NG,EH,6PANGOLAT,9ONGONAN,!1BFC,
  6SYMBOL BINDU NA METEK,CPINARBORAS,CJUDUL,CPANGOLAT,0LEPCHA LETTER KA,?LA,?HA,>GA,?LA,>NGA,>CA,
  ?HA,>JA,>NYA,>TA,?HA,>DA,>NA,>PA,?LA,?HA,>FA,?LA,>BA,?LA,>MA,?LA,>TSA,@HA,>DZA,>YA,>RA,>LA,>HA,
  ?LA,>VA,>SA,?HA,>WA,>A,7SUBJOINED LETTER YA,HRA,7VOWEL SIGN AA,BI,BO,CO,BU,CU,BE,
  7CONSONANT SIGN K,FM,FL,FN,FP,FR,FT,FNYIN-DO,FKANG,7SIGN RAN,<NUKTA,!1C3B,7PUNCTUATION TA-ROL,
  CNYET THYOOM TA-ROL,CCER-WA,CTSHOOK CER-WA,I,7DIGIT ZERO,=ONE,=TWO,>HREE,=FOUR,>IVE,=SIX,>EVEN,
  =EIGHT,=NINE,!1C4D,7LETTER TTA,@HA,>DDA,0OL CHIKI DIGIT ZERO,?ONE,?TWO,@HREE,?FOUR,@IVE,?SIX,
  @EVEN,?EIGHT,?NINE,9LETTER LA,@AT,AG,ANG,AL,@LAA,@AAK,BJ,BM,BW,@LI,@IS,AH,ANY,AR,@LU,@UC,AD,ANN,
  AY,@LE,@EP,ADD,AN,ARR,@LO,@OTT,AB,AV,AH,9MU TTUDDAG,9GAAHLAA TTUDDAAG,9MU-GAAHLAA TTUDDAAG,
  9RELAA,9PHAARKAA,9AHAD,9PUNCTUATION MUCAAD,EDOUBLE MUCAAD,0CYRILLIC SMALL LETTER ROUNDED VE,
  FLONG-LEGGED DE,FNARROW O,FWIDE ES,FTALL TE,GHREE-LEGGED TE,GALL HARD SIGN,KYAT,FUNBLENDED UK,
  !1C90,0GEORGIAN MTAVRULI CAPITAL LETTER AN,QBAN,QGAN,QDON,QEN,QVIN,QZEN,QTAN,QIN,QKAN,QLAS,QMAN,
  QNAR,QON,QPAR,QZHAR,QRAE,QSAN,QTAR,QUN,QPHAR,QKHAR,QGHAN,QQAR,QSHIN,QCHIN,RAN,QJIL,QCIL,RHAR,
  QXAN,QJHAN,QHAE,RE,RIE,QWE,QHAR,ROE,QFI,QYN,QELIFI,QTURNED GAN,QAIN,!1CBD,REN,QHARD SIGN,
  QLABIAL SIGN,0SUNDANESE PUNCTUATION BINDU SURYA,LPANGLONG,MURNAMA,LCAKRA,LLEU SATANGA,
  LKA SATANGA,LDA SATANGA,LBA SATANGA,!1CD0,0VEDIC TONE KARSHANA,;SHARA,;PRENKHA,6SIGN NIHSHVASA,
  ;YAJURVEDIC MIDLINE SVARITA,6TONE YAJURVEDIC AGGRAVATED INDEPENDENT SVARITA,
  FINDEPENDENT SVARITA,FKATHAKA INDEPENDENT SVARITA,;CANDRA BELOW,
  ;YAJURVEDIC KATHAKA INDEPENDENT SVARITA SCHROEDER,;DOUBLE SVARITA,;TRIPLE SVARITA,
  ;KATHAKA ANUDATTA,;DOT BELOW,;TWO DOTS BELOW,<HREE DOTS BELOW,
  ;RIGVEDIC KASHMIRI INDEPENDENT SVARITA,;ATHARVAVEDIC INDEPENDENT SVARITA,6SIGN VISARGA SVARITA,
  CUDATTA,;REVERSED VISARGA UDATTA,;VISARGA ANUDATTA,;REVERSED VISARGA ANUDATTA,
  ;VISARGA UDATTA WITH TAIL,CANUDATTA WITH TAIL,;ANUSVARA ANTARGOMUKHA,DBAHIRGOMUKHA,DVAMAGOMUKHA,
  O WITH TAIL,;TIRYAK,;HEXIFORM LONG ANUSVARA,;LONG ANUSVARA,;RTHANG LONG ANUSVARA,
  ;ANUSVARA UBHAYATO MUKHA,<RDHAVISARGA,;ROTATED ARDHAVISARGA,6TONE CANDRA ABOVE,
  6SIGN JIHVAMULIYA,;UPADHMANIYA,;ATIKRAMA,6TONE RING ABOVE,;DOUBLE RING ABOVE,
  6SIGN DOUBLE ANUSVARA ANTARGOMUKHA,!1D00,0LATIN LETTER SMALL CAPITAL A,LE,
  6SMALL LETTER TURNED AE,6LETTER SMALL CAPITAL BARRED B,KC,KD,KETH,L,6SMALL LETTER TURNED OPEN E,
  JI,6LETTER SMALL CAPITAL J,KK,KL WITH STROKE,KM,KREVERSED N,KO,LPEN O,6SMALL LETTER SIDEWAYS O,
  MPEN O,M WITH STROKE,CTURNED OE,6LETTER SMALL CAPITAL OU,6SMALL LETTER TOP HALF O,
  CBOTTOM HALF O,6LETTER SMALL CAPITAL P,KREVERSED R,KTURNED R,L,KU,6SMALL LETTER SIDEWAYS U,
  LDIAERESIZED U,LTURNED M,6LETTER SMALL CAPITAL V,KW,KZ,KEZH,=VOICED LARYNGEAL SPIRANT,=AIN,
  0GREEK LETTER SMALL CAPITAL GAMMA,KLAMDA,KPI,KRHO,KPSI,0CYRILLIC LETTER SMALL CAPITAL EL,
  0MODIFIER LETTER CAPITAL A,IE,HB,IARRED B,HD,HE,HREVERSED E,HG,HH,HI,HJ,HK,HL,HM,HN,HREVERSED N,
  HO,IU,HP,HR,HT,HU,HW,@SMALL A,FTURNED A,FALPHA,FTURNED AE,FB,FD,FE,FSCHWA,FOPEN E,
  FTURNED OPEN E,FG,FTURNED I,FK,FM,FENG,FO,GPEN O,FTOP HALF O,FBOTTOM HALF O,FP,FT,FU,
  FSIDEWAYS U,FTURNED M,FV,FAIN,FBETA,FGREEK GAMMA,FDELTA,FGREEK PHI,FCHI,
  0LATIN SUBSCRIPT SMALL LETTER I,MR,MU,MV,0GREEK SUBSCRIPT SMALL LETTER BETA,MGAMMA,MRHO,MPHI,
  MCHI,0LATIN SMALL LETTER UE,CB WITH MIDDLE TILDE,CD WITH MIDDLE TILDE,CF WITH MIDDLE TILDE,
  CM WITH MIDDLE TILDE,CN WITH MIDDLE TILDE,CP WITH MIDDLE TILDE,CR WITH MIDDLE TILDE,
  JFISHHOOK AND MIDDLE TILDE,CS WITH MIDDLE TILDE,CT WITH MIDDLE TILDE,CZ WITH MIDDLE TILDE,
  CTURNED G,0MODIFIER LETTER CYRILLIC EN,0LATIN SMALL LETTER INSULAR G,CTH WITH STRIKETHROUGH,
  <CAPITAL LETTER I WITH STROKE,<LETTER IOTA WITH STROKE,CP WITH STROKE,
  <CAPITAL LETTER U WITH STROKE,<LETTER UPSILON WITH STROKE,CB WITH PALATAL HOOK,
  CD WITH PALATAL HOOK,CF WITH PALATAL HOOK,CG WITH PALATAL HOOK,CK WITH PALATAL HOOK,
  CL WITH PALATAL HOOK,CM WITH PALATAL HOOK,CN WITH PALATAL HOOK,CP WITH PALATAL HOOK,
  CR WITH PALATAL HOOK,CS WITH PALATAL HOOK,CESH WITH PALATAL HOOK,CV WITH PALATAL HOOK,
  CX WITH PALATAL HOOK,CZ WITH PALATAL HOOK,CA WITH RETROFLEX HOOK,DLPHA WITH RETROFLEX HOOK,
  CD WITH HOOK AND TAIL,CE WITH RETROFLEX HOOK,COPEN E WITH RETROFLEX HOOK,
  CREVERSED OPEN E WITH RETROFLEX HOOK,CSCHWA WITH RETROFLEX HOOK,CI WITH RETROFLEX HOOK,
  COPEN O WITH RETROFLEX HOOK,CESH WITH RETROFLEX HOOK,CU WITH RETROFLEX HOOK,
  CEZH WITH RETROFLEX HOOK,0MODIFIER LETTER SMALL TURNED ALPHA,FC,G WITH CURL,FETH,
  FREVERSED OPEN E,FF,FDOTLESS J WITH STROKE,FSCRIPT G,FTURNED H,FI WITH STROKE,GOTA,FCAPITAL I,
  O WITH STROKE,FJ WITH CROSSED-TAIL,FL WITH RETROFLEX HOOK,MPALATAL HOOK,FCAPITAL L,FM WITH HOOK,
  FTURNED M WITH LONG LEG,FN WITH LEFT HOOK,MRETROFLEX HOOK,FCAPITAL N,FBARRED O,FPHI,
  FS WITH HOOK,FESH,FT WITH PALATAL HOOK,FU BAR,GPSILON,FCAPITAL U,FV WITH HOOK,FTURNED V,FZ,
  G WITH RETROFLEX HOOK,MCURL,FEZH,FTHETA,0COMBINING DOTTED GRAVE ACCENT,AACUTE ACCENT,
  :SNAKE BELOW,;USPENSION MARK,:MACRON-ACUTE,:GRAVE-MACRON,:MACRON-GRAVE,:ACUTE-MACRON,
  :GRAVE-ACUTE-GRAVE,:ACUTE-GRAVE-ACUTE,:LATIN SMALL LETTER R BELOW,:BREVE-MACRON,:MACRON-BREVE,
  :DOUBLE CIRCUMFLEX ABOVE,:OGONEK ABOVE,:ZIGZAG BELOW,:IS BELOW,:UR ABOVE,;S ABOVE,
  :LATIN SMALL LETTER FLATTENED OPEN A ABOVE,MAE,NO,NV,MC CEDILLA,MINSULAR D,METH,MG,
  @LETTER SMALL CAPITAL G,@SMALL LETTER K,ML,@LETTER SMALL CAPITAL L,UM,@SMALL LETTER N,
  @LETTER SMALL CAPITAL N,UR,@SMALL LETTER R ROTUNDA,MS,MLONG S,MZ,MALPHA,MB,NETA,MSCHWA,MF,
  ML WITH DOUBLE MIDDLE TILDE,MO WITH LIGHT CENTRALIZATION STROKE,MP,MESH,
  MU WITH LIGHT CENTRALIZATION STROKE,MW,MA WITH DIAERESIS,MO WITH DIAERESIS,MU WITH DIAERESIS,
  :UP TACK ABOVE,:KAVYKA ABOVE RIGHT,GLEFT,:DOT ABOVE LEFT,:WIDE INVERTED BRIDGE BELOW,
  :DOT BELOW LEFT,;ELETION MARK,;OUBLE INVERTED BREVE BELOW,:ALMOST EQUAL TO BELOW,
  :LEFT ARROWHEAD ABOVE,:RIGHT ARROWHEAD AND DOWN ARROWHEAD BELOW,
  0LATIN CAPITAL LETTER A WITH RING BELOW,6SMALL LETTER A WITH RING BELOW,
  6CAPITAL LETTER B WITH DOT ABOVE,6SMALL LETTER B WITH DOT ABOVE,
  6CAPITAL LETTER B WITH DOT BELOW,6SMALL LETTER B WITH DOT BELOW,
  6CAPITAL LETTER B WITH LINE BELOW,6SMALL LETTER B WITH LINE BELOW,
  6CAPITAL LETTER C WITH CEDILLA AND ACUTE,6SMALL LETTER C WITH CEDILLA AND ACUTE,
  6CAPITAL LETTER D WITH DOT ABOVE,6SMALL LETTER D WITH DOT ABOVE,
  6CAPITAL LETTER D WITH DOT BELOW,6SMALL LETTER D WITH DOT BELOW,
  6CAPITAL LETTER D WITH LINE BELOW,6SMALL LETTER D WITH LINE BELOW,
  6CAPITAL LETTER D WITH CEDILLA,6SMALL LETTER D WITH CEDILLA,
  6CAPITAL LETTER D WITH CIRCUMFLEX BELOW,6SMALL LETTER D WITH CIRCUMFLEX BELOW,
  6CAPITAL LETTER E WITH MACRON AND GRAVE,6SMALL LETTER E WITH MACRON AND GRAVE,
  6CAPITAL LETTER E WITH MACRON AND ACUTE,6SMALL LETTER E WITH MACRON AND ACUTE,
  6CAPITAL LETTER E WITH CIRCUMFLEX BELOW,6SMALL LETTER E WITH CIRCUMFLEX BELOW,
  6CAPITAL LETTER E WITH TILDE BELOW,6SMALL LETTER E WITH TILDE BELOW,
  6CAPITAL LETTER E WITH CEDILLA AND BREVE,6SMALL LETTER E WITH CEDILLA AND BREVE,
  6CAPITAL LETTER F WITH DOT ABOVE,6SMALL LETTER F WITH DOT ABOVE,6CAPITAL LETTER G WITH MACRON,
  6SMALL LETTER G WITH MACRON,6CAPITAL LETTER H WITH DOT ABOVE,6SMALL LETTER H WITH DOT ABOVE,
  6CAPITAL LETTER H WITH DOT BELOW,6SMALL LETTER H WITH DOT BELOW,
  6CAPITAL LETTER H WITH DIAERESIS,6SMALL LETTER H WITH DIAERESIS,6CAPITAL LETTER H WITH CEDILLA,
  6SMALL LETTER H WITH CEDILLA,6CAPITAL LETTER H WITH BREVE BELOW,
  6SMALL LETTER H WITH BREVE BELOW,6CAPITAL LETTER I WITH TILDE BELOW,
  6SMALL LETTER I WITH TILDE BELOW,6CAPITAL LETTER I WITH DIAERESIS AND ACUTE,
  6SMALL LETTER I WITH DIAERESIS AND ACUTE,6CAPITAL LETTER K WITH ACUTE,
  6SMALL LETTER K WITH ACUTE,6CAPITAL LETTER K WITH DOT BELOW,6SMALL LETTER K WITH DOT BELOW,
  6CAPITAL LETTER K WITH LINE BELOW,6SMALL LETTER K WITH LINE BELOW,
  6CAPITAL LETTER L WITH DOT BELOW,6SMALL LETTER L WITH DOT BELOW,
  6CAPITAL LETTER L WITH DOT BELOW AND MACRON,6SMALL LETTER L WITH DOT BELOW AND MACRON,
  6CAPITAL LETTER L WITH LINE BELOW,6SMALL LETTER L WITH LINE BELOW,
  6CAPITAL LETTER L WITH CIRCUMFLEX BELOW,6SMALL LETTER L WITH CIRCUMFLEX BELOW,
  6CAPITAL LETTER M WITH ACUTE,6SMALL LETTER M WITH ACUTE,6CAPITAL LETTER M WITH DOT ABOVE,
  6SMALL LETTER M WITH DOT ABOVE,6CAPITAL LETTER M WITH DOT BELOW,6SMALL LETTER M WITH DOT BELOW,
  6CAPITAL LETTER N WITH DOT ABOVE,6SMALL LETTER N WITH DOT ABOVE,
  6CAPITAL LETTER N WITH DOT BELOW,6SMALL LETTER N WITH DOT BELOW,
  6CAPITAL LETTER N WITH LINE BELOW,6SMALL LETTER N WITH LINE BELOW,
  6CAPITAL LETTER N WITH CIRCUMFLEX BELOW,6SMALL LETTER N WITH CIRCUMFLEX BELOW,
  6CAPITAL LETTER O WITH TILDE AND ACUTE,6SMALL LETTER O WITH TILDE AND ACUTE,
  6CAPITAL LETTER O WITH TILDE AND DIAERESIS,6SMALL LETTER O WITH TILDE AND DIAERESIS,
  6CAPITAL LETTER O WITH MACRON AND GRAVE,6SMALL LETTER O WITH MACRON AND GRAVE,
  6CAPITAL LETTER O WITH MACRON AND ACUTE,6SMALL LETTER O WITH MACRON AND ACUTE,
  6CAPITAL LETTER P WITH ACUTE,6SMALL LETTER P WITH ACUTE,6CAPITAL LETTER P WITH DOT ABOVE,
  6SMALL LETTER P WITH DOT ABOVE,6CAPITAL LETTER R WITH DOT ABOVE,6SMALL LETTER R WITH DOT ABOVE,
  6CAPITAL LETTER R WITH DOT BELOW,6SMALL LETTER R WITH DOT BELOW,
  6CAPITAL LETTER R WITH DOT BELOW AND MACRON,6SMALL LETTER R WITH DOT BELOW AND MACRON,
  6CAPITAL LETTER R WITH LINE BELOW,6SMALL LETTER R WITH LINE BELOW,
  6CAPITAL LETTER S WITH DOT ABOVE,6SMALL LETTER S WITH DOT ABOVE,
  6CAPITAL LETTER S WITH DOT BELOW,6SMALL LETTER S WITH DOT BELOW,
  6CAPITAL LETTER S WITH ACUTE AND DOT ABOVE,6SMALL LETTER S WITH ACUTE AND DOT ABOVE,
  6CAPITAL LETTER S WITH CARON AND DOT ABOVE,6SMALL LETTER S WITH CARON AND DOT ABOVE,
  6CAPITAL LETTER S WITH DOT BELOW AND DOT ABOVE,6SMALL LETTER S WITH DOT BELOW AND DOT ABOVE,
  6CAPITAL LETTER T WITH DOT ABOVE,6SMALL LETTER T WITH DOT ABOVE,
  6CAPITAL LETTER T WITH DOT BELOW,6SMALL LETTER T WITH DOT BELOW,
  6CAPITAL LETTER T WITH LINE BELOW,6SMALL LETTER T WITH LINE BELOW,
  6CAPITAL LETTER T WITH CIRCUMFLEX BELOW,6SMALL LETTER T WITH CIRCUMFLEX BELOW,
  6CAPITAL LETTER U WITH DIAERESIS BELOW,6SMALL LETTER U WITH DIAERESIS BELOW,
  6CAPITAL LETTER U WITH TILDE BELOW,6SMALL LETTER U WITH TILDE BELOW,
  6CAPITAL LETTER U WITH CIRCUMFLEX BELOW,6SMALL LETTER U WITH CIRCUMFLEX BELOW,
  6CAPITAL LETTER U WITH TILDE AND ACUTE,6SMALL LETTER U WITH TILDE AND ACUTE,
  6CAPITAL LETTER U WITH MACRON AND DIAERESIS,6SMALL LETTER U WITH MACRON AND DIAERESIS,
  6CAPITAL LETTER V WITH TILDE,6SMALL LETTER V WITH TILDE,6CAPITAL LETTER V WITH DOT BELOW,
  6SMALL LETTER V WITH DOT BELOW,6CAPITAL LETTER W WITH GRAVE,6SMALL LETTER W WITH GRAVE,
  6CAPITAL LETTER W WITH ACUTE,6SMALL LETTER W WITH ACUTE,6CAPITAL LETTER W WITH DIAERESIS,
  6SMALL LETTER W WITH DIAERESIS,6CAPITAL LETTER W WITH DOT ABOVE,6SMALL LETTER W WITH DOT ABOVE,
  6CAPITAL LETTER W WITH DOT BELOW,6SMALL LETTER W WITH DOT BELOW,
  6CAPITAL LETTER X WITH DOT ABOVE,6SMALL LETTER X WITH DOT ABOVE,
  6CAPITAL LETTER X WITH DIAERESIS,6SMALL LETTER X WITH DIAERESIS,
  6CAPITAL LETTER Y WITH DOT ABOVE,6SMALL LETTER Y WITH DOT ABOVE,
  6CAPITAL LETTER Z WITH CIRCUMFLEX,6SMALL LETTER Z WITH CIRCUMFLEX,
  6CAPITAL LETTER Z WITH DOT BELOW,6SMALL LETTER Z WITH DOT BELOW,
  6CAPITAL LETTER Z WITH LINE BELOW,6SMALL LETTER Z WITH LINE BELOW,CH WITH LINE BELOW,
  CT WITH DIAERESIS,CW WITH RING ABOVE,CY WITH RING ABOVE,CA WITH RIGHT HALF RING,
  CLONG S WITH DOT ABOVE,PIAGONAL STROKE,OHIGH STROKE,6CAPITAL LETTER SHARP S,6SMALL LETTER DELTA,
  6CAPITAL LETTER A WITH DOT BELOW,6SMALL LETTER A WITH DOT BELOW,
  6CAPITAL LETTER A WITH HOOK ABOVE,6SMALL LETTER A WITH HOOK ABOVE,
  6CAPITAL LETTER A WITH CIRCUMFLEX AND ACUTE,6SMALL LETTER A WITH CIRCUMFLEX AND ACUTE,
  6CAPITAL LETTER A WITH CIRCUMFLEX AND GRAVE,6SMALL LETTER A WITH CIRCUMFLEX AND GRAVE,
  6CAPITAL LETTER A WITH CIRCUMFLEX AND HOOK ABOVE,6SMALL LETTER A WITH CIRCUMFLEX AND HOOK ABOVE,
  6CAPITAL LETTER A WITH CIRCUMFLEX AND TILDE,6SMALL LETTER A WITH CIRCUMFLEX AND TILDE,
  6CAPITAL LETTER A WITH CIRCUMFLEX AND DOT BELOW,6SMALL LETTER A WITH CIRCUMFLEX AND DOT BELOW,
  6CAPITAL LETTER A WITH BREVE AND ACUTE,6SMALL LETTER A WITH BREVE AND ACUTE,
  6CAPITAL LETTER A WITH BREVE AND GRAVE,6SMALL LETTER A WITH BREVE AND GRAVE,
  6CAPITAL LETTER A WITH BREVE AND HOOK ABOVE,6SMALL LETTER A WITH BREVE AND HOOK ABOVE,
  6CAPITAL LETTER A WITH BREVE AND TILDE,6SMALL LETTER A WITH BREVE AND TILDE,
  6CAPITAL LETTER A WITH BREVE AND DOT BELOW,6SMALL LETTER A WITH BREVE AND DOT BELOW,
  6CAPITAL LETTER E WITH DOT BELOW,6SMALL LETTER E WITH DOT BELOW,
  6CAPITAL LETTER E WITH HOOK ABOVE,6SMALL LETTER E WITH HOOK ABOVE,6CAPITAL LETTER E WITH TILDE,
  6SMALL LETTER E WITH TILDE,6CAPITAL LETTER E WITH CIRCUMFLEX AND ACUTE,
  6SMALL LETTER E WITH CIRCUMFLEX AND ACUTE,6CAPITAL LETTER E WITH CIRCUMFLEX AND GRAVE,
  6SMALL LETTER E WITH CIRCUMFLEX AND GRAVE,6CAPITAL LETTER E WITH CIRCUMFLEX AND HOOK ABOVE,
  6SMALL LETTER E WITH CIRCUMFLEX AND HOOK ABOVE,6CAPITAL LETTER E WITH CIRCUMFLEX AND TILDE,
  6SMALL LETTER E WITH CIRCUMFLEX AND TILDE,6CAPITAL LETTER E WITH CIRCUMFLEX AND DOT BELOW,
  6SMALL LETTER E WITH CIRCUMFLEX AND DOT BELOW,6CAPITAL LETTER I WITH HOOK ABOVE,
  6SMALL LETTER I WITH HOOK ABOVE,6CAPITAL LETTER I WITH DOT BELOW,6SMALL LETTER I WITH DOT BELOW,
  6CAPITAL LETTER O WITH DOT BELOW,6SMALL LETTER O WITH DOT BELOW,
  6CAPITAL LETTER O WITH HOOK ABOVE,6SMALL LETTER O WITH HOOK ABOVE,
  6CAPITAL LETTER O WITH CIRCUMFLEX AND ACUTE,6SMALL LETTER O WITH CIRCUMFLEX AND ACUTE,
  6CAPITAL LETTER O WITH CIRCUMFLEX AND GRAVE,6SMALL LETTER O WITH CIRCUMFLEX AND GRAVE,
  6CAPITAL LETTER O WITH CIRCUMFLEX AND HOOK ABOVE,6SMALL LETTER O WITH CIRCUMFLEX AND HOOK ABOVE,
  6CAPITAL LETTER O WITH CIRCUMFLEX AND TILDE,6SMALL LETTER O WITH CIRCUMFLEX AND TILDE,
  6CAPITAL LETTER O WITH CIRCUMFLEX AND DOT BELOW,6SMALL LETTER O WITH CIRCUMFLEX AND DOT BELOW,
  6CAPITAL LETTER O WITH HORN AND ACUTE,6SMALL LETTER O WITH HORN AND ACUTE,
  6CAPITAL LETTER O WITH HORN AND GRAVE,6SMALL LETTER O WITH HORN AND GRAVE,
  6CAPITAL LETTER O WITH HORN AND HOOK ABOVE,6SMALL LETTER O WITH HORN AND HOOK ABOVE,
  6CAPITAL LETTER O WITH HORN AND TILDE,6SMALL LETTER O WITH HORN AND TILDE,
  6CAPITAL LETTER O WITH HORN AND DOT BELOW,6SMALL LETTER O WITH HORN AND DOT BELOW,
  6CAPITAL LETTER U WITH DOT BELOW,6SMALL LETTER U WITH DOT BELOW,
  6CAPITAL LETTER U WITH HOOK ABOVE,6SMALL LETTER U WITH HOOK ABOVE,
  6CAPITAL LETTER U WITH HORN AND ACUTE,6SMALL LETTER U WITH HORN AND ACUTE,
  6CAPITAL LETTER U WITH HORN AND GRAVE,6SMALL LETTER U WITH HORN AND GRAVE,
  6CAPITAL LETTER U WITH HORN AND HOOK ABOVE,6SMALL LETTER U WITH HORN AND HOOK ABOVE,
  6CAPITAL LETTER U WITH HORN AND TILDE,6SMALL LETTER U WITH HORN AND TILDE,
  6CAPITAL LETTER U WITH HORN AND DOT BELOW,6SMALL LETTER U WITH HORN AND DOT BELOW,
  6CAPITAL LETTER Y WITH GRAVE,6SMALL LETTER Y WITH GRAVE,6CAPITAL LETTER Y WITH DOT BELOW,
  6SMALL LETTER Y WITH DOT BELOW,6CAPITAL LETTER Y WITH HOOK ABOVE,
  6SMALL LETTER Y WITH HOOK ABOVE,6CAPITAL LETTER Y WITH TILDE,6SMALL LETTER Y WITH TILDE,
  6CAPITAL LETTER MIDDLE-WELSH LL,6SMALL LETTER MIDDLE-WELSH LL,6CAPITAL LETTER MIDDLE-WELSH V,
  6SMALL LETTER MIDDLE-WELSH V,6CAPITAL LETTER Y WITH LOOP,6SMALL LETTER Y WITH LOOP,
  0GREEK SMALL LETTER ALPHA WITH PSILI,NDASIA,NPSILI AND VARIA,NDASIA AND VARIA,NPSILI AND OXIA,
  NDASIA AND OXIA,NPSILI AND PERISPOMENI,NDASIA AND PERISPOMENI,6CAPITAL LETTER ALPHA WITH PSILI,
  PDASIA,PPSILI AND VARIA,PDASIA AND VARIA,PPSILI AND OXIA,PDASIA AND OXIA,PPSILI AND PERISPOMENI,
  PDASIA AND PERISPOMENI,6SMALL LETTER EPSILON WITH PSILI,PDASIA,PPSILI AND VARIA,
  PDASIA AND VARIA,PPSILI AND OXIA,PDASIA AND OXIA,!1F18,6CAPITAL LETTER EPSILON WITH PSILI,
  RDASIA,RPSILI AND VARIA,RDASIA AND VARIA,RPSILI AND OXIA,RDASIA AND OXIA,!1F20,
  6SMALL LETTER ETA WITH PSILI,LDASIA,LPSILI AND VARIA,LDASIA AND VARIA,LPSILI AND OXIA,
  LDASIA AND OXIA,LPSILI AND PERISPOMENI,LDASIA AND PERISPOMENI,6CAPITAL LETTER ETA WITH PSILI,
  NDASIA,NPSILI AND VARIA,NDASIA AND VARIA,NPSILI AND OXIA,NDASIA AND OXIA,NPSILI AND PERISPOMENI,
  NDASIA AND PERISPOMENI,6SMALL LETTER IOTA WITH PSILI,MDASIA,MPSILI AND VARIA,MDASIA AND VARIA,
  MPSILI AND OXIA,MDASIA AND OXIA,MPSILI AND PERISPOMENI,MDASIA AND PERISPOMENI,
  6CAPITAL LETTER IOTA WITH PSILI,ODASIA,OPSILI AND VARIA,ODASIA AND VARIA,OPSILI AND OXIA,
  ODASIA AND OXIA,OPSILI AND PERISPOMENI,ODASIA AND PERISPOMENI,6SMALL LETTER OMICRON WITH PSILI,
  PDASIA,PPSILI AND VARIA,PDASIA AND VARIA,PPSILI AND OXIA,PDASIA AND OXIA,!1F48,
  6CAPITAL LETTER OMICRON WITH PSILI,RDASIA,RPSILI AND VARIA,RDASIA AND VARIA,RPSILI AND OXIA,
  RDASIA AND OXIA,!1F50,6SMALL LETTER UPSILON WITH PSILI,PDASIA,PPSILI AND VARIA,PDASIA AND VARIA,
  PPSILI AND OXIA,PDASIA AND OXIA,PPSILI AND PERISPOMENI,PDASIA AND PERISPOMENI,!1F59,
  6CAPITAL LETTER UPSILON WITH DASIA,!1F5B,W AND VARIA,!1F5D,[ OXIA,!1F5F,[ PERISPOMENI,
  6SMALL LETTER OMEGA WITH PSILI,NDASIA,NPSILI AND VARIA,NDASIA AND VARIA,NPSILI AND OXIA,
  NDASIA AND OXIA,NPSILI AND PERISPOMENI,NDASIA AND PERISPOMENI,6CAPITAL LETTER OMEGA WITH PSILI,
  PDASIA,PPSILI AND VARIA,PDASIA AND VARIA,PPSILI AND OXIA,PDASIA AND OXIA,PPSILI AND PERISPOMENI,
  PDASIA AND PERISPOMENI,6SMALL LETTER ALPHA WITH VARIA,NOXIA,CEPSILON WITH VARIA,POXIA,
  DTA WITH VARIA,LOXIA,CIOTA WITH VARIA,MOXIA,COMICRON WITH VARIA,POXIA,CUPSILON WITH VARIA,POXIA,
  COMEGA WITH VARIA,NOXIA,!1F80,CALPHA WITH PSILI AND YPOGEGRAMMENI,NDASIA AND YPOGEGRAMMENI,
  NPSILI AND VARIA AND YPOGEGRAMMENI,NDASIA AND VARIA AND YPOGEGRAMMENI,
  NPSILI AND OXIA AND YPOGEGRAMMENI,NDASIA AND OXIA AND YPOGEGRAMMENI,
  NPSILI AND PERISPOMENI AND YPOGEGRAMMENI,NDASIA AND PERISPOMENI AND YPOGEGRAMMENI,
  6CAPITAL LETTER ALPHA WITH PSILI AND PROSGEGRAMMENI,PDASIA AND PROSGEGRAMMENI,
  PPSILI AND VARIA AND PROSGEGRAMMENI,PDASIA AND VARIA AND PROSGEGRAMMENI,
  PPSILI AND OXIA AND PROSGEGRAMMENI,PDASIA AND OXIA AND PROSGEGRAMMENI,
  PPSILI AND PERISPOMENI AND PROSGEGRAMMENI,PDASIA AND PERISPOMENI AND PROSGEGRAMMENI,
  6SMALL LETTER ETA WITH PSILI AND YPOGEGRAMMENI,LDASIA AND YPOGEGRAMMENI,
  LPSILI AND VARIA AND YPOGEGRAMMENI,LDASIA AND VARIA AND YPOGEGRAMMENI,
  LPSILI AND OXIA AND YPOGEGRAMMENI,LDASIA AND OXIA AND YPOGEGRAMMENI,
  LPSILI AND PERISPOMENI AND YPOGEGRAMMENI,LDASIA AND PERISPOMENI AND YPOGEGRAMMENI,
  6CAPITAL LETTER ETA WITH PSILI AND PROSGEGRAMMENI,NDASIA AND PROSGEGRAMMENI,
  NPSILI AND VARIA AND PROSGEGRAMMENI,NDASIA AND VARIA AND PROSGEGRAMMENI,
  NPSILI AND OXIA AND PROSGEGRAMMENI,NDASIA AND OXIA AND PROSGEGRAMMENI,
  NPSILI AND PERISPOMENI AND PROSGEGRAMMENI,NDASIA AND PERISPOMENI AND PROSGEGRAMMENI,
  6SMALL LETTER OMEGA WITH PSILI AND YPOGEGRAMMENI,NDASIA AND YPOGEGRAMMENI,
  NPSILI AND VARIA AND YPOGEGRAMMENI,NDASIA AND VARIA AND YPOGEGRAMMENI,
  NPSILI AND OXIA AND YPOGEGRAMMENI,NDASIA AND OXIA AND YPOGEGRAMMENI,
  NPSILI AND PERISPOMENI AND YPOGEGRAMMENI,NDASIA AND PERISPOMENI AND YPOGEGRAMMENI,
  6CAPITAL LETTER OMEGA WITH PSILI AND PROSGEGRAMMENI,PDASIA AND PROSGEGRAMMENI,
  PPSILI AND VARIA AND PROSGEGRAMMENI,PDASIA AND VARIA AND PROSGEGRAMMENI,
  PPSILI AND OXIA AND PROSGEGRAMMENI,PDASIA AND OXIA AND PROSGEGRAMMENI,
  PPSILI AND PERISPOMENI AND PROSGEGRAMMENI,PDASIA AND PERISPOMENI AND PROSGEGRAMMENI,
  6SMALL LETTER ALPHA WITH VRACHY,NMACRON,NVARIA AND YPOGEGRAMMENI,NYPOGEGRAMMENI,
  NOXIA AND YPOGEGRAMMENI,!1FB6,NPERISPOMENI,Y AND YPOGEGRAMMENI,
  6CAPITAL LETTER ALPHA WITH VRACHY,PMACRON,PVARIA,POXIA,PPROSGEGRAMMENI,6KORONIS,6PROSGEGRAMMENI,
  7SILI,7ERISPOMENI,6DIALYTIKA AND PERISPOMENI,6SMALL LETTER ETA WITH VARIA AND YPOGEGRAMMENI,
  LYPOGEGRAMMENI,LOXIA AND YPOGEGRAMMENI,!1FC6,LPERISPOMENI,W AND YPOGEGRAMMENI,
  6CAPITAL LETTER EPSILON WITH VARIA,ROXIA,FTA WITH VARIA,NOXIA,NPROSGEGRAMMENI,6PSILI AND VARIA,
  @OXIA,@PERISPOMENI,6SMALL LETTER IOTA WITH VRACHY,MMACRON,MDIALYTIKA AND VARIA,[OXIA,!1FD6,
  MPERISPOMENI,MDIALYTIKA AND PERISPOMENI,6CAPITAL LETTER IOTA WITH VRACHY,OMACRON,OVARIA,OOXIA,
  !1FDD,6DASIA AND VARIA,@OXIA,@PERISPOMENI,6SMALL LETTER UPSILON WITH VRACHY,PMACRON,
  PDIALYTIKA AND VARIA,[ND OXIA,CRHO WITH PSILI,LDASIA,CUPSILON WITH PERISPOMENI,
  PDIALYTIKA AND PERISPOMENI,6CAPITAL LETTER UPSILON WITH VRACHY,RMACRON,RVARIA,ROXIA,
  ERHO WITH DASIA,6DIALYTIKA AND VARIA,DOXIA,6VARIA,!1FF2,
  6SMALL LETTER OMEGA WITH VARIA AND YPOGEGRAMMENI,NYPOGEGRAMMENI,NOXIA AND YPOGEGRAMMENI,!1FF6,
  NPERISPOMENI,Y AND YPOGEGRAMMENI,6CAPITAL LETTER OMICRON WITH VARIA,ROXIA,GEGA WITH VARIA,POXIA,
  PPROSGEGRAMMENI,6OXIA,6DASIA"

end CharacterName
end Text
end QueryCriteria
