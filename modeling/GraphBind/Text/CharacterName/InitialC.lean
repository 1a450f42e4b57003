/-!
# Character names with the initial C

The names of characters that begin with the letter C, as a pattern.
-/

namespace GraphBind.Text.CharacterName

/-- The names with the initial C. -/
def initialC : String :=
  String.join [
    "CACTUS|CADUCEUS|CALENDAR|CAMPING|CAN|CANCER|CANDLE|CANDY|CANOE|CAPITULUM|CAPRICORN|CARON|",
    "CARROT|CASTLE|CCH|CEDILLA|CERES|CGJ|CHAINS|CHAIR|CHERRIES|CHESTNUT|CHICKEN|CHILD|CHIPMUNK|",
    "CHIRON|CHOPSTICKS|CHURCH|CINEMA|CLIPBOARD|COAT|COCKROACH|COCONUT|COFFIN|COIN|COMET|COMMA|",
    "COMPASS|COMPLEMENT|COMPRESSION|CONJUNCTION|COOKIE|COOKING|CORAL|COUNTERBORE|COUNTERSINK|CR|",
    "CRAB|CROCODILE|CROISSANT|CROWN|CRUTCH|CSI|CUCUMBER|CUPCAKE|CUPIDO|CUSTARD|CUSTOMS|CYCLONE|",
    "CYLINDRICITY|CADA UNA|CALL ME HAND|CAMERA(| WITH FLASH)|CANADIAN SYLLABICS (A|AA|AAI|AAY|AI|",
    "AN|AY|C|CA|CAA|CAAI|CE|CI|CII|CO|COO|CWA|CWAA|CWE|CWI|CWII|CWO|CWOO|E|EN|F|FA|FAA|FAAI|FE|FI|",
    "FII|FO|FOO|FWAA|HK|HYPHEN|I|II|IN|K|KA|KAA|KAAI|KAY|KE|KI|KII|KO|KOO|KW|KWA|KWAA|KWAY|KWE|",
    "KWI|KWII|KWO|KWOO|L|LA|LAA|LAAI|LAY|LE|LH|LHA|LHAA|LHI|LHII|LHO|LHOO|LI|LII|LO|LOO|LWA|LWAA|",
    "LWE|LWI|LWII|LWO|LWOO|M|MA|MAA|MAAI|MAY|ME|MH|MI|MII|MO|MOO|MWA|MWAA|MWE|MWI|MWII|MWO|MWOO|N|",
    "NA|NAA|NAAI|NAY|NE|NG|NGA|NGAA|NGAAI|NGAI|NGI|NGII|NGO|NGOO|NH|NI|NII|NNG|NNGA|NNGAA|NNGI|",
    "NNGII|NNGO|NNGOO|NO|NOO|NOY|NWA|NWAA|NWE|NWI|NWII|NWO|NWOO|O|ON|OO|OY|P|PA|PAA|PAAI|PAY|PE|",
    "PI|PII|PO|POO|POY|PWA|PWAA|PWE|PWI|PWII|PWO|PWOO|PWOY|Q|QA|QAA|QAAI|QAI|QI|QII|QO|QOO|R|RA|",
    "RAA|RAAI|RAY|RE|RI|RII|RO|ROO|RWA|RWAA|RWEE|RWI|RWII|RWO|RWOO|S|SA|SAA|SAAI|SAY|SE|SH|SHA|",
    "SHAA|SHAY|SHE|SHI|SHII|SHO|SHOO|SHOY|SHWA|SHWAA|SHWE|SHWI|SHWII|SHWO|SHWOO|SHWOY|SI|SII|SO|",
    "SOO|SOY|SPA|SPE|SPI|SPO|SW|SWA|SWAA|SWE|SWI|SWII|SWO|SWOO|T|TA|TAA|TAAI|TAY|TE|TH|THA|THAA|",
    "THE|THI|THII|THO|THOO|THWA|THWAA|THWE|TI|TII|TLHA|TLHE|TLHI|TLHO|TLHOO|TLHWE|TO|TOO|TTA|TTE|",
    "TTH|TTHA|TTHAA|TTHE|TTHI|TTHO|TTHOO|TTHWE|TTI|TTO|TWA|TWAA|TWE|TWI|TWII|TWO|TWOO|TYA|TYE|TYI|",
    "TYO|WA|WAA|WAY|WE|WI|WII|WO|WOO|Y|YA|YAA|YAAI|YAY|YE|YI|YII|YO|YOO|YOY|YWA|YWAA|YWE|YWI|YWII|",
    "YWO|YWOO|AIVILIK B|ATHAPASCAN (M|S)|BEAVER DENE (L|R)|BIBLE-CREE Y|BLACKFOOT (A|E|I|KA|KE|KI|",
    "KO|NA|NE|NI|NO|O|S|W|WA|WE|WI|WO)|CARRIER (CHA|CHE|CHEE|CHI|CHO|CHU|DEE|DI|DLA|DLE|DLEE|DLI|",
    "DLO|DLU|DZA|DZE|DZEE|DZI|DZO|DZU|EE|GA|GAA|GE|GEE|GHA|GHE|GHEE|GHI|GHO|GHU|GI|GO|GU|GWA|GWU|",
    "H|HEE|HI|HWA|HWE|HWEE|HWI|HWO|HWU|I|JA|JE|JEE|JI|JJA|JJE|JJEE|JJI|JJO|JJU|JO|JU|JWA|KHA|KHE|",
    "KHEE|KHI|KHO|KHU|KK|KKA|KKE|KKEE|KKI|KKO|KKU|LA|LE|LEE|LHA|LHE|LHEE|LHI|LHO|LHU|LI|LO|LU|MA|",
    "ME|MEE|MI|MO|MU|NA|NE|NEE|NG|NI|NO|NU|P|PA|PE|PEE|PI|PO|PU|RA|RE|REE|RI|RO|RU|SA|SE|SEE|SH|",
    "SHA|SHE|SHEE|SHI|SHO|SHU|SI|SO|SU|THA|THE|THEE|THI|THO|THU|TLA|TLE|TLEE|TLHA|TLHE|TLHEE|TLHI|",
    "TLHO|TLHU|TLI|TLO|TLU|TSA|TSE|TSEE|TSI|TSO|TSU|TTA|TTE|TTEE|TTI|TTO|TTSA|TTSE|TTSEE|TTSI|",
    "TTSO|TTSU|TTU|WA|WE|WEE|WI|WO|WU|YA|YE|YEE|YI|YO|YU|Z|ZA|ZE|ZEE|ZI|ZO|ZU|DENE GEE|DENTAL S|",
    "INITIAL Z)|CHI SIGN|(EASTERN|WESTERN) W|FINAL (ACUTE|GRAVE|PLUS|RING|(BOTTOM|RIGHT|TOP) HALF ",
    "RING|DOUBLE (ACUTE|SHORT VERTICAL STROKES)|DOWN TACK|(MIDDLE|RAISED) DOT|SHORT HORIZONTAL ",
    "STROKE|SMALL RING)|(FULL|GLOTTAL) STOP|MEDIAL (L|R)|MOOSE-CREE SK|N-CREE (THE|THI|THII)|",
    "NASKAPI (CWAA|KWAA|MWAA|NWAA|S-W|SCWA|SKW|SKWA|SPWA|STWA|SWAA|TWAA|WAA|WOO|YWAA)|NATTILIK ",
    "(HA|HAA|HI|HII|HO|HOO|SHRA|SHRAA|SHRI|SHRII|SHRO|SHROO)|NUNAVIK (H|HA|HAA|HE|HI|HII|HO|HOO)|",
    "NUNAVUT H|OJIBWAY (C|K|M|N|NWI|NWII|NWO|NWOO|P|S|SH|T)|R-CREE (RE|RWE)|SAYISI (HA|HE|HI|HO|",
    "HOO|JI|JU|JUU|M|SHA|SHE|SHI|SHO|SHOO|SHWE|TH|YI)|SOUTH-SLAVEY (KAH|KEH|KIH|KOH)|TH-CREE (TH|",
    "THA|THAA|THE|THI|THII|THO|THOO)|WEST-CREE (CWA|CWAA|CWE|CWI|CWII|CWO|CWOO|FWAA|KWA|KWAA|KWE|",
    "KWI|KWII|KWO|KWOO|L|LA|LAA|LE|LO|LOO|LWA|LWAA|LWE|LWI|LWII|LWO|LWOO|M|MWA|MWAA|MWE|MWI|MWII|",
    "MWO|MWOO|NWA|NWAA|NWE|P|PWA|PWAA|PWE|PWI|PWII|PWO|PWOO|R|RA|RE|RI|RO|RWAA|SHWA|SHWAA|SHWE|",
    "SHWI|SHWII|SHWO|SHWOO|SWA|SWAA|SWE|SWI|SWII|SWO|SWOO|THWAA|TWA|TWAA|TWE|TWI|TWII|TWO|TWOO|WA|",
    "WAA|WE|WI|WII|WO|WOO|Y|YWA|YWAA|YWE|YWI|YWII|YWO|YWOO)|WOODS-CREE (FINAL TH|TH|THA|THE|THI|",
    "THO|THWA|THWAA|THWEE|THWI|THWII|THWO|THWOO)|Y-CREE (COO|KOO|LOO|MOO|NOO|OO|POO|PWAA|SOO|TOO|",
    "W|YOO))|CANCEL(| (CHARACTER|TAG))|CANCELLATION X|CANNED FOOD|CAR SLIDING|CARD (FILE BOX|INDEX",
    "(| DIVIDERS))|CARE OF|CARET(| INSERTION POINT)|CARIAN LETTER ((A|D|E|G|K|LD|P|SH|ST|TT)(|2)|",
    "B|I|II|L|M|N|ND|NG|NN|O|Q|R|RR|S|SS|T|U|UU|UUUU|X|C-(18|39)|MB(|2|3|4)|UUU(|2|3))|CAROUSEL ",
    "HORSE|CARP STREAMER|CARPENTRY SAW|CARRIAGE RETURN|CAT(| FACE(| WITH (TEARS OF JOY|WRY ",
    "SMILE)))|CAUCASIAN ALBANIAN (CITATION MARK|LETTER (ALT|AOR|BET|CAR|CAYN|CHA|CHAT|CHI|CHOY|",
    "CYAW|CYAY|DAT|DYAN|DZAY|DZYAY|EB|EYN|FAM|GHEYS|GIM|HEYT|INYA|IRB|IWN|JAYN|JHOX|KAR|KIW|LAN|",
    "LYIT|MAQ|NOWC|ON|PEN|PIWR|QAR|QAY|RAT|SEYK|SHA|SHAK|SHOY|TAS|TIWR|TYAY|VEYZ|XEYN|YAYD|YOWD|",
    "ZARL|ZHA|ZHIL))|(CAUTION|CEDI|CENT|COPYRIGHT|CRUZEIRO) SIGN|CELTIC CROSS|CENTRE LINE SYMBOL|",
    "CENTRELINE (LOW LINE|OVERLINE)|CHAKMA ((AU|O|QUESTION|SECTION) MARK|DANDA|MAAYYAA|VIRAMA|",
    "DIGIT (EIGHT|FIVE|FOUR|NINE|ONE|SEVEN|SIX|THREE|TWO|ZERO)|DOUBLE DANDA|LETTER (AA|BAA|BHAA|",
    "CAA|CHAA|DAA|DDAA|DDHAA|DHAA|E|GAA|GHAA|HAA|I|JAA|JHAA|KAA|KHAA|LAA|LHAA|MAA|NAA|NGAA|NNAA|",
    "NYAA|PAA|PHAA|RAA|SAA|TAA|THAA|TTAA|TTHAA|U|VAA|WAA|YAA|YYAA)|SIGN (ANUSVARA|CANDRABINDU|",
    "VISARGA)|VOWEL SIGN (A|AA|AI|AU|E|EI|I|II|O|OI|U|UU))|CHAM (CONSONANT SIGN (FINAL (H|M|NG)|",
    "LA|RA|WA|YA)|DIGIT (EIGHT|FIVE|FOUR|NINE|ONE|SEVEN|SIX|THREE|TWO|ZERO)|LETTER (A|AI|BA|BBA|",
    "BHA|CHA|CHHA|DA|DDA|DHA|E|GA|GHA|HA|I|JA|JHA|KA|KHA|LA|MA|MUE|NA|NGA|NGUE|NHA|NHJA|NHUE|NUE|",
    "O|PA|PHA|PPA|RA|SA|SSA|TA|THA|U|VA|YA|FINAL (CH|G|K|L|N|NG|P|R|SS|T|Y))|PUNCTUATION (DANDA|",
    "SPIRAL|(DOUBLE|TRIPLE) DANDA)|VOWEL SIGN (AA|AI|AU|EI|I|II|O|OE|U|UE))|CHARACTER (TABULATION",
    "(| (SET|WITH JUSTIFICATION))|TIE)|CHART WITH (DOWNWARDS TREND|UPWARDS TREND(| AND YEN SIGN))|",
    "CHECK MARK|CHECKER BOARD(| FILL)|CHEERING MEGAPHONE|CHEESE WEDGE|CHEQUERED FLAG|CHEROKEE ",
    "(LETTER (A|DA|DE|DI|DLA|DO|DU|DV|E|GA|GE|GI|GO|GU|GV|HA|HE|HI|HNA|HO|HU|HV|I|KA|LA|LE|LI|LO|",
    "LU|LV|MA|ME|MI|MO|MU|MV|NA|NAH|NE|NI|NO|NU|NV|O|QUA|QUE|QUI|QUO|QUU|QUV|S|SA|SE|SI|SO|SU|SV|",
    "TA|TE|TI|TLA|TLE|TLI|TLO|TLU|TLV|TSA|TSE|TSI|TSO|TSU|TSV|U|V|WA|WE|WI|WO|WU|WV|YA|YE|YI|YO|",
    "YU|YV)|SMALL LETTER (A|DA|DE|DI|DLA|DO|DU|DV|E|GA|GE|GI|GO|GU|GV|HA|HE|HI|HNA|HO|HU|HV|I|KA|",
    "LA|LE|LI|LO|LU|LV|MA|ME|MI|MO|MU|MV|NA|NAH|NE|NI|NO|NU|NV|O|QUA|QUE|QUI|QUO|QUU|QUV|S|SA|SE|",
    "SI|SO|SU|SV|TA|TE|TI|TLA|TLE|TLI|TLO|TLU|TLV|TSA|TSE|TSI|TSO|TSU|TSV|U|V|WA|WE|WI|WO|WU|WV|",
    "YA|YE|YI|YO|YU|YV))|CHERRY BLOSSOM|CHI RHO|CHILDREN CROSSING|CHOCOLATE BAR|CHORASMIAN ",
    "(LETTER (ALEPH|AYIN|BETH|DALETH|GIMEL|HE|HETH|KAPH|LAMEDH|MEM|NUN|PE|RESH|SAMEKH|SHIN|TAW|",
    "WAW|YODH|ZAYIN|CURLED WAW|SMALL ALEPH)|NUMBER (FOUR|TEN|THREE|TWENTY|TWO|ONE(| HUNDRED)))|",
    "CHRISTMAS TREE|CIRCLE (DIVIDED BY HORIZONTAL BAR AND TOP HALF DIVIDED BY VERTICAL BAR|WITH ",
    "(ALL BUT UPPER LEFT QUADRANT BLACK|HORIZONTAL BAR|(LEFT|LOWER|RIGHT) HALF BLACK|SMALL CIRCLE ",
    "TO THE RIGHT|SUPERIMPOSED X|TWO HORIZONTAL STROKES TO THE RIGHT|UPPER (HALF BLACK|RIGHT ",
    "QUADRANT BLACK)|VERTICAL FILL))|CIRCLED (ANTICLOCKWISE ARROW|ANTICLOCKWISE-ROTATED DIVISION ",
    "SIGN|(ASTERISK|DOT|RING) OPERATOR|BOLD X|BULLET|CC|CD|DASH|EQUALS|GREATER-THAN|LESS-THAN|",
    "MINUS|PARALLEL|PERPENDICULAR|PLUS|SQUARE|TIMES|WZ|X|C WITH OVERLAID BACKSLASH|CROSS (FORMEE",
    "(| WITH (FOUR|TWO) DOTS)|POMMEE)|CROSSING LANES|DIGIT (EIGHT|FIVE|FOUR|NINE|ONE|SEVEN|SIX|",
    "THREE|TWO|ZERO)|DIVISION (SIGN|SLASH)|DOLLAR SIGN WITH OVERLAID BACKSLASH|HANGUL ((CHIEUCH|",
    "CIEUC|HIEUH|KHIEUKH|KIYEOK|MIEUM|NIEUN|PHIEUPH|PIEUP|RIEUL|SIOS|THIEUTH|TIKEUT)(| A)|IEUNG(| ",
    "(A|U)))|HEAVY WHITE RIGHTWARDS ARROW|HORIZONTAL BAR WITH NOTCH|HUMAN FIGURE|IDEOGRAPH ",
    "(ACCEPT|ADVANTAGE|ALLIANCE|ATTENTION|CENTRE|CONGRATULATION|COPY|CORRECT|EARTH|EIGHT|",
    "ENTERPRISE|EXCELLENT|FEMALE|FINANCIAL|FIRE|FIVE|FOUR|HAVE|HIGH|ITEM|KINDERGARTEN|KOTO|LABOR|",
    "LEFT|LOW|MALE|MEDICINE|METAL|MOON|NAME|NIGHT|NINE|ONE|PRINT|QUESTION|RELIGION|RESOURCE|REST|",
    "RIGHT|SCHOOL|SECRET|SEVEN|SIX|SOCIETY|SPECIAL|STOCK|STUDY|SUITABLE|SUN|SUPERVISE|TEN|THREE|",
    "TWO|WATER|WOOD)|INFORMATION SOURCE|ITALIC LATIN CAPITAL LETTER (C|R)|KATAKANA (A|E|HA|HE|HI|",
    "HO|HU|I|KA|KE|KI|KO|KU|MA|ME|MI|MO|MU|NA|NE|NI|NO|NU|O|RA|RE|RI|RO|RU|SA|SE|SI|SO|SU|TA|TE|",
    "TI|TO|TU|U|WA|WE|WI|WO|YA|YO|YU)|KOREAN CHARACTER (CHAMKO|JUEUI)|LATIN (CAPITAL|SMALL) ",
    "LETTER (A|B|C|D|E|F|G|H|I|J|K|L|M|N|O|P|Q|R|S|T|U|V|W|X|Y|Z)|MULTIPLICATION SIGN WITH ",
    "CIRCUMFLEX ACCENT|NUMBER (EIGHTEEN|ELEVEN|FIFTEEN|FOURTEEN|NINETEEN|SEVENTEEN|SIXTEEN|",
    "THIRTEEN|TWELVE|(EIGHTY|SEVENTY|SIXTY) ON BLACK SQUARE|(FIFTY|TEN)(| ON BLACK SQUARE)|(FORTY|",
    "THIRTY|TWENTY)(| (EIGHT|FIVE|FOUR|NINE|ONE|SEVEN|SIX|THREE|TWO|ON BLACK SQUARE)))|OPEN ",
    "CENTRE EIGHT POINTED STAR|POSTAL MARK|REVERSE SOLIDUS|TRIANGLE(| DOWN)|VERTICAL BAR|WHITE ",
    "(BULLET|STAR)|ZERO WITH SLASH)|CIRCULATION FUNCTION|CIRCUMFLEX ACCENT|CIRCUS TENT|CITYSCAPE",
    "(| AT DUSK)|CJK (COMPATIBILITY IDEOGRAPH-(2F((8|9)(0|1|2|3|4|5|6|7|8|9|A|B|C|D|E|F)(0|1|2|3|",
    "4|5|6|7|8|9|A|B|C|D|E|F)|A(0(0|1|2|3|4|5|6|7|8|9|A|B|C|D|E|F)|1(0|1|2|3|4|5|6|7|8|9|A|B|C|",
    "D)))|F(9(0|1|2|3|4|5|6|7|8|9|A|B|C|D|E|F)(0|1|2|3|4|5|6|7|8|9|A|B|C|D|E|F)|A((0|1|2|3|4|5|7|",
    "8|9|A|B|C)(0|1|2|3|4|5|6|7|8|9|A|B|C|D|E|F)|6(0|1|2|3|4|5|6|7|8|9|A|B|C|D)|D(0|1|2|3|4|5|6|7|",
    "8|9))))|RADICAL (BAMBOO|BLUE|BONE|BOX|CHOKE|CITY|CIVILIAN|CLIFF|CLOTHES|COW|DEATH|DIVINATION|",
    "DOG|EWE|EYE|FIRE|FOOT|GHOST|HAND|HEAD|HORN|JADE|MEAT|MESH|MOON|MORTAR|MOTHER|OLD|PERSON|RAIN|",
    "RAM|RAP|REPEAT|SEAL|SHEEP|SILK|SNAKE|SUN|TABLE|THREAD|TIGER|TURTLE|BOLT OF CLOTH|(BRUSH|",
    "HEART|KNIFE|LONG|MOUND|PAW|SMALL|SNOUT|SPIRIT|WALK|WATER|WEST) (ONE|TWO)|C-SIMPLIFIED (BIRD|",
    "CART|DRAGON|EAT|EVEN|FISH|FLY|FROG|GATE|GOLD|HORSE|LEAF|LONG|SALT|SEE|SHELL|SILK|SPEECH|",
    "TOOTH|TURTLE|WIND|TANNED LEATHER)|(EAT|GRASS|SECOND) (ONE|THREE|TWO)|J-SIMPLIFIED (DRAGON|",
    "EVEN|TOOTH|TURTLE)|(LAME|NET) (FOUR|ONE|THREE|TWO)|SIMPLIFIED (HALF TREE TRUNK|HORN|WALK|",
    "WHEAT|YELLOW))|STROKE (BXG|D|H|HG|HP|HPWG|HXWG|HZ|HZG|HZT|HZW|HZWG|HZZ|HZZP|HZZZ|HZZZG|N|P|",
    "PD|PG|PZ|Q|S|SG|SP|ST|SW|SWG|SWZ|SZ|SZWG|SZZ|T|TN|WG|XG))|CLAMSHELL MOBILE PHONE|CLAPPER ",
    "BOARD|CLAPPING HANDS SIGN|CLASSICAL BUILDING|CLEAR SCREEN SYMBOL|CLINKING (BEER MUGS|",
    "GLASSES)|CLOCK FACE ((EIGHT|ELEVEN|FIVE|FOUR|NINE|ONE|SEVEN|SIX|TEN|THREE|TWELVE|TWO) OCLOCK|",
    "EIGHT-THIRTY|ELEVEN-THIRTY|FIVE-THIRTY|FOUR-THIRTY|NINE-THIRTY|ONE-THIRTY|SEVEN-THIRTY|",
    "SIX-THIRTY|TEN-THIRTY|THREE-THIRTY|TWELVE-THIRTY|TWO-THIRTY)|CLOCKWISE ((CLOSED|GAPPED|OPEN) ",
    "CIRCLE ARROW|CONTOUR INTEGRAL|DOWNWARDS AND UPWARDS OPEN CIRCLE ARROWS|INTEGRAL|RIGHT AND ",
    "LEFT SEMICIRCLE ARROWS|RIGHTWARDS AND LEFTWARDS OPEN CIRCLE ARROWS(| WITH CIRCLED ONE ",
    "OVERLAY)|TOP SEMICIRCLE ARROW|TRIANGLE-HEADED OPEN CIRCLE ARROW)|CLOSE UP|CLOSED (BOOK|",
    "UMBRELLA|INTERSECTION WITH SERIFS|LOCK WITH KEY|MAILBOX WITH (LOWERED|RAISED) FLAG|(SUBSET|",
    "SUPERSET)(| OR EQUAL TO)|UNION WITH SERIFS(| AND SMASH PRODUCT))|CLOUD(| WITH (LIGHTNING|",
    "RAIN|SNOW|TORNADO))|(CLOWN|CONFOUNDED|CONFUSED) FACE|COCKTAIL GLASS|(COLLISION|COMPOSITION|",
    "COPYLEFT) SYMBOL|COLON(| (EQUALS|SIGN))|COMBINING ((ACUTE|GRAVE) (ACCENT(| BELOW)|TONE MARK)|",
    "ACUTE-GRAVE-ACUTE|ACUTE-MACRON|BREVE-MACRON|CANDRABINDU|CEDILLA|DIAERESIS-RING|FERMATA|",
    "GRAVE-ACUTE-GRAVE|GRAVE-MACRON|HORN|INFINITY|MACRON-ACUTE|MACRON-BREVE|MACRON-GRAVE|OVERLINE|",
    "ALMOST EQUAL TO (ABOVE|BELOW)|ANNUITY SYMBOL|(ANTICLOCKWISE|CLOCKWISE) (ARROW ABOVE|RING ",
    "OVERLAY)|(ASTERISK|BRIDGE|X|ZIGZAG) (ABOVE|BELOW)|(BINDU|IS|SEAGULL|SNAKE|X-X) BELOW|(BREVE|",
    "CARON|DIAERESIS)(| BELOW)|CIRCUMFLEX ACCENT(| BELOW)|COMMA (ABOVE(| RIGHT)|BELOW)|CONJOINING ",
    "MACRON(| BELOW)|CYRILLIC ((DASIA|PSILI) PNEUMATA|HUNDRED (MILLIONS|THOUSANDS) SIGN|KAVYKA|",
    "PALATALIZATION|PAYEROK|POKRYTIE|VZMET|LETTER (A|BE|CHE|DE|DJERV|EF|EL|EM|EN|ER|ES|ES-TE|FITA|",
    "GHE|HA|I|IE|KA|O|OMEGA|PE|SHA|SHCHA|TE|TSE|U|VE|YAT|YERU|YI|YU|ZE|ZHE|(BIG|LITTLE) YUS|(HARD|",
    "SOFT) SIGN|IOTIFIED (A|E|BIG YUS)|MONOGRAPH UK|UKRAINIAN IE)|MILLIONS SIGN|(TEN|THOUSAND) ",
    "MILLIONS SIGN|TITLO(| (LEFT|RIGHT) HALF))|(DELETION|SUSPENSION) MARK|DEVANAGARI (DIGIT ",
    "(EIGHT|FIVE|FOUR|NINE|ONE|SEVEN|SIX|THREE|TWO|ZERO)|LETTER (A|KA|NA|PA|RA|U|VI)|SIGN ",
    "AVAGRAHA)|DOT (ABOVE(| (LEFT|RIGHT))|BELOW(| LEFT))|DOTTED (ACUTE|GRAVE) ACCENT|DOUBLE ",
    "((ACUTE|GRAVE) ACCENT|(BREVE|MACRON)(| BELOW)|(CIRCUMFLEX|PARENTHESES) ABOVE|INVERTED BREVE",
    "(| BELOW)|LOW LINE|OPEN MARK BELOW|OVERLINE|PLUS SIGN (ABOVE|BELOW)|RIGHTWARDS ARROW BELOW|",
    "RING BELOW|TILDE(| (LEFT|RIGHT) HALF)|VERTICAL (LINE (ABOVE|BELOW)|STROKE OVERLAY))|DOUBLED ",
    "CIRCUMFLEX ACCENT|DOWN TACK BELOW|DOWNWARDS ARROW|ENCLOSING (CIRCLE(| BACKSLASH)|DIAMOND|",
    "KEYCAP|SCREEN|SQUARE|UPWARD POINTING TRIANGLE)|(EQUALS|MINUS) SIGN BELOW|(FOUR|THREE) DOTS ",
    "ABOVE|GLAGOLITIC LETTER (AZU|BUKY|CHRIVI|DJERVI|DOBRO|FITA|FRITU|GLAGOLI|HERU|I|IZHE|KAKO|",
    "LJUDIJE|MYSLITE|NASHI|ONU|POKOJI|RITSI|SHA|SHTA|SLOVO|TSI|TVRIDO|UKU|VEDE|YATI|YERI|YERU|",
    "YESTU|YO|YU|ZEMLJA|ZHIVETE|(BIG|SMALL) YUS|INITIAL IZHE|IOTATED (BIG|SMALL) YUS)|GRANTHA ",
    "(DIGIT (FIVE|FOUR|ONE|SIX|THREE|TWO|ZERO)|LETTER (A|KA|NA|PA|VI))|GRAPHEME JOINER|GREEK ",
    "(DIALYTIKA TONOS|KORONIS|PERISPOMENI|YPOGEGRAMMENI|MUSICAL (PENTASEME|TETRASEME|TRISEME))|",
    "(HOMOTHETIC|HOOK|UR|US) ABOVE|INVERTED (BREVE(| BELOW)|BRIDGE BELOW|DOUBLE ARCH (ABOVE|",
    "BELOW))|KATAKANA-HIRAGANA (SEMI-VOICED|VOICED) SOUND MARK|KAVYKA ABOVE (LEFT|RIGHT)|LATIN ",
    "(LETTER SMALL CAPITAL (G|L|M|N|R)|SMALL LETTER (A(| WITH DIAERESIS)|AE|ALPHA|AO|AV|B|BETA|D|",
    "E|ESH|ETH|F|G|H|I|K|M|N|P|S|SCHWA|T|V|X|Z|C(| CEDILLA)|FLATTENED OPEN A ABOVE|INSULAR (D|G|R|",
    "T)|L(| WITH DOUBLE MIDDLE TILDE)|LONG S|(O|U)(| WITH (DIAERESIS|LIGHT CENTRALIZATION ",
    "STROKE))|R(| (BELOW|ROTUNDA))|TURNED W BELOW|W(| BELOW)))|LEFT ((ANGLE|ARROW|ARROWHEAD) ",
    "(ABOVE|BELOW)|HALF RING (ABOVE|BELOW)|HARPOON ABOVE|PARENTHESIS (ABOVE|BELOW) LEFT|RIGHT ",
    "ARROW (ABOVE|BELOW)|TACK BELOW)|LEFTWARDS (ARROW OVERLAY|HARPOON WITH BARB DOWNWARDS)|",
    "LIGATURE (LEFT|RIGHT) HALF(| BELOW)|(LIGHT|STRONG) CENTRALIZATION STROKE BELOW|LONG (DOUBLE ",
    "SOLIDUS OVERLAY|(SOLIDUS|STROKE) OVERLAY|VERTICAL LINE OVERLAY)|LOW LINE|MACRON(| (BELOW|",
    "(LEFT|RIGHT) HALF(| BELOW)))|NOT TILDE ABOVE|NUMBER SIGN ABOVE|OGONEK(| ABOVE)|OLD PERMIC ",
    "LETTER (AN|DOI|NENOE|SII|ZATA)|OPEN MARK BELOW|(PALATALIZED|RETROFLEX) HOOK BELOW|",
    "(PARENTHESES|RING) (ABOVE|BELOW|OVERLAY)|PLUS SIGN (ABOVE|BELOW)|REVERSE SOLIDUS OVERLAY|",
    "(REVERSED|TURNED) COMMA ABOVE|RIGHT (ARROW (ABOVE|BELOW)|ARROWHEAD (ABOVE|BELOW|AND (DOWN|",
    "UP) ARROWHEAD BELOW)|HALF RING (ABOVE|BELOW)|HARPOON ABOVE|PARENTHESIS (ABOVE|BELOW) RIGHT|",
    "TACK BELOW)|RIGHTWARDS HARPOON WITH BARB DOWNWARDS|SHORT ((SOLIDUS|STROKE) OVERLAY|VERTICAL ",
    "LINE OVERLAY)|SQUARE (BELOW|BRACKETS ABOVE)|TILDE(| (BELOW|OVERLAY|(LEFT|RIGHT) HALF BELOW))|",
    "TRIPLE (ACUTE ACCENT|DOT|UNDERDOT)|UP TACK (ABOVE|BELOW)|UPWARDS ARROW BELOW|VERTICAL (LINE ",
    "(ABOVE|BELOW)|TILDE)|WIDE (BRIDGE ABOVE|INVERTED BRIDGE BELOW)|WIGGLY LINE BELOW)|COMMERCIAL ",
    "(AT|MINUS SIGN)|(CONFETTI|CRYSTAL) BALL|CONGRUENT WITH DOT ABOVE|CONICAL TAPER|CONSTRUCTION ",
    "(SIGN|WORKER)|CONTAINS (AS (MEMBER|NORMAL SUBGROUP(| OR EQUAL TO))|WITH (LONG HORIZONTAL ",
    "STROKE|OVERBAR|VERTICAL BAR AT END OF HORIZONTAL STROKE))|CONTINUOUS UNDERLINE SYMBOL|",
    "CONTOUR INTEGRAL|CONTROL (KNOBS|SEQUENCE INTRODUCER)|CONVENIENCE STORE|COOKED RICE|COPTIC ",
    "((CAPITAL|SMALL) LETTER ((AKHMIMIC|BOHAIRIC) KHEI|ALFA|DALDA|DEI|EIE|FEI|FI|GAMMA|GANGIA|",
    "HATE|HORI|IAUDA|KAPA|KHEI|KHI|KSI|LAULA|MI|NI|O|OOU|PI|PSI|RO|SAMPI|SHEI|SHIMA|SIMA|SOU|TAU|",
    "THETHE|UA|VIDA|ZATA|CROSSED SHEI|CRYPTOGRAMMIC (EIE|GANGIA|NI|SHEI)|DIALECT-P (ALEF|HORI|",
    "KAPA|NI)|L-SHAPED HA|OLD (COPTIC (AIN|DJA|ESH|GANGIA|HA|HAT|HEI|HORI|OOU|SHEI|SHIMA)|NUBIAN ",
    "(NGI|NYI|SHIMA|WAU)))|COMBINING (NI ABOVE|SPIRITUS (ASPER|LENIS))|EPACT (DIGIT (EIGHT|FIVE|",
    "FOUR|NINE|ONE|SEVEN|SIX|THREE|TWO)|NUMBER ((EIGHT|FIVE|FOUR|NINE|ONE|SEVEN|SIX|THREE|TWO) ",
    "HUNDRED|EIGHTY|FIFTY|FORTY|NINETY|SEVENTY|SIXTY|TEN|THIRTY|TWENTY)|THOUSANDS MARK)|FRACTION ",
    "ONE HALF|FULL STOP|MORPHOLOGICAL DIVIDER|OLD NUBIAN ((DIRECT|INDIRECT) QUESTION MARK|FULL ",
    "STOP|VERSE DIVIDER)|SYMBOL (KAI|STAUROS|(KHI|MI|PI|TAU) RO|SHIMA SIMA))|CORNISH VERSE ",
    "DIVIDER|CORRESPONDS TO|COUCH AND LAMP|COUNTING ROD (TENS|UNIT) DIGIT (EIGHT|FIVE|FOUR|NINE|",
    "ONE|SEVEN|SIX|THREE|TWO)|COUPLE WITH HEART|COW(| FACE)|CREDIT CARD|CRESCENT MOON|CRICKET(| ",
    "BAT AND BALL)|CROSS (MARK|OF (JERUSALEM|LORRAINE)|PATTY WITH (LEFT|RIGHT) CROSSBAR|POMMEE(| ",
    "WITH HALF-CIRCLE BELOW))|CROSSED (FLAGS|SWORDS|NEGATIVE SQUARED LATIN CAPITAL LETTER P)|",
    "CROSSING LANES|CRYING (CAT FACE|FACE)|CUBE ROOT|CUNEIFORM (NUMERIC SIGN (EIGHT (ASH|DISH|",
    "(GESH|SHAR)2|U(| VARIANT FORM)|VARIANT FORM USSU(|3))|ELAMITE (FIFTY|FORTY|ONE THIRD|TWO ",
    "THIRDS)|FIVE (ASH(| TENU)|BAN2(| VARIANT FORM)|BURU|DISH|GESHU|SHARU|(GESH|SHAR)2|SIXTHS ",
    "DISH|U(| VARIANT FORM))|FOUR (ASH(| TENU)|BAN2(| VARIANT FORM)|BURU|DISH|GESHU|SHARU|(GESH|",
    "SHAR)2|U(| VARIANT FORM)|VARIANT FORM LIMMU(| A| B|4))|NIGIDAESH|NIGIDAMIN|NINE (ASH|DISH|",
    "(GESH|SHAR)2|U(| VARIANT FORM)|VARIANT FORM ILIMMU(| A|3|4))|OLD ASSYRIAN ONE (QUARTER|",
    "SIXTH)|ONE ((BAN|GESH)2|BURU|GESHU|SHARU|EIGHTH ASH|ESHE3|HALF GUR|QUARTER (ASH|GUR)|THIRD ",
    "(DISH|VARIANT FORM A))|SEVEN (ASH|DISH|(GESH|SHAR)2|U(| VARIANT FORM)|VARIANT FORM IMIN( A| ",
    "B|3))|SHAR2 TIMES GAL PLUS (DISH|MIN)|SIX (ASH(| TENU)|DISH|(GESH|SHAR)2|U(| VARIANT FORM)|",
    "VARIANT FORM ASH9)|THREE (ASH(| TENU)|(BAN|GESH)2|(BURU|SHARU)(| VARIANT FORM)|DISH|GESHU|",
    "SHAR2(| VARIANT FORM)|VARIANT FORM ESH(16|21))|TWO (ASH(| TENU)|(BAN|GESH|SHAR)2|BURU|GESHU|",
    "SHARU|ESHE3|THIRDS (DISH|VARIANT FORM A)))|PUNCTUATION SIGN (DIAGONAL (COLON|QUADCOLON|",
    "TRICOLON)|OLD ASSYRIAN WORD DIVIDER|VERTICAL COLON)|SIGN (A(| TIMES (A|BAD|HA|IGI|MUSH|SAG|",
    "GAN2 TENU|LAGAR GUNU)|2)|AB(| GUNU| TIMES ((ASH|SHU)2|DUN3 GUNU|GAL|HA|IMIN|LAGAB|SHESH|GAN2 ",
    "TENU|IGI GUNU|NUN(| TENU)|U PLUS U PLUS U)|2(| TIMES (A|BALAG|GAN2 TENU|ME PLUS EN|SHA3|",
    "TAK4)))|AD(| TIMES ESH2)|AK(| TIMES (ERIN2|SHITA PLUS GISH))|AL(| TIMES (AL|GISH|HA|KI|SHE|",
    "USH|DIM2|KAD3))|ALAN|ALEPH|ANSHE|APIN|ARKAB|ASHGAB|BA|BALAG|BAR|DAM|DAR|DI|DIB|DUGUD|DUH|",
    "EDIN|EGIR|EL|EREN|GALAM|GAM|GASHAN|GIDIM|GIG|GISAL|GUL|GURUN|GURUSH|HAL|HU|HUSH|IB|IG|IMIN|",
    "IN|IR|ISH|KAB|KID|KIN|KISAL|KISH|KUN|LA|LAHSHU|LI|LIL|LISH|LUH|LUL|MAH|MAR|ME|MES|MESH|MIN|",
    "MUNSUB|NAGAR|NISAG|PA|PAD|PAN|PAP|RA|RAB|RI|RU|SA|SAR|SHEN|SHESHLAM|SHINIG|SHITA|SHUBUR|",
    "SUHUR|SUM|SUMASH|TAR|TIL|TU|TUK|UB|UDUG|UMBIN|USHUMX|USHX|UTUKI|UZU|ZAG|ZAMX|ZIG|ZUBUR|ZUM|",
    "AMAR(| TIMES (KUG|SHE))|AN(| (OVER AN|PLUS NAGA (OPPOSING AN PLUS NAGA|SQUARED)|THREE ",
    "TIMES))|ARAD(| TIMES KUR)|(ASAL|BARA|DUR|HUL|KESH|KUSHU|LIMMU|MURGU|PIR|SANGA|SHAR|SIK|TUG|",
    "ZE|ZIZ)2|ASH(| (KABA|ZIDA) TENU| OVER ASH (OVER ASH(| CROSSING ASH OVER ASH OVER ASH)|TUG2 ",
    "OVER TUG2 TUG2 OVER TUG2 PAP)|2)|BAD(| TIMES DISH TENU)|(BAG|SILA)3|BAHAR2(| TIMES (AB2|NI|",
    "ZA))|BAL(| OVER BAL)|BI(| TIMES (A|GAR|IGI GUNU))|BU(| (CROSSING BU|OVER BU (AB|UN|TIMES ",
    "NA2)))|BULUG(| OVER BULUG)|(BUR|MASH|SHESH|SUD)(|2)|DA(| TIMES TAK4)|DAG(| KISIM5 TIMES (A ",
    "PLUS MASH|AMAR|BALAG|BI|GI|GUD|HA|KAK|LA|LUM|NE|SI|USH|GA(| PLUS MASH)|GIR2|IR(| PLUS LU)|LU",
    "(| PLUS MASH2)|PAP PLUS PAP|TAK4|U2 PLUS (GIR2|MASH))| TIMES KUR|3)|DARA(3|4)|DIM(| TIMES ",
    "(IGI|SHE|U U U)|2(| TIMES UD))|DIN(| KASKAL U GUNU DISH)|DISH(| PLUS SHU)|DU(| (GUNU|SHESHIG|",
    "OVER DU))|DUB(| TIMES (ESH2|SHE)|2)|DUG(| TIMES (ANSHE|DIN|DUN|GA|GI|GISH|HA|HI|KASKAL|KUR|",
    "MASH|MES|MI|NI|PI|SHE|ASH(| AT LEFT)|ERIN2|GIR2 GUNU|(IGI|SI) GUNU|KUSHU2(| PLUS KASKAL)|",
    "LAK-020|LAM(| TIMES KUR)|LUH PLUS GISH))|DUN(|3(| GUNU(| GUNU))|4)|E(| OVER E NUN OVER NUN| ",
    "TIMES PAP|2(| TIMES (A PLUS HA PLUS DA|GAR|KUR|MI|PAP|SAL|SHE|U)))|EN(| ((CROSSING|OPPOSING) ",
    "EN|SQUARED|TIMES (GAN2(| TENU)|ME)))|ERIN2(| X)|ESH2(| CROSSING ESH2)|EZEN(| (SHESHIG TIMES ",
    "(ASH|HI|LA|LAL|ME|MES|SU|IGI GUNU)|TIMES (A(| PLUS LAL(| TIMES LAL))|AN|BAD|GUD|LA|LI|LU|SHE|",
    "SU|UD|DUN3 GUNU(| GUNU)|HA(| GUNU)|IGI GUNU|KASKAL(| SQUARED)|KU3|LAL TIMES LAL|U2)))|GA(| ",
    "GUNU|2(| (OVER GA2|TIMES (A PLUS (DA PLUS HA|HA|IGI)|AB2 TENU PLUS TAB|AN(| PLUS KAK PLUS A)|",
    "ASH(|2(| PLUS GAL))|BAD|DA|DI|DUB|EREN|GA|KAK|KASKAL|LA|LUH|MI|MUSH|PA|SAL|SAR|SHID|SHIM|SUM|",
    "U|(BAHAR|HUB|ZIZ)2|BAR PLUS RA|BUR(| PLUS RA)|DIM (GUNU|TIMES SHE)|DUG TIMES (IGI GUNU|",
    "KASKAL)|(EL|HAL)(| PLUS LA)|EN(| TIMES GAN2 TENU)|GAN2 TENU|GAR(| PLUS (DI|NE))|GI(|4(| PLUS ",
    "A))|GIR2 PLUS SU|HA PLUS (A|LU PLUS ESH2)|HI PLUS LI|IGI GUNU|ISH PLUS HU PLUS ASH|KID(| ",
    "PLUS LAL)|KU3 PLUS AN|KUSHU2 PLUS KASKAL|LAM(| TIMES KUR)|ME PLUS EN|NE(| PLUS (E2|GI))|NUN",
    "(| OVER NUN)|SHE(| PLUS TUR)|TAK4|UD(| PLUS DU)))))|GABA(| (CROSSING GABA|ROTATED NINETY ",
    "DEGREES))|GAD(| OVER GAD GAR OVER GAR)|GAL(| GAD OVER GAD GAR OVER GAR)|GAN(|2(| ((CROSSING|",
    "OVER) GAN2|TENU)))|(GAR|URI)(|3)|GE22|GESHTIN(| TIMES (KUR|U))|GI(| CROSSING GI| TIMES (E|U)|",
    "4(| (CROSSING|OVER) GI4))|GIR(2(| GUNU)|3(| TIMES ((A|LU) PLUS IGI|GAN2 TENU|IGI|PA)))|GISH",
    "(| (CROSSING GISH|TENU|TIMES (BAD|GISH CROSSING GISH|TAK4)))|GU(| CROSSING GU|2(| (GUNU|",
    "TIMES (IGI GUNU|KAK(| TIMES IGI GUNU)|NUN|SAL PLUS TUG2))))|GUD(| (OVER GUD LUGAL|PLUS GISH ",
    "TIMES TAK4|TIMES (A PLUS KUR|KUR)))|GUM(| TIMES SHE)|GUR(|7)|HA(| (GUNU|TENU(| GUNU)))|HI(| ",
    "TIMES (ASH(| OVER HI TIMES ASH|2)|BAD|DISH|GAD|KIN|NUN|SHE|U))|HUB2(| TIMES (AN|HAL|KASKAL|",
    "LISH|UD))|I(| A)|IDIM(| OVER IDIM (BUR|SQUARED))|IGI(| (DIB|GUNU|RI|OVER IGI SHIR OVER SHIR ",
    "UD OVER UD))|IL(| TIMES GAN2 TENU|2)|IM(| ((CROSSING|OPPOSING) IM|SQUARED|TIMES TAK4))|KA(| ",
    "TIMES (A|ANSHE|BAD|BALAG|BAR|BI|BU|GA|GAL|GI|GU|GUD|IGI|IM|KA|KAK|KI|KID|LI|LU|LUM|NE|NUN|PA|",
    "PI|RU|SA|SAR|SHA|SHE|SHID|SHU|SHUL|SIG|SUHUR|TAR|TU|UD|USH|ZI|AD(| PLUS KU3)|ASH(2|3)|(ERIN|",
    "ESH|GIR)2|GAN2 TENU|GAR(| PLUS SHA3 PLUS A)|GISH(| (CROSSING GISH|PLUS SAR))|GUR7|HI TIMES ",
    "ASH2|ME(| PLUS (DU|GI|TE))|MI(| PLUS NUNUZ)|U(| U U|2)|UMUM TIMES PA|UR(|2))|2(| CROSSING ",
    "KA2))|KAD(2|3|4|5(| OVER KAD5))|KAK(| TIMES IGI GUNU)|KAL(| (CROSSING KAL|TIMES BAD))|KAM(2|",
    "4)|KAP ELAMITE|KASKAL(| (LAGAB TIMES U OVER LAGAB TIMES U|OVER KASKAL LAGAB TIMES U OVER ",
    "LAGAB TIMES U))|KI(| TIMES (BAD|U|UD))|KISIM5(| OVER KISIM5)|KU(| OVER HI TIMES ASH2 KU OVER ",
    "HI TIMES ASH2|3|7|4(| VARIANT FORM))|(KUL|MUG|TE|UN)(| GUNU)|KUR(| OPPOSING KUR)|KWU318|LAGAB",
    "(| (SQUARED|TIMES (A(| PLUS (DA PLUS HA|GAR|LAL))|AL|AN|BAD|BI|DAR|EN|GA|GAR|GI|HA|HAL|KI|",
    "KIN|LAGAB|LISH|LU|LUL|MUSH|NE|SUM|TAG|UD|USH|ASH ZIDA TENU|GUD(| PLUS GUD)|HI TIMES NUN|IGI ",
    "GUNU|IM(| PLUS (HA|LU))|KU3|KUL(| PLUS HI PLUS A)|ME(| PLUS EN)|SHE PLUS SUM|SHITA PLUS GISH ",
    "(PLUS ERIN2|TENU)|SHU2(| PLUS SHU2)|TAK4|TE PLUS A PLUS SU PLUS NA|U(| PLUS (A|U PLUS U)|2 ",
    "PLUS ASH)|ZU OVER ZU)))|LAGAR(| (GUNU(| OVER LAGAR GUNU SHE)|TIMES SHE(| PLUS SUM)))|LAK-(0",
    "(03|2(1|5)|30|5(0|1)|(6|9)2|79 OVER LAK-079 GUNU|8(0|1 OVER LAK-081))|1(30|42)|2(1(0|9)|2(0|",
    "5|8)|38|6(5|6))|3(4(3|7|8)|8(3|4)|90)|4(4(1|9(| TIMES (GU|IGI|PAP PLUS (LU3|PAP PLUS LU3)|U2 ",
    "PLUS BA)))|5(0|7)|70|83|9(0|2|3|5))|550|6(08|17(| TIMES (ASH|BAD|LA|TAR|TE|UD|URUDA|DUN3 ",
    "GUNU GUNU|KU3|U2))|36|48(| TIMES (DUB|GA|NI|UD|URUDA|IGI(| GUNU)|PAP PLUS PAP PLUS LU3|SHESH ",
    "PLUS KI)))|7(24|49))|LAL(| TIMES LAL)|LAM(| TIMES KUR(| PLUS RU))|LU(| TIMES BAD|2(| ",
    "((CROSSING|OPPOSING) LU2|GUNU TIMES ASH|SHESHIG(| TIMES BAD)|SQUARED|TENU|TIMES (AL|BAD|DISH|",
    "HAL|IM|KI|LAGAB|NE|NU|SHU|ESH2(| (PLUS LAL|TENU))|GAN2 TENU|HI TIMES BAD|KAD(2|3(| PLUS ",
    "ASH))|(LA|SI) PLUS ASH|ME PLUS EN|PAP(| PLUS PAP PLUS LU3)|SIK2 PLUS BU|TAK4|TUG2)))|3)|LUGAL",
    "(| ((OPPOSING|OVER) LUGAL|SHESHIG))|LUM(| OVER LUM(| GAR OVER GAR))|MA(| GUNU|2| TIMES TAK4)|",
    "MI(| PLUS ZA7)|MU(| OVER MU)|MUSH(| CROSSING MUSH| OVER MUSH(| TIMES (A PLUS NA|GA|KAK))| ",
    "TIMES (A|KUR|ZA)|3(| (GUNU|TIMES (A(| PLUS DI)|DI|ZA))))|NA(|2|4)|NAGA(| (INVERTED|OPPOSING ",
    "NAGA|TIMES SHU TENU))|NAM(| NUTILLU|2)|NE(| (SHESHIG|TIMES (A|UD)))|NI(| TIMES E|2)|NIM(| ",
    "TIMES (GAN2 TENU|GAR PLUS GAN2 TENU))|(NIN|SUR)(|9)|NINDA2(| TIMES (AN|BAL|GI|GISH|GUD|GUL|",
    "HI|MASH|NE|NUN|URUDA|USH|ASH(| PLUS ASH)|DIM GUNU|KESH2|LAK-050|ME PLUS GAN2 TENU|PAP PLUS ",
    "PAP|SHE(| PLUS (A AN|ASH(| PLUS ASH)))|U(| PLUS U|2 PLUS ASH)))|NU(|11(| (OVER NU11 BUR OVER ",
    "BUR|ROTATED NINETY DEGREES|TENU)))|NUN(| (CROSSING NUN(| LAGAR OVER LAGAR)|LAGAR TIMES (GAR|",
    "MASH|USH|SAL(| OVER NUN LAGAR TIMES SAL))|OVER NUN|TENU))|NUNUZ(| (AB2 TIMES (ASHGAB|BI|DUG|",
    "GUD|LA|NE|IGI GUNU|(KAD|SILA)3|U2)|KISIM5 TIMES BI(| U)))|PESH2(| ASTERISK)|PI(| (CROSSING ",
    "PI|TIMES (A|AB|BI|BU|E|I|IB|U(|2))))|PIRIG(| (OPPOSING PIRIG|TIMES (KAL|UD|ZA)))|SAG(| (GUNU",
    "(| TIMES HA)|NUTILLU|OVER SAG|TIMES (A|DU|DUB|EN|HA|KAK|KUR|LUM|MI|NUN|SAL|SHID|TAB|UB|UM|UR|",
    "USH|IGI GUNU|SHE AT LEFT|TAK4|U2)))|SAL(| LAGAB TIMES ASH2)|SHA(|3(| TIMES (A|BAD|GISH|NE|",
    "TUR|SHU2|U(| PLUS A)))|6(| TENU))|SHAB6|SHE(| (HU|OVER SHE(| (GAD OVER GAD GAR OVER GAR|TAB ",
    "OVER TAB GAR OVER GAR))|PLUS ((HUB|NAM)2|SAR)))|SHEG9|SHID(| TIMES (A|IM))|SHIM(| TIMES (A|",
    "BAL|BULUG|DIN|GAR|LUL|MUG|SAL|IGI(| GUNU)|KUSHU2))|SHIR(| (OVER SHIR BUR OVER BUR|TENU))|SHU",
    "(| OVER INVERTED SHU|2(| PLUS (DUG TIMES NI|E2 TIMES AN)))|SI(| (GUNU|TIMES TAK4))|SIG(|4(| ",
    "OVER SIG4 SHU2))|SU(| OVER SU)|TA(| (ASTERISK|GUNU|TIMES (HI|MI)))|TAB(| (OVER TAB NI OVER ",
    "NI DISH OVER DISH|SQUARED))|TAG(| TIMES (BI|GUD|SHE|SHU|UD|TUG2))|TAK4(| PLUS SAG)|TI(| TENU|",
    "2)|TIR(| (OVER TIR(| GAD OVER GAD GAR OVER GAR)|TIMES TAK4))|TUM(| TIMES (GAN2 TENU|THREE ",
    "DISH))|TUR(| OVER TUR ZA OVER ZA)|U(| GUD|2| OVER U (PA OVER PA GAR OVER GAR|SUR OVER SUR|U ",
    "REVERSED OVER U REVERSED)| U(| U))|UD(| (GUNU|KUSHU2|SHESHIG(| TIMES BAD)|TIMES (BAD|MI|U ",
    "PLUS U PLUS U(| GUNU))))|UM(| TIMES (LAGAB|U|ME(| PLUS DA)|SHA3))|UMUM(| TIMES (KASKAL|PA))|",
    "UR(| CROSSING UR| SHESHIG|4|2(| (INVERTED|TIMES (A PLUS (HA|NA)|AL|HA|NUN|UD|U2(| PLUS (ASH|",
    "BI))))))|URU(| TIMES (A|ASHGAB|BAR|DUN|GA|GAL|GAR|GU|HA|IGI|IM|ISH|KI|LUM|MIN|PA|SHE|TU|UD|",
    "URUDA|(DARA|LU)3|GAN2 TENU|LAK-668|SIG4|U PLUS GUD))|URUDA(| TIMES U)|USH(| TIMES (A|KU|KUR|",
    "TAK4)|2)|UZ3(| TIMES KASKAL)|ZA(| SQUARED TIMES KUR| TENU|7)|ZI(| OVER ZI|3)|ZIB(| KABA ",
    "TENU)|ZU(| OVER ZU PLUS SAR|5(| TIMES (A|THREE DISH TENU)))))|CUP (ON BLACK SQUARE|WITH ",
    "STRAW)|CURLING STONE|CURLY (BRACKET EXTENSION|LOGICAL (AND|OR)|LOOP)|CURRENCY (EXCHANGE|",
    "SIGN)|CURRY AND RICE|CURVED STEM PARAGRAPH SIGN ORNAMENT|CUT OF MEAT|CYPRIOT SYLLABLE (A|E|I|",
    "JA|JO|KA|KE|KI|KO|KU|LA|LE|LI|LO|LU|MA|ME|MI|MO|MU|NA|NE|NI|NO|NU|O|PA|PE|PI|PO|PU|RA|RE|RI|",
    "RO|RU|SA|SE|SI|SO|SU|TA|TE|TI|TO|TU|U|WA|WE|WI|WO|XA|XE|ZA|ZO)|CYPRO-MINOAN SIGN CM(0(0(1|2|",
    "4|5|6|7|8|9)|1(0|1|3|5|7|9|2(|B))|2(1|3|4|5|6|7|8|9)|3(0|3|4|5|6|7|8|9)|4(0|1|4|6|7|9)|5(0|1|",
    "2|3|4|5|6|8|9)|6(0|1|2|3|4|6|7|8|9)|7(0|1|2|3|4|6|8|9|5(|B))|8(0|1|2|3|4|5|6|7|8|9)|9(0|1|2|",
    "4|5|6|7|8|9))|1(0(0|1|2|3|4|5|7|8|9)|1(0|2|4))|30(1|2))|CYRILLIC (CAPITAL (LETTER (A(| WITH ",
    "(BREVE|DIAERESIS))|ABKHASIAN (CHE(| WITH DESCENDER)|DZE|HA)|(ALEUT|BASHKIR) KA|BARRED O(| ",
    "WITH DIAERESIS)|BE|CCHE|DCHE|DE|DJE|DJERV|DWE|DZE|DZELO|DZHE|DZWE|DZZE|DZZHE|EF|FITA|GJE|HWE|",
    "IO|IOTA|JE|KJE|KOPPA|KSI|LHA|LJE|NJE|OT|PSI|QA|RHA|SHA|SHCHA|SHWE|TCHE|TSE|TSHE|TSSE|TSWE|",
    "TWE|UK|VE|WE|YA|YAE|YAT|YI|YN|YU|ZEMLYA|ZHWE|(BIG|BLENDED|LITTLE) YUS|(BINOCULAR|CROSSED|",
    "MONOCULAR) O|(BROAD|ROUND) OMEGA|BYELORUSSIAN-UKRAINIAN I|CHE(| WITH (DESCENDER|DIAERESIS|",
    "VERTICAL STROKE))|CLOSED LITTLE YUS|DOUBLE (MONOCULAR O|O)|(E|O|SCHWA)(| WITH DIAERESIS)|EL",
    "(| WITH (DESCENDER|HOOK|TAIL|MIDDLE HOOK))|EM(| WITH TAIL)|EN(| WITH (DESCENDER|HOOK|TAIL|",
    "(LEFT|MIDDLE) HOOK))|ER(| WITH TICK)|(ES|SHHA)(| WITH DESCENDER)|GHE(| WITH (DESCENDER|",
    "UPTURN|MIDDLE HOOK|STROKE(| AND HOOK)))|HA(| WITH (DESCENDER|HOOK|STROKE))|(HARD|SEMISOFT) ",
    "SIGN|I(| WITH (DIAERESIS|GRAVE|MACRON))|IE(| WITH (BREVE|GRAVE))|IOTIFIED (A|E|YAT|(BIG|",
    "LITTLE) YUS|CLOSED LITTLE YUS)|IZHITSA(| WITH DOUBLE GRAVE ACCENT)|KA(| WITH (DESCENDER|HOOK|",
    "STROKE|VERTICAL STROKE))|KHAKASSIAN CHE|KOMI (DE|DJE|DZJE|LJE|NJE|SJE|TJE|ZJE)|MONOGRAPH UK|",
    "NEUTRAL YER|OMEGA(| WITH TITLO)|(PE|TE)(| WITH (DESCENDER|MIDDLE HOOK))|REVERSED (DZE|TSE|YU|",
    "ZE)|SHORT (I(| WITH TAIL)|U)|SOFT (DE|EL|EM|SIGN)|STRAIGHT U(| WITH STROKE)|U(| WITH ",
    "(DIAERESIS|MACRON|DOUBLE ACUTE))|UKRAINIAN IE|YERU(| WITH (BACK YER|DIAERESIS))|ZE(| WITH ",
    "(DESCENDER|DIAERESIS))|ZHE(| WITH (BREVE|DESCENDER|DIAERESIS)))|LIGATURE (A IE|EN GHE|TE ",
    "TSE))|KAVYKA|PAYEROK|LETTER (MULTIOCULAR O|PALOCHKA|SMALL CAPITAL EL)|SMALL (LETTER (A(| ",
    "WITH (BREVE|DIAERESIS))|ABKHASIAN (CHE(| WITH DESCENDER)|DZE|HA)|(ALEUT|BASHKIR) KA|BARRED O",
    "(| WITH DIAERESIS)|BE|CCHE|DCHE|DE|DJE|DJERV|DWE|DZE|DZELO|DZHE|DZWE|DZZE|DZZHE|EF|FITA|GJE|",
    "HWE|IO|IOTA|JE|KJE|KOPPA|KSI|LHA|LJE|NJE|OT|PALOCHKA|PSI|QA|RHA|SHA|SHCHA|SHWE|TCHE|TSE|TSHE|",
    "TSSE|TSWE|TWE|UK|VE|WE|YA|YAE|YAT|YI|YN|YU|ZEMLYA|ZHWE|(BIG|BLENDED|LITTLE) YUS|(BINOCULAR|",
    "CROSSED|MONOCULAR|NARROW) O|(BROAD|ROUND) OMEGA|BYELORUSSIAN-UKRAINIAN I|CHE(| WITH ",
    "(DESCENDER|DIAERESIS|VERTICAL STROKE))|CLOSED LITTLE YUS|DOUBLE (MONOCULAR O|O)|(E|O|SCHWA)",
    "(| WITH DIAERESIS)|EL(| WITH (DESCENDER|HOOK|TAIL|MIDDLE HOOK))|EM(| WITH TAIL)|EN(| WITH ",
    "(DESCENDER|HOOK|TAIL|(LEFT|MIDDLE) HOOK))|ER(| WITH TICK)|(ES|SHHA)(| WITH DESCENDER)|GHE(| ",
    "WITH (DESCENDER|UPTURN|MIDDLE HOOK|STROKE(| AND HOOK)))|HA(| WITH (DESCENDER|HOOK|STROKE))|",
    "(HARD|SEMISOFT) SIGN|I(| WITH (DIAERESIS|GRAVE|MACRON))|IE(| WITH (BREVE|GRAVE))|IOTIFIED (A|",
    "E|YAT|(BIG|LITTLE) YUS|CLOSED LITTLE YUS)|IZHITSA(| WITH DOUBLE GRAVE ACCENT)|KA(| WITH ",
    "(DESCENDER|HOOK|STROKE|VERTICAL STROKE))|KHAKASSIAN CHE|KOMI (DE|DJE|DZJE|LJE|NJE|SJE|TJE|",
    "ZJE)|LONG-LEGGED DE|(MONOGRAPH|UNBLENDED) UK|NEUTRAL YER|OMEGA(| WITH TITLO)|(PE|TE)(| WITH ",
    "(DESCENDER|MIDDLE HOOK))|REVERSED (DZE|TSE|YU|ZE)|ROUNDED VE|SHORT (I(| WITH TAIL)|U)|SOFT ",
    "(DE|EL|EM|SIGN)|STRAIGHT U(| WITH STROKE)|TALL (HARD SIGN|TE|YAT)|THREE-LEGGED TE|U(| WITH ",
    "(DIAERESIS|MACRON|DOUBLE ACUTE))|UKRAINIAN IE|WIDE ES|YERU(| WITH (BACK YER|DIAERESIS))|ZE(| ",
    "WITH (DESCENDER|DIAERESIS))|ZHE(| WITH (BREVE|DESCENDER|DIAERESIS)))|LIGATURE (A IE|EN GHE|",
    "TE TSE))|THOUSANDS SIGN)"]

end GraphBind.Text.CharacterName
