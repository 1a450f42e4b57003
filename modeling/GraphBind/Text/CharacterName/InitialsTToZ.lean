/-!
# Character names with the initials T to Z

The names of characters that begin with the letters from T to Z, as patterns.
-/

namespace GraphBind.Text.CharacterName

/-- The names with the initial T. -/
def initialT : String :=
  String.join [
    "T-REX|T-SHIRT|TAB|TACO|TAMALE|TANGERINE|TAURUS|TAXI|TEAPOT|TELESCOPE|TELEVISION|TENT|",
    "THEREFORE|THERMODYNAMIC|THERMOMETER|THUNDERSTORM|TICKET|TOILET|TOMATO|TONGUE|TOOLBOX|TOOTH|",
    "TOOTHBRUSH|TRACKBALL|TRACTOR|TRAIN|TRANSPLUTO|TRICOLON|TROLL|TROLLEYBUS|TROPHY|TRUMPET|TULIP|",
    "TURKEY|TURTLE|TABLE TENNIS PADDLE AND BALL|TAG (AMPERSAND|APOSTROPHE|ASTERISK|COLON|COMMA|",
    "HYPHEN-MINUS|SEMICOLON|SOLIDUS|SPACE|TILDE|(CIRCUMFLEX|GRAVE) ACCENT|COMMERCIAL AT|DIGIT ",
    "(EIGHT|FIVE|FOUR|NINE|ONE|SEVEN|SIX|THREE|TWO|ZERO)|(DOLLAR|EQUALS|GREATER-THAN|LESS-THAN|",
    "NUMBER|PERCENT|PLUS) SIGN|(EXCLAMATION|QUESTION|QUOTATION) MARK|FULL STOP|LATIN (CAPITAL|",
    "SMALL) LETTER (A|B|C|D|E|F|G|H|I|J|K|L|M|N|O|P|Q|R|S|T|U|V|W|X|Y|Z)|(LEFT|RIGHT) ((CURLY|",
    "SQUARE) BRACKET|PARENTHESIS)|(LOW|VERTICAL) LINE|REVERSE SOLIDUS)|TAGALOG (LETTER (A|BA|DA|",
    "GA|HA|I|KA|LA|MA|NA|NGA|PA|RA|SA|TA|U|WA|YA|ARCHAIC RA)|SIGN (PAMUDPOD|VIRAMA)|VOWEL SIGN (I|",
    "U))|TAGBANWA (LETTER (A|BA|DA|GA|I|KA|LA|MA|NA|NGA|PA|SA|TA|U|WA|YA)|VOWEL SIGN (I|U))|TAI ",
    "(LE LETTER (A|AI|AUE|E|EE|EH|FA|HA|I|KA|KHA|LA|MA|NA|NGA|O|OO|PA|PHA|QA|SA|TA|THA|TSA|TSHA|U|",
    "UE|VA|XA|YA|TONE-(2|3|4|5|6))|THAM (COMBINING CRYPTOGRAMMIC DOT|CONSONANT SIGN (BA|MA|SA|",
    "FINAL NGA|HIGH RATHA OR LOW PA|LA TANG LAI|LOW PA|MEDIAL (LA|RA))|(HORA|THAM) DIGIT (EIGHT|",
    "FIVE|FOUR|NINE|ONE|SEVEN|SIX|THREE|TWO|ZERO)|LETTER (A|BA|DA|EE|I|II|LA|LAE|LLA|LUE|MA|NA|",
    "NGA|NYA|OO|RA|RANA|RATA|RUE|U|UU|WA|GREAT SA|HIGH (CA|CHA|FA|HA|KA|KHA|KXA|PA|PHA|RATHA|SA|",
    "SHA|SSA|TA|THA|YA)|LOW (CA|CHA|FA|HA|KA|KHA|KXA|PA|PHA|RATHA|SA|TA|THA|YA))|SIGN (CAANG|",
    "DOKMAI|HANG|HOY|KAAN|KAANKUU|KEOW|SAKOT|SATKAAN|SATKAANKUU|SAWAN|WIANG|WIANGWAAK|KHUEN TONE-",
    "(3|4|5)|KHUEN-LUE KARAN|MAI (KANG(| LAI)|SAM|YAMOK)|RA HAAM|REVERSED ROTATED RANA|TONE-(1|",
    "2))|VOWEL SIGN (A|AA|AE|AI|E|I|II|O|OO|OY|U|UE|UU|UUE|MAI SAT|OA (ABOVE|BELOW)|TALL AA|THAM ",
    "AI))|VIET (LETTER (HIGH|LOW) (BO|CHO|CO|DO|FO|GO|HO|KHHO|KHO|KO|LO|MO|NGO|NO|NYO|O|PHO|PO|RO|",
    "SO|THO|TO|VO|YO)|MAI (KANG|KHIT)|SYMBOL (HO HOI|KOI KOI|KON|NUENG|SAM)|TONE MAI (EK|NUENG|",
    "SONG|THO)|VOWEL (AA|AM|AN|AUE|AY|E|I|IA|O|U|UA|UE|UEA)))|TAKEOUT BOX|TAKRI (ABBREVIATION ",
    "SIGN|DIGIT (EIGHT|FIVE|FOUR|NINE|ONE|SEVEN|SIX|THREE|TWO|ZERO)|LETTER (A|AA|AI|AU|BA|BHA|CA|",
    "CHA|DA|DDA|DDHA|DHA|E|GA|GHA|HA|I|II|JA|JHA|KA|KHA|LA|MA|NA|NGA|NNA|NYA|O|PA|PHA|RA|RRA|SA|",
    "SHA|TA|THA|TTA|TTHA|U|UU|VA|YA|ARCHAIC KHA)|SIGN (ANUSVARA|NUKTA|VIRAMA|VISARGA)|VOWEL SIGN ",
    "(AA|AI|AU|E|I|II|O|U|UU))|TALLY MARK (FIVE|ONE)|TAMIL (AND ODD SIGN|AS ABOVE SIGN|AU LENGTH ",
    "MARK|(CREDIT|CURRENT|DAY|DEBIT|LAND|MONTH|RUPEE|SPENT|TOTAL|YEAR) SIGN|DIGIT (EIGHT|FIVE|",
    "FOUR|NINE|ONE|SEVEN|SIX|THREE|TWO|ZERO)|(DRY|WET) CULTIVATION SIGN|FRACTION (DOWNSCALING ",
    "FACTOR KIIZH|ONE (EIGHTH|EIGHTIETH|FIFTH|FORTIETH|ONE-HUNDRED-AND-SIXTIETH|QUARTER|",
    "SIXTY-FOURTH|TENTH|THIRTY-SECOND|THREE-HUNDRED-AND-TWENTIETH|TWENTIETH|(HALF-|SIXTEENTH-)(1|",
    "2))|THREE (EIGHTIETHS|QUARTERS|SIXTEENTHS|SIXTY-FOURTHS|TWENTIETHS))|IN POSSESSION SIGN|",
    "LETTER (A|AA|AI|AU|CA|E|EE|HA|I|II|JA|KA|LA|LLA|LLLA|MA|NA|NGA|NNA|NNNA|NYA|O|OO|PA|RA|RRA|",
    "SA|SHA|SSA|TA|TTA|U|UU|VA|YA)|NUMBER (ONE (HUNDRED|THOUSAND)|SIGN|TEN)|OM|PUNCTUATION END OF ",
    "TEXT|SALT PAN SIGN|SIGN (AAZHAAKKU|ANUSVARA|CEVITU|KAACU|KURUNI|KUZHI|MUKKURUNI|MUTHALIYA|",
    "MUUVUZHAKKU|NEL|PAARAM|PANAM|PATHAKKU|PON|UZHAKKU|VAKAIYARAA|VARAAKAN|VELI|VIRAMA|VISARGA)|",
    "STARTING FROM SIGN|TRADITIONAL (CREDIT|NUMBER) SIGN|VOWEL SIGN (AA|AI|AU|E|EE|I|II|O|OO|U|",
    "UU))|TANABATA TREE|TANGSA (DIGIT (EIGHT|FIVE|FOUR|NINE|ONE|SEVEN|SIX|THREE|TWO|ZERO)|LETTER ",
    "(AC|AQ|AWC|AWQ|AWX|AWZ|AX|AZ|BA|CA|CHA|DA|DHA|EC|EQ|EX|EZ|FA|GA|GHA|HA|HTA|HTTA|IC|IQ|IX|IZ|",
    "KA|KHA|LA|MA|MC|MQ|MX|MZ|NA|NGA|NHA|NYA|OC|OQ|OX|OZ|PA|PHA|RA|SA|SHA|TA|THA|TSA|UC|UEC|UEQ|",
    "UEX|UEZ|UIC|UIQ|UIUC|UIUQ|UIUX|UIUZ|UIX|UIZ|UQ|UX|UZ|VC|VQ|VX|VZ|WA|XA|YA|ZA|FINAL NG|LONG ",
    "UEX|SHORT (AWX|UEZ)))|TANGUT (COMPONENT-(0(0(1|2|3|4|5|6|7|8|9)|(1|2|3|4|5|6|7|8|9)(0|1|2|3|",
    "4|5|6|7|8|9))|(1|2|3|4|5|6)(0|1|2|3|4|5|6|7|8|9)(0|1|2|3|4|5|6|7|8|9)|7((0|1|2|3|4|5)(0|1|2|",
    "3|4|5|6|7|8|9)|6(0|1|2|3|4|5|6|7|8)))|ITERATION MARK)|TAPE (CARTRIDGE|DRIVE)|TEACUP WITHOUT ",
    "HANDLE|TEAR-OFF CALENDAR|(TEARDROP-BARBED|TRIANGLE-HEADED) RIGHTWARDS ARROW|TEARDROP-SPOKED ",
    "ASTERISK|TEDDY BEAR|TELEPHONE (LOCATION SIGN|ON TOP OF MODEM|RECEIVER(| WITH PAGE)|RECORDER|",
    "SIGN)|TELUGU (AI LENGTH MARK|DIGIT (EIGHT|FIVE|FOUR|NINE|ONE|SEVEN|SIX|THREE|TWO|ZERO)|",
    "FRACTION DIGIT ((ONE|THREE|TWO) FOR (EVEN|ODD) POWERS OF FOUR|ZERO FOR ODD POWERS OF FOUR)|",
    "LENGTH MARK|LETTER (A|AA|AI|AU|BA|BHA|CA|CHA|DA|DDA|DDHA|DHA|DZA|E|EE|GA|GHA|HA|I|II|JA|JHA|",
    "KA|KHA|LA|LLA|LLLA|MA|NA|NGA|NNA|NYA|O|OO|PA|PHA|RA|RRA|RRRA|SA|SHA|SSA|TA|THA|TSA|TTA|TTHA|",
    "U|UU|VA|YA|NAKAARA POLLU|VOCALIC (L|LL|R|RR))|SIGN (ANUSVARA|AVAGRAHA|CANDRABINDU|NUKTA|",
    "SIDDHAM|TUUMU|VIRAMA|VISARGA|COMBINING (ANUSVARA|CANDRABINDU) ABOVE)|VOWEL SIGN (AA|AI|AU|E|",
    "EE|I|II|O|OO|U|UU|VOCALIC (L|LL|R|RR)))|(TENGE|TUGRIK) SIGN|TENNIS RACQUET AND BALL|TEST ",
    "TUBE|TETRAGRAM FOR (ACCUMULATION|ADVANCE|AGGRAVATION|ASCENT|BARRIER|CENTRE|CHANGE|CLOSENESS|",
    "CLOSURE|COMPLETION|COMPLIANCE|CONSTANCY|CONTACT|CONTENTION|CONTRARIETY|DARKENING|",
    "DECISIVENESS|DEPARTURE|DIFFICULTIES|DIMINISHMENT|DIMMING|DIVERGENCE|DOUBT|DUTIES|EASE|",
    "EMBELLISHMENT|ENCOUNTERS|ENDEAVOUR|ENLARGEMENT|ETERNITY|EXHAUSTION|FAILURE|FLIGHT|FOLLOWING|",
    "FOSTERING|FULLNESS|GREATNESS|GUARDEDNESS|HARDNESS|INCREASE|INNER|JOY|KINSHIP|LABOURING|",
    "LEGION|MASSING|MEASURE|MIRED|OPPOSITION|PACKING|PATTERN|PENETRATION|PURITY|REACH|RELEASE|",
    "RESIDENCE|RESISTANCE|RESPONSE|RITUAL|SEVERANCE|SINKING|STOPPAGE|STOVE|STRENGTH|UNITY|WAITING|",
    "WATCH|YOUTHFULNESS|BOLD RESOLUTION|BRANCHING OUT|CLOSED MOUTH|DEFECTIVENESS OR DISTORTION|",
    "FULL CIRCLE|GATHERING(| IN)|GOING TO MEET|HOLDING BACK|KEEPING SMALL|LAW OR MODEL|ON THE ",
    "VERGE|VASTNESS OR WASTING)|THAANA (AABAAFILI|ABAFILI|EBEFILI|EEBEEFILI|EYBEYFILI|IBIFILI|",
    "OABOAFILI|OBOFILI|OOBOOFILI|SUKUN|UBUFILI|LETTER (AINU|ALIFU|BAA|CHAVIYANI|DAADHU|DAVIYANI|",
    "DHAALU|FAAFU|GAAFU|GHAINU|GNAVIYANI|HAA|HHAA|JAVIYANI|KAAFU|KHAA|LAAMU|LHAVIYANI|MEEMU|NAA|",
    "NOONU|PAVIYANI|QAAFU|RAA|SAADHU|SEENU|SHAVIYANI|SHEENU|TAVIYANI|THAA|THAALU|TO|TTAA|VAAVU|",
    "WAAVU|YAA|ZAA|ZAVIYANI|ZO))|THAI (CHARACTER (ANGKHANKHU|FONGMAN|KHOMUT|LAKKHANGYAO|LU|",
    "MAITAIKHU|MAIYAMOK|NIKHAHIT|PAIYANNOI|PHINTHU|RU|THANTHAKHAT|YAMAKKAN|BO BAIMAI|CHO (CHAN|",
    "CHANG|CHING|CHOE)|DO (CHADA|DEK)|FO (FA|FAN)|HO (HIP|NOKHUK)|KHO (KHAI|KHON|KHUAT|KHWAI|",
    "RAKHANG)|KO KAI|LO (CHULA|LING)|MAI (CHATTAWA|EK|HAN-AKAT|THO|TRI)|MO MA|NGO NGU|NO (NEN|NU)|",
    "O ANG|PHO (PHAN|PHUNG|SAMPHAO)|PO PLA|RO RUA|SARA (A|AA|AE|AM|E|I|II|O|U|UE|UEE|UU|AI ",
    "(MAIMALAI|MAIMUAN))|SO (RUSI|SALA|SO|SUA)|THO (NANGMONTHO|PHUTHAO|THAHAN|THAN|THONG|THUNG)|",
    "TO (PATAK|TAO)|WO WAEN|YO (YAK|YING))|CURRENCY SYMBOL BAHT|DIGIT (EIGHT|FIVE|FOUR|NINE|ONE|",
    "SEVEN|SIX|THREE|TWO|ZERO))|THERE (DOES NOT EXIST|EXISTS)|THIN (GREEK CROSS|SALTIRE|SPACE)|",
    "(THINKING|TIRED) FACE|THIRD PLACE MEDAL|THONG SANDAL|THOUGHT BALLOON|THREE (BUTTON MOUSE|",
    "CONSECUTIVE EQUALS SIGNS|DIMENSIONAL ANGLE|DOT PUNCTUATION|(LEFTWARDS|RIGHTWARDS) ARROWS|",
    "LINES CONVERGING (LEFT|RIGHT)|NETWORKED COMPUTERS|POINTED BLACK STAR|RAYS (ABOVE|BELOW|LEFT|",
    "RIGHT)|SPEECH BUBBLES)|THREE-D (BOTTOM-LIGHTED RIGHTWARDS ARROWHEAD|LEFT-LIGHTED DOWNWARDS ",
    "EQUILATERAL ARROWHEAD|RIGHT-LIGHTED UPWARDS EQUILATERAL ARROWHEAD|TOP-LIGHTED (LEFTWARDS ",
    "EQUILATERAL ARROWHEAD|RIGHTWARDS (ARROWHEAD|EQUILATERAL ARROWHEAD)))|(THREE-EM|TWO-EM) DASH|",
    "THREE-PER-EM SPACE|THUMBS (DOWN|UP) SIGN|THUNDER CLOUD AND RAIN|TIBETAN (ASTROLOGICAL SIGN ",
    "(-KHYUD PA|SDONG TSHUGS|SGRA GCAN -CHAR RTAGS)|CANTILLATION SIGN (CANG TE-U|(HEAVY|LIGHT) ",
    "BEAT|SBUB -CHAL)|DIGIT (EIGHT|FIVE|FOUR|NINE|ONE|SEVEN|SIX|THREE|TWO|ZERO|HALF (EIGHT|FIVE|",
    "FOUR|NINE|ONE|SEVEN|SIX|THREE|TWO|ZERO))|KU RU KHA(| BZHI MIG CAN)|LETTER (-A|A|BA|BHA|CA|",
    "CHA|DA|DDA|DDHA|DHA|DZA|DZHA|GA|GHA|HA|JA|KA|KHA|KKA|KSSA|LA|MA|NA|NGA|NNA|NYA|PA|PHA|RA|RRA|",
    "SA|SHA|SSA|TA|THA|TSA|TSHA|TTA|TTHA|WA|YA|ZA|ZHA|FIXED-FORM RA)|LOGOTYPE SIGN (CHAD|LHAG) ",
    "RTAGS|MARK (ANG KHANG (GYAS|GYON)|BKA- SHOG (GI MGO RGYAN|YIG MGO)|BSDUS RTAGS|BSKA- SHOG GI ",
    "MGO RGYAN|BSKUR YIG MGO|CARET (-DZUD RTAGS (BZHI MIG CAN|ME LONG CAN)|YIG MGO PHUR SHAD MA)|",
    "CHE MGO|CLOSING (BRDA RNYING YIG MGO SGAB MA|YIG MGO SGAB MA)|DELIMITER TSHEG BSTAR|GTER ",
    "(TSHEG|YIG MGO (-UM (GTER TSHEG MA|RNAM BCAD MA)|TRUNCATED A))|GUG RTAGS (GYAS|GYON)|HALANTA|",
    "PALUTA|SHAD|INITIAL (BRDA RNYING YIG MGO MDUN MA|YIG MGO MDUN MA)|INTERSYLLABIC TSHEG|",
    "(LEADING|TRAILING) MCHAN RTAGS|MNYAM YIG GI MGO RGYAN|NGAS BZUNG (NYI ZLA|SGOR RTAGS)|NYIS ",
    "(SHAD|TSHEG(| SHAD))|RGYA GRAM SHAD|RIN CHEN SPUNGS SHAD|(SBRUL|TSHEG) SHAD|TSA -PHRU|YIG ",
    "MGO TSHEG SHAD MA)|SIGN (GRU (CAN|MED) RGYINGS|INVERTED MCHU CAN|LCE TSA CAN|(LCI|YANG) ",
    "RTAGS|(MAR|YAR) TSHES|MCHU CAN|NYI ZLA NAA DA|RDEL (DKAR (GCIG|GNYIS|GSUM|RDEL NAG)|NAG ",
    "(GCIG|GNYIS|GSUM|RDEL DKAR))|RJES SU NGA RO|RNAM BCAD|SNA LDAN)|SUBJOINED (LETTER (-A|A|BA|",
    "BHA|CA|CHA|DA|DDA|DDHA|DHA|DZA|DZHA|GA|GHA|HA|JA|KA|KHA|KSSA|LA|MA|NA|NGA|NNA|NYA|PA|PHA|RA|",
    "SA|SHA|SSA|TA|THA|TSA|TSHA|TTA|TTHA|WA|YA|ZA|ZHA|FIXED-FORM (RA|WA|YA))|SIGN (INVERTED MCHU ",
    "CAN|LCE TSA CAN|MCHU CAN))|SYLLABLE OM|SYMBOL (DRIL BU|NOR BU(| (BZHI|GSUM|NYIS) -KHYIL)|",
    "PADMA GDAN|PHUR PA|RDO RJE(| RGYA GRAM))|VOWEL SIGN (AA|E|EE|I|II|O|OO|U|UU|REVERSED (I|II)|",
    "VOCALIC (L|LL|R|RR)))|TIE OVER INFINITY|TIFINAGH (CONSONANT JOINER|LETTER (AHAGGAR YAZH|AYER ",
    "YAGH|BERBER ACADEMY (YAH|YAJ)|TAWELLEMET YAZ|TUAREG (YAGH|YAGN|YAH|YAK|YAKH|YANG|YAQ|YAZH)|",
    "YA|YAA|YAB|YABH|YACH|YAD|YADD|YADDH|YADH|YAF|YAG|YAGH|YAGHH|YAH|YAHH|YAJ|YAK|YAKH|YAKHH|YAL|",
    "YAM|YAN|YAP|YAQ|YAR|YARR|YAS|YASH|YASS|YAT|YATH|YATT|YAV|YAW|YAY|YAZ|YAZH|YAZZ|YE|YEY|YI|YO|",
    "YU)|MODIFIER LETTER LABIALIZATION MARK|SEPARATOR MARK)|TIGER(| FACE)|TIGHT TRIFOLIATE ",
    "SNOWFLAKE|TILDE(| (OPERATOR(| (ABOVE (LEFTWARDS|RIGHTWARDS) ARROW|WITH (DOT ABOVE|RISING ",
    "DOTS)))|WITH (DOT (ABOVE|BELOW)|RING ABOVE)))|TIMER CLOCK|TIMES WITH (LEFT|RIGHT) HALF BLACK|",
    "TINY(| TWO DOTS OVER ONE DOT PUNCTUATION)|TIRHUTA (ABBREVIATION SIGN|ANJI|GVANG|OM|DIGIT ",
    "(EIGHT|FIVE|FOUR|NINE|ONE|SEVEN|SIX|THREE|TWO|ZERO)|LETTER (A|AA|AI|AU|BA|BHA|CA|CHA|DA|DDA|",
    "DDHA|DHA|E|GA|GHA|HA|I|II|JA|JHA|KA|KHA|LA|MA|NA|NGA|NNA|NYA|O|PA|PHA|RA|SA|SHA|SSA|TA|THA|",
    "TTA|TTHA|U|UU|VA|YA|VOCALIC (L|LL|R|RR))|SIGN (ANUSVARA|AVAGRAHA|CANDRABINDU|NUKTA|VIRAMA|",
    "VISARGA)|VOWEL SIGN (AA|AI|AU|E|I|II|O|U|UU|SHORT (E|O)|VOCALIC (L|LL|R|RR)))|TIRONIAN SIGN ",
    "(CAPITAL ET|ET)|TOKYO TOWER|TOP (ARC (ANTICLOCKWISE ARROW(| WITH PLUS)|CLOCKWISE ARROW WITH ",
    "MINUS)|(CURLY|SQUARE) BRACKET|HALF (BLACK CIRCLE|INTEGRAL|(LEFT|RIGHT) PARENTHESIS|SECTION ",
    "SIGN)|HAT|PARENTHESIS|(LEFT|RIGHT) (CORNER|CROP|HALF BRACKET)|TORTOISE SHELL BRACKET|WITH ",
    "UPWARDS ARROW ABOVE)|TORTOISE SHELL BRACKETED (CJK UNIFIED IDEOGRAPH-(4E(09|8C)|5(2DD|B89)|6",
    "(253|557|72C)|7(0B9|6D7))|LATIN CAPITAL LETTER S)|TOTAL RUNOUT|TOTO (LETTER (A|AE|BA|CHA|DA|",
    "E|EO|GA|HA|I|IU|JA|KA|LA|MA|NA|NGA|O|PA|RA|SA|TA|U|WA|YA|BREATHY (AE|E|EO|I|IU))|SIGN RISING ",
    "TONE)|TRADE MARK SIGN|TRAM(| CAR)|TRANSVERSAL INTERSECTION|TRIANGLE WITH (DOT ABOVE|ROUNDED ",
    "CORNERS|SERIFS AT BOTTOM|UNDERBAR)|TRIANGULAR (BULLET|RULER|FLAG ON POST)|TRIDENT EMBLEM|",
    "TRIGRAM FOR (EARTH|FIRE|HEAVEN|LAKE|MOUNTAIN|THUNDER|WATER|WIND)|TRIPLE (COLON OPERATOR|",
    "DAGGER|INTEGRAL|PLUS|PRIME|TILDE|HORIZONTAL BAR WITH (DOUBLE|TRIPLE) VERTICAL STROKE|NESTED ",
    "(GREATER-THAN|LESS-THAN)|SOLIDUS BINARY RELATION|VERTICAL BAR (BINARY RELATION|DELIMITER|",
    "RIGHT TURNSTILE|WITH HORIZONTAL STROKE))|TROPICAL (DRINK|FISH)|TRUE(| LIGHT MOON ARTA)|",
    "TUMBLER GLASS|TURKISH LIRA SIGN|TURNED (AMPERSAND|ANGLE|COMMA|DAGGER|SEMICOLON|BLACK ",
    "(PENTAGON|SHOGI PIECE)|(CAPITAL|SMALL) F|DIGIT (THREE|TWO)|GREEK SMALL LETTER IOTA|(NORTH|",
    "SOUTH) (EAST|WEST) POINTING LEAF|NOT SIGN|OK HAND SIGN|SANS-SERIF CAPITAL (G|L|Y)|WHITE ",
    "SHOGI PIECE)|TWELVE POINTED BLACK STAR|TWISTED RIGHTWARDS ARROWS|TWO (ASTERISKS ALIGNED ",
    "VERTICALLY|BUTTON MOUSE|CONSECUTIVE EQUALS SIGNS|DOT (LEADER|PUNCTUATION)|DOTS OVER ONE DOT ",
    "PUNCTUATION|HEARTS|INTERSECTING LOGICAL (AND|OR)|JOINED SQUARES|LOGICAL (AND|OR) OPERATOR|",
    "(MEN|WOMEN) HOLDING HANDS|SPEECH BUBBLES)"]

/-- The names with the initial U. -/
def initialU : String :=
  String.join [
    "UGARITIC (LETTER (AIN|ALPA|BETA|DELTA|DHAL|GAMLA|GHAIN|HO|HOTA|I|KAF|KHA|LAMDA|MEM|NUN|PU|",
    "QOPA|RASHA|SADE|SAMKA|SHIN|SSU|TET|THANNA|TO|U|WO|YOD|ZETA|ZU)|WORD DIVIDER)|UMBRELLA(| (ON ",
    "GROUND|WITH RAIN DROPS))|(UNAMUSED|UNICORN|UPSIDE-DOWN) FACE|UNCERTAINTY SIGN|UNDERTIE|",
    "URANUS|US|(UNDO|UNITED) SYMBOL|UNION(| (ABOVE (BAR ABOVE INTERSECTION|INTERSECTION)|BESIDE ",
    "AND JOINED WITH UNION|WITH (LOGICAL OR|MINUS SIGN|OVERBAR)))|UNIT SEPARATOR|UNIVERSAL ",
    "RECYCLING SYMBOL|UNMARRIED PARTNERSHIP SYMBOL|UP (ARROW THROUGH CIRCLE|ARROWHEAD(| (BETWEEN ",
    "TWO HORIZONTAL BARS|IN A RECTANGLE BOX))|BARB (LEFT|RIGHT) DOWN BARB (LEFT|RIGHT) HARPOON|",
    "DOWN (ARROW(| WITH BASE)|(BLACK|DOUBLE|SANS-SERIF|TRIANGLE-HEADED|WHITE) ARROW)|FISH TAIL|",
    "RIGHT DIAGONAL ELLIPSIS|TACK(| WITH CIRCLE ABOVE))|UP-POINTING (AIRPLANE|MILITARY AIRPLANE|",
    "RED TRIANGLE|SMALL (AIRPLANE|RED TRIANGLE)|TRIANGLE WITH (LEFT|RIGHT) HALF BLACK)|UPPER (AND ",
    "((LEFT|RIGHT) AND LOWER TRIANGULAR THREE QUARTERS BLOCK|LOWER (ONE EIGHTH BLOCK|TRIANGULAR ",
    "HALF BLOCK))|BLADE SCISSORS|(FIVE|SEVEN) EIGHTHS BLOCK|HALF (BLOCK(| AND LOWER HALF INVERSE ",
    "MEDIUM SHADE)|CIRCLE|INVERSE (MEDIUM SHADE AND LOWER HALF BLOCK|WHITE CIRCLE)|MEDIUM SHADE)|",
    "LEFT (BLOCK DIAGONAL (LOWER (CENTRE TO (LOWER MIDDLE RIGHT|UPPER (MIDDLE RIGHT|RIGHT))|LEFT ",
    "TO (LOWER MIDDLE RIGHT|UPPER (CENTRE|MIDDLE RIGHT))|MIDDLE LEFT TO UPPER (CENTRE|RIGHT|",
    "MIDDLE RIGHT))|UPPER MIDDLE LEFT TO UPPER (CENTRE|RIGHT))|CORNER WITH DOT|OR LOWER RIGHT ",
    "CURLY BRACKET SECTION|QUADRANT CIRCULAR ARC|TO LOWER RIGHT FILL|TRIANGLE|TRIANGULAR MEDIUM ",
    "SHADE)|ONE (EIGHTH|QUARTER) BLOCK|RIGHT (BLOCK DIAGONAL (LOWER MIDDLE LEFT TO LOWER (CENTRE|",
    "RIGHT)|UPPER (CENTRE TO (LOWER (MIDDLE RIGHT|RIGHT)|UPPER MIDDLE RIGHT)|LEFT TO (LOWER ",
    "(CENTRE|MIDDLE RIGHT)|UPPER MIDDLE RIGHT)|MIDDLE LEFT TO LOWER (CENTRE|RIGHT|MIDDLE RIGHT)))|",
    "DROP-SHADOWED WHITE SQUARE|OR LOWER LEFT CURLY BRACKET SECTION|PENCIL|TRIANGLE|QUADRANT ",
    "CIRCULAR ARC|SHADOWED WHITE (CIRCLE|SQUARE)|TO LOWER LEFT FILL|TRIANGULAR MEDIUM SHADE)|",
    "THREE (EIGHTHS|QUARTERS) BLOCK|TRIANGULAR ONE QUARTER BLOCK)|UPWARDS (ANCORA|ROCKET|ARROW(| ",
    "(AND RIGHT ONE EIGHTH BLOCK|(FROM|TO) BAR|LEFTWARDS OF DOWNWARDS ARROW|WITH ((DOUBLE|",
    "HORIZONTAL) STROKE|EQUILATERAL ARROWHEAD|(LARGE|MEDIUM) TRIANGLE ARROWHEAD|NOTCHED TAIL|",
    "SMALL (EQUILATERAL|TRIANGLE) ARROWHEAD|TIP (LEFTWARDS|RIGHTWARDS))))|BLACK (ARROW|CIRCLED ",
    "WHITE ARROW)|(COMPRESSED|DASHED|DOUBLE|FINGER-POST|QUADRUPLE|SANS-SERIF|SQUARED|TRIPLE) ",
    "ARROW|HARPOON WITH BARB (LEFT (BESIDE (DOWNWARDS|UPWARDS) HARPOON WITH BARB RIGHT|(FROM|TO) ",
    "BAR)|LEFTWARDS|RIGHTWARDS|RIGHT (FROM|TO) BAR)|HEAVY (ARROW|COMPRESSED ARROW)|PAIRED ARROWS|",
    "TRIANGLE ARROWHEAD|TRIANGLE-HEADED (ARROW(| (LEFTWARDS OF DOWNWARDS TRIANGLE-HEADED ARROW|TO ",
    "BAR|WITH ((BOLD|HEAVY|MEDIUM|NARROW) SHAFT|DOUBLE HORIZONTAL STROKE|LONG TIP (LEFTWARDS|",
    "RIGHTWARDS)|VERY HEAVY SHAFT)))|DASHED ARROW|PAIRED ARROWS)|TWO HEADED ARROW|TWO-HEADED ",
    "ARROW (FROM SMALL CIRCLE|WITH TRIANGLE ARROWHEADS)|WHITE (ARROW(| (FROM BAR(| WITH ",
    "HORIZONTAL BAR)|ON PEDESTAL(| WITH (HORIZONTAL|VERTICAL) BAR)|WITHIN TRIANGLE ARROWHEAD))|",
    "DOUBLE ARROW(| ON PEDESTAL)))"]

/-- The names with the initial V. -/
def initialV : String :=
  String.join [
    "VAI (COMMA|DIGIT (EIGHT|FIVE|FOUR|NINE|ONE|SEVEN|SIX|THREE|TWO|ZERO)|FULL STOP|QUESTION MARK|",
    "SYLLABLE (A|AN|BA|BE|BEE|BHA|BHE|BHEE|BHI|BHO|BHOO|BHU|BI|BO|BOO|BU|CA|CE|CEE|CI|CO|COO|CU|",
    "DA|DE|DEE|DHA|DHE|DHEE|DHHA|DHHE|DHHEE|DHHI|DHHO|DHHOO|DHHU|DHI|DHO|DHOO|DHU|DI|DO|DOO|DU|E|",
    "EE|EEN|EN|FA|FE|FEE|FI|FO|FOO|FU|GA|GBA|GBE|GBEE|GBEN|GBI|GBO|GBON|GBOO|GBU|GE|GEE|GEN|GI|GO|",
    "GOO|GU|HA|HAN|HE|HEE|HEN|HI|HIN|HO|HON|HOO|HU|HUN|I|IN|JA|JE|JEE|JI|JO|JOO|JU|KA|KAN|KE|KEE|",
    "KI|KO|KOO|KPA|KPAN|KPE|KPEE|KPEN|KPI|KPO|KPOO|KPU|KU|LA|LE|LEE|LENGTHENER|LI|LO|LOO|LU|MA|",
    "MBA|MBE|MBEE|MBI|MBO|MBOO|MBU|ME|MEE|MGBA|MGBE|MGBEE|MGBI|MGBO|MGBOO|MGBU|MI|MO|MOO|MU|NA|",
    "NDA|NDE|NDEE|NDI|NDO|NDOO|NDU|NE|NEE|NG|NGAN|NGEN|NGGA|NGGE|NGGEE|NGGEN|NGGI|NGGO|NGGOO|NGGU|",
    "NGON|NI|NJA|NJE|NJEE|NJI|NJO|NJOO|NJU|NO|NOO|NU|NYA|NYE|NYEE|NYI|NYO|NYOO|NYU|O|ON|OO|OON|PA|",
    "PE|PEE|PI|PO|POO|PU|RA|RE|REE|RI|RO|ROO|RU|SA|SE|SEE|SHA|SHE|SHEE|SHI|SHO|SHOO|SHU|SI|SO|SOO|",
    "SU|TA|TE|TEE|THA|THE|THEE|THI|THO|THOO|THU|TI|TO|TOO|TU|U|UN|VA|VE|VEE|VI|VO|VOO|VU|WA|WAN|",
    "WE|WEE|WEEN|WEN|WI|WIN|WO|WON|WOO|WOON|WU|WUN|YA|YE|YEE|YI|YO|YOO|YU|ZA|ZE|ZEE|ZHA|ZHE|ZHEE|",
    "ZHI|ZHO|ZHOO|ZHU|ZI|ZO|ZOO|ZU|NDOLE (DO|FA|KA|MA|SOO))|SYMBOL (BANG|DANG|DO-O|DOONG|FAA|",
    "FEENG|JONG|KEENG|KUNG|NII|TAA|TING|TONG))|VAMPIRE|VERSICLE|VESTA|VIDEOCASSETTE|VIOLIN|VIRGO|",
    "VOLCANO|VOLLEYBALL|VT|VTS|VULCANUS|VARIATION SELECTOR-(1(|(0|1|2|3|4|5|6|7|8|9)(|0|1|2|3|4|5|",
    "6|7|8|9))|2(|(0|1|2|3|4)(|0|1|2|3|4|5|6|7|8|9)|5(|0|1|2|3|4|5|6)|6|7|8|9)|(3|4|5|6|7|8|9)(|0|",
    "1|2|3|4|5|6|7|8|9))|VECTOR OR CROSS PRODUCT|VEDIC (SIGN (ANUSVARA (ANTARGOMUKHA|BAHIRGOMUKHA|",
    "UBHAYATO MUKHA|VAMAGOMUKHA(| WITH TAIL))|ARDHAVISARGA|ATIKRAMA|JIHVAMULIYA|NIHSHVASA|TIRYAK|",
    "UPADHMANIYA|DOUBLE ANUSVARA ANTARGOMUKHA|(HEXIFORM|RTHANG) LONG ANUSVARA|LONG ANUSVARA|",
    "REVERSED VISARGA (ANUDATTA|UDATTA)|ROTATED ARDHAVISARGA|VISARGA ((ANUDATTA|UDATTA)(| WITH ",
    "TAIL)|SVARITA)|YAJURVEDIC MIDLINE SVARITA)|TONE (ATHARVAVEDIC INDEPENDENT SVARITA|CANDRA ",
    "(ABOVE|BELOW)|DOT BELOW|DOUBLE (RING ABOVE|SVARITA)|KARSHANA|PRENKHA|SHARA|KATHAKA ANUDATTA|",
    "RIGVEDIC KASHMIRI INDEPENDENT SVARITA|RING ABOVE|(THREE|TWO) DOTS BELOW|TRIPLE SVARITA|",
    "YAJURVEDIC (AGGRAVATED INDEPENDENT SVARITA|INDEPENDENT SVARITA|KATHAKA INDEPENDENT SVARITA(| ",
    "SCHROEDER))))|VERTICAL (BAR (BESIDE RIGHT TRIANGLE|DOUBLE LEFT TURNSTILE|TRIPLE RIGHT ",
    "TURNSTILE|WITH HORIZONTAL STROKE)|ELLIPSIS|TILDE|(FOUR|SIX) DOTS|IDEOGRAPHIC ITERATION MARK|",
    "KANA REPEAT (MARK(| (LOWER|UPPER) HALF)|WITH VOICED SOUND MARK(| UPPER HALF))|LINE(| ",
    "(EXTENSION|WITH (CIRCLE (ABOVE|BELOW)|MIDDLE DOT)))|MALE WITH STROKE SIGN|ONE EIGHTH BLOCK-",
    "(2|3|4|5|6|7)|TAB KEY|TABULATION(| SET)|TRAFFIC LIGHT|ZIGZAG LINE)|VERY (BOLD GREEK CROSS|",
    "HEAVY (EIGHT (POINTED BLACK STAR|SPOKED ASTERISK)|(FIVE|SIX) SPOKED ASTERISK|GREEK CROSS|",
    "REVERSE SOLIDUS|SALTIRE|SOLIDUS|WHITE (CIRCLE|SQUARE))|MUCH (GREATER-THAN|LESS-THAN))|",
    "VIBRATION MODE|VICTORY HAND|VIDEO (CAMERA|GAME)|VIETNAMESE ALTERNATE READING MARK (CA|NHAY)|",
    "VIEWDATA SQUARE|VITHKUQI (CAPITAL|SMALL) LETTER (A|BBE|BE|CE|CHE|DE|DHE|E|EI|FE|GA|HA|HHA|I|",
    "IJE|JE|KA|LA|LLA|ME|NE|NJE|O|PE|QA|RE|SE|SHE|TE|THE|U|VE|XE|Y|ZE)|VOIDED GREEK CROSS|VOLUME ",
    "INTEGRAL|VS(1(|(0|1|2|3|4|5|6|7|8|9)(|0|1|2|3|4|5|6|7|8|9))|2(|(0|1|2|3|4)(|0|1|2|3|4|5|6|7|",
    "8|9)|5(|0|1|2|3|4|5|6)|6|7|8|9)|(3|4|5|6|7|8|9)(|0|1|2|3|4|5|6|7|8|9))|VULGAR FRACTION (FIVE ",
    "(EIGHTHS|SIXTHS)|FOUR FIFTHS|ONE (EIGHTH|FIFTH|HALF|NINTH|QUARTER|SEVENTH|SIXTH|TENTH|THIRD)|",
    "SEVEN EIGHTHS|THREE (EIGHTHS|FIFTHS|QUARTERS)|TWO (FIFTHS|THIRDS)|ZERO THIRDS)"]

/-- The names with the initial W. -/
def initialW : String :=
  String.join [
    "WAFFLE|WASTEBASKET|WATCH|WATERMELON|WEDDING|WHALE|WINDOW|WJ|WOOD|WORM|WRENCH|WRESTLERS|",
    "WANCHO (DIGIT (EIGHT|FIVE|FOUR|NINE|ONE|SEVEN|SIX|THREE|TWO|ZERO)|LETTER (A|AA|AAN|AANG|ANG|",
    "AU|BA|CA|DA|E|EN|FA|GA|HA|I|ING|JA|KA|KHA|LA|LLHA|MA|NA|NGA|NYA|O|ON|ONG|PA|PHA|RA|SA|SHA|TA|",
    "THA|TRA|TSA|U|UEN|VA|WA|YA|YIH|ZA)|NGUN SIGN|TONE (KOI|KOINI|TUP|TUPNI))|(WANING|WAXING) ",
    "(CRESCENT|GIBBOUS) MOON SYMBOL|WARANG CITI ((CAPITAL|SMALL) LETTER (A|AM|ANG|AT|BU|DA|E|ENN|",
    "ENY|GA|HAR|HIYO|HOLO|HORR|II|KO|NGAA|NUNG|O|ODD|PU|SII|SSUU|TTE|UC|UU|VIYO|WI|YA|YO|YU|YUJ)|",
    "DIGIT (EIGHT|FIVE|FOUR|NINE|ONE|SEVEN|SIX|THREE|TWO|ZERO)|NUMBER (EIGHTY|FIFTY|FORTY|NINETY|",
    "SEVENTY|SIXTY|TEN|THIRTY|TWENTY)|OM)|(WARNING|WON) SIGN|WATER (BUFFALO|CLOSET|POLO|WAVE)|",
    "WAVE (ARROW POINTING DIRECTLY (LEFT|RIGHT)|DASH)|WAVING ((BLACK|WHITE) FLAG|HAND SIGN)|WAVY ",
    "(DASH|LINE|OVERLINE|LOW LINE)|WEARY (CAT FACE|FACE)|(WEDGE-TAILED|WHITE-FEATHERED) ",
    "RIGHTWARDS ARROW|WEIERSTRASS ELLIPTIC FUNCTION|WEIGHT LIFTER|WEST SYRIAC CROSS|WHEEL(| OF ",
    "DHARMA)|(WHEELCHAIR|WOMENS) SYMBOL|WHITE (ARROW SHAFT WIDTH (ONE|TWO THIRDS)|BULLET|FLORETTE|",
    "FLOWER|HEXAGON|HOURGLASS|NIB|PARALLELOGRAM|PENNANT|PENTAGON|RECTANGLE|SCISSORS|STAR|",
    "TELEPHONE|TRAPEZIUM|CHESS ((BISHOP|KING|PAWN|QUEEN|ROOK)(| ROTATED (NINETY DEGREES|TWO ",
    "HUNDRED SEVENTY DEGREES))|EQUIHOPPER(| ROTATED NINETY DEGREES)|KNIGHT(| ROTATED ((FORTY-FIVE|",
    "NINETY) DEGREES|ONE HUNDRED THIRTY-FIVE DEGREES|THREE HUNDRED FIFTEEN DEGREES|TWO HUNDRED ",
    "(SEVENTY|TWENTY-FIVE) DEGREES))|KNIGHT-BISHOP|KNIGHT-QUEEN|KNIGHT-ROOK|TURNED (BISHOP|KING|",
    "KNIGHT|PAWN|QUEEN|ROOK))|CIRCLE(| (CONTAINING BLACK SMALL CIRCLE|WITH (DOT RIGHT|DOWN ARROW|",
    "(LOWER|UPPER) (LEFT|RIGHT) QUADRANT|TWO DOTS)))|(CLUB|SPADE) SUIT|CONCAVE-SIDED DIAMOND(| ",
    "WITH (LEFTWARDS|RIGHTWARDS) TICK)|DIAMOND(| (CONTAINING BLACK ((MEDIUM|SMALL) DIAMOND|VERY ",
    "SMALL DIAMOND)|IN SQUARE|SUIT|WITH CENTRED DOT))|DOWN POINTING (BACKHAND INDEX|INDEX|LEFT ",
    "HAND INDEX)|DOWN-POINTING (SMALL TRIANGLE|TRIANGLE)|DRAUGHTS (KING|MAN)|(EXCLAMATION|",
    "QUESTION) MARK ORNAMENT|FLAG(| WITH HORIZONTAL MIDDLE BLACK STRIPE)|FOUR POINTED (CUSP|STAR)|",
    "(FROWNING|SMILING) FACE|HARD SHELL FLOPPY DISK|HEART(| SUIT)|HEAVY (CHECK MARK|SALTIRE WITH ",
    "ROUNDED CORNERS)|HORIZONTAL ELLIPSE|LARGE SQUARE|LATIN CROSS|LEFT (LANE MERGE|POINTING ",
    "(BACKHAND INDEX|INDEX))|LEFT-POINTING (POINTER|TRIANGLE|SMALL TRIANGLE)|LOZENGE CONTAINING ",
    "BLACK SMALL LOZENGE|MEDIUM (DIAMOND|LOZENGE|SQUARE|STAR|SMALL SQUARE)|MOON SELENA|(RIGHT|UP) ",
    "POINTING (BACKHAND INDEX|INDEX)|RIGHT-POINTING (PENTAGON|POINTER|TRIANGLE|SMALL TRIANGLE)|",
    "SESAME DOT|SHOGI PIECE|SMALL (LOZENGE|SQUARE|STAR)|SQUARE(| (BUTTON|CONTAINING BLACK ",
    "((MEDIUM|SMALL) SQUARE|VERY SMALL SQUARE)|WITH (CENTRE VERTICAL LINE|(LEFTWARDS|RIGHTWARDS) ",
    "TICK|(LOWER|UPPER) (LEFT|RIGHT) QUADRANT|ROUNDED CORNERS|VERTICAL BISECTING LINE)))|SUN(| ",
    "(BEHIND CLOUD(| WITH RAIN)|WITH (RAYS|SMALL CLOUD)))|TOUCHTONE TELEPHONE|TRIANGLE CONTAINING ",
    "SMALL WHITE TRIANGLE|TWO-WAY LEFT WAY TRAFFIC|UP-POINTING (CHEVRON|SMALL TRIANGLE|TRIANGLE(| ",
    "WITH DOT))|VERTICAL (BAR|ELLIPSE|RECTANGLE)|VERY SMALL SQUARE)|WIDE-HEADED ((DOWNWARDS|",
    "LEFTWARDS|RIGHTWARDS|UPWARDS) (BARB ARROW|(HEAVY|LIGHT|MEDIUM) BARB ARROW|VERY HEAVY BARB ",
    "ARROW)|(NORTH|SOUTH) (EAST|WEST) (BARB ARROW|(HEAVY|LIGHT|MEDIUM) BARB ARROW|VERY HEAVY BARB ",
    "ARROW))|WIGGLY VERTICAL LINE|WILTED FLOWER|WIND (BLOWING FACE|CHIME)|WINE GLASS|(WINKING|",
    "WOLF|WORRIED) FACE|WIRED KEYBOARD|WOMAN(| WITH BUNNY EARS)|WOMANS (BOOTS|CLOTHES|HAT|SANDAL)|",
    "WORD (JOINER|SEPARATOR MIDDLE DOT)|WORLD MAP|WRAPPED PRESENT|WREATH PRODUCT|WRITING HAND"]

/-- The names with the initial X. -/
def initialX : String :=
  String.join [
    "X IN A RECTANGLE BOX|X-RAY|XOR|XIANGQI (BLACK|RED) (CANNON|CHARIOT|ELEPHANT|GENERAL|HORSE|",
    "MANDARIN|SOLDIER)"]

/-- The names with the initial Y. -/
def initialY : String :=
  String.join [
    "YAWNING FACE|YELLOW HEART|YEN SIGN|YEZIDI (COMBINING (HAMZA|MADDA) MARK|HYPHENATION MARK|",
    "LETTER (BE|CHHIM|CHIM|CIM|DAD|DAL|ELIF|ET|EW|EYN|FA|GAF|HAY|HHA|JA|KAF|KHAF|MIM|NUN|OW|PE|",
    "PHE|QAF|RA|RHA|SAD|SE|SHIN|SIN|TA|THE|UM|WAW|XA|XHEYN|ZA|ZAL|ZE|LAM(| WITH DOT ABOVE)|VA(| ",
    "ALTERNATE FORM)|YOT(| WITH CIRCUMFLEX ABOVE)))|YI (RADICAL (BBUT|BUR|CHE|CIP|CUOP|CY|CYP|CYT|",
    "DDUR|DU|GA|GEP|GGOP|GGUO|GOT|HMO|HXIT|HXOP|HXUO|JJIE|JJUT|JJY|JO|KE|KIT|LI|LIE|LYR|MI|MOP|",
    "NBIE|NYIP|NYOP|NZUP|OP|PUT|PYT|QOT|SHAT|SHOP|SHUR|SHY|SSI|TAT|TU|VEP|VUR|WO|YIT|YO|ZA|ZOT|",
    "ZUP|ZUR|ZZIET)|SYLLABLE (A|AP|AT|AX|BA|BAP|BAT|BAX|BBA|BBAP|BBAT|BBAX|BBE|BBEP|BBEX|BBI|BBIE|",
    "BBIEP|BBIET|BBIEX|BBIP|BBIT|BBIX|BBO|BBOP|BBOT|BBOX|BBU|BBUO|BBUOP|BBUOX|BBUP|BBUR|BBURX|",
    "BBUT|BBUX|BBY|BBYP|BBYT|BBYX|BE|BEP|BEX|BI|BIE|BIEP|BIET|BIEX|BIP|BIT|BIX|BO|BOP|BOT|BOX|BU|",
    "BUO|BUOP|BUOX|BUP|BUR|BURX|BUT|BUX|BY|BYP|BYR|BYRX|BYT|BYX|CA|CAP|CAT|CAX|CE|CEP|CEX|CHA|",
    "CHAP|CHAT|CHAX|CHE|CHEP|CHET|CHEX|CHO|CHOP|CHOT|CHOX|CHU|CHUO|CHUOP|CHUOT|CHUOX|CHUP|CHUR|",
    "CHURX|CHUX|CHY|CHYP|CHYR|CHYRX|CHYT|CHYX|CI|CIE|CIEP|CIET|CIEX|CIP|CIT|CIX|CO|COP|COT|COX|CU|",
    "CUO|CUOP|CUOX|CUP|CUR|CURX|CUT|CUX|CY|CYP|CYR|CYRX|CYT|CYX|DA|DAP|DAT|DAX|DDA|DDAP|DDAT|DDAX|",
    "DDE|DDEP|DDEX|DDI|DDIE|DDIEP|DDIEX|DDIP|DDIT|DDIX|DDO|DDOP|DDOT|DDOX|DDU|DDUO|DDUOP|DDUOX|",
    "DDUP|DDUR|DDURX|DDUT|DDUX|DE|DEP|DEX|DI|DIE|DIEP|DIEX|DIP|DIT|DIX|DO|DOP|DOT|DOX|DU|DUO|DUOX|",
    "DUP|DUR|DURX|DUT|DUX|E|EX|FA|FAP|FAT|FAX|FI|FIP|FIT|FIX|FO|FOP|FOX|FU|FUP|FUR|FURX|FUT|FUX|",
    "FY|FYP|FYT|FYX|GA|GAP|GAT|GAX|GE|GEP|GET|GEX|GGA|GGAP|GGAT|GGAX|GGE|GGEP|GGET|GGEX|GGI|GGIE|",
    "GGIEP|GGIEX|GGIT|GGIX|GGO|GGOP|GGOT|GGOX|GGU|GGUO|GGUOP|GGUOT|GGUOX|GGUP|GGUR|GGURX|GGUT|",
    "GGUX|GI|GIE|GIEP|GIET|GIEX|GIP|GIT|GIX|GO|GOP|GOT|GOX|GU|GUO|GUOP|GUOT|GUOX|GUP|GUR|GURX|GUT|",
    "GUX|HA|HAP|HAT|HAX|HE|HEP|HEX|HIE|HIEX|HIT|HLA|HLAP|HLAT|HLAX|HLE|HLEP|HLEX|HLI|HLIE|HLIEP|",
    "HLIEX|HLIP|HLIT|HLIX|HLO|HLOP|HLOX|HLU|HLUO|HLUOP|HLUOX|HLUP|HLUR|HLURX|HLUT|HLUX|HLY|HLYP|",
    "HLYR|HLYRX|HLYT|HLYX|HMA|HMAP|HMAT|HMAX|HMI|HMIE|HMIEP|HMIEX|HMIP|HMIT|HMIX|HMO|HMOP|HMOT|",
    "HMOX|HMU|HMUO|HMUOP|HMUOX|HMUP|HMUR|HMURX|HMUT|HMUX|HMY|HMYP|HMYR|HMYRX|HMYX|HNA|HNAP|HNAT|",
    "HNAX|HNE|HNEP|HNEX|HNI|HNIE|HNIEP|HNIET|HNIEX|HNIP|HNIT|HNIX|HNOP|HNOT|HNOX|HNUO|HNUOX|HNUT|",
    "HO|HOP|HOT|HOX|HUO|HUOP|HUOT|HUOX|HXA|HXAP|HXAT|HXAX|HXE|HXEP|HXEX|HXI|HXIE|HXIEP|HXIET|",
    "HXIEX|HXIP|HXIT|HXIX|HXO|HXOP|HXOT|HXOX|HXUO|HXUOP|HXUOT|HXUOX|I|IE|IEP|IET|IEX|IP|IT|IX|JI|",
    "JIE|JIEP|JIET|JIEX|JIP|JIT|JIX|JJI|JJIE|JJIEP|JJIET|JJIEX|JJIP|JJIT|JJIX|JJO|JJOP|JJOT|JJOX|",
    "JJU|JJUO|JJUOP|JJUOX|JJUP|JJUR|JJURX|JJUT|JJUX|JJY|JJYP|JJYT|JJYX|JO|JOP|JOT|JOX|JU|JUO|JUOP|",
    "JUOT|JUOX|JUP|JUR|JURX|JUT|JUX|JY|JYP|JYR|JYRX|JYT|JYX|KA|KAP|KAT|KAX|KE|KEP|KET|KEX|KI|KIE|",
    "KIEP|KIEX|KIP|KIT|KIX|KO|KOP|KOT|KOX|KU|KUO|KUOP|KUOX|KUP|KUR|KURX|KUT|KUX|LA|LAP|LAT|LAX|LE|",
    "LEP|LEX|LI|LIE|LIEP|LIET|LIEX|LIP|LIT|LIX|LO|LOP|LOT|LOX|LU|LUO|LUOP|LUOT|LUOX|LUP|LUR|LURX|",
    "LUT|LUX|LY|LYP|LYR|LYRX|LYT|LYX|MA|MAP|MAT|MAX|ME|MEX|MGA|MGAP|MGAT|MGAX|MGE|MGEP|MGEX|MGIE|",
    "MGIEX|MGO|MGOP|MGOT|MGOX|MGU|MGUO|MGUOP|MGUOX|MGUP|MGUR|MGURX|MGUT|MGUX|MI|MIE|MIEP|MIEX|MIP|",
    "MIT|MIX|MO|MOP|MOT|MOX|MU|MUO|MUOP|MUOT|MUOX|MUP|MUR|MURX|MUT|MUX|MY|MYP|MYT|MYX|NA|NAP|NAX|",
    "NBA|NBAP|NBAT|NBAX|NBI|NBIE|NBIEP|NBIEX|NBIP|NBIT|NBIX|NBO|NBOP|NBOT|NBOX|NBU|NBUP|NBUR|",
    "NBURX|NBUT|NBUX|NBY|NBYP|NBYR|NBYRX|NBYT|NBYX|NDA|NDAP|NDAT|NDAX|NDE|NDEP|NDEX|NDI|NDIE|",
    "NDIEX|NDIP|NDIT|NDIX|NDO|NDOP|NDOT|NDOX|NDU|NDUP|NDUR|NDURX|NDUT|NDUX|NE|NEP|NEX|NGA|NGAP|",
    "NGAT|NGAX|NGE|NGEP|NGEX|NGIE|NGIEP|NGIEX|NGO|NGOP|NGOT|NGOX|NGUO|NGUOT|NGUOX|NI|NIE|NIEP|",
    "NIEX|NIP|NIT|NIX|NJI|NJIE|NJIEP|NJIET|NJIEX|NJIP|NJIT|NJIX|NJO|NJOP|NJOT|NJOX|NJU|NJUO|NJUOX|",
    "NJUP|NJUR|NJURX|NJUX|NJY|NJYP|NJYR|NJYRX|NJYT|NJYX|NO|NOP|NOT|NOX|NRA|NRAP|NRAT|NRAX|NRE|",
    "NREP|NRET|NREX|NRO|NROP|NROX|NRU|NRUP|NRUR|NRURX|NRUT|NRUX|NRY|NRYP|NRYR|NRYRX|NRYT|NRYX|NU|",
    "NUO|NUOP|NUOX|NUP|NUR|NURX|NUT|NUX|NYI|NYIE|NYIEP|NYIET|NYIEX|NYIP|NYIT|NYIX|NYO|NYOP|NYOT|",
    "NYOX|NYU|NYUO|NYUOP|NYUOX|NYUP|NYUT|NYUX|NZA|NZAP|NZAT|NZAX|NZE|NZEX|NZI|NZIE|NZIEP|NZIEX|",
    "NZIP|NZIT|NZIX|NZOP|NZOX|NZU|NZUO|NZUOX|NZUP|NZUR|NZURX|NZUX|NZY|NZYP|NZYR|NZYRX|NZYT|NZYX|O|",
    "OP|OT|OX|PA|PAP|PAT|PAX|PI|PIE|PIEP|PIEX|PIP|PIT|PIX|PO|POP|POT|POX|PU|PUO|PUOP|PUOX|PUP|PUR|",
    "PURX|PUT|PUX|PY|PYP|PYR|PYRX|PYT|PYX|QI|QIE|QIEP|QIET|QIEX|QIP|QIT|QIX|QO|QOP|QOT|QOX|QU|QUO|",
    "QUOP|QUOT|QUOX|QUP|QUR|QURX|QUT|QUX|QY|QYP|QYR|QYRX|QYT|QYX|RA|RAP|RAT|RAX|RE|REP|REX|RO|ROP|",
    "ROT|ROX|RRA|RRAX|RRE|RREP|RRET|RREX|RRO|RROP|RROT|RROX|RRU|RRUO|RRUOX|RRUP|RRUR|RRURX|RRUT|",
    "RRUX|RRY|RRYP|RRYR|RRYRX|RRYT|RRYX|RU|RUO|RUOP|RUOX|RUP|RUR|RURX|RUT|RUX|RY|RYP|RYR|RYRX|RYT|",
    "RYX|SA|SAP|SAT|SAX|SE|SEP|SEX|SHA|SHAP|SHAT|SHAX|SHE|SHEP|SHET|SHEX|SHO|SHOP|SHOT|SHOX|SHU|",
    "SHUO|SHUOP|SHUOX|SHUP|SHUR|SHURX|SHUT|SHUX|SHY|SHYP|SHYR|SHYRX|SHYT|SHYX|SI|SIE|SIEP|SIEX|",
    "SIP|SIT|SIX|SO|SOP|SOT|SOX|SSA|SSAP|SSAT|SSAX|SSE|SSEP|SSEX|SSI|SSIE|SSIEP|SSIEX|SSIP|SSIT|",
    "SSIX|SSO|SSOP|SSOT|SSOX|SSU|SSUP|SSUT|SSUX|SSY|SSYP|SSYR|SSYRX|SSYT|SSYX|SU|SUO|SUOP|SUOX|",
    "SUP|SUR|SURX|SUT|SUX|SY|SYP|SYR|SYRX|SYT|SYX|TA|TAP|TAT|TAX|TE|TEP|TEX|TI|TIE|TIEP|TIEX|TIP|",
    "TIT|TIX|TO|TOP|TOT|TOX|TU|TUO|TUOP|TUOT|TUOX|TUP|TUR|TURX|TUT|TUX|UO|UOP|UOX|VA|VAP|VAT|VAX|",
    "VEP|VEX|VI|VIE|VIEP|VIET|VIEX|VIP|VIT|VIX|VO|VOP|VOT|VOX|VU|VUP|VUR|VURX|VUT|VUX|VY|VYP|VYR|",
    "VYRX|VYT|VYX|WA|WAP|WAT|WAX|WE|WEP|WEX|WO|WOP|WOX|WU|WUO|WUOP|WUOX|XI|XIE|XIEP|XIET|XIEX|XIP|",
    "XIT|XIX|XO|XOP|XOT|XOX|XUO|XUOX|XY|XYP|XYR|XYRX|XYT|XYX|YI|YIE|YIEP|YIET|YIEX|YIP|YIT|YIX|YO|",
    "YOP|YOT|YOX|YU|YUO|YUOP|YUOT|YUOX|YUP|YUR|YURX|YUT|YUX|YY|YYP|YYR|YYRX|YYT|YYX|ZA|ZAP|ZAT|",
    "ZAX|ZE|ZEP|ZEX|ZHA|ZHAP|ZHAT|ZHAX|ZHE|ZHEP|ZHET|ZHEX|ZHO|ZHOP|ZHOT|ZHOX|ZHU|ZHUO|ZHUOP|ZHUOX|",
    "ZHUP|ZHUR|ZHURX|ZHUT|ZHUX|ZHY|ZHYP|ZHYR|ZHYRX|ZHYT|ZHYX|ZI|ZIE|ZIEP|ZIEX|ZIP|ZIT|ZIX|ZO|ZOP|",
    "ZOT|ZOX|ZU|ZUO|ZUOP|ZUOX|ZUP|ZUR|ZURX|ZUT|ZUX|ZY|ZYP|ZYR|ZYRX|ZYT|ZYX|ZZA|ZZAP|ZZAT|ZZAX|ZZE|",
    "ZZEP|ZZEX|ZZI|ZZIE|ZZIEP|ZZIET|ZZIEX|ZZIP|ZZIT|ZZIX|ZZO|ZZOP|ZZOX|ZZU|ZZUP|ZZUR|ZZURX|ZZUX|",
    "ZZY|ZZYP|ZZYR|ZZYRX|ZZYT|ZZYX|ITERATION MARK))|YIN YANG|YO-YO"]

/-- The names with the initial Z. -/
def initialZ : String :=
  String.join [
    "Z NOTATION (BAG MEMBERSHIP|(DOMAIN|RANGE) ANTIRESTRICTION|(LEFT|RIGHT) (BINDING|IMAGE) ",
    "BRACKET|RELATIONAL COMPOSITION|SCHEMA (COMPOSITION|PIPING|PROJECTION)|SPOT|TYPE COLON)|",
    "ZANABAZAR SQUARE ((CLOSING|INITIAL) (DOUBLE-LINED HEAD MARK|HEAD MARK)|CLUSTER-FINAL LETTER ",
    "(LA|RA|VA|YA)|CLUSTER-INITIAL LETTER RA|FINAL CONSONANT MARK|LETTER (-A|A|BA|BHA|CA|CHA|DA|",
    "DDA|DDHA|DHA|DZA|DZHA|GA|GHA|HA|JA|KA|KHA|KSSA|LA|MA|NA|NGA|NNA|NYA|PA|PHA|RA|SA|SHA|SSA|TA|",
    "THA|TSA|TSHA|TTA|TTHA|VA|YA|ZA|ZHA)|MARK (DOUBLE SHAD|LONG TSHEG|SHAD|TSHEG)|SIGN (ANUSVARA|",
    "VIRAMA|VISARGA|CANDRA WITH ORNAMENT|CANDRABINDU(| WITH ORNAMENT))|SUBJOINER|VOWEL (LENGTH ",
    "MARK|SIGN (AI|AU|E|I|O|OE|U|UE|REVERSED I)))|(ZEBRA|ZIPPER-MOUTH) FACE|ZERO WIDTH (JOINER|",
    "NON-JOINER|SPACE|NO-BREAK SPACE)|ZEUS|ZOMBIE|ZWJ|ZWNBSP|ZWNJ|ZWSP|ZNAMENNY (COMBINING ",
    "(ATTACHING VERTICAL OMET|LOWER TONAL RANGE INDICATOR|MARK (BORZAYA|DVOETOCHIE|KACHKA|KUPNAYA|",
    "LOMKA|OBLACHKO|ON|OTSECHKA|PODVERTKA|RAVNO|RAZSEKA|SKOBA|TIKHAYA|TOCHKA|UDARKA|ZADERZHKA|",
    "ZELO|ZEVOK|CHASHKA(| POLNAYA)|CURVED OMET|DEMESTVENNY ZADERZHKA|GORAZDO (NIZKO (ON (LEFT|",
    "RIGHT)|S KRYZHEM ON (LEFT|RIGHT))|VYSOKO)|KRYZH(| ON LEFT)|MALO POVYSHE (ON (LEFT|RIGHT)|S ",
    "(KHOKHLOM ON (LEFT|RIGHT)|KRYZHEM)|STRANNO)|NIZKO (ON (LEFT|RIGHT)|S KRYZHEM ON (LEFT|",
    "RIGHT))|PODCHASHIE(| WITH VERTICAL STROKE)|POVYSHE (ON (LEFT|RIGHT)|S (KHOKHLOM ON (LEFT|",
    "RIGHT)|KRYZHEM)|STRANNO)|SOROCHYA NOZHKA|SREDNE ON (LEFT|RIGHT)|STRANNO MALO POVYSHE|TSATA ",
    "(ON (LEFT|RIGHT)|S KRYZHEM)|VYSOKO (ON (LEFT|RIGHT)|S (KHOKHLOM ON (LEFT|RIGHT)|KRYZHEM)))|",
    "TONAL RANGE MARK (MRACHNO|SVETLO|TRESVETLO))|NEUME (CHASHKA|CHELYUSTKA|DERBITSA|DUDA|FITA|",
    "KHAMILO|KLYUCH|KOBYLA|KRYZH|KUFISMA|NEMKA|OBLAKO|PALKA|PARAKLIT|PAUK|PODCHASHIE|POLKULIZMY|",
    "ROG|ZANOZHEK|ZAPYATAYA|ZMEYTSA|DEMESTVENNY KLYUCH|DOUBLE ZAPYATAYA|DVA V CHELNU|GOLUBCHIK ",
    "(BORZY|MRACHNY|SVETLY|TIKHY|TRESVETLY)|KRYUK(| TIKHY)|MECHIK(| (KLYUCHENEPOSTOYANNY|",
    "KLYUCHEPOVODNY|KLYUCHEVOY|POVODNY))|OSOKA(| (KLYUCHEVAYA (NEPOSTOYANNAYA|SVETLAYA)|",
    "KRYUKOVAYA SVETLAYA|SVETLAYA|TRESVETLAYA))|PEREVODKA(| NEPOSTOYANNAYA)|REVERSED CHELYUSTKA|",
    "SKAMEYTSA (DVOECHELNAYA (KLYUCHEVAYA|NEPOSTOYANNAYA|PROSTAYA|SVETLAYA)|KLYUCHENEPOSTOYANNAYA|",
    "MRACHNAYA|SVETLAYA|TIKHAYA|TRESVETLAYA|KLYUCHEVAYA (SVETLAYA|TIKHAYA))|SLOZHITIE(| (S ",
    "(KRYZHEM|ZAPYATOY)|ZAKRYTOE))|STATYA(| (NEPOSTOYANNAYA|S (DVUMYA ZAPYATYMI|KRYZHEM(| I ",
    "ZAPYATOY)|ROGOM|ZAPYATOY(| I (KRYZHEM|PODCHASHIEM)))|ZAKRYTAYA(| S ZAPYATOY)))|STOPITSA(| (S ",
    "OCHKOM|WITH SOROCHYA NOZHKA))|STRELA ((DVOECHELNAYA|DVOECHELNOPOVODNAYA)(| KLYUCHEVAYA)|",
    "DVOECHELNOKRYZHEVAYA|KLYUCHENEPOSTOYANNAYA|KLYUCHEPOVODNAYA|KRYZHEVAYA|MRACHNOTIKHAYA|",
    "NEPOSTOYANNAYA|POLUPOVODNAYA|POVODNAYA|PROSTAYA|TRYASOGLASNAYA|TRYASOPOVODNAYA|",
    "TRYASOSTRELNAYA|GROMNAYA(| WITH SINGLE ZAPYATAYA)|GROMOKRYZHEVAYA(| POVODNAYA)|GROMOPOVODNAYA",
    "(| WITH (DOUBLE|SINGLE) ZAPYATAYA)|KRYUKOVAYA(| (GROMNAYA(| WITH SINGLE ZAPYATAYA)|",
    "GROMOKRYZHEVAYA(| POVODNAYA)|GROMOPOVODNAYA(| WITH (DOUBLE|SINGLE) ZAPYATAYA)|POVODNAYA|",
    "TRYASKA))|TIKHAYA PUTNAYA)|VRAKHIYA (KLYUCHEVAYA (MRACHNAYA|PROSTAYA|SVETLAYA|TRESVETLAYA)|",
    "MRACHNAYA|PROSTAYA|SVETLAYA|TRESVETLAYA))|PRIZNAK MODIFIER (DIRECTION FLIP|KRYZH|ROG|LEVEL-",
    "(2|3)))"]

end GraphBind.Text.CharacterName
