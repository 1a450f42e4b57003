/-!
# Character names with the initials D to F

The names of characters that begin with the letters from D to F, as patterns.
-/

namespace GraphBind.Text.CharacterName

/-- The names with the initial D. -/
def initialD : String :=
  String.join [
    "DAGGER(| (KNIFE|WITH (LEFT|RIGHT) GUARD))|(DALET|DIVORCE) SYMBOL|DANCER|DANGO|DCS|DEER|DEL|",
    "DELETE|DIAERESIS|DIVIDES|DLE|DODO|DOLPHIN|DOOR|DOUGHNUT|DRESS|DROPLET|DUCK|DUMPLING|DVD|DARK ",
    "(SHADE|SUNGLASSES)|DASH (SYMBOL|WITH LEFT UPTURN)|DASHED (LOW LINE|OVERLINE|TRIANGLE-HEADED ",
    "RIGHTWARDS ARROW)|DATA LINK ESCAPE|DC(1|2|3|4)|DEAF PERSON|DECIDUOUS TREE|DECIMAL (EXPONENT ",
    "SYMBOL|SEPARATOR KEY SYMBOL)|DECREASE FONT SIZE SYMBOL|DEGREE (CELSIUS|FAHRENHEIT|SIGN)|",
    "DELIVERY TRUCK|DELTA EQUAL TO|DENTISTRY SYMBOL LIGHT ((DOWN|UP) AND HORIZONTAL(| WITH ",
    "(CIRCLE|TRIANGLE|WAVE))|VERTICAL (AND ((BOTTOM|TOP) (LEFT|RIGHT)|WAVE)|WITH (CIRCLE|",
    "TRIANGLE)))|DEPARTMENT STORE|DERELICT HOUSE BUILDING|DESCENDING NODE|DESERET (CAPITAL|SMALL) ",
    "LETTER (AY|BEE|CHEE|DEE|EF|EL|EM|EN|ENG|ER|ES|ESH|ETH|EW|GAY|H|JEE|KAY|OI|OW|PEE|TEE|THEE|",
    "VEE|WU|YEE|ZEE|ZHEE|(LONG|SHORT) (A|AH|E|I|O|OO))|DESERT(| ISLAND)|DESKTOP (COMPUTER|WINDOW)|",
    "DEVANAGARI (ABBREVIATION SIGN|(ACUTE|GRAVE) ACCENT|CARET|DANDA|HEADSTROKE|OM|DIGIT (EIGHT|",
    "FIVE|FOUR|NINE|ONE|SEVEN|SIX|THREE|TWO|ZERO)|DOUBLE DANDA|GAP FILLER|JAIN OM|LETTER (A|AA|AI|",
    "AU|AW|AY|BA|BBA|BHA|CA|CHA|DA|DDA|DDDA|DDDHA|DDHA|DHA|E|FA|GA|GGA|GHA|GHHA|HA|I|II|JA|JHA|",
    "JJA|KA|KHA|KHHA|LA|LLA|LLLA|MA|NA|NGA|NNA|NNNA|NYA|O|OE|OOE|PA|PHA|QA|RA|RHA|RRA|SA|SHA|SSA|",
    "TA|THA|TTA|TTHA|U|UE|UU|UUE|VA|YA|YYA|ZA|ZHA|(CANDRA|SHORT) (A|E|O)|GLOTTAL STOP|HEAVY YA|",
    "MARWARI DDA|VOCALIC (L|LL|R|RR))|SIGN (ANUSVARA|AVAGRAHA|NUKTA|PUSHPIKA|SIDDHAM|VIRAMA|",
    "VISARGA|CANDRABINDU(| (AVAGRAHA|THREE|TWO|VIRAMA))|DOUBLE CANDRABINDU VIRAMA|HIGH SPACING ",
    "DOT|(INVERTED|SPACING) CANDRABINDU)|STRESS SIGN (ANUDATTA|UDATTA)|VOWEL SIGN (AA|AI|AU|AW|AY|",
    "E|I|II|O|OE|OOE|U|UE|UU|UUE|CANDRA (E|O|LONG E)|PRISHTHAMATRA E|SHORT (E|O)|VOCALIC (L|LL|R|",
    "RR)))|DEVICE CONTROL (FOUR|ONE|STRING|THREE|TWO)|(DIAMETER|DOLLAR|DONG|DRACHMA) SIGN|DIAMOND ",
    "(OPERATOR|TARGET|SHAPE WITH A DOT INSIDE|WITH (BOTTOM|LEFT|RIGHT|TOP) HALF BLACK)|DIE FACE-",
    "(1|2|3|4|5|6)|DIESEL LOCOMOTIVE|DIFFERENCE BETWEEN|DIGIT (EIGHT|FIVE|FOUR|NINE|ONE|SEVEN|SIX|",
    "THREE|TWO|ZERO)(| (COMMA|FULL STOP))|DIGRAM FOR (EARTH|EARTHLY (HEAVEN|HUMAN)|(GREATER|",
    "LESSER) (YANG|YIN)|(HEAVENLY|HUMAN) EARTH)|DIMENSION ORIGIN|DINGBAT (CIRCLED SANS-SERIF ",
    "(DIGIT (EIGHT|FIVE|FOUR|NINE|ONE|SEVEN|SIX|THREE|TWO|ZERO)|NUMBER TEN)|NEGATIVE CIRCLED ",
    "(DIGIT (EIGHT|FIVE|FOUR|NINE|ONE|SEVEN|SIX|THREE|TWO)|NUMBER TEN|SANS-SERIF (DIGIT (EIGHT|",
    "FIVE|FOUR|NINE|ONE|SEVEN|SIX|THREE|TWO|ZERO)|NUMBER TEN)))|DIRECT (CURRENT SYMBOL FORM TWO|",
    "HIT)|DISABLED CAR|DISAPPOINTED (BUT RELIEVED FACE|FACE)|DISCONTINUOUS UNDERLINE SYMBOL|",
    "(DISGUISED|DROOLING) FACE|DITTO MARK|DIVES AKURU (DIGIT (EIGHT|FIVE|FOUR|NINE|ONE|SEVEN|SIX|",
    "THREE|TWO|ZERO)|DOUBLE DANDA|END OF TEXT MARK|GAP FILLER|INITIAL RA|LETTER (A|AA|BA|BHA|CA|",
    "CHA|DA|DDA|DDHA|DHA|E|GA|GHA|HA|I|II|JA|KA|KHA|LA|LLA|MA|NA|NGA|NNA|NYA|O|PA|PHA|RA|SA|SHA|",
    "SSA|TA|THA|TTA|U|UU|VA|YA|YYA|ZA)|MEDIAL (RA|YA)|PREFIXED NASAL SIGN|SIGN (ANUSVARA|",
    "CANDRABINDU|HALANTA|NUKTA)|VIRAMA|VOWEL SIGN (AA|AI|E|I|II|O|U|UU))|DIVING MASK|DIVISION ",
    "(SIGN|SLASH|TIMES)|DIYA LAMP|DIZZY (FACE|SYMBOL)|DNA DOUBLE HELIX|DO NOT LITTER SYMBOL|",
    "DOCUMENT(| WITH (PICTURE|TEXT(| AND PICTURE)))|DOES NOT (CONTAIN AS (MEMBER|NORMAL SUBGROUP",
    "(| OR EQUAL))|DIVIDE(| WITH REVERSED NEGATION SLASH)|FORCE|PROVE|(PRECEDE|SUCCEED)(| OR ",
    "EQUAL))|(DOG|DRAGON)(| FACE)|DOGRA (ABBREVIATION SIGN|LETTER (A|AA|AI|AU|BA|BHA|CA|CHA|DA|",
    "DDA|DDHA|DHA|E|GA|GHA|HA|I|II|JA|JHA|KA|KHA|LA|MA|NA|NGA|NNA|NYA|O|PA|PHA|RA|RRA|SA|SHA|SSA|",
    "TA|THA|TTA|TTHA|U|UU|VA|YA)|SIGN (ANUSVARA|NUKTA|VIRAMA|VISARGA)|VOWEL SIGN (AA|AI|AU|E|I|II|",
    "O|U|UU|VOCALIC (R|RR)))|DOMINO TILE ((HORIZONTAL|VERTICAL) BACK|(HORIZONTAL-|VERTICAL-)0(0|1|",
    "2|3|4|5|6)-0(0|1|2|3|4|5|6))|DOT (ABOVE|MINUS|OPERATOR|PLUS)|DOTTED (CIRCLE|CROSS|FENCE|",
    "OBELOS|SOLIDUS|SQUARE|LINE FACE|RIGHT-POINTING ANGLE|TRANSPOSITION MARKER)|DOUBLE (ACUTE ",
    "ACCENT|CIRCLED (DIGIT (EIGHT|FIVE|FOUR|NINE|ONE|SEVEN|SIX|THREE|TWO)|NUMBER TEN)|COLON EQUAL|",
    "CURLY LOOP|DAGGER|HYPHEN|INTEGRAL|INTERSECTION|PLUS|PRECEDES|SUBSET|SUCCEEDS|SUPERSET|UNION|",
    "(DOWN|UP) TACK|(EXCLAMATION|QUESTION|SUSPENSION) MARK|(HIGH-REVERSED-|LOW-|LOW-REVERSED-)9 ",
    "QUOTATION MARK|LEFT ARC GREATER-THAN BRACKET|LOGICAL (AND|OR)|LOW LINE|NESTED (GREATER-THAN|",
    "LESS-THAN(| WITH UNDERBAR))|OBLIQUE HYPHEN|PRIME(| QUOTATION MARK)|RIGHT ARC LESS-THAN ",
    "BRACKET|SOLIDUS OPERATOR|SQUARE (INTERSECTION|UNION)|STACKED COMMA|STROKE NOT SIGN|VERTICAL ",
    "(BAR(| (DOUBLE (LEFT|RIGHT) TURNSTILE|LEFT TURNSTILE))|LINE)|WAVY OVERLINE)|DOUBLE-ENDED ",
    "MULTIMAP|DOUBLE-LINE (EQUAL TO OR (GREATER-THAN|LESS-THAN)|SLANTED (EQUAL TO OR ",
    "(GREATER-THAN|LESS-THAN)|(GREATER-THAN|LESS-THAN) OR EQUAL TO))|DOUBLE-STRUCK (CAPITAL (C|",
    "GAMMA|H|N|P|PI|Q|R|Z)|ITALIC (CAPITAL D|SMALL (D|E|I|J))|N-ARY SUMMATION|SMALL (GAMMA|PI))|",
    "DOUBLED ((FEMALE|MALE) SIGN|SYMBOL)|DOVE OF PEACE|DOWN (ARROWHEAD|FISH TAIL|RIGHT DIAGONAL ",
    "ELLIPSIS|TACK(| WITH CIRCLE BELOW))|DOWN-POINTING (RED TRIANGLE|SMALL RED TRIANGLE|TRIANGLE ",
    "WITH (LEFT|RIGHT) HALF BLACK)|DOWNWARD FACING (HOOK(| WITH DOT)|NOTCHED HOOK(| WITH DOT))|",
    "DOWNWARDS (ANCORA|ROCKET|ARROW(| (AND RIGHT ONE EIGHTH BLOCK|(FROM|TO) BAR|LEFTWARDS OF ",
    "UPWARDS ARROW|WITH (CORNER LEFTWARDS|(DOUBLE|HORIZONTAL) STROKE|EQUILATERAL ARROWHEAD|(LARGE|",
    "MEDIUM) TRIANGLE ARROWHEAD|NOTCHED TAIL|SMALL (EQUILATERAL|TRIANGLE) ARROWHEAD|TIP ",
    "(LEFTWARDS|RIGHTWARDS))))|BLACK (ARROW|CIRCLED WHITE ARROW)|(COMPRESSED|DASHED|DOUBLE|",
    "FINGER-POST|QUADRUPLE|SANS-SERIF|SQUARED|TRIPLE|ZIGZAG) ARROW|HARPOON WITH BARB (LEFT ",
    "(BESIDE (DOWNWARDS|UPWARDS) HARPOON WITH BARB RIGHT|(FROM|TO) BAR)|LEFTWARDS|RIGHTWARDS|",
    "RIGHT (FROM|TO) BAR)|HEAVY (ARROW|COMPRESSED ARROW)|PAIRED ARROWS|TRIANGLE ARROWHEAD|",
    "TRIANGLE-HEADED (ARROW(| (LEFTWARDS OF UPWARDS TRIANGLE-HEADED ARROW|TO BAR|WITH ((BOLD|",
    "HEAVY|MEDIUM|NARROW) SHAFT|DOUBLE HORIZONTAL STROKE|LONG TIP (LEFTWARDS|RIGHTWARDS)|VERY ",
    "HEAVY SHAFT)))|(DASHED|ZIGZAG) ARROW|PAIRED ARROWS)|TWO HEADED ARROW|TWO-HEADED ARROW WITH ",
    "TRIANGLE ARROWHEADS|WHITE ARROW(| WITHIN TRIANGLE ARROWHEAD))|DRAFTING POINT RIGHTWARDS ",
    "ARROW|DRIVE SLOW SIGN|DROMEDARY CAMEL|DROP OF BLOOD|DRUM WITH DRUMSTICKS|DUPLOYAN (AFFIX ",
    "(ATTACHED ((E|I) HOOK|LEFT-TO-RIGHT SECANT|SECANT|TAIL|TANGENT(| HOOK))|HIGH (ACUTE|CIRCLE|",
    "DOT|GRAVE|LINE|WAVE|LONG GRAVE|TIGHT ACUTE|VERTICAL(| SECANT))|(LEFT|RIGHT) HORIZONTAL ",
    "SECANT|LOW (ACUTE|ARROW|CIRCLE|DOT|GRAVE|LINE|WAVE|LONG GRAVE|TIGHT ACUTE|VERTICAL(| ",
    "SECANT))|MID (HORIZONTAL|VERTICAL) SECANT)|DOUBLE MARK|LETTER (A|AOU|B|DH|E|EE|EU|H|HL|I|IE|",
    "KK|L|LH|O|OA|OOH|OU|OW|RH|TH|UH|UI|V|WA|WEI|WH|WI|WO|WOW|X|XW|YE|(D|R)(| S)|(F|P|U)(| N)|G(| ",
    "R S)|J(| ((M|N)(| S)|S(| WITH DOT)|WITH (DOT|DOTS INSIDE AND ABOVE)))|K(| (M|R S))|(LONG|",
    "ROMANIAN) (I|U)|M(| (N(| S)|S|WITH DOT))|N(| (M(| S)|S|WITH DOT))|NASAL (A|I|O|U)|PERNIN (AM|",
    "AN)|S(| (J(| S)|(K|P|T)(| R)|M|N|S|WITH DOT(| BELOW)))|SHORT I|SLOAN (AN|DH|EE|EH|EN|J|ON|OW|",
    "U)|T(| (R S|S))|VOCALIC M|W(| R))|PUNCTUATION CHINOOK FULL STOP|SIGN O WITH CROSS|THICK ",
    "LETTER SELECTOR)"]

/-- The names with the initial E. -/
def initialE : String :=
  String.join [
    "(E-MAIL|EJECT|EMPHASIS|ENTER|ESTIMATED) SYMBOL|EAGLE|EGG|ELEPHANT|ELEVATOR|ELF|ENQ|ENQUIRY|",
    "EOL|EOM|EOT|EPA|ESA|ESC|ESCAPE|ESTIMATES|ETB|ETX|EXCESS|EYE|EYEGLASSES|EYES|EAR(| (OF (MAIZE|",
    "RICE)|WITH HEARING AID))|EARTH(| (GLOBE (AMERICAS|ASIA-AUSTRALIA|EUROPE-AFRICA)|GROUND))|",
    "EAST SYRIAC CROSS|EDITORIAL CORONIS|EGYPTIAN HIEROGLYPH (A0(0(1|2|3|4|7|8|9|5(|A)|6(|A|B))|1",
    "(0|1|2|3|5|6|8|9|(4|7)(|A))|(2|5|6)(0|1|2|3|4|5|6|7|8|9)|3(0|1|3|4|5|6|7|8|9|2(|A))|4((0|2|3|",
    "5)(|A)|1|4|6|7|8|9)|70)|AA0(0(1|2|3|4|5|6|8|9|7(|A|B))|(1|2)(0|1|2|3|4|5|6|7|8|9)|3(0|1|2))|",
    "B00(1|2|3|4|6|7|8|9|5(|A))|(BEGIN|END) SEGMENT|C0(0(1|3|4|5|6|7|8|9|2(|A|B|C))|1(0(|A)|1|2|3|",
    "4|5|6|7|8|9)|2(0|1|2|3|4))|D0(0(1|2|3|4|5|6|7|9|8(|A))|1(0|1|2|3|4|5|6|7|8|9)|2(0|1|2|3|4|5|",
    "6|8|9|7(|A))|3(0|2|3|5|6|7|8|9|(1|4)(|A))|4(0|1|2|3|4|5|7|9|(6|8)(|A))|5(0(|A|B|C|D|E|F|G|H|",
    "I)|1|3|5|6|7|8|9|(2|4)(|A))|6(0|1|2|3|4|5|6|7(|A|B|C|D|E|F|G|H)))|E0(0(1|2|3|4|5|6|7|(8|9)",
    "(|A))|1(0|1|2|3|4|5|8|9|(6|7)(|A))|2((0|8)(|A)|1|2|3|4|5|6|7|9)|3(0|1|2|3|6|7|8|4(|A)))|F0(0",
    "(1(|A)|2|3|4|5|6|7|8|9)|1(0|1|2|4|5|6|7|8|9|3(|A))|2(0|2|3|4|5|6|7|8|9|1(|A))|3(0|2|3|4|5|6|",
    "9|(1|7|8)(|A))|4(0|1|2|3|4|8|9|(5|6|7)(|A))|5(0|2|3|1(|A|B|C)))|G0(0(1|2|3|4|5|8|9|6(|A)|7",
    "(|A|B))|1(0|2|3|4|5|6|7|8|9|1(|A))|2((0|6)(|A)|1|2|3|4|5|7|8|9)|3(0|1|2|3|4|5|8|9|(6|7)(|A))|",
    "4(0|1|2|4|6|7|8|9|(3|5)(|A))|5(0|1|2|3|4))|H00(1|2|3|4|5|7|8|6(|A))|(HORIZONTAL|VERTICAL) ",
    "JOINER|I0(0(1|2|3|4|6|7|8|(5|9)(|A))|1((0|1)(|A)|2|3|4|5))|INSERT AT (BOTTOM|TOP) (END|",
    "START)|K00(1|2|3|4|5|6|7|8)|L00(1|3|4|5|7|8|(2|6)(|A))|M0(0(1(|A|B)|2|4|5|6|7|8|9|3(|A))|1",
    "((0|5|6|7)(|A)|1|3|4|8|9|2(|A|B|C|D|E|F|G|H))|2(0|1|3|5|6|7|9|(2|4|8)(|A))|3(0|2|4|5|6|7|8|9|",
    "1(|A)|3(|A|B))|4(0(|A)|1|2|3|4))|N0(0(1|2|3|4|5|6|7|8|9)|1(0|1|2|3|4|5|6|7|9|8(|A|B))|2(0|1|",
    "2|3|4|6|7|8|9|5(|A))|3(0|1|2|6|8|9|(3|4|5|7)(|A))|4(0|1|2))|NL0(0(1|2|3|4|6|7|8|9|5(|A))|1(0|",
    "1|2|3|4|5|6|8|9|7(|A))|20)|NU0(0(1|2|3|4|5|6|7|8|9)|1((0|1|8)(|A)|2|3|4|5|6|7|9)|2(0|1|2",
    "(|A)))|O0(0((1|5)(|A)|2|3|4|7|8|9|6(|A|B|C|D|E|F))|1(0(|A|B|C)|1|2|3|4|5|6|7|8|9(|A))|2((0|4|",
    "5|9)(|A)|1|2|3|6|7|8)|3((0|3)(|A)|1|2|4|5|7|8|9|6(|A|B|C|D))|4(0|1|2|3|4|5|6|7|8|9)|5(0(|A|",
    "B)|1))|OVERLAY MIDDLE|P0(0((1|3)(|A)|2|4|5|6|7|8|9)|1(0|1))|Q00(1|2|3|4|5|6|7)|R0(0(1|4|5|6|",
    "7|8|9|2(|A)|3(|A|B))|1((0|6)(|A)|1|2|3|4|5|7|8|9)|2(0|1|2|3|4|5|6|7|8|9))|S0(0(1|3|4|5|7|8|9|",
    "(2|6)(|A))|1(0|1|2|3|5|6|8|9|4(|A|B)|7(|A))|2(0|1|2|3|4|5|7|8|9|6(|A|B))|3(0|1|2|3|4|6|7|8|9|",
    "5(|A))|4(0|1|2|3|4|5|6))|T0(0(1|2|4|5|6|(3|7|8|9)(|A))|1(0|2|3|4|5|7|8|9|(1|6)(|A))|2(0|1|2|",
    "3|4|5|6|7|8|9)|3(0|1|4|5|6|(2|3)(|A)))|U0(0(1|2|3|4|5|7|8|9|6(|A|B))|1(0|1|2|3|4|5|6|7|8|9)|2",
    "(0|1|2|4|5|6|7|8|(3|9)(|A))|3(0|1|3|4|5|6|7|8|9|2(|A))|4(0|1|2))|V0(0(1(|A|B|C|D|E|F|G|H|I)|2",
    "(|A)|3|4|5|6|8|9|7(|A|B))|1(0|3|4|5|6|7|8|9|1(|A|B|C)|2(|A|B))|2(0(|A|B|C|D|E|F|G|H|I|J|K|L)|",
    "1|2|4|5|6|7|(3|8|9)(|A))|3((0|1|3|7)(|A)|2|4|5|6|8|9)|40(|A))|W0(0(1|2|4|5|6|7|8|(3|9)(|A))|1",
    "((0|4|7|8)(|A)|1|2|3|5|6|9)|2(0|1|2|3|5|4(|A)))|X00(1|2|3|5|7|4(|A|B)|(6|8)(|A))|Y00(1(|A)|2|",
    "3|4|5|6|7|8)|Z0(0(1|6|7|8|9|2(|A|B|C|D)|3(|A|B)|(4|5)(|A))|1(0|1|2|3|4|5(|A|B|C|D|E|F|G|H|I)|",
    "6(|A|B|C|D|E|F|G|H))))|EIGHT (PETALLED OUTLINED BLACK FLORETTE|POINTED ((BLACK|PINWHEEL) ",
    "STAR|RECTILINEAR BLACK STAR)|SPOKED ASTERISK|TEARDROP-SPOKED PROPELLER ASTERISK)|EIGHTH NOTE|",
    "ELBASAN LETTER (A|BE|CE|CHE|DE|DHE|E|EI|FE|GE|GHAMMA|GHE|GJE|HE|I|JE|KE|KHE|LE|LLE|ME|NA|NDE|",
    "NE|NJE|O|PE|QE|RE|RRE|SE|SHE|TE|THE|U|VE|XE|Y|ZE|ZHE)|ELECTRIC (ARROW|PLUG|TORCH|LIGHT BULB)|",
    "ELECTRICAL INTERSECTION|ELEMENT OF(| (OPENING (DOWNWARDS|UPWARDS)|WITH (DOT ABOVE|LONG ",
    "HORIZONTAL STROKE|OVERBAR|UNDERBAR|TWO HORIZONTAL STROKES|VERTICAL BAR AT END OF HORIZONTAL ",
    "STROKE)))|ELYMAIC (LETTER (ALEPH|AYIN|BETH|DALETH|GIMEL|HE|HETH|KAPH|LAMEDH|MEM|NUN|PE|QOPH|",
    "RESH|SADHE|SAMEKH|SHIN|TAW|TETH|WAW|YODH|ZAYIN)|LIGATURE ZAYIN-YODH)|(EM|EN) (DASH|QUAD|",
    "SPACE)|EMOJI (COMPONENT (BALD|(CURLY|RED|WHITE) HAIR)|MODIFIER FITZPATRICK TYPE-(1-2|3|4|5|",
    "6))|EMPTY (DOCUMENT|NEST|PAGE|PAGES|NOTE(| (PAD|PAGE))|SET(| WITH ((LEFT|RIGHT) ARROW ABOVE|",
    "OVERBAR|SMALL CIRCLE ABOVE)))|END (OF ((GUARDED|PROTECTED|SELECTED) AREA|LINE|MEDIUM|PROOF|",
    "TEXT|TRANSMISSION(| BLOCK))|WITH LEFTWARDS ARROW ABOVE)|ENVELOPE(| WITH (DOWNWARDS ARROW ",
    "ABOVE|LIGHTNING))|EQUAL (AND PARALLEL TO|TO (BY DEFINITION|OR (GREATER-THAN|LESS-THAN|",
    "PRECEDES|SUCCEEDS)))|EQUALS (COLON|SIGN(| (ABOVE ((LEFTWARDS|RIGHTWARDS) ARROW|PLUS SIGN|",
    "TILDE OPERATOR)|AND SLANTED PARALLEL(| WITH TILDE ABOVE)|WITH (BUMPY ABOVE|(DOT|INFINITY) ",
    "BELOW|TWO DOTS ABOVE AND TWO DOTS BELOW)))|WITH ASTERISK)|EQUIANGULAR TO|EQUIVALENT (TO|WITH ",
    "FOUR DOTS ABOVE)|ERASE TO THE (LEFT|RIGHT)|ERIS FORM (ONE|TWO)|ERROR-BARRED (BLACK|WHITE) ",
    "(CIRCLE|DIAMOND|SQUARE)|ETHIOPIC (COLON|COMMA|SEMICOLON|WORDSPACE|COMBINING (GEMINATION (AND ",
    "VOWEL LENGTH MARK|MARK)|VOWEL LENGTH MARK)|DIGIT (EIGHT|FIVE|FOUR|NINE|ONE|SEVEN|SIX|THREE|",
    "TWO)|FULL STOP|NUMBER (EIGHTY|FIFTY|FORTY|HUNDRED|NINETY|SEVENTY|SIXTY|THIRTY|TWENTY|TEN(| ",
    "THOUSAND))|PARAGRAPH SEPARATOR|PREFACE COLON|(QUESTION|SECTION) MARK|SYLLABLE (BA|BAA|BBA|",
    "BBAA|BBE|BBEE|BBI|BBO|BBU|BE|BEE|BI|BO|BOA|BU|BWA|BWE|BWEE|BWI|CA|CAA|CCA|CCAA|CCE|CCEE|CCHA|",
    "CCHAA|CCHE|CCHEE|CCHHA|CCHHAA|CCHHE|CCHHEE|CCHHI|CCHHO|CCHHU|CCHI|CCHO|CCHU|CCI|CCO|CCU|CE|",
    "CEE|CHA|CHAA|CHE|CHEE|CHI|CHO|CHOA|CHU|CHWA|CI|CO|COA|CU|CWA|DA|DAA|DDA|DDAA|DDE|DDEE|DDHAA|",
    "DDHE|DDHEE|DDHI|DDHO|DDHU|DDI|DDO|DDOA|DDU|DDWA|DE|DEE|DI|DO|DOA|DU|DWA|DZAA|DZE|DZEE|DZI|",
    "DZO|DZU|FA|FAA|FE|FEE|FI|FO|FU|FWA|FWE|FWEE|FWI|FYA|GA|GAA|GE|GEE|GGA|GGAA|GGE|GGEE|GGI|GGO|",
    "GGU|GGWA|GGWAA|GGWE|GGWEE|GGWI|GI|GO|GOA|GU|GWA|GWAA|GWE|GWEE|GWI|GYA|GYAA|GYE|GYEE|GYI|GYO|",
    "GYU|HA|HAA|HE|HEE|HHA|HHAA|HHE|HHEE|HHI|HHO|HHU|HHWA|HHWE|HHWEE|HHWI|HHYA|HHYAA|HHYE|HHYEE|",
    "HHYI|HHYO|HHYU|HI|HO|HOA|HU|JA|JAA|JE|JEE|JI|JO|JOA|JU|JWA|KA|KAA|KE|KEE|KI|KO|KOA|KU|KWA|",
    "KWAA|KWE|KWEE|KWI|KXA|KXAA|KXE|KXEE|KXI|KXO|KXU|KXWA|KXWAA|KXWE|KXWEE|KXWI|KYA|KYAA|KYE|KYEE|",
    "KYI|KYO|KYU|LA|LAA|LE|LEE|LI|LO|LOA|LU|LWA|MA|MAA|ME|MEE|MI|MO|MOA|MU|MWA|MWE|MWEE|MWI|MYA|",
    "NA|NAA|NE|NEE|NI|NO|NOA|NU|NWA|NYA|NYAA|NYE|NYEE|NYI|NYO|NYOA|NYU|NYWA|PA|PAA|PE|PEE|PHA|",
    "PHAA|PHE|PHEE|PHI|PHO|PHOA|PHU|PHWA|PI|PO|POA|PU|PWA|PWE|PWEE|PWI|QA|QAA|QE|QEE|QHA|QHAA|QHE|",
    "QHEE|QHI|QHO|QHU|QHWA|QHWAA|QHWE|QHWEE|QHWI|QI|QO|QOA|QU|QWA|QWAA|QWE|QWEE|QWI|QYA|QYAA|QYE|",
    "QYEE|QYI|QYO|QYU|RA|RAA|RE|REE|RI|RO|ROA|RU|RWA|RYA|SA|SAA|SE|SEE|SHA|SHAA|SHE|SHEE|SHI|SHO|",
    "SHOA|SHU|SHWA|SI|SO|SOA|SSA|SSAA|SSE|SSEE|SSI|SSO|SSU|SU|SWA|SZA|SZAA|SZE|SZEE|SZI|SZO|SZU|",
    "SZWA|TA|TAA|TE|TEE|THA|THAA|THE|THEE|THI|THO|THOA|THU|THWA|TI|TO|TOA|TSA|TSAA|TSE|TSEE|TSI|",
    "TSO|TSU|TSWA|TTHAA|TTHE|TTHEE|TTHI|TTHO|TTHU|TU|TWA|TZA|TZAA|TZE|TZEE|TZI|TZO|TZOA|TZU|VA|",
    "VAA|VE|VEE|VI|VO|VU|VWA|WA|WAA|WE|WEE|WI|WO|WOA|WU|XA|XAA|XE|XEE|XI|XO|XOA|XU|XWA|XWAA|XWE|",
    "XWEE|XWI|XYA|XYAA|XYE|XYEE|XYI|XYO|XYU|YA|YAA|YE|YEE|YI|YO|YOA|YU|ZA|ZAA|ZE|ZEE|ZHA|ZHAA|ZHE|",
    "ZHEE|ZHI|ZHO|ZHU|ZHWA|ZI|ZO|ZOA|ZU|ZWA|ZZA|ZZAA|ZZE|ZZEE|ZZI|ZZO|ZZU|GLOTTAL (A|AA|E|EE|I|O|",
    "OA|U|WA)|GURAGE (BWEE|BWI|FWEE|FWI|GWE|GWEE|GWI|HHWA|KWE|KWEE|KWI|MWEE|MWI|PWEE|PWI|QWE|QWEE|",
    "QWI)|PHARYNGEAL (A|AA|E|EE|I|O|U)|SEBATBEIT (BWA|FWA|MWA|PWA))|TONAL MARK (CHIRET|DERET|",
    "DERET-HIDET|DIFAT|HIDET|KENAT|KURT|RIKRIK|YIZET|SHORT RIKRIK))|EULER CONSTANT|(EURO|",
    "EURO-CURRENCY) SIGN|EUROPEAN (CASTLE|POST OFFICE)|EVERGREEN TREE|EXCLAMATION (MARK|QUESTION ",
    "MARK)|EXPRESSIONLESS FACE|EXTENDED ARABIC-INDIC DIGIT (EIGHT|FIVE|FOUR|NINE|ONE|SEVEN|SIX|",
    "THREE|TWO|ZERO)|EXTRATERRESTRIAL ALIEN|EXTREMELY HEAVY ((FIVE|SIX) SPOKED ASTERISK|GREEK ",
    "CROSS|SALTIRE|WHITE (CIRCLE|SQUARE))"]

/-- The names with the initial F. -/
def initialF : String :=
  String.join [
    "FACE (HOLDING BACK TEARS|MASSAGE|PALM|SAVOURING DELICIOUS FOOD|SCREAMING IN FEAR|THROWING A ",
    "KISS|WITH (COLD SWEAT|COWBOY HAT|DIAGONAL MOUTH|FINGER COVERING CLOSED LIPS|HEAD-BANDAGE|",
    "MONOCLE|THERMOMETER|LOOK OF TRIUMPH|MEDICAL MASK|NO GOOD GESTURE|OK GESTURE|ONE EYEBROW ",
    "RAISED|OPEN (EYES AND HAND OVER MOUTH|MOUTH(| (AND COLD SWEAT|VOMITING)))|PARTY HORN AND ",
    "PARTY HAT|PEEKING EYE|(PLEADING|ROLLING) EYES|STUCK-OUT TONGUE(| AND (TIGHTLY-CLOSED EYES|",
    "WINKING EYE))|TEARS OF JOY|UNEVEN EYES AND WAVY MOUTH)|WITHOUT MOUTH)|(FACSIMILE|FEMALE) ",
    "SIGN|FACTORY|FAIRY|FALAFEL|FAMILY|FEATHER|FENCER|FERRY|FF|FIRECRACKER|FIREWORKS|FISHEYE|",
    "FLAMINGO|FLATBREAD|FLATNESS|FLEUR-DE-LIS|FLY|FOG|FOGGY|FOLDER|FONDUE|FOOT|FOOTPRINTS|FORCES|",
    "FORKING|FOUNTAIN|FROWN|FS|FSI|FUSE|FALLEN LEAF|FALLING DIAGONAL (CROSSING (NORTH EAST ARROW|",
    "RISING DIAGONAL)|IN WHITE CIRCLE IN BLACK SQUARE)|FARSI SYMBOL|FATHER CHRISTMAS|FAX (ICON|",
    "MACHINE)|(FEARFUL|FLUSHED|FOX|FREEZING|FROG) FACE|FEMININE ORDINAL INDICATOR|FERRIS WHEEL|",
    "FIELD HOCKEY STICK AND BALL|FIGURE (DASH|SPACE)|FILE (CABINET|FOLDER|SEPARATOR)|FILM (FRAMES|",
    "PROJECTOR)|FINITE PART INTEGRAL|FIRE(| (ENGINE|EXTINGUISHER))|FIREWORK SPARKLER|FIRST (PLACE ",
    "MEDAL|QUARTER MOON(| (SYMBOL|WITH FACE))|STRONG ISOLATE)|FISH(| CAKE WITH SWIRL DESIGN)|",
    "FISHING POLE AND FISH|FISTED HAND SIGN|FIVE DOT (MARK|PUNCTUATION)|FLAG IN HOLE|FLAT SHOE|",
    "FLEXED BICEPS|FLOPPY DISK|FLORAL HEART|FLOWER(| (PLAYING CARDS|PUNCTUATION MARK))|FLYING ",
    "(DISC|ENVELOPE|SAUCER)|FOR ALL|FORK AND KNIFE(| WITH PLATE)|FORKED PARAGRAPHOS|FORM FEED|",
    "FORTUNE COOKIE|FOUR ((BALLOON-SPOKED|CLUB-SPOKED|TEARDROP-SPOKED) ASTERISK|CORNER ARROWS ",
    "CIRCLING ANTICLOCKWISE|DOT (MARK|PUNCTUATION)|LEAF CLOVER|POINTED BLACK STAR)|FOUR-PER-EM ",
    "SPACE|FOURTH ROOT|FRACTION (NUMERATOR ONE|SLASH)|FRAME WITH (AN X|PICTURE|TILES)|FRENCH ",
    "(FRANC SIGN|FRIES)|FRIED SHRIMP|FRONT-FACING BABY CHICK|FRONT-TILTED SHADOWED WHITE ",
    "RIGHTWARDS ARROW|FROWNING FACE WITH OPEN MOUTH|FUEL PUMP|FULL (BLOCK|STOP|MOON (SYMBOL|WITH ",
    "FACE)|OUTER JOIN)|FULLWIDTH (AMPERSAND|APOSTROPHE|ASTERISK|COLON|COMMA|HYPHEN-MINUS|MACRON|",
    "SEMICOLON|SOLIDUS|TILDE|BROKEN BAR|(CENT|DOLLAR|EQUALS|GREATER-THAN|LESS-THAN|NOT|NUMBER|",
    "PERCENT|PLUS|POUND|WON|YEN) SIGN|(CIRCUMFLEX|GRAVE) ACCENT|COMMERCIAL AT|DIGIT (EIGHT|FIVE|",
    "FOUR|NINE|ONE|SEVEN|SIX|THREE|TWO|ZERO)|(EXCLAMATION|QUESTION|QUOTATION) MARK|FULL STOP|",
    "LATIN (CAPITAL|SMALL) LETTER (A|B|C|D|E|F|G|H|I|J|K|L|M|N|O|P|Q|R|S|T|U|V|W|X|Y|Z)|(LEFT|",
    "RIGHT) ((CURLY|SQUARE) BRACKET|PARENTHESIS|WHITE PARENTHESIS)|(LOW|VERTICAL) LINE|REVERSE ",
    "SOLIDUS)|FUNCTION APPLICATION|FUNERAL URN|FVS(1|2|3|4)"]

end GraphBind.Text.CharacterName
