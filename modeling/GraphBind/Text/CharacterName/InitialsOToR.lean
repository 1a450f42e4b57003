/-!
# Character names with the initials O to R

The names of characters that begin with the letters from O to R, as patterns.
-/

namespace GraphBind.Text.CharacterName

/-- The names with the initial O. -/
def initialO : String :=
  String.join [
    "OBJECT REPLACEMENT CHARACTER|OBLIQUE (ANGLE OPENING (DOWN|UP)|HYPHEN)|OBSERVER EYE SYMBOL|",
    "OCR (AMOUNT OF CHECK|BELT BUCKLE|BOW TIE|BRANCH BANK IDENTIFICATION|CHAIR|DASH|FORK|HOOK|",
    "CUSTOMER ACCOUNT NUMBER|DOUBLE BACKSLASH|INVERTED FORK)|(OCTAGONAL|OHM|OUNCE) SIGN|OCTOPUS|",
    "ODEN|OGONEK|OLIVE|ONION|OPHIUCHUS|OPPOSITION|ORANGUTAN|OSC|OTTER|OVERLAP|OVERLINE|OWL|OX|",
    "OYSTER|OFFICE BUILDING|OGHAM ((FEATHER|SPACE) MARK|LETTER (AILM|BEITH|CEIRT|COLL|DAIR|",
    "EABHADH|EADHADH|EAMHANCHOLL|FEARN|GORT|IFIN|IODHADH|LUIS|MUIN|NGEADAL|NION|ONN|OR|PEITH|RUIS|",
    "SAIL|STRAIF|TINNE|UATH|UILLEANN|UR)|REVERSED FEATHER MARK)|OIL DRUM|OK HAND SIGN|OL CHIKI ",
    "(AHAD|PHAARKAA|RELAA|DIGIT (EIGHT|FIVE|FOUR|NINE|ONE|SEVEN|SIX|THREE|TWO|ZERO)|(GAAHLAA|",
    "MU-GAAHLAA) TTUDDAAG|LETTER (AAJ|AAK|AAM|AAW|AG|AL|ANG|AT|EDD|EN|EP|ERR|IH|INY|IR|IS|LA|LAA|",
    "LE|LI|LO|LU|OB|OH|OTT|OV|UC|UD|UNN|UY)|MU TTUDDAG|PUNCTUATION (DOUBLE MUCAAD|MUCAAD))|OLD ",
    "(CHINESE (HOOK|ITERATION) MARK|HUNGARIAN ((CAPITAL|SMALL) LETTER (A|AA|AK|AMB|AND|E|EB|EC|",
    "ECH|ECS|ED|EE|EF|EG|EGY|EH|EJ|EK|EL|ELY|EM|EMP|EN|ENC|ENT|ENY|EP|ER|ES|ESZ|ET|ETY|EV|EZ|EZS|",
    "I|II|O|OEE|OO|U|UNK|US|UU|CLOSE E|ENT-SHAPED SIGN|(NIKOLSBURG|RUDIMENTA) (OE|UE)|SHORT ER)|",
    "NUMBER (FIFTY|FIVE|TEN|ONE(| (HUNDRED|THOUSAND))))|ITALIC (LETTER (A|BE|CHE|DE|E|EF|EKS|EL|",
    "EM|EN|ER|ERS|ES|ESH|ESS|HE|I|II|KA|KE|KHE|KU|O|PE|PHE|SHE|TE|THE|U|UU|VE|YE|ZE|(NORTHERN|",
    "SOUTHERN) TSE)|NUMERAL (FIFTY|FIVE|ONE|TEN))|KEY|NORTH ARABIAN (LETTER (AIN|ALEF|BEH|DAD|DAL|",
    "FEH|GEEM|GHAIN|HAH|HEH|KAF|KHAH|LAM|MEEM|NOON|QAF|REH|SAD|TAH|TEH|THAL|THEH|WAW|YEH|ZAH|ZAIN|",
    "ES-(1|2|3))|NUMBER (ONE|TEN|TWENTY))|PERMIC LETTER (AN|BUR|CHERY|DOI|DZHOI|DZITA|E|EF|GAI|HA|",
    "I|IA|IE|KOKE|LEI|MENOE|NENOE|O|OO|PEEI|REI|SHCHOOI|SHOOI|SII|TAI|TSIU|U|VER|VOOI|YA|YAT|YER|",
    "YERI|YERU|YRY|YU|ZATA|ZHOI)|PERSIAN (NUMBER (HUNDRED|ONE|TEN|TWENTY|TWO)|SIGN (A|AURAMAZDAA|",
    "AURAMAZDAAHA|BA|BAGA|BUUMISH|CA|DA|DAHYAAUSH|DI|DU|FA|GA|GU|HA|I|JA|JI|KA|KU|LA|MA|MI|MU|NA|",
    "NU|PA|RA|RU|SA|SHA|SSA|TA|THA|TU|U|VA|VI|XA|XSHAAYATHIYA|YA|ZA|(AURAMAZDAA-|DAHYAAUSH-)2)|",
    "WORD DIVIDER)|PERSONAL COMPUTER|SOGDIAN (FRACTION ONE HALF|LETTER (ALEPH|AYIN|BETH|GIMEL|HE|",
    "HETH|KAPH|LAMEDH|MEM|NUN|PE|RESH-AYIN-DALETH|SADHE|SAMEKH|SHIN|TAW|WAW|YODH|ZAYIN|ALTERNATE ",
    "AYIN|FINAL (ALEPH|BETH|HE|(NUN|SADHE|TAW)(| WITH VERTICAL TAIL)))|LIGATURE AYIN-DALETH|",
    "NUMBER (FIVE|FOUR|TEN|THIRTY|THREE|TWENTY|TWO|ONE(| HUNDRED)))|SOUTH ARABIAN (LETTER (ALEF|",
    "AYN|BETH|DALETH|DHADHE|DHALETH|FE|GHAYN|GIMEL|HE|HETH|KAPH|KHETH|LAMEDH|MEM|NUN|QOPH|RESH|",
    "SADHE|SAMEKH|SAT|SHIN|TAW|TETH|THAW|THETH|WAW|YODH|ZAYN)|NUMBER (FIFTY|ONE)|NUMERIC ",
    "INDICATOR)|TURKIC LETTER (ORKHON (A|AB|AD|AEB|AED|AEG|AEK|AEL|AEN|AER|AES|AET|AEY|AG|AL|AN|",
    "AQ|AR|AS|ASH|AT|AY|BASH|EC|ELT|EM|ENC|ENG|ENT|ENY|EP|ESH|EZ|I|IC|IQ|O|OE|OEK|OP|OQ|OT)|",
    "YENISEI (A|AB|AD|AE|AEB|AEG|AEK|AEN|AENG|AET|AEY|AG|AL|ANG|AQ|AR|ASH|AT|AY|E|EC|ENC|ENT|ENY|",
    "ESH|EZ|I|IQ|OE|OEK|OQ))|UYGHUR (COMBINING (DOT (ABOVE|BELOW)|TWO DOTS (ABOVE|BELOW))|LETTER ",
    "(ALEPH|BETH|GIMEL-HETH|KAPH|LAMEDH|LESH|MEM|NUN|PE|RESH|SADHE|SAMEKH|SHIN|TAW|WAW|YODH|ZAYIN|",
    "FINAL HETH)|PUNCTUATION (BAR|FOUR DOTS|TWO (BARS|DOTS))))|OLDER (ADULT|MAN|WOMAN)|OM SYMBOL|",
    "ON WITH EXCLAMATION MARK WITH LEFT RIGHT ARROW ABOVE|ONCOMING (AUTOMOBILE|BUS|TAXI|FIRE ",
    "ENGINE|POLICE CAR)|ONE (BUTTON MOUSE|DOT (LEADER|OVER TWO DOTS PUNCTUATION))|ONE-PIECE ",
    "SWIMSUIT|OPEN (BOOK|BOX|FOLDER|LOCK|SUBSET|SUPERSET|CENTRE (ASTERISK|CROSS|BLACK STAR|",
    "TEARDROP-SPOKED ASTERISK)|FILE FOLDER|HANDS SIGN|MAILBOX WITH (LOWERED|RAISED) FLAG)|",
    "OPEN-CIRCUIT-OUTPUT (H-TYPE|L-TYPE) SYMBOL|OPEN-OUTLINED RIGHTWARDS ARROW|OPERATING SYSTEM ",
    "COMMAND|OPTICAL DISC(| ICON)|OPTION KEY|OR WITH DOT INSIDE|ORANGE (BOOK|HEART)|ORIGINAL OF|",
    "ORIYA ((AI|AU) LENGTH MARK|DIGIT (EIGHT|FIVE|FOUR|NINE|ONE|SEVEN|SIX|THREE|TWO|ZERO)|",
    "FRACTION (ONE (EIGHTH|HALF|QUARTER|SIXTEENTH)|THREE (QUARTERS|SIXTEENTHS))|ISSHAR|LETTER (A|",
    "AA|AI|AU|BA|BHA|CA|CHA|DA|DDA|DDHA|DHA|E|GA|GHA|HA|I|II|JA|JHA|KA|KHA|LA|LLA|MA|NA|NGA|NNA|",
    "NYA|O|PA|PHA|RA|RHA|RRA|SA|SHA|SSA|TA|THA|TTA|TTHA|U|UU|VA|WA|YA|YYA|VOCALIC (L|LL|R|RR))|",
    "SIGN (ANUSVARA|AVAGRAHA|CANDRABINDU|NUKTA|OVERLINE|VIRAMA|VISARGA)|VOWEL SIGN (AA|AI|AU|E|I|",
    "II|O|U|UU|VOCALIC (L|LL|R|RR)))|ORNATE (LEFT|RIGHT) PARENTHESIS|ORTHODOX CROSS|OSAGE ",
    "(CAPITAL|SMALL) LETTER (A|AH|AI|AIN|BRA|CHA|DHA|E|EHCHA|EHKA|EHPA|EHTA|EHTSA|EIN|GHA|HA|HYA|",
    "I|KA|KHA|KYA|LA|MA|NA|O|OIN|PA|SA|SHA|TA|TSA|TSHA|U|WA|ZA|ZHA)|OSMANYA (DIGIT (EIGHT|FIVE|",
    "FOUR|NINE|ONE|SEVEN|SIX|THREE|TWO|ZERO)|LETTER (A|AA|ALEF|BA|CAYN|DEEL|DHA|E|EE|FA|GA|HA|I|",
    "JA|KAAF|KHA|LAAN|MIIN|NUUN|O|OO|QAAF|RA|SA|SHIIN|TA|U|WAW|XA|YA))|OTTOMAN SIYAQ (ALTERNATE ",
    "NUMBER (EIGHT|FIVE|NINE|SEVEN|THREE|(FOUR|SIX)(| HUNDRED)|(TEN|TWO)(| THOUSAND))|FRACTION ",
    "ONE (HALF|SIXTH)|MARRATAN|NUMBER ((EIGHT|FIVE|FOUR|NINE|ONE|SEVEN|SIX|THREE|TWO)(| (HUNDRED|",
    "THOUSAND))|(EIGHTY|FIFTY|FORTY|NINETY|SEVENTY|SIXTY|TEN|THIRTY|TWENTY)(| THOUSAND)))|OUTBOX ",
    "TRAY|OUTLINED ((BLACK|WHITE) STAR|(GREEK|LATIN) CROSS)|OVERHEATED FACE|OVERLAPPING (BLACK ",
    "SQUARES|WHITE (AND BLACK SQUARES|SQUARES))"]

/-- The names with the initial P. -/
def initialP : String :=
  String.join [
    "PACKAGE|PAD|PAGER|PAGES|PAGODA|PALLAS|PANCAKES|PAPERCLIP|PARACHUTE|PARAGRAPHOS|PARROT|PDF|",
    "PDI|PEACH|PEACOCK|PEANUTS|PEAR|PEDESTRIAN|PENCIL|PENGUIN|PENTAGRAM|PERSPECTIVE|PHOLUS|PICK|",
    "PIE|PILL|PINATA|PINEAPPLE|PISCES|PISTOL|PLACARD|PLD|PLU|PLUNGER|PM|POODLE|POPCORN|POSEIDON|",
    "POSTBOX|POTATO|POUCH|PRETZEL|PRIME|PRINCE|PRINCESS|PROJECTIVE|PROPORTION|PROSERPINA|PURSE|",
    "PUSHPIN|PADDING CHARACTER|PAGE(| (FACING UP|WITH (CIRCLED TEXT|CURL)))|PAHAWH HMONG (CLAN ",
    "SIGN (FAJ|HAM|HAWJ|KHAB|KOO|KWM|LAUJ|LIS|MUAS|PHAB|THOJ|TSAB|TSHEEJ|TSWB|VAJ|VWJ|XYOOJ|YAJ|",
    "YEEG)|CONSONANT (AU|CAU|CHAU|HAU|HLAU|HNAU|LAU|MAU|NAU|NCHAU|NKAU|NLAU|NTHAU|NTSAU|PLHAU|",
    "QHAU|RAU|VAU|XAU|YAU)|DIGIT (EIGHT|FIVE|FOUR|NINE|ONE|SEVEN|SIX|THREE|TWO|ZERO)|MARK CIM ",
    "(HOM|KES|KHAV|SO|SUAM|TAUM|TUB)|NUMBER (HUNDRED MILLIONS|HUNDREDS|MILLIONS|TENS|TRILLIONS|",
    "TEN (BILLIONS|THOUSANDS))|SIGN (AV|HLI|HNUB|LOS|MUS|NQIG|NTUJ|TAU|XAUS|XIAB|XYOO|CIM (CHEEM|",
    "CUAM TSHOOJ|HAIS LUS NTOG NTOG|NRES TOS|PUB DAWB|TSOV ROG|TXWV(| CHWV))|IB YAM|MEEJ (SUAB|",
    "TSEEB)|THIRD-STAGE HLI|TXHEEJ CEEV|VOS (FEEM|LUB|NRUA|SEEV|THIAB|THOM|TSHAB CEEB)|XYEEM ",
    "(FAIB|NTXIV|RHO|TOV)|ZWJ THAJ)|VOWEL (KAAB|KAAV|KAB|KAIB|KAIV|KAUB|KAUV|KAV|KAWB|KAWV|KEB|",
    "KEEB|KEEV|KEV|KIAB|KIAV|KIB|KIV|KOB|KOOB|KOOV|KOV|KUAB|KUAV|KUB|KUV|KWB|KWV))|PALM (BRANCH|",
    "TREE|(DOWN|UP) HAND)|PALMS UP TOGETHER|PALMYRENE ((LEFT-POINTING|RIGHT-POINTING) FLEURON|",
    "LETTER (ALEPH|AYIN|BETH|DALETH|GIMEL|HE|HETH|KAPH|LAMEDH|MEM|NUN|PE|QOPH|RESH|SADHE|SAMEKH|",
    "SHIN|TAW|TETH|WAW|YODH|ZAYIN|FINAL NUN)|NUMBER (FIVE|FOUR|ONE|TEN|THREE|TWENTY|TWO))|(PANDA|",
    "PENSIVE|PERSEVERING) FACE|PARAGRAPH SEPARATOR|PARAGRAPHUS MARK|PARALLEL (TO|WITH (HORIZONTAL ",
    "STROKE|TILDE OPERATOR))|PARENTHESIZED (DIGIT (EIGHT|FIVE|FOUR|NINE|ONE|SEVEN|SIX|THREE|TWO)|",
    "HANGUL ((CHIEUCH|HIEUH|IEUNG|KHIEUKH|KIYEOK|MIEUM|NIEUN|PHIEUPH|PIEUP|RIEUL|SIOS|THIEUTH|",
    "TIKEUT)(| A)|CIEUC(| (A|U)))|IDEOGRAPH (ALLIANCE|CALL|CONGRATULATION|EARTH|EIGHT|ENTERPRISE|",
    "FESTIVAL|FINANCIAL|FIRE|FIVE|FOUR|HAVE|LABOR|METAL|MOON|NAME|NINE|ONE|REACH|REPRESENT|",
    "RESOURCE|REST|SELF|SEVEN|SIX|SOCIETY|SPECIAL|STOCK|STUDY|SUN|SUPERVISE|TEN|THREE|TWO|WATER|",
    "WOOD)|KOREAN CHARACTER (O HU|OJEON)|LATIN (CAPITAL|SMALL) LETTER (A|B|C|D|E|F|G|H|I|J|K|L|M|",
    "N|O|P|Q|R|S|T|U|V|W|X|Y|Z)|NUMBER (EIGHTEEN|ELEVEN|FIFTEEN|FOURTEEN|NINETEEN|SEVENTEEN|",
    "SIXTEEN|TEN|THIRTEEN|TWELVE|TWENTY))|PART ALTERNATION MARK|PARTIAL (DIFFERENTIAL|LINE ",
    "(BACKWARD|DOWN|FORWARD|UP))|PARTIALLY-RECYCLED PAPER SYMBOL|(PARTNERSHIP|PERCENT|PESETA|PESO|",
    "PILCROW|PLUS-MINUS|POUND|PROHIBITED) SIGN|PARTY POPPER|(PASSED|PASSIVE-PULL-DOWN-OUTPUT|",
    "PASSIVE-PULL-UP-OUTPUT|PEACE) SYMBOL|PASSENGER SHIP|PASSPORT CONTROL|PAU CIN HAU (GLOTTAL ",
    "STOP(| (FINAL|VARIANT))|LETTER (A|BA|CA|CHA|DA|E|FA|GA|HA|I|IA|KA|KHA|LA|MA|NA|NGA|O|PA|PHA|",
    "RA|SA|TA|THA|U|UA|VA|ZA|FINAL (K|L|M|N|NG|P|T|W|Y))|(LOW-FALLING|RISING) TONE(| (FINAL|LONG",
    "(| FINAL)))|MID-LEVEL TONE(| (FINAL|LONG FINAL))|SANDHI (GLOTTAL STOP(| FINAL)|TONE(| (FINAL|",
    "LONG(| FINAL)))))|PAW PRINTS|PEN OVER STAMPED ENVELOPE|PEOPLE HUGGING|PER (MILLE SIGN|SIGN|",
    "TEN THOUSAND SIGN)|PERFORMING ARTS|PERMANENT PAPER SIGN|PERPENDICULAR(| WITH S)|PERSON ",
    "(BOWING DEEPLY|CLIMBING|FROWNING|DOING CARTWHEEL|IN (LOTUS POSITION|STEAMY ROOM)|RAISING ",
    "BOTH HANDS IN CELEBRATION|WITH (BALL|CROWN|HEADSCARF|BLOND HAIR|FOLDED HANDS|POUTING FACE))|",
    "PERSONAL COMPUTER|PETRI DISH|PHAGS-PA ((DOUBLE|SINGLE) HEAD MARK|LETTER (A|BA|CA|CANDRABINDU|",
    "CHA|DA|DDA|DZA|E|EE|FA|GA|GGA|HA|I|JA|KA|KHA|LA|MA|NA|NGA|NNA|NYA|O|PA|PHA|QA|RA|SA|SHA|TA|",
    "THA|TSA|TSHA|TTA|TTHA|U|WA|XA|YA|ZA|ZHA|ALTERNATE YA|ASPIRATED FA|SMALL A|VOICED HA|",
    "VOICELESS SHA)|MARK (DOUBLE SHAD|SHAD)|SUBJOINED LETTER (RA|WA|YA)|SUPERFIXED LETTER RA)|",
    "PHAISTOS DISC SIGN (ARROW|BEE|BEEHIVE|BOOMERANG|BOW|CAPTIVE|CAT|CHILD|CLUB|COLUMN|COMB|",
    "DOLIUM|DOVE|EAGLE|FLUTE|GAUNTLET|GRATER|HELMET|HIDE|HORN|LID|LILY|MANACLES|MATTOCK|PAPYRUS|",
    "PEDESTRIAN|RAM|ROSETTE|SAW|SHIELD|SHIP|SLING|STRAINER|TIARA|TUNNY|VINE|WOMAN|BULLS LEG|",
    "CARPENTRY PLANE|COMBINING OBLIQUE STROKE|OX BACK|PLANE TREE|(PLUMED|TATTOOED) HEAD|SMALL AXE|",
    "WAVY BAND)|PHILIPPINE (DOUBLE|SINGLE) PUNCTUATION|PHOENICIAN (LETTER (AIN|ALF|BET|DELT|GAML|",
    "HE|HET|KAF|LAMD|MEM|NUN|PE|QOF|ROSH|SADE|SEMK|SHIN|TAU|TET|WAU|YOD|ZAI)|NUMBER (ONE(| ",
    "HUNDRED)|TEN|THREE|TWENTY|TWO)|WORD SEPARATOR)|PICKUP TRUCK|PIG(| (FACE|NOSE))|PILE OF POO|",
    "PINCHED FINGERS|PINCHING HAND|PINE DECORATION|PINWHEEL STAR|PITCHFORK(| WITH TEE TOP)|PLACE ",
    "OF (INTEREST SIGN|WORSHIP)|PLANCK CONSTANT(| OVER TWO PI)|PLAYGROUND SLIDE|PLAYING CARD ",
    "((ACE|EIGHT|FIVE|FOUR|JACK|KING|KNIGHT|NINE|QUEEN|SEVEN|SIX|TEN|THREE|TWO) OF (CLUBS|",
    "DIAMONDS|HEARTS|SPADES)|BACK|FOOL|(BLACK|RED|WHITE) JOKER|TRUMP-(1(|0|1|2|3|4|5|6|7|8|9)|2",
    "(|0|1)|3|4|5|6|7|8|9))|PLUS SIGN(| (ABOVE EQUALS SIGN|IN ((LEFT|RIGHT) HALF CIRCLE|TRIANGLE)|",
    "WITH (BLACK TRIANGLE|CIRCUMFLEX ACCENT ABOVE|DOT BELOW|SMALL CIRCLE ABOVE|SUBSCRIPT TWO|",
    "TILDE (ABOVE|BELOW))))|PLUTO(| FORM (FIVE|FOUR|THREE|TWO))|POCKET CALCULATOR|POLICE (CAR|",
    "OFFICER|CARS REVOLVING LIGHT)|POP DIRECTIONAL (FORMATTING|ISOLATE)|PORTABLE STEREO|POSITION ",
    "INDICATOR|POSTAL (HORN|MARK(| FACE))|POT OF FOOD|POTABLE WATER SYMBOL|POTTED PLANT|POULTRY ",
    "LEG|POURING LIQUID|POUTING (CAT FACE|FACE)|POWER ((ON|ON-OFF|SLEEP) SYMBOL|SYMBOL)|PRAYER ",
    "BEADS|PRECEDES(| (ABOVE (ALMOST EQUAL TO|EQUALS SIGN|NOT (ALMOST EQUAL TO|EQUAL TO)|",
    "SINGLE-LINE (EQUALS SIGN|NOT EQUAL TO))|BUT NOT EQUIVALENT TO|OR (EQUAL|EQUIVALENT) TO|UNDER ",
    "RELATION))|PREGNANT (MAN|PERSON|WOMAN)|PRESCRIPTION TAKE|PRESENTATION FORM FOR VERTICAL ",
    "(COLON|COMMA|SEMICOLON|(EM|EN) DASH|(EXCLAMATION|QUESTION) MARK|HORIZONTAL ELLIPSIS|",
    "IDEOGRAPHIC (COMMA|FULL STOP)|LEFT ((ANGLE|CORNER|CURLY|SQUARE) BRACKET|BLACK LENTICULAR ",
    "BRACKET|DOUBLE ANGLE BRACKET|PARENTHESIS|TORTOISE SHELL BRACKET|WHITE (CORNER|LENTICULAR) ",
    "BRACKET)|LOW LINE|RIGHT ((ANGLE|CORNER|CURLY|SQUARE) BRACKET|BLACK LENTICULAR BRACKET|DOUBLE ",
    "ANGLE BRACKET|PARENTHESIS|TORTOISE SHELL BRACKET|WHITE (CORNER BRACKET|LENTICULAR (BRACKET|",
    "BRAKCET)))|TWO DOT LEADER|WAVY LOW LINE)|PREVIOUS PAGE|PRINT SCREEN SYMBOL|PRINTER(| ICON)|",
    "PRIVACY MESSAGE|PRIVATE (USE (ONE|TWO)|USE-(1|2))|PROBING CANE|PROPERTY LINE|PROPORTIONAL TO|",
    "PSALTER PAHLAVI (FOUR DOTS WITH (CROSS|DOT)|LETTER (ALEPH|BETH|DALETH|GIMEL|HE|HETH|KAPH|",
    "LAMEDH|MEM-QOPH|NUN|PE|SADHE|SAMEKH|SHIN|TAW|WAW-AYIN-RESH|YODH|ZAYIN)|NUMBER (FOUR|TEN|",
    "THREE|TWENTY|TWO|ONE(| HUNDRED))|SECTION MARK|TURNED SECTION MARK)|PU(1|2)|PUBLIC ADDRESS ",
    "LOUDSPEAKER|PUNCTUATION SPACE|PUNCTUS ELEVATUS MARK|PURPLE HEART|PUT LITTER IN ITS PLACE ",
    "SYMBOL"]

/-- The names with the initial Q. -/
def initialQ : String :=
  String.join [
    "QUADRANT (LOWER (LEFT|RIGHT)|UPPER (LEFT(| AND (LOWER (LEFT AND LOWER RIGHT|RIGHT)|UPPER ",
    "RIGHT AND LOWER (LEFT|RIGHT)))|RIGHT(| AND LOWER LEFT(| AND LOWER RIGHT))))|QUADRUPLE ",
    "(INTEGRAL OPERATOR|PRIME)|QUARTER NOTE|QUATERNION INTEGRAL OPERATOR|QUESTION (EXCLAMATION ",
    "MARK|MARK)|QUESTIONED EQUAL TO|QUINCUNX|QUOTATION MARK"]

/-- The names with the initial R. -/
def initialR : String :=
  String.join [
    "RABBIT(| FACE)|RACCOON|RAIN|RAINBOW|RAM|RAT|RATIO|RAZOR|RECEIPT|RESPONSE|RESTROOM|RHINOCEROS|",
    "RI|RIFLE|RLE|RLI|RLM|RLO|ROCK|ROCKET|ROOSTER|ROSE|ROSETTE|ROWBOAT|RS|RULE-DELAYED|RUNNER|",
    "RACING (CAR|MOTORCYCLE)|RADICAL SYMBOL BOTTOM|RADIO(| BUTTON)|(RADIOACTIVE|REGISTERED|RIAL|",
    "RUBLE|RUPEE) SIGN|RAILWAY (CAR|TRACK)|RAISED (BACK OF HAND|COMMA|DOT|FIST|SQUARE|DOTTED ",
    "INTERPOLATION MARKER|HAND(| WITH (FINGERS SPLAYED|PART BETWEEN MIDDLE AND RING FINGERS))|",
    "INTERPOLATION MARKER|(MC|MD|MR) SIGN)|RECORD SEPARATOR|RECREATIONAL VEHICLE|RECYCLED PAPER ",
    "SYMBOL|RECYCLING SYMBOL FOR (GENERIC MATERIALS|TYPE-(1|2|3|4|5|6|7) PLASTICS)|RED (APPLE|",
    "GIFT ENVELOPE)|REFERENCE MARK|REGIONAL INDICATOR SYMBOL LETTER (A|B|C|D|E|F|G|H|I|J|K|L|M|N|",
    "O|P|Q|R|S|T|U|V|W|X|Y|Z)|REJANG (CONSONANT SIGN (H|N|NG|R)|LETTER (A|BA|CA|DA|GA|HA|JA|KA|LA|",
    "MA|MBA|NA|NDA|NGA|NGGA|NYA|NYJA|PA|RA|SA|TA|WA|YA)|SECTION MARK|VIRAMA|VOWEL SIGN (AI|AU|E|",
    "EA|EU|I|O|U))|(RELIEVED|ROBOT) FACE|REMINDER RIBBON|REPLACEMENT CHARACTER|RESTRICTED LEFT ",
    "ENTRY-(1|2)|RETURN (LEFT|RIGHT|SYMBOL)|REVERSE (CHECKER BOARD|INDEX|LIGHT FOUR POINTED ",
    "PINWHEEL STAR|LINE FEED|SOLIDUS(| (OPERATOR|PRECEDING SUBSET|WITH HORIZONTAL STROKE))|TILDE ",
    "OPERATOR ABOVE (LEFTWARDS|RIGHTWARDS) ARROW)|REVERSED (ANGLE(| WITH UNDERBAR)|COMMA|PRIME|",
    "SEMICOLON|DOUBLE (PRIME(| QUOTATION MARK)|STROKE NOT SIGN)|EMPTY SET|FORKED PARAGRAPHOS|HAND ",
    "WITH MIDDLE FINGER EXTENDED|(NOT|PILCROW) SIGN|QUESTION MARK|RAISED HAND WITH FINGERS ",
    "SPLAYED|RIGHT ANGLE|ROTATED FLORAL HEART BULLET|SANS-SERIF CAPITAL L|THUMBS (DOWN|UP) SIGN|",
    "TILDE(| EQUALS)|TRIPLE PRIME|VICTORY HAND)|REVOLVING HEARTS|RIBBON(| ARROW ((DOWN|UP) (LEFT|",
    "RIGHT)|(LEFT|RIGHT) (DOWN|UP)))|RICE (BALL|CRACKER)|RIGHT (AND (LOWER|UPPER) ONE EIGHTH ",
    "BLOCK|(ANGER|SPEECH|THOUGHT) BUBBLE|ANGLE(| (BRACKET(| WITH DOT)|DOTTED SUBSTITUTION MARKER|",
    "SUBSTITUTION MARKER|VARIANT WITH SQUARE|WITH (ARC|DOWNWARDS ZIGZAG ARROW)))|ARC GREATER-THAN ",
    "BRACKET|ARROW WITH (CIRCLED PLUS|SMALL CIRCLE)|BLACK (LENTICULAR BRACKET|TORTOISE SHELL ",
    "BRACKET)|CEILING|FLOOR|TACK|(CORNER|SUBSTITUTION|TRANSPOSITION) BRACKET|CURLY BRACKET(| ",
    "((LOWER|UPPER) HOOK|MIDDLE PIECE))|DOTTED SUBSTITUTION BRACKET|DOUBLE (ANGLE BRACKET|ARROW ",
    "WITH ROUNDED HEAD|PARENTHESIS|QUOTATION MARK|WIGGLY FENCE)|FISH TAIL|(FIVE|SEVEN) EIGHTHS ",
    "BLOCK|HALF (BLACK (CIRCLE|STAR)|BLOCK|FOLDER|MEDIUM SHADE|RUNNING MAN)|HAND TELEPHONE ",
    "RECEIVER|LOW PARAPHRASE BRACKET|NORMAL FACTOR SEMIDIRECT PRODUCT|ONE (EIGHTH|QUARTER) BLOCK|",
    "OPEN SQUARED DOT|OUTER JOIN|PARENTHESIS(| (EXTENSION|(LOWER|UPPER) HOOK))|RAISED OMISSION ",
    "BRACKET|S-SHAPED BAG DELIMITER|SEMIDIRECT PRODUCT|SIDEWAYS U BRACKET|SINGLE QUOTATION MARK|",
    "SPEAKER(| WITH (ONE SOUND WAVE|THREE SOUND WAVES))|SQUARE BRACKET(| (EXTENSION|(LOWER|UPPER) ",
    "CORNER|WITH (DOUBLE STROKE|QUILL|STROKE|UNDERBAR|TICK IN (BOTTOM|TOP) CORNER)))|THIRD WHITE ",
    "RIGHT POINTING INDEX|THREE (EIGHTHS|QUARTERS) BLOCK|TORTOISE SHELL BRACKET|TRIANGLE(| ABOVE ",
    "LEFT TRIANGLE)|TRIANGULAR ONE QUARTER BLOCK|VERTICAL (BAR WITH QUILL|BOX LINE)|WHITE ",
    "((CORNER|CURLY|LENTICULAR|SQUARE) BRACKET|PARENTHESIS|TORTOISE SHELL BRACKET)|WIGGLY FENCE)|",
    "RIGHT-FACING (ARMENIAN ETERNITY SIGN|FIST|SVASTI SIGN(| WITH DOTS))|RIGHT-HANDED INTERLACED ",
    "PENTAGRAM|RIGHT-POINTING (ANGLE BRACKET|CURVED ANGLE BRACKET|DOUBLE ANGLE QUOTATION MARK|",
    "MAGNIFYING GLASS)|RIGHT-SHADED WHITE RIGHTWARDS ARROW|RIGHT-SIDE ARC CLOCKWISE ARROW|",
    "RIGHT-TO-LEFT (EMBEDDING|ISOLATE|MARK|OVERRIDE)|RIGHTHAND INTERIOR PRODUCT|RIGHTWARDS (ARROW",
    "(| (ABOVE (ALMOST EQUAL TO|REVERSE (ALMOST EQUAL TO|TILDE OPERATOR)|SHORT LEFTWARDS ARROW|",
    "TILDE OPERATOR)|AND UPPER AND LOWER ONE EIGHTH BLOCK|FROM BAR(| TO BLACK DIAMOND)|OVER ",
    "LEFTWARDS ARROW|THROUGH (GREATER-THAN|SUPERSET|X)|TO (BAR|BLACK DIAMOND)|WITH (CORNER ",
    "DOWNWARDS|DOTTED STEM|DOUBLE VERTICAL STROKE|EQUILATERAL ARROWHEAD|HOOK|LOOP|STROKE|(LARGE|",
    "MEDIUM) TRIANGLE ARROWHEAD|NOTCHED TAIL|PLUS BELOW|SMALL (EQUILATERAL|TRIANGLE) ARROWHEAD|",
    "TAIL(| WITH (DOUBLE VERTICAL STROKE|VERTICAL STROKE))|TIP (DOWNWARDS|UPWARDS)|VERTICAL ",
    "STROKE)))|ARROW-TAIL|HAND|ROCKET|(BACK-TILTED|FRONT-TILTED) SHADOWED WHITE ARROW|BLACK ",
    "(ARROW|CIRCLED WHITE ARROW)|(BOTTOM|TOP) SHADED WHITE ARROW|(COMPRESSED|DASHED|FINGER-POST|",
    "OPEN-HEADED|QUADRUPLE|SANS-SERIF|SQUARED|SQUIGGLE|WAVE) ARROW|DOUBLE (ARROW(| (FROM BAR|WITH ",
    "(STROKE|VERTICAL STROKE)))|ARROW-TAIL|DASH ARROW)|HARPOON (OVER LEFTWARDS HARPOON|WITH BARB ",
    "(DOWN (ABOVE LEFTWARDS HARPOON WITH BARB DOWN|BELOW LONG DASH|(FROM|TO) BAR)|DOWNWARDS|",
    "UPWARDS|UP (ABOVE (LEFTWARDS HARPOON WITH BARB UP|LONG DASH|RIGHTWARDS HARPOON WITH BARB ",
    "DOWN)|(FROM|TO) BAR)))|HEAVY (ARROW|COMPRESSED ARROW)|(LEFT-SHADED|RIGHT-SHADED) WHITE ARROW|",
    "PAIRED ARROWS|TRIANGLE ARROWHEAD|TRIANGLE-HEADED (ARROW(| (OVER LEFTWARDS TRIANGLE-HEADED ",
    "ARROW|TO BAR|WITH ((BOLD|HEAVY|MEDIUM|NARROW) SHAFT|DOUBLE (HORIZONTAL|VERTICAL) STROKE|LONG ",
    "TIP (DOWNWARDS|UPWARDS)|VERY HEAVY SHAFT)))|DASHED ARROW|PAIRED ARROWS)|TRIPLE (ARROW|DASH ",
    "ARROW)|TWO HEADED ARROW|TWO-HEADED (ARROW (FROM BAR|WITH (DOUBLE VERTICAL STROKE|TAIL(| WITH ",
    "(DOUBLE VERTICAL STROKE|VERTICAL STROKE))|TRIANGLE ARROWHEADS|VERTICAL STROKE))|TRIPLE DASH ",
    "ARROW)|WHITE ARROW(| (FROM WALL|WITHIN TRIANGLE ARROWHEAD)))|RING(| (ABOVE|BUOY|OPERATOR|",
    "POINT|EQUAL TO|IN EQUAL TO))|RINGED PLANET|RINGING BELL|RISING DIAGONAL CROSSING (FALLING ",
    "DIAGONAL|SOUTH EAST ARROW)|ROASTED SWEET POTATO|ROLL OF PAPER|ROLLED-UP NEWSPAPER|ROLLER ",
    "(COASTER|SKATE)|ROLLING ON THE FLOOR LAUGHING|ROMAN ((AS|CENTURIAL|DENARIUS|DUPONDIUS|",
    "QUINARIUS|SEMUNCIA|SESTERTIUS|SEXTANS|SEXTULA|SILIQUA|UNCIA) SIGN|DIMIDIA SEXTULA SIGN|",
    "NUMERAL (EIGHT|ELEVEN|FOUR|NINE|SEVEN|THREE|TWELVE|TWO|FIFTY(| (EARLY FORM|THOUSAND))|FIVE(| ",
    "(HUNDRED|THOUSAND))|ONE(| (HUNDRED(| THOUSAND)|THOUSAND(| C D)))|REVERSED ONE HUNDRED|SIX(| ",
    "LATE FORM)|TEN(| THOUSAND)))|ROTATED (CAPITAL Q|FLORAL HEART BULLET|HEAVY BLACK HEART BULLET|",
    "LIGHT FOUR POINTED BLACK CUSP|WHITE FOUR POINTED CUSP)|ROUND (PUSHPIN|TARGET)|ROUNDED SYMBOL ",
    "FOR (CAI|FU|LU|SHOU|SHUANGXI|XI)|RUGBY FOOTBALL|RUMI (DIGIT (EIGHT|FIVE|FOUR|NINE|ONE|SEVEN|",
    "SIX|THREE|TWO)|FRACTION (ONE (HALF|QUARTER|THIRD)|TWO THIRDS)|NUMBER ((EIGHT|FIVE|FOUR|NINE|",
    "ONE|SEVEN|SIX|THREE|TWO) HUNDRED|EIGHTY|FIFTY|FORTY|NINETY|SEVENTY|SIXTY|TEN|THIRTY|TWENTY))|",
    "RUNIC ((ARLAUG|BELGTHOR|TVIMADUR) SYMBOL|(CROSS|MULTIPLE|SINGLE) PUNCTUATION|LETTER ((AC|",
    "ANSUZ|SHORT-TWIG-AR) A|AESC|C|CALC|CEALC|CEN|CWEORTH|D|DOTTED-L|DOTTED-N|DOTTED-P|E|EAR|ENG|",
    "ETH|G|GAR|GER|ICELANDIC-YR|ING|INGWAZ|IOR|K|KAUNA|LONG-BRANCH-YR|O|OE|ON|OO|OPEN-P|Q|SH|",
    "SHORT-TWIG-YR|STAN|V|W|X|Y|YR|Z|ALGIZ EOLHX|BERKANAN BEORC BJARKAN B|DAGAZ DAEG D|EHWAZ EH E|",
    "FEHU FEOH FE F|FRANKS CASKET (AC|AESC|EH|IS|OS)|GEBO GYFU G|(HAEGL|HAGLAZ|LONG-BRANCH-HAGALL|",
    "SHORT-TWIG-HAGALL) H|ISAZ IS ISS I|IWAZ EOH|JERAN J|KAUN K|LAUKAZ LAGU LOGR L|LONG-BRANCH-AR ",
    "AE|(LONG-BRANCH-MADR|SHORT-TWIG-MADR) M|(LONG-BRANCH-OSS|OS|SHORT-TWIG-OSS) O|MANNAZ MAN M|",
    "NAUDIZ NYD NAUD N|OTHALAN ETHEL O|PERTHO PEORTH P|RAIDO RAD REID R|SHORT-TWIG-BJARKAN B|",
    "SHORT-TWIG-NAUD N|(SHORT-TWIG-SOL|SOWILO) S|SHORT-TWIG-TYR T|SIGEL LONG-BRANCH-SOL S|",
    "THURISAZ THURS THORN|TIWAZ TIR TYR T|URUZ UR U|WUNJO WYNN W))|RUNNING SHIRT WITH SASH|",
    "RUSSIAN ASTROLOGICAL SYMBOL (BINOVILE|NOVILE|QUINTILE|SENTAGON|TREDECILE|VIGINTILE)"]

end GraphBind.Text.CharacterName
