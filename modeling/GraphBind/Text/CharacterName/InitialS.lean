/-!
# Character names with the initial S

The names of characters that begin with the letter S, as a pattern.
-/

namespace GraphBind.Text.CharacterName

/-- The names with the initial S. -/
def initialS : String :=
  String.join [
    "S IN TRIANGLE|SAFETY (PIN|VEST)|SAGITTARIUS|SAILBOAT|SALTIRE|SANDWICH|SARI|SATURN|SAUROPOD|",
    "SAXOPHONE|SCALES|SCARF|SCI|SCOOTER|SCORPION|SCORPIUS|SCREEN|SCREWDRIVER|SCROLL|SCRUPLE|SEAL|",
    "SEAT|SECTOR|SEDNA|SEEDLING|SEGMENT|SELFIE|SEMICOLON|SEMISEXTILE|SESQUIQUADRATE|SEXTILE|SGC|",
    "SHAMROCK|SHARK|SHEEP|SHIELD|SHIP|SHORTCAKE|SHORTS|SHOWER|SHRIMP|SHRUG|SHY|SI|SKATEBOARD|",
    "SKIER|SKUNK|SLED|SLOPE|SLOTH|SMILE|SNAIL|SNAKE|SNOWBOARDER|SNOWFLAKE|SO|SOCKS|SOFTBALL|SOH|",
    "SOS|SP|SPA|SPACE|SPAGHETTI|SPARKLE|SPARKLES|SPEEDBOAT|SPONGE|SPOON|SQUID|SSA|ST|STADIUM|",
    "STATION|STETHOSCOPE|STOPWATCH|STRAIGHTNESS|STRAWBERRY|STS|STUPA|STX|SUB|SUBSTITUTE|SUNFLOWER|",
    "SUPERHERO|SUPERVILLAIN|SURFER|SUSHI|SWAN|SWIMMER|SYMMETRY|SYN|SYNAGOGUE|SYRINGE|SAKE BOTTLE ",
    "AND CUP|SALT SHAKER|(SALUTING|SLEEPY|SMIRKING|SNEEZING) FACE|SAMARITAN (ABBREVIATION MARK|",
    "LETTER (ALAF|BAA|BIT|DALAT|FI|GAMAN|IN|IT|IY|KAAF|LABAT|MIM|NUN|QUF|RISH|SHAN|SINGAAT|TAAF|",
    "TIT|TSAADIY|YUT|ZEN)|MARK (DAGESH|IN|IN-ALAF|NEQUDAA|OCCLUSION|EPENTHETIC YUT)|MODIFIER ",
    "LETTER (EPENTHETIC YUT|I|SHORT A)|PUNCTUATION (AFSAAQ|ANGED|ANNAAU|ARKAANU|ATMAAU|BAU|",
    "NEQUDAA|QITSA|SHIYYAALAA|TURU|ZAEF|ZIQAA|MELODIC QITSA|SOF MASHFAAT)|VOWEL SIGN (A|AA|E|I|O|",
    "SUKUN|U|LONG (A|AA|E|I|U)|OVERLONG (A|AA)|SHORT A))|SANS-SERIF (HEAVY (DOUBLE (COMMA ",
    "QUOTATION MARK ORNAMENT|TURNED COMMA QUOTATION MARK ORNAMENT)|LOW DOUBLE COMMA QUOTATION ",
    "MARK ORNAMENT)|INTERROBANG ORNAMENT)|SATELLITE(| ANTENNA)|SAURASHTRA (CONSONANT SIGN HAARU|",
    "DANDA|DIGIT (EIGHT|FIVE|FOUR|NINE|ONE|SEVEN|SIX|THREE|TWO|ZERO)|DOUBLE DANDA|LETTER (A|AA|AI|",
    "AU|BA|BHA|CA|CHA|DA|DDA|DDHA|DHA|E|EE|GA|GHA|HA|I|II|JA|JHA|KA|KHA|LA|LLA|MA|NA|NGA|NNA|NYA|",
    "O|OO|PA|PHA|RA|SA|SHA|SSA|TA|THA|TTA|TTHA|U|UU|VA|YA|VOCALIC (L|LL|R|RR))|SIGN (ANUSVARA|",
    "CANDRABINDU|VIRAMA|VISARGA)|VOWEL SIGN (AA|AI|AU|E|EE|I|II|O|OO|U|UU|VOCALIC (L|LL|R|RR)))|",
    "SCHOOL(| SATCHEL)|SCRIPT (CAPITAL (B|E|F|H|I|L|M|P|R)|LIGATURE ET ORNAMENT|SMALL (E|G|L|O))|",
    "SECOND PLACE MEDAL|(SECTION|SOM|SPESMILO) SIGN|(SEE-NO-EVIL|SPEAK-NO-EVIL) MONKEY|SEGMENTED ",
    "DIGIT (EIGHT|FIVE|FOUR|NINE|ONE|SEVEN|SIX|THREE|TWO|ZERO)|SEMIDIRECT PRODUCT WITH BOTTOM ",
    "CLOSED|(SEPARATED|SMOKING|SOFTWARE-FUNCTION) SYMBOL|SERIOUS FACE WITH SYMBOLS COVERING MOUTH|",
    "SERVICE MARK|SESAME DOT|SET (MINUS|TRANSMIT STATE)|SEWING NEEDLE|SHADOWED WHITE (CIRCLE|STAR|",
    "LATIN CROSS)|SHALLOW PAN OF FOOD|SHARADA ((ABBREVIATION|CONTINUATION) SIGN|DANDA|EKAM|",
    "HEADSTROKE|OM|SEPARATOR|DIGIT (EIGHT|FIVE|FOUR|NINE|ONE|SEVEN|SIX|THREE|TWO|ZERO)|DOUBLE ",
    "DANDA|EXTRA SHORT VOWEL MARK|LETTER (A|AA|AI|AU|BA|BHA|CA|CHA|DA|DDA|DDHA|DHA|E|GA|GHA|HA|I|",
    "II|JA|JHA|KA|KHA|LA|LLA|MA|NA|NGA|NNA|NYA|O|PA|PHA|RA|SA|SHA|SSA|TA|THA|TTA|TTHA|U|UU|VA|YA|",
    "VOCALIC (L|LL|R|RR))|(SANDHI|SUTRA) MARK|SECTION MARK-(1|2)|SIGN (ANUSVARA|AVAGRAHA|",
    "CANDRABINDU|JIHVAMULIYA|NUKTA|SIDDHAM|UPADHMANIYA|VIRAMA|VISARGA|INVERTED CANDRABINDU)|VOWEL ",
    "(MODIFIER MARK|SIGN (AA|AI|AU|E|I|II|O|U|UU|PRISHTHAMATRA E|VOCALIC (L|LL|R|RR))))|SHAVED ",
    "ICE|SHAVIAN LETTER (ADO|AGE|AH|AIR|ARE|ARRAY|ASH|AWE|BIB|CHURCH|DEAD|EAR|EAT|EGG|ERR|FEE|GAG|",
    "HA-HA|HUNG|IAN|ICE|IF|JUDGE|KICK|LOLL|MEASURE|MIME|NUN|OAK|OIL|ON|OOZE|OR|OUT|PEEP|ROAR|SO|",
    "SURE|THEY|THIGH|TOT|UP|VOW|WOE|WOOL|YEA|YEW|ZOO)|SHIFT (IN|OUT)|SHINTO SHRINE|SHOCKED FACE ",
    "WITH EXPLODING HEAD|SHOOTING STAR|SHOPPING (BAGS|TROLLEY)|SHORT (BACKSLANTED SOUTH ARROW|",
    "BENT ARROW POINTING DOWNWARDS THEN NORTH EAST|DOWN TACK(| WITH OVERBAR)|LEFT TACK|RIGHTWARDS ",
    "ARROW ABOVE LEFTWARDS ARROW|SLANTED NORTH ARROW|UP TACK(| (ABOVE SHORT DOWN TACK|WITH ",
    "UNDERBAR)))|SHORTHAND FORMAT ((CONTINUING|LETTER) OVERLAP|(DOWN|UP) STEP)|SHOULDERED OPEN ",
    "BOX|(SHUFFLE|SMASH) PRODUCT|SIDDHAM (DANDA|DOUBLE DANDA|END OF TEXT MARK|LETTER (A|AA|AI|AU|",
    "BA|BHA|CA|CHA|DA|DDA|DDHA|DHA|E|GA|GHA|HA|I|II|JA|JHA|KA|KHA|LA|MA|NA|NGA|NNA|NYA|O|PA|PHA|",
    "RA|SA|SHA|SSA|TA|THA|TTA|TTHA|U|UU|VA|YA|ALTERNATE U|THREE-CIRCLE ALTERNATE I|TWO-CIRCLE ",
    "ALTERNATE (I|II)|VOCALIC (L|LL|R|RR))|REPETITION MARK-(1|2|3)|SECTION MARK (DOUBLE RING(| ",
    "WITH RAYS)|WITH (CIRCLES AND ((FOUR|TWO) ENCLOSURES|RAYS)|(DOUBLE|QUADRUPLE|SEPTUPLE|TRIPLE) ",
    "CRESCENTS|RAYS AND DOTTED (CRESCENTS|(DOUBLE|TRIPLE) CRESCENTS)|TRIDENT AND (DOTTED ",
    "CRESCENTS|U-SHAPED ORNAMENTS)))|SEPARATOR (BAR|DOT)|SIGN (ANUSVARA|CANDRABINDU|NUKTA|SIDDHAM|",
    "VIRAMA|VISARGA)|VOWEL SIGN (AA|AI|AU|E|I|II|O|U|UU|ALTERNATE (U|UU)|VOCALIC (R|RR)))|",
    "SIDEWAYS (BLACK|WHITE) (DOWN|LEFT|RIGHT|UP) POINTING INDEX|SIGN OF THE HORNS|SIGNWRITING ",
    "(AIR ((BLOW|SUCK) SMALL ROTATIONS|BLOWING OUT|SUCKING IN)|BREATH (EXHALE|INHALE)|(BRUSH|",
    "GRASP|RUB|STRIKE|TOUCH) (BETWEEN|MULTIPLE|SINGLE)|CHEEKS (NEUTRAL|PUFFED|SUCKED)|COLON|COMMA|",
    "EARS|EXCITEMENT|FINGER|HAIR|NECK|PARENTHESIS|SEMICOLON|DREAMY EYEBROWS ((DOWN|UP) NEUTRAL|",
    "NEUTRAL (DOWN|UP))|DYNAMIC (ARROWHEAD (LARGE|SMALL)|EVERY OTHER TIME|FAST|GRADUAL|RELAXED|",
    "SLOW|TENSE|SIMULTANEOUS(| ALTERNATING))|EYE (BLINK (MULTIPLE|SINGLE)|WINK)|EYEBROWS STRAIGHT ",
    "(DOWN|NEUTRAL|UP)|EYEGAZE-FLOORPLANE (CURVED|STRAIGHT(| (ALTERNATING|DOUBLE)))|",
    "EYEGAZE-WALLPLANE (CIRCLING|CURVED|STRAIGHT(| (ALTERNATING|DOUBLE)))|EYELASHES (DOWN|",
    "FLUTTERING|UP)|EYES (CLOSED|OPEN|SQUEEZED|HALF (CLOSED|OPEN)|WIDE OPEN|WIDENING MOVEMENT)|",
    "FACE DIRECTION POSITION NOSE (FORWARD TILTING|UP OR DOWN(| TILTING))|FILL MODIFIER-(2|3|4|5|",
    "6)|FLICK ((LARGE|SMALL) (MULTIPLE|SINGLE)|SEQUENTIAL)|(FLOORPLANE|WALLPLANE) SHOULDER HIP ",
    "MOVE|FOREHEAD (CONTACT|NEUTRAL|WRINKLED)|FULL STOP|HAND-ANGLE(| (INDEX(| (MIDDLE (LITTLE|",
    "RING)|RING LITTLE(| OUT)|THUMB(| (IN|OUT))))|LITTLE (INDEX(| THUMB INDEX THUMB(| OUT))|UP)|",
    "MIDDLE RING LITTLE(| (IN|OUT))|RING (DOWN MIDDLE THUMB INDEX CROSS|LITTLE)))|HAND-CIRCLE(| ",
    "(INDEX(| (BENT|HINGE|MIDDLE(| (CROSS LITTLE|CROSSED|LITTLE|RING|THUMB))|RING LITTLE))|LITTLE ",
    "(INDEX|UP)|MIDDLE (RING LITTLE(| BENT)|UP)|RING LITTLE))|HAND-CLAW(| (FOUR FINGERS CONJOINED|",
    "INDEX THUMB CURVE THUMB INSIDE|MIDDLE RING LITTLE CONJOINED(| SIDE)|NO THUMB|THUMB (FORWARD|",
    "SIDE)))|HAND-CUP(| (FIVE FINGERS SPREAD(| OPEN)|INDEX(| (RING LITTLE|THUMB(| OPEN)))|MIDDLE ",
    "RING LITTLE|NO THUMB|OPEN(| (NO THUMB|THUMB (FORWARD|SIDE)))|THUMB (FORWARD|SIDE)))|",
    "HAND-CURLICUE(| ((INDEX|MIDDLE) RING LITTLE ON|OPEN))|HAND-FIST(| (FOUR FINGERS CONJOINED ",
    "BENT|HEEL|INDEX(| (BENT(| OVER MIDDLE)|CUPPED|HINGED(| (LOW|MIDDLE UP(| THUMB SIDE)))|MIDDLE",
    "(| (BENT(| THUMB STRAIGHT)|CONJOINED(| (CUPPED(| THUMB FORWARD)|HINGED(| THUMB SIDE)|(INDEX|",
    "MIDDLE) BENT|THUMB (FORWARD|SIDE(| (BENT|CONJOINED)))))|CROSS LITTLE|CROSSED(| THUMB SIDE)|",
    "HINGED(| SPREAD THUMB SIDE)|LITTLE|RAISED KNUCKLES|RING(| (BENT|CONJOINED))|STRAIGHT THUMB ",
    "BENT|THUMB(| (ANGLED(| OUT)|BENT|CIRCLED|CUPPED|HINGED|HOOKED|CONJOINED HINGED))|UP SPREAD ",
    "THUMB FORWARD))|RAISED KNUCKLE|RING LITTLE|THUMB (ANGLED (IN|OUT) MIDDLE UP|CIRCLE|CURLICUE|",
    "HOOK|(CIRCLED|CUPPED) MIDDLE UP|CURVE THUMB (INSIDE|UNDER)|FORWARD INDEX (BENT|STRAIGHT)|",
    "HOOKED MIDDLE (HINGED|UP)|SIDE(| (BOTH BENT|INDEX (BENT|HINGE)|THUMB (BENT|CONJOINED|",
    "DIAGONAL))))|UP MIDDLE HINGED(| THUMB (CONJOINED|SIDE))))|LITTLE (BENT|THUMB|UP|DOWN(| ",
    "(OTHERS CIRCLED|RIPPLE (CURVED|STRAIGHT)))|INDEX(| THUMB)|RAISED KNUCKLE|TOUCHES THUMB)|",
    "MIDDLE (BENT OVER INDEX|DOWN|LITTLE|RAISED KNUCKLE|RING LITTLE|THUMB (ANGLED (INDEX UP|OUT ",
    "INDEX (CROSSED|UP))|CIRCLED INDEX (HINGED|UP)|(CUPPED|HOOKED) INDEX UP|LITTLE)|UP(| THUMB ",
    "SIDE))|RING (DOWN|INDEX|LITTLE|THUMB|UP|MIDDLE(| (CONJOINED|RAISED KNUCKLES))|RAISED ",
    "KNUCKLE)|THUMB(| (BETWEEN (INDEX MIDDLE(| STRAIGHT)|MIDDLE RING|RING LITTLE)|FORWARD|HEEL|",
    "OVER (FOUR RAISED KNUCKLES|TWO FINGERS)|SIDE (BENT|CONJOINED|DIAGONAL)|UNDER ((FOUR|THREE|",
    "TWO) FINGERS|INDEX BENT|LITTLE UP)))))|HAND-FLAT(| (BETWEEN PALM FACINGS|FIVE FINGERS SPREAD",
    "(| (BENT|FOUR BENT|HINGED(| (NO THUMB|THUMB SIDE))|THUMB FORWARD))|FOUR FINGERS(| (BENT|",
    "HINGED|CONJOINED(| SPLIT)))|HEEL(| (FIVE FINGERS SPREAD(| (BENT|FOUR BENT))|THUMB SIDE))|",
    "SPLIT (CENTRE(| THUMB SIDE(| BENT))|INDEX THUMB SIDE|LITTLE)|THUMB (BENT|FORWARD|SIDE)))|",
    "HAND-HINGE(| (FIVE FINGERS SPREAD OPEN|FOUR FINGERS CONJOINED|INDEX(| (HINGED|MIDDLE (LITTLE|",
    "RING(| CONJOINED))|RING LITTLE|THUMB(| (LARGE|OPEN|SIDE|SMALL))))|LITTLE(| (INDEX(| THUMB)|",
    "THUMB))|MIDDLE(| RING LITTLE)|NO THUMB|OPEN(| (NO THUMB|THUMB (FORWARD|SIDE)))|RING(| DOWN ",
    "INDEX THUMB HOOK MIDDLE)|SMALL|THUMB (BETWEEN MIDDLE RING|SIDE(| TOUCHING INDEX))))|HAND-HOOK",
    "(| (CURLICUE|INDEX RING LITTLE (IN|OUT|UNDER)|MIDDLE (RING LITTLE CONJOINED(| (IN|OUT))|",
    "THUMB)|RING THUMB))|HAND-OVAL(| (FIVE FINGERS SPREAD|INDEX|LITTLE UP|NO THUMB|RING LITTLE|",
    "THUMB (FORWARD|SIDE)))|HEAD(| (MOVEMENT CIRCLE|MOVEMENT-FLOORPLANE (CURVE|STRAIGHT)|",
    "MOVEMENT-WALLPLANE (CURVE|STRAIGHT|TILT)|RIM))|LIMB (COMBINATION|LENGTH-(1|2|3|4|5|6|7))|LIP ",
    "(LOWER OVER UPPER|UPPER OVER LOWER)|LIPS PRESSED TOGETHER|LOCATION (DEPTH|HEIGHT|TORSO|WIDTH|",
    "HEAD NECK|LIMBS DIGITS)|(LOCATION-FLOORPLANE|LOCATION-WALLPLANE) SPACE|MOUTH (CLOSED ",
    "(CONTACT|FORWARD|NEUTRAL)|CORNERS|(FROWN|SMILE)(| (OPEN|WRINKLED))|KISS(| (FORWARD|",
    "WRINKLED))|OPEN (CIRCLE|FORWARD|WRINKLED|(OVAL|RECTANGLE)(| (WRINKLED|YAWN)))|TENSE(| ",
    "(FORWARD|SUCKED))|WRINKLES (DOUBLE|SINGLE))|MOVEMENT-DIAGONAL ((AWAY|TOWARDS) (LARGE|LARGEST|",
    "MEDIUM|SMALL)|BETWEEN (AWAY|TOWARDS) (LARGE|LARGEST|MEDIUM|SMALL))|MOVEMENT-FLOORPLANE (ARM ",
    "CIRCLE HITTING WALL (LARGE|MEDIUM|SMALL) (DOUBLE|SINGLE)|BEND|CHECK|CROSS|JAW|(BOX|CORNER|",
    "PEAKS|ZIGZAG) (LARGE|MEDIUM|SMALL)|CURVE (COMBINED|LARGE|LARGEST|MEDIUM|SMALL|HITTING ",
    "(CEILING|FLOOR) (LARGE|SMALL))|DOUBLE (ALTERNATING(| WRIST FLEX)|STRAIGHT|WRIST FLEX)|FINGER ",
    "(CIRCLES HITTING WALL (DOUBLE|SINGLE)|CONTACT)|HUMP (HITTING (CEILING (LARGE|SMALL) (DOUBLE|",
    "TRIPLE)|FLOOR ((LARGE|SMALL) DOUBLE|TRIPLE (LARGE|SMALL) TRIPLE))|SMALL)|LOOP (HITTING ",
    "(CEILING|FLOOR) (LARGE|SMALL) (DOUBLE|SINGLE)|SMALL)|SHAKING PARALLEL|SINGLE (STRAIGHT ",
    "(LARGE|LARGEST|MEDIUM|SMALL)|WRIST FLEX)|TRIPLE (ALTERNATING (MOVEMENT|WRIST FLEX)|STRAIGHT ",
    "MOVEMENT|WRIST FLEX)|WAVE (HITTING (CEILING|FLOOR) (LARGE|SMALL)|LARGE|SMALL|SNAKE)|WRIST ",
    "CIRCLE HITTING WALL (DOUBLE|SINGLE))|MOVEMENT-HINGE (DOWN SEQUENTIAL|SIDE TO SIDE SCISSORS|",
    "UP (DOWN (ALTERNATING (LARGE|SMALL)|LARGE|SMALL)|SEQUENTIAL))|MOVEMENT-WALLPLANE (ARM CIRCLE ",
    "(MEDIUM|SMALL) (DOUBLE|SINGLE)|(BEND|BOX|CHECK|PEAKS|ZIGZAG) (LARGE|MEDIUM|SMALL)|CORNER ",
    "(LARGE|MEDIUM|ROTATION|SMALL)|CROSS|JAW|SHAKING|CURVE ((HALF-CIRCLE|QUARTER) (LARGE|LARGEST|",
    "MEDIUM|SMALL)|HITTING (CHEST|FRONT WALL)|THEN STRAIGHT|THREE-QUARTER CIRCLE (MEDIUM|SMALL))|",
    "CURVED CROSS (MEDIUM|SMALL)|DOUBLE (ALTERNATING(| WRIST FLEX)|STRAIGHT|WRIST FLEX)|FINGER ",
    "(CIRCLES (DOUBLE|SINGLE)|CONTACT)|HUMP (HITTING (CHEST|FRONT WALL)|LARGE|MEDIUM|SMALL)|LOOP ",
    "(HITTING (CHEST|FRONT WALL)|LARGE|MEDIUM|SMALL(| DOUBLE))|SINGLE (STRAIGHT (LARGE|LARGEST|",
    "MEDIUM|SMALL)|WRIST FLEX)|TRIPLE (ALTERNATING(| WRIST FLEX)|STRAIGHT MOVEMENT|WRIST FLEX)|",
    "WAVE (CURVE (DOUBLE|TRIPLE) (LARGE|MEDIUM|SMALL)|DIAGONAL PATH (LARGE|MEDIUM|SMALL)|HITTING ",
    "(CHEST|FRONT WALL))|WRIST CIRCLE FRONT (DOUBLE|SINGLE))|NOSE (CONTACT|NEUTRAL|WIGGLES|",
    "WRINKLES)|ROTATION MODIFIER-(1(0|1|2|3|4|5|6)|2|3|4|5|6|7|8|9)|ROTATION-FLOORPLANE ",
    "(ALTERNATING|DOUBLE|SINGLE)(| HITTING (CEILING|FLOOR))|ROTATION-WALLPLANE (ALTERNATE|",
    "ALTERNATING HITTING (CHEST|FRONT WALL)|(DOUBLE|SINGLE)(| HITTING (CHEST|FRONT WALL)))|",
    "SHOULDER (HIP (POSITIONS|SPINE)|TILTING FROM WAIST)|SQUEEZE (FLICK ALTERNATING|(LARGE|SMALL) ",
    "(MULTIPLE|SINGLE)|SEQUENTIAL)|SURFACE (BETWEEN|SYMBOLS)|TEETH(| (BITE LIPS|MOVEMENT|ON (LIPS|",
    "TONGUE)(| MOVEMENT)))|TENSE CHEEKS (HIGH|LOW|MIDDLE)|TONGUE (CENTRE (INSIDE MOUTH|STICKING ",
    "OUT)|INSIDE MOUTH RELAXED|LICKING LIPS|MOVES AGAINST CHEEK|STICKING OUT FAR|TIP (BETWEEN ",
    "LIPS|TOUCHING INSIDE MOUTH))|TORSO-FLOORPLANE TWISTING|TORSO-WALLPLANE (CURVED BEND|STRAIGHT ",
    "STRETCH)|TRAVEL-FLOORPLANE ((ROTATION-FLOORPLANE|ROTATION-WALLPLANE) (ALTERNATING|DOUBLE|",
    "SINGLE)|SHAKING)|TRAVEL-WALLPLANE (ARM SPIRAL (DOUBLE|SINGLE|TRIPLE)|(ROTATION-FLOORPLANE|",
    "ROTATION-WALLPLANE) (ALTERNATING|DOUBLE|SINGLE)|SHAKING)|UPPER BODY TILTING FROM HIP JOINTS)|",
    "SILHOUETTE OF JAPAN|SIMILAR (ABOVE (GREATER-THAN|LESS-THAN) ABOVE EQUALS SIGN|MINUS SIMILAR|",
    "OR (GREATER-THAN|LESS-THAN))|SINE WAVE|SINGLE (CHARACTER INTRODUCER|GRAPHIC CHARACTER ",
    "INTRODUCER|(HIGH-REVERSED-|LOW-)9 QUOTATION MARK|(LEFT-POINTING|RIGHT-POINTING) ANGLE ",
    "QUOTATION MARK|SHIFT (THREE|TWO))|(SINGLE-SHIFT-|SS)(2|3)|SINHALA (ARCHAIC (DIGIT (EIGHT|",
    "FIVE|FOUR|NINE|ONE|SEVEN|SIX|THREE|TWO)|NUMBER (EIGHTY|FIFTY|FORTY|NINETY|SEVENTY|SIXTY|TEN|",
    "THIRTY|TWENTY|ONE (HUNDRED|THOUSAND)))|LETTER (AAYANNA|AEEYANNA|AEYANNA|AIYANNA|AUYANNA|",
    "AYANNA|EEYANNA|EYANNA|FAYANNA|HAYANNA|IIYANNA|ILUUYANNA|ILUYANNA|IRUUYANNA|IRUYANNA|IYANNA|",
    "MAYANNA|OOYANNA|OYANNA|RAYANNA|UUYANNA|UYANNA|VAYANNA|YAYANNA|(ALPAPRAANA|MAHAAPRAANA) ",
    "(BAYANNA|CAYANNA|DAYANNA|DDAYANNA|GAYANNA|JAYANNA|KAYANNA|PAYANNA|TAYANNA|TTAYANNA)|AMBA ",
    "BAYANNA|(DANTAJA|MUURDHAJA) (LAYANNA|NAYANNA|SAYANNA)|KANTAJA NAASIKYAYA|SANYAKA (DAYANNA|",
    "DDAYANNA|GAYANNA|JAYANNA)|TAALUJA (NAASIKYAYA|SAYANNA|SANYOOGA NAAKSIKYAYA))|LITH DIGIT ",
    "(EIGHT|FIVE|FOUR|NINE|ONE|SEVEN|SIX|THREE|TWO|ZERO)|PUNCTUATION KUNDDALIYA|SIGN (AL-LAKUNA|",
    "ANUSVARAYA|CANDRABINDU|VISARGAYA)|VOWEL SIGN (AELA-PILLA|GAETTA-PILLA|GAYANUKITTA|DIGA ",
    "(AEDA-PILLA|GAETTA-PILLA|GAYANUKITTA|IS-PILLA|KOMBUVA|PAA-PILLA)|KETTI (AEDA-PILLA|IS-PILLA|",
    "PAA-PILLA)|KOMBU DEKA|KOMBUVA(| HAA (AELA-PILLA|GAYANUKITTA|DIGA AELA-PILLA))))|SIX ",
    "(PETALLED BLACK AND WHITE FLORETTE|POINTED ((BLACK|PINWHEEL) STAR|STAR WITH MIDDLE DOT))|",
    "SIX-PER-EM SPACE|SIXTEEN POINTED ASTERISK|SKI AND SKI BOOT|SKULL(| AND CROSSBONES)|SLANTED ",
    "(EQUAL TO OR (GREATER-THAN|LESS-THAN)(| WITH DOT INSIDE)|NORTH ARROW WITH (HOOKED HEAD|",
    "HORIZONTAL TAIL))|SLAVONIC ASTERISK|SLEEPING (ACCOMMODATION|FACE|SYMBOL)|SLEUTH OR SPY|SLICE ",
    "OF PIZZA|SLIGHTLY (FROWNING|SMILING) FACE|SLOPING LARGE (AND|OR)|SLOT MACHINE|SMALL ",
    "(AIRPLANE|AMPERSAND|ASTERISK|COLON|COMMA|HYPHEN-MINUS|SEMICOLON|TILDE|(BLUE|ORANGE) DIAMOND|",
    "COMMERCIAL AT|CONTAINS (AS MEMBER|WITH (OVERBAR|VERTICAL BAR AT END OF HORIZONTAL STROKE))|",
    "(DOLLAR|EQUALS|GREATER-THAN|LESS-THAN|NUMBER|PERCENT|PLUS) SIGN|ELEMENT OF(| WITH (OVERBAR|",
    "VERTICAL BAR AT END OF HORIZONTAL STROKE))|EM DASH|(EXCLAMATION|QUESTION) MARK|FULL STOP|",
    "IDEOGRAPHIC COMMA|(LEFT|RIGHT) (CURLY BRACKET|PARENTHESIS|TORTOISE SHELL BRACKET)|REVERSE ",
    "SOLIDUS|ROMAN NUMERAL (EIGHT|ELEVEN|FIFTY|FOUR|NINE|SEVEN|SIX|TEN|THREE|TWELVE|TWO|FIVE(| ",
    "HUNDRED)|ONE(| (HUNDRED|THOUSAND)))|TWO DOTS OVER ONE DOT PUNCTUATION|VEE WITH UNDERBAR)|",
    "SMALLER THAN(| OR EQUAL TO)|SMILING (CAT FACE WITH (HEART-SHAPED EYES|OPEN MOUTH)|FACE WITH ",
    "(HALO|HORNS|SUNGLASSES|TEAR|HEART-SHAPED EYES|OPEN MOUTH(| AND (COLD SWEAT|(SMILING|",
    "TIGHTLY-CLOSED) EYES))|SMILING EYES(| AND (HAND COVERING MOUTH|THREE HEARTS))))|SNOW CAPPED ",
    "MOUNTAIN|SNOWMAN(| WITHOUT SNOW)|SOCCER BALL|SOFT (HYPHEN|ICE CREAM|SHELL FLOPPY DISK)|",
    "SOGDIAN (COMBINING ((CURVE|DOT|HOOK) (ABOVE|BELOW)|LONG HOOK BELOW|(RESH|STROKE) BELOW|TWO ",
    "DOTS (ABOVE|BELOW))|INDEPENDENT SHIN|LETTER (ALEPH|AYIN|BETH|FETH|GIMEL|HE|HETH|KAPH|LAMEDH|",
    "LESH|MEM|NUN|PE|RESH-AYIN|SADHE|SAMEKH|SHIN|TAW|WAW|YODH|ZAYIN)|NUMBER (ONE(| HUNDRED)|TEN|",
    "TWENTY)|PUNCTUATION (CIRCLE WITH DOT|HALF CIRCLE WITH DOT|TWO (CIRCLES WITH DOTS|VERTICAL ",
    "BARS(| WITH DOTS))))|SOLID QUILT SQUARE ORNAMENT(| IN BLACK SQUARE)|SOLIDUS(| WITH OVERBAR)|",
    "SOON WITH RIGHTWARDS ARROW ABOVE|SORA SOMPENG (DIGIT (EIGHT|FIVE|FOUR|NINE|ONE|SEVEN|SIX|",
    "THREE|TWO|ZERO)|LETTER (AH|BAH|CAH|DAH|EEH|EH|GAH|HAH|IH|JAH|KAH|LAH|MAE|MAH|NAH|NGAH|NYAH|",
    "OH|PAH|RAH|SAH|TAH|UH|VAH|YAH))|SOUND RECORDING COPYRIGHT|SOUTH (EAST (ARROW(| (AND SOUTH ",
    "WEST ARROW|CROSSING NORTH EAST ARROW|TO CORNER|WITH HOOK))|(BLACK|DOUBLE|SANS-SERIF|WHITE) ",
    "ARROW|POINTING (BUD|LEAF|VINE LEAF)|TRIANGLE-HEADED ARROW(| TO BAR))|WEST (ARROW(| (AND ",
    "NORTH WEST ARROW|WITH HOOK))|(BLACK|DOUBLE|SANS-SERIF|WHITE) ARROW|POINTING (BUD|LEAF|VINE ",
    "LEAF)|TRIANGLE-HEADED ARROW(| TO BAR)))|SOYOMBO (CLUSTER-INITIAL LETTER (LA|RA|SA|SHA)|FINAL ",
    "CONSONANT SIGN (-A|B|D|G|K|L|M|N|NG|R|S|SH)|GEMINATION MARK|HEAD MARK WITH MOON AND SUN(| ",
    "AND (FLAME|TRIPLE FLAME))|LETTER (-A|A|BA|BHA|CA|CHA|DA|DDA|DDHA|DHA|DZA|GA|GHA|HA|JA|JHA|KA|",
    "KHA|KSSA|LA|MA|NA|NGA|NNA|NYA|PA|PHA|RA|SA|SHA|SSA|TA|THA|TSA|TSHA|TTA|TTHA|VA|YA|ZA|ZHA)|",
    "MARK (DOUBLE SHAD|PLUTA|SHAD|TSHEG)|SIGN (ANUSVARA|JIHVAMULIYA|UPADHMANIYA|VISARGA)|",
    "SUBJOINER|TERMINAL MARK-(1|2)|VOWEL (LENGTH MARK|SIGN (AI|AU|E|I|O|OE|U|UE|VOCALIC (L|R))))|",
    "SPARKLING HEART|SPEAKER(| WITH (CANCELLATION STROKE|ONE SOUND WAVE|THREE SOUND WAVES))|",
    "SPEAKING HEAD IN SILHOUETTE|SPEECH BALLOON|SPHERICAL ANGLE(| OPENING (LEFT|UP))|SPIDER(| ",
    "WEB)|SPIRAL ((CALENDAR|NOTE) PAD|SHELL)|SPLASHING SWEAT SYMBOL|SPOOL OF THREAD|SPORTS MEDAL|",
    "SPOUTING WHALE|SQUARE ((A|V) OVER M|AARU|AM|ANPEA|APAATO|ARUHUA|AU|BAARERU|BAR|BEETA|BIRU|",
    "BORUTO|BQ|BUSSYERU|CAL|CAP|CC|CD|CO|CORPORATION|CUP|DA|DAASU|DB|DESI|DJ|DL|DORU|EEKAA|ERG|",
    "ESUKUUDO|EV|FM|FOOT|GAL|GANMA|GARON|GB|GHZ|GIGA|GINII|GIRUDAA|GPA|GURAMU|GURAMUTON|GY|HA|",
    "HAITU|HEKUTAARU|HERUTU|HG|HON|HOON|HOORU|HP|HPA|HUARADDO|HUIITO|HURAN|HZ|IN|ININGU|INTI|IU|",
    "KA|KAIRI|KARATTO|KARORII|KB|KCAL|KEESU|KG|KHZ|KIRO|KIROGURAMU|KIROMEETORU|KIROWATTO|KK|KL|",
    "KOOPO|KORUNA|KPA|KT|KUROONE|KURUZEIRO|KV|KW|KYURII|LM|LN|LOG|LOZENGE|LX|MA|MAHHA|MAIKURO|",
    "MAIRU|MANSYON|MARUKU|MEETORU|MEGA|MEGATON|MG|MHZ|MIKURON|MIL|MIRI|MIRIBAARU|ML|MOL|MPA|MS|NA|",
    "NANO|NF|NM|NOTTO|NS|NV|NW|ONSU|OOMU|OV|PAASENTO|PAATU|PC|PEEZI|PENIHI|PENSU|PESO|PF|PH|",
    "PIASUTORU|PIKO|PIKURU|PM|POINTO|PONDO|PPM|PR|PS|PV|PW|REMU|RENTOGEN|RIRA|RITTORU|ROOT|RUPII|",
    "RUUBURU|SAIKURU|SANTIIMU|SENTI|SENTO|SIRINGU|SR|SV|TARGET|THZ|TON|UON|WATTO|WB|YAADO|YAARU|",
    "YUAN|C OVER KG|(CM|DM|MM)(| (CUBED|SQUARED))|ERA NAME (HEISEI|MEIZI|REIWA|SYOUWA|TAISYOU)|",
    "FOUR CORNERS|HIRAGANA HOKA|(IMAGE|ORIGINAL) OF(| OR (EQUAL TO|NOT EQUAL TO))|K OHM|KM(| ",
    "(CAPITAL|CUBED|SQUARED))|(LEFT|RIGHT) OPEN BOX OPERATOR|M (CUBED|OHM|SQUARED|OVER S(| ",
    "SQUARED))|MB(| SMALL)|MU (A|F|G|L|M|S|V|W)|(MV|MW)(| MEGA)|PA(| AMPS)|POSITION INDICATOR|RAD",
    "(| OVER S(| SQUARED))|WITH ((BOTTOM|LEFT|RIGHT|TOP) HALF BLACK|CONTOURED OUTLINE|(DIAGONAL|",
    "ORTHOGONAL) CROSSHATCH FILL|(HORIZONTAL|VERTICAL) FILL|LOWER (LEFT|RIGHT) DIAGONAL HALF ",
    "BLACK|UPPER (LEFT (DIAGONAL HALF BLACK|TO LOWER RIGHT FILL)|RIGHT (DIAGONAL HALF BLACK|TO ",
    "LOWER LEFT FILL))))|SQUARED (ASTERISK|CL|COOL|FREE|HC|HDR|HI-RES|HV|ID|KEY|LOSSLESS|MINUS|MV|",
    "NEW|NG|OK|PLUS|PPV|SALTIRE|SD|SHV|SOS|SQUARE|SS|TIMES|UHD|VOD|VS|WC|CJK UNIFIED IDEOGRAPH-(4E",
    "(0(0|9)|2D|8C|A4)|5(18D|2((1|4)D|72)|3(CC|F3)|4(08|39)|5B6|8F0|9(1A|29)|B57|DE6|F8C)|6(2(4B|",
    "53|95)|3(07|55)|5(99|B0)|620|70(8|9)|E80|F14)|7(121|5(1F|33)|981|A7A|D42)|8(9E3|CA9|D70)|9",
    "(04A|14D))|DOT OPERATOR|(EIGHT|TWO) K|(FALLING|RISING) DIAGONAL SLASH|(FIVE|SEVEN) POINT ONE|",
    "FOUR (DOT PUNCTUATION|K)|KATAKANA (DE|KOKO|SA)|LATIN (CAPITAL LETTER (A|B|C|D|E|F|G|H|I|J|K|",
    "L|M|N|O|P|Q|R|S|T|U|V|W|X|Y|Z)|SMALL LETTER D)|LOGICAL (AND|OR)|ONE HUNDRED TWENTY P|SECOND ",
    "SCREEN|SIXTY P|SMALL CIRCLE|THREE D|TWENTY-TWO POINT TWO|UP WITH EXCLAMATION MARK)|SQUAT ",
    "BLACK RIGHTWARDS ARROW|STAFF OF (AESCULAPIUS|HERMES)|STAMPED ENVELOPE|STANDING PERSON|STAR ",
    "(AND CRESCENT|EQUALS|OPERATOR|OF DAVID|WITH (LEFT|RIGHT) HALF BLACK)|START OF ((GUARDED|",
    "PROTECTED|SELECTED) AREA|HEADING|STRING|TEXT)|STATUE OF LIBERTY|STEAM LOCOMOTIVE|STEAMING ",
    "BOWL|STENOGRAPHIC FULL STOP|STICK FIGURE(| (LEANING (LEFT|RIGHT)|WITH (ARMS RAISED|DRESS)))|",
    "STOCK CHART|STRAIGHT RULER|STRESS OUTLINED WHITE STAR|STRICTLY EQUIVALENT TO|STRING ",
    "TERMINATOR|STUDIO MICROPHONE|STUFFED FLATBREAD|SUBSCRIPT (EIGHT|FIVE|FOUR|MINUS|NINE|ONE|",
    "SEVEN|SIX|THREE|TWO|ZERO|(EQUALS|PLUS) SIGN|(LEFT|RIGHT) PARENTHESIS)|SUBSET (ABOVE ",
    "(RIGHTWARDS ARROW|SUBSET|SUPERSET)|OF(| (ABOVE ((ALMOST|NOT) EQUAL TO|EQUALS SIGN|TILDE ",
    "OPERATOR)|OR EQUAL TO(| WITH DOT ABOVE)|WITH NOT EQUAL TO))|WITH (DOT|(MULTIPLICATION|PLUS) ",
    "SIGN BELOW))|SUCCEEDS(| (ABOVE (ALMOST EQUAL TO|EQUALS SIGN|NOT (ALMOST EQUAL TO|EQUAL TO)|",
    "SINGLE-LINE (EQUALS SIGN|NOT EQUAL TO))|BUT NOT EQUIVALENT TO|OR (EQUAL|EQUIVALENT) TO|UNDER ",
    "RELATION))|SUMMATION (BOTTOM|TOP|WITH INTEGRAL)|SUN(| (BEHIND CLOUD|WITH FACE))|SUNDANESE ",
    "(AVAGRAHA|CONSONANT SIGN (PAMINGKAL|PANYAKRA|PANYIKU|PASANGAN (MA|WA))|DIGIT (EIGHT|FIVE|",
    "FOUR|NINE|ONE|SEVEN|SIX|THREE|TWO|ZERO)|LETTER (A|AE|BA|BHA|CA|DA|E|EU|FA|GA|HA|I|JA|KA|KHA|",
    "LA|LEU|MA|NA|NGA|NYA|O|PA|QA|RA|REU|SA|SYA|TA|U|VA|WA|XA|YA|ZA|FINAL (K|M))|PUNCTUATION ",
    "BINDU ((BA|DA|KA|LEU) SATANGA|CAKRA|PANGLONG|PURNAMA|SURYA)|SIGN (PAMAAEH|PANGLAYAR|",
    "PANGWISAD|PANYECEK|VIRAMA)|VOWEL SIGN (PAMEPET|PANAELAENG|PANEULEUNG|PANGHULU|PANOLONG|",
    "PANYUKU))|SUNRISE(| OVER MOUNTAINS)|SUNSET OVER BUILDINGS|SUPERSCRIPT (EIGHT|FIVE|FOUR|MINUS|",
    "NINE|ONE|SEVEN|SIX|THREE|TWO|ZERO|(EQUALS|PLUS) SIGN|LATIN SMALL LETTER (I|N)|(LEFT|RIGHT) ",
    "PARENTHESIS)|SUPERSET (ABOVE (LEFTWARDS ARROW|SUBSET|SUPERSET)|BESIDE (AND JOINED BY DASH ",
    "WITH SUBSET|SUBSET)|OF(| (ABOVE ((ALMOST|NOT) EQUAL TO|EQUALS SIGN|TILDE OPERATOR)|OR EQUAL ",
    "TO(| WITH DOT ABOVE)|WITH NOT EQUAL TO))|PRECEDING SOLIDUS|WITH (DOT|(MULTIPLICATION|PLUS) ",
    "SIGN BELOW))|SURFACE INTEGRAL|SUSPENSION RAILWAY|SWASH AMPERSAND ORNAMENT|SWUNG DASH|SYLOTI ",
    "NAGRI (LETTER (A|BHO|BO|CHO|CO|DDHO|DDO|DHO|DO|E|GHO|GO|HO|I|JHO|JO|KHO|KO|LO|MO|NO|O|PHO|PO|",
    "RO|RRO|SO|THO|TO|TTHO|TTO|U)|POETRY MARK-(1|2|3|4)|SIGN (ALTERNATE HASANTA|ANUSVARA|DVISVARA|",
    "HASANTA)|VOWEL SIGN (A|E|I|OO|U))|SYMBOL FOR (ACKNOWLEDGE|BACKSPACE|BELL|CANCEL|ENQUIRY|",
    "ESCAPE|NEWLINE|NULL|SPACE|CARRIAGE RETURN|DATA LINK ESCAPE|(DELETE|SUBSTITUTE)(| FORM TWO)|",
    "DEVICE CONTROL (FOUR|ONE|THREE|TWO)|END OF (MEDIUM|TEXT|TRANSMISSION(| BLOCK))|(FILE|GROUP|",
    "RECORD|UNIT) SEPARATOR|(FORM|LINE) FEED|(HORIZONTAL|VERTICAL) TABULATION|MARKS CHAPTER|",
    "NEGATIVE ACKNOWLEDGE|SAMARITAN SOURCE|SHIFT (IN|OUT)|START OF (HEADING|TEXT)|SYNCHRONOUS ",
    "IDLE|TYPE A ELECTRONICS)|SYNCHRONOUS IDLE|SYRIAC (ABBREVIATION MARK|BARREKH|CONTRACTION|",
    "MUSIC|QUSHSHAYA|RUKKAKHA|RWAHA|COLON SKEWED (LEFT|RIGHT)|DOTTED ZLAMA (ANGULAR|HORIZONTAL)|",
    "END OF PARAGRAPH|(ESASA|HBASA|RBASA) (ABOVE|BELOW)|FEMININE DOT|HARKLEAN (ASTERISCUS|",
    "METOBELUS|OBELUS)|HBASA-ESASA DOTTED|HORIZONTAL COLON|LETTER (ALAPH|BETH|DALATH|E|HE|HETH|",
    "KAPH|LAMADH|MIM|NUN|PE|QAPH|RISH|SADHE|SEMKATH|SHIN|TAW|WAW|ZAIN|DOTLESS DALATH RISH|FINAL ",
    "SEMKATH|(GAMAL|TETH)(| GARSHUNI)|MALAYALAM (BHA|JA|LLA|LLLA|NGA|NNA|NNNA|NYA|RA|SSA|TTA)|",
    "PERSIAN (BHETH|DHALATH|GHAMAL)|REVERSED PE|SOGDIAN (FE|KHAPH|ZHAIN)|SUPERSCRIPT ALAPH|YUDH(| ",
    "HE))|OBLIQUE LINE (ABOVE|BELOW)|(PTHAHA|ZQAPHA) (ABOVE|BELOW|DOTTED)|SUBLINEAR (COLON(| ",
    "SKEWED (LEFT|RIGHT))|FULL STOP)|SUPRALINEAR (COLON(| SKEWED LEFT)|FULL STOP)|THREE DOTS ",
    "(ABOVE|BELOW)|TWO VERTICAL DOTS (ABOVE|BELOW))"]

end GraphBind.Text.CharacterName
