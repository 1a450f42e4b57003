/-!
# Character names with the initial L

The names of characters that begin with the letter L, as a pattern.
-/

namespace GraphBind.Text.CharacterName

/-- The names with the initial L. -/
def initialL : String :=
  String.join [
    "L B BAR SYMBOL|LAB COAT|LABEL|LADDER|LEDGER|LEG|LEMON|LEO|LEOPARD|LF|LIBRA|LIPS|LIPSTICK|",
    "LIZARD|LLAMA|LOBSTER|LOLLIPOP|LOTUS|LRE|LRI|LRM|LRO|LUGGAGE|LUNGS|LACROSSE STICK AND BALL|",
    "LADY BEETLE|LANGUAGE TAG|LAO (CANCELLATION MARK|DIGIT (EIGHT|FIVE|FOUR|NINE|ONE|SEVEN|SIX|",
    "THREE|TWO|ZERO)|ELLIPSIS|NIGGAHITA|HO (MO|NO)|KO LA|LETTER (BO|CO|DO|KO|MO|NGO|NO|NYO|O|PO|",
    "RO|TO|WO|YO|FO (FAY|FON|SUNG|TAM)|(HO|KHO|PHO|SO|THO) (SUNG|TAM)|KHMU (GO|NYO)|LO(| (LING|",
    "LOOT))|PALI (BHA|CHA|DDA|DDHA|DHA|GHA|JHA|LLA|NNA|NYA|TTA|TTHA)|SANSKRIT (SHA|SSA))|",
    "SEMIVOWEL SIGN (LO|NYO)|SIGN PALI VIRAMA|TONE MAI (CATAWA|EK|THO|TI)|VOWEL SIGN (A|AA|AI|AM|",
    "AY|E|EI|I|II|O|U|UU|Y|YY|MAI (KAN|KON)))|LARGE ((BLUE|ORANGE) (CIRCLE|DIAMOND|SQUARE)|(BROWN|",
    "GREEN|PURPLE|RED|YELLOW) (CIRCLE|SQUARE)|CIRCLE|(DOWN|UP) TACK|LEFT TRIANGLE OPERATOR|ONE ",
    "(DOT OVER TWO DOTS PUNCTUATION|RING OVER TWO RINGS PUNCTUATION)|TRIPLE VERTICAL BAR OPERATOR|",
    "TWO (DOTS OVER ONE DOT PUNCTUATION|RINGS OVER ONE RING PUNCTUATION))|LARGER THAN(| OR EQUAL ",
    "TO)|(LARI|LIRA) SIGN|LAST QUARTER MOON(| (SYMBOL|WITH FACE))|LATIN (CAPITAL (LETTER (A(| ",
    "WITH (ACUTE|CARON|GRAVE|MACRON|OGONEK|STROKE|TILDE|(BREVE|CIRCUMFLEX)(| AND (ACUTE|GRAVE|",
    "TILDE|DOT BELOW|HOOK ABOVE))|DIAERESIS(| AND MACRON)|DOT (ABOVE(| AND MACRON)|BELOW)|DOUBLE ",
    "GRAVE|HOOK ABOVE|INVERTED BREVE|RING (ABOVE(| AND ACUTE)|BELOW)))|AA|ALPHA|AO|AU|AY|BETA|CHI|",
    "CON|ENG|ESH|ET|ETH|GAMMA|GHA|HENG|HWAIR|IOTA|IS|LJ|NJ|OI|OMEGA|OO|OU|SALTILLO|SCHWA|TRESILLO|",
    "TZ|UPSILON|VEND|VY|WYNN|YOGH|AE(| WITH (ACUTE|MACRON))|AFRICAN D|ANGLICANA W|AV(| WITH ",
    "HORIZONTAL BAR)|B(| WITH (DOT (ABOVE|BELOW)|FLOURISH|HOOK|STROKE|TOPBAR|LINE BELOW))|BROKEN ",
    "L|C(| WITH (ACUTE|BAR|CARON|CIRCUMFLEX|HOOK|STROKE|CEDILLA(| AND ACUTE)|DOT ABOVE|PALATAL ",
    "HOOK))|CLOSED INSULAR G|CUATRILLO(| WITH COMMA)|D(| WITH (CARON|CEDILLA|HOOK|STROKE|TOPBAR|",
    "(CIRCUMFLEX|LINE) BELOW|DOT (ABOVE|BELOW)|SHORT STROKE OVERLAY|SMALL LETTER Z(| WITH ",
    "CARON)))|DZ(| WITH CARON)|E(| WITH (ACUTE|BREVE|CARON|DIAERESIS|GRAVE|OGONEK|STROKE|CEDILLA",
    "(| AND BREVE)|CIRCUMFLEX(| (AND (ACUTE|GRAVE|TILDE|DOT BELOW|HOOK ABOVE)|BELOW))|DOT (ABOVE|",
    "BELOW)|DOUBLE GRAVE|HOOK ABOVE|INVERTED BREVE|MACRON(| AND (ACUTE|GRAVE))|TILDE(| BELOW)))|",
    "EGYPTOLOGICAL (AIN|ALEF)|EZH(| (REVERSED|WITH CARON))|F(| WITH (DOT ABOVE|HOOK|STROKE))|G(| ",
    "WITH (ACUTE|BREVE|CARON|CEDILLA|CIRCUMFLEX|HOOK|MACRON|STROKE|DOT ABOVE|OBLIQUE STROKE))|",
    "GLOTTAL (A|I|STOP|U)|H(| WITH (BREVE BELOW|CARON|CEDILLA|CIRCUMFLEX|DESCENDER|DIAERESIS|HOOK|",
    "STROKE|DOT (ABOVE|BELOW)))|HALF H|I(| WITH (ACUTE|BREVE|CARON|CIRCUMFLEX|GRAVE|MACRON|OGONEK|",
    "STROKE|DIAERESIS(| AND ACUTE)|DOT (ABOVE|BELOW)|DOUBLE GRAVE|HOOK ABOVE|INVERTED BREVE|TILDE",
    "(| BELOW)))|INSULAR (D|F|G|R|S|T)|J(| WITH (CIRCUMFLEX|CROSSED-TAIL|STROKE))|K(| WITH (ACUTE|",
    "CARON|CEDILLA|DESCENDER|HOOK|(DIAGONAL|OBLIQUE) STROKE|(DOT|LINE) BELOW|STROKE(| AND ",
    "DIAGONAL STROKE)))|L(| WITH (ACUTE|BAR|BELT|CARON|CEDILLA|STROKE|(CIRCUMFLEX|LINE) BELOW|DOT ",
    "BELOW(| AND MACRON)|DOUBLE BAR|HIGH STROKE|MIDDLE (DOT|TILDE)|SMALL LETTER J))|M(| WITH ",
    "(ACUTE|HOOK|DOT (ABOVE|BELOW)))|MIDDLE SCOTS S|MIDDLE-WELSH (LL|V)|N(| WITH (ACUTE|CARON|",
    "CEDILLA|DESCENDER|GRAVE|TILDE|(CIRCUMFLEX|LINE) BELOW|DOT (ABOVE|BELOW)|LEFT HOOK|LONG RIGHT ",
    "LEG|OBLIQUE STROKE|SMALL LETTER J))|O(| WITH (ACUTE|BREVE|CARON|GRAVE|LOOP|(CIRCUMFLEX|HORN)",
    "(| AND (ACUTE|GRAVE|TILDE|DOT BELOW|HOOK ABOVE))|(DIAERESIS|OGONEK)(| AND MACRON)|DOT (ABOVE",
    "(| AND MACRON)|BELOW)|DOUBLE (ACUTE|GRAVE)|HOOK ABOVE|INVERTED BREVE|LONG STROKE OVERLAY|",
    "MACRON(| AND (ACUTE|GRAVE))|MIDDLE TILDE|STROKE(| AND ACUTE)|TILDE(| AND (ACUTE|DIAERESIS|",
    "MACRON))))|OLD POLISH O|OPEN (E|O)|P(| WITH (ACUTE|FLOURISH|HOOK|DOT ABOVE|SQUIRREL TAIL|",
    "STROKE(| THROUGH DESCENDER)))|Q(| WITH (DIAGONAL STROKE|STROKE THROUGH DESCENDER))|R(| ",
    "(ROTUNDA|WITH (ACUTE|CARON|CEDILLA|STROKE|TAIL|DOT (ABOVE|BELOW(| AND MACRON))|DOUBLE GRAVE|",
    "INVERTED BREVE|LINE BELOW|OBLIQUE STROKE)))|REVERSED (C WITH DOT|E|HALF H|OPEN E)|RUM ",
    "ROTUNDA|S(| WITH ((ACUTE|CARON)(| AND DOT ABOVE)|CEDILLA|CIRCUMFLEX|HOOK|COMMA BELOW|DOT ",
    "(ABOVE|BELOW(| AND DOT ABOVE))|OBLIQUE STROKE|SHORT STROKE OVERLAY|SWASH TAIL))|SCRIPT G|",
    "(SHARP|SIGMOID) S|SMALL (CAPITAL I|Q WITH HOOK TAIL)|T(| WITH (CARON|CEDILLA|HOOK|STROKE|",
    "(CIRCUMFLEX|COMMA|LINE) BELOW|DIAGONAL STROKE|DOT (ABOVE|BELOW)|RETROFLEX HOOK))|THORN(| ",
    "WITH STROKE(| THROUGH DESCENDER))|TONE (FIVE|SIX|TWO)|TURNED (A|ALPHA|H|K|L|M|T|V|INSULAR G)|",
    "U(| (BAR|WITH (ACUTE|BREVE|CARON|GRAVE|OGONEK|STROKE|CIRCUMFLEX(| BELOW)|DIAERESIS(| (AND ",
    "(ACUTE|CARON|GRAVE|MACRON)|BELOW))|DOT BELOW|DOUBLE (ACUTE|GRAVE)|(HOOK|RING) ABOVE|HORN(| ",
    "AND (ACUTE|GRAVE|TILDE|DOT BELOW|HOOK ABOVE))|INVERTED BREVE|MACRON(| AND DIAERESIS)|TILDE(| ",
    "(AND ACUTE|BELOW)))))|V(| WITH (DIAGONAL STROKE|DOT BELOW|HOOK|TILDE))|VISIGOTHIC Z|VOLAPUK ",
    "(AE|OE|UE)|W(| WITH (ACUTE|CIRCUMFLEX|DIAERESIS|GRAVE|HOOK|DOT (ABOVE|BELOW)))|X(| WITH ",
    "(DIAERESIS|DOT ABOVE))|Y(| WITH (ACUTE|CIRCUMFLEX|DIAERESIS|GRAVE|LOOP|MACRON|STROKE|TILDE|",
    "DOT (ABOVE|BELOW)|HOOK(| ABOVE)))|Z(| WITH (ACUTE|CARON|CIRCUMFLEX|DESCENDER|HOOK|STROKE|DOT ",
    "(ABOVE|BELOW)|LINE BELOW|PALATAL HOOK|SWASH TAIL)))|LIGATURE (IJ|OE))|CROSS|EPIGRAPHIC ",
    "LETTER ((ARCHAIC|INVERTED) M|I LONGA|REVERSED (F|P)|SIDEWAYS I)|LETTER (AIN|WYNN|YR|",
    "(ALVEOLAR|DENTAL|LATERAL) CLICK|BIDENTAL PERCUSSIVE|BILABIAL (CLICK|PERCUSSIVE)|GLOTTAL STOP",
    "(| WITH STROKE)|INVERTED GLOTTAL STOP(| WITH (CURL|STROKE))|PHARYNGEAL VOICED FRICATIVE|",
    "RETROFLEX CLICK(| WITH RETROFLEX HOOK)|REVERSED (ESH LOOP|GLOTTAL STOP WITH STROKE)|",
    "SINOLOGICAL DOT|SMALL CAPITAL (A|AE|B|C|D|E|ETH|EZH|F|H|I|J|K|M|N|O|OE|OU|P|Q|RUM|S|T|U|V|W|",
    "Y|Z|BARRED B|G(| WITH HOOK)|INVERTED R|L(| WITH (BELT|STROKE))|OPEN O|R(| WITH RIGHT LEG)|",
    "REVERSED (N|R)|TURNED (E|G|K|M|R))|STRETCHED C(| WITH CURL)|TWO WITH STROKE|VOICED LARYNGEAL ",
    "SPIRANT)|SMALL (CAPITAL LETTER (I|U) WITH STROKE|LETTER (A(| (REVERSED-SCHWA|WITH (ACUTE|",
    "CARON|GRAVE|MACRON|OGONEK|STROKE|TILDE|(BREVE|CIRCUMFLEX)(| AND (ACUTE|GRAVE|TILDE|DOT BELOW|",
    "HOOK ABOVE))|DIAERESIS(| AND MACRON)|DOT (ABOVE(| AND MACRON)|BELOW)|DOUBLE GRAVE|HOOK ABOVE|",
    "INVERTED BREVE|RETROFLEX HOOK|RIGHT HALF RING|RING (ABOVE(| AND ACUTE)|BELOW))))|AA|AO|AU|AY|",
    "BETA|CON|DELTA|DUM|ET|ETH|GAMMA|GHA|HV|IS|KRA|LJ|LUM|MUM|NJ|NUM|OI|OMEGA|OO|OU|PHI|SALTILLO|",
    "TRESILLO|TUM|TZ|UE|UI|UM|UO|VEND|VY|YOGH|AE(| WITH (ACUTE|MACRON))|(ALPHA|LEZH)(| WITH ",
    "RETROFLEX HOOK)|ANGLICANA W|AV(| WITH HORIZONTAL BAR)|B(| WITH (DOT (ABOVE|BELOW)|FLOURISH|",
    "HOOK|STROKE|TOPBAR|LINE BELOW|MIDDLE TILDE|PALATAL HOOK))|BARRED (ALPHA|E|O)|BASELINE ESH|",
    "BLACKLETTER (E|O(| WITH STROKE))|(BOTTOM|TOP) HALF O|BROKEN L|C(| WITH (ACUTE|BAR|CARON|",
    "CIRCUMFLEX|CURL|HOOK|STROKE|CEDILLA(| AND ACUTE)|DOT ABOVE|(PALATAL|RETROFLEX) HOOK))|CHI(| ",
    "WITH LOW (LEFT SERIF|RIGHT RING))|CLOSED (INSULAR G|OMEGA|OPEN E|REVERSED OPEN E)|CUATRILLO",
    "(| WITH COMMA)|D(| WITH (CARON|CEDILLA|CURL|STROKE|TAIL|TOPBAR|(CIRCUMFLEX|LINE) BELOW|DOT ",
    "(ABOVE|BELOW)|HOOK(| AND TAIL)|MIDDLE TILDE|PALATAL HOOK|SHORT STROKE OVERLAY))|(DB|LS|LZ|",
    "QP) DIGRAPH|(DEZH|TESH) DIGRAPH(| WITH (PALATAL|RETROFLEX) HOOK)|DOTLESS (I|J(| WITH STROKE",
    "(| AND HOOK)))|DOUBLE (R(| WITH CROSSED-TAIL)|THORN|WYNN)|DZ(| (DIGRAPH(| WITH (CURL|",
    "RETROFLEX HOOK))|WITH CARON))|E(| WITH (ACUTE|BREVE|CARON|DIAERESIS|FLOURISH|GRAVE|NOTCH|",
    "OGONEK|STROKE|CEDILLA(| AND BREVE)|CIRCUMFLEX(| (AND (ACUTE|GRAVE|TILDE|DOT BELOW|HOOK ",
    "ABOVE)|BELOW))|DOT (ABOVE|BELOW)|DOUBLE GRAVE|HOOK ABOVE|INVERTED BREVE|MACRON(| AND (ACUTE|",
    "GRAVE))|RETROFLEX HOOK|TILDE(| BELOW)))|EGYPTOLOGICAL (AIN|ALEF)|ENG(| WITH (CROSSED-TAIL|",
    "PALATAL HOOK))|ESH(| WITH (CURL|DOUBLE BAR(| AND CURL)|(PALATAL|RETROFLEX) HOOK))|EZH(| ",
    "(REVERSED|WITH (CARON|CURL|TAIL|(PALATAL|RETROFLEX) HOOK)))|F(| WITH (DOT ABOVE|HOOK|STROKE|",
    "MIDDLE TILDE|PALATAL HOOK))|FENG DIGRAPH(| WITH TRILL)|G(| WITH (ACUTE|BREVE|CARON|CEDILLA|",
    "CIRCUMFLEX|HOOK|MACRON|STROKE|DOT ABOVE|OBLIQUE STROKE|PALATAL HOOK))|GLOTTAL (A|I|STOP|U)|H",
    "(| WITH ((BREVE|LINE) BELOW|CARON|CEDILLA|CIRCUMFLEX|DESCENDER|DIAERESIS|HOOK|STROKE|DOT ",
    "(ABOVE|BELOW)|PALATAL HOOK))|HALF H|HENG(| WITH HOOK)|I(| WITH (ACUTE|BREVE|CARON|CIRCUMFLEX|",
    "GRAVE|MACRON|OGONEK|DIAERESIS(| AND ACUTE)|DOT BELOW|DOUBLE GRAVE|HOOK ABOVE|INVERTED BREVE|",
    "RETROFLEX HOOK|STROKE(| AND RETROFLEX HOOK)|TILDE(| BELOW)))|INSULAR (D|F|G|R|S|T)|INVERTED ",
    "(ALPHA|OE)|(IOTA|UPSILON)(| WITH STROKE)|IOTIFIED E|J(| WITH (CARON|CIRCUMFLEX|CROSSED-TAIL|",
    "STROKE))|K(| WITH (ACUTE|CARON|CEDILLA|DESCENDER|HOOK|(DIAGONAL|OBLIQUE) STROKE|(DOT|LINE) ",
    "BELOW|PALATAL HOOK|STROKE(| AND DIAGONAL STROKE)))|L(| WITH (ACUTE|BAR|CARON|CEDILLA|CURL|",
    "FISHHOOK|STROKE|BELT(| AND PALATAL HOOK)|(CIRCUMFLEX|LINE) BELOW|DOT BELOW(| AND MACRON)|",
    "DOUBLE (BAR|MIDDLE TILDE)|HIGH STROKE|INVERTED LAZY S|MIDDLE (DOT|RING|TILDE)|PALATAL HOOK|",
    "RETROFLEX HOOK(| AND BELT)))|LAMBDA WITH STROKE|LENIS F|LONG S(| WITH ((DIAGONAL|HIGH) ",
    "STROKE|DOT ABOVE))|M(| WITH (ACUTE|CROSSED-TAIL|HOOK|DOT (ABOVE|BELOW)|MIDDLE TILDE|PALATAL ",
    "HOOK))|MIDDLE SCOTS S|MIDDLE-WELSH (LL|V)|N(| (PRECEDED BY APOSTROPHE|WITH (ACUTE|CARON|",
    "CEDILLA|CROSSED-TAIL|CURL|DESCENDER|GRAVE|TILDE|(CIRCUMFLEX|LINE) BELOW|DOT (ABOVE|BELOW)|",
    "(LEFT|PALATAL|RETROFLEX) HOOK|LONG RIGHT LEG|MIDDLE TILDE|OBLIQUE STROKE)))|O(| WITH (ACUTE|",
    "BREVE|CARON|GRAVE|LOOP|(CIRCUMFLEX|HORN)(| AND (ACUTE|GRAVE|TILDE|DOT BELOW|HOOK ABOVE))|",
    "(DIAERESIS|OGONEK)(| AND MACRON)|DOT (ABOVE(| AND MACRON)|BELOW)|DOUBLE (ACUTE|GRAVE)|HOOK ",
    "ABOVE|INVERTED BREVE|LONG STROKE OVERLAY|LOW RING INSIDE|MACRON(| AND (ACUTE|GRAVE))|",
    "RETROFLEX HOOK|STROKE(| AND ACUTE)|TILDE(| AND (ACUTE|DIAERESIS|MACRON))))|OLD POLISH O|OPEN ",
    "(E(| WITH RETROFLEX HOOK)|O(| WITH (RETROFLEX HOOK|STROKE))|OE)|P(| WITH (ACUTE|FLOURISH|",
    "HOOK|DOT ABOVE|MIDDLE TILDE|PALATAL HOOK|SQUIRREL TAIL|STROKE(| THROUGH DESCENDER)))|Q(| ",
    "WITH (DIAGONAL STROKE|HOOK(| TAIL)|STROKE THROUGH DESCENDER))|R(| (ROTUNDA|WITH (ACUTE|CARON|",
    "CEDILLA|CROSSED-TAIL|STROKE|TAIL|DOT (ABOVE|BELOW(| AND MACRON))|DOUBLE GRAVE|FISHHOOK(| AND ",
    "(MIDDLE TILDE|PALATAL HOOK))|INVERTED BREVE|LINE BELOW|LONG LEG|MIDDLE TILDE|OBLIQUE STROKE|",
    "PALATAL HOOK)|WITHOUT HANDLE))|RAMS HORN|REVERSED (C(| WITH DOT)|E|ENG|K|HALF H|OPEN E(| ",
    "WITH (HOOK|RETROFLEX HOOK))|R WITH FISHHOOK|SCRIPT G)|RUM(| ROTUNDA)|S(| WITH ((ACUTE|CARON)",
    "(| AND DOT ABOVE)|CEDILLA|CIRCUMFLEX|CURL|HOOK|COMMA BELOW|DOT (ABOVE|BELOW(| AND DOT ",
    "ABOVE))|MIDDLE TILDE|OBLIQUE STROKE|PALATAL HOOK|SHORT STROKE OVERLAY|SWASH TAIL))|SAKHA YAT|",
    "SCHWA(| WITH (HOOK|RETROFLEX HOOK))|SCRIPT (G(| WITH CROSSED-TAIL)|R(| WITH RING))|(SHARP|",
    "SIGMOID) S|SIDEWAYS (DIAERESIZED U|O(| WITH STROKE)|OPEN O|TURNED M|U)|SQUAT REVERSED ESH|",
    "STIRRUP R|T(| WITH (CARON|CEDILLA|CURL|DIAERESIS|STROKE|(CIRCUMFLEX|COMMA|LINE) BELOW|",
    "DIAGONAL STROKE|DOT (ABOVE|BELOW)|HOOK(| AND RETROFLEX HOOK)|MIDDLE TILDE|(PALATAL|",
    "RETROFLEX) HOOK))|TAILLESS PHI|TC DIGRAPH WITH CURL|TH WITH STRIKETHROUGH|THORN(| WITH STROKE",
    "(| THROUGH DESCENDER))|TONE (FIVE|SIX|TWO)|TS DIGRAPH(| WITH RETROFLEX HOOK)|TURNED (A|AE|",
    "ALPHA|DELTA|E|G|I|K|L|UI|V|W|H(| WITH FISHHOOK(| AND TAIL))|INSULAR G|M(| WITH LONG LEG)|O ",
    "OPEN-O(| WITH STROKE)|OE(| WITH (HORIZONTAL STROKE|STROKE))|OPEN E|R(| WITH (HOOK|TAIL|LONG ",
    "LEG(| AND RETROFLEX HOOK)|MIDDLE TILDE|PALATAL HOOK))|T(| WITH CURL)|Y(| WITH BELT))|U(| (BAR",
    "(| WITH SHORT RIGHT LEG)|WITH (ACUTE|BREVE|CARON|GRAVE|OGONEK|STROKE|CIRCUMFLEX(| BELOW)|",
    "DIAERESIS(| (AND (ACUTE|CARON|GRAVE|MACRON)|BELOW))|DOT BELOW|DOUBLE (ACUTE|GRAVE)|(HOOK|",
    "RING) ABOVE|HORN(| AND (ACUTE|GRAVE|TILDE|DOT BELOW|HOOK ABOVE))|INVERTED BREVE|(LEFT|",
    "RETROFLEX) HOOK|MACRON(| AND DIAERESIS)|SHORT RIGHT LEG|TILDE(| (AND ACUTE|BELOW)))))|V(| ",
    "WITH (CURL|HOOK|TILDE|DIAGONAL STROKE|DOT BELOW|(PALATAL|RIGHT) HOOK))|VISIGOTHIC Z|VOLAPUK ",
    "(AE|OE|UE)|W(| WITH (ACUTE|CIRCUMFLEX|DIAERESIS|GRAVE|HOOK|DOT (ABOVE|BELOW)|RING ABOVE))|X",
    "(| WITH (DIAERESIS|DOT ABOVE|LONG LEFT LEG(| (AND LOW RIGHT RING|WITH SERIF))|LOW RIGHT RING|",
    "PALATAL HOOK))|Y(| WITH (ACUTE|CIRCUMFLEX|DIAERESIS|GRAVE|LOOP|MACRON|STROKE|TILDE|DOT ",
    "(ABOVE|BELOW)|HOOK(| ABOVE)|RING ABOVE|SHORT RIGHT LEG))|Z(| WITH (ACUTE|CARON|CIRCUMFLEX|",
    "CURL|DESCENDER|HOOK|STROKE|DOT (ABOVE|BELOW)|LINE BELOW|MIDDLE TILDE|(PALATAL|RETROFLEX) ",
    "HOOK|SWASH TAIL)))|LIGATURE (FF|FFI|FFL|FI|FL|IJ|OE|ST|LONG S T))|SUBSCRIPT SMALL LETTER (A|",
    "E|H|I|J|K|L|M|N|O|P|R|S|SCHWA|T|U|V|X))|LEAF FLUTTERING IN WIND|LEAFY GREEN|LEFT (AND ",
    "((LOWER|UPPER) (AND RIGHT TRIANGULAR THREE QUARTERS BLOCK|ONE EIGHTH BLOCK)|RIGHT (DOUBLE ",
    "TURNSTILE|TACK|TRIANGULAR HALF BLOCK))|(ANGER|SPEECH|THOUGHT) BUBBLE|ANGLE BRACKET(| WITH ",
    "DOT)|ARC LESS-THAN BRACKET|ARROW WITH (CIRCLED PLUS|SMALL CIRCLE)|BARB (DOWN|UP) RIGHT BARB ",
    "(DOWN|UP) HARPOON|BLACK (LENTICULAR BRACKET|TORTOISE SHELL BRACKET)|CEILING|FLOOR|LUGGAGE|",
    "MULTIMAP|TACK|CLOSED ENTRY|(CORNER|SUBSTITUTION|TRANSPOSITION) BRACKET|CURLY BRACKET(| ",
    "((LOWER|UPPER) HOOK|MIDDLE PIECE))|DOTTED SUBSTITUTION BRACKET|DOUBLE (ANGLE BRACKET|",
    "PARENTHESIS|QUOTATION MARK|WIGGLY FENCE)|FISH TAIL|(FIVE|SEVEN) EIGHTHS BLOCK|HALF (BLACK ",
    "(CIRCLE|STAR)|BLOCK|FOLDER|CIRCLE(| WITH (DOT|(FOUR|THREE|TWO) DOTS))|INVERSE MEDIUM SHADE ",
    "AND RIGHT HALF BLOCK|MEDIUM SHADE|RUNNING MAN)|HAND TELEPHONE RECEIVER|LOW PARAPHRASE ",
    "BRACKET|NORMAL FACTOR SEMIDIRECT PRODUCT|ONE (EIGHTH|QUARTER) BLOCK|OUTER JOIN|PARENTHESIS(| ",
    "(EXTENSION|(LOWER|UPPER) HOOK))|RAISED OMISSION BRACKET|RIGHT (ARROW(| (THROUGH SMALL CIRCLE|",
    "WITH (DOUBLE VERTICAL STROKE|STROKE|VERTICAL STROKE)))|(BLACK|OPEN-HEADED|SANS-SERIF|",
    "TRIANGLE-HEADED|WAVE|WHITE) ARROW|DOUBLE ARROW(| WITH (STROKE|VERTICAL STROKE)))|S-SHAPED ",
    "BAG DELIMITER|SEMIDIRECT PRODUCT|SIDEWAYS U BRACKET|SINGLE QUOTATION MARK|SQUARE BRACKET(| ",
    "(EXTENSION|(LOWER|UPPER) CORNER|WITH (DOUBLE STROKE|QUILL|STROKE|UNDERBAR|TICK IN (BOTTOM|",
    "TOP) CORNER)))|THIRD WHITE RIGHT POINTING INDEX|THREE (EIGHTHS|QUARTERS) BLOCK|TORTOISE ",
    "SHELL BRACKET|TRIANGLE BESIDE VERTICAL BAR|TRIANGULAR ONE QUARTER BLOCK|VERTICAL (BAR WITH ",
    "QUILL|BOX LINE)|WHITE ((CORNER|CURLY|LENTICULAR|SQUARE) BRACKET|PARENTHESIS|TORTOISE SHELL ",
    "BRACKET)|WIGGLY FENCE|WRITING HAND)|LEFT-FACING (ARMENIAN ETERNITY SIGN|FIST|SVASTI SIGN(| ",
    "WITH DOTS))|LEFT-HANDED INTERLACED PENTAGRAM|LEFT-POINTING (ANGLE BRACKET|CURVED ANGLE ",
    "BRACKET|DOUBLE ANGLE QUOTATION MARK|MAGNIFYING GLASS)|LEFT-SHADED WHITE RIGHTWARDS ARROW|",
    "LEFT-SIDE ARC ANTICLOCKWISE ARROW|LEFT-TO-RIGHT (EMBEDDING|ISOLATE|MARK|OVERRIDE)|LEFTWARDS ",
    "(ARROW(| (ABOVE (ALMOST EQUAL TO|REVERSE (ALMOST EQUAL TO|TILDE OPERATOR)|SHORT RIGHTWARDS ",
    "ARROW|TILDE OPERATOR)|AND UPPER AND LOWER ONE EIGHTH BLOCK|FROM BAR(| TO BLACK DIAMOND)|OVER ",
    "RIGHTWARDS ARROW|THROUGH (LESS-THAN|SUBSET|X)|TO (BAR(| OVER RIGHTWARDS ARROW TO BAR)|BLACK ",
    "DIAMOND)|WITH (DOTTED STEM|DOUBLE VERTICAL STROKE|EQUILATERAL ARROWHEAD|HOOK|LOOP|STROKE|",
    "(LARGE|MEDIUM) TRIANGLE ARROWHEAD|NOTCHED TAIL|PLUS BELOW|SMALL (EQUILATERAL|TRIANGLE) ",
    "ARROWHEAD|TAIL(| WITH (DOUBLE VERTICAL STROKE|VERTICAL STROKE))|TIP (DOWNWARDS|UPWARDS)|",
    "VERTICAL STROKE)))|ARROW-TAIL|HAND|ROCKET|(BACK-TILTED|FRONT-TILTED) SHADOWED WHITE ARROW|",
    "BLACK (ARROW|CIRCLED WHITE ARROW)|(BOTTOM-SHADED|LEFT-SHADED|RIGHT-SHADED) WHITE ARROW|",
    "(COMPRESSED|DASHED|FINGER-POST|OPEN-HEADED|QUADRUPLE|SANS-SERIF|SQUARED|SQUIGGLE|WAVE) ARROW|",
    "DOUBLE (ARROW(| (FROM BAR|WITH (STROKE|VERTICAL STROKE)))|ARROW-TAIL|DASH ARROW)|HARPOON ",
    "(OVER RIGHTWARDS HARPOON|WITH BARB (DOWN (ABOVE RIGHTWARDS HARPOON WITH BARB DOWN|BELOW LONG ",
    "DASH|(FROM|TO) BAR)|DOWNWARDS|UPWARDS|UP (ABOVE (LEFTWARDS HARPOON WITH BARB DOWN|LONG DASH|",
    "RIGHTWARDS HARPOON WITH BARB UP)|(FROM|TO) BAR)))|HEAVY (ARROW|COMPRESSED ARROW)|PAIRED ",
    "ARROWS|TOP SHADED WHITE ARROW|TRIANGLE ARROWHEAD|TRIANGLE-HEADED (ARROW(| (OVER RIGHTWARDS ",
    "TRIANGLE-HEADED ARROW|TO BAR|WITH ((BOLD|HEAVY|MEDIUM|NARROW) SHAFT|DOUBLE (HORIZONTAL|",
    "VERTICAL) STROKE|LONG TIP (DOWNWARDS|UPWARDS)|VERY HEAVY SHAFT)))|DASHED ARROW|PAIRED ",
    "ARROWS)|TRIPLE (ARROW|DASH ARROW)|TWO HEADED ARROW|TWO-HEADED (ARROW (FROM BAR|WITH (DOUBLE ",
    "VERTICAL STROKE|TAIL(| WITH (DOUBLE VERTICAL STROKE|VERTICAL STROKE))|TRIANGLE ARROWHEADS|",
    "VERTICAL STROKE))|TRIPLE DASH ARROW)|WHITE ARROW(| WITHIN TRIANGLE ARROWHEAD))|LEPCHA ",
    "(CONSONANT SIGN (K|KANG|L|M|N|NYIN-DO|P|R|T)|DIGIT (EIGHT|FIVE|FOUR|NINE|ONE|SEVEN|SIX|THREE|",
    "TWO|ZERO)|LETTER (A|BA|BLA|CA|CHA|DA|DDA|DZA|FA|FLA|GA|GLA|HA|HLA|JA|KA|KHA|KLA|LA|MA|MLA|NA|",
    "NGA|NYA|PA|PHA|PLA|RA|SA|SHA|TA|THA|TSA|TSHA|TTA|TTHA|VA|WA|YA)|PUNCTUATION (CER-WA|TA-ROL|",
    "NYET THYOOM TA-ROL|TSHOOK(| CER-WA))|SIGN (NUKTA|RAN)|SUBJOINED LETTER (RA|YA)|VOWEL SIGN ",
    "(AA|E|I|O|OO|U|UU))|LESS-THAN (ABOVE (DOUBLE-LINE EQUAL ABOVE GREATER-THAN|GREATER-THAN ",
    "ABOVE DOUBLE-LINE EQUAL|LEFTWARDS ARROW|SIMILAR (ABOVE GREATER-THAN|OR EQUAL)|SLANTED EQUAL ",
    "ABOVE GREATER-THAN ABOVE SLANTED EQUAL)|AND (NOT APPROXIMATE|SINGLE-LINE NOT EQUAL TO)|BUT ",
    "NOT (EQUAL|EQUIVALENT) TO|CLOSED BY CURVE(| ABOVE SLANTED EQUAL)|EQUAL TO OR GREATER-THAN|OR ",
    "(APPROXIMATE|GREATER-THAN|(EQUAL|EQUIVALENT) TO|SLANTED EQUAL TO(| WITH DOT (ABOVE(| RIGHT)|",
    "INSIDE)))|OVER EQUAL TO|SIGN|WITH (CIRCLE INSIDE|DOT|QUESTION MARK ABOVE))|LEVEL SLIDER|",
    "LIGATURE OPEN ET ORNAMENT|LIGHT (CHECK MARK|(EIGHT|SIX) SPOKED ASTERISK|FIVE (POINTED BLACK ",
    "STAR|SPOKED ASTERISK)|FOUR POINTED BLACK (CUSP|STAR)|GREEK CROSS|(LEFT|RIGHT) TORTOISE SHELL ",
    "BRACKET ORNAMENT|RAIL|SALTIRE|SHADE|(THREE|TWELVE) POINTED BLACK STAR|VERTICAL BAR|WHITE ",
    "SQUARE)|LIGHTNING(| MOOD(| BUBBLE))|LIMBU (DIGIT (EIGHT|FIVE|FOUR|NINE|ONE|SEVEN|SIX|THREE|",
    "TWO|ZERO)|(EXCLAMATION|QUESTION) MARK|LETTER (BA|BHA|CA|CHA|DA|DHA|GA|GHA|GYAN|HA|JA|JHA|KA|",
    "KHA|LA|MA|NA|NGA|PA|PHA|RA|SA|SHA|SSA|TA|THA|TRA|WA|YA|YAN)|SIGN (KEMPHRENG|LOO|MUKPHRENG|",
    "SA-I)|SMALL LETTER (ANUSVARA|KA|LA|MA|NA|NGA|PA|RA|TA)|SUBJOINED LETTER (RA|WA|YA)|VOWEL ",
    "SIGN (A|AI|AU|E|EE|I|O|OO|U)|VOWEL-CARRIER LETTER)|LIMITED LIABILITY SIGN|LINE (FEED|",
    "SEPARATOR|INTEGRATION (NOT INCLUDING THE POLE|WITH (RECTANGULAR|SEMICIRCULAR) PATH AROUND ",
    "POLE)|TABULATION(| SET))|LINEAR (A SIGN (A(028B|1(00-102|20B|31C)|3(0(1|2|3|4|5|6|7|8|9(A|B|",
    "C))|1(0|1|2|4|5|6|7|8|9|3(A|B|C))|(2|3|4|5|6)(0|1|2|3|4|5|6|7|8|9)|7(0|1))|4(0(0|1|2|3|4|5|6|",
    "7|8|9)-VAS|1(0|1|2|3|4|5|6|7|8)-VAS)|5(0(1|2|3|4|5|6|8|9)|1(0|1|2|3|5|6)|2(0|1|3|4|5|6|7|8|",
    "9)|3(0|1|2|4|5|6|7|8|9)|4(0|1|2|5|7|8|9)|5(0|1|2|3|4|5|6|7|9)|6(3|4|5|6|8|9)|(7|8)(0|1|2|3|4|",
    "5|6|7|8|9)|9(1|2|4|5|6|8))|6(0(0|1|2|3|4|6|8|9)|1(0|1|2|3|4|5|6|7|8|9)|2(0|1|2|3|4|6|7|8|9)|3",
    "(4|7|8)|4(0|2|3|4|5|6|8|9)|5(1|2|3|4|5|6|7|8|9)|6(0|1|2|3|4))|7(0(1 A|2 B|3 D|4 E|5 F|6 H|7 ",
    "J|8 K|9( L|-(2 L2|3 L3|4 L4|6 L6)))|1(0 W|1 X|2 Y|3 OMEGA|4 ABB|5 BB|7 DD)|26 EYYY|32 JE)|80",
    "(0|1|2|3|4|5|6|7))|AB(0(0(1|2|3|4|5|6|7|8|9)|1(0|1|3|6|7)|2(0|4|6|7|8|9|(1|2)(|F|M)|3(|M))|3",
    "(0|1|4|7|8|9)|4(0|1|4|5|6|7|8|9)|5(0|1|3|4|5|6|7|8|9)|6(0|1|5|6|7|9)|7(0|3|4|6|7|8|9)|8(0|1|",
    "2|5|6|7))|1(18|2(0|2|3)|31(A|B)|64|(7|9)1|8(0|8))))|B (IDEOGRAM (B(1(0(0 MAN|2 WOMAN|4 DEER|5",
    "( EQUID|F MARE|M STALLION)|6(F EWE|M RAM)|7(F SHE-GOAT|M HE-GOAT)|8(F SOW|M BOAR)|9(F COW|M ",
    "BULL))|2(0 WHEAT|1 BARLEY|2 OLIVE|3 SPICE|5 CYPERUS)|3(0 OIL|1 WINE|2)|4(0 BRONZE|1 GOLD|2|6|",
    "5 WOOL)|5(0|2|3|4|7|8|1 HORN|9 CLOTH)|6(0|1|4|5|6|7|8|9|2 GARMENT|3 ARMOUR)|7(0|1|2|4|7|8|9|",
    "3 MONTH|6 TREE)|8(0|1|2|3|4|5|9)|9(0|1 HELMET))|2(2(0 FOOTSTOOL|5 BATHTUB)|3(0 SPEAR|1 ARROW|",
    "2|4|6|3 SWORD)|4(0 WHEELED CHARIOT|1 CHARIOT|2 CHARIOT FRAME|3 WHEEL|5|6|8|9)|5(1|2|3|5|6|7|",
    "8|9|4 DART)))|VESSEL B(155|2((0|1)(0|1|2|3|4|5|6|7|8|9)|2(1|2|6|7|8|9)|50)|305))|MONOGRAM B(1",
    "(2(7 KAPO|8 KANAKO)|3(3 AREPA|5 MERI)|56 TURO2)|247 DIPTE)|SYLLABLE B0(0(1 DA|2 RO|3 PA|4 TE|",
    "5 TO|6 NA|7 DI|8 A|9 SE)|1(0 U|1 PO|2 SO|3 ME|4 DO|5 MO|6 QA|7 ZA)|2(0 ZO|1 QI|3 MU|4 NE|5 ",
    "A2|6 RU|7 RE|8 I|9 PU2)|3(0 NI|1 SA|2 QO|3 RA3|6 JO|7 TI|8 E|9 PI)|4(0 WI|1 SI|2 WO|3 A3|4 ",
    "KE|5 DE|6 JE|8 NWA)|5(0 PU|1 DU|2 NO|3 RI|4 WA|5 NU|7 JA|8 SU|9 TA)|6(0 RA|1 O|2 PTE|5 JU|6 ",
    "TA2|7 KI|8 RO2|9 TU)|7(0 KO|1 DWE|2 PE|3 MI|4 ZE|5 WE|6 RA2|7 KA|8 QE)|8(0 MA|1 KU|5 AU|7 ",
    "TWE)|9(0 DWO|1 TWO))|SYMBOL B0(1(8|9)|22|34|4(7|9)|56|6(3|4)|79|8(2|3|6|9))))|LINK SYMBOL|",
    "LINKED PAPERCLIPS|(LION|LYING) FACE|LISU (LETTER (A|AE|BA|CA|CHA|DA|DZA|E|EU|FA|GA|GHA|HA|",
    "HHA|I|JA|KA|KHA|LA|MA|NA|NGA|O|OE|PA|PHA|SA|SHA|TA|THA|TSA|TSHA|U|UE|UH|WA|XA|YA|YHA|ZA|ZHA|",
    "TONE (MYA (BO|CYA|JEU|NA|TI)|NA PO))|PUNCTUATION (COMMA|FULL STOP))|LIVRE TOURNOIS SIGN|LOCK",
    "(| WITH INK PEN)|LOCKING-SHIFT (ONE|ZERO)|LOGICAL (AND(| WITH (DOT ABOVE|DOUBLE (OVERBAR|",
    "UNDERBAR)|HORIZONTAL DASH|MIDDLE STEM|UNDERBAR))|OR(| (OVERLAPPING LOGICAL AND|WITH (DOT ",
    "ABOVE|DOUBLE (OVERBAR|UNDERBAR)|HORIZONTAL DASH|MIDDLE STEM))))|LONG (DASH FROM LEFT MEMBER ",
    "OF DOUBLE VERTICAL|DIVISION|DRUM|LEFT (RIGHT (ARROW|DOUBLE ARROW)|TACK)|(LEFTWARDS|",
    "RIGHTWARDS) (ARROW(| FROM BAR)|DOUBLE ARROW(| FROM BAR)|SQUIGGLE ARROW)|RIGHT TACK)|LOTION ",
    "BOTTLE|LOUDLY CRYING FACE|LOVE (HOTEL|LETTER)|LOW (ASTERISK|BATTERY|LINE|BRIGHTNESS SYMBOL|",
    "DOUBLE PRIME QUOTATION MARK|KAVYKA(| WITH DOT))|LOWER (BLADE SCISSORS|(FIVE|SEVEN) EIGHTHS ",
    "BLOCK|HALF (BLOCK|CIRCLE|INVERSE WHITE CIRCLE|MEDIUM SHADE)|LEFT ((BALLPOINT|FOUNTAIN) PEN|",
    "BLOCK DIAGONAL (LOWER MIDDLE LEFT TO LOWER (CENTRE|RIGHT)|UPPER (CENTRE TO (LOWER (MIDDLE ",
    "RIGHT|RIGHT)|UPPER MIDDLE RIGHT)|LEFT TO (LOWER (CENTRE|MIDDLE RIGHT)|UPPER MIDDLE RIGHT)|",
    "MIDDLE LEFT TO LOWER (CENTRE|RIGHT|MIDDLE RIGHT)))|CRAYON|PAINTBRUSH|PENCIL|TRIANGLE|",
    "QUADRANT CIRCULAR ARC|SEMICIRCULAR ANTICLOCKWISE ARROW|TRIANGULAR MEDIUM SHADE)|ONE (EIGHTH|",
    "QUARTER) BLOCK|RIGHT (BLOCK DIAGONAL (LOWER (CENTRE TO (LOWER MIDDLE RIGHT|UPPER (MIDDLE ",
    "RIGHT|RIGHT))|LEFT TO (LOWER MIDDLE RIGHT|UPPER (CENTRE|MIDDLE RIGHT))|MIDDLE LEFT TO UPPER ",
    "(CENTRE|RIGHT|MIDDLE RIGHT))|UPPER MIDDLE LEFT TO UPPER (CENTRE|RIGHT))|CORNER WITH DOT|",
    "DROP-SHADOWED WHITE SQUARE|PENCIL|TRIANGLE|QUADRANT CIRCULAR ARC|SEMICIRCULAR CLOCKWISE ",
    "ARROW|SHADOWED WHITE (CIRCLE|SQUARE)|TRIANGULAR MEDIUM SHADE)|THREE (EIGHTHS|QUARTERS) BLOCK|",
    "TRIANGULAR ONE QUARTER BLOCK)|LOZENGE(| DIVIDED BY HORIZONTAL RULE)|LYCIAN LETTER (A|AN|B|BH|",
    "D|E|EN|G|H|I|J|K|KK|L|M|MM|N|NN|P|Q|R|S|T|TH|TT|U|W|X|Z)|LYDIAN (LETTER (A|AN|B|C|D|E|EN|F|G|",
    "I|K|L|LY|M|N|NN|O|Q|R|S|SS|T|TT|U|V|Y)|TRIANGULAR MARK)"]

end GraphBind.Text.CharacterName
