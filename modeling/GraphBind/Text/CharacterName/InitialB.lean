/-!
# Character names with the initial B

The names of characters that begin with the letter B, as a pattern.
-/

namespace GraphBind.Text.CharacterName

/-- The names with the initial B. -/
def initialB : String :=
  String.join [
    "BABY(| (ANGEL|BOTTLE|CHICK|SYMBOL))|BACK (OF ENVELOPE|WITH LEFTWARDS ARROW ABOVE)|",
    "BACK-TILTED SHADOWED WHITE RIGHTWARDS ARROW|BACKSLANTED SOUTH ARROW WITH (HOOKED|HORIZONTAL) ",
    "TAIL|BACKSPACE|BACON|BADGER|BAGEL|BALLOON|BANANA|BANJO|BANK|BASEBALL|BASKET|BAT|BATH|BATHTUB|",
    "BATTERY|BEANS|BEAVER|BECAUSE|BED|BEETLE|BEL|BETWEEN|BICYCLE|BICYCLIST|BIKINI|BILLIARDS|BIRD|",
    "BISON|BLOSSOM|BLOWFISH|BLUEBERRIES|BOAR|BOM|BOMB|BONE|BOOK|BOOKS|BOOMERANG|BOWLING|BOY|BPH|",
    "BRAIN|BREAD|BREAST-FEEDING|BREVE|BRICK|BRIEFCASE|BRIEFS|BROCCOLI|BROOM|BS|BUBBLES|BUCKET|BUG|",
    "BULLSEYE|BURRITO|BUTTER|BUTTERFLY|BACTRIAN CAMEL|BADMINTON RACQUET AND SHUTTLECOCK|BAGGAGE ",
    "CLAIM|BAGUETTE BREAD|BALINESE (ADEG ADEG|CARIK (PAMUNGKAH|PAREREN|SIKI)|DIGIT (EIGHT|FIVE|",
    "FOUR|NINE|ONE|SEVEN|SIX|THREE|TWO|ZERO)|LETTER (AIKARA|EKARA|HA|MA|NGA|NYA|WA|YA|(AKARA|",
    "IKARA|OKARA|UKARA)(| TEDUNG)|ARCHAIC JNYA|(ASYURA|EF|KAF|KHOT|TZIR|VE|ZAL) SASAK|BA(| ",
    "KEMBANG)|CA(| LACA)|DA(| (MADU|MURDA (ALPAPRANA|MAHAPRANA)))|GA(| GORA)|JA(| JERA)|KA(| ",
    "MAHAPRANA)|LA(| LENGA(| TEDUNG))|NA(| RAMBAT)|PA(| KAPAL)|RA(| REPA(| TEDUNG))|SA(| (SAGA|",
    "SAPA))|TA(| (LATIK|TAWA|MURDA MAHAPRANA)))|MUSICAL SYMBOL (COMBINING (BENDE|ENDEP|GONG|",
    "JEGOGAN|TEGEH|(KEMPLI|KEMPUL)(| WITH JEGOGAN))|DAENG|DAING|DENG|DEUNG|DING|DONG|DUNG|DANG(| ",
    "(GEDE|SURANG))|LEFT-HAND (CLOSED (PLAK|PLUK)|OPEN (PANG|PING|PUNG))|RIGHT-HAND (CLOSED (TAK|",
    "TUK)|OPEN (DAG|DUG)))|(PAMADA|PANTI)(| LANTANG)|PAMENENG|WINDU|SIGN (BISAH|CECEK|REREKAN|",
    "SURANG|ULU (CANDRA|RICEM))|VOWEL SIGN (LA LENGA(| TEDUNG)|PEPET(| TEDUNG)|RA REPA(| TEDUNG)|",
    "SUKU(| ILUT)|TALING(| (REPA(| TEDUNG)|TEDUNG))|TEDUNG|ULU(| SARI)))|BALL OF YARN|BALLET ",
    "SHOES|BALLOON-SPOKED ASTERISK|BALLOT (BOLD SCRIPT X|BOX(| WITH (BALLOT|CHECK|X|BOLD (CHECK|",
    "SCRIPT X)|(LIGHT|SCRIPT) X))|SCRIPT X|X)|BAMUM (COLON|COMMA|NJAEMLI|SEMICOLON|COMBINING MARK ",
    "(KOQNDON|TUKWENTIS)|FULL STOP|LETTER (A|EE|FAAMAE|FEE|FOM|FU|I|KA|KEN|KET|KEUX|KI|KO|KOGHOM|",
    "KOVUU|KPA|KU|KYEE|LA|LEEEE|LI|LOQ|LU|M|MA|MBAA|MBEN|MEEEE|MEN|MI|MO|MU|NA|NDAA|NGA|NGGA|",
    "NGKWAEN|NI|NJAEM|NJEE|NJUAE|NSHA|NTEE|NTUU|NU|NUAE|NYI|O|PA|PEE|PEUX|PI|PUAE|PUE|RAE|REE|REN|",
    "REUX|RIEE|RII|RU|SAMBA|SEUX|SHEUX|SHII|SHO|SHU|SI|SUU|TAA|TAE|TEN|TET|TI|U|WA|WUE|YA|YOQ|YUQ|",
    "PHASE-A (FIRI|GHEUAEGHEUAE|GHEUAERAE|KAFA|KAQ|KET|KEUKEUTNDA|KPOQ|KUOQ|LAPAQ|LOMMAE|LU|LUAEP|",
    "MAEKEUP|MAEM|MAEMBGBIEE|MAEMKPEN|MAEMVEUX|MAENYI|MAESI|MANSUAE|MBANYI|MBAQ|MEUNJOMNDEUQ|",
    "MGBASA|MOOMEUT|MOOMPUQ|MVEUAENGAM|NAQ|NDAANGGEUAET|NEN|NGANGU|NGGEN|NGKUENZEUM|NIKA|NJAM|",
    "NKAARAE|NKINDI|NSHA|NSHIEE|NTOQPEN|NYET|NYI|PAAM|PAARAE|PAMSHAE|PASHAE|PET|PUP|ROM|SEUNYAM|",
    "SHIRAE|SHUENSHUET|SHUM|SISA|SONJAM|SOQ|SOT|SUU|TEUAEN|TEUTEUWEN|TUAEP|UNKNOWN|VEE|GBIEE FON|",
    "LET KUT|MAP PIEET|MON NGGEUAET|(NAA|NGKUE|NZA|TITA) MFON|(NDA|PA) LEERAEWA|NTAP(| (MFAA|",
    "NTAA))|NYIT MONGKEUAEQ|NZUN MEUT|PON (MFON (PIPAEMBA|PIPAEMGBIEE)|PA NJI (PIPAEMBA|",
    "PIPAEMGBIEE))|SHINDA PA NJI|SHOQ NSHUT YUM|TU MAEMBA|U YUQ NAE)|PHASE-B (FEE|FEUX|GHEUGHEN|",
    "GHEUGHEUAEM|KAM|KEUAEM|KEUPUQ|KEUYEUX|KIEEM|KIQ|LAANAE|LET|MBAARAE|MBEURI|MBUOQ|MEUQ|MFIYAQ|",
    "MONTIEEN|NGGAAM|NGOM|NSEN|NSHUET|NYAEMAE|PARUM|PEESHI|PIT|PUNGAAM|SAKEUAE|SHEUAEQTU|SIEE|SUE|",
    "TAAM|VEUM|WUAET|YEURAE|LAM NSHUT NYAM|(LOM|NYI) NTEUM|MA(| (NJEUAENA|NJUQA))|MBA MAELEE|MBIT ",
    "MBAAKET|MEUT NGGEET|MFON TEUAEQ|NDU NJAA|NGGEU MBU|NGGUOQ(| LARGE)|NGKINDI MVOP|NTIEE SHEUOQ|",
    "SET TU|SHET NJAQ|TU (MAEMGBIEE|NSIEE)|YAFU LEERAEWA)|PHASE-C (BUNG|FUE|GBAYI|GHAP|GHARAE|KAA|",
    "KET|KEUKAQ|KEUM|KEUSEUX|KEUSHEUAEP|KPARAQ|KUT|LAM|LAP|LIQ|LU|MAEMBA|MAESI|MBANYI|MBEEKEET|",
    "MBERAE|MBEUM|MBEUX|MBI|MBIRIEEN|MBIT|MBUAEM|MBUE|MGBASAQ|MIEE|MUAE|NANSANAQ|NAQ|NDAM|NDAP|",
    "NDEUAEREE|NDEUT|NDIDA|NDOMBU|NGAQ|NGGEN|NGGU|NGGUEET|NGGUM|NGGUON|NGKAQ|NGOM|NJAEM|NJAM|",
    "NJEEEE|NJEUX|NJUEQ|NSA|NSEUAEN|NSHAQ|NSOM|NSUN|NTAA|NTEN|NTEUNGBA|NZA|NZEUM|PEN|PIN|PIRIEEN|",
    "RU|SETFON|SEUX|SHIQ|SHUEQ|SUAET|TAASHAE|TET|TEUTEUX|TITUAEP|VEUAEPEN|VEUX|WANGKUOQ|WUP|YAA|",
    "YEUQ|YUM|YUWOQ|KEN (FATIGUE|LAW)|KUOP NKAARAE|MA (KEUAERI|NSIEE)|MBAA (CABBAGE-TREE|PICKET)|",
    "NGGUAEN NYAM|NGKUE MAEMBA|NSUOT NGOM|NTU MBIT|NYIR MKPARAQ MEUN|TITA YUE|YU MUOMAE)|PHASE-D ",
    "(FAA|FEUFEUAET|GHAA|GHEUAE|KET|KEUAETMEUN|KEUM|KEUP|KU|KUN|KUOM|KUQ|KWAET|KYEE|LEEEE|LET|",
    "LEUAEP|LEUM|LIEE|LOQ|LUM|M|MAENJET|MALEERI|MBUO|MEEEE|MEUN|MEUT|MFEUAE|MFEUT|MFIEE|MFO|MFON|",
    "MGBEUN|MGBIEE|MGBOFUM|MONI|MU|MVOP|NDAM|NDEE|NDEUX|NDON|NGGAAM|NGGAAMAE|NGGAP|NGGEUX|NGGUOM|",
    "NGGWAEN|NGKAP|NGKEUAEQ|NGKEURI|NGKIEE|NGKUN|NGKYEE|NI|NJAP|NJEUAEM|NJEUT|NJI|NJIEE|NJUEQ|",
    "NSHEE|NSHUT|NSIEEP|NSIEET|NSUM|NTEE|NTEUM|NTUU|NU|NYAM|NYET|NYI|NYUE|PAP|PEE|PEUTAE|PIP|PUQ|",
    "PUUT|RAEM|RII|SAP|SAQ|SEUAEQ|SHEE|SHEUAE|SHEUX|SHII|SHOQ|SHU|SOT|SUAE|SUE|SUU|TAE|TEEEE|",
    "TEUAEN|TEUN|TEUT|TI|TOQ|TU|TUOT|WAP|WUAEN|YAEMMAE|YEN|YUOM|YUOP|YUWOQ|KEUOT MBUAE|MBAA(| ",
    "SEVEN)|REN (MUCH|OLD))|PHASE-E (A|FA|FAQ|FEE|FOM|FUE|FUET|GBET|GBEUX|GHAAMAE|GHET|GHEUAE|",
    "GHEUN|GHEUX|GHOM|I|KET|KEUAE|KEUX|KI|KO|KPEUX|KUET|KUOP|KUT|LAAM|LAP|LAQ|LEUAEM|LOM|LOON|",
    "LOOT|LOQ|LU|MA|MAE|MAEM|MAP|MAQ|MBEE|MBEUM|MEN|MFEUQ|MGBA|MGBEN|MI|MIEE|MON|MUAE|MVI|NA|NAE|",
    "NDAP|NDIAQ|NDIQ|NDUN|NGA|NGEUREUT|NGGEEEE|NGGEUAE|NGGEUAET|NGGUP|NGGURAE|NGKA|NGKAAMI|",
    "NGKEUAEM|NGKEUX|NGKUM|NGKUP|NGOP|NGOQ|NGUAE|NGUAET|NJAEMLI|NJEUX|NKOM|NSHIEE|NSHUE|NSHUOP|",
    "NTAP|NTUM|NZAQ|NZUQ|O|PAA|PAAM|PEEM|PEUT|PEUX|PI|PIEEQ|PIET|PO|POON|PU|PUAE|PUAQ|PUE|PUM|RAE|",
    "RAQ|REUX|RIMGBA|SAA|SEE|SET|SHEUAEQ|SHIQ|SHO|SHOQ|SOM|SUAEN|TAA|TAAQ|TAM|TAQ|TEN|TEU|TEUAEQ|",
    "TOO|TOON|TOQ|TUAE|TUM|TUMAE|VEE|VEUAE|VOM|WEUX|WUE|WUO|YAP|YEUAE|YEUAET|YEUM|YEUX|YIEE|YIT|",
    "YUAEN|YUEQ|YUN|YUQ|FU (CALL|I|REMEDY)|NDAA (MY HOUSE|SOFTNESS)|NGGUAESHAE NYAM|NJEE(| EPOCH)|",
    "NYI (BETWEEN|CLEAVER)|PA (PEOPLE|PLURAL)|TAEN NTEUM|YOQ (COVER|SWIMMING))|PHASE-F (EE|FOM|KA|",
    "KEN|KET|KO|KPA|KU|KYEE|LA|LI|LOQ|M|MA|MBAA|MBEN|MEEEE|MO|NDAA|NGGA|NGKWAEN|NI|NJAEM|NJUAE|",
    "NSHA|NTEE|NU|NUAE|NYI|PEE|PEUX|PUAE|REE|REN|REUX|RIEE|RII|RU|SAMBA|SEUX|SHII|SHO|SHU|SI|SUU|",
    "TAA|TAE|TET|U|VUEQ|WA|WUE|YA|YOQ))|QUESTION MARK)|BANKNOTE WITH (DOLLAR|EURO|POUND|YEN) SIGN|",
    "BAR (CHART|OF SOAP)|BARBER POLE|BASKETBALL AND HOOP|BASSA VAH (COMBINING (HIGH|HIGH-LOW|LOW|",
    "LOW-MID|MID) TONE|FULL STOP|LETTER (A|BA|CE|DHII|DO|E|EE|ENNI|FA|GAH|GBU|HWAH|I|JO|KA|KPAH|",
    "MBE|O|OO|PA|SE|TO|U|UWU|VU|WA|WADDA|YEIN|YIE|ZO))|BATAK (CONSONANT SIGN (H|NG)|LETTER (A|BA|",
    "CA|DA|GA|HA|I|JA|LA|MA|MBA|NA|NDA|NGA|NYA|PA|RA|SA|U|WA|YA|KARO BA|MANDAILING (HA|NA|SA)|",
    "(NORTHERN|SOUTHERN) TA|PAKPAK WA|SIMALUNGUN (A|GA|HA|LA|MA|PA|RA|SA|WA|YA))|PANGOLAT|",
    "PANONGONAN|SIGN TOMPI|SYMBOL BINDU (JUDUL|PANGOLAT|PINARBORAS|NA METEK)|VOWEL SIGN (E|EE|I|O|",
    "KARO (I|O)|PAKPAK E|U(| FOR SIMALUNGUN SA)))|BEACH WITH UMBRELLA|BEAMED ((ASCENDING|",
    "DESCENDING) MUSICAL NOTES|(EIGHTH|SIXTEENTH) NOTES)|BEAR FACE|BEARDED PERSON|(BEATING|BROWN) ",
    "HEART|BEER MUG|BELL(| (PEPPER|SYMBOL|WITH CANCELLATION STROKE))|BELLHOP BELL|BENGALI ",
    "(ABBREVIATION SIGN|ANJI|ISSHAR|AU LENGTH MARK|CURRENCY (DENOMINATOR SIXTEEN|NUMERATOR (FOUR|",
    "THREE|TWO|ONE(| LESS THAN THE DENOMINATOR)))|DIGIT (EIGHT|FIVE|FOUR|NINE|ONE|SEVEN|SIX|THREE|",
    "TWO|ZERO)|(GANDA|SANDHI) MARK|LETTER (A|AA|AI|AU|BA|BHA|CA|CHA|DA|DDA|DDHA|DHA|E|GA|GHA|HA|I|",
    "II|JA|JHA|KA|KHA|LA|MA|NA|NGA|NNA|NYA|O|PA|PHA|RHA|RRA|SA|SHA|SSA|TA|THA|TTA|TTHA|U|UU|YA|",
    "YYA|KHANDA TA|RA(| WITH (LOWER|MIDDLE) DIAGONAL)|VEDIC ANUSVARA|VOCALIC (L|LL|R|RR))|RUPEE ",
    "(MARK|SIGN)|SIGN (ANUSVARA|AVAGRAHA|CANDRABINDU|NUKTA|VIRAMA|VISARGA)|VOWEL SIGN (AA|AI|AU|E|",
    "I|II|O|U|UU|VOCALIC (L|LL|R|RR)))|BENT ARROW POINTING DOWNWARDS THEN NORTH EAST|(BENTO|",
    "BEVERAGE) BOX|BENZENE RING(| WITH CIRCLE)|(BET|BLANK|BOYS) SYMBOL|BHAIKSUKI (DANDA|DIGIT ",
    "(EIGHT|FIVE|FOUR|NINE|ONE|SEVEN|SIX|THREE|TWO|ZERO)|DOUBLE DANDA|GAP FILLER-(1|2)|HUNDREDS ",
    "UNIT MARK|LETTER (A|AA|AI|AU|BA|BHA|CA|CHA|DA|DDA|DDHA|DHA|E|GA|GHA|HA|I|II|JA|JHA|KA|KHA|LA|",
    "MA|NA|NGA|NNA|NYA|O|PA|PHA|RA|SA|SHA|SSA|TA|THA|TTA|TTHA|U|UU|VA|YA|VOCALIC (L|R|RR))|NUMBER ",
    "(EIGHT|EIGHTY|FIFTY|FIVE|FORTY|FOUR|NINE|NINETY|ONE|SEVEN|SEVENTY|SIX|SIXTY|TEN|THIRTY|THREE|",
    "TWENTY|TWO)|SIGN (ANUSVARA|AVAGRAHA|CANDRABINDU|VIRAMA|VISARGA)|VOWEL SIGN (AA|AI|AU|E|I|II|",
    "O|U|UU|VOCALIC (L|R|RR))|WORD SEPARATOR)|BIG (REVERSE SOLIDUS|SOLIDUS)|BILLED CAP|(BIOHAZARD|",
    "BITCOIN) SIGN|BIRTHDAY CAKE|BITING LIP|BLACK (BOWTIE|DROPLET|FLAG|FLORETTE|FOLDER|HEXAGON|",
    "HOURGLASS|LOZENGE|NIB|OCTAGON|PARALLELOGRAM|PENNANT|PENTAGON|PUSHPIN|RECTANGLE|ROSETTE|",
    "SCISSORS|SNOWMAN|STAR|TELEPHONE|TRUCK|CENTRE WHITE STAR|CHESS ((BISHOP|KING|PAWN|QUEEN|ROOK)",
    "(| ROTATED (NINETY DEGREES|TWO HUNDRED SEVENTY DEGREES))|EQUIHOPPER(| ROTATED NINETY ",
    "DEGREES)|KNIGHT(| ROTATED ((FORTY-FIVE|NINETY) DEGREES|ONE HUNDRED THIRTY-FIVE DEGREES|THREE ",
    "HUNDRED FIFTEEN DEGREES|TWO HUNDRED (SEVENTY|TWENTY-FIVE) DEGREES))|KNIGHT-BISHOP|",
    "KNIGHT-QUEEN|KNIGHT-ROOK|TURNED (BISHOP|KING|KNIGHT|PAWN|QUEEN|ROOK))|CIRCLE(| (FOR RECORD|",
    "WITH (DOWN ARROW|TWO WHITE DOTS|WHITE DOT RIGHT)))|(CLUB|SPADE) SUIT|CROSS ON SHIELD|CURVED ",
    "((DOWNWARDS|UPWARDS) AND (LEFTWARDS|RIGHTWARDS) ARROW|(LEFTWARDS|RIGHTWARDS) AND (DOWNWARDS|",
    "UPWARDS) ARROW)|DIAMOND(| (CENTRED|SUIT|MINUS WHITE X|ON CROSS|WITH DOWN ARROW))|(DOWN|UP) ",
    "POINTING BACKHAND INDEX|(DOWN-POINTING|UP-POINTING) ((DOUBLE|SMALL) TRIANGLE|ISOSCELES RIGHT ",
    "TRIANGLE|TRIANGLE)|(DOWNWARDS|UPWARDS) EQUILATERAL ARROWHEAD|DRAUGHTS (KING|MAN)|FOUR ",
    "POINTED STAR|HARD SHELL FLOPPY DISK|HEART(| SUIT)|HORIZONTAL ELLIPSE|LARGE (CIRCLE|SQUARE)|",
    "LEFT (LANE MERGE|POINTING (BACKHAND INDEX|INDEX))|LEFT-POINTING (DOUBLE TRIANGLE(| WITH ",
    "VERTICAL BAR)|ISOSCELES RIGHT TRIANGLE|POINTER|TRIANGLE|SMALL TRIANGLE)|LEFTWARDS (BULLET|",
    "EQUILATERAL ARROWHEAD)|(LOWER|UPPER) (LEFT|RIGHT) TRIANGLE|MEDIUM (DIAMOND|LOZENGE|SQUARE|",
    "(DOWN-POINTING|LEFT-POINTING|RIGHT-POINTING|UP-POINTING) TRIANGLE(| CENTRED)|SMALL (DIAMOND|",
    "LOZENGE|SQUARE))|MOON LILITH|QUESTION MARK ORNAMENT|RIGHT POINTING (BACKHAND INDEX|INDEX)|",
    "RIGHT-POINTING (DOUBLE TRIANGLE(| WITH VERTICAL BAR)|ISOSCELES RIGHT TRIANGLE|PENTAGON|",
    "POINTER|SMALL TRIANGLE|TRIANGLE(| WITH DOUBLE VERTICAL BAR))|RIGHTWARDS (ARROW|ARROWHEAD|",
    "BULLET|EQUILATERAL ARROWHEAD)|SAFETY SCISSORS|SHOGI PIECE|SKULL AND CROSSBONES|SLIGHTLY ",
    "SMALL (CIRCLE|SQUARE)|SMALL (DIAMOND|LOZENGE|SQUARE|STAR)|SMILING FACE|SQUARE(| (BUTTON|",
    "CENTRED|FOR STOP))|SUN WITH RAYS|TINY (DIAMOND|LOZENGE|SQUARE)|TOUCHTONE TELEPHONE|TWO-WAY ",
    "LEFT WAY TRAFFIC|UNIVERSAL RECYCLING SYMBOL|VERTICAL (ELLIPSE|RECTANGLE)|VERY SMALL (DIAMOND|",
    "LOZENGE|SQUARE))|BLACK-FEATHERED ((NORTH|SOUTH) EAST ARROW|RIGHTWARDS ARROW)|BLACK-LETTER ",
    "CAPITAL (C|H|I|R|Z)|BLOCK SEXTANT-(1(|2(|3(|4(|5|6)|5(|6)|6)|4(|5(|6)|6)|5(|6)|6)|3(|4(|5",
    "(|6)|6)|56|6)|4(|5(|6)|6)|5(|6)|6)|2(|3(|4(|5(|6)|6)|5(|6)|6)|4(|5(|6))|5(|6)|6)|3(|4(|5(|6)|",
    "6)|5(|6)|6)|4(|5(|6)|6)|5(|6)|6)|BLUE (BOOK|HEART)|BOLD ((EIGHT|FIVE|SIX) SPOKED ASTERISK|",
    "GREEK CROSS|SALTIRE|WHITE (CIRCLE|SQUARE))|BOOKMARK(| TABS)|BOPOMOFO (FINAL LETTER (G|H|K|P|",
    "T)|LETTER (A|AH|AI|AINN|AM|AN|ANG|ANN|AU|AUNN|B|BU|C|CH|D|E|EE|EH|EI|EN|ENG|ENN|ER|F|G|GH|GN|",
    "GU|GW|H|I|IH|IM|INN|INNN|IR|IU|J|JI|K|KW|L|LH|M|N|NG|NGG|NN|OE|OM|ONG|ONN|OO|OU|P|Q|R|S|SH|T|",
    "U|UNN|V|X|Z|ZH|ZI|ZY|O(| WITH DOT ABOVE)))|BOTTLE WITH POPPING CORK|BOTTOM (ARC ",
    "ANTICLOCKWISE ARROW|CURLY BRACKET|HALF (BLACK CIRCLE|INTEGRAL|(LEFT|RIGHT) PARENTHESIS)|",
    "(LEFT|RIGHT) (CORNER|CROP|HALF BRACKET)|PARENTHESIS|SQUARE BRACKET(| OVER TOP SQUARE ",
    "BRACKET)|TORTOISE SHELL BRACKET)|BOUQUET(| OF FLOWERS)|BOW AND ARROW|BOWL (OF HYGIEIA|WITH ",
    "SPOON)|BOWTIE(| WITH (LEFT|RIGHT) HALF BLACK)|BOX DRAWINGS (DOUBLE ((DOWN|UP) AND ",
    "(HORIZONTAL|LEFT|RIGHT)|HORIZONTAL|VERTICAL(| AND (HORIZONTAL|LEFT|RIGHT)))|DOWN (DOUBLE AND ",
    "(HORIZONTAL|LEFT|RIGHT) SINGLE|HEAVY AND (HORIZONTAL LIGHT|(LEFT|RIGHT) (LIGHT|UP LIGHT)|UP ",
    "HORIZONTAL LIGHT)|LIGHT AND (HORIZONTAL HEAVY|(LEFT|RIGHT) (HEAVY|UP HEAVY)|UP HORIZONTAL ",
    "HEAVY)|SINGLE AND (HORIZONTAL|LEFT|RIGHT) DOUBLE)|HEAVY ((DOUBLE|QUADRUPLE|TRIPLE) DASH ",
    "(HORIZONTAL|VERTICAL)|(DOWN|VERTICAL)(| AND (HORIZONTAL|LEFT|RIGHT))|HORIZONTAL|RIGHT|LEFT(| ",
    "AND LIGHT RIGHT)|UP(| AND (HORIZONTAL|LEFT|RIGHT|LIGHT DOWN)))|LEFT (DOWN HEAVY AND RIGHT UP ",
    "LIGHT|HEAVY AND RIGHT (DOWN|UP|VERTICAL) LIGHT|LIGHT AND RIGHT (DOWN|UP|VERTICAL) HEAVY|UP ",
    "HEAVY AND RIGHT DOWN LIGHT)|LIGHT (ARC (DOWN|UP) AND (LEFT|RIGHT)|DIAGONAL (CROSS|DIAMOND|",
    "MIDDLE (LEFT TO (LOWER CENTRE(| TO MIDDLE RIGHT)|UPPER CENTRE TO MIDDLE RIGHT(| TO LOWER ",
    "CENTRE))|RIGHT TO (LOWER CENTRE|UPPER CENTRE TO MIDDLE LEFT TO LOWER CENTRE))|UPPER (CENTRE ",
    "TO MIDDLE (LEFT(| (AND MIDDLE RIGHT TO LOWER CENTRE|TO LOWER CENTRE(| TO MIDDLE RIGHT)))|",
    "RIGHT(| (AND MIDDLE LEFT TO LOWER CENTRE|TO LOWER CENTRE(| TO MIDDLE LEFT))))|LEFT TO LOWER ",
    "RIGHT|RIGHT TO LOWER LEFT))|(DOUBLE|QUADRUPLE|TRIPLE) DASH (HORIZONTAL|VERTICAL)|(DOWN|",
    "VERTICAL)(| AND (HORIZONTAL|LEFT|RIGHT))|HORIZONTAL(| WITH VERTICAL STROKE)|LEFT(| AND HEAVY ",
    "RIGHT)|RIGHT|UP(| AND (HEAVY DOWN|HORIZONTAL|LEFT|RIGHT)))|RIGHT (DOWN HEAVY AND LEFT UP ",
    "LIGHT|HEAVY AND LEFT (DOWN|UP|VERTICAL) LIGHT|LIGHT AND LEFT (DOWN|UP|VERTICAL) HEAVY|UP ",
    "HEAVY AND LEFT DOWN LIGHT)|UP (DOUBLE AND (HORIZONTAL|LEFT|RIGHT) SINGLE|HEAVY AND (DOWN ",
    "HORIZONTAL LIGHT|HORIZONTAL LIGHT|(LEFT|RIGHT) (DOWN LIGHT|LIGHT))|LIGHT AND (DOWN ",
    "HORIZONTAL HEAVY|HORIZONTAL HEAVY|(LEFT|RIGHT) (DOWN HEAVY|HEAVY))|SINGLE AND (HORIZONTAL|",
    "LEFT|RIGHT) DOUBLE)|VERTICAL (DOUBLE AND (HORIZONTAL|LEFT|RIGHT) SINGLE|HEAVY AND ",
    "(HORIZONTAL|LEFT|RIGHT) LIGHT|LIGHT AND (HORIZONTAL|LEFT|RIGHT) HEAVY|SINGLE AND (HORIZONTAL|",
    "LEFT|RIGHT) DOUBLE))|BOXING GLOVE|BRAHMI (DANDA|VIRAMA|DIGIT (EIGHT|FIVE|FOUR|NINE|ONE|SEVEN|",
    "SIX|THREE|TWO|ZERO)|DOUBLE DANDA|LETTER (A|AA|AI|AU|BA|BHA|CA|CHA|DA|DDA|DDHA|DHA|E|GA|GHA|",
    "HA|I|II|JA|JHA|KA|KHA|LA|LLA|MA|NA|NGA|NNA|NYA|O|PA|PHA|RA|SA|SHA|SSA|TA|THA|TTA|TTHA|U|UU|",
    "VA|YA|OLD TAMIL (LLA|LLLA|NNNA|RRA|SHORT (E|O))|VOCALIC (L|LL|R|RR))|NUMBER (EIGHT|EIGHTY|",
    "FIFTY|FIVE|FORTY|FOUR|JOINER|NINE|NINETY|SEVEN|SEVENTY|SIX|SIXTY|TEN|THIRTY|THREE|TWENTY|TWO|",
    "ONE(| (HUNDRED|THOUSAND)))|PUNCTUATION (CRESCENT BAR|DOT|LINE|LOTUS|DOUBLE DOT)|SIGN ",
    "(ANUSVARA|CANDRABINDU|JIHVAMULIYA|UPADHMANIYA|VISARGA|OLD TAMIL VIRAMA)|VOWEL SIGN (AA|AI|AU|",
    "E|I|II|O|U|UU|BHATTIPROLU AA|OLD TAMIL SHORT (E|O)|VOCALIC (L|LL|R|RR)))|BRAILLE PATTERN ",
    "(BLANK|DOTS-(1(|2(|3(|4(|5(|6(|7(|8)|8)|7(|8)|8)|6(|7(|8)|8)|7(|8)|8)|5(|6(|7(|8)|8)|7(|8)|",
    "8)|6(|7(|8)|8)|7(|8)|8)|4(|5(|6(|7(|8)|8)|7(|8)|8)|6(|7(|8)|8)|7(|8)|8)|5(|6(|7(|8)|8)|7(|8)|",
    "8)|6(|7(|8)|8)|7(|8)|8)|3(|4(|5(|6(|7(|8)|8)|7(|8)|8)|6(|7(|8)|8)|7(|8)|8)|5(|6(|7(|8)|8)|7",
    "(|8)|8)|6(|7(|8)|8)|7(|8)|8)|4(|5(|6(|7(|8)|8)|7(|8)|8)|6(|7(|8)|8)|7(|8)|8)|5(|6(|7(|8)|8)|7",
    "(|8)|8)|6(|7(|8)|8)|7(|8)|8)|2(|3(|4(|5(|6(|7(|8)|8)|7(|8)|8)|6(|7(|8)|8)|7(|8)|8)|5(|6(|7",
    "(|8)|8)|7(|8)|8)|6(|7(|8)|8)|7(|8)|8)|4(|5(|6(|7(|8)|8)|7(|8)|8)|6(|7(|8)|8)|7(|8)|8)|5(|6(|7",
    "(|8)|8)|7(|8)|8)|6(|7(|8)|8)|7(|8)|8)|3(|4(|5(|6(|7(|8)|8)|7(|8)|8)|6(|7(|8)|8)|7(|8)|8)|5(|6",
    "(|7(|8)|8)|7(|8)|8)|6(|7(|8)|8)|7(|8)|8)|4(|5(|6(|7(|8)|8)|7(|8)|8)|6(|7(|8)|8)|7(|8)|8)|5(|6",
    "(|7(|8)|8)|7(|8)|8)|6(|7(|8)|8)|7(|8)|8))|BREAK PERMITTED HERE|BRIDE WITH VEIL|BRIDGE AT ",
    "NIGHT|BROKEN (BAR|HEART|CIRCLE WITH NORTHWEST ARROW)|BUBBLE TEA|BUGINESE (END OF SECTION|",
    "LETTER (A|BA|CA|DA|GA|HA|JA|KA|LA|MA|MPA|NA|NGA|NGKA|NRA|NYA|NYCA|PA|RA|SA|TA|VA|YA)|PALLAWA|",
    "VOWEL SIGN (AE|E|I|O|U))|BUHID (LETTER (A|BA|DA|GA|HA|I|KA|LA|MA|NA|NGA|PA|RA|SA|TA|U|WA|YA)|",
    "VOWEL SIGN (I|U))|BUILDING CONSTRUCTION|BULLET(| OPERATOR)|BULLHORN(| WITH SOUND WAVES)|BUS",
    "(| STOP)|(BUST|BUSTS) IN SILHOUETTE|BYTE ORDER MARK|BYZANTINE MUSICAL SYMBOL (AGOGI (ARGI|",
    "ARGOTERI|GORGI|GORGOTERI|MESI|METRIA|POLI (ARGI|GORGI))|ANATRICHISMA|ANTIKENOKYLISMA|",
    "ANTIKENOMA|APLI|APOTHEMA|ARGON|ARGOSYNTHETON|CHAMILI|CHAMILON|DASEIA|DIARGON|DYO|EKSTREPTON|",
    "ELAFRON|ENDOFONON|EPEGERMA|GORGOSYNTHETON|GRONTHISMATA|ICHADIN|IMIDIARGON|IMIFONON|IMIFTHORA|",
    "IMIFTHORON|KATAVASMA|KATHISTI|KORONIS|KOUFISMA|KRATIMATA|KRATIMOKOUFISMA|KRATIMOYPORROON|",
    "KREMASTI|KYLISMA|LEMOI|LYGISMA|NANA|OMALON|PARICHON|PERISPOMENI|PETASMA|PETASTI|",
    "PETASTOKOUFISMA|PSIFISTOLYGISMA|PSIFISTOPARAKALESMA|PSIFISTOSYNAGMA|PSILI|PSILON|RAPISMA|",
    "REVMA|SAXIMATA|STIGMA|STRAGGISMATA|SYNEVMA|SYRMA|SYRMATIKI|TELEIA|TESSERA|TETRAPLI|THITA|",
    "TINAGMA|TRIA|TRIGORGON|TRIPLI|TROMIKOLYGISMA|TROMIKOPARAKALESMA|TROMIKOPSIFISTON|",
    "TROMIKOSYNAGMA|VATHY|YPORROI|YPSILI|APESO (EKFONITIKON|EXO NEO)|(APODERMA|CHOREVMA|ISON|",
    "OLIGON|OYRANISMA|PARAKALESMA|PIASMA) (ARCHAION|NEO)|APOSTROFOI (SYNDESMOS NEO|TELOUS ",
    "ICHIMATOS)|APOSTROFOS(| (DIPLI|NEO))|ARKTIKO (DI|GA|KE|NI|PA|VOU|ZO)|CHROA (KLITON|SPATHI|",
    "ZYGOS)|DIASTOLI (APLI (MEGALI|MIKRI)|DIPLI|THESEOS)|DIESIS (APLI DYO DODEKATA|DIGRAMMOS EX ",
    "DODEKATA|MONOGRAMMOS TESSERA DODEKATA|TETARTIMORION|TRITIMORION|TRIGRAMMOS OKTO DODEKATA)|",
    "DIFTOGGOS OU|DIGORGON(| PARESTIGMENON (ARISTERA (ANO|KATO)|DEXIA))|DIGRAMMA GG|DIPLI(| ",
    "ARCHAION)|ENARXIS KAI FTHORA VOU|ETERON (ARGOSYNTHETON|PARAKALESMA)|EXO EKFONITIKON|",
    "FANEROSIS (DIFONIAS|MONOFONIAS|TETRAFONIAS)|FHTORA SKLIRON CHROMA VASIS|FTHORA (ARCHAION(| ",
    "DEYTEROU ICHOU)|DIATONIKI (DI|KE|NANA|PA|ZO|NI (ANO|KATO))|ENARMONIOS ANTIFONIA|I YFESIS ",
    "TETARTIMORION|MALAKON CHROMA (DIFONIAS|MONOFONIAS)|NAOS ICHOS|NENANO|SKLIRON (CHROMA (SYNAFI|",
    "VASIS)|DIATONON DI))|GENIKI (DIESIS|YFESIS)|GORGON (ARCHAION|NEO (ANO|KATO)|PARESTIGMENON ",
    "(ARISTERA|DEXIA))|GORTHMIKON N (APLOUN|DIPLOUN)|ISAKIA TELOUS ICHIMATOS|KATAVA TROMIKON|",
    "KENTIMA (ARCHAION|NEO (ANO|KATO|MESO))|KENTIMATA(| (ARCHAION|NEO (ANO|KATO|MESO)))|KLASMA(| ",
    "(ANO|KATO))|KONTEVMA(| ALLO)|(KRATIMA|TROMIKON) (ALLO|ARCHAION|NEO)|LEIMMA ((DYO|TESSARON|",
    "TRION) CHRONON|(ENOS|IMISEOS) CHRONOU)|MARTYRIA (ALLI (DEYTEROS|PROTOS) ICHOS|(DEYTEROS|",
    "LEGETOS|PROTOS|PROTOVARYS|TRITOS|VARYS) ICHOS|PLAGIOS (ICHOS|TETARTOS ICHOS)|TETARTOS (ICHOS|",
    "LEGETOS ICHOS)|TRIFONIAS)|MIKRON ISON|(OXEIA|VAREIA) (DIPLI|EKFONITIKON|NEO)|(OXEIAI|",
    "VAREIAI) ARCHAION|PARAKLITIKI(| (ARCHAION|NEO))|(PELASTON|PSIFISTON|SEISMA)(| NEO)|SIMANSIS ",
    "(ARSEOS|THESEOS)(| (DISIMOU|TETRASIMOU|TRISIMOU))|STAVROS(| APODEXIA)|SYNAGMA (ARCHAION|NEO|",
    "META STAVROU)|THEMA(| APLOUN)|THEMATISMOS (ESO|EXO)|THES KAI APOTHES|XIRON KLASMA|YFEN (ANO|",
    "KATO)|YFESIS (APLI DYO DODEKATA|DIGRAMMOS EX DODEKATA|MONOGRAMMOS TESSERA DODEKATA|",
    "TRIGRAMMOS OKTO DODEKATA|TRITIMORION)|YPOKRISIS(| DIPLI))"]

end GraphBind.Text.CharacterName
