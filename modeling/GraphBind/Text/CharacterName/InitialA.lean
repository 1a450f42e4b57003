/-!
# Character names with the initial A

The names of characters that begin with the letter A, as a pattern.
-/

namespace GraphBind.Text.CharacterName

/-- The names with the initial A. -/
def initialA : String :=
  String.join [
    "ABACUS|ACCORDION|ACK|ACKNOWLEDGE|ADMETOS|ADULT|AKTIESELSKAB|ALEMBIC|ALERT|ALM|AMBULANCE|",
    "AMPERSAND|AMPHORA|ANCHOR|ANKH|ANT|APC|APOLLON|APOSTROPHE|AQUARIUS|ARC|ARIES|ASSERTION|",
    "ASTERISM|ASTRAEA|AUBERGINE|AUTOMOBILE|AVOCADO|AXE|AC CURRENT|ACCOUNT OF|ACTIVATE (ARABIC ",
    "FORM SHAPING|SYMMETRIC SWAPPING)|ACUTE (ACCENT|ANGLE)|ADDRESSED TO THE SUBJECT|ADHESIVE ",
    "BANDAGE|ADI SHAKTI|ADLAM ((ALIF|VOWEL) LENGTHENER|(CAPITAL|SMALL) LETTER (ALIF|BA|BHE|CHI|",
    "DAALI|DHA|E|FA|GA|GBE|HA|I|JIIM|KAF|KHA|KPO|LAAM|MIIM|NHA|NUN|NYA|O|PE|QAAF|RA|SHA|",
    "SINNYIIYHE|TU|U|VA|WAW|YA|YHE|ZAL)|CONSONANT MODIFIER|DIGIT (EIGHT|FIVE|FOUR|NINE|ONE|SEVEN|",
    "SIX|THREE|TWO|ZERO)|GEMINATE CONSONANT MODIFIER|(GEMINATION|NASALIZATION) MARK|HAMZA|NUKTA|",
    "INITIAL (EXCLAMATION|QUESTION) MARK)|ADMISSION TICKETS|AEGEAN (CHECK MARK|(DRY|LIQUID) ",
    "MEASURE FIRST SUBUNIT|MEASURE (SECOND|THIRD) SUBUNIT|NUMBER ((EIGHT|FIVE|FOUR|NINE|ONE|SEVEN|",
    "SIX|THREE|TWO)(| (HUNDRED|THOUSAND))|(EIGHTY|FIFTY|FORTY|NINETY|SEVENTY|SIXTY|TEN|THIRTY|",
    "TWENTY)(| THOUSAND))|WEIGHT (BASE UNIT|(FIRST|FOURTH|SECOND|THIRD) SUBUNIT)|WORD SEPARATOR ",
    "(DOT|LINE))|AERIAL TRAMWAY|(AFGHANI|ANGSTROM|AUSTRAL) SIGN|AHOM (CONSONANT SIGN MEDIAL (LA|",
    "RA|LIGATING RA)|DIGIT (EIGHT|FIVE|FOUR|NINE|ONE|SEVEN|SIX|THREE|TWO|ZERO)|LETTER (A|BA|BHA|",
    "CA|CHA|DA|DDA|DDHA|DHA|GA|GHA|HA|JA|JHA|KA|KHA|LA|LLA|MA|NA|NGA|NNA|NYA|PA|PHA|RA|SA|TA|THA|",
    "TTA|TTHA|ALTERNATE (BA|GA|TA))|NUMBER (TEN|TWENTY)|SIGN (KILLER|RULAI|SECTION|SMALL SECTION)|",
    "SYMBOL VI|VOWEL SIGN (A|AA|AI|AM|AW|E|I|II|O|U|UU))|AIRPLANE(| (ARRIVING|DEPARTURE))|ALARM ",
    "CLOCK|ALCHEMICAL SYMBOL FOR (AIR|ALEMBIC|ALKALI|ALUM|AMALGAM|AQUAFORTIS|ARSENIC|ASHES|",
    "AURIPIGMENT|BORAX|BRICK|CADUCEUS|CALX|CINNABAR|CRUCIBLE|DAY-NIGHT|DISSOLVE|DISTILL|EARTH|",
    "FIRE|GOLD|GUM|HOUR|LODESTONE|MARCASITE|MONTH|NIGHT|NITRE|OIL|POWDER|PRECIPITATE|PURIFY|",
    "PUTREFACTION|QUINTESSENCE|REALGAR|RETORT|SAL-AMMONIAC|SILVER|SOAP|SPIRIT|SUBLIMATION|SULFUR|",
    "TARTAR|TINCTURE|TRIDENT|TUTTY|URINE|VERDIGRIS|VITRIOL|WATER|WAX|(ALKALI-|DISSOLVE-|REALGAR-|",
    "TARTAR-|VITRIOL-)2|(ANTIMONY|BISMUTH|IRON-COPPER|LEAD|TIN) ORE|AQUA (REGIA|VITAE|(REGIA-|",
    "VITAE-)2)|BATH OF (MARY|VAPOURS)|(BLACK|PHILOSOPHERS) SULFUR|(BORAX-|VINEGAR-)(2|3)|CAPUT ",
    "MORTUUM|COPPER (ANTIMONIATE|ORE)|CROCUS OF (COPPER|IRON|COPPER-2)|CRUCIBLE-(2|3|4|5)|HALF ",
    "(DRAM|OUNCE)|HORSE DUNG|IRON (ORE|ORE-2)|MERCURY (SUBLIMATE|SUBLIMATE-(2|3))|POT ASHES|",
    "POWDERED BRICK|QUICK LIME|REGULUS(| OF (ANTIMONY|IRON|ANTIMONY-2))|REGULUS-(2|3|4)|ROCK ",
    "(SALT|SALT-2)|SALT(| OF (ANTIMONY|COPPER ANTIMONIATE))|SCEPTER OF JOVE|STARRED TRIDENT|",
    "STRATUM SUPER (STRATUM|STRATUM-2)|SUBLIMATE OF (ANTIMONY|COPPER|SALT OF (ANTIMONY|COPPER))|",
    "VINEGAR(| OF ANTIMONY))|(ALEF|ANGER|ASCIA|ATOM) SYMBOL|ALIEN MONSTER|ALL (AROUND-PROFILE|",
    "EQUAL TO)|ALMOST EQUAL (OR EQUAL TO|TO(| WITH CIRCUMFLEX ACCENT))|ALTERNATE ONE-WAY LEFT WAY ",
    "TRAFFIC|ALTERNATIVE KEY SYMBOL|AMALGAMATION OR COPRODUCT|AMERICAN FOOTBALL|ANATOLIAN ",
    "HIEROGLYPH A(0(0(1|2|3|4|5|6|7|8|9)|1(0(|A)|1|2|3|4|5|6|7|8|9)|2(0|1|2|3|4|5|7|8|9|6(|A))|3",
    "(0|1|2|3|4|5|6|7|8|9(|A))|4(0|2|3|4|7|8|9|(1|5)(|A)|6(|A|B))|(5|7|8)(0|1|2|3|4|5|6|7|8|9)|6",
    "(0|1|2|3|4|5|7|8|9|6(|A|B|C))|9(0|1|2|3|4|5|6|9|(7|8)(|A)))|1(0((0|1|2)(|A)|3|6|8|9|(4|7)(|A|",
    "B|C)|5(|A|B))|1(0(|A|B)|1|2|3|4|6|7|8|9|5(|A))|(2|3)(0|1|2|3|4|6|7|8|9|5(|A))|(4|5|6|7|8|9)",
    "(0|1|2|3|4|5|6|7|8|9))|2(0(0|1|3|4|5|6|8|2(|A|B)|(7|9)(|A))|1(0|1|2|3|4|7|8|9|(5|6)(|A))|(2|",
    "6)(0|1|2|3|4|5|6|8|9|7(|A))|(3|4|5|7)(0|1|2|3|4|5|6|7|8|9)|8(0|1|2|3|4|5|6|7|8|9(|A))|9(0|1|",
    "2|3|5|6|7|8|(4|9)(|A)))|3((0|2|5)(0|1|2|3|4|5|6|7|8|9(|A))|(1|4)(0|1|2|3|4|5|6|7|8|9)|3(0|1|",
    "3|4|5|7|8|9|2(A|B|C)|6(|A|B|C))|6(0|1|2|3|5|6|7|9|(4|8)(|A))|7(0|2|3|4|5|6|7|8|9|1(|A))|8(0|",
    "2|4|5|7|8|9|(1|6)(|A)|3( RA OR RI|A))|9(0|1|2|4|5|6|7|8|9|3 EIGHT))|4((0|2|3|4|6|7|8)(0|1|2|",
    "3|4|5|6|7|8|9)|1(0( BEGIN LOGOGRAM MARK|A END LOGOGRAM MARK)|1|2|3|4|5|6|7|8|9)|5((0|7)(|A)|",
    "1|2|3|4|5|6|8|9)|9(0|1|2|3|4|5|6|7))|5(0(1|2|3|4|5|6|7|8|9)|(1|2)(0|1|2|3|4|5|6|7|8|9)|30))|",
    "ANATOMICAL HEART|AND WITH DOT|ANGLE(| WITH (S INSIDE|UNDERBAR))|(ANGRY|ANGUISHED|ASTONISHED) ",
    "FACE|ANTENNA WITH BARS|ANTICLOCKWISE ((CLOSED|GAPPED|OPEN) CIRCLE ARROW|CONTOUR INTEGRAL|",
    "DOWNWARDS AND UPWARDS OPEN CIRCLE ARROWS|INTEGRATION|TOP SEMICIRCLE ARROW|TRIANGLE-HEADED ",
    "((BOTTOM|LEFT|RIGHT|TOP) U-SHAPED ARROW|OPEN CIRCLE ARROW))|APL FUNCTIONAL SYMBOL ((ALPHA|",
    "IOTA|OMEGA)(| UNDERBAR)|(BACKSLASH|COMMA|SLASH) BAR|CIRCLE (BACKSLASH|DIAERESIS|JOT|STAR|",
    "STILE|UNDERBAR)|DEL (DIAERESIS|STILE|TILDE)|DELTA (STILE|UNDERBAR)|(DIAMOND|EPSILON|",
    "SEMICOLON) UNDERBAR|DOWN (CARET TILDE|SHOE STILE|TACK (JOT|UNDERBAR))|(DOWNWARDS|LEFTWARDS|",
    "RIGHTWARDS|UPWARDS) VANE|(GREATER-THAN|STAR|TILDE) DIAERESIS|I-BEAM|RHO|ZILDE|JOT (DIAERESIS|",
    "UNDERBAR)|LEFT SHOE STILE|QUAD(| (BACKSLASH|CIRCLE|COLON|DEL|DELTA|DIAMOND|DIVIDE|EQUAL|",
    "GREATER-THAN|JOT|LESS-THAN|QUESTION|SLASH|(DOWN|UP) CARET|(DOWNWARDS|LEFTWARDS|RIGHTWARDS|",
    "UPWARDS) ARROW|NOT EQUAL))|QUOTE (QUAD|UNDERBAR)|SQUISH QUAD|STILE TILDE|UP (CARET TILDE|",
    "SHOE JOT|TACK (DIAERESIS|JOT|OVERBAR)))|APPLICATION PROGRAM COMMAND|APPROACHES THE LIMIT|",
    "APPROXIMATELY (BUT NOT ACTUALLY EQUAL TO|EQUAL (OR EQUAL TO|TO(| OR THE IMAGE OF)))|ARABIC ",
    "((BASELINE|RAISED) ROUND DOT|COMMA|RAY|SEMICOLON|ZWARAKAY|CURLY (DAMMA|DAMMATAN|FATHA|",
    "FATHATAN|KASRA|KASRATAN)|DAMMA(| ((ISOLATED|MEDIAL) FORM|WITH DOT))|(DAMMATAN|FATHATAN|",
    "KASRATAN)(| ISOLATED FORM)|(DATE|DECIMAL|THOUSANDS) SEPARATOR|DISPUTED END OF AYAH|DOUBLE ",
    "RIGHT ARROWHEAD ABOVE(| WITH DOT)|DOUBLED MADDA|EMPTY CENTRE (HIGH|LOW) STOP|END OF (AYAH|",
    "TEXT MARK)|FATHA(| ((ISOLATED|MEDIAL) FORM|WITH (DOT ABOVE|RING|TWO DOTS)))|FIVE POINTED ",
    "STAR|FOOTNOTE MARKER|FULL STOP|HALF MADDA OVER MADDA|HAMZA (ABOVE|BELOW)|(INVERTED|REVERSED) ",
    "DAMMA|KASRA(| ((ISOLATED|MEDIAL) FORM|WITH DOT BELOW))|LARGE (CIRCLE BELOW|ROUND DOT (ABOVE|",
    "BELOW|INSIDE CIRCLE BELOW))|LEFT ARROWHEAD (ABOVE|BELOW)|LETTER (AE|GRAF|MARK|AFRICAN (FEH|",
    "NOON|QAF(| WITH THREE DOTS ABOVE))|AIN(| ((FINAL|INITIAL|ISOLATED|MEDIAL) FORM|WITH (THREE ",
    "DOTS (ABOVE|BELOW|POINTING DOWNWARDS ABOVE)|TWO DOTS (ABOVE|VERTICALLY ABOVE))))|ALEF(| ",
    "((FINAL|ISOLATED) FORM|(MAKSURA|WASLA)(| (FINAL|ISOLATED) FORM)|WITH (ATTACHED (BOTTOM RIGHT ",
    "KASRA(| AND (DOT ABOVE|LEFT RING))|FATHA|KASRA|(LEFT|RIGHT) (HAMZA|ROUND DOT)|ROUND DOT ",
    "(ABOVE|BELOW)|TOP RIGHT FATHA(| AND (DOT ABOVE|LEFT RING)))|DOT ABOVE|EXTENDED ARABIC-INDIC ",
    "DIGIT (THREE|TWO) ABOVE|HAMZA (ABOVE|BELOW)(| (FINAL|ISOLATED) FORM)|LEFT MIDDLE STROKE|",
    "MADDA ABOVE(| (FINAL|ISOLATED) FORM)|RIGHT MIDDLE STROKE(| AND (DOT ABOVE|LEFT RING))|WAVY ",
    "HAMZA (ABOVE|BELOW))))|(BEEH|BEHEH|DYEH|E|GUEH|KHAH|NG|NGOEH|NYEH|PEHEH|RNOON|TCHEHEH|TEHEH|",
    "THEH|TTEHEH|VEH|ZAH)(| (FINAL|INITIAL|ISOLATED|MEDIAL) FORM)|BEH(| ((FINAL|INITIAL|ISOLATED|",
    "MEDIAL) FORM|WITH (DOT BELOW AND THREE DOTS ABOVE|HAMZA ABOVE|INVERTED SMALL V BELOW|SMALL ",
    "(MEEM ABOVE|V(| BELOW))|THREE DOTS (HORIZONTALLY BELOW|POINTING UPWARDS BELOW(| AND TWO DOTS ",
    "ABOVE))|TWO DOTS BELOW AND DOT ABOVE)))|(DAD|SHEEN)(| ((FINAL|INITIAL|ISOLATED|MEDIAL) FORM|",
    "WITH DOT BELOW))|(DAHAL|DDAHAL|DDAL|DUL|JEH|OE|RREH|THAL|VE|YU)(| (FINAL|ISOLATED) FORM)|DAL",
    "(| ((FINAL|ISOLATED) FORM|WITH (DOT BELOW(| AND SMALL TAH)|FOUR DOTS ABOVE|INVERTED (SMALL V ",
    "BELOW|V)|RING|THREE DOTS (ABOVE DOWNWARDS|BELOW)|TWO DOTS VERTICALLY BELOW AND SMALL TAH)))|",
    "DOTLESS (BEH|FEH|QAF)|FARSI YEH(| ((FINAL|INITIAL|ISOLATED|MEDIAL) FORM|WITH (EXTENDED ",
    "ARABIC-INDIC DIGIT (FOUR BELOW|(THREE|TWO) ABOVE)|INVERTED V|(THREE|TWO) DOTS ABOVE)))|FEH(| ",
    "((FINAL|INITIAL|ISOLATED|MEDIAL) FORM|WITH (DOT (BELOW(| AND THREE DOTS ABOVE)|MOVED BELOW)|",
    "THREE DOTS (BELOW|POINTING UPWARDS BELOW)|TWO DOTS BELOW)))|GAF(| ((FINAL|INITIAL|ISOLATED|",
    "MEDIAL) FORM|WITH (INVERTED STROKE|RING|THREE DOTS ABOVE|TWO DOTS BELOW)))|GHAIN(| ((FINAL|",
    "INITIAL|ISOLATED|MEDIAL) FORM|WITH (DOT BELOW|THREE DOTS ABOVE)))|HAH(| ((FINAL|INITIAL|",
    "ISOLATED|MEDIAL) FORM|WITH (EXTENDED ARABIC-INDIC DIGIT FOUR BELOW|HAMZA ABOVE|INVERTED ",
    "SMALL V BELOW|SMALL ARABIC LETTER TAH (ABOVE|BELOW|AND TWO DOTS)|THREE DOTS (ABOVE|POINTING ",
    "UPWARDS BELOW)|TWO DOTS (ABOVE|VERTICAL ABOVE))))|HAMZA(| ISOLATED FORM)|HEH(| (DOACHASHMEE",
    "(| (FINAL|INITIAL|ISOLATED|MEDIAL) FORM)|(FINAL|INITIAL|ISOLATED|MEDIAL) FORM|GOAL(| ((FINAL|",
    "INITIAL|ISOLATED|MEDIAL) FORM|WITH HAMZA ABOVE))|WITH (INVERTED V|YEH ABOVE(| (FINAL|",
    "ISOLATED) FORM))))|HIGH HAMZA(| (ALEF|WAW|YEH))|JEEM(| ((FINAL|INITIAL|ISOLATED|MEDIAL) FORM|",
    "WITH (THREE DOTS (ABOVE|BELOW)|TWO DOTS ABOVE)))|KAF(| ((FINAL|INITIAL|ISOLATED|MEDIAL) FORM|",
    "WITH (DOT (ABOVE|BELOW)|RING|THREE DOTS BELOW|TWO DOTS ABOVE)))|(KASHMIRI|ROHINGYA|THIN) YEH|",
    "KEHEH(| ((FINAL|INITIAL|ISOLATED|MEDIAL) FORM|WITH (DOT ABOVE|SMALL V|THREE DOTS (ABOVE|",
    "BELOW|POINTING UPWARDS BELOW)|TWO DOTS (ABOVE|VERTICALLY BELOW))))|KIRGHIZ (OE|YU)(| (FINAL|",
    "ISOLATED) FORM)|LAM(| ((FINAL|INITIAL|ISOLATED|MEDIAL) FORM|WITH (BAR|DOT ABOVE|DOUBLE BAR|",
    "SMALL (ARABIC LETTER TAH ABOVE|V)|THREE DOTS (ABOVE|BELOW))))|(LOW|SUPERSCRIPT) ALEF|MEEM(| ",
    "((FINAL|INITIAL|ISOLATED|MEDIAL) FORM|WITH (DOT (ABOVE|BELOW)|THREE DOTS ABOVE)))|NOON(| ",
    "((FINAL|INITIAL|ISOLATED|MEDIAL) FORM|GHUNNA(| (FINAL|ISOLATED) FORM)|WITH (DOT BELOW|",
    "INVERTED SMALL V|RING|SMALL (TAH|V)|THREE DOTS ABOVE|TWO DOTS BELOW)))|PEH(| ((FINAL|INITIAL|",
    "ISOLATED|MEDIAL) FORM|WITH SMALL (MEEM ABOVE|V)))|QAF(| ((FINAL|INITIAL|ISOLATED|MEDIAL) ",
    "FORM|WITH (DOT (ABOVE|BELOW(| AND NO DOTS ABOVE))|THREE DOTS ABOVE)))|REH(| ((FINAL|",
    "ISOLATED) FORM|WITH (DOT BELOW(| AND DOT ABOVE)|FOUR DOTS ABOVE|HAMZA ABOVE|INVERTED V|LOOP|",
    "RING|STROKE|SMALL (ARABIC LETTER TAH AND TWO DOTS|NOON ABOVE|V(| BELOW))|TWO DOTS (ABOVE|",
    "VERTICALLY ABOVE))))|SAD(| ((FINAL|INITIAL|ISOLATED|MEDIAL) FORM|WITH (THREE DOTS (ABOVE|",
    "BELOW)|TWO DOTS BELOW)))|SEEN(| ((FINAL|INITIAL|ISOLATED|MEDIAL) FORM|WITH (DOT BELOW AND ",
    "DOT ABOVE|EXTENDED ARABIC-INDIC DIGIT FOUR ABOVE|FOUR DOTS ABOVE|INVERTED V|SMALL ARABIC ",
    "LETTER TAH AND TWO DOTS|THREE DOTS BELOW(| AND THREE DOTS ABOVE)|TWO DOTS VERTICALLY ",
    "ABOVE)))|STRAIGHT WAW|SWASH KAF|TAH(| ((FINAL|INITIAL|ISOLATED|MEDIAL) FORM|WITH (DOT BELOW|",
    "THREE DOTS (ABOVE|BELOW)|TWO DOTS ABOVE)))|TCHEH(| ((FINAL|INITIAL|ISOLATED|MEDIAL) FORM|",
    "WITH (DOT ABOVE|SMALL V)))|TEH(| ((FINAL|INITIAL|ISOLATED|MEDIAL) FORM|MARBUTA(| ((FINAL|",
    "ISOLATED) FORM|GOAL))|WITH (RING|SMALL (TEH ABOVE|V)|THREE DOTS ABOVE DOWNWARDS)))|TTEH(| ",
    "((FINAL|INITIAL|ISOLATED|MEDIAL) FORM|WITH SMALL V))|U(| ((FINAL|ISOLATED) FORM|WITH HAMZA ",
    "ABOVE(| ISOLATED FORM)))|UIGHUR KAZAKH KIRGHIZ ALEF MAKSURA (INITIAL|MEDIAL) FORM|WAW(| ",
    "((FINAL|ISOLATED) FORM|WITH (DOT (ABOVE|WITHIN)|EXTENDED ARABIC-INDIC DIGIT (THREE|TWO) ",
    "ABOVE|HAMZA ABOVE(| (FINAL|ISOLATED) FORM)|RING|TWO DOTS ABOVE)))|YEH(| (BARREE(| ((FINAL|",
    "ISOLATED) FORM|WITH (EXTENDED ARABIC-INDIC DIGIT (THREE|TWO) ABOVE|HAMZA ABOVE(| (FINAL|",
    "ISOLATED) FORM))))|(FINAL|INITIAL|ISOLATED|MEDIAL) FORM|WITH (HAMZA ABOVE(| (FINAL|INITIAL|",
    "ISOLATED|MEDIAL) FORM)|SMALL V|TAIL|THREE DOTS BELOW|TWO DOTS BELOW AND ((DOT|HAMZA) ABOVE|",
    "SMALL NOON ABOVE))))|ZAIN(| ((FINAL|ISOLATED) FORM|WITH INVERTED V ABOVE)))|LIGATURE (AIN ",
    "WITH (ALEF MAKSURA (FINAL|ISOLATED) FORM|JEEM ((INITIAL|ISOLATED) FORM|WITH MEEM (FINAL|",
    "INITIAL) FORM)|MEEM ((INITIAL|ISOLATED) FORM|WITH (ALEF MAKSURA FINAL FORM|MEEM (FINAL|",
    "INITIAL) FORM|YEH FINAL FORM))|YEH (FINAL|ISOLATED) FORM)|(AKBAR|ALAYHE|ALLAH|MOHAMMAD|",
    "RASOUL|SALAM|WASALLAM) ISOLATED FORM|(ALAYHAA|ALAYHIM|ALAYHIMAA) AS-SALAAM|ALAYHI (AS-SALAAM|",
    "AS-SALAATU WAS-SALAAM)|ALEF (MAKSURA WITH SUPERSCRIPT ALEF (FINAL|ISOLATED) FORM|WITH ",
    "FATHATAN (FINAL|ISOLATED) FORM)|AZZA WA JALL|BEH WITH (ALEF MAKSURA (FINAL|ISOLATED) FORM|",
    "(HAH|KHAH) ((INITIAL|ISOLATED) FORM|WITH YEH FINAL FORM)|HEH (INITIAL|MEDIAL) FORM|JEEM ",
    "(INITIAL|ISOLATED) FORM|MEEM (FINAL|INITIAL|ISOLATED|MEDIAL) FORM|(NOON|REH|ZAIN) FINAL FORM|",
    "YEH (FINAL|ISOLATED) FORM)|BISMILLAH AR-RAHMAN AR-RAHEEM|DAD WITH (ALEF MAKSURA (FINAL|",
    "ISOLATED) FORM|HAH ((INITIAL|ISOLATED) FORM|WITH (ALEF MAKSURA FINAL FORM|YEH FINAL FORM))|",
    "(JEEM|MEEM) (INITIAL|ISOLATED) FORM|KHAH ((INITIAL|ISOLATED) FORM|WITH MEEM (FINAL|INITIAL) ",
    "FORM)|(REH|YEH) (FINAL|ISOLATED) FORM)|FEH WITH (ALEF MAKSURA (FINAL|ISOLATED) FORM|(HAH|",
    "JEEM) (INITIAL|ISOLATED) FORM|KHAH ((INITIAL|ISOLATED) FORM|WITH MEEM (FINAL|INITIAL) FORM)|",
    "MEEM ((INITIAL|ISOLATED) FORM|WITH YEH FINAL FORM)|YEH (FINAL|ISOLATED) FORM)|GHAIN WITH ",
    "(ALEF MAKSURA (FINAL|ISOLATED) FORM|JEEM (INITIAL|ISOLATED) FORM|MEEM ((INITIAL|ISOLATED) ",
    "FORM|WITH (ALEF MAKSURA FINAL FORM|(MEEM|YEH) FINAL FORM))|YEH (FINAL|ISOLATED) FORM)|HAH ",
    "WITH (ALEF MAKSURA (FINAL|ISOLATED) FORM|JEEM ((INITIAL|ISOLATED) FORM|WITH YEH FINAL FORM)|",
    "MEEM ((INITIAL|ISOLATED) FORM|WITH (ALEF MAKSURA FINAL FORM|YEH FINAL FORM))|YEH (FINAL|",
    "ISOLATED) FORM)|HEH WITH (ALEF MAKSURA ISOLATED FORM|JEEM (INITIAL|ISOLATED) FORM|MEEM ",
    "((INITIAL|ISOLATED) FORM|WITH (JEEM|MEEM) INITIAL FORM)|SUPERSCRIPT ALEF INITIAL FORM|YEH ",
    "ISOLATED FORM)|JALLAJALALOUHOU|JEEM WITH (ALEF MAKSURA (FINAL|ISOLATED) FORM|HAH ((INITIAL|",
    "ISOLATED) FORM|WITH (ALEF MAKSURA FINAL FORM|YEH FINAL FORM))|MEEM ((INITIAL|ISOLATED) FORM|",
    "WITH (ALEF MAKSURA FINAL FORM|HAH (FINAL|INITIAL) FORM|YEH FINAL FORM))|YEH (FINAL|ISOLATED) ",
    "FORM)|KAF WITH (ALEF ((FINAL|ISOLATED) FORM|MAKSURA (FINAL|ISOLATED) FORM)|(HAH|JEEM|KHAH) ",
    "(INITIAL|ISOLATED) FORM|LAM (FINAL|INITIAL|ISOLATED|MEDIAL) FORM|MEEM ((FINAL|INITIAL|",
    "ISOLATED|MEDIAL) FORM|WITH (MEEM (FINAL|INITIAL) FORM|YEH FINAL FORM))|YEH (FINAL|ISOLATED) ",
    "FORM)|KHAH WITH (ALEF MAKSURA (FINAL|ISOLATED) FORM|HAH ISOLATED FORM|(JEEM|MEEM) (INITIAL|",
    "ISOLATED) FORM|YEH (FINAL|ISOLATED) FORM)|LAM WITH (ALEF ((FINAL|ISOLATED) FORM|MAKSURA ",
    "(FINAL|ISOLATED) FORM|WITH (HAMZA (ABOVE|BELOW) (FINAL|ISOLATED) FORM|MADDA ABOVE (FINAL|",
    "ISOLATED) FORM))|HAH ((INITIAL|ISOLATED) FORM|WITH (ALEF MAKSURA FINAL FORM|MEEM (FINAL|",
    "INITIAL) FORM|YEH FINAL FORM))|HEH INITIAL FORM|JEEM ((INITIAL|ISOLATED) FORM|WITH ((JEEM|",
    "MEEM) (FINAL|INITIAL) FORM|YEH FINAL FORM))|KHAH ((INITIAL|ISOLATED) FORM|WITH MEEM (FINAL|",
    "INITIAL) FORM)|MEEM ((FINAL|INITIAL|ISOLATED|MEDIAL) FORM|WITH (HAH (FINAL|INITIAL) FORM|YEH ",
    "FINAL FORM))|YEH (FINAL|ISOLATED) FORM)|MEEM WITH (ALEF (FINAL FORM|MAKSURA ISOLATED FORM)|",
    "(HAH|KHAH) ((INITIAL|ISOLATED) FORM|WITH ((JEEM|MEEM) INITIAL FORM|YEH FINAL FORM))|JEEM ",
    "((INITIAL|ISOLATED) FORM|WITH ((HAH|KHAH|MEEM) INITIAL FORM|YEH FINAL FORM))|MEEM ((FINAL|",
    "INITIAL|ISOLATED) FORM|WITH YEH FINAL FORM)|YEH ISOLATED FORM)|NOON WITH (ALEF MAKSURA ",
    "(FINAL|ISOLATED) FORM|HAH ((INITIAL|ISOLATED) FORM|WITH (ALEF MAKSURA FINAL FORM|MEEM ",
    "INITIAL FORM|YEH FINAL FORM))|HEH (INITIAL|MEDIAL) FORM|JEEM ((INITIAL|ISOLATED) FORM|WITH ",
    "(ALEF MAKSURA FINAL FORM|(HAH|MEEM) (FINAL|INITIAL) FORM|YEH FINAL FORM))|KHAH (INITIAL|",
    "ISOLATED) FORM|MEEM ((FINAL|INITIAL|ISOLATED|MEDIAL) FORM|WITH (ALEF MAKSURA FINAL FORM|YEH ",
    "FINAL FORM))|(NOON|REH|ZAIN) FINAL FORM|YEH (FINAL|ISOLATED) FORM)|QAF WITH (ALEF MAKSURA ",
    "(FINAL|ISOLATED) FORM|HAH (INITIAL|ISOLATED) FORM|MEEM ((INITIAL|ISOLATED) FORM|WITH (HAH ",
    "(FINAL|INITIAL) FORM|(MEEM|YEH) FINAL FORM))|YEH (FINAL|ISOLATED) FORM)|QALA USED AS KORANIC ",
    "STOP SIGN ISOLATED FORM|QUDDISA SIRRAH|RADI ALLAAHU (ANH|ANHAA|ANHUM|ANHUMAA|ANHUNNA)|",
    "(RAHIMAHU|RAHIMAHUM) ALLAAH|(REH|THAL) WITH SUPERSCRIPT ALEF ISOLATED FORM|SAD WITH (ALEF ",
    "MAKSURA (FINAL|ISOLATED) FORM|HAH ((INITIAL|ISOLATED) FORM|WITH (HAH (FINAL|INITIAL) FORM|",
    "YEH FINAL FORM))|KHAH INITIAL FORM|MEEM ((INITIAL|ISOLATED) FORM|WITH MEEM (FINAL|INITIAL) ",
    "FORM)|(REH|YEH) (FINAL|ISOLATED) FORM)|SALAAMUHU ALAYNAA|SALLA (ISOLATED FORM|USED AS ",
    "KORANIC STOP SIGN ISOLATED FORM)|SALLALLAAHU ALAYHI WA-AALIH|SALLALLAHOU ALAYHE WASALLAM|",
    "SALLALLAHU ALAYHI WAAALIHEE WA-SALLAM|SEEN WITH (ALEF MAKSURA (FINAL|ISOLATED) FORM|HAH ",
    "((INITIAL|ISOLATED|MEDIAL) FORM|WITH JEEM INITIAL FORM)|HEH (INITIAL|MEDIAL) FORM|JEEM ",
    "((INITIAL|ISOLATED|MEDIAL) FORM|WITH (ALEF MAKSURA FINAL FORM|HAH INITIAL FORM))|KHAH ",
    "((INITIAL|ISOLATED|MEDIAL) FORM|WITH (ALEF MAKSURA FINAL FORM|YEH FINAL FORM))|MEEM ",
    "((INITIAL|ISOLATED|MEDIAL) FORM|WITH ((HAH|MEEM) (FINAL|INITIAL) FORM|JEEM INITIAL FORM))|",
    "(REH|YEH) (FINAL|ISOLATED) FORM)|SHADDA WITH ((DAMMA|FATHA|KASRA) (ISOLATED|MEDIAL) FORM|",
    "(DAMMATAN|KASRATAN) ISOLATED FORM|SUPERSCRIPT ALEF ISOLATED FORM)|SHEEN WITH (ALEF MAKSURA ",
    "(FINAL|ISOLATED) FORM|HAH ((FINAL|INITIAL|ISOLATED|MEDIAL) FORM|WITH (MEEM (FINAL|INITIAL) ",
    "FORM|YEH FINAL FORM))|HEH (INITIAL|MEDIAL) FORM|JEEM ((FINAL|INITIAL|ISOLATED|MEDIAL) FORM|",
    "WITH YEH FINAL FORM)|KHAH (FINAL|INITIAL|ISOLATED|MEDIAL) FORM|MEEM ((FINAL|INITIAL|ISOLATED|",
    "MEDIAL) FORM|WITH (KHAH|MEEM) (FINAL|INITIAL) FORM)|(REH|YEH) (FINAL|ISOLATED) FORM)|",
    "SUBHAANAHU WA TAAALAA|TABAARAKA WA-TAAALAA|TAH WITH (ALEF MAKSURA (FINAL|ISOLATED) FORM|HAH ",
    "(INITIAL|ISOLATED) FORM|MEEM ((INITIAL|ISOLATED|MEDIAL) FORM|WITH (HAH (FINAL|INITIAL) FORM|",
    "MEEM INITIAL FORM|YEH FINAL FORM))|YEH (FINAL|ISOLATED) FORM)|TEH WITH (ALEF MAKSURA (FINAL|",
    "ISOLATED) FORM|HAH ((INITIAL|ISOLATED) FORM|WITH (JEEM (FINAL|INITIAL) FORM|MEEM INITIAL ",
    "FORM))|HEH (INITIAL|MEDIAL) FORM|(JEEM|KHAH) ((INITIAL|ISOLATED) FORM|WITH (ALEF MAKSURA ",
    "FINAL FORM|MEEM INITIAL FORM|YEH FINAL FORM))|MEEM ((FINAL|INITIAL|ISOLATED|MEDIAL) FORM|",
    "WITH (ALEF MAKSURA FINAL FORM|(HAH|JEEM|KHAH) INITIAL FORM|YEH FINAL FORM))|(NOON|REH|ZAIN) ",
    "FINAL FORM|YEH (FINAL|ISOLATED) FORM)|THEH WITH (ALEF MAKSURA (FINAL|ISOLATED) FORM|HEH ",
    "MEDIAL FORM|JEEM ISOLATED FORM|MEEM (FINAL|INITIAL|ISOLATED|MEDIAL) FORM|(NOON|REH|ZAIN) ",
    "FINAL FORM|YEH (FINAL|ISOLATED) FORM)|UIGHUR KIRGHIZ YEH WITH HAMZA ABOVE WITH ALEF MAKSURA ",
    "(FINAL|INITIAL|ISOLATED) FORM|YEH WITH (ALEF MAKSURA (FINAL|ISOLATED) FORM|(HAH|JEEM) ",
    "((INITIAL|ISOLATED) FORM|WITH YEH FINAL FORM)|HAMZA ABOVE WITH ((AE|OE|U|WAW|YEH|YU) (FINAL|",
    "ISOLATED) FORM|ALEF ((FINAL|ISOLATED) FORM|MAKSURA (FINAL|ISOLATED) FORM)|E (FINAL|INITIAL|",
    "ISOLATED) FORM|(HAH|JEEM) (INITIAL|ISOLATED) FORM|HEH (INITIAL|MEDIAL) FORM|KHAH INITIAL ",
    "FORM|MEEM (FINAL|INITIAL|ISOLATED|MEDIAL) FORM|(NOON|REH|ZAIN) FINAL FORM)|HEH (INITIAL|",
    "MEDIAL) FORM|KHAH (INITIAL|ISOLATED) FORM|MEEM ((FINAL|INITIAL|ISOLATED|MEDIAL) FORM|WITH ",
    "(MEEM (FINAL|INITIAL) FORM|YEH FINAL FORM))|(NOON|REH|ZAIN) FINAL FORM|YEH (FINAL|ISOLATED) ",
    "FORM)|ZAH WITH MEEM (INITIAL|ISOLATED|MEDIAL) FORM)|MADDA WAAJIB|MADDAH ABOVE|MARK (NOON ",
    "GHUNNA|SIDEWAYS NOON GHUNNA)|MATHEMATICAL (AIN|ALEF|BEH|DAD|DAL|FEH|GHAIN|HAH|JEEM|KAF|KHAH|",
    "LAM|MEEM|NOON|QAF|REH|SAD|SEEN|SHEEN|TAH|TEH|THAL|THEH|WAW|YEH|ZAH|ZAIN|DOTLESS (BEH|FEH|",
    "NOON|QAF)|DOUBLE-STRUCK (AIN|BEH|DAD|DAL|FEH|GHAIN|HAH|JEEM|KHAH|LAM|MEEM|NOON|QAF|REH|SAD|",
    "SEEN|SHEEN|TAH|TEH|THAL|THEH|WAW|YEH|ZAH|ZAIN)|INITIAL (AIN|BEH|DAD|FEH|GHAIN|HAH|HEH|JEEM|",
    "KAF|KHAH|LAM|MEEM|NOON|QAF|SAD|SEEN|SHEEN|TEH|THEH|YEH)|LOOPED (AIN|ALEF|BEH|DAD|DAL|FEH|",
    "GHAIN|HAH|HEH|JEEM|KHAH|LAM|MEEM|NOON|QAF|REH|SAD|SEEN|SHEEN|TAH|TEH|THAL|THEH|WAW|YEH|ZAH|",
    "ZAIN)|OPERATOR (HAH WITH DAL|MEEM WITH HAH WITH TATWEEL)|STRETCHED (AIN|BEH|DAD|FEH|GHAIN|",
    "HAH|HEH|JEEM|KAF|KHAH|MEEM|NOON|QAF|SAD|SEEN|SHEEN|TAH|TEH|THEH|YEH|ZAH|DOTLESS (BEH|FEH))|",
    "TAILED (AIN|DAD|GHAIN|HAH|JEEM|KHAH|LAM|NOON|QAF|SAD|SEEN|SHEEN|YEH|DOTLESS (NOON|QAF)))|",
    "NUMBER (MARK ABOVE|SIGN)|OPEN (DAMMATAN|FATHATAN|KASRATAN)|PERCENT SIGN|(PIASTRE|POUND) MARK ",
    "ABOVE|PLACE OF SAJDAH|POETIC VERSE SIGN|QUESTION MARK|RIGHT ARROWHEAD (ABOVE(| WITH DOT)|",
    "BELOW)|ROUNDED HIGH STOP WITH FILLED CENTRE|SHADDA(| (ISOLATED|MEDIAL) FORM)|SIGN (ALAYHE ",
    "ASSALLAM|MISRA|SAFHA|SAMVAT|SANAH|TAKHALLUS|RADI ALLAHOU ANHU|RAHMATULLAH ALAYHE|SALLALLAHOU ",
    "ALAYHE WASSALLAM|SINDHI (AMPERSAND|POSTPOSITION MEN))|SMALL (DAMMA|FATHA|KASRA|WAW|YEH|FARSI ",
    "YEH|HIGH (AIN|JEEM|MADDA|QAF|SAD|SEEN|TAH|WAW|ZAH|ZAIN|DOTLESS HEAD OF KHAH|FARSI YEH|",
    "FOOTNOTE MARKER|LAM ALEF|LIGATURE (ALEF WITH LAM WITH YEH|(QAF|SAD) WITH LAM WITH ALEF ",
    "MAKSURA)|MEEM (INITIAL|ISOLATED) FORM|NOON(| WITH KASRA)|ROUNDED ZERO|SIGN SAFHA|THREE DOTS|",
    "UPRIGHT RECTANGULAR ZERO|WORD (AL-JUZ|AN-NISF|AR-RUB|AS-SAJDA|ATH-THALATHA|QIF|SAH|SAKTA|",
    "WAQFA)|YEH(| BARREE WITH TWO DOTS BELOW))|LOW (MEEM|SEEN|WAW|NOON WITH KASRA|WORD (IMAALA|",
    "ISHMAAM|TASHEEL)))|START OF RUB EL HIZB|SUBSCRIPT ALEF|SUKUN(| (BELOW|(ISOLATED|MEDIAL) ",
    "FORM))|SUPERSCRIPT ALEF MOKHASSAS|SYMBOL (DOT (ABOVE|BELOW)|DOUBLE VERTICAL BAR BELOW|FOUR ",
    "DOTS (ABOVE|BELOW)|RING|SMALL TAH (ABOVE|BELOW)|THREE DOTS (ABOVE|BELOW|POINTING DOWNWARDS ",
    "(ABOVE|BELOW))|TWO DOTS (ABOVE|BELOW|VERTICALLY (ABOVE|BELOW))|WASLA ABOVE)|TAIL FRAGMENT|",
    "TATWEEL(| WITH (FATHATAN ABOVE|OVERSTRUCK (HAMZA|WAW)|TWO DOTS BELOW))|TONE (LOOP (ABOVE|",
    "BELOW)|ONE DOT (ABOVE|BELOW)|TWO DOTS (ABOVE|BELOW))|TRIPLE DOT PUNCTUATION MARK|TURNED ",
    "DAMMA BELOW|VERTICAL TAIL|VOWEL SIGN (DOT BELOW|INVERTED SMALL V ABOVE|SMALL V ABOVE)|WAVY ",
    "HAMZA BELOW)|ARABIC-INDIC ((CUBE|FOURTH) ROOT|DIGIT (EIGHT|FIVE|FOUR|NINE|ONE|SEVEN|SIX|",
    "THREE|TWO|ZERO)|PER (MILLE SIGN|TEN THOUSAND SIGN))|ARMENIAN ((ABBREVIATION|EMPHASIS|",
    "EXCLAMATION|QUESTION) MARK|APOSTROPHE|COMMA|HYPHEN|CAPITAL LETTER (AYB|BEN|CA|CHA|CHEH|CO|DA|",
    "ECH|EH|ET|FEH|GHAD|GIM|HO|INI|JA|JHEH|KEH|KEN|LIWN|MEN|NOW|OH|PEH|PIWR|RA|REH|SEH|SHA|TIWN|",
    "TO|VEW|VO|XEH|YI|YIWN|ZA|ZHE)|DRAM SIGN|FULL STOP|MODIFIER LETTER LEFT HALF RING|SMALL ",
    "(LETTER (AYB|BEN|CA|CHA|CHEH|CO|DA|ECH|EH|ET|FEH|GHAD|GIM|HO|INI|JA|JHEH|KEH|KEN|LIWN|MEN|",
    "NOW|OH|PEH|PIWR|RA|REH|SEH|SHA|TIWN|TO|VEW|VO|XEH|YIWN|ZA|ZHE|TURNED AYB|YI(| WITH STROKE))|",
    "LIGATURE (ECH YIWN|MEN (ECH|INI|NOW|XEH)|VEW NOW)))|ARROW POINTING (DOWNWARDS THEN CURVING ",
    "(LEFTWARDS|RIGHTWARDS)|RIGHTWARDS THEN CURVING (DOWNWARDS|UPWARDS|SOUTH WEST)|UPWARDS THEN ",
    "NORTH WEST)|ARROWHEAD-SHAPED POINTER|ARTICULATED LORRY|ARTIST PALETTE|ASCENDING NODE|ASTERISK",
    "(| OPERATOR)|ASTRONOMICAL SYMBOL FOR URANUS|ASYMPTOTICALLY EQUAL TO|ATHLETIC SHOE|AUTO ",
    "RICKSHAW|AUTOMATED TELLER MACHINE|AVESTAN (ABBREVIATION MARK|LETTER (A|AA|AAN|AAO|AE|AEE|AN|",
    "AO|BE|BHE|CE|DE|DHE|E|EE|FE|GE|GGE|GHE|HE|HME|I|II|JE|KE|LE|ME|NE|NGE|NGVE|NGYE|NNE|NYE|O|OO|",
    "PE|RE|SE|SHE|SHYE|SSHE|TE|THE|TTE|U|UU|VE|XE|XVE|XYE|YE|YYE|ZE|ZHE))"]

end GraphBind.Text.CharacterName
