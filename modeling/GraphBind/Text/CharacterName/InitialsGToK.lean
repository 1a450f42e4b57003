/-!
# Character names with the initials G to K

The names of characters that begin with the letters from G to K, as patterns.
-/

namespace GraphBind.Text.CharacterName

/-- The names with the initial G. -/
def initialG : String :=
  String.join [
    "GAME DIE|GARLIC|GEMINI|GENIE|GHOST|GIRL|GLOVES|GOAT|GOGGLES|GOLFER|GORILLA|GRAPES|GS|",
    "GUARDSMAN|GUITAR|GEAR(| (WITH HANDLES|WITHOUT HUB))|GEM STONE|GEOMETRIC PROPORTION|",
    "GEOMETRICALLY (EQUAL|EQUIVALENT) TO|GEORGIAN ((CAPITAL|SMALL) LETTER (AEN|AN|BAN|CAN|CHAR|",
    "CHIN|CIL|DON|EN|GAN|GHAN|HAE|HAR|HE|HIE|HOE|IN|JHAN|JIL|KAN|KHAR|LAS|MAN|NAR|ON|PAR|PHAR|QAR|",
    "RAE|SAN|SHIN|TAN|TAR|UN|VIN|WE|XAN|YN|ZEN|ZHAR)|LETTER (AEN|AIN|AN|BAN|CAN|CHAR|CHIN|CIL|DON|",
    "ELIFI|EN|FI|GAN|GHAN|HAE|HAR|HE|HIE|HOE|IN|JHAN|JIL|KAN|KHAR|LAS|MAN|NAR|ON|PAR|PHAR|QAR|RAE|",
    "SAN|SHIN|TAN|TAR|UN|VIN|WE|XAN|YN|ZEN|ZHAR|(HARD|LABIAL) SIGN|TURNED GAN)|MTAVRULI CAPITAL ",
    "LETTER (AEN|AIN|AN|BAN|CAN|CHAR|CHIN|CIL|DON|ELIFI|EN|FI|GAN|GHAN|HAE|HAR|HE|HIE|HOE|IN|JHAN|",
    "JIL|KAN|KHAR|LAS|MAN|NAR|ON|PAR|PHAR|QAR|RAE|SAN|SHIN|TAN|TAR|UN|VIN|WE|XAN|YN|ZEN|ZHAR|",
    "(HARD|LABIAL) SIGN|TURNED GAN)|PARAGRAPH SEPARATOR)|GERMAN PENNY SIGN|GETA MARK|(GIMEL|",
    "GIRLS) SYMBOL|(GIRAFFE|GRIMACING) FACE|GLAGOLITIC (CAPITAL|SMALL) LETTER (AZU|BUKY|CHRIVI|",
    "DJERVI|DOBRO|DZELO|FITA|FRITU|GLAGOLI|HERU|I|IZHE|IZHITSA|KAKO|LJUDIJE|MYSLITE|NASHI|ONU|OTU|",
    "PE|POKOJI|RITSI|SHA|SHTA|SHTAPIC|SLOVO|TSI|TVRIDO|UKU|VEDE|YATI|YERI|YERU|YESTU|YO|YU|ZEMLJA|",
    "ZHIVETE|BIG YUS|CAUDATE CHRIVI|INITIAL IZHE|IOTATED (BIG|SMALL) YUS|LATINATE MYSLITE|SMALL ",
    "YUS(| WITH TAIL)|SPIDERY HA|TROKUTASTI A)|GLASS OF MILK|GLEICH STARK|GLOBE WITH MERIDIANS|",
    "GLOWING STAR|GOAL NET|GOTHIC LETTER (AHSA|AIHVUS|BAIRKAN|DAGS|EIS|FAIHU|GIBA|HAGL|HWAIR|",
    "IGGWS|IUJA|JER|KUSMA|LAGUS|MANNA|NAUTHS|NINETY|OTHAL|PAIRTHRA|QAIRTHRA|RAIDA|SAUIL|TEIWS|",
    "THIUTH|URUS|WINJA|NINE HUNDRED)|GRADUATION CAP|GRANTHA (AU LENGTH MARK|LETTER (A|AA|AI|AU|BA|",
    "BHA|CA|CHA|DA|DDA|DDHA|DHA|EE|GA|GHA|HA|I|II|JA|JHA|KA|KHA|LA|LLA|MA|NA|NGA|NNA|NYA|OO|PA|",
    "PHA|RA|SA|SHA|SSA|TA|THA|TTA|TTHA|U|UU|VA|YA|VEDIC (ANUSVARA|DOUBLE ANUSVARA)|VOCALIC (L|LL|",
    "R|RR))|OM|SIGN (ANUSVARA|AVAGRAHA|CANDRABINDU|NUKTA|PLUTA|VIRAMA|VISARGA|COMBINING ANUSVARA ",
    "ABOVE)|VOWEL SIGN (AA|AI|AU|EE|I|II|OO|U|UU|VOCALIC (L|LL|R|RR)))|GRAVE ACCENT|GREATER-THAN ",
    "(ABOVE (DOUBLE-LINE EQUAL ABOVE LESS-THAN|LESS-THAN ABOVE DOUBLE-LINE EQUAL|RIGHTWARDS ARROW|",
    "SIMILAR (ABOVE LESS-THAN|OR EQUAL)|SLANTED EQUAL ABOVE LESS-THAN ABOVE SLANTED EQUAL)|AND ",
    "(NOT APPROXIMATE|SINGLE-LINE NOT EQUAL TO)|(BESIDE|OVERLAPPING) LESS-THAN|BUT NOT (EQUAL|",
    "EQUIVALENT) TO|CLOSED BY CURVE(| ABOVE SLANTED EQUAL)|EQUAL TO OR LESS-THAN|OR (APPROXIMATE|",
    "LESS-THAN|(EQUAL|EQUIVALENT) TO|SLANTED EQUAL TO(| WITH DOT (ABOVE(| LEFT)|INSIDE)))|OVER ",
    "EQUAL TO|SIGN|WITH (CIRCLE INSIDE|DOT|QUESTION MARK ABOVE))|GREEK (ACROPHONIC (ATTIC (FIFTY",
    "(| (STATERS|TALENTS|THOUSAND(| STATERS)))|FIVE(| (HUNDRED(| (STATERS|TALENTS))|STATERS|",
    "TALENTS|THOUSAND(| TALENTS)))|ONE (DRACHMA|HALF|QUARTER|(HUNDRED|THOUSAND) (STATERS|",
    "TALENTS))|TEN (MNAS|STATERS|TALENTS|THOUSAND STATERS))|(CARYSTIAN|NAXIAN) FIVE HUNDRED|",
    "CYRENAIC TWO DRACHMAS|DELPHIC FIVE MNAS|EPIDAUREAN (FIVE HUNDRED|TWO(| DRACHMAS))|HERAEUM ",
    "ONE PLETHRON|HERMIONIAN (FIFTY|ONE|TEN)|MESSENIAN TEN|STRATIAN FIFTY MNAS|THESPIAN (FIFTY|",
    "TEN|THIRTY|TWO|FIVE (HUNDRED|THOUSAND)|ONE(| (HUNDRED|THOUSAND))|THREE HUNDRED)|TROEZENIAN ",
    "((FIFTY|TEN)(| ALTERNATE FORM)|FIVE(| HUNDRED)))|ANO TELEIA|(AROURA|ARTABE|DRACHMA|GRAMMA|",
    "INDICTION|LITRA|METRETES|NUMERAL|OBOL|OUNKIA|SINUSOID|TALENT|XESTES|YEAR|ZERO) SIGN|(BETA|",
    "KAI|KAPPA|PHI|PI|THETA) SYMBOL|CAPITAL (DOTTED LUNATE SIGMA SYMBOL|(KAI|THETA) SYMBOL|LETTER ",
    "(ALPHA(| WITH ((DASIA|PSILI)(| AND ((OXIA|PERISPOMENI|VARIA)(| AND PROSGEGRAMMENI)|",
    "PROSGEGRAMMENI))|MACRON|OXIA|PROSGEGRAMMENI|TONOS|VARIA|VRACHY))|ARCHAIC SAMPI|BETA|CHI|",
    "DELTA|GAMMA|HETA|KAPPA|LAMDA|MU|NU|PHI|PI|PSI|SAN|SHO|SIGMA|TAU|THETA|XI|YOT|ZETA|(EPSILON|",
    "OMICRON)(| WITH ((DASIA|PSILI)(| AND (OXIA|VARIA))|OXIA|TONOS|VARIA))|(ETA|OMEGA)(| WITH ",
    "((DASIA|PSILI)(| AND ((OXIA|PERISPOMENI|VARIA)(| AND PROSGEGRAMMENI)|PROSGEGRAMMENI))|OXIA|",
    "PROSGEGRAMMENI|TONOS|VARIA))|IOTA(| WITH ((DASIA|PSILI)(| AND (OXIA|PERISPOMENI|VARIA))|",
    "DIALYTIKA|MACRON|OXIA|TONOS|VARIA|VRACHY))|PAMPHYLIAN DIGAMMA|RHO(| WITH DASIA)|UPSILON(| ",
    "WITH (DASIA(| AND (OXIA|PERISPOMENI|VARIA))|DIALYTIKA|MACRON|OXIA|TONOS|VARIA|VRACHY)))|",
    "LUNATE SIGMA SYMBOL|REVERSED (DOTTED LUNATE SIGMA SYMBOL|LUNATE SIGMA SYMBOL))|(DASIA|PSILI)",
    "(| AND (OXIA|PERISPOMENI|VARIA))|DIALYTIKA (AND (OXIA|PERISPOMENI|VARIA)|TONOS)|(FIVE|FOUR) ",
    "OBOLS SIGN|INSTRUMENTAL NOTATION SYMBOL-(1(|1|2|3|4|7|8|9)|2(|3|4|5|6|7|9)|3(0|2|6|7|8|9)|4",
    "(|0|2|3|5|7|8|9)|5(|0|1|2|3|4)|7|8)|KORONIS|OXIA|PERISPOMENI|PROSGEGRAMMENI|TONOS|VARIA|",
    "YPOGEGRAMMENI|(KYATHOS|TRYBLION) BASE SIGN|LETTER (ARCHAIC KOPPA|DIGAMMA|KOPPA|SAMPI|STIGMA|",
    "YOT|SMALL CAPITAL (GAMMA|LAMDA|OMEGA|PI|PSI|RHO))|LOWER NUMERAL SIGN|LUNATE (EPSILON|SIGMA) ",
    "SYMBOL|MUSICAL LEIMMA|ONE (HALF SIGN(| ALTERNATE FORM)|QUARTER SIGN)|QUESTION MARK|REVERSED ",
    "LUNATE EPSILON SYMBOL|RHO (SYMBOL|WITH STROKE SYMBOL)|SMALL (DOTTED LUNATE SIGMA SYMBOL|",
    "LETTER (ALPHA(| WITH ((DASIA|PSILI)(| AND ((OXIA|PERISPOMENI|VARIA)(| AND YPOGEGRAMMENI)|",
    "YPOGEGRAMMENI))|MACRON|TONOS|VRACHY|YPOGEGRAMMENI|(OXIA|PERISPOMENI|VARIA)(| AND ",
    "YPOGEGRAMMENI)))|ARCHAIC (KOPPA|SAMPI)|BETA|CHI|DELTA|DIGAMMA|GAMMA|HETA|KAPPA|KOPPA|LAMDA|",
    "MU|NU|PHI|PI|PSI|SAMPI|SAN|SHO|SIGMA|STIGMA|TAU|THETA|XI|ZETA|(EPSILON|OMICRON)(| WITH ",
    "((DASIA|PSILI)(| AND (OXIA|VARIA))|OXIA|TONOS|VARIA))|(ETA|OMEGA)(| WITH ((DASIA|PSILI)(| ",
    "AND ((OXIA|PERISPOMENI|VARIA)(| AND YPOGEGRAMMENI)|YPOGEGRAMMENI))|(OXIA|PERISPOMENI|VARIA)",
    "(| AND YPOGEGRAMMENI)|TONOS|YPOGEGRAMMENI))|FINAL SIGMA|(IOTA|UPSILON)(| WITH ((DASIA|PSILI)",
    "(| AND (OXIA|PERISPOMENI|VARIA))|DIALYTIKA(| AND (OXIA|PERISPOMENI|TONOS|VARIA))|MACRON|OXIA|",
    "PERISPOMENI|TONOS|VARIA|VRACHY))|PAMPHYLIAN DIGAMMA|RHO(| WITH (DASIA|PSILI)))|REVERSED ",
    "(DOTTED LUNATE SIGMA SYMBOL|LUNATE SIGMA SYMBOL))|SUBSCRIPT SMALL LETTER (BETA|CHI|GAMMA|PHI|",
    "RHO)|SYMBOL TAU RHO|THREE (OBOLS|QUARTERS) SIGN|TWO (OBOLS|THIRDS) SIGN|UPSILON WITH ((ACUTE|",
    "DIAERESIS) AND HOOK SYMBOL|HOOK SYMBOL)|VOCAL NOTATION SYMBOL-(1(|0|1|2|3|4|5|6|7|8|9)|(2|5)",
    "(|0|1|2|3|4)|3|4|6|7|8|9))|GREEN (APPLE|BOOK|HEART|SALAD)|GRINNING (CAT FACE WITH SMILING ",
    "EYES|FACE(| WITH (ONE LARGE AND ONE SMALL EYE|(SMILING|STAR) EYES)))|GROUP (MARK|SEPARATOR)|",
    "GROWING HEART|GUARANI SIGN|GUIDE DOG|GUJARATI ((ABBREVIATION|RUPEE) SIGN|DIGIT (EIGHT|FIVE|",
    "FOUR|NINE|ONE|SEVEN|SIX|THREE|TWO|ZERO)|LETTER (A|AA|AI|AU|BA|BHA|CA|CHA|DA|DDA|DDHA|DHA|E|",
    "GA|GHA|HA|I|II|JA|JHA|KA|KHA|LA|LLA|MA|NA|NGA|NNA|NYA|O|PA|PHA|RA|SA|SHA|SSA|TA|THA|TTA|TTHA|",
    "U|UU|VA|YA|ZHA|VOCALIC (L|LL|R|RR))|OM|SIGN (ANUSVARA|AVAGRAHA|CANDRABINDU|MADDAH|NUKTA|",
    "SHADDA|SUKUN|VIRAMA|VISARGA|(CIRCLE|THREE-DOT|TWO-CIRCLE) NUKTA ABOVE)|VOWEL (CANDRA (E|O)|",
    "SIGN (AA|AI|AU|E|I|II|O|U|UU|CANDRA (E|O)|VOCALIC (L|LL|R|RR))))|GUNJALA GONDI (DIGIT (EIGHT|",
    "FIVE|FOUR|NINE|ONE|SEVEN|SIX|THREE|TWO|ZERO)|LETTER (A|AA|AI|AU|BA|BHA|CA|CHA|DA|DDA|DDHA|",
    "DHA|EE|GA|GHA|HA|I|II|JA|JHA|KA|KHA|LA|LLA|MA|NA|NGA|OO|PA|PHA|RA|SA|TA|THA|TTA|TTHA|U|UU|VA|",
    "YA)|OM|VIRAMA|SIGN (ANUSVARA|VISARGA)|VOWEL SIGN (AA|AI|AU|EE|I|II|OO|U|UU))|GURMUKHI ",
    "(ABBREVIATION SIGN|ADDAK|IRI|TIPPI|URA|DIGIT (EIGHT|FIVE|FOUR|NINE|ONE|SEVEN|SIX|THREE|TWO|",
    "ZERO)|EK ONKAR|LETTER (A|AA|AI|AU|BA|BHA|CA|CHA|DA|DDA|DDHA|DHA|EE|FA|GA|GHA|GHHA|HA|I|II|JA|",
    "JHA|KA|KHA|KHHA|LA|LLA|MA|NA|NGA|NNA|NYA|OO|PA|PHA|RA|RRA|SA|SHA|TA|THA|TTA|TTHA|U|UU|VA|YA|",
    "ZA)|SIGN (ADAK BINDI|BINDI|NUKTA|UDAAT|VIRAMA|VISARGA|YAKASH)|VOWEL SIGN (AA|AI|AU|EE|I|II|",
    "OO|U|UU))"]

/-- The names with the initial H. -/
def initialH : String :=
  String.join [
    "HADES|HAIRCUT|HAMBURGER|HAMSA|HANDBAG|HANDBALL|HANDSHAKE|HEADPHONE|HEDGEHOG|HELICOPTER|HERB|",
    "HIBISCUS|HIPPOPOTAMUS|HOCHO|HOLE|HOMOTHETIC|HONEYBEE|HOOK|HOP|HOSPITAL|HOTEL|HT|HTJ|HTS|HUT|",
    "HYGIEA|HYPHEN-MINUS|HYPODIASTOLE|HAIR SPACE|HALFWIDTH (BLACK SQUARE|(DOWNWARDS|LEFTWARDS|",
    "RIGHTWARDS|UPWARDS) ARROW|FORMS LIGHT VERTICAL|HANGUL (FILLER|LETTER (A|AE|CHIEUCH|CIEUC|E|",
    "EO|EU|HIEUH|I|IEUNG|KHIEUKH|KIYEOK|KIYEOK-SIOS|MIEUM|NIEUN|NIEUN-CIEUC|NIEUN-HIEUH|O|OE|",
    "PHIEUPH|PIEUP|PIEUP-SIOS|RIEUL|RIEUL-HIEUH|RIEUL-KIYEOK|RIEUL-MIEUM|RIEUL-PHIEUPH|",
    "RIEUL-PIEUP|RIEUL-SIOS|RIEUL-THIEUTH|SIOS|SSANGCIEUC|SSANGKIYEOK|SSANGPIEUP|SSANGSIOS|",
    "SSANGTIKEUT|THIEUTH|TIKEUT|U|WA|WAE|WE|WEO|WI|YA|YAE|YE|YEO|YI|YO|YU))|IDEOGRAPHIC (COMMA|",
    "FULL STOP)|KATAKANA (LETTER (A|E|HA|HE|HI|HO|HU|I|KA|KE|KI|KO|KU|MA|ME|MI|MO|MU|N|NA|NE|NI|",
    "NO|NU|O|RA|RE|RI|RO|RU|SA|SE|SI|SO|SU|TA|TE|TI|TO|TU|U|WA|WO|YA|YO|YU|SMALL (A|E|I|O|TU|U|YA|",
    "YO|YU))|MIDDLE DOT|(SEMI-VOICED|VOICED) SOUND MARK)|KATAKANA-HIRAGANA PROLONGED SOUND MARK|",
    "(LEFT|RIGHT) CORNER BRACKET|WHITE CIRCLE)|HAMMER(| AND (PICK|SICKLE|WRENCH))|(HAMSTER|",
    "HUGGING|HUSHED) FACE|HAND WITH INDEX (AND MIDDLE FINGERS CROSSED|FINGER AND THUMB CROSSED)|",
    "HANGUL (CHOSEONG (CEONGCHIEUMCHIEUCH|CEONGCHIEUMCIEUC|CEONGCHIEUMSIOS|CEONGCHIEUMSSANGCIEUC|",
    "CEONGCHIEUMSSANGSIOS|CHIEUCH|CHIEUCH-HIEUH|CHIEUCH-KHIEUKH|CHITUEUMCHIEUCH|CHITUEUMCIEUC|",
    "CHITUEUMSIOS|CHITUEUMSSANGCIEUC|CHITUEUMSSANGSIOS|CIEUC|CIEUC-IEUNG|FILLER|HIEUH|HIEUH-SIOS|",
    "IEUNG|IEUNG-CHIEUCH|IEUNG-CIEUC|IEUNG-HIEUH|IEUNG-KIYEOK|IEUNG-MIEUM|IEUNG-PANSIOS|",
    "IEUNG-PHIEUPH|IEUNG-PIEUP|IEUNG-RIEUL|IEUNG-SIOS|IEUNG-THIEUTH|IEUNG-TIKEUT|KAPYEOUNMIEUM|",
    "KAPYEOUNPHIEUPH|KAPYEOUNPIEUP|KAPYEOUNRIEUL|KAPYEOUNSSANGPIEUP|KHIEUKH|KIYEOK|KIYEOK-TIKEUT|",
    "MIEUM|MIEUM-KIYEOK|MIEUM-PIEUP|MIEUM-SIOS|MIEUM-TIKEUT|NIEUN|NIEUN-CIEUC|NIEUN-HIEUH|",
    "NIEUN-KIYEOK|NIEUN-PIEUP|NIEUN-SIOS|NIEUN-TIKEUT|PANSIOS|PHIEUPH|PHIEUPH-HIEUH|PHIEUPH-PIEUP|",
    "PIEUP|PIEUP-CHIEUCH|PIEUP-CIEUC|PIEUP-HIEUH|PIEUP-KHIEUKH|PIEUP-KIYEOK|PIEUP-NIEUN|",
    "PIEUP-PHIEUPH|PIEUP-SIOS|PIEUP-SIOS-CIEUC|PIEUP-SIOS-KIYEOK|PIEUP-SIOS-PIEUP|",
    "PIEUP-SIOS-THIEUTH|PIEUP-SIOS-TIKEUT|PIEUP-SSANGSIOS|PIEUP-THIEUTH|PIEUP-TIKEUT|RIEUL|",
    "RIEUL-CIEUC|RIEUL-HIEUH|RIEUL-KAPYEOUNPIEUP|RIEUL-KHIEUKH|RIEUL-KIYEOK|RIEUL-MIEUM|",
    "RIEUL-NIEUN|RIEUL-PIEUP|RIEUL-SIOS|RIEUL-SSANGKIYEOK|RIEUL-SSANGPIEUP|RIEUL-SSANGTIKEUT|",
    "RIEUL-TIKEUT|SIOS|SIOS-CHIEUCH|SIOS-CIEUC|SIOS-HIEUH|SIOS-IEUNG|SIOS-KHIEUKH|SIOS-KIYEOK|",
    "SIOS-MIEUM|SIOS-NIEUN|SIOS-PHIEUPH|SIOS-PIEUP|SIOS-PIEUP-KIYEOK|SIOS-RIEUL|SIOS-SSANGSIOS|",
    "SIOS-THIEUTH|SIOS-TIKEUT|SSANGCIEUC|SSANGCIEUC-HIEUH|SSANGHIEUH|SSANGIEUNG|SSANGKIYEOK|",
    "SSANGNIEUN|SSANGPIEUP|SSANGRIEUL|SSANGSIOS|SSANGSIOS-PIEUP|SSANGTHIEUTH|SSANGTIKEUT|",
    "SSANGYEORINHIEUH|THIEUTH|TIKEUT|TIKEUT-CIEUC|TIKEUT-KIYEOK|TIKEUT-MIEUM|TIKEUT-PIEUP|",
    "TIKEUT-RIEUL|TIKEUT-SIOS|YEORINHIEUH|YESIEUNG)|(DOUBLE|SINGLE) DOT TONE MARK|FILLER|",
    "JONGSEONG (CHIEUCH|CIEUC|CIEUC-PIEUP|CIEUC-SSANGPIEUP|HIEUH|HIEUH-MIEUM|HIEUH-NIEUN|",
    "HIEUH-PIEUP|HIEUH-RIEUL|IEUNG|IEUNG-KHIEUKH|IEUNG-KIYEOK|IEUNG-SSANGKIYEOK|KAPYEOUNMIEUM|",
    "KAPYEOUNPHIEUPH|KAPYEOUNPIEUP|KAPYEOUNRIEUL|KHIEUKH|KIYEOK|KIYEOK-CHIEUCH|KIYEOK-HIEUH|",
    "KIYEOK-KHIEUKH|KIYEOK-NIEUN|KIYEOK-PIEUP|KIYEOK-RIEUL|KIYEOK-SIOS|KIYEOK-SIOS-KIYEOK|MIEUM|",
    "MIEUM-CHIEUCH|MIEUM-CIEUC|MIEUM-HIEUH|MIEUM-KIYEOK|MIEUM-NIEUN|MIEUM-PANSIOS|MIEUM-PIEUP|",
    "MIEUM-PIEUP-SIOS|MIEUM-RIEUL|MIEUM-SIOS|MIEUM-SSANGNIEUN|MIEUM-SSANGSIOS|NIEUN|NIEUN-CHIEUCH|",
    "NIEUN-CIEUC|NIEUN-HIEUH|NIEUN-KIYEOK|NIEUN-PANSIOS|NIEUN-RIEUL|NIEUN-SIOS|NIEUN-THIEUTH|",
    "NIEUN-TIKEUT|PANSIOS|PANSIOS-KAPYEOUNPIEUP|PANSIOS-PIEUP|PHIEUPH|PHIEUPH-PIEUP|PHIEUPH-SIOS|",
    "PHIEUPH-THIEUTH|PIEUP|PIEUP-CHIEUCH|PIEUP-CIEUC|PIEUP-HIEUH|PIEUP-MIEUM|PIEUP-PHIEUPH|",
    "PIEUP-RIEUL|PIEUP-RIEUL-PHIEUPH|PIEUP-SIOS|PIEUP-SIOS-TIKEUT|PIEUP-TIKEUT|RIEUL|RIEUL-HIEUH|",
    "RIEUL-KAPYEOUNPIEUP|RIEUL-KHIEUKH|RIEUL-KIYEOK|RIEUL-KIYEOK-HIEUH|RIEUL-KIYEOK-SIOS|",
    "RIEUL-MIEUM|RIEUL-MIEUM-HIEUH|RIEUL-MIEUM-KIYEOK|RIEUL-MIEUM-SIOS|RIEUL-NIEUN|RIEUL-PANSIOS|",
    "RIEUL-PHIEUPH|RIEUL-PIEUP|RIEUL-PIEUP-HIEUH|RIEUL-PIEUP-PHIEUPH|RIEUL-PIEUP-SIOS|",
    "RIEUL-PIEUP-TIKEUT|RIEUL-SIOS|RIEUL-SSANGKIYEOK|RIEUL-SSANGSIOS|RIEUL-THIEUTH|RIEUL-TIKEUT|",
    "RIEUL-TIKEUT-HIEUH|RIEUL-YEORINHIEUH|RIEUL-YEORINHIEUH-HIEUH|RIEUL-YESIEUNG|SIOS|",
    "SIOS-CHIEUCH|SIOS-CIEUC|SIOS-HIEUH|SIOS-KAPYEOUNPIEUP|SIOS-KIYEOK|SIOS-MIEUM|SIOS-PANSIOS|",
    "SIOS-PIEUP|SIOS-RIEUL|SIOS-THIEUTH|SIOS-TIKEUT|SSANGCIEUC|SSANGIEUNG|SSANGKIYEOK|SSANGMIEUM|",
    "SSANGNIEUN|SSANGPIEUP|SSANGRIEUL|SSANGRIEUL-KHIEUKH|SSANGSIOS|SSANGSIOS-KIYEOK|",
    "SSANGSIOS-TIKEUT|SSANGTIKEUT|SSANGTIKEUT-PIEUP|SSANGYESIEUNG|THIEUTH|TIKEUT|TIKEUT-CHIEUCH|",
    "TIKEUT-CIEUC|TIKEUT-KIYEOK|TIKEUT-PIEUP|TIKEUT-RIEUL|TIKEUT-SIOS|TIKEUT-SIOS-KIYEOK|",
    "TIKEUT-THIEUTH|YEORINHIEUH|YESIEUNG|YESIEUNG-HIEUH|YESIEUNG-KHIEUKH|YESIEUNG-KIYEOK|",
    "YESIEUNG-MIEUM|YESIEUNG-PANSIOS|YESIEUNG-SIOS|YESIEUNG-SSANGKIYEOK)|JUNGSEONG (A|A-EU|A-O|",
    "A-U|AE|ARAEA|ARAEA-A|ARAEA-E|ARAEA-EO|ARAEA-I|ARAEA-U|E|EO|EO-EU|EO-O|EO-U|EU|EU-A|EU-E|",
    "EU-EO|EU-EU|EU-O|EU-U|FILLER|I|I-A|I-ARAEA|I-EU|I-I|I-O|I-O-I|I-U|I-YA|I-YA-O|I-YAE|I-YE|",
    "I-YEO|I-YO|I-YU|O|O-E|O-EO|O-O|O-O-I|O-U|O-YA|O-YAE|O-YE|O-YEO|OE|SSANGARAEA|U|U-A|U-AE|",
    "U-EO-EU|U-I-I|U-U|U-YE|U-YEO|WA|WAE|WE|WEO|WI|YA|YA-O|YA-U|YA-YO|YAE|YE|YEO|YEO-O|YEO-U|",
    "YEO-YA|YI|YI-U|YO|YO-A|YO-AE|YO-EO|YO-I|YO-O|YO-YA|YO-YAE|YO-YEO|YU|YU-A|YU-AE|YU-E|YU-EO|",
    "YU-I|YU-O|YU-U|YU-YE|YU-YEO)|LETTER (A|AE|ARAEA|ARAEAE|CHIEUCH|CIEUC|E|EO|EU|HIEUH|I|IEUNG|",
    "KAPYEOUNMIEUM|KAPYEOUNPHIEUPH|KAPYEOUNPIEUP|KAPYEOUNSSANGPIEUP|KHIEUKH|KIYEOK|KIYEOK-SIOS|",
    "MIEUM|MIEUM-PANSIOS|MIEUM-PIEUP|MIEUM-SIOS|NIEUN|NIEUN-CIEUC|NIEUN-HIEUH|NIEUN-PANSIOS|",
    "NIEUN-SIOS|NIEUN-TIKEUT|O|OE|PANSIOS|PHIEUPH|PIEUP|PIEUP-CIEUC|PIEUP-KIYEOK|PIEUP-SIOS|",
    "PIEUP-SIOS-KIYEOK|PIEUP-SIOS-TIKEUT|PIEUP-THIEUTH|PIEUP-TIKEUT|RIEUL|RIEUL-HIEUH|",
    "RIEUL-KIYEOK|RIEUL-KIYEOK-SIOS|RIEUL-MIEUM|RIEUL-PANSIOS|RIEUL-PHIEUPH|RIEUL-PIEUP|",
    "RIEUL-PIEUP-SIOS|RIEUL-SIOS|RIEUL-THIEUTH|RIEUL-TIKEUT|RIEUL-YEORINHIEUH|SIOS|SIOS-CIEUC|",
    "SIOS-KIYEOK|SIOS-NIEUN|SIOS-PIEUP|SIOS-TIKEUT|SSANGCIEUC|SSANGHIEUH|SSANGIEUNG|SSANGKIYEOK|",
    "SSANGNIEUN|SSANGPIEUP|SSANGSIOS|SSANGTIKEUT|THIEUTH|TIKEUT|U|WA|WAE|WE|WEO|WI|YA|YAE|YE|YEO|",
    "YEORINHIEUH|YESIEUNG|YESIEUNG-PANSIOS|YESIEUNG-SIOS|YI|YO|YO-I|YO-YA|YO-YAE|YU|YU-I|YU-YE|",
    "YU-YEO))|HANGZHOU NUMERAL (EIGHT|FIVE|FOUR|NINE|ONE|SEVEN|SIX|TEN|THIRTY|THREE|TWENTY|TWO)|",
    "HANIFI ROHINGYA (DIGIT (EIGHT|FIVE|FOUR|NINE|ONE|SEVEN|SIX|THREE|TWO|ZERO)|LETTER (A|BA|CA|",
    "DA|DDA|FA|GA|HA|JA|KA|KHA|LA|MA|NA|NGA|NYA|PA|RA|RRA|SA|SHA|TA|TTA|VA|WA|YA|ZA|KINNA (WA|",
    "YA))|MARK (NA KHONNA|SAKIN)|SIGN (HARBAHAY|TAHALA|TANA|TASSI)|VOWEL (A|E|I|O|U))|HANUNOO ",
    "(LETTER (A|BA|DA|GA|HA|I|KA|LA|MA|NA|NGA|PA|RA|SA|TA|U|WA|YA)|SIGN PAMUDPOD|VOWEL SIGN (I|",
    "U))|HAPPY PERSON RAISING ONE HAND|HARD DISK|HATCHING CHICK|HATRAN (LETTER (ALEPH|AYN|BETH|",
    "DALETH-RESH|GIMEL|HE|HETH|KAPH|LAMEDH|MEM|NUN|PE|QOPH|SADHE|SAMEKH|SHIN|TAW|TETH|WAW|YODH|",
    "ZAYN)|NUMBER (FIVE|TEN|TWENTY|ONE(| HUNDRED)))|HEADSTONE(| GRAVEYARD SYMBOL)|HEAR-NO-EVIL ",
    "MONKEY|HEART (DECORATION|HANDS|WITH (ARROW|RIBBON|TIP ON THE LEFT))|HEAVY ((AMPERSAND|",
    "INTERROBANG) ORNAMENT|ARROW SHAFT WIDTH (ONE(| (HALF|THIRD))|TWO THIRDS)|ASTERISK|SALTIRE|",
    "SPARKLE|(BALLOT|MULTIPLICATION) X|BLACK (CURVED (DOWNWARDS|UPWARDS) AND RIGHTWARDS ARROW|",
    "HEART)|BLACK-FEATHERED ((NORTH|SOUTH) EAST ARROW|RIGHTWARDS ARROW)|CHECK MARK|CHEVRON ",
    "SNOWFLAKE|CIRCLE(| WITH (CIRCLE INSIDE|STROKE AND TWO DOTS ABOVE))|CIRCLED SALTIRE|",
    "CONCAVE-POINTED BLACK RIGHTWARDS ARROW|DASHED TRIANGLE-HEADED RIGHTWARDS ARROW|(DIVISION|",
    "DOLLAR|EQUALS|MINUS|PLUS) SIGN|(DOUBLE|SINGLE) (COMMA QUOTATION MARK ORNAMENT|TURNED COMMA ",
    "QUOTATION MARK ORNAMENT)|(DOWNWARDS|LEFTWARDS|UPWARDS) ARROW WITH (EQUILATERAL ARROWHEAD|",
    "LARGE EQUILATERAL ARROWHEAD)|EIGHT (POINTED ((BLACK|PINWHEEL) STAR|RECTILINEAR BLACK STAR)|",
    "SPOKED ASTERISK|TEARDROP-SPOKED PROPELLER ASTERISK)|EXCLAMATION MARK (ORNAMENT|SYMBOL)|(FIVE|",
    "SIX) (POINTED BLACK STAR|SPOKED ASTERISK)|FOUR BALLOON-SPOKED ASTERISK|(GREEK|LATIN) CROSS|",
    "HEART EXCLAMATION MARK ORNAMENT|HORIZONTAL FILL|LARGE CIRCLE|(LEFT-POINTING|RIGHT-POINTING) ",
    "ANGLE (BRACKET ORNAMENT|QUOTATION MARK ORNAMENT)|LIGATURE OPEN ET ORNAMENT|LOW (DOUBLE|",
    "SINGLE) COMMA QUOTATION MARK ORNAMENT|(LOWER|UPPER) RIGHT-SHADOWED WHITE RIGHTWARDS ARROW|",
    "(NORTH|SOUTH) (EAST (ARROW|POINTING (BUD|VINE LEAF))|WEST POINTING (BUD|VINE LEAF))|OPEN ",
    "CENTRE CROSS|OUTLINED BLACK STAR|OVAL WITH OVAL INSIDE|RIGHTWARDS ARROW(| WITH (EQUILATERAL ",
    "ARROWHEAD|LARGE EQUILATERAL ARROWHEAD))|(ROUND-TIPPED|TEARDROP-SHANKED|TRIANGLE-HEADED|",
    "WEDGE-TAILED|WIDE-HEADED) RIGHTWARDS ARROW|SANS-SERIF INTERROBANG ORNAMENT|SCRIPT LIGATURE ",
    "ET ORNAMENT|TEARDROP-SPOKED (ASTERISK|PINWHEEL ASTERISK)|TWELVE POINTED (BLACK|PINWHEEL) ",
    "STAR|VERTICAL BAR|WHITE (CIRCLE|SQUARE|DOWN-POINTING TRIANGLE))|HEBREW (ACCENT (ATNAH HAFUKH|",
    "DARGA|DEHI|ETNAHTA|GERSHAYIM|ILUY|MAHAPAKH|MUNAH|OLE|PASHTA|PAZER|QADMA|REVIA|SEGOL|",
    "SHALSHELET|TEVIR|TIPEHA|YETIV|ZARQA|ZINOR|GERESH(| MUQDAM)|MERKHA(| KEFULA)|QARNEY PARA|",
    "TELISHA (GEDOLA|QETANA)|YERAH BEN YOMO|ZAQEF (GADOL|QATAN))|LETTER (ALEF(| WITH (MAPIQ|PATAH|",
    "QAMATS))|ALTERNATIVE (AYIN|PLUS SIGN)|AYIN|HET|(BET|KAF|PE)(| WITH (DAGESH|RAFE))|(DALET|",
    "GIMEL|LAMED|MEM|NUN|QOF|RESH|SAMEKH|TAV|TET|TSADI|ZAYIN)(| WITH DAGESH)|FINAL ((KAF|PE)(| ",
    "WITH DAGESH)|MEM|NUN|TSADI)|HE(| WITH MAPIQ)|SHIN(| WITH (DAGESH(| AND (SHIN|SIN) DOT)|(SHIN|",
    "SIN) DOT))|VAV(| WITH (DAGESH|HOLAM))|WIDE (ALEF|DALET|HE|KAF|LAMED|RESH|TAV|FINAL MEM)|YOD",
    "(| WITH (DAGESH|HIRIQ)))|LIGATURE (ALEF LAMED|YIDDISH (DOUBLE (VAV|YOD)|VAV YOD|YOD YOD ",
    "PATAH))|MARK ((LOWER|UPPER) DOT|MASORA CIRCLE)|POINT (DAGESH OR MAPIQ|HATAF (PATAH|QAMATS|",
    "SEGOL)|HIRIQ|METEG|PATAH|QUBUTS|RAFE|SEGOL|SHEVA|TSERE|HOLAM(| HASER FOR VAV)|JUDEO-SPANISH ",
    "VARIKA|QAMATS(| QATAN)|(SHIN|SIN) DOT)|PUNCTUATION (GERESH|GERSHAYIM|MAQAF|PASEQ|NUN HAFUKHA|",
    "SOF PASUQ)|YOD TRIANGLE)|HELLSCHREIBER PAUSE SYMBOL|(HELM|HYSTERESIS) SYMBOL|HELMET WITH ",
    "WHITE CROSS|HENTAIGANA LETTER ((A-|HU-|KO-|NU-|O-)(1|2|3)|A-WO|KA-KE|KO-KI|ME-MA|NE-KO|NI-TE|",
    "TO-RA|TU-TO|YA-YO|(E-|KE-|MO-|NE-|RO-|RU-|SI-|TO-|YO-)(1|2|3|4|5|6)|(HA-|KA-)(1(|0|1)|2|3|4|",
    "5|6|7|8|9)|(HE-|HI-|KU-|MA-|MI-|NI-|RI-|SO-|TI-|WO-)(1|2|3|4|5|6|7)|(HO-|KI-|SA-|SU-)(1|2|3|",
    "4|5|6|7|8)|(I-|MU-|RA-|RE-|TA-|TU-|WE-|YU-)(1|2|3|4)|(ME-|N-MU-MO-)(1|2)|(NA-|TE-)(1|2|3|4|5|",
    "6|7|8|9)|(NO-|SE-|U-|WA-|WI-|YA-)(1|2|3|4|5))|HERMITIAN CONJUGATE MATRIX|HEXAGRAM FOR ",
    "(ABUNDANCE|APPROACH|BREAKTHROUGH|CONFLICT|CONTEMPLATION|DECREASE|DELIVERANCE|DEVELOPMENT|",
    "DISPERSION|DURATION|ENTHUSIASM|FELLOWSHIP|FOLLOWING|GRACE|INCREASE|INFLUENCE|INNOCENCE|",
    "LIMITATION|MODESTY|OBSTRUCTION|OPPOSITION|OPPRESSION|PEACE|PROGRESS|RETREAT|RETURN|",
    "REVOLUTION|STANDSTILL|TREADING|WAITING|(AFTER|BEFORE) COMPLETION|BITING THROUGH|COMING TO ",
    "MEET|DARKENING OF THE LIGHT|DIFFICULTY AT THE BEGINNING|(GATHERING|HOLDING) TOGETHER|GREAT ",
    "(POSSESSION|POWER|PREPONDERANCE|TAMING)|INNER TRUTH|MOUTH CORNERS|PUSHING UPWARD|SMALL ",
    "(PREPONDERANCE|TAMING)|SPLITTING APART|THE (ABYSMAL WATER|ARMY|CAULDRON|FAMILY|WANDERER|WELL|",
    "AROUSING THUNDER|CLINGING FIRE|CREATIVE HEAVEN|GENTLE WIND|JOYOUS LAKE|KEEPING STILL ",
    "MOUNTAIN|MARRYING MAIDEN|RECEPTIVE EARTH)|WORK ON THE DECAYED|YOUTHFUL FOLLY)|HIGH ",
    "(BRIGHTNESS SYMBOL|OCTET PRESET|VOLTAGE SIGN)|HIGH-HEELED SHOE|HIGH-SPEED TRAIN(| WITH ",
    "BULLET NOSE)|HIKING BOOT|HINDU TEMPLE|HIRAGANA (DIGRAPH YORI|ITERATION MARK|LETTER (A|BA|BE|",
    "BI|BO|BU|DA|DE|DI|DO|DU|E|GA|GE|GI|GO|GU|HA|HE|HI|HO|HU|I|KA|KE|KI|KO|KU|MA|ME|MI|MO|MU|N|NA|",
    "NE|NI|NO|NU|O|PA|PE|PI|PO|PU|RA|RE|RI|RO|RU|SA|SE|SI|SO|SU|TA|TE|TI|TO|TU|U|VU|WA|WE|WI|WO|",
    "YA|YO|YU|ZA|ZE|ZI|ZO|ZU|ARCHAIC (WU|YE)|SMALL (A|E|I|KA|KE|O|TU|U|WA|WE|WI|WO|YA|YO|YU))|",
    "VOICED ITERATION MARK)|HISTORIC SITE|HOLLOW QUILT SQUARE ORNAMENT(| IN BLACK SQUARE)|HONEY ",
    "POT|HORIZONTAL (BAR|ELLIPSIS|BLACK (HEXAGON|OCTAGON)|LINE EXTENSION|MALE WITH STROKE SIGN|",
    "ONE EIGHTH BLOCK-(1358|2|3|4|5|6|7)|SCAN LINE-(1|3|7|9)|TAB KEY|TABULATION(| (SET|WITH ",
    "JUSTIFICATION))|TRAFFIC LIGHT)|HORSE(| (FACE|RACING))|HOT (BEVERAGE|DOG|PEPPER|SPRINGS)|",
    "HOURGLASS(| WITH FLOWING SAND)|HOUSE(| (BUILDING|BUILDINGS|WITH GARDEN))|HRYVNIA SIGN|",
    "HUNDRED POINTS SYMBOL|HYPHEN(| (BULLET|WITH DIAERESIS))|HYPHENATION POINT"]

/-- The names with the initial I. -/
def initialI : String :=
  String.join [
    "I LOVE YOU HAND SIGN|ICE (CREAM|CUBE|SKATE|HOCKEY STICK AND PUCK)|IDENTICAL (TO(| AND ",
    "SLANTED PARALLEL)|WITH DOT ABOVE)|IDENTIFICATION CARD|IDEOGRAPHIC (ANNOTATION (BOTTOM|EARTH|",
    "FIRST|FOUR|FOURTH|HEAVEN|LINKING|MAN|MIDDLE|ONE|REVERSE|SECOND|THIRD|THREE|TOP|TWO) MARK|",
    "(CLOSING|ITERATION) MARK|COMMA|SPACE|(DEPARTING|ENTERING|LEVEL|RISING) TONE MARK|DESCRIPTION ",
    "CHARACTER (ABOVE TO (BELOW|MIDDLE AND BELOW)|FULL SURROUND|LEFT TO (MIDDLE AND RIGHT|RIGHT)|",
    "OVERLAID|SURROUND FROM (ABOVE|BELOW|LEFT|LOWER LEFT|UPPER (LEFT|RIGHT)))|FULL STOP|HALF FILL ",
    "SPACE|NUMBER ZERO|TALLY MARK (FIVE|FOUR|ONE|THREE|TWO)|TELEGRAPH (LINE FEED SEPARATOR SYMBOL|",
    "SYMBOL FOR (APRIL|AUGUST|DECEMBER|FEBRUARY|JANUARY|JULY|JUNE|MARCH|MAY|NOVEMBER|OCTOBER|",
    "SEPTEMBER|DAY (EIGHT|EIGHTEEN|ELEVEN|FIFTEEN|FIVE|FOUR|FOURTEEN|NINE|NINETEEN|ONE|SEVEN|",
    "SEVENTEEN|SIX|SIXTEEN|TEN|THIRTEEN|THIRTY|THIRTY-ONE|THREE|TWELVE|TWENTY|TWENTY-EIGHT|",
    "TWENTY-FIVE|TWENTY-FOUR|TWENTY-NINE|TWENTY-ONE|TWENTY-SEVEN|TWENTY-SIX|TWENTY-THREE|",
    "TWENTY-TWO|TWO)|HOUR (EIGHT|EIGHTEEN|ELEVEN|FIFTEEN|FIVE|FOUR|FOURTEEN|NINE|NINETEEN|ONE|",
    "SEVEN|SEVENTEEN|SIX|SIXTEEN|TEN|THIRTEEN|THREE|TWELVE|TWENTY|TWENTY-FOUR|TWENTY-ONE|",
    "TWENTY-THREE|TWENTY-TWO|TWO|ZERO)))|VARIATION INDICATOR)|IMAGE OF(| OR APPROXIMATELY EQUAL ",
    "TO)|IMP|INCREMENT|IND|INTERCALATE|INTERROBANG|IMPERIAL ARAMAIC (LETTER (ALEPH|AYIN|BETH|",
    "DALETH|GIMEL|HE|HETH|KAPH|LAMEDH|MEM|NUN|PE|QOPH|RESH|SADHE|SAMEKH|SHIN|TAW|TETH|WAW|YODH|",
    "ZAYIN)|NUMBER (ONE(| (HUNDRED|THOUSAND))|TEN(| THOUSAND)|THREE|TWENTY|TWO)|SECTION SIGN)|",
    "INBOX TRAY|INCOMING ENVELOPE|INCOMPLETE INFINITY|INCREASE FONT SIZE SYMBOL|INCREASES AS|INDEX",
    "(| POINTING AT THE VIEWER)|INDIAN RUPEE SIGN|INDIC SIYAQ (ALTERNATE LAKH MARK|FRACTION (ONE ",
    "(HALF|QUARTER)|THREE QUARTERS)|(LAKH|RUPEE) MARK|NUMBER (ALTERNATE (ONE|TWO|TEN THOUSAND)|",
    "(EIGHT|FIVE|FOUR|NINE|ONE|SEVEN|SIX|THREE|TWO)(| (HUNDRED|THOUSAND))|(EIGHTY|FIFTY|FORTY|",
    "NINETY|SEVENTY|SIXTY|TEN|THIRTY|TWENTY)(| THOUSAND)|KAROR|KARORAN|LAKH|LAKHAN|PREFIXED ",
    "(EIGHT|FIVE|FOUR|NINE|ONE|SEVEN|SIX|THREE|TWO))|PLACEHOLDER)|INFINITY(| NEGATED WITH ",
    "VERTICAL BAR)|INFORMATION (DESK PERSON|SEPARATOR (FOUR|ONE|THREE|TWO)|SOURCE)|INHIBIT ",
    "(ARABIC FORM SHAPING|SYMMETRIC SWAPPING)|INPUT SYMBOL FOR (LATIN ((CAPITAL|SMALL) LETTERS|",
    "LETTERS)|NUMBERS|SYMBOLS)|INSCRIPTIONAL (PAHLAVI (LETTER (ALEPH|BETH|DALETH|GIMEL|HE|HETH|",
    "KAPH|LAMEDH|MEM-QOPH|NUN|PE|SADHE|SAMEKH|SHIN|TAW|TETH|WAW-AYIN-RESH|YODH|ZAYIN)|NUMBER ",
    "(FOUR|TEN|THREE|TWENTY|TWO|ONE(| (HUNDRED|THOUSAND))))|PARTHIAN (LETTER (ALEPH|AYIN|BETH|",
    "DALETH|GIMEL|HE|HETH|KAPH|LAMEDH|MEM|NUN|PE|QOPH|RESH|SADHE|SAMEKH|SHIN|TAW|TETH|WAW|YODH|",
    "ZAYIN)|NUMBER (FOUR|TEN|THREE|TWENTY|TWO|ONE(| (HUNDRED|THOUSAND)))))|INSERTION SYMBOL|",
    "INTEGRAL(| (AROUND A POINT OPERATOR|AVERAGE WITH SLASH|EXTENSION|WITH (DOUBLE STROKE|",
    "INTERSECTION|OVERBAR|UNDERBAR|UNION|LEFTWARDS ARROW WITH HOOK|TIMES SIGN)))|INTERIOR PRODUCT|",
    "INTERLINEAR ANNOTATION (ANCHOR|SEPARATOR|TERMINATOR)|INTERLOCKED FEMALE AND MALE SIGN|",
    "INTERSECTION(| (ABOVE (BAR ABOVE UNION|UNION)|BESIDE AND JOINED WITH INTERSECTION|WITH (DOT|",
    "OVERBAR|LOGICAL AND)))|INVERSE (BULLET|CHECK MARK|CHECKER BOARD FILL|DOWNWARDS ARROW WITH ",
    "TIP LEFTWARDS|MEDIUM SHADE|WHITE CIRCLE)|INVERTED ((EXCLAMATION|QUESTION) MARK|INTERROBANG|",
    "PENTAGRAM|UNDERTIE|LAZY S|LOW KAVYKA(| WITH KAVYKA ABOVE)|OHM SIGN)|INVISIBLE (PLUS|",
    "SEPARATOR|TIMES)|IZAKAYA LANTERN"]

/-- The names with the initial J. -/
def initialJ : String :=
  String.join [
    "JACK-O-LANTERN|JAR|JEANS|JOIN|JOYSTICK|JUGGLING|JUNO|JUPITER|JAPANESE (BANK SYMBOL|CASTLE|",
    "DOLLS|GOBLIN|OGRE|INDUSTRIAL STANDARD SYMBOL|POST OFFICE|SYMBOL FOR BEGINNER)|JAVANESE ",
    "(CONSONANT SIGN (CAKRA|KERET|PENGKAL)|DIGIT (EIGHT|FIVE|FOUR|NINE|ONE|SEVEN|SIX|THREE|TWO|",
    "ZERO)|(LEFT|RIGHT) RERENGGAN|LETTER (A|AI|E|HA|II|LA|MA|O|U|WA|YA|(BA|CA|GA|NA|NYA|TA)(| ",
    "MURDA)|(DA|DDA|JA|TTA)(| MAHAPRANA)|I(| KAWI)|KA(| (MURDA|SASAK))|NGA(| LELET(| RASWADI))|PA",
    "(| (CEREK|MURDA))|RA(| AGUNG)|SA(| (MAHAPRANA|MURDA)))|PADA (ADEG(| ADEG)|ANDAP|ISEN-ISEN|",
    "LINGSA|LUHUR|LUNGSI|MADYA|PANGKAT|PISELEH|WINDU|TIRTA TUMETES)|PANGKON|PANGRANGKEP|SIGN ",
    "(CECAK(| TELU)|LAYAR|PANYANGGA|WIGNYAN)|TURNED PADA PISELEH|VOWEL SIGN (DIRGA MURE|PEPET|",
    "TALING|TARUNG|TOLONG|SUKU(| MENDUT)|WULU(| MELIK)))|JIGSAW PUZZLE PIECE"]

/-- The names with the initial K. -/
def initialK : String :=
  String.join [
    "KAABA|KANGAROO|KEY|KIMONO|KITE|KIWIFRUIT|KNOT|KOALA|KRONOS|KAITHI ((ABBREVIATION|",
    "ENUMERATION) SIGN|DANDA|DOUBLE (DANDA|SECTION MARK)|LETTER (A|AA|AI|AU|BA|BHA|CA|CHA|DA|DDA|",
    "DDDHA|DDHA|DHA|E|GA|GHA|HA|I|II|JA|JHA|KA|KHA|LA|MA|NA|NGA|NNA|NYA|O|PA|PHA|RA|RHA|SA|SHA|",
    "SSA|TA|THA|TTA|TTHA|U|UU|VA|YA)|NUMBER SIGN(| ABOVE)|SECTION MARK|SIGN (ANUSVARA|CANDRABINDU|",
    "NUKTA|VIRAMA|VISARGA)|VOWEL SIGN (AA|AI|AU|E|I|II|O|U|UU|VOCALIC R))|KANGXI RADICAL (AGAIN|",
    "AND|ARRIVE|ARROW|AXE|BADGER|BAMBOO|BEAN|BIG|BIRD|BITTER|BLACK|BLOOD|BLUE|BOAT|BODY|BONE|BOW|",
    "BRANCH|BRISTLE|BRUSH|CART|CAULDRON|CAVE|CHILD|CITY|CLAN|CLAW|CLIFF|CLOTHES|COLOR|COMPARE|",
    "CORPSE|COVER|COW|DEATH|DEER|DIPPER|DISH|DISTINGUISH|DIVINATION|DOG|DOOR|DOT|DRAGON|DRUM|DRY|",
    "EAR|EARTH|EAT|EIGHT|EMBROIDERY|ENCLOSURE|ENTER|EVEN|EVENING|EYE|FACE|FANG|FATHER|FEATHER|",
    "FIELD|FIGHT|FIRE|FISH|FLUTE|FLY|FOOT|FRAGRANT|FROG|FUR|GATE|GHOST|GOLD|GRAIN|GRASS|HAIR|",
    "HALBERD|HAND|HEAD|HEART|HEMP|HOOK|HORN|HORSE|ICE|INCH|INSECT|JADE|JAR|KNIFE|LACK|LAME|LEAF|",
    "LEATHER|LEEK|LEGS|LID|LIFE|LINE|MAN|MEAT|MELON|MILLET|MINISTER|MOON|MORNING|MORTAR|MOUND|",
    "MOUNTAIN|MOUTH|NET|NOSE|NOT|OLD|ONE|ONESELF|OPPOSE|PIG|PLOW|POWER|PRIVATE|PROFOUND|RAIN|RAP|",
    "RAT|RED|RICE|RIVER|ROOF|RUN|SALT|SAY|SCHOLAR|SCRIPT|SEAL|SECOND|SEE|SELF|SHEEP|SHELL|SHOOT|",
    "SICKNESS|SILK|SKIN|SLASH|SLAVE|SLICE|SMALL|SNOUT|SOUND|SPEAR|SPEECH|SPIRIT|SPOON|SPROUT|",
    "SQUARE|STAND|STEAM|STEP|STONE|STOP|STOPPING|SUN|SWEET|TABLE|TALL|TEN|TIGER|TILE|TONGUE|TOOTH|",
    "TRACK|TREE|TRIPOD|TURBAN|TURTLE|USE|VALLEY|VILLAGE|WATER|WEAPON|WEST|WHEAT|WHITE|WIND|WINE|",
    "WOMAN|WORK|WRAP|WRONG|YELLOW|BOLT OF CLOTH|DO NOT|DOTTED (CLIFF|TENT)|DOUBLE X|(DOWN|OPEN) ",
    "BOX|GO(| SLOWLY)|HALF TREE TRUNK|HIDING ENCLOSURE|LONG(| STRIDE)|RIGHT OPEN BOX|SACRIFICIAL ",
    "WINE|SHORT (TAILED BIRD|THREAD)|TANNED LEATHER|TWO(| HANDS)|WALK(| ENCLOSURE))|KANNADA (AI ",
    "LENGTH MARK|DIGIT (EIGHT|FIVE|FOUR|NINE|ONE|SEVEN|SIX|THREE|TWO|ZERO)|LENGTH MARK|LETTER (A|",
    "AA|AI|AU|BA|BHA|CA|CHA|DA|DDA|DDHA|DHA|E|EE|FA|GA|GHA|HA|I|II|JA|JHA|KA|KHA|LA|LLA|LLLA|MA|",
    "NA|NGA|NNA|NYA|O|OO|PA|PHA|RA|RRA|SA|SHA|SSA|TA|THA|TTA|TTHA|U|UU|VA|YA|NAKAARA POLLU|",
    "VOCALIC (L|LL|R|RR))|SIGN (ANUSVARA|AVAGRAHA|CANDRABINDU|JIHVAMULIYA|NUKTA|SIDDHAM|",
    "UPADHMANIYA|VIRAMA|VISARGA|SPACING CANDRABINDU)|VOWEL SIGN (AA|AI|AU|E|EE|I|II|O|OO|U|UU|",
    "VOCALIC (L|LL|R|RR)))|KATAKANA (DIGRAPH KOTO|ITERATION MARK|LETTER (A|BA|BE|BI|BO|BU|DA|DE|",
    "DI|DO|DU|E|GA|GE|GI|GO|GU|HA|HE|HI|HO|HU|I|KA|KE|KI|KO|KU|MA|ME|MI|MO|MU|N|NA|NE|NI|NO|NU|O|",
    "PA|PE|PI|PO|PU|RA|RE|RI|RO|RU|SA|SE|SI|SO|SU|TA|TE|TI|TO|TU|U|VA|VE|VI|VO|VU|WA|WE|WI|WO|YA|",
    "YO|YU|ZA|ZE|ZI|ZO|ZU|ARCHAIC (E|WU|YE|YI)|MINNAN (NASALIZED TONE-(1|2|3|4|5|7|8)|TONE-(2|3|4|",
    "5|7|8))|SMALL (A|E|HA|HE|HI|HO|HU|I|KA|KE|KU|MU|N|NU|O|RA|RE|RI|RO|RU|SI|SU|TO|TU|U|WA|WE|WI|",
    "WO|YA|YO|YU))|MIDDLE DOT|VOICED ITERATION MARK)|KATAKANA-HIRAGANA (DOUBLE HYPHEN|(PROLONGED|",
    "SEMI-VOICED|VOICED) SOUND MARK)|KAYAH LI (DIGIT (EIGHT|FIVE|FOUR|NINE|ONE|SEVEN|SIX|THREE|",
    "TWO|ZERO)|LETTER (A|BA|CA|DA|GA|HA|HTA|I|KA|KHA|LA|MA|NA|NGA|NYA|OE|OO|PA|PHA|RA|SA|SHA|TA|",
    "THA|VA|WA|YA|ZA)|SIGN (CWI|SHYA)|TONE (CALYA(| PLOPHU)|PLOPHU)|VOWEL (E|EE|O|U|UE))|(KELVIN|",
    "KIP) SIGN|KEYBOARD(| AND MOUSE)|KEYCAP TEN|KHAROSHTHI (DIGIT (FOUR|ONE|THREE|TWO)|FRACTION ",
    "ONE HALF|LETTER (A|BA|BHA|CA|CHA|DA|DDA|DDHA|DHA|GA|GHA|HA|JA|KA|KHA|KKA|LA|MA|NA|NNA|NYA|PA|",
    "PHA|RA|SA|SHA|SSA|TA|THA|TTA|TTHA|TTTA|TTTHA|VA|VHA|YA|ZA)|NUMBER (ONE (HUNDRED|THOUSAND)|",
    "TEN|TWENTY)|PUNCTUATION (CIRCLE|DANDA|DOT|LINES|LOTUS|MANGALAM|CRESCENT BAR|DOUBLE DANDA|",
    "SMALL CIRCLE)|SIGN (ANUSVARA|CAUDA|VISARGA|BAR ABOVE|DOT BELOW|DOUBLE RING BELOW)|VIRAMA|",
    "VOWEL (LENGTH MARK|SIGN (E|I|O|U|VOCALIC R)))|KHITAN SMALL SCRIPT (CHARACTER-18(B(0|1|2|3|4|",
    "5|6|7|8|9|A|B|C|D|E|F)(0|1|2|3|4|5|6|7|8|9|A|B|C|D|E|F)|C((0|1|2|3|4|5|6|7|8|9|A|B|C)(0|1|2|",
    "3|4|5|6|7|8|9|A|B|C|D|E|F)|D(0|1|2|3|4|5)))|FILLER)|KHMER (CURRENCY SYMBOL RIEL|DIGIT (EIGHT|",
    "FIVE|FOUR|NINE|ONE|SEVEN|SIX|THREE|TWO|ZERO)|INDEPENDENT VOWEL (LY|LYY|QAA|QAI|QAQ|QAU|QE|QI|",
    "QII|QU|QUK|QUU|QUUV|RY|RYY|QOO TYPE (ONE|TWO))|LETTER (BA|CA|CHA|CHO|CO|DA|DO|HA|KA|KHA|KHO|",
    "KO|LA|LO|MO|NGO|NNO|NO|NYO|PHA|PHO|PO|QA|RO|SA|SHA|SSO|TA|THA|THO|TO|TTHA|TTHO|VO|YO)|SIGN ",
    "(AHSDA|ATTHACAN|AVAKRAHASANYA|BANTOC|BARIYOOSAN|BATHAMASAT|BEYYAL|COENG|KAKABAT|KHAN|KOOMUUT|",
    "MUUSIKATOAN|NIKAHIT|REAHMUK|ROBAT|TOANDAKHIAT|TRIISAP|VIRIAM|YUUKALEAPINTU|CAMNUC PII KUUH|",
    "LEK TOO|PHNAEK MUAN|SAMYOK SANNYA)|SYMBOL ((BEI|BUON|DAP|DAP-BEI|DAP-BUON|DAP-MUOY|DAP-PII|",
    "DAP-PRAM|MUOY|PII|PRAM|PRAM-BEI|PRAM-BUON|PRAM-MUOY|PRAM-PII) (KOET|ROC)|LEK ATTAK (BEI|BUON|",
    "MUOY|PII|PRAM|PRAM-BEI|PRAM-BUON|PRAM-MUOY|PRAM-PII|SON)|PATHAMASAT|TUTEYASAT)|VOWEL ",
    "(INHERENT (AA|AQ)|SIGN (AA|AE|AI|AU|E|I|IE|II|OE|OO|U|UA|UU|Y|YA|YY)))|KHOJKI (ABBREVIATION ",
    "SIGN|DANDA|DOUBLE (DANDA|SECTION MARK)|LETTER (A|AA|AI|AU|BA|BBA|BHA|CA|CHA|DA|DDA|DDDA|DDHA|",
    "DHA|E|GA|GGA|GHA|HA|I|JA|JJA|KA|KHA|LA|LLA|MA|NA|NGA|NNA|NYA|O|PA|PHA|RA|SA|TA|THA|TTA|TTHA|",
    "U|VA|YA)|SECTION MARK|SIGN (ANUSVARA|NUKTA|SHADDA|SUKUN|VIRAMA)|VOWEL SIGN (AA|AI|AU|E|I|II|",
    "O|U)|WORD SEPARATOR)|KHUDAWADI (DIGIT (EIGHT|FIVE|FOUR|NINE|ONE|SEVEN|SIX|THREE|TWO|ZERO)|",
    "LETTER (A|AA|AI|AU|BA|BBA|BHA|CA|CHA|DA|DDA|DDDA|DDHA|DHA|E|GA|GGA|GHA|HA|I|II|JA|JHA|JJA|KA|",
    "KHA|LA|MA|NA|NGA|NNA|NYA|O|PA|PHA|RA|RRA|SA|SHA|TA|THA|TTA|TTHA|U|UU|VA|YA)|SIGN (ANUSVARA|",
    "NUKTA|VIRAMA)|VOWEL SIGN (AA|AI|AU|E|I|II|O|U|UU))|KISS(| MARK)|KISSING (CAT FACE WITH ",
    "CLOSED EYES|FACE(| WITH (CLOSED|SMILING) EYES))|KNEELING PERSON|KOREAN STANDARD SYMBOL"]

end GraphBind.Text.CharacterName
