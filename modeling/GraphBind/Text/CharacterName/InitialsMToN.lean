/-!
# Character names with the initials M to N

The names of characters that begin with the letters from M to N, as patterns.
-/

namespace GraphBind.Text.CharacterName

/-- The names with the initial M. -/
def initialM : String :=
  String.join [
    "MACRON|MAGE|MAGNET|MAMMOTH|MANGO|MAXIMIZE|MELON|MEMO|MERCURY|MERPERSON|METRO|MICROBE|",
    "MICROPHONE|MICROSCOPE|MINIBUS|MINIDISC|MINIMIZE|MINY|MMSP|MODELS|MONORAIL|MOSQUE|MOSQUITO|",
    "MOTORWAY|MOUTH|MOYAI|MULTIMAP|MUSHROOM|MVS|MW|MAGIC WAND|MAHAJANI (ABBREVIATION SIGN|LETTER ",
    "(A|BA|BHA|CA|CHA|DA|DDA|DDHA|DHA|E|GA|GHA|HA|I|JA|JHA|KA|KHA|LA|MA|NA|NNA|NYA|O|PA|PHA|RA|",
    "RRA|SA|TA|THA|TTA|TTHA|U|VA)|LIGATURE SHRI|SECTION MARK|SIGN NUKTA)|MAHJONG TILE (AUTUMN|",
    "BACK|BAMBOO|CHRYSANTHEMUM|JOKER|ORCHID|PLUM|SPRING|SUMMER|WINTER|(EAST|NORTH|SOUTH|WEST) ",
    "WIND|(EIGHT|FIVE|FOUR|NINE|ONE|SEVEN|SIX|THREE|TWO) OF (BAMBOOS|CHARACTERS|CIRCLES)|(GREEN|",
    "RED|WHITE) DRAGON)|MAKASAR (ANGKA|PASSIMBANG|END OF SECTION|LETTER (A|BA|CA|DA|GA|JA|KA|LA|",
    "MA|NA|NGA|NYA|PA|RA|SA|TA|VA|YA)|VOWEL SIGN (E|I|O|U))|MALAYALAM (AU LENGTH MARK|DATE MARK|",
    "DIGIT (EIGHT|FIVE|FOUR|NINE|ONE|SEVEN|SIX|THREE|TWO|ZERO)|FRACTION (ONE (EIGHTH|FIFTH|",
    "FORTIETH|HALF|ONE-HUNDRED-AND-SIXTIETH|QUARTER|SIXTEENTH|TENTH|TWENTIETH)|THREE (EIGHTIETHS|",
    "QUARTERS|SIXTEENTHS|TWENTIETHS))|LETTER (A|AA|AI|AU|BA|BHA|CA|CHA|DA|DDA|DDHA|DHA|E|EE|GA|",
    "GHA|HA|I|II|JA|JHA|KA|KHA|LA|LLA|LLLA|MA|NA|NGA|NNA|NNNA|NYA|O|OO|PA|PHA|RA|RRA|SA|SHA|SSA|",
    "TA|THA|TTA|TTHA|TTTA|U|UU|VA|YA|ARCHAIC II|CHILLU (K|L|LL|LLL|M|N|NN|RR|Y)|DOT REPH|VEDIC ",
    "ANUSVARA|VOCALIC (L|LL|R|RR))|NUMBER (ONE (HUNDRED|THOUSAND)|TEN)|SIGN (ANUSVARA|AVAGRAHA|",
    "CANDRABINDU|PARA|VIRAMA|VISARGA|CIRCULAR VIRAMA|COMBINING ANUSVARA ABOVE|VERTICAL BAR ",
    "VIRAMA)|VOWEL SIGN (AA|AI|AU|E|EE|I|II|O|OO|U|UU|VOCALIC (L|LL|R|RR)))|MALE (AND FEMALE SIGN|",
    "SIGN|WITH STROKE (AND MALE AND FEMALE SIGN|SIGN))|MALTESE CROSS|MAN(| (AND WOMAN HOLDING ",
    "HANDS|DANCING|IN (BUSINESS SUIT LEVITATING|TUXEDO)|WITH (GUA PI MAO|TURBAN)))|(MANAT|MICRO|",
    "MILL|MINUS-OR-PLUS) SIGN|MANDAIC ((AFFRICATION|GEMINATION|VOCALIZATION) MARK|LETTER (AB|AD|",
    "AG|AH|AIN|AK|AKSA|AL|AM|AN|AP|AQ|AR|AS|ASH|ASZ|AT|ATT|AZ|DUSHENNA|HALQA|IN|IT|KAD|USHENNA)|",
    "PUNCTUATION)|MANICHAEAN (ABBREVIATION MARK (ABOVE|BELOW)|LETTER (AAYIN|ALEPH|AYIN|BETH|BHETH|",
    "DALETH|DHAMEDH|FE|GHIMEL|GIMEL|HE|HETH|JAYIN|JHAYIN|KAPH|KHAPH|LAMEDH|MEM|NUN|PE|QHOPH|QOPH|",
    "RESH|SADHE|SAMEKH|SHIN|SSHIN|TAW|TETH|THAMEDH|WAW|XAPH|XOPH|YODH|ZAYIN|ZHAYIN)|NUMBER (FIVE|",
    "TEN|TWENTY|ONE(| HUNDRED))|PUNCTUATION (DOT(| WITHIN DOT)|DOUBLE DOT WITHIN DOT|FLEURON|STAR|",
    "LINE FILLER|TWO DOTS)|SIGN UD)|MANS SHOE|MANTELPIECE CLOCK|(MANUAL|MOTORIZED) WHEELCHAIR|MAP ",
    "SYMBOL FOR LIGHTHOUSE|MAPLE LEAF|MARCHEN (HEAD MARK|LETTER (-A|A|BA|CA|CHA|DA|DZA|GA|HA|JA|",
    "KA|KHA|LA|MA|NA|NGA|NYA|PA|PHA|RA|SA|SHA|TA|THA|TSA|TSHA|WA|YA|ZA|ZHA)|MARK SHAD|SIGN ",
    "(ANUSVARA|CANDRABINDU)|SUBJOINED LETTER (A|BA|CA|CHA|DA|DZA|GA|HA|JA|KA|KHA|LA|MA|NA|NGA|NYA|",
    "PA|PHA|RA|SA|SHA|TA|THA|TSA|TSHA|WA|YA|ZA|ZHA)|VOWEL SIGN (AA|E|I|O|U))|(MARRIAGE|MENS|",
    "MONOSTABLE) SYMBOL|MARTIAL ARTS UNIFORM|MASARAM GONDI (DIGIT (EIGHT|FIVE|FOUR|NINE|ONE|SEVEN|",
    "SIX|THREE|TWO|ZERO)|LETTER (A|AA|AI|AU|BA|BHA|CA|CHA|DA|DDA|DDHA|DHA|E|GA|GHA|HA|I|II|JA|JHA|",
    "JNYA|KA|KHA|KSSA|LA|LLA|MA|NA|NGA|NNA|NYA|O|PA|PHA|RA|SA|SHA|SSA|TA|THA|TRA|TTA|TTHA|U|UU|VA|",
    "YA)|RA-KARA|REPHA|VIRAMA|SIGN (ANUSVARA|CANDRA|HALANTA|NUKTA|VISARGA)|VOWEL SIGN (AA|AI|AU|E|",
    "I|II|O|U|UU|VOCALIC R))|MASCULINE ORDINAL INDICATOR|MASK WORK SYMBOL|MASU MARK|MATE DRINK|",
    "MATHEMATICAL (BOLD (CAPITAL (A|ALPHA|B|BETA|C|CHI|D|DELTA|DIGAMMA|E|EPSILON|ETA|F|G|GAMMA|H|",
    "I|IOTA|J|K|KAPPA|L|LAMDA|M|MU|N|NU|O|OMEGA|OMICRON|P|PHI|PI|PSI|Q|R|RHO|S|SIGMA|T|TAU|U|",
    "UPSILON|V|W|X|XI|Y|Z|ZETA|THETA(| SYMBOL))|DIGIT (EIGHT|FIVE|FOUR|NINE|ONE|SEVEN|SIX|THREE|",
    "TWO|ZERO)|(EPSILON|KAPPA|PHI|PI|RHO|THETA) SYMBOL|(FRAKTUR|SCRIPT) (CAPITAL|SMALL) (A|B|C|D|",
    "E|F|G|H|I|J|K|L|M|N|O|P|Q|R|S|T|U|V|W|X|Y|Z)|ITALIC (CAPITAL (A|ALPHA|B|BETA|C|CHI|D|DELTA|E|",
    "EPSILON|ETA|F|G|GAMMA|H|I|IOTA|J|K|KAPPA|L|LAMDA|M|MU|N|NU|O|OMEGA|OMICRON|P|PHI|PI|PSI|Q|R|",
    "RHO|S|SIGMA|T|TAU|U|UPSILON|V|W|X|XI|Y|Z|ZETA|THETA(| SYMBOL))|(EPSILON|KAPPA|PHI|PI|RHO|",
    "THETA) SYMBOL|NABLA|PARTIAL DIFFERENTIAL|SMALL (A|ALPHA|B|BETA|C|CHI|D|DELTA|E|EPSILON|ETA|F|",
    "G|GAMMA|H|I|IOTA|J|K|KAPPA|L|LAMDA|M|MU|N|NU|O|OMEGA|OMICRON|P|PHI|PI|PSI|Q|R|RHO|S|SIGMA|T|",
    "TAU|THETA|U|UPSILON|V|W|X|XI|Y|Z|ZETA|FINAL SIGMA))|NABLA|PARTIAL DIFFERENTIAL|SMALL (A|",
    "ALPHA|B|BETA|C|CHI|D|DELTA|DIGAMMA|E|EPSILON|ETA|F|G|GAMMA|H|I|IOTA|J|K|KAPPA|L|LAMDA|M|MU|N|",
    "NU|O|OMEGA|OMICRON|P|PHI|PI|PSI|Q|R|RHO|S|SIGMA|T|TAU|THETA|U|UPSILON|V|W|X|XI|Y|Z|ZETA|",
    "FINAL SIGMA))|DOUBLE-STRUCK (CAPITAL (A|B|D|E|F|G|I|J|K|L|M|O|S|T|U|V|W|X|Y)|DIGIT (EIGHT|",
    "FIVE|FOUR|NINE|ONE|SEVEN|SIX|THREE|TWO|ZERO)|SMALL (A|B|C|D|E|F|G|H|I|J|K|L|M|N|O|P|Q|R|S|T|",
    "U|V|W|X|Y|Z))|(FALLING|RISING) DIAGONAL|FRAKTUR (CAPITAL (A|B|D|E|F|G|J|K|L|M|N|O|P|Q|S|T|U|",
    "V|W|X|Y)|SMALL (A|B|C|D|E|F|G|H|I|J|K|L|M|N|O|P|Q|R|S|T|U|V|W|X|Y|Z))|ITALIC (CAPITAL (A|",
    "ALPHA|B|BETA|C|CHI|D|DELTA|E|EPSILON|ETA|F|G|GAMMA|H|I|IOTA|J|K|KAPPA|L|LAMDA|M|MU|N|NU|O|",
    "OMEGA|OMICRON|P|PHI|PI|PSI|Q|R|RHO|S|SIGMA|T|TAU|U|UPSILON|V|W|X|XI|Y|Z|ZETA|THETA(| ",
    "SYMBOL))|(EPSILON|KAPPA|PHI|PI|RHO|THETA) SYMBOL|NABLA|PARTIAL DIFFERENTIAL|SMALL (A|ALPHA|B|",
    "BETA|C|CHI|D|DELTA|E|EPSILON|ETA|F|G|GAMMA|I|IOTA|J|K|KAPPA|L|LAMDA|M|MU|N|NU|O|OMEGA|",
    "OMICRON|P|PHI|PI|PSI|Q|R|RHO|S|SIGMA|T|TAU|THETA|U|UPSILON|V|W|X|XI|Y|Z|ZETA|DOTLESS (I|J)|",
    "FINAL SIGMA))|(LEFT|RIGHT) (ANGLE BRACKET|DOUBLE ANGLE BRACKET|FLATTENED PARENTHESIS|WHITE ",
    "(SQUARE BRACKET|TORTOISE SHELL BRACKET))|MONOSPACE ((CAPITAL|SMALL) (A|B|C|D|E|F|G|H|I|J|K|L|",
    "M|N|O|P|Q|R|S|T|U|V|W|X|Y|Z)|DIGIT (EIGHT|FIVE|FOUR|NINE|ONE|SEVEN|SIX|THREE|TWO|ZERO))|",
    "SANS-SERIF (BOLD (CAPITAL (A|ALPHA|B|BETA|C|CHI|D|DELTA|E|EPSILON|ETA|F|G|GAMMA|H|I|IOTA|J|K|",
    "KAPPA|L|LAMDA|M|MU|N|NU|O|OMEGA|OMICRON|P|PHI|PI|PSI|Q|R|RHO|S|SIGMA|T|TAU|U|UPSILON|V|W|X|",
    "XI|Y|Z|ZETA|THETA(| SYMBOL))|DIGIT (EIGHT|FIVE|FOUR|NINE|ONE|SEVEN|SIX|THREE|TWO|ZERO)|",
    "(EPSILON|KAPPA|PHI|PI|RHO|THETA) SYMBOL|ITALIC (CAPITAL (A|ALPHA|B|BETA|C|CHI|D|DELTA|E|",
    "EPSILON|ETA|F|G|GAMMA|H|I|IOTA|J|K|KAPPA|L|LAMDA|M|MU|N|NU|O|OMEGA|OMICRON|P|PHI|PI|PSI|Q|R|",
    "RHO|S|SIGMA|T|TAU|U|UPSILON|V|W|X|XI|Y|Z|ZETA|THETA(| SYMBOL))|(EPSILON|KAPPA|PHI|PI|RHO|",
    "THETA) SYMBOL|NABLA|PARTIAL DIFFERENTIAL|SMALL (A|ALPHA|B|BETA|C|CHI|D|DELTA|E|EPSILON|ETA|F|",
    "G|GAMMA|H|I|IOTA|J|K|KAPPA|L|LAMDA|M|MU|N|NU|O|OMEGA|OMICRON|P|PHI|PI|PSI|Q|R|RHO|S|SIGMA|T|",
    "TAU|THETA|U|UPSILON|V|W|X|XI|Y|Z|ZETA|FINAL SIGMA))|NABLA|PARTIAL DIFFERENTIAL|SMALL (A|",
    "ALPHA|B|BETA|C|CHI|D|DELTA|E|EPSILON|ETA|F|G|GAMMA|H|I|IOTA|J|K|KAPPA|L|LAMDA|M|MU|N|NU|O|",
    "OMEGA|OMICRON|P|PHI|PI|PSI|Q|R|RHO|S|SIGMA|T|TAU|THETA|U|UPSILON|V|W|X|XI|Y|Z|ZETA|FINAL ",
    "SIGMA))|(CAPITAL|SMALL) (A|B|C|D|E|F|G|H|I|J|K|L|M|N|O|P|Q|R|S|T|U|V|W|X|Y|Z)|DIGIT (EIGHT|",
    "FIVE|FOUR|NINE|ONE|SEVEN|SIX|THREE|TWO|ZERO)|ITALIC (CAPITAL|SMALL) (A|B|C|D|E|F|G|H|I|J|K|L|",
    "M|N|O|P|Q|R|S|T|U|V|W|X|Y|Z))|SCRIPT (CAPITAL (A|C|D|G|J|K|N|O|P|Q|S|T|U|V|W|X|Y|Z)|SMALL (A|",
    "B|C|D|F|H|I|J|K|L|M|N|P|Q|R|S|T|U|V|W|X|Y|Z)))|MAYAN NUMERAL (EIGHT|EIGHTEEN|ELEVEN|FIFTEEN|",
    "FIVE|FOUR|FOURTEEN|NINE|NINETEEN|ONE|SEVEN|SEVENTEEN|SIX|SIXTEEN|TEN|THIRTEEN|THREE|TWELVE|",
    "TWO|ZERO)|MEASURED (ANGLE(| (OPENING LEFT|WITH OPEN ARM ENDING IN ARROW POINTING ((DOWN|UP) ",
    "AND (LEFT|RIGHT)|(LEFT|RIGHT) AND (DOWN|UP))))|BY|RIGHT ANGLE WITH DOT)|MEAT ON BONE|",
    "MECHANICAL (ARM|LEG)|MEDEFAIDRIN ((CAPITAL|SMALL) LETTER (A|AI|ATIU|B|C|D|E|F|G|H|HP|I|J|K|",
    "KP|L|M|N|NG|NY|O|OE|P|Q|R|S|T|U|V|W|X|Y|YU|Z)|COMMA|DIGIT (EIGHT|FIVE|FOUR|NINE|SEVEN|SIX|",
    "ZERO|(ONE|THREE|TWO)(| ALTERNATE FORM))|EXCLAMATION OH|FULL STOP|NUMBER (EIGHTEEN|ELEVEN|",
    "FIFTEEN|FOURTEEN|NINETEEN|SEVENTEEN|SIXTEEN|TEN|THIRTEEN|TWELVE)|SYMBOL AIVA)|MEDIEVAL ",
    "(COMMA|(EXCLAMATION|QUESTION) MARK)|MEDIUM (BLACK CIRCLE|(BOLD|SMALL) WHITE CIRCLE|(EIGHT|",
    "SIX) (POINTED BLACK STAR|SPOKED ASTERISK)|FIVE SPOKED ASTERISK|FLATTENED (LEFT|RIGHT) ",
    "PARENTHESIS ORNAMENT|(FOUR|THREE) POINTED (BLACK|PINWHEEL) STAR|GREEK CROSS|(LEFT|RIGHT) ",
    "(CURLY BRACKET ORNAMENT|PARENTHESIS ORNAMENT)|(LEFT-POINTING|RIGHT-POINTING) ANGLE BRACKET ",
    "ORNAMENT|MATHEMATICAL SPACE|SALTIRE|SHADE|VERTICAL BAR|WHITE (CIRCLE|SQUARE))|MEETEI MAYEK ",
    "(AHANG KHUDAM|ANJI|CHEIKHAN|CHEIKHEI|VIRAMA|(APUN|LUM) IYEK|DIGIT (EIGHT|FIVE|FOUR|NINE|ONE|",
    "SEVEN|SIX|THREE|TWO|ZERO)|LETTER (ATIYA|BA|BHAM|CHA|CHIL|DDA|DDHA|DHOU|DIL|E|GHOU|GOK|HUK|",
    "JHAM|JIL|KHOU|NNA|NYA|O|PHAM|RAI|SAM|SHA|SSA|THOU|TTA|TTHA|UN|WAI|YANG|(I|KOK|LAI|MIT|NA|",
    "NGOU|PA|TIL)(| LONSUM))|(SYLLABLE|WORD) REPETITION MARK|VOWEL SIGN (AAI|AAU|ANAP|AU|CHEINAP|",
    "II|INAP|NUNG|ONAP|SOUNAP|UNAP|UU|VISARGA|YENAP))|(MELTING|MONEY-MOUTH) FACE|MENDE KIKAKUI ",
    "(COMBINING NUMBER ((HUNDRED|TEN) THOUSANDS|HUNDREDS|MILLIONS|TEENS|TENS|THOUSANDS)|DIGIT ",
    "(EIGHT|FIVE|FOUR|NINE|ONE|SEVEN|SIX|THREE|TWO)|SYLLABLE M(0(0(1 KI|2 KA|3 KU|4 WI|5 WA|6 WU|",
    "7 MIN|8 MAN|9 MUN)|1(0 BI|1 BA|2 BU|3 I|4 A|5 U|6 DI|7 DA|8 DU|9 SI)|2(0 SA|1 SU|2 TI|3 TA|4 ",
    "TU|5 LI|6 LA|7 LU|8 JI|9 JA)|3(0 JU|1 YI|2 YA|3 YU|4 FI|5 FA|6 FU|7 NIN|8 NAN|9 NUN)|4(0 HEE|",
    "1 HA|2 HOO|3 NGGA|4 KPEE|5 WO|6 HUAN|7 MBEE|8 KO|9 WVA)|5(0 PU|1 PE|2 HEN|3 HIN|4 LOO|5 TE|6 ",
    "GBA|7 NGON|8 NYAN|9 MEN)|6(0 NYON|1 WVI|2 MBA|3 JO|4 NDO|5 KEE|6 PO|7 NDOO|8 PI|9 TO)|7(0 ",
    "GBO|1 GBOO|2 MBE|3 LE|4 KPU|5 FE|6 KOO|7 VO|8 FEE|9 SO)|8(0 YE|1 PEE|2 NGGU|3 HEEI|4 LEE|5 ",
    "VE|6 LONG NGGE|7 HUN|8 FO|9 DEE)|9(0 NGGI|1 TEE|2 KPA|3 GBEE|4 MON|5 KE|6 HE|7 BE|8 NYEN|9 ",
    "PA))|1(0(0 E|1 FAN|2 POO|3 BOO|4 TOO|5 LONG MBOO|6 LONG NGGOO|7 GBE|8 KPE|9 YEE)|1(0 LONG LE|",
    "1 GA|2 KPOO|3 JE|4 WOO|5 NGGEE|6 SE|7 NEN|8 WE|9 NDE)|2(0 NGGO|1 YO|2 MBU|3 NDI|4 GBI|5 NDU|",
    "6 WEE|7 NGGUA|8 HOOU|9 NDA)|3(0 HAN|(1|5) IN|2 KPI|3 FOO|4 NJOO|6 SOO|7 EI|8 BO|9 WVE)|4(0 ",
    "HO|1 YOO|2 LONG MBO|3 WEI|4 VOO|5 MBI|6 NGGE|7 O|8 GBU|9 NJEE)|5(0 BEE|1 VU|2 NJA|3 LO|4 ",
    "MUAN|5 GI|6 NGGOO|7 JEE|8 KPO|9 NGGAA)|6(0 JOO|1 LONG MBE|2 SEE|3 EE|4 NYIN|5 OO|6 GUEI|7 ",
    "GUAN|8 GU|9 NON)|7(0 NYUN|1 RA|2 MBOO|3 VEE|4 MBO|5 LONG JO|6 HI|7 NGUAN|8 EN|9 KUA)|8(0 DOO|",
    "1 DO|2 VI|3 LONG NGGO|4 NGEN|5 VA|6 HU|7 MBUU|8 MBEE|9 MUEN)|9(0 GEE|1 NDEE|2 NJU|3 HON|4 ",
    "WUI|5 AN|6 SIA|7 FUA))))|MENORAH WITH NINE BRANCHES|MEROITIC (CURSIVE (FRACTION ((EIGHT|",
    "ELEVEN|FIVE|FOUR|NINE|SEVEN|SIX|TEN|THREE|TWO) TWELFTHS|ONE (HALF|TWELFTH))|LETTER (A|BA|DA|",
    "E|HHA|I|KA|KHA|LA|MA|NA|NE|O|PA|QA|RA|SA|SE|TA|TE|TO|WA|YA|ARCHAIC SA)|LOGOGRAM (IMN|RMT)|",
    "NUMBER ((EIGHT|FIVE|FOUR|NINE|ONE|SEVEN|SIX|THREE|TWO)(| (HUNDRED(| THOUSAND)|THOUSAND))|",
    "(EIGHTY|NINETY) THOUSAND|(FIFTY|FORTY|SEVENTY|SIXTY|TEN|THIRTY|TWENTY)(| THOUSAND)))|",
    "HIEROGLYPHIC (LETTER (A|BA|DA|E|HHA|I|KA|KHA|LA|MA|NA|NE|O|PA|QA|RA|SA|SE|TA|TE|TO|WA|YA|",
    "(BA-|NA-|NE-|RA-|SA-|TA-|TE-)2)|SYMBOL (VIDJ|VIDJ-2)))|MESSAGE WAITING|METRICAL (BREVE|",
    "PENTASEME|TETRASEME|TRISEME|LONG OVER (SHORT|TWO SHORTS)|SHORT OVER LONG|TWO SHORTS (JOINED|",
    "OVER LONG))|MIAO (LETTER (AH|BA|BRI|DA|DDA|DLHA|DLHYA|DZA|DZHA|DZYI|DZZA|FA|GA|GHA|GHHA|HA|",
    "HHA|KA|LA|LHA|LHYA|LYA|MA|MHA|NA|NASALIZATION|NGA|NGHA|NHA|NNA|NNHA|NYA|NYHA|PA|PLA|QA|QGA|",
    "RTE|SA|SHA|SSA|SYI|TA|TE|TLHA|TLHYA|TSA|TSE|TSHA|TSSA|TTA|VA|VFA|WA|XA|ZA|ZHA|ZSA|ZSHA|ZZA|",
    "ZZSA|ZZSYA|ZZYA|ARCHAIC (MA|NA|NGA|ZZA)|REFORMED (TONE-(1|2|4|5|6|8)|TSHA)|TONE-(2|3|4|5|6|7|",
    "8)|YI (DZHA|KA|NNA|PA|TA|TSA|TSHA|TTA))|SIGN (ASPIRATION|CONSONANT MODIFIER BAR|REFORMED ",
    "(ASPIRATION|VOICING))|TONE (ABOVE|BELOW|RIGHT|TOP RIGHT)|VOWEL SIGN (A|AA|AE|AEE|AHH|AI|AN|",
    "ANG|AU|E|EA|EI|EN|ENG|ER|ERR|I|IA|IAN|IANG|IE|IG|II|ING|IO|IONG|IU|N|NG|O|OER|OEY|OG|OO|OU|U|",
    "UA|UAN|UANG|UEI|UI|UNG|UOG|UU|VW|W|WO|Y|YI|YUI|ROUNDED (ER|ERR)))|MICR (DASH SYMBOL|ON US ",
    "SYMBOL)|MIDDLE (DOT|THIRD WHITE RIGHT POINTING INDEX)|MIDLINE HORIZONTAL ELLIPSIS|MILITARY ",
    "(HELMET|MEDAL)|MILKY WAY|MINUS (SIGN(| (IN TRIANGLE|WITH (COMMA ABOVE|DOT BELOW|(FALLING|",
    "RISING) DOTS)))|TILDE)|MIRROR(| BALL)|MOBILE PHONE(| (OFF|WITH RIGHTWARDS ARROW AT LEFT))|",
    "MODERN PENTATHLON|MODI (ABBREVIATION SIGN|DANDA|DIGIT (EIGHT|FIVE|FOUR|NINE|ONE|SEVEN|SIX|",
    "THREE|TWO|ZERO)|DOUBLE DANDA|LETTER (A|AA|AI|AU|BA|BHA|CA|CHA|DA|DDA|DDHA|DHA|E|GA|GHA|HA|I|",
    "II|JA|JHA|KA|KHA|LA|LLA|MA|NA|NGA|NNA|NYA|O|PA|PHA|RA|SA|SHA|SSA|TA|THA|TTA|TTHA|U|UU|VA|YA|",
    "VOCALIC (L|LL|R|RR))|SIGN (ANUSVARA|ARDHACANDRA|HUVA|VIRAMA|VISARGA)|VOWEL SIGN (AA|AI|AU|E|",
    "I|II|O|U|UU|VOCALIC (L|LL|R|RR)))|MODIFIER (BREVE WITH INVERTED BREVE|LETTER ((ACUTE|",
    "CIRCUMFLEX|CROSS|GRAVE) ACCENT|(ALVEOLAR|BILABIAL|DENTAL|LATERAL) CLICK|APOSTROPHE|COLON|",
    "MACRON|PRIME|SHELF|UNASPIRATED|US|VOICING|(BEGIN|END) (HIGH|LOW) TONE|CAPITAL (A|AE|B|C|D|E|",
    "F|G|I|J|K|L|M|N|O|OU|P|Q|R|T|U|V|W|BARRED B|H(| WITH STROKE)|REVERSED (E|N))|CENTRED (LEFT|",
    "RIGHT) HALF RING|CHINESE TONE (YANG|YIN) (PING|QU|RU|SHANG)|CYRILLIC (EN|(HARD|SOFT) SIGN)|",
    "DOT ((HORIZONTAL|VERTICAL) BAR|SLASH)|DOUBLE (APOSTROPHE|PRIME)|(DOWN|UP) (ARROWHEAD|TACK)|",
    "(EXTRA-HIGH|EXTRA-LOW|HIGH|MID) (DOTTED (LEFT-STEM TONE BAR|TONE BAR)|LEFT-STEM TONE BAR|",
    "TONE BAR)|GEORGIAN NAR|GLOTTAL STOP(| WITH STROKE)|HALF TRIANGULAR COLON|(LEFT|RIGHT) ",
    "(ARROWHEAD|TACK|HALF RING)|LOW ((ACUTE|CIRCUMFLEX|GRAVE) ACCENT|DOTTED (LEFT-STEM TONE BAR|",
    "TONE BAR)|(DOWN|RIGHT|UP) ARROWHEAD|INVERTED EXCLAMATION MARK|LEFT (ARROW|ARROWHEAD)|",
    "LEFT-STEM TONE BAR|MACRON|RING|TILDE|TONE BAR|VERTICAL LINE)|LOWER RIGHT CORNER ANGLE|MIDDLE ",
    "(DOUBLE (ACUTE|GRAVE) ACCENT|GRAVE ACCENT)|(MINUS|PLUS) SIGN|OPEN SHELF|RAISED (COLON|(DOWN|",
    "UP) ARROW|EXCLAMATION MARK|INVERTED EXCLAMATION MARK)|RETROFLEX CLICK WITH RETROFLEX HOOK|",
    "REVERSED (COMMA|GLOTTAL STOP(| WITH STROKE))|RHOTIC HOOK|SHORT EQUALS SIGN|SMALL (A|AE|AIN|",
    "ALPHA|BETA|CHI|DELTA|E|ENG|ESH|ETH|EZH|F|GAMMA|IOTA|K|P|PHI|Q|SCHWA|THETA|UPSILON|W|X|Y|(B|G|",
    "HENG|M)(| WITH HOOK)|BARRED O|(BOTTOM|TOP) HALF O|C(| WITH CURL)|CAPITAL (AA|B|H|N|OE|R|U|Y|G",
    "(| WITH HOOK)|I(| WITH STROKE)|INVERTED R|L(| WITH BELT))|CLOSED (OMEGA|REVERSED OPEN E)|D(| ",
    "WITH (HOOK(| AND TAIL)|TAIL))|(DEZH|FENG|LS|LZ|TESH) DIGRAPH|DOTLESS J WITH STROKE(| AND ",
    "HOOK)|DZ DIGRAPH(| WITH (CURL|RETROFLEX HOOK))|GREEK (GAMMA|PHI)|H(| WITH (HOOK|STROKE))|I ",
    "WITH STROKE|J(| WITH CROSSED-TAIL)|L(| WITH (BELT|INVERTED LAZY S|MIDDLE TILDE|PALATAL HOOK|",
    "RETROFLEX HOOK(| AND BELT)))|LEZH(| WITH RETROFLEX HOOK)|LIGATURE OE|N WITH (LEFT|RETROFLEX) ",
    "HOOK|O(| WITH STROKE)|OPEN (E|O)|R(| WITH (FISHHOOK|TAIL))|RAMS HORN|REVERSED (E|GLOTTAL ",
    "STOP|OPEN E)|S(| WITH (CURL|HOOK))|SCRIPT G|SIDEWAYS U|T(| WITH (PALATAL|RETROFLEX) HOOK)|TC ",
    "DIGRAPH WITH CURL|TS DIGRAPH(| WITH RETROFLEX HOOK)|TURNED (A|AE|ALPHA|H|I|V|W|M(| WITH LONG ",
    "LEG)|OPEN E|R(| WITH (HOOK|LONG LEG(| AND RETROFLEX HOOK)))|Y(| WITH BELT))|U(| (BAR|WITH ",
    "LEFT HOOK))|V(| WITH (HOOK|RIGHT HOOK))|Z(| WITH (CURL|RETROFLEX HOOK)))|STRESS AND (HIGH|",
    "LOW) TONE|SUPERSCRIPT (HALF TRIANGULAR COLON|TRIANGULAR COLON)|TRIANGULAR COLON|TURNED COMMA|",
    "VERTICAL LINE|(YANG|YIN) DEPARTING TONE MARK))|MODULO TWO SUM|MONEY (BAG|WITH WINGS)|",
    "MONGOLIAN (BIRGA(| WITH (DOUBLE ORNAMENT|ORNAMENT))|COLON|COMMA|ELLIPSIS|NIRUGU|DIGIT (EIGHT|",
    "FIVE|FOUR|NINE|ONE|SEVEN|SIX|THREE|TWO|ZERO)|(DOUBLE|TRIPLE) BIRGA WITH ORNAMENT|FOUR DOTS|",
    "FREE VARIATION SELECTOR (FOUR|ONE|THREE|TWO)|FULL STOP|INVERTED BIRGA(| WITH DOUBLE ",
    "ORNAMENT)|LETTER (A|ANG|BA|CHI|DA|E|EE|FA|GA|HAA|I|JA|KA|KHA|LA|LHA|MA|NA|O|OE|PA|QA|RA|SA|",
    "SHA|TA|TSA|U|UE|WA|YA|ZA|ZHI|ZRA|ALI GALI (A|AH|BALUDA|CA|DA|DAGALGA|DAMARU|DDA|I|KA|NGA|NNA|",
    "PA|PHA|SSA|TA|TTA|TTHA|UBADAMA|ZA|ZHA|(ANUSVARA|VISARGA) ONE|HALF (U|YA)|INVERTED UBADAMA|",
    "THREE BALUDA)|CHA(| WITH TWO DOTS)|MANCHU (ALI GALI (BHA|CA|CYA|DDHA|DHA|GHA|JHA|LHA|NGA|SSA|",
    "TA|TTA|ZA|ZHA)|FA|I|KA|RA|ZHA)|SIBE (ANG|CHA|DA|E|FA|GA|GAA|HA|HAA|I|IY|JA|KA|PA|RAA|SHA|TA|",
    "TSA|U|UE|ZA|ZHA)|TODO (ALI GALI (TA|ZHA)|ANG|BA|CHA|DA|DZA|E|GA|GAA|HAA|I|JA|JIA|KA|MA|NIA|O|",
    "OE|PA|QA|TA|TSA|U|UE|WA|YA|LONG VOWEL SIGN))|MANCHU (COMMA|FULL STOP)|(ROTATED|SWIRL) BIRGA",
    "(| WITH (DOUBLE ORNAMENT|ORNAMENT))|SIBE SYLLABLE BOUNDARY MARKER|TODO SOFT HYPHEN|TURNED ",
    "SWIRL BIRGA WITH DOUBLE ORNAMENT|VOWEL SEPARATOR)|MONKEY(| FACE)|MONOGRAM FOR (EARTH|YANG|",
    "YIN)|MOOD BUBBLE|MOON (CAKE|VIEWING CEREMONY)|MOTHER CHRISTMAS|MOTOR (BOAT|SCOOTER)|MOUNT ",
    "FUJI|MOUNTAIN(| (BICYCLIST|CABLEWAY|RAILWAY))|MOUSE(| (FACE|TRAP))|MOVIE CAMERA|MRO (DANDA|",
    "DIGIT (EIGHT|FIVE|FOUR|NINE|ONE|SEVEN|SIX|THREE|TWO|ZERO)|DOUBLE DANDA|LETTER (A|BA|CHU|DA|",
    "DAI|E|EA|HAI|HAO|KEAAE|KHAI|KO|LA|LAN|MAEM|MIM|NGI|NIN|O|OL|OO|PA|PHI|RI|RO|SHI|TA|TEK|THEA|",
    "WA|YO))|MUCH (GREATER-THAN|LESS-THAN)|MULTANI (LETTER (A|BA|BHA|CA|CHA|DA|DDA|DDDA|DDHA|DHA|",
    "E|GA|GHA|HA|I|JA|JJA|KA|KHA|LA|MA|NA|NNA|NYA|PA|PHA|RA|RHA|RRA|SA|TA|THA|TTA|TTHA|U|VA|YA)|",
    "SECTION MARK)|MULTIPLE MUSICAL NOTES|MULTIPLICATION (SIGN(| (IN (DOUBLE CIRCLE|(LEFT|RIGHT) ",
    "HALF CIRCLE|TRIANGLE)|WITH (DOT ABOVE|UNDERBAR)))|X)|MULTISET(| (MULTIPLICATION|UNION))|",
    "MUSIC (FLAT|NATURAL|SHARP) SIGN|MUSICAL (KEYBOARD(| WITH JACKS)|NOTE|SCORE|SYMBOL ",
    "((ARPEGGIATO|FLAT|GLISSANDO|NATURAL|SHARP) (DOWN|UP)|BEGIN (BEAM|PHRASE|SLUR|TIE)|BRACE|",
    "BRACKET|BREVE|CAESURA|CLIMACUS|CLIVIS|CODA|CRESCENDO|CROIX|DECRESCENDO|FORTE|HAUPTSTIMME|",
    "KORON|MAXIMA|MEZZO|NEBENSTIMME|PIANO|PODATUS|RINFORZANDO|SEGNO|SORI|SUBITO|TR|VIRGA|Z|BREATH ",
    "MARK|BREVIS(| REST)|C CLEF|CIRCLE X NOTEHEAD|(CLUSTER|MOON) NOTEHEAD (BLACK|WHITE)|COMBINING ",
    "(ACCENT|ACCENT-STACCATO|BEND|DOIT|FLIP|HARMONIC|LOURE|MARCATO|MARCATO-STACCATO|RIP|SMEAR|",
    "STACCATISSIMO|STACCATO|STEM|TENUTO|AUGMENTATION DOT|(DOUBLE|TRIPLE) TONGUE|(DOWN|UP) BOW|",
    "FLAG-(1|2|3|4|5)|SNAP PIZZICATO|SPRECHGESANG STEM|TREMOLO-(1|2|3))|(COMMON|CUT) TIME|DA CAPO|",
    "DAL SEGNO|DAMP(| ALL)|(DASHED|FINAL|SHORT|SINGLE) BARLINE|DEGREE SLASH|DOUBLE (BARLINE|FLAT|",
    "SHARP)|DRUM CLEF-(1|2)|(EIGHTH|SIXTEENTH|SIXTY-FOURTH|THIRTY-SECOND|WHOLE) (NOTE|REST)|END ",
    "(BEAM|PHRASE|SLUR|TIE|OF STIMME)|(F|G) CLEF(| OTTAVA (ALTA|BASSA))|FERMATA(| BELOW)|FINGERED ",
    "TREMOLO-(1|2|3)|(FIVE-LINE|FOUR-LINE|ONE-LINE|SIX-LINE|THREE-LINE|TWO-LINE) STAFF|",
    "(FOUR-STRING|SIX-STRING) FRETBOARD|FUSA (BLACK|WHITE)|GRACE NOTE (NO SLASH|SLASH)|GREGORIAN ",
    "(C|F) CLEF|HALF (NOTE|REST|PEDAL MARK)|INVERTED TURN|KIEVAN (C CLEF|(EIGHTH|QUARTER) NOTE ",
    "STEM (DOWN|UP)|END OF PIECE|(FINAL|HALF|WHOLE) NOTE|FLAT SIGN|RECITATIVE MARK)|(LEFT|RIGHT) ",
    "REPEAT SIGN|LONGA(| (IMPERFECTA|PERFECTA) REST)|MINIMA(| (BLACK|REST))|MULTI REST|MULTIPLE ",
    "MEASURE REST|NOTEHEAD BLACK|(NULL|PARENTHESIS|PLUS|VOID|X) NOTEHEAD|ONE HUNDRED ",
    "TWENTY-EIGHTH (NOTE|REST)|ORNAMENT STROKE-(1(|0|1)|2|3|4|5|6|7|8|9)|(OTTAVA|QUINDICESIMA) ",
    "(ALTA|BASSA)|PEDAL (MARK|UP MARK)|PES SUBPUNCTIS|(PORRECTUS|SCANDICUS)(| FLEXUS)|QUARTER ",
    "(NOTE|REST|TONE (FLAT|SHARP))|REPEAT DOTS|REPEATED FIGURE-(1|2|3)|REVERSE FINAL BARLINE|",
    "(SEMIBREVIS|SEMIMINIMA) (BLACK|REST|WHITE)|SQUARE (B|NOTEHEAD (BLACK|WHITE))|TEMPUS ",
    "(IMPERFECTUM CUM PROLATIONE (IMPERFECTA(| DIMINUTION-(1|2|3))|PERFECTA)|PERFECTUM CUM ",
    "PROLATIONE (IMPERFECTA|PERFECTA(| DIMINUTION-1)))|TORCULUS(| RESUPINUS)|TRIANGLE NOTEHEAD ",
    "((DOWN|LEFT|RIGHT) (BLACK|WHITE)|UP (BLACK|WHITE|RIGHT (BLACK|WHITE)))|TRIANGLE-ROUND ",
    "NOTEHEAD DOWN (BLACK|WHITE)|TURN(| (SLASH|UP))|WITH FINGERNAILS))|MYANMAR (CONSONANT SIGN ",
    "(MEDIAL (HA|RA|WA|YA)|MON MEDIAL (LA|MA|NA)|SHAN MEDIAL WA)|DIGIT (EIGHT|FIVE|FOUR|NINE|ONE|",
    "SEVEN|SIX|THREE|TWO|ZERO)|LETTER (A|AU|BA|BHA|CA|CHA|DA|DDA|DDHA|DHA|E|GA|GHA|HA|I|II|JA|JHA|",
    "KA|KHA|LA|LLA|MA|NA|NGA|NNA|NNYA|NYA|O|PA|PHA|RA|SA|SHA|SSA|TA|THA|TTA|TTHA|U|UU|WA|YA|AITON ",
    "RA|EASTERN PWO KAREN (GHWA|NNA|YWA)|GREAT SA|KHAMTI (CA|CHA|DDA|DDHA|DHA|FA|GA|HA|HHA|JA|JHA|",
    "LLA|NA|NYA|RA|SA|TTA|TTHA|XA|ZA)|MON (BBA|BBE|E|JHA|NGA)|RUMAI PALAUNG FA|SGAW KAREN SHA|",
    "SHAN (A|BA|BHA|CA|CHA|DA|FA|GA|GHA|HA|JHA|KA|KHA|NA|NNA|NYA|PHA|THA|ZA)|SHWE PALAUNG (CHA|",
    "SHA)|TAI LAING (BA|BHA|DA|DDA|DDHA|DHA|FA|GA|GHA|JA|JHA|LLA|NNA|NYA)|VOCALIC (L|LL|R|RR)|",
    "WESTERN PWO KAREN (PWA|THA))|LOGOGRAM KHAMTI (HM|OAY|QN)|MODIFIER LETTER (KHAMTI|SHAN) ",
    "REDUPLICATION|SHAN DIGIT (EIGHT|FIVE|FOUR|NINE|ONE|SEVEN|SIX|THREE|TWO|ZERO)|SIGN (ANUSVARA|",
    "ASAT|SECTION|VIRAMA|VISARGA|DOT BELOW|KHAMTI TONE-(1|3)|LITTLE SECTION|PAO KAREN TONE|RUMAI ",
    "PALAUNG TONE-5|SHAN (COUNCIL (EMPHATIC TONE|TONE-(2|3))|SAW|TONE-(2|3|5|6))|TAI LAING TONE-",
    "(2|5)|WESTERN PWO KAREN TONE-(1|2|3|4|5))|SYMBOL (AFOREMENTIONED|COMPLETED|GENITIVE|LOCATIVE|",
    "AITON (EXCLAMATION|ONE|TWO)|SHAN (EXCLAMATION|ONE))|TAI LAING DIGIT (EIGHT|FIVE|FOUR|NINE|",
    "ONE|SEVEN|SIX|THREE|TWO|ZERO)|TONE MARK SGAW KAREN (HATHI|KE PHO)|VOWEL SIGN (AA|AI|I|II|U|",
    "UU|AITON (A|AI)|E(| ABOVE)|GEBA KAREN I|KAYAH (EE|OE|U)|MON (II|O)|SGAW KAREN EU|SHAN (AA|E",
    "(| ABOVE)|FINAL Y)|TALL AA|VOCALIC (L|LL|R|RR)|WESTERN PWO KAREN (EU|UE)))"]

/-- The names with the initial N. -/
def initialN : String :=
  String.join [
    "N-ARY (CIRCLED (DOT|PLUS|TIMES) OPERATOR|COPRODUCT|INTERSECTION|PRODUCT|SUMMATION|LOGICAL ",
    "(AND|OR)|SQUARE (INTERSECTION|UNION) OPERATOR|TIMES OPERATOR|UNION(| OPERATOR WITH (DOT|",
    "PLUS))|WHITE VERTICAL BAR)|NABATAEAN (CRUCIFORM NUMBER FOUR|LETTER (ALEPH|AYIN|BETH|DALETH|",
    "GIMEL|HE|HETH|KAPH|LAMEDH|MEM|NUN|PE|QOPH|RESH|SADHE|SAMEKH|SHIN|TAW|TETH|WAW|YODH|ZAYIN|",
    "FINAL (ALEPH|BETH|HE|KAPH|LAMEDH|MEM|NUN|SHIN|YODH))|NUMBER (FIVE|FOUR|TEN|THREE|TWENTY|TWO|",
    "ONE(| HUNDRED)))|NABLA|NAK|NAND|NBH|NBSP|NECKTIE|NEL|NESSUS|NEUTER|NEWSPAPER|NINJA|NL|NNBSP|",
    "NONFORKING|NOR|NOSE|NUL|NULL|NAIL POLISH|(NAIRA|NOMISMA|NUMERO) SIGN|NAME BADGE|NANDINAGARI ",
    "(HEADSTROKE|LETTER (A|AA|AI|AU|BA|BHA|CA|CHA|DA|DDA|DDHA|DHA|E|GA|GHA|HA|I|II|JA|JHA|KA|KHA|",
    "LA|LLA|MA|NA|NGA|NNA|NYA|O|PA|PHA|RA|RRA|SA|SHA|SSA|TA|THA|TTA|TTHA|U|UU|VA|YA|VOCALIC (R|",
    "RR))|SIGN (ANUSVARA|AVAGRAHA|SIDDHAM|VIRAMA|VISARGA)|VOWEL SIGN (AA|AI|AU|E|I|II|O|U|UU|",
    "PRISHTHAMATRA E|VOCALIC (R|RR)))|NARROW NO-BREAK SPACE|NATIONAL (DIGIT SHAPES|PARK)|",
    "(NAUSEATED|NERD) FACE|NAZAR AMULET|NEGATED DOUBLE VERTICAL BAR DOUBLE RIGHT TURNSTILE|",
    "NEGATIVE (ACKNOWLEDGE|CIRCLED (DIGIT ZERO|LATIN CAPITAL LETTER (A|B|C|D|E|F|G|H|I|J|K|L|M|N|",
    "O|P|Q|R|S|T|U|V|W|X|Y|Z)|NUMBER (EIGHTEEN|ELEVEN|FIFTEEN|FOURTEEN|NINETEEN|SEVENTEEN|SIXTEEN|",
    "THIRTEEN|TWELVE|TWENTY)|SQUARE|TRIANGLE)|DIAGONAL (CROSS|DIAMOND|MIDDLE RIGHT TO LOWER ",
    "CENTRE)|SQUARED (AB|IC|PA|SA|WC|(CROSS|QUESTION) MARK|LATIN CAPITAL LETTER (A|B|C|D|E|F|G|H|",
    "I|J|K|L|M|N|O|P|Q|R|S|T|U|V|W|X|Y|Z)))|NEITHER (A (SUBSET|SUPERSET) OF NOR EQUAL TO|",
    "APPROXIMATELY NOR ACTUALLY EQUAL TO|GREATER-THAN NOR ((EQUAL|EQUIVALENT) TO|LESS-THAN)|",
    "LESS-THAN NOR ((EQUAL|EQUIVALENT) TO|GREATER-THAN))|NEPTUNE(| FORM TWO)|NEST WITH EGGS|",
    "NESTING DOLLS|NEUTRAL (CHESS ((BISHOP|KING|PAWN|QUEEN|ROOK)(| ROTATED (NINETY DEGREES|TWO ",
    "HUNDRED SEVENTY DEGREES))|EQUIHOPPER(| ROTATED NINETY DEGREES)|KNIGHT(| ROTATED ((FORTY-FIVE|",
    "NINETY) DEGREES|ONE HUNDRED THIRTY-FIVE DEGREES|THREE HUNDRED FIFTEEN DEGREES|TWO HUNDRED ",
    "(SEVENTY|TWENTY-FIVE) DEGREES))|TURNED (BISHOP|KING|KNIGHT|PAWN|QUEEN|ROOK))|FACE)|NEW (LINE|",
    "MOON (SYMBOL|WITH FACE)|SHEQEL SIGN|TAI LUE (DIGIT (EIGHT|FIVE|FOUR|NINE|ONE|SEVEN|SIX|THREE|",
    "TWO|ZERO)|LETTER (FINAL (B|D|K|M|N|NG|V)|(HIGH|LOW) (BA|DA|FA|HA|KA|KVA|LA|MA|NA|NGA|PA|PHA|",
    "QA|SA|SUA|TA|THA|TSA|VA|XA|XVA|YA))|SIGN (LAE|LAEV)|THAM DIGIT ONE|TONE MARK-(1|2)|VOWEL ",
    "SIGN (AA|AAY|AE|AY|E|II|IY|O|OA|OAY|OY|U|UE|UEY|UU|UY|VOWEL SHORTENER)))|NEWA ((ABBREVIATION|",
    "INSERTION) SIGN|COMMA|DANDA|OM|SIDDHI|DIGIT (EIGHT|FIVE|FOUR|NINE|ONE|SEVEN|SIX|THREE|TWO|",
    "ZERO)|DOUBLE (COMMA|DANDA)|GAP FILLER|LETTER (A|AA|AI|AU|BA|BHA|CA|CHA|DA|DDA|DDHA|DHA|E|GA|",
    "GHA|HA|I|II|JA|JHA|KA|KHA|LA|LHA|MA|MHA|NA|NGA|NGHA|NHA|NNA|NYA|NYHA|O|PA|PHA|RA|RHA|SA|SHA|",
    "SSA|TA|THA|TTA|TTHA|U|UU|WA|YA|VEDIC ANUSVARA|VOCALIC (L|LL|R|RR))|(PLACEHOLDER|SANDHI) MARK|",
    "SIGN (ANUSVARA|AVAGRAHA|CANDRABINDU|JIHVAMULIYA|NUKTA|UPADHMANIYA|VIRAMA|VISARGA|FINAL ",
    "ANUSVARA)|VOWEL SIGN (AA|AI|AU|E|I|II|O|U|UU|VOCALIC (L|LL|R|RR)))|NEWLINE (LEFT|RIGHT)|NEXT ",
    "(LINE|PAGE)|NIGHT WITH STARS|NKO (COMBINING (DOUBLE DOT ABOVE|LONG (DESCENDING|HIGH|LOW|",
    "RISING) TONE|NASALIZATION MARK|SHORT (HIGH|LOW|RISING) TONE)|COMMA|DANTAYALAN|LAJANYALAN|",
    "DIGIT (EIGHT|FIVE|FOUR|NINE|ONE|SEVEN|SIX|THREE|TWO|ZERO)|(DOROME|TAMAN) SIGN|EXCLAMATION ",
    "MARK|(HIGH|LOW) TONE APOSTROPHE|LETTER (A|BA|CHA|DA|DAGBASINNA|E|EE|FA|GBA|HA|I|JA|KA|LA|MA|",
    "N|O|OO|PA|RA|RRA|SA|TA|U|WA|YA|JONA (CHA|JA|RA)|(NA|NYA)(| WOLOSO))|SYMBOL (GBAKURUNEN|OO ",
    "DENNEN))|NO (BICYCLES|PEDESTRIANS|PIRACY|BREAK HERE|ENTRY(| SIGN)|MOBILE PHONES|ONE UNDER ",
    "EIGHTEEN SYMBOL|SMOKING SYMBOL)|NO-BREAK SPACE|NOMINAL DIGIT SHAPES|NON-BREAKING HYPHEN|",
    "NON-POTABLE WATER SYMBOL|NORDIC MARK SIGN|NORMAL SUBGROUP OF(| OR EQUAL TO)|NORTH (EAST (AND ",
    "SOUTH WEST ARROW|ARROW(| (AND SOUTH EAST ARROW|CROSSING (NORTH WEST ARROW|SOUTH EAST ARROW)|",
    "WITH HOOK))|(BLACK|DOUBLE|SANS-SERIF|WHITE) ARROW|POINTING (BUD|LEAF|VINE LEAF)|",
    "TRIANGLE-HEADED ARROW(| TO BAR))|INDIC (FRACTION (ONE (EIGHTH|HALF|QUARTER|SIXTEENTH)|THREE ",
    "(QUARTERS|SIXTEENTHS))|(PLACEHOLDER|QUANTITY|QUARTER|RUPEE) MARK)|WEST (AND SOUTH EAST ARROW|",
    "ARROW(| ((AND|CROSSING) NORTH EAST ARROW|TO (CORNER|LONG BAR)|WITH HOOK))|(BLACK|DOUBLE|",
    "SANS-SERIF|WHITE) ARROW|POINTING (BUD|LEAF|VINE LEAF)|TRIANGLE-HEADED ARROW(| TO BAR)))|",
    "NORTHEAST-POINTING AIRPLANE|NOT (A (SUBSET|SUPERSET) OF|(ALMOST|ASYMPTOTICALLY) EQUAL TO|AN ",
    "ELEMENT OF|CHECK MARK|(EQUAL|EQUIVALENT|IDENTICAL|PARALLEL) TO|GREATER-THAN|LESS-THAN|SIGN|",
    "TILDE|TRUE|NORMAL SUBGROUP OF(| OR EQUAL TO)|SQUARE (IMAGE|ORIGINAL) OF OR EQUAL TO)|NOTCHED ",
    "((LEFT|RIGHT) SEMICIRCLE WITH THREE DOTS|(LOWER|UPPER) RIGHT-SHADOWED WHITE RIGHTWARDS ",
    "ARROW)|NOTE(| (PAD|PAGE))|NOTEBOOK(| WITH DECORATIVE COVER)|NUMBER ((EIGHTEEN|ELEVEN|FIFTEEN|",
    "FOURTEEN|NINETEEN|SEVENTEEN|SIXTEEN|TEN|THIRTEEN|TWELVE|TWENTY) FULL STOP|SIGN)|NUSHU ",
    "(CHARACTER-1B(1(7|8|9|A|B|C|D|E|F)(0|1|2|3|4|5|6|7|8|9|A|B|C|D|E|F)|2((0|1|2|3|4|5|6|7|8|9|A|",
    "B|C|D|E)(0|1|2|3|4|5|6|7|8|9|A|B|C|D|E|F)|F(0|1|2|3|4|5|6|7|8|9|A|B)))|ITERATION MARK)|NUT ",
    "AND BOLT|NYIAKENG PUACHUE HMONG (CIRCLED CA|DIGIT (EIGHT|FIVE|FOUR|NINE|ONE|SEVEN|SIX|THREE|",
    "TWO|ZERO)|LETTER (A|AA|CA|DA|DLA|E|EE|FA|GA|HA|HAH|I|KA|LA|MA|MLA|NA|NCA|NKA|NPA|NPLA|NQA|",
    "NRA|NTA|NTSA|NTXA|NYA|O|OO|PA|PLA|QA|RA|RRA|SA|TA|TSA|TXA|U|VA|W|XA|XYA|YA|ZA)|LOGOGRAM NYAJ|",
    "SIGN (FOR (ANIMAL|INVERTEBRATE|LOCATION|PERSON|THING)|XW XW)|SYLLABLE LENGTHENER|TONE-B|",
    "TONE-D|TONE-G|TONE-J|TONE-M|TONE-S|TONE-V)"]

end GraphBind.Text.CharacterName
