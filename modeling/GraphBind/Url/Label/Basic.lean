import GraphBind.Text.Composition
import GraphBind.Text.Mark
import GraphBind.Text.Punycode
import GraphBind.Text.Quoted
import GraphBind.Url.Label.Allowed
import GraphBind.Url.Label.Context
import GraphBind.Url.Label.Direction

/-!
# Labels of domain names

A label is what stands between two dots of a domain name. `check` says whether a text may be one: it
is composed, its hyphens do not look like a prefix, it does not begin with a mark, every code point
may stand where it does, and what is written from right to left does not mix with the rest.

A label that is not ASCII is written with the prefix `xn--` and its Punycode. `toAscii` writes a
label so, and `ofAscii` reads it back.
-/

namespace GraphBind.Url.Label

/-- Why a text is no label, or no domain name. -/
inductive Fault where
  | labelTooLong
  | emptyLabel
  | notComposed
  | hyphensInside
  | hyphenAtEnd
  | beginsWithMark
  /-- No label holds the code point. -/
  | disallowed (label : Text) (position point : Nat)
  /-- A joiner stands where none may. -/
  | strayJoiner (label : Text) (position point : Nat)
  /-- The code point stands where it may not. -/
  | outOfContext (label : Text) (position point : Nat)
  | unknownDirection (label : Text) (position : Nat)
  | beginsWithoutDirection (label : Text)
  | againstDirection (rightToLeft : Bool) (position : Nat)
  | mixedNumbers
  | endsWithoutDirection
  /-- Nothing follows the prefix. -/
  | noContent
  | endsWithHyphen
  /-- What follows the prefix is no Punycode. -/
  | unreadable
  | domainTooLong
  | emptyDomain
  deriving DecidableEq, Repr

namespace Fault

/-- A code point as it is called in messages. -/
def pointName (n : Nat) : String :=
  "U+" ++ String.ofList ((Text.hexDigits (max 4 (Text.hexWidth 8 n)) n).map Char.toUpper)

/-- The text of a fault. -/
def message : Fault → String
  | labelTooLong => "Label too long"
  | emptyLabel => "Empty Label"
  | notComposed => "Label must be in Normalization Form C"
  | hyphensInside => "Label has disallowed hyphens in 3rd and 4th position"
  | hyphenAtEnd => "Label must not start or end with a hyphen"
  | beginsWithMark => "Label begins with an illegal combining character"
  | disallowed label position point =>
    s!"Codepoint {pointName point} at position {position} of " ++ Text.quoted label ++
      " not allowed"
  | strayJoiner label position point =>
    s!"Unknown codepoint adjacent to joiner {pointName point} at position {position} in " ++
      Text.quoted label
  | outOfContext label position point =>
    s!"Codepoint {pointName point} not allowed at position {position} in " ++ Text.quoted label
  | unknownDirection label position =>
    "Unknown directionality in label " ++ Text.quoted label ++ s!" at position {position}"
  | beginsWithoutDirection label =>
    "First codepoint in label " ++ Text.quoted label ++ " must be directionality L, R or AL"
  | againstDirection true position =>
    s!"Invalid direction for codepoint at position {position} in a right-to-left label"
  | againstDirection false position =>
    s!"Invalid direction for codepoint at position {position} in a left-to-right label"
  | mixedNumbers => "Can not mix numeral types in a right-to-left label"
  | endsWithoutDirection => "Label ends with illegal codepoint directionality"
  | noContent => "Malformed A-label, no Punycode eligible content found"
  | endsWithHyphen => "A-label must not end with a hyphen"
  | unreadable => "Invalid A-label"
  | domainTooLong => "Domain too long"
  | emptyDomain => "Empty domain"

end Fault

/-! ## Code points in their places -/

/-- The mark that keeps two letters from joining. -/
def nonJoiner : Nat := 0x200C

/-- The mark that makes two letters join. -/
def joiner : Nat := 0x200D

/-- Whether a text begins with a code point of a class. -/
def beginsWith (p : Nat → Bool) : Text → Bool
  | [] => false
  | c :: _ => p c.toNat

/-- What the first code point that does not count as transparent joins. -/
def firstJoining? : Text → Option Joining
  | [] => none
  | c :: cs =>
    match joining? c.toNat with
    | some .transparent => firstJoining? cs
    | j => j

/-- Whether a non-joiner stands between letters that would join without it. -/
def partsLetters (before behind : Text) : Bool :=
  (firstJoining? before == some .left || firstJoining? before == some .dual) &&
    (firstJoining? behind == some .right || firstJoining? behind == some .dual)

/-- An Arabic digit. -/
def isArabicDigit (n : Nat) : Bool := 0x660 ≤ n && n ≤ 0x669

/-- An Arabic digit in the form of Persian and Urdu. -/
def isEasternDigit (n : Nat) : Bool := 0x6F0 ≤ n && n ≤ 0x6F9

/-- Whether a code point that needs its context stands in it; nothing if it needs none. `before` is
given in reverse. -/
def fitsContext? (label before : Text) (n : Nat) (behind : Text) : Option Bool :=
  if n == 0xB7 then some (beginsWith (· == 0x6C) before && beginsWith (· == 0x6C) behind)
  else if n == 0x375 then some (beginsWith isGreek behind)
  else if n == 0x5F3 || n == 0x5F4 then some (beginsWith isHebrew before)
  else if n == 0x30FB then some (label.any fun c => c.toNat != 0x30FB && isJapanese c.toNat)
  else if isArabicDigit n then some (!label.any fun c => isEasternDigit c.toNat)
  else if isEasternDigit n then some (!label.any fun c => isArabicDigit c.toNat)
  else none

/-- Whether a joiner stands where it may: behind a sign that takes the vowel away or, if it keeps
letters apart, between letters that would join. -/
def fitsJoiner (before : Text) (n : Nat) (behind : Text) : Bool :=
  beginsWith (fun m => Text.combiningClass m == Text.viramaClass) before ||
    (n == nonJoiner && partsLetters before behind)

/-- Checks a code point between what stands before it, in reverse, and behind it. -/
def checkPoint (label before : Text) (c : CodePoint) (behind : Text) : Except Fault Unit :=
  let n := c.toNat
  let position := before.length + 1
  if isAllowed n then .ok ()
  else if n == nonJoiner || n == joiner then
    if fitsJoiner before n behind then .ok () else .error (.strayJoiner label position n)
  else
    match fitsContext? label before n behind with
    | none => .error (.disallowed label position n)
    | some fits => if fits then .ok () else .error (.outOfContext label position n)

/-- Checks the code points of a label behind the ones that have been checked. -/
def checkPoints (label before : Text) : Text → Except Fault Unit
  | [] => .ok ()
  | c :: behind => do
    checkPoint label before c behind
    checkPoints label (c :: before) behind

/-! ## Directions -/

/-- Whether a label may end with a direction, marks behind it apart. -/
def Direction.mayEnd (rightToLeft : Bool) : Direction → Bool
  | .europeanNumber => true
  | .left => !rightToLeft
  | .right | .arabic | .arabicNumber => rightToLeft
  | _ => false

/-- Whether a direction may occur in a label. -/
def Direction.fits (rightToLeft : Bool) : Direction → Bool
  | .left => !rightToLeft
  | .right | .arabic | .arabicNumber => rightToLeft
  | _ => true

/-- Whether a direction makes a label one with a direction of its own. -/
def Direction.isRightToLeft : Direction → Bool
  | .right | .arabic | .arabicNumber => true
  | _ => false

/-- Whether a direction is that of digits. -/
def Direction.isNumber : Direction → Bool
  | .europeanNumber | .arabicNumber => true
  | _ => false

/-- Checks the directions of a label from a position on; `number` is the kind of digits so far, and
`ends` says whether the label may end here. -/
def checkRun (rightToLeft : Bool) (position : Nat) (number : Option Direction) (ends : Bool) :
    List Direction → Except Fault Unit
  | [] => if ends then .ok () else .error .endsWithoutDirection
  | d :: ds =>
    if !d.fits rightToLeft then .error (.againstDirection rightToLeft position)
    else if rightToLeft && d.isNumber && number.any (· != d) then .error .mixedNumbers
    else
      checkRun rightToLeft (position + 1) (if d.isNumber then some d else number)
        (if d == .mark then ends else d.mayEnd rightToLeft) ds

/-- Checks that directions do not mix. Only what is written from right to left has to be checked. -/
def checkDirections (label : Text) : Except Fault Unit :=
  let directions := label.map fun c => direction c.toNat
  match directions.findIdx? (· == .unknown) with
  | some index => .error (.unknownDirection label (index + 1))
  | none =>
    if !directions.any Direction.isRightToLeft then .ok ()
    else
      match directions.head? with
      | some .right | some .arabic => checkRun true 1 none false directions
      | some .left => checkRun false 1 none false directions
      | _ => .error (.beginsWithoutDirection label)

/-! ## Labels -/

/-- The most characters of a label in ASCII. -/
def labelLimit : Nat := 63

/-- Checks that the hyphens of a label do not look like those of a prefix. -/
def checkHyphens (label : Text) : Except Fault Unit :=
  let hyphen := CodePoint.char '-'
  if (label.drop 2).take 2 == [hyphen, hyphen] then .error .hyphensInside
  else if label.head? == some hyphen || label.getLast? == some hyphen then .error .hyphenAtEnd
  else .ok ()

/-- Checks that a text is a label. -/
def check (label : Text) : Except Fault Unit := do
  if label.isEmpty then throw .emptyLabel
  if !Text.isComposed label then throw .notComposed
  checkHyphens label
  if beginsWith Text.isMark label then throw .beginsWithMark
  checkPoints label [] label
  checkDirections label

/-- What an encoded label begins with. -/
def encodedPrefix : List Char := ['x', 'n', '-', '-']

/-- An ASCII character. -/
def isAscii (c : Char) : Bool := c.toNat < 128

/-- The label that ASCII characters write. -/
def ofAscii (cs : List Char) : Except Fault Text := do
  let small := cs.map Char.toLower
  if encodedPrefix.isPrefixOf small then
    let content := small.drop encodedPrefix.length
    if content.isEmpty then throw .noContent
    if content.getLast? == some '-' then throw .endsWithHyphen
    match Text.Punycode.decode? content with
    | none => throw .unreadable
    | some label =>
      check label
      return label
  else
    check (.ofChars small)
    return .ofChars small

/-- A label in ASCII. -/
def toAscii (cs : List Char) : Except Fault (List Char) := do
  if cs.all isAscii then
    let _ ← ofAscii cs
    if labelLimit < cs.length then throw .labelTooLong
    return cs
  else
    check (.ofChars cs)
    let encoded := encodedPrefix ++ Text.Punycode.encode (.ofChars cs)
    if labelLimit < encoded.length then throw .labelTooLong
    return encoded

end GraphBind.Url.Label
