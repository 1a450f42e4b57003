import GraphBind.Text.Basic

/-!
# Floating-point numbers and their texts

A finite number of 64 bits is a sign, a mantissa below 2 ^ 53 and a power of two from 2 ^ -1074 to 2
^ 971; its mantissa is at least 2 ^ 52 unless its exponent is the least one. Every rounding goes to
the nearest number, a tie to the one with an even mantissa, and is computed on exact naturals.

What is read as a number is an optional sign and either the word `inf`, `infinity` or `nan` in any
letter case, or decimal digits with at most one point and an optional exponent. White space may
surround it, single underscores may stand between digits, and the decimal digits of every script
count.

The text of a number has the fewest digits that read back as the number, and of those the nearest
ones. It is positional while the decimal exponent is from -4 to 15, and scientific with at least two
exponent digits beyond.
-/

/-! ## Numbers of 64 bits -/

namespace GraphBind.Decimal

/-- A floating-point number; all not-a-numbers are one. -/
inductive Binary64 where
  | nan
  | infinity (negative : Bool)
  | finite (negative : Bool) (mantissa : Nat) (exponent : Int)
  deriving DecidableEq, Repr, Inhabited

/-- A power of two. -/
def twoPow (k : Nat) : Nat := Nat.pow 2 k

/-- A power of ten. -/
def tenPow (k : Nat) : Nat := Nat.pow 10 k

/-- The quotient rounded to the nearest natural, a tie to the even one. -/
def roundQuotient (num den : Nat) : Nat :=
  let q := num / den
  let r := 2 * (num % den)
  if r < den then q else if den < r then q + 1 else if q % 2 == 0 then q else q + 1

/-- The greatest `k` with `2 ^ k ≤ num / den`, for positive numbers. -/
def floorLog2 (num den : Nat) : Int :=
  let k : Int := (Nat.log2 num : Int) - Nat.log2 den
  let reached := if 0 ≤ k then den * twoPow k.toNat ≤ num else den ≤ num * twoPow (-k).toNat
  if reached then k else k - 1

namespace Binary64

/-- The number nearest to a quotient of naturals. -/
def ofRatio (negative : Bool) (num den : Nat) : Binary64 :=
  if num == 0 then finite negative 0 (-1074)
  else
    let e := max (floorLog2 num den - 52) (-1074)
    let m := if 0 ≤ e then roundQuotient num (den * twoPow e.toNat)
      else roundQuotient (num * twoPow (-e).toNat) den
    let (m, e) := if m == twoPow 53 then (twoPow 52, e + 1) else (m, e)
    if 971 < e then infinity negative else finite negative m e

/-- How many decimal digits a natural has. -/
def decimalWidth (n : Nat) : Nat := (Nat.toDigits 10 n).length

/-- The number nearest to `digits * 10 ^ exponent`. Powers that leave the range are decided by the
place of the first digit alone. -/
def ofDecimal (negative : Bool) (digits : Nat) (exponent : Int) : Binary64 :=
  if digits == 0 then finite negative 0 (-1074)
  else
    let top := exponent + decimalWidth digits
    if 310 ≤ top then infinity negative
    else if top ≤ -324 then finite negative 0 (-1074)
    else if 0 ≤ exponent then ofRatio negative (digits * tenPow exponent.toNat) 1
    else ofRatio negative digits (tenPow (-exponent).toNat)

/-- The integer that a number is, if it is one. -/
def toInt? : Binary64 → Option Int
  | finite negative m e =>
    let magnitude? : Option Nat :=
      if 0 ≤ e then some (m * twoPow e.toNat)
      else if m % twoPow (-e).toNat == 0 then some (m / twoPow (-e).toNat) else none
    magnitude?.map fun n => if negative then -(n : Int) else n
  | _ => none

/-- Whether the number is a zero of either sign. -/
def isZero : Binary64 → Bool
  | finite _ m _ => m == 0
  | _ => false

/-- Numeric equality: zeros of both signs agree, and not-a-number differs from all. -/
def agrees (x y : Binary64) : Bool :=
  match x, y with
  | nan, _ => false
  | _, nan => false
  | x, y => x == y || (x.isZero && y.isZero)

end Binary64

/-! ## Reading numbers -/

/-- The zeros of the scripts of Unicode 14 that have decimal digits; the other nine digits follow
each. -/
def digitZeros : List Nat :=
  [0x30, 0x660, 0x6F0, 0x7C0, 0x966, 0x9E6, 0xA66, 0xAE6, 0xB66, 0xBE6, 0xC66, 0xCE6, 0xD66, 0xDE6,
   0xE50, 0xED0, 0xF20, 0x1040, 0x1090, 0x17E0, 0x1810, 0x1946, 0x19D0, 0x1A80, 0x1A90, 0x1B50,
   0x1BB0, 0x1C40, 0x1C50, 0xA620, 0xA8D0, 0xA900, 0xA9D0, 0xA9F0, 0xAA50, 0xABF0, 0xFF10, 0x104A0,
   0x10D30, 0x11066, 0x110F0, 0x11136, 0x111D0, 0x112F0, 0x11450, 0x114D0, 0x11650, 0x116C0,
   0x11730, 0x118E0, 0x11950, 0x11C50, 0x11D50, 0x11DA0, 0x16A60, 0x16AC0, 0x16B50, 0x1D7CE,
   0x1D7D8, 0x1D7E2, 0x1D7EC, 0x1D7F6, 0x1E140, 0x1E2F0, 0x1E950, 0x1FBF0]

/-- The value of a decimal digit of any script. -/
def digitValue? (c : Char) : Option Nat :=
  (digitZeros.find? fun base => base ≤ c.toNat && c.toNat < base + 10).map (c.toNat - ·)

/-- An ASCII decimal digit. -/
def isDigit (c : Char) : Bool := '0' ≤ c && c ≤ '9'

/-- Writes digits of other scripts in ASCII. -/
def plainDigits (cs : List Char) : List Char :=
  cs.map fun c => match digitValue? c with
    | some d => Char.ofNat (48 + d)
    | none => c

/-- The natural number that a list of ASCII digits writes. -/
def digitsToNat (ds : List Char) : Nat := ds.foldl (fun n d => 10 * n + (d.toNat - 48)) 0

/-- Removes underscores, if each stands between two digits; `before` says whether a digit has just
been read. -/
def dropUnderscores? (before : Bool) : List Char → Option (List Char)
  | [] => some []
  | '_' :: c :: cs =>
    if before && isDigit c then (dropUnderscores? true cs).map (c :: ·) else none
  | '_' :: [] => none
  | c :: cs => (dropUnderscores? (isDigit c) cs).map (c :: ·)

/-- The value of an exponent part: nothing, or `e`, an optional sign and digits. -/
def readExponent? : List Char → Option Int
  | [] => some 0
  | e :: cs =>
    if e == 'e' || e == 'E' then
      let (negative, ds) := match cs with
        | '-' :: ds => (true, ds)
        | '+' :: ds => (false, ds)
        | ds => (false, ds)
      if ds.isEmpty || !ds.all isDigit then none
      else some (if negative then -(digitsToNat ds : Int) else digitsToNat ds)
    else none

/-- Reads an unsigned decimal number: digits, a point, digits, an exponent. -/
def readDecimal? (negative : Bool) (cs : List Char) : Option Binary64 :=
  let whole := cs.takeWhile isDigit
  let rest := cs.dropWhile isDigit
  let (fraction, rest) := match rest with
    | '.' :: rest => (rest.takeWhile isDigit, rest.dropWhile isDigit)
    | rest => ([], rest)
  if whole.isEmpty && fraction.isEmpty then none
  else (readExponent? rest).map fun e =>
    Binary64.ofDecimal negative (digitsToNat (whole ++ fraction)) (e - fraction.length)

/-- Reads an unsigned number, a word included. -/
def readUnsigned? (negative : Bool) (cs : List Char) : Option Binary64 :=
  let word := String.ofList (cs.map Char.toLower)
  if word == "inf" || word == "infinity" then some (.infinity negative)
  else if word == "nan" then some .nan
  else readDecimal? negative cs

/-- What may stand around a number: white space other than the information separators. -/
def isPadding (c : Char) : Bool := Text.isBlank c && !(0x1C ≤ c.toNat && c.toNat ≤ 0x1F)

/-- A text without the padding at its ends. -/
def withoutPadding (cs : List Char) : List Char :=
  Text.trim isPadding cs

/-- The most digits that an integer may have. -/
def digitLimit : Nat := 4300

/-- The integer that a text writes: digits behind an optional sign. -/
def readInteger? (text : List Char) : Option Int :=
  (dropUnderscores? false (plainDigits (withoutPadding text))).bind fun cs =>
    let (negative, digits) := match cs with
      | '-' :: cs => (true, cs)
      | '+' :: cs => (false, cs)
      | cs => (false, cs)
    if digits.isEmpty || digitLimit < digits.length || !digits.all isDigit then none
    else some (if negative then -(digitsToNat digits : Int) else digitsToNat digits)

/-- The number that a text writes. -/
def Binary64.read? (text : List Char) : Option Binary64 :=
  (dropUnderscores? false (plainDigits (withoutPadding text))).bind fun cs =>
    match cs with
    | '-' :: cs => readUnsigned? true cs
    | '+' :: cs => readUnsigned? false cs
    | cs => readUnsigned? false cs

/-! ## Shortest decimal text -/

/-- The reals that round to a positive number `mantissa * 2 ^ exponent`, with the number itself, all
over one denominator; the ends belong to the interval iff the mantissa is even. -/
structure RoundingInterval where
  low : Nat
  value : Nat
  high : Nat
  denominator : Nat
  closed : Bool

namespace RoundingInterval

/-- The interval of a positive number. Below a power of two the gap to the next number is half as
wide. -/
def ofBinary (mantissa : Nat) (exponent : Int) : RoundingInterval :=
  let scale := twoPow exponent.toNat
  let below := if mantissa == twoPow 52 && -1074 < exponent then 1 else 2
  { low := (4 * mantissa - below) * scale
    value := 4 * mantissa * scale
    high := (4 * mantissa + 2) * scale
    denominator := 4 * twoPow (-exponent).toNat
    closed := mantissa % 2 == 0 }

/-- The interval in units of `10 ^ exponent`. -/
def inUnits (i : RoundingInterval) (exponent : Int) : RoundingInterval :=
  let up := tenPow (-exponent).toNat
  { i with
    low := i.low * up
    value := i.value * up
    high := i.high * up
    denominator := i.denominator * tenPow exponent.toNat }

/-- Whether a number of units rounds to the value. -/
def contains (i : RoundingInterval) (d : Nat) : Bool :=
  let x := d * i.denominator
  if i.closed then i.low ≤ x && x ≤ i.high else i.low < x && x < i.high

/-- The nearest number of units that rounds to the value, an even one at a tie. -/
def nearest? (i : RoundingInterval) : Option Nat :=
  let d := i.value / i.denominator
  match i.contains d, i.contains (d + 1) with
  | true, true => some (roundQuotient i.value i.denominator)
  | true, false => some d
  | false, true => some (d + 1)
  | false, false => none

/-- The exponent of the first decimal digit, plus one. -/
def magnitude (i : RoundingInterval) : Int :=
  (Binary64.decimalWidth (i.value * tenPow 400 / i.denominator) : Int) - 400

/-- Tries grids of more and more digits, `left` of them still to go; the last one, of 17 digits,
always has a point that reads back. -/
def search (i : RoundingInterval) (top : Int) : Nat → Nat × Int
  | 0 => (roundQuotient (i.inUnits (top - 17)).value (i.inUnits (top - 17)).denominator, top - 17)
  | left + 1 =>
    let exponent := top - (17 - left : Nat)
    match (i.inUnits exponent).nearest? with
    | some d => (d, exponent)
    | none => search i top left

end RoundingInterval

/-- The shortest digits of a positive number, and the exponent of the last one. -/
def shortestDigits (mantissa : Nat) (exponent : Int) : Nat × Int :=
  let i := RoundingInterval.ofBinary mantissa exponent
  i.search i.magnitude 17

/-- Drops the zeros at the end of a list of digits. -/
def dropTrailingZeros (ds : List Char) : List Char := (ds.reverse.dropWhile (· == '0')).reverse

/-- Lays out digits whose point stands after the first `point` of them. -/
def layOut (ds : List Char) (point : Int) : List Char :=
  if -3 ≤ point && point ≤ 16 then
    if point ≤ 0 then '0' :: '.' :: List.replicate (-point).toNat '0' ++ ds
    else if ds.length ≤ point.toNat then
      ds ++ List.replicate (point.toNat - ds.length) '0' ++ ['.', '0']
    else ds.take point.toNat ++ '.' :: ds.drop point.toNat
  else
    let e := point - 1
    let digits := Nat.toDigits 10 e.natAbs
    let significand := match ds with
      | d :: next :: more => d :: '.' :: next :: more
      | short => short
    significand ++ 'e' :: (if e < 0 then '-' else '+') ::
      (if digits.length < 2 then '0' :: digits else digits)

namespace Binary64

/-- The text of a number. -/
def toText : Binary64 → String
  | nan => "nan"
  | infinity negative => if negative then "-inf" else "inf"
  | finite negative m e =>
    let magnitude :=
      if m == 0 then ['0', '.', '0']
      else
        let (d, exponent) := shortestDigits m e
        let digits := Nat.toDigits 10 d
        layOut (dropTrailingZeros digits) (digits.length + exponent)
    String.ofList (if negative then '-' :: magnitude else magnitude)

end Binary64

end GraphBind.Decimal
