import GraphBind.Text.Basic
import GraphBind.Url.Label.Basic

/-!
# Hosts

A host may be the number of a computer: four decimal numbers below 256 with points between them, or
eight hexadecimal numbers with colons between them, a run of zeros left out or not and the last two
written as four decimal ones or not. Behind a percent sign a zone may follow.

Any other host is a domain name: a row of labels between dots; a dot may end it. Any of four
characters counts as a dot.
-/

/-! ## Numeric hosts -/

namespace GraphBind.Url.NumericHost

/-- An ASCII digit. -/
def isDigit (c : Char) : Bool := '0' ≤ c && c ≤ '9'

/-- Whether a text has the look of four numbers: runs of digits with points between them. -/
def looksDecimal (cs : List Char) : Bool :=
  let parts := cs.splitOn '.'
  parts.length == 4 && parts.all fun part => !part.isEmpty && part.all isDigit

/-- Whether a text is a decimal number below 256 without needless zeros. -/
def isByte (cs : List Char) : Bool :=
  !cs.isEmpty && cs.length ≤ 3 && cs.all isDigit && (cs == ['0'] || cs.head? != some '0') &&
    cs.foldl (fun n c => 10 * n + (c.toNat - 48)) 0 < 256

/-- Whether a text is four decimal numbers. -/
def isDecimal (cs : List Char) : Bool :=
  let parts := cs.splitOn '.'
  parts.length == 4 && parts.all isByte

/-- Whether a text is a hexadecimal number of at most four digits. -/
def isUnit (cs : List Char) : Bool :=
  !cs.isEmpty && cs.length ≤ 4 && cs.all fun c => (Text.hexValue? c).isSome

/-- The parts of a hexadecimal address; four decimal numbers at its end count as two parts. -/
def units? (cs : List Char) : Option (List (List Char)) :=
  let parts := cs.splitOn ':'
  let final := parts.getLast?.getD []
  if parts.length < 3 then none
  else if final.contains '.' then
    if isDecimal final then some (parts.dropLast ++ [['0'], ['0']]) else none
  else some parts

/-- Whether the parts before or behind a left out run are numbers; none are if only the colon of the
run is there. -/
def areUnits (parts : List (List Char)) : Bool := parts == [[]] || parts.all isUnit

/-- Whether parts are eight numbers, or fewer with one run left out. -/
def isFull (parts : List (List Char)) : Bool :=
  let inner := (parts.drop 1).dropLast
  match inner.findIdx? (·.isEmpty) with
  | none => parts.length == 8 && parts.all isUnit
  | some index =>
    let before := parts.take (index + 1)
    let behind := parts.drop (index + 2)
    let count := (before.filter (!·.isEmpty)).length + (behind.filter (!·.isEmpty)).length
    parts.length ≤ 9 && count < 8 && areUnits before && areUnits behind

/-- Whether a text is a hexadecimal address, with a zone or not. -/
def isHexadecimal (cs : List Char) : Bool :=
  let zoned := match cs.dropWhile (· != '%') with
    | [] => true
    | _ :: zone => !zone.isEmpty && !zone.contains '%'
  zoned && !cs.contains '/' && ((units? (cs.takeWhile (· != '%'))).map isFull).getD false

end GraphBind.Url.NumericHost

/-! ## Domain names -/

namespace GraphBind.Url.DomainName

/-- The characters that stand between labels. -/
def isDot (c : Char) : Bool := c == '.' || c == '\u3002' || c == '\uFF0E' || c == '\uFF61'

/-- The labels of a name, and whether a dot ends it. -/
def labels (cs : List Char) : List (List Char) × Bool :=
  let parts := cs.splitOnP isDot
  if parts.getLast? == some [] then (parts.dropLast, true) else (parts, false)

/-- The most characters of a name in ASCII, a dot at its end apart. -/
def lengthLimit : Nat := 253

/-- The name in ASCII. -/
def toAscii (cs : List Char) : Except Label.Fault (List Char) := do
  if cs.isEmpty then throw .emptyDomain
  let (parts, dotted) := labels cs
  let encoded ← parts.mapM Label.toAscii
  let name := ['.'].intercalate (if dotted then encoded ++ [[]] else encoded)
  if (if dotted then lengthLimit + 1 else lengthLimit) < name.length then throw .domainTooLong
  return name

/-- The name that ASCII characters write, however long it is. -/
def ofAscii (cs : List Char) : Except Label.Fault Text := do
  if cs.isEmpty then throw .emptyDomain
  let (parts, dotted) := labels cs
  let decoded ← parts.mapM Label.ofAscii
  return Text.joined "." (if dotted then decoded ++ [[]] else decoded)

end GraphBind.Url.DomainName
