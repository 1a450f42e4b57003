import GraphBind.Text.Basic
import GraphBind.Text.Quoted

/-!
# Encodings

`Utf8.decode` reads bytes as UTF-8 and names the first malformed part; `Utf8.decodeLossy` reads on
and puts one replacement character for every maximal malformed part. Overlong forms, surrogates and
code points above U+10FFFF are malformed: the range of the second byte depends on the first.
`Utf8.decodePoints?` reads surrogates too.

UTF-16 and UTF-32 are bytes read as code units of two or four bytes. A code unit that is a surrogate
outside a pair stays one; bytes that do not fill the last unit, and units above U+10FFFF, are not
text.

Not every code point can be written in every encoding: ASCII has no others than its own, and UTF-8
has no surrogates. The first run of code points that an encoding lacks is the fault of a text.
-/

/-! ## UTF-8 -/

namespace GraphBind.Text.Utf8

/-- What is wrong with a malformed part. -/
inductive Reason where
  /-- No character starts with this byte. -/
  | startByte
  /-- The byte after the part cannot follow it. -/
  | continuationByte
  /-- The input stops inside a character. -/
  | endOfData
  deriving DecidableEq, Repr

/-- A malformed part: its place, its length in bytes, its first byte. -/
structure Malformed where
  offset : Nat
  length : Nat
  byte : UInt8
  reason : Reason
  deriving DecidableEq, Repr

/-- The words for a reason. -/
def Reason.description : Reason → String
  | startByte => "invalid start byte"
  | continuationByte => "invalid continuation byte"
  | endOfData => "unexpected end of data"

/-- The text of the error that a malformed part makes. -/
def Malformed.message (m : Malformed) : String :=
  let last := m.offset + m.length - 1
  let byte := String.ofList (hexDigits 2 m.byte.toNat)
  let place := if m.length == 1 then s!"byte 0x{byte} in position {m.offset}"
    else s!"bytes in position {m.offset}-{last}"
  s!"'utf-8' codec can't decode {place}: {m.reason.description}"

/-- What a first byte announces: how many bytes follow, the bits it carries, and the range of the
second byte. -/
structure Lead where
  following : Nat
  bits : Nat
  low : Nat
  high : Nat

/-- The first bytes of characters and, if they are allowed, of surrogates. -/
def lead? (surrogates : Bool) (b : UInt8) : Option Lead :=
  let n := b.toNat
  if n < 0x80 then some ⟨0, n, 0x80, 0xBF⟩
  else if n < 0xC2 then none
  else if n < 0xE0 then some ⟨1, n - 0xC0, 0x80, 0xBF⟩
  else if n == 0xE0 then some ⟨2, 0, 0xA0, 0xBF⟩
  else if n == 0xED then some ⟨2, 13, 0x80, if surrogates then 0xBF else 0x9F⟩
  else if n < 0xF0 then some ⟨2, n - 0xE0, 0x80, 0xBF⟩
  else if n == 0xF0 then some ⟨3, 0, 0x90, 0xBF⟩
  else if n < 0xF4 then some ⟨3, n - 0xF0, 0x80, 0xBF⟩
  else if n == 0xF4 then some ⟨3, 4, 0x80, 0x8F⟩
  else none

/-- Reads the bytes that follow, `taken` bytes after the start: the code point, or the length of the
malformed part and what is wrong with it. -/
def follow (value low high taken : Nat) : Nat → List UInt8 → Except (Nat × Reason) Nat
  | 0, _ => .ok value
  | _ + 1, [] => .error (taken, .endOfData)
  | k + 1, b :: bs =>
    if low ≤ b.toNat && b.toNat ≤ high then
      follow (64 * value + (b.toNat - 0x80)) 0x80 0xBF (taken + 1) k bs
    else .error (taken, .continuationByte)

/-- Reads one code point: its number and the number of bytes after the first, or the length of the
malformed part and what is wrong with it. -/
def next (surrogates : Bool) (b : UInt8) (bs : List UInt8) : Except (Nat × Reason) (Nat × Nat) :=
  match lead? surrogates b with
  | none => .error (1, .startByte)
  | some l => (follow l.bits l.low l.high 1 l.following bs).map (·, l.following)

/-- Reads bytes that stand at `offset`. -/
def decodeFrom (offset : Nat) : List UInt8 → Except Malformed (List Char)
  | [] => .ok []
  | b :: bs =>
    match next false b bs with
    | .error (length, reason) => .error ⟨offset, length, b, reason⟩
    | .ok (n, k) => (decodeFrom (offset + 1 + k) (bs.drop k)).map (Char.ofNat n :: ·)
  termination_by bytes => bytes.length
  decreasing_by simp only [List.length_drop, List.length_cons]; omega

/-- The text that bytes encode, or their first malformed part. -/
def decode (bytes : List UInt8) : Except Malformed (List Char) := decodeFrom 0 bytes

/-- The text of bytes, each maximal malformed part as one U+FFFD. -/
def decodeLossy : List UInt8 → List Char
  | [] => []
  | b :: bs =>
    match next false b bs with
    | .error (length, _) => '\uFFFD' :: decodeLossy (bs.drop (length - 1))
    | .ok (n, k) => Char.ofNat n :: decodeLossy (bs.drop k)
  termination_by bytes => bytes.length
  decreasing_by all_goals simp only [List.length_drop, List.length_cons]; omega

/-- The text of bytes in which surrogates are written like characters. -/
def decodePoints? : List UInt8 → Option Text
  | [] => some []
  | b :: bs =>
    match next true b bs with
    | .error _ => none
    | .ok (n, k) => (decodePoints? (bs.drop k)).map (.ofNat n :: ·)
  termination_by bytes => bytes.length
  decreasing_by simp only [List.length_drop, List.length_cons]; omega

/-- The bytes of one character. -/
def encodeChar (c : Char) : List UInt8 :=
  let n := c.toNat
  let tail (n : Nat) : UInt8 := UInt8.ofNat (0x80 + n % 64)
  if n < 0x80 then [UInt8.ofNat n]
  else if n < 0x800 then [UInt8.ofNat (0xC0 + n / 64), tail n]
  else if n < 0x10000 then [UInt8.ofNat (0xE0 + n / 4096), tail (n / 64), tail n]
  else [UInt8.ofNat (0xF0 + n / 262144), tail (n / 4096), tail (n / 64), tail n]

/-- The bytes of a text. -/
def encode (cs : List Char) : List UInt8 := cs.flatMap encodeChar

end GraphBind.Text.Utf8

/-! ## UTF-16 and UTF-32 -/

namespace GraphBind.Text.Wide

/-- The order of the bytes of a unit. -/
inductive ByteOrder where
  | big
  | little
  deriving DecidableEq, Repr

/-- Units of two bytes. -/
def units16? (order : ByteOrder) : List UInt8 → Option (List Nat)
  | [] => some []
  | [_] => none
  | a :: b :: rest =>
    let unit := match order with
      | .big => 256 * a.toNat + b.toNat
      | .little => 256 * b.toNat + a.toNat
    (units16? order rest).map (unit :: ·)

/-- Units of four bytes. -/
def units32? (order : ByteOrder) : List UInt8 → Option (List Nat)
  | [] => some []
  | a :: b :: c :: d :: rest =>
    let unit := match order with
      | .big => ((a.toNat * 256 + b.toNat) * 256 + c.toNat) * 256 + d.toNat
      | .little => ((d.toNat * 256 + c.toNat) * 256 + b.toNat) * 256 + a.toNat
    (units32? order rest).map (unit :: ·)
  | _ => none

/-- The first half of a surrogate pair. -/
def isHighSurrogate (n : Nat) : Bool := 0xD800 ≤ n && n < 0xDC00

/-- The second half of a surrogate pair. -/
def isLowSurrogate (n : Nat) : Bool := 0xDC00 ≤ n && n < 0xE000

/-- The code point of a surrogate pair. -/
def joinSurrogates (high low : Nat) : Nat :=
  0x10000 + (high - 0xD800) * 0x400 + (low - 0xDC00)

/-- Joins the pairs of UTF-16 units. -/
def joinPairs : List Nat → Text
  | [] => []
  | [n] => [.ofNat n]
  | m :: n :: rest =>
    if isHighSurrogate m && isLowSurrogate n then
      .char (Char.ofNat (joinSurrogates m n)) :: joinPairs rest
    else .ofNat m :: joinPairs (n :: rest)

/-- Reads UTF-16. -/
def decode16? (order : ByteOrder) (bytes : List UInt8) : Option Text :=
  (units16? order bytes).map joinPairs

/-- Reads UTF-32. -/
def decode32? (order : ByteOrder) (bytes : List UInt8) : Option Text :=
  (units32? order bytes).bind fun units =>
    if units.all (· < 0x110000) then some (units.map .ofNat) else none

end GraphBind.Text.Wide

/-! ## Texts that cannot be encoded -/

namespace GraphBind.Text

/-- What texts are encoded to. -/
inductive Charset where
  | ascii
  | utf8
  deriving DecidableEq, Repr

namespace Charset

/-- The name of an encoding. -/
def name : Charset → String
  | ascii => "ascii"
  | utf8 => "utf-8"

/-- Whether an encoding has a code point. -/
def has : Charset → CodePoint → Bool
  | ascii, c => c.toNat < 128
  | utf8, c => !c.isSurrogate

/-- Why an encoding does not have a code point. -/
def reason : Charset → String
  | ascii => "ordinal not in range(128)"
  | utf8 => "surrogates not allowed"

end Charset

/-- The first code points of a text that an encoding lacks, and where they begin. -/
structure Unencodable where
  charset : Charset
  offset : Nat
  run : Text
  deriving DecidableEq, Repr

namespace Unencodable

/-- The text of the error. -/
def message (e : Unencodable) : String :=
  let last := e.offset + e.run.length - 1
  let place := match e.run with
    | [c] => "character '" ++ String.ofList (escapedPoint c.toNat) ++ s!"' in position {e.offset}"
    | _ => s!"characters in position {e.offset}-{last}"
  s!"'{e.charset.name}' codec can't encode {place}: {e.charset.reason}"

/-- The fault of a text. -/
def find? (charset : Charset) (t : Text) : Option Unencodable :=
  match t.dropWhile charset.has with
  | [] => none
  | rest => some ⟨charset, (t.takeWhile charset.has).length, rest.takeWhile (!charset.has ·)⟩

end Unencodable

end GraphBind.Text
