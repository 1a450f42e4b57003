import GraphBind.Json.Read
import GraphBind.Text.Encoding

/-!
# Encoded JSON

A document in bytes is UTF-8, UTF-16 or UTF-32. A byte order mark tells which; without one, the zero
bytes among the first four do, since a document opens with an ASCII character. Surrogates outside
of pairs are let through in all of them.
-/

namespace GraphBind.Json

open Text.Wide (ByteOrder)

/-- How the text of a document is encoded. -/
inductive Encoding where
  | utf8
  | utf16 (order : ByteOrder)
  | utf32 (order : ByteOrder)
  deriving DecidableEq, Repr

/-- The byte order marks and the encodings that they say; one that begins like another stands before
it. -/
def Encoding.marks : List (List UInt8 × Encoding) :=
  [([0x00, 0x00, 0xFE, 0xFF], utf32 .big), ([0xFF, 0xFE, 0x00, 0x00], utf32 .little),
    ([0xFE, 0xFF], utf16 .big), ([0xFF, 0xFE], utf16 .little), ([0xEF, 0xBB, 0xBF], utf8)]

/-- The encoding that the zero bytes at the beginning of a document say. -/
def Encoding.ofZeros : List UInt8 → Encoding
  | a :: b :: c :: d :: _ =>
    if a == 0 then (if b == 0 then utf32 .big else utf16 .big)
    else if b == 0 then (if c == 0 && d == 0 then utf32 .little else utf16 .little)
    else utf8
  | [a, b] => if a == 0 then utf16 .big else if b == 0 then utf16 .little else utf8
  | _ => utf8

/-- The encoding of a document and its bytes behind the byte order mark. -/
def Encoding.detect (bytes : List UInt8) : Encoding × List UInt8 :=
  match marks.find? fun entry => entry.1.isPrefixOf bytes with
  | some (mark, encoding) => (encoding, bytes.drop mark.length)
  | none => (ofZeros bytes, bytes)

/-- The text of bytes in an encoding. -/
def Encoding.decode? (encoding : Encoding) (bytes : List UInt8) : Option Text :=
  match encoding with
  | utf8 => Text.Utf8.decodePoints? bytes
  | utf16 order => Text.Wide.decode16? order bytes
  | utf32 order => Text.Wide.decode32? order bytes

/-- The document that bytes encode. -/
def ofBytes? (bytes : List UInt8) : Option Json :=
  let (encoding, content) := Encoding.detect bytes
  (encoding.decode? content).bind fun text => (ofLexemes (lex text)).toOption

end GraphBind.Json
