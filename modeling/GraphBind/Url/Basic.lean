import GraphBind.Text.Basic
import GraphBind.Text.Encoding
import GraphBind.Text.Quoted

/-!
# URLs

A URL in its normal form: scheme and host are in lower case, what may not stand in a part is
escaped, and a port that the scheme implies is left out. A host that is a hexadecimal address stands
without its brackets, which `authority` writes.

A byte that may not stand in a part is written as a percent sign and two digits: `Percent.escape`
escapes the characters outside of a class and leaves the escapes alone that are there, and
`Percent.unescape` gives back the text that is meant. A query string writes parameters: names and
values that equals signs part, with ampersands between them. In it a plus sign stands for a blank.
The user of a URL is sent in Base64: every three bytes as four characters of six bits each, a rest
of one or two bytes filled up with equals signs.
-/

/-! ## Base64 -/

namespace GraphBind.Text.Base64

/-- The character of six bits. -/
def digit (n : Nat) : Char :=
  if n < 26 then Char.ofNat (65 + n)
  else if n < 52 then Char.ofNat (97 + (n - 26))
  else if n < 62 then Char.ofNat (48 + (n - 52))
  else if n == 62 then '+' else '/'

/-- Bytes in Base64. -/
def encode : List UInt8 → List Char
  | [] => []
  | [a] => [digit (a.toNat / 4), digit (a.toNat % 4 * 16), '=', '=']
  | [a, b] =>
    [digit (a.toNat / 4), digit (a.toNat % 4 * 16 + b.toNat / 16), digit (b.toNat % 16 * 4), '=']
  | a :: b :: c :: rest =>
    digit (a.toNat / 4) :: digit (a.toNat % 4 * 16 + b.toNat / 16) ::
      digit (b.toNat % 16 * 4 + c.toNat / 64) :: digit (c.toNat % 64) :: encode rest

end GraphBind.Text.Base64

/-! ## Percent escapes -/

namespace GraphBind.Url.Percent

/-- An ASCII letter or digit, or one of the signs that nowhere need an escape. -/
def isUnreserved (c : Char) : Bool :=
  ('a' ≤ c && c ≤ 'z') || ('A' ≤ c && c ≤ 'Z') || ('0' ≤ c && c ≤ '9') ||
    c == '-' || c == '.' || c == '_' || c == '~'

/-- The escape of a byte. -/
def escapeByte (b : UInt8) : List Char := '%' :: (Text.hexDigits 2 b.toNat).map Char.toUpper

/-- The escape of a character. -/
def escapeChar (c : Char) : List Char := (Text.Utf8.encodeChar c).flatMap escapeByte

/-- Escapes the characters that are not safe. -/
def escape (safe : Char → Bool) : List Char → List Char
  | '%' :: a :: b :: cs =>
    if (Text.hexValue? a).isSome && (Text.hexValue? b).isSome then
      '%' :: a :: b :: escape safe cs
    else (if safe '%' then ['%'] else escapeChar '%') ++ escape safe (a :: b :: cs)
  | c :: cs => (if safe c then [c] else escapeChar c) ++ escape safe cs
  | [] => []

/-- The bytes that an escaped text stands for. -/
def bytes : List Char → List UInt8
  | [] => []
  | '%' :: a :: b :: cs =>
    match Text.readHex? 2 0 [a, b] with
    | some n => UInt8.ofNat n :: bytes cs
    | none => 0x25 :: bytes (a :: b :: cs)
  | c :: cs => Text.Utf8.encodeChar c ++ bytes cs

/-- The text that an escaped text stands for. -/
def unescape (cs : List Char) : List Char := Text.Utf8.decodeLossy (bytes cs)

end GraphBind.Url.Percent

/-! ## URLs and their parts -/

namespace GraphBind

/-- A URL in its normal form. -/
structure Url where
  scheme : String
  /-- Name and password of the user. -/
  userinfo : String
  host : String
  port : Option Int
  path : String
  query : Option String
  fragment : Option String
  deriving DecidableEq, Repr, Inhabited

namespace Url

/-- Why a text is no URL. -/
inductive Fault where
  | tooLong
  | control (c : Char) (position : Nat)
  | decimalHost (host : String)
  | hexadecimalHost (host : String)
  | domainName (host : String)
  | port (text : String)
  /-- The path of a URL without scheme and host would be read as a host. -/
  | doubleSlash
  /-- The path of a URL without scheme and host would be read as a scheme. -/
  | leadingColon
  | partTooLong (name : String)
  deriving DecidableEq, Repr

/-- The text of a fault. -/
def Fault.message : Fault → String
  | tooLong => "URL too long"
  | control c position =>
    "Invalid non-printable ASCII character in URL, " ++ Text.quoted (String.singleton c) ++
      s!" at position {position}."
  | decimalHost host => "Invalid IPv4 address: " ++ Text.quoted host
  | hexadecimalHost host => "Invalid IPv6 address: " ++ Text.quoted host
  | domainName host => "Invalid IDNA hostname: " ++ Text.quoted host
  | port text => "Invalid port: " ++ Text.quoted text
  | doubleSlash => "Relative URLs cannot have a path starting with '//'"
  | leadingColon => "Relative URLs cannot have a path starting with ':'"
  | partTooLong name => s!"URL component '{name}' too long"

/-- Host and port. -/
def location (u : Url) : String :=
  let host := if u.host.contains ':' then s!"[{u.host}]" else u.host
  host ++ (u.port.map fun n => s!":{n}").getD ""

/-- The user, the host and the port. -/
def authority (u : Url) : String :=
  (if u.userinfo.isEmpty then "" else u.userinfo ++ "@") ++ u.location

/-- The text of a URL. -/
def toText (u : Url) : String :=
  (if u.scheme.isEmpty then "" else u.scheme ++ ":") ++
    (if u.authority.isEmpty then "" else "//" ++ u.authority) ++ u.path ++
    (u.query.map ("?" ++ ·)).getD "" ++ (u.fragment.map ("#" ++ ·)).getD ""

/-- Whether a URL says where it leads. -/
def isAbsolute (u : Url) : Bool := !u.scheme.isEmpty && !u.host.isEmpty

/-- The path and the query of a URL; without a path, that of the root. -/
def target (u : Url) : String :=
  (if u.path.isEmpty then "/" else u.path) ++ (u.query.map ("?" ++ ·)).getD ""

/-- Name and password of the user, if there are any. -/
def credentials? (u : Url) : Option (List Char × List Char) :=
  let name := Percent.unescape (u.userinfo.toList.takeWhile (· != ':'))
  let password := Percent.unescape ((u.userinfo.toList.dropWhile (· != ':')).drop 1)
  if name.isEmpty && password.isEmpty then none else some (name, password)

/-- The header value that gives name and password of the user. -/
def authorization? (u : Url) : Option String :=
  u.credentials?.map fun (name, password) =>
    let encoded := Text.Base64.encode (Text.Utf8.encode (name ++ ':' :: password))
    "Basic " ++ String.ofList encoded

end Url

end GraphBind

/-! ## Query strings -/

namespace GraphBind.Url.Query

/-- Splits a text at the first occurrence of a character, which is dropped. -/
def cut (at_ : Char) (cs : List Char) : List Char × List Char :=
  (cs.takeWhile (· != at_), (cs.dropWhile (· != at_)).drop 1)

/-- The text that a name or value stands for. -/
def decoded (cs : List Char) : String :=
  String.ofList (Percent.unescape (cs.map fun c => if c == '+' then ' ' else c))

/-- Groups parameters by name, in the order in which the names first come. -/
def group : List (String × String) → List (String × String)
  | [] => []
  | p :: ps =>
    let rest := group ps
    p :: (rest.filter (·.1 == p.1) ++ rest.filter (·.1 != p.1))

/-- The parameters that a query string writes. -/
def parse (query : List Char) : List (String × String) :=
  group (((query.splitOn '&').filter (!·.isEmpty)).map fun part =>
    let (name, value) := cut '=' part
    (decoded name, decoded value))

/-- A name or value as it is written. -/
def encoded (s : String) : List Char :=
  s.toList.flatMap fun c =>
    if c == ' ' then ['+'] else if Percent.isUnreserved c then [c] else Percent.escapeChar c

/-- The query string of one parameter. -/
def single (name value : String) : List Char := encoded name ++ '=' :: encoded value

end GraphBind.Url.Query
