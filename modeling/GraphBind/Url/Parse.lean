import GraphBind.Decimal
import GraphBind.Text.Casing
import GraphBind.Url.Basic
import GraphBind.Url.Host

/-!
# Reading URLs

`parse` splits a text into the parts of a URL and brings each into its normal form. `compose` does
the latter with parts that are given, which must not be too long.

Of a text that does not say where it leads only path and query count; `absolute` gives the URL that
is meant by it.
-/

namespace GraphBind.Url

/-! ## Parts -/

/-- The parts of a URL as they are written. -/
structure Parts where
  scheme : List Char
  authority : List Char
  path : List Char
  query : Option (List Char)
  fragment : Option (List Char)
  deriving DecidableEq, Repr

/-- A character of a scheme behind its first one. -/
def isSchemePart (c : Char) : Bool := c.isAlphanum || c == '+' || c == '.' || c == '-'

/-- Splits a scheme, which may be empty, and the colon behind it off a text. -/
def splitScheme (cs : List Char) : List Char × List Char :=
  let scheme := cs.takeWhile isSchemePart
  match cs.dropWhile isSchemePart with
  | ':' :: rest => if (scheme.head?.map Char.isAlpha).getD true then (scheme, rest) else ([], cs)
  | _ => ([], cs)

/-- Splits two slashes and the authority behind them off a text. -/
def splitAuthority : List Char → List Char × List Char
  | '/' :: '/' :: cs =>
    let ends (c : Char) : Bool := c == '/' || c == '?' || c == '#'
    (cs.takeWhile (!ends ·), cs.dropWhile (!ends ·))
  | cs => ([], cs)

/-- The part of a text behind a mark, if there is one, and the text before the mark. -/
def splitMark (mark : Char) (cs : List Char) : List Char × Option (List Char) :=
  match cs.dropWhile (· != mark) with
  | [] => (cs, none)
  | _ :: rest => (cs.takeWhile (· != mark), some rest)

/-- The parts of a text. -/
def Parts.ofText (cs : List Char) : Parts :=
  let (cs, fragment) := splitMark '#' cs
  let (cs, query) := splitMark '?' cs
  let (scheme, cs) := splitScheme cs
  let (authority, path) := splitAuthority cs
  { scheme, authority, path, query, fragment }

/-- What stands before the last character of a kind, if there is one, and what behind it. -/
def splitLast (mark : Char) (cs : List Char) : Option (List Char) × List Char :=
  match cs.reverse.dropWhile (· != mark) with
  | [] => (none, cs)
  | _ :: before => (some before.reverse, (cs.reverse.takeWhile (· != mark)).reverse)

/-- Splits a host off what follows the user: up to the last closing bracket, if it opens with a
bracket, and otherwise up to a colon. -/
def splitHost (cs : List Char) : List Char × List Char :=
  match cs.head?, splitLast ']' cs with
  | some '[', (some inner, rest) => (inner ++ [']'], rest)
  | _, _ =>
    let ends (c : Char) : Bool := c == ':' || c == '@'
    (cs.takeWhile (!ends ·), cs.dropWhile (!ends ·))

/-! ## Normal forms -/

/-- A printable ASCII character, blanks apart. -/
def isVisible (c : Char) : Bool := 0x20 < c.toNat && c.toNat < 0x7F

/-- A character that a path may hold. -/
def isPathChar (c : Char) : Bool := isVisible c && !"\"#<>?`\x7b\x7d".toList.contains c

/-- A character that a query may hold. -/
def isQueryChar (c : Char) : Bool := isVisible c && !"\"#<>".toList.contains c

/-- A character that a fragment may hold. -/
def isFragmentChar (c : Char) : Bool := isVisible c && !"\"<>`".toList.contains c

/-- A character that name and password of a user may hold. -/
def isUserChar (c : Char) : Bool := isPathChar c && !"/;=@[\\]^|".toList.contains c

/-- A character that a host may hold. -/
def isHostChar (c : Char) : Bool :=
  Percent.isUnreserved c || "!$&'()*+,;=\"`\x7b\x7d%|\\".toList.contains c

/-- A host in its normal form. -/
def normalHost (cs : List Char) : Except Fault (List Char) :=
  let small := (Text.lower (.ofChars cs)).chars
  if cs.isEmpty then .ok []
  else if NumericHost.looksDecimal cs then
    if NumericHost.isDecimal cs then .ok cs else .error (.decimalHost (String.ofList cs))
  else if cs.head? == some '[' && cs.getLast? == some ']' then
    let inner := (cs.drop 1).dropLast
    if NumericHost.isHexadecimal inner then .ok inner
    else .error (.hexadecimalHost (String.ofList cs))
  else if cs.all Label.isAscii then .ok (Percent.escape isHostChar small)
  else (DomainName.toAscii small).mapError fun _ => .domainName (String.ofList cs)

/-- The port that a scheme implies. -/
def impliedPort? (scheme : List Char) : Option Int :=
  let known := [("ftp", 21), ("http", 80), ("https", 443), ("ws", 80), ("wss", 443)]
  (known.find? fun entry => entry.1.toList == scheme).map (·.2)

/-- A port in its normal form: none if the scheme implies it. -/
def normalPort (scheme cs : List Char) : Except Fault (Option Int) :=
  if cs.isEmpty then .ok none
  else
    match Decimal.readInteger? cs with
    | none => .error (.port (String.ofList cs))
    | some n => .ok (if impliedPort? scheme == some n then none else some n)

/-- Removes the segments of a path that stay in place or lead upwards; `done` are those before, in
reverse. -/
def followSegments (done : List (List Char)) : List (List Char) → List (List Char)
  | [] => done.reverse
  | segment :: segments =>
    if segment == ['.'] then followSegments done segments
    else if segment == ['.', '.'] then
      followSegments (if done == [[]] then done else done.drop 1) segments
    else followSegments (segment :: done) segments

/-- A path without the segments that stay in place or lead upwards. -/
def normalPath (cs : List Char) : List Char :=
  ['/'].intercalate (followSegments [] (cs.splitOn '/'))

/-- Checks that a path is not read as something else where neither scheme nor host precede it. -/
def checkBarePath (cs : List Char) : Except Fault Unit :=
  if ['/', '/'].isPrefixOf cs then .error .doubleSlash
  else if cs.head? == some ':' then .error .leadingColon
  else .ok ()

/-- The URL of parts. -/
def ofParts (p : Parts) : Except Fault Url := do
  let scheme := p.scheme.map Char.toLower
  let (userinfo, rest) := splitLast '@' p.authority
  let (host, rest) := splitHost rest
  let userinfo := Percent.escape isUserChar (userinfo.getD [])
  let host ← normalHost host
  let port ← normalPort scheme (if rest.head? == some ':' then rest.drop 1 else rest)
  let bare := scheme.isEmpty && userinfo.isEmpty && host.isEmpty && port.isNone
  if bare then checkBarePath p.path
  let path := Percent.escape isPathChar (if bare then p.path else normalPath p.path)
  return { scheme := String.ofList scheme, userinfo := String.ofList userinfo
           host := String.ofList host, port, path := String.ofList path
           query := p.query.map fun cs => String.ofList (Percent.escape isQueryChar cs)
           fragment := p.fragment.map fun cs => String.ofList (Percent.escape isFragmentChar cs) }

/-- The most characters of a URL, and of each part that is given on its own. -/
def lengthLimit : Nat := 65536

/-- An ASCII character that is not printed. -/
def isControl (c : Char) : Bool := c.toNat < 0x20 || c.toNat == 0x7F

/-- The URL that a text writes. -/
def parse (text : String) : Except Fault Url :=
  let cs := text.toList
  if lengthLimit < cs.length then .error .tooLong
  else
    match cs.find? isControl with
    | some c => .error (.control c (cs.takeWhile (!isControl ·)).length)
    | none => ofParts (.ofText cs)

/-- The URL of parts that are given on their own. -/
def compose (p : Parts) : Except Fault Url := do
  let named := [("scheme", p.scheme), ("authority", p.authority), ("path", p.path),
    ("query", p.query.getD []), ("fragment", p.fragment.getD [])]
  match named.find? fun part => lengthLimit < part.2.length with
  | some (name, _) => throw (.partTooLong name)
  | none => ofParts p

/-- The parts of a URL in its normal form. -/
def parts (u : Url) : Parts where
  scheme := u.scheme.toList
  authority := u.authority.toList
  path := u.path.toList
  query := u.query.map (·.toList)
  fragment := u.fragment.map (·.toList)

/-- A URL with another query. -/
def withQuery (u : Url) (query : Option (List Char)) : Except Fault Url :=
  compose { u.parts with query }

/-- The URL that is meant by one that may not say where it leads: then its path and query, from the
root. -/
def absolute (u : Url) : Except Fault Url :=
  if u.isAbsolute then .ok u
  else
    let (path, query) := splitMark '?' ('/' :: u.target.toList.dropWhile (· == '/'))
    compose { scheme := [], authority := [], path, query, fragment := none }

end GraphBind.Url
