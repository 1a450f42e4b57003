import GraphBind.Auth
import GraphBind.Decimal
import GraphBind.Escape
import GraphBind.Introspection.Query
import GraphBind.Url.Basic
import GraphBind.Url.Parse

/-!
# Requests

What is sent to a service: the introspection query as the parameter of a GET, or a query text as the
body of a POST. `make` resolves the URL of a connection; a request is determined by its connection,
its content and that URL: method, parameters, headers and body are read off them.
-/

namespace GraphBind

open Decimal (Binary64)

/-- The method of a request. -/
inductive Method where
  | get
  | post
  deriving DecidableEq, Repr

/-- The name of a method. -/
def Method.name : Method → String
  | get => "GET"
  | post => "POST"

/-- Where requests go, in whose name, and how long an answer is awaited (in seconds). -/
structure Connection where
  url : String
  auth : Auth
  timeout : Option Binary64
  deriving DecidableEq, Repr, Inhabited

/-- What a request asks. -/
inductive Content where
  | introspection
  | query (text : String)
  deriving DecidableEq, Repr, Inhabited

/-- A request. -/
structure Request where
  connection : Connection
  content : Content
  /-- The URL that it is sent to. -/
  url : Url
  /-- That URL without its query. -/
  address : Url
  deriving DecidableEq, Repr, Inhabited

namespace Request

/-- The method of a request. -/
def method (r : Request) : Method :=
  match r.content with
  | .introspection => .get
  | .query _ => .post

/-- The parameter that holds the introspection query. -/
def queryParam : String := "query"

/-- The parameters of a request. The introspection query takes the place of the ones in the URL. -/
def params (r : Request) : List (String × String) :=
  match r.content with
  | .introspection => [(queryParam, Introspection.queryText)]
  | .query _ => Url.Query.parse (r.url.query.getD "").toList

/-- What stands for the introspection query where requests are shown. -/
def introspectionMark : String := "<INTROSPECTION_QUERY>"

/-- The parameters of a request as they are shown. -/
def shownParams (r : Request) : List (String × String) :=
  r.params.map fun (name, value) =>
    (name, if value == Introspection.queryText then introspectionMark else value)

/-- A character inside a string of a document; only what must be escaped is. -/
def escapeChar (c : Char) : List Char :=
  if c == '"' || c == '\\' then ['\\', c]
  else if c == '\n' then ['\\', 'n']
  else if c == '\r' then ['\\', 'r']
  else if c == '\t' then ['\\', 't']
  else if c == '\x08' then ['\\', 'b']
  else if c == '\x0c' then ['\\', 'f']
  else if c.toNat < 0x20 then '\\' :: 'u' :: Text.hexDigits 4 c.toNat
  else [c]

/-- The body that asks a query. -/
def queryBody (text : String) : String :=
  "\x7b\"query\":\"" ++ String.ofList (text.toList.flatMap escapeChar) ++ "\"\x7d"

/-- The body of a request. -/
def body (r : Request) : String :=
  match r.content with
  | .introspection => ""
  | .query text => queryBody text

/-- The headers that the caller sets: the accepted type, and those of the identification over it. -/
def ownHeaders (c : Connection) : Headers :=
  Entries.putAll [("Accept", "application/json")] c.auth.toHeaders

/-- The headers of a request. A body has its type, unless the caller sets another; a user that the
URL names is identified in place of any other. -/
def headers (r : Request) : Headers :=
  let own := ownHeaders r.connection
  let typed := match r.content with
    | .introspection => own
    | .query _ =>
      if own.has "content-type" then own else own ++ [("Content-Type", "application/json")]
  match r.url.authorization? with
  | none => typed
  | some value => typed.set "Authorization" value

/-- The fields that describe the exchange itself. -/
def hiddenFields : List String :=
  ["host", "user-agent", "accept-encoding", "connection", "content-length"]

/-- The fields of a request that concern the service, sorted. -/
def shownHeaders (r : Request) : Headers :=
  (r.headers.fields.filter (!hiddenFields.contains ·.1)).mergeSort Headers.le

/-- The timeout of a request in text. -/
def timeoutText (r : Request) : Option String := r.connection.timeout.map Binary64.toText

/-! ## Making requests -/

/-- The URL that a connection sends a content to. -/
def target (c : Connection) : Content → Except Url.Fault Url
  | .introspection => do
    let url ← (← Url.parse c.url).absolute
    url.withQuery (some (Url.Query.single queryParam Introspection.queryText))
  | .query _ => do (← Url.parse c.url).absolute

/-- Checks that a URL can be named in the field for the host: a host that is written with the prefix
of encoded labels can be read, and the location is ASCII. -/
def checkHost (url : Url) : Except Escape Unit := do
  if "xn--".toList.isPrefixOf url.host.toList then
    discard ((Url.DomainName.ofAscii url.host.toList).mapError .noDomainName)
  match Text.Unencodable.find? .ascii url.location with
  | some fault => throw (.unencodable fault)
  | none => return ()

/-- The request that asks a content over a connection. The headers are looked at first, then the
URL, and its host unless a header names another one. -/
def make (c : Connection) (content : Content) : Except Escape Request := do
  match (ownHeaders c).fault? with
  | some fault => throw (.unencodable fault)
  | none => pure ()
  let url ← (target c content).mapError .noUrl
  if !url.host.isEmpty && !(ownHeaders c).has "host" then checkHost url
  let address ← (url.withQuery none).mapError .noUrl
  return { connection := c, content, url, address }

end Request

end GraphBind
