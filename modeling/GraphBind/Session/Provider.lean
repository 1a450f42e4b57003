import GraphBind.Answer
import GraphBind.Exchange.Service
import GraphBind.Introspection.Response
import GraphBind.Models.Generator
import GraphBind.Query.Document
import GraphBind.Registry.Compile
import GraphBind.Text.Basic

/-!
# Providers and bound queries

A provider is a connection to a service together with the registry of the service's types. The
schema is asked from the service by one request, or read from a file, and then compiled.

A query is bound once the service has accepted it: its text is parsed, then sent once, and only an
answer with data binds it. A bound query sends the same text again on every call. The module of a
provider holds the types of its registry and the texts of queries that it has bound, and names the
service that they come from.
-/

/-! ## Providers -/

namespace GraphBind

/-- Why no provider is made or no query is bound. -/
inductive CompilationError where
  /-- There is no schema of the service. -/
  | noSchema (url : String) (cause : ServiceError)
  /-- The schema does not compile. -/
  | schema (cause : CompileError)
  /-- The query text is none. -/
  | query (cause : Query.SyntaxError)
  /-- The exchange of a preflight fails. -/
  | preflight (name : Option String) (cause : TransportError)
  /-- The service reports errors for a query. -/
  | rejected (name : Option String) (url : String) (details : List ErrorDetail)
  deriving Repr

namespace CompilationError

/-- What stands for the name of a query without name. -/
def anonymous : String := "<anonymous>"

/-- The name of a query in messages. -/
def shownName (name : Option String) : String := name.getD anonymous

/-- The text of an error. -/
def message : CompilationError → Text
  | noSchema url cause => s!"Could not introspect {url}: " ++ cause.message
  | schema cause => cause.message
  | query cause => s!"Invalid GraphQL query: {cause.message}"
  | preflight name cause => s!"Preflight of query {shownName name} failed: {cause.message}"
  | rejected name url details =>
    s!"Query {shownName name} rejected by {url}: " ++ ErrorDetail.joined details

/-- An error that another one comes from. -/
inductive Cause where
  | service (e : ServiceError)
  | query (e : Query.SyntaxError)
  deriving Repr

/-- What an error comes from, if from another one. -/
def cause? : CompilationError → Option Cause
  | noSchema _ cause => some (.service cause)
  | schema _ => none
  | query cause => some (.query cause)
  | preflight _ cause => some (.service (.transport cause))
  | rejected .. => none

/-- Errors that a service reported: as it sent them, or one by one. -/
inductive Reported where
  | raw (errors : Json)
  | details (details : List ErrorDetail)
  deriving Repr

/-- The errors that a service reported, if that is what went wrong. -/
def reported : CompilationError → Reported
  | noSchema _ (.reported errors) => .raw errors
  | rejected _ _ details => .details details
  | _ => .details []

end CompilationError

namespace Schema

/-- The text of a file, its line ends all alike. -/
def textOfFile (bytes : List UInt8) : Except Escape (List Char) :=
  match Text.Utf8.decode bytes with
  | .ok text => .ok (Text.normalizeLines text)
  | .error fault => .error (.undecodable fault)

/-- The schema that a saved response holds. -/
def load (files : FileTree) (path : Path) : Except (Failure ServiceError) Schema :=
  match files.read path with
  | .error e => .error (e.map fun e => .transport (.unreadable path e))
  | .ok bytes =>
    match textOfFile bytes with
    | .error x => .error (.escaped x)
    | .ok text =>
      match Json.ofText (.ofChars text) with
      | .error e => .error (.failed (.transport (.notJson path e)))
      | .ok d => (ofResponse d).mapError .failed

/-- The schema that a service reports. -/
def fetch (c : Connection) : Dialogue ServiceError Schema := do
  let d ← (c.ask .introspection).mapFailure .transport
  .ofExcept ((ofResponse d).mapError .failed)

end Schema

/-- The types of a service and the connection to it. -/
structure Provider where
  registry : Registry
  connection : Connection
  deriving Repr

namespace Provider

/-- The schema of a service: from a file if one is given, and otherwise from the service. -/
def schema (c : Connection) (files : FileTree) (file : Option Path) :
    Dialogue ServiceError Schema :=
  match file with
  | some path => .ofExcept (Schema.load files path)
  | none => Schema.fetch c

/-- Makes a provider. -/
def create (c : Connection) (known : NativeScalars) (files : FileTree) (file : Option Path) :
    Dialogue CompilationError Provider := do
  let s ← (schema c files file).mapFailure (.noSchema c.url)
  match s.compile known false with
  | .ok registry => return { registry, connection := c }
  | .error e => .fail (.schema e)

end Provider

/-! ## Bound queries -/

/-- A query that a service has accepted. -/
structure BoundQuery where
  text : String
  connection : Connection
  name : Option String
  deriving DecidableEq, Repr

namespace Connection

/-- Asks a query once. -/
def execute (c : Connection) (text : String) : Dialogue TransportError Answer := do
  let d ← c.ask (.query text)
  .ofExcept ((Answer.ofJson d).mapError .failed)

end Connection

namespace BoundQuery

/-- Asks the query again. -/
def call (q : BoundQuery) : Dialogue TransportError Answer := q.connection.execute q.text

/-- The name of the only operation of a query text. -/
def checkedName (text : String) : Except (Failure CompilationError) (Option String) :=
  match Query.operationName text with
  | .ok name => .ok name
  | .error .truncatedEscape => .error (.escaped .truncatedQuery)
  | .error e => .error (.failed (.query e))

/-- The name of a query: the given one, or that of its only operation. An empty name is none. -/
def chooseName (given parsed : Option String) : Option String :=
  match given with
  | none => parsed
  | some name => if name == "" then parsed else some name

/-- What the answer to the preflight of a query decides. -/
def judge (c : Connection) (text : String) (name : Option String) :
    Answer → Except CompilationError BoundQuery
  | .data _ => .ok ⟨text, c, name⟩
  | .errors details => .error (.rejected name c.url details)

end BoundQuery

namespace Connection

/-- Binds a query. -/
def bind (c : Connection) (text : String) (given : Option String) :
    Dialogue CompilationError BoundQuery := do
  let parsed ← Dialogue.ofExcept (BoundQuery.checkedName text)
  let name := BoundQuery.chooseName given parsed
  let answer ← (c.execute text).mapFailure (.preflight name)
  .ofExcept ((BoundQuery.judge c text name answer).mapError .failed)

/-- Binds named queries in order; the first that fails ends it. -/
def bindAll (c : Connection) :
    List (String × String) → Dialogue CompilationError (List (String × BoundQuery))
  | [] => return []
  | (name, text) :: queries => do
    let q ← c.bind text (some name)
    let bound ← c.bindAll queries
    return (name, q) :: bound

end Connection

/-! ## Modules of providers -/

/-- The generator of the module of a provider with bound queries. -/
def Provider.generator (p : Provider) (bound : List (String × BoundQuery))
    (templateDirectory : Option String) : Generator where
  registry := p.registry
  queries := bound.map fun (name, q) => (name, q.text)
  source := p.connection.url
  templateDirectory := templateDirectory

end GraphBind
