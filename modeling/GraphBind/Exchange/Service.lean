import GraphBind.Escape
import GraphBind.Json.Encoding
import GraphBind.ServiceError

/-!
# Exchanges with a service

A service is what it will do with the coming requests and the log of the ones it has got. Every
request adds itself to the log, whatever comes of it, and takes one outcome; `exchange` sends one
and gives the document that it is answered with, `Connection.ask` makes it first.
-/

namespace GraphBind

/-- What becomes of a request. -/
inductive Outcome where
  | response (status : Nat) (body : List UInt8)
  | unanswered (reason : String)
  | invalidUrl (message : String)
  deriving DecidableEq, Repr, Inhabited

/-- A service as its callers see it. -/
structure Service where
  pending : List Outcome
  log : List Request
  deriving DecidableEq, Repr, Inhabited

namespace Service

/-- What becomes of requests once the outcomes have run out. -/
def exhausted : Outcome := .unanswered "no scripted response"

/-- A service that has got no request yet. -/
def ofOutcomes (outcomes : List Outcome) : Service := ⟨outcomes, []⟩

/-- Sends a request. -/
def send (s : Service) (r : Request) : Outcome × Service :=
  match s.pending with
  | [] => (exhausted, ⟨[], s.log ++ [r]⟩)
  | outcome :: rest => (outcome, ⟨rest, s.log ++ [r]⟩)

end Service

/-- An operation on a service. -/
abbrev Dialogue (ε α : Type) := ExceptT (Failure ε) (StateM Service) α

namespace Dialogue

variable {ε δ α : Type}

/-- Fails. -/
def fail (e : ε) : Dialogue ε α := throw (.failed e)

/-- Ends with an error that leaves every operation. -/
def escape (x : Escape) : Dialogue ε α := throw (.escaped x)

/-- Takes the failures of an operation as causes of others. -/
def mapFailure (f : ε → δ) (d : Dialogue ε α) : Dialogue δ α :=
  ExceptT.adapt (Failure.map f) d

/-- An operation that needs no service. -/
def ofExcept (r : Except (Failure ε) α) : Dialogue ε α := MonadExcept.ofExcept r

/-- Runs an operation. -/
def runOn (d : Dialogue ε α) (s : Service) : Except (Failure ε) α × Service := StateT.run d s

end Dialogue

/-- Whether a status is one of success. -/
def isSuccess (status : Nat) : Bool := 200 ≤ status && status ≤ 299

/-- The document that a response to a request holds. -/
def Request.document (r : Request) (status : Nat) (body : List UInt8) :
    Except TransportError Json :=
  let text := String.ofList (Text.Utf8.decodeLossy body)
  if isSuccess status then
    match Json.ofBytes? body with
    | some d => .ok d
    | none => .error (.notADocument r.method r.connection.url status text)
  else .error (.status r.method r.connection.url status text)

/-- The document that the outcome of a request gives. A response from nowhere is none. -/
def Outcome.document (r : Request) : Outcome → Except (Failure TransportError) Json
  | response status body =>
    if r.url.isAbsolute then (r.document status body).mapError .failed
    else .error (.escaped (.unknownScheme r.url.target))
  | unanswered reason => .error (.failed (.unanswered r.method r.connection.url reason))
  | invalidUrl message => .error (.escaped (.invalidUrl message))

/-- Sends a request and gives the document that it is answered with. -/
def exchange (r : Request) : Dialogue TransportError Json := do
  let outcome ← modifyGet (·.send r)
  .ofExcept (outcome.document r)

/-- Asks a content once. What cannot be sent is not. -/
def Connection.ask (c : Connection) (content : Content) : Dialogue TransportError Json := do
  let r ← .ofExcept ((Request.make c content).mapError .escaped)
  exchange r

end GraphBind
