import GraphBind.Exchange.Request
import GraphBind.FileTree
import GraphBind.Introspection.Issue
import GraphBind.Json.Read

/-!
# Failures of a service

A service fails in one of two ways. Either no usable document was obtained from it
(`TransportError`), or it answered with a document that reports errors; those are kept as they were
sent.
-/

namespace GraphBind

/-- Why no usable document was obtained. -/
inductive TransportError where
  /-- The exchange did not come about. -/
  | unanswered (method : Method) (url reason : String)
  /-- The status is none of success. -/
  | status (method : Method) (url : String) (code : Nat) (body : String)
  /-- The body is no document. -/
  | notADocument (method : Method) (url : String) (code : Nat) (body : String)
  /-- The document is no object. -/
  | notAnObject (typeName : String)
  /-- The document holds no schema. -/
  | noSchema
  /-- What the document holds is no schema. -/
  | malformed (fault : Introspection.SchemaFault)
  /-- The file cannot be read. -/
  | unreadable (path : Path) (error : FileError)
  /-- The file holds no document. -/
  | notJson (path : Path) (error : Json.ReadError)
  deriving Repr

namespace TransportError

/-- The text of an error. -/
def message : TransportError → String
  | unanswered method url reason => s!"{method.name} {url} failed: {reason}"
  | status method url code _ => s!"{method.name} {url} returned HTTP {code}"
  | notADocument method url _ _ => s!"{method.name} {url} returned a body that is not JSON"
  | notAnObject typeName => s!"Expected a JSON object response, got {typeName}"
  | noSchema => "Response has no data.__schema object"
  | malformed fault => s!"Malformed introspection schema: {fault.message}"
  | unreadable path error => s!"Could not read {path.toText}: {error.message}"
  | notJson path error => s!"{path.toText} is not valid JSON: {error.message}"

/-- The status of the response, if there was one that is no success or has a bad body. -/
def statusCode? : TransportError → Option Nat
  | status _ _ code _ => some code
  | notADocument _ _ code _ => some code
  | _ => none

/-- The body of the response, if there was one that is no success or has a bad body. -/
def body? : TransportError → Option String
  | status _ _ _ body => some body
  | notADocument _ _ _ body => some body
  | _ => none

/-- The issues of a malformed schema. -/
def issues : TransportError → List Introspection.Issue
  | malformed fault => fault.found
  | _ => []

end TransportError

/-- The text of one reported error: its message, if it has one that is not null, or all of it. -/
def reportedText (entry : Json) : Text :=
  match entry.member? "message" with
  | some .null => entry.toText
  | some message => message.toText
  | none => entry.toText

/-- The texts of reported errors in one line. -/
def reportedTexts (entries : List Json) : Text := Text.joined "; " (entries.map reportedText)

/-- A failure of a service. -/
inductive ServiceError where
  | transport (error : TransportError)
  | reported (errors : Json)
  deriving Repr

namespace ServiceError

/-- The entries of an `errors` member; one that is no array is a single entry. -/
def entriesOf : Json → List Json
  | .array items => items
  | d => [d]

/-- The text of a failure. -/
def message : ServiceError → Text
  | transport error => error.message
  | reported errors => "Introspection failed: " ++ reportedTexts (entriesOf errors)

end ServiceError

end GraphBind
