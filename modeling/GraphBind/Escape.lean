import GraphBind.Text.Encoding
import GraphBind.Url.Basic
import GraphBind.Url.Label.Basic

/-!
# Escaping errors

Errors that no operation on a service takes as a failure of the service: they leave every operation
as they are.
-/

namespace GraphBind

/-- An error that leaves every operation. -/
inductive Escape where
  /-- The service says that a URL is none. -/
  | invalidUrl (message : String)
  /-- The text of a URL is none. -/
  | noUrl (fault : Url.Fault)
  /-- The host of a URL is no domain name. -/
  | noDomainName (fault : Url.Label.Fault)
  /-- A response comes from a URL that does not say where it leads. -/
  | unknownScheme (target : String)
  /-- A text that is sent or printed holds code points that cannot be. -/
  | unencodable (fault : Text.Unencodable)
  /-- A file is no UTF-8. -/
  | undecodable (fault : Text.Utf8.Malformed)
  /-- A query text ends inside an escape. -/
  | truncatedQuery
  /-- A path holds a null character. -/
  | nullInPath
  deriving DecidableEq, Repr

/-- The text of an error. -/
def Escape.message : Escape → String
  | invalidUrl message => message
  | noUrl fault => fault.message
  | noDomainName fault => fault.message
  | unknownScheme target => "unknown url type: " ++ Text.quoted target
  | unencodable fault => fault.message
  | undecodable fault => fault.message
  | truncatedQuery => "string index out of range"
  | nullInPath => "embedded null byte"

/-- The failure of an operation, or an error that leaves it. -/
inductive Failure (ε : Type) where
  | failed (e : ε)
  | escaped (x : Escape)
  deriving Repr

/-- Takes a failure as the cause of another. -/
def Failure.map {ε δ : Type} (f : ε → δ) : Failure ε → Failure δ
  | failed e => failed (f e)
  | escaped x => escaped x

end GraphBind
