import GraphBind.ServiceError
import GraphBind.Value.Basic

/-!
# Answers to queries

The answer to a query is either its data or a report of errors. A member `errors`, whatever it is
and whatever `data` is, makes it a report; `data` that is left out is null.
-/

namespace GraphBind

/-- One reported error: its text, and the whole entry. -/
structure ErrorDetail where
  message : Text
  payload : Value
  deriving Repr, Inhabited

/-- The answer to a query. -/
inductive Answer where
  | data (v : Value)
  | errors (details : List ErrorDetail)
  deriving Repr, Inhabited

namespace ErrorDetail

/-- The error that an entry reports: its message, if that is a scalar, or the text of all of it. -/
def ofValue (entry : Value) : ErrorDetail :=
  match entry.entry? "message" with
  | some (.scalar s) => ⟨s.toText, entry⟩
  | _ => ⟨entry.toText, entry⟩

/-- The texts of errors in one line. -/
def joined (details : List ErrorDetail) : Text := Text.joined "; " (details.map (·.message))

end ErrorDetail

namespace Answer

/-- The entries of an `errors` member; one that is no list is a single entry. -/
def entriesOf : Value → List Value
  | .list items => items
  | v => [v]

/-- The answer that a value is, which has to be an object; `typeName` is the word for what else was
given. -/
def ofValue (typeName : String) : Value → Except TransportError Answer
  | .object entries =>
    match Entries.get? (Text.ofString "errors") entries with
    | some reported => .ok (.errors ((entriesOf reported).map ErrorDetail.ofValue))
    | none => .ok (.data ((Entries.get? (Text.ofString "data") entries).getD .null))
  | _ => .error (.notAnObject typeName)

/-- The answer that a document is. -/
def ofJson (d : Json) : Except TransportError Answer := ofValue d.typeName (Value.ofJson d)

end Answer

end GraphBind
