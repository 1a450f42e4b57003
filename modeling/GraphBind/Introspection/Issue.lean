import GraphBind.Json.Basic
import GraphBind.Schema.Basic
import GraphBind.Text.Quoted

/-!
# Issues and faults of reported schemas

What may be wrong with a part of a document that is read against a declared shape. An issue says
where the part stands, and its report shows the part itself, shortened if it is long.

A `__schema` object is no schema if it does not have the declared shape, or if one of its records
has the shape but makes no type (`SchemaFault`).
-/

/-! ## Issues -/

namespace GraphBind.Introspection

/-- The keys and indexes that lead to a part of a document. -/
abbrev Location := List String

/-- What is wrong with a part of a document. -/
inductive IssueKind where
  | missing
  | notText
  | surrogates
  | notAKind
  | notAList
  /-- What should be an object that is read as a shape is none. -/
  | notAnObject (shape : String)
  | notABoolean
  | unreadableBoolean
  | nestedTooDeep
  deriving DecidableEq, Repr

namespace IssueKind

/-- The word for an issue. -/
def word : IssueKind → String
  | missing => "missing"
  | notText => "string_type"
  | surrogates => "string_unicode"
  | notAKind => "enum"
  | notAList => "list_type"
  | notAnObject _ => "model_type"
  | notABoolean => "bool_type"
  | unreadableBoolean => "bool_parsing"
  | nestedTooDeep => "recursion_loop"

/-- The words for an issue. -/
def sentence : IssueKind → String
  | missing => "Field required"
  | notText => "Input should be a valid string"
  | surrogates =>
    "Input should be a valid string, unable to parse raw data as a unicode string"
  | notAKind =>
    "Input should be 'SCALAR', 'OBJECT', 'INTERFACE', 'UNION', 'ENUM', 'INPUT_OBJECT', 'LIST' " ++
      "or 'NON_NULL'"
  | notAList => "Input should be a valid list"
  | notAnObject shape => s!"Input should be a valid dictionary or instance of {shape}"
  | notABoolean => "Input should be a valid boolean"
  | unreadableBoolean => "Input should be a valid boolean, unable to interpret input"
  | nestedTooDeep => "Recursion error - cyclic reference detected"

end IssueKind

/-- Something wrong at a place, and what stands there; where nothing does, what stands around. -/
structure Issue where
  location : Location
  kind : IssueKind
  found : Json
  deriving Repr

/-- The characters at the start of a text that fit into a number of bytes. -/
def fitting (limit : Nat) : List Char → List Char
  | [] => []
  | c :: cs => if c.utf8Size ≤ limit then c :: fitting (limit - c.utf8Size) cs else []

/-- The most bytes that are shown of a part in full. -/
def shownLimit : Nat := 50

/-- A text, without its middle if it is too long. -/
def excerpt (text : String) : String :=
  if shownLimit < text.utf8ByteSize then
    String.ofList (fitting 25 text.toList) ++ "..." ++
      String.ofList (fitting 24 text.toList.reverse).reverse
  else text

namespace Issue

/-- The place of an issue in one word. -/
def locationText (i : Issue) : String := ".".intercalate i.location

/-- Where issues are explained. -/
def guide : String := "https://" ++ "errors.pydantic.dev/2.11/v/"

/-- The lines that report an issue. -/
def report (i : Issue) : String :=
  s!"{i.locationText}\n  {i.kind.sentence} [type={i.kind.word}, " ++
    "input_value=" ++ excerpt i.found.display ++ s!", input_type={i.found.typeName}]\n    " ++
    s!"For further information visit {guide}{i.kind.word}"

end Issue

/-! ## Faults -/

/-- Why a reported schema is none. -/
inductive SchemaFault where
  /-- The object does not have the declared shape. -/
  | issues (found : List Issue)
  /-- A reference of a wrapping kind wraps nothing. -/
  | wrapsNothing (kind : Kind)
  /-- A reference of another kind has no name. -/
  | nameless (kind : Kind)
  /-- A named type is of a wrapping kind. -/
  | wrappingKind (name : Text) (kind : Kind)
  deriving Repr

/-- How many issues there are. -/
def countText (found : List Issue) : String :=
  match found with
  | [_] => "1 validation error for WireSchema"
  | found => s!"{found.length} validation errors for WireSchema"

/-- The text of a fault; each issue is reported on lines of its own. -/
def SchemaFault.message : SchemaFault → String
  | issues found => "\n".intercalate (countText found :: found.map Issue.report)
  | wrapsNothing kind => s!"{kind.name} type reference without ofType"
  | nameless kind => s!"{kind.name} type reference without a name"
  | wrappingKind name kind =>
    "Named type " ++ Text.quoted name ++ s!" has wrapping kind {kind.name}"

/-- The issues of a fault. -/
def SchemaFault.found : SchemaFault → List Issue
  | issues found => found
  | _ => []

end GraphBind.Introspection
