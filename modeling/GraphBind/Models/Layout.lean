import GraphBind.Models.Naming
import GraphBind.Text.Basic

/-!
# The text of a generated module

A generated module holds, in this order: a docstring that names the source, the imports, the
scalars, the enumerations, the unions, the models, a line that completes each model, and the texts
of the bound queries. `Surface` is what there is to print, and every section of the text depends on
its own part of it only.

A description stands either between three double quotes or behind a number sign. Between the quotes
its backslashes and its own runs of three quotes are escaped; behind the number sign it is one line
of at most 120 characters.
-/

/-! ## Descriptions -/

namespace GraphBind.Models

/-- Escapes backslashes and runs of three double quotes. -/
def escapeQuotes : Text → Text
  | .char '"' :: .char '"' :: .char '"' :: cs => "\\\"\\\"\\\"" ++ escapeQuotes cs
  | c :: cs => if c == .char '\\' then c :: c :: escapeQuotes cs else c :: escapeQuotes cs
  | [] => []

/-- A text that can stand between three double quotes; a blank keeps a last quote from the closing
ones. -/
def docstring (t : Text) : Text :=
  let escaped := escapeQuotes t
  if escaped.getLast? == some (.char '"') then escaped ++ " " else escaped

/-- The most characters that a comment has. -/
def commentLimit : Nat := 120

/-- Cuts a text that is too long for a comment, and shows that it is cut. -/
def shorten (t : Text) : Text :=
  if commentLimit < t.length then t.take (commentLimit - 3) ++ "..." else t

/-- A text on one line. -/
def comment (t : Text) : Text := Text.strip (shorten (Text.collapse t))

/-! ## Sections -/

/-- What a generated module holds. -/
structure Surface where
  source : String
  imports : List (String × String)
  scalars : List CompiledType
  enumerations : List CompiledType
  unions : List CompiledType
  models : List CompiledType
  queries : List (Text × Text)
  deriving Repr

/-- Whether a type becomes a model. -/
def isModel (t : CompiledType) : Bool :=
  match t.kind with
  | .object => true
  | .interface => true
  | .inputObject => true
  | _ => false

/-- Whether a name comes before another, code point by code point. -/
def isBefore (name name' : Text) : Bool :=
  (name.map CodePoint.toNat).lex (name'.map CodePoint.toNat)

/-- Sorts queries by their names. -/
def sortQueries (queries : List (Text × Text)) : List (Text × Text) :=
  queries.mergeSort fun a b => !isBefore b.1 a.1

/-- A query's name and text as texts. -/
def queryTexts (query : String × String) : Text × Text := (query.1, query.2)

/-- What there is to print for a registry and bound queries. -/
def Surface.of (r : Registry) (queries : List (String × String)) (source : String) : Surface where
  source
  imports := Models.imports r
  scalars := r.byKind .scalar
  enumerations := r.byKind .enumeration
  unions := r.byKind .union
  models := r.generated.filter isModel
  queries := sortQueries (queries.map queryTexts)

/-- Three double quotes. -/
def tripleQuote : String := "\"\"\""

/-- A description, unless there is none or it is empty. -/
def describe (description : Option Text) (shown : Text → Text) : Text :=
  match description with
  | none => ""
  | some d => if d.isEmpty then "" else shown d

/-- What stands for the source in the docstring of a module. -/
def sourceName (source : String) : String :=
  if source == "" then "an introspected schema" else source

/-- The docstring of a module. -/
def docstringSection (source : String) : Text :=
  tripleQuote ++ "GraphQL types compiled from " ++ sourceName source ++
    ".\n\nGenerated by gql-provider. Do not edit.\n" ++ tripleQuote ++ "\n"

/-- The imports. -/
def importSection (modules : List (String × String)) : Text :=
  "\nfrom __future__ import annotations\n\nimport enum as _enum\nimport typing as _t\n\n" ++
    "import pydantic as _pydantic\n" ++
    String.join (modules.map fun (module, short) => s!"import {module} as {short}\n")

/-- The line of a scalar without native type. -/
def scalarLine (t : CompiledType) : Text :=
  t.name ++ " = _t.Any" ++ describe t.description (fun d => "  # " ++ comment d) ++ "\n"

/-- The scalars. -/
def scalarSection (scalars : List CompiledType) : Text :=
  if scalars.isEmpty then "" else "\n" ++ Text.concat (scalars.map scalarLine)

/-- The docstring of a class. -/
def classDocstring (t : CompiledType) : Text :=
  describe t.description fun d => "    " ++ tripleQuote ++ docstring d ++ tripleQuote ++ "\n\n"

/-- The line of a value of an enumeration. -/
def enumValueLine (value : Text) : Text :=
  "    " ++ safeIdentifier value ++ " = " ++ Text.quoted value ++ "\n"

/-- The class of an enumeration. -/
def enumSection (t : CompiledType) : Text :=
  "\n\nclass " ++ t.name ++ "(str, _enum.Enum):\n" ++ classDocstring t ++
    Text.concat (if t.values.isEmpty then ["    pass\n"] else t.values.map enumValueLine)

/-- The line of a union. -/
def unionLine (t : CompiledType) : Text :=
  if t.members.isEmpty then t.name ++ " = _t.Any\n"
  else t.name ++ " = _t.Union[" ++ ", ".intercalate (t.members.map Text.quoted) ++ "]\n"

/-- The unions. -/
def unionSection (unions : List CompiledType) : Text :=
  if unions.isEmpty then "" else "\n" ++ Text.concat (unions.map unionLine)

/-- The lines of a field with an attribute. -/
def fieldLines (r : Registry) (attr : Text) (f : CompiledField) : Except LookupError Text := do
  let annotated ← annotation r f.type
  let ending := if f.type.isOptional then "None, alias=" else "alias="
  let lines : Text := describe f.description (fun d => "    # " ++ comment d ++ "\n") ++
    "    " ++ attr ++ ": " ++ annotated ++ " = _pydantic.Field(" ++
    ending ++ Text.quoted f.name ++ ")\n"
  return lines

/-- The class of a model. -/
def modelSection (r : Registry) (t : CompiledType) : Except LookupError Text := do
  let attrs := attributeNames (t.fields.map (·.name))
  let fields ← t.fields.mapM fun f => fieldLines r ((Entries.get? f.name attrs).getD []) f
  let lines : Text := "\n\nclass " ++ t.name ++ "(_pydantic.BaseModel):\n" ++ classDocstring t ++
    "    model_config = _pydantic.ConfigDict(populate_by_name=True)\n" ++ Text.concat fields
  return lines

/-- The lines that complete the models. -/
def completionSection (models : List CompiledType) : Text :=
  if models.isEmpty then ""
  else "\n\n" ++ Text.concat (models.map fun t => t.name ++ ".model_rebuild()\n")

/-- The line of a bound query. -/
def queryLine (query : Text × Text) : Text :=
  "    " ++ Text.quoted query.1 ++ ": " ++ Text.quoted query.2 ++ ",\n"

/-- The texts of the bound queries. -/
def querySection (queries : List (Text × Text)) : Text :=
  "\n\nQUERIES: dict[str, str] = \x7b\n" ++ Text.concat (queries.map queryLine) ++ "\x7d"

/-- The text of a generated module. -/
def Surface.toText (s : Surface) (r : Registry) : Except LookupError Text := do
  let models ← s.models.mapM (modelSection r)
  let text : Text := docstringSection s.source ++ importSection s.imports ++
    scalarSection s.scalars ++ Text.concat (s.enumerations.map enumSection) ++
    unionSection s.unions ++ Text.concat models ++ completionSection s.models ++
    querySection s.queries
  return text

end GraphBind.Models
