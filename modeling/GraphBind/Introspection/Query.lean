/-!
# The introspection query

The query that asks a service for its schema, built from selections that are laid out one a line.
Type references are asked to a fixed depth, since a query cannot ask for all of a reference.
-/

namespace GraphBind.Introspection

/-- A part of a query as it is laid out. -/
inductive Selection where
  /-- An empty line. -/
  | blank
  /-- A line of its own. -/
  | line (text : String)
  /-- A selection whose one part stands in the same line. -/
  | inline (head part : String)
  /-- A selection with a line for each of its parts. -/
  | block (head : String) (parts : List Selection)

/-- A line of a query, indented. -/
def indented (depth : Nat) (text : String) : String :=
  "".pushn ' ' (2 * depth) ++ text ++ "\n"

mutual

/-- The lines of a selection. -/
def Selection.toText (depth : Nat) : Selection → String
  | .blank => "\n"
  | .line text => indented depth text
  | .inline head part => indented depth (head ++ " \x7b " ++ part ++ " \x7d")
  | .block head parts =>
    indented depth (head ++ " \x7b") ++ selectionsText (depth + 1) parts ++ indented depth "\x7d"

/-- The lines of selections. -/
def selectionsText (depth : Nat) : List Selection → String
  | [] => ""
  | s :: rest => s.toText depth ++ selectionsText depth rest

end

/-- Selections without parts. -/
def lines (names : List String) : List Selection := names.map .line

/-- How many types inside a type reference are asked for. -/
def referenceDepth : Nat := 9

/-- The parts of a type reference of some depth. -/
def referenceParts : Nat → List Selection
  | 0 => lines ["kind", "name"]
  | depth + 1 => lines ["kind", "name"] ++ [.block "ofType" (referenceParts depth)]

/-- The definitions of the query. -/
def definitions : List Selection :=
  [.block "query IntrospectionQuery"
    [.block "__schema"
      [.blank, .inline "queryType" "name", .inline "mutationType" "name",
        .inline "subscriptionType" "name",
        .block "types" (lines ["...FullType"]),
        .block "directives" (lines ["name", "description"] ++
          [.blank, .line "locations", .block "args" (lines ["...InputValue"])])]],
    .block "fragment FullType on __Type" (lines ["kind", "name", "description"] ++
      [.blank,
        .block "fields(includeDeprecated: true)" (lines ["name", "description"] ++
          [.block "args" (lines ["...InputValue"]), .block "type" (lines ["...TypeRef"])] ++
          lines ["isDeprecated", "deprecationReason"]),
        .block "inputFields" (lines ["...InputValue"]),
        .block "interfaces" (lines ["...TypeRef"]),
        .block "enumValues(includeDeprecated: true)"
          (lines ["name", "description", "isDeprecated", "deprecationReason"]),
        .block "possibleTypes" (lines ["...TypeRef"])]),
    .block "fragment InputValue on __InputValue" (lines ["name", "description"] ++
      [.inline "type" "...TypeRef", .line "defaultValue", .blank, .blank]),
    .block "fragment TypeRef on __Type" (referenceParts referenceDepth)]

/-- The introspection query. -/
def queryText : String :=
  String.join (definitions.map fun d => "\n" ++ d.toText 0)

end GraphBind.Introspection
