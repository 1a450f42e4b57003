import GraphBind.Query.Grammar

/-!
# Query documents

A query text is a document of one or more definitions. Of its definitions only the operations and
their names matter here; a document with one operation has its name.
-/

namespace GraphBind.Query

/-- A definition of a document. -/
inductive Definition where
  | operation (name : Option String)
  | fragment
  | typeSystem
  deriving DecidableEq, Repr

/-- A definition and the tokens behind it. -/
abbrev Defined (ts : List Token) := Except SyntaxError (Definition × Rest ts)

/-- Reads a definition of a known sort. -/
def Reads.defining (p : Reads) (d : Definition) (ts : List Token) : Defined ts :=
  (p ts).map fun r => (d, r)

/-- Reads an operation that opens with the word for its kind. -/
def operation (ts : List Token) : Defined ts :=
  match operationWord ts with
  | .error e => .error e
  | .ok r =>
    match peek r.1 with
    | some (.name n) =>
      match (name.next operationBody.toSkips) r.1 with
      | .error e => .error e
      | .ok r' => .ok (.operation (some n), behind r r')
    | _ =>
      match operationBody r.1 with
      | .error e => .error e
      | .ok r' => .ok (.operation none, behind r r')

/-- Reads a definition that a word opens, behind its description if there is one. -/
def definitionFor (word : String) (described : Bool) (ts : List Token) : Defined ts :=
  match definitionReader? word with
  | some p => p.defining .typeSystem ts
  | none =>
    if described then .error .misplacedDescription
    else if operationWords.contains word then operation ts
    else if word == "fragment" then fragmentDefinition.defining .fragment ts
    else if word == "extend" then extension.defining .typeSystem ts
    else .error (.unexpected (some (.name word)))

/-- Reads a definition. -/
def definition (ts : List Token) : Defined ts :=
  if atPunctuator .braceOpen ts then Reads.defining selectionSet (.operation none) ts
  else
    let described := atString ts
    match if described then peekSecond ts else .ok (peek ts) with
    | .error e => .error e
    | .ok (some (.name word)) => definitionFor word described ts
    | .ok other => .error (.unexpected other)

/-- Reads definitions up to the end. -/
def definitions (ts : List Token) : Except SyntaxError (List Definition) :=
  match definition ts with
  | .error e => .error e
  | .ok (d, r) =>
    have := r.2
    if r.1.isEmpty then .ok [d]
    else (definitions r.1).map (d :: ·)
  termination_by ts.length

/-- The definitions of a query text. -/
def parse (text : String) : Except SyntaxError (List Definition) :=
  let tokens := lex text.toList
  match settled tokens with
  | .error e => .error e
  | .ok () => definitions tokens

/-- The names of the operations of a document. -/
def operationNames (ds : List Definition) : List (Option String) :=
  ds.filterMap fun
    | .operation name => some name
    | _ => none

/-- The name of the only operation of a query text. -/
def operationName (text : String) : Except SyntaxError (Option String) :=
  (parse text).map fun ds =>
    match operationNames ds with
    | [name] => name
    | _ => none

end GraphBind.Query
