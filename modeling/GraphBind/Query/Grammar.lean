import GraphBind.Query.Reader

/-!
# The grammar of query texts

Readers for what a document holds: operations, fragments, and the definitions and extensions of
types. A text is read from the front to the back, and each place allows for one way to go on only,
so the first token that does not fit is the error.
-/

namespace GraphBind.Query

/-! ## Types and values -/

/-- Reads a variable. -/
def variableName : Reads := (punctuator .dollar).next name

/-- Reads a type with its lists and marks. -/
def typeRef (ts : List Token) : Except SyntaxError (Rest ts) :=
  let mark := whenAt (atPunctuator .bang) (punctuator .bang)
  match ts with
  | .symbol (.punctuator .bracketOpen) :: rest =>
    match settled rest with
    | .error e => .error e
    | .ok () =>
      match typeRef rest with
      | .error e => .error e
      | .ok inner =>
        match ((punctuator .bracketClose).next mark) inner.1 with
        | .error e => .error e
        | .ok r => .ok ⟨r.1, by
            have := inner.2
            have := r.2
            simp only [List.length_cons]
            omega⟩
  | ts => name.next mark ts

/-- Refuses a variable in a constant value. -/
def refuseVariable (ts : List Token) : Except SyntaxError (Rest ts) :=
  match punctuator .dollar ts with
  | .error e => .error e
  | .ok r =>
    match peek r.1 with
    | some (.name n) => .error (.variableInConstant n)
    | _ => .error (.unexpected (peek ts))

/-- Whether a token is a value on its own. -/
def Symbol.isValue : Symbol → Bool
  | punctuator _ => false
  | _ => true

mutual

/-- Reads a value, which may hold variables unless it is constant. -/
def value (constant : Bool) (ts : List Token) : Except SyntaxError (Rest ts) :=
  match ts with
  | .symbol (.punctuator .bracketOpen) :: rest =>
    match settled rest with
    | .error e => .error e
    | .ok () =>
      match listItems constant rest with
      | .error e => .error e
      | .ok r => .ok ⟨r.1, Nat.lt_succ_of_lt r.2⟩
  | .symbol (.punctuator .braceOpen) :: rest =>
    match settled rest with
    | .error e => .error e
    | .ok () =>
      match objectFields constant rest with
      | .error e => .error e
      | .ok r => .ok ⟨r.1, Nat.lt_succ_of_lt r.2⟩
  | .symbol (.punctuator .dollar) :: rest =>
    if constant then refuseVariable (.symbol (.punctuator .dollar) :: rest)
    else variableName (.symbol (.punctuator .dollar) :: rest)
  | .symbol s :: rest =>
    if s.isValue then advance (.symbol s) rest else .error (.unexpected (some s))
  | ts => unexpected ts
  termination_by (ts.length, 0)

/-- Reads the items of a list and its end. -/
def listItems (constant : Bool) (ts : List Token) : Except SyntaxError (Rest ts) :=
  if atPunctuator .bracketClose ts then punctuator .bracketClose ts
  else
    match value constant ts with
    | .error e => .error e
    | .ok r =>
      have := r.2
      match listItems constant r.1 with
      | .error e => .error e
      | .ok r' => .ok (behind r r')
  termination_by (ts.length, 1)

/-- Reads the fields of an object and its end. -/
def objectFields (constant : Bool) (ts : List Token) : Except SyntaxError (Rest ts) :=
  if atPunctuator .braceClose ts then punctuator .braceClose ts
  else
    match (name.next (punctuator .colon)) ts with
    | .error e => .error e
    | .ok r =>
      have := r.2
      match value constant r.1 with
      | .error e => .error e
      | .ok r' =>
        have := r'.2
        match objectFields constant r'.1 with
        | .error e => .error e
        | .ok r'' => .ok ⟨r''.1, Nat.lt_trans r''.2 (Nat.lt_trans r'.2 r.2)⟩
  termination_by (ts.length, 1)

end

/-! ## Arguments and directives -/

/-- Reads an argument. -/
def argument (constant : Bool) : Reads :=
  name.next ((punctuator .colon).next (Reads.toSkips (value constant)))

/-- Reads arguments, if there are any. -/
def arguments (constant : Bool) : Skips := maybeBetween .parenOpen .parenClose (argument constant)

/-- Reads a directive. -/
def directive (constant : Bool) : Reads :=
  (punctuator .atSign).next (name.next (arguments constant))

/-- Reads directives, if there are any. -/
def directives (constant : Bool) (ts : List Token) : Except SyntaxError (Tail ts) :=
  if atPunctuator .atSign ts then
    match directive constant ts with
    | .error e => .error e
    | .ok r =>
      have := r.2
      match directives constant r.1 with
      | .error e => .error e
      | .ok r' => .ok ⟨r'.1, Nat.le_trans r'.2 (Nat.le_of_lt r.2)⟩
  else nothing ts
  termination_by ts.length

/-- Reads a default value, if there is one. -/
def defaultValue : Skips :=
  whenAt (atPunctuator .equals) ((punctuator .equals).next (Reads.toSkips (value true)))

/-! ## Operations and fragments -/

/-- Reads the name of a fragment, which is not the word `on`. -/
def fragmentName : Reads := fun ts =>
  if (peek ts).bind Symbol.content? == some "on" then unexpected ts else name ts

/-- Reads a type condition. -/
def typeCondition : Reads := (keyword "on").next name

/-- Reads a name, an alias before it, and what follows up to the selections. -/
def fieldHead : Reads :=
  name.next ((whenAt (atPunctuator .colon) ((punctuator .colon).next name)).next
    ((arguments false).next (directives false)))

mutual

/-- Reads selections in braces. -/
def selectionSet (ts : List Token) : Except SyntaxError (Rest ts) :=
  match punctuator .braceOpen ts with
  | .error e => .error e
  | .ok r =>
    have := r.2
    match selection r.1 with
    | .error e => .error e
    | .ok r' =>
      have := r'.2
      match selections r'.1 with
      | .error e => .error e
      | .ok r'' => .ok ⟨r''.1, Nat.lt_trans r''.2 (Nat.lt_trans r'.2 r.2)⟩
  termination_by (ts.length, 0)

/-- Reads selections up to the closing brace. -/
def selections (ts : List Token) : Except SyntaxError (Rest ts) :=
  if atPunctuator .braceClose ts then punctuator .braceClose ts
  else
    match selection ts with
    | .error e => .error e
    | .ok r =>
      have := r.2
      match selections r.1 with
      | .error e => .error e
      | .ok r' => .ok (behind r r')
  termination_by (ts.length, 2)

/-- Reads a field, the name of a fragment, or an inline fragment. -/
def selection (ts : List Token) : Except SyntaxError (Rest ts) :=
  if atPunctuator .spread ts then
    match punctuator .spread ts with
    | .error e => .error e
    | .ok r =>
      have := r.2
      if !atKeyword "on" r.1 && (peek r.1).any Symbol.isName then
        match (fragmentName.next (directives false)) r.1 with
        | .error e => .error e
        | .ok r' => .ok (behind r r')
      else
        match ((whenAt (atKeyword "on") typeCondition).next (directives false)) r.1 with
        | .error e => .error e
        | .ok r' =>
          have := r'.2
          match selectionSet r'.1 with
          | .error e => .error e
          | .ok r'' => .ok ⟨r''.1, Nat.lt_trans r''.2 (Nat.lt_of_le_of_lt r'.2 r.2)⟩
  else
    match fieldHead ts with
    | .error e => .error e
    | .ok r =>
      have := r.2
      if atPunctuator .braceOpen r.1 then
        match selectionSet r.1 with
        | .error e => .error e
        | .ok r' => .ok (behind r r')
      else .ok r
  termination_by (ts.length, 1)

end

/-- Reads the declaration of a variable. -/
def variableDefinition : Reads :=
  variableName.next ((punctuator .colon).next
    ((Reads.toSkips typeRef).next (defaultValue.next (directives true))))

/-- What follows the name of an operation. -/
def operationBody : Reads :=
  Skips.before ((maybeBetween .parenOpen .parenClose variableDefinition).next (directives false))
    selectionSet

/-- The words for kinds of operations. -/
def operationWords : List String := ["query", "mutation", "subscription"]

/-- Reads the word for a kind of operation. -/
def operationWord : Reads := fun ts =>
  match name ts with
  | .error e => .error e
  | .ok r =>
    if operationWords.any (atKeyword · ts) then .ok r else .error (.unexpected (peek ts))

/-- Reads a fragment. -/
def fragmentDefinition : Reads :=
  (keyword "fragment").next (fragmentName.next (typeCondition.next
    (Skips.before (directives false) selectionSet).toSkips))

/-! ## Definitions of types -/

/-- Reads the interfaces that a type implements, if it says so. -/
def implemented : Skips :=
  whenAt (atKeyword "implements") ((keyword "implements").next (delimited .ampersand name))

/-- Reads the declaration of an argument or input field. -/
def inputDefinition : Reads :=
  description.before (name.next ((punctuator .colon).next
    ((Reads.toSkips typeRef).next (defaultValue.next (directives true)))))

/-- Reads the declaration of arguments, if there are any. -/
def argumentDefinitions : Skips := maybeBetween .parenOpen .parenClose inputDefinition

/-- Reads the declaration of a field. -/
def fieldDefinition : Reads :=
  description.before (name.next (argumentDefinitions.next ((punctuator .colon).next
    ((Reads.toSkips typeRef).next (directives true)))))

/-- Reads the fields of a type, if there are any. -/
def fieldDefinitions : Skips := maybeBetween .braceOpen .braceClose fieldDefinition

/-- Reads the fields of an input type, if there are any. -/
def inputFieldDefinitions : Skips := maybeBetween .braceOpen .braceClose inputDefinition

/-- Reads the members of a union, if there are any. -/
def unionMembers : Skips :=
  whenAt (atPunctuator .equals) ((punctuator .equals).next (delimited .pipe name))

/-- The names that no value of an enumeration has. -/
def reservedValues : List String := ["true", "false", "null"]

/-- Reads the name of a value of an enumeration. -/
def enumValueName : Reads := fun ts =>
  match peek ts with
  | some s => if s.content?.any reservedValues.contains then .error (.reservedValue s) else name ts
  | none => name ts

/-- Reads the values of an enumeration, if there are any. -/
def enumValues : Skips :=
  maybeBetween .braceOpen .braceClose
    (description.before (enumValueName.next (directives true)))

/-- Reads the type at which an operation starts. -/
def rootDefinition : Reads := operationWord.next ((punctuator .colon).next name)

/-- The places that a directive may be declared for. -/
def directiveLocations : List String :=
  ["QUERY", "MUTATION", "SUBSCRIPTION", "FIELD", "FRAGMENT_DEFINITION", "FRAGMENT_SPREAD",
   "INLINE_FRAGMENT", "VARIABLE_DEFINITION", "SCHEMA", "SCALAR", "OBJECT", "FIELD_DEFINITION",
   "ARGUMENT_DEFINITION", "INTERFACE", "UNION", "ENUM", "ENUM_VALUE", "INPUT_OBJECT",
   "INPUT_FIELD_DEFINITION"]

/-- Reads a place that a directive may be declared for. -/
def directiveLocation : Reads := fun ts =>
  match name ts with
  | .error e => .error e
  | .ok r =>
    if directiveLocations.any (atKeyword · ts) then .ok r else .error (.unexpected (peek ts))

/-- What a type consists of behind its name, by the word that opens its definition. -/
def typeParts : List (String × Skips) :=
  [("scalar", directives true),
   ("type", implemented.next (Skips.next (directives true) fieldDefinitions)),
   ("interface", implemented.next (Skips.next (directives true) fieldDefinitions)),
   ("union", Skips.next (directives true) unionMembers),
   ("enum", Skips.next (directives true) enumValues),
   ("input", Skips.next (directives true) inputFieldDefinitions)]

/-- Reads the definition of a schema. -/
def schemaDefinition : Reads :=
  description.before ((keyword "schema").next (Skips.next (directives true)
    (between .braceOpen .braceClose rootDefinition)))

/-- Reads the definition of a directive. -/
def directiveDefinition : Reads :=
  description.before ((keyword "directive").next ((punctuator .atSign).next (name.next
    (argumentDefinitions.next ((whenAt (atKeyword "repeatable") (keyword "repeatable")).next
      ((keyword "on").next (delimited .pipe directiveLocation)))))))

/-- The reader of the definition that a word opens. -/
def definitionReader? (word : String) : Option Reads :=
  if word == "schema" then some schemaDefinition
  else if word == "directive" then some directiveDefinition
  else (typeParts.find? (·.1 == word)).map fun (_, parts) =>
    description.before ((keyword word).next (name.next parts))

/-- The reader of the extension that a word announces. It has to add something. -/
def extensionReader? (word : String) : Option Reads :=
  if word == "schema" then
    some ((keyword "extend").next ((keyword word).next (extending (Skips.next (directives true)
      (maybeBetween .braceOpen .braceClose rootDefinition)))))
  else (typeParts.find? (·.1 == word)).map fun (_, parts) =>
    (keyword "extend").next ((keyword word).next (name.next (extending parts)))

/-- Reads an extension. -/
def extension : Reads := fun ts =>
  match peekSecond ts with
  | .error e => .error e
  | .ok second =>
    match second with
    | some (.name word) =>
      match extensionReader? word with
      | some p => p ts
      | none => .error (.unexpected second)
    | _ => .error (.unexpected second)

end GraphBind.Query
