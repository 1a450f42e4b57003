import GraphBind.Models.Layout
import GraphBind.Text.Basic
import GraphBind.Text.CharacterName

/-!
# Validity of generated modules

An outline of the parser that generated modules have to pass. A module of the built-in layout passes
if the names that it binds or refers to are identifiers, no annotation opens more brackets than may
be open, and the module still begins well with the source inside its docstring: every escape is
complete, and if three quotes end the docstring early, three others go on with a literal after a
joint that the language allows between two literals. All other texts are quoted, escaped or on a
comment line. A text of one's own passes if each of its lines is blank, a comment, an import, or
assigns a literal or a name to a name.

This is what generated modules are told apart by, and no grammar. A parser accepts more than passes
here: names that are no identifiers and still make some statement (a scalar called `a.b` becomes an
attribute of `a`), sources that end the docstring with other code behind it or with quotes of
another kind, and most texts of one's own. It may also give up on a module that passes, for want of
memory or stack. `Toolchain` leaves the parser open for what does not depend on it.
-/

namespace GraphBind.Models

/-! ## Plain lines -/

/-- White space inside a line of a module. -/
def isGap (c : Char) : Bool := c == ' ' || c == '\t' || c == '\x0c'

/-- A line without the white space at its ends. -/
def withoutGaps (line : List Char) : List Char := Text.trim isGap line

/-- Whether a text is a quoted literal without escapes. -/
def isPlainLiteral (cs : List Char) : Bool :=
  match cs with
  | q :: inner =>
    (q == '\'' || q == '"') && inner.getLast? == some q &&
      inner.dropLast.all fun c => c != q && c != '\\'
  | [] => false

/-- Whether a text is a number, a literal or a name. -/
def isAtom (cs : List Char) : Bool :=
  (!cs.isEmpty && cs.all Text.isAsciiDigit && (cs.head? != some '0' || cs.all (· == '0'))) ||
    isPlainLiteral cs || Text.isBindable (.ofChars cs) ||
    ["None", "True", "False"].contains (String.ofList cs)

/-- Whether the parts of a name with points in it can be bound. -/
def isDottedName (name : String) : Bool :=
  (name.toList.splitOn '.').all fun part => Text.isBindable (.ofChars part)

/-- Whether a line assigns an atom to a name. -/
def isAssignment (line : List Char) : Bool :=
  let name := line.takeWhile (· != '=')
  match line.dropWhile (· != '=') with
  | _ :: value =>
    Text.isBindable (.ofChars (name.reverse.dropWhile isGap).reverse) &&
      isAtom (withoutGaps value)
  | [] => false

/-- Whether a line imports a module. -/
def isImport (line : List Char) : Bool :=
  line.take 7 == "import ".toList && isDottedName (String.ofList (withoutGaps (line.drop 7)))

/-- Whether nothing of a line counts. -/
def isIdleLine (line : List Char) : Bool :=
  match line.dropWhile isGap with
  | [] => true
  | c :: _ => c == '#'

/-- Whether a line is blank, a comment, an import or an assignment. -/
def isPlainLine (line : List Char) : Bool := isIdleLine line || isImport line || isAssignment line

/-- Whether a text of one's own is accepted. -/
def isPlainModule (text : String) : Bool := (text.toList.splitOn '\n').all isPlainLine

/-! ## Docstrings -/

/-- What follows a named escape behind its opening brace: a name of a character and a closing brace.
-/
def readCharacterName? (cs : List Char) : Option (List Char) :=
  match cs.dropWhile (· != '}') with
  | '}' :: rest => if Text.isCharacterName (cs.takeWhile (· != '}')) then some rest else none
  | _ => none

/-- Whether the escape that opens with `c` goes on as it has to. -/
def completesEscape (c : Char) (rest : List Char) : Bool :=
  match c with
  | 'x' => (Text.readHex? 2 0 rest).isSome
  | 'u' => (Text.readHex? 4 0 rest).isSome
  | 'U' => ((Text.readHex? 8 0 rest).filter (· < 0x110000)).isSome
  | 'N' =>
    match rest with
    | '{' :: name => (readCharacterName? name).isSome
    | _ => false
  | _ => true

/-- What may stand between two literals of one line. -/
def jointWords : List String :=
  ["", "+", "-", "*", "/", "//", "%", "@", "**", "<<", ">>", "&", "|", "^", "<", ">", "<=", ">=",
   "==", "!=", "and", "or", "in", "is", ",", ";"]

/-- Whether a text may stand between two literals: a word that joins them, or the end of a line and
plain lines. -/
def isJoint (code : List Char) : Bool :=
  match code.splitOn '\n' with
  | [] => true
  | [line] => jointWords.contains (String.ofList (withoutGaps line))
  | first :: lines =>
    isIdleLine first && lines.dropLast.all isPlainLine && lines.getLast? == some []

/-- Whether a module may begin with a text behind three quotes, which three quotes follow. What
stands outside of literals, in reverse, is `code?` as far as it has been read. -/
def isOpening (code? : Option (List Char)) : List Char → Bool
  | '"' :: '"' :: '"' :: cs =>
    match code? with
    | none => isOpening (some []) cs
    | some code => isJoint code.reverse && isOpening none cs
  | '\\' :: c :: cs =>
    match code? with
    | none => completesEscape c cs && isOpening none cs
    | some code => isOpening (some (c :: '\\' :: code)) cs
  | c :: cs => isOpening (code?.map (c :: ·)) cs
  | [] => code?.isNone

/-! ## Names -/

/-- Whether the name and the values of an enumeration can be bound. -/
def isEnumValid (t : CompiledType) : Bool :=
  Text.isBindable t.name && t.values.all fun v => Text.isIdentifier (safeIdentifier v)

/-- Whether the name and the attributes of a model can be bound. -/
def isModelValid (t : CompiledType) : Bool :=
  Text.isBindable t.name &&
    (attributeNames (t.fields.map (·.name))).all fun (_, attr) => Text.isIdentifier attr

/-- Whether the annotation of a field refers to a native type by a name, if to any. -/
def isReferenceValid (r : Registry) (f : CompiledField) : Bool :=
  match r.resolve f.type with
  | .ok { native := some native, .. } => isDottedName native.name
  | _ => true

/-- The most brackets that may be open at one place of a module. -/
def bracketLimit : Nat := 200

/-- Whether the annotation of a field opens no more brackets than may be open. They are all open
around the name at its core. -/
def isAnnotationShallow (r : Registry) (f : CompiledField) : Bool :=
  match annotation r f.type with
  | .ok annotated => annotated.count (.char '[') ≤ bracketLimit
  | .error _ => true

/-- Whether the text of a generated module is accepted. -/
def Surface.isValid (s : Surface) (r : Registry) : Bool :=
  isOpening none (Text.normalizeLines (sourceName s.source ++ ".").toList) &&
  s.imports.all (fun (module, _) => isDottedName module) &&
  s.scalars.all (fun t => Text.isBindable t.name) &&
  s.enumerations.all isEnumValid &&
  s.unions.all (fun t => Text.isBindable t.name) &&
  s.models.all (fun t => isModelValid t && t.fields.all (isReferenceValid r)) &&
  s.models.all (fun t => t.fields.all (isAnnotationShallow r))

end GraphBind.Models
