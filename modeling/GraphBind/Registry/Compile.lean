import GraphBind.Registry.Basic

/-!
# Compiling schemas

A schema compiles to a registry if every name that a reserved type refers to, and every root, is
known. Reserved are the first listings of the names that are not native scalars; names of the meta
types, which start with two underscores, only on request. What is not reserved is not looked at.

All names are known before the first reference is checked, so schemas may refer in circles.
-/

namespace GraphBind

/-- Why a schema does not compile. -/
inductive CompileError where
  /-- A field, argument or input field is of an unknown type. -/
  | unknownType (owner field type : Text)
  /-- A type names others, as interfaces, possible types or members, that are unknown. -/
  | unknownTypes (owner : Text) (missing : List Text)
  /-- A root is unknown. -/
  | unknownRoot (operation : Operation) (type : Text)
  deriving DecidableEq, Repr

/-- The text of an error. -/
def CompileError.message : CompileError → Text
  | unknownType owner field type =>
    owner ++ "." ++ field ++ " references unknown type " ++ Text.quoted type
  | unknownTypes owner missing =>
    owner ++ " references unknown types: " ++ Text.joined ", " missing
  | unknownRoot operation type =>
    s!"Root {operation.name} type " ++ Text.quoted type ++ " is not defined in the schema"

namespace Schema

/-- Whether a name belongs to the meta types. -/
def isMetaName (name : Text) : Bool := (Text.ofString "__").isPrefixOf name

/-- The first listing of every name. -/
def firstListings : List Definition → List Definition
  | [] => []
  | d :: ds => d :: (firstListings ds).filter (·.name != d.name)

/-- The types of a schema that are compiled, in order. -/
def reserved (s : Schema) (known : NativeScalars) (includeMeta : Bool) : List Definition :=
  firstListings (s.types.filter fun d =>
    !(Entries.keys known).contains d.name && (includeMeta || !isMetaName d.name))

/-- The names that types may refer to. -/
def allowedNames (s : Schema) (known : NativeScalars) (includeMeta : Bool) : List Text :=
  Entries.keys known ++ (s.reserved known includeMeta).map (·.name)

end Schema

/-- The type of a field, if its name is allowed. -/
def checkRef (allowed : List Text) (owner field : Text) (r : TypeRef) :
    Except CompileError FieldType :=
  let type := FieldType.ofRef r
  if allowed.contains type.typeName then .ok type
  else .error (.unknownType owner field type.typeName)

/-- Checks the names that a type refers to. -/
def checkNames (allowed : List Text) (owner : Text) (names : List Text) :
    Except CompileError Unit :=
  match names.filter (!allowed.contains ·) with
  | [] => .ok ()
  | missing => .error (.unknownTypes owner missing)

/-- Compiles an argument of `owner`. -/
def Argument.compile (allowed : List Text) (owner : Text) (a : Argument) :
    Except CompileError CompiledArgument := do
  let type ← checkRef allowed owner a.name a.type
  return { name := a.name, type, description := a.description, default := a.default }

/-- Compiles a field of `owner`: its own type first, then its arguments. -/
def Field.compile (allowed : List Text) (owner : Text) (f : Field) :
    Except CompileError CompiledField := do
  let type ← checkRef allowed owner f.name f.type
  let arguments ← f.arguments.mapM (Argument.compile allowed (owner ++ "." ++ f.name))
  return { name := f.name, type, description := f.description, arguments, default := none
           isDeprecated := f.isDeprecated }

/-- Compiles a field of the input object `owner`. -/
def Argument.compileInput (allowed : List Text) (owner : Text) (a : Argument) :
    Except CompileError CompiledField := do
  let type ← checkRef allowed owner a.name a.type
  return { name := a.name, type, description := a.description, arguments := []
           default := a.default, isDeprecated := false }

/-- Compiles a type: the fields first, then the names it refers to. -/
def Definition.compile (allowed : List Text) (d : Definition) :
    Except CompileError CompiledType :=
  let bare : CompiledType :=
    { name := d.name, kind := d.kind, description := d.description, fields := [], interfaces := []
      members := [], values := [], native := none }
  match d.body with
  | .scalar => .ok bare
  | .object fields interfaces => do
    let fields ← fields.mapM (Field.compile allowed d.name)
    checkNames allowed d.name interfaces
    return { bare with fields, interfaces }
  | .interface fields possibleTypes => do
    let fields ← fields.mapM (Field.compile allowed d.name)
    checkNames allowed d.name possibleTypes
    return { bare with fields, members := possibleTypes }
  | .union members => do
    checkNames allowed d.name members
    return { bare with members }
  | .enumeration values => .ok { bare with values := values.map (·.name) }
  | .inputObject fields => do
    let fields ← fields.mapM (Argument.compileInput allowed d.name)
    return { bare with fields }

/-- Checks the roots, in order. -/
def checkRoots (allowed : List Text) : List (Operation × Text) → Except CompileError Unit
  | [] => .ok ()
  | (op, name) :: roots =>
    if allowed.contains name then checkRoots allowed roots else .error (.unknownRoot op name)

/-- The registry of a schema. -/
def Schema.compile (s : Schema) (known : NativeScalars) (includeMeta : Bool) :
    Except CompileError Registry := do
  let allowed := s.allowedNames known includeMeta
  let compiled ← (s.reserved known includeMeta).mapM (Definition.compile allowed)
  checkRoots allowed s.roots.toList
  return { types := known.map (fun (name, t) => (name, CompiledType.ofNative name t)) ++
             compiled.map (fun t => (t.name, t))
           roots := s.roots }

end GraphBind
