import GraphBind.Text.Basic

/-!
# Schemas

The types that a service reports about itself. Named types refer to each other by name; lists and
non-null types only wrap the type that a field, an argument or an input field has. A schema keeps
its types in the order in which the service lists them, names that are listed twice included.

The type of a field is also written as the name of its innermost type and the modifiers around it,
outermost first (`FieldType`). `FieldType.ofRef` and `FieldType.toRef` are inverse, so nothing of a
reference is lost.
-/

/-! ## Kinds -/

namespace GraphBind

/-- The kind of a type. -/
inductive Kind where
  | scalar
  | object
  | interface
  | union
  | enumeration
  | inputObject
  | list
  | nonNull
  deriving DecidableEq, Repr, Inhabited

namespace Kind

/-- All kinds, in order. -/
def all : List Kind :=
  [scalar, object, interface, union, enumeration, inputObject, list, nonNull]

/-- The name by which a service reports a kind. -/
def name : Kind → String
  | scalar => "SCALAR"
  | object => "OBJECT"
  | interface => "INTERFACE"
  | union => "UNION"
  | enumeration => "ENUM"
  | inputObject => "INPUT_OBJECT"
  | list => "LIST"
  | nonNull => "NON_NULL"

/-- The kind with a name. -/
def ofName? (s : String) : Option Kind := all.find? (·.name == s)

/-- The word for a kind in a summary of types. -/
def title : Kind → String
  | scalar => "Scalar"
  | object => "Object"
  | interface => "Interface"
  | union => "Union"
  | enumeration => "Enum"
  | inputObject => "Input Object"
  | list => "List"
  | nonNull => "Non Null"

theorem ofName?_name (k : Kind) : ofName? k.name = some k := by cases k <;> decide +kernel

theorem name_of_ofName? {s : String} {k : Kind} (h : ofName? s = some k) : k.name = s := by
  have := List.find?_some h
  simpa using this

end Kind

/-! ## Types -/

/-- A reference to a type. -/
inductive TypeRef where
  | named (name : Text)
  | list (inner : TypeRef)
  | nonNull (inner : TypeRef)
  deriving DecidableEq, Repr, Inhabited

namespace TypeRef

/-- The name of the innermost type. -/
def typeName : TypeRef → Text
  | named name => name
  | list inner => inner.typeName
  | nonNull inner => inner.typeName

/-- The notation of a reference: brackets around what a list holds, a mark behind what is not null.
-/
def toText : TypeRef → Text
  | named name => name
  | list inner => "[" ++ inner.toText ++ "]"
  | nonNull inner => inner.toText ++ "!"

end TypeRef

/-- An argument of a field, or a field of an input object. The default is a literal as reported. -/
structure Argument where
  name : Text
  type : TypeRef
  default : Option Text
  description : Option Text
  deriving DecidableEq, Repr, Inhabited

/-- A field of an object or interface. -/
structure Field where
  name : Text
  type : TypeRef
  description : Option Text
  arguments : List Argument
  isDeprecated : Bool
  deprecationReason : Option Text
  deriving DecidableEq, Repr, Inhabited

/-- A value of an enumeration. -/
structure EnumValue where
  name : Text
  description : Option Text
  isDeprecated : Bool
  deprecationReason : Option Text
  deriving DecidableEq, Repr, Inhabited

/-- What a named type consists of. -/
inductive Body where
  | scalar
  | object (fields : List Field) (interfaces : List Text)
  | interface (fields : List Field) (possibleTypes : List Text)
  | union (members : List Text)
  | enumeration (values : List EnumValue)
  | inputObject (fields : List Argument)
  deriving DecidableEq, Repr, Inhabited

/-- The kind of a type with this body. -/
def Body.kind : Body → Kind
  | scalar => .scalar
  | object _ _ => .object
  | interface _ _ => .interface
  | union _ => .union
  | enumeration _ => .enumeration
  | inputObject _ => .inputObject

/-- A named type. -/
structure Definition where
  name : Text
  description : Option Text
  body : Body
  deriving DecidableEq, Repr, Inhabited

/-- The kind of a named type. -/
def Definition.kind (d : Definition) : Kind := d.body.kind

/-- A kind of operation. -/
inductive Operation where
  | query
  | mutation
  | subscription
  deriving DecidableEq, Repr, Inhabited

/-- The keyword of a kind of operation. -/
def Operation.name : Operation → String
  | query => "query"
  | mutation => "mutation"
  | subscription => "subscription"

/-- The names of the types at which operations start. -/
structure Roots where
  query : Option Text
  mutation : Option Text
  subscription : Option Text
  deriving DecidableEq, Repr, Inhabited

/-- The roots that are there, in order. An empty name is none. -/
def Roots.toList (r : Roots) : List (Operation × Text) :=
  [(Operation.query, r.query), (.mutation, r.mutation), (.subscription, r.subscription)].filterMap
    fun (op, name) => name.bind fun n => if n.isEmpty then none else some (op, n)

/-- A schema. -/
structure Schema where
  types : List Definition
  roots : Roots
  deriving DecidableEq, Repr, Inhabited

namespace Schema

/-- The first type that is listed by a name. -/
def find? (s : Schema) (name : Text) : Option Definition := s.types.find? (·.name == name)

/-- The names of the types, as listed. -/
def names (s : Schema) : List Text := s.types.map (·.name)

end Schema

/-! ## Types of fields -/

/-- A wrapping around a type. -/
inductive Modifier where
  | list
  | nonNull
  deriving DecidableEq, Repr, Inhabited

namespace Modifier

/-- The name by which a service reports a modifier. -/
def name : Modifier → String
  | list => Kind.list.name
  | nonNull => Kind.nonNull.name

/-- The modifier with a name. -/
def ofName? (s : String) : Option Modifier := [list, nonNull].find? (·.name == s)

/-- The reference that a modifier makes of another. -/
def wrap : Modifier → TypeRef → TypeRef
  | list => .list
  | nonNull => .nonNull

/-- The notation that a modifier makes of another. -/
def decorate : Modifier → Text → Text
  | list, inner => "[" ++ inner ++ "]"
  | nonNull, inner => inner ++ "!"

end Modifier

/-- The type of a field. -/
structure FieldType where
  typeName : Text
  modifiers : List Modifier
  deriving DecidableEq, Repr, Inhabited

namespace FieldType

/-- Unwraps a reference from which modifiers have been taken already. -/
def unwrap (taken : List Modifier) : TypeRef → FieldType
  | .named name => ⟨name, taken⟩
  | .list inner => unwrap (taken ++ [.list]) inner
  | .nonNull inner => unwrap (taken ++ [.nonNull]) inner

/-- The type that a reference denotes. -/
def ofRef (r : TypeRef) : FieldType := unwrap [] r

/-- The modifiers of a reference. -/
def modifiersOf : TypeRef → List Modifier
  | .named _ => []
  | .list inner => .list :: modifiersOf inner
  | .nonNull inner => .nonNull :: modifiersOf inner

/-- The reference to a type. -/
def toRef (t : FieldType) : TypeRef := t.modifiers.foldr Modifier.wrap (.named t.typeName)

/-- Whether the outermost value may be null. -/
def isOptional (t : FieldType) : Bool := t.modifiers.head? != some .nonNull

/-- Whether a list is among the modifiers. -/
def isList (t : FieldType) : Bool := t.modifiers.contains .list

/-- The notation of a type. -/
def toText (t : FieldType) : Text := t.modifiers.foldr Modifier.decorate t.typeName

/-- Unwrapping comes to the name at the core, with the modifiers around it behind those taken. -/
theorem unwrap_eq (taken : List Modifier) (r : TypeRef) :
    unwrap taken r = ⟨r.typeName, taken ++ modifiersOf r⟩ := by
  induction r generalizing taken with
  | named name => rw [unwrap, modifiersOf, List.append_nil, TypeRef.typeName]
  | list inner ih => rw [unwrap, ih, modifiersOf, List.append_assoc, TypeRef.typeName]; rfl
  | nonNull inner ih => rw [unwrap, ih, modifiersOf, List.append_assoc, TypeRef.typeName]; rfl

theorem ofRef_eq (r : TypeRef) : ofRef r = ⟨r.typeName, modifiersOf r⟩ := unwrap_eq [] r

@[simp] theorem typeName_ofRef (r : TypeRef) : (ofRef r).typeName = r.typeName :=
  congrArg typeName (ofRef_eq r)

@[simp] theorem modifiers_ofRef (r : TypeRef) : (ofRef r).modifiers = modifiersOf r :=
  congrArg modifiers (ofRef_eq r)

theorem toRef_ofRef (r : TypeRef) : (ofRef r).toRef = r := by
  rw [ofRef_eq]
  induction r with
  | named => rfl
  | list inner ih => exact congrArg TypeRef.list ih
  | nonNull inner ih => exact congrArg TypeRef.nonNull ih

theorem ofRef_toRef (t : FieldType) : ofRef t.toRef = t := by
  rw [ofRef_eq]
  obtain ⟨name, modifiers⟩ := t
  induction modifiers with
  | nil => rfl
  | cons m ms ih =>
    have hn : (toRef ⟨name, ms⟩).typeName = name := congrArg FieldType.typeName ih
    have hm : modifiersOf (toRef ⟨name, ms⟩) = ms := congrArg FieldType.modifiers ih
    cases m <;> exact (FieldType.mk.injEq ..).mpr ⟨hn, congrArg (List.cons _) hm⟩

end FieldType

end GraphBind
