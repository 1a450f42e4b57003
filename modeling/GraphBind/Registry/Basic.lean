import GraphBind.Entries
import GraphBind.Schema.Basic
import GraphBind.Text.Quoted

/-!
# Registries

A registry holds one compiled type for every name it knows: the scalars that stand for native types
of the generated module, and then the types of a schema. Compiled types refer to each other by name
only, and `resolve` follows such a name.
-/

namespace GraphBind

/-- A type that generated modules find in a module of their own language. -/
structure NativeType where
  module : String
  name : String
  deriving DecidableEq, Repr, Inhabited

namespace NativeType

/-- The module whose names are known everywhere. -/
def builtinModule : String := "builtins"

/-- Whether the type is known everywhere. -/
def isBuiltin (t : NativeType) : Bool := t.module == builtinModule

/-- The full name of a type. -/
def toText (t : NativeType) : String := s!"{t.module}.{t.name}"

end NativeType

/-- The scalars that stand for native types, in order, each name once. -/
abbrev NativeScalars := List (Text × NativeType)

namespace NativeScalars

/-- The scalars that every schema knows. -/
def standard : NativeScalars :=
  [("Int", ⟨NativeType.builtinModule, "int"⟩),
   ("Float", ⟨NativeType.builtinModule, "float"⟩),
   ("String", ⟨NativeType.builtinModule, "str"⟩),
   ("Boolean", ⟨NativeType.builtinModule, "bool"⟩),
   ("ID", ⟨NativeType.builtinModule, "str"⟩)]

/-- Layers further scalars over these. -/
def extend (base extra : NativeScalars) : NativeScalars := Entries.putAll base extra

end NativeScalars

/-- An argument of a compiled field. -/
structure CompiledArgument where
  name : Text
  type : FieldType
  description : Option Text
  default : Option Text
  deriving DecidableEq, Repr, Inhabited

/-- A field of a compiled type; only fields of input objects have a default. -/
structure CompiledField where
  name : Text
  type : FieldType
  description : Option Text
  arguments : List CompiledArgument
  default : Option Text
  isDeprecated : Bool
  deriving DecidableEq, Repr, Inhabited

/-- What is left of a named type after its references have been checked. A native scalar has a
native type and nothing else. -/
structure CompiledType where
  name : Text
  kind : Kind
  description : Option Text
  fields : List CompiledField
  interfaces : List Text
  members : List Text
  values : List Text
  native : Option NativeType
  deriving DecidableEq, Repr, Inhabited

/-- Why a look-up fails. -/
inductive LookupError where
  | noType (name : Text)
  | noField (type field : Text)
  deriving DecidableEq, Repr

/-- The text of an error. -/
def LookupError.message : LookupError → Text
  | noType name => name
  | noField type field => type ++ " has no field " ++ Text.quoted field

namespace CompiledType

/-- A scalar that stands for a native type. -/
def ofNative (name : Text) (t : NativeType) : CompiledType :=
  { name, kind := .scalar, description := none, fields := [], interfaces := [], members := []
    values := [], native := some t }

/-- The first field with a name. -/
def field (t : CompiledType) (name : Text) : Except LookupError CompiledField :=
  match t.fields.find? (·.name == name) with
  | some f => .ok f
  | none => .error (.noField t.name name)

/-- The names of the fields, each with the notation of its type. -/
def shape (t : CompiledType) : List (Text × Text) :=
  t.fields.map fun f => (f.name, f.type.toText)

end CompiledType

/-- The compiled types by name, and the roots of the schema. -/
structure Registry where
  types : List (Text × CompiledType)
  roots : Roots
  deriving DecidableEq, Repr, Inhabited

namespace Registry

/-- The names, in order. -/
def names (r : Registry) : List Text := Entries.keys r.types

/-- How many types there are. -/
def size (r : Registry) : Nat := r.types.length

/-- The type with a name. -/
def find? (r : Registry) (name : Text) : Option CompiledType := Entries.get? name r.types

/-- The type with a name, which has to be there. -/
def get (r : Registry) (name : Text) : Except LookupError CompiledType :=
  match r.find? name with
  | some t => .ok t
  | none => .error (.noType name)

/-- The type that the innermost name of a field's type refers to. -/
def resolve (r : Registry) (t : FieldType) : Except LookupError CompiledType := r.get t.typeName

/-- The types that come from the schema, in order. -/
def generated (r : Registry) : List CompiledType :=
  (r.types.map (·.2)).filter (·.native.isNone)

/-- The types of one kind that come from the schema. -/
def byKind (r : Registry) (k : Kind) : List CompiledType := r.generated.filter (·.kind == k)

/-- The shapes of all types, by name. -/
def shape (r : Registry) : List (Text × List (Text × Text)) :=
  r.types.map fun (name, t) => (name, t.shape)

/-- A registry in a few words. -/
def summary (r : Registry) : String := s!"TypeRegistry({r.size} types)"

/-- Follows fields from a type, one after the other. -/
def walk (r : Registry) (t : CompiledType) : List Text → Except LookupError CompiledType
  | [] => .ok t
  | name :: path => do
    let f ← t.field name
    let next ← r.resolve f.type
    r.walk next path

end Registry

end GraphBind
