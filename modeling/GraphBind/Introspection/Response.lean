import GraphBind.Introspection.Record
import GraphBind.Schema.Basic
import GraphBind.ServiceError

/-!
# Introspection responses

`Schema.ofResponse` takes the schema out of the document that a service answers an introspection
query with. A member `errors`, whatever it is, makes the answer a report of errors. Otherwise the
object `__schema` is read in full against the declared records before the first record is turned
into a type.
-/

namespace GraphBind.Introspection

/-- The reference that a record stands for. -/
def RefRecord.toRef : RefRecord → Except SchemaFault TypeRef
  | mk .list _ none => .error (.wrapsNothing .list)
  | mk .nonNull _ none => .error (.wrapsNothing .nonNull)
  | mk .list _ (some inner) => (toRef inner).map .list
  | mk .nonNull _ (some inner) => (toRef inner).map .nonNull
  | mk kind name _ =>
    match name with
    | some n => if n.isEmpty then .error (.nameless kind) else .ok (.named n)
    | none => .error (.nameless kind)

/-- The name of a record. -/
def RefRecord.name? : RefRecord → Option Text
  | mk _ name _ => name

/-- The names of the records that have one; an empty name is none. -/
def namesOf (refs : Option (List RefRecord)) : List Text :=
  ((refs.getD []).filterMap RefRecord.name?).filter (!·.isEmpty)

/-- The argument or input field that a record stands for. -/
def InputRecord.toArgument (r : InputRecord) : Except SchemaFault Argument := do
  let type ← r.type.toRef
  return { name := r.name, type, default := r.defaultValue, description := r.description }

/-- The field that a record stands for. -/
def FieldRecord.toField (r : FieldRecord) : Except SchemaFault Field := do
  let type ← r.type.toRef
  let arguments ← r.args.mapM InputRecord.toArgument
  return { name := r.name, type, description := r.description, arguments
           isDeprecated := r.isDeprecated, deprecationReason := r.deprecationReason }

/-- The value of an enumeration that a record stands for. -/
def EnumValueRecord.toValue (r : EnumValueRecord) : EnumValue :=
  ⟨r.name, r.description, r.isDeprecated, r.deprecationReason⟩

/-- What the type of a record consists of. Only the members that its kind has are looked at. -/
def TypeRecord.toBody (r : TypeRecord) : Except SchemaFault Body :=
  match r.kind with
  | .scalar => .ok .scalar
  | .object => do
    let fields ← (r.fields.getD []).mapM FieldRecord.toField
    return .object fields (namesOf r.interfaces)
  | .interface => do
    let fields ← (r.fields.getD []).mapM FieldRecord.toField
    return .interface fields (namesOf r.possibleTypes)
  | .union => .ok (.union (namesOf r.possibleTypes))
  | .enumeration => .ok (.enumeration ((r.enumValues.getD []).map EnumValueRecord.toValue))
  | .inputObject => do
    let fields ← (r.inputFields.getD []).mapM InputRecord.toArgument
    return .inputObject fields
  | .list => .error (.wrappingKind r.name .list)
  | .nonNull => .error (.wrappingKind r.name .nonNull)

/-- The named type that a record stands for. -/
def TypeRecord.toDefinition (r : TypeRecord) : Except SchemaFault Definition := do
  let body ← r.toBody
  return { name := r.name, description := r.description, body }

/-- The schema that a record stands for. -/
def SchemaRecord.toSchema (r : SchemaRecord) : Except SchemaFault Schema := do
  let types ← r.types.mapM TypeRecord.toDefinition
  return { types, roots := ⟨r.queryType, r.mutationType, r.subscriptionType⟩ }

end GraphBind.Introspection

namespace GraphBind

namespace Schema

open Introspection

/-- The schema that a `__schema` object reports. -/
def ofMembers (members : Members) : Except SchemaFault Schema :=
  match readSchema members with
  | .value record => record.toSchema
  | .issues found => .error (.issues found)

/-- The members of the `__schema` object of a response: that of `data` or, if there is no `data`, of
the response itself. -/
def membersOfResponse? (members : Members) : Option Members :=
  match (Entries.get? (Text.ofString "data") members).getD (.object members) with
  | .object data =>
    match Entries.get? (Text.ofString "__schema") data with
    | some (.object schema) => some schema
    | _ => none
  | _ => none

/-- The schema that a service answers an introspection query with. -/
def ofResponse (d : Json) : Except ServiceError Schema :=
  match d with
  | .object members =>
    match Entries.get? (Text.ofString "errors") members with
    | some errors => .error (.reported errors)
    | none =>
      match membersOfResponse? members with
      | none => .error (.transport .noSchema)
      | some schema => (ofMembers schema).mapError fun fault => .transport (.malformed fault)
  | d => .error (.transport (.notAnObject d.typeName))

end Schema

end GraphBind
