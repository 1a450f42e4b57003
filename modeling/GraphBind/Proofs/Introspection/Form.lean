import GraphBind.Introspection.Record
import Mathlib.Data.List.Forall2

/-!
# Forms of introspection documents

The grammar of `__schema` objects, said without reading one: which document spells which record. A
form relates documents to what they spell. A member of an object is looked up under its key, or,
where there is none, under the second spelling of the key (`given?`); it is required, or it may be
left out, or it may be left out or null. Other members play no part.

The forms of the records that hold references to types take the form of references as a parameter:
`Form.ref` is the form of a reference nested in any depth, `Form.refWithin` bounds the depth.
-/

namespace GraphBind.Introspection

/-- Which documents spell which data. -/
abbrev Form (α : Type) := Json → α → Prop

/-- What stands in an object under a key, or else under the second spelling of the key. -/
def given? (key spelling : String) (ms : Members) : Option Json :=
  (Entries.get? (Text.ofString key) ms).or (Entries.get? (Text.ofString spelling) ms)

variable {α : Type}

namespace Form

/-- A text spells itself. -/
def text : Form Text := fun d t => d = .scalar (.str t)

/-- A kind is spelled by its name. -/
def kind : Form Kind := fun d k => d = .scalar (.str (Text.ofString k.name))

/-- The words for a truth value. -/
def words (b : Bool) : List String := if b then trueTexts else falseTexts

/-- A truth value is spelled by itself, by one or zero, whole or not, and by some words, whatever
the case of their letters. -/
inductive boolean : Form Bool where
  | bool (b : Bool) : boolean (.scalar (.bool b)) b
  | int (b : Bool) : boolean (.scalar (.int b.toInt)) b
  | float {x : Decimal.Binary64} {b : Bool} (h : x.toInt? = some b.toInt) :
    boolean (.scalar (.float x)) b
  | word {s : String} {b : Bool} (h : String.ofList (s.toList.map Char.toLower) ∈ words b) :
    boolean (.scalar (.str (Text.ofString s))) b

/-- Null spells nothing; something is spelled by what is not null. -/
def nullable (f : Form α) : Form (Option α)
  | d, none => d = .null
  | d, some a => d ≠ .null ∧ f d a

/-- An array spells what its items do, in order. -/
def array (f : Form α) : Form (List α) := fun d as => ∃ ds, d = .array ds ∧ List.Forall₂ f ds as

/-- An object spells what its members do together. -/
def object (p : Members → α → Prop) : Form α := fun d a => ∃ ms, d = .object ms ∧ p ms a

/-! ## Members -/

/-- A member that has to be there. -/
def required (f : Form α) : Option Json → α → Prop
  | none, _ => False
  | some d, a => f d a

/-- A member that may be left out. -/
def optional (f : Form α) (default : α) : Option Json → α → Prop
  | none, a => a = default
  | some d, a => f d a

/-- A member that may be left out or null. -/
def maybe (f : Form α) : Option Json → Option α → Prop := optional (nullable f) none

end Form

/-! ## Records -/

/-- A reference: its kind, its name if it has one, and the reference that stands inside it if there
is one. -/
inductive RefRecord.Spelled : Members → RefRecord → Prop where
  | innermost {ms : Members} {kind : Kind} {name : Option Text}
    (hkind : Form.required .kind (given? "kind" "kind" ms) kind)
    (hname : Form.maybe .text (given? "name" "name" ms) name)
    (hnone : given? "ofType" "of_type" ms = none ∨ given? "ofType" "of_type" ms = some .null) :
    Spelled ms ⟨kind, name, none⟩
  | around {ms inside : Members} {kind : Kind} {name : Option Text} {inner : RefRecord}
    (hkind : Form.required .kind (given? "kind" "kind" ms) kind)
    (hname : Form.maybe .text (given? "name" "name" ms) name)
    (hsome : given? "ofType" "of_type" ms = some (.object inside)) (hinner : Spelled inside inner) :
    Spelled ms ⟨kind, name, some inner⟩

/-- Induction on what stands inside of references. -/
@[elab_as_elim, induction_eliminator]
theorem RefRecord.induction {motive : RefRecord → Prop}
    (innermost : ∀ kind name, motive ⟨kind, name, none⟩)
    (around : ∀ kind name inner, motive inner → motive ⟨kind, name, some inner⟩) : ∀ r, motive r
  | ⟨kind, name, none⟩ => innermost kind name
  | ⟨kind, name, some inner⟩ => around kind name inner (induction innermost around inner)

/-- How many references a reference is made of, itself included. -/
def RefRecord.depth : RefRecord → Nat
  | mk _ _ none => 1
  | mk _ _ (some inner) => inner.depth + 1

/-- The form of references. -/
def Form.ref : Form RefRecord := .object RefRecord.Spelled

/-- The form of references that are nested to some depth at most. -/
def Form.refWithin (depth : Nat) : Form RefRecord :=
  .object fun ms r => r.Spelled ms ∧ r.depth ≤ depth

section Records

variable (ref : Form RefRecord)

/-- An argument or input field. -/
structure InputRecord.Spelled (ms : Members) (r : InputRecord) : Prop where
  name : Form.required .text (given? "name" "name" ms) r.name
  description : Form.maybe .text (given? "description" "description" ms) r.description
  type : Form.required ref (given? "type" "type" ms) r.type
  defaultValue : Form.maybe .text (given? "defaultValue" "default_value" ms) r.defaultValue

/-- A field. -/
structure FieldRecord.Spelled (ms : Members) (r : FieldRecord) : Prop where
  name : Form.required .text (given? "name" "name" ms) r.name
  description : Form.maybe .text (given? "description" "description" ms) r.description
  args : Form.optional (.array (.object (InputRecord.Spelled ref))) [] (given? "args" "args" ms)
    r.args
  type : Form.required ref (given? "type" "type" ms) r.type
  isDeprecated : Form.optional .boolean false (given? "isDeprecated" "is_deprecated" ms)
    r.isDeprecated
  deprecationReason : Form.maybe .text (given? "deprecationReason" "deprecation_reason" ms)
    r.deprecationReason

/-- A value of an enumeration. -/
structure EnumValueRecord.Spelled (ms : Members) (r : EnumValueRecord) : Prop where
  name : Form.required .text (given? "name" "name" ms) r.name
  description : Form.maybe .text (given? "description" "description" ms) r.description
  isDeprecated : Form.optional .boolean false (given? "isDeprecated" "is_deprecated" ms)
    r.isDeprecated
  deprecationReason : Form.maybe .text (given? "deprecationReason" "deprecation_reason" ms)
    r.deprecationReason

/-- A named type. -/
structure TypeRecord.Spelled (ms : Members) (r : TypeRecord) : Prop where
  kind : Form.required .kind (given? "kind" "kind" ms) r.kind
  name : Form.required .text (given? "name" "name" ms) r.name
  description : Form.maybe .text (given? "description" "description" ms) r.description
  fields : Form.maybe (.array (.object (FieldRecord.Spelled ref))) (given? "fields" "fields" ms)
    r.fields
  inputFields : Form.maybe (.array (.object (InputRecord.Spelled ref)))
    (given? "inputFields" "input_fields" ms) r.inputFields
  interfaces : Form.maybe (.array ref) (given? "interfaces" "interfaces" ms) r.interfaces
  enumValues : Form.maybe (.array (.object EnumValueRecord.Spelled))
    (given? "enumValues" "enum_values" ms) r.enumValues
  possibleTypes : Form.maybe (.array ref) (given? "possibleTypes" "possible_types" ms)
    r.possibleTypes

/-- The type at which operations start: its name. -/
def RootSpelled (ms : Members) (name : Text) : Prop :=
  Form.required .text (given? "name" "name" ms) name

/-- A schema. -/
structure SchemaRecord.Spelled (ms : Members) (r : SchemaRecord) : Prop where
  queryType : Form.maybe (.object RootSpelled) (given? "queryType" "query_type" ms) r.queryType
  mutationType : Form.maybe (.object RootSpelled) (given? "mutationType" "mutation_type" ms)
    r.mutationType
  subscriptionType : Form.maybe (.object RootSpelled)
    (given? "subscriptionType" "subscription_type" ms) r.subscriptionType
  types : Form.optional (.array (.object (TypeRecord.Spelled ref))) [] (given? "types" "types" ms)
    r.types

end Records

end GraphBind.Introspection
