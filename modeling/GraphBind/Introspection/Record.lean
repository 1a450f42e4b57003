import GraphBind.Entries
import GraphBind.Introspection.Issue
import GraphBind.Schema.Basic

/-!
# Introspection records

A document is read against a declared shape, and everything that is wrong with it is reported, in
the order in which the shape declares its parts. So two checks combine to a value only if both give
one, and otherwise to the issues of both (`Checked`).

The shape of the `__schema` object that a service answers an introspection query with declares only
what a schema is made of; other members are ignored. A member whose key is written in mixed case may
be given in its second spelling, with underscores. References stand inside each other only so deep.
-/

/-! ## Checked reading -/

namespace GraphBind.Introspection

/-- The outcome of a check. -/
inductive Checked (α : Type) where
  | value (a : α)
  | issues (found : List Issue)
  deriving Repr

namespace Checked

/-- Combines a checked function and its checked argument; the issues of both are kept. -/
def ap {α β : Type} : Checked (α → β) → Checked α → Checked β
  | value f, value a => value (f a)
  | value _, issues found => issues found
  | issues found, value _ => issues found
  | issues found, issues more => issues (found ++ more)

instance : Applicative Checked where
  pure := value
  seq f x := ap f (x ())

/-- One issue. -/
def issue {α : Type} (location : Location) (kind : IssueKind) (found : Json) : Checked α :=
  issues [⟨location, kind, found⟩]

end Checked

/-- Reads a part of a document that stands at a location. -/
abbrev Reader (α : Type) := Location → Json → Checked α

/-- The members of an object. -/
abbrev Members := List (Text × Json)

/-- A text. -/
def readText : Reader Text
  | _, .scalar (.str s) => .value s
  | loc, d => .issue loc .notText d

/-- A text that is one of some words, or stands for one. -/
def readWord {α : Type} (word? : String → Option α) (otherwise : IssueKind) (t : Text) : Reader α
  | loc, d =>
    match t.string? with
    | none => .issue loc .surrogates d
    | some s =>
      match word? s with
      | some a => .value a
      | none => .issue loc otherwise d

/-- The name of a kind. -/
def readKind : Reader Kind
  | loc, .scalar (.str s) => readWord Kind.ofName? .notAKind s loc (.scalar (.str s))
  | loc, d => .issue loc .notAKind d

/-- The texts that are read as true. -/
def trueTexts : List String := ["true", "t", "yes", "y", "on", "1"]

/-- The texts that are read as false. -/
def falseTexts : List String := ["false", "f", "no", "n", "off", "0"]

/-- The truth value that an integer or a text stands for. -/
def booleanOfInt? (n : Int) : Option Bool :=
  if n = 1 then some true else if n = 0 then some false else none

/-- The truth value of a text, whatever the case of its letters. -/
def booleanOfText? (s : String) : Option Bool :=
  let word := String.ofList (s.toList.map Char.toLower)
  if trueTexts.contains word then some true
  else if falseTexts.contains word then some false
  else none

/-- The least integer of 64 bits. -/
def leastSmall : Int := -9223372036854775808

/-- Whether an integer fits into 64 bits. -/
def isSmall (n : Int) : Bool := leastSmall ≤ n && n < -leastSmall

/-- The integer that a floating-point number is, if it lies above the least one of 64 bits. -/
def smallInt? (x : Decimal.Binary64) : Option Int := x.toInt?.filter (leastSmall < ·)

/-- A truth value, or a number or text that stands for one. -/
def readBoolean : Reader Bool
  | loc, d =>
    match d with
    | .scalar (.bool b) => .value b
    | .scalar (.str s) => readWord booleanOfText? .unreadableBoolean s loc d
    | .scalar (.int n) => ofInt loc d (some n)
    | .scalar (.float x) => ofInt loc d (smallInt? x)
    | d => .issue loc .notABoolean d
where
  ofInt (loc : Location) (d : Json) : Option Int → Checked Bool
    | none => .issue loc .notABoolean d
    | some n =>
      match booleanOfInt? n with
      | some b => .value b
      | none => .issue loc (if isSmall n then .unreadableBoolean else .notABoolean) d

/-- Null, or what `read` reads. -/
def nullable {α : Type} (read : Reader α) : Reader (Option α)
  | _, .null => .value none
  | loc, d => some <$> read loc d

/-- Items from an index on, each at its own location. -/
def readItems {α : Type} (read : Reader α) (loc : Location) (index : Nat) :
    List Json → Checked (List α)
  | [] => .value []
  | d :: ds =>
    List.cons <$> read (loc ++ [toString index]) d <*> readItems read loc (index + 1) ds

/-- An array. -/
def array {α : Type} (read : Reader α) : Reader (List α)
  | loc, .array items => readItems read loc 0 items
  | loc, d => .issue loc .notAList d

/-- An object that is read as a shape. -/
def object {α : Type} (shape : String) (read : Location → Members → Checked α) : Reader α
  | loc, .object members => read loc members
  | loc, d => .issue loc (.notAnObject shape) d

/-- The member with a key, or else the one with its second spelling, and the key that it has. -/
def member? (key spelling : String) (members : Members) : Option (String × Json) :=
  [key, spelling].findSome? fun found =>
    (Entries.get? (Text.ofString found) members).map (found, ·)

/-- A member that has to be there. -/
def required {α : Type} (key : String) (read : Reader α) (loc : Location) (members : Members) :
    Checked α :=
  match Entries.get? (Text.ofString key) members with
  | some d => read (loc ++ [key]) d
  | none => .issue (loc ++ [key]) .missing (.object members)

/-- A member that may be left out, under either spelling. -/
def optional {α : Type} (key spelling : String) (default : α) (read : Reader α) (loc : Location)
    (members : Members) : Checked α :=
  match member? key spelling members with
  | some (found, d) => read (loc ++ [found]) d
  | none => .value default

/-- A member that may be left out or null. -/
def maybe {α : Type} (key spelling : String) (read : Reader α) (loc : Location)
    (members : Members) : Checked (Option α) :=
  optional key spelling none (nullable read) loc members

/-! ## Records -/

/-- A reported reference to a type. -/
inductive RefRecord where
  | mk (kind : Kind) (name : Option Text) (ofType : Option RefRecord)
  deriving Repr

/-- A reported argument or input field. -/
structure InputRecord where
  name : Text
  description : Option Text
  type : RefRecord
  defaultValue : Option Text

/-- A reported field. -/
structure FieldRecord where
  name : Text
  description : Option Text
  args : List InputRecord
  type : RefRecord
  isDeprecated : Bool
  deprecationReason : Option Text

/-- A reported value of an enumeration. -/
structure EnumValueRecord where
  name : Text
  description : Option Text
  isDeprecated : Bool
  deprecationReason : Option Text

/-- A reported type. -/
structure TypeRecord where
  kind : Kind
  name : Text
  description : Option Text
  fields : Option (List FieldRecord)
  inputFields : Option (List InputRecord)
  interfaces : Option (List RefRecord)
  enumValues : Option (List EnumValueRecord)
  possibleTypes : Option (List RefRecord)

/-- A reported schema; the roots are names. -/
structure SchemaRecord where
  queryType : Option Text
  mutationType : Option Text
  subscriptionType : Option Text
  types : List TypeRecord

/-- The most references that one stands inside of, itself included. -/
def depthLimit : Nat := 254

/-- Reads a reference to a type inside of which at most so many others stand, with it. -/
def readRefWithin : Nat → Reader RefRecord
  | 0 => fun loc d => .issue loc .nestedTooDeep d
  | depth + 1 =>
    object "WireTypeRef" fun loc members =>
      RefRecord.mk <$> required "kind" readKind loc members
        <*> maybe "name" "name" readText loc members
        <*> maybe "ofType" "of_type" (readRefWithin depth) loc members

/-- Reads a reference to a type. -/
def readRef : Reader RefRecord := readRefWithin depthLimit

/-- Reads an argument or input field. -/
def readInput : Reader InputRecord :=
  object "WireInputValue" fun loc members =>
    InputRecord.mk <$> required "name" readText loc members
      <*> maybe "description" "description" readText loc members
      <*> required "type" readRef loc members
      <*> maybe "defaultValue" "default_value" readText loc members

/-- Reads a field. -/
def readField : Reader FieldRecord :=
  object "WireField" fun loc members =>
    FieldRecord.mk <$> required "name" readText loc members
      <*> maybe "description" "description" readText loc members
      <*> optional "args" "args" [] (array readInput) loc members
      <*> required "type" readRef loc members
      <*> optional "isDeprecated" "is_deprecated" false readBoolean loc members
      <*> maybe "deprecationReason" "deprecation_reason" readText loc members

/-- Reads a value of an enumeration. -/
def readEnumValue : Reader EnumValueRecord :=
  object "WireEnumValue" fun loc members =>
    EnumValueRecord.mk <$> required "name" readText loc members
      <*> maybe "description" "description" readText loc members
      <*> optional "isDeprecated" "is_deprecated" false readBoolean loc members
      <*> maybe "deprecationReason" "deprecation_reason" readText loc members

/-- Reads a named type. -/
def readType : Reader TypeRecord :=
  object "WireType" fun loc members =>
    TypeRecord.mk <$> required "kind" readKind loc members
      <*> required "name" readText loc members
      <*> maybe "description" "description" readText loc members
      <*> maybe "fields" "fields" (array readField) loc members
      <*> maybe "inputFields" "input_fields" (array readInput) loc members
      <*> maybe "interfaces" "interfaces" (array readRef) loc members
      <*> maybe "enumValues" "enum_values" (array readEnumValue) loc members
      <*> maybe "possibleTypes" "possible_types" (array readRef) loc members

/-- Reads the type at which operations start: its name. -/
def readRoot : Reader Text := object "WireRootType" (required "name" readText)

/-- Reads the members of a `__schema` object. -/
def readSchema (members : Members) : Checked SchemaRecord :=
  SchemaRecord.mk <$> maybe "queryType" "query_type" readRoot [] members
    <*> maybe "mutationType" "mutation_type" readRoot [] members
    <*> maybe "subscriptionType" "subscription_type" readRoot [] members
    <*> optional "types" "types" [] (array readType) [] members

end GraphBind.Introspection
