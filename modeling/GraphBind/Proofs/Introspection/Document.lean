import GraphBind.Proofs.Introspection.Listing

/-!
# Documents of schemas

Every schema has a document, in which all members are there, under their keys, with null where there
is nothing. The document spells the record of the schema, with references that are nested as deep as
those of the schema (`Schema.spelled_document`), and the record lists the schema
(`Schema.lists_record`); so the document does (`Schema.lists_document`).

A document that lists a schema in which no type is mentioned by an empty name, however it is
rewritten, is read as that schema (`Schema.ofResponse_of_lists`), unless a reference in it is nested
too deep (`Schema.ofResponse_nestedSchema_ne`).
-/

namespace GraphBind

open Introspection

/-! ## Documents -/

/-- The document of a text. -/
def textDocument (t : Text) : Json := .scalar (.str t)

/-- The document of what may be there: null, if it is not. -/
def optionDocument {α : Type} (document : α → Json) : Option α → Json
  | none => .null
  | some a => document a

/-- The document of a text that may be there. -/
def textDocument? : Option Text → Json := optionDocument textDocument

/-- The documents of all elements of a list. -/
def listDocument {α : Type} (document : α → Json) (as : List α) : Json := .array (as.map document)

/-- The document of a kind. -/
def kindDocument (k : Kind) : Json := textDocument k.name

/-- How many references a reference is made of, itself included. -/
def TypeRef.depth : TypeRef → Nat
  | named _ => 1
  | list inner => inner.depth + 1
  | nonNull inner => inner.depth + 1

/-- The document of a reference. The kind of the innermost type plays no part: it is a scalar here.
-/
def TypeRef.document : TypeRef → Json
  | named n => .object [("kind", kindDocument .scalar), ("name", textDocument n), ("ofType", .null)]
  | list t => .object [("kind", kindDocument .list), ("name", .null), ("ofType", t.document)]
  | nonNull t => .object [("kind", kindDocument .nonNull), ("name", .null), ("ofType", t.document)]

/-- The record of a reference. -/
def TypeRef.record : TypeRef → RefRecord
  | named n => ⟨.scalar, some n, none⟩
  | list t => ⟨.list, none, some t.record⟩
  | nonNull t => ⟨.nonNull, none, some t.record⟩

/-- The document of a name. -/
def nameDocument (n : Text) : Json := (TypeRef.named n).document

/-- The record of a name. -/
def nameRecord (n : Text) : RefRecord := (TypeRef.named n).record

/-- The document of an argument or input field. -/
def Argument.document (a : Argument) : Json :=
  .object [("name", textDocument a.name), ("description", textDocument? a.description),
    ("type", a.type.document), ("defaultValue", textDocument? a.default)]

/-- The record of an argument or input field. -/
def Argument.record (a : Argument) : InputRecord :=
  ⟨a.name, a.description, a.type.record, a.default⟩

/-- The document of a field. -/
def Field.document (f : Field) : Json :=
  .object [("name", textDocument f.name), ("description", textDocument? f.description),
    ("args", listDocument Argument.document f.arguments), ("type", f.type.document),
    ("isDeprecated", .scalar (.bool f.isDeprecated)),
    ("deprecationReason", textDocument? f.deprecationReason)]

/-- The record of a field. -/
def Field.record (f : Field) : FieldRecord :=
  ⟨f.name, f.description, f.arguments.map Argument.record, f.type.record, f.isDeprecated,
    f.deprecationReason⟩

/-- The document of a value of an enumeration. -/
def EnumValue.document (v : EnumValue) : Json :=
  .object [("name", textDocument v.name), ("description", textDocument? v.description),
    ("isDeprecated", .scalar (.bool v.isDeprecated)),
    ("deprecationReason", textDocument? v.deprecationReason)]

/-- The record of a value of an enumeration. -/
def EnumValue.record (v : EnumValue) : EnumValueRecord :=
  ⟨v.name, v.description, v.isDeprecated, v.deprecationReason⟩

namespace Body

/-- The fields of an object or interface. -/
def fields? : Body → Option (List Field)
  | object fields _ => some fields
  | interface fields _ => some fields
  | _ => none

/-- The fields of an input object. -/
def inputFields? : Body → Option (List Argument)
  | inputObject fields => some fields
  | _ => none

/-- The interfaces of an object. -/
def interfaces? : Body → Option (List Text)
  | object _ interfaces => some interfaces
  | _ => none

/-- The values of an enumeration. -/
def values? : Body → Option (List EnumValue)
  | enumeration values => some values
  | _ => none

/-- The possible types of an interface, or the members of a union. -/
def possibleTypes? : Body → Option (List Text)
  | interface _ possibleTypes => some possibleTypes
  | union members => some members
  | _ => none

end Body

/-- The document of a named type. -/
def Definition.document (d : Definition) : Json :=
  .object [("kind", kindDocument d.kind), ("name", textDocument d.name),
    ("description", textDocument? d.description),
    ("fields", optionDocument (listDocument Field.document) d.body.fields?),
    ("inputFields", optionDocument (listDocument Argument.document) d.body.inputFields?),
    ("interfaces", optionDocument (listDocument nameDocument) d.body.interfaces?),
    ("enumValues", optionDocument (listDocument EnumValue.document) d.body.values?),
    ("possibleTypes", optionDocument (listDocument nameDocument) d.body.possibleTypes?)]

/-- The record of a named type. -/
def Definition.record (d : Definition) : TypeRecord where
  kind := d.kind
  name := d.name
  description := d.description
  fields := d.body.fields?.map (·.map Field.record)
  inputFields := d.body.inputFields?.map (·.map Argument.record)
  interfaces := d.body.interfaces?.map (·.map nameRecord)
  enumValues := d.body.values?.map (·.map EnumValue.record)
  possibleTypes := d.body.possibleTypes?.map (·.map nameRecord)

/-- The document of a type at which operations start. -/
def rootDocument (name : Text) : Json := .object [("name", textDocument name)]

/-- The document of a schema. -/
def Schema.document (s : Schema) : Json :=
  .object [("queryType", optionDocument rootDocument s.roots.query),
    ("mutationType", optionDocument rootDocument s.roots.mutation),
    ("subscriptionType", optionDocument rootDocument s.roots.subscription),
    ("types", listDocument Definition.document s.types)]

/-- The record of a schema. -/
def Schema.record (s : Schema) : SchemaRecord where
  queryType := s.roots.query
  mutationType := s.roots.mutation
  subscriptionType := s.roots.subscription
  types := s.types.map Definition.record

/-! ## What documents spell -/

namespace Introspection

variable {α β : Type} {document : α → Json} {record : α → β} {form : Form β}

theorem nullable_optionDocument {a? : Option α} (h : ∀ a ∈ a?, form (document a) (record a))
    (hnull : ∀ a, document a ≠ .null) :
    Form.nullable form (optionDocument document a?) (a?.map record) := by
  cases a? with
  | none => rfl
  | some a => exact ⟨hnull a, h a rfl⟩

theorem array_listDocument {as : List α} (h : ∀ a ∈ as, form (document a) (record a)) :
    Form.array form (listDocument document as) (as.map record) := by
  refine ⟨_, rfl, ?_⟩
  rw [List.forall₂_map_left_iff, List.forall₂_map_right_iff, List.forall₂_same]
  exact h

theorem maybe_text (t? : Option Text) : Form.maybe .text (some (textDocument? t?)) t? := by
  cases t? with
  | none => rfl
  | some t => exact ⟨Json.noConfusion, rfl⟩

theorem maybe_array {as? : Option (List α)}
    (h : ∀ as ∈ as?, ∀ a ∈ as, form (document a) (record a)) :
    Form.maybe (.array form) (some (optionDocument (listDocument document) as?))
      (as?.map (·.map record)) :=
  nullable_optionDocument (fun as has => array_listDocument (h as has)) fun _ => Json.noConfusion

end Introspection

theorem TypeRef.document_ne_null (t : TypeRef) : t.document ≠ .null := by
  cases t <;> exact Json.noConfusion

/-- By induction on the reference: every reference inside of another spends one of the depth. -/
theorem TypeRef.refWithin_document {t : TypeRef} {depth : Nat} (h : t.depth ≤ depth) :
    Form.refWithin depth t.document t.record := by
  induction t generalizing depth with
  | named n =>
    cases depth with
    | zero => cases h
    | succ depth => exact refWithin_succ_iff.mpr ⟨rfl, maybe_text (some n), rfl⟩
  | list t ih =>
    cases depth with
    | zero => cases h
    | succ depth =>
      exact refWithin_succ_iff.mpr ⟨rfl, maybe_text none, t.document_ne_null,
        ih (Nat.le_of_succ_le_succ h)⟩
  | nonNull t ih =>
    cases depth with
    | zero => cases h
    | succ depth =>
      exact refWithin_succ_iff.mpr ⟨rfl, maybe_text none, t.document_ne_null,
        ih (Nat.le_of_succ_le_succ h)⟩

section Spelled

variable {depth : Nat}

theorem Argument.spelled_document {a : Argument} (h : a.type.depth ≤ depth) :
    Form.object (InputRecord.Spelled (.refWithin depth)) a.document a.record :=
  ⟨_, rfl, rfl, maybe_text a.description, TypeRef.refWithin_document h, maybe_text a.default⟩

theorem Field.spelled_document {f : Field} (h : f.Each (·.depth ≤ depth)) :
    Form.object (FieldRecord.Spelled (.refWithin depth)) f.document f.record :=
  ⟨_, rfl, rfl, maybe_text f.description,
    array_listDocument fun a ha => Argument.spelled_document (h.arguments a ha),
    TypeRef.refWithin_document h.type, .bool f.isDeprecated, maybe_text f.deprecationReason⟩

theorem EnumValue.spelled_document (v : EnumValue) :
    Form.object EnumValueRecord.Spelled v.document v.record :=
  ⟨_, rfl, rfl, maybe_text v.description, .bool v.isDeprecated, maybe_text v.deprecationReason⟩

theorem Body.Each.of_mem_fields? {b : Body} {p : TypeRef → Prop} {q : Text → Prop}
    (h : b.Each p q) : ∀ fs ∈ b.fields?, ∀ f ∈ fs, f.Each p := by
  cases b with
  | object fields interfaces => exact fun fs hfs => Option.some.inj hfs ▸ h.1
  | interface fields possibleTypes => exact fun fs hfs => Option.some.inj hfs ▸ h.1
  | _ => exact fun fs hfs => nomatch hfs

theorem Body.Each.of_mem_inputFields? {b : Body} {p : TypeRef → Prop} {q : Text → Prop}
    (h : b.Each p q) : ∀ as ∈ b.inputFields?, ∀ a ∈ as, p a.type := by
  cases b with
  | inputObject fields => exact fun as has => Option.some.inj has ▸ h
  | _ => exact fun as has => nomatch has

theorem refWithin_nameDocument (h : 0 < depth) (n : Text) :
    Form.refWithin depth (nameDocument n) (nameRecord n) :=
  TypeRef.refWithin_document (t := .named n) h

theorem maybe_rootDocument (name? : Option Text) :
    Form.maybe (.object RootSpelled) (some (optionDocument rootDocument name?)) name? := by
  cases name? with
  | none => rfl
  | some name => exact ⟨Json.noConfusion, _, rfl, rfl⟩

/-- The document of a type spells its record, if no reference in it is nested deeper than that. -/
theorem Definition.spelled_document {d : Definition} {q : Text → Prop} (hdepth : 0 < depth)
    (h : d.body.Each (·.depth ≤ depth) q) :
    Form.object (TypeRecord.Spelled (.refWithin depth)) d.document d.record :=
  ⟨_, rfl, rfl, rfl, maybe_text d.description,
    maybe_array fun fs hfs f hf => Field.spelled_document (h.of_mem_fields? fs hfs f hf),
    maybe_array fun as has a ha => Argument.spelled_document (h.of_mem_inputFields? as has a ha),
    maybe_array fun _ _ n _ => refWithin_nameDocument hdepth n,
    maybe_array fun _ _ v _ => v.spelled_document,
    maybe_array fun _ _ n _ => refWithin_nameDocument hdepth n⟩

theorem Schema.spelled_document {s : Schema} {q : Text → Prop} (hdepth : 0 < depth)
    (h : ∀ d ∈ s.types, d.body.Each (·.depth ≤ depth) q) :
    Form.object (SchemaRecord.Spelled (.refWithin depth)) s.document s.record :=
  ⟨_, rfl, maybe_rootDocument s.roots.query, maybe_rootDocument s.roots.mutation,
    maybe_rootDocument s.roots.subscription,
    array_listDocument fun d hd => Definition.spelled_document hdepth (h d hd)⟩

end Spelled

/-! ## What records list -/

/-- The records of the elements of a list, one by one. -/
theorem forall₂_map_self {α β : Type} {R : β → α → Prop} {record : α → β}
    (h : ∀ a, R (record a) a) (as : List α) : List.Forall₂ R (as.map record) as :=
  List.forall₂_map_left_iff.mpr (List.forall₂_same.mpr fun a _ => h a)

theorem TypeRef.lists_record (t : TypeRef) : t.record.Lists t := by
  induction t with
  | named n => exact .named (by unfold Kind.Wraps; decide)
  | list t ih => exact .wrapping .list ih
  | nonNull t ih => exact .wrapping .nonNull ih

theorem lists_nameRecord (n : Text) : (nameRecord n).ListsName n := rfl

theorem Argument.lists_record (a : Argument) : a.record.Lists a :=
  ⟨rfl, a.type.lists_record, rfl, rfl⟩

theorem Field.lists_record (f : Field) : f.record.Lists f :=
  ⟨rfl, f.type.lists_record, rfl, forall₂_map_self Argument.lists_record f.arguments, rfl, rfl⟩

theorem EnumValue.lists_record (v : EnumValue) : v.record.Lists v := ⟨rfl, rfl, rfl, rfl⟩

/-- The record of a type lists its body. -/
theorem Definition.listsBody_record (d : Definition) : d.record.ListsBody d.body := by
  obtain ⟨name, description, body⟩ := d
  cases body with
  | scalar => trivial
  | object fields interfaces =>
    exact ⟨forall₂_map_self Field.lists_record fields,
      forall₂_map_self lists_nameRecord interfaces⟩
  | interface fields possibleTypes =>
    exact ⟨forall₂_map_self Field.lists_record fields,
      forall₂_map_self lists_nameRecord possibleTypes⟩
  | union members => exact forall₂_map_self lists_nameRecord members
  | enumeration values => exact forall₂_map_self EnumValue.lists_record values
  | inputObject fields => exact forall₂_map_self Argument.lists_record fields

theorem Definition.lists_record (d : Definition) : d.record.Lists d :=
  ⟨rfl, rfl, rfl, d.listsBody_record⟩

theorem Schema.lists_record (s : Schema) : s.record.Lists s :=
  ⟨rfl, rfl, rfl, forall₂_map_self Definition.lists_record s.types⟩

/-- A schema is listed by its document. -/
theorem Schema.lists_document {s : Schema} {depth : Nat} {q : Text → Prop} (hdepth : 0 < depth)
    (h : ∀ d ∈ s.types, d.body.Each (·.depth ≤ depth) q) : Lists (.refWithin depth) s.document s :=
  ⟨s.record, Schema.spelled_document hdepth h, s.lists_record⟩

/-! ## Nested lists -/

/-- A list of lists of lists, and so on, of integers. -/
def TypeRef.nested : Nat → TypeRef
  | 0 => .named "Int"
  | n + 1 => .list (nested n)

/-- A schema with one type, that has one field, that is such a list. -/
def Schema.nested (n : Nat) : Schema where
  types := [⟨"T", none, .object [⟨"f", .nested n, none, [], false, none⟩] []⟩]
  roots := ⟨none, none, none⟩

theorem TypeRef.typeName_nested (n : Nat) : (TypeRef.nested n).typeName = "Int" := by
  induction n with
  | zero => rfl
  | succ n ih => exact ih

theorem Schema.each_nested {n : Nat} {p : TypeRef → Prop} {q : Text → Prop}
    (h : p (.nested n)) : ∀ d ∈ (Schema.nested n).types, d.body.Each p q := by
  rintro d (_ | ⟨_, ⟨⟩⟩)
  refine ⟨?_, fun n hn => nomatch hn⟩
  rintro f (_ | ⟨_, ⟨⟩⟩)
  exact ⟨h, fun a ha => nomatch ha⟩

theorem Schema.named_nested (n : Nat) : (Schema.nested n).Named := by
  refine each_nested ?_
  rw [TypeRef.typeName_nested]
  decide

theorem Introspection.RefRecord.lists_nested (n : Nat) : (nested n).Lists (.nested n) := by
  induction n with
  | zero => exact .named (by unfold Kind.Wraps; decide)
  | succ n ih => exact .wrapping .list ih

theorem Introspection.SchemaRecord.lists_nested (n : Nat) : (nested n).Lists (.nested n) := by
  refine ⟨rfl, rfl, rfl, .cons ⟨rfl, rfl, rfl, ?_, .nil⟩ .nil⟩
  exact .cons ⟨rfl, RefRecord.lists_nested n, rfl, .nil, rfl, rfl⟩ .nil

/-! ## Responses -/

namespace Schema

variable {s : Schema} {d d' : Json}

/-- A response that holds the object of a schema, either in `data` or by itself, is read as what the
object makes. -/
theorem ofResponse_eq_ok_iff {ms : Members} :
    (ofResponse (.object [("data", .object [("__schema", .object ms)])]) = .ok s ↔
      ofMembers ms = .ok s) ∧
    (ofResponse (.object [("__schema", .object ms)]) = .ok s ↔ ofMembers ms = .ok s) :=
  ⟨mapError_eq_ok_iff, mapError_eq_ok_iff⟩

/-- **Reading undoes listing.** Let a document list a schema in which no type is mentioned by an
empty name, and nest no reference deeper than `depthLimit`. However it is rewritten, a response that
holds it, either in `data` or by itself, is read as the schema. -/
theorem ofResponse_of_lists (hs : s.Named) (hd : Lists (.refWithin depthLimit) d s)
    (hrewrites : Relation.ReflTransGen (Rewrite .schema) d d') :
    ofResponse (.object [("data", .object [("__schema", d')])]) = .ok s ∧
    ofResponse (.object [("__schema", d')]) = .ok s := by
  obtain ⟨r, hform, hlists⟩ := hd
  have hform' : Shape.schema.form depthLimit d' r := form_of_rewrites hrewrites hform
  obtain ⟨ms, rfl, hspelled⟩ := hform'
  have hms : ofMembers ms = .ok s := ofMembers_eq_ok_iff.mpr ⟨r, hspelled, hlists.toSchema hs⟩
  exact ⟨ofResponse_eq_ok_iff.1.mpr hms, ofResponse_eq_ok_iff.2.mpr hms⟩

/-- One type with a field that is a list of integers, and the root of queries. -/
def ofLists : Schema := { nested 1 with roots := ⟨some "T", none, none⟩ }

/-- The document of `ofLists`, without the null at the root of mutations, with one more member in
the type, and with a key of the reference in its second spelling. -/
def ofListsRewritten : Json :=
  .object [("queryType", rootDocument "T"), ("subscriptionType", .null),
    ("types", .array [.object [("kind", kindDocument .object), ("name", textDocument "T"),
      ("specifiedByURL", .null), ("description", .null),
      ("fields", .array [.object [("name", textDocument "f"), ("description", .null),
        ("args", .array []),
        ("type", .object [("kind", kindDocument .list), ("name", .null),
          ("of_type", (TypeRef.named "Int").document)]),
        ("isDeprecated", .scalar (.bool false)), ("deprecationReason", .null)]]),
      ("inputFields", .null), ("interfaces", .array []), ("enumValues", .null),
      ("possibleTypes", .null)]])]

theorem ofLists_rewrites :
    Relation.ReflTransGen (Rewrite .schema) ofLists.document ofListsRewritten := by
  refine .head (@Rewrite.drop .schema ⟨"mutationType", "mutation_type", true, some .root⟩
    "mutationType" [("queryType", rootDocument "T")]
    [("subscriptionType", .null), ("types", listDocument Definition.document ofLists.types)]
    (by decide) rfl (by decide) (by decide)) ?_
  refine .head (@Rewrite.member .schema .type ⟨"types", "types", false, some .type⟩ "types"
    [("queryType", rootDocument "T"), ("subscriptionType", .null)] [] _ _
    (by decide) (by decide) rfl (@Rewrite.item .type [] [] _ _ (@Rewrite.add .type "specifiedByURL"
      [("kind", kindDocument .object), ("name", textDocument "T")] _ .null (by decide)))) ?_
  refine .single (@Rewrite.member .schema .type ⟨"types", "types", false, some .type⟩ "types"
    [("queryType", rootDocument "T"), ("subscriptionType", .null)] [] _ _
    (by decide) (by decide) rfl (@Rewrite.item .type [] [] _ _
      (@Rewrite.member .type .field ⟨"fields", "fields", true, some .field⟩ "fields"
        [_, _, _, _] _ _ _ (by decide) (by decide) rfl (@Rewrite.item .field [] [] _ _
          (@Rewrite.member .field .ref ⟨"type", "type", false, some .ref⟩ "type"
            [_, _, _] _ _ _ (by decide) (by decide) rfl
            (@Rewrite.respell .ref ⟨"ofType", "of_type", true, some .ref⟩
              [("kind", kindDocument .list), ("name", .null)] [] _ (by decide) (by decide)))))))

theorem ofResponse_ofLists : ofLists.Named ∧
    Lists (.refWithin depthLimit) ofLists.document ofLists ∧
    Relation.ReflTransGen (Rewrite .schema) ofLists.document ofListsRewritten ∧
    ofResponse (.object [("data", .object [("__schema", ofListsRewritten)])]) = .ok ofLists ∧
    ofResponse (.object [("__schema", ofListsRewritten)]) = .ok ofLists := by
  have hnamed : ofLists.Named := named_nested 1
  have hlists : Lists (.refWithin depthLimit) ofLists.document ofLists :=
    lists_document (q := fun _ => True) (by decide) (each_nested (by decide))
  exact ⟨hnamed, hlists, ofLists_rewrites, ofResponse_of_lists hnamed hlists ofLists_rewrites⟩

/-- A document with one reference too deep: it lists a schema, and is not read as that. -/
theorem ofResponse_nestedSchema_ne : (nested 254).Named ∧
    Lists .ref (.object (nestedSchema 254)) (nested 254) ∧
    ofResponse (.object [("__schema", .object (nestedSchema 254))]) ≠ .ok (nested 254) := by
  refine ⟨named_nested 254, ⟨_, ⟨_, rfl, spelled_nestedSchema 254⟩, SchemaRecord.lists_nested 254⟩,
    fun h => ?_⟩
  obtain ⟨r, hr, -⟩ := ofMembers_eq_ok_iff.mp (ofResponse_eq_ok_iff.2.mp h)
  exact absurd (lt_of_spelled_nestedSchema hr) (Nat.lt_irrefl depthLimit)

end Schema

end GraphBind
