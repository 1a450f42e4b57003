import GraphBind.Proofs.Introspection.Acceptance
import GraphBind.Proofs.Introspection.Rewriting

/-!
# Listings of schemas

A document lists a schema when the record that it spells does (`Lists`): the types are there in
order, each with its kind and with what its kind has, references are written from the outermost
wrapping to the name, and the roots are named. Nothing is asked of members that the kind of a type
does not have. The record of a listing stands for the schema that is listed, if no type is mentioned
by an empty name (`SchemaRecord.Lists.toSchema`).
-/

namespace GraphBind

/-! ## What is mentioned -/

/-- That the types of a field and of its arguments have a property. -/
structure Field.Each (p : TypeRef → Prop) (f : Field) : Prop where
  type : p f.type
  arguments : ∀ a ∈ f.arguments, p a.type

/-- That all the references and all the names in a body have a property. -/
def Body.Each (p : TypeRef → Prop) (q : Text → Prop) : Body → Prop
  | scalar => True
  | object fields interfaces => (∀ f ∈ fields, f.Each p) ∧ ∀ n ∈ interfaces, q n
  | interface fields possibleTypes => (∀ f ∈ fields, f.Each p) ∧ ∀ n ∈ possibleTypes, q n
  | union members => ∀ n ∈ members, q n
  | enumeration _ => True
  | inputObject fields => ∀ a ∈ fields, p a.type

/-- That all the types that are mentioned in a body are mentioned by a name that is not empty. -/
def Body.Named (b : Body) : Prop := b.Each (·.typeName ≠ []) (· ≠ [])

/-- That no type is mentioned by an empty name. -/
def Schema.Named (s : Schema) : Prop := ∀ d ∈ s.types, d.body.Named

namespace Introspection

/-! ## Listings -/

/-- A reference lists one to a type if it has the name of the type, of whatever kind that is, inside
of the wrappings. -/
inductive RefRecord.Lists : RefRecord → TypeRef → Prop where
  | named {kind : Kind} {n : Text} (hkind : ¬kind.Wraps) : Lists ⟨kind, some n, none⟩ (.named n)
  | wrapping {kind : Kind} {name : Option Text} {inner : RefRecord} {wrap : TypeRef → TypeRef}
    {t : TypeRef} (hkind : kind.Wrapper wrap) (hinner : Lists inner t) :
    Lists ⟨kind, name, some inner⟩ (wrap t)

/-- A reference lists a name if it has that name. -/
def RefRecord.ListsName (r : RefRecord) (n : Text) : Prop := r.name? = some n

/-- The members of an argument or input field. -/
structure InputRecord.Lists (r : InputRecord) (a : Argument) : Prop where
  name : r.name = a.name
  type : r.type.Lists a.type
  default : r.defaultValue = a.default
  description : r.description = a.description

/-- The members of a field. -/
structure FieldRecord.Lists (r : FieldRecord) (f : Field) : Prop where
  name : r.name = f.name
  type : r.type.Lists f.type
  description : r.description = f.description
  arguments : List.Forall₂ InputRecord.Lists r.args f.arguments
  isDeprecated : r.isDeprecated = f.isDeprecated
  deprecationReason : r.deprecationReason = f.deprecationReason

/-- The members of a value of an enumeration. -/
structure EnumValueRecord.Lists (r : EnumValueRecord) (v : EnumValue) : Prop where
  name : r.name = v.name
  description : r.description = v.description
  isDeprecated : r.isDeprecated = v.isDeprecated
  deprecationReason : r.deprecationReason = v.deprecationReason

/-- The members that the kind of a type has. -/
def TypeRecord.ListsBody (r : TypeRecord) : Body → Prop
  | .scalar => True
  | .object fields interfaces =>
    List.Forall₂ FieldRecord.Lists (r.fields.getD []) fields ∧
      List.Forall₂ RefRecord.ListsName (r.interfaces.getD []) interfaces
  | .interface fields possibleTypes =>
    List.Forall₂ FieldRecord.Lists (r.fields.getD []) fields ∧
      List.Forall₂ RefRecord.ListsName (r.possibleTypes.getD []) possibleTypes
  | .union members => List.Forall₂ RefRecord.ListsName (r.possibleTypes.getD []) members
  | .enumeration values => List.Forall₂ EnumValueRecord.Lists (r.enumValues.getD []) values
  | .inputObject fields => List.Forall₂ InputRecord.Lists (r.inputFields.getD []) fields

/-- The members of a named type. -/
structure TypeRecord.Lists (r : TypeRecord) (d : Definition) : Prop where
  kind : r.kind = d.kind
  name : r.name = d.name
  description : r.description = d.description
  body : r.ListsBody d.body

/-- The members of a schema. -/
structure SchemaRecord.Lists (r : SchemaRecord) (s : Schema) : Prop where
  queryType : r.queryType = s.roots.query
  mutationType : r.mutationType = s.roots.mutation
  subscriptionType : r.subscriptionType = s.roots.subscription
  types : List.Forall₂ TypeRecord.Lists r.types s.types

/-- That a document, with references of some form, lists a schema. -/
def Lists (ref : Form RefRecord) (d : Json) (s : Schema) : Prop :=
  ∃ r, Form.object (SchemaRecord.Spelled ref) d r ∧ r.Lists s

/-! ## What listings stand for -/

/-- A record that lists a reference makes that reference. -/
theorem RefRecord.Lists.toRef {r : RefRecord} {t : TypeRef} (h : r.Lists t)
    (ht : t.typeName ≠ []) : r.toRef = .ok t := by
  induction h with
  | named hkind => exact (toRef_eq_ok_iff_of_not_wraps hkind).mpr ⟨_, rfl, ht, rfl⟩
  | @wrapping kind name inner wrap t hkind _ ih =>
    have hname : (wrap t).typeName = t.typeName := by
      cases hkind with
      | list => rfl
      | nonNull => rfl
    rw [hname] at ht
    exact (toRef_eq_ok_iff_of_wrapper hkind).mpr ⟨inner, t, rfl, ih ht, rfl⟩

/-- Records that list names give them in order. -/
theorem namesOf_of_lists {refs : Option (List RefRecord)} {ns : List Text}
    (h : List.Forall₂ RefRecord.ListsName (refs.getD []) ns) (hns : ∀ n ∈ ns, n ≠ []) :
    namesOf refs = ns := by
  unfold namesOf
  generalize refs.getD [] = rs at h
  induction h with
  | nil => rfl
  | @cons r n rs ns hr _ ih =>
    obtain ⟨hn, hns⟩ := List.forall_mem_cons.mp hns
    have hne : (!n.isEmpty) = true := by rwa [Bool.not_eq_true', List.isEmpty_eq_false_iff]
    rw [List.filterMap_cons_some hr, List.filter_cons, if_pos hne, ih hns]

theorem InputRecord.Lists.toArgument {r : InputRecord} {a : Argument} (h : r.Lists a)
    (ha : a.type.typeName ≠ []) : r.toArgument = .ok a := by
  refine bind_eq_ok_iff.mpr ⟨a.type, h.type.toRef ha, ?_⟩
  rw [h.name, h.default, h.description]
  rfl

theorem FieldRecord.Lists.toField {r : FieldRecord} {f : Field} (h : r.Lists f)
    (hf : f.Each (·.typeName ≠ [])) : r.toField = .ok f := by
  refine bind_eq_ok_iff.mpr ⟨f.type, h.type.toRef hf.type, ?_⟩
  have harguments := mapM_eq_ok_of_forall₂ h.arguments hf.arguments fun _ _ hr => hr.toArgument
  refine bind_eq_ok_iff.mpr ⟨f.arguments, harguments, ?_⟩
  rw [h.name, h.description, h.isDeprecated, h.deprecationReason]
  rfl

theorem EnumValueRecord.Lists.toValue {r : EnumValueRecord} {v : EnumValue} (h : r.Lists v) :
    r.toValue = v := by
  unfold EnumValueRecord.toValue
  rw [h.name, h.description, h.isDeprecated, h.deprecationReason]

/-- A record that lists a body makes that body, one kind after the other. -/
theorem TypeRecord.ListsBody.toBody {r : TypeRecord} {b : Body} (hkind : r.kind = b.kind)
    (h : r.ListsBody b) (hb : b.Named) : r.toBody = .ok b := by
  unfold TypeRecord.toBody
  rw [hkind]
  cases b with
  | scalar => rfl
  | object fields interfaces =>
    obtain ⟨hfields, hinterfaces⟩ := h
    have hfs := mapM_eq_ok_of_forall₂ hfields hb.1 fun _ _ hr => hr.toField
    refine bind_eq_ok_iff.mpr ⟨fields, hfs, ?_⟩
    rw [namesOf_of_lists hinterfaces hb.2]
    rfl
  | interface fields possibleTypes =>
    obtain ⟨hfields, hpossible⟩ := h
    have hfs := mapM_eq_ok_of_forall₂ hfields hb.1 fun _ _ hr => hr.toField
    refine bind_eq_ok_iff.mpr ⟨fields, hfs, ?_⟩
    rw [namesOf_of_lists hpossible hb.2]
    rfl
  | union members =>
    show Except.ok (Body.union (namesOf r.possibleTypes)) = _
    rw [namesOf_of_lists h hb]
  | enumeration values =>
    have hvs : (r.enumValues.getD []).map EnumValueRecord.toValue = values := by
      rw [← List.forall₂_eq_eq_eq, List.forall₂_map_left_iff]
      exact List.Forall₂.imp (fun _ _ hr => hr.toValue) h
    exact congrArg (fun vs => Except.ok (Body.enumeration vs)) hvs
  | inputObject fields =>
    have hfs := mapM_eq_ok_of_forall₂ h hb fun _ _ hr => hr.toArgument
    exact bind_eq_ok_iff.mpr ⟨fields, hfs, rfl⟩

theorem TypeRecord.Lists.toDefinition {r : TypeRecord} {d : Definition} (h : r.Lists d)
    (hd : d.body.Named) : r.toDefinition = .ok d := by
  refine bind_eq_ok_iff.mpr ⟨d.body, h.body.toBody h.kind hd, ?_⟩
  rw [h.name, h.description]
  rfl

theorem SchemaRecord.Lists.toSchema {r : SchemaRecord} {s : Schema} (h : r.Lists s)
    (hs : s.Named) : r.toSchema = .ok s := by
  have htypes := mapM_eq_ok_of_forall₂ h.types hs fun _ _ hr => hr.toDefinition
  refine bind_eq_ok_iff.mpr ⟨s.types, htypes, ?_⟩
  rw [h.queryType, h.mutationType, h.subscriptionType]
  rfl

end Introspection

end GraphBind
