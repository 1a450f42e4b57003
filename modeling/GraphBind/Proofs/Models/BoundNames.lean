import GraphBind.Proofs.Models.Attributes
import GraphBind.Proofs.Models.BoundQueries
import GraphBind.Proofs.Registry.Contents

/-!
# Names in generated modules

A generated module binds the names of its types, the members of its enumerations and the attributes
of its models (`Surface.boundNames`), and it is accepted if all of these can be bound and nothing
else is wrong with it (`Surface.isValid_iff`). For a schema whose names are names of the query
language `names_bindable_iff` tells which can be: every member can, an attribute can unless its
field hides a digit behind underscores, and the name of a type can unless it is a keyword, for which
nothing is put in its place. So there are schemas of which no module can be generated: `keywordType`
and `digitField` are two.
-/

namespace GraphBind

open Text (isBindable isKeyword)

namespace Models

/-- The names that a module binds. -/
def Surface.boundNames (s : Surface) : List Text :=
  s.scalars.map (·.name) ++
  s.enumerations.flatMap (fun t => t.name :: t.values.map safeIdentifier) ++
  s.unions.map (·.name) ++
  s.models.flatMap fun t => t.name :: (attributeNames (t.fields.map (·.name))).map (·.2)

/-- That a module is accepted as far as it does not depend on the names that it binds. -/
structure Surface.AcceptedBeside (s : Surface) (r : Registry) : Prop where
  source : isOpening none (Text.normalizeLines (sourceName s.source ++ ".").toList) = true
  imports : ∀ i ∈ s.imports, isDottedName i.1 = true
  references : ∀ t ∈ s.models, ∀ f ∈ t.fields, isReferenceValid r f = true
  brackets : ∀ t ∈ s.models, ∀ f ∈ t.fields, isAnnotationShallow r f = true

/-! ## Accepted modules -/

theorem isEnumValid_iff {t : CompiledType} : isEnumValid t = true ↔
    ∀ n ∈ t.name :: t.values.map safeIdentifier, isBindable n = true := by
  have hvalue : ∀ v, isBindable (safeIdentifier v) = Text.isIdentifier (safeIdentifier v) :=
    fun v => Text.isBindable_of_not_isKeyword (isKeyword_safeIdentifier v)
  simp only [isEnumValid, Bool.and_eq_true, List.all_eq_true, List.forall_mem_cons,
    List.forall_mem_map, hvalue]

theorem isModelValid_iff {t : CompiledType} : isModelValid t = true ↔
    ∀ n ∈ t.name :: (attributeNames (t.fields.map (·.name))).map (·.2), isBindable n = true := by
  simp only [isModelValid, Bool.and_eq_true, List.all_eq_true, List.forall_mem_cons,
    List.forall_mem_map]
  refine and_congr_right fun _ => forall₂_congr fun p hp => ?_
  rw [(isAttribute_of_mem hp).1.isBindable_eq]

/-- A module is accepted if the names that it binds can be bound and the rest of it is accepted. -/
theorem Surface.isValid_iff {s : Surface} {r : Registry} : s.isValid r = true ↔
    (∀ n ∈ s.boundNames, isBindable n = true) ∧ s.AcceptedBeside r := by
  have hbound : (∀ n ∈ s.boundNames, isBindable n = true) ↔
      (∀ t ∈ s.scalars, isBindable t.name = true) ∧ (∀ t ∈ s.enumerations, isEnumValid t = true) ∧
      (∀ t ∈ s.unions, isBindable t.name = true) ∧ ∀ t ∈ s.models, isModelValid t = true := by
    simp only [boundNames, List.forall_mem_append, List.forall_mem_map, List.forall_mem_flatMap,
      isEnumValid_iff, isModelValid_iff, and_assoc]
  rw [hbound]
  simp only [isValid, Bool.and_eq_true, List.all_eq_true]
  constructor
  · rintro ⟨⟨⟨⟨⟨⟨hsource, himports⟩, hscalars⟩, henums⟩, hunions⟩, hmodels⟩, hbrackets⟩
    exact ⟨⟨hscalars, henums, hunions, fun t ht => (hmodels t ht).1⟩,
      hsource, himports, fun t ht => (hmodels t ht).2, hbrackets⟩
  · rintro ⟨⟨hscalars, henums, hunions, hmodels⟩, hsource, himports, hreferences, hbrackets⟩
    exact ⟨⟨⟨⟨⟨⟨hsource, himports⟩, hscalars⟩, henums⟩, hunions⟩,
      fun t ht => ⟨hmodels t ht, hreferences t ht⟩⟩, hbrackets⟩

end Models

open Models (Surface safeIdentifier attributeNames isModel HidesDigit)

namespace Generator

variable {g : Generator} {files : FileTree} {name s : String} {text : Text}

/-- A module is accepted only on the verdict that it is valid. -/
theorem verdict_of_accept {ε : Type} {verdict : Except ε Bool}
    (h : accept name text verdict = .ok s) : verdict = .ok true := by
  unfold accept at h
  split at h
  · cases h
  · split at h
    · cases h
    · split at h
      · rfl
      · cases h
      · cases h

/-- A module is called invalid only on the verdict that it is not. -/
theorem verdict_of_accept_invalid {ε : Type} {verdict : Except ε Bool} {template : String}
    (h : accept name text verdict = .error (.invalid template)) : verdict = .ok false := by
  unfold accept at h
  split at h
  · cases h
  · split at h
    · cases h
    · split at h
      · cases h
      · rfl
      · cases h

theorem isValid_of_render (hbuiltin : Template.IsBuiltin files g.templateDirectory)
    (h : g.render files Template.builtinName = .ok s) : g.surface.isValid g.registry = true := by
  rw [render_of_isBuiltin hbuiltin] at h
  obtain ⟨text, -, h⟩ := bind_eq_ok_iff.mp h
  exact Except.ok.inj (verdict_of_accept h)

/-- Where the layout is the built-in one, a module that is called invalid has a surface that is. -/
theorem not_isValid_of_render {template : String}
    (hbuiltin : Template.IsBuiltin files g.templateDirectory)
    (h : g.render files Template.builtinName = .error (.invalid template)) :
    g.surface.isValid g.registry = false := by
  rw [render_of_isBuiltin hbuiltin] at h
  cases htext : g.surface.toText g.registry with
  | error e =>
    rw [htext] at h
    cases h
  | ok text =>
    rw [htext] at h
    exact Except.ok.inj (verdict_of_accept_invalid h)

end Generator

/-! ## Names of a schema -/

/-- The names of the fields of a type. -/
def Body.fieldNames : Body → List Text
  | .object fields _ => fields.map (·.name)
  | .interface fields _ => fields.map (·.name)
  | .inputObject fields => fields.map (·.name)
  | _ => []

/-- The names of the values of a type. -/
def Body.valueNames : Body → List Text
  | .enumeration values => values.map (·.name)
  | _ => []

/-- That the types, fields and values of a schema have names of the query language. -/
structure Schema.Lexical (s : Schema) : Prop where
  types : ∀ d ∈ s.types, Query.IsName d.name
  fields : ∀ d ∈ s.types, ∀ n ∈ d.body.fieldNames, Query.IsName n
  values : ∀ d ∈ s.types, ∀ v ∈ d.body.valueNames, Query.IsName v

namespace Definition

variable {d : Definition}

theorem map_name_fields_image : d.image.fields.map (·.name) = d.body.fieldNames := by
  obtain ⟨name, description, body⟩ := d
  cases body with
  | object fields interfaces => exact List.map_map ..
  | interface fields possibleTypes => exact List.map_map ..
  | inputObject fields => exact List.map_map ..
  | _ => rfl

theorem values_image : d.image.values = d.body.valueNames := by
  obtain ⟨name, description, body⟩ := d
  cases body with
  | _ => rfl

/-- Every type is printed among the scalars, the enumerations, the unions or the models. -/
theorem image_printed : d.image.kind = .scalar ∨ d.image.kind = .enumeration ∨
    d.image.kind = .union ∨ isModel d.image = true := by
  obtain ⟨name, description, body⟩ := d
  cases body with
  | scalar => exact .inl rfl
  | enumeration values => exact .inr (.inl rfl)
  | union members => exact .inr (.inr (.inl rfl))
  | _ => exact .inr (.inr (.inr rfl))

end Definition

/-- That no type has the name of a keyword, and no field of a model hides a digit. -/
structure Registry.NamesFit (r : Registry) : Prop where
  types : ∀ t ∈ r.generated, isKeyword t.name = false
  fields : ∀ t ∈ r.generated, isModel t = true → ∀ f ∈ t.fields, ¬HidesDigit f.name

namespace Schema

variable {s : Schema} {known : NativeScalars} {includeMeta : Bool} {r : Registry}

/-- The generated types of a registry come from types that the schema lists. -/
theorem exists_of_mem_generated (h : s.compile known includeMeta = .ok r) {t : CompiledType}
    (ht : t ∈ r.generated) : ∃ d ∈ s.types, d.image = t := by
  obtain ⟨-, rfl⟩ := compile_eq_ok_iff.mp h
  rw [generated_image] at ht
  obtain ⟨d, hd, rfl⟩ := List.mem_map.mp ht
  have hfirst := (discovers_reserved s known includeMeta).first d hd
  exact ⟨d, List.mem_of_find?_eq_some hfirst, rfl⟩

section Lexical

variable (hs : s.Lexical) (h : s.compile known includeMeta = .ok r)

include hs h

theorem isBindable_type_iff {t : CompiledType} (ht : t ∈ r.generated) :
    isBindable t.name = true ↔ isKeyword t.name = false := by
  obtain ⟨d, hd, rfl⟩ := exists_of_mem_generated h ht
  rw [Text.isBindable_iff]
  exact and_iff_right (Text.isIdentifier_of_isName (hs.types d hd))

theorem isBindable_member {t : CompiledType} (ht : t ∈ r.generated) {v : Text}
    (hv : v ∈ t.values) : isBindable (safeIdentifier v) = true := by
  obtain ⟨d, hd, rfl⟩ := exists_of_mem_generated h ht
  rw [Definition.values_image] at hv
  exact Models.isBindable_safeIdentifier (hs.values d hd v hv)

theorem isName_of_mem_fields {t : CompiledType} (ht : t ∈ r.generated) {n : Text}
    (hn : n ∈ t.fields.map (·.name)) : Query.IsName n := by
  obtain ⟨d, hd, rfl⟩ := exists_of_mem_generated h ht
  rw [Definition.map_name_fields_image] at hn
  exact hs.fields d hd n hn

/-- The attribute of a field can be bound unless the field hides a digit. -/
theorem exists_isBindable_iff {t : CompiledType} (ht : t ∈ r.generated) {n : Text}
    (hn : n ∈ t.fields.map (·.name)) :
    ∃ attr, Entries.get? n (attributeNames (t.fields.map (·.name))) = some attr ∧
      (isBindable attr = true ↔ ¬HidesDigit n) := by
  obtain ⟨attr, hattr⟩ := Models.exists_attribute hn
  have hattribute := (Models.isAttribute_of_mem (Entries.mem_of_get? hattr)).1
  exact ⟨attr, hattr, hattribute.isBindable_iff (isName_of_mem_fields hs h ht hn)⟩

/-- All names of a module can be bound if and only if the names of its registry fit. -/
theorem forall_boundNames_iff (queries : List (String × String)) (source : String) :
    (∀ n ∈ (Surface.of r queries source).boundNames, isBindable n = true) ↔ r.NamesFit := by
  simp only [Surface.boundNames, Surface.of, Registry.byKind, List.forall_mem_append,
    List.forall_mem_map, List.forall_mem_flatMap, List.forall_mem_cons, List.mem_filter,
    beq_iff_eq, and_imp]
  constructor
  · rintro ⟨⟨⟨hscalars, henums⟩, hunions⟩, hmodels⟩
    constructor
    · intro t ht
      -- Whatever its kind, the name of the type is bound in some section of the module.
      rw [← isBindable_type_iff hs h ht]
      obtain ⟨d, -, rfl⟩ := exists_of_mem_generated h ht
      rcases d.image_printed with hkind | hkind | hkind | hmodel
      · exact hscalars _ ht hkind
      · exact (henums _ ht hkind).1
      · exact hunions _ ht hkind
      · exact (hmodels _ ht hmodel).1
    · intro t ht hmodel f hf
      have hn : f.name ∈ t.fields.map (·.name) := List.mem_map_of_mem hf
      obtain ⟨attr, hattr, hiff⟩ := exists_isBindable_iff hs h ht hn
      exact hiff.mp ((hmodels t ht hmodel).2 _ (Entries.mem_of_get? hattr))
  · intro hfit
    have hname : ∀ t ∈ r.generated, isBindable t.name = true := fun t ht =>
      (isBindable_type_iff hs h ht).mpr (hfit.types t ht)
    refine ⟨⟨⟨?_, ?_⟩, ?_⟩, ?_⟩
    · exact fun t ht _ => hname t ht
    · exact fun t ht _ => ⟨hname t ht, fun v hv => isBindable_member hs h ht hv⟩
    · exact fun t ht _ => hname t ht
    · intro t ht hmodel
      refine ⟨hname t ht, ?_⟩
      intro p hp
      obtain ⟨hattribute, hfield⟩ := Models.isAttribute_of_mem hp
      obtain ⟨f, hf, hfname⟩ := List.mem_map.mp hfield
      rw [hattribute.isBindable_iff (isName_of_mem_fields hs h ht hfield), ← hfname]
      exact hfit.fields t ht hmodel f hf

/-- **Which names can be bound.** Members of enumerations always can, the name of a type if it is no
keyword, and the attribute of a field if the field does not hide a digit. A registry whose names fit
is never refused for a name, and of any other one no module is rendered. -/
theorem names_bindable_iff :
    (∀ t ∈ r.generated, isBindable t.name = true ↔ isKeyword t.name = false) ∧
    (∀ t ∈ r.byKind .enumeration, ∀ v ∈ t.values, isBindable (safeIdentifier v) = true) ∧
    (∀ t ∈ r.generated, ∀ f ∈ t.fields, ∃ attr,
      Entries.get? f.name (attributeNames (t.fields.map (·.name))) = some attr ∧
        (isBindable attr = true ↔ ¬HidesDigit f.name)) ∧
    (∀ queries source, (∀ n ∈ (Surface.of r queries source).boundNames, isBindable n = true) ↔
      r.NamesFit) ∧
    ∀ (g : Generator) (files : FileTree), g.registry = r →
      Template.IsBuiltin files g.templateDirectory →
        (r.NamesFit → g.surface.AcceptedBeside r → ∀ template,
          g.render files Template.builtinName ≠ .error (.invalid template)) ∧
        (¬r.NamesFit → ∀ text, g.render files Template.builtinName ≠ .ok text) := by
  refine ⟨fun t ht => isBindable_type_iff hs h ht, ?_, ?_, forall_boundNames_iff hs h, ?_⟩
  · intro t ht v hv
    exact isBindable_member hs h (List.mem_filter.mp ht).1 hv
  · intro t ht f hf
    exact exists_isBindable_iff hs h ht (List.mem_map_of_mem hf)
  · rintro g files rfl hbuiltin
    have hbound := forall_boundNames_iff hs h g.queries g.source
    constructor
    · intro hfit hbeside template hrender
      have hinvalid := Generator.not_isValid_of_render hbuiltin hrender
      have hvalid : g.surface.isValid g.registry = true :=
        Surface.isValid_iff.mpr ⟨hbound.mpr hfit, hbeside⟩
      rw [hvalid] at hinvalid
      cases hinvalid
    · intro hunfit text hrender
      have hvalid := Generator.isValid_of_render hbuiltin hrender
      exact hunfit (hbound.mp (Surface.isValid_iff.mp hvalid).1)

end Lexical

/-! ## Schemas whose names fit, and some whose names do not -/

/-- A field without arguments that holds a number. -/
def numberField (name : String) : Field := ⟨name, .named "Int", none, [], false, none⟩

/-- Keywords for a field and a value, and underscores in front of fields. -/
def fitting : Schema where
  types :=
    [⟨"Query", none, .object [numberField "class", numberField "__fooBar", numberField "_"] []⟩,
      ⟨"Color", none, .enumeration [⟨"None", none, false, none⟩]⟩]
  roots := ⟨some "Query", none, none⟩

theorem names_bindable_iff_fitting :
    ∃ r, fitting.compile .standard false = .ok r ∧
      ∀ n ∈ (Surface.of r [] "").boundNames, isBindable n = true := by
  have hs : fitting.Lexical := ⟨by decide, by decide, by decide⟩
  have h : fitting.compile .standard false = .ok (fitting.image .standard false) := rfl
  have hfit : (fitting.image .standard false).NamesFit := by
    constructor
    · decide
    · decide
  exact ⟨_, h, ((names_bindable_iff hs h).2.2.2.1 [] "").mpr hfit⟩

/-- A field that hides a digit. -/
def digitField : Schema where
  types := [⟨"Query", none, .object [numberField "_1"] []⟩]
  roots := ⟨some "Query", none, none⟩

/-- A type with the name of a keyword. -/
def keywordType : Schema where
  types := [⟨"None", none, .object [numberField "a"] []⟩]
  roots := ⟨some "None", none, none⟩

/-- No module is rendered where a name cannot be bound. -/
theorem render_ne_ok (queries : List (String × String)) (source : String) (files : FileTree)
    {n : Text} (hn : n ∈ (Surface.of r queries source).boundNames) (h : isBindable n = false)
    (text : String) :
    (Generator.mk r queries source none).render files Template.builtinName ≠ .ok text := by
  intro hrender
  have hvalid := Generator.isValid_of_render (Template.isBuiltin_none files) hrender
  have hbindable := (Surface.isValid_iff.mp hvalid).1 n hn
  rw [h] at hbindable
  cases hbindable

/-- That a schema has names of the query language and compiles, and that no module is rendered of
what it compiles to, as that binds a name that cannot be bound. -/
def Refused (s : Schema) : Prop :=
  s.Lexical ∧ ∃ r, s.compile .standard false = .ok r ∧
    (∃ n ∈ (Surface.of r [] "").boundNames, isBindable n = false) ∧
    ∀ text, (Generator.mk r [] "" none).render ⟨[]⟩ Template.builtinName ≠ .ok text

theorem refused_of_mem_boundNames (hs : s.Lexical) (h : s.compile .standard false = .ok r)
    {n : Text} (hn : n ∈ (Surface.of r [] "").boundNames) (hnot : isBindable n = false) :
    s.Refused := ⟨hs, r, h, ⟨n, hn, hnot⟩, render_ne_ok [] "" ⟨[]⟩ hn hnot⟩

theorem not_bindable : digitField.Refused ∧ keywordType.Refused := by
  constructor
  · have hdigit : Text.ofString "1" ∈
        (Surface.of (digitField.image .standard false) [] "").boundNames := by decide
    exact refused_of_mem_boundNames ⟨by decide, by decide, by decide⟩ rfl hdigit (by decide)
  · have hkeyword : Text.ofString "None" ∈
        (Surface.of (keywordType.image .standard false) [] "").boundNames := by decide
    exact refused_of_mem_boundNames ⟨by decide, by decide, by decide⟩ rfl hkeyword (by decide)

end Schema

end GraphBind
