import GraphBind.Proofs.Models.BoundNames
import GraphBind.Proofs.Models.Statements
import GraphBind.Proofs.Registry.Extension

/-!
# References in generated modules

The annotation of a field is one name inside of wrappings (`wraps_annotate`), and in the module of a
compiled registry that name is always there: the type that a field refers to resolves, so it is a
native type that is known everywhere or whose module is imported, or it is a type of the schema
(`exists_annotation`). The types of the schema are defined in four sections by their kinds, which
leave none of them out and none of them twice (`defines_surface`). `references_bound` puts this
together.
-/

namespace GraphBind

namespace Models

/-- That a text is a base name inside of optional types and lists. -/
inductive Wraps (base : Text) : Text → Prop where
  | base : Wraps base base
  | optional {text : Text} (h : Wraps base text) : Wraps base (optionalOf text)
  | list {text : Text} (h : Wraps base text) : Wraps base (listOf text)

/-- That a text is the name by which the module of a registry refers to the type with a name. -/
inductive Denotes (known : NativeScalars) (r : Registry) (name : Text) : Text → Prop where
  | builtin {t : NativeType} (hknown : (name, t) ∈ known) (hbuiltin : t.isBuiltin = true) :
    Denotes known r name (Text.ofString t.name)
  | imported {t : NativeType} {short : String} (hknown : (name, t) ∈ known)
    (hbuiltin : t.isBuiltin = false) (himport : (t.module, short) ∈ imports r) :
    Denotes known r name (Text.ofString (short ++ "." ++ t.name))
  | generated {t : CompiledType} (hgenerated : t ∈ r.generated) (hname : t.name = name) :
    Denotes known r name t.name

/-- That the sections of a module define types: each of them once, and in their order. -/
structure Surface.Defines (s : Surface) (ts : List CompiledType) : Prop where
  perm : s.defined.Perm ts
  once : (ts.map (·.name)).Nodup
  scalars : s.scalars.Sublist ts
  enumerations : s.enumerations.Sublist ts
  unions : s.unions.Sublist ts
  models : s.models.Sublist ts

/-! ## Annotations -/

/-- The name inside an annotation is the base name, by induction on the modifiers. -/
theorem wraps_annotateInner (base : Text) (ms : List Modifier) :
    Wraps base (annotateInner base ms).1 := by
  induction ms with
  | nil => exact .base
  | cons m ms ih =>
    cases m with
    | nonNull => exact ih
    | list =>
      rw [annotateInner]
      split
      · next inner hinner =>
        rw [hinner] at ih
        exact .list (.optional ih)
      · next inner hinner =>
        rw [hinner] at ih
        exact .list ih

/-- An annotation is the base name inside of optional types and lists. -/
theorem wraps_annotate (base : Text) (ms : List Modifier) : Wraps base (annotate base ms) := by
  have h := wraps_annotateInner base ms
  unfold annotate
  split
  · next inner hinner =>
    rw [hinner] at h
    exact .optional h
  · next inner hinner =>
    rw [hinner] at h
    exact h

/-! ## Imports -/

theorem mem_insertSorted {s m : String} {ms : List String} :
    m ∈ insertSorted s ms ↔ m = s ∨ m ∈ ms := by
  induction ms with
  | nil => simp [insertSorted]
  | cons t ts ih =>
    rw [insertSorted]
    split
    · exact List.mem_cons
    · split
      · next hst => simp [hst]
      · rw [List.mem_cons, List.mem_cons, ih, or_left_comm]

theorem mem_foldr_insertSorted {ts : List NativeType} {m : String} :
    m ∈ ts.foldr (insertSorted ·.module) [] ↔ ∃ t ∈ ts, t.module = m := by
  induction ts with
  | nil => simp
  | cons t ts ih =>
    rw [List.foldr_cons, mem_insertSorted, ih, List.exists_mem_cons_iff, eq_comm]

/-- The imported modules are those of the native types that are not known everywhere. -/
theorem mem_importedModules_iff {r : Registry} {m : String} : m ∈ importedModules r ↔
    ∃ t ∈ r.compiled, ∃ native, t.native = some native ∧ native.isBuiltin = false ∧
      native.module = m := by
  simp only [importedModules, mem_foldr_insertSorted, List.mem_filter, List.mem_filterMap,
    Registry.compiled, List.mem_map, Bool.not_eq_true']
  constructor
  · rintro ⟨native, ⟨⟨e, he, hnative⟩, hbuiltin⟩, hm⟩
    exact ⟨e.2, ⟨e, he, rfl⟩, native, hnative, hbuiltin, hm⟩
  · rintro ⟨_, ⟨e, he, rfl⟩, native, hnative, hbuiltin, hm⟩
    exact ⟨native, ⟨⟨e, he, hnative⟩, hbuiltin⟩, hm⟩

/-! ## Sections -/

theorem kind_ne_of_isModel {t : CompiledType} (h : isModel t = true) :
    t.kind ≠ .scalar ∧ t.kind ≠ .enumeration ∧ t.kind ≠ .union := by
  unfold isModel at h
  split at h
  · next hkind => simp [hkind]
  · next hkind => simp [hkind]
  · next hkind => simp [hkind]
  · cases h

/-- Types that are all printed stand in exactly one section each. -/
theorem perm_sections {ts : List CompiledType} (h : ∀ t ∈ ts, t.kind = .scalar ∨
      t.kind = .enumeration ∨ t.kind = .union ∨ isModel t = true) :
    (ts.filter (·.kind == .scalar) ++ ts.filter (·.kind == .enumeration) ++
      ts.filter (·.kind == .union) ++ ts.filter isModel).Perm ts := by
  induction ts with
  | nil => exact .refl _
  | cons t ts ih =>
    obtain ⟨ht, hts⟩ := List.forall_mem_cons.mp h
    refine .trans ?_ ((ih hts).cons t)
    rcases ht with hkind | hkind | hkind | hmodel
    · simp [hkind, isModel]
    · simp [hkind, isModel]
    · simp only [hkind, isModel, List.filter_cons, reduceCtorEq, beq_iff_eq, if_true, if_false]
      exact List.perm_middle.append_right _
    · obtain ⟨hscalar, henumeration, hunion⟩ := kind_ne_of_isModel hmodel
      simp only [hscalar, henumeration, hunion, hmodel, List.filter_cons, beq_iff_eq, if_true,
        if_false]
      exact List.perm_middle

/-- The sections define all types of a compiled registry. -/
theorem defines_surface {s : Schema} {known : NativeScalars} {includeMeta : Bool} {r : Registry}
    (h : s.compile known includeMeta = .ok r) (queries : List (String × String))
    (source : String) : (Surface.of r queries source).Defines r.generated where
  perm := by
    refine perm_sections fun t ht => ?_
    obtain ⟨d, -, rfl⟩ := Schema.exists_of_mem_generated h ht
    exact d.image_printed
  once := by
    obtain ⟨-, rfl⟩ := Schema.compile_eq_ok_iff.mp h
    rw [Schema.generated_image, List.map_map]
    exact Schema.nodup_reserved s known includeMeta
  scalars := List.filter_sublist
  enumerations := List.filter_sublist
  unions := List.filter_sublist
  models := List.filter_sublist

end Models

open Models (Surface Wraps Denotes Consists isModel annotation baseName annotate imports)

namespace Schema

variable {s : Schema} {known : NativeScalars} {includeMeta : Bool} {r : Registry}

/-- What a name of a compiled registry stands for. -/
theorem native_or_generated_of_get? (h : s.compile known includeMeta = .ok r) {n : Text}
    {u : CompiledType} (hu : Entries.get? n r.types = some u) :
    (∃ t, (n, t) ∈ known ∧ u = CompiledType.ofNative n t) ∨
      u ∈ r.generated ∧ u.name = n ∧ u.native = none := by
  obtain ⟨-, rfl⟩ := compile_eq_ok_iff.mp h
  rw [generated_image]
  rcases List.mem_append.mp (Entries.mem_of_get? hu) with hmem | hmem
  · obtain ⟨⟨name, t⟩, hp, heq⟩ := List.mem_map.mp hmem
    cases heq
    exact .inl ⟨t, hp, rfl⟩
  · obtain ⟨d, hd, heq⟩ := List.mem_map.mp hmem
    cases heq
    exact .inr ⟨List.mem_map_of_mem hd, rfl, rfl⟩

/-- A name that is resolved is denoted by the base name of what it resolves to. -/
theorem denotes_baseName (h : s.compile known includeMeta = .ok r) {ft : FieldType}
    {u : CompiledType} (hu : r.resolve ft = .ok u) :
    Denotes known r ft.typeName (baseName u) := by
  have hget := Registry.resolve_eq_ok_iff.mp hu
  rcases native_or_generated_of_get? h hget with ⟨t, hknown, rfl⟩ | ⟨hgenerated, hname, hnative⟩
  · cases hbuiltin : t.isBuiltin with
    | true =>
      have hbase : baseName (CompiledType.ofNative ft.typeName t) = Text.ofString t.name := by
        simp [baseName, CompiledType.ofNative, Models.nativeName, hbuiltin]
      rw [hbase]
      exact .builtin hknown hbuiltin
    | false =>
      have hbase : baseName (CompiledType.ofNative ft.typeName t) =
          Text.ofString (Models.moduleAlias t.module ++ "." ++ t.name) := by
        simp [baseName, CompiledType.ofNative, Models.nativeName, hbuiltin]
      have hmodule : t.module ∈ Models.importedModules r := by
        refine Models.mem_importedModules_iff.mpr ?_
        exact ⟨_, Registry.mem_compiled_of_resolve hu, t, rfl, hbuiltin, rfl⟩
      rw [hbase]
      exact .imported hknown hbuiltin (List.mem_map_of_mem hmodule)
  · have hbase : baseName u = u.name := by
      rw [baseName, hnative]
    rw [hbase]
    exact .generated hgenerated hname

/-- The annotation of a field is the name of its type inside of wrappings. -/
theorem exists_annotation (h : s.compile known includeMeta = .ok r) {t : CompiledType}
    (ht : t ∈ r.compiled) {f : CompiledField} (hf : f ∈ t.fields) :
    ∃ base text, annotation r f.type = .ok text ∧ Wraps base text ∧
      Denotes known r f.type.typeName base := by
  obtain ⟨hallowed, rfl⟩ := compile_eq_ok_iff.mp h
  have hft : f.type ∈ t.fieldTypes := CompiledType.mem_fieldTypes_iff.mpr ⟨f, hf, .inl rfl⟩
  obtain ⟨u, -, hu⟩ := (closed_image hallowed).resolve ht hft
  refine ⟨baseName u, annotate (baseName u) f.type.modifiers, ?_, Models.wraps_annotate _ _,
    denotes_baseName h hu⟩
  unfold annotation
  rw [hu]
  rfl

theorem exists_surface_toText (h : s.compile known includeMeta = .ok r)
    (queries : List (String × String)) (source : String) :
    ∃ text, (Surface.of r queries source).toText r = .ok text := by
  refine Models.exists_toText fun t ht f hf => ?_
  have hcompiled : t ∈ r.compiled :=
    List.mem_of_mem_filter (List.mem_of_mem_filter (p := isModel) ht)
  obtain ⟨-, text, htext, -⟩ := exists_annotation h hcompiled hf
  exact ⟨text, htext⟩

theorem exists_member (h : s.compile known includeMeta = .ok r) {t : CompiledType}
    (ht : t ∈ r.compiled) {m : Text} (hm : m ∈ t.members) (hknown : m ∉ Entries.keys known) :
    ∃ u ∈ r.generated, u.name = m := by
  obtain ⟨hallowed, rfl⟩ := compile_eq_ok_iff.mp h
  obtain ⟨u, hu⟩ := Entries.exists_get? ((closed_image hallowed).member t ht m hm)
  rcases native_or_generated_of_get? h hu with ⟨t, ht, -⟩ | ⟨hgenerated, hname, -⟩
  · exact absurd (List.mem_map_of_mem ht) hknown
  · exact ⟨u, hgenerated, hname⟩

/-- **References are bound.** In the module of a compiled registry the annotation of every field of
a model is one name inside of wrappings, and the module imports or defines what it names, unless
that is known everywhere. The sections of the module define every type of the schema once, and the
text consists of these definitions, with lines that complete exactly the models. The members of
unions are types of the schema as well, unless they are native scalars. -/
theorem references_bound (h : s.compile known includeMeta = .ok r) :
    (∀ t ∈ r.compiled, isModel t = true → ∀ f ∈ t.fields, ∃ base text,
      annotation r f.type = .ok text ∧ Wraps base text ∧
        Denotes known r f.type.typeName base) ∧
    (∀ queries source, (Surface.of r queries source).Defines r.generated ∧
      ∃ text, (Surface.of r queries source).toText r = .ok text ∧
        Consists text (Surface.of r queries source).bindings
          ((r.generated.filter isModel).map (·.name))) ∧
    (∀ t ∈ r.compiled, t.kind = .union → ∀ m ∈ t.members, m ∉ Entries.keys known →
      ∃ u ∈ r.generated, u.name = m) := by
  refine ⟨fun t ht _ f hf => exists_annotation h ht hf, fun queries source => ?_,
    fun t ht _ m hm hknown => exists_member h ht hm hknown⟩
  obtain ⟨text, htext⟩ := exists_surface_toText h queries source
  exact ⟨Models.defines_surface h queries source, text, htext, Models.consists_of_toText htext⟩

/-- Fields of types of every sort: a native one that is known everywhere, one of a module, and types
of the schema that are defined in different sections. -/
def calendar : Schema where
  types :=
    [⟨"Query", none, .object
        [⟨"days", .nonNull (.list (.named "Date")), none, [], false, none⟩,
          ⟨"notes", .named "A", none, [], false, none⟩,
          ⟨"first", .named "Entry", none, [], false, none⟩] []⟩,
      ⟨"Entry", none, .union ["Event", "Date"]⟩,
      ⟨"Event", none, .interface [⟨"mood", .nonNull (.named "Mood"), none, [], false, none⟩] []⟩,
      ⟨"Mood", none, .enumeration [⟨"GOOD", none, false, none⟩]⟩,
      ⟨"Zone", none, .scalar⟩]
  roots := ⟨some "Query", none, none⟩

theorem references_bound_calendar :
    ∃ r, calendar.compile (.extend .standard dates) false = .ok r ∧
      (∀ t ∈ r.compiled, isModel t = true → ∀ f ∈ t.fields, ∃ base text,
        annotation r f.type = .ok text ∧ Wraps base text ∧
          Denotes (.extend .standard dates) r f.type.typeName base) ∧
      (Surface.of r [] "").Defines r.generated ∧
      ∃ u ∈ r.generated, u.name = Text.ofString "Event" := by
  have h : calendar.compile (.extend .standard dates) false =
      .ok (calendar.image (.extend .standard dates) false) := rfl
  obtain ⟨hannotations, hsections, hmembers⟩ := references_bound h
  refine ⟨_, h, hannotations, (hsections [] "").1, ?_⟩
  have hentry : Definition.image ⟨"Entry", none, .union ["Event", "Date"]⟩ ∈
      (calendar.image (.extend .standard dates) false).compiled := by decide
  exact hmembers _ hentry rfl "Event" (by decide) (by decide)

example : annotation (calendar.image (.extend .standard dates) false)
    ⟨"Date", [.nonNull, .list]⟩ = .ok "_t.List[_t.Optional[_datetime.date]]" := by decide +kernel

end Schema

end GraphBind
