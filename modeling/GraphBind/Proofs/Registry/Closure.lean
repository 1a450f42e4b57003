import GraphBind.Proofs.Entries
import GraphBind.Proofs.Registry.Mentions
import Mathlib.Logic.Relation

/-!
# Closure of registries

A registry is closed if every name that it mentions is one of its own. A compiled registry is
(`Schema.compile_closed`): names are checked against those of the whole schema, also the ones that
come later, so it does not matter how types refer to each other.

In a closed registry every type of a field or an argument resolves to a compiled type, and no walk
along such types leaves the registry or gets stuck, however often it comes back to a type.
-/

namespace GraphBind

/-- The types of the fields of a type, and of the arguments of these fields. -/
def CompiledType.fieldTypes (t : CompiledType) : List FieldType :=
  t.fields.flatMap fun f => f.type :: f.arguments.map (·.type)

theorem CompiledType.mem_fieldTypes_iff {t : CompiledType} {ft : FieldType} :
    ft ∈ t.fieldTypes ↔ ∃ f ∈ t.fields, ft = f.type ∨ ∃ a ∈ f.arguments, a.type = ft := by
  simp [fieldTypes, List.mem_flatMap, List.mem_cons, List.mem_map]

/-- The field that is found is one of the fields. -/
theorem CompiledType.mem_fields_of_field {t : CompiledType} {name : Text} {f : CompiledField}
    (h : t.field name = .ok f) : f ∈ t.fields := by
  unfold CompiledType.field at h
  split at h
  · next hf =>
    cases h
    exact List.mem_of_find?_eq_some hf
  · cases h

/-- A root counts unless its name is empty. -/
theorem Roots.exists_mem_toList {r : Roots} {n : Text} (hn : n ≠ [])
    (h : r.query = some n ∨ r.mutation = some n ∨ r.subscription = some n) :
    ∃ op, (op, n) ∈ r.toList := by
  rcases h with h | h | h
  · exact ⟨.query, by simp [toList, h, hn]⟩
  · exact ⟨.mutation, by simp [toList, h, hn]⟩
  · exact ⟨.subscription, by simp [toList, h, hn]⟩

namespace Registry

variable {r : Registry} {t u : CompiledType}

/-- The compiled types of a registry. -/
def compiled (r : Registry) : List CompiledType := r.types.map (·.2)

/-- Every name that a registry mentions is one of its names. -/
structure Closed (r : Registry) : Prop where
  field : ∀ t ∈ r.compiled, ∀ f ∈ t.fields, f.type.typeName ∈ r.names
  argument : ∀ t ∈ r.compiled, ∀ f ∈ t.fields, ∀ a ∈ f.arguments, a.type.typeName ∈ r.names
  interface : ∀ t ∈ r.compiled, ∀ n ∈ t.interfaces, n ∈ r.names
  member : ∀ t ∈ r.compiled, ∀ n ∈ t.members, n ∈ r.names
  root : ∀ n, n ≠ [] →
    (r.roots.query = some n ∨ r.roots.mutation = some n ∨ r.roots.subscription = some n) →
    n ∈ r.names

/-- One step of a walk: the type of a field or an argument is picked and resolved. -/
def Leads (r : Registry) (t u : CompiledType) : Prop := ∃ ft ∈ t.fieldTypes, r.resolve ft = .ok u

/-! ## Resolving -/

theorem resolve_eq_ok_iff {ft : FieldType} :
    r.resolve ft = .ok t ↔ Entries.get? ft.typeName r.types = some t := by
  unfold resolve get find?
  cases Entries.get? ft.typeName r.types with
  | none => simp
  | some t' => simp

theorem mem_compiled_of_resolve {ft : FieldType} (h : r.resolve ft = .ok t) : t ∈ r.compiled :=
  List.mem_map.mpr ⟨_, Entries.mem_of_get? (resolve_eq_ok_iff.mp h), rfl⟩

namespace Closed

/-- Whatever a compiled type holds resolves. -/
theorem resolve (h : r.Closed) (ht : t ∈ r.compiled) {ft : FieldType} (hft : ft ∈ t.fieldTypes) :
    ∃ u ∈ r.compiled, r.resolve ft = .ok u := by
  have hname : ft.typeName ∈ r.names := by
    obtain ⟨f, hf, rfl | ⟨a, ha, rfl⟩⟩ := CompiledType.mem_fieldTypes_iff.mp hft
    · exact h.field t ht f hf
    · exact h.argument t ht f hf a ha
  obtain ⟨u, hu⟩ := Entries.exists_get? hname
  have hu := resolve_eq_ok_iff.mpr hu
  exact ⟨u, mem_compiled_of_resolve hu, hu⟩

/-- A walk stays inside. -/
theorem walk_mem (ht : t ∈ r.compiled) (hw : Relation.ReflTransGen r.Leads t u) :
    u ∈ r.compiled := by
  induction hw with
  | refl => exact ht
  | tail _ hlast _ =>
    obtain ⟨ft, _, hr⟩ := hlast
    exact mem_compiled_of_resolve hr

/-- Following fields by name stays inside, and fails for want of a field only. -/
theorem follow (h : r.Closed) (ht : t ∈ r.compiled) (path : List Text) :
    (∀ u, r.walk t path = .ok u → u ∈ r.compiled) ∧
      ∀ name, r.walk t path ≠ .error (.noType name) := by
  induction path generalizing t with
  | nil =>
    refine ⟨fun u hu => ?_, nofun⟩
    cases hu
    exact ht
  | cons name path ih =>
    cases hf : t.field name with
    | error e =>
      have hw : r.walk t (name :: path) = .error e := by rw [walk, hf]; rfl
      rw [hw]
      refine ⟨nofun, fun n hn => ?_⟩
      cases hn
      unfold CompiledType.field at hf
      split at hf <;> cases hf
    | ok f =>
      have hft : f.type ∈ t.fieldTypes := CompiledType.mem_fieldTypes_iff.mpr
        ⟨f, CompiledType.mem_fields_of_field hf, Or.inl rfl⟩
      obtain ⟨u, hu, hr⟩ := h.resolve ht hft
      have hw : r.walk t (name :: path) = r.walk u path := by
        rw [walk, hf]
        change (r.resolve f.type >>= fun next => r.walk next path) = _
        rw [hr]
        rfl
      rw [hw]
      exact ih hu

end Closed

end Registry

/-! ## Compiled registries -/

/-- What the image of a field holds is mentioned in the field. -/
theorem Field.mentioned_of_image {f : Field} {ft : FieldType} (owner : Text)
    (h : ft = f.image.type ∨ ∃ a ∈ f.image.arguments, a.type = ft) :
    ∃ m ∈ f.mentions owner, ft.typeName ∈ m.names := by
  rcases h with rfl | ⟨a, ha, rfl⟩
  · exact ⟨_, List.mem_cons_self, List.mem_singleton.mpr (FieldType.typeName_ofRef _)⟩
  · obtain ⟨a', ha', rfl⟩ := List.mem_map.mp ha
    exact ⟨_, List.mem_cons_of_mem _ (List.mem_map_of_mem ha'),
      List.mem_singleton.mpr (FieldType.typeName_ofRef _)⟩

namespace Definition

variable {d : Definition}

/-- What the image of a type holds is mentioned in the type. -/
theorem mentioned_of_image {ft : FieldType} (h : ft ∈ d.image.fieldTypes) :
    ∃ m ∈ d.mentions, ft.typeName ∈ m.names := by
  obtain ⟨f, hf, hft⟩ := CompiledType.mem_fieldTypes_iff.mp h
  have ofField : ∀ fields : List Field, f ∈ fields.map Field.image →
      ∃ m ∈ fields.flatMap (Field.mentions d.name), ft.typeName ∈ m.names := by
    intro fields hf
    obtain ⟨f', hf', rfl⟩ := List.mem_map.mp hf
    obtain ⟨m, hm, hn⟩ := Field.mentioned_of_image d.name hft
    exact ⟨m, List.mem_flatMap.mpr ⟨f', hf', hm⟩, hn⟩
  obtain ⟨name, description, body⟩ := d
  cases body with
  | object fields interfaces =>
    obtain ⟨m, hm, hn⟩ := ofField fields hf
    exact ⟨m, List.mem_append_left _ hm, hn⟩
  | interface fields possibleTypes =>
    obtain ⟨m, hm, hn⟩ := ofField fields hf
    exact ⟨m, List.mem_append_left _ hm, hn⟩
  | inputObject fields =>
    obtain ⟨a, ha, rfl⟩ := List.mem_map.mp hf
    rcases hft with rfl | ⟨_, hnone, _⟩
    · exact ⟨_, List.mem_map_of_mem ha, List.mem_singleton.mpr (FieldType.typeName_ofRef _)⟩
    · cases hnone
  | scalar => cases hf
  | union members => cases hf
  | enumeration values => cases hf

/-- The names that the image of a type lists are listed in the type. -/
theorem listed_of_image {n : Text} (h : n ∈ d.image.interfaces ∨ n ∈ d.image.members) :
    ∃ m ∈ d.mentions, n ∈ m.names := by
  obtain ⟨name, description, body⟩ := d
  cases body with
  | object fields interfaces =>
    rcases h with h | h
    · exact ⟨_, List.mem_append_right _ List.mem_cons_self, h⟩
    · cases h
  | interface fields possibleTypes =>
    rcases h with h | h
    · cases h
    · exact ⟨_, List.mem_append_right _ List.mem_cons_self, h⟩
  | union members =>
    rcases h with h | h
    · cases h
    · exact ⟨_, List.mem_cons_self, h⟩
  | scalar => rcases h with h | h <;> cases h
  | enumeration values => rcases h with h | h <;> cases h
  | inputObject fields => rcases h with h | h <;> cases h

end Definition

namespace Schema

variable {s : Schema} {known : NativeScalars} {includeMeta : Bool} {r : Registry}

theorem compile_eq_ok_iff : s.compile known includeMeta = .ok r ↔
    (∀ m ∈ s.mentions known includeMeta, ∀ n ∈ m.names, n ∈ s.allowedNames known includeMeta) ∧
      s.image known includeMeta = r := by
  rw [compile_eq_verdict, verdict_eq_ok_iff]

/-- The names of the image are the allowed names. -/
theorem names_image : (s.image known includeMeta).names = s.allowedNames known includeMeta := by
  simp [Registry.names, Entries.keys, image, allowedNames, List.map_map, Function.comp_def]

/-- A compiled type stands for a native type and holds nothing, or it is the image of a type. -/
theorem mem_compiled_image_iff {t : CompiledType} : t ∈ (s.image known includeMeta).compiled ↔
    (∃ p ∈ known, CompiledType.ofNative p.1 p.2 = t) ∨
      ∃ d ∈ s.reserved known includeMeta, d.image = t := by
  simp [Registry.compiled, image, List.map_map, Function.comp_def]

/-- The image of a schema is closed if everything that the schema mentions is allowed. -/
theorem closed_image
    (h : ∀ m ∈ s.mentions known includeMeta, ∀ n ∈ m.names, n ∈ s.allowedNames known includeMeta) :
    (s.image known includeMeta).Closed := by
  have inType : ∀ d ∈ s.reserved known includeMeta, ∀ m ∈ d.mentions, ∀ n ∈ m.names,
      n ∈ (s.image known includeMeta).names := by
    intro d hd m hm n hn
    rw [names_image]
    exact h m (List.mem_append_left _ (List.mem_flatMap.mpr ⟨d, hd, hm⟩)) n hn
  have ofTypes : ∀ t ∈ (s.image known includeMeta).compiled, ∀ ft ∈ t.fieldTypes,
      ft.typeName ∈ (s.image known includeMeta).names := by
    intro t ht ft hft
    rcases mem_compiled_image_iff.mp ht with ⟨p, _, rfl⟩ | ⟨d, hd, rfl⟩
    · cases hft
    · obtain ⟨m, hm, hn⟩ := Definition.mentioned_of_image hft
      exact inType d hd m hm _ hn
  have ofLists : ∀ t ∈ (s.image known includeMeta).compiled, ∀ n,
      n ∈ t.interfaces ∨ n ∈ t.members → n ∈ (s.image known includeMeta).names := by
    intro t ht n hn
    rcases mem_compiled_image_iff.mp ht with ⟨p, _, rfl⟩ | ⟨d, hd, rfl⟩
    · rcases hn with hn | hn <;> cases hn
    · obtain ⟨m, hm, hn⟩ := Definition.listed_of_image hn
      exact inType d hd m hm n hn
  refine ⟨?_, ?_, ?_, ?_, ?_⟩
  · exact fun t ht f hf => ofTypes t ht _ (CompiledType.mem_fieldTypes_iff.mpr ⟨f, hf, .inl rfl⟩)
  · exact fun t ht f hf a ha =>
      ofTypes t ht _ (CompiledType.mem_fieldTypes_iff.mpr ⟨f, hf, .inr ⟨a, ha, rfl⟩⟩)
  · exact fun t ht n hn => ofLists t ht n (.inl hn)
  · exact fun t ht n hn => ofLists t ht n (.inr hn)
  · intro n hn hroot
    obtain ⟨op, hmem⟩ := Roots.exists_mem_toList hn hroot
    rw [names_image]
    exact h (.root op n) (List.mem_append_right _ (List.mem_map.mpr ⟨_, hmem, rfl⟩)) n
      (List.mem_singleton.mpr rfl)

/-- **Registry closure.** A schema compiles to a closed registry. Every type of a field or an
argument in it resolves, and no walk that starts at one of its types leaves it or gets stuck. -/
theorem compile_closed (h : s.compile known includeMeta = .ok r) :
    r.Closed ∧
    (∀ t ∈ r.compiled, ∀ ft ∈ t.fieldTypes, ∃ u ∈ r.compiled, r.resolve ft = .ok u) ∧
    (∀ t ∈ r.compiled, ∀ u, Relation.ReflTransGen r.Leads t u →
      u ∈ r.compiled ∧ ∀ ft ∈ u.fieldTypes, ∃ v ∈ r.compiled, r.resolve ft = .ok v) ∧
    (∀ t ∈ r.compiled, ∀ path, (∀ u, r.walk t path = .ok u → u ∈ r.compiled) ∧
      ∀ name, r.walk t path ≠ .error (.noType name)) := by
  obtain ⟨hall, rfl⟩ := compile_eq_ok_iff.mp h
  have hclosed := closed_image hall
  refine ⟨hclosed, fun t ht ft hft => hclosed.resolve ht hft, fun t ht u hw => ?_,
    fun t ht path => hclosed.follow ht path⟩
  have hu := Registry.Closed.walk_mem ht hw
  exact ⟨hu, fun ft hft => hclosed.resolve hu hft⟩

/-- Three types that refer to each other and to themselves. -/
def circular : Schema where
  types :=
    [⟨"Query", none, .object
        [⟨"a", .named "A", none, [⟨"by", .nonNull (.named "Filter"), none, none⟩], false,
          none⟩] []⟩,
      ⟨"A", none, .object [⟨"b", .list (.named "B"), none, [], false, none⟩,
        ⟨"self", .named "A", none, [], false, none⟩] []⟩,
      ⟨"B", none, .object [⟨"a", .named "A", none, [], false, none⟩,
        ⟨"n", .named "Int", none, [], false, none⟩] []⟩,
      ⟨"Filter", none, .inputObject [⟨"not", .named "Filter", none, none⟩]⟩]
  roots := ⟨some "Query", none, none⟩

theorem compile_closed_circular :
    circular.compile .standard false = .ok (circular.image .standard false) ∧
      (circular.image .standard false).Closed ∧
      ∀ t ∈ (circular.image .standard false).compiled, ∀ path name,
        (circular.image .standard false).walk t path ≠ .error (.noType name) := by
  have h : circular.compile .standard false = .ok (circular.image .standard false) := rfl
  obtain ⟨hclosed, _, _, hwalk⟩ := compile_closed h
  exact ⟨h, hclosed, fun t ht path => (hwalk t ht path).2⟩

end Schema

end GraphBind
