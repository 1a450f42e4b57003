import GraphBind.Proofs.Models.References
import Mathlib.Data.List.Pairwise

/-!
# Clashes of names in generated modules

A generated module binds three aliases of modules that it always imports, an alias for the module
of every native type that is not known everywhere, the names of the types that it defines, and the
name of the mapping of the bound queries. Nothing keeps these apart: an alias has underscores for
the points of its module, so that two modules may share one (`moduleAlias_eq_iff`), and a type of
the schema may have any of the other names, or a name that an annotation takes for one that is known
everywhere. `names_apart_iff` says which registries have modules without a clash, and which have
aliases that stand for one module; `names_clash` has schemas whose modules are rendered with one.
-/

namespace GraphBind

open Models (Surface Binding Consists isModel imports importedModules moduleAlias standardImports
  importBinding mappingName definition)

namespace Models

/-- That two bindings of a module do not get into each other's way: they are for different names,
or both are an alias of the same module. -/
def Binding.Apart (b b' : Binding) : Prop :=
  b.name = b'.name → b.module?.isSome = true ∧ b.module? = b'.module?

/-- The name of a module, with underscores for its points. -/
def undotted (module : String) : List Char :=
  module.toList.map fun c => if c == '.' then '_' else c

/-- The aliases of the modules that a module imports for native types. -/
def aliases (r : Registry) : List Text := (imports r).map fun i => Text.ofString i.2

/-- The names that every module binds. -/
def ownNames : List Text := (standardImports.map fun i => Text.ofString i.2) ++ [mappingName]

/-- The name under which the annotation of a field refers to a native type that is known
everywhere, if to any. -/
def builtinName? (r : Registry) (f : CompiledField) : Option Text :=
  match r.resolve f.type with
  | .ok { native := some native, .. } => if native.isBuiltin then some native.name else none
  | _ => none

/-- The names that a module takes to be known everywhere: those in the annotation of the mapping of
the bound queries, of which one is also a base of every enumeration, and those in the annotations of
fields. -/
def builtinNames (r : Registry) : List Text :=
  ["dict", "str"].map Text.ofString ++
    (r.generated.filter isModel).flatMap fun t => t.fields.filterMap (builtinName? r)

/-- That no two of the modules that are imported for native types share an alias, and none has that
of the typing module. -/
structure AliasesApart (r : Registry) : Prop where
  modules : ∀ m ∈ importedModules r, ∀ m' ∈ importedModules r, undotted m = undotted m' → m = m'
  typing : "t" ∉ importedModules r

instance (r : Registry) : Decidable (AliasesApart r) :=
  decidable_of_iff _ ⟨fun h => ⟨h.1, h.2⟩, fun h => And.intro h.modules h.typing⟩

/-- That the names which the module of a registry binds or takes to be known do not clash. -/
structure NamesApart (r : Registry) : Prop where
  imports : AliasesApart r
  types : ∀ t ∈ r.generated, t.name ∉ ownNames ∧ t.name ∉ aliases r ∧ t.name ∉ builtinNames r
  builtins : ∀ n ∈ builtinNames r, n ∉ ownNames ∧ n ∉ aliases r

/-! ## Aliases -/

theorem toList_moduleAlias (m : String) : (moduleAlias m).toList = '_' :: undotted m := by
  simp [moduleAlias, undotted]

/-- Modules share an alias if their names differ in points and underscores only. -/
theorem moduleAlias_eq_iff {m m' : String} :
    moduleAlias m = moduleAlias m' ↔ undotted m = undotted m' := by
  rw [← String.toList_inj, toList_moduleAlias, toList_moduleAlias, List.cons_inj_right]

/-- Where there is no underscore, there has been no point. -/
theorem toList_of_undotted {m : String} (h : '_' ∉ undotted m) : undotted m = m.toList := by
  refine (List.map_congr_left fun c hc => ?_).trans (List.map_id _)
  split
  · next hpoint =>
    refine absurd (List.mem_map.mpr ⟨c, hc, ?_⟩) h
    rw [if_pos hpoint]
  · rfl

theorem eq_of_moduleAlias {m s : String} (hs : '_' ∉ s.toList)
    (h : moduleAlias m = "_" ++ s) : m = s := by
  have hundotted : undotted m = s.toList := by
    have hlist := congrArg String.toList h
    rw [toList_moduleAlias, String.toList_append] at hlist
    exact (List.cons.inj hlist).2
  rw [← hundotted] at hs
  rw [← String.toList_inj, ← toList_of_undotted hs, hundotted]

/-- Of the modules that are always imported only one has an alias that is not made from its name, so
that a module with another name may have it. -/
theorem forall_standardImports_iff {m : String} :
    (∀ i ∈ standardImports, i.2 = moduleAlias m → i.1 = m) ↔ m ≠ "t" := by
  constructor
  · rintro h rfl
    have htyping := h ("typing", "_t") (by decide) (by decide)
    exact absurd htyping (by decide)
  · intro hm i hi halias
    simp only [standardImports, List.mem_cons, List.not_mem_nil, or_false] at hi
    rcases hi with rfl | rfl | rfl
    · exact (eq_of_moduleAlias (s := "enum") (by decide) halias.symm).symm
    · exact absurd (eq_of_moduleAlias (s := "t") (by decide) halias.symm) hm
    · exact (eq_of_moduleAlias (s := "pydantic") (by decide) halias.symm).symm

/-! ## Bindings -/

theorem apart_importBinding_iff {i j : String × String} :
    (importBinding i).Apart (importBinding j) ↔ (i.2 = j.2 → i.1 = j.1) := by
  unfold Binding.Apart importBinding
  constructor
  · intro h halias
    exact Option.some.inj (h (congrArg Text.ofString halias)).2
  · intro h hname
    exact ⟨rfl, congrArg some (h (Text.ofString_injective hname))⟩

theorem apart_none_iff {b : Binding} {n : Text} : b.Apart ⟨n, none⟩ ↔ b.name ≠ n := by
  unfold Binding.Apart
  constructor
  · intro h hname
    obtain ⟨hsome, hnone⟩ := h hname
    rw [hnone] at hsome
    cases hsome
  · exact fun hne hname => absurd hname hne

/-- Aliases begin with an underscore. -/
theorem alias_ne_mappingName {r : Registry} {i : String × String}
    (h : i ∈ standardImports ++ imports r) : Text.ofString i.2 ≠ mappingName := by
  rcases List.mem_append.mp h with hi | hi
  · have hstandard : ∀ i ∈ standardImports, Text.ofString i.2 ≠ mappingName := by decide
    exact hstandard i hi
  · obtain ⟨m, -, rfl⟩ := List.mem_map.mp hi
    intro hname
    have hlist := congrArg String.toList (Text.ofString_injective hname)
    rw [toList_moduleAlias] at hlist
    cases hlist

/-- The imports of a module bind apart iff no two modules of native types have one alias. -/
theorem pairwise_imports_iff (r : Registry) :
    ((standardImports ++ imports r).map importBinding).Pairwise Binding.Apart ↔
      AliasesApart r := by
  have hstandard : (standardImports.map importBinding).Pairwise Binding.Apart := by
    rw [List.pairwise_map]
    refine List.Pairwise.imp (fun h => apart_importBinding_iff.mpr h) ?_
    decide
  have hbetween : (∀ b ∈ standardImports.map importBinding, ∀ b' ∈ (imports r).map importBinding,
      b.Apart b') ↔ "t" ∉ importedModules r := by
    have hmodule : (∀ m ∈ importedModules r, m ≠ "t") ↔ "t" ∉ importedModules r :=
      ⟨fun h ht => h _ ht rfl, fun h m hm heq => h (heq ▸ hm)⟩
    rw [← hmodule]
    simp only [List.forall_mem_map, imports, apart_importBinding_iff, ← forall_standardImports_iff]
    exact ⟨fun h m hm i hi => h i hi m hm, fun h i hi m hm => h m hm i hi⟩
  have hmodules : ((imports r).map importBinding).Pairwise Binding.Apart ↔
      ∀ m ∈ importedModules r, ∀ m' ∈ importedModules r, undotted m = undotted m' → m = m' := by
    simp only [imports, List.map_map, List.pairwise_map, Function.comp_apply,
      apart_importBinding_iff, moduleAlias_eq_iff]
    have : Std.Symm fun m m' => undotted m = undotted m' → m = m' :=
      ⟨fun _ _ h heq => (h heq.symm).symm⟩
    exact ⟨fun h => h.forall_of_forall fun _ _ _ => rfl, List.pairwise_of_forall_mem_list⟩
  rw [List.map_append, List.pairwise_append, hmodules, hbetween]
  exact ⟨fun h => ⟨h.2.1, h.2.2⟩, fun h => ⟨hstandard, h.modules, h.typing⟩⟩

end Models

open Models (AliasesApart NamesApart aliases ownNames builtinNames undotted)

namespace Schema

variable {s : Schema} {known : NativeScalars} {includeMeta : Bool} {r : Registry}

/-- The names of types clash with nothing that a module binds beside them if they clash with its
imports and with the mapping of the bound queries in no way. -/
theorem forall_generated_iff : (∀ t ∈ r.generated, t.name ∉ ownNames ∧ t.name ∉ aliases r) ↔
    (∀ i ∈ standardImports ++ imports r, ∀ t ∈ r.generated, Text.ofString i.2 ≠ t.name) ∧
      ∀ t ∈ r.generated, t.name ≠ mappingName := by
  have hname : ∀ n : Text, n ∉ ownNames ∧ n ∉ aliases r ↔
      (∀ i ∈ standardImports ++ imports r, Text.ofString i.2 ≠ n) ∧ n ≠ mappingName := by
    intro n
    simp only [ownNames, aliases, List.mem_append, List.mem_map, List.mem_singleton, not_or,
      not_exists, not_and, or_imp, forall_and]
    tauto
  simp only [hname]
  exact ⟨fun h => ⟨fun i hi t ht => (h t ht).1 i hi, fun t ht => (h t ht).2⟩,
    fun h t ht => ⟨fun i hi => h.1 i hi t ht, h.2 t ht⟩⟩

/-- The bindings of a module are apart iff its aliases are, and no type takes a name of the module
or one of them. -/
theorem pairwise_bindings_iff (h : s.compile known includeMeta = .ok r)
    (queries : List (String × String)) (source : String) :
    (Surface.of r queries source).bindings.Pairwise Binding.Apart ↔
      AliasesApart r ∧ ∀ t ∈ r.generated, t.name ∉ ownNames ∧ t.name ∉ aliases r := by
  have hdefines := Models.defines_surface h queries source
  have hdefinitions : ((Surface.of r queries source).defined.map definition ++
      [(⟨mappingName, none⟩ : Binding)]).Pairwise Binding.Apart ↔
      ∀ t ∈ r.generated, t.name ≠ mappingName := by
    have honce := (hdefines.perm.map (·.name)).nodup_iff.mpr hdefines.once
    have hdefined : ((Surface.of r queries source).defined.map definition).Pairwise
        Binding.Apart := by
      rw [List.pairwise_map]
      exact (List.pairwise_map.mp honce).imp fun hne => Models.apart_none_iff.mpr hne
    rw [List.pairwise_append]
    simp only [hdefined, List.pairwise_singleton, true_and, List.forall_mem_map,
      List.forall_mem_singleton, Models.apart_none_iff, definition, hdefines.perm.mem_iff]
  have hbetween : (∀ b ∈ (standardImports ++ imports r).map importBinding,
      ∀ b' ∈ (Surface.of r queries source).defined.map definition ++ [⟨mappingName, none⟩],
        b.Apart b') ↔
      ∀ i ∈ standardImports ++ imports r, ∀ t ∈ r.generated, Text.ofString i.2 ≠ t.name := by
    rw [List.forall_mem_map]
    refine forall₂_congr fun i hi => ?_
    rw [List.forall_mem_append, List.forall_mem_map, List.forall_mem_singleton]
    simp only [Models.apart_none_iff, definition, hdefines.perm.mem_iff]
    exact and_iff_left (Models.alias_ne_mappingName hi)
  have hbindings : (Surface.of r queries source).bindings =
      (standardImports ++ imports r).map importBinding ++
        ((Surface.of r queries source).defined.map definition ++ [⟨mappingName, none⟩]) :=
    List.append_assoc ..
  rw [hbindings, List.pairwise_append, Models.pairwise_imports_iff, hdefinitions, hbetween,
    forall_generated_iff, and_comm (b := ∀ i ∈ _, _)]

/-- A module binds the names of its types, its own names, and the aliases of its imports. -/
theorem mem_names_iff (h : s.compile known includeMeta = .ok r)
    (queries : List (String × String)) (source : String) {n : Text} :
    n ∈ (Surface.of r queries source).bindings.map Binding.name ↔
      (∃ t ∈ r.generated, t.name = n) ∨ n ∈ ownNames ∨ n ∈ aliases r := by
  have hmem := fun t => (Models.defines_surface h queries source).perm.mem_iff (a := t)
  have himports : (Surface.of r queries source).imports = imports r := rfl
  simp only [Surface.bindings, ownNames, aliases, himports, List.map_append, List.mem_append,
    List.map_map, List.mem_map, Function.comp_apply, definition, importBinding, List.map_cons,
    List.map_nil, hmem]
  ac_nf

/-- No binding takes a builtin name iff no type does, and neither do the other names. -/
theorem forall_bindings_iff (h : s.compile known includeMeta = .ok r)
    (queries : List (String × String)) (source : String) :
    (∀ b ∈ (Surface.of r queries source).bindings, b.name ∉ builtinNames r) ↔
      (∀ t ∈ r.generated, t.name ∉ builtinNames r) ∧
        ∀ n ∈ builtinNames r, n ∉ ownNames ∧ n ∉ aliases r := by
  rw [← List.forall_mem_map (P := (· ∉ builtinNames r))]
  simp only [mem_names_iff h]
  constructor
  · refine fun hnames => ⟨fun t ht => hnames _ (.inl ⟨t, ht, rfl⟩), fun n hn => ⟨?_, ?_⟩⟩
    · exact fun hown => hnames n (.inr (.inl hown)) hn
    · exact fun halias => hnames n (.inr (.inr halias)) hn
  · rintro ⟨htypes, hbuiltins⟩ n (⟨t, ht, rfl⟩ | hown | halias) hn
    · exact htypes t ht hn
    · exact (hbuiltins n hn).1 hown
    · exact (hbuiltins n hn).2 halias

/-- An alias stands for one module if no other import has it and no type. -/
theorem forall_bindings_alias_iff (h : s.compile known includeMeta = .ok r)
    (queries : List (String × String)) (source : String) {m : String} (hm : m ∈ importedModules r) :
    (∀ b ∈ (Surface.of r queries source).bindings,
      b.name = Text.ofString (moduleAlias m) → b.module? = some m) ↔
      m ≠ "t" ∧ (∀ m' ∈ importedModules r, undotted m' = undotted m → m' = m) ∧
        ∀ t ∈ r.generated, t.name ≠ Text.ofString (moduleAlias m) := by
  have hperm := (Models.defines_surface h queries source).perm
  have himport : ∀ i : String × String,
      ((importBinding i).name = Text.ofString (moduleAlias m) →
        (importBinding i).module? = some m) ↔ (i.2 = moduleAlias m → i.1 = m) :=
    fun i => imp_congr ⟨fun hname => Text.ofString_injective hname,
      fun halias => congrArg Text.ofString halias⟩ Option.some_inj
  have himports : (Surface.of r queries source).imports =
      (importedModules r).map fun m => (m, moduleAlias m) := rfl
  have hmapping : mappingName ≠ Text.ofString (moduleAlias m) :=
    (Models.alias_ne_mappingName (List.mem_append_right _ (List.mem_map_of_mem hm))).symm
  simp only [Surface.bindings, himports, List.map_append, List.forall_mem_append,
    List.forall_mem_map, List.forall_mem_singleton, himport, Models.forall_standardImports_iff,
    Models.moduleAlias_eq_iff, definition, hperm.mem_iff, hmapping, reduceCtorEq, imp_false,
    not_false_eq_true, and_true, and_assoc]

/-- The alias of a module stands for that module only. -/
theorem forall_alias_iff (h : s.compile known includeMeta = .ok r)
    (queries : List (String × String)) (source : String) :
    (∀ m ∈ importedModules r, ∀ b ∈ (Surface.of r queries source).bindings,
      b.name = Text.ofString (moduleAlias m) → b.module? = some m) ↔
      AliasesApart r ∧ ∀ t ∈ r.generated, t.name ∉ aliases r := by
  have halias : ∀ n : Text, n ∉ aliases r ↔
      ∀ m ∈ importedModules r, n ≠ Text.ofString (moduleAlias m) := by
    simp [aliases, imports, eq_comm]
  simp only [halias]
  refine (forall₂_congr fun m hm => forall_bindings_alias_iff h queries source (m := m) hm).trans ?_
  constructor
  · intro hall
    exact ⟨⟨fun m hm m' hm' => (hall m' hm').2.1 m hm, fun ht => (hall "t" ht).1 rfl⟩,
      fun t ht m hm => (hall m hm).2.2 t ht⟩
  · rintro ⟨himports, htypes⟩ m hm
    exact ⟨fun ht => himports.typing (ht ▸ hm), fun m' hm' => himports.modules m' hm' m hm,
      fun t ht => htypes t ht m hm⟩

/-- **Names apart.** In the module of a compiled registry, whose text consists of statements that
bind the aliases of its imports, the names of its types and that of the mapping of the bound
queries, nothing is bound twice and nothing is bound that the module takes to be known everywhere,
if and only if the names of the registry are apart: no imported module has the name of another
one with underscores for points, or the name that makes the alias of the typing module, and no type
has one of the names that the module uses for something else. -/
theorem names_apart_iff (h : s.compile known includeMeta = .ok r)
    (queries : List (String × String)) (source : String) :
    ∃ text, (Surface.of r queries source).toText r = .ok text ∧
      Consists text (Surface.of r queries source).bindings
        ((r.generated.filter isModel).map (·.name)) ∧
      ((Surface.of r queries source).bindings.Pairwise Binding.Apart ∧
          (∀ b ∈ (Surface.of r queries source).bindings, b.name ∉ builtinNames r) ↔
        NamesApart r) ∧
      ((∀ m ∈ importedModules r, ∀ b ∈ (Surface.of r queries source).bindings,
          b.name = Text.ofString (moduleAlias m) → b.module? = some m) ↔
        AliasesApart r ∧ ∀ t ∈ r.generated, t.name ∉ aliases r) := by
  obtain ⟨text, htext⟩ := exists_surface_toText h queries source
  refine ⟨text, htext, Models.consists_of_toText htext, ?_, forall_alias_iff h queries source⟩
  rw [pairwise_bindings_iff h, forall_bindings_iff h]
  constructor
  · rintro ⟨⟨himports, htypes⟩, hnames, hbuiltins⟩
    exact ⟨himports, fun t ht => ⟨(htypes t ht).1, (htypes t ht).2, hnames t ht⟩, hbuiltins⟩
  · rintro ⟨himports, htypes, hbuiltins⟩
    exact ⟨⟨himports, fun t ht => ⟨(htypes t ht).1, (htypes t ht).2.1⟩⟩,
      fun t ht => (htypes t ht).2.2, hbuiltins⟩

theorem names_apart_iff_calendar :
    ∃ r, calendar.compile (.extend .standard dates) false = .ok r ∧
      (Surface.of r [] "").bindings.Pairwise Binding.Apart ∧
        ∀ b ∈ (Surface.of r [] "").bindings, b.name ∉ builtinNames r := by
  have h : calendar.compile (.extend .standard dates) false =
      .ok (calendar.image (.extend .standard dates) false) := rfl
  have hapart : NamesApart (calendar.image (.extend .standard dates) false) :=
    ⟨by decide, by decide, by decide⟩
  obtain ⟨-, -, -, hiff, -⟩ := names_apart_iff h [] ""
  exact ⟨_, h, hiff.mpr hapart⟩

/-! ## Schemas whose names clash -/

/-- Fields of native types. -/
def pointed : Schema where
  types :=
    [⟨"Query", none, .object
      [⟨"a", .named "A", none, [], false, none⟩, ⟨"b", .named "B", none, [], false, none⟩] []⟩]
  roots := ⟨some "Query", none, none⟩

/-- Native types of two modules with one alias. -/
def twins : NativeScalars := [("A", ⟨"a.b", "X"⟩), ("B", ⟨"a_b", "Y"⟩)]

/-- A type with the name of a native type that is known everywhere, and one with the name of an
alias. -/
def shadowing : Schema where
  types :=
    [⟨"str", none, .object [⟨"s", .named "String", none, [], false, none⟩] []⟩,
      ⟨"_t", none, .scalar⟩]
  roots := ⟨some "str", none, none⟩

/-- That a module is rendered of a registry. -/
def IsRendered (r : Registry) : Prop :=
  ∃ text, (Generator.mk r [] "" none).render ⟨[]⟩ Template.builtinName = .ok text

/-- Modules are rendered although one alias stands for two modules, or types have the name that
their own fields take for a native type and the name of an alias. -/
theorem names_clash :
    (∃ r, pointed.compile twins false = .ok r ∧ IsRendered r ∧
      ("a.b" ∈ importedModules r ∧ "a_b" ∈ importedModules r ∧
        moduleAlias "a.b" = moduleAlias "a_b") ∧
      ¬ (Surface.of r [] "").bindings.Pairwise Binding.Apart) ∧
    ∃ r, shadowing.compile .standard false = .ok r ∧ IsRendered r ∧
      (¬ ∀ b ∈ (Surface.of r [] "").bindings, b.name ∉ builtinNames r) ∧
      ¬ (Surface.of r [] "").bindings.Pairwise Binding.Apart := by
  have hpointed : pointed.compile twins false = .ok (pointed.image twins false) := rfl
  have hshadowing : shadowing.compile .standard false = .ok (shadowing.image .standard false) := rfl
  refine ⟨⟨_, hpointed, ?_, ⟨?_, ?_, ?_⟩, ?_⟩, ⟨_, hshadowing, ?_, ?_, ?_⟩⟩
  · refine Generator.exists_render_of_isOk (Template.isBuiltin_none _) ?_
    decide +kernel
  · decide
  · decide
  · decide
  · rw [pairwise_bindings_iff hpointed]
    decide
  · refine Generator.exists_render_of_isOk (Template.isBuiltin_none _) ?_
    decide +kernel
  · rw [forall_bindings_iff hshadowing]
    decide
  · rw [pairwise_bindings_iff hshadowing]
    decide

end Schema

end GraphBind
