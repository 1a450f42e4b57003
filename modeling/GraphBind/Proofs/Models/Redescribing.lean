import GraphBind.Proofs.Models.References
import GraphBind.Proofs.Models.SourceDocstring

/-!
# Modules with other descriptions

Descriptions are printed, and nothing else depends on them: a map of types that changes nothing but
descriptions (`Rewords`) leaves the imports of a module, its annotations and whether it is accepted
as they are. If it changes the types of one name only (`Redescribes`), it changes the section of
this type only, so that the text of a module has one place for a description if the section has
one (`Places`). `Generator.contains_of_places` says what a module is then, with a description and
without.
-/

namespace GraphBind

/-- A field without its description. -/
def CompiledField.plain (f : CompiledField) : CompiledField := { f with description := none }

/-- A type without its description and those of its fields. -/
def CompiledType.plain (t : CompiledType) : CompiledType :=
  { t with description := none, fields := t.fields.map CompiledField.plain }

/-- That a map of types changes nothing but descriptions. -/
def Rewords (φ : CompiledType → CompiledType) : Prop := ∀ t, (φ t).plain = t.plain

/-- That a map of types changes, for each description, nothing but descriptions of the types of a
name. -/
structure Redescribes (name : Text) (φ : Option Text → CompiledType → CompiledType) : Prop where
  rewords : ∀ d, Rewords (φ d)
  others : ∀ d u, u.name ≠ name → φ d u = u

/-- A registry whose types are mapped. -/
def Registry.reword (φ : CompiledType → CompiledType) (r : Registry) : Registry :=
  { r with types := r.types.map fun e => (e.1, φ e.2) }

/-- A generator whose types are mapped. -/
def Generator.reword (φ : CompiledType → CompiledType) (g : Generator) : Generator :=
  { g with registry := g.registry.reword φ }

/-- What is left of a string without a part of it is a string. -/
theorem Text.exists_ofString_of_append {s : String} {front middle behind : Text}
    (h : Text.ofString s = front ++ middle ++ behind) :
    ∃ s', Text.ofString s' = front ++ behind := by
  obtain ⟨_, cs, -, hfront, rfl⟩ := List.map_eq_append_iff.mp h
  obtain ⟨cs', _, -, rfl, -⟩ := List.map_eq_append_iff.mp hfront
  refine ⟨String.ofList (cs' ++ cs), ?_⟩
  rw [Text.ofString_ofList, Text.ofChars_append]
  rfl

variable {name : Text} {r : Registry} {t : CompiledType} {ts : List CompiledType}

/-! ## What does not depend on descriptions -/

section Rewords

variable {φ : CompiledType → CompiledType} (hφ : Rewords φ)

include hφ

/-- What is made of a type without its descriptions is made of the mapped one too. -/
theorem Rewords.comp {α : Type} {f : CompiledType → α} (hf : ∀ t, f t.plain = f t) : f ∘ φ = f := by
  funext t
  rw [Function.comp_apply, ← hf (φ t), hφ t, hf t]

namespace Registry

theorem generated_reword : (r.reword φ).generated = r.generated.map φ := by
  have htypes : (r.reword φ).types.map (·.2) = (r.types.map (·.2)).map φ := by
    rw [Registry.reword, List.map_map, List.map_map]
    rfl
  rw [generated, htypes, List.filter_map, hφ.comp fun _ => rfl]
  rfl

theorem byKind_reword (k : Kind) : (r.reword φ).byKind k = (r.byKind k).map φ := by
  rw [byKind, generated_reword hφ, List.filter_map, hφ.comp fun _ => rfl]
  rfl

omit hφ in
theorem resolve_reword (ft : FieldType) : (r.reword φ).resolve ft = (r.resolve ft).map φ := by
  unfold resolve get find? Registry.reword
  rw [Entries.get?_map]
  cases Entries.get? ft.typeName r.types with
  | none => rfl
  | some t => rfl

end Registry

namespace Models

theorem annotation_reword : annotation (r.reword φ) = annotation r := by
  funext ft
  have hbase := congrFun (hφ.comp (f := baseName) fun _ => rfl)
  unfold annotation
  rw [Registry.resolve_reword]
  cases r.resolve ft with
  | error e => rfl
  | ok t => exact congrArg (fun base => Except.ok (annotate base ft.modifiers)) (hbase t)

/-- Whether the references of a module are valid is not up to descriptions. -/
theorem isReferenceValid_reword : isReferenceValid (r.reword φ) = isReferenceValid r := by
  funext f
  have hnative := hφ.comp (f := CompiledType.native) fun _ => rfl
  unfold isReferenceValid
  rw [Registry.resolve_reword]
  cases r.resolve f.type with
  | error e => rfl
  | ok t =>
    have hmapped : (φ t).native = t.native := congrFun hnative t
    rw [Except.map]
    generalize φ t = u at hmapped ⊢
    obtain ⟨_, _, _, _, _, _, _, native⟩ := t
    obtain ⟨_, _, _, _, _, _, _, native'⟩ := u
    obtain rfl : native' = native := hmapped
    cases native' with
    | none => rfl
    | some native => rfl

theorem isAnnotationShallow_reword : isAnnotationShallow (r.reword φ) = isAnnotationShallow r := by
  funext f
  unfold isAnnotationShallow
  rw [annotation_reword hφ]

theorem modelSection_reword : modelSection (r.reword φ) = modelSection r := by
  funext t
  unfold modelSection fieldLines
  rw [annotation_reword hφ]

theorem imports_reword : imports (r.reword φ) = imports r := by
  have hnative := hφ.comp (f := CompiledType.native) fun _ => rfl
  have htypes : (r.reword φ).types.filterMap (·.2.native) = r.types.filterMap (·.2.native) := by
    rw [Registry.reword, List.filterMap_map]
    exact List.filterMap_congr fun e _ => congrFun hnative e.2
  unfold imports importedModules
  rw [htypes]

/-- What a module holds, with the types mapped. -/
def Surface.reword (φ : CompiledType → CompiledType) (s : Surface) : Surface :=
  { s with
    scalars := s.scalars.map φ
    enumerations := s.enumerations.map φ
    unions := s.unions.map φ
    models := s.models.map φ }

omit hφ in
theorem isModel_plain (t : CompiledType) : isModel t.plain = isModel t := rfl

theorem surface_reword (queries : List (String × String)) (source : String) :
    Surface.of (r.reword φ) queries source = (Surface.of r queries source).reword φ := by
  have hmodels : (r.reword φ).generated.filter isModel = (r.generated.filter isModel).map φ := by
    rw [Registry.generated_reword hφ, List.filter_map, hφ.comp isModel_plain]
  unfold Surface.of
  rw [imports_reword hφ, hmodels]
  simp only [Registry.byKind_reword hφ]
  rfl

/-- Whether a module is accepted does not depend on descriptions. -/
theorem isValid_reword (s : Surface) : (s.reword φ).isValid (r.reword φ) = s.isValid r := by
  have hmodel : ∀ t : CompiledType, (isModelValid t.plain && t.plain.fields.all
      (isReferenceValid r)) = (isModelValid t && t.fields.all (isReferenceValid r)) := by
    intro t
    have hnames : t.plain.fields.map (·.name) = t.fields.map (·.name) := List.map_map
    have hfields : t.plain.fields.all (isReferenceValid r) = t.fields.all (isReferenceValid r) :=
      List.all_map
    rw [hfields]
    unfold isModelValid
    rw [hnames]
    rfl
  have hbrackets : ∀ t : CompiledType, t.plain.fields.all (isAnnotationShallow r) =
      t.fields.all (isAnnotationShallow r) := fun _ => List.all_map
  have hname := hφ.comp (f := fun t => Text.isBindable t.name) fun _ => rfl
  have henum := hφ.comp (f := isEnumValid) fun _ => rfl
  simp only [Surface.isValid, Surface.reword, List.all_map, isReferenceValid_reword hφ,
    isAnnotationShallow_reword hφ]
  rw [hname, henum, hφ.comp hmodel, hφ.comp hbrackets]

theorem toText_reword (s : Surface) : s.toText (r.reword φ) = s.toText r := by
  unfold Surface.toText
  rw [modelSection_reword hφ]

theorem completionSection_reword (models : List CompiledType) :
    completionSection (models.map φ) = completionSection models := by
  have hline := hφ.comp (f := fun t => t.name ++ Text.ofString ".model_rebuild()\n") fun _ => rfl
  unfold completionSection
  rw [List.isEmpty_map, List.map_map, hline]

end Models

end Rewords

/-! ## The place of a description -/

/-- Of types with different names, none around a part has the name of one in it. -/
theorem names_apart {before after : List CompiledType}
    (hn : ((before ++ ts ++ after).map (·.name)).Nodup) (ht : t ∈ ts) :
    (ts.map (·.name)).Nodup ∧ (∀ u ∈ before, u.name ≠ t.name) ∧
      ∀ u ∈ after, u.name ≠ t.name := by
  have hmem : t.name ∈ ts.map (·.name) := List.mem_map_of_mem ht
  rw [List.map_append, List.map_append, List.nodup_append, List.nodup_append] at hn
  obtain ⟨⟨-, hts, hbefore⟩, -, hafter⟩ := hn
  refine ⟨hts, fun u hu => hbefore _ (List.mem_map_of_mem hu) _ hmem, fun u hu => ?_⟩
  exact (hafter _ (List.mem_append_right _ hmem) _ (List.mem_map_of_mem hu)).symm

namespace Redescribes

variable {φ : Option Text → CompiledType → CompiledType}

theorem map_of_ne (hφ : Redescribes name φ) (d : Option Text) (h : ∀ t ∈ ts, t.name ≠ name) :
    ts.map (φ d) = ts :=
  (List.map_congr_left fun t ht => hφ.others d t (h t ht)).trans (List.map_id _)

/-- Of types with different names one is changed. -/
theorem exists_map (hφ : Redescribes t.name φ) (hn : (ts.map (·.name)).Nodup) (ht : t ∈ ts) :
    ∃ before after, ts = before ++ t :: after ∧
      ∀ d, ts.map (φ d) = before ++ φ d t :: after := by
  obtain ⟨before, after, rfl⟩ := List.append_of_mem ht
  refine ⟨before, after, rfl, fun d => ?_⟩
  have hsplit : before ++ t :: after = before ++ [t] ++ after := by simp
  obtain ⟨-, hbefore, hafter⟩ := names_apart (hsplit ▸ hn) (List.mem_singleton_self t)
  rw [List.map_append, List.map_cons, hφ.map_of_ne d hbefore, hφ.map_of_ne d hafter]

end Redescribes

namespace Models

theorem describe_none (shown : Text → Text) : describe none shown = [] := Text.ofString_ofList []

theorem describe_some {d : Text} (hd : d ≠ []) (shown : Text → Text) :
    describe (some d) shown = shown d := if_neg fun hempty => hd (List.isEmpty_iff.mp hempty)

/-- That a text which is made with a description has a place for it, behind `opening` and in front
of `closing`, and does not depend on the description otherwise. -/
def Places (opening closing : Text) (shown : Text → Text) (text : Option Text → Text) : Prop :=
  ∃ front behind, opening <:+ front ∧ closing <+: behind ∧
    ∀ d, text d = front ++ describe d shown ++ behind

namespace Places

variable {opening closing : Text} {shown : Text → Text} {text : Option Text → Text}

/-- A place for a description stays one between other texts. -/
theorem between (h : Places opening closing shown text) (before after : Text) :
    Places opening closing shown fun d => before ++ text d ++ after := by
  obtain ⟨front, behind, hopening, hclosing, htext⟩ := h
  refine ⟨before ++ front, behind ++ after, ?_, ?_, fun d => ?_⟩
  · exact hopening.trans (List.suffix_append ..)
  · exact hclosing.trans (List.prefix_append ..)
  · dsimp only
    rw [htext d]
    simp only [List.append_assoc]

/-- Texts with a text among them that is made with a description. -/
theorem concat (h : Places opening closing shown text) (before after : List Text) :
    Places opening closing shown fun d => Text.concat (before ++ text d :: after) := by
  have hbetween := h.between (Text.concat before) (Text.concat after)
  simpa [Text.concat, List.append_assoc] using hbetween

end Places

section Toplevel

variable {s : Surface} {text opening closing : Text} {shown : Text → Text}
  {φ : Option Text → CompiledType → CompiledType} (hφ : Redescribes t.name φ)
  (hn : (s.defined.map (·.name)).Nodup) (h : s.toText r = .ok text)

include hφ hn h

/-- A place in the line of a scalar is one in the module. -/
theorem places_toText_of_mem_scalars (ht : t ∈ s.scalars)
    (hsection : Places opening closing shown fun d => scalarSection (s.scalars.map (φ d))) :
    ∃ text, Places opening closing shown text ∧
      ∀ d, (s.reword (φ d)).toText r = .ok (text d) := by
  obtain ⟨models, hmodels, -⟩ := bind_eq_ok_iff.mp h
  have hdefined : s.defined = [] ++ s.scalars ++ (s.enumerations ++ s.unions ++ s.models) := by
    simp [Surface.defined]
  obtain ⟨-, -, hothers⟩ := names_apart (hdefined ▸ hn) ht
  simp only [List.forall_mem_append] at hothers
  obtain ⟨⟨henumerations, hunions⟩, hothers⟩ := hothers
  have hbetween := hsection.between (docstringSection s.source ++ importSection s.imports)
    (Text.concat (s.enumerations.map enumSection) ++ (unionSection s.unions ++
      (Text.concat models ++ (completionSection s.models ++ querySection s.queries))))
  refine ⟨_, hbetween, fun d => bind_eq_ok_iff.mpr ⟨models, ?_, ?_⟩⟩
  · rw [Surface.reword, hφ.map_of_ne d hothers]
    exact hmodels
  · simp only [Surface.reword, hφ.map_of_ne d henumerations, hφ.map_of_ne d hunions,
      hφ.map_of_ne d hothers, List.append_assoc]
    rfl

/-- A place in the section of an enumeration is one in the module. -/
theorem places_toText_of_mem_enumerations (ht : t ∈ s.enumerations)
    (hsection : Places opening closing shown fun d => enumSection (φ d t)) :
    ∃ text, Places opening closing shown text ∧
      ∀ d, (s.reword (φ d)).toText r = .ok (text d) := by
  obtain ⟨models, hmodels, -⟩ := bind_eq_ok_iff.mp h
  have hdefined : s.defined = s.scalars ++ s.enumerations ++ (s.unions ++ s.models) := by
    simp [Surface.defined]
  obtain ⟨hnodup, hscalars, hothers⟩ := names_apart (hdefined ▸ hn) ht
  obtain ⟨hunions, hothers⟩ := List.forall_mem_append.mp hothers
  obtain ⟨before, after, -, hmap⟩ := hφ.exists_map hnodup ht
  have hbetween := (hsection.concat (before.map enumSection) (after.map enumSection)).between
    (docstringSection s.source ++ importSection s.imports ++ scalarSection s.scalars)
    (unionSection s.unions ++ (Text.concat models ++ (completionSection s.models ++
      querySection s.queries)))
  refine ⟨_, hbetween, fun d => bind_eq_ok_iff.mpr ⟨models, ?_, ?_⟩⟩
  · rw [Surface.reword, hφ.map_of_ne d hothers]
    exact hmodels
  · simp only [Surface.reword, hφ.map_of_ne d hscalars, hφ.map_of_ne d hunions,
      hφ.map_of_ne d hothers, hmap, List.map_append, List.map_cons, List.append_assoc]
    rfl

/-- A place in the section of a model is one in the module. -/
theorem places_toText_of_mem_models (ht : t ∈ s.models)
    (hsection : ∀ {lines : Text}, modelSection r t = .ok lines →
      ∃ text, Places opening closing shown text ∧ ∀ d, modelSection r (φ d t) = .ok (text d)) :
    ∃ text, Places opening closing shown text ∧
      ∀ d, (s.reword (φ d)).toText r = .ok (text d) := by
  obtain ⟨models, hmodels, -⟩ := bind_eq_ok_iff.mp h
  have hdefined : s.defined = s.scalars ++ s.enumerations ++ s.unions ++ s.models ++ [] := by
    simp [Surface.defined]
  obtain ⟨hnodup, hothers, -⟩ := names_apart (hdefined ▸ hn) ht
  simp only [List.forall_mem_append] at hothers
  obtain ⟨⟨hscalars, henumerations⟩, hunions⟩ := hothers
  obtain ⟨before, after, hsplit, hmap⟩ := hφ.exists_map hnodup ht
  rw [hsplit, mapM_insert_eq_ok_iff] at hmodels
  obtain ⟨front, _, behind, hfront, hmodelSection, hbehind, rfl⟩ := hmodels
  obtain ⟨text, hplaces, htext⟩ := hsection hmodelSection
  have hbetween := (hplaces.concat front behind).between
    (docstringSection s.source ++ importSection s.imports ++ scalarSection s.scalars ++
      Text.concat (s.enumerations.map enumSection) ++ unionSection s.unions)
    (completionSection s.models ++ querySection s.queries)
  refine ⟨_, hbetween, fun d => bind_eq_ok_iff.mpr ⟨front ++ text d :: behind, ?_, ?_⟩⟩
  · rw [Surface.reword, hmap, mapM_insert_eq_ok_iff]
    exact ⟨front, _, behind, hfront, htext d, hbehind, rfl⟩
  · simp only [Surface.reword, hφ.map_of_ne d hscalars, hφ.map_of_ne d henumerations,
      hφ.map_of_ne d hunions, completionSection_reword (hφ.rewords d), List.append_assoc]
    rfl

end Toplevel

end Models

open Models (Surface Places describe)

/-! ## Modules with a description -/

namespace Schema

variable {s : Schema} {known : NativeScalars} {includeMeta : Bool}
  (h : s.compile known includeMeta = .ok r)

include h

/-- A registry whose types of a name stay as they are stays as it is. -/
theorem reword_of_fixed (ht : t ∈ r.generated) {φ : CompiledType → CompiledType} (hφ : φ t = t)
    (hothers : ∀ u, u.name ≠ t.name → φ u = u) : r.reword φ = r := by
  obtain ⟨-, rfl⟩ := compile_eq_ok_iff.mp h
  rw [generated_image] at ht
  obtain ⟨d, hd, rfl⟩ := List.mem_map.mp ht
  have hsame : ∀ e ∈ (s.image known includeMeta).types, (e.1, φ e.2) = e := by
    intro e he
    rcases List.mem_append.mp he with hmem | hmem
    · obtain ⟨p, hp, rfl⟩ := List.mem_map.mp hmem
      have hfresh := (isFresh_eq_true_iff.mp (isFresh_of_mem_reserved hd)).1
      have hne : p.1 ≠ d.name := fun heq => hfresh (heq ▸ List.mem_map_of_mem hp)
      exact congrArg (Prod.mk p.1) (hothers _ hne)
    · obtain ⟨d', hd', rfl⟩ := List.mem_map.mp hmem
      by_cases hname : d'.name = d.name
      · obtain rfl := List.inj_on_of_nodup_map (nodup_reserved s known includeMeta) hd' hd hname
        exact congrArg (Prod.mk d'.name) hφ
      · exact congrArg (Prod.mk d'.name) (hothers _ hname)
  have hmap := (List.map_congr_left hsame).trans (List.map_id _)
  exact congrArg (fun types => Registry.mk types s.roots) hmap

theorem nodup_defined (queries : List (String × String)) (source : String) :
    ((Surface.of r queries source).defined.map (·.name)).Nodup :=
  have hdefines := Models.defines_surface h queries source
  (hdefines.perm.map _).nodup_iff.mpr hdefines.once

end Schema

namespace Generator

variable {g : Generator} {files : FileTree} {module : String}

/-- A module is rendered with other descriptions if the text with them holds no null character and
the module would be accepted with any other. -/
theorem render_reword_iff {φ : CompiledType → CompiledType} (hφ : Rewords φ)
    (hbuiltin : Template.IsBuiltin files g.templateDirectory) :
    (g.reword φ).render files Template.builtinName = .ok module ↔
      (g.surface.reword φ).toText g.registry = .ok (Text.ofString module) ∧
        .char '\x00' ∉ Text.ofString module ∧ g.surface.isValid g.registry = true := by
  have hsurface : (g.reword φ).surface = g.surface.reword φ :=
    Models.surface_reword hφ g.queries g.source
  have hnull : .char '\x00' ∈ Text.ofString module ↔ '\x00' ∈ module.toList := by
    simp [Text.ofString, Text.ofChars]
  rw [render_eq_ok_iff (g := g.reword φ) hbuiltin, hsurface, hnull]
  change Surface.toText _ (g.registry.reword φ) = _ ∧ _ ∧
    Surface.isValid _ (g.registry.reword φ) = true ↔ _
  rw [Models.toText_reword hφ, Models.isValid_reword hφ]

/-- That a module with a description is the module without it, with what shows the description put
in between `opening` and `closing`, and that it is rendered if that is and no null character is
shown. -/
def Contains (g : Generator) (files : FileTree) (opening closing : Text) (shown : Text → Text)
    (φ : Option Text → CompiledType → CompiledType) : Prop :=
  ∃ front behind, opening <:+ front ∧ closing <+: behind ∧ ∀ d module,
    (g.reword (φ d)).render files Template.builtinName = .ok module ↔
      Text.ofString module = front ++ describe d shown ++ behind ∧
        .char '\x00' ∉ describe d shown ∧ ∃ plain, Text.ofString plain = front ++ behind ∧
          (g.reword (φ none)).render files Template.builtinName = .ok plain

/-- Modules whose texts have one place for a description contain it. -/
theorem contains_of_places {opening closing : Text} {shown : Text → Text}
    {φ : Option Text → CompiledType → CompiledType} {text : Option Text → Text}
    (hbuiltin : Template.IsBuiltin files g.templateDirectory) (hφ : ∀ d, Rewords (φ d))
    (hplaces : Places opening closing shown text)
    (htext : ∀ d, (g.surface.reword (φ d)).toText g.registry = .ok (text d)) :
    g.Contains files opening closing shown φ := by
  obtain ⟨front, behind, hopening, hclosing, hplaces⟩ := hplaces
  have hrender : ∀ d module, (g.reword (φ d)).render files Template.builtinName =
      .ok module ↔ Text.ofString module = front ++ describe d shown ++ behind ∧
        .char '\x00' ∉ Text.ofString module ∧ g.surface.isValid g.registry = true := by
    intro d module
    rw [render_reword_iff (hφ d) hbuiltin, htext d, hplaces d, Except.ok.injEq, eq_comm]
  have hnone : front ++ describe none shown ++ behind = front ++ behind := by
    rw [Models.describe_none, List.append_nil]
  refine ⟨front, behind, hopening, hclosing, fun d module => ?_⟩
  simp only [hrender, hnone]
  constructor
  · rintro ⟨hmodule, hnull, hvalid⟩
    -- The module is a string, and so is what is left of it without the description.
    obtain ⟨plain, hplain⟩ := Text.exists_ofString_of_append hmodule
    rw [hmodule] at hnull
    simp only [List.mem_append, not_or] at hnull
    refine ⟨hmodule, hnull.1.2, plain, hplain, hplain, ?_, hvalid⟩
    rw [hplain]
    simp [hnull]
  · rintro ⟨hmodule, hnull, plain, hplain, -, hplainNull, hvalid⟩
    refine ⟨hmodule, ?_, hvalid⟩
    rw [hplain, List.mem_append, not_or] at hplainNull
    rw [hmodule]
    simp [hnull, hplainNull]

end Generator

end GraphBind
