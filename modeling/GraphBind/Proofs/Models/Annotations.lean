import GraphBind.Proofs.Models.References

/-!
# What annotations say

An annotation follows the reference that it is made for (`TypeRef.annotated`): a type that may be
null is optional, a list wraps what it holds, and a non-null type is written like the type inside of
it, but for an outermost optional wrapping. The printer goes over the modifiers instead and keeps
that wrapping back until it is known whether it is needed; it comes to the same if the base name has
no brackets (`annotate_modifiersOf`), since then nothing of it is taken for a wrapping.

Of a reference the annotation shows everything but how often a type is marked as non-null:
`annotateInner_eq_iff` takes the annotations of two references apart in parallel.
-/

namespace GraphBind

open Models (annotate annotateInner optionalOf listOf baseName)

variable {base : Text} {ms : List Modifier} {ref ref' : TypeRef}

/-! ## References -/

namespace TypeRef

/-- A reference in which marks of non-null types that follow each other are one mark. -/
def collapse : TypeRef → TypeRef
  | named name => named name
  | list inner => list inner.collapse
  | nonNull inner =>
    match inner.collapse with
    | nonNull core => nonNull core
    | core => nonNull core

theorem collapse_nonNull_nonNull (ref : TypeRef) :
    (nonNull (nonNull ref)).collapse = (nonNull ref).collapse := by
  change (match (nonNull ref).collapse with
    | nonNull core => nonNull core
    | core => nonNull core) = _
  rw [collapse]
  cases ref.collapse <;> rfl

/-- Writing marks twice changes nothing about what may be null. -/
theorem isOptional_collapse (ref : TypeRef) :
    (FieldType.ofRef ref.collapse).isOptional = (FieldType.ofRef ref).isOptional := by
  rw [FieldType.ofRef_eq, FieldType.ofRef_eq]
  cases ref with
  | named name => rfl
  | list inner => rfl
  | nonNull inner =>
    rw [collapse]
    cases inner.collapse <;> rfl

/-- A collapsed reference is known by whether it may be null and by its non-null form. -/
theorem collapse_eq_iff : ref.collapse = ref'.collapse ↔
    (FieldType.ofRef ref).isOptional = (FieldType.ofRef ref').isOptional ∧
      (nonNull ref).collapse = (nonNull ref').collapse := by
  constructor
  · intro h
    rw [← isOptional_collapse ref, ← isOptional_collapse ref', h, collapse, collapse, h]
    exact ⟨rfl, rfl⟩
  · rintro ⟨hoptional, h⟩
    rw [FieldType.ofRef_eq, FieldType.ofRef_eq] at hoptional
    cases ref with
    | nonNull inner =>
      cases ref' with
      | nonNull inner' => rwa [collapse_nonNull_nonNull, collapse_nonNull_nonNull] at h
      | named name' => cases hoptional
      | list inner' => cases hoptional
    | named name =>
      cases ref' with
      | nonNull inner' => cases hoptional
      | named name' => exact nonNull.inj h
      | list inner' => exact nonNull.inj h
    | list inner =>
      cases ref' with
      | nonNull inner' => cases hoptional
      | named name' => exact nonNull.inj h
      | list inner' => exact nonNull.inj h

end TypeRef

/-! ## Wrappings -/

namespace Models

/-- What an optional type opens with. -/
def optionalOpening : Text := "_t.Optional["

/-- An annotation without its outermost optional wrapping, if it has one. -/
def withoutOptional (annotated : Text) : Text :=
  if optionalOpening <+: annotated then (annotated.drop optionalOpening.length).dropLast
  else annotated

theorem optionalOf_eq (inner : Text) :
    optionalOf inner = optionalOpening ++ inner ++ [.char ']'] := by
  have hclose : Text.ofString "]" = [.char ']'] := Text.ofString_ofList [']']
  rw [optionalOf, hclose, optionalOpening]

theorem listOf_eq (inner : Text) :
    listOf inner = Text.ofString "_t.List[" ++ inner ++ [.char ']'] := by
  have hclose : Text.ofString "]" = [.char ']'] := Text.ofString_ofList [']']
  rw [listOf, hclose]

theorem optionalOf_injective {inner inner' : Text} (h : optionalOf inner = optionalOf inner') :
    inner = inner' := by
  rw [optionalOf_eq, optionalOf_eq, List.append_assoc, List.append_assoc] at h
  exact List.append_cancel_right (List.append_cancel_left h)

theorem listOf_injective {inner inner' : Text} (h : listOf inner = listOf inner') :
    inner = inner' := by
  rw [listOf_eq, listOf_eq, List.append_assoc, List.append_assoc] at h
  exact List.append_cancel_right (List.append_cancel_left h)

theorem opening_prefix_optionalOf (inner : Text) : optionalOpening <+: optionalOf inner := by
  rw [optionalOf_eq, List.append_assoc]
  exact List.prefix_append ..

theorem not_opening_prefix_listOf (inner : Text) : ¬ optionalOpening <+: listOf inner := by
  have hlist : Text.ofString "_t.List[" = .ofChars ['_', 't', '.', 'L', 'i', 's', 't', '['] :=
    Text.ofString_ofList _
  rw [listOf_eq, hlist, optionalOpening, Text.ofString_ofList]
  simp [Text.ofChars]

theorem bracket_mem_opening : .char '[' ∈ optionalOpening := by
  rw [optionalOpening, Text.ofString_ofList]
  decide

theorem bracket_mem_listOf (inner : Text) : .char '[' ∈ listOf inner := by
  have hopen : .char '[' ∈ Text.ofString "_t.List[" := by
    rw [Text.ofString_ofList]
    decide
  rw [listOf_eq]
  exact List.mem_append_left _ (List.mem_append_left _ hopen)

theorem withoutOptional_optionalOf (inner : Text) : withoutOptional (optionalOf inner) = inner := by
  rw [withoutOptional, if_pos (opening_prefix_optionalOf inner), optionalOf_eq, List.append_assoc,
    List.drop_left, List.dropLast_concat]

theorem withoutOptional_of_not_prefix {text : Text} (h : ¬ optionalOpening <+: text) :
    withoutOptional text = text := if_neg h

/-! ## Annotations -/

theorem annotateInner_list (base : Text) (ms : List Modifier) :
    annotateInner base (.list :: ms) = (listOf (annotate base ms), true) := by
  rw [annotateInner, annotate]
  rcases annotateInner base ms with ⟨inner, _ | _⟩ <;> rfl

theorem annotateInner_nonNull (base : Text) (ms : List Modifier) :
    annotateInner base (.nonNull :: ms) = ((annotateInner base ms).1, false) := rfl

/-- Marks of non-null types that follow each other are printed as one. -/
theorem annotateInner_collapse (base : Text) (ref : TypeRef) :
    annotateInner base (FieldType.modifiersOf ref.collapse) =
      annotateInner base (FieldType.modifiersOf ref) := by
  induction ref with
  | named name => rfl
  | list inner ih =>
    rw [TypeRef.collapse, FieldType.modifiersOf, FieldType.modifiersOf, annotateInner_list,
      annotateInner_list, annotate, annotate, ih]
  | nonNull inner ih =>
    rw [FieldType.modifiersOf, annotateInner_nonNull, ← ih, TypeRef.collapse]
    cases inner.collapse <;> rfl

/-- What is kept back is an optional wrapping exactly for a type that may be null. -/
theorem snd_annotateInner (base : Text) (ref : TypeRef) :
    (annotateInner base (FieldType.modifiersOf ref)).2 = (FieldType.ofRef ref).isOptional := by
  rw [FieldType.ofRef_eq]
  cases ref with
  | named name => rfl
  | list inner =>
    rw [FieldType.modifiersOf, annotateInner_list]
    rfl
  | nonNull inner => rfl

theorem collapse_eq_of_annotateInner
    (h : annotateInner base (FieldType.modifiersOf ref) =
      annotateInner base (FieldType.modifiersOf ref'))
    (hnonNull : (TypeRef.nonNull ref).collapse = (TypeRef.nonNull ref').collapse) :
    ref.collapse = ref'.collapse := by
  refine TypeRef.collapse_eq_iff.mpr ⟨?_, hnonNull⟩
  rw [← snd_annotateInner base ref, ← snd_annotateInner base ref', h]

end Models

/-- The annotation of a reference to a type with a base name. -/
def TypeRef.annotated (base : Text) : TypeRef → Text
  | named _ => optionalOf base
  | list inner => optionalOf (listOf (inner.annotated base))
  | nonNull inner => Models.withoutOptional (inner.annotated base)

namespace Models

section Brackets

variable (hbase : .char '[' ∉ base)

include hbase

theorem not_opening_prefix_base : ¬ optionalOpening <+: base :=
  fun h => hbase (h.subset bracket_mem_opening)

/-- Without the wrapping that is kept back no annotation begins like an optional type. -/
theorem not_opening_prefix_annotateInner (ms : List Modifier) :
    ¬ optionalOpening <+: (annotateInner base ms).1 := by
  induction ms with
  | nil => exact not_opening_prefix_base hbase
  | cons m ms ih =>
    cases m with
    | nonNull => exact ih
    | list =>
      rw [annotateInner_list]
      exact not_opening_prefix_listOf _

theorem withoutOptional_annotate (ms : List Modifier) :
    withoutOptional (annotate base ms) = (annotateInner base ms).1 := by
  have hinner := not_opening_prefix_annotateInner hbase ms
  unfold annotate
  generalize annotateInner base ms = printed at hinner ⊢
  rcases printed with ⟨inner, _ | _⟩
  · exact withoutOptional_of_not_prefix hinner
  · exact withoutOptional_optionalOf inner

/-- An annotation opens as an optional type iff the reference may be null. -/
theorem opening_prefix_annotate_iff (ref : TypeRef) :
    optionalOpening <+: annotate base (FieldType.modifiersOf ref) ↔
      (FieldType.ofRef ref).isOptional = true := by
  have hinner := not_opening_prefix_annotateInner hbase (FieldType.modifiersOf ref)
  rw [← snd_annotateInner base ref, annotate]
  generalize annotateInner base (FieldType.modifiersOf ref) = printed at hinner ⊢
  rcases printed with ⟨inner, _ | _⟩
  · exact iff_of_false hinner Bool.false_ne_true
  · exact iff_of_true (opening_prefix_optionalOf inner) rfl

/-- The printer follows the reference. -/
theorem annotate_modifiersOf (ref : TypeRef) :
    annotate base (FieldType.modifiersOf ref) = ref.annotated base := by
  induction ref with
  | named name => rfl
  | list inner ih =>
    rw [FieldType.modifiersOf, annotate, annotateInner_list, ih]
    rfl
  | nonNull inner ih =>
    rw [FieldType.modifiersOf, annotate, annotateInner_nonNull, TypeRef.annotated, ← ih,
      withoutOptional_annotate hbase]

/-- Nothing of an annotation is left open by the wrapping that is kept back and what is inside. -/
theorem annotate_eq_iff {ms ms' : List Modifier} :
    annotate base ms = annotate base ms' ↔ annotateInner base ms = annotateInner base ms' := by
  have hinner := not_opening_prefix_annotateInner hbase ms
  have hinner' := not_opening_prefix_annotateInner hbase ms'
  refine ⟨fun h => ?_, fun h => by rw [annotate, annotate, h]⟩
  unfold annotate at h
  generalize annotateInner base ms = printed at hinner h ⊢
  generalize annotateInner base ms' = printed' at hinner' h ⊢
  rcases printed with ⟨inner, _ | _⟩ <;> rcases printed' with ⟨inner', _ | _⟩
  · exact congrArg (·, false) h
  · have heq : inner = optionalOf inner' := h
    exact absurd (heq ▸ opening_prefix_optionalOf inner') hinner
  · have heq : optionalOf inner = inner' := h
    exact absurd (heq ▸ opening_prefix_optionalOf inner) hinner'
  · exact congrArg (·, true) (optionalOf_injective h)

/-- Two annotations are the same inside of an optional wrapping if the references are the same when
they are taken as non-null ones. -/
theorem collapse_nonNull_of_annotateInner (hname : ref.typeName = ref'.typeName)
    (h : (annotateInner base (FieldType.modifiersOf ref)).1 =
      (annotateInner base (FieldType.modifiersOf ref')).1) :
    (TypeRef.nonNull ref).collapse = (TypeRef.nonNull ref').collapse := by
  induction ref generalizing ref' with
  | nonNull inner ih =>
    rw [TypeRef.collapse_nonNull_nonNull]
    exact ih hname h
  | named name =>
    induction ref' with
    | nonNull inner' ih' =>
      rw [TypeRef.collapse_nonNull_nonNull]
      exact ih' hname h
    | named name' => exact congrArg (fun n => (TypeRef.nonNull (.named n)).collapse) hname
    | list inner' _ =>
      rw [FieldType.modifiersOf, FieldType.modifiersOf, annotateInner_list] at h
      have heq : base = listOf _ := h
      exact absurd (heq ▸ bracket_mem_listOf _) hbase
  | list inner ih =>
    induction ref' with
    | nonNull inner' ih' =>
      rw [TypeRef.collapse_nonNull_nonNull]
      exact ih' hname h
    | named name' =>
      rw [FieldType.modifiersOf, FieldType.modifiersOf, annotateInner_list] at h
      have heq : listOf _ = base := h
      exact absurd (heq ▸ bracket_mem_listOf _) hbase
    | list inner' _ =>
      rw [FieldType.modifiersOf, FieldType.modifiersOf, annotateInner_list, annotateInner_list] at h
      have hinner := (annotate_eq_iff hbase).mp (listOf_injective h)
      have hcollapse : inner.collapse = inner'.collapse :=
        collapse_eq_of_annotateInner hinner (ih hname (congrArg Prod.fst hinner))
      rw [TypeRef.collapse, TypeRef.collapse, TypeRef.collapse, TypeRef.collapse, hcollapse]

/-- An annotation shows a reference, up to marks of non-null types that follow each other. -/
theorem annotateInner_eq_iff (hname : ref.typeName = ref'.typeName) :
    annotateInner base (FieldType.modifiersOf ref) =
        annotateInner base (FieldType.modifiersOf ref') ↔
      ref.collapse = ref'.collapse := by
  constructor
  · intro h
    exact collapse_eq_of_annotateInner h
      (collapse_nonNull_of_annotateInner hbase hname (congrArg Prod.fst h))
  · intro h
    rw [← annotateInner_collapse base ref, ← annotateInner_collapse base ref', h]

end Brackets

/-- The annotation of a reference to a type of a registry. -/
theorem annotation_ofRef {r : Registry} {t : CompiledType}
    (ht : r.find? ref.typeName = some t) :
    annotation r (.ofRef ref) = .ok (annotate (baseName t) (FieldType.modifiersOf ref)) := by
  have hresolve : r.resolve (.ofRef ref) = .ok t := by
    rw [Registry.resolve, FieldType.typeName_ofRef, Registry.get, ht]
  unfold annotation
  rw [hresolve, FieldType.modifiers_ofRef]
  rfl

/-- The lines of a field with an annotation. -/
theorem fieldLines_eq {r : Registry} {f : CompiledField} {annotated : Text}
    (h : annotation r f.type = .ok annotated) (attr : Text) :
    fieldLines r attr f = .ok
      (describe f.description (fun d => "    # " ++ comment d ++ "\n") ++ "    " ++ attr ++ ": " ++
        annotated ++ " = _pydantic.Field(" ++
        Text.ofString (if f.type.isOptional then "None, alias=" else "alias=") ++
        Text.quoted f.name ++ ")\n") := by
  rw [fieldLines, h]
  rfl

/-- **Annotations denote types.** The annotation of a reference to a type of a registry whose base
name has no bracket is the one that follows the reference: optional for a named type, an optional
list of what the annotation of the inner type says for a list, and for a non-null type the
annotation of the inner type less an outermost optional wrapping. It begins like an optional type
exactly if the field may be null, and exactly then the lines of a field of this type give it the
default `None`. The annotations of two references with one innermost type are the same exactly if
the references are, up to marks of non-null types that follow each other. -/
theorem annotation_denotes {r : Registry} {t : CompiledType}
    (ht : r.find? ref.typeName = some t) (hbase : .char '[' ∉ baseName t) :
    annotation r (.ofRef ref) = .ok (ref.annotated (baseName t)) ∧
      (optionalOpening <+: ref.annotated (baseName t) ↔
        (FieldType.ofRef ref).isOptional = true) ∧
      (∀ f attr, f.type = .ofRef ref → fieldLines r attr f = .ok
        (describe f.description (fun d => "    # " ++ comment d ++ "\n") ++ "    " ++ attr ++
          ": " ++ ref.annotated (baseName t) ++ " = _pydantic.Field(" ++
          Text.ofString (if optionalOpening <+: ref.annotated (baseName t) then "None, alias="
            else "alias=") ++
          Text.quoted f.name ++ ")\n")) ∧
      ∀ ref', ref'.typeName = ref.typeName →
        ( annotation r (.ofRef ref') = annotation r (.ofRef ref) ↔
          ref'.collapse = ref.collapse) := by
  have hprinted : annotation r (.ofRef ref) = .ok (ref.annotated (baseName t)) := by
    rw [annotation_ofRef ht, annotate_modifiersOf hbase]
  have hopening : optionalOpening <+: ref.annotated (baseName t) ↔
      (FieldType.ofRef ref).isOptional = true := by
    rw [← annotate_modifiersOf hbase]
    exact opening_prefix_annotate_iff hbase ref
  refine ⟨hprinted, hopening, fun f attr hf => ?_, fun ref' hname => ?_⟩
  · rw [fieldLines_eq (hf ▸ hprinted) attr, hf]
    simp only [hopening]
  · have ht' : r.find? ref'.typeName = some t := hname ▸ ht
    rw [annotation_ofRef ht', annotation_ofRef ht, Except.ok.injEq, annotate_eq_iff hbase,
      annotateInner_eq_iff hbase hname]

/-- A list of dates that is marked as non-null twice. It is printed like one that is marked once,
and not like a list of non-null dates. -/
theorem annotation_denotes_dates :
    ∃ r t, r.find? "Date" = some t ∧ Text.ofString "_datetime.date" = baseName t ∧
      annotation r (.ofRef (.nonNull (.nonNull (.list (.named "Date"))))) =
        .ok (withoutOptional (withoutOptional (optionalOf (listOf (optionalOf (baseName t)))))) ∧
      ( annotation r (.ofRef (.nonNull (.list (.named "Date")))) =
        annotation r (.ofRef (.nonNull (.nonNull (.list (.named "Date")))))) ∧
      annotation r (.ofRef (.list (.nonNull (.named "Date")))) ≠
        annotation r (.ofRef (.nonNull (.nonNull (.list (.named "Date"))))) := by
  have ht : (Schema.calendar.image (.extend .standard Schema.dates) false).find?
      (TypeRef.nonNull (.nonNull (.list (.named "Date")))).typeName =
        some (CompiledType.ofNative "Date" ⟨"datetime", "date"⟩) := by decide
  obtain ⟨hprinted, -, -, hsame⟩ := annotation_denotes ht (by decide)
  refine ⟨_, _, ht, by decide, hprinted, ?_, ?_⟩
  · exact (hsame (.nonNull (.list (.named "Date"))) rfl).mpr rfl
  · exact mt (hsame (.list (.nonNull (.named "Date"))) rfl).mp (by decide)

end Models

end GraphBind
