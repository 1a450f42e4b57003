import GraphBind.Registry.Basic
import Mathlib.Logic.Function.Basic

/-!
# The notation of types

A reference and the type of a field say the same in two forms, and no other pair of them does:
`ofRef` and `toRef` are inverse. The notation follows the reference, which wraps a name from the
inside out, while it is printed from the modifiers; `toText_ofRef` says that this comes to the same.

Of a reference the notation shows everything, unless the name at its core holds marks of the
notation itself: what it ends with tells a name, a list and a non-null type apart, and what is left
without the mark is the notation of the inner reference (`eq_of_toText`).
-/

namespace GraphBind

/-- The marks of the notation. -/
def notationMarks : Text := [.char '[', .char ']', .char '!']

/-- That a name holds no mark of the notation. -/
def IsPlainName (name : Text) : Prop := ∀ mark ∈ notationMarks, mark ∉ name

instance (name : Text) : Decidable (IsPlainName name) :=
  inferInstanceAs (Decidable (∀ mark ∈ notationMarks, mark ∉ name))

/-! ## What a notation ends with -/

namespace TypeRef

variable {r r' inner : TypeRef} {name : Text}

theorem toText_list (inner : TypeRef) :
    (list inner).toText = .char '[' :: (inner.toText ++ [.char ']']) := by
  have hopen : Text.ofString "[" = [.char '['] := Text.ofString_ofList ['[']
  have hclose : Text.ofString "]" = [.char ']'] := Text.ofString_ofList [']']
  rw [toText, hopen, hclose]
  rfl

theorem toText_nonNull (inner : TypeRef) :
    (nonNull inner).toText = inner.toText ++ [.char '!'] := by
  have hmark : Text.ofString "!" = [.char '!'] := Text.ofString_ofList ['!']
  rw [toText, hmark]

theorem toText_list_ne_nonNull : (list inner).toText ≠ (nonNull r).toText := by
  intro h
  have hlast := congrArg List.getLast? h
  rw [toText_list, toText_nonNull, ← List.cons_append, List.getLast?_concat,
    List.getLast?_concat] at hlast
  cases hlast

/-- No plain name is the notation of a list. -/
theorem ne_toText_list (h : IsPlainName name) : name ≠ (list inner).toText := by
  rintro rfl
  refine h (.char ']') (by decide) ?_
  rw [toText_list]
  simp

/-- No plain name is the notation of a non-null type. -/
theorem ne_toText_nonNull (h : IsPlainName name) : name ≠ (nonNull inner).toText := by
  rintro rfl
  refine h (.char '!') (by decide) ?_
  rw [toText_nonNull]
  simp

/-- The notation of a reference to a type with a plain name shows the reference. -/
theorem eq_of_toText (hr : IsPlainName r.typeName) (hr' : IsPlainName r'.typeName)
    (h : r.toText = r'.toText) : r = r' := by
  induction r generalizing r' with
  | named name =>
    cases r' with
    | named name' => exact congrArg named h
    | list inner' => exact absurd h (ne_toText_list hr)
    | nonNull inner' => exact absurd h (ne_toText_nonNull hr)
  | list inner ih =>
    cases r' with
    | named name' => exact absurd h.symm (ne_toText_list hr')
    | list inner' =>
      rw [toText_list, toText_list] at h
      have hinner := List.append_cancel_right (List.cons.inj h).2
      exact congrArg list (ih hr hr' hinner)
    | nonNull inner' => exact absurd h toText_list_ne_nonNull
  | nonNull inner ih =>
    cases r' with
    | named name' => exact absurd h.symm (ne_toText_nonNull hr')
    | list inner' => exact absurd h.symm toText_list_ne_nonNull
    | nonNull inner' =>
      rw [toText_nonNull, toText_nonNull] at h
      exact congrArg nonNull (ih hr hr' (List.append_cancel_right h))

end TypeRef

/-! ## Types of fields -/

namespace FieldType

variable {t t' : FieldType}

theorem bijective_ofRef : Function.Bijective ofRef :=
  Function.bijective_iff_has_inverse.mpr ⟨toRef, toRef_ofRef, ofRef_toRef⟩

theorem typeName_toRef (t : FieldType) : t.toRef.typeName = t.typeName := by
  rw [← typeName_ofRef, ofRef_toRef]

/-- The modifiers around the name at the core of a reference give the reference back. -/
theorem foldr_wrap_ofRef (r : TypeRef) :
    (ofRef r).modifiers.foldr Modifier.wrap (.named r.typeName) = r := by
  rw [← typeName_ofRef r]
  exact toRef_ofRef r

/-- The notation is the one that follows the reference. -/
theorem toText_ofRef (r : TypeRef) : (ofRef r).toText = r.toText := by
  rw [ofRef_eq]
  induction r with
  | named name => rfl
  | list inner ih => exact congrArg (Modifier.decorate .list) ih
  | nonNull inner ih => exact congrArg (Modifier.decorate .nonNull) ih

theorem eq_of_toText (ht : IsPlainName t.typeName) (ht' : IsPlainName t'.typeName)
    (h : t.toText = t'.toText) : t = t' := by
  rw [← ofRef_toRef t, ← ofRef_toRef t', toText_ofRef, toText_ofRef] at h
  rw [← typeName_toRef] at ht ht'
  rw [← ofRef_toRef t, ← ofRef_toRef t', TypeRef.eq_of_toText ht ht' h]

end FieldType

namespace CompiledType

/-- The names of the fields, each with its type. -/
def typedFields (t : CompiledType) : List (Text × FieldType) :=
  t.fields.map fun f => (f.name, f.type)

/-- That the types of all fields have plain names. -/
def HasPlainNames (t : CompiledType) : Prop := ∀ f ∈ t.fields, IsPlainName f.type.typeName

instance (t : CompiledType) : Decidable t.HasPlainNames :=
  inferInstanceAs (Decidable (∀ f ∈ t.fields, IsPlainName f.type.typeName))

theorem shape_eq_map (t : CompiledType) :
    t.shape = t.typedFields.map fun f => (f.1, f.2.toText) := by
  rw [shape, typedFields, List.map_map]
  rfl

/-- A shape says the types of fields, as long as their names are plain. -/
theorem typedFields_eq_of_shape {fs fs' : List CompiledField}
    (hfs : ∀ f ∈ fs, IsPlainName f.type.typeName) (hfs' : ∀ f ∈ fs', IsPlainName f.type.typeName)
    (h : fs.map (fun f => (f.name, f.type.toText)) = fs'.map fun f => (f.name, f.type.toText)) :
    fs.map (fun f => (f.name, f.type)) = fs'.map fun f => (f.name, f.type) := by
  induction fs generalizing fs' with
  | nil => rw [List.map_eq_nil_iff.mp h.symm]
  | cons f fs ih =>
    cases fs' with
    | nil => cases h
    | cons f' fs' =>
      obtain ⟨hf, hfs⟩ := List.forall_mem_cons.mp hfs
      obtain ⟨hf', hfs'⟩ := List.forall_mem_cons.mp hfs'
      obtain ⟨hfirst, hrest⟩ := List.cons.inj h
      obtain ⟨hname, htype⟩ := Prod.mk.inj hfirst
      rw [List.map_cons, List.map_cons, hname, FieldType.eq_of_toText hf hf' htype,
        ih hfs hfs' hrest]

/-- The shape of a type with plain names shows the fields with their types. -/
theorem shape_eq_iff {t t' : CompiledType} (ht : t.HasPlainNames) (ht' : t'.HasPlainNames) :
    t.shape = t'.shape ↔ t.typedFields = t'.typedFields := by
  refine ⟨typedFields_eq_of_shape ht ht', fun h => ?_⟩
  rw [shape_eq_map, shape_eq_map, h]

end CompiledType

/-! ## The notation shows the type -/

/-- **The notation is faithful.** The type of a field is a reference in another form: it has the
same name at its core, the modifiers around this name give the reference back, and there is one for
every reference and no other. It is printed in the notation that follows the reference. References
to types with plain names that are printed alike are the same, and so compiled types with such
names have one shape exactly if they have the same fields with the same types, in the same order. -/
theorem notation_faithful :
    (∀ r : TypeRef, (FieldType.ofRef r).typeName = r.typeName ∧
      (FieldType.ofRef r).modifiers.foldr Modifier.wrap (.named r.typeName) = r ∧
      (FieldType.ofRef r).toText = r.toText) ∧
    Function.Bijective FieldType.ofRef ∧
    (∀ r r' : TypeRef, IsPlainName r.typeName → IsPlainName r'.typeName →
      (FieldType.ofRef r).toText = (FieldType.ofRef r').toText → r = r') ∧
    ∀ t t' : CompiledType, t.HasPlainNames → t'.HasPlainNames →
      (t.shape = t'.shape ↔ t.typedFields = t'.typedFields) := by
  refine ⟨fun r =>
      ⟨FieldType.typeName_ofRef r, FieldType.foldr_wrap_ofRef r, FieldType.toText_ofRef r⟩,
    FieldType.bijective_ofRef, fun r r' hr hr' h => ?_, fun t t' => CompiledType.shape_eq_iff⟩
  rw [FieldType.toText_ofRef, FieldType.toText_ofRef] at h
  exact TypeRef.eq_of_toText hr hr' h

example : (TypeRef.nonNull (.named "A")).toText = (TypeRef.named "A!").toText := by decide

/-- A person with friends, who are named or not. -/
def person (friends : TypeRef) : CompiledType :=
  { name := "Person", kind := .object, description := none
    fields := [⟨"id", .ofRef (.nonNull (.named "ID")), none, [], none, false⟩,
      ⟨"friends", .ofRef friends, none, [], none, false⟩]
    interfaces := [], members := [], values := [], native := none }

/-- A list of persons that is not null and a list of non-null persons are printed differently, and
so are the shapes of types that have the one or the other. -/
theorem notation_faithful_friends :
    (FieldType.ofRef (.nonNull (.list (.named "Person")))).toText = "[Person]!" ∧
      (FieldType.ofRef (.list (.nonNull (.named "Person")))).toText = "[Person!]" ∧
      (FieldType.ofRef (.nonNull (.list (.named "Person")))).toText ≠
        (FieldType.ofRef (.list (.nonNull (.named "Person")))).toText ∧
      (person (.nonNull (.list (.named "Person")))).shape ≠
        (person (.list (.nonNull (.named "Person")))).shape := by
  obtain ⟨hforms, -, hsame, hshape⟩ := notation_faithful
  refine ⟨?_, ?_, fun h => ?_, fun h => ?_⟩
  · rw [(hforms _).2.2]
    decide
  · rw [(hforms _).2.2]
    decide
  · exact absurd (hsame _ _ (by decide) (by decide) h) (by decide)
  · exact absurd ((hshape _ _ (by decide) (by decide)).mp h) (by decide)

end GraphBind
