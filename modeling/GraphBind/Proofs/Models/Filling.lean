import GraphBind.Models.Layout
import GraphBind.Proofs.Checks
import GraphBind.Proofs.Models.AlikeNames
import GraphBind.Proofs.Models.BoundNames
import GraphBind.Proofs.Text.Literal

/-!
# Filling models

A model is filled from an object by the names of its fields, which it has as aliases, or else by its
attributes. So a value gets into the attribute of another field where that attribute is called like
the value's own field and the other field has no value. `FilledApart` says that this does not happen
to a type, and `filledApart_iff` to which types it does not. An attribute that is called like a
field is a form that stays as it is (`IsAttribute.attributeName_eq`); so of the fields whose names
have one form the one that is called like the form has to come first. In `formsAlike` it does not.
-/

namespace GraphBind

namespace Models

variable {attr : Text}

/-! ## Fields of models -/

/-- That lines of a class declare an attribute that has a name as its alias. -/
inductive Declares : Text × Text → Text → Prop where
  | intro {name attr note annotated : Text} {ending : String} {literal : List Char}
    (hnote : note = [] ∨ ∃ remark, note = "    # " ++ comment remark ++ "\n")
    (hending : ending = "None, alias=" ∨ ending = "alias=")
    (hliteral : Text.Literal.value? literal = some name) :
    Declares (name, attr) (note ++ "    " ++ attr ++ ": " ++ annotated ++ " = _pydantic.Field(" ++
      ending ++ Text.ofChars literal ++ ")\n")

theorem describe_eq (description : Option Text) (shown : Text → Text) :
    describe description shown = [] ∨ ∃ d, describe description shown = shown d := by
  unfold describe
  split
  · exact .inl rfl
  · next d =>
    split
    · exact .inl rfl
    · exact .inr ⟨d, rfl⟩

/-- The lines of a field declare its attribute, with its name as the alias. -/
theorem declares_fieldLines {r : Registry} {f : CompiledField} {lines : Text}
    (h : fieldLines r attr f = .ok lines) : Declares (f.name, attr) lines := by
  obtain ⟨annotated, -, h⟩ := bind_eq_ok_iff.mp h
  cases h
  refine .intro ?_ ?_ (Text.Literal.value?_quoted f.name)
  · exact describe_eq ..
  · split
    · exact .inl rfl
    · exact .inr rfl

/-- The line that lets a model be filled by its attributes as well as by its aliases. -/
def configuration : Text :=
  "    model_config = _pydantic.ConfigDict(populate_by_name=True)\n"

/-- What an attribute is filled with from an object, by the name of its field or by its own. -/
def filled? {α : Type} (input : List (Text × α)) (p : Text × Text) : Option α :=
  (Entries.get? p.1 input).or (Entries.get? p.2 input)

end Models

open Models (reservedAttribute attributeName IsFirstFree Declares configuration filled?)

namespace CompiledType

variable {t : CompiledType}

/-- That from an object with values for fields of a type only, every attribute is filled with the
value for its own field, and not at all if there is none. -/
def FilledApart (t : CompiledType) : Prop :=
  ∀ {α : Type} (input : List (Text × α)), (∀ k ∈ Entries.keys input, k ∈ t.fields.map (·.name)) →
    ∀ p ∈ t.attributes, filled? input p = Entries.get? p.1 input

/-- Where no name comes twice, the attributes of a type are those of its fields, in order. -/
theorem attributes_eq_map (h : (t.fields.map (·.name)).Nodup) :
    t.attributes =
      t.fields.map fun f => (f.name, (Entries.get? f.name t.attributes).getD []) := by
  have hkeys := keys_attributes h
  have hnodup : (Entries.keys t.attributes).Nodup := hkeys ▸ h
  calc t.attributes
    _ = t.attributes.map fun p => (p.1, (Entries.get? p.1 t.attributes).getD []) := by
      refine ((List.map_congr_left fun p hp => ?_).trans (List.map_id _)).symm
      rw [Entries.get?_of_mem hnodup hp]
      rfl
    _ = (Entries.keys t.attributes).map fun n =>
        (n, (Entries.get? n t.attributes).getD []) := by
      rw [Entries.keys, List.map_map]
      rfl
    _ = _ := by
      rw [hkeys, List.map_map]
      rfl

/-- The class of a model declares the attributes of its type, each with its field for an alias. -/
theorem exists_declares (h : (t.fields.map (·.name)).Nodup) {r : Registry} {text : Text}
    (htext : Models.modelSection r t = .ok text) : ∃ front lines,
      text = front ++ configuration ++ Text.concat lines ∧
        List.Forall₂ Declares t.attributes lines := by
  obtain ⟨lines, hlines, htext⟩ := bind_eq_ok_iff.mp htext
  cases htext
  refine ⟨_, lines, rfl, ?_⟩
  rw [attributes_eq_map h, List.forall₂_map_left_iff]
  exact (mapM_eq_ok_iff.mp hlines).imp fun f text hf => Models.declares_fieldLines hf

/-- A value gets into another attribute where that is called like its field. -/
theorem filledApart_iff_eq : t.FilledApart ↔
    ∀ p ∈ t.attributes, p.2 ∈ t.fields.map (·.name) → p.1 = p.2 := by
  constructor
  · intro h p hp hfield
    by_contra hne
    have hfilled := h [(p.2, ())] (fun k hk => List.mem_singleton.mp hk ▸ hfield) p hp
    simp [filled?, Entries.get?, Ne.symm hne] at hfilled
  · intro h α input hinput p hp
    unfold filled?
    cases hvalue : Entries.get? p.1 input with
    | some a => rfl
    | none =>
      cases hother : Entries.get? p.2 input with
      | none => rfl
      | some a =>
        have hkey : p.2 ∈ Entries.keys input := List.mem_map_of_mem (Entries.mem_of_get? hother)
        rw [h p hp (hinput p.2 hkey), hother] at hvalue
        cases hvalue

section Names

variable (h : (t.fields.map (·.name)).Nodup)

include h

/-- A name that is its own form is not the attribute of its field only if it is that of an earlier
one. -/
theorem exists_attribute_of_ne {p : Text × Text} (hp : p ∈ t.attributes)
    (hform : attributeName p.1 = p.1) (hreserved : p.1 ≠ reservedAttribute) (hne : p.2 ≠ p.1) :
    ∃ q ∈ t.attributes, q.2 = p.1 ∧ q.1 ≠ p.1 := by
  obtain ⟨before, after, hsplit⟩ := List.append_of_mem hp
  have hassign := attributes_of_nodup h ▸ hsplit
  have hfree := Models.isFirstFree_iff.mpr (Models.eq_firstFree_of_assign hassign)
  rw [hform] at hfree
  rcases hfree with ⟨-, hattr⟩ | ⟨htaken, -⟩
  · exact absurd hattr hne
  · have hmem := (List.mem_cons.mp htaken).resolve_left hreserved
    obtain ⟨q, hq, hattr⟩ := List.mem_map.mp hmem
    refine ⟨q, hsplit ▸ List.mem_append_left _ hq, hattr, fun hname => ?_⟩
    have hkeys : (Entries.keys t.attributes).Nodup := keys_attributes h ▸ h
    rw [hsplit, Entries.keys, List.map_append, List.nodup_append] at hkeys
    exact hkeys.2.2 q.1 (List.mem_map_of_mem hq) p.1 List.mem_cons_self hname

/-- The fields are filled apart iff every name that is its own form keeps it as its attribute. -/
theorem filledApart_iff_eq_self (hnames : ∀ f ∈ t.fields, Query.IsName f.name) : t.FilledApart ↔
    ∀ p ∈ t.attributes, attributeName p.1 = p.1 → p.1 ≠ reservedAttribute → p.2 = p.1 := by
  have hkeys := keys_attributes h
  rw [filledApart_iff_eq]
  constructor
  · intro hapart p hp hform hreserved
    by_contra hne
    obtain ⟨q, hq, hattr, hother⟩ := exists_attribute_of_ne h hp hform hreserved hne
    have hfield : p.1 ∈ t.fields.map (·.name) := hkeys ▸ List.mem_map_of_mem hp
    exact hother ((hapart q hq (hattr ▸ hfield)).trans hattr)
  · intro hself p hp hfield
    -- The attribute is the name of a field, which is its own form and so has to be its attribute.
    have hattribute := Models.isAttribute_of_mem hp
    obtain ⟨f, hf, hname⟩ := List.mem_map.mp hattribute.2
    have hform := hattribute.1.attributeName_eq (hname ▸ hnames f hf)
    rw [← hkeys] at hfield
    obtain ⟨q, hq, hkey⟩ := List.mem_map.mp hfield
    have hreserved : q.1 ≠ reservedAttribute := by
      rw [hkey]
      rw [attributes_of_nodup h] at hp
      exact fun heq => Models.notMem_of_mem_assign hp (List.mem_singleton.mpr heq)
    have hattr : q.2 = p.2 := (hself q hq (hkey ▸ hform) hreserved).trans hkey
    rw [← List.inj_on_of_nodup_map (nodup_attributes h) hq hp hattr, hkey, hattr]

end Names

/-- **Filling field by field.** The class that is printed for a type declares its attributes with
the names of its fields for aliases. No value gets into the attribute of another field if no
attribute is called like another field, and only then. Of names of the query language that is so if
every field whose name is the form of its own, the reserved one apart, has its name for attribute.
-/
theorem filledApart_iff (h : (t.fields.map (·.name)).Nodup)
    (hnames : ∀ f ∈ t.fields, Query.IsName f.name) :
    (∀ r text, Models.modelSection r t = .ok text → ∃ front lines,
      text = front ++ configuration ++ Text.concat lines ∧
        List.Forall₂ Declares t.attributes lines) ∧
    (t.FilledApart ↔ ∀ p ∈ t.attributes, ∀ f ∈ t.fields, p.2 = f.name → p.1 = f.name) ∧
    (t.FilledApart ↔ ∀ p ∈ t.attributes,
      attributeName p.1 = p.1 → p.1 ≠ reservedAttribute → p.2 = p.1) := by
  refine ⟨fun r text htext => exists_declares h htext, ?_, filledApart_iff_eq_self h hnames⟩
  rw [filledApart_iff_eq]
  constructor
  · intro hapart p hp f hf hattr
    exact (hapart p hp (hattr ▸ List.mem_map_of_mem hf)).trans hattr
  · intro hapart p hp hfield
    obtain ⟨f, hf, hname⟩ := List.mem_map.mp hfield
    exact (hapart p hp f hf hname.symm).trans hname

end CompiledType

namespace Schema

/-- Fields that all come apart, although some have the form of another's name. -/
def apart : Schema where
  types :=
    [⟨"Query", none,
      .object (["foo", "Foo", "foo_3", "modelConfig", "_id", "class"].map numberField) []⟩]
  roots := ⟨some "Query", none, none⟩

theorem filledApart_iff_apart :
    ∃ r, apart.compile .standard false = .ok r ∧ r.generated ≠ [] ∧
      ∀ t ∈ r.generated, t.FilledApart := by
  refine ⟨apart.image .standard false, rfl, by decide, ?_⟩
  have hnodup : ∀ t ∈ (apart.image .standard false).generated, (t.fields.map (·.name)).Nodup := by
    decide
  have hnames : ∀ t ∈ (apart.image .standard false).generated, ∀ f ∈ t.fields,
      Query.IsName f.name := by decide
  have hself : ∀ t ∈ (apart.image .standard false).generated, ∀ p ∈ t.attributes,
      attributeName p.1 = p.1 → p.1 ≠ reservedAttribute → p.2 = p.1 := by decide +kernel
  intro t ht
  obtain ⟨-, -, hiff⟩ := CompiledType.filledApart_iff (hnodup t ht) (hnames t ht)
  exact hiff.mpr (hself t ht)

/-- Fields behind others that are given their names for attributes, as the form of a name and as a
numbered one. -/
def formsAlike : Schema where
  types :=
    [⟨"Query", none, .object (["fooBar", "foo_bar"].map numberField) []⟩,
      ⟨"Search", none, .object (["foo", "Foo", "foo_2"].map numberField) []⟩]
  roots := ⟨some "Query", none, none⟩

/-- From an object with a single value, the attribute of another field is filled. -/
theorem not_filledApart :
    ∃ r, formsAlike.compile .standard false = .ok r ∧ r.generated ≠ [] ∧ ∀ t ∈ r.generated,
      (t.fields.map (·.name)).Nodup ∧ (∀ f ∈ t.fields, Query.IsName f.name) ∧ ¬ t.FilledApart ∧
        ∃ p ∈ t.attributes, ∃ f ∈ t.fields, p.1 ≠ f.name ∧
          filled? [(f.name, ())] p = some () := by
  refine ⟨formsAlike.image .standard false, rfl, by decide, fun t ht => ?_⟩
  have hnodup : ∀ t ∈ (formsAlike.image .standard false).generated,
      (t.fields.map (·.name)).Nodup := by decide
  have hnames : ∀ t ∈ (formsAlike.image .standard false).generated, ∀ f ∈ t.fields,
      Query.IsName f.name := by decide
  have hother : ∀ t ∈ (formsAlike.image .standard false).generated,
      ∃ p ∈ t.attributes, ∃ f ∈ t.fields, p.1 ≠ f.name ∧ filled? [(f.name, ())] p = some () := by
    decide +kernel
  refine ⟨hnodup t ht, hnames t ht, fun hapart => ?_, hother t ht⟩
  obtain ⟨p, hp, f, hf, hne, hfilled⟩ := hother t ht
  have hinput : ∀ k ∈ Entries.keys [(f.name, ())], k ∈ t.fields.map (·.name) :=
    fun k hk => List.mem_singleton.mp hk ▸ List.mem_map_of_mem hf
  rw [hapart _ hinput p hp, Entries.get?, if_neg (Ne.symm hne)] at hfilled
  cases hfilled

end Schema

end GraphBind
