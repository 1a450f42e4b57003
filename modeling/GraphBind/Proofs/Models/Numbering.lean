import GraphBind.Proofs.Models.Attributes
import Mathlib.Data.List.Basic
import Mathlib.Data.List.Nodup

/-!
# Attributes told apart

The attributes of a type are given one after the other. Each is the first form of its field's name
that no attribute before it has: the form without a number, or else the one with the least number
from 2 on. `Search` is the search for it, which has no bound of its own; it comes to an end because
there are more forms than attributes (`search_iff`), at the form that `IsFirstFree` describes.

`attributes_distinct` puts this together for the fields of a type: as many attributes as fields, all
different, none of them reserved, private or a keyword, and each settled by the fields up to its
own.
-/

namespace GraphBind

/-- The attributes of the fields of a type, by field name. -/
def CompiledType.attributes (t : CompiledType) : List (Text × Text) :=
  Models.attributeNames (t.fields.map (·.name))

namespace Models

open Text (isKeyword)

/-! ## Numbers behind a name -/

/-- The search for a free form of a name, with a candidate at hand and the number that comes next: a
candidate that is not taken is the result. -/
inductive Search (taken : List Text) (base : Text) : Nat → Text → Text → Prop where
  | found {n : Nat} {candidate : Text} (h : candidate ∉ taken) :
    Search taken base n candidate candidate
  | next {n : Nat} {candidate attr : Text} (h : candidate ∈ taken)
    (hnext : Search taken base (n + 1) (numbered base n) attr) :
    Search taken base n candidate attr

/-- That an attribute is the form of a name without a number if that is not taken, and else the one
with the least number from 2 on that is not. -/
def IsFirstFree (taken : List Text) (base attr : Text) : Prop :=
  (base ∉ taken ∧ attr = base) ∨
    base ∈ taken ∧ ∃ n, 2 ≤ n ∧ attr = numbered base n ∧ attr ∉ taken ∧
      ∀ m, 2 ≤ m → m < n → numbered base m ∈ taken

variable {taken names : List Text} {base attr attr' candidate name : Text} {n k : Nat}

theorem numbered_injective (h : numbered base n = numbered base k) : n = k := by
  have hnumber := congrArg Text.chars (List.append_cancel_left h)
  unfold Text.ofString at hnumber
  rw [Text.chars_ofChars, Text.chars_ofChars, toList_number, toList_number] at hnumber
  have hvalue := congrArg (Nat.ofDigitChars 10 · 0) (List.cons.inj hnumber).2
  simpa [Nat.ofDigitChars_toDigits] using hvalue

/-- Among one more forms of a name than there are names taken, one is free. -/
theorem exists_numbered_notMem (taken : List Text) (base : Text) :
    ∃ n ∈ List.range' 2 (taken.length + 1), numbered base n ∉ taken := by
  by_contra hnone
  have hall : ∀ n ∈ List.range' 2 (taken.length + 1), numbered base n ∈ taken :=
    fun n hn => by_contra fun hfree => hnone ⟨n, hn, hfree⟩
  have hforms : ((List.range' 2 (taken.length + 1)).map (numbered base)).Nodup :=
    (List.nodup_range' 1).map fun _ _ => numbered_injective
  have hsubset : (List.range' 2 (taken.length + 1)).map (numbered base) ⊆ taken := by
    intro attr hattr
    obtain ⟨n, hn, rfl⟩ := List.mem_map.mp hattr
    exact hall n hn
  have hlength := hforms.length_le_of_subset hsubset
  rw [List.length_map, List.length_range'] at hlength
  omega

/-- The search ends with the name itself, or else with the least number that is free. -/
theorem isFirstFree_firstFree (taken : List Text) (base : Text) :
    IsFirstFree taken base (firstFree taken base) := by
  by_cases hbase : base ∈ taken
  · rw [firstFree, if_pos (List.contains_iff_mem.mpr hbase), List.find?_map]
    obtain ⟨k, hk, hfree⟩ := exists_numbered_notMem taken base
    cases hfind : (List.range' 2 (taken.length + 1)).find?
        ((fun attr => !taken.contains attr) ∘ numbered base) with
    | none =>
      have htaken := List.find?_eq_none.mp hfind k hk
      simp [hfree] at htaken
    | some n =>
      obtain ⟨hn, hrange, hbelow⟩ := List.find?_range'_eq_some.mp hfind
      refine .inr ⟨hbase, n, (List.mem_range'_1.mp hrange).1, rfl, by simpa using hn, ?_⟩
      intro m hm hlt
      simpa using hbelow m hm hlt
  · rw [firstFree, if_neg (by simpa using hbase)]
    exact .inl ⟨hbase, rfl⟩

theorem IsFirstFree.notMem (h : IsFirstFree taken base attr) : attr ∉ taken := by
  rcases h with ⟨hbase, rfl⟩ | ⟨-, n, -, -, hfree, -⟩
  · exact hbase
  · exact hfree

/-- The search goes on up to the first number that is free. -/
theorem search_numbered (hfree : numbered base n ∉ taken) (hkn : k ≤ n)
    (hbelow : ∀ m, k ≤ m → m < n → numbered base m ∈ taken) :
    Search taken base (k + 1) (numbered base k) (numbered base n) := by
  obtain ⟨d, rfl⟩ := Nat.exists_eq_add_of_le hkn
  induction d generalizing k with
  | zero => exact .found hfree
  | succ d ih =>
    have hshift : k + (d + 1) = k + 1 + d := by omega
    rw [hshift] at hfree hbelow ⊢
    exact .next (hbelow k (Nat.le_refl k) (by omega))
      (ih hfree (by omega) fun m hm hlt => hbelow m (by omega) hlt)

theorem IsFirstFree.search (h : IsFirstFree taken base attr) : Search taken base 2 base attr := by
  rcases h with ⟨hbase, rfl⟩ | ⟨hbase, n, hn, rfl, hfree, hbelow⟩
  · exact .found hbase
  · exact .next hbase (search_numbered hfree hn hbelow)

/-- A search has one result, by induction on its steps. -/
theorem Search.unique (h : Search taken base n candidate attr)
    (h' : Search taken base n candidate attr') : attr = attr' := by
  induction h with
  | found hfree =>
    cases h' with
    | found => rfl
    | next htaken => exact absurd htaken hfree
  | next htaken _ ih =>
    cases h' with
    | found hfree => exact absurd htaken hfree
    | next _ hnext => exact ih hnext

/-- **Search.** The search comes to an end, and finds the form that is taken from among as many as
are needed. -/
theorem search_iff : Search taken base 2 base attr ↔ attr = firstFree taken base := by
  have hfirst := (isFirstFree_firstFree taken base).search
  exact ⟨fun h => h.unique hfirst, fun h => h ▸ hfirst⟩

theorem isFirstFree_iff : IsFirstFree taken base attr ↔ attr = firstFree taken base :=
  ⟨fun h => search_iff.mp h.search, fun h => h ▸ isFirstFree_firstFree taken base⟩

theorem firstFree_notMem (taken : List Text) (base : Text) : firstFree taken base ∉ taken :=
  (isFirstFree_firstFree taken base).notMem

/-- What is free depends on which names are taken, in no way on their order. -/
theorem firstFree_congr {taken' : List Text} (h : ∀ attr, attr ∈ taken ↔ attr ∈ taken')
    (base : Text) : firstFree taken base = firstFree taken' base := by
  rw [← isFirstFree_iff]
  simpa only [IsFirstFree, h] using isFirstFree_firstFree taken base

/-! ## One attribute after the other -/

theorem assign_append (taken names more : List Text) :
    assign taken (names ++ more) = assign taken names ++
      assign (((assign taken names).map (·.2)).reverse ++ taken) more := by
  induction names generalizing taken with
  | nil => rfl
  | cons name names ih =>
    rw [List.cons_append, assign, ih, assign]
    simp

/-- An attribute is free when it is given. -/
theorem notMem_of_mem_assign {p : Text × Text} (h : p ∈ assign taken names) : p.2 ∉ taken := by
  induction names generalizing taken with
  | nil => cases h
  | cons name names ih =>
    rcases List.mem_cons.mp h with rfl | h
    · exact firstFree_notMem taken (attributeName name)
    · exact fun htaken => ih h (List.mem_cons_of_mem _ htaken)

theorem nodup_assign (taken names : List Text) : ((assign taken names).map (·.2)).Nodup := by
  induction names generalizing taken with
  | nil => exact List.nodup_nil
  | cons name names ih =>
    refine List.nodup_cons.mpr ⟨fun hmem => ?_, ih _⟩
    obtain ⟨p, hp, hattr⟩ := List.mem_map.mp hmem
    exact notMem_of_mem_assign hp (hattr ▸ List.mem_cons_self)

/-- What stands in front of an attribute decides about it. -/
theorem eq_firstFree_of_assign {before after : List (Text × Text)}
    (h : assign taken names = before ++ (name, attr) :: after) :
    attr = firstFree (taken ++ before.map (·.2)) (attributeName name) := by
  induction before generalizing taken names with
  | nil =>
    cases names with
    | nil => cases h
    | cons name names =>
      cases h
      rw [List.map_nil, List.append_nil]
  | cons p before ih =>
    cases names with
    | nil => cases h
    | cons name names =>
      obtain ⟨rfl, hrest⟩ := List.cons.inj h
      rw [ih hrest]
      refine firstFree_congr (fun attr => ?_) _
      simp only [List.cons_append, List.mem_append, List.mem_cons, List.map_cons]
      exact or_left_comm

/-- The attributes of fields without repetitions. -/
theorem attributeNames_of_nodup (h : names.Nodup) :
    attributeNames names = assign [reservedAttribute] names := by
  refine Entries.ofList_of_nodup ?_
  rwa [keys_assign]

/-! ## The form of an attribute -/

/-- No attribute begins with an underscore, which would make it private. -/
theorem head?_attributeName (name : Text) :
    (attributeName name).head? ≠ some (.char '_') := by
  have hsafe : ∀ t : Text, t ≠ [] → (safeIdentifier t).head? = t.head? := by
    intro t ht
    rcases safeIdentifier_eq t with heq | heq
    · rw [heq]
    · rw [heq, List.head?_append_of_ne_nil _ ht]
  have hfirst := List.head?_dropWhile_not (· == CodePoint.char '_') (snakeCase name)
  unfold attributeName
  split
  · decide
  · next hcs =>
    rw [hsafe _ hcs]
    intro hhead
    rw [hhead] at hfirst
    cases hfirst

theorem IsAttribute.head?_eq (h : IsAttribute name attr) :
    attr.head? = (attributeName name).head? := by
  rcases h with rfl | ⟨n, rfl⟩
  · rfl
  · exact List.head?_append_of_ne_nil _ (attributeName_ne_nil name)

theorem IsAttribute.ne_nil (h : IsAttribute name attr) : attr ≠ [] := by
  intro hnil
  have hhead := h.head?_eq
  rw [hnil, List.head?_nil, eq_comm, List.head?_eq_none_iff] at hhead
  exact attributeName_ne_nil name hhead

end Models

open Models (reservedAttribute attributeName numbered Search IsFirstFree)

namespace CompiledType

variable {t : CompiledType}

theorem attributes_of_nodup (h : (t.fields.map (·.name)).Nodup) :
    t.attributes = Models.assign [reservedAttribute] (t.fields.map (·.name)) :=
  Models.attributeNames_of_nodup h

theorem keys_attributes (h : (t.fields.map (·.name)).Nodup) :
    Entries.keys t.attributes = t.fields.map (·.name) := by
  rw [attributes_of_nodup h, Models.keys_assign]

theorem nodup_attributes (h : (t.fields.map (·.name)).Nodup) :
    (t.attributes.map (·.2)).Nodup := by
  rw [attributes_of_nodup h]
  exact Models.nodup_assign _ _

/-- **Distinct attributes.** The attributes of a type whose fields have different names are those of
its fields, in order; they are all different, and none is reserved, empty, private or a keyword. The
search for each ends with it: it is the form of the name of its field if no attribute before it and
no reserved one is that, and else this form with the least number from 2 on that is free. Further
fields leave the attributes as they are. -/
theorem attributes_distinct (h : (t.fields.map (·.name)).Nodup) :
    Entries.keys t.attributes = t.fields.map (·.name) ∧
    (t.attributes.map (·.2)).Nodup ∧
    (∀ p ∈ t.attributes, p.2 ≠ reservedAttribute ∧ p.2 ≠ [] ∧
      p.2.head? ≠ some (.char '_') ∧ Text.isKeyword p.2 = false) ∧
    (∀ before name attr after, t.attributes = before ++ (name, attr) :: after →
      Search (reservedAttribute :: before.map (·.2)) (attributeName name) 2 (attributeName name)
        attr ∧
      IsFirstFree (reservedAttribute :: before.map (·.2)) (attributeName name) attr) ∧
    ∀ more : List CompiledField, ((t.fields ++ more).map (·.name)).Nodup →
      t.attributes <+: { t with fields := t.fields ++ more }.attributes ∧
      ∀ f ∈ t.fields, Entries.get? f.name { t with fields := t.fields ++ more }.attributes =
        Entries.get? f.name t.attributes := by
  refine ⟨keys_attributes h, nodup_attributes h, ?_, ?_, ?_⟩
  · intro p hp
    have hattribute := (Models.isAttribute_of_mem hp).1
    rw [attributes_of_nodup h] at hp
    refine ⟨?_, hattribute.ne_nil, ?_, hattribute.isKeyword_eq_false⟩
    · exact fun heq => Models.notMem_of_mem_assign hp (List.mem_singleton.mpr heq)
    · rw [hattribute.head?_eq]
      exact Models.head?_attributeName p.1
  · intro before name attr after hsplit
    rw [attributes_of_nodup h] at hsplit
    have hattr := Models.eq_firstFree_of_assign hsplit
    rw [List.singleton_append] at hattr
    exact ⟨Models.search_iff.mpr hattr, Models.isFirstFree_iff.mpr hattr⟩
  · intro more hmore
    have hkept : t.attributes <+: { t with fields := t.fields ++ more }.attributes := by
      rw [attributes_of_nodup h, attributes_of_nodup hmore, List.map_append, Models.assign_append]
      exact List.prefix_append ..
    refine ⟨hkept, fun f hf => ?_⟩
    obtain ⟨after, hafter⟩ := hkept
    have hkey : f.name ∈ Entries.keys t.attributes := by
      rw [keys_attributes h]
      exact List.mem_map_of_mem hf
    obtain ⟨attr, hattr⟩ := Entries.exists_get? hkey
    rw [← hafter, Entries.get?_append, hattr, Option.some_or]

/-- An object with fields whose names have the same form, also as it is numbered, and with fields
whose names cannot stand as they are. -/
def crowded : CompiledType where
  name := "Query"
  kind := .object
  description := none
  fields := (["foo", "Foo", "foo_2", "modelConfig", "_class", "__"].map Text.ofString).map
    fun name => ⟨name, ⟨"Int", []⟩, none, [], none, false⟩
  interfaces := []
  members := []
  values := []
  native := none

example : crowded.attributes.map (·.2) =
    ["foo", "foo_2", "foo_2_2", "model_config_2", "class_", "field_"].map Text.ofString := by
  decide +kernel

theorem attributes_distinct_crowded : (crowded.fields.map (·.name)).Nodup ∧
    (crowded.attributes.map (·.2)).Nodup ∧
    ∀ p ∈ crowded.attributes, p.2 ≠ reservedAttribute ∧ p.2 ≠ [] ∧
      p.2.head? ≠ some (.char '_') ∧ Text.isKeyword p.2 = false := by
  have h : (crowded.fields.map (·.name)).Nodup := by decide
  obtain ⟨-, hdistinct, hforms, -⟩ := attributes_distinct h
  exact ⟨h, hdistinct, hforms⟩

end CompiledType

end GraphBind
