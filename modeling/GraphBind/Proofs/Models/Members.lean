import GraphBind.Proofs.Models.BoundNames
import Mathlib.Data.List.Nodup

/-!
# Members of enumerations

The class of an enumeration gives every value a name, which is the value itself unless that is a
keyword: then an underscore is put behind it, and nothing looks whether the enumeration has that
value as well. `Members.ofBody?` is what becomes of the names that such a class gives, one after the
other. The class is made only if none is given twice, and then every value has a member of its own
(`Members.ofBody?_eq_some_iff`). `members_iff` says of which enumerations the names are all
different: those without a keyword beside its form with an underscore. `clashing` has both.
-/

namespace GraphBind

namespace Models

open Text (isKeyword isBindable)

/-! ## Names of members -/

/-- The names that the class of an enumeration gives, each with its value. -/
def assignments (t : CompiledType) : List (Text × Text) :=
  t.values.map fun v => (safeIdentifier v, v)

theorem map_fst_assignments (t : CompiledType) :
    (assignments t).map (·.1) = t.values.map safeIdentifier := List.map_map ..

theorem map_snd_assignments (t : CompiledType) : (assignments t).map (·.2) = t.values :=
  (List.map_map ..).trans (List.map_id _)

/-- That no value is a keyword whose form with an underscore is a value too. -/
def KeywordsApart (values : List Text) : Prop :=
  ∀ v ∈ values, isKeyword v = true → v ++ Text.ofString "_" ∉ values

instance (values : List Text) : Decidable (KeywordsApart values) :=
  inferInstanceAs (Decidable (∀ v ∈ values, isKeyword v = true → v ++ Text.ofString "_" ∉ values))

variable {v w : Text} {values : List Text}

theorem safeIdentifier_of_isKeyword (h : isKeyword v = true) :
    safeIdentifier v = v ++ Text.ofString "_" := if_pos h

theorem safeIdentifier_of_not_isKeyword (h : isKeyword v = false) : safeIdentifier v = v :=
  if_neg (Bool.eq_false_iff.mp h)

theorem isKeyword_append_underscore (v : Text) : isKeyword (v ++ Text.ofString "_") = false :=
  Text.isKeyword_of_underscore (List.mem_append_right _ List.mem_cons_self)

/-- Names are alike only of a keyword and its form with an underscore. -/
theorem eq_of_safeIdentifier (h : safeIdentifier v = safeIdentifier w) (hne : v ≠ w) :
    isKeyword v = true ∧ w = v ++ Text.ofString "_" ∨
      isKeyword w = true ∧ v = w ++ Text.ofString "_" := by
  cases hv : isKeyword v with
  | true =>
    cases hw : isKeyword w with
    | true =>
      rw [safeIdentifier_of_isKeyword hv, safeIdentifier_of_isKeyword hw] at h
      exact absurd (List.append_cancel_right h) hne
    | false =>
      rw [safeIdentifier_of_isKeyword hv, safeIdentifier_of_not_isKeyword hw] at h
      exact .inl ⟨rfl, h.symm⟩
  | false =>
    cases hw : isKeyword w with
    | true =>
      rw [safeIdentifier_of_not_isKeyword hv, safeIdentifier_of_isKeyword hw] at h
      exact .inr ⟨rfl, h⟩
    | false =>
      rw [safeIdentifier_of_not_isKeyword hv, safeIdentifier_of_not_isKeyword hw] at h
      exact absurd h hne

/-- The members of an enumeration are distinct iff no value is a keyword that is a value with an
underscore too. -/
theorem nodup_map_safeIdentifier_iff (h : values.Nodup) :
    (values.map safeIdentifier).Nodup ↔ KeywordsApart values := by
  constructor
  · intro hnodup v hv hkeyword hform
    have halike : safeIdentifier (v ++ Text.ofString "_") = safeIdentifier v := by
      rw [safeIdentifier_of_not_isKeyword (isKeyword_append_underscore v),
        safeIdentifier_of_isKeyword hkeyword]
    have hsame := List.inj_on_of_nodup_map hnodup hform hv halike
    simp [Text.ofString, Text.ofChars] at hsame
  · intro hapart
    refine h.map_on fun v hv w hw halike => ?_
    by_contra hne
    rcases eq_of_safeIdentifier halike hne with ⟨hkeyword, rfl⟩ | ⟨hkeyword, rfl⟩
    · exact hapart v hv hkeyword hw
    · exact hapart w hw hkeyword hv

/-! ## Classes of enumerations -/

/-- The names that a class of an enumeration has been given, and its members, each with its value.
-/
structure Members where
  names : List Text
  members : List (Text × Text)

namespace Members

variable (keeps : Text → Bool)

/-- Gives one more name to a class, with a value. No name is given twice, and none that the class
keeps for itself. A name for a value that a member has is another name of this member. -/
def give? (m : Members) (p : Text × Text) : Option Members :=
  if keeps p.1 || m.names.contains p.1 then none
  else some
    { names := m.names ++ [p.1]
      members := if (m.members.map (·.2)).contains p.2 then m.members else m.members ++ [p] }

/-- The members of a class that gives names, one after the other. -/
def ofBody? (body : List (Text × Text)) : Option Members := body.foldlM (give? keeps) ⟨[], []⟩

variable {keeps} {m m' : Members} {p : Text × Text} {body : List (Text × Text)}

/-- A name is given if it is new, and makes a member if its value is new too. -/
theorem give?_eq_some_iff (hvalue : p.2 ∉ m.members.map (·.2)) : give? keeps m p = some m' ↔
    keeps p.1 = false ∧ p.1 ∉ m.names ∧ m' = ⟨m.names ++ [p.1], m.members ++ [p]⟩ := by
  have hnew : ¬ (m.members.map (·.2)).contains p.2 = true := by simpa using hvalue
  rw [give?, if_neg hnew]
  split
  · next htaken =>
    rw [Bool.or_eq_true, List.contains_iff_mem] at htaken
    constructor
    · intro h
      cases h
    · rintro ⟨hkept, hname, -⟩
      exact htaken.elim (fun h => absurd (hkept.symm.trans h) Bool.false_ne_true) fun h =>
        absurd h hname
  · next hfree =>
    rw [Bool.or_eq_true, List.contains_iff_mem, not_or, Bool.not_eq_true] at hfree
    rw [Option.some_inj]
    exact ⟨fun h => ⟨hfree.1, hfree.2, h.symm⟩, fun h => h.2.2.symm⟩

/-- Names for new values are given if all of them are new, and make a member each. -/
theorem foldlM_give?_eq_some_iff (hnames : m.names.Nodup)
    (hvalues : (m.members.map (·.2) ++ body.map (·.2)).Nodup) :
    body.foldlM (give? keeps) m = some m' ↔ (∀ p ∈ body, keeps p.1 = false) ∧
      (m.names ++ body.map (·.1)).Nodup ∧
        m' = ⟨m.names ++ body.map (·.1), m.members ++ body⟩ := by
  induction body generalizing m with
  | nil => simpa [hnames] using eq_comm (a := m) (b := m')
  | cons p body ih =>
    have hvalue : p.2 ∉ m.members.map (·.2) := fun hmem =>
      (List.nodup_append.mp hvalues).2.2 p.2 hmem p.2 List.mem_cons_self rfl
    have hsplit : ∀ ns : List Text, ns ++ (p :: body).map (·.1) = ns ++ [p.1] ++ body.map (·.1) :=
      fun ns => List.append_cons ..
    rw [List.foldlM_cons, Option.bind_eq_bind, Option.bind_eq_some_iff, hsplit]
    simp only [give?_eq_some_iff hvalue, List.forall_mem_cons]
    constructor
    · rintro ⟨_, ⟨hkept, hname, rfl⟩, h⟩
      have hnames' : (m.names ++ [p.1]).Nodup := by
        simpa [List.nodup_append, hnames] using fun n hn (heq : n = p.1) => hname (heq ▸ hn)
      obtain ⟨hrest, hnodup, rfl⟩ := (ih hnames' (by simpa using hvalues)).mp h
      exact ⟨⟨hkept, hrest⟩, hnodup, by simp⟩
    · rintro ⟨⟨hkept, hrest⟩, hnodup, rfl⟩
      have hnames' : (m.names ++ [p.1]).Nodup := hnodup.sublist (List.sublist_append_left ..)
      have hname : p.1 ∉ m.names := fun hmem =>
        (List.nodup_append.mp hnames').2.2 p.1 hmem p.1 List.mem_cons_self rfl
      exact ⟨_, ⟨hkept, hname, rfl⟩,
        (ih hnames' (by simpa using hvalues)).mpr ⟨hrest, hnodup, by simp⟩⟩

/-- A class with different values is made if no name is given twice or kept, and has a member for
every value. -/
theorem ofBody?_eq_some_iff (hvalues : (body.map (·.2)).Nodup) : ofBody? keeps body = some m ↔
    (∀ p ∈ body, keeps p.1 = false) ∧ (body.map (·.1)).Nodup ∧ m = ⟨body.map (·.1), body⟩ :=
  foldlM_give?_eq_some_iff List.nodup_nil hvalues

end Members

/-! ## Lines of classes -/

/-- That a line of a class gives a name, with a literal for the value. -/
inductive Gives : Text × Text → Text → Prop where
  | intro {name value : Text} {literal : List Char}
    (hliteral : Text.Literal.value? literal = some value) :
    Gives (name, value) ("    " ++ name ++ " = " ++ Text.ofChars literal ++ "\n")

theorem gives_enumValueLine (v : Text) : Gives (safeIdentifier v, v) (enumValueLine v) :=
  .intro (Text.Literal.value?_quoted v)

/-- The class of an enumeration gives the names of its values, a line for each. -/
theorem exists_gives (t : CompiledType) : ∃ lines, List.Forall₂ Gives (assignments t) lines ∧
    enumSection t = "\n\nclass " ++ t.name ++ "(str, _enum.Enum):\n" ++ classDocstring t ++
      Text.concat (if t.values.isEmpty then ["    pass\n"] else lines) := by
  refine ⟨t.values.map enumValueLine, ?_, rfl⟩
  rw [assignments, List.forall₂_map_left_iff, List.forall₂_map_right_iff]
  exact List.forall₂_same.mpr fun v _ => gives_enumValueLine v

/-- **Members of enumerations.** The class of an enumeration with different values gives each of
them a name that can be bound, on a line with a literal for the value. These names are all different
if no value is a keyword whose form with an underscore is a value as well, and only then. If besides
the class keeps none of the names for itself, it is made and has exactly one member for every value,
in order; otherwise it is not made so. -/
theorem members_iff (t : CompiledType) (h : t.values.Nodup)
    (hnames : ∀ v ∈ t.values, Query.IsName v) :
    (∃ lines, List.Forall₂ Gives (assignments t) lines ∧
      enumSection t = "\n\nclass " ++ t.name ++ "(str, _enum.Enum):\n" ++ classDocstring t ++
        Text.concat (if t.values.isEmpty then ["    pass\n"] else lines)) ∧
    (∀ p ∈ assignments t, isBindable p.1 = true) ∧
    ((t.values.map safeIdentifier).Nodup ↔ KeywordsApart t.values) ∧
    ∀ keeps m, Members.ofBody? keeps (assignments t) = some m ↔
      KeywordsApart t.values ∧ (∀ p ∈ assignments t, keeps p.1 = false) ∧
        m = ⟨t.values.map safeIdentifier, assignments t⟩ := by
  have hapart := nodup_map_safeIdentifier_iff h
  refine ⟨exists_gives t, ?_, hapart, fun keeps m => ?_⟩
  · intro p hp
    obtain ⟨v, hv, rfl⟩ := List.mem_map.mp hp
    exact isBindable_safeIdentifier (hnames v hv)
  · have hvalues : ((assignments t).map (·.2)).Nodup := map_snd_assignments t ▸ h
    rw [Members.ofBody?_eq_some_iff hvalues, map_fst_assignments, hapart, and_left_comm]

end Models

open Models (KeywordsApart Members assignments safeIdentifier)

namespace Schema

/-- An enumeration. -/
def enumerating (values : List String) : Schema where
  types := [⟨"Color", none, .enumeration (values.map fun v => ⟨v, none, false, none⟩)⟩]
  roots := ⟨none, none, none⟩

theorem members_iff_keywords :
    ∃ r, (enumerating ["None", "class_", "RED"]).compile .standard false = .ok r ∧
      ∀ t ∈ r.byKind .enumeration, Members.ofBody? (fun _ => false) (assignments t) =
        some ⟨t.values.map safeIdentifier, assignments t⟩ := by
  refine ⟨(enumerating ["None", "class_", "RED"]).image .standard false, rfl, fun t ht => ?_⟩
  have hnodup : ∀ t ∈ ((enumerating ["None", "class_", "RED"]).image .standard false).generated,
      t.values.Nodup := by decide
  have hnames : ∀ t ∈ ((enumerating ["None", "class_", "RED"]).image .standard false).generated,
      ∀ v ∈ t.values, Query.IsName v := by decide
  have hapart : ∀ t ∈ ((enumerating ["None", "class_", "RED"]).image .standard false).generated,
      KeywordsApart t.values := by decide
  have hgenerated := (List.mem_filter.mp ht).1
  obtain ⟨-, -, -, hmembers⟩ :=
    Models.members_iff t (hnodup t hgenerated) (hnames t hgenerated)
  exact (hmembers _ _).mpr ⟨hapart t hgenerated, fun _ _ => rfl, rfl⟩

/-- A keyword and its form with an underscore. -/
def clashing : Schema := enumerating ["class", "class_"]

/-- A module is rendered with a class that gives a name twice. -/
theorem not_keywordsApart :
    ∃ r, clashing.compile .standard false = .ok r ∧
      (∃ text, (Generator.mk r [] "" none).render ⟨[]⟩ Template.builtinName = .ok text) ∧
      ∃ t ∈ r.byKind .enumeration, t.values.Nodup ∧ (∀ v ∈ t.values, Query.IsName v) ∧
        ¬ (t.values.map safeIdentifier).Nodup ∧
        ∀ keeps, Members.ofBody? keeps (assignments t) = none := by
  have htype : (clashing.image .standard false).byKind .enumeration ≠ [] := by decide
  obtain ⟨t, ht⟩ := List.exists_mem_of_ne_nil _ htype
  have hnodup : ∀ t ∈ (clashing.image .standard false).byKind .enumeration,
      t.values.Nodup := by decide
  have hnames : ∀ t ∈ (clashing.image .standard false).byKind .enumeration,
      ∀ v ∈ t.values, Query.IsName v := by decide
  have hclash : ∀ t ∈ (clashing.image .standard false).byKind .enumeration,
      ¬ (t.values.map safeIdentifier).Nodup := by decide
  refine ⟨clashing.image .standard false, rfl, ?_, t, ht, hnodup t ht, hnames t ht, hclash t ht, ?_⟩
  · refine Generator.exists_render_of_isOk (Template.isBuiltin_none _) ?_
    decide +kernel
  · intro keeps
    have hvalues : ((assignments t).map (·.2)).Nodup :=
      Models.map_snd_assignments t ▸ hnodup t ht
    rw [Option.eq_none_iff_forall_ne_some]
    intro m hm
    obtain ⟨-, hgiven, -⟩ := (Members.ofBody?_eq_some_iff hvalues).mp hm
    exact hclash t ht (Models.map_fst_assignments t ▸ hgiven)

end Schema

end GraphBind
