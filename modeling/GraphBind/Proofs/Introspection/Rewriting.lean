import GraphBind.Proofs.Entries
import GraphBind.Proofs.Introspection.Reading
import Mathlib.Logic.Relation

/-!
# Rewritings of introspection documents

What may be changed in a document without changing what it spells: a key may get its second
spelling, a member that holds null and may do so may be left out, and members that are not declared
may be added, to any object in the document (`Rewrite`); what stands in such members may be
anything. To say which object of a document has which shape, the shapes are listed with the members
that they declare (`Shape.members`).

Seen from a declared member, a rewriting does not change what is given of it, leaves out a null, or
rewrites inside of it (`Moved`). The forms of members are kept under that, therefore those of
objects (`keeps_of_moves`), and by induction on the place of the change those of whole documents
(`Rewrite.keeps`).
-/

namespace GraphBind.Introspection

/-- The shapes of the objects in a document. -/
inductive Shape where
  | schema
  | root
  | type
  | field
  | input
  | enumValue
  | ref
  deriving DecidableEq

/-- A member that a shape declares. -/
structure Member where
  key : String
  /-- The second spelling of the key. -/
  spelling : String
  /-- Whether it may be null. -/
  nullable : Bool
  /-- The shape of the object that it holds, or of the objects in the array that it holds. -/
  shape? : Option Shape
  deriving DecidableEq

/-- The spellings of the key of a member. -/
def Member.keys (m : Member) : List Text := [m.key, m.spelling].map Text.ofString

/-- What is given of a member in an object. -/
def Member.given? (m : Member) (ms : Members) : Option Json :=
  Introspection.given? m.key m.spelling ms

/-- The members that a shape declares. -/
def Shape.members : Shape → List Member
  | schema =>
    [⟨"queryType", "query_type", true, some root⟩,
      ⟨"mutationType", "mutation_type", true, some root⟩,
      ⟨"subscriptionType", "subscription_type", true, some root⟩,
      ⟨"types", "types", false, some type⟩]
  | root => [⟨"name", "name", false, none⟩]
  | type =>
    [⟨"kind", "kind", false, none⟩, ⟨"name", "name", false, none⟩,
      ⟨"description", "description", true, none⟩, ⟨"fields", "fields", true, some field⟩,
      ⟨"inputFields", "input_fields", true, some input⟩,
      ⟨"interfaces", "interfaces", true, some ref⟩,
      ⟨"enumValues", "enum_values", true, some enumValue⟩,
      ⟨"possibleTypes", "possible_types", true, some ref⟩]
  | field =>
    [⟨"name", "name", false, none⟩, ⟨"description", "description", true, none⟩,
      ⟨"args", "args", false, some input⟩, ⟨"type", "type", false, some ref⟩,
      ⟨"isDeprecated", "is_deprecated", false, none⟩,
      ⟨"deprecationReason", "deprecation_reason", true, none⟩]
  | input =>
    [⟨"name", "name", false, none⟩, ⟨"description", "description", true, none⟩,
      ⟨"type", "type", false, some ref⟩, ⟨"defaultValue", "default_value", true, none⟩]
  | enumValue =>
    [⟨"name", "name", false, none⟩, ⟨"description", "description", true, none⟩,
      ⟨"isDeprecated", "is_deprecated", false, none⟩,
      ⟨"deprecationReason", "deprecation_reason", true, none⟩]
  | ref =>
    [⟨"kind", "kind", false, none⟩, ⟨"name", "name", true, none⟩,
      ⟨"ofType", "of_type", true, some ref⟩]

/-- One change to a document that is an object of some shape, or an array of such objects. -/
inductive Rewrite : Shape → Json → Json → Prop where
  /-- A key gets its second spelling. -/
  | respell {shape : Shape} {m : Member} {before after : Members} {d : Json}
    (hm : m ∈ shape.members) (hfresh : ∀ k ∈ m.keys, k ∉ Entries.keys (before ++ after)) :
    Rewrite shape (.object (before ++ (Text.ofString m.key, d) :: after))
      (.object (before ++ (Text.ofString m.spelling, d) :: after))
  /-- A member that may be null, and is, is left out. -/
  | drop {shape : Shape} {m : Member} {k : Text} {before after : Members} (hm : m ∈ shape.members)
    (hnullable : m.nullable = true) (hk : k ∈ m.keys)
    (hfresh : ∀ k ∈ m.keys, k ∉ Entries.keys (before ++ after)) :
    Rewrite shape (.object (before ++ (k, .null) :: after)) (.object (before ++ after))
  /-- A member that is not declared is added. -/
  | add {shape : Shape} {k : Text} {before after : Members} {d : Json}
    (hk : ∀ m ∈ shape.members, k ∉ m.keys) :
    Rewrite shape (.object (before ++ after)) (.object (before ++ (k, d) :: after))
  /-- Anything happens inside of a member that is not declared. -/
  | undeclared {shape : Shape} {k : Text} {before after : Members} {d d' : Json}
    (hk : ∀ m ∈ shape.members, k ∉ m.keys) :
    Rewrite shape (.object (before ++ (k, d) :: after)) (.object (before ++ (k, d') :: after))
  /-- A change inside of a declared member. -/
  | member {shape inner : Shape} {m : Member} {k : Text} {before after : Members} {d d' : Json}
    (hm : m ∈ shape.members) (hk : k ∈ m.keys) (hshape : m.shape? = some inner)
    (h : Rewrite inner d d') :
    Rewrite shape (.object (before ++ (k, d) :: after)) (.object (before ++ (k, d') :: after))
  /-- A change inside of an item of an array. -/
  | item {shape : Shape} {before after : List Json} {d d' : Json} (h : Rewrite shape d d') :
    Rewrite shape (.array (before ++ d :: after)) (.array (before ++ d' :: after))

/-! ## Forms of shapes -/

/-- The records of a shape. -/
abbrev Shape.Record : Shape → Type
  | schema => SchemaRecord
  | root => Text
  | type => TypeRecord
  | field => FieldRecord
  | input => InputRecord
  | enumValue => EnumValueRecord
  | ref => RefRecord

/-- The form of the objects of a shape, where references are nested to some depth. -/
def Shape.form (depth : Nat) : (s : Shape) → Form s.Record
  | schema => .object (SchemaRecord.Spelled (.refWithin depth))
  | root => .object RootSpelled
  | type => .object (TypeRecord.Spelled (.refWithin depth))
  | field => .object (FieldRecord.Spelled (.refWithin depth))
  | input => .object (InputRecord.Spelled (.refWithin depth))
  | enumValue => .object EnumValueRecord.Spelled
  | ref => .refWithin depth

theorem Shape.object_of_form {s : Shape} {depth : Nat} {d : Json} {r : s.Record}
    (h : s.form depth d r) : ∃ ms, d = .object ms := by
  cases s <;>
  · obtain ⟨ms, rfl, -⟩ := h
    exact ⟨ms, rfl⟩

/-- That what one document spells, the other does too, both as an object of a shape and as an array
of such objects. -/
structure Keeps (s : Shape) (d d' : Json) : Prop where
  notNull : d ≠ .null ∧ d' ≠ .null
  form : ∀ {depth : Nat} {r : s.Record}, s.form depth d r → s.form depth d' r
  array : ∀ {depth : Nat} {rs : List s.Record},
    Form.array (s.form depth) d rs → Form.array (s.form depth) d' rs

/-- What happens to what is given of a declared member. -/
inductive Moved (m : Member) : Option Json → Option Json → Prop where
  | same (o : Option Json) : Moved m o o
  | dropped (hnullable : m.nullable = true) : Moved m (some .null) none
  | rewritten {inner : Shape} {d d' : Json} (hshape : m.shape? = some inner)
    (h : Keeps inner d d') : Moved m (some d) (some d')

variable {α : Type} {f : Form α} {m : Member} {o o' : Option Json} {a : α}

/-- That a form is kept when objects of a shape inside of it are rewritten. -/
def Form.Kept (shape? : Option Shape) (f : Form α) : Prop :=
  ∀ ⦃inner : Shape⦄, shape? = some inner → ∀ ⦃d d' : Json⦄ ⦃a : α⦄,
    Keeps inner d d' → f d a → f d' a

theorem Form.kept_none (f : Form α) : f.Kept none := fun _ h => nomatch h

theorem Form.kept_form (s : Shape) (depth : Nat) : (s.form depth).Kept (some s) := by
  rintro inner h
  cases h
  exact fun _ _ _ hkeeps => hkeeps.form

theorem Form.kept_array (s : Shape) (depth : Nat) :
    (Form.array (s.form depth)).Kept (some s) := by
  rintro inner h
  cases h
  exact fun _ _ _ hkeeps => hkeeps.array

namespace Moved

theorem required (h : Moved m o o') (hm : m.nullable = false) (hf : f.Kept m.shape?)
    (ho : Form.required f o a) : Form.required f o' a := by
  cases h with
  | same => exact ho
  | dropped hnullable =>
    rw [hm] at hnullable
    cases hnullable
  | rewritten hshape hkeeps => exact hf hshape hkeeps ho

theorem optional {default : α} (h : Moved m o o') (hm : m.nullable = false)
    (hf : f.Kept m.shape?) (ho : Form.optional f default o a) : Form.optional f default o' a := by
  cases h with
  | same => exact ho
  | dropped hnullable =>
    rw [hm] at hnullable
    cases hnullable
  | rewritten hshape hkeeps => exact hf hshape hkeeps ho

/-- A member that is moved is still read as the same value. -/
theorem maybe {a? : Option α} (h : Moved m o o') (hf : f.Kept m.shape?)
    (ho : Form.maybe f o a?) : Form.maybe f o' a? := by
  cases h with
  | same => exact ho
  | dropped =>
    -- null spells that there is nothing, and so does leaving the member out
    cases a? with
    | none => rfl
    | some a => exact absurd rfl ho.1
  | rewritten hshape hkeeps =>
    cases a? with
    | none => exact absurd ho hkeeps.notNull.1
    | some a => exact ⟨hkeeps.notNull.2, hf hshape hkeeps ho.2⟩

end Moved

/-! ## Objects -/

/-- That an object turns into another as far as the members are concerned that a shape declares. -/
def Shape.Moves (s : Shape) (ms ms' : Members) : Prop :=
  ∀ m ∈ s.members, Moved m (m.given? ms) (m.given? ms')

section Records

variable {ms ms' : Members} {depth : Nat}

theorem Form.object_imp {p : Members → α → Prop} (h : p ms a → p ms' a)
    (hd : Form.object p (.object ms) a) : Form.object p (.object ms') a := by
  obtain ⟨_, hms, ha⟩ := hd
  cases hms
  exact ⟨ms', rfl, h ha⟩

theorem SchemaRecord.Spelled.moved {r : SchemaRecord} (h : Shape.schema.Moves ms ms')
    (hr : r.Spelled (.refWithin depth) ms) : r.Spelled (.refWithin depth) ms' := by
  simp only [Shape.Moves, Shape.members, List.forall_mem_cons] at h
  obtain ⟨hquery, hmutation, hsubscription, htypes, -⟩ := h
  exact ⟨hquery.maybe (Form.kept_form .root depth) hr.queryType,
    hmutation.maybe (Form.kept_form .root depth) hr.mutationType,
    hsubscription.maybe (Form.kept_form .root depth) hr.subscriptionType,
    htypes.optional rfl (Form.kept_array .type depth) hr.types⟩

theorem RootSpelled.moved {name : Text} (h : Shape.root.Moves ms ms')
    (hr : RootSpelled ms name) : RootSpelled ms' name := by
  simp only [Shape.Moves, Shape.members, List.forall_mem_cons] at h
  exact h.1.required rfl (Form.kept_none _) hr

/-- A type is spelled by its members wherever they stand, and however they are nested. -/
theorem TypeRecord.Spelled.moved {r : TypeRecord} (h : Shape.type.Moves ms ms')
    (hr : r.Spelled (.refWithin depth) ms) : r.Spelled (.refWithin depth) ms' := by
  simp only [Shape.Moves, Shape.members, List.forall_mem_cons] at h
  obtain ⟨hkind, hname, hdescription, hfields, hinputs, hinterfaces, hvalues, hpossible, -⟩ := h
  exact ⟨hkind.required rfl (Form.kept_none _) hr.kind,
    hname.required rfl (Form.kept_none _) hr.name,
    hdescription.maybe (Form.kept_none _) hr.description,
    hfields.maybe (Form.kept_array .field depth) hr.fields,
    hinputs.maybe (Form.kept_array .input depth) hr.inputFields,
    hinterfaces.maybe (Form.kept_array .ref depth) hr.interfaces,
    hvalues.maybe (Form.kept_array .enumValue depth) hr.enumValues,
    hpossible.maybe (Form.kept_array .ref depth) hr.possibleTypes⟩

/-- A field stays spelled when its members are moved. -/
theorem FieldRecord.Spelled.moved {r : FieldRecord} (h : Shape.field.Moves ms ms')
    (hr : r.Spelled (.refWithin depth) ms) : r.Spelled (.refWithin depth) ms' := by
  simp only [Shape.Moves, Shape.members, List.forall_mem_cons] at h
  obtain ⟨hname, hdescription, hargs, htype, hdeprecated, hreason, -⟩ := h
  exact ⟨hname.required rfl (Form.kept_none _) hr.name,
    hdescription.maybe (Form.kept_none _) hr.description,
    hargs.optional rfl (Form.kept_array .input depth) hr.args,
    htype.required rfl (Form.kept_form .ref depth) hr.type,
    hdeprecated.optional rfl (Form.kept_none _) hr.isDeprecated,
    hreason.maybe (Form.kept_none _) hr.deprecationReason⟩

theorem InputRecord.Spelled.moved {r : InputRecord} (h : Shape.input.Moves ms ms')
    (hr : r.Spelled (.refWithin depth) ms) : r.Spelled (.refWithin depth) ms' := by
  simp only [Shape.Moves, Shape.members, List.forall_mem_cons] at h
  obtain ⟨hname, hdescription, htype, hdefault, -⟩ := h
  exact ⟨hname.required rfl (Form.kept_none _) hr.name,
    hdescription.maybe (Form.kept_none _) hr.description,
    htype.required rfl (Form.kept_form .ref depth) hr.type,
    hdefault.maybe (Form.kept_none _) hr.defaultValue⟩

theorem EnumValueRecord.Spelled.moved {r : EnumValueRecord} (h : Shape.enumValue.Moves ms ms')
    (hr : r.Spelled ms) : r.Spelled ms' := by
  simp only [Shape.Moves, Shape.members, List.forall_mem_cons] at h
  obtain ⟨hname, hdescription, hdeprecated, hreason, -⟩ := h
  exact ⟨hname.required rfl (Form.kept_none _) hr.name,
    hdescription.maybe (Form.kept_none _) hr.description,
    hdeprecated.optional rfl (Form.kept_none _) hr.isDeprecated,
    hreason.maybe (Form.kept_none _) hr.deprecationReason⟩

/-- What stands inside of a reference is kept at every depth, therefore at one less. -/
theorem refWithin_moved {r : RefRecord} (h : Shape.ref.Moves ms ms')
    (hr : Form.refWithin depth (.object ms) r) : Form.refWithin depth (.object ms') r := by
  simp only [Shape.Moves, Shape.members, List.forall_mem_cons] at h
  obtain ⟨hkind, hname, hinner, -⟩ := h
  obtain ⟨kind, name, inner?⟩ := r
  cases depth with
  | zero => exact absurd hr not_refWithin_zero
  | succ depth =>
    obtain ⟨hk, hn, hi⟩ := refWithin_succ_iff.mp hr
    exact refWithin_succ_iff.mpr ⟨hkind.required rfl (Form.kept_none _) hk,
      hname.maybe (Form.kept_none _) hn, hinner.maybe (Form.kept_form .ref depth) hi⟩

/-- An object keeps its form if its declared members do theirs. -/
theorem keeps_of_moves {s : Shape} (h : s.Moves ms ms') : Keeps s (.object ms) (.object ms') where
  notNull := ⟨Json.noConfusion, Json.noConfusion⟩
  array := by
    rintro depth rs ⟨ds, hds, -⟩
    cases hds
  form := by
    intro depth r hr
    cases s with
    | schema => exact Form.object_imp (SchemaRecord.Spelled.moved h) hr
    | root => exact Form.object_imp (RootSpelled.moved h) hr
    | type => exact Form.object_imp (TypeRecord.Spelled.moved h) hr
    | field => exact Form.object_imp (FieldRecord.Spelled.moved h) hr
    | input => exact Form.object_imp (InputRecord.Spelled.moved h) hr
    | enumValue => exact Form.object_imp (EnumValueRecord.Spelled.moved h) hr
    | ref => exact refWithin_moved h hr

end Records

/-! ## What is given -/

namespace Member

variable {before after ms : Members} {k : Text} {d d' : Json}

theorem mem_keys_iff : k ∈ m.keys ↔ k = Text.ofString m.key ∨ k = Text.ofString m.spelling := by
  simp [keys]

/-- No two members that a shape declares share a spelling. -/
theorem eq_of_mem_keys {s : Shape} {m m' : Member} (hm : m ∈ s.members) (hm' : m' ∈ s.members)
    (hk : k ∈ m.keys) (hk' : k ∈ m'.keys) : m = m' := by
  have hdistinct : ∀ m ∈ s.members, ∀ m' ∈ s.members, ∀ x ∈ [m.key, m.spelling],
      x ∈ [m'.key, m'.spelling] → m = m' := by
    cases s <;> decide +kernel
  obtain ⟨x, hx, rfl⟩ := List.mem_map.mp hk
  obtain ⟨x', hx', heq⟩ := List.mem_map.mp hk'
  cases Text.ofString_injective heq
  exact hdistinct m hm m' hm' x hx hx'

theorem not_mem_keys_of_ne {s : Shape} {m m' : Member} (hm : m ∈ s.members) (hm' : m' ∈ s.members)
    (hk : k ∈ m.keys) (hne : m' ≠ m) : k ∉ m'.keys :=
  fun hk' => hne (eq_of_mem_keys hm' hm hk' hk)

theorem given?_eq_none (hfresh : ∀ k ∈ m.keys, k ∉ Entries.keys ms) : m.given? ms = none := by
  have hkey := hfresh _ (mem_keys_iff.mpr (.inl rfl))
  have hspelling := hfresh _ (mem_keys_iff.mpr (.inr rfl))
  rw [given?, Introspection.given?, Entries.get?_eq_none hkey, Entries.get?_eq_none hspelling]
  rfl

theorem given?_insert_ne (hk : k ∉ m.keys) (before after : Members) (d : Json) :
    m.given? (before ++ (k, d) :: after) = m.given? (before ++ after) := by
  rw [mem_keys_iff, not_or] at hk
  rw [given?, given?, Introspection.given?, Introspection.given?,
    Entries.get?_insert_ne before after d hk.1, Entries.get?_insert_ne before after d hk.2]

/-- Replacing a member changes what is given from the one document to the other, if it changes that
at all. -/
theorem given?_replace (m : Member) (before after : Members) (k : Text) (d d' : Json) :
    m.given? (before ++ (k, d) :: after) = m.given? (before ++ (k, d') :: after) ∨
      k ∈ m.keys ∧ m.given? (before ++ (k, d) :: after) = some d ∧
        m.given? (before ++ (k, d') :: after) = some d' := by
  unfold given? Introspection.given?
  rcases Entries.get?_replace (k := Text.ofString m.key) before after k d d' with
    hkey | ⟨rfl, hd, hd'⟩
  · rw [hkey]
    cases Entries.get? (Text.ofString m.key) (before ++ (k, d') :: after) with
    | some given => exact .inl rfl
    | none =>
      rcases Entries.get?_replace (k := Text.ofString m.spelling) before after k d d' with
        hspelling | ⟨rfl, hd, hd'⟩
      · exact .inl hspelling
      · exact .inr ⟨mem_keys_iff.mpr (.inr rfl), hd, hd'⟩
  · rw [hd, hd']
    exact .inr ⟨mem_keys_iff.mpr (.inl rfl), rfl, rfl⟩

/-- A member whose keys are given nowhere else is the one that is found. -/
theorem given?_insert_self (hk : k ∈ m.keys)
    (hfresh : ∀ k ∈ m.keys, k ∉ Entries.keys (before ++ after)) (d : Json) :
    m.given? (before ++ (k, d) :: after) = some d := by
  have hself : Entries.get? k (before ++ (k, d) :: after) = some d := by
    refine Entries.get?_insert_self after d fun h => hfresh k hk ?_
    rw [Entries.keys, List.map_append]
    exact List.mem_append_left _ h
  have hkey := hfresh _ (mem_keys_iff.mpr (.inl rfl))
  unfold given? Introspection.given?
  by_cases heq : k = Text.ofString m.key
  · rw [← heq, hself]
    rfl
  · rw [Entries.get?_insert_ne before after d heq, Entries.get?_eq_none hkey,
      ← (mem_keys_iff.mp hk).resolve_left heq, hself]
    rfl

end Member

/-! ## Rewriting -/

/-- Where one item is replaced by another that spells as much, an array does not spell less. -/
theorem forall₂_replace {before after : List Json} {d d' : Json} {as : List α}
    (h : ∀ a, f d a → f d' a) (hall : List.Forall₂ f (before ++ d :: after) as) :
    List.Forall₂ f (before ++ d' :: after) as := by
  induction before generalizing as with
  | nil =>
    obtain ⟨a, as', ha, has', rfl⟩ := List.forall₂_cons_left_iff.mp hall
    exact .cons (h a ha) has'
  | cons b before ih =>
    obtain ⟨a, as', ha, has', rfl⟩ := List.forall₂_cons_left_iff.mp hall
    exact .cons ha (ih has')

/-- By induction on the place of the change. -/
theorem Rewrite.keeps {s : Shape} {d d' : Json} (h : Rewrite s d d') : Keeps s d d' := by
  induction h with
  | @respell s m before after d hm hfresh =>
    have hkey : Text.ofString m.key ∈ m.keys := Member.mem_keys_iff.mpr (.inl rfl)
    have hspelling : Text.ofString m.spelling ∈ m.keys := Member.mem_keys_iff.mpr (.inr rfl)
    refine keeps_of_moves fun m' hm' => ?_
    -- either spelling finds the member itself, and no other member has one of them
    by_cases heq : m' = m
    · subst heq
      rw [Member.given?_insert_self hkey hfresh, Member.given?_insert_self hspelling hfresh]
      exact .same _
    · rw [Member.given?_insert_ne (Member.not_mem_keys_of_ne hm hm' hkey heq),
        Member.given?_insert_ne (Member.not_mem_keys_of_ne hm hm' hspelling heq)]
      exact .same _
  | @drop s m k before after hm hnullable hk hfresh =>
    refine keeps_of_moves fun m' hm' => ?_
    by_cases heq : m' = m
    · subst heq
      rw [Member.given?_insert_self hk hfresh, Member.given?_eq_none hfresh]
      exact .dropped hnullable
    · rw [Member.given?_insert_ne (Member.not_mem_keys_of_ne hm hm' hk heq)]
      exact .same _
  | add hk =>
    refine keeps_of_moves fun m hm => ?_
    rw [Member.given?_insert_ne (hk m hm)]
    exact .same _
  | undeclared hk =>
    refine keeps_of_moves fun m hm => ?_
    rw [Member.given?_insert_ne (hk m hm), Member.given?_insert_ne (hk m hm)]
    exact .same _
  | @member s inner m k before after d d' hm hk hshape _ ih =>
    refine keeps_of_moves fun m' hm' => ?_
    -- an entry that is not the one that is looked at may be changed unseen, even under a declared
    -- key
    rcases m'.given?_replace before after k d d' with hsame | ⟨hk', hd, hd'⟩
    · rw [hsame]
      exact .same _
    · cases Member.eq_of_mem_keys hm' hm hk' hk
      rw [hd, hd']
      exact .rewritten hshape ih
  | item _ ih =>
    -- an array is no object of the shape, and its items are
    refine ⟨⟨Json.noConfusion, Json.noConfusion⟩, fun h => ?_, ?_⟩
    · obtain ⟨ms, hms⟩ := Shape.object_of_form h
      cases hms
    · rintro depth rs ⟨ds, hds, hall⟩
      cases hds
      exact ⟨_, rfl, forall₂_replace (fun _ => ih.form) hall⟩

/-- Documents that are rewritten go on spelling what they do. -/
theorem form_of_rewrites {s : Shape} {depth : Nat} {r : s.Record} {d d' : Json}
    (h : Relation.ReflTransGen (Rewrite s) d d') (hd : s.form depth d r) : s.form depth d' r := by
  induction h with
  | refl => exact hd
  | tail _ hstep ih => exact hstep.keeps.form ih

end GraphBind.Introspection
