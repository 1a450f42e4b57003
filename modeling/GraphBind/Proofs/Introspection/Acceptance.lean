import GraphBind.Proofs.Checks
import GraphBind.Proofs.Introspection.Reading

/-!
# Accepted schemas

A `__schema` object is accepted if and only if it spells a schema record that is sound, and nests no
reference deeper than `depthLimit` (`exists_ofMembers_iff`). The depth is bounded when the document
is read, for every reference in it. Soundness is asked of the record afterwards, and only of what
the kind of a type has it look at: the references of fields, arguments and input fields, but not
those to interfaces and possible types.

The bound is one of reading only: `nestedSchema` is spelled at every depth, by a sound record
(`spelled_nestedSchema`), and read only within it (`lt_of_spelled_nestedSchema`).
-/

namespace GraphBind

/-- How references of a wrapping kind wrap another. -/
inductive Kind.Wrapper : Kind → (TypeRef → TypeRef) → Prop where
  | list : Wrapper .list TypeRef.list
  | nonNull : Wrapper .nonNull TypeRef.nonNull

/-- Whether types of a kind only wrap another. -/
def Kind.Wraps (k : Kind) : Prop := k = .list ∨ k = .nonNull

theorem Kind.wraps_iff {k : Kind} : k.Wraps ↔ ∃ wrap, k.Wrapper wrap := by
  constructor
  · rintro (rfl | rfl)
    · exact ⟨_, .list⟩
    · exact ⟨_, .nonNull⟩
  · rintro ⟨_, _ | _⟩
    · exact .inl rfl
    · exact .inr rfl

namespace Introspection

/-! ## Sound records -/

/-- A reference is sound if each wrapping kind in it wraps a reference, down to the first one of
another kind, which has a name that is not empty. What stands inside of that is not looked at. -/
inductive RefRecord.Sound : RefRecord → Prop where
  | named {kind : Kind} {name : Text} {inner? : Option RefRecord} (hkind : ¬kind.Wraps)
    (hname : name ≠ []) : Sound ⟨kind, some name, inner?⟩
  | wrapping {kind : Kind} {name : Option Text} {inner : RefRecord} (hkind : kind.Wraps)
    (hinner : Sound inner) : Sound ⟨kind, name, some inner⟩

/-- An argument or input field is sound if its type is. -/
def InputRecord.Sound (r : InputRecord) : Prop := r.type.Sound

/-- A field is sound if its type and its arguments are. -/
structure FieldRecord.Sound (r : FieldRecord) : Prop where
  type : r.type.Sound
  args : ∀ a ∈ r.args, a.Sound

/-- A type is sound if it is of no wrapping kind and the fields are that its kind has. -/
def TypeRecord.Sound (r : TypeRecord) : Prop :=
  match r.kind with
  | .object | .interface => ∀ f ∈ r.fields.getD [], f.Sound
  | .inputObject => ∀ f ∈ r.inputFields.getD [], f.Sound
  | .scalar | .union | .enumeration => True
  | .list | .nonNull => False

/-- A schema is sound if its types are. -/
def SchemaRecord.Sound (r : SchemaRecord) : Prop := ∀ t ∈ r.types, t.Sound

/-! ## References -/

namespace RefRecord

variable {kind : Kind} {name : Option Text} {inner? : Option RefRecord} {t : TypeRef}

theorem toRef_of_not_wraps (hk : ¬kind.Wraps) : (mk kind name inner?).toRef =
    match name with
    | some n => if n.isEmpty then .error (.nameless kind) else .ok (.named n)
    | none => .error (.nameless kind) := by
  cases kind with
  | list => exact absurd (.inl rfl) hk
  | nonNull => exact absurd (.inr rfl) hk
  | _ => rfl

/-- A reference of a kind that wraps nothing makes a reference iff it has a name that is not empty.
-/
theorem toRef_eq_ok_iff_of_not_wraps (hk : ¬kind.Wraps) :
    (mk kind name inner?).toRef = .ok t ↔ ∃ n, name = some n ∧ n ≠ [] ∧ t = .named n := by
  rw [toRef_of_not_wraps hk]
  cases name with
  | none => simp
  | some n =>
    cases n with
    | nil => simp
    | cons c cs => simp [eq_comm]

/-- A reference of a wrapping kind makes one iff it wraps something that does. -/
theorem toRef_eq_ok_iff_of_wrapper {wrap : TypeRef → TypeRef} (hw : kind.Wrapper wrap) :
    (mk kind name inner?).toRef = .ok t ↔
      ∃ inner t', inner? = some inner ∧ inner.toRef = .ok t' ∧ t = wrap t' := by
  cases inner? with
  | none =>
    constructor
    · intro h
      cases hw with
      | list => cases h
      | nonNull => cases h
    · rintro ⟨inner, t', h, -⟩
      cases h
  | some inner =>
    have hmap : (mk kind name (some inner)).toRef = inner.toRef.map wrap := by
      cases hw with
      | list => rfl
      | nonNull => rfl
    rw [hmap, map_eq_ok_iff]
    constructor
    · rintro ⟨t', ht', rfl⟩
      exact ⟨inner, t', rfl, ht', rfl⟩
    · rintro ⟨inner, t', h, ht', rfl⟩
      cases h
      exact ⟨t', ht', rfl⟩

theorem sound_of_not_wraps (hk : ¬kind.Wraps) (ht : (mk kind name inner?).toRef = .ok t) :
    (mk kind name inner?).Sound := by
  obtain ⟨n, rfl, hn, -⟩ := (toRef_eq_ok_iff_of_not_wraps hk).mp ht
  exact .named hk hn

/-- A reference makes one iff it is sound all the way down. -/
theorem exists_toRef_iff (r : RefRecord) : (∃ t, r.toRef = .ok t) ↔ r.Sound := by
  constructor
  · intro hr
    induction r with
    | innermost kind name =>
      obtain ⟨t, ht⟩ := hr
      by_cases hk : kind.Wraps
      · obtain ⟨wrap, hw⟩ := Kind.wraps_iff.mp hk
        obtain ⟨inner, -, hinner, -⟩ := (toRef_eq_ok_iff_of_wrapper hw).mp ht
        cases hinner
      · exact sound_of_not_wraps hk ht
    | around kind name inner ih =>
      obtain ⟨t, ht⟩ := hr
      by_cases hk : kind.Wraps
      · obtain ⟨wrap, hw⟩ := Kind.wraps_iff.mp hk
        obtain ⟨inner', t', hinner, ht', -⟩ := (toRef_eq_ok_iff_of_wrapper hw).mp ht
        cases hinner
        exact .wrapping hk (ih ⟨t', ht'⟩)
      · exact sound_of_not_wraps hk ht
  · intro hr
    induction hr with
    | named hk hn => exact ⟨_, (toRef_eq_ok_iff_of_not_wraps hk).mpr ⟨_, rfl, hn, rfl⟩⟩
    | wrapping hk _ ih =>
      obtain ⟨wrap, hw⟩ := Kind.wraps_iff.mp hk
      obtain ⟨t', ht'⟩ := ih
      exact ⟨wrap t', (toRef_eq_ok_iff_of_wrapper hw).mpr ⟨_, t', rfl, ht', rfl⟩⟩

end RefRecord

/-! ## Records -/

theorem InputRecord.exists_toArgument_iff (r : InputRecord) :
    (∃ a, r.toArgument = .ok a) ↔ r.Sound :=
  exists_bind_pure_iff.trans r.type.exists_toRef_iff

theorem exists_mapM_toArgument_iff (rs : List InputRecord) :
    (∃ as, rs.mapM InputRecord.toArgument = .ok as) ↔ ∀ r ∈ rs, r.Sound := by
  rw [exists_mapM_eq_ok_iff]
  exact forall₂_congr fun r _ => r.exists_toArgument_iff

/-- A field makes one iff its type and those of its arguments are sound. -/
theorem FieldRecord.exists_toField_iff (r : FieldRecord) :
    (∃ f, r.toField = .ok f) ↔ r.Sound := by
  unfold toField
  constructor
  · rintro ⟨f, h⟩
    obtain ⟨t, ht, h⟩ := bind_eq_ok_iff.mp h
    obtain ⟨as, has, -⟩ := bind_eq_ok_iff.mp h
    exact ⟨r.type.exists_toRef_iff.mp ⟨t, ht⟩, (exists_mapM_toArgument_iff r.args).mp ⟨as, has⟩⟩
  · rintro ⟨htype, hargs⟩
    obtain ⟨t, ht⟩ := r.type.exists_toRef_iff.mpr htype
    obtain ⟨as, has⟩ := (exists_mapM_toArgument_iff r.args).mpr hargs
    exact ⟨_, bind_eq_ok_iff.mpr ⟨t, ht, bind_eq_ok_iff.mpr ⟨as, has, rfl⟩⟩⟩

theorem exists_mapM_toField_iff (rs : List FieldRecord) :
    (∃ fs, rs.mapM FieldRecord.toField = .ok fs) ↔ ∀ r ∈ rs, r.Sound := by
  rw [exists_mapM_eq_ok_iff]
  exact forall₂_congr fun r _ => r.exists_toField_iff

/-- A type makes a body iff what its kind looks at is sound; the other members do not count. -/
theorem TypeRecord.exists_toBody_iff (r : TypeRecord) : (∃ b, r.toBody = .ok b) ↔ r.Sound := by
  obtain ⟨kind, name, description, fields, inputFields, interfaces, enumValues, possibleTypes⟩ := r
  have hnone {e : SchemaFault} : (∃ b : Body, Except.error e = .ok b) ↔ False := by
    constructor
    · rintro ⟨b, hb⟩
      cases hb
    · exact False.elim
  cases kind with
  | scalar => exact ⟨fun _ => trivial, fun _ => ⟨_, rfl⟩⟩
  | object => exact exists_bind_pure_iff.trans (exists_mapM_toField_iff (fields.getD []))
  | interface => exact exists_bind_pure_iff.trans (exists_mapM_toField_iff (fields.getD []))
  | union => exact ⟨fun _ => trivial, fun _ => ⟨_, rfl⟩⟩
  | enumeration => exact ⟨fun _ => trivial, fun _ => ⟨_, rfl⟩⟩
  | inputObject =>
    exact exists_bind_pure_iff.trans (exists_mapM_toArgument_iff (inputFields.getD []))
  | list => exact hnone
  | nonNull => exact hnone

theorem TypeRecord.exists_toDefinition_iff (r : TypeRecord) :
    (∃ d, r.toDefinition = .ok d) ↔ r.Sound :=
  exists_bind_pure_iff.trans r.exists_toBody_iff

theorem SchemaRecord.exists_toSchema_iff (r : SchemaRecord) :
    (∃ s, r.toSchema = .ok s) ↔ r.Sound := by
  refine exists_bind_pure_iff.trans ?_
  rw [exists_mapM_eq_ok_iff]
  exact forall₂_congr fun t _ => t.exists_toDefinition_iff

end Introspection

namespace Schema

open Introspection

/-- A schema is taken from the record that a `__schema` object spells. -/
theorem ofMembers_eq_ok_iff {ms : Members} {s : Schema} : ofMembers ms = .ok s ↔
    ∃ r : SchemaRecord, r.Spelled (.refWithin depthLimit) ms ∧ r.toSchema = .ok s := by
  unfold ofMembers
  cases h : readSchema ms with
  | value r =>
    have hr := readSchema_eq_value_iff.mp h
    constructor
    · exact fun hs => ⟨r, hr, hs⟩
    · rintro ⟨r', hr', hs⟩
      rw [readSchema_eq_value_iff.mpr hr'] at h
      cases h
      exact hs
  | issues found =>
    constructor
    · intro hs
      cases hs
    · rintro ⟨r, hr, -⟩
      rw [readSchema_eq_value_iff.mpr hr] at h
      cases h

/-- **What is accepted.** A `__schema` object makes a schema if and only if it spells a sound record
and no reference in it, wherever it stands, is nested deeper than `depthLimit`. -/
theorem exists_ofMembers_iff (ms : Members) : (∃ s, ofMembers ms = .ok s) ↔
    ∃ r : SchemaRecord, r.Spelled (.refWithin depthLimit) ms ∧ r.Sound := by
  constructor
  · rintro ⟨s, hs⟩
    obtain ⟨r, hr, htoSchema⟩ := ofMembers_eq_ok_iff.mp hs
    exact ⟨r, hr, r.exists_toSchema_iff.mp ⟨s, htoSchema⟩⟩
  · rintro ⟨r, hr, hsound⟩
    obtain ⟨s, hs⟩ := r.exists_toSchema_iff.mpr hsound
    exact ⟨s, ofMembers_eq_ok_iff.mpr ⟨r, hr, hs⟩⟩

end Schema

/-! ## Deep references -/

namespace Introspection

/-- A reference to a list of lists of lists, and so on, of integers. -/
def nestedRef : Nat → Members
  | 0 => [("kind", .scalar (.str "SCALAR")), ("name", .scalar (.str "Int"))]
  | n + 1 => [("kind", .scalar (.str "LIST")), ("ofType", .object (nestedRef n))]

/-- A field with such a reference. -/
def nestedField (n : Nat) : Members :=
  [("name", .scalar (.str "f")), ("type", .object (nestedRef n))]

/-- A type with such a field. -/
def nestedType (n : Nat) : Members :=
  [("kind", .scalar (.str "OBJECT")), ("name", .scalar (.str "T")),
    ("fields", .array [.object (nestedField n)])]

/-- A schema with such a type. -/
def nestedSchema (n : Nat) : Members := [("types", .array [.object (nestedType n)])]

/-- The record that `nestedRef` spells. -/
def RefRecord.nested : Nat → RefRecord
  | 0 => ⟨.scalar, some "Int", none⟩
  | n + 1 => ⟨.list, none, some (nested n)⟩

/-- The record that `nestedSchema` spells. -/
def SchemaRecord.nested (n : Nat) : SchemaRecord where
  queryType := none
  mutationType := none
  subscriptionType := none
  types := [⟨.object, "T", none, some [⟨"f", none, [], .nested n, false, none⟩], none, none, none,
    none⟩]

theorem spelled_nestedRef (n : Nat) : (RefRecord.nested n).Spelled (nestedRef n) := by
  induction n with
  | zero => exact .innermost rfl ⟨Json.noConfusion, rfl⟩ (.inl rfl)
  | succ n ih => exact .around rfl rfl rfl ih

theorem sound_nested (n : Nat) : (RefRecord.nested n).Sound := by
  induction n with
  | zero => exact .named (by unfold Kind.Wraps; decide) (by decide)
  | succ n ih => exact .wrapping (.inl rfl) ih

theorem spelled_nestedSchema (n : Nat) :
    (SchemaRecord.nested n).Spelled .ref (nestedSchema n) where
  queryType := rfl
  mutationType := rfl
  subscriptionType := rfl
  types := by
    refine ⟨_, rfl, .cons ⟨_, rfl, ?_⟩ .nil⟩
    refine ⟨rfl, rfl, rfl, ?_, rfl, rfl, rfl, rfl⟩
    refine ⟨Json.noConfusion, _, rfl, .cons ⟨_, rfl, ?_⟩ .nil⟩
    exact ⟨rfl, rfl, rfl, ⟨_, rfl, spelled_nestedRef n⟩, rfl, rfl⟩

/-- The depth of a reference is in the document. -/
theorem depth_of_spelled_nestedRef {n : Nat} {r : RefRecord} (h : r.Spelled (nestedRef n)) :
    r.depth = n + 1 := by
  induction n generalizing r with
  | zero =>
    cases h with
    | innermost => rfl
    | around hkind hname hsome hinner => cases hsome
  | succ n ih =>
    cases h with
    | innermost hkind hname hnone =>
      rcases hnone with hnone | hnone
      · cases hnone
      · cases hnone
    | around hkind hname hsome hinner =>
      cases hsome
      exact congrArg Nat.succ (ih hinner)

/-- No record spells the nested schema within a depth that its nesting reaches. -/
theorem lt_of_spelled_nestedSchema {n depth : Nat} {r : SchemaRecord}
    (h : r.Spelled (.refWithin depth) (nestedSchema n)) : n < depth := by
  obtain ⟨types, htypes, hall⟩ := h.types
  cases htypes
  obtain ⟨t, ts, ⟨ms, hms, htype⟩, -, -⟩ := List.forall₂_cons_left_iff.mp hall
  cases hms
  have hfields := htype.fields
  cases hrecords : t.fields with
  | none =>
    rw [hrecords] at hfields
    cases hfields
  | some fields =>
    rw [hrecords] at hfields
    obtain ⟨-, ds, hds, hall⟩ := hfields
    cases hds
    obtain ⟨f, fs, ⟨ms, hms, hfield⟩, -, -⟩ := List.forall₂_cons_left_iff.mp hall
    cases hms
    obtain ⟨ms, hms, hspelled, hdepth⟩ := hfield.type
    cases hms
    rw [depth_of_spelled_nestedRef hspelled] at hdepth
    exact hdepth

end Introspection

namespace Schema

open Introspection

/-- A `__schema` object with one reference too deep: it spells a sound record, and is refused. -/
theorem not_ofMembers_nestedSchema :
    (∃ r : SchemaRecord, r.Spelled .ref (nestedSchema 254) ∧ r.Sound) ∧
    ¬∃ s, ofMembers (nestedSchema 254) = .ok s := by
  constructor
  · refine ⟨.nested 254, spelled_nestedSchema 254, ?_⟩
    rintro t (_ | ⟨_, ⟨⟩⟩) f (_ | ⟨_, ⟨⟩⟩)
    exact ⟨sound_nested 254, fun a ha => absurd ha List.not_mem_nil⟩
  · rintro ⟨s, hs⟩
    obtain ⟨r, hr, -⟩ := ofMembers_eq_ok_iff.mp hs
    exact absurd (lt_of_spelled_nestedSchema hr) (Nat.lt_irrefl depthLimit)

end Schema

end GraphBind
