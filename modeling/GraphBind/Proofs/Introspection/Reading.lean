import GraphBind.Introspection.Response
import GraphBind.Proofs.Introspection.Form

/-!
# Readers and their forms

Every reader of introspection records accepts the documents of one form and reads from them what
they spell (`Reads`), wherever they stand. The combinators of readers follow those of forms, so that
a record is read if and only if each of its members is, and by induction on the depth a reference is
read if and only if it is nested no deeper (`reads_refWithin`). In the end a `__schema` object has
no issues if and only if it spells a schema with references of bounded depth
(`readSchema_eq_value_iff`).
-/

namespace GraphBind.Introspection

variable {α β δ : Type}

/-! ## Checks -/

namespace Checked

/-- A check that is mapped gives a value iff the check does. -/
theorem map_eq_value_iff {f : α → β} {x : Checked α} {b : β} :
    f <$> x = .value b ↔ ∃ a, x = .value a ∧ f a = b := by
  cases x with
  | value a =>
    constructor
    · intro h
      cases h
      exact ⟨a, rfl, rfl⟩
    · rintro ⟨a', ha, rfl⟩
      cases ha
      rfl
  | issues found =>
    constructor
    · intro h
      cases h
    · rintro ⟨a, ha, -⟩
      cases ha

/-- Two checks give a value if and only if each of them does. -/
theorem seq_eq_value_iff {x : Checked (α → β)} {y : Checked α} {b : β} :
    x <*> y = .value b ↔ ∃ f a, x = .value f ∧ y = .value a ∧ f a = b := by
  constructor
  · intro h
    cases x with
    | value f =>
      cases y with
      | value a =>
        cases h
        exact ⟨f, a, rfl, rfl, rfl⟩
      | issues found => cases h
    | issues found =>
      cases y with
      | value a => cases h
      | issues more => cases h
  · rintro ⟨f, a, rfl, rfl, rfl⟩
    rfl

end Checked

/-- That a reader reads, at any place, what is spelled and nothing else. -/
def Reads (read : Location → δ → Checked α) (spells : δ → α → Prop) : Prop :=
  ∀ loc d a, read loc d = .value a ↔ spells d a

/-! ## Scalars -/

theorem reads_text : Reads readText Form.text := by
  intro loc d t
  constructor
  · intro h
    unfold readText at h
    split at h
    · cases h
      rfl
    · cases h
  · rintro rfl
    rfl

/-- A word is read iff it is one of the known ones, letter by letter. -/
theorem readWord_eq_value_iff {word? : String → Option α} {otherwise : IssueKind} {t : Text}
    {loc : Location} {d : Json} {a : α} : readWord word? otherwise t loc d = .value a ↔
      ∃ s, t = Text.ofString s ∧ word? s = some a := by
  simp only [readWord]
  constructor
  · intro h
    split at h
    · cases h
    · next s hs =>
      split at h
      · next a' ha =>
        cases h
        exact ⟨s, Text.string?_eq_some_iff.mp hs, ha⟩
      · cases h
  · rintro ⟨s, rfl, ha⟩
    simp only [Text.string?_ofString, ha]

theorem reads_kind : Reads readKind Form.kind := by
  intro loc d k
  constructor
  · intro h
    unfold readKind at h
    split at h
    · obtain ⟨s, rfl, hk⟩ := readWord_eq_value_iff.mp h
      rw [← Kind.name_of_ofName? hk]
      rfl
    · cases h
  · rintro rfl
    exact readWord_eq_value_iff.mpr ⟨k.name, rfl, k.ofName?_name⟩

theorem booleanOfInt?_eq_some_iff {n : Int} {b : Bool} :
    booleanOfInt? n = some b ↔ n = b.toInt := by
  unfold booleanOfInt?
  cases b <;> grind

theorem booleanOfText?_eq_some_iff {s : String} {b : Bool} : booleanOfText? s = some b ↔
    String.ofList (s.toList.map Char.toLower) ∈ Form.words b := by
  have hdisjoint : ∀ w ∈ trueTexts, w ∉ falseTexts := by decide
  unfold booleanOfText? Form.words
  cases b <;> grind

/-- Of the integers only zero and one are read as truth values. -/
theorem ofInt_eq_value_iff {loc : Location} {d : Json} {n? : Option Int} {b : Bool} :
    readBoolean.ofInt loc d n? = .value b ↔ n? = some b.toInt := by
  cases n? with
  | none =>
    constructor
    · intro h
      cases h
    · intro h
      cases h
  | some n =>
    rw [Option.some_inj, ← booleanOfInt?_eq_some_iff, readBoolean.ofInt]
    cases booleanOfInt? n with
    | some b' =>
      constructor
      · intro h
        cases h
        rfl
      · intro h
        cases h
        rfl
    | none =>
      constructor
      · intro h
        cases h
      · intro h
        cases h

/-- Zero and one are small enough to be read from a floating-point number. -/
theorem smallInt?_eq_some_toInt_iff {x : Decimal.Binary64} {b : Bool} :
    smallInt? x = some b.toInt ↔ x.toInt? = some b.toInt := by
  have hsmall : leastSmall < b.toInt := by cases b <;> decide
  rw [smallInt?, Option.filter_eq_some_iff]
  exact ⟨And.left, fun h => ⟨h, decide_eq_true hsmall⟩⟩

/-- Truth values are read from truth values, from the numbers zero and one, and from a few words. -/
theorem reads_boolean : Reads readBoolean Form.boolean := by
  intro loc d b
  constructor
  · intro h
    simp only [readBoolean] at h
    split at h
    · cases h
      exact .bool b
    · obtain ⟨s, rfl, hs⟩ := readWord_eq_value_iff.mp h
      exact .word (booleanOfText?_eq_some_iff.mp hs)
    · cases ofInt_eq_value_iff.mp h
      exact .int b
    · exact .float (smallInt?_eq_some_toInt_iff.mp (ofInt_eq_value_iff.mp h))
    · cases h
  · intro h
    cases h with
    | bool => rfl
    | int => exact ofInt_eq_value_iff.mpr rfl
    | float hx => exact ofInt_eq_value_iff.mpr (smallInt?_eq_some_toInt_iff.mpr hx)
    | word hs =>
      exact readWord_eq_value_iff.mpr ⟨_, rfl, booleanOfText?_eq_some_iff.mpr hs⟩

/-! ## Null, arrays and objects -/

variable {read : Reader α} {form : Form α}

/-- What may be null is read as before, and null as nothing. -/
theorem Reads.nullable (h : Reads read form) : Reads (nullable read) (Form.nullable form) := by
  intro loc d a?
  unfold Introspection.nullable
  split
  · cases a? with
    | none => exact ⟨fun _ => rfl, fun _ => rfl⟩
    | some a =>
      constructor
      · intro h
        cases h
      · exact fun h => absurd rfl h.1
  · next hd =>
    rw [Checked.map_eq_value_iff]
    cases a? with
    | none =>
      constructor
      · rintro ⟨a, -, ha⟩
        cases ha
      · exact fun h => absurd h hd
    | some a =>
      constructor
      · rintro ⟨a', ha', heq⟩
        cases heq
        exact ⟨hd, (h loc _ a).mp ha'⟩
      · rintro ⟨-, ha⟩
        exact ⟨a, (h loc _ a).mpr ha, rfl⟩

/-- Items are read one by one; the index goes into the places of issues only. -/
theorem readItems_eq_value_iff (h : Reads read form) {loc : Location} {index : Nat}
    {ds : List Json} {as : List α} :
    readItems read loc index ds = .value as ↔ List.Forall₂ form ds as := by
  induction ds generalizing index as with
  | nil =>
    rw [readItems, List.forall₂_nil_left_iff]
    constructor
    · intro h
      cases h
      rfl
    · rintro rfl
      rfl
  | cons d ds ih =>
    rw [readItems, Checked.seq_eq_value_iff, List.forall₂_cons_left_iff]
    constructor
    · rintro ⟨f, as', hf, has', rfl⟩
      obtain ⟨a, ha, rfl⟩ := Checked.map_eq_value_iff.mp hf
      exact ⟨a, as', (h _ d a).mp ha, ih.mp has', rfl⟩
    · rintro ⟨a, as', ha, has', rfl⟩
      exact ⟨_, as', Checked.map_eq_value_iff.mpr ⟨a, (h _ d a).mpr ha, rfl⟩, ih.mpr has', rfl⟩

/-- A list is read iff all of its items are. -/
theorem Reads.array (h : Reads read form) : Reads (array read) (Form.array form) := by
  intro loc d as
  constructor
  · intro hd
    unfold Introspection.array at hd
    split at hd
    · exact ⟨_, rfl, (readItems_eq_value_iff h).mp hd⟩
    · cases hd
  · rintro ⟨ds, rfl, hds⟩
    exact (readItems_eq_value_iff h).mpr hds

/-- An object is read by its members. -/
theorem Reads.object {shape : String} {readMembers : Location → Members → Checked α}
    {spells : Members → α → Prop} (h : Reads readMembers spells) :
    Reads (object shape readMembers) (Form.object spells) := by
  intro loc d a
  constructor
  · intro hd
    unfold Introspection.object at hd
    split at hd
    · exact ⟨_, rfl, (h loc _ a).mp hd⟩
    · cases hd
  · rintro ⟨ms, rfl, hms⟩
    exact (h loc ms a).mpr hms

/-! ## Members -/

theorem given?_self (key : String) (ms : Members) :
    given? key key ms = Entries.get? (Text.ofString key) ms := Option.or_self

/-- The member that is read is the one that is given. -/
theorem map_member? (key spelling : String) (ms : Members) :
    (member? key spelling ms).map Prod.snd = given? key spelling ms := by
  unfold member? given?
  rw [List.findSome?_cons, List.findSome?_cons, List.findSome?_nil]
  cases Entries.get? (Text.ofString key) ms with
  | some d => rfl
  | none =>
    cases Entries.get? (Text.ofString spelling) ms with
    | some d => rfl
    | none => rfl

/-- A member that has to be there is read where it is given. -/
theorem Reads.required (h : Reads read form) (key : String) :
    Reads (required key read) fun ms => Form.required form (given? key key ms) := by
  intro loc ms a
  show _ ↔ Form.required form (given? key key ms) a
  rw [given?_self, Introspection.required]
  cases Entries.get? (Text.ofString key) ms with
  | some d => exact h _ d a
  | none =>
    constructor
    · intro h
      cases h
    · exact False.elim

/-- A member that may be missing counts as the default then; its first spelling goes before the
second. -/
theorem Reads.optional (h : Reads read form) (key spelling : String) (default : α) :
    Reads (optional key spelling default read)
      fun ms => Form.optional form default (given? key spelling ms) := by
  intro loc ms a
  show _ ↔ Form.optional form default (given? key spelling ms) a
  rw [← map_member?, Introspection.optional]
  cases member? key spelling ms with
  | some found => exact h _ found.2 a
  | none =>
    constructor
    · intro h
      cases h
      rfl
    · rintro rfl
      rfl

theorem Reads.maybe (h : Reads read form) (key spelling : String) :
    Reads (maybe key spelling read) fun ms => Form.maybe form (given? key spelling ms) :=
  h.nullable.optional key spelling none

/-! ## References -/

/-- A reference is nested to some depth if its members are spelled and what stands inside it is
nested one less deep. -/
theorem refWithin_succ_iff {depth : Nat} {ms : Members} {kind : Kind} {name : Option Text}
    {inner? : Option RefRecord} :
    Form.refWithin (depth + 1) (.object ms) ⟨kind, name, inner?⟩ ↔
      Form.required .kind (given? "kind" "kind" ms) kind ∧
      Form.maybe .text (given? "name" "name" ms) name ∧
      Form.maybe (.refWithin depth) (given? "ofType" "of_type" ms) inner? := by
  constructor
  · rintro ⟨ms', hms, h, hdepth⟩
    cases hms
    cases h with
    | innermost hkind hname hnone =>
      refine ⟨hkind, hname, ?_⟩
      rcases hnone with hnone | hnone
      · rw [hnone]
        rfl
      · rw [hnone]
        rfl
    | around hkind hname hsome hinner =>
      refine ⟨hkind, hname, ?_⟩
      rw [hsome]
      exact ⟨Json.noConfusion, _, rfl, hinner, Nat.le_of_succ_le_succ hdepth⟩
  · rintro ⟨hkind, hname, hinner⟩
    refine ⟨ms, rfl, ?_⟩
    cases inner? with
    | none =>
      refine ⟨.innermost hkind hname ?_, Nat.succ_le_succ (Nat.zero_le depth)⟩
      cases hgiven : given? "ofType" "of_type" ms with
      | none => exact .inl rfl
      | some d =>
        rw [hgiven] at hinner
        exact .inr (congrArg some hinner)
    | some inner =>
      cases hgiven : given? "ofType" "of_type" ms with
      | none =>
        rw [hgiven] at hinner
        cases hinner
      | some d =>
        rw [hgiven] at hinner
        obtain ⟨-, inside, rfl, hspelled, hdepth⟩ := hinner
        exact ⟨.around hkind hname hgiven hspelled, Nat.succ_le_succ hdepth⟩

theorem not_refWithin_zero {d : Json} {r : RefRecord} : ¬Form.refWithin 0 d r := by
  rintro ⟨ms, -, h, hdepth⟩
  cases h with
  | innermost => cases hdepth
  | around => cases hdepth

/-- By induction on the depth: every reference that is read spends one of it. -/
theorem reads_refWithin (depth : Nat) : Reads (readRefWithin depth) (Form.refWithin depth) := by
  induction depth with
  | zero =>
    intro loc d r
    constructor
    · intro h
      cases h
    · exact fun h => absurd h not_refWithin_zero
  | succ depth ih =>
    have hread : Reads (readRefWithin (depth + 1))
        (Form.object fun ms r => Form.refWithin (depth + 1) (.object ms) r) := by
      refine .object fun loc ms r => ?_
      obtain ⟨kind, name, inner?⟩ := r
      have hkind := reads_kind.required "kind" loc ms kind
      have hname := reads_text.maybe "name" "name" loc ms name
      have hinner := ih.maybe "ofType" "of_type" loc ms inner?
      rw [refWithin_succ_iff]
      simp only [Checked.seq_eq_value_iff, Checked.map_eq_value_iff]
      constructor
      · rintro ⟨_, _, ⟨_, _, ⟨_, h₁, rfl⟩, h₂, rfl⟩, h₃, hr⟩
        cases hr
        exact ⟨hkind.mp h₁, hname.mp h₂, hinner.mp h₃⟩
      · rintro ⟨h₁, h₂, h₃⟩
        exact ⟨_, _, ⟨_, _, ⟨_, hkind.mpr h₁, rfl⟩, hname.mpr h₂, rfl⟩, hinner.mpr h₃, rfl⟩
    intro loc d r
    rw [hread loc d r]
    constructor
    · rintro ⟨ms, rfl, h⟩
      exact h
    · intro h
      obtain ⟨ms, rfl, -⟩ := id h
      exact ⟨ms, rfl, h⟩

theorem reads_ref : Reads readRef (Form.refWithin depthLimit) := reads_refWithin depthLimit

/-! ## Records -/

theorem reads_input :
    Reads readInput (Form.object (InputRecord.Spelled (.refWithin depthLimit))) := by
  refine .object fun loc ms r => ?_
  have hname := reads_text.required "name" loc ms r.name
  have hdescription := reads_text.maybe "description" "description" loc ms r.description
  have htype := reads_ref.required "type" loc ms r.type
  have hdefault := reads_text.maybe "defaultValue" "default_value" loc ms r.defaultValue
  simp only [Checked.seq_eq_value_iff, Checked.map_eq_value_iff]
  constructor
  · rintro ⟨_, _, ⟨_, _, ⟨_, _, ⟨_, h₁, rfl⟩, h₂, rfl⟩, h₃, rfl⟩, h₄, rfl⟩
    exact ⟨hname.mp h₁, hdescription.mp h₂, htype.mp h₃, hdefault.mp h₄⟩
  · rintro ⟨h₁, h₂, h₃, h₄⟩
    exact ⟨_, _, ⟨_, _, ⟨_, _, ⟨_, hname.mpr h₁, rfl⟩, hdescription.mpr h₂, rfl⟩,
      htype.mpr h₃, rfl⟩, hdefault.mpr h₄, rfl⟩

/-- Fields are read by their declared members, each by its own form. -/
theorem reads_field :
    Reads readField (Form.object (FieldRecord.Spelled (.refWithin depthLimit))) := by
  refine .object fun loc ms r => ?_
  have hname := reads_text.required "name" loc ms r.name
  have hdescription := reads_text.maybe "description" "description" loc ms r.description
  have hargs := reads_input.array.optional "args" "args" [] loc ms r.args
  have htype := reads_ref.required "type" loc ms r.type
  have hdeprecated :=
    reads_boolean.optional "isDeprecated" "is_deprecated" false loc ms r.isDeprecated
  have hreason := reads_text.maybe "deprecationReason" "deprecation_reason" loc ms
    r.deprecationReason
  simp only [Checked.seq_eq_value_iff, Checked.map_eq_value_iff]
  constructor
  · rintro ⟨_, _, ⟨_, _, ⟨_, _, ⟨_, _, ⟨_, _, ⟨_, h₁, rfl⟩, h₂, rfl⟩, h₃, rfl⟩, h₄, rfl⟩, h₅, rfl⟩,
      h₆, rfl⟩
    exact ⟨hname.mp h₁, hdescription.mp h₂, hargs.mp h₃, htype.mp h₄, hdeprecated.mp h₅,
      hreason.mp h₆⟩
  · rintro ⟨h₁, h₂, h₃, h₄, h₅, h₆⟩
    exact ⟨_, _, ⟨_, _, ⟨_, _, ⟨_, _, ⟨_, _, ⟨_, hname.mpr h₁, rfl⟩, hdescription.mpr h₂, rfl⟩,
      hargs.mpr h₃, rfl⟩, htype.mpr h₄, rfl⟩, hdeprecated.mpr h₅, rfl⟩, hreason.mpr h₆, rfl⟩

theorem reads_enumValue : Reads readEnumValue (Form.object EnumValueRecord.Spelled) := by
  refine .object fun loc ms r => ?_
  have hname := reads_text.required "name" loc ms r.name
  have hdescription := reads_text.maybe "description" "description" loc ms r.description
  have hdeprecated :=
    reads_boolean.optional "isDeprecated" "is_deprecated" false loc ms r.isDeprecated
  have hreason := reads_text.maybe "deprecationReason" "deprecation_reason" loc ms
    r.deprecationReason
  simp only [Checked.seq_eq_value_iff, Checked.map_eq_value_iff]
  constructor
  · rintro ⟨_, _, ⟨_, _, ⟨_, _, ⟨_, h₁, rfl⟩, h₂, rfl⟩, h₃, rfl⟩, h₄, rfl⟩
    exact ⟨hname.mp h₁, hdescription.mp h₂, hdeprecated.mp h₃, hreason.mp h₄⟩
  · rintro ⟨h₁, h₂, h₃, h₄⟩
    exact ⟨_, _, ⟨_, _, ⟨_, _, ⟨_, hname.mpr h₁, rfl⟩, hdescription.mpr h₂, rfl⟩,
      hdeprecated.mpr h₃, rfl⟩, hreason.mpr h₄, rfl⟩

/-- Types are read by their declared members, whatever their kind makes of them later. -/
theorem reads_type : Reads readType (Form.object (TypeRecord.Spelled (.refWithin depthLimit))) := by
  refine .object fun loc ms r => ?_
  have hkind := reads_kind.required "kind" loc ms r.kind
  have hname := reads_text.required "name" loc ms r.name
  have hdescription := reads_text.maybe "description" "description" loc ms r.description
  have hfields := reads_field.array.maybe "fields" "fields" loc ms r.fields
  have hinputs := reads_input.array.maybe "inputFields" "input_fields" loc ms r.inputFields
  have hinterfaces := reads_ref.array.maybe "interfaces" "interfaces" loc ms r.interfaces
  have hvalues := reads_enumValue.array.maybe "enumValues" "enum_values" loc ms r.enumValues
  have hpossible := reads_ref.array.maybe "possibleTypes" "possible_types" loc ms r.possibleTypes
  simp only [Checked.seq_eq_value_iff, Checked.map_eq_value_iff]
  constructor
  · rintro ⟨_, _, ⟨_, _, ⟨_, _, ⟨_, _, ⟨_, _, ⟨_, _, ⟨_, _, ⟨_, h₁, rfl⟩, h₂, rfl⟩, h₃, rfl⟩,
      h₄, rfl⟩, h₅, rfl⟩, h₆, rfl⟩, h₇, rfl⟩, h₈, rfl⟩
    exact ⟨hkind.mp h₁, hname.mp h₂, hdescription.mp h₃, hfields.mp h₄, hinputs.mp h₅,
      hinterfaces.mp h₆, hvalues.mp h₇, hpossible.mp h₈⟩
  · rintro ⟨h₁, h₂, h₃, h₄, h₅, h₆, h₇, h₈⟩
    exact ⟨_, _, ⟨_, _, ⟨_, _, ⟨_, _, ⟨_, _, ⟨_, _, ⟨_, _, ⟨_, hkind.mpr h₁, rfl⟩,
      hname.mpr h₂, rfl⟩, hdescription.mpr h₃, rfl⟩, hfields.mpr h₄, rfl⟩, hinputs.mpr h₅, rfl⟩,
      hinterfaces.mpr h₆, rfl⟩, hvalues.mpr h₇, rfl⟩, hpossible.mpr h₈, rfl⟩

theorem reads_root : Reads readRoot (Form.object RootSpelled) :=
  .object (reads_text.required "name")

/-- A schema is read iff its document spells a record, and then as that record. -/
theorem readSchema_eq_value_iff {ms : Members} {r : SchemaRecord} :
    readSchema ms = .value r ↔ r.Spelled (.refWithin depthLimit) ms := by
  have hquery := reads_root.maybe "queryType" "query_type" [] ms r.queryType
  have hmutation := reads_root.maybe "mutationType" "mutation_type" [] ms r.mutationType
  have hsubscription :=
    reads_root.maybe "subscriptionType" "subscription_type" [] ms r.subscriptionType
  have htypes := reads_type.array.optional "types" "types" [] [] ms r.types
  unfold readSchema
  simp only [Checked.seq_eq_value_iff, Checked.map_eq_value_iff]
  constructor
  · rintro ⟨_, _, ⟨_, _, ⟨_, _, ⟨_, h₁, rfl⟩, h₂, rfl⟩, h₃, rfl⟩, h₄, rfl⟩
    exact ⟨hquery.mp h₁, hmutation.mp h₂, hsubscription.mp h₃, htypes.mp h₄⟩
  · rintro ⟨h₁, h₂, h₃, h₄⟩
    exact ⟨_, _, ⟨_, _, ⟨_, _, ⟨_, hquery.mpr h₁, rfl⟩, hmutation.mpr h₂, rfl⟩,
      hsubscription.mpr h₃, rfl⟩, htypes.mpr h₄, rfl⟩

end GraphBind.Introspection
