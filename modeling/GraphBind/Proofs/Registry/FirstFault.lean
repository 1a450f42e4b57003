import GraphBind.Proofs.Registry.Mentions

/-!
# Faults of schemas

A schema fails to compile if and only if it mentions a name that is not allowed, and what is
reported is the fault of the first mention that has one (`compile_eq_error_iff_firstFault`). The
order is that of `Schema.mentions`: the reserved types as they are discovered, in a type its fields,
in a field its own type before its arguments, then the names that the type lists, and in the end the
roots. Types that are not reserved play no part in it.

`Mention.Reports` gives the words of a report: a reference is reported with its place and the name,
a list with its owner and all the names that are missing, a root with its kind of operation.
-/

namespace GraphBind

/-! ## Reports -/

/-- What is said of a mention of names that are not allowed. -/
inductive Mention.Reports (allowed : List Text) : Mention → Text → Prop where
  /-- A reference: the place of what refers, and the name. -/
  | type {owner field name : Text} (hname : name ∉ allowed) :
    Reports allowed (.type owner field name)
      (owner ++ "." ++ field ++ " references unknown type " ++ Text.quoted name)
  /-- A list: its owner, and the names of it that are not allowed, in their order. -/
  | types {owner : Text} {names missing : List Text} (hmissing : missing ≠ [])
    (hnames : names.filter (· ∉ allowed) = missing) :
    Reports allowed (.types owner names)
      (owner ++ " references unknown types: " ++ Text.joined ", " missing)
  /-- A root: its kind of operation, and the name. -/
  | root {operation : Operation} {name : Text} (hname : name ∉ allowed) :
    Reports allowed (.root operation name)
      (s!"Root {operation.name} type " ++ Text.quoted name ++ " is not defined in the schema")

/-- What is said of a mention is the text of its fault. -/
theorem Mention.reports_iff {allowed : List Text} {m : Mention} {text : Text} :
    m.Reports allowed text ↔ ∃ e, m.fault? allowed = some e ∧ e.message = text := by
  constructor
  · intro h
    cases h with
    | type hname => exact ⟨_, if_neg hname, rfl⟩
    | types hmissing hnames =>
      subst hnames
      exact ⟨_, if_neg hmissing, rfl⟩
    | root hname => exact ⟨_, if_neg hname, rfl⟩
  · rintro ⟨e, he, rfl⟩
    cases m with
    | type owner field name =>
      obtain ⟨hname, he⟩ := Option.ite_none_left_eq_some.mp he
      cases he
      exact .type hname
    | types owner names =>
      obtain ⟨hmissing, he⟩ := Option.ite_none_left_eq_some.mp he
      cases he
      exact .types hmissing rfl
    | root operation name =>
      obtain ⟨hname, he⟩ := Option.ite_none_left_eq_some.mp he
      cases he
      exact .root hname

namespace Schema

variable {s : Schema} {known : NativeScalars} {includeMeta : Bool} {e : CompileError}

/-- The error is the fault of a mention before which only allowed names are mentioned. -/
def FirstFault (allowed : List Text) (ms : List Mention) (e : CompileError) : Prop :=
  ∃ before m after, ms = before ++ m :: after ∧
    (∀ b ∈ before, ∀ n ∈ b.names, n ∈ allowed) ∧ m.fault? allowed = some e

/-- A text is what is said of a mention before which only allowed names are mentioned. -/
def FirstReport (allowed : List Text) (ms : List Mention) (text : Text) : Prop :=
  ∃ before m after, ms = before ++ m :: after ∧
    (∀ b ∈ before, ∀ n ∈ b.names, n ∈ allowed) ∧ m.Reports allowed text

/-- The first fault is what a search through the mentions finds. -/
theorem firstFault_iff {allowed : List Text} {ms : List Mention} :
    FirstFault allowed ms e ↔ ms.findSome? (Mention.fault? allowed) = some e := by
  rw [List.findSome?_eq_some_iff]
  constructor
  · rintro ⟨before, m, after, hms, hbefore, hm⟩
    exact ⟨before, m, after, hms, hm,
      fun b hb => Mention.fault?_eq_none_iff.mpr (hbefore b hb)⟩
  · rintro ⟨before, m, after, hms, hm, hbefore⟩
    exact ⟨before, m, after, hms,
      fun b hb => Mention.fault?_eq_none_iff.mp (hbefore b hb), hm⟩

/-- What is said first is the text of the first fault. -/
theorem firstReport_iff {allowed : List Text} {ms : List Mention} {text : Text} :
    FirstReport allowed ms text ↔ ∃ e, FirstFault allowed ms e ∧ e.message = text := by
  constructor
  · rintro ⟨before, m, after, hms, hbefore, hm⟩
    obtain ⟨e, he, hmessage⟩ := Mention.reports_iff.mp hm
    exact ⟨e, ⟨before, m, after, hms, hbefore, he⟩, hmessage⟩
  · rintro ⟨e, ⟨before, m, after, hms, hbefore, he⟩, hmessage⟩
    exact ⟨before, m, after, hms, hbefore, Mention.reports_iff.mpr ⟨e, he, hmessage⟩⟩

/-- There is a first fault iff some mention names what is not allowed. -/
theorem exists_firstFault_iff {allowed : List Text} {ms : List Mention} :
    (∃ e, FirstFault allowed ms e) ↔ ∃ m ∈ ms, ∃ n ∈ m.names, n ∉ allowed := by
  constructor
  · rintro ⟨e, before, m, after, rfl, _, hm⟩
    refine ⟨m, List.mem_append_right _ List.mem_cons_self, ?_⟩
    apply Classical.byContradiction
    intro hnone
    have hall : ∀ n ∈ m.names, n ∈ allowed := fun n hn =>
      Classical.byContradiction fun h => hnone ⟨n, hn, h⟩
    rw [Mention.fault?_eq_none_iff.mpr hall] at hm
    cases hm
  · rintro ⟨m, hm, n, hn, hnot⟩
    cases hf : ms.findSome? (Mention.fault? allowed) with
    | some e => exact ⟨e, firstFault_iff.mpr hf⟩
    | none =>
      exact absurd (Mention.fault?_eq_none_iff.mp (List.findSome?_eq_none_iff.mp hf m hm) n hn) hnot

/-- The mentions that count are those in the reserved types and the roots. -/
theorem exists_mention_iff {P : Text → Prop} :
    (∃ m ∈ s.mentions known includeMeta, ∃ n ∈ m.names, P n) ↔
      (∃ d ∈ s.reserved known includeMeta, ∃ m ∈ d.mentions, ∃ n ∈ m.names, P n) ∨
        ∃ p ∈ s.roots.toList, P p.2 := by
  simp only [mentions, Roots.mentions, List.mem_append, List.mem_flatMap, List.mem_map]
  constructor
  · rintro ⟨m, ⟨d, hd, hm⟩ | ⟨p, hp, rfl⟩, n, hn, hP⟩
    · exact Or.inl ⟨d, hd, m, hm, n, hn, hP⟩
    · exact Or.inr ⟨p, hp, List.mem_singleton.mp hn ▸ hP⟩
  · rintro (⟨d, hd, m, hm, n, hn, hP⟩ | ⟨p, hp, hP⟩)
    · exact ⟨m, Or.inl ⟨d, hd, hm⟩, n, hn, hP⟩
    · exact ⟨_, Or.inr ⟨p, hp, rfl⟩, p.2, List.mem_singleton.mpr rfl, hP⟩

/-- Only the reserved types and the roots of a schema are looked at. -/
theorem compile_congr {s' : Schema}
    (ht : s'.reserved known includeMeta = s.reserved known includeMeta) (hr : s'.roots = s.roots) :
    s'.compile known includeMeta = s.compile known includeMeta := by
  unfold compile allowedNames
  rw [ht, hr]

/-- **Dangling references.** The reserved types are the first listings of the fresh names. A schema
fails to compile if and only if one of them or a root mentions a name that is not allowed. The error
is that of the first mention at fault, and its text is what is said of that mention. A listing that
is not reserved may say anything. -/
theorem compile_eq_error_iff_firstFault (s : Schema) (known : NativeScalars) (includeMeta : Bool) :
    s.Discovers known includeMeta (s.reserved known includeMeta) ∧
    (∀ e, s.compile known includeMeta = .error e ↔
      FirstFault (s.allowedNames known includeMeta) (s.mentions known includeMeta) e) ∧
    (∀ text, (∃ e, s.compile known includeMeta = .error e ∧ e.message = text) ↔
      FirstReport (s.allowedNames known includeMeta) (s.mentions known includeMeta) text) ∧
    ((∃ e, s.compile known includeMeta = .error e) ↔
      (∃ d ∈ s.reserved known includeMeta, ∃ m ∈ d.mentions, ∃ n ∈ m.names,
        n ∉ s.allowedNames known includeMeta) ∨
      ∃ p ∈ s.roots.toList, p.2 ∉ s.allowedNames known includeMeta) ∧
    ∀ before d after description body, s.types = before ++ d :: after →
      d.name ∈ before.map (·.name) ∨ isFresh known includeMeta d.name = false →
      { s with types := before ++ { d with description, body } :: after }.compile known
          includeMeta =
        s.compile known includeMeta := by
  have herror : ∀ e, s.compile known includeMeta = .error e ↔
      FirstFault (s.allowedNames known includeMeta) (s.mentions known includeMeta) e := by
    intro e
    rw [compile_eq_verdict, verdict_eq_error_iff, firstFault_iff]
  refine ⟨discovers_reserved s known includeMeta, herror, fun text => ?_, ?_, ?_⟩
  · rw [firstReport_iff]
    exact exists_congr fun e => and_congr_left' (herror e)
  · rw [← exists_mention_iff, ← exists_firstFault_iff]
    exact exists_congr herror
  · intro before d after description body hs hd
    refine compile_congr (reserved_congr ?_ hs rfl hd) rfl
    rfl

/-- Four dangling references, one of them in a second listing of a name, and a dangling root. -/
def dangling : Schema where
  types :=
    [⟨"Query", none, .object
        [⟨"a", .list (.named "Int"), none, [⟨"by", .named "Filter", none, none⟩], false, none⟩,
          ⟨"b", .named "Ghost", none, [], false, none⟩] ["Node"]⟩,
      ⟨"Query", none, .union ["Nowhere"]⟩]
  roots := ⟨some "Query", some "Absent", none⟩

/-- The argument of the first field is reported, with its place. -/
theorem compile_eq_error_dangling :
    dangling.compile .standard false = .error (.unknownType "Query.a" "by" "Filter") ∧
    ∃ e, dangling.compile .standard false = .error e ∧
      e.message = "Query.a.by references unknown type 'Filter'" := by
  obtain ⟨-, herror, hreport, -⟩ := compile_eq_error_iff_firstFault dangling .standard false
  have hmessage : Text.ofString "Query.a.by references unknown type 'Filter'" =
      "Query.a" ++ "." ++ "by" ++ " references unknown type " ++ Text.quoted "Filter" := by
    decide
  constructor
  · exact (herror _).mpr
      ⟨[.type "Query" "a" "Int"], .type "Query.a" "by" "Filter", _, rfl, by decide, by decide⟩
  · rw [hmessage]
    exact (hreport _).mpr
      ⟨[.type "Query" "a" "Int"], .type "Query.a" "by" "Filter", _, rfl, by decide,
        .type (by decide)⟩

end Schema

end GraphBind
