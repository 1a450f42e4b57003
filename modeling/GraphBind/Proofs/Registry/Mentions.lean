import GraphBind.Registry.Compile

/-!
# Discovery of types and mentions of names

Which types of a schema are compiled, said without the walk that finds them: of every name that is
fresh (no native scalar, and no meta type unless those are wanted) the first listing, in the order
in which the names first come. `discovers_reserved` says that these are the reserved types, and
`reserved_congr` that nothing but the names of the other listings matters.

A schema mentions names in its types of fields, arguments and input fields, in the lists of
interfaces, possible types and members, and in its roots. `Schema.mentions` lists the mentions that
count, in order; `image` is what a piece of a schema compiles to, whatever it mentions.

`compile_eq_verdict` says that compiling a schema is no more than that: the fault of the first
mention that has one, and the image if none has.
-/

namespace GraphBind.Schema

variable {s : Schema} {known : NativeScalars} {includeMeta : Bool}

/-- Whether the types of a name are compiled. -/
def isFresh (known : NativeScalars) (includeMeta : Bool) (name : Text) : Bool :=
  !(Entries.keys known).contains name && (includeMeta || !isMetaName name)

theorem isFresh_eq_true_iff {name : Text} : isFresh known includeMeta name = true ↔
    name ∉ Entries.keys known ∧ (includeMeta = true ∨ isMetaName name = false) := by
  simp [isFresh]

/-- The names that are compiled, in the order in which they first come. -/
def freshNames (s : Schema) (known : NativeScalars) (includeMeta : Bool) : List Text :=
  (s.names.filter (isFresh known includeMeta)).eraseDups

/-- The types are the first listings of the fresh names, in the order in which these first come. -/
structure Discovers (s : Schema) (known : NativeScalars) (includeMeta : Bool)
    (ds : List Definition) : Prop where
  names : ds.map (·.name) = s.freshNames known includeMeta
  first : ∀ d ∈ ds, s.find? d.name = some d

/-! ## First listings -/

/-- A choice among names may be made before or after the first listings are taken. -/
theorem firstListings_filter (p : Text → Bool) (ds : List Definition) :
    firstListings (ds.filter fun d => p d.name) = (firstListings ds).filter fun d => p d.name := by
  induction ds with
  | nil => rfl
  | cons d ds ih =>
    by_cases hd : p d.name = true
    · simp only [List.filter_cons, hd, if_true, firstListings, ih, List.filter_filter,
        Bool.and_comm]
    · simp only [List.filter_cons, hd, Bool.false_eq_true, if_false, firstListings, ih,
        List.filter_filter]
      refine List.filter_congr fun d' _ => ?_
      by_cases hn : d'.name = d.name
      · simp [hn, hd]
      · simp [hn]

/-- First listings have the listed names, each once, in the order in which they first come. -/
theorem map_name_firstListings (ds : List Definition) :
    (firstListings ds).map (·.name) = (ds.map (·.name)).eraseDups := by
  match ds with
  | [] => rfl
  | d :: ds =>
    have ih := map_name_firstListings (ds.filter fun d' => d'.name != d.name)
    rw [firstListings_filter (· != d.name)] at ih
    rw [firstListings, List.map_cons, List.map_cons, List.eraseDups_cons, ih, List.filter_map]
    rfl
termination_by ds.length
decreasing_by exact Nat.lt_succ_of_le (List.length_filter_le _ _)

/-- A first listing is the one that is found by its name. -/
theorem find?_of_mem_firstListings {ds : List Definition} {d : Definition}
    (h : d ∈ firstListings ds) : ds.find? (·.name == d.name) = some d := by
  induction ds with
  | nil => cases h
  | cons x ds ih =>
    rcases List.mem_cons.mp h with rfl | h
    · exact List.find?_cons_of_pos (beq_self_eq_true _)
    · obtain ⟨hm, hne⟩ := List.mem_filter.mp h
      have hx : (x.name == d.name) = false := beq_eq_false_iff_ne.mpr (bne_iff_ne.mp hne).symm
      rw [List.find?_cons, hx]
      exact ih hm

theorem nodup_firstListings (ds : List Definition) : ((firstListings ds).map (·.name)).Nodup := by
  induction ds with
  | nil => exact List.nodup_nil
  | cons d ds ih =>
    rw [firstListings, List.map_cons, List.nodup_cons]
    constructor
    · intro hd
      obtain ⟨d', hd', hn⟩ := List.mem_map.mp hd
      exact bne_iff_ne.mp (List.mem_filter.mp hd').2 hn
    · exact ih.sublist (List.filter_sublist.map _)

/-- A listing whose name has come before may say anything. -/
theorem firstListings_congr {d d' : Definition} (hn : d'.name = d.name)
    (before after : List Definition) (h : d.name ∈ before.map (·.name)) :
    firstListings (before ++ d :: after) = firstListings (before ++ d' :: after) := by
  induction before with
  | nil => cases h
  | cons x before ih =>
    simp only [List.cons_append, firstListings]
    by_cases hx : d.name = x.name
    · rw [← firstListings_filter (· != x.name), ← firstListings_filter (· != x.name)]
      simp [List.filter_append, hn, hx]
    · rw [ih ((List.mem_cons.mp h).resolve_left hx)]

/-! ## Reserved types -/

theorem reserved_eq (s : Schema) (known : NativeScalars) (includeMeta : Bool) :
    s.reserved known includeMeta =
      (firstListings s.types).filter fun d => isFresh known includeMeta d.name :=
  firstListings_filter (isFresh known includeMeta) s.types

/-- The walk that reserves types discovers what it should. -/
theorem discovers_reserved (s : Schema) (known : NativeScalars) (includeMeta : Bool) :
    s.Discovers known includeMeta (s.reserved known includeMeta) := by
  refine ⟨?_, fun d hd => ?_⟩
  · unfold reserved freshNames names
    rw [map_name_firstListings, List.filter_map]
    rfl
  · rw [reserved_eq] at hd
    exact find?_of_mem_firstListings (List.mem_filter.mp hd).1

theorem nodup_reserved (s : Schema) (known : NativeScalars) (includeMeta : Bool) :
    ((s.reserved known includeMeta).map (·.name)).Nodup :=
  nodup_firstListings _

theorem isFresh_of_mem_reserved {d : Definition} (h : d ∈ s.reserved known includeMeta) :
    isFresh known includeMeta d.name = true := by
  rw [reserved_eq] at h
  exact (List.mem_filter.mp h).2

/-- A listing that is not reserved, because its name has come before or is not fresh, may say
anything. -/
theorem reserved_congr {s' : Schema} {before after : List Definition} {d d' : Definition}
    (hn : d'.name = d.name) (hs : s.types = before ++ d :: after)
    (hs' : s'.types = before ++ d' :: after)
    (h : d.name ∈ before.map (·.name) ∨ isFresh known includeMeta d.name = false) :
    s'.reserved known includeMeta = s.reserved known includeMeta := by
  rcases h with h | h
  · rw [reserved_eq, reserved_eq, hs, hs', firstListings_congr hn before after h]
  · unfold reserved
    have hd : isFresh known includeMeta d'.name = false := by rw [hn]; exact h
    change firstListings (s'.types.filter fun d => isFresh known includeMeta d.name) =
      firstListings (s.types.filter fun d => isFresh known includeMeta d.name)
    rw [hs, hs', List.filter_append, List.filter_append, List.filter_cons_of_neg (by simp [hd]),
      List.filter_cons_of_neg (by simp [h])]

end GraphBind.Schema

namespace GraphBind

/-- A place at which a schema mentions names. -/
inductive Mention where
  /-- The type of a field, an argument or an input field. -/
  | type (owner field name : Text)
  /-- The interfaces, possible types or members that a type lists. -/
  | types (owner : Text) (names : List Text)
  /-- The root of a kind of operation. -/
  | root (operation : Operation) (name : Text)
  deriving DecidableEq, Repr

namespace Mention

/-- The names that are mentioned. -/
def names : Mention → List Text
  | type _ _ name => [name]
  | types _ names => names
  | root _ name => [name]

/-- What a mention of names that are not allowed is reported as. A list of names is reported once,
with all of the names that are missing. -/
def fault? (allowed : List Text) : Mention → Option CompileError
  | type owner field name =>
    if name ∈ allowed then none else some (.unknownType owner field name)
  | types owner names =>
    let missing := names.filter (· ∉ allowed)
    if missing = [] then none else some (.unknownTypes owner missing)
  | root operation name =>
    if name ∈ allowed then none else some (.unknownRoot operation name)

theorem fault?_eq_none_iff {allowed : List Text} {m : Mention} :
    m.fault? allowed = none ↔ ∀ n ∈ m.names, n ∈ allowed := by
  cases m with
  | type owner field name => simp [fault?, names]
  | types owner ns => simp [fault?, names]
  | root operation name => simp [fault?, names]

end Mention

/-! ## Mentions, in order -/

/-- The mention of a type by an argument of `owner`, or by a field of the input object `owner`. -/
def Argument.mention (owner : Text) (a : Argument) : Mention := .type owner a.name a.type.typeName

/-- The mentions in a field of `owner`: its own type, then those of its arguments. -/
def Field.mentions (owner : Text) (f : Field) : List Mention :=
  .type owner f.name f.type.typeName :: f.arguments.map (Argument.mention (owner ++ "." ++ f.name))

/-- The mentions in a type: those in its fields, then the names that it lists. -/
def Definition.mentions (d : Definition) : List Mention :=
  match d.body with
  | .scalar => []
  | .object fields interfaces =>
    fields.flatMap (Field.mentions d.name) ++ [.types d.name interfaces]
  | .interface fields possibleTypes =>
    fields.flatMap (Field.mentions d.name) ++ [.types d.name possibleTypes]
  | .union members => [.types d.name members]
  | .enumeration _ => []
  | .inputObject fields => fields.map (Argument.mention d.name)

/-- The mentions of the roots. -/
def Roots.mentions (r : Roots) : List Mention := r.toList.map fun (op, name) => .root op name

/-- The mentions that count in a schema: those in its reserved types, then those of its roots. -/
def Schema.mentions (s : Schema) (known : NativeScalars) (includeMeta : Bool) : List Mention :=
  (s.reserved known includeMeta).flatMap Definition.mentions ++ s.roots.mentions

/-! ## Images -/

/-- The argument of a compiled field that an argument becomes. -/
def Argument.image (a : Argument) : CompiledArgument where
  name := a.name
  type := .ofRef a.type
  description := a.description
  default := a.default

/-- The field of a compiled type that a field of an input object becomes. -/
def Argument.inputImage (a : Argument) : CompiledField where
  name := a.name
  type := .ofRef a.type
  description := a.description
  arguments := []
  default := a.default
  isDeprecated := false

/-- The field of a compiled type that a field becomes. -/
def Field.image (f : Field) : CompiledField where
  name := f.name
  type := .ofRef f.type
  description := f.description
  arguments := f.arguments.map Argument.image
  default := none
  isDeprecated := f.isDeprecated

/-- The compiled type that a type becomes. -/
def Definition.image (d : Definition) : CompiledType where
  name := d.name
  kind := d.kind
  description := d.description
  fields :=
    match d.body with
    | .object fields _ => fields.map Field.image
    | .interface fields _ => fields.map Field.image
    | .inputObject fields => fields.map Argument.inputImage
    | _ => []
  interfaces :=
    match d.body with
    | .object _ interfaces => interfaces
    | _ => []
  members :=
    match d.body with
    | .interface _ possibleTypes => possibleTypes
    | .union members => members
    | _ => []
  values :=
    match d.body with
    | .enumeration values => values.map (·.name)
    | _ => []
  native := none

/-- The registry that a schema becomes. -/
def Schema.image (s : Schema) (known : NativeScalars) (includeMeta : Bool) : Registry where
  types := known.map (fun (name, t) => (name, CompiledType.ofNative name t)) ++
    (s.reserved known includeMeta).map fun d => (d.name, d.image)
  roots := s.roots

/-! ## Verdicts -/

/-- The fault of the first mention that has one, or else a result. -/
def verdict {α : Type} (allowed : List Text) (ms : List Mention) (a : α) : Except CompileError α :=
  match ms.findSome? (Mention.fault? allowed) with
  | some e => .error e
  | none => .ok a

section Verdict

variable {α β : Type} {allowed : List Text} {ms ns : List Mention} {a : α} {b : β}

/-- A verdict is a value iff every mentioned name is allowed. -/
theorem verdict_eq_ok_iff {a' : α} :
    verdict allowed ms a = .ok a' ↔ (∀ m ∈ ms, ∀ n ∈ m.names, n ∈ allowed) ∧ a = a' := by
  unfold verdict
  cases h : ms.findSome? (Mention.fault? allowed) with
  | none =>
    have hall := fun m hm => Mention.fault?_eq_none_iff.mp (List.findSome?_eq_none_iff.mp h m hm)
    simp only [Except.ok.injEq]
    exact ⟨fun ha => ⟨hall, ha⟩, And.right⟩
  | some e =>
    refine ⟨nofun, fun ⟨hall, _⟩ => ?_⟩
    rw [List.findSome?_eq_none_iff.mpr fun m hm => Mention.fault?_eq_none_iff.mpr (hall m hm)] at h
    cases h

theorem verdict_eq_error_iff {e : CompileError} :
    verdict allowed ms a = .error e ↔ ms.findSome? (Mention.fault? allowed) = some e := by
  unfold verdict
  cases ms.findSome? (Mention.fault? allowed) with
  | none => simp
  | some e' => simp

/-- One thing after another: the mentions are looked at in that order. -/
theorem verdict_bind {f : α → Except CompileError β} (h : f a = verdict allowed ns b) :
    verdict allowed ms a >>= f = verdict allowed (ms ++ ns) b := by
  unfold verdict at h ⊢
  rw [List.findSome?_append]
  cases ms.findSome? (Mention.fault? allowed) with
  | none => exact h
  | some e => rfl

/-- What is made of a result mentions nothing more. -/
theorem verdict_bind_pure {f : α → β} :
    (verdict allowed ms a >>= fun a => pure (f a)) = verdict allowed ms (f a) := by
  unfold verdict
  cases ms.findSome? (Mention.fault? allowed) with
  | none => rfl
  | some e => rfl

/-- Many things, one after the other. -/
theorem mapM_eq_verdict {f : α → Except CompileError β} {mentions : α → List Mention}
    {image : α → β} (h : ∀ a, f a = verdict allowed (mentions a) (image a)) (as : List α) :
    as.mapM f = verdict allowed (as.flatMap mentions) (as.map image) := by
  induction as with
  | nil => rfl
  | cons a as ih =>
    rw [List.mapM_cons, h a, ih, List.flatMap_cons, List.map_cons]
    exact verdict_bind verdict_bind_pure

end Verdict

/-! ## Compiling is giving a verdict -/

section Compile

variable (allowed : List Text) (owner : Text)

theorem checkRef_eq_verdict (field : Text) (r : TypeRef) :
    checkRef allowed owner field r =
      verdict allowed [.type owner field r.typeName] (.ofRef r) := by
  unfold checkRef verdict
  dsimp only
  rw [FieldType.typeName_ofRef]
  by_cases h : r.typeName ∈ allowed <;> simp [Mention.fault?, h]

/-- Checking names in order is the verdict on one mention of them all. -/
theorem checkNames_eq_verdict (names : List Text) :
    checkNames allowed owner names = verdict allowed [.types owner names] () := by
  have hf : names.filter (!allowed.contains ·) = names.filter (· ∉ allowed) :=
    List.filter_congr fun n _ => by simp
  unfold checkNames verdict
  rw [hf, List.findSome?_singleton, Mention.fault?]
  cases names.filter (· ∉ allowed) with
  | nil => rfl
  | cons n missing => rfl

theorem Argument.compile_eq_verdict (a : Argument) :
    a.compile allowed owner = verdict allowed [a.mention owner] a.image := by
  unfold Argument.compile
  rw [checkRef_eq_verdict]
  exact verdict_bind_pure

theorem Argument.compileInput_eq_verdict (a : Argument) :
    a.compileInput allowed owner = verdict allowed [a.mention owner] a.inputImage := by
  unfold Argument.compileInput
  rw [checkRef_eq_verdict]
  exact verdict_bind_pure

theorem Field.compile_eq_verdict (f : Field) :
    f.compile allowed owner = verdict allowed (f.mentions owner) f.image := by
  unfold Field.compile
  rw [checkRef_eq_verdict, mapM_eq_verdict (Argument.compile_eq_verdict allowed _),
    ← List.map_eq_flatMap]
  exact verdict_bind verdict_bind_pure

end Compile

/-- Compiling a type is the verdict on its mentions, by the constructors of its body. -/
theorem Definition.compile_eq_verdict (allowed : List Text) (d : Definition) :
    d.compile allowed = verdict allowed d.mentions d.image := by
  obtain ⟨name, description, body⟩ := d
  cases body with
  | scalar => rfl
  | object fields interfaces =>
    simp only [Definition.compile]
    rw [mapM_eq_verdict (Field.compile_eq_verdict allowed name), checkNames_eq_verdict]
    exact verdict_bind verdict_bind_pure
  | interface fields possibleTypes =>
    simp only [Definition.compile]
    rw [mapM_eq_verdict (Field.compile_eq_verdict allowed name), checkNames_eq_verdict]
    exact verdict_bind verdict_bind_pure
  | union members =>
    simp only [Definition.compile]
    rw [checkNames_eq_verdict]
    exact verdict_bind_pure
  | enumeration values => rfl
  | inputObject fields =>
    simp only [Definition.compile]
    rw [mapM_eq_verdict (Argument.compileInput_eq_verdict allowed name), ← List.map_eq_flatMap]
    exact verdict_bind_pure

/-- Checking the roots is the verdict on their mentions, one for each root. -/
theorem checkRoots_eq_verdict (allowed : List Text) (roots : List (Operation × Text)) :
    checkRoots allowed roots =
      verdict allowed (roots.map fun (op, name) => Mention.root op name) () := by
  induction roots with
  | nil => rfl
  | cons p roots ih =>
    obtain ⟨op, name⟩ := p
    unfold checkRoots
    by_cases h : name ∈ allowed
    · simp only [List.contains_iff_mem, h, if_true, ih]
      simp [verdict, Mention.fault?, h]
    · simp [verdict, Mention.fault?, h]

/-- A schema compiles to its image, unless one of the mentions that count has a fault; the first
such fault is reported. -/
theorem Schema.compile_eq_verdict (s : Schema) (known : NativeScalars) (includeMeta : Bool) :
    s.compile known includeMeta =
      verdict (s.allowedNames known includeMeta) (s.mentions known includeMeta)
        (s.image known includeMeta) := by
  have himage : (s.reserved known includeMeta).map (fun d => (d.name, d.image)) =
      ((s.reserved known includeMeta).map Definition.image).map fun t => (t.name, t) := by
    rw [List.map_map]
    rfl
  simp only [Schema.compile, Schema.image, himage]
  rw [mapM_eq_verdict (Definition.compile_eq_verdict _), checkRoots_eq_verdict]
  exact verdict_bind verdict_bind_pure

end GraphBind
