import GraphBind.Proofs.Registry.Closure
import Mathlib.Data.List.Nodup

/-!
# Contents of registries and the order of listing

A compiled registry holds the native scalars, in their order, and behind them the image of the first
listing of every fresh name, in the order in which these names first come (`compile_contents`). No
name comes twice, and what a schema lists under the name of a native scalar is not looked at.

The order in which a schema lists its types decides in which order a registry holds them, and which
dangling reference is reported, but nothing else (`compile_sameListings`). Schemas that list the
same types first reserve the same types in some order (`reserved_perm`); so they allow the same
names and mention the same ones, and their images hold the same types behind the same native
scalars.
-/

/-! ## Contents -/

namespace GraphBind.Schema

variable {s : Schema} {known : NativeScalars} {includeMeta : Bool} {r : Registry}

/-- The generated types are the images of the reserved ones. -/
theorem generated_image :
    (s.image known includeMeta).generated =
      (s.reserved known includeMeta).map Definition.image := by
  have hknown : (known.map fun p => CompiledType.ofNative p.1 p.2).filter (·.native.isNone) = [] :=
    List.filter_eq_nil_iff.mpr fun t ht => by
      obtain ⟨p, _, rfl⟩ := List.mem_map.mp ht
      exact Bool.false_ne_true
  have himages : ((s.reserved known includeMeta).map Definition.image).filter (·.native.isNone) =
      (s.reserved known includeMeta).map Definition.image :=
    List.filter_eq_self.mpr fun t ht => by
      obtain ⟨d, _, rfl⟩ := List.mem_map.mp ht
      rfl
  simp only [Registry.generated, image, List.map_append, List.map_map, List.filter_append,
    Function.comp_def]
  rw [hknown, himages, List.nil_append]

/-- No name is allowed twice: native names come once, and the others are fresh. -/
theorem nodup_allowedNames (hk : (Entries.keys known).Nodup) :
    (s.allowedNames known includeMeta).Nodup := by
  unfold allowedNames
  rw [List.nodup_append]
  refine ⟨hk, nodup_reserved s known includeMeta, ?_⟩
  rintro n hn _ hmem rfl
  obtain ⟨d, hd, rfl⟩ := List.mem_map.mp hmem
  exact (isFresh_eq_true_iff.mp (isFresh_of_mem_reserved hd)).1 hn

/-- **One compiled type for every name.** The names of a compiled registry are those of the native
scalars and then the fresh ones, and none comes twice. The generated types are exactly what stands
behind the native scalars, and each is the image of the first listing of its name. -/
theorem compile_contents (hk : (Entries.keys known).Nodup)
    (h : s.compile known includeMeta = .ok r) :
    r.names = Entries.keys known ++ s.freshNames known includeMeta ∧
    r.names.Nodup ∧
    r.types = known.map (fun p => (p.1, CompiledType.ofNative p.1 p.2)) ++
      r.generated.map (fun t => (t.name, t)) ∧
    r.generated.map (·.name) = s.freshNames known includeMeta ∧
    (∀ p ∈ known, r.find? p.1 = some (CompiledType.ofNative p.1 p.2)) ∧
    (∀ t ∈ r.generated, r.find? t.name = some t ∧ t.native = none ∧
      ∃ d, s.find? t.name = some d ∧ t = d.image) := by
  obtain ⟨_, rfl⟩ := compile_eq_ok_iff.mp h
  have hdiscovers := discovers_reserved s known includeMeta
  have hnames : (s.image known includeMeta).names.Nodup := by
    rw [names_image]
    exact nodup_allowedNames hk
  have htypes : (s.image known includeMeta).types =
      known.map (fun p => (p.1, CompiledType.ofNative p.1 p.2)) ++
        (s.image known includeMeta).generated.map (fun t => (t.name, t)) := by
    rw [generated_image, List.map_map]
    rfl
  refine ⟨?_, hnames, htypes, ?_, ?_, ?_⟩
  · rw [names_image, allowedNames, hdiscovers.names]
  · rw [generated_image, List.map_map, ← hdiscovers.names]
    rfl
  · intro p hp
    refine Entries.get?_of_mem hnames ?_
    rw [htypes]
    exact List.mem_append_left _ (List.mem_map.mpr ⟨p, hp, rfl⟩)
  · intro t ht
    refine ⟨Entries.get?_of_mem hnames ?_, ?_⟩
    · rw [htypes]
      exact List.mem_append_right _ (List.mem_map.mpr ⟨t, ht, rfl⟩)
    · rw [generated_image] at ht
      obtain ⟨d, hd, rfl⟩ := List.mem_map.mp ht
      exact ⟨rfl, d, hdiscovers.first d hd, rfl⟩

/-- Two listings of one name, one of a native scalar, and a meta type that is not wanted. -/
def crowded : Schema where
  types :=
    [⟨"B", some "first", .enumeration [⟨"X", none, false, none⟩, ⟨"Y", none, true, some "old"⟩]⟩,
      ⟨"Int", none, .union ["Nowhere"]⟩,
      ⟨"__Type", none, .object [⟨"of", .named "__Type", none, [], false, none⟩] []⟩,
      ⟨"A", none, .inputObject [⟨"b", .nonNull (.named "B"), some "X", none⟩]⟩,
      ⟨"B", some "second", .union ["Nowhere"]⟩]
  roots := ⟨some [], none, none⟩

theorem compile_contents_crowded :
    (Entries.keys NativeScalars.standard).Nodup ∧
      crowded.compile .standard false = .ok (crowded.image .standard false) ∧
      (crowded.image .standard false).names =
        ["Int", "Float", "String", "Boolean", "ID", "B", "A"].map Text.ofString := by
  have hk : (Entries.keys NativeScalars.standard).Nodup := by decide
  have h : crowded.compile .standard false = .ok (crowded.image .standard false) := rfl
  refine ⟨hk, h, (compile_contents hk h).1.trans ?_⟩
  rfl

end GraphBind.Schema

/-! ## Listings in another order -/

namespace GraphBind

/-- That two registries hold the same types under the same names, and only those that come from the
schema may stand in another order. -/
structure Registry.SameContents (r r' : Registry) : Prop where
  names : ∀ n, n ∈ r.names ↔ n ∈ r'.names
  types : ∀ n, r.find? n = r'.find? n
  roots : r.roots = r'.roots
  shape : ∀ n, Entries.get? n r.shape = Entries.get? n r'.shape
  order : ∃ natives, r.types = natives ++ r.generated.map (fun t => (t.name, t)) ∧
    r'.types = natives ++ r'.generated.map (fun t => (t.name, t)) ∧ r.generated.Perm r'.generated

/-- The shape of a type is the shape of what is found under its name. -/
theorem Registry.get?_shape (r : Registry) (n : Text) :
    Entries.get? n r.shape = (r.find? n).map CompiledType.shape :=
  Entries.get?_map CompiledType.shape r.types n

namespace Schema

/-- That two schemas have the same roots and list the same types, the listings that come first being
the same for every name. -/
structure SameListings (s s' : Schema) : Prop where
  roots : s.roots = s'.roots
  names : ∀ n, n ∈ s.names ↔ n ∈ s'.names
  first : ∀ n ∈ s.names, s.find? n = s'.find? n

variable {s s' : Schema} {known : NativeScalars} {includeMeta : Bool} {r r' : Registry}

namespace SameListings

theorem symm (h : s.SameListings s') : s'.SameListings s where
  roots := h.roots.symm
  names := fun n => (h.names n).symm
  first := fun n hn => (h.first n ((h.names n).mpr hn)).symm

end SameListings

/-! ## Permutations -/

/-- Where no name is listed twice, every listing is the first one. -/
theorem find?_eq_some_of_nodup {d : Definition} (hn : s.names.Nodup) (hd : d ∈ s.types) :
    s.find? d.name = some d := by
  obtain ⟨e, he⟩ : ∃ e, s.find? d.name = some e :=
    Option.isSome_iff_exists.mp (List.find?_isSome.mpr ⟨d, hd, beq_self_eq_true _⟩)
  unfold find? at he ⊢
  have hmatch := List.find?_some he
  have hname : e.name = d.name := beq_iff_eq.mp hmatch
  rw [he, List.inj_on_of_nodup_map hn (List.mem_of_find?_eq_some he) hd hname]

/-- Where no name is listed twice, the types may be listed in any order. -/
theorem SameListings.of_perm (hroots : s.roots = s'.roots) (hn : s.names.Nodup)
    (hp : s.types.Perm s'.types) : s.SameListings s' where
  roots := hroots
  names := fun n => (hp.map (·.name)).mem_iff
  first := by
    intro n hmem
    obtain ⟨d, hd, rfl⟩ := List.mem_map.mp hmem
    have hn' : s'.names.Nodup := (hp.map Definition.name).nodup_iff.mp hn
    rw [find?_eq_some_of_nodup hn hd, find?_eq_some_of_nodup hn' (hp.subset hd)]

/-! ## Reserved types -/

/-- The reserved types, without an order: the first listings of the fresh names. -/
theorem mem_reserved_iff {d : Definition} : d ∈ s.reserved known includeMeta ↔
    isFresh known includeMeta d.name = true ∧ s.find? d.name = some d := by
  constructor
  · intro hd
    exact ⟨isFresh_of_mem_reserved hd, (discovers_reserved s known includeMeta).first d hd⟩
  · rintro ⟨hfresh, hfirst⟩
    have hname : d.name ∈ (s.reserved known includeMeta).map (·.name) := by
      rw [(discovers_reserved s known includeMeta).names]
      refine List.mem_eraseDups.mpr (List.mem_filter.mpr ⟨?_, hfresh⟩)
      exact List.mem_map_of_mem (List.mem_of_find?_eq_some hfirst)
    obtain ⟨e, he, hne⟩ := List.mem_map.mp hname
    have hfirst' := (discovers_reserved s known includeMeta).first e he
    rw [hne, hfirst] at hfirst'
    cases hfirst'
    exact he

theorem mem_reserved_of_sameListings (h : s.SameListings s') {d : Definition}
    (hd : d ∈ s.reserved known includeMeta) : d ∈ s'.reserved known includeMeta := by
  obtain ⟨hfresh, hfirst⟩ := mem_reserved_iff.mp hd
  refine mem_reserved_iff.mpr ⟨hfresh, ?_⟩
  rw [← h.first d.name (List.mem_map_of_mem (List.mem_of_find?_eq_some hfirst)), hfirst]

theorem reserved_perm (h : s.SameListings s') (known : NativeScalars) (includeMeta : Bool) :
    (s.reserved known includeMeta).Perm (s'.reserved known includeMeta) := by
  have hn : ∀ t : Schema, (t.reserved known includeMeta).Nodup := fun t =>
    List.Nodup.of_map _ (nodup_reserved t known includeMeta)
  rw [List.perm_ext_iff_of_nodup (hn s) (hn s')]
  exact fun d => ⟨mem_reserved_of_sameListings h, mem_reserved_of_sameListings h.symm⟩

/-! ## Compiling -/

theorem mem_allowedNames_congr (h : s.SameListings s') {n : Text} :
    n ∈ s.allowedNames known includeMeta ↔ n ∈ s'.allowedNames known includeMeta :=
  (((reserved_perm h known includeMeta).map (·.name)).append_left (Entries.keys known)).mem_iff

theorem mem_mentions_congr (h : s.SameListings s') {m : Mention} :
    m ∈ s.mentions known includeMeta ↔ m ∈ s'.mentions known includeMeta := by
  unfold mentions
  rw [h.roots]
  exact (((reserved_perm h known includeMeta).flatMap_right _).append_right _).mem_iff

theorem exists_compile_of_sameListings (h : s.SameListings s')
    (hr : s.compile known includeMeta = .ok r) : ∃ r', s'.compile known includeMeta = .ok r' := by
  obtain ⟨hallowed, -⟩ := compile_eq_ok_iff.mp hr
  refine ⟨s'.image known includeMeta, compile_eq_ok_iff.mpr ⟨fun m hm n hn => ?_, rfl⟩⟩
  exact (mem_allowedNames_congr h).mp (hallowed m ((mem_mentions_congr h).mpr hm) n hn)

/-- What is found in an image: a native scalar, or else the image of a reserved type. -/
theorem find?_image (n : Text) : (s.image known includeMeta).find? n =
    (Entries.get? n (known.map fun p => (p.1, CompiledType.ofNative p.1 p.2))).or
      (Entries.get? n ((s.reserved known includeMeta).map fun d => (d.name, d.image))) :=
  Entries.get?_append _ _ n

/-- Images of the same listings hold the same contents. -/
theorem sameContents_image (h : s.SameListings s') :
    (s.image known includeMeta).SameContents (s'.image known includeMeta) := by
  have hp := reserved_perm h known includeMeta
  have hkeys : (Entries.keys
      ((s.reserved known includeMeta).map fun d => (d.name, d.image))).Nodup := by
    rw [Entries.keys, List.map_map]
    exact nodup_reserved s known includeMeta
  have htypes (n : Text) :
      (s.image known includeMeta).find? n = (s'.image known includeMeta).find? n := by
    rw [find?_image, find?_image, Entries.get?_perm (hp.map _) hkeys]
  refine ⟨fun n => ?_, htypes, h.roots, fun n => ?_, ?_⟩
  · rw [names_image, names_image]
    exact mem_allowedNames_congr h
  · rw [Registry.get?_shape, Registry.get?_shape, htypes]
  · refine ⟨known.map fun p => (p.1, CompiledType.ofNative p.1 p.2), ?_, ?_, ?_⟩
    · rw [generated_image, List.map_map]
      rfl
    · rw [generated_image, List.map_map]
      rfl
    · rw [generated_image, generated_image]
      exact hp.map _

/-- **The order of listing does not matter.** Let two schemas list the same types first, or let one
list the types of the other, no name twice, in another order. Then one compiles if and only if the
other does, and the registries differ in the order of the generated types only. -/
theorem compile_sameListings (known : NativeScalars) (includeMeta : Bool)
    (h : s.SameListings s' ∨
      s.roots = s'.roots ∧ s.names.Nodup ∧ s.types.Perm s'.types) :
    ((∃ r, s.compile known includeMeta = .ok r) ↔ ∃ r', s'.compile known includeMeta = .ok r') ∧
    ∀ r r', s.compile known includeMeta = .ok r → s'.compile known includeMeta = .ok r' →
      r.SameContents r' := by
  have h : s.SameListings s' := by
    rcases h with h | ⟨hroots, hn, hp⟩
    · exact h
    · exact .of_perm hroots hn hp
  refine ⟨⟨?_, ?_⟩, ?_⟩
  · rintro ⟨r, hr⟩
    exact exists_compile_of_sameListings h hr
  · rintro ⟨r', hr'⟩
    exact exists_compile_of_sameListings h.symm hr'
  · intro r r' hr hr'
    obtain ⟨-, rfl⟩ := compile_eq_ok_iff.mp hr
    obtain ⟨-, rfl⟩ := compile_eq_ok_iff.mp hr'
    exact sameContents_image h

/-- The types of `circular` from the last to the first, and a second listing of one that says
something else. -/
def circularReversed : Schema where
  types := circular.types.reverse ++ [⟨"A", none, .union ["Nowhere"]⟩]
  roots := circular.roots

theorem compile_sameListings_circular : circular.SameListings circularReversed ∧
    ∀ r r', circular.compile .standard false = .ok r →
      circularReversed.compile .standard false = .ok r' → r.SameContents r' := by
  have h : circular.SameListings circularReversed := by
    have hsub : ∀ n ∈ circular.names, n ∈ circularReversed.names := by decide
    have hsup : ∀ n ∈ circularReversed.names, n ∈ circular.names := by decide
    refine ⟨rfl, fun n => ⟨hsub n, hsup n⟩, ?_⟩
    decide
  exact ⟨h, (compile_sameListings .standard false (.inl h)).2⟩

end Schema

end GraphBind
