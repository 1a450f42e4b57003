import GraphBind.Proofs.Registry.Contents

/-!
# Further native scalars

Layering further native scalars over the ones that a schema compiles with never makes it fail, and
changes nothing but the types of these names (`compile_extend`). What is fresh under more native
scalars was fresh before, so types only leave the reserved ones (`reserved_extend`). The names of
those that leave are native scalars now, so every name stays allowed that was
(`mem_allowedNames_extend`), and nothing is mentioned that was not (`mem_mentions_of_extend`).
-/

namespace GraphBind

/-- That a registry comes from another one by layering native scalars over those that the other one
has. -/
structure Registry.Layered (r : Registry) (base extra : NativeScalars) (r' : Registry) : Prop where
  names : ∀ n, n ∈ r'.names ↔ n ∈ r.names ∨ n ∈ Entries.keys extra
  layered : ∀ p ∈ extra, r'.find? p.1 = some (CompiledType.ofNative p.1 p.2)
  kept : ∀ p ∈ base, p.1 ∉ Entries.keys extra →
    r'.find? p.1 = some (CompiledType.ofNative p.1 p.2)
  others : ∀ n, n ∉ Entries.keys extra → r'.find? n = r.find? n
  generated : r'.generated = r.generated.filter fun t => t.name ∉ Entries.keys extra
  found : ∀ t ∈ r'.generated, r'.find? t.name = some t
  roots : r'.roots = r.roots

namespace NativeScalars

variable {base extra : NativeScalars} {n : Text}

theorem mem_keys_extend :
    n ∈ Entries.keys (base.extend extra) ↔ n ∈ Entries.keys base ∨ n ∈ Entries.keys extra :=
  Entries.mem_keys_putAll

theorem get?_extend_of_notMem (h : n ∉ Entries.keys extra) :
    Entries.get? n (base.extend extra) = Entries.get? n base := by
  have hreverse : n ∉ Entries.keys extra.reverse := by
    simpa [Entries.keys] using h
  rw [extend, Entries.get?_putAll, Entries.get?_eq_none hreverse, Option.none_or]

theorem get?_extend_of_mem (hn : (Entries.keys extra).Nodup) {p : Text × NativeType}
    (hp : p ∈ extra) : Entries.get? p.1 (base.extend extra) = some p.2 := by
  have hreverse : (Entries.keys extra.reverse).Nodup := by
    rw [Entries.keys, List.map_reverse, List.nodup_reverse]
    exact hn
  rw [extend, Entries.get?_putAll, Entries.get?_of_mem hreverse (List.mem_reverse.mpr hp),
    Option.some_or]

end NativeScalars

namespace Schema

variable {s : Schema} {base extra known : NativeScalars} {includeMeta : Bool} {r : Registry}

/-! ## Reserved types and allowed names -/

/-- What is fresh under more native scalars was fresh, and is none of the new ones. -/
theorem isFresh_extend (base extra : NativeScalars) (includeMeta : Bool) (n : Text) :
    isFresh (base.extend extra) includeMeta n =
      (decide (n ∉ Entries.keys extra) && isFresh base includeMeta n) := by
  rw [Bool.eq_iff_iff, Bool.and_eq_true, decide_eq_true_eq, isFresh_eq_true_iff,
    isFresh_eq_true_iff, NativeScalars.mem_keys_extend, not_or]
  constructor
  · rintro ⟨⟨hbase, hextra⟩, hmeta⟩
    exact ⟨hextra, hbase, hmeta⟩
  · rintro ⟨hextra, hbase, hmeta⟩
    exact ⟨⟨hbase, hextra⟩, hmeta⟩

/-- The types that have the name of a new native scalar are no longer reserved, and all others
are. -/
theorem reserved_extend (s : Schema) (base extra : NativeScalars) (includeMeta : Bool) :
    s.reserved (base.extend extra) includeMeta =
      (s.reserved base includeMeta).filter fun d => d.name ∉ Entries.keys extra := by
  simp only [reserved_eq, List.filter_filter, isFresh_extend]

theorem mem_reserved_of_extend {d : Definition}
    (h : d ∈ s.reserved (base.extend extra) includeMeta) : d ∈ s.reserved base includeMeta := by
  rw [reserved_extend] at h
  exact (List.mem_filter.mp h).1

/-- More native scalars allow the names that were allowed, and their own. -/
theorem mem_allowedNames_extend {n : Text} :
    n ∈ s.allowedNames (base.extend extra) includeMeta ↔
      n ∈ s.allowedNames base includeMeta ∨ n ∈ Entries.keys extra := by
  have hreserved : n ∈ (s.reserved (base.extend extra) includeMeta).map (·.name) ↔
      n ∈ (s.reserved base includeMeta).map (·.name) ∧ n ∉ Entries.keys extra := by
    simp only [reserved_extend, List.mem_map, List.mem_filter, decide_eq_true_eq]
    constructor
    · rintro ⟨d, ⟨hd, hextra⟩, rfl⟩
      exact ⟨⟨d, hd, rfl⟩, hextra⟩
    · rintro ⟨⟨d, hd, rfl⟩, hextra⟩
      exact ⟨d, ⟨hd, hextra⟩, rfl⟩
  rw [allowedNames, allowedNames, List.mem_append, List.mem_append, hreserved,
    NativeScalars.mem_keys_extend]
  by_cases hextra : n ∈ Entries.keys extra <;> simp [hextra]

theorem mem_mentions_of_extend {m : Mention}
    (h : m ∈ s.mentions (base.extend extra) includeMeta) : m ∈ s.mentions base includeMeta := by
  rcases List.mem_append.mp h with h | h
  · obtain ⟨d, hd, hm⟩ := List.mem_flatMap.mp h
    exact List.mem_append_left _ (List.mem_flatMap.mpr ⟨d, mem_reserved_of_extend hd, hm⟩)
  · exact List.mem_append_right _ h

/-! ## Registries -/

theorem get?_reserved_image {d : Definition} (hd : d ∈ s.reserved known includeMeta) :
    Entries.get? d.name ((s.reserved known includeMeta).map fun d => (d.name, d.image)) =
      some d.image := by
  refine Entries.get?_of_mem ?_ (List.mem_map.mpr ⟨d, hd, rfl⟩)
  rw [Entries.keys, List.map_map]
  exact nodup_reserved s known includeMeta

/-- A native scalar is found under its name, whatever the schema lists there. -/
theorem find?_image_of_native {n : Text} {t : NativeType} (h : Entries.get? n known = some t) :
    (s.image known includeMeta).find? n = some (CompiledType.ofNative n t) := by
  rw [find?_image, Entries.get?_mapWithKey CompiledType.ofNative, h, Option.map_some,
    Option.some_or]

theorem find?_image_of_reserved {d : Definition} (hd : d ∈ s.reserved known includeMeta) :
    (s.image known includeMeta).find? d.name = some d.image := by
  have hnative : d.name ∉ Entries.keys known :=
    (isFresh_eq_true_iff.mp (isFresh_of_mem_reserved hd)).1
  rw [find?_image, Entries.get?_mapWithKey CompiledType.ofNative, Entries.get?_eq_none hnative,
    Option.map_none, Option.none_or, get?_reserved_image hd]

/-- Types of other names are found as before. -/
theorem find?_image_extend {n : Text} (h : n ∉ Entries.keys extra) :
    (s.image (base.extend extra) includeMeta).find? n = (s.image base includeMeta).find? n := by
  have hreserved : (s.reserved (base.extend extra) includeMeta).map (fun d => (d.name, d.image)) =
      ((s.reserved base includeMeta).map fun d => (d.name, d.image)).filter
        fun e => e.1 ∉ Entries.keys extra := by
    rw [reserved_extend, List.filter_map]
    rfl
  rw [find?_image, find?_image, Entries.get?_mapWithKey CompiledType.ofNative,
    Entries.get?_mapWithKey CompiledType.ofNative, NativeScalars.get?_extend_of_notMem h, hreserved,
    Entries.get?_filter (p := fun n => n ∉ Entries.keys extra) (decide_eq_true h)]

/-- The image under more native scalars lies over the image under fewer. -/
theorem layered_image (hbase : (Entries.keys base).Nodup) (hextra : (Entries.keys extra).Nodup) :
    (s.image base includeMeta).Layered base extra (s.image (base.extend extra) includeMeta) where
  names := by
    intro n
    rw [names_image, names_image]
    exact mem_allowedNames_extend
  layered := by
    intro p hp
    exact find?_image_of_native (NativeScalars.get?_extend_of_mem hextra hp)
  kept := by
    intro p hp hfresh
    refine find?_image_of_native ?_
    rw [NativeScalars.get?_extend_of_notMem hfresh]
    exact Entries.get?_of_mem hbase hp
  others := fun n hn => find?_image_extend hn
  generated := by
    rw [generated_image, generated_image, reserved_extend, List.filter_map]
    rfl
  found := by
    intro t ht
    rw [generated_image] at ht
    obtain ⟨d, hd, rfl⟩ := List.mem_map.mp ht
    exact find?_image_of_reserved hd
  roots := rfl

/-- **More native scalars never hurt.** If a schema compiles, it still does with further native
scalars layered over the ones that it compiled with, to a registry that holds these in addition or
in the place of generated types. All else is as before: the native scalars of other names, and the
other generated types with all that they hold, in the same order. -/
theorem compile_extend (hbase : (Entries.keys base).Nodup) (hextra : (Entries.keys extra).Nodup)
    (h : s.compile base includeMeta = .ok r) :
    ∃ r', s.compile (base.extend extra) includeMeta = .ok r' ∧ r.Layered base extra r' := by
  obtain ⟨hallowed, rfl⟩ := compile_eq_ok_iff.mp h
  refine ⟨s.image (base.extend extra) includeMeta, ?_, layered_image hbase hextra⟩
  refine compile_eq_ok_iff.mpr ⟨fun m hm n hn => ?_, rfl⟩
  exact mem_allowedNames_extend.mpr (.inl (hallowed m (mem_mentions_of_extend hm) n hn))

/-- Native scalars over a standard one, over a type of the schema that others refer to, and over a
name that is not there. -/
def dates : NativeScalars :=
  [("ID", ⟨"uuid", "UUID"⟩), ("A", ⟨"builtins", "dict"⟩), ("Date", ⟨"datetime", "date"⟩)]

theorem compile_extend_circular : ∃ r', circular.compile (.extend .standard dates) false = .ok r' ∧
    (circular.image .standard false).Layered .standard dates r' ∧
    r'.generated.map (·.name) = ["Query", "B", "Filter"].map Text.ofString := by
  have h : circular.compile .standard false = .ok (circular.image .standard false) := rfl
  have hdates : (Entries.keys dates).Nodup := by decide
  obtain ⟨r', hr', hlayered⟩ := compile_extend (by decide) hdates h
  refine ⟨r', hr', hlayered, ?_⟩
  rw [hlayered.generated]
  decide

end Schema

end GraphBind
