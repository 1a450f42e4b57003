import GraphBind.FileTree

/-!
# What changes in a file tree

Making directories adds directories on the way to a path and leaves everything else as it was, also
where it fails (`madeWay_makeDirectories`); writing a file changes the place that its path leads to,
and only if it succeeds (`write_eq_ok`, `write_eq_error`). `MadeWay` and `Written` say so of whole
trees: at every place the same stands as before, or one of these changes has been made.
-/

namespace GraphBind

namespace FileTree

variable {t t' t'' : FileTree} {p q : Path} {place other : Place} {node : Node}

/-! ## Places -/

theorem ne_nil_of_node?_ne (h : t.node? place ≠ some .directory) : place ≠ [] := by
  rintro rfl
  exact h rfl

theorem node?_put (h : place ≠ []) :
    (t.put place node).node? other = if other = place then some node else t.node? other := by
  by_cases hother : other = place
  · subst hother
    rw [if_pos rfl, node?, if_neg (by simpa using h), put, Entries.get?_put, if_pos rfl]
  · rw [if_neg hother, node?, node?, put, Entries.get?_put, if_neg (Ne.symm hother)]

/-- What a path leads to is still there where no directory is lost. -/
theorem locateFrom_mono (h : ∀ place, t.node? place = some .directory →
    t'.node? place = some .directory) {parts : List String} {start : Place}
    (hlocate : t.locateFrom start parts = .ok place) : t'.locateFrom start parts = .ok place := by
  induction parts generalizing start with
  | nil => exact hlocate
  | cons part parts ih =>
    unfold locateFrom at hlocate ⊢
    cases hnode : t.node? start with
    | none =>
      rw [hnode] at hlocate
      cases hlocate
    | some node =>
      rw [hnode] at hlocate
      cases node with
      | file content => cases hlocate
      | directory =>
        rw [h start hnode]
        dsimp only at hlocate ⊢
        split at hlocate
        · next hup =>
          rw [if_pos hup]
          exact ih hlocate
        · next hup =>
          rw [if_neg hup]
          split at hlocate
          · next hon =>
            rw [if_pos hon]
            split at hlocate
            · cases hlocate
            · next hshort =>
              rw [if_neg hshort]
              exact ih hlocate
          · next hon =>
            rw [if_neg hon]
            exact ih hlocate

/-- More directories do not change where a path leads that already led somewhere. -/
theorem locate_mono (h : ∀ place, t.node? place = some .directory →
    t'.node? place = some .directory) (hlocate : t.locate p = .ok place) :
    t'.locate p = .ok place := by
  unfold locate at hlocate ⊢
  split at hlocate
  · cases hlocate
  · next hshort =>
    rw [if_neg hshort]
    exact locateFrom_mono h hlocate

/-! ## Making directories -/

/-- That a directory has been made where nothing was, on the way to a path or at its end. -/
def MadeAt (p : Path) (t t' : FileTree) (place : Place) : Prop :=
  t.node? place = none ∧ t'.node? place = some .directory ∧
    ∃ parts, parts <+: p.parts ∧ t'.locate ⟨parts⟩ = .ok place

/-- That a tree differs from an earlier one at most in directories that have been made on the way to
a path. -/
def MadeWay (p : Path) (t t' : FileTree) : Prop :=
  ∀ place, t'.node? place = t.node? place ∨ MadeAt p t t' place

namespace MadeWay

theorem refl (p : Path) (t : FileTree) : MadeWay p t t := fun _ => .inl rfl

theorem directory (h : MadeWay p t t') (hnode : t.node? place = some .directory) :
    t'.node? place = some .directory := by
  rcases h place with hsame | ⟨hnone, -⟩
  · rw [hsame, hnode]
  · rw [hnone] at hnode
    cases hnode

/-- No file comes, goes or changes. -/
theorem file_iff (h : MadeWay p t t') {content : List UInt8} :
    t'.node? place = some (.file content) ↔ t.node? place = some (.file content) := by
  rcases h place with hsame | ⟨hnone, hmade, -⟩
  · rw [hsame]
  · rw [hnone, hmade]
    simp

theorem trans (h : MadeWay p t t') (h' : MadeWay p t' t'') : MadeWay p t t'' := by
  intro place
  rcases h' place with hsame' | ⟨hnone', hmade', hway'⟩
  · rcases h place with hsame | ⟨hnone, hmade, parts, hparts, hlocate⟩
    · exact .inl (hsame'.trans hsame)
    · refine .inr ⟨hnone, hsame'.trans hmade, parts, hparts, ?_⟩
      exact locate_mono (fun _ => h'.directory) hlocate
  · rcases h place with hsame | ⟨-, hmade, -⟩
    · exact .inr ⟨hsame ▸ hnone', hmade', hway'⟩
    · rw [hmade] at hnone'
      cases hnone'

theorem widen (h : MadeWay p t t') (hp : p.parts <+: q.parts) : MadeWay q t t' := by
  intro place
  rcases h place with hsame | ⟨hnone, hmade, parts, hparts, hlocate⟩
  · exact .inl hsame
  · exact .inr ⟨hnone, hmade, parts, hparts.trans hp, hlocate⟩

end MadeWay

/-- Making one directory adds it, or nothing, and lies on the way. -/
theorem madeWay_makeDirectory (h : t.makeDirectory p = .ok t') : MadeWay p t t' := by
  unfold makeDirectory at h
  cases hlocate : t.locate p with
  | error fault =>
    rw [hlocate] at h
    cases h
  | ok place =>
    rw [hlocate] at h
    dsimp only at h
    split at h
    · cases h
      exact .refl p t
    · cases h
    · next hnone =>
      split at h
      · cases h
        have hne : place ≠ [] := ne_nil_of_node?_ne (t := t) (by simp [hnone])
        intro other
        by_cases hother : other = place
        · subst hother
          have hkept : ∀ place, t.node? place = some .directory →
              (t.put other .directory).node? place = some .directory := by
            intro place hplace
            rw [node?_put hne]
            split
            · rfl
            · exact hplace
          refine .inr ⟨hnone, ?_, p.parts, List.prefix_rfl, locate_mono hkept hlocate⟩
          rw [node?_put hne, if_pos rfl]
        · rw [node?_put hne, if_neg hother]
          exact .inl rfl
      · cases h

/-- Making all directories of a path makes way for it, also when it fails half way. -/
theorem madeWay_makeAll (t : FileTree) (parts : List String) :
    MadeWay ⟨parts.reverse⟩ t (t.makeAll parts).1 := by
  induction parts with
  | nil => exact .refl _ t
  | cons part above ih =>
    have habove : MadeWay ⟨(part :: above).reverse⟩ t (t.makeAll above).1 :=
      ih.widen (by rw [List.reverse_cons]; exact List.prefix_append _ _)
    unfold makeAll
    dsimp only
    split
    · next t' h => exact madeWay_makeDirectory h
    · split
      · next t' e h =>
        rw [h] at habove
        exact habove
      · next t' h =>
        rw [h] at habove
        split
        · next t'' h' => exact habove.trans (madeWay_makeDirectory h')
        · exact habove
    · exact .refl _ t

/-- Whatever comes of it, making a directory makes directories on the way to it only. -/
theorem madeWay_makeDirectories (t : FileTree) (p : Path) :
    MadeWay p t (t.makeDirectories p).1 := by
  have h := madeWay_makeAll t p.parts.reverse
  rw [List.reverse_reverse] at h
  unfold makeDirectories
  split
  · exact .refl p t
  · split
    · next t' hmade =>
      rw [hmade] at h
      exact h
    · next t' e hmade =>
      rw [hmade] at h
      exact h

/-! ## Writing -/

/-- That a path leads to a file of a tree which has just been written, and that the tree differs
from an earlier one in nothing else but directories that have been made on the way to it. -/
structure Written (p : Path) (content : List UInt8) (t t' : FileTree) : Prop where
  read : t'.read p = .ok content
  others : ∃ place, t'.locate p = .ok place ∧ t.node? place ≠ some .directory ∧
    ∀ other, other ≠ place → t'.node? other = t.node? other ∨ MadeAt p.parent t t' other

/-- A write that fails leaves the tree as it was. -/
theorem write_eq_error {content : List UInt8} {e : Failure FileError}
    (h : t.write p content = (t', .error e)) : t' = t := by
  unfold write at h
  split at h
  · cases h
    rfl
  · split at h
    · cases h
      rfl
    · split at h
      · cases h
        rfl
      · cases h
      · split at h
        · cases h
        · cases h
          rfl

/-- A write that succeeds puts the file where the path leads, over a file or nothing. -/
theorem write_eq_ok {content : List UInt8} (h : t.write p content = (t', .ok ())) :
    p.holdsNull = false ∧ ∃ place, t.locate p = .ok place ∧
      t.node? place ≠ some .directory ∧ t' = t.put place (.file content) := by
  unfold write at h
  split at h
  · cases h
  · next hnull =>
    refine ⟨Bool.eq_false_iff.mpr hnull, ?_⟩
    split at h
    · cases h
    · next place hlocate =>
      refine ⟨place, hlocate, ?_⟩
      split at h
      · cases h
      · next hfile =>
        cases h
        exact ⟨by simp [hfile], rfl⟩
      · next hnone =>
        split at h
        · cases h
          exact ⟨by simp [hnone], rfl⟩
        · cases h

theorem written_of_write {content : List UInt8} (hway : MadeWay p.parent t t')
    (h : t'.write p content = (t'', .ok ())) : Written p content t t'' := by
  obtain ⟨hnull, place, hlocate, hnode, rfl⟩ := write_eq_ok h
  have hne := ne_nil_of_node?_ne hnode
  have hkept : ∀ other, t'.node? other = some .directory →
      (t'.put place (.file content)).node? other = some .directory := by
    intro other hother
    rw [node?_put hne, if_neg]
    · exact hother
    · rintro rfl
      exact hnode hother
  have hthere := locate_mono hkept hlocate
  constructor
  · unfold read
    rw [if_neg (Bool.eq_false_iff.mp hnull), hthere]
    dsimp only
    rw [node?_put hne, if_pos rfl]
  · refine ⟨place, hthere, fun hdirectory => hnode (hway.directory hdirectory), ?_⟩
    intro other hother
    rcases hway other with hsame | ⟨hnone, hmade, parts, hparts, hat⟩
    · rw [node?_put hne, if_neg hother]
      exact .inl hsame
    · exact .inr ⟨hnone, hkept other hmade, parts, hparts, locate_mono hkept hat⟩

end FileTree

end GraphBind
