import GraphBind.Text.Basic
import Mathlib.Data.List.Chain
import Mathlib.Data.List.Pairwise
import Mathlib.Data.List.TakeWhile

/-!
# Cutting, trimming and collapsing texts

What stands in front of the first mark of a text and what stands from it on, as `takeWhile` and
`dropWhile` read them.

What is left of a list when it is trimmed, said without the two walks from its ends (`Trimmed`): a
part that neither begins nor ends with an item of the class, with nothing but such items around it.
`trim_eq_iff` says that this is what `trim` gives, and that there is one such part.

What is left of a text when each run of white space in it becomes one space, said without the walk
that remembers whether it is inside of a run (`Collapses`): `collapses_iff` says that this is what
`collapse` gives. Such a text is single-spaced, as is every part of it (`SingleSpaced.of_isInfix`),
and collapsing it once more leaves it as it is (`collapse_of_singleSpaced`).
-/

namespace GraphBind.Text

/-! ## Splitting at a mark -/

section Splitting

variable {cs before after : List Char} {c mark : Char}

theorem bne_of_notMem (h : mark ∉ cs) : ∀ c ∈ cs, (c != mark) = true := fun _ hc =>
  bne_iff_ne.mpr fun heq => h (heq ▸ hc)

theorem dropWhile_of_notMem (h : mark ∉ cs) : cs.dropWhile (· != mark) = [] :=
  List.dropWhile_eq_nil_iff.mpr (bne_of_notMem h)

theorem notMem_takeWhile : mark ∉ cs.takeWhile (· != mark) := by
  intro h
  have hne := List.mem_takeWhile_imp h
  simp at hne

/-- What is read up to a mark ends at it. -/
theorem eq_of_dropWhile (h : cs.dropWhile (· != mark) = c :: after) : c = mark := by
  have hhead := List.head?_dropWhile_not (· != mark) cs
  rw [h] at hhead
  simpa using hhead

/-- A text is split at the first mark. -/
theorem splitAt_iff : cs = before ++ mark :: after ∧ mark ∉ before ↔
    cs.takeWhile (· != mark) = before ∧ cs.dropWhile (· != mark) = mark :: after := by
  constructor
  · rintro ⟨rfl, hmark⟩
    rw [List.takeWhile_append_of_pos (bne_of_notMem hmark),
      List.dropWhile_append_of_pos (bne_of_notMem hmark)]
    simp
  · rintro ⟨rfl, hafter⟩
    refine ⟨?_, notMem_takeWhile⟩
    rw [← hafter, List.takeWhile_append_dropWhile]

/-- What follows a text with a mark has no part in what stands in front of the mark. -/
theorem takeWhile_append_of_mem (h : mark ∈ cs) :
    (cs ++ after).takeWhile (· != mark) = cs.takeWhile (· != mark) := by
  obtain ⟨before, behind, rfl, hbefore⟩ := List.eq_append_cons_of_mem h
  rw [(splitAt_iff.mp ⟨rfl, hbefore⟩).1, List.append_assoc, List.cons_append,
    (splitAt_iff.mp ⟨rfl, hbefore⟩).1]

end Splitting

/-! ## Trimming -/

section Trimming

variable {α : Type} {p : α → Bool} {xs core before after : List α}

/-- That a list neither begins nor ends with an item of a class. -/
structure IsTrimmed (p : α → Bool) (xs : List α) : Prop where
  first : ∀ x ∈ xs.head?, p x = false
  last : ∀ x ∈ xs.getLast?, p x = false

theorem isTrimmed_iff : IsTrimmed p xs ↔
    (∀ x ∈ xs.head?, p x = false) ∧ ∀ x ∈ xs.getLast?, p x = false :=
  ⟨fun h => ⟨h.first, h.last⟩, fun h => ⟨h.1, h.2⟩⟩

instance : Decidable (IsTrimmed p xs) := decidable_of_iff' _ isTrimmed_iff

/-- That a part of a list is what is left without the items of a class at either end. -/
structure Trimmed (p : α → Bool) (xs core : List α) : Prop where
  around : ∃ before after, xs = before ++ core ++ after ∧ (∀ x ∈ before, p x = true) ∧
    ∀ x ∈ after, p x = true
  clean : IsTrimmed p core

theorem isTrimmed_nil : IsTrimmed p [] := ⟨nofun, nofun⟩

theorem IsTrimmed.reverse (h : IsTrimmed p xs) : IsTrimmed p xs.reverse := by
  refine ⟨?_, ?_⟩
  · rw [List.head?_reverse]
    exact h.last
  · rw [List.getLast?_reverse]
    exact h.first

theorem IsTrimmed.first_append (hne : core ≠ []) (h : IsTrimmed p core) :
    ∀ x ∈ (core ++ after).head?, p x = false := by
  obtain ⟨x, core, rfl⟩ := List.exists_cons_of_ne_nil hne
  exact h.first

theorem first_dropWhile (p : α → Bool) (xs : List α) :
    ∀ x ∈ (xs.dropWhile p).head?, p x = false := by
  intro x hx
  have h := List.head?_dropWhile_not p xs
  rw [Option.mem_def.mp hx] at h
  simpa using h

/-- All that is in front of an item that is not of the class is dropped. -/
theorem dropWhile_append_of_first (hbefore : ∀ x ∈ before, p x = true)
    (hfirst : ∀ x ∈ xs.head?, p x = false) : (before ++ xs).dropWhile p = xs := by
  rw [List.dropWhile_append_of_pos hbefore]
  cases xs with
  | nil => rfl
  | cons x xs => exact List.dropWhile_cons_of_neg (by simp [hfirst x rfl])

/-- What trimming gives is trimmed: one walk for each end. -/
theorem trimmed_trim (p : α → Bool) (xs : List α) : Trimmed p xs (trim p xs) := by
  have hfront : xs = xs.takeWhile p ++ xs.dropWhile p := List.takeWhile_append_dropWhile.symm
  have hback : xs.dropWhile p = trim p xs ++ ((xs.dropWhile p).reverse.takeWhile p).reverse := by
    rw [trim, ← List.reverse_append, List.takeWhile_append_dropWhile, List.reverse_reverse]
  refine ⟨⟨xs.takeWhile p, ((xs.dropWhile p).reverse.takeWhile p).reverse, ?_,
    fun x => List.mem_takeWhile_imp, fun x hx => ?_⟩, fun x hx => ?_, ?_⟩
  · rw [List.append_assoc, ← hback]
    exact hfront
  · exact List.mem_takeWhile_imp (List.mem_reverse.mp hx)
  · refine first_dropWhile p xs x ?_
    rw [hback, List.head?_append, Option.mem_def.mp hx]
    rfl
  · rw [trim, List.getLast?_reverse]
    exact first_dropWhile p _

/-- There is no other trimmed part, since the items around it are of the class and its ends are not.
-/
theorem trim_of_trimmed (h : Trimmed p xs core) : trim p xs = core := by
  obtain ⟨⟨before, after, rfl, hbefore, hafter⟩, hclean⟩ := h
  rw [trim, List.append_assoc]
  by_cases hne : core = []
  · subst hne
    have hall := List.forall_mem_append.mpr ⟨hbefore, hafter⟩
    rw [List.nil_append, List.dropWhile_eq_nil_iff.mpr hall]
    rfl
  · have hafter' : ∀ x ∈ after.reverse, p x = true := by simpa using hafter
    rw [dropWhile_append_of_first hbefore (hclean.first_append hne), List.reverse_append,
      dropWhile_append_of_first hafter' hclean.reverse.first, List.reverse_reverse]

/-- What is left of a list is what trimming gives. -/
theorem trim_eq_iff : trim p xs = core ↔ Trimmed p xs core :=
  ⟨fun h => h ▸ trimmed_trim p xs, trim_of_trimmed⟩

theorem trim_eq_nil_iff : trim p xs = [] ↔ ∀ x ∈ xs, p x = true := by
  rw [trim_eq_iff]
  constructor
  · rintro ⟨⟨before, after, rfl, hbefore, hafter⟩, -⟩
    simpa using fun x hx => hx.elim (hbefore x) (hafter x)
  · exact fun h => ⟨⟨xs, [], by simp, h, nofun⟩, isTrimmed_nil⟩

/-- A trimmed list stays as it is. -/
theorem trim_of_isTrimmed (h : IsTrimmed p xs) : trim p xs = xs :=
  trim_of_trimmed ⟨⟨[], [], by simp, nofun, nofun⟩, h⟩

end Trimming

/-! ## Collapsing -/

variable {c : CodePoint} {t t' run : Text}

/-- That a text is another with one space for each run of white space in it. -/
inductive Collapses : Text → Text → Prop where
  | nil : Collapses [] []
  | other {c : CodePoint} {t t' : Text} (hc : c.satisfies isBlank = false) (h : Collapses t t') :
    Collapses (c :: t) (c :: t')
  | run {run t t' : Text} (hne : run ≠ []) (hrun : ∀ c ∈ run, c.satisfies isBlank = true)
    (hnext : ∀ c ∈ t.head?, c.satisfies isBlank = false) (h : Collapses t t') :
    Collapses (run ++ t) (.char ' ' :: t')

/-- That a text has no white space but spaces, and no two of them next to each other. -/
structure SingleSpaced (t : Text) : Prop where
  spaces : ∀ c ∈ t, c.satisfies isBlank = true → c = .char ' '
  apart : t.IsChain fun c c' => c.satisfies isBlank = true → c'.satisfies isBlank = false

/-! ## What collapsing gives -/

theorem collapseFrom_of_first (inRun : Bool) (h : ∀ c ∈ t.head?, c.satisfies isBlank = false) :
    collapseFrom inRun t = collapse t := by
  cases t with
  | nil => rfl
  | cons c t => simp [collapse, collapseFrom, h c rfl]

/-- Inside of a run the rest of the run is dropped. -/
theorem collapseFrom_run (hrun : ∀ c ∈ run, c.satisfies isBlank = true)
    (hnext : ∀ c ∈ t.head?, c.satisfies isBlank = false) :
    collapseFrom true (run ++ t) = collapse t := by
  induction run with
  | nil => exact collapseFrom_of_first true hnext
  | cons c run ih =>
    obtain ⟨hc, hrun⟩ := List.forall_mem_cons.mp hrun
    rw [List.cons_append, collapseFrom, if_pos hc, if_pos rfl]
    exact ih hrun

/-- Collapsing gives what the relation says, by its constructors. -/
theorem collapse_of_collapses (h : Collapses t t') : collapse t = t' := by
  induction h with
  | nil => rfl
  | other hc _ ih => simpa [collapse, collapseFrom, hc] using ih
  | @run run t t' hne hrun hnext _ ih =>
    obtain ⟨c, run, rfl⟩ := List.exists_cons_of_ne_nil hne
    obtain ⟨hc, hrun⟩ := List.forall_mem_cons.mp hrun
    rw [← ih, ← collapseFrom_run hrun hnext]
    simp [collapse, collapseFrom, hc]

/-- A text collapses both outside of a run and, without the rest of the run, inside of one. -/
theorem collapses_from (t : Text) : Collapses t (collapseFrom false t) ∧
    ∃ run rest, t = run ++ rest ∧ (∀ c ∈ run, c.satisfies isBlank = true) ∧
      (∀ c ∈ rest.head?, c.satisfies isBlank = false) ∧ Collapses rest (collapseFrom true t) := by
  -- Behind white space the walk goes on inside of a run and behind anything else outside of one, so
  -- that neither half is proved without the other.
  induction t with
  | nil => exact ⟨.nil, [], [], rfl, nofun, nofun, .nil⟩
  | cons c t ih =>
    obtain ⟨houtside, run, rest, rfl, hrun, hrest, hinside⟩ := ih
    by_cases hc : c.satisfies isBlank = true
    · have hrun' : ∀ c' ∈ c :: run, c'.satisfies isBlank = true :=
        List.forall_mem_cons.mpr ⟨hc, hrun⟩
      rw [collapseFrom, collapseFrom, if_pos hc, if_pos hc]
      exact ⟨.run (List.cons_ne_nil c run) hrun' hrest hinside, c :: run, rest, rfl, hrun', hrest,
        hinside⟩
    · rw [Bool.not_eq_true] at hc
      have hother := Collapses.other hc houtside
      simp only [collapseFrom, hc, Bool.false_eq_true, if_false]
      exact ⟨hother, [], c :: (run ++ rest), rfl, nofun, by simpa using hc, hother⟩

/-- What a text collapses to is what collapsing gives. -/
theorem collapses_iff : Collapses t t' ↔ t' = collapse t :=
  ⟨fun h => (collapse_of_collapses h).symm, fun h => h ▸ (collapses_from t).1⟩

/-! ## Single spaces -/

theorem Collapses.first (h : Collapses t t') (hfirst : ∀ c ∈ t.head?, c.satisfies isBlank = false) :
    ∀ c ∈ t'.head?, c.satisfies isBlank = false := by
  cases h with
  | nil => exact nofun
  | other hc _ => exact hfirst
  | run hne hrun _ _ =>
    obtain ⟨c, run, rfl⟩ := List.exists_cons_of_ne_nil hne
    have hblank := hrun c List.mem_cons_self
    rw [hfirst c rfl] at hblank
    cases hblank

namespace SingleSpaced

theorem nil : SingleSpaced [] := ⟨nofun, .nil⟩

theorem cons (hc : c.satisfies isBlank = true → c = .char ' ' ∧
      ∀ c' ∈ t.head?, c'.satisfies isBlank = false) (h : SingleSpaced t) :
    SingleSpaced (c :: t) :=
  ⟨List.forall_mem_cons.mpr ⟨fun hblank => (hc hblank).1, h.spaces⟩,
    List.isChain_cons.mpr ⟨fun c' hc' hblank => (hc hblank).2 c' hc', h.apart⟩⟩

/-- A part of a single-spaced text is single-spaced. -/
theorem of_isInfix (h : SingleSpaced t) (ht : t' <:+: t) : SingleSpaced t' :=
  ⟨fun c hc => h.spaces c (ht.subset hc), List.IsChain.infix h.apart ht⟩

/-- What is put behind a single-spaced text keeps it so if it holds no white space. -/
theorem append (h : SingleSpaced t) (ht : ∀ c ∈ t', c.satisfies isBlank = false) :
    SingleSpaced (t ++ t') := by
  have hblank : ∀ c ∈ t', ¬c.satisfies isBlank = true := fun c hc => by simp [ht c hc]
  refine ⟨List.forall_mem_append.mpr ⟨h.spaces, fun c hc hc' => absurd hc' (hblank c hc)⟩, ?_⟩
  refine h.apart.append ?_ fun _ _ c hc _ => ht c (List.mem_of_mem_head? hc)
  exact List.Pairwise.isChain (List.pairwise_of_forall_mem_list fun _ _ c hc _ => ht c hc)

end SingleSpaced

theorem singleSpaced_of_collapses (h : Collapses t t') : SingleSpaced t' := by
  induction h with
  | nil => exact .nil
  | other hc _ ih => exact .cons (fun hblank => by simp [hc] at hblank) ih
  | run _ _ hnext h ih => exact .cons (fun _ => ⟨rfl, h.first hnext⟩) ih

theorem singleSpaced_collapse (t : Text) : SingleSpaced (collapse t) :=
  singleSpaced_of_collapses (collapses_iff.mpr rfl)

/-- A single-spaced text stays as it is. -/
theorem collapse_of_singleSpaced (h : SingleSpaced t) : collapse t = t := by
  refine collapse_of_collapses ?_
  induction t with
  | nil => exact .nil
  | cons c t ih =>
    have hrest := ih (h.of_isInfix (List.suffix_cons c t).isInfix)
    by_cases hc : c.satisfies isBlank = true
    · obtain rfl := h.spaces c List.mem_cons_self hc
      have hnext : ∀ c ∈ t.head?, c.satisfies isBlank = false := fun c hc' =>
        (List.isChain_cons.mp h.apart).1 c hc' hc
      have hrun : Collapses ([.char ' '] ++ t) (.char ' ' :: t) :=
        .run (List.cons_ne_nil _ []) (by simpa using hc) hnext hrest
      exact hrun
    · exact .other (Bool.not_eq_true _ ▸ hc) hrest

end GraphBind.Text
