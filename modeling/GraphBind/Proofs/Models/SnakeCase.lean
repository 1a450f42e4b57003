import GraphBind.Models.Naming
import GraphBind.Proofs.Text.Identifier

/-!
# Snake case

Underscores are put into a name in two passes, before capitals that lower-case letters follow and
between small letters and capitals. The first pass leaves out a capital if it has just taken the
letter before it into another word, but then that letter is a small one, and the second pass comes
to the capital. So the two are one pass (`markCapitals_markWords`), in which `startsWord` decides
from what stands around a capital whether it is marked.

One pass takes nothing out of a text and puts nothing but underscores into it. The lower-case form
of a name of the query language is taken character by character, so its snake case differs from it
by underscores only (`withoutUnderscores_snakeCase`, `lower_sublist_snakeCase`), and consists of
lower-case letters, digits and underscores (`isSnake_snakeCase`). In such a text no capital is left
to be marked (`IsSnake.snakeCase_eq`).
-/

namespace GraphBind

/-- The lower-case form of a code point of a name. -/
def CodePoint.toLower : CodePoint → CodePoint
  | char c => char c.toLower
  | surrogate n => surrogate n

namespace Models

open Text (isAsciiDigit)

/-- Whether a capital begins a word: behind a lower-case letter or a digit, or before lower-case
letters, unless a line begins with it. -/
def startsWord (c u : CodePoint) (behind : Text) : Bool :=
  isUpper u && (isLower c || c.satisfies isAsciiDigit || c != .char '\n' && startsLower behind)

/-- Puts an underscore before every capital that begins a word, other than the first code point. -/
def markStarts : Text → Text
  | [] => []
  | [c] => [c]
  | c :: u :: cs =>
    if startsWord c u cs then c :: .char '_' :: markStarts (u :: cs) else c :: markStarts (u :: cs)

/-- What is left of a text without its underscores. -/
def withoutUnderscores (t : Text) : Text := t.filter (· != .char '_')

/-- That a text consists of lower-case letters, digits and underscores. -/
def IsSnake (t : Text) : Prop :=
  ∀ p ∈ t, ∃ c, p = .char c ∧ Query.isNamePart c = true ∧ c.toLower = c

variable {t t' name : Text} {c u : CodePoint}

theorem isSnake_iff :
    IsSnake t ↔ ∀ p ∈ t, p.satisfies (fun c => Query.isNamePart c && c.toLower == c) = true := by
  refine forall₂_congr fun p _ => ⟨?_, fun h => ?_⟩
  · rintro ⟨c, rfl, hpart, hlower⟩
    exact Bool.and_eq_true_iff.mpr ⟨hpart, beq_iff_eq.mpr hlower⟩
  · obtain ⟨c, rfl, hc⟩ := CodePoint.exists_of_satisfies h
    obtain ⟨hpart, hlower⟩ := Bool.and_eq_true_iff.mp hc
    exact ⟨c, rfl, hpart, beq_iff_eq.mp hlower⟩

instance (t : Text) : Decidable (IsSnake t) := decidable_of_iff' _ isSnake_iff

/-! ## One pass -/

theorem isUpper_of_isLower (h : isLower c = true) : isUpper c = false := by
  obtain ⟨c, rfl, hc⟩ := CodePoint.exists_of_satisfies h
  have hle : 'a' ≤ c := of_decide_eq_true (Bool.and_eq_true_iff.mp hc).1
  have hnot : ¬c ≤ 'Z' := fun h => absurd (Char.le_trans hle h) (by decide)
  exact Bool.and_eq_false_imp.mpr fun _ => decide_eq_false hnot

/-- A text whose words are marked begins as it does without the marks. -/
theorem exists_markWords_cons (inWord : Bool) (c : CodePoint) (t : Text) :
    ∃ t', markWords inWord (c :: t) = c :: t' := by
  cases t with
  | nil => exact ⟨[], rfl⟩
  | cons u cs =>
    rw [markWords]
    split
    · exact ⟨_, rfl⟩
    · split
      · exact ⟨_, rfl⟩
      · exact ⟨_, rfl⟩

theorem markCapitals_cons_of_not_isUpper (h : isUpper u = false) (c : CodePoint) (cs : Text) :
    markCapitals (c :: u :: cs) = c :: markCapitals (u :: cs) := by
  rw [markCapitals, h, Bool.and_false]
  rfl

theorem markStarts_cons_of_not_isUpper (h : isUpper u = false) (c : CodePoint) (cs : Text) :
    markStarts (c :: u :: cs) = c :: markStarts (u :: cs) := by
  rw [markStarts, startsWord, h, Bool.false_and]
  rfl

/-- The two passes are one: what the first one marks, the second one leaves, and it marks what is
left. -/
theorem markCapitals_markWords (inWord : Bool) (t : Text) :
    markCapitals (markWords inWord t) = markStarts t := by
  induction inWord, t using markWords.induct with
  | case1 inWord => rfl
  | case2 inWord c => rfl
  | case3 inWord c u cs hword ih =>
    -- Inside of a word the first pass marks nothing, and the second one marks every capital.
    have hlower : isLower c = true := (Bool.and_eq_true_iff.mp hword).2
    obtain ⟨t', ht'⟩ := exists_markWords_cons true u cs
    rw [markWords, if_pos hword]
    rw [ht'] at ih ⊢
    rw [markCapitals, markStarts, startsWord, ih, hlower]
    simp only [Bool.true_or, Bool.true_and, Bool.and_true]
  | case4 inWord c u cs hword hcapital ih =>
    rw [markWords, if_neg hword, if_pos hcapital]
    simp only [Bool.and_eq_true] at hcapital
    obtain ⟨⟨hline, hupper⟩, hbehind⟩ := hcapital
    have hstart : startsWord c u cs = true := by
      rw [startsWord, hupper, hline, hbehind, Bool.true_and, Bool.true_and, Bool.or_true]
    obtain ⟨l, cs, rfl, hlower⟩ : ∃ l cs', cs = l :: cs' ∧ isLower l = true := by
      cases cs with
      | nil => cases hbehind
      | cons l cs => exact ⟨l, cs, rfl, hbehind⟩
    have hl : isUpper l = false := isUpper_of_isLower hlower
    obtain ⟨t', ht'⟩ := exists_markWords_cons true l cs
    have hmark : markCapitals (.char '_' :: u :: l :: t') =
        .char '_' :: markCapitals (u :: l :: t') := by
      rw [markCapitals]
      rfl
    rw [ht'] at ih ⊢
    -- The second pass goes by the mark: no capital follows `c`, and a mark is no small letter.
    rw [markStarts, if_pos hstart, markCapitals_cons_of_not_isUpper rfl, hmark,
      markCapitals_cons_of_not_isUpper hl, markStarts_cons_of_not_isUpper hl, ih]
  | case5 inWord c u cs hword hcapital ih =>
    obtain ⟨t', ht'⟩ := exists_markWords_cons false u cs
    have hstart : startsWord c u cs =
        ((isLower c || c.satisfies isAsciiDigit) && isUpper u) := by
      cases hupper : isUpper u with
      | false => rw [startsWord, hupper, Bool.and_false, Bool.false_and]
      | true =>
        rw [hupper, Bool.and_true, Bool.not_eq_true] at hcapital
        rw [startsWord, hupper, hcapital, Bool.or_false, Bool.true_and, Bool.and_true]
    rw [markWords, if_neg hword, if_neg hcapital]
    rw [ht'] at ih ⊢
    rw [markCapitals, markStarts, ih, hstart]

example : markWords false "aBcDe" = "a_BcDe" ∧ markStarts "aBcDe" = "a_Bc_De" := by decide

theorem snakeCase_eq (t : Text) : snakeCase t = Text.lower (markStarts t) := by
  rw [snakeCase, markCapitals_markWords]

/-! ## Nothing but underscores is put in -/

theorem withoutUnderscores_cons_congr (c : CodePoint)
    (h : withoutUnderscores t = withoutUnderscores t') :
    withoutUnderscores (c :: t) = withoutUnderscores (c :: t') := by
  unfold withoutUnderscores at h ⊢
  rw [List.filter_cons, List.filter_cons, h]

/-- Marks are underscores, so they do not count where no underscore does. -/
theorem withoutUnderscores_markStarts (t : Text) :
    withoutUnderscores (markStarts t) = withoutUnderscores t := by
  induction t using markStarts.induct with
  | case1 => rfl
  | case2 c => rfl
  | case3 c u cs hstart ih =>
    rw [markStarts, if_pos hstart]
    exact withoutUnderscores_cons_congr c ih
  | case4 c u cs hstart ih =>
    rw [markStarts, if_neg hstart]
    exact withoutUnderscores_cons_congr c ih

/-- Marking keeps every code point, in order. -/
theorem sublist_markStarts (t : Text) : t.Sublist (markStarts t) := by
  induction t using markStarts.induct with
  | case1 => exact .slnil
  | case2 c => exact .refl _
  | case3 c u cs hstart ih =>
    rw [markStarts, if_pos hstart]
    exact (ih.cons _).cons_cons c
  | case4 c u cs hstart ih =>
    rw [markStarts, if_neg hstart]
    exact ih.cons_cons c

theorem eq_or_mem_of_mem_markStarts {p : CodePoint} (h : p ∈ markStarts t) :
    p = .char '_' ∨ p ∈ t := by
  by_cases hp : p = .char '_'
  · exact .inl hp
  · have hleft : p ∈ withoutUnderscores (markStarts t) :=
      List.mem_filter.mpr ⟨h, bne_iff_ne.mpr hp⟩
    rw [withoutUnderscores_markStarts] at hleft
    exact .inr (List.mem_filter.mp hleft).1

/-- Nothing is marked but capitals. -/
theorem markStarts_of_not_isUpper (h : ∀ p ∈ t, isUpper p = false) : markStarts t = t := by
  induction t using markStarts.induct with
  | case1 => rfl
  | case2 c => rfl
  | case3 c u cs hstart ih =>
    rw [startsWord, h u (by simp), Bool.false_and] at hstart
    cases hstart
  | case4 c u cs hstart ih =>
    rw [markStarts, if_neg hstart, ih fun p hp => h p (List.mem_cons_of_mem _ hp)]

/-! ## Lower case -/

theorem toLower_of_isNamePart {c : Char} (h : Query.isNamePart c = true) :
    Query.isNamePart c.toLower = true ∧ (c.toLower = '_' ↔ c = '_') ∧
      isAsciiDigit c.toLower = isAsciiDigit c := by
  refine Query.forall_isNamePart (P := fun c => Query.isNamePart c.toLower = true ∧
    (c.toLower = '_' ↔ c = '_') ∧ isAsciiDigit c.toLower = isAsciiDigit c) ?_ h
  decide +kernel

section Parts

variable (h : ∀ p ∈ t, p.satisfies Query.isNamePart = true)

include h

theorem lower_eq_map : Text.lower t = t.map CodePoint.toLower := by
  obtain ⟨cs, rfl, hcs⟩ := Text.exists_ofChars fun p hp => CodePoint.exists_of_satisfies (h p hp)
  rw [Text.lower_of_ascii fun c hc => Query.toNat_lt_of_isNamePart (hcs c hc), Text.ofChars,
    Text.ofChars, List.map_map, List.map_map]
  rfl

theorem isSnake_lower : IsSnake (Text.lower t) := by
  rw [lower_eq_map h]
  intro q hq
  obtain ⟨p, hp, rfl⟩ := List.mem_map.mp hq
  obtain ⟨c, rfl, hc⟩ := CodePoint.exists_of_satisfies (h p hp)
  exact ⟨c.toLower, rfl, (toLower_of_isNamePart hc).1,
    Text.toLower_toLower_of_ascii (Query.toNat_lt_of_isNamePart hc)⟩

/-- Lower-casing and dropping underscores can be done in either order. -/
theorem withoutUnderscores_lower :
    withoutUnderscores (Text.lower t) = (withoutUnderscores t).map CodePoint.toLower := by
  rw [lower_eq_map h, withoutUnderscores, withoutUnderscores, List.filter_map]
  refine congrArg (List.map _) (List.filter_congr fun p hp => ?_)
  obtain ⟨c, rfl, hc⟩ := CodePoint.exists_of_satisfies (h p hp)
  have hmark : CodePoint.char c.toLower = .char '_' ↔ CodePoint.char c = .char '_' := by
    rw [CodePoint.char.injEq, CodePoint.char.injEq, (toLower_of_isNamePart hc).2.1]
  change (CodePoint.char c.toLower != .char '_') = (CodePoint.char c != .char '_')
  rw [Bool.eq_iff_iff, bne_iff_ne, bne_iff_ne]
  exact not_congr hmark

theorem satisfies_of_mem_markStarts :
    ∀ p ∈ markStarts t, p.satisfies Query.isNamePart = true := by
  intro p hp
  rcases eq_or_mem_of_mem_markStarts hp with rfl | hp
  · rfl
  · exact h p hp

end Parts

/-! ## Names in snake case -/

section Names

variable (h : Query.IsName name)

include h

theorem isSnake_snakeCase : IsSnake (snakeCase name) := by
  rw [snakeCase_eq]
  exact isSnake_lower (satisfies_of_mem_markStarts h.satisfies_of_mem)

/-- Without underscores, the snake case of a name is its lower case. -/
theorem withoutUnderscores_snakeCase :
    withoutUnderscores (snakeCase name) = withoutUnderscores (Text.lower name) := by
  rw [snakeCase_eq, withoutUnderscores_lower (satisfies_of_mem_markStarts h.satisfies_of_mem),
    withoutUnderscores_markStarts, withoutUnderscores_lower h.satisfies_of_mem]

/-- The snake case of a name holds the characters of its lower case, in order. -/
theorem lower_sublist_snakeCase : (Text.lower name).Sublist (snakeCase name) := by
  rw [snakeCase_eq, lower_eq_map h.satisfies_of_mem,
    lower_eq_map (satisfies_of_mem_markStarts h.satisfies_of_mem)]
  exact (sublist_markStarts name).map _

end Names

theorem isUpper_of_toLower {c : Char} (hpart : Query.isNamePart c = true) (hlower : c.toLower = c) :
    isUpper (.char c) = false := by
  refine Query.forall_isNamePart (P := fun c => c.toLower = c → isUpper (.char c) = false) ?_
    hpart hlower
  decide +kernel

namespace IsSnake

theorem isUpper_eq_false (h : IsSnake t) {p : CodePoint} (hp : p ∈ t) : isUpper p = false := by
  obtain ⟨c, rfl, hpart, hlower⟩ := h p hp
  exact isUpper_of_toLower hpart hlower

/-- Snake case is in lower case already. -/
theorem lower_eq (h : IsSnake t) : Text.lower t = t := by
  have hparts : ∀ p ∈ t, p.satisfies Query.isNamePart = true := by
    intro p hp
    obtain ⟨c, rfl, hpart, -⟩ := h p hp
    exact hpart
  rw [lower_eq_map hparts]
  refine (List.map_congr_left fun p hp => ?_).trans (List.map_id t)
  obtain ⟨c, rfl, -, hlower⟩ := h p hp
  exact congrArg CodePoint.char hlower

theorem snakeCase_eq (h : IsSnake t) : snakeCase t = t := by
  rw [Models.snakeCase_eq, markStarts_of_not_isUpper fun p hp => h.isUpper_eq_false hp, h.lower_eq]

theorem append (h : IsSnake t) (h' : IsSnake t') : IsSnake (t ++ t') := by
  intro p hp
  exact (List.mem_append.mp hp).elim (h p) (h' p)

end IsSnake

end Models

end GraphBind
