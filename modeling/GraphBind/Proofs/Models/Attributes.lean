import GraphBind.Proofs.Entries
import GraphBind.Proofs.Models.SnakeCase

/-!
# Attributes of fields

What becomes of the name of a field on its way to an attribute. Snake case keeps the letters and
digits of a name of the query language, so the first of them stays the first
(`initial?_snakeCase`). Dropping the underscores in front of it leaves an identifier unless it is a
digit (`isIdentifier_attributeName`): this is the one way in which an attribute of such a name
cannot be bound (`IsAttribute.isBindable_iff`).
-/

namespace GraphBind.Models

open Text (isAsciiDigit isIdentifier isKeyword isBindable)

/-- Whether nothing but underscores stands in front of a digit. -/
def HidesDigit (name : Text) : Prop :=
  ∃ before c after, name = before ++ .char c :: after ∧ (∀ p ∈ before, p = .char '_') ∧
    isAsciiDigit c = true

/-- The first code point that is no underscore. -/
def initial? (t : Text) : Option CodePoint := t.find? (· != .char '_')

/-- A name hides a digit iff that is the first code point which is no underscore. -/
theorem hidesDigit_iff {name : Text} :
    HidesDigit name ↔ (initial? name).any (·.satisfies isAsciiDigit) = true := by
  rw [Option.any_eq_true]
  unfold HidesDigit initial?
  constructor
  · rintro ⟨before, c, after, rfl, hbefore, hc⟩
    refine ⟨.char c, ?_, hc⟩
    rw [List.find?_eq_some_iff_append]
    refine ⟨?_, before, after, rfl, ?_⟩
    · rw [bne_iff_ne]
      rintro h
      cases h
      exact absurd hc (by decide)
    · intro p hp
      rw [hbefore p hp]
      rfl
  · rintro ⟨p, hinitial, hp⟩
    obtain ⟨c, rfl, hc⟩ := CodePoint.exists_of_satisfies hp
    obtain ⟨-, before, after, rfl, hbefore⟩ := List.find?_eq_some_iff_append.mp hinitial
    refine ⟨before, c, after, rfl, ?_, hc⟩
    intro q hq
    simpa using hbefore q hq

instance (name : Text) : Decidable (HidesDigit name) := decidable_of_iff' _ hidesDigit_iff

/-! ## Snake case -/

theorem initial?_eq_head?_withoutUnderscores (t : Text) :
    initial? t = (withoutUnderscores t).head? := List.head?_filter.symm

/-- The first letter or digit of a name is lower-cased, and else stays as it is. -/
theorem initial?_snakeCase {name : Text} (h : Query.IsName name) :
    initial? (snakeCase name) = (initial? name).map CodePoint.toLower := by
  rw [initial?_eq_head?_withoutUnderscores, initial?_eq_head?_withoutUnderscores,
    withoutUnderscores_snakeCase h, withoutUnderscores_lower h.satisfies_of_mem, List.head?_map]

/-- Snake case hides a digit iff the name does: it adds no underscore in front and changes no digit.
-/
theorem hidesDigit_snakeCase {name : Text} (h : Query.IsName name) :
    HidesDigit (snakeCase name) ↔ HidesDigit name := by
  rw [hidesDigit_iff, hidesDigit_iff, initial?_snakeCase h]
  cases hinitial : initial? name with
  | none => rfl
  | some p =>
    obtain ⟨c, rfl, hc⟩ :=
      CodePoint.exists_of_satisfies (h.satisfies_of_mem p (List.mem_of_find?_eq_some hinitial))
    change isAsciiDigit c.toLower = true ↔ isAsciiDigit c = true
    rw [(toLower_of_isNamePart hc).2.2]

/-! ## One attribute -/

theorem initial?_eq_head? (t : Text) : initial? t = (t.dropWhile (· == .char '_')).head? := by
  have hnot : (fun p : CodePoint => !(p != .char '_')) = (· == .char '_') :=
    funext fun p => Bool.not_not _
  rw [initial?, List.find?_eq_head?_dropWhile_not, hnot]

theorem safeIdentifier_eq (t : Text) :
    safeIdentifier t = t ∨ safeIdentifier t = t ++ Text.ofString "_" := by
  unfold safeIdentifier
  split
  · exact .inr rfl
  · exact .inl rfl

theorem safeIdentifier_ne_nil {t : Text} (h : t ≠ []) : safeIdentifier t ≠ [] := by
  rcases safeIdentifier_eq t with heq | heq
  · rwa [heq]
  · rw [heq]
    exact List.append_ne_nil_of_left_ne_nil h _

theorem isIdentifier_safeIdentifier {t : Text} (h : t ≠ []) :
    isIdentifier (safeIdentifier t) = isIdentifier t := by
  rcases safeIdentifier_eq t with heq | heq
  · rw [heq]
  · rw [heq]
    exact Text.isIdentifier_append h (by decide)

theorem isKeyword_safeIdentifier (t : Text) : isKeyword (safeIdentifier t) = false := by
  unfold safeIdentifier
  split
  · exact Text.isKeyword_of_underscore (List.mem_append_right _ List.mem_cons_self)
  · next h => exact Bool.eq_false_iff.mpr h

theorem isBindable_safeIdentifier {name : Text} (h : Query.IsName name) :
    isBindable (safeIdentifier name) = true := by
  rw [Text.isBindable_of_not_isKeyword (isKeyword_safeIdentifier name),
    isIdentifier_safeIdentifier h.ne_nil]
  exact Text.isIdentifier_of_isName h

theorem attributeName_ne_nil (name : Text) : attributeName name ≠ [] := by
  unfold attributeName
  split
  · exact safeIdentifier_ne_nil (List.cons_ne_nil _ _)
  · next hcs => exact safeIdentifier_ne_nil hcs

theorem isKeyword_attributeName (name : Text) : isKeyword (attributeName name) = false := by
  unfold attributeName
  split
  · exact isKeyword_safeIdentifier _
  · exact isKeyword_safeIdentifier _

/-- The attribute of a name is an identifier unless the underscores that are dropped hide a digit.
-/
theorem isIdentifier_attributeName {name : Text} (h : Query.IsName name) :
    isIdentifier (attributeName name) = true ↔ ¬HidesDigit name := by
  rw [← hidesDigit_snakeCase h, hidesDigit_iff, initial?_eq_head?]
  unfold attributeName
  cases hrest : (snakeCase name).dropWhile (· == .char '_') with
  | nil =>
    have hfield : isIdentifier (safeIdentifier "field_") = true := by decide
    simp [hfield]
  | cons p rest =>
    have hmem : ∀ q ∈ p :: rest, ∃ c, q = .char c ∧ Query.isNamePart c = true := by
      intro q hq
      rw [← hrest] at hq
      obtain ⟨c, rfl, hc, -⟩ := isSnake_snakeCase h q ((List.dropWhile_sublist _).subset hq)
      exact ⟨c, rfl, hc⟩
    obtain ⟨⟨c, rfl, hc⟩, hbehind⟩ := List.forall_mem_cons.mp hmem
    have hpart : rest.all (·.satisfies Text.isIdentifierPart) = true := by
      rw [List.all_eq_true]
      intro q hq
      obtain ⟨d, rfl, hd⟩ := hbehind q hq
      exact Query.isIdentifierPart_of_isNamePart hd
    have hwhole : isIdentifier (.char c :: rest) = Text.isIdentifierStart c := by
      rw [isIdentifier, hpart, Bool.and_true]
      rfl
    dsimp only
    rw [isIdentifier_safeIdentifier (List.cons_ne_nil _ _), hwhole,
      Query.isIdentifierStart_iff hc]
    rfl

/-! ## Attributes side by side -/

/-- That a text is the attribute of a name, on its own or with a number behind it. -/
def IsAttribute (name attr : Text) : Prop :=
  attr = attributeName name ∨ ∃ n, attr = numbered (attributeName name) n

theorem toList_number (n : Nat) : (s!"_{n}").toList = '_' :: Nat.toDigits 10 n := by
  simp [String.toList_append]
  rfl

/-- The mark that tells an attribute apart is in snake case itself. -/
theorem isSnake_number (n : Nat) : IsSnake (Text.ofString s!"_{n}") := by
  intro p hp
  obtain ⟨c, hc, rfl⟩ := List.mem_map.mp hp
  rw [toList_number] at hc
  rcases List.mem_cons.mp hc with rfl | hc
  · exact ⟨'_', rfl, rfl, rfl⟩
  · have hdigit := Nat.isDigit_of_mem_toDigits (by decide) (by decide) hc
    have hascii : isAsciiDigit c = true := by
      simpa [Char.isDigit, isAsciiDigit, Char.le_def] using hdigit
    have hpart : Query.isNamePart c = true := by rw [Query.isNamePart, hascii, Bool.or_true]
    refine ⟨c, rfl, hpart, ?_⟩
    refine Query.forall_isNamePart (P := fun c => isAsciiDigit c = true → c.toLower = c) ?_
      hpart hascii
    decide +kernel

theorem isIdentifierPart_of_mem_number {n : Nat} {p : CodePoint}
    (h : p ∈ Text.ofString s!"_{n}") : p.satisfies Text.isIdentifierPart = true := by
  obtain ⟨c, rfl, hpart, -⟩ := isSnake_number n p h
  exact Query.isIdentifierPart_of_isNamePart hpart

namespace IsAttribute

variable {name attr : Text}

theorem isIdentifier_eq (h : IsAttribute name attr) :
    isIdentifier attr = isIdentifier (attributeName name) := by
  rcases h with rfl | ⟨n, rfl⟩
  · rfl
  · exact Text.isIdentifier_append (attributeName_ne_nil name)
      fun p hp => isIdentifierPart_of_mem_number hp

theorem isKeyword_eq_false (h : IsAttribute name attr) : isKeyword attr = false := by
  rcases h with rfl | ⟨n, rfl⟩
  · exact isKeyword_attributeName name
  · refine Text.isKeyword_of_underscore (List.mem_append_right _ ?_)
    refine Text.mem_ofChars.mpr ?_
    rw [toList_number]
    exact List.mem_cons_self

theorem isBindable_eq (h : IsAttribute name attr) : isBindable attr = isIdentifier attr :=
  Text.isBindable_of_not_isKeyword h.isKeyword_eq_false

/-- The attribute of a name can be bound unless the name hides a digit. -/
theorem isBindable_iff (h : IsAttribute name attr) (hname : Query.IsName name) :
    isBindable attr = true ↔ ¬HidesDigit name := by
  rw [h.isBindable_eq, h.isIdentifier_eq, isIdentifier_attributeName hname]

end IsAttribute

/-- The first free form of a name is the name, or the name with a number. -/
theorem firstFree_eq (taken : List Text) (base : Text) :
    firstFree taken base = base ∨ ∃ n, firstFree taken base = numbered base n := by
  unfold firstFree
  split
  · cases hfree : ((List.range' 2 (taken.length + 1)).map (numbered base)).find?
      (!taken.contains ·) with
    | none => exact .inl rfl
    | some attr =>
      obtain ⟨n, -, rfl⟩ := List.mem_map.mp (List.mem_of_find?_eq_some hfree)
      exact .inr ⟨n, rfl⟩
  · exact .inl rfl

theorem isAttribute_of_mem_assign {taken names : List Text} {p : Text × Text}
    (h : p ∈ assign taken names) : IsAttribute p.1 p.2 := by
  induction names generalizing taken with
  | nil => cases h
  | cons name names ih =>
    rcases List.mem_cons.mp h with rfl | h
    · exact firstFree_eq taken (attributeName name)
    · exact ih h

theorem keys_assign (taken names : List Text) : Entries.keys (assign taken names) = names := by
  induction names generalizing taken with
  | nil => rfl
  | cons name names ih =>
    change name :: Entries.keys (assign _ names) = name :: names
    rw [ih]

theorem isAttribute_of_mem {fields : List Text} {p : Text × Text} (h : p ∈ attributeNames fields) :
    IsAttribute p.1 p.2 ∧ p.1 ∈ fields := by
  rcases Entries.mem_putAll h with h | h
  · cases h
  · refine ⟨isAttribute_of_mem_assign h, ?_⟩
    rw [← keys_assign [reservedAttribute] fields]
    exact List.mem_map_of_mem h

theorem exists_attribute {fields : List Text} {name : Text} (h : name ∈ fields) :
    ∃ attr, Entries.get? name (attributeNames fields) = some attr := by
  have hkey : name ∈ Entries.keys (assign [reservedAttribute] fields) := by
    rw [keys_assign]
    exact h
  rw [attributeNames, Entries.get?_ofList]
  refine Entries.exists_get? ?_
  rw [Entries.keys, List.map_reverse, List.mem_reverse]
  exact hkey

end GraphBind.Models
