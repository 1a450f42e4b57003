import GraphBind.Proofs.Models.Numbering

/-!
# Names with one attribute

An attribute consists of lower-case letters, digits and underscores, does not begin with an
underscore and is no keyword, so it is its own attribute, and a numbered one is too
(`IsAttribute.attributeName_eq`). Its letters and digits are those of the name, in lower case,
unless the name has none (`withoutUnderscores_attributeName`): what is dropped in front of an
attribute and what is put behind a keyword are underscores. So names with one attribute are the same
up to letter case and underscores. Only a name that consists of underscores shares its attribute
with names that have letters, and these are "field" up to letter case and underscores.

`letters_kept` states this together with the laws of snake case that it follows from.
-/

namespace GraphBind.Models

open Text (isKeyword)

variable {t name other attr : Text}

/-! ## Attributes of attributes -/

theorem isSnake_safeIdentifier (h : IsSnake t) : IsSnake (safeIdentifier t) := by
  rcases safeIdentifier_eq t with heq | heq
  · rwa [heq]
  · rw [heq]
    exact h.append (by decide)

theorem isSnake_attributeName (h : Query.IsName name) : IsSnake (attributeName name) := by
  unfold attributeName
  split
  · exact isSnake_safeIdentifier (by decide)
  · refine isSnake_safeIdentifier fun p hp => ?_
    exact isSnake_snakeCase h p ((List.dropWhile_sublist _).subset hp)

/-- A text of lower-case letters, digits and underscores, the first of which is no underscore, is
its own attribute unless it is a keyword. -/
theorem IsSnake.attributeName_eq (h : IsSnake t) (hne : t ≠ []) (hhead : t.head? ≠ some (.char '_'))
    (hkeyword : isKeyword t = false) : attributeName t = t := by
  obtain ⟨p, ps, rfl⟩ := List.exists_cons_of_ne_nil hne
  have hp : ¬ (p == CodePoint.char '_') = true := fun heq =>
    hhead (congrArg some (beq_iff_eq.mp heq))
  unfold attributeName
  rw [h.snakeCase_eq, List.dropWhile_cons, if_neg hp]
  simp [safeIdentifier, hkeyword]

/-- The attribute of a name of the query language is its own attribute. -/
theorem IsAttribute.attributeName_eq (h : IsAttribute name attr) (hname : Query.IsName name) :
    attributeName attr = attr := by
  have hsnake : IsSnake attr := by
    rcases h with rfl | ⟨n, rfl⟩
    · exact isSnake_attributeName hname
    · exact (isSnake_attributeName hname).append (isSnake_number n)
  refine hsnake.attributeName_eq h.ne_nil ?_ h.isKeyword_eq_false
  rw [h.head?_eq]
  exact head?_attributeName name

/-! ## Letters of attributes -/

/-- That two names are the same up to letter case and underscores. -/
def SameLetters (name other : Text) : Prop :=
  withoutUnderscores (Text.lower name) = withoutUnderscores (Text.lower other)

instance (name other : Text) : Decidable (SameLetters name other) :=
  inferInstanceAs (Decidable (_ = _))

theorem withoutUnderscores_eq_nil_iff : withoutUnderscores t = [] ↔ ∀ p ∈ t, p = .char '_' := by
  rw [withoutUnderscores, List.filter_eq_nil_iff]
  simp only [bne_iff_ne, ne_eq, Decidable.not_not]

/-- Dropping leading underscores does not count where no underscore does. -/
theorem withoutUnderscores_dropWhile (t : Text) :
    withoutUnderscores (t.dropWhile (· == .char '_')) = withoutUnderscores t := by
  induction t with
  | nil => rfl
  | cons c t ih =>
    rw [List.dropWhile_cons]
    split
    · next hc =>
      rw [ih, beq_iff_eq.mp hc]
      rfl
    · rfl

theorem withoutUnderscores_safeIdentifier (t : Text) :
    withoutUnderscores (safeIdentifier t) = withoutUnderscores t := by
  have hmark : withoutUnderscores (Text.ofString "_") = [] := by decide
  rcases safeIdentifier_eq t with heq | heq
  · rw [heq]
  · rw [heq, withoutUnderscores, List.filter_append]
    exact (congrArg (withoutUnderscores t ++ ·) hmark).trans (List.append_nil _)

/-- Dropping the underscores in front leaves nothing of a name that consists of underscores, and
something of every other name. -/
theorem dropWhile_snakeCase_eq_nil_iff (h : Query.IsName name) :
    (snakeCase name).dropWhile (· == .char '_') = [] ↔ ∀ p ∈ name, p = .char '_' := by
  have hsnake : (snakeCase name).dropWhile (· == .char '_') = [] ↔
      withoutUnderscores (snakeCase name) = [] := by
    rw [withoutUnderscores_eq_nil_iff, List.dropWhile_eq_nil_iff]
    simp only [beq_iff_eq]
  rw [hsnake, withoutUnderscores_snakeCase h, withoutUnderscores_lower h.satisfies_of_mem,
    List.map_eq_nil_iff, withoutUnderscores_eq_nil_iff]

/-- Up to underscores an attribute is its name in lower case, unless the name holds nothing else. -/
theorem withoutUnderscores_attributeName (h : Query.IsName name) :
    withoutUnderscores (attributeName name) =
      if ∀ p ∈ name, p = .char '_' then Text.ofString "field"
      else withoutUnderscores (Text.lower name) := by
  unfold attributeName
  cases hrest : (snakeCase name).dropWhile (· == .char '_') with
  | nil =>
    rw [if_pos ((dropWhile_snakeCase_eq_nil_iff h).mp hrest)]
    decide
  | cons p rest =>
    have hletters : ¬∀ p ∈ name, p = .char '_' := by
      rw [← dropWhile_snakeCase_eq_nil_iff h, hrest]
      exact List.cons_ne_nil p rest
    rw [if_neg hletters, withoutUnderscores_safeIdentifier, ← hrest, withoutUnderscores_dropWhile,
      withoutUnderscores_snakeCase h]

/-- Names with one attribute are the same up to letter case and underscores, also if one of them is
a keyword, unless one of them consists of underscores. -/
theorem sameLetters_of_attributeName_eq (h : Query.IsName name) (h' : Query.IsName other)
    (heq : attributeName name = attributeName other) : SameLetters name other ∨
      ((∀ p ∈ name, p = .char '_') ∧ SameLetters other "field") ∨
      ((∀ p ∈ other, p = .char '_') ∧ SameLetters name "field") := by
  have hfield : withoutUnderscores (Text.lower "field") = "field" := by decide +kernel
  have hletters := congrArg withoutUnderscores heq
  rw [withoutUnderscores_attributeName h, withoutUnderscores_attributeName h'] at hletters
  by_cases hname : ∀ p ∈ name, p = .char '_'
  · by_cases hother : ∀ p ∈ other, p = .char '_'
    · left
      unfold SameLetters
      rw [withoutUnderscores_lower h.satisfies_of_mem, withoutUnderscores_lower h'.satisfies_of_mem,
        withoutUnderscores_eq_nil_iff.mpr hname, withoutUnderscores_eq_nil_iff.mpr hother]
    · rw [if_pos hname, if_neg hother] at hletters
      exact .inr (.inl ⟨hname, hletters.symm.trans hfield.symm⟩)
  · by_cases hother : ∀ p ∈ other, p = .char '_'
    · rw [if_neg hname, if_pos hother] at hletters
      exact .inr (.inr ⟨hother, hletters.trans hfield.symm⟩)
    · rw [if_neg hname, if_neg hother] at hletters
      exact .inl hletters

/-! ## Letters are kept -/

/-- **Letters are kept.** Snake case puts an underscore before every capital of a name that begins a
word, and lower-cases the letters. So it gives lower-case letters, digits and underscores, of which
the lower-case name without its underscores is left when all underscores are taken out, and the
lower-case name itself when some are; and a name in snake case stays as it is, like an attribute.
Two names get one attribute only if they are the same up to letter case and underscores, or if one
of them consists of underscores and the other is "field" up to these. -/
theorem letters_kept (h : Query.IsName name) :
    snakeCase name = Text.lower (markStarts name) ∧
    IsSnake (snakeCase name) ∧
    withoutUnderscores (snakeCase name) = withoutUnderscores (Text.lower name) ∧
    (Text.lower name).Sublist (snakeCase name) ∧
    snakeCase (snakeCase name) = snakeCase name ∧
    attributeName (attributeName name) = attributeName name ∧
    ∀ {other}, Query.IsName other → attributeName name = attributeName other →
      SameLetters name other ∨
        ((∀ p ∈ name, p = .char '_') ∧ SameLetters other "field") ∨
        ((∀ p ∈ other, p = .char '_') ∧ SameLetters name "field") := by
  have hattribute : IsAttribute name (attributeName name) := .inl rfl
  exact ⟨snakeCase_eq name, isSnake_snakeCase h, withoutUnderscores_snakeCase h,
    lower_sublist_snakeCase h, (isSnake_snakeCase h).snakeCase_eq, hattribute.attributeName_eq h,
    fun h' heq => sameLetters_of_attributeName_eq h h' heq⟩

/-- A name with words that begin behind small letters, behind capitals and behind digits, a name
that has its attribute, and a name without letters. -/
theorem letters_kept_getHTTPResponse :
    Query.IsName "__getHTTPResponse2Code" ∧ Query.IsName "getHttp_response2Code" ∧
      Query.IsName "__" ∧ Query.IsName "Field_" ∧
      snakeCase "__getHTTPResponse2Code" = "__get_http_response2_code" ∧
      snakeCase "__get_http_response2_code" = "__get_http_response2_code" ∧
      attributeName "get_http_response2_code" = "get_http_response2_code" ∧
      SameLetters "__getHTTPResponse2Code" "getHttp_response2Code" ∧
      attributeName "__" = attributeName "Field_" ∧ ¬SameLetters "__" "Field_" ∧
      SameLetters "Field_" "field" := by
  have hname : Query.IsName "__getHTTPResponse2Code" := by decide
  have hother : Query.IsName "getHttp_response2Code" := by decide
  have hmarks : Query.IsName "__" := by decide
  have hfield : Query.IsName "Field_" := by decide
  have hsame : attributeName "__getHTTPResponse2Code" = attributeName "getHttp_response2Code" := by
    decide +kernel
  have hsame' : attributeName "__" = attributeName "Field_" := by decide +kernel
  have hapart : ¬SameLetters "__" "Field_" := by decide +kernel
  obtain ⟨hsnake, -, -, -, hagain, hattribute, hshared⟩ := letters_kept hname
  obtain ⟨-, -, -, -, -, -, hshared'⟩ := letters_kept hmarks
  have hmarked : Text.lower (markStarts "__getHTTPResponse2Code") =
      "__get_http_response2_code" := by decide +kernel
  have hbase : attributeName "__getHTTPResponse2Code" = "get_http_response2_code" := by
    decide +kernel
  rw [hmarked] at hsnake
  rw [hsnake] at hagain
  rw [hbase] at hattribute
  refine ⟨hname, hother, hmarks, hfield, hsnake, hagain, hattribute, ?_, hsame', hapart, ?_⟩
  · rcases hshared hother hsame with hletters | ⟨hnone, -⟩ | ⟨hnone, -⟩
    · exact hletters
    · exact absurd hnone (by decide)
    · exact absurd hnone (by decide)
  · rcases hshared' hfield hsame' with hletters | ⟨-, hletters⟩ | ⟨hnone, -⟩
    · exact absurd hletters hapart
    · exact hletters
    · exact absurd hnone (by decide)

end GraphBind.Models
