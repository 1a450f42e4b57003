import GraphBind.Query.Lexing
import GraphBind.Text.Casing
import GraphBind.Text.Encoding
import Mathlib.Data.List.TakeWhile

/-!
# ASCII texts, names and identifiers

What holds of ASCII characters can be checked one by one (`forall_ascii`). A text of them is
lower-cased character by character (`lower_of_ascii`), and can be encoded as such
(`find?_ascii_eq_none_iff`).

The names of the query language are identifiers of generated modules (`isIdentifier_of_isName`). A
nonempty text stays the identifier that it is, or is not, when parts of identifiers are put behind
it (`isIdentifier_append`), and it is no keyword if it holds an underscore, since none of these does
(`isKeyword_of_underscore`).
-/

/-! ## ASCII texts -/

namespace GraphBind.Text

theorem forall_ascii {P : Char → Prop} (h : ∀ n < 128, P (Char.ofNat n)) {c : Char}
    (hc : c.toNat < 128) : P c := by
  have hn := h c.toNat hc
  rwa [Char.ofNat_toNat] at hn

theorem mem_ofChars {c : Char} {cs : List Char} : CodePoint.char c ∈ ofChars cs ↔ c ∈ cs := by
  unfold ofChars
  constructor
  · intro h
    obtain ⟨d, hd, heq⟩ := List.mem_map.mp h
    cases heq
    exact hd
  · exact fun h => List.mem_map.mpr ⟨c, h, rfl⟩

/-! ## Lower case -/

/-- An ASCII character has one lower case, whatever stands around it. -/
theorem lowerPoint_of_ascii (before behind : Text) {c : Char} (hc : c.toNat < 128) :
    lowerPoint before (.char c) behind = [.char c.toLower] := by
  have hchar : lowerChar c = [c.toLower] := by
    refine forall_ascii (P := fun c => lowerChar c = [c.toLower]) ?_ hc
    decide +kernel
  unfold lowerPoint
  split
  · next hp => cases hp
  · next hp =>
    cases hp
    exact absurd hc (by decide)
  · next hp =>
    cases hp
    rw [hchar]
    rfl

/-- ASCII characters are lower-cased one by one, whatever stands in front of them. -/
theorem lowerAfter_of_ascii (before : Text) {cs : List Char} (h : ∀ c ∈ cs, c.toNat < 128) :
    lowerAfter before (ofChars cs) = ofChars (cs.map Char.toLower) := by
  induction cs generalizing before with
  | nil => rfl
  | cons c cs ih =>
    have hrest := ih (.char c :: before) fun d hd => h d (List.mem_cons_of_mem _ hd)
    change lowerPoint before (.char c) (ofChars cs) ++ lowerAfter _ (ofChars cs) = _
    rw [lowerPoint_of_ascii _ _ (h c List.mem_cons_self), hrest]
    rfl

theorem lower_of_ascii {cs : List Char} (h : ∀ c ∈ cs, c.toNat < 128) :
    lower (ofChars cs) = ofChars (cs.map Char.toLower) := lowerAfter_of_ascii [] h

theorem toLower_toLower_of_ascii {c : Char} (hc : c.toNat < 128) :
    c.toLower.toLower = c.toLower := by
  refine forall_ascii (P := fun c => c.toLower.toLower = c.toLower) ?_ hc
  decide +kernel

/-! ## Encoding -/

/-- A text can be encoded if the encoding has all its code points. -/
theorem find?_eq_none_iff {charset : Charset} {t : Text} :
    Unencodable.find? charset t = none ↔ ∀ p ∈ t, charset.has p = true := by
  rw [← List.dropWhile_eq_nil_iff]
  unfold Unencodable.find?
  split
  · next hnil => simp [hnil]
  · next hcons =>
    constructor
    · intro h
      cases h
    · intro h
      exact absurd h hcons

/-- A text can be encoded in ASCII iff it holds no other characters. -/
theorem find?_ascii_eq_none_iff {s : String} :
    Unencodable.find? .ascii s = none ↔ ∀ c ∈ s.toList, c.toNat < 128 := by
  rw [find?_eq_none_iff]
  constructor
  · intro h c hc
    exact of_decide_eq_true (h _ (mem_ofChars.mpr hc))
  · intro h p hp
    obtain ⟨c, hc, rfl⟩ := List.mem_map.mp hp
    exact decide_eq_true (h c hc)

end GraphBind.Text

/-! ## Names and identifiers -/

namespace GraphBind

open Text (isAsciiDigit isAsciiLetter)

/-- That a text is a name of the query language. -/
def Query.IsName : Text → Prop
  | [] => False
  | p :: ps => p.satisfies isNameStart = true ∧ ∀ q ∈ ps, q.satisfies isNamePart = true

instance (t : Text) : Decidable (Query.IsName t) :=
  match t with
  | [] => inferInstanceAs (Decidable False)
  | p :: ps => inferInstanceAs (Decidable
    (p.satisfies Query.isNameStart = true ∧ ∀ q ∈ ps, q.satisfies Query.isNamePart = true))

theorem CodePoint.exists_of_satisfies {P : Char → Bool} {p : CodePoint}
    (h : p.satisfies P = true) : ∃ c, p = .char c ∧ P c = true := by
  cases p with
  | char c => exact ⟨c, rfl, h⟩
  | surrogate n => cases h

theorem Text.exists_ofChars {t : Text} {P : Char → Prop} (h : ∀ p ∈ t, ∃ c, p = .char c ∧ P c) :
    ∃ cs, t = Text.ofChars cs ∧ ∀ c ∈ cs, P c := by
  induction t with
  | nil => exact ⟨[], rfl, fun c hc => absurd hc List.not_mem_nil⟩
  | cons p t ih =>
    obtain ⟨⟨c, rfl, hc⟩, ht⟩ := List.forall_mem_cons.mp h
    obtain ⟨cs, rfl, hcs⟩ := ih ht
    exact ⟨c :: cs, rfl, List.forall_mem_cons.mpr ⟨hc, hcs⟩⟩

namespace Query

variable {t : Text} {c : Char}

/-- The characters of names are ASCII. -/
theorem toNat_lt_of_isNamePart (h : isNamePart c = true) : c.toNat < 128 := by
  have hle : ∀ {a b : Char}, a ≤ b → a.toNat ≤ b.toNat := fun h => UInt32.le_iff_toNat_le.mp h
  simp only [isNamePart, isNameStart, isAsciiLetter, isAsciiDigit, Bool.or_eq_true,
    Bool.and_eq_true, decide_eq_true_eq, beq_iff_eq] at h
  rcases h with ((⟨-, h⟩ | ⟨-, h⟩) | rfl) | ⟨-, h⟩
  · exact Nat.lt_of_le_of_lt (hle h) (by decide)
  · exact Nat.lt_of_le_of_lt (hle h) (by decide)
  · decide
  · exact Nat.lt_of_le_of_lt (hle h) (by decide)

theorem isNamePart_of_isNameStart (h : isNameStart c = true) : isNamePart c = true := by
  rw [isNamePart, h, Bool.true_or]

/-- What holds of the parts of names can be checked one by one. -/
theorem forall_isNamePart {P : Char → Prop}
    (h : ∀ n < 128, isNamePart (Char.ofNat n) = true → P (Char.ofNat n))
    (hc : isNamePart c = true) : P c :=
  Text.forall_ascii (P := fun c => isNamePart c = true → P c) h (toNat_lt_of_isNamePart hc) hc

theorem isIdentifierPart_of_isNamePart (h : isNamePart c = true) :
    Text.isIdentifierPart c = true := by
  refine forall_isNamePart (P := fun c => Text.isIdentifierPart c = true) ?_ h
  decide +kernel

/-- A part of a name may open an identifier unless it is a digit. -/
theorem isIdentifierStart_iff (h : isNamePart c = true) :
    Text.isIdentifierStart c = true ↔ ¬isAsciiDigit c = true := by
  refine forall_isNamePart
    (P := fun c => Text.isIdentifierStart c = true ↔ ¬isAsciiDigit c = true) ?_ h
  decide +kernel

theorem not_isAsciiDigit_of_isNameStart (h : isNameStart c = true) : ¬isAsciiDigit c = true := by
  refine forall_isNamePart (P := fun c => isNameStart c = true → ¬isAsciiDigit c = true) ?_
    (isNamePart_of_isNameStart h) h
  decide +kernel

/-- The characters of a name. -/
theorem IsName.exists_chars (h : IsName t) : ∃ c cs, t = Text.ofChars (c :: cs) ∧
    isNameStart c = true ∧ ∀ d ∈ c :: cs, isNamePart d = true := by
  cases t with
  | nil => exact h.elim
  | cons p ps =>
    obtain ⟨c, rfl, hc⟩ := CodePoint.exists_of_satisfies h.1
    obtain ⟨cs, rfl, hcs⟩ :=
      Text.exists_ofChars fun q hq => CodePoint.exists_of_satisfies (h.2 q hq)
    exact ⟨c, cs, rfl, hc, List.forall_mem_cons.mpr ⟨isNamePart_of_isNameStart hc, hcs⟩⟩

theorem IsName.ne_nil (h : IsName t) : t ≠ [] := by
  rintro rfl
  exact h

theorem IsName.satisfies_of_mem (h : IsName t) : ∀ p ∈ t, p.satisfies isNamePart = true := by
  obtain ⟨c, cs, rfl, -, hparts⟩ := h.exists_chars
  intro p hp
  obtain ⟨d, hd, rfl⟩ := List.mem_map.mp hp
  exact hparts d hd

end Query

namespace Text

variable {t u : Text}

/-- A name of the query language is an identifier, since it has no other characters than those. -/
theorem isIdentifier_of_isName (h : Query.IsName t) : isIdentifier t = true := by
  obtain ⟨c, cs, rfl, hc, hparts⟩ := h.exists_chars
  obtain ⟨hfirst, hbehind⟩ := List.forall_mem_cons.mp hparts
  have hstart : isIdentifierStart c = true :=
    (Query.isIdentifierStart_iff hfirst).mpr (Query.not_isAsciiDigit_of_isNameStart hc)
  have hrest : (ofChars cs).all (·.satisfies isIdentifierPart) = true := by
    rw [List.all_eq_true]
    intro p hp
    obtain ⟨d, hd, rfl⟩ := List.mem_map.mp hp
    exact Query.isIdentifierPart_of_isNamePart (hbehind d hd)
  change (isIdentifierStart c && (ofChars cs).all (·.satisfies isIdentifierPart)) = true
  rw [hstart, hrest]
  rfl

/-- Parts of identifiers behind a text change nothing. -/
theorem isIdentifier_append (ht : t ≠ []) (hu : ∀ p ∈ u, p.satisfies isIdentifierPart = true) :
    isIdentifier (t ++ u) = isIdentifier t := by
  cases t with
  | nil => exact absurd rfl ht
  | cons c cs =>
    have hparts : u.all (·.satisfies isIdentifierPart) = true := List.all_eq_true.mpr hu
    rw [List.cons_append, isIdentifier, isIdentifier, List.all_append, hparts, Bool.and_true]

/-- Keywords hold no underscores. -/
theorem isKeyword_of_underscore (h : CodePoint.char '_' ∈ t) : isKeyword t = false := by
  have hall : ∀ word ∈ keywords, '_' ∉ word.toList := by decide
  rw [isKeyword, List.any_eq_false]
  intro word hword heq
  rw [beq_iff_eq.mp heq] at h
  exact hall word hword (mem_ofChars.mp h)

theorem isBindable_iff : isBindable t = true ↔ isIdentifier t = true ∧ isKeyword t = false := by
  simp [isBindable]

theorem isBindable_of_not_isKeyword (h : isKeyword t = false) : isBindable t = isIdentifier t := by
  rw [isBindable, h]
  exact Bool.and_true _

end Text

end GraphBind
