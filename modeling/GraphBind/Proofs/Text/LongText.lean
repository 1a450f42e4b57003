import GraphBind.Proofs.Json.LineEnds
import GraphBind.Proofs.Text.LongLiteral

/-!
# Long literals of code points

A text may hold surrogates, which are no characters. `Holds` reads the inside of a literal between
three double quotes from code points, with the escapes of `LongLiteral.escape?`; a surrogate stands
for itself, and a null character can stand in no literal. What a literal is read as, and where it
ends, is settled by what it begins with (`Holds.unique`). Before that, every line end of the text is
read as one line feed, by `unifyEnds`.
-/

namespace GraphBind.Text

open Json (unifyEnds)

variable {t more : Text} {p : CodePoint}

/-! ## Line ends -/

theorem unifyEnds_pair (h : t.head? = some (.char '\n')) :
    unifyEnds (.char '\r' :: t) = unifyEnds t := by
  obtain ⟨after, rfl⟩ := List.head?_eq_some_iff.mp h
  rfl

theorem unifyEnds_alone (h : t.head? ≠ some (.char '\n')) :
    unifyEnds (.char '\r' :: t) = .char '\n' :: unifyEnds t :=
  Json.unifyEnds_return fun _ hafter => h (hafter ▸ rfl)

theorem unifyEnds_quotes (t : Text) :
    unifyEnds (ofChars LongLiteral.quotes ++ t) = ofChars LongLiteral.quotes ++ unifyEnds t := rfl

/-- The last code point of a text is the last one before, or a line feed for it. -/
theorem getLast?_unifyEnds (t : Text) : (unifyEnds t).getLast? =
    t.getLast?.map fun p => if p = .char '\r' then .char '\n' else p := by
  induction t with
  | nil => rfl
  | cons p t ih =>
    by_cases hp : p = .char '\r'
    · subst hp
      by_cases ht : t.head? = some (.char '\n')
      · obtain ⟨after, hafter⟩ := List.head?_eq_some_iff.mp ht
        rw [unifyEnds_pair ht, ih, hafter, List.getLast?_cons_cons]
      · rw [unifyEnds_alone ht, List.getLast?_cons, List.getLast?_cons, ih]
        cases t.getLast? with
        | none => rfl
        | some q => rfl
    · rw [Json.unifyEnds_cons hp, List.getLast?_cons, List.getLast?_cons, ih]
      cases t.getLast? with
      | none => exact congrArg some (if_neg hp).symm
      | some q => rfl

/-- Texts are read apart, unless a line end goes from one to the other. -/
theorem unifyEnds_append (hmore : more.head? ≠ some (.char '\n')) :
    unifyEnds (t ++ more) = unifyEnds t ++ unifyEnds more := by
  induction t with
  | nil => rfl
  | cons p t ih =>
    rw [List.cons_append]
    by_cases hp : p = .char '\r'
    · subst hp
      have hhead : (t ++ more).head? = some (.char '\n') ↔ t.head? = some (.char '\n') := by
        cases t with
        | nil => simp [hmore]
        | cons q t => rfl
      by_cases ht : t.head? = some (.char '\n')
      · rw [unifyEnds_pair (hhead.mpr ht), unifyEnds_pair ht, ih]
      · rw [unifyEnds_alone fun h => ht (hhead.mp h), unifyEnds_alone ht, ih,
          List.cons_append]
    · rw [Json.unifyEnds_cons hp, Json.unifyEnds_cons hp, ih, List.cons_append]

/-- What is no line feed has been there before. -/
theorem eq_cons_of_unifyEnds {t' : Text} (hp : p ≠ .char '\n') (h : unifyEnds t = p :: t') :
    ∃ after, t = p :: after ∧ unifyEnds after = t' := by
  cases t with
  | nil => cases h
  | cons q t =>
    by_cases hq : q = .char '\r'
    · subst hq
      by_cases ht : t.head? = some (.char '\n')
      · obtain ⟨after, rfl⟩ := List.head?_eq_some_iff.mp ht
        rw [unifyEnds_pair rfl, Json.unifyEnds_cons (by decide)] at h
        exact absurd (List.cons.inj h).1.symm hp
      · rw [unifyEnds_alone ht] at h
        exact absurd (List.cons.inj h).1.symm hp
    · rw [Json.unifyEnds_cons hq] at h
      obtain ⟨rfl, rfl⟩ := List.cons.inj h
      exact ⟨t, rfl, rfl⟩

/-- Unifying line ends adds nothing but line feeds. -/
theorem mem_unifyEnds (hp : p ∈ unifyEnds t) : p = .char '\n' ∨ p ∈ t := by
  induction t with
  | nil => cases hp
  | cons q t ih =>
    have htail : p ∈ unifyEnds t → p = .char '\n' ∨ p ∈ q :: t :=
      fun h => (ih h).imp_right (List.mem_cons_of_mem q)
    by_cases hq : q = .char '\r'
    · subst hq
      by_cases ht : t.head? = some (.char '\n')
      · exact htail (unifyEnds_pair ht ▸ hp)
      · rw [unifyEnds_alone ht] at hp
        exact (List.mem_cons.mp hp).elim .inl htail
    · rw [Json.unifyEnds_cons hq] at hp
      exact (List.mem_cons.mp hp).elim (fun heq => .inr (heq ▸ List.mem_cons_self)) htail

namespace LongLiteral

/-! ## Literals -/

/-- The characters that a text begins with. -/
def leading : Text → List Char
  | .char c :: t => c :: leading t
  | _ => []

variable (named : List Char → Option Char)

/-- That a text is the inside of a literal with a value, the three quotes that end it, and what
follows. -/
inductive Holds : Text → Text → Text → Prop where
  | close (rest : Text) : Holds (.char '"' :: .char '"' :: .char '"' :: rest) [] rest
  | escape {t value rest text : Text} {n : Nat}
    (hescape : escape? named (leading t) = some (text, n)) (h : Holds (t.drop n) value rest) :
    Holds (.char '\\' :: t) (text ++ value) rest
  | point {p : CodePoint} {t value rest : Text} (hquotes : ¬ ofChars quotes <+: p :: t)
    (hp : p ≠ .char '\\') (hnull : p ≠ .char '\x00') (h : Holds t value rest) :
    Holds (p :: t) (p :: value) rest

/-- That a text begins with one literal between three double quotes, with a value, and goes on with
what follows it. -/
def Opens (t value rest : Text) : Prop := ∃ inner, t = ofChars quotes ++ inner ∧
  Holds named inner value rest

variable {named} {value value' rest rest' : Text}

/-- A character that stands for itself behind a backslash. -/
theorem Holds.escaped {c : Char} (h : Holds named t value rest)
    (hc : Entries.get? c simpleEscapes = some [c]) :
    Holds named (.char '\\' :: .char c :: t) (.char c :: value) rest := by
  have hescape : escape? named (leading (.char c :: t)) = some (ofChars [c], 1) := by
    rw [leading, escape?, hc]
  exact .escape hescape h

/-- A literal is read in one way only. -/
theorem Holds.unique (h : Holds named t value rest) (h' : Holds named t value' rest') :
    value = value' ∧ rest = rest' := by
  induction h generalizing value' rest' with
  | close rest =>
    cases h' with
    | close => exact ⟨rfl, rfl⟩
    | point hquotes => exact absurd (List.prefix_append (ofChars quotes) rest) hquotes
  | @escape t value rest text n hescape h ih =>
    cases h' with
    | escape hescape' h' =>
      obtain ⟨rfl, rfl⟩ := Prod.mk.inj (Option.some.inj (hescape.symm.trans hescape'))
      obtain ⟨rfl, rfl⟩ := ih h'
      exact ⟨rfl, rfl⟩
    | point _ hp => exact absurd rfl hp
  | @point p t value rest hquotes hp hnull h ih =>
    cases h' with
    | close => exact absurd (List.prefix_append (ofChars quotes) rest') hquotes
    | escape => exact absurd rfl hp
    | point _ _ _ h' =>
      obtain ⟨rfl, rfl⟩ := ih h'
      exact ⟨rfl, rfl⟩

/-- A text that begins with a literal begins with no other. -/
theorem opens_iff {inner : Text} (h : Holds named inner value rest) :
    Opens named (ofChars quotes ++ inner) value' rest' ↔ value' = value ∧ rest' = rest := by
  constructor
  · rintro ⟨inner', hinner, h'⟩
    obtain rfl := List.append_cancel_left hinner
    exact h'.unique h
  · rintro ⟨rfl, rfl⟩
    exact ⟨inner, rfl, h⟩

end LongLiteral

end GraphBind.Text
