import GraphBind.Models.Layout
import GraphBind.Proofs.Text.LongText

/-!
# What docstrings are read as

A description stands between three double quotes with its backslashes and its runs of three quotes
escaped. `escapeQuotes` goes over a text three quotes at a time and else a code point at a time
(`escape_induction`), and so is it read: no three quotes are left in a row, not even with the
closing ones, as a blank keeps a last quote from them. `readsAs_quotedDocstring` says that the
literal is read as the description, wherever it stands.
-/

namespace GraphBind.Models

open Json (unifyEnds)
open Text.LongLiteral (quotes simpleEscapes Holds Opens)

variable {t tail value rest : Text} {p : CodePoint}

/-! ## Escaped texts -/

theorem escapeQuotes_quotes (t : Text) : escapeQuotes (Text.ofChars quotes ++ t) =
    Text.ofChars ['\\', '"', '\\', '"', '\\', '"'] ++ escapeQuotes t := by
  rw [← Text.ofString_ofList]
  rfl

theorem escapeQuotes_backslash (t : Text) :
    escapeQuotes (.char '\\' :: t) = .char '\\' :: .char '\\' :: escapeQuotes t := rfl

theorem escapeQuotes_cons (hquotes : ¬ Text.ofChars quotes <+: p :: t) (hp : p ≠ .char '\\') :
    escapeQuotes (p :: t) = p :: escapeQuotes t := by
  rw [escapeQuotes, if_neg fun heq => hp (beq_iff_eq.mp heq)]
  rintro after rfl rfl
  exact hquotes (List.prefix_append ..)

/-- Texts as they are escaped: three quotes at a time, and else a code point at a time. -/
@[elab_as_elim]
theorem escape_induction {motive : Text → Prop} (nil : motive [])
    (quotes : ∀ t, motive t → motive (Text.ofChars quotes ++ t))
    (backslash : ∀ t, motive t → motive (.char '\\' :: t))
    (cons : ∀ p t, ¬ Text.ofChars Text.LongLiteral.quotes <+: p :: t → p ≠ .char '\\' → motive t →
      motive (p :: t)) (t : Text) : motive t := by
  induction t using escapeQuotes.induct with
  | case1 t ih => exact quotes t ih
  | case2 p t hquotes hp ih =>
    rw [beq_iff_eq.mp hp]
    exact backslash t ih
  | case3 p t hquotes hp ih =>
    refine cons p t ?_ (fun heq => hp (beq_iff_eq.mpr heq)) ih
    rintro ⟨after, hafter⟩
    obtain ⟨rfl, rfl⟩ := List.cons.inj hafter
    exact hquotes after rfl rfl
  | case4 => exact nil

/-- Escaping leaves the last code point, so what pads a docstring is decided by the description. -/
theorem getLast?_escapeQuotes (t : Text) : (escapeQuotes t).getLast? = t.getLast? := by
  induction t using escape_induction with
  | nil => rfl
  | quotes t ih =>
    rw [escapeQuotes_quotes, List.getLast?_append, List.getLast?_append, ih]
    rfl
  | backslash t ih =>
    rw [escapeQuotes_backslash, List.getLast?_cons_cons, List.getLast?_cons, List.getLast?_cons, ih]
  | cons p t hquotes hp ih =>
    rw [escapeQuotes_cons hquotes hp, List.getLast?_cons, List.getLast?_cons, ih]

/-- Escaping adds and drops nothing but backslashes. -/
theorem mem_escapeQuotes_iff (hp : p ≠ .char '\\') : p ∈ escapeQuotes t ↔ p ∈ t := by
  induction t using escape_induction with
  | nil => rfl
  | quotes t ih =>
    rw [escapeQuotes_quotes]
    simp [Text.ofChars, quotes, hp, ih]
  | backslash t ih =>
    rw [escapeQuotes_backslash]
    simp [hp, ih]
  | cons q t hquotes hq ih =>
    rw [escapeQuotes_cons hquotes hq, List.mem_cons, List.mem_cons, ih]

/-- What is no backslash has been there before. -/
theorem eq_cons_of_escapeQuotes {t' : Text} (hp : p ≠ .char '\\') (h : escapeQuotes t = p :: t') :
    ∃ after, t = p :: after ∧ t' = escapeQuotes after := by
  induction t using escape_induction with
  | nil => cases h
  | quotes t =>
    rw [escapeQuotes_quotes] at h
    exact absurd (List.cons.inj h).1.symm hp
  | backslash t =>
    rw [escapeQuotes_backslash] at h
    exact absurd (List.cons.inj h).1.symm hp
  | cons q t hquotes hq =>
    rw [escapeQuotes_cons hquotes hq] at h
    obtain ⟨rfl, rfl⟩ := List.cons.inj h
    exact ⟨t, rfl, rfl⟩

theorem eq_nil_of_escapeQuotes (h : escapeQuotes t = []) : t = [] := by
  have hlast := getLast?_escapeQuotes t
  rw [h, List.getLast?_nil] at hlast
  exact List.getLast?_eq_none_iff.mp hlast.symm

/-- Quotes that an escaped text goes on with behind another have been there before, unless they are
those behind it. -/
theorem prefix_of_escapeQuotes {n : Nat}
    (htail : (.char '"' :: t).getLast? = some (.char '"') → tail.head? ≠ some (.char '"'))
    (h : List.replicate n (.char '"') <+: escapeQuotes t ++ tail) :
    List.replicate n (.char '"') <+: t := by
  induction n generalizing t with
  | zero => exact List.nil_prefix
  | succ n ih =>
    rw [List.replicate_succ] at h ⊢
    cases hescaped : escapeQuotes t with
    | nil =>
      rw [hescaped, List.nil_append] at h
      obtain rfl := eq_nil_of_escapeQuotes hescaped
      obtain ⟨after, rfl⟩ := h
      exact absurd rfl (htail rfl)
    | cons p t' =>
      rw [hescaped, List.cons_append, List.cons_prefix_cons] at h
      obtain ⟨rfl, h⟩ := h
      obtain ⟨after, rfl, rfl⟩ := eq_cons_of_escapeQuotes (by decide) hescaped
      rw [List.getLast?_cons_cons] at htail
      exact List.cons_prefix_cons.mpr ⟨rfl, ih htail h⟩

/-! ## Line ends -/

theorem head?_escapeQuotes_iff :
    (escapeQuotes t).head? = some (.char '\n') ↔ t.head? = some (.char '\n') := by
  induction t using escape_induction with
  | nil => rfl
  | quotes t =>
    rw [escapeQuotes_quotes]
    simp [Text.ofChars, quotes]
  | backslash t =>
    rw [escapeQuotes_backslash]
    simp
  | cons p t hquotes hp => rw [escapeQuotes_cons hquotes hp, List.head?_cons, List.head?_cons]

theorem quotes_prefix_of_unifyEnds (h : Text.ofChars quotes <+: p :: unifyEnds t) :
    Text.ofChars quotes <+: p :: t := by
  obtain ⟨after, hafter⟩ := h
  obtain ⟨rfl, hsecond⟩ := List.cons.inj hafter
  obtain ⟨t, rfl, hthird⟩ := Text.eq_cons_of_unifyEnds (by decide) hsecond.symm
  obtain ⟨t, rfl, -⟩ := Text.eq_cons_of_unifyEnds (by decide) hthird
  exact List.prefix_append (Text.ofChars quotes) t

/-- Line ends may be read before or after a text is escaped. -/
theorem unifyEnds_escapeQuotes (t : Text) :
    unifyEnds (escapeQuotes t) = escapeQuotes (unifyEnds t) := by
  induction t using escape_induction with
  | nil => rfl
  | quotes t ih =>
    rw [escapeQuotes_quotes, Text.unifyEnds_quotes, escapeQuotes_quotes, ← ih]
    rfl
  | backslash t ih =>
    rw [escapeQuotes_backslash, Json.unifyEnds_cons (by decide), Json.unifyEnds_cons (by decide),
      Json.unifyEnds_cons (by decide), escapeQuotes_backslash, ih]
  | cons p t hquotes hp ih =>
    rw [escapeQuotes_cons hquotes hp]
    by_cases hreturn : p = .char '\r'
    · subst hreturn
      by_cases ht : t.head? = some (.char '\n')
      · rw [Text.unifyEnds_pair ht, Text.unifyEnds_pair (head?_escapeQuotes_iff.mpr ht), ih]
      · rw [Text.unifyEnds_alone ht,
          Text.unifyEnds_alone fun h => ht (head?_escapeQuotes_iff.mp h), ih]
        rfl
    · rw [Json.unifyEnds_cons hreturn, Json.unifyEnds_cons hreturn, ih,
        escapeQuotes_cons (fun h => hquotes (quotes_prefix_of_unifyEnds h)) hp]

/-! ## Literals -/

/-- The blank that keeps a last quote from the closing ones. -/
def pad (t : Text) : Text := if t.getLast? = some (.char '"') then [.char ' '] else []

theorem docstring_eq (t : Text) : docstring t = escapeQuotes t ++ pad t := by
  have hblank : Text.ofString " " = [.char ' '] := Text.ofString_ofList [' ']
  unfold docstring pad
  dsimp only
  rw [getLast?_escapeQuotes]
  by_cases hlast : t.getLast? = some (.char '"')
  · rw [if_pos hlast, if_pos (beq_iff_eq.mpr hlast), hblank]
  · rw [if_neg hlast, if_neg fun heq => hlast (beq_iff_eq.mp heq), List.append_nil]

example : docstring "\\n\"\"\"\"" = "\\\\n\\\"\\\"\\\"\" " := by decide

variable {named : List Char → Option Char}

/-- An escaped text is read as itself, if no quote behind it goes on with its last one. -/
theorem holds_escapeQuotes
    (htail : t.getLast? = some (.char '"') → tail.head? ≠ some (.char '"'))
    (hnull : .char '\x00' ∉ t) (h : Holds named tail value rest) :
    Holds named (escapeQuotes t ++ tail) (t ++ value) rest := by
  induction t using escape_induction with
  | nil => exact h
  | quotes t ih =>
    rw [List.mem_append, not_or] at hnull
    rw [List.getLast?_append] at htail
    have hmore := ih (fun hlast => htail (by rw [hlast]; rfl)) hnull.2
    rw [escapeQuotes_quotes]
    exact ((hmore.escaped rfl).escaped rfl).escaped rfl
  | backslash t ih =>
    rw [List.mem_cons, not_or] at hnull
    rw [List.getLast?_cons] at htail
    have hmore := ih (fun hlast => htail (by rw [hlast]; rfl)) hnull.2
    exact hmore.escaped rfl
  | cons p t hquotes hp ih =>
    rw [List.mem_cons, not_or] at hnull
    have hmore := ih (fun hlast => htail (by rw [List.getLast?_cons, hlast]; rfl)) hnull.2
    rw [escapeQuotes_cons hquotes hp]
    refine .point (fun hthree => hquotes ?_) hp (Ne.symm hnull.1) hmore
    -- Three quotes that begin here have to begin here in the text as well.
    obtain ⟨rfl, htwo⟩ := List.cons_prefix_cons.mp hthree
    exact List.cons_prefix_cons.mpr ⟨rfl, prefix_of_escapeQuotes (n := 2) htail htwo⟩

theorem unifyEnds_pad (t more : Text) : unifyEnds (pad t ++ more) = pad t ++ unifyEnds more := by
  unfold pad
  split
  · rfl
  · rfl

theorem holds_pad (t rest : Text) :
    Holds named (pad t ++ (Text.ofChars quotes ++ rest)) (pad t) rest := by
  unfold pad
  split
  · have hblank : ¬ Text.ofChars quotes <+: .char ' ' :: (Text.ofChars quotes ++ rest) :=
      fun h => absurd (List.cons_prefix_cons.mp h).1 (by decide)
    exact .point hblank (by decide) (by decide) (.close rest)
  · exact .close rest

/-- The blank is there if the text ends with a quote, also when its line ends have been read. -/
theorem head?_pad_of_unifyEnds (h : (unifyEnds t).getLast? = some (.char '"')) (more : Text) :
    (pad t ++ more).head? ≠ some (.char '"') := by
  rw [Text.getLast?_unifyEnds, Option.map_eq_some_iff] at h
  obtain ⟨p, hlast, hp⟩ := h
  split at hp
  · cases hp
  · subst hp
    rw [pad, if_pos hlast]
    simp

/-- The literal that a description is printed as. -/
def quotedDocstring (t : Text) : Text := tripleQuote ++ docstring t ++ tripleQuote

/-- That a text is read as one literal with a value, which ends with it, whatever stands in front of
it and behind. -/
def ReadsAs (named : List Char → Option Char) (literal value : Text) : Prop :=
  ∀ front behind, ∃ inner, unifyEnds (front ++ literal ++ behind) = unifyEnds front ++ inner ∧
    ∀ value' rest, Opens named inner value' rest ↔ value' = value ∧ rest = unifyEnds behind

/-- Unifying line ends goes through a docstring part by part: no line end begins in one part and
ends in the next. -/
theorem unifyEnds_quotedDocstring (front t behind : Text) :
    unifyEnds (front ++ quotedDocstring t ++ behind) =
      unifyEnds front ++ (Text.ofChars quotes ++ (escapeQuotes (unifyEnds t) ++
        (pad t ++ (Text.ofChars quotes ++ unifyEnds behind)))) := by
  have hquotes : Text.ofString tripleQuote = Text.ofChars quotes := Text.ofString_ofList quotes
  have hpad : (pad t ++ (Text.ofChars quotes ++ behind)).head? ≠ some (.char '\n') := by
    unfold pad
    split
    · simp
    · simp [Text.ofChars, quotes]
  rw [quotedDocstring, docstring_eq, hquotes]
  simp only [List.append_assoc]
  rw [Text.unifyEnds_append (by simp [Text.ofChars, quotes]), Text.unifyEnds_quotes,
    Text.unifyEnds_append hpad, unifyEnds_escapeQuotes, unifyEnds_pad, Text.unifyEnds_quotes]

/-- A description is read as itself, with a blank behind a last quote. -/
theorem readsAs_quotedDocstring (named : List Char → Option Char) (hnull : .char '\x00' ∉ t) :
    ReadsAs named (quotedDocstring t) (unifyEnds t ++ pad t) := by
  intro front behind
  have hnull' : .char '\x00' ∉ unifyEnds t := fun hmem =>
    (Text.mem_unifyEnds hmem).elim (by decide) hnull
  have hholds : Holds named (escapeQuotes (unifyEnds t) ++
      (pad t ++ (Text.ofChars quotes ++ unifyEnds behind))) (unifyEnds t ++ pad t)
        (unifyEnds behind) :=
    holds_escapeQuotes (fun hlast => head?_pad_of_unifyEnds hlast _) hnull' (holds_pad t _)
  exact ⟨_, unifyEnds_quotedDocstring front t behind, fun _ _ => Text.LongLiteral.opens_iff hholds⟩

end GraphBind.Models
