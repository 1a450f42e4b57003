import GraphBind.Proofs.Entries
import GraphBind.Proofs.Text.Literal
import GraphBind.Proofs.Text.Trimming
import Mathlib.Data.List.Infix

/-!
# What long literals are read as

`LongLiteral.IsLiteral` says of a text that it is one literal between three double quotes, and what
its value is, with every escape that there is (`Escapes`); which characters have names is left open.
What follows a literal has no part in how it is read (`Inside.append`), so that a text begins with
one literal at most (`IsLiteral.eq_nil_of_append`).

A text that is harmless, which has neither three double quotes in a row nor an escape in it, is read
as itself (`inside_of_harmless`). No other text is, not even where it may stand elsewhere in the
value: reading an escape loses one of the characters that escapes are written with, so a value that
has them all comes from a harmless text (`harmless_of_inside`).
-/

namespace GraphBind.Text.LongLiteral

/-- Three double quotes. -/
def quotes : List Char := ['"', '"', '"']

/-! ## Escapes -/

/-- The escapes of one character, with what they stand for. -/
def simpleEscapes : List (Char × List Char) :=
  [('\n', []), ('\\', ['\\']), ('\'', ['\'']), ('"', ['"']), ('a', ['\x07']), ('b', ['\x08']),
    ('f', ['\x0c']), ('n', ['\n']), ('r', ['\r']), ('t', ['\t']), ('v', ['\x0b'])]

def isOctalDigit (c : Char) : Bool := '0' ≤ c && c ≤ '7'

/-- The octal digits that a text begins with, three at most. -/
def octalDigits (cs : List Char) : List Char := (cs.take 3).takeWhile isOctalDigit

/-- The number that octal digits write. -/
def octalValue (ds : List Char) : Nat := ds.foldl (fun n d => 8 * n + (d.toNat - 48)) 0

/-- The name between braces that a text begins with. -/
def braced? : List Char → Option (List Char)
  | [] => none
  | c :: cs => if c == '{' && cs.contains '}' then some (cs.takeWhile (· != '}')) else none

/-- Whether a character opens an escape behind a backslash. -/
def isMark (c : Char) : Bool :=
  (Entries.get? c simpleEscapes).isSome || (Literal.width? c).isSome || isOctalDigit c || c == 'N'

/-- Whether a character has no part in ending a literal or in opening an escape. -/
def isPlain (c : Char) : Bool := c != '"' && c != '\\'

variable (named : List Char → Option Char)

/-- What an escape stands for, read from behind its backslash, and its length. The backslash stands
for itself where no escape follows. -/
def escape? : List Char → Option (Text × Nat)
  | [] => none
  | c :: cs =>
    match Entries.get? c simpleEscapes with
    | some text => some (ofChars text, 1)
    | none =>
      match Literal.width? c with
      | some width =>
        ((readHex? width 0 cs).filter (· < 0x110000)).map fun n => ([.ofNat n], width + 1)
      | none =>
        if isOctalDigit c then
          some ([.ofNat (octalValue (octalDigits (c :: cs)))], (octalDigits (c :: cs)).length)
        else if c == 'N' then
          (braced? cs).bind fun name => (named name).map fun c => ([.char c], name.length + 3)
        else some ([.char '\\'], 0)

/-- That a backslash and what follows it are an escape, what it stands for, and its length without
the backslash. -/
inductive Escapes : List Char → Text → Nat → Prop where
  | simple {c : Char} {cs chars : List Char} (h : Entries.get? c simpleEscapes = some chars) :
    Escapes (c :: cs) (ofChars chars) 1
  | hex {c : Char} {cs : List Char} {width n : Nat} (hsimple : Entries.get? c simpleEscapes = none)
    (hwidth : Literal.width? c = some width) (hread : readHex? width 0 cs = some n)
    (hlow : n < 0x110000) : Escapes (c :: cs) [.ofNat n] (width + 1)
  | octal {c : Char} {cs : List Char} (hsimple : Entries.get? c simpleEscapes = none)
    (hwidth : Literal.width? c = none) (h : isOctalDigit c = true) :
    Escapes (c :: cs) [.ofNat (octalValue (octalDigits (c :: cs)))] (octalDigits (c :: cs)).length
  | named {c : Char} {cs name : List Char} (hname : braced? cs = some name)
    (hc : named name = some c) : Escapes ('N' :: cs) [.char c] (name.length + 3)
  | unread {c : Char} {cs : List Char} (h : isMark c = false) : Escapes (c :: cs) [.char '\\'] 0

/-! ## Literals -/

/-- That a text is the inside of a literal with a value, the three quotes that end it, and what
follows. -/
inductive Inside : List Char → Text → List Char → Prop where
  | close (rest : List Char) : Inside (quotes ++ rest) [] rest
  | escape {cs rest : List Char} {t text : Text} {n : Nat}
    (hescape : escape? named cs = some (text, n)) (h : Inside (cs.drop n) t rest) :
    Inside ('\\' :: cs) (text ++ t) rest
  | char {c : Char} {cs rest : List Char} {t : Text} (hquotes : ¬ quotes <+: c :: cs)
    (hc : c ≠ '\\') (h : Inside cs t rest) : Inside (c :: cs) (.char c :: t) rest

/-- That a text is one literal between three double quotes, with a value. -/
def IsLiteral (cs : List Char) (value : Text) : Prop :=
  ∃ inner, cs = quotes ++ inner ∧ Inside named inner value []

/-- That a text may stand inside of a literal as it is. -/
structure Harmless (cs : List Char) : Prop where
  quotes : ¬ quotes <:+: cs
  escapes : ∀ c, ['\\', c] <:+: cs → isMark c = false

variable {named} {c : Char} {cs more rest : List Char} {t text value : Text} {n : Nat}

theorem not_prefix_of_ne (hc : c ≠ '"') : ¬ quotes <+: c :: cs :=
  fun h => hc (List.cons_prefix_cons.mp h).1.symm

/-! ## Reading -/

/-- Where no escape follows, a backslash stands for itself. -/
theorem escape?_of_not_isMark (h : isMark c = false) :
    escape? named (c :: cs) = some ([.char '\\'], 0) := by
  simp only [isMark, Bool.or_eq_false_iff, Option.isSome_eq_false_iff, Option.isNone_iff_eq_none]
    at h
  obtain ⟨⟨⟨hsimple, hwidth⟩, hoctal⟩, hnamed⟩ := h
  simp [escape?, hsimple, hwidth, hoctal, hnamed]

/-- An escape that is read is one of the known ones, by its first character. -/
theorem escapes_of_escape? (h : escape? named cs = some (text, n)) : Escapes named cs text n := by
  cases cs with
  | nil => cases h
  | cons c cs =>
    rw [escape?] at h
    cases hsimple : Entries.get? c simpleEscapes with
    | some chars =>
      rw [hsimple] at h
      cases h
      exact .simple hsimple
    | none =>
      rw [hsimple] at h
      cases hwidth : Literal.width? c with
      | some width =>
        rw [hwidth] at h
        obtain ⟨k, hk, h⟩ := Option.map_eq_some_iff.mp h
        obtain ⟨hread, hlow⟩ := Option.filter_eq_some_iff.mp hk
        cases h
        exact .hex hsimple hwidth hread (of_decide_eq_true hlow)
      | none =>
        rw [hwidth] at h
        dsimp only at h
        split at h
        · next hoctal =>
          cases h
          exact .octal hsimple hwidth hoctal
        · next hoctal =>
          split at h
          · next hnamed =>
            obtain ⟨name, hname, h⟩ := Option.bind_eq_some_iff.mp h
            obtain ⟨d, hd, h⟩ := Option.map_eq_some_iff.mp h
            cases h
            rw [beq_iff_eq.mp hnamed]
            exact .named hname hd
          · next hnamed =>
            cases h
            refine .unread ?_
            simp [isMark, hsimple, hwidth, hoctal, hnamed]

/-- The reader of escapes reads what the relation says. -/
theorem escape?_eq_some_iff : escape? named cs = some (text, n) ↔ Escapes named cs text n := by
  refine ⟨escapes_of_escape?, fun h => ?_⟩
  cases h with
  | simple h => rw [escape?, h]
  | hex hsimple hwidth hread hlow => simp [escape?, hsimple, hwidth, hread, hlow]
  | octal hsimple hwidth h => simp [escape?, hsimple, hwidth, h]
  | named hname hc =>
    have hsimple : Entries.get? 'N' simpleEscapes = none := by decide
    have hwidth : Literal.width? 'N' = none := by decide
    have hoctal : isOctalDigit 'N' = false := by decide
    simp [escape?, hsimple, hwidth, hoctal, hname, hc]
  | unread h => exact escape?_of_not_isMark h

/-! ## What follows a literal -/

/-- What stands behind does not change how digits are read. -/
theorem readHex?_append {width m k : Nat} (h : readHex? width m cs = some k) :
    readHex? width m (cs ++ more) = some k := by
  induction cs generalizing width m with
  | nil =>
    cases width with
    | zero => exact h
    | succ width => cases h
  | cons c cs ih =>
    cases width with
    | zero => exact h
    | succ width =>
      rw [readHex?, Option.bind_eq_some_iff] at h
      obtain ⟨d, hd, h⟩ := h
      rw [List.cons_append, readHex?, hd]
      exact ih h

/-- Octal digits that end before their text does are not taken further by what stands behind it. -/
theorem octalDigits_append (h : (octalDigits cs).length < cs.length) :
    octalDigits (cs ++ more) = octalDigits cs := by
  unfold octalDigits at h ⊢
  rw [List.take_append, List.takeWhile_append]
  split
  · next hall =>
    rw [hall, List.length_take] at h
    have hlong : 3 - cs.length = 0 := by omega
    rw [hlong, List.take_zero, List.takeWhile_nil, List.append_nil]
    exact ((List.takeWhile_prefix _).eq_of_length hall).symm
  · rfl

/-- A name in braces ends with the brace, whatever stands behind. -/
theorem braced?_append {name : List Char} (h : braced? cs = some name) :
    braced? (cs ++ more) = some name := by
  cases cs with
  | nil => cases h
  | cons c cs =>
    rw [braced?, Option.ite_none_right_eq_some] at h
    obtain ⟨hopen, h⟩ := h
    obtain ⟨hbrace, hmem⟩ := Bool.and_eq_true_iff.mp hopen
    rw [List.contains_eq_mem, decide_eq_true_eq] at hmem
    have hmore : (c == '{' && (cs ++ more).contains '}') = true := by
      simp [hbrace, hmem]
    rw [List.cons_append, braced?, if_pos hmore, takeWhile_append_of_mem hmem, h]

/-- An escape is read alike in front of anything, unless it might go on. -/
theorem Escapes.append (h : Escapes named cs text n) (hn : n < cs.length) (more : List Char) :
    Escapes named (cs ++ more) text n := by
  cases h with
  | simple h => exact .simple h
  | hex hsimple hwidth hread hlow => exact .hex hsimple hwidth (readHex?_append hread) hlow
  | octal hsimple hwidth h =>
    rw [← octalDigits_append hn]
    exact .octal hsimple hwidth h
  | named hname hc => exact .named (braced?_append hname) hc
  | unread h => exact .unread h

theorem not_prefix_append (hlong : 3 ≤ cs.length) (h : ¬ quotes <+: cs) :
    ¬ quotes <+: cs ++ more :=
  fun happend => h (List.prefix_of_prefix_length_le happend (List.prefix_append ..) hlong)

/-- A literal ends with three quotes, which are not part of what follows. -/
theorem Inside.length_le (h : Inside named cs t rest) : 3 + rest.length ≤ cs.length := by
  induction h with
  | close rest => exact (List.length_append : (quotes ++ rest).length = _).ge
  | escape hescape h ih =>
    rw [List.length_drop] at ih
    rw [List.length_cons]
    omega
  | char hquotes hc h ih =>
    rw [List.length_cons]
    omega

/-- A literal is read alike in front of anything. -/
theorem Inside.append (h : Inside named cs t rest) (more : List Char) :
    Inside named (cs ++ more) t (rest ++ more) := by
  induction h with
  | close rest =>
    rw [List.append_assoc]
    exact .close _
  | @escape cs rest t text n hescape h ih =>
    have hlength := h.length_le
    rw [List.length_drop] at hlength
    rw [← List.drop_append_of_le_length (by omega)] at ih
    have hmore := (escape?_eq_some_iff.mp hescape).append (by omega) more
    exact .escape (escape?_eq_some_iff.mpr hmore) ih
  | @char c cs rest t hquotes hc h ih =>
    have hlength := h.length_le
    refine .char (not_prefix_append ?_ hquotes) hc ih
    rw [List.length_cons]
    omega

/-- The inside of a literal is read in one way only. -/
theorem Inside.unique {t' : Text} {rest' : List Char} (h : Inside named cs t rest)
    (h' : Inside named cs t' rest') : t = t' ∧ rest = rest' := by
  induction h generalizing t' rest' with
  | close rest =>
    cases h' with
    | close => exact ⟨rfl, rfl⟩
    | char hquotes => exact absurd (List.prefix_append quotes rest) hquotes
  | @escape cs rest t text n hescape h ih =>
    cases h' with
    | escape hescape' h' =>
      obtain ⟨rfl, rfl⟩ := Prod.mk.inj (Option.some.inj (hescape.symm.trans hescape'))
      obtain ⟨rfl, rfl⟩ := ih h'
      exact ⟨rfl, rfl⟩
    | char _ hc => exact absurd rfl hc
  | @char c cs rest t hquotes hc h ih =>
    cases h' with
    | close => exact absurd (List.prefix_append quotes rest') hquotes
    | escape => exact absurd rfl hc
    | char _ _ h' =>
      obtain ⟨rfl, rfl⟩ := ih h'
      exact ⟨rfl, rfl⟩

/-- A literal that goes on behind a literal is this literal. -/
theorem IsLiteral.eq_nil_of_append (h : IsLiteral named cs value)
    (happend : IsLiteral named (cs ++ more) text) : more = [] := by
  obtain ⟨inner, rfl, h⟩ := h
  obtain ⟨inner', hinner, h'⟩ := happend
  rw [List.append_assoc] at hinner
  obtain rfl := List.append_cancel_left hinner
  exact ((h.append more).unique h').2

/-! ## Harmless texts -/

theorem Harmless.nil : Harmless [] where
  quotes := by decide
  escapes c h := by cases List.infix_nil.mp h

theorem Harmless.of_infix {part : List Char} (h : Harmless cs) (hpart : part <:+: cs) :
    Harmless part where
  quotes hquotes := h.quotes (hquotes.trans hpart)
  escapes c hc := h.escapes c (hc.trans hpart)

/-- What a harmless text may be continued with to the left. -/
theorem harmless_cons_iff : Harmless (c :: cs) ↔
    ¬ quotes <+: c :: cs ∧ (c = '\\' → ∀ d ∈ cs.head?, isMark d = false) ∧ Harmless cs := by
  constructor
  · intro h
    refine ⟨fun hquotes => h.quotes hquotes.isInfix, ?_, h.of_infix (List.suffix_cons ..).isInfix⟩
    rintro rfl d hd
    obtain ⟨cs, rfl⟩ := List.head?_eq_some_iff.mp hd
    exact h.escapes d ⟨[], cs, rfl⟩
  · rintro ⟨hquotes, hescape, h⟩
    constructor
    · intro hinfix
      exact (List.infix_cons_iff.mp hinfix).elim hquotes h.quotes
    · intro d hinfix
      rcases List.infix_cons_iff.mp hinfix with ⟨cs', hcs⟩ | hinfix
      · cases hcs
        exact hescape rfl d rfl
      · exact h.escapes d hinfix

theorem isPlain_iff : isPlain c = true ↔ c ≠ '"' ∧ c ≠ '\\' := by
  simp [isPlain]

theorem all_isPlain_cons_iff : (c :: cs).all isPlain = true ↔
    c ≠ '"' ∧ c ≠ '\\' ∧ cs.all isPlain = true := by
  rw [List.all_cons, Bool.and_eq_true, isPlain_iff, and_assoc]

theorem Harmless.plain_append {plain : List Char} (hplain : plain.all isPlain = true)
    (h : Harmless cs) : Harmless (plain ++ cs) := by
  induction plain with
  | nil => exact h
  | cons c plain ih =>
    obtain ⟨hquote, hbackslash, hplain⟩ := all_isPlain_cons_iff.mp hplain
    exact harmless_cons_iff.mpr
      ⟨not_prefix_of_ne hquote, fun hc => absurd hc hbackslash, ih hplain⟩

theorem Harmless.of_plain (h : cs.all isPlain = true) : Harmless cs := by
  rw [← List.append_nil cs]
  exact .plain_append h .nil

theorem not_prefix_append_cons (hc : c ≠ '"') (h : ¬ quotes <+: cs) :
    ¬ quotes <+: cs ++ c :: more := by
  match cs with
  | [] => exact not_prefix_of_ne hc
  | [_] => simp [quotes, hc.symm]
  | [_, _] => simp [quotes, hc.symm]
  | _ :: _ :: _ :: _ => exact not_prefix_append (by simp) h

/-- A harmless text is read as itself in front of a character that opens no escape. -/
theorem inside_of_harmless (hcs : Harmless cs) (hc : isMark c = false)
    (h : Inside named (c :: more) t rest) :
    Inside named (cs ++ c :: more) (ofChars cs ++ t) rest := by
  induction cs with
  | nil => exact h
  | cons d cs ih =>
    obtain ⟨hquotes, hescape, htail⟩ := harmless_cons_iff.mp hcs
    by_cases hd : d = '\\'
    · subst hd
      have hunread : escape? named (cs ++ c :: more) = some ([.char '\\'], 0) := by
        cases cs with
        | nil => exact escape?_of_not_isMark hc
        | cons d cs => exact escape?_of_not_isMark (hescape rfl d rfl)
      have hstep : Inside named ('\\' :: (cs ++ c :: more))
          ([.char '\\'] ++ (ofChars cs ++ t)) rest := .escape hunread (ih htail)
      exact hstep
    · have hne : c ≠ '"' := by
        rintro rfl
        cases hc
      exact .char (not_prefix_append_cons hne hquotes) hd (ih htail)

/-- A text without quotes and backslashes is read as itself. -/
theorem inside_of_plain (h : cs.all isPlain = true) :
    Inside named (cs ++ (quotes ++ rest)) (ofChars cs) rest := by
  induction cs with
  | nil => exact .close rest
  | cons c cs ih =>
    obtain ⟨hquote, hbackslash, h⟩ := all_isPlain_cons_iff.mp h
    exact .char (not_prefix_of_ne hquote) hbackslash (ih h)

/-! ## Nothing else is read as itself -/

/-- The characters of which every escape is written with more than it stands for. -/
def isCounted (c : Char) : Bool :=
  c == '\\' || c == 'N' || (Literal.width? c).isSome || isOctalDigit c

/-- How many characters of a text count. -/
def weight (t : Text) : Nat := t.countP (CodePoint.satisfies isCounted)

theorem weight_append (t t' : Text) : weight (t ++ t') = weight t + weight t' :=
  List.countP_append

theorem weight_ofChars_cons (c : Char) (cs : List Char) :
    weight (ofChars (c :: cs)) = weight (ofChars cs) + if isCounted c then 1 else 0 :=
  List.countP_cons

theorem weight_take_add_drop (n : Nat) (cs : List Char) :
    weight (ofChars (cs.take n)) + weight (ofChars (cs.drop n)) = weight (ofChars cs) := by
  rw [← weight_append, ← ofChars_append, List.take_append_drop]

theorem weight_singleton_le {p : CodePoint} (hc : isCounted c = true) (hn : 0 < n) :
    weight [p] ≤ weight (ofChars ((c :: cs).take n)) := by
  obtain ⟨n, rfl⟩ := Nat.exists_eq_add_one_of_ne_zero hn.ne'
  have hone : weight [p] ≤ 1 := List.countP_le_length
  rw [List.take_succ_cons, weight_ofChars_cons, if_pos hc]
  omega

/-- An escape stands for no more characters that count than it has behind its backslash, unless
there is none. -/
theorem Escapes.weight_le (h : Escapes named cs text n) :
    weight text ≤ weight (ofChars (cs.take n)) ∨
      text = [.char '\\'] ∧ n = 0 ∧ ∀ c ∈ cs.head?, isMark c = false := by
  cases h with
  | simple h =>
    have hall : ∀ e ∈ simpleEscapes, weight (ofChars e.2) ≤ weight (ofChars [e.1]) := by decide
    exact .inl (hall _ (Entries.mem_of_get? h))
  | @hex _ _ width _ hsimple hwidth hread hlow =>
    exact .inl (weight_singleton_le (by simp [isCounted, hwidth]) width.succ_pos)
  | octal hsimple hwidth h =>
    refine .inl (weight_singleton_le (by simp [isCounted, h]) ?_)
    simp [octalDigits, h]
  | named hname hc => exact .inl (weight_singleton_le (by decide) (Nat.succ_pos _))
  | unread h =>
    refine .inr ⟨rfl, rfl, fun d hd => ?_⟩
    cases hd
    exact h

/-- No literal has more in its value that counts than is written in it. -/
theorem Inside.weight_le (h : Inside named cs t rest) :
    weight t + weight (ofChars rest) ≤ weight (ofChars cs) := by
  induction h with
  | close rest => exact (Nat.zero_add _).le
  | @escape cs rest t text n hescape h ih =>
    have hsplit := weight_take_add_drop n cs
    have hcons : weight (ofChars ('\\' :: cs)) = weight (ofChars cs) + 1 :=
      weight_ofChars_cons '\\' cs
    rw [weight_append, hcons]
    rcases (escape?_eq_some_iff.mp hescape).weight_le with hless | ⟨rfl, rfl, -⟩
    · omega
    · have hone : weight [.char '\\'] = 1 := rfl
      rw [List.drop_zero] at ih
      omega
  | @char c cs rest t hquotes hc h ih =>
    have hcons : weight (.char c :: t) = weight t + if isCounted c then 1 else 0 :=
      List.countP_cons
    rw [hcons, weight_ofChars_cons]
    omega

/-- Where nothing that counts has been lost, there has been no escape. -/
theorem harmless_of_inside (h : Inside named cs t rest)
    (hweight : weight (ofChars cs) ≤ weight t + weight (ofChars rest)) :
    ∃ body, cs = body ++ (quotes ++ rest) ∧ Harmless body := by
  induction h with
  | close rest => exact ⟨[], rfl, .nil⟩
  | @escape cs rest t text n hescape h ih =>
    have hsplit := weight_take_add_drop n cs
    have hcons : weight (ofChars ('\\' :: cs)) = weight (ofChars cs) + 1 :=
      weight_ofChars_cons '\\' cs
    rw [weight_append, hcons] at hweight
    rcases (escape?_eq_some_iff.mp hescape).weight_le with hless | ⟨rfl, rfl, hmark⟩
    · have hle := h.weight_le
      omega
    · have hone : weight [.char '\\'] = 1 := rfl
      rw [List.drop_zero] at ih
      obtain ⟨body, rfl, hbody⟩ := ih (by omega)
      refine ⟨'\\' :: body, rfl, ?_⟩
      refine harmless_cons_iff.mpr ⟨not_prefix_of_ne (by decide), fun _ d hd => hmark d ?_, hbody⟩
      obtain ⟨body, rfl⟩ := List.head?_eq_some_iff.mp hd
      rfl
  | @char c cs rest t hquotes hc h ih =>
    have hcons : weight (.char c :: t) = weight t + if isCounted c then 1 else 0 :=
      List.countP_cons
    rw [hcons, weight_ofChars_cons] at hweight
    obtain ⟨body, rfl, hbody⟩ := ih (by omega)
    refine ⟨c :: body, rfl, harmless_cons_iff.mpr ⟨fun hprefix => hquotes ?_, ?_, hbody⟩⟩
    · exact hprefix.trans (List.prefix_append (c :: body) _)
    · exact fun hbackslash => absurd hbackslash hc

/-! ## Literals with a text in them -/

variable {before after : List Char}

/-- A harmless text between others that are plain stands in the value of the literal. -/
theorem isLiteral_of_harmless (hbefore : before.all isPlain = true) (h : Harmless cs)
    (hc : isMark c = false) (hafter : (c :: after).all isPlain = true) :
    IsLiteral named (quotes ++ (before ++ cs ++ (c :: after ++ quotes)))
      (ofChars (before ++ cs ++ c :: after)) := by
  refine ⟨_, rfl, ?_⟩
  have hclosed : Inside named (c :: after ++ (quotes ++ [])) (ofChars (c :: after)) [] :=
    inside_of_plain hafter
  rw [List.append_nil] at hclosed
  have hinside := inside_of_harmless (h.plain_append hbefore) hc hclosed
  rw [← ofChars_append] at hinside
  exact hinside

/-- A text that stands in the value of the literal around it is harmless, if the others around it
do not count. -/
theorem harmless_of_isLiteral (hbefore : weight (ofChars before) = 0)
    (hafter : weight (ofChars after) = 0)
    (h : IsLiteral named (quotes ++ (before ++ cs ++ (after ++ quotes))) value)
    (hvalue : ofChars cs <:+: value) : Harmless cs := by
  obtain ⟨inner, hinner, h⟩ := h
  obtain rfl := List.append_cancel_left hinner
  have hquotes : weight (ofChars quotes) = 0 := rfl
  have hnil : weight (ofChars []) = 0 := rfl
  have hle : weight (ofChars cs) ≤ weight value := hvalue.sublist.countP_le
  have hweight : weight (ofChars (before ++ cs ++ (after ++ quotes))) ≤
      weight value + weight (ofChars []) := by
    simp only [ofChars_append, weight_append]
    omega
  obtain ⟨body, hbody, hharmless⟩ := harmless_of_inside h hweight
  rw [List.append_nil, ← List.append_assoc] at hbody
  obtain rfl := List.append_cancel_right hbody
  exact hharmless.of_infix ⟨before, after, rfl⟩

end GraphBind.Text.LongLiteral
