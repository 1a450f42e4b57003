import GraphBind.Text.Quoted
import Mathlib.Algebra.Group.Nat.Defs

/-!
# What quoted texts are read as

`Literal.value?` reads a literal between single or double quotes. Of the escapes it knows the ones
that quoting writes, and a literal with any other has no value here. `Literal.StandsAs` lists how a
code point can stand inside of a literal, where it is read as itself whatever is behind it
(`Literal.StandsAs.inside?`), so a quoted text is a literal whose value is the text
(`value?_quotedChars`).
-/

namespace GraphBind

/-- A code point is told by its number. -/
theorem CodePoint.ofNat_toNat (c : CodePoint) : ofNat c.toNat = c := by
  cases c with
  | char c =>
    have hnone : ¬(firstSurrogate ≤ c.toNat ∧ c.toNat - firstSurrogate < 0x800) := by
      have hvalid : c.toNat < 0xD800 ∨ 0xDFFF < c.toNat ∧ c.toNat < 0x110000 := c.valid
      rw [firstSurrogate]
      omega
    rw [toNat, ofNat, dif_neg hnone, Char.ofNat_toNat]
  | surrogate n =>
    have hsome : firstSurrogate ≤ firstSurrogate + n.val ∧
        firstSurrogate + n.val - firstSurrogate < 0x800 := by
      have hn := n.isLt
      omega
    rw [toNat, ofNat, dif_pos hsome]
    exact congrArg surrogate (Fin.ext (Nat.add_sub_cancel_left ..))

theorem CodePoint.toNat_lt (c : CodePoint) : c.toNat < 0x110000 := by
  cases c with
  | char c =>
    have hvalid : c.toNat < 0xD800 ∨ 0xDFFF < c.toNat ∧ c.toNat < 0x110000 := c.valid
    rw [toNat]
    omega
  | surrogate n =>
    have hn := n.isLt
    rw [toNat, firstSurrogate]
    omega

namespace Text

/-! ## Hexadecimal digits -/

theorem hexValue?_hexDigit {n : Nat} (h : n < 16) : hexValue? (hexDigit n) = some n := by
  have hall : ∀ n < 16, hexValue? (hexDigit n) = some n := by decide
  exact hall n h

theorem length_hexDigits (width n : Nat) : (hexDigits width n).length = width := by
  induction width generalizing n with
  | zero => rfl
  | succ width ih => rw [hexDigits, List.length_append, ih, List.length_singleton]

theorem exists_hexDigit_of_mem {width n : Nat} {c : Char} (h : c ∈ hexDigits width n) :
    ∃ m < 16, c = hexDigit m := by
  induction width generalizing n with
  | zero => cases h
  | succ width ih =>
    rw [hexDigits, List.mem_append, List.mem_singleton] at h
    rcases h with h | h
    · exact ih h
    · exact ⟨_, Nat.mod_lt n (by decide), h⟩

/-- Reading one digit more goes on with what has been read. -/
theorem readHex?_succ {width m k : Nat} {ds rest : List Char} {d : Char} (hds : ds.length = width)
    (h : readHex? width m (ds ++ d :: rest) = some k) :
    readHex? (width + 1) m (ds ++ d :: rest) = (hexValue? d).map (16 * k + ·) := by
  induction ds generalizing width m with
  | nil =>
    subst hds
    cases h
    rw [List.nil_append, readHex?]
    cases hexValue? d with
    | none => rfl
    | some n => rfl
  | cons c ds ih =>
    subst hds
    rw [List.cons_append, List.length_cons, readHex?, Option.bind_eq_some_iff] at h
    obtain ⟨n, hn, h⟩ := h
    rw [List.cons_append, List.length_cons, readHex?, hn]
    exact ih rfl h

/-- Reading the digits of a number gives it back, whatever stands behind them. -/
theorem readHex?_hexDigits {width n : Nat} (rest : List Char) (h : n < 16 ^ width) :
    readHex? width 0 (hexDigits width n ++ rest) = some n := by
  induction width generalizing n rest with
  | zero =>
    obtain rfl := Nat.lt_one_iff.mp h
    rfl
  | succ width ih =>
    have hlead : n / 16 < 16 ^ width := Nat.div_lt_of_lt_mul (by rwa [Nat.pow_succ'] at h)
    have hlast := hexValue?_hexDigit (Nat.mod_lt n (by omega : 16 > 0))
    rw [hexDigits, List.append_assoc, List.singleton_append,
      readHex?_succ (length_hexDigits ..) (ih _ hlead), hlast, Option.map_some, Nat.div_add_mod]

/-! ## Literals -/

namespace Literal

/-- How many hexadecimal digits an escape with this letter takes. -/
def width? (c : Char) : Option Nat :=
  if c == 'x' then some 2 else if c == 'u' then some 4 else if c == 'U' then some 8 else none

/-- The code point that an escape writes, read from behind its backslash, and its length. -/
def escape? : List Char → Option (CodePoint × Nat)
  | [] => none
  | c :: cs =>
    if c == '\\' || c == '\'' || c == '"' then some (c, 1)
    else if c == 'n' then some ('\n', 1)
    else if c == 'r' then some ('\r', 1)
    else if c == 't' then some ('\t', 1)
    else (width? c).bind fun width =>
      ((readHex? width 0 cs).filter (· < 0x110000)).map fun n => (.ofNat n, width + 1)

/-- What stands inside of a literal up to its quote, and what follows that. The characters of an
escape that has been read are skipped. -/
def inside? (quote : Char) : Nat → List Char → Option (Text × List Char)
  | _, [] => none
  | skipped + 1, _ :: cs => inside? quote skipped cs
  | 0, c :: cs =>
    if c == quote then some ([], cs)
    else if c == '\n' || c == '\r' then none
    else if c == '\\' then
      (escape? cs).bind fun (point, length) =>
        (inside? quote length cs).map fun (t, rest) => (point :: t, rest)
    else (inside? quote 0 cs).map fun (t, rest) => (c :: t, rest)

/-- The value of a literal. -/
def value? : List Char → Option Text
  | [] => none
  | quote :: cs =>
    if quote == '\'' || quote == '"' then
      match inside? quote 0 cs with
      | some (t, []) => some t
      | _ => none
    else none

variable {quote : Char} {rest : List Char}

theorem inside?_append (cs : List Char) :
    inside? quote cs.length (cs ++ rest) = inside? quote 0 rest := by
  induction cs with
  | nil => rfl
  | cons c cs ih => exact ih

theorem inside?_escape (cs : List Char) {point : CodePoint} (hquote : quote ≠ '\\')
    (h : escape? (cs ++ rest) = some (point, cs.length)) :
    inside? quote 0 ('\\' :: cs ++ rest) =
      (inside? quote 0 rest).map fun (t, rest) => (point :: t, rest) := by
  rw [List.cons_append, inside?, if_neg (by simpa using hquote.symm), if_neg (by decide),
    if_pos (by decide), h, Option.bind_some]
  dsimp only
  rw [inside?_append]

/-- How a code point can stand inside quotes: behind a backslash by a letter or by its number, or as
it is. Everything that stands there is printable. -/
inductive StandsAs (quote : Char) (point : CodePoint) : List Char → Prop where
  | letter {letter : Char} (hprintable : isPrintable letter = true)
      (h : ∀ cs, escape? (letter :: cs) = some (point, 1)) : StandsAs quote point ['\\', letter]
  | number {mark : Char} {width : Nat} (hprintable : isPrintable mark = true)
      (h : ∀ cs, escape? (mark :: cs) =
        ((readHex? width 0 cs).filter (· < 0x110000)).map fun n => (.ofNat n, width + 1))
      (hwidth : point.toNat < 16 ^ width) :
    StandsAs quote point ('\\' :: mark :: hexDigits width point.toNat)
  | plain {c : Char} (hpoint : point = .char c) (hquote : c ≠ quote) (hslash : c ≠ '\\')
      (hprintable : isPrintable c = true) : StandsAs quote point [c]

/-- An escape of a number stands for the code point with that number. -/
theorem standsAs_escapedPoint (point : CodePoint) :
    StandsAs quote point (escapedPoint point.toNat) := by
  unfold escapedPoint
  split
  · next hn => exact .number (by decide) (fun _ => rfl) hn
  · split
    · next hn => exact .number (by decide) (fun _ => rfl) hn
    · have hlimit := point.toNat_lt
      exact .number (by decide) (fun _ => rfl) (by omega)

/-- How a character is written inside of quotes stands for it. -/
theorem standsAs_escapeChar (hquote : quote = '\'' ∨ quote = '"') (c : Char) :
    StandsAs quote (.char c) (escapeChar quote c) := by
  unfold escapeChar
  split
  · next hc =>
    rw [Bool.or_eq_true, beq_iff_eq, beq_iff_eq] at hc
    obtain rfl | rfl | rfl : c = '\'' ∨ c = '"' ∨ c = '\\' := by
      rcases hc with rfl | rfl
      · exact hquote.imp_right .inl
      · exact .inr (.inr rfl)
    all_goals exact .letter (by decide) fun _ => rfl
  · next hc =>
    rw [Bool.or_eq_true, not_or, beq_iff_eq, beq_iff_eq] at hc
    iterate 3
      split
      · next h =>
        rw [beq_iff_eq.mp h]
        exact .letter (by decide) fun _ => rfl
    split
    · next h => exact .plain rfl hc.1 hc.2 h
    · exact standsAs_escapedPoint (.char c)

theorem standsAs_escapePoint (hquote : quote = '\'' ∨ quote = '"') (point : CodePoint) :
    StandsAs quote point (escapePoint quote point) := by
  cases point with
  | char c => exact standsAs_escapeChar hquote c
  | surrogate n => exact standsAs_escapedPoint (.surrogate n)

namespace StandsAs

variable {point : CodePoint} {cs : List Char}

/-- What stands for a code point is printable itself. -/
theorem isPrintable_of_mem (h : StandsAs quote point cs) {c : Char} (hc : c ∈ cs) :
    isPrintable c = true := by
  have hdigit : ∀ n < 16, isPrintable (hexDigit n) = true := by decide
  have hslash : isPrintable '\\' = true := by decide
  cases h with
  | letter hprintable h =>
    rcases List.mem_cons.mp hc with rfl | hc
    · exact hslash
    · exact List.mem_singleton.mp hc ▸ hprintable
  | number hprintable h hwidth =>
    rcases List.mem_cons.mp hc with rfl | hc
    · exact hslash
    · rcases List.mem_cons.mp hc with rfl | hc
      · exact hprintable
      · obtain ⟨m, hm, rfl⟩ := exists_hexDigit_of_mem hc
        exact hdigit m hm
  | plain hpoint hquote hslash hprintable => exact List.mem_singleton.mp hc ▸ hprintable

/-- What stands there does not begin with the quote. -/
theorem exists_cons (h : StandsAs quote point cs) (hquote : quote ≠ '\\') :
    ∃ first others, cs = first :: others ∧ first ≠ quote := by
  cases h with
  | letter => exact ⟨_, _, rfl, hquote.symm⟩
  | number => exact ⟨_, _, rfl, hquote.symm⟩
  | plain hpoint hne => exact ⟨_, _, rfl, hne⟩

/-- What stands for a code point is read as it, whatever is behind it. -/
theorem inside? (h : StandsAs quote point cs) (hquote : quote ≠ '\\') :
    inside? quote 0 (cs ++ rest) =
      (Literal.inside? quote 0 rest).map fun (t, rest) => (point :: t, rest) := by
  cases h with
  | letter hprintable h => exact inside?_escape [_] hquote (h rest)
  | @number mark width hprintable h hwidth =>
    refine inside?_escape (mark :: hexDigits width point.toNat) hquote ?_
    have hlimit : (some point.toNat).filter (· < 0x110000) = some point.toNat :=
      Option.filter_some_pos (decide_eq_true point.toNat_lt)
    rw [List.cons_append, h, readHex?_hexDigits rest hwidth, hlimit, Option.map_some,
      CodePoint.ofNat_toNat, List.length_cons, length_hexDigits]
  | @plain c hpoint hne hslash hprintable =>
    have hend : ¬(c == '\n' || c == '\r') = true := by
      rw [Bool.or_eq_true, beq_iff_eq, beq_iff_eq]
      rintro (rfl | rfl) <;> cases hprintable
    rw [hpoint, List.singleton_append, Literal.inside?, if_neg (by simpa using hne), if_neg hend,
      if_neg (by simpa using hslash)]

end StandsAs

theorem ne_backslash (hquote : quote = '\'' ∨ quote = '"') : quote ≠ '\\' := by
  rcases hquote with rfl | rfl <;> decide

theorem inside?_flatMap (hquote : quote = '\'' ∨ quote = '"') (t : Text) :
    inside? quote 0 (t.flatMap (escapePoint quote) ++ quote :: rest) = some (t, rest) := by
  induction t with
  | nil => rw [List.flatMap_nil, List.nil_append, inside?, if_pos (beq_self_eq_true quote)]
  | cons point t ih =>
    have hstands := standsAs_escapePoint hquote point
    rw [List.flatMap_cons, List.append_assoc, hstands.inside? (ne_backslash hquote), ih,
      Option.map_some]

theorem quoteFor_eq (t : Text) : quoteFor t = '\'' ∨ quoteFor t = '"' := by
  unfold quoteFor
  split
  · exact .inr rfl
  · exact .inl rfl

/-- A quoted text is a literal that has the text as its value. -/
theorem value?_quotedChars (t : Text) : value? (quotedChars t) = some t := by
  have hquote := quoteFor_eq t
  have hmark : (quoteFor t == '\'' || quoteFor t == '"') = true := by
    simpa using hquote
  unfold quotedChars
  dsimp only
  rw [List.cons_append, value?, if_pos hmark, inside?_flatMap hquote]

theorem value?_quoted (t : Text) : value? (quoted t).toList = some t := by
  rw [quoted, String.toList_ofList]
  exact value?_quotedChars t

end Literal

end Text

end GraphBind
