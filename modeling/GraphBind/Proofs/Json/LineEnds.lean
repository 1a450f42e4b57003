import GraphBind.Json.Read
import GraphBind.Proofs.Checks
import GraphBind.Text.Basic

/-!
# Line ends in documents

White space stands between tokens and in no token, so that it does not matter in which form the
lines of a document end: `ofLexemes_unifyEnds` says that a text is a document if and only if it is
one with all its line ends as line feeds, and then the same. What may differ is where a fault
stands, and which one is found.

A reader of a part of a token respects line ends (`Respects`) if it reads the same from both texts
and leaves the same text behind, up to line ends. All do but the one for strings: in a text that
ends soon behind a first half of a surrogate pair, it may find the fault only later. It still finds
one (`readString_unifyEnds`).
-/

namespace GraphBind.Json

/-- A text with every line end as one line feed. -/
def unifyEnds : Text → Text
  | [] => []
  | .char '\r' :: .char '\n' :: cs => .char '\n' :: unifyEnds cs
  | c :: cs => (if c == .char '\r' then .char '\n' else c) :: unifyEnds cs

variable {c : CodePoint} {cs t rest : Text}

theorem unifyEnds_cons (h : c ≠ .char '\r') : unifyEnds (c :: cs) = c :: unifyEnds cs := by
  rw [unifyEnds]
  · rw [if_neg (by simpa using h)]
  · rintro cs' rfl
    exact absurd rfl h

theorem unifyEnds_return (h : ∀ rest, cs ≠ .char '\n' :: rest) :
    unifyEnds (.char '\r' :: cs) = .char '\n' :: unifyEnds cs := by
  rw [unifyEnds]
  · rfl
  · rintro rest - rfl
    exact h rest rfl

/-- On characters this is what reading a text file does. -/
theorem unifyEnds_ofChars (cs : List Char) :
    unifyEnds (.ofChars cs) = .ofChars (Text.normalizeLines cs) := by
  fun_induction Text.normalizeLines cs with
  | case1 => rfl
  | case2 cs ih => exact congrArg (List.cons (CodePoint.char '\n')) ih
  | case3 c cs hne ih =>
    change unifyEnds (.char c :: Text.ofChars cs) = .char _ :: Text.ofChars _
    by_cases hc : c = '\r'
    · subst hc
      rw [unifyEnds_return, ih]
      · rfl
      · intro rest hrest
        cases cs with
        | nil => cases hrest
        | cons d ds =>
          cases hrest
          exact hne ds rfl rfl
    · rw [unifyEnds_cons (by simpa using hc), ih, if_neg (by simpa using hc)]

/-- How a text begins, and how it does with unified line ends. -/
theorem unifyEnds_cases (t : Text) :
    (t = [] ∧ unifyEnds t = []) ∨
      (∃ cs rest, t = .char '\r' :: cs ∧ unifyEnds t = .char '\n' :: rest) ∨
      ∃ c cs, c ≠ .char '\r' ∧ t = c :: cs ∧ unifyEnds t = c :: unifyEnds cs := by
  cases t with
  | nil => exact .inl ⟨rfl, rfl⟩
  | cons c cs =>
    by_cases hc : c = .char '\r'
    · subst hc
      refine .inr (.inl ⟨cs, ?_⟩)
      by_cases hfeed : ∃ rest, cs = .char '\n' :: rest
      · obtain ⟨rest, rfl⟩ := hfeed
        exact ⟨unifyEnds rest, rfl, rfl⟩
      · rw [not_exists] at hfeed
        exact ⟨unifyEnds cs, rfl, unifyEnds_return hfeed⟩
    · exact .inr (.inr ⟨c, cs, hc, rfl, unifyEnds_cons hc⟩)

/-- What is no line end stands at the beginning of both. -/
theorem eq_cons_of_unifyEnds (hc : c ≠ .char '\n') (h : unifyEnds t = c :: rest) :
    ∃ cs, t = c :: cs ∧ unifyEnds cs = rest := by
  obtain ⟨rfl, hunify⟩ | ⟨cs, _, rfl, hunify⟩ | ⟨d, cs, -, rfl, hunify⟩ := unifyEnds_cases t
  · cases h
  · rw [hunify] at h
    cases h
    exact absurd rfl hc
  · rw [hunify] at h
    cases h
    exact ⟨cs, rfl, rfl⟩

theorem isEmpty_unifyEnds : (unifyEnds t).isEmpty = t.isEmpty := by
  obtain ⟨rfl, -⟩ | ⟨cs, rest, rfl, h⟩ | ⟨c, cs, -, rfl, h⟩ := unifyEnds_cases t
  · rfl
  · rw [h]
    rfl
  · rw [h]
    rfl

theorem length_unifyEnds_le : (unifyEnds t).length ≤ t.length := by
  fun_induction unifyEnds t with
  | case1 => exact Nat.le_refl _
  | case2 cs ih =>
    simp only [List.length_cons]
    omega
  | case3 c cs _ ih =>
    simp only [List.length_cons]
    omega

/-! ## Numbers -/

/-- That a reader reads the same from a text with unified line ends, and leaves the same behind. -/
def Respects {α : Type} (read : Text → α × Text) : Prop :=
  ∀ t, read (unifyEnds t) = ((read t).1, unifyEnds (read t).2)

/-- A reader respects line ends if it takes none for the beginning of anything, and respects those
that stand further on. -/
theorem Respects.of_cons {α : Type} {read : Text → α × Text} {nothing : α}
    (hnil : read [] = (nothing, [])) (hreturn : ∀ cs, (read (.char '\r' :: cs)) =
      (nothing, .char '\r' :: cs))
    (hfeed : ∀ cs, read (.char '\n' :: cs) = (nothing, .char '\n' :: cs))
    (hcons : ∀ c cs, unifyEnds (c :: cs) = c :: unifyEnds cs →
      read (c :: unifyEnds cs) = ((read (c :: cs)).1, unifyEnds (read (c :: cs)).2)) :
    Respects read := by
  intro t
  obtain ⟨rfl, h⟩ | ⟨cs, rest, rfl, h⟩ | ⟨c, cs, hc, rfl, h⟩ := unifyEnds_cases t
  · rw [h, hnil, h]
  · rw [hreturn, h, hfeed]
  · rw [h]
    exact hcons c cs h

theorem splitDigits_cons_of_digit (h : c.satisfies Decimal.isDigit = true) :
    splitDigits (c :: cs) = (Text.chars [c] ++ (splitDigits cs).1, (splitDigits cs).2) := by
  unfold splitDigits
  rw [List.takeWhile_cons_of_pos h, List.dropWhile_cons_of_pos h, Text.chars, Text.chars,
    Text.chars, ← List.filterMap_append]
  rfl

theorem splitDigits_cons_of_not_digit (h : ¬c.satisfies Decimal.isDigit = true) :
    splitDigits (c :: cs) = ([], c :: cs) := by
  unfold splitDigits
  rw [List.takeWhile_cons_of_neg h, List.dropWhile_cons_of_neg h]
  rfl

/-- The digits at the beginning of a text end before a line end, if not earlier. -/
theorem respects_splitDigits : Respects splitDigits := by
  intro t
  induction t with
  | nil => rfl
  | cons c cs ih =>
    obtain ⟨h, -⟩ | ⟨_, rest, h, hunify⟩ | ⟨_, _, hc, h, hunify⟩ := unifyEnds_cases (c :: cs)
    · cases h
    · cases h
      rw [hunify, splitDigits_cons_of_not_digit (by decide),
        splitDigits_cons_of_not_digit (by decide), hunify]
    · cases h
      by_cases hdigit : c.satisfies Decimal.isDigit = true
      · rw [hunify, splitDigits_cons_of_digit hdigit, splitDigits_cons_of_digit hdigit, ih]
      · rw [hunify, splitDigits_cons_of_not_digit hdigit, splitDigits_cons_of_not_digit hdigit,
          hunify]

theorem readFraction_point :
    readFraction (.char '.' :: cs) =
      if (splitDigits cs).1.isEmpty then ([], .char '.' :: cs) else splitDigits cs := by
  rw [readFraction]
  split
  · next rest h =>
    rw [h]
    rfl
  · next h =>
    rw [if_neg]
    intro hempty
    exact h _ (Prod.ext (List.isEmpty_iff.mp hempty) rfl)

/-- A fraction is a point and digits, of which none is a line end. -/
theorem respects_readFraction : Respects readFraction := by
  refine .of_cons rfl (fun _ => rfl) (fun _ => rfl) fun c cs h => ?_
  by_cases hc : c = .char '.'
  · subst hc
    rw [readFraction_point, readFraction_point, respects_splitDigits cs]
    split
    · rw [h]
    · rfl
  · have hother : ∀ cs, readFraction (c :: cs) = ([], c :: cs) := by
      intro cs
      rw [readFraction]
      simpa using hc
    rw [hother, hother, h]

theorem respects_splitSign : Respects splitSign := by
  refine .of_cons rfl (fun _ => rfl) (fun _ => rfl) fun c cs h => ?_
  by_cases hminus : c = .char '-'
  · subst hminus
    rfl
  · by_cases hplus : c = .char '+'
    · subst hplus
      rfl
    · have hother : ∀ cs, splitSign (c :: cs) = (false, c :: cs) := by
        intro cs
        rw [splitSign]
        · simpa using hminus
        · simpa using hplus
      rw [hother, hother, h]

theorem respects_splitMinus : Respects splitMinus := by
  refine .of_cons rfl (fun _ => rfl) (fun _ => rfl) fun c cs h => ?_
  by_cases hminus : c = .char '-'
  · subst hminus
    rfl
  · have hother : ∀ cs, splitMinus (c :: cs) = (false, c :: cs) := by
      intro cs
      rw [splitMinus]
      simpa using hminus
    rw [hother, hother, h]

/-- An exponent is a letter, a sign and digits, of which none is a line end. -/
theorem respects_readExponent : Respects readExponent := by
  refine .of_cons rfl (fun _ => rfl) (fun _ => rfl) fun c cs h => ?_
  unfold readExponent
  dsimp only
  rw [respects_splitSign cs]
  dsimp only
  rw [respects_splitDigits (splitSign cs).2]
  split
  · rfl
  · rw [h]

theorem respects_splitWhole : Respects splitWhole := by
  refine .of_cons rfl (fun _ => rfl) (fun _ => rfl) fun c cs h => ?_
  by_cases hzero : c = .char '0'
  · subst hzero
    rfl
  · have hother : ∀ cs, splitWhole (c :: cs) = splitDigits (c :: cs) := by
      intro cs
      rw [splitWhole]
      simpa using hzero
    rw [hother, hother, ← h]
    exact respects_splitDigits (c :: cs)

/-- A number is read alike, with the same text behind it. -/
theorem readNumeral?_unifyEnds :
    readNumeral? (unifyEnds t) = (readNumeral? t).map fun p => (p.1, unifyEnds p.2) := by
  unfold readNumeral?
  dsimp only
  rw [respects_splitMinus t]
  dsimp only
  rw [respects_splitWhole (splitMinus t).2]
  dsimp only
  split
  · rfl
  · rw [respects_readFraction (splitWhole (splitMinus t).2).2]
    dsimp only
    rw [respects_readExponent (readFraction (splitWhole (splitMinus t).2).2).2]
    rfl

/-! ## Words -/

/-- A word without line ends begins a text alike, with the same text behind it. -/
theorem isPrefixOf_unifyEnds {word : Text} (h : ∀ c ∈ word, c ≠ .char '\r' ∧ c ≠ .char '\n') :
    word.isPrefixOf (unifyEnds t) = word.isPrefixOf t ∧
      (word.isPrefixOf t = true →
        (unifyEnds t).drop word.length = unifyEnds (t.drop word.length)) := by
  induction word generalizing t with
  | nil => exact ⟨rfl, fun _ => rfl⟩
  | cons w word ih =>
    obtain ⟨hw, hword⟩ := List.forall_mem_cons.mp h
    obtain ⟨rfl, hunify⟩ | ⟨cs, rest, rfl, hunify⟩ | ⟨c, cs, hc, rfl, hunify⟩ := unifyEnds_cases t
    · exact ⟨rfl, fun _ => rfl⟩
    · have hother : ∀ c cs, w ≠ c → (w :: word).isPrefixOf (c :: cs) = false := by
        intro c cs hne
        rw [List.isPrefixOf_cons_cons, beq_false_of_ne hne, Bool.false_and]
      rw [hunify, hother _ _ hw.1, hother _ _ hw.2]
      exact ⟨rfl, fun h => absurd h Bool.false_ne_true⟩
    · obtain ⟨hstart, hdrop⟩ := ih (t := cs) hword
      rw [hunify, List.isPrefixOf_cons_cons, List.isPrefixOf_cons_cons, hstart]
      refine ⟨rfl, fun h => ?_⟩
      rw [Bool.and_eq_true] at h
      rw [List.length_cons, List.drop_succ_cons, List.drop_succ_cons, hdrop h.2]

/-- A word is read alike, with the same text behind it. -/
theorem readWord?_unifyEnds :
    readWord? (unifyEnds t) = (readWord? t).map fun p => (p.1, unifyEnds p.2) := by
  have hall : ∀ p ∈ words, ∀ c ∈ p.1, c ≠ .char '\r' ∧ c ≠ .char '\n' := by decide
  unfold readWord?
  revert hall
  generalize words = known
  intro hall
  induction known with
  | nil => rfl
  | cons p known ih =>
    obtain ⟨hp, hknown⟩ := List.forall_mem_cons.mp hall
    obtain ⟨hstart, hdrop⟩ := isPrefixOf_unifyEnds (t := t) hp
    rw [List.findSome?_cons, List.findSome?_cons]
    dsimp only
    rw [hstart, ih hknown]
    by_cases hw : p.1.isPrefixOf t = true
    · rw [if_pos hw, if_pos hw, hdrop hw]
      rfl
    · rw [if_neg hw, if_neg hw]

/-! ## Strings -/

/-- Hexadecimal digits are read alike: a line end is none, before and after. -/
theorem readHex?_unifyEnds {width n : Nat} :
    readHex? width n (unifyEnds t) = readHex? width n t := by
  induction width generalizing n t with
  | zero => rfl
  | succ width ih =>
    obtain ⟨rfl, h⟩ | ⟨cs, rest, rfl, h⟩ | ⟨c, cs, -, rfl, h⟩ := unifyEnds_cases t
    · rfl
    · rw [h]
      rfl
    · rw [h, readHex?, readHex?]
      exact Option.bind_congr fun _ _ => ih

/-- Behind digits that are read the texts agree again. -/
theorem drop_unifyEnds {width n m : Nat} (h : readHex? width n t = some m) :
    (unifyEnds t).drop width = unifyEnds (t.drop width) := by
  induction width generalizing n t with
  | zero => rfl
  | succ width ih =>
    obtain ⟨rfl, hunify⟩ | ⟨cs, rest, rfl, hunify⟩ | ⟨c, cs, -, rfl, hunify⟩ := unifyEnds_cases t
    · rfl
    · cases h
    · rw [readHex?, Option.bind_eq_some_iff] at h
      obtain ⟨d, -, h⟩ := h
      rw [hunify, List.drop_succ_cons, List.drop_succ_cons, ih h]

/-- A code unit is read alike, with the same text behind it. -/
theorem readUnit?_unifyEnds :
    readUnit? (unifyEnds t) = (readUnit? t).map fun p => (p.1, unifyEnds p.2) := by
  unfold readUnit?
  rw [readHex?_unifyEnds]
  cases h : readHex? 4 0 t with
  | none => simp
  | some n =>
    rw [drop_unifyEnds h, isEmpty_unifyEnds]
    split
    · rfl
    · rfl

theorem isEmpty_drop_unifyEnds {n : Nat} (h : (t.drop n).isEmpty = true) :
    ((unifyEnds t).drop n).isEmpty = true := by
  rw [List.isEmpty_iff, List.drop_eq_nil_iff] at h ⊢
  exact Nat.le_trans length_unifyEnds_le h

theorem unifyEnds_unit : unifyEnds (.char '\\' :: .char 'u' :: cs) =
    .char '\\' :: .char 'u' :: unifyEnds cs := by
  rw [unifyEnds_cons (by decide), unifyEnds_cons (by decide)]

theorem eq_unit_of_unifyEnds (h : unifyEnds t = .char '\\' :: .char 'u' :: rest) :
    ∃ cs, t = .char '\\' :: .char 'u' :: cs := by
  obtain ⟨behind, rfl, hbehind⟩ := eq_cons_of_unifyEnds (by decide) h
  obtain ⟨cs, rfl, -⟩ := eq_cons_of_unifyEnds (by decide) hbehind
  exact ⟨cs, rfl⟩

/-- That a text goes on with an escape that cannot be read. -/
def OpensBadUnit (t : Text) : Prop :=
  ∃ cs, t = .char '\\' :: .char 'u' :: cs ∧ readUnit? cs = none

theorem readSecondHalf_of_ne {high : Nat} (h : ∀ cs, t ≠ .char '\\' :: .char 'u' :: cs) :
    readSecondHalf high t = .ok (.ofNat high, t) := by
  rw [readSecondHalf]
  exact h

theorem readSecondHalf_of_unit {high low : Nat} {after : Text}
    (h : readUnit? cs = some (low, after)) :
    readSecondHalf high (.char '\\' :: .char 'u' :: cs) =
      if Text.Wide.isLowSurrogate low then
        .ok (.char (Char.ofNat (Text.Wide.joinSurrogates high low)), after)
      else .ok (.ofNat high, .char '\\' :: .char 'u' :: cs) := by
  have hmore : (cs.drop 4).isEmpty = false := by
    unfold readUnit? at h
    split at h
    · cases h
    · next hmore => exact Bool.eq_false_iff.mpr hmore
  rw [readSecondHalf, if_neg (Bool.eq_false_iff.mp hmore), h]

/-- Behind an escape that cannot be read, the text may end too soon for that to be seen. -/
theorem readSecondHalf_of_bad_unit {high : Nat} (h : readUnit? cs = none) :
    readSecondHalf high (.char '\\' :: .char 'u' :: cs) =
      if (cs.drop 4).isEmpty then .ok (.ofNat high, .char '\\' :: .char 'u' :: cs)
      else .error (.unicode (.char 'u' :: cs)) := by
  rw [readSecondHalf, h]

/-- The second half of a pair is read alike, or left for later alike. -/
theorem readSecondHalf_unifyEnds_ok {high : Nat} (h : readSecondHalf high t = .ok (c, rest)) :
    readSecondHalf high (unifyEnds t) = .ok (c, unifyEnds rest) := by
  by_cases hunit : ∃ cs, t = .char '\\' :: .char 'u' :: cs
  · obtain ⟨cs, rfl⟩ := hunit
    have hunify := readUnit?_unifyEnds (t := cs)
    rw [unifyEnds_unit]
    cases hcs : readUnit? cs with
    | none =>
      rw [hcs] at hunify
      rw [readSecondHalf_of_bad_unit hcs] at h
      split at h
      · next hend =>
        cases h
        rw [readSecondHalf_of_bad_unit hunify, if_pos (isEmpty_drop_unifyEnds hend), unifyEnds_unit]
      · cases h
    | some p =>
      rw [hcs] at hunify
      rw [readSecondHalf_of_unit hcs] at h
      rw [readSecondHalf_of_unit hunify]
      split at h
      · next hlow =>
        cases h
        rw [if_pos hlow]
      · next hlow =>
        cases h
        rw [if_neg hlow, unifyEnds_unit]
  · rw [not_exists] at hunit
    rw [readSecondHalf_of_ne hunit] at h
    cases h
    rw [readSecondHalf_of_ne]
    intro cs hcs
    obtain ⟨cs', rfl⟩ := eq_unit_of_unifyEnds hcs
    exact hunit cs' rfl

/-- Where a second half is read with unified line ends only, an escape that cannot be read follows
it. -/
theorem opensBadUnit_of_readSecondHalf {high : Nat} {fault : Fault}
    (h : readSecondHalf high t = .error fault)
    (hunify : readSecondHalf high (unifyEnds t) = .ok (c, rest)) : OpensBadUnit rest := by
  by_cases hunit : ∃ cs, t = .char '\\' :: .char 'u' :: cs
  · obtain ⟨cs, rfl⟩ := hunit
    have hread := readUnit?_unifyEnds (t := cs)
    cases hcs : readUnit? cs with
    | none =>
      rw [hcs] at hread
      rw [unifyEnds_unit, readSecondHalf_of_bad_unit hread] at hunify
      split at hunify
      · cases hunify
        exact ⟨_, rfl, hread⟩
      · cases hunify
    | some p =>
      rw [readSecondHalf_of_unit hcs] at h
      split at h
      · cases h
      · cases h
  · rw [readSecondHalf_of_ne (not_exists.mp hunit)] at h
    cases h

/-- An escape of a code point is read alike, with the same text behind it. -/
theorem readUnicode_unifyEnds_ok (h : readUnicode t = .ok (c, rest)) :
    readUnicode (unifyEnds t) = .ok (c, unifyEnds rest) := by
  unfold readUnicode at h ⊢
  rw [readUnit?_unifyEnds]
  cases ht : readUnit? t with
  | none =>
    rw [ht] at h
    cases h
  | some p =>
    rw [ht] at h
    dsimp only [Option.map_some] at h ⊢
    split at h
    · next hhigh =>
      rw [if_pos hhigh]
      exact readSecondHalf_unifyEnds_ok h
    · next hhigh =>
      cases h
      rw [if_neg hhigh]

theorem opensBadUnit_of_readUnicode {fault : Fault} (h : readUnicode t = .error fault)
    (hunify : readUnicode (unifyEnds t) = .ok (c, rest)) : OpensBadUnit rest := by
  unfold readUnicode at h hunify
  rw [readUnit?_unifyEnds] at hunify
  cases ht : readUnit? t with
  | none =>
    rw [ht] at hunify
    cases hunify
  | some p =>
    rw [ht] at h hunify
    dsimp only [Option.map_some] at h hunify
    split at h
    · next hhigh =>
      rw [if_pos hhigh] at hunify
      exact opensBadUnit_of_readSecondHalf h hunify
    · cases h

/-- Every escape that is read at all is read alike. -/
theorem readEscape_unifyEnds_ok (h : readEscape t = .ok (c, rest)) :
    readEscape (unifyEnds t) = .ok (c, unifyEnds rest) := by
  obtain ⟨rfl, -⟩ | ⟨cs, _, rfl, -⟩ | ⟨d, cs, -, rfl, hunify⟩ := unifyEnds_cases t
  · cases h
  · cases h
  · rw [hunify]
    unfold readEscape at h ⊢
    dsimp only at h ⊢
    split at h
    · next hu =>
      rw [if_pos hu]
      exact readUnicode_unifyEnds_ok h
    · next hu =>
      rw [if_neg hu]
      split at h
      · cases h
        rfl
      · cases h

/-- Where no escape is read, none is read with unified line ends, or one that is followed by another
which cannot be read. -/
theorem opensBadUnit_of_readEscape {fault : Fault} (h : readEscape t = .error fault)
    (hunify : readEscape (unifyEnds t) = .ok (c, rest)) : OpensBadUnit rest := by
  obtain ⟨rfl, -⟩ | ⟨cs, _, rfl, hends⟩ | ⟨d, cs, -, rfl, hends⟩ := unifyEnds_cases t
  · cases hunify
  · rw [hends] at hunify
    cases hunify
  · rw [hends] at hunify
    unfold readEscape at h hunify
    dsimp only at h hunify
    split at h
    · next hu =>
      rw [if_pos hu] at hunify
      exact opensBadUnit_of_readUnicode h hunify
    · next hu =>
      rw [if_neg hu] at hunify
      split at h
      · cases h
      · next he =>
        rw [he] at hunify
        cases hunify

theorem readString_escape {cs rest : Text} {e : CodePoint} (h : readEscape cs = .ok (e, rest)) :
    readString (.char '\\' :: cs) = (readString rest).map fun p => (e :: p.1, p.2) := by
  rw [readString]
  rw [if_neg (by decide), if_pos (by decide)]
  split
  · next fault h' =>
    rw [h] at h'
    cases h'
  · next e' rest' h' =>
    rw [h] at h'
    cases h'
    rfl

theorem readString_escape_error {cs : Text} {fault : Fault} (h : readEscape cs = .error fault) :
    readString (.char '\\' :: cs) = .error fault := by
  rw [readString]
  rw [if_neg (by decide), if_pos (by decide)]
  split
  · next fault' h' =>
    rw [h] at h'
    cases h'
    rfl
  · next e' rest' h' =>
    rw [h] at h'
    cases h'

theorem OpensBadUnit.readString (h : OpensBadUnit t) : (readString t).toOption = none := by
  obtain ⟨cs, rfl, hcs⟩ := h
  have hescape : readEscape (.char 'u' :: cs) = .error (.unicode (.char 'u' :: cs)) := by
    rw [readEscape, if_pos (by decide), readUnicode, hcs]
  rw [readString_escape_error hescape]
  rfl

/-- A string is read in both texts or in none, and then the same. -/
theorem readString_unifyEnds : (readString (unifyEnds t)).toOption =
    (readString t).toOption.map fun p => (p.1, unifyEnds p.2) := by
  fun_induction readString t with
  | case1 =>
    rw [unifyEnds, readString]
    rfl
  | case2 c cs hquote =>
    rw [unifyEnds_cons (by rintro rfl; cases hquote), readString, if_pos hquote]
    rfl
  | case3 c cs hquote hslash fault hescape =>
    obtain rfl := beq_iff_eq.mp hslash
    rw [unifyEnds_cons (by decide)]
    cases hunify : readEscape (unifyEnds cs) with
    | error fault' =>
      rw [readString_escape_error hunify]
      rfl
    | ok p =>
      rw [readString_escape hunify, toOption_map,
        (opensBadUnit_of_readEscape hescape hunify).readString]
      rfl
  | case4 c cs hquote hslash e after hescape hlt ih =>
    obtain rfl := beq_iff_eq.mp hslash
    rw [unifyEnds_cons (by decide), readString_escape (readEscape_unifyEnds_ok hescape),
      toOption_map, ih, toOption_map, Option.map_map, Option.map_map]
    rfl
  | case5 c cs hquote hslash hcontrol =>
    obtain ⟨h, -⟩ | ⟨_, rest, -, hunify⟩ | ⟨_, _, -, h, hunify⟩ := unifyEnds_cases (c :: cs)
    · cases h
    · rw [hunify, readString, if_neg (by decide), if_neg (by decide), if_pos (by decide)]
      rfl
    · cases h
      rw [hunify, readString, if_neg hquote, if_neg hslash, if_pos hcontrol]
      rfl
  | case6 c cs hquote hslash hcontrol ih =>
    rw [unifyEnds_cons (by rintro rfl; exact hcontrol (by decide)), readString, if_neg hquote,
      if_neg hslash, if_neg hcontrol, toOption_map, ih, toOption_map, Option.map_map,
      Option.map_map]
    rfl

/-! ## Tokens -/

/-- A token, if it is one. -/
def Token.good? : Token → Option Token
  | .bad _ => none
  | token => some token

/-- Two tokens that are good alike are one token, or both are bad. -/
theorem eq_of_good? {token token' : Token} (h : token.good? = token'.good?) :
    token = token' ∨ (∃ fault, token = .bad fault) ∧ ∃ fault, token' = .bad fault := by
  cases token with
  | bad fault =>
    cases token' with
    | bad fault' => exact .inr ⟨⟨fault, rfl⟩, fault', rfl⟩
    | _ => cases h
  | _ =>
    cases token' with
    | bad fault' => cases h
    | _ => exact .inl (Option.some.inj h)

/-- Both texts begin with the same token, or with none, and go on alike. -/
theorem readToken_unifyEnds (hc : c ≠ .char '\r') :
    (readToken c (unifyEnds cs)).1.good? = (readToken c cs).1.good? ∧
      (readToken c (unifyEnds cs)).2 = unifyEnds (readToken c cs).2 := by
  have hword := readWord?_unifyEnds (t := c :: cs)
  have hnumeral := readNumeral?_unifyEnds (t := c :: cs)
  rw [unifyEnds_cons hc] at hword hnumeral
  unfold readToken
  split
  · exact ⟨rfl, rfl⟩
  · split
    · have hstring := readString_unifyEnds (t := cs)
      cases hcs : readString cs with
      | error fault =>
        cases hunify : readString (unifyEnds cs) with
        | error fault' => exact ⟨rfl, rfl⟩
        | ok p =>
          rw [hcs, hunify] at hstring
          cases hstring
      | ok p =>
        cases hunify : readString (unifyEnds cs) with
        | error fault' =>
          rw [hcs, hunify] at hstring
          cases hstring
        | ok p' =>
          rw [hcs, hunify] at hstring
          cases hstring
          exact ⟨rfl, rfl⟩
    · rw [hword, hnumeral]
      cases readWord? (c :: cs) with
      | some p => exact ⟨rfl, rfl⟩
      | none =>
        cases readNumeral? (c :: cs) with
        | some p => exact ⟨rfl, rfl⟩
        | none => exact ⟨rfl, rfl⟩

theorem lex_cons_of_space (h : isSpace c = true) : lex (c :: cs) = lex cs := by
  rw [lex, if_pos h]

/-- The tokens of a text with unified line ends are those of the text, faults apart, by induction
along the lexer. -/
theorem lex_unifyEnds :
    (lex (unifyEnds t)).map (·.token.good?) = (lex t).map (·.token.good?) := by
  fun_induction lex t with
  | case1 => rw [unifyEnds, lex]
  | case2 c cs hspace ih =>
    by_cases hc : c = .char '\r'
    · subst hc
      by_cases hfeed : ∃ rest, cs = .char '\n' :: rest
      · obtain ⟨rest, rfl⟩ := hfeed
        have hfeed : unifyEnds (.char '\n' :: rest) = .char '\n' :: unifyEnds rest :=
          unifyEnds_cons (by decide)
        rw [unifyEnds, ← hfeed, ih]
      · rw [unifyEnds_return (not_exists.mp hfeed), lex_cons_of_space (by decide), ih]
    · rw [unifyEnds_cons hc, lex_cons_of_space hspace, ih]
  | case3 c cs hspace ih =>
    have hc : c ≠ .char '\r' := by
      rintro rfl
      exact hspace (by decide)
    obtain ⟨htoken, hrest⟩ := @readToken_unifyEnds c cs hc
    rw [unifyEnds_cons hc, lex, if_neg hspace, List.map_cons, List.map_cons, hrest, ih, htoken]

/-! ## Documents -/

section Steps

variable {stack : List Frame} {done : List (Text × Json)} {value : Json} {mode : Mode}
  {token : Token} {start start' : Text}

theorem startValue_start : (startValue stack ⟨token, start⟩).toOption =
    (startValue stack ⟨token, start'⟩).toOption := by
  cases token <;> rfl

theorem startKey_start : (startKey stack done ⟨token, start⟩).toOption =
    (startKey stack done ⟨token, start'⟩).toOption := by
  cases token with
  | scalar s => cases s <;> rfl
  | _ => rfl

theorem continueValue_start : (continueValue stack value ⟨token, start⟩).toOption =
    (continueValue stack value ⟨token, start'⟩).toOption := by
  cases stack with
  | nil => rfl
  | cons frame outer => cases frame <;> cases token <;> rfl

theorem step_firstItem (h : token ≠ .closeArray) :
    step stack .firstItem ⟨token, start⟩ = startValue (.items [] :: stack) ⟨token, start⟩ := by
  unfold step
  dsimp only
  split
  · exact absurd rfl h
  · rfl

theorem step_firstKey (h : token ≠ .closeObject) :
    step stack .firstKey ⟨token, start⟩ = startKey stack [] ⟨token, start⟩ := by
  unfold step
  dsimp only
  split
  · exact absurd rfl h
  · rfl

/-- Where a token stands tells only where a fault is. -/
theorem step_start : (step stack mode ⟨token, start⟩).toOption =
    (step stack mode ⟨token, start'⟩).toOption := by
  cases mode with
  | value => exact startValue_start
  | firstItem =>
    by_cases h : token = .closeArray
    · subst h
      rfl
    · rw [step_firstItem h, step_firstItem h]
      exact startValue_start
  | firstKey =>
    by_cases h : token = .closeObject
    · subst h
      rfl
    · rw [step_firstKey h, step_firstKey h]
      exact startKey_start
  | key done => exact startKey_start
  | colon done key => cases token <;> rfl
  | next value => exact continueValue_start

/-- What is no token is refused everywhere. -/
theorem step_bad {fault : Fault} : (step stack mode ⟨.bad fault, start⟩).toOption = none := by
  cases mode with
  | next value =>
    cases stack with
    | nil => rfl
    | cons frame outer => cases frame <;> rfl
  | _ => rfl

theorem step_congr {l l' : Lexeme} (h : l.token.good? = l'.token.good?) :
    (step stack mode l).toOption = (step stack mode l').toOption := by
  obtain ⟨token, start⟩ := l
  obtain ⟨token', start'⟩ := l'
  obtain rfl | ⟨⟨fault, rfl⟩, fault', rfl⟩ := eq_of_good? h
  · exact step_start
  · rw [step_bad, step_bad]

/-- What comes of tokens does not depend on which faults they have. -/
theorem run_congr {ls ls' : List Lexeme}
    (h : ls.map (·.token.good?) = ls'.map (·.token.good?)) :
    (run stack mode ls).toOption = (run stack mode ls').toOption := by
  induction ls generalizing ls' stack mode with
  | nil =>
    cases ls' with
    | nil => rfl
    | cons l' ls' => cases h
  | cons l ls ih =>
    cases ls' with
    | nil => cases h
    | cons l' ls' =>
      obtain ⟨hl, hls⟩ := List.cons_eq_cons.mp h
      rw [run, run, toOption_bind, toOption_bind, step_congr hl]
      exact Option.bind_congr fun _ _ => ih hls

end Steps

/-- Line ends are white space: a text is a document if and only if it is one with unified line ends,
and then the same. -/
theorem ofLexemes_unifyEnds :
    (ofLexemes (lex (unifyEnds t))).toOption = (ofLexemes (lex t)).toOption :=
  run_congr lex_unifyEnds

theorem toOption_ofText (h : t.head? ≠ some (.char '\uFEFF')) :
    (ofText t).toOption = (ofLexemes (lex t)).toOption := by
  unfold ofText
  rw [if_neg (by simpa using h)]
  cases ofLexemes (lex t) with
  | error e => rfl
  | ok d => rfl

theorem head?_unifyEnds (hc : c ≠ .char '\n') (h : t.head? ≠ some c) :
    (unifyEnds t).head? ≠ some c := by
  intro hunify
  obtain ⟨rest, hrest⟩ := List.head?_eq_some_iff.mp hunify
  obtain ⟨cs, rfl, -⟩ := eq_cons_of_unifyEnds hc hrest
  exact h rfl

theorem head?_ofChars {cs : List Char} {c : Char} (h : cs.head? ≠ some c) :
    (Text.ofChars cs).head? ≠ some (.char c) := by
  rw [Text.ofChars, List.head?_map]
  intro hmap
  obtain ⟨d, hd, hdc⟩ := Option.map_eq_some_iff.mp hmap
  cases hdc
  exact h hd

/-- A text without byte order mark is the same document, or none, with its lines normalized. -/
theorem toOption_ofText_normalizeLines {cs : List Char} (h : cs.head? ≠ some '\uFEFF') :
    (ofText (.ofChars (Text.normalizeLines cs))).toOption = (ofText (.ofChars cs)).toOption := by
  have hmark := head?_ofChars h
  rw [← unifyEnds_ofChars, toOption_ofText (head?_unifyEnds (by decide) hmark),
    toOption_ofText hmark, ofLexemes_unifyEnds]

end GraphBind.Json
