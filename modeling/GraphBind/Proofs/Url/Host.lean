import GraphBind.Proofs.Url.DomainName
import GraphBind.Url.Basic

/-!
# Escaped texts and hosts in their normal form

What an escaped text is made of: safe characters, and the characters of escapes. A text of safe
characters is left as it is, so that escaping is idempotent wherever escapes are safe themselves.

The normal form of a host either is a hexadecimal address, which was written in brackets, or is made
of characters that a host may hold as they are (`normalHost_eq_ok`). Its normal form in turn differs
from it in case only (`normalHost_of_forall_isHostChar`, `normalHost_of_isHexadecimal`).
-/

namespace GraphBind

/-! ## Digits -/

namespace Text

/-- The hexadecimal digits of both cases. -/
def hexDigitChars : List Char := "0123456789abcdefABCDEF".toList

/-- A hexadecimal digit is one of 22 characters. -/
theorem mem_hexDigitChars {c : Char} (h : (hexValue? c).isSome = true) : c ∈ hexDigitChars := by
  have hlow : c.toNat < 128 := by
    unfold hexValue? at h
    simp only [Bool.and_eq_true, decide_eq_true_eq, Char.le_def, UInt32.le_iff_toNat_le] at h
    have h9 : ('9' : Char).val.toNat = 57 := rfl
    have hf : ('f' : Char).val.toNat = 102 := rfl
    have hF : ('F' : Char).val.toNat = 70 := rfl
    change c.val.toNat < 128
    split at h
    · omega
    · split at h
      · omega
      · split at h
        · omega
        · simp at h
  have hall : ∀ n < 128, (hexValue? (Char.ofNat n)).isSome = true →
      Char.ofNat n ∈ hexDigitChars := by decide +kernel
  have hc := hall c.toNat hlow
  rw [Char.ofNat_toNat] at hc
  exact hc h

theorem hexValue?_toUpper_hexDigit (n : Nat) :
    (hexValue? (hexDigit (n % 16)).toUpper).isSome = true := by
  have hall : ∀ d < 16, (hexValue? (hexDigit d).toUpper).isSome = true := by decide
  exact hall _ (Nat.mod_lt _ (by decide))

end Text

/-! ## Escapes -/

namespace Url.Percent

variable {safe : Char → Bool}

/-- A character of an escape. -/
def isEscapePart (c : Char) : Bool := c == '%' || (Text.hexValue? c).isSome

theorem mem_of_isEscapePart {c : Char} (h : isEscapePart c = true) :
    c ∈ '%' :: Text.hexDigitChars := by
  unfold isEscapePart at h
  rw [Bool.or_eq_true] at h
  rcases h with h | h
  · rw [beq_iff_eq.mp h]
    exact List.mem_cons_self
  · exact List.mem_cons_of_mem _ (Text.mem_hexDigitChars h)

/-- An escape is made of percent signs and digits. -/
theorem isEscapePart_of_mem_escapeChar {c d : Char} (h : d ∈ escapeChar c) :
    isEscapePart d = true := by
  obtain ⟨b, -, hb⟩ := List.mem_flatMap.mp h
  simp only [escapeByte, Text.hexDigits, List.nil_append, List.map_cons, List.map_nil,
    List.cons_append, List.mem_cons, List.not_mem_nil, or_false] at hb
  rcases hb with rfl | rfl | rfl
  · rfl
  · simp [isEscapePart, Text.hexValue?_toUpper_hexDigit]
  · simp [isEscapePart, Text.hexValue?_toUpper_hexDigit]

theorem mem_escaped {c d : Char} (h : d ∈ if safe c then [c] else escapeChar c) :
    safe d = true ∨ isEscapePart d = true := by
  split at h
  · next hsafe =>
    rw [List.mem_singleton.mp h]
    exact .inl hsafe
  · exact .inr (isEscapePart_of_mem_escapeChar h)

/-- An escaped text holds safe characters and escapes only. -/
theorem mem_escape {cs : List Char} {d : Char} (h : d ∈ escape safe cs) :
    safe d = true ∨ isEscapePart d = true := by
  induction cs using escape.induct with
  | case1 a b cs hhex ih =>
    rw [escape, if_pos hhex] at h
    rw [Bool.and_eq_true] at hhex
    simp only [List.mem_cons] at h
    rcases h with rfl | rfl | rfl | h
    · exact .inr rfl
    · exact .inr (by simp [isEscapePart, hhex.1])
    · exact .inr (by simp [isEscapePart, hhex.2])
    · exact ih h
  | case2 a b cs hhex ih =>
    rw [escape, if_neg hhex] at h
    rcases List.mem_append.mp h with h | h
    · exact mem_escaped h
    · exact ih h
  | case3 c cs hshort ih =>
    rw [escape] at h
    · rcases List.mem_append.mp h with h | h
      · exact mem_escaped h
      · exact ih h
    · exact hshort
  | case4 => simp [escape] at h

/-- Where nothing has to be escaped, nothing is. -/
theorem escape_of_safe {cs : List Char} (h : ∀ c ∈ cs, safe c = true) : escape safe cs = cs := by
  induction cs using escape.induct with
  | case1 a b cs hhex ih =>
    rw [escape, if_pos hhex, ih]
    exact fun c hc => h c (by simp [hc])
  | case2 a b cs hhex ih =>
    rw [escape, if_neg hhex, if_pos (h _ List.mem_cons_self), ih]
    · rfl
    · exact fun c hc => h c (List.mem_cons_of_mem _ hc)
  | case3 c cs hshort ih =>
    rw [escape, if_pos (h _ List.mem_cons_self), ih]
    · rfl
    · exact fun c hc => h c (List.mem_cons_of_mem _ hc)
    · exact hshort
  | case4 => rfl

/-- Escaping twice is escaping once, if the characters of escapes are safe. -/
theorem escape_escape (hparts : ∀ c ∈ '%' :: Text.hexDigitChars, safe c = true) (cs : List Char) :
    escape safe (escape safe cs) = escape safe cs := by
  apply escape_of_safe
  intro c hc
  rcases mem_escape hc with h | h
  · exact h
  · exact hparts c (mem_of_isEscapePart h)

end Url.Percent

end GraphBind

namespace GraphBind.Url

variable {cs host : List Char}

/-! ## Addresses -/

theorem eq_dot_or_isDigit_of_looksDecimal {c : Char} (h : NumericHost.looksDecimal cs = true)
    (hc : c ∈ cs) : c = '.' ∨ NumericHost.isDigit c = true := by
  unfold NumericHost.looksDecimal at h
  have hparts := List.all_eq_true.mp (Bool.and_eq_true_iff.mp h).2
  have hwhole : ['.'].intercalate (cs.splitOn '.') = cs := List.intercalate_splitOn '.'
  rw [← hwhole] at hc
  rcases Text.mem_intercalate hc with hc | ⟨part, hpart, hc⟩
  · exact .inl (List.mem_singleton.mp hc)
  · have hdigits := (Bool.and_eq_true_iff.mp (hparts part hpart)).2
    exact .inr (List.all_eq_true.mp hdigits c hc)

theorem isHostChar_of_looksDecimal (h : NumericHost.looksDecimal cs = true) :
    ∀ c ∈ cs, isHostChar c = true := by
  intro c hc
  rcases eq_dot_or_isDigit_of_looksDecimal h hc with rfl | hdigit
  · rfl
  · unfold NumericHost.isDigit at hdigit
    unfold isHostChar Percent.isUnreserved
    simp [hdigit]

theorem looksDecimal_bracket (cs : List Char) : NumericHost.looksDecimal ('[' :: cs) = false := by
  rw [Bool.eq_false_iff]
  intro h
  rcases eq_dot_or_isDigit_of_looksDecimal h List.mem_cons_self with hdot | hdigit
  · exact absurd hdot (by decide)
  · exact absurd hdigit (by decide)

/-- A hexadecimal address has at least two colons. -/
theorem colon_mem_of_isHexadecimal (h : NumericHost.isHexadecimal cs = true) : ':' ∈ cs := by
  by_contra hcolon
  have hunits : NumericHost.units? (cs.takeWhile (· != '%')) = none := by
    have hone : ':' ∉ cs.takeWhile (· != '%') := fun hmem => hcolon (List.takeWhile_subset _ hmem)
    unfold NumericHost.units?
    dsimp only
    rw [List.splitOn_eq_singleton hone, if_pos (by rw [List.length_singleton]; decide)]
  unfold NumericHost.isHexadecimal at h
  rw [hunits] at h
  simp at h

theorem eq_of_brackets (hhead : cs.head? = some '[') (hlast : cs.getLast? = some ']') :
    cs = '[' :: ((cs.drop 1).dropLast ++ [']']) := by
  cases cs with
  | nil => cases hhead
  | cons c rest =>
    cases hhead
    cases rest with
    | nil => cases hlast
    | cons next rest =>
      rw [List.getLast?_cons_cons] at hlast
      obtain ⟨inner, hinner⟩ := List.getLast?_eq_some_iff.mp hlast
      rw [List.drop_one, List.tail_cons, hinner, List.dropLast_concat]

/-! ## Normal forms -/

theorem isHostChar_of_isEscapePart {c : Char} (h : Percent.isEscapePart c = true) :
    isHostChar c = true := by
  have hall : ('%' :: Text.hexDigitChars).all isHostChar = true := by decide
  exact List.all_eq_true.mp hall c (Percent.mem_of_isEscapePart h)

/-- A host in its normal form is a hexadecimal address, or holds characters of hosts only. -/
theorem normalHost_eq_ok (h : normalHost cs = .ok host) :
    (∀ c ∈ host, isHostChar c = true) ∨
      cs = '[' :: (host ++ [']']) ∧ NumericHost.isHexadecimal host = true := by
  unfold normalHost at h
  dsimp only at h
  split at h
  · cases h
    exact .inl fun c hc => by cases hc
  · split at h
    · next hlooks =>
      split at h
      · cases h
        exact .inl (isHostChar_of_looksDecimal hlooks)
      · cases h
    · split at h
      · next hbrackets =>
        split at h
        · next hhex =>
          cases h
          obtain ⟨hhead, hlast⟩ := Bool.and_eq_true_iff.mp hbrackets
          exact .inr ⟨eq_of_brackets (beq_iff_eq.mp hhead) (beq_iff_eq.mp hlast), hhex⟩
        · cases h
      · split at h
        · cases h
          refine .inl fun c hc => ?_
          rcases Percent.mem_escape hc with h | h
          · exact h
          · exact isHostChar_of_isEscapePart h
        · exact .inl fun c hc =>
            DomainName.isHostChar_of_mem_toAscii (mapError_eq_ok_iff.mp h) hc

/-- An address in brackets is its own normal form, without them. -/
theorem normalHost_of_isHexadecimal (h : NumericHost.isHexadecimal host = true) :
    normalHost ('[' :: (host ++ [']'])) = .ok host := by
  have hbrackets : (('[' :: (host ++ [']'])).head? == some '[' &&
      ('[' :: (host ++ [']'])).getLast? == some ']') = true := by
    rw [← List.cons_append, List.getLast?_concat]
    rfl
  have hinner : (('[' :: (host ++ [']'])).drop 1).dropLast = host := by
    simp
  unfold normalHost
  dsimp only
  rw [looksDecimal_bracket, if_neg (by simp), if_neg (by simp), if_pos hbrackets, hinner, if_pos h]

/-- A host of plain characters stays as it is, or is put into lower case. -/
theorem normalHost_of_forall_isHostChar {host' : List Char}
    (hchars : ∀ c ∈ host, isHostChar c = true) (h : normalHost host = .ok host') :
    host' = host ∨ host' = host.map Char.toLower := by
  have hascii : ∀ c ∈ host, c.toNat < 128 := fun c hc => toNat_lt_of_isHostChar (hchars c hc)
  unfold normalHost at h
  dsimp only at h
  split at h
  · next hempty =>
    cases h
    exact .inl (List.isEmpty_iff.mp hempty).symm
  · split at h
    · split at h
      · cases h
        exact .inl rfl
      · cases h
    · split at h
      · next hbrackets =>
        have hhead := beq_iff_eq.mp (Bool.and_eq_true_iff.mp hbrackets).1
        exact absurd (hchars '[' (List.mem_of_head? hhead)) (by decide)
      · have hall : host.all Label.isAscii = true :=
          List.all_eq_true.mpr fun c hc => decide_eq_true (hascii c hc)
        rw [if_pos hall, Text.lower_of_ascii hascii, Text.chars_ofChars] at h
        cases h
        refine .inr (Percent.escape_of_safe fun c hc => ?_)
        obtain ⟨d, hd, rfl⟩ := List.mem_map.mp hc
        exact isHostChar_toLower (hchars d hd)

end GraphBind.Url
