import GraphBind.Json.Encoding

/-!
# What UTF-8 is read back as

The bytes of a text are read as that text, by the reader that takes characters only
(`decode_encode`) and by the one that takes surrogates too (`decodePoints?_encode`). Both read one
character after the other, so that what counts is `next_encodeChar`.

The bytes of characters are not arbitrary (`mem_encodeChar`): none of them opens a mark that says
another encoding, and zero is the null character alone. A document without null characters and mark
is therefore taken for what it is (`detect_encode`).
-/

namespace GraphBind.Text.Utf8

/-! ## One character -/

/-- The byte that carries the last six bits of a number. -/
def continuation (n : Nat) : UInt8 := UInt8.ofNat (0x80 + n % 64)

theorem toNat_continuation (n : Nat) : (continuation n).toNat = 0x80 + n % 64 := by
  rw [continuation, UInt8.toNat_ofNat']
  omega

theorem follow_continuation {value low high taken k n : Nat} {bs : List UInt8}
    (hlow : low ≤ 0x80 + n % 64) (hhigh : 0x80 + n % 64 ≤ high) :
    follow value low high taken (k + 1) (continuation n :: bs) =
      follow (64 * value + n % 64) 0x80 0xBF (taken + 1) k bs := by
  rw [follow, toNat_continuation, if_pos (by simp [hlow, hhigh]), Nat.add_sub_cancel_left]

/-- A continuation that is not the first may be any. -/
theorem follow_inner {value taken k n : Nat} {bs : List UInt8} :
    follow value 0x80 0xBF taken (k + 1) (continuation n :: bs) =
      follow (64 * value + n % 64) 0x80 0xBF (taken + 1) k bs :=
  follow_continuation (by omega) (by omega)

section Leads

variable {surrogates : Bool} {n : Nat}

theorem lead?_one (h : n < 0x80) :
    lead? surrogates (UInt8.ofNat n) = some ⟨0, n, 0x80, 0xBF⟩ := by
  have hbyte : (UInt8.ofNat n).toNat = n := by
    rw [UInt8.toNat_ofNat']
    omega
  simp only [lead?, hbyte, if_pos h]

theorem lead?_two (hlow : 0x80 ≤ n) (hhigh : n < 0x800) :
    lead? surrogates (UInt8.ofNat (0xC0 + n / 64)) = some ⟨1, n / 64, 0x80, 0xBF⟩ := by
  have hbyte : (UInt8.ofNat (0xC0 + n / 64)).toNat = 0xC0 + n / 64 := by
    rw [UInt8.toNat_ofNat']
    omega
  simp only [lead?, hbyte]
  rw [if_neg (by omega), if_neg (by omega), if_pos (by omega), Nat.add_sub_cancel_left]

/-- The ranges of the second byte keep out what has a shorter form, and the surrogates. -/
theorem lead?_three (hlow : 0x800 ≤ n) (hhigh : n < 0x10000) (hn : n < 0xD800 ∨ 0xE000 ≤ n) :
    ∃ low high, lead? surrogates (UInt8.ofNat (0xE0 + n / 4096)) =
        some ⟨2, n / 4096, low, high⟩ ∧
      low ≤ 0x80 + n / 64 % 64 ∧ 0x80 + n / 64 % 64 ≤ high := by
  have hbyte : (UInt8.ofNat (0xE0 + n / 4096)).toNat = 0xE0 + n / 4096 := by
    rw [UInt8.toNat_ofNat']
    omega
  simp only [lead?, hbyte, beq_iff_eq]
  rw [if_neg (by omega), if_neg (by omega), if_neg (by omega)]
  by_cases hfirst : n / 4096 = 0
  · rw [if_pos (by omega), hfirst]
    exact ⟨_, _, rfl, by omega, by omega⟩
  · rw [if_neg (by omega)]
    by_cases hsurrogate : n / 4096 = 13
    · rw [if_pos (by omega), hsurrogate]
      refine ⟨_, _, rfl, by omega, ?_⟩
      split <;> omega
    · rw [if_neg (by omega), if_pos (by omega), Nat.add_sub_cancel_left]
      exact ⟨_, _, rfl, by omega, by omega⟩

/-- The first of four bytes says the range of the second, in which the written one lies. -/
theorem lead?_four (hlow : 0x10000 ≤ n) (hhigh : n < 0x110000) :
    ∃ low high, lead? surrogates (UInt8.ofNat (0xF0 + n / 262144)) =
        some ⟨3, n / 262144, low, high⟩ ∧
      low ≤ 0x80 + n / 4096 % 64 ∧ 0x80 + n / 4096 % 64 ≤ high := by
  have hbyte : (UInt8.ofNat (0xF0 + n / 262144)).toNat = 0xF0 + n / 262144 := by
    rw [UInt8.toNat_ofNat']
    omega
  simp only [lead?, hbyte, beq_iff_eq]
  rw [if_neg (by omega), if_neg (by omega), if_neg (by omega), if_neg (by omega),
    if_neg (by omega), if_neg (by omega)]
  by_cases hfirst : n / 262144 = 0
  · rw [if_pos (by omega), hfirst]
    exact ⟨_, _, rfl, by omega, by omega⟩
  · rw [if_neg (by omega)]
    by_cases hlast : n / 262144 = 4
    · rw [if_neg (by omega), if_pos (by omega), hlast]
      exact ⟨_, _, rfl, by omega, by omega⟩
    · rw [if_pos (by omega), Nat.add_sub_cancel_left]
      exact ⟨_, _, rfl, by omega, by omega⟩

end Leads

/-- The numbers of characters leave out the surrogates. -/
theorem toNat_char (c : Char) : c.toNat < 0xD800 ∨ 0xE000 ≤ c.toNat ∧ c.toNat < 0x110000 := by
  have h := c.valid
  simp only [UInt32.isValidChar, Nat.isValidChar] at h
  have hval : c.toNat = c.val.toNat := rfl
  omega

/-- A character is read from its bytes, whatever stands behind them. -/
theorem next_encodeChar (surrogates : Bool) (c : Char) :
    ∃ b bs, encodeChar c = b :: bs ∧
      ∀ rest, next surrogates b (bs ++ rest) = .ok (c.toNat, bs.length) := by
  have hc := toNat_char c
  unfold encodeChar
  dsimp only
  split
  · next hone =>
    refine ⟨_, _, rfl, fun rest => ?_⟩
    rw [next, lead?_one hone]
    rfl
  · split
    · next hone htwo =>
      refine ⟨_, _, rfl, fun rest => ?_⟩
      rw [next, lead?_two (by omega) htwo]
      change (follow _ _ _ _ (0 + 1) (continuation c.toNat :: rest)).map _ = _
      rw [follow_inner, show 64 * (c.toNat / 64) + c.toNat % 64 = c.toNat by omega]
      rfl
    · split
      · next htwo hthree =>
        obtain ⟨low, high, hlead, hlow, hhigh⟩ :=
          @lead?_three surrogates c.toNat (by omega) hthree (by omega)
        refine ⟨_, _, rfl, fun rest => ?_⟩
        rw [next, hlead]
        change (follow _ _ _ _ (1 + 1)
          (continuation (c.toNat / 64) :: continuation c.toNat :: rest)).map _ = _
        rw [follow_continuation hlow hhigh, follow_inner,
          show 64 * (64 * (c.toNat / 4096) + c.toNat / 64 % 64) + c.toNat % 64 = c.toNat by omega]
        rfl
      · next htwo hthree =>
        obtain ⟨low, high, hlead, hlow, hhigh⟩ :=
          @lead?_four surrogates c.toNat (by omega) (by omega)
        refine ⟨_, _, rfl, fun rest => ?_⟩
        rw [next, hlead]
        change (follow _ _ _ _ (2 + 1) (continuation (c.toNat / 4096) ::
          continuation (c.toNat / 64) :: continuation c.toNat :: rest)).map _ = _
        rw [follow_continuation hlow hhigh, follow_inner, follow_inner,
          show 64 * (64 * (64 * (c.toNat / 262144) + c.toNat / 4096 % 64) + c.toNat / 64 % 64) +
            c.toNat % 64 = c.toNat by omega]
        rfl

/-! ## Texts -/

/-- The bytes of a character are its number, if that is small, or lie above the ASCII ones. -/
theorem mem_encodeChar {c : Char} {b : UInt8} (h : b ∈ encodeChar c) :
    (b.toNat = c.toNat ∨ 0x80 ≤ b.toNat) ∧ b.toNat < 0xF5 := by
  have hc := toNat_char c
  have htail : ∀ n, b = UInt8.ofNat (0x80 + n % 64) →
      (b.toNat = c.toNat ∨ 0x80 ≤ b.toNat) ∧ b.toNat < 0xF5 := by
    rintro n rfl
    have := toNat_continuation n
    rw [continuation] at this
    omega
  unfold encodeChar at h
  dsimp only at h
  split at h
  · rw [List.mem_singleton] at h
    rw [h, UInt8.toNat_ofNat']
    omega
  · split at h
    · rcases List.mem_cons.mp h with rfl | h
      · rw [UInt8.toNat_ofNat']
        omega
      · exact htail _ (List.mem_singleton.mp h)
    · split at h
      · rcases List.mem_cons.mp h with rfl | h
        · rw [UInt8.toNat_ofNat']
          omega
        · simp only [List.mem_cons, List.not_mem_nil, or_false] at h
          exact h.elim (htail _) (htail _)
      · rcases List.mem_cons.mp h with rfl | h
        · rw [UInt8.toNat_ofNat']
          omega
        · simp only [List.mem_cons, List.not_mem_nil, or_false] at h
          exact h.elim (htail _) fun h => h.elim (htail _) (htail _)

theorem encode_cons (c : Char) (cs : List Char) : encode (c :: cs) = encodeChar c ++ encode cs :=
  List.flatMap_cons

/-- Decoding gives back what was encoded, wherever in the text it stands. -/
theorem decodeFrom_encode (cs : List Char) (offset : Nat) :
    decodeFrom offset (encode cs) = .ok cs := by
  induction cs generalizing offset with
  | nil => rw [encode, List.flatMap_nil, decodeFrom]
  | cons c cs ih =>
    obtain ⟨b, bs, hchar, hnext⟩ := next_encodeChar false c
    rw [encode_cons, hchar, List.cons_append, decodeFrom, hnext]
    dsimp only
    rw [List.drop_left, ih, Char.ofNat_toNat]
    rfl

/-- The bytes of a text are read as that text. -/
theorem decode_encode (cs : List Char) : decode (encode cs) = .ok cs := decodeFrom_encode cs 0

/-- No character has the number of a surrogate. -/
theorem codePoint_ofNat_toNat (c : Char) : CodePoint.ofNat c.toNat = .char c := by
  have hc := toNat_char c
  rw [CodePoint.ofNat, dif_neg, Char.ofNat_toNat]
  rintro ⟨hlow, hhigh⟩
  rw [CodePoint.firstSurrogate] at hlow hhigh
  omega

/-- Decoding that lets surrogates through gives back what was encoded as well. -/
theorem decodePoints?_encode (cs : List Char) :
    decodePoints? (encode cs) = some (Text.ofChars cs) := by
  induction cs with
  | nil =>
    rw [encode, List.flatMap_nil, decodePoints?]
    rfl
  | cons c cs ih =>
    obtain ⟨b, bs, hchar, hnext⟩ := next_encodeChar true c
    rw [encode_cons, hchar, List.cons_append, decodePoints?, hnext]
    dsimp only
    rw [List.drop_left, ih, codePoint_ofNat_toNat]
    rfl

theorem mem_encode_iff {cs : List Char} {b : UInt8} :
    b ∈ encode cs ↔ ∃ c ∈ cs, b ∈ encodeChar c :=
  List.mem_flatMap

theorem zero_notMem_encode {cs : List Char} (h : '\x00' ∉ cs) : 0 ∉ encode cs := by
  rw [mem_encode_iff]
  rintro ⟨c, hc, hb⟩
  obtain ⟨hzero | hbig, -⟩ := mem_encodeChar hb
  · have hnull : c = '\x00' := Char.toNat_inj.mp hzero.symm
    exact h (hnull ▸ hc)
  · exact absurd hbig (by decide)

theorem toNat_lt_of_mem_encode {cs : List Char} {b : UInt8} (h : b ∈ encode cs) :
    b.toNat < 0xF5 := by
  obtain ⟨c, -, hb⟩ := mem_encode_iff.mp h
  exact (mem_encodeChar hb).2

/-- Bytes that open with the byte order mark encode a text that does. -/
theorem head?_of_encode_mark {cs : List Char} {rest : List UInt8}
    (h : encode cs = 0xEF :: 0xBB :: 0xBF :: rest) : cs.head? = some '\uFEFF' := by
  have hmark : next false 0xEF (0xBB :: 0xBF :: rest) = .ok (0xFEFF, 2) := rfl
  have hdecode := decode_encode cs
  rw [h, decode, decodeFrom, hmark] at hdecode
  dsimp only at hdecode
  cases hrest : decodeFrom (0 + 1 + 2) (List.drop 2 (0xBB :: 0xBF :: rest)) with
  | error fault =>
    rw [hrest] at hdecode
    cases hdecode
  | ok after =>
    rw [hrest] at hdecode
    cases hdecode
    rfl

end GraphBind.Text.Utf8

/-! ## Documents -/

namespace GraphBind.Json

open Text.Utf8 (encode)

/-- Behind no mark, a document without zero bytes is in UTF-8. -/
theorem Encoding.ofZeros_eq_utf8 {bytes : List UInt8} (h : 0 ∉ bytes) : ofZeros bytes = utf8 := by
  unfold ofZeros
  split
  · next a b c d rest =>
    have ha : a ≠ 0 := fun ha => h (by simp [ha])
    have hb : b ≠ 0 := fun hb => h (by simp [hb])
    rw [if_neg (by simpa using ha), if_neg (by simpa using hb)]
  · next a b =>
    have ha : a ≠ 0 := fun ha => h (by simp [ha])
    have hb : b ≠ 0 := fun hb => h (by simp [hb])
    rw [if_neg (by simpa using ha), if_neg (by simpa using hb)]
  · rfl

/-- Text without null characters and without a mark in front is taken for UTF-8. -/
theorem Encoding.detect_encode {cs : List Char} (hnull : '\x00' ∉ cs)
    (hmark : cs.head? ≠ some '\uFEFF') :
    Encoding.detect (encode cs) = (.utf8, encode cs) := by
  have hzero := Text.Utf8.zero_notMem_encode hnull
  have hnone : marks.find? (fun entry => entry.1.isPrefixOf (encode cs)) = none := by
    rw [List.find?_eq_none]
    intro entry hentry hstart
    obtain ⟨rest, hrest⟩ := List.isPrefixOf_iff_prefix.mp hstart
    have hbytes : ∀ b ∈ entry.1, b ≠ 0 ∧ b.toNat < 0xF5 := by
      intro b hb
      have hmem : b ∈ encode cs := hrest ▸ List.mem_append_left rest hb
      exact ⟨fun h => hzero (h ▸ hmem), Text.Utf8.toNat_lt_of_mem_encode hmem⟩
    simp only [marks, List.mem_cons, List.not_mem_nil, or_false] at hentry
    rcases hentry with rfl | rfl | rfl | rfl | rfl
    · exact (hbytes 0 (by decide)).1 rfl
    · exact (hbytes 0 (by decide)).1 rfl
    · exact absurd (hbytes 0xFE (by decide)).2 (by decide)
    · exact absurd (hbytes 0xFE (by decide)).2 (by decide)
    · exact hmark (Text.Utf8.head?_of_encode_mark hrest.symm)
  rw [detect, hnone, ofZeros_eq_utf8 hzero]

/-- Bytes of UTF-8 are the document that the tokens of their text form. -/
theorem ofBytes?_encode_lex {cs : List Char} (hnull : '\x00' ∉ cs)
    (hmark : cs.head? ≠ some '\uFEFF') :
    ofBytes? (encode cs) = (ofLexemes (lex (.ofChars cs))).toOption := by
  rw [ofBytes?, Encoding.detect_encode hnull hmark]
  dsimp only [Encoding.decode?]
  rw [Text.Utf8.decodePoints?_encode, Option.bind_some]

end GraphBind.Json
