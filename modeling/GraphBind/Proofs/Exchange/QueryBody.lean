import GraphBind.Exchange.Request
import GraphBind.Proofs.Json.LineEnds
import GraphBind.Proofs.Text.Literal
import GraphBind.Proofs.Text.Utf8

/-!
# What the body of a query is read as

The body that asks a query is a document with one member, the text of the query
(`ofBytes?_queryBody`). A string of a document is read one code point after the other, so what
counts is how one character can stand there (`Escapes`), and that it is read with any text behind it
(`Escapes.readString`). A body that is read as a text is the body of that text only
(`eq_of_ofBytes?_queryBody`).
-/

namespace GraphBind

namespace Json

open Request (escapeChar)
open Text (ofChars)

variable {c : Char} {rest : List Char}

/-! ## Strings -/

theorem readHex?_ofChars {width n : Nat} (cs : List Char) :
    readHex? width n (ofChars cs) = Text.readHex? width n cs := by
  induction width generalizing n cs with
  | zero => cases cs <;> rfl
  | succ width ih =>
    cases cs with
    | nil => rfl
    | cons c cs =>
      change ((CodePoint.char c).char?.bind Text.hexValue?).bind _ = _
      rw [Text.readHex?]
      exact congrArg (Option.bind (Text.hexValue? c)) (funext fun d => ih cs)

/-- A code unit is read from its digits, if something follows them. -/
theorem readUnit?_hexDigits {n : Nat} (hn : n < 16 ^ 4) (hrest : rest ≠ []) :
    readUnit? (ofChars (Text.hexDigits 4 n ++ rest)) = some (n, ofChars rest) := by
  have hdrop : (ofChars (Text.hexDigits 4 n ++ rest)).drop 4 = ofChars rest := by
    rw [ofChars, ← List.map_drop, List.drop_left' (Text.length_hexDigits 4 n)]
    rfl
  have hmore : (ofChars rest).isEmpty = false := by
    simpa [ofChars] using hrest
  rw [readUnit?, hdrop, hmore, if_neg Bool.false_ne_true, readHex?_ofChars,
    Text.readHex?_hexDigits rest hn]
  rfl

/-- A character below the blank is read from the escape of its number. -/
theorem readEscape_control (hc : c.toNat < 0x20) (hrest : rest ≠ []) :
    readEscape (ofChars ('u' :: Text.hexDigits 4 c.toNat ++ rest)) =
      .ok (.char c, ofChars rest) := by
  have hunit := readUnit?_hexDigits (n := c.toNat) (by omega) hrest
  have hhigh : Text.Wide.isHighSurrogate c.toNat = false := by
    rw [Text.Wide.isHighSurrogate, Bool.and_eq_false_iff, decide_eq_false_iff_not]
    exact .inl (by omega)
  change readUnicode (ofChars (Text.hexDigits 4 c.toNat ++ rest)) = _
  rw [readUnicode, hunit]
  dsimp only
  rw [hhigh, if_neg Bool.false_ne_true]
  exact congrArg (fun p => Except.ok (p, ofChars rest)) (CodePoint.ofNat_toNat (.char c))

/-- How a character can stand in a string: behind a backslash by a letter, by its number, or as it
is. -/
inductive Escapes (c : Char) : List Char → Prop where
  | letter {letter : Char} (h : simpleEscape? letter = some c) : Escapes c ['\\', letter]
  | number (h : c.toNat < 0x20) : Escapes c ('\\' :: 'u' :: Text.hexDigits 4 c.toNat)
  | plain (hquote : c ≠ '"') (hslash : c ≠ '\\') (h : ¬c.toNat < 0x20) : Escapes c [c]

/-- How a character is written in a body is one of its escapes. -/
theorem escapes_escapeChar (c : Char) : Escapes c (escapeChar c) := by
  unfold escapeChar
  split
  · next hc =>
    rw [Bool.or_eq_true, beq_iff_eq, beq_iff_eq] at hc
    rcases hc with rfl | rfl <;> exact .letter rfl
  · next hc =>
    rw [Bool.or_eq_true, not_or, beq_iff_eq, beq_iff_eq] at hc
    iterate 5
      split
      · next h =>
        rw [beq_iff_eq.mp h]
        exact .letter rfl
    split
    · next h => exact .number h
    · next h => exact .plain hc.1 hc.2 h

/-- What a character stands as is read as the character, if some text is behind it. -/
theorem Escapes.readString {cs : List Char} (h : Escapes c cs) (hrest : rest ≠ []) :
    readString (ofChars (cs ++ rest)) =
      (readString (ofChars rest)).map fun p => (.char c :: p.1, p.2) := by
  cases h with
  | @letter letter h =>
    refine readString_escape ?_
    have hu : ¬(CodePoint.char letter == .char 'u') = true := by
      intro heq
      rw [beq_iff_eq, CodePoint.char.injEq] at heq
      rw [heq] at h
      cases h
    have hpoint : (CodePoint.char letter).char?.bind simpleEscape? = some c := h
    change readEscape (.char letter :: ofChars rest) = _
    rw [readEscape, if_neg hu, hpoint]
  | number h => exact readString_escape (readEscape_control h hrest)
  | plain hquote hslash h =>
    have hshown : ¬(CodePoint.char c).toNat < 0x20 := h
    change Json.readString (.char c :: ofChars rest) = _
    rw [Json.readString, if_neg (by simpa using hquote), if_neg (by simpa using hslash),
      if_neg hshown]

/-- No escape holds a null character, so a body is text to every reader. -/
theorem Escapes.null_notMem {cs : List Char} (h : Escapes c cs) : '\x00' ∉ cs := by
  intro hmem
  cases h with
  | @letter letter h =>
    have hletter : letter = '\x00' := by simpa [eq_comm] using hmem
    rw [hletter] at h
    cases h
  | number h =>
    have hdigits : '\x00' ∈ Text.hexDigits 4 c.toNat := by simpa using hmem
    obtain ⟨m, hm, hdigit⟩ := Text.exists_hexDigit_of_mem hdigits
    have hne : ∀ m < 16, '\x00' ≠ Text.hexDigit m := by decide
    exact hne m hm hdigit
  | plain hquote hslash h => exact h (List.mem_singleton.mp hmem ▸ by decide)

/-- A string is read from the escapes of its characters. -/
theorem readString_flatMap (cs rest : List Char) :
    readString (ofChars (cs.flatMap escapeChar ++ '"' :: rest)) =
      .ok (ofChars cs, ofChars rest) := by
  induction cs with
  | nil =>
    change readString (.char '"' :: ofChars rest) = _
    rw [readString, if_pos (by decide)]
    rfl
  | cons c cs ih =>
    rw [List.flatMap_cons, List.append_assoc, (escapes_escapeChar c).readString (by simp), ih]
    rfl

/-! ## Tokens -/

/-- A written string is one token, and the lexer goes on right behind its last quote. -/
theorem lex_string (cs rest : List Char) :
    lex (ofChars ('"' :: cs.flatMap escapeChar ++ '"' :: rest)) =
      ⟨.scalar (.str (ofChars cs)), ofChars ('"' :: cs.flatMap escapeChar ++ '"' :: rest)⟩ ::
        lex (ofChars rest) := by
  have htoken : readToken (.char '"') (ofChars (cs.flatMap escapeChar ++ '"' :: rest)) =
      (.scalar (.str (ofChars cs)), ofChars rest) := by
    rw [readToken]
    change (if CodePoint.char '"' == .char '"' then _ else _) = _
    rw [if_pos (by decide), readString_flatMap]
  change lex (.char '"' :: ofChars (cs.flatMap escapeChar ++ '"' :: rest)) = _
  rw [lex, if_neg (by decide), htoken]
  rfl

theorem lex_punctuation {c : Char} {token : Token} (h : punctuation? c = some token)
    (hspace : isSpace (.char c) = false) (rest : List Char) :
    lex (ofChars (c :: rest)) = ⟨token, ofChars (c :: rest)⟩ :: lex (ofChars rest) := by
  have htoken : readToken (.char c) (ofChars rest) = (token, ofChars rest) := by
    have hpoint : (CodePoint.char c).char?.bind punctuation? = some token := h
    rw [readToken, hpoint]
  change lex (.char c :: ofChars rest) = _
  rw [lex, if_neg (Bool.eq_false_iff.mp hspace), htoken]
  rfl

/-- A document with one member that is a string. -/
theorem ofLexemes_member (key cs : List Char) :
    ofLexemes (lex (ofChars ('{' :: ('"' :: key.flatMap escapeChar ++ '"' :: ':' ::
      ('"' :: cs.flatMap escapeChar ++ '"' :: ['}']))))) =
        .ok (.object [(ofChars key, .scalar (.str (ofChars cs)))]) := by
  have hend : lex (ofChars []) = [] := by
    change lex [] = []
    rw [lex]
  rw [lex_punctuation rfl rfl, lex_string, lex_punctuation rfl rfl, lex_string,
    lex_punctuation rfl rfl, hend]
  rfl

end Json

/-! ## Bodies -/

namespace Request

theorem toList_queryBody (text : String) : (queryBody text).toList =
    '{' :: ('"' :: queryParam.toList.flatMap escapeChar ++ '"' :: ':' ::
      ('"' :: text.toList.flatMap escapeChar ++ '"' :: ['}'])) := by
  unfold queryBody queryParam
  rw [String.toList_append, String.toList_append, String.toList_ofList, String.toList_ofList,
    String.toList_ofList, String.toList_ofList]
  simp [escapeChar]

theorem null_notMem_queryBody (text : String) : '\x00' ∉ (queryBody text).toList := by
  have hflat : ∀ cs : List Char, '\x00' ∉ cs.flatMap escapeChar := by
    intro cs h
    obtain ⟨c, -, hc⟩ := List.mem_flatMap.mp h
    exact (Json.escapes_escapeChar c).null_notMem hc
  rw [toList_queryBody]
  simp [hflat]

/-- The body of a query is a document with one member, the text of the query. -/
theorem ofBytes?_queryBody (text : String) :
    Json.ofBytes? (Text.Utf8.encode (queryBody text).toList) =
      some (.object [(Text.ofString queryParam, .scalar (.str (Text.ofString text)))]) := by
  have hmark : (queryBody text).toList.head? ≠ some '\uFEFF' := by
    rw [toList_queryBody]
    change some '{' ≠ some '\uFEFF'
    decide
  rw [Json.ofBytes?_encode_lex (null_notMem_queryBody text) hmark, toList_queryBody,
    Json.ofLexemes_member]
  rfl

/-- A body that is read as a text is the body of that text only. -/
theorem eq_of_ofBytes?_queryBody {text text' : String}
    (h : Json.ofBytes? (Text.Utf8.encode (queryBody text).toList) =
      some (.object [(Text.ofString queryParam, .scalar (.str (Text.ofString text')))])) :
    text = text' := by
  rw [ofBytes?_queryBody text] at h
  have htexts : Text.ofString text = Text.ofString text' := by simpa using h
  have hstrings := congrArg Text.string? htexts
  rw [Text.string?_ofString, Text.string?_ofString] at hstrings
  exact Option.some.inj hstrings

end Request

end GraphBind
