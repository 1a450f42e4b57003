import GraphBind.Decimal
import GraphBind.Json.Basic
import GraphBind.Text.Basic
import GraphBind.Text.Encoding

/-!
# JSON tokens

`lex` splits a text into tokens, each with the rest of the text from its first character on. A part
that is no token ends the list with a token that says what is wrong there; whether that matters, and
as which error, depends on what the reader awaits at this place.
-/

namespace GraphBind.Json

/-- Why a part of a text is no token. The faults of strings hold the rest of the text from the
offending character on. -/
inductive Fault where
  /-- No token starts like this. -/
  | unknown
  /-- A string that the text ends inside of. -/
  | unterminated
  /-- A raw control character in a string. -/
  | control (rest : Text)
  /-- A backslash before a character that forms no escape with it. -/
  | escape (rest : Text)
  /-- A `u` without four hexadecimal digits and a further character after it. -/
  | unicode (rest : Text)
  /-- An integer of more digits than are read. -/
  | tooManyDigits (count : Nat)
  deriving DecidableEq, Repr

/-- A token. -/
inductive Token where
  | openObject
  | closeObject
  | openArray
  | closeArray
  | colon
  | comma
  | null
  | scalar (s : Scalar)
  | bad (fault : Fault)
  deriving DecidableEq, Repr

/-- A token and the rest of the text from its first character on. -/
structure Lexeme where
  token : Token
  start : Text
  deriving DecidableEq, Repr

/-- White space between tokens. -/
def isSpace (c : CodePoint) : Bool :=
  c == .char ' ' || c == .char '\t' || c == .char '\n' || c == .char '\r'

/-! ## Strings -/

/-- The character that a letter after a backslash stands for. -/
def simpleEscape? : Char → Option Char
  | '"' => some '"'
  | '\\' => some '\\'
  | '/' => some '/'
  | 'b' => some '\x08'
  | 'f' => some '\x0c'
  | 'n' => some '\n'
  | 'r' => some '\r'
  | 't' => some '\t'
  | _ => none

/-- The number that hexadecimal digits of a given count write, after the number so far. -/
def readHex? : Nat → Nat → Text → Option Nat
  | 0, n, _ => some n
  | _ + 1, _, [] => none
  | width + 1, n, c :: cs =>
    (c.char?.bind Text.hexValue?).bind fun d => readHex? width (16 * n + d) cs

/-- The number that four hexadecimal digits write, and the rest of the text, which is not empty. -/
def readUnit? (cs : Text) : Option (Nat × Text) :=
  if (cs.drop 4).isEmpty then none else (readHex? 4 0 cs).map (·, cs.drop 4)

/-- Reads on behind the first half of a surrogate pair. Without a second half it stays alone. -/
def readSecondHalf (high : Nat) (rest : Text) : Except Fault (CodePoint × Text) :=
  match rest with
  | .char '\\' :: .char 'u' :: cs =>
    if (cs.drop 4).isEmpty then .ok (.ofNat high, rest)
    else
      match readUnit? cs with
      | none => .error (.unicode (.char 'u' :: cs))
      | some (low, after) =>
        if Text.Wide.isLowSurrogate low then
          .ok (.char (Char.ofNat (Text.Wide.joinSurrogates high low)), after)
        else .ok (.ofNat high, rest)
  | _ => .ok (.ofNat high, rest)

/-- Reads the escape of a code unit from behind its `u`. -/
def readUnicode (cs : Text) : Except Fault (CodePoint × Text) :=
  match readUnit? cs with
  | none => .error (.unicode (.char 'u' :: cs))
  | some (unit, rest) =>
    if Text.Wide.isHighSurrogate unit then readSecondHalf unit rest
    else .ok (.ofNat unit, rest)

/-- Reads an escape from behind its backslash: its code point and the rest of the text. -/
def readEscape : Text → Except Fault (CodePoint × Text)
  | [] => .error .unterminated
  | c :: rest =>
    if c == .char 'u' then readUnicode rest
    else match c.char?.bind simpleEscape? with
      | some e => .ok (.char e, rest)
      | none => .error (.escape (.char '\\' :: c :: rest))

theorem readUnit?_length {cs rest : Text} {n : Nat} (h : readUnit? cs = some (n, rest)) :
    rest.length ≤ cs.length := by
  unfold readUnit? at h
  split at h
  · contradiction
  · obtain ⟨_, _, e⟩ := Option.map_eq_some_iff.1 h
    cases e
    simp

theorem readSecondHalf_length {high : Nat} {text rest : Text} {c : CodePoint}
    (h : readSecondHalf high text = .ok (c, rest)) : rest.length ≤ text.length := by
  unfold readSecondHalf at h
  split at h
  · split at h
    · cases h
      exact Nat.le_refl _
    · split at h
      · contradiction
      · rename_i hu
        have := readUnit?_length hu
        split at h <;> injection h with h <;> injection h with _ h <;> subst h <;>
          simp only [List.length_cons] <;> omega
  · cases h
    exact Nat.le_refl _

theorem readEscape_length {text rest : Text} {c : CodePoint}
    (h : readEscape text = .ok (c, rest)) : rest.length < text.length := by
  unfold readEscape at h
  split at h
  · contradiction
  · split at h
    · unfold readUnicode at h
      split at h
      · contradiction
      · rename_i hu
        have h1 := readUnit?_length hu
        split at h
        · have h2 := readSecondHalf_length h
          simp only [List.length_cons]
          omega
        · cases h
          simp only [List.length_cons]
          omega
    · split at h <;> cases h
      simp

/-- Reads a string from behind its opening quote: its content and the rest of the text behind its
closing quote. -/
def readString : Text → Except Fault (Text × Text)
  | [] => .error .unterminated
  | c :: cs =>
    if c == .char '"' then .ok ([], cs)
    else if c == .char '\\' then
      match h : readEscape cs with
      | .error fault => .error fault
      | .ok (e, rest) =>
        have := readEscape_length h
        (readString rest).map fun (content, after) => (e :: content, after)
    else if c.toNat < 0x20 then .error (.control (c :: cs))
    else (readString cs).map fun (content, after) => (c :: content, after)
  termination_by text => text.length
  decreasing_by all_goals simp only [List.length_cons]; omega

/-! ## Numbers -/

/-- The parts of a number: sign, digits before the point, digits after it, exponent. -/
structure Numeral where
  negative : Bool
  whole : List Char
  fraction : List Char
  exponent : Option Int
  deriving DecidableEq, Repr

/-- Splits digits off the start of a text. -/
def splitDigits (cs : Text) : List Char × Text :=
  (Text.chars (cs.takeWhile (·.satisfies Decimal.isDigit)),
    cs.dropWhile (·.satisfies Decimal.isDigit))

/-- A point and at least one digit, or nothing. -/
def readFraction : Text → List Char × Text
  | .char '.' :: cs => match splitDigits cs with
    | ([], _) => ([], .char '.' :: cs)
    | split => split
  | cs => ([], cs)

/-- Splits a sign off the start of a text: whether it is a minus, and the rest. -/
def splitSign : Text → Bool × Text
  | .char '-' :: cs => (true, cs)
  | .char '+' :: cs => (false, cs)
  | cs => (false, cs)

/-- An `e`, an optional sign and at least one digit, or nothing. -/
def readExponent (cs : Text) : Option Int × Text :=
  match cs with
  | [] => (none, cs)
  | e :: after =>
    let (negative, signless) := splitSign after
    let (digits, rest) := splitDigits signless
    if (e == .char 'e' || e == .char 'E') && !digits.isEmpty then
      let n : Int := Decimal.digitsToNat digits
      (some (if negative then -n else n), rest)
    else (none, cs)

/-- A minus sign, or nothing. -/
def splitMinus : Text → Bool × Text
  | .char '-' :: cs => (true, cs)
  | cs => (false, cs)

/-- The digits before the point: a zero on its own, or digits. -/
def splitWhole : Text → List Char × Text
  | .char '0' :: cs => (['0'], cs)
  | cs => splitDigits cs

/-- The longest number at the start of a text, and the rest. A number that goes on after a leading
zero ends with that zero. -/
def readNumeral? (cs : Text) : Option (Numeral × Text) :=
  let (negative, cs) := splitMinus cs
  let (whole, rest) := splitWhole cs
  if whole.isEmpty then none
  else
    let (fraction, rest) := readFraction rest
    let (exponent, rest) := readExponent rest
    some (⟨negative, whole, fraction, exponent⟩, rest)

/-- The token of a number: an integer, unless it has a fraction or an exponent. -/
def Numeral.token (n : Numeral) : Token :=
  if n.fraction.isEmpty && n.exponent.isNone then
    if Decimal.digitLimit < n.whole.length then .bad (.tooManyDigits n.whole.length)
    else
      let magnitude : Int := Decimal.digitsToNat n.whole
      .scalar (.int (if n.negative then -magnitude else magnitude))
  else
    .scalar (.float (.ofDecimal n.negative (Decimal.digitsToNat (n.whole ++ n.fraction))
      (n.exponent.getD 0 - n.fraction.length)))

/-! ## Tokens -/

/-- The literal words. -/
def words : List (Text × Token) :=
  [("null", .null), ("true", .scalar (.bool true)), ("false", .scalar (.bool false)),
   ("NaN", .scalar (.float .nan)), ("Infinity", .scalar (.float (.infinity false))),
   ("-Infinity", .scalar (.float (.infinity true)))]

/-- The literal word that a text starts with, and the rest. -/
def readWord? (cs : Text) : Option (Token × Text) :=
  words.findSome? fun (word, token) =>
    if word.isPrefixOf cs then some (token, cs.drop word.length) else none

/-- The punctuation marks. -/
def punctuation? : Char → Option Token
  | '{' => some .openObject
  | '}' => some .closeObject
  | '[' => some .openArray
  | ']' => some .closeArray
  | ':' => some .colon
  | ',' => some .comma
  | _ => none

/-- The token at the start of a text that opens with `c`, and the rest. Nothing is read behind a
part that is no token. -/
def readToken (c : CodePoint) (cs : Text) : Token × Text :=
  match c.char?.bind punctuation? with
  | some token => (token, cs)
  | none =>
    if c == .char '"' then
      match readString cs with
      | .ok (content, rest) => (.scalar (.str content), rest)
      | .error fault => (.bad fault, [])
    else
      match readWord? (c :: cs) with
      | some result => result
      | none =>
        match readNumeral? (c :: cs) with
        | some (n, rest) => (n.token, rest)
        | none => (.bad .unknown, [])

/-! ### A token is not empty -/

theorem map_cons_eq_ok {r : Except Fault (Text × Text)} {c : CodePoint}
    {content rest : Text}
    (h : r.map (fun (content, after) => (c :: content, after)) = .ok (content, rest)) :
    ∃ inner, r = .ok (inner, rest) := by
  cases r with
  | error _ => contradiction
  | ok p =>
    simp only [Except.map, Except.ok.injEq, Prod.mk.injEq] at h
    exact ⟨p.1, by rw [← h.2]⟩

theorem readString_length {text content rest : Text}
    (h : readString text = .ok (content, rest)) :
    rest.length < text.length := by
  fun_induction readString text generalizing content rest with
  | case1 => contradiction
  | case2 c cs =>
    cases h
    simp
  | case3 => contradiction
  | case4 c cs _ _ e after he hlt ih =>
    obtain ⟨inner, hi⟩ := map_cons_eq_ok h
    have := ih hi
    simp only [List.length_cons]
    omega
  | case5 => contradiction
  | case6 c cs _ _ _ ih =>
    obtain ⟨inner, hi⟩ := map_cons_eq_ok h
    have := ih hi
    simp only [List.length_cons]
    omega

theorem splitDigits_length (cs : Text) : (splitDigits cs).2.length ≤ cs.length :=
  (List.dropWhile_suffix _).length_le

theorem splitDigits_shorter {cs : Text} (h : (splitDigits cs).1.isEmpty = false) :
    (splitDigits cs).2.length < cs.length := by
  cases cs with
  | nil => simp [splitDigits, Text.chars] at h
  | cons c cs =>
    cases hc : c.satisfies Decimal.isDigit with
    | false => simp [splitDigits, hc, Text.chars] at h
    | true =>
      simp only [splitDigits, List.dropWhile_cons, hc, if_true, List.length_cons]
      exact Nat.lt_succ_of_le (List.dropWhile_suffix _).length_le

theorem readFraction_length (cs : Text) : (readFraction cs).2.length ≤ cs.length := by
  unfold readFraction
  split
  · rename_i cs
    have := splitDigits_length cs
    split
    · simp
    · simp only [List.length_cons]; omega
  · simp

theorem splitSign_length (cs : Text) : (splitSign cs).2.length ≤ cs.length := by
  unfold splitSign
  split <;> simp

theorem readExponent_length (cs : Text) : (readExponent cs).2.length ≤ cs.length := by
  unfold readExponent
  split
  · simp
  · rename_i e after
    have h1 := splitSign_length after
    have h2 := splitDigits_length (splitSign after).2
    dsimp only
    split <;> simp only [List.length_cons] <;> omega

theorem splitMinus_length (cs : Text) : (splitMinus cs).2.length ≤ cs.length := by
  unfold splitMinus
  split <;> simp

theorem splitWhole_length {cs : Text} (h : (splitWhole cs).1.isEmpty = false) :
    (splitWhole cs).2.length < cs.length := by
  unfold splitWhole at h ⊢
  split at h
  · simp
  · exact splitDigits_shorter h

theorem readNumeral?_length {cs rest : Text} {n : Numeral}
    (h : readNumeral? cs = some (n, rest)) : rest.length < cs.length := by
  unfold readNumeral? at h
  dsimp only at h
  split at h
  · contradiction
  · rename_i hw
    cases h
    have h1 := splitMinus_length cs
    have h2 := splitWhole_length (Bool.eq_false_iff.2 hw)
    have h3 := readFraction_length (splitWhole (splitMinus cs).2).2
    have h4 := readExponent_length (readFraction (splitWhole (splitMinus cs).2).2).2
    omega

theorem readWord?_length {c : CodePoint} {cs rest : Text} {token : Token}
    (h : readWord? (c :: cs) = some (token, rest)) : rest.length ≤ cs.length := by
  obtain ⟨⟨word, t⟩, hmem, hw⟩ := List.exists_of_findSome?_eq_some h
  have : 0 < word.length := by
    simp only [words, List.mem_cons, Prod.mk.injEq, List.not_mem_nil, or_false] at hmem
    rcases hmem with ⟨rfl, _⟩ | ⟨rfl, _⟩ | ⟨rfl, _⟩ | ⟨rfl, _⟩ | ⟨rfl, _⟩ | ⟨rfl, _⟩ <;> decide
  dsimp only at hw
  split at hw <;> cases hw
  simp only [List.length_drop, List.length_cons]
  omega

theorem readToken_length (c : CodePoint) (cs : Text) :
    (readToken c cs).2.length ≤ cs.length := by
  unfold readToken
  split
  · exact Nat.le_refl _
  · split
    · split
      · rename_i hs
        exact Nat.le_of_lt (readString_length hs)
      · exact Nat.zero_le _
    · split
      · rename_i hw
        exact readWord?_length hw
      · split
        · rename_i hn
          exact Nat.le_of_lt_succ (readNumeral?_length hn)
        · exact Nat.zero_le _

/-! ## The tokens of a text -/

/-- The tokens of a text. A part that is no token is the last one. -/
def lex : Text → List Lexeme
  | [] => []
  | c :: cs =>
    if isSpace c then lex cs
    else
      ⟨(readToken c cs).1, c :: cs⟩ :: lex (readToken c cs).2
  termination_by text => text.length
  decreasing_by
    · simp
    · have := readToken_length c cs
      simp only [List.length_cons]
      omega

end GraphBind.Json
