import GraphBind.Query.Token
import GraphBind.Text.Basic
import GraphBind.Text.Encoding
import GraphBind.Text.Identifier

/-!
# From text to tokens

`lex` splits a query text into tokens. Blanks, commas, byte order marks and comments separate tokens
and are dropped. The first part that is no token ends the list; what is wrong there counts only once
a reader gets so far.

Every reader of a part gives back the rest of the text with a proof that it is shorter.
-/

namespace GraphBind.Query

open Text (isAsciiDigit isAsciiLetter)

/-- A part that has been read off a text, and the rest, which is shorter. -/
structure Piece (α : Type) (text : List Char) where
  content : α
  rest : List Char
  shorter : rest.length < text.length

/-- Starts a name. -/
def isNameStart (c : Char) : Bool := isAsciiLetter c || c == '_'

/-- Goes on in a name. -/
def isNamePart (c : Char) : Bool := isNameStart c || isAsciiDigit c

/-- Ends a line. -/
def isLineEnd (c : Char) : Bool := c == '\n' || c == '\r'

/-- Separates tokens. -/
def isIgnored (c : Char) : Bool :=
  c == ' ' || c == '\t' || c == ',' || c == '\uFEFF' || isLineEnd c

theorem length_dropWhile_le (p : Char → Bool) (cs : List Char) :
    (cs.dropWhile p).length ≤ cs.length :=
  (List.dropWhile_suffix p).length_le

theorem length_dropWhile_lt (p : Char → Bool) (c : Char) (cs : List Char) :
    (cs.dropWhile p).length < (c :: cs).length :=
  Nat.lt_succ_of_le (length_dropWhile_le p cs)

/-! ## Numbers -/

/-- Reads at least one digit. -/
def readDigits (cs : List Char) : Except SyntaxError (Piece (List Char) cs) :=
  match cs with
  | [] => .error (.digitExpected none)
  | c :: rest =>
    if isAsciiDigit c then
      .ok ⟨c :: rest.takeWhile isAsciiDigit, rest.dropWhile isAsciiDigit,
        length_dropWhile_lt isAsciiDigit c rest⟩
    else .error (.digitExpected (some c))

/-- Reads the digits before the point: a zero on its own, or digits. -/
def readWhole (cs : List Char) : Except SyntaxError (Piece (List Char) cs) :=
  match cs with
  | '0' :: c :: rest =>
    if isAsciiDigit c then .error (.digitAfterZero (some c))
    else .ok ⟨['0'], c :: rest, by simp⟩
  | cs => readDigits cs

/-- What may be read off a text: a part and the rest, which is not longer. -/
structure Part (text : List Char) where
  content : List Char
  rest : List Char
  fits : rest.length ≤ text.length

/-- Reads a minus sign, if there is one. -/
def readMinus (cs : List Char) : Part cs :=
  match cs with
  | '-' :: rest => ⟨['-'], rest, by simp⟩
  | cs => ⟨[], cs, Nat.le_refl _⟩

/-- Reads a sign, if there is one. -/
def readSign (cs : List Char) : Part cs :=
  match cs with
  | '-' :: rest => ⟨['-'], rest, by simp⟩
  | '+' :: rest => ⟨['+'], rest, by simp⟩
  | cs => ⟨[], cs, Nat.le_refl _⟩

/-- Reads a point and digits, if there is a point. -/
def readFraction (cs : List Char) : Except SyntaxError (Part cs) :=
  match cs with
  | '.' :: rest =>
    match readDigits rest with
    | .error e => .error e
    | .ok p => .ok ⟨'.' :: p.content, p.rest, Nat.le_succ_of_le (Nat.le_of_lt p.shorter)⟩
  | cs => .ok ⟨[], cs, Nat.le_refl _⟩

/-- Reads an exponent, if there is its letter. -/
def readExponent (cs : List Char) : Except SyntaxError (Part cs) :=
  match cs with
  | [] => .ok ⟨[], [], Nat.le_refl _⟩
  | c :: rest =>
    if c == 'e' || c == 'E' then
      let sign := readSign rest
      match readDigits sign.rest with
      | .error e => .error e
      | .ok p => .ok ⟨c :: sign.content ++ p.content, p.rest, by
          have := p.shorter
          have := sign.fits
          simp only [List.length_cons]
          omega⟩
    else .ok ⟨[], c :: rest, Nat.le_refl _⟩

/-- Reads a number. Neither a point nor a name may follow it. -/
def readNumber (cs : List Char) : Except SyntaxError (Piece Symbol cs) := do
  let minus := readMinus cs
  let whole ← readWhole minus.rest
  let fraction ← readFraction whole.rest
  let exponent ← readExponent fraction.rest
  let number := String.ofList
    (minus.content ++ whole.content ++ fraction.content ++ exponent.content)
  if exponent.rest.head?.any fun c => c == '.' || isNameStart c then
    throw (.digitExpected exponent.rest.head?)
  else
    let symbol := if fraction.content.isEmpty && exponent.content.isEmpty then Symbol.int number
      else .float number
    return ⟨symbol, exponent.rest, by
      have := minus.fits
      have := whole.shorter
      have := fraction.fits
      have := exponent.fits
      omega⟩

/-! ## Strings -/

/-- The character that a letter after a backslash stands for. -/
def simpleEscape? : Char → Option Char
  | '"' => some '"'
  | '\\' => some '\\'
  | '/' => some '/'
  | 'b' => some '\x08'
  | 'f' => some '\x0c'
  | 'n' => some '\n'
  | 'r' => some '\r'
  | 't' => some '\t'
  | _ => none

/-- The character with a code point that is no surrogate. -/
def scalarChar? (n : Nat) : Option Char :=
  if Text.Wide.isHighSurrogate n || Text.Wide.isLowSurrogate n || 0x110000 ≤ n then none
  else some (Char.ofNat n)

/-- The most characters of an escape in braces behind its opening brace. -/
def braceLimit : Nat := 9

/-- Reads an escape in braces on, `shown` being what has been read of it in reverse, with at least
one digit read iff `begun`; at most `left` further characters are looked at. -/
def readBraced (shown : List Char) (point : Nat) (begun : Bool) (left : Nat) (cs : List Char) :
    Except SyntaxError (Piece Char cs) :=
  match left, cs with
  | left + 1, c :: rest =>
    if c == '}' then
      match begun, scalarChar? point with
      | true, some character => .ok ⟨character, rest, by simp⟩
      | _, _ => .error (.unicodeEscape (String.ofList (c :: shown).reverse))
    else
      match Text.hexValue? c with
      | none => .error (.unicodeEscape (String.ofList (c :: shown).reverse))
      | some d =>
        match readBraced (c :: shown) (16 * point + d) true left rest with
        | .error e => .error e
        | .ok p => .ok ⟨p.content, p.rest, by
            have := p.shorter
            simp only [List.length_cons]
            omega⟩
  | _, _ => .error (.unicodeEscape (String.ofList shown.reverse))

/-- Reads the number that four hexadecimal digits write, if they do; there have to be four
characters. -/
def readUnit (cs : List Char) : Except SyntaxError (Option Nat × List Char) :=
  if cs.length < 4 then .error .truncatedEscape else .ok (Text.readHex? 4 0 cs, cs.drop 4)

/-- The character of a surrogate pair whose first half has been read, and the text behind it. -/
def readSecondHalf (high : Nat) (rest : List Char) :
    Except SyntaxError (Option (Char × List Char)) :=
  match rest with
  | '\\' :: 'u' :: cs => do
    let (low, _) ← readUnit cs
    return (low.filter Text.Wide.isLowSurrogate).map fun low =>
      (Char.ofNat (Text.Wide.joinSurrogates high low), cs.drop 4)
  | _ => .ok none

/-- Reads an escape of four hexadecimal digits, or of a surrogate pair, from behind its `u`. -/
def readUnicode (cs : List Char) : Except SyntaxError (Char × List Char) := do
  let (unit, rest) ← readUnit cs
  let fault := SyntaxError.unicodeEscape (String.ofList ('\\' :: 'u' :: cs.take 4))
  match unit with
  | none => throw fault
  | some n =>
    match scalarChar? n with
    | some c => return (c, rest)
    | none =>
      if Text.Wide.isHighSurrogate n then
        match ← readSecondHalf n rest with
        | some result => return result
        | none => throw fault
      else throw fault

theorem readSecondHalf_length {high : Nat} {rest after : List Char} {c : Char}
    (h : readSecondHalf high rest = .ok (some (c, after))) : after.length ≤ rest.length := by
  unfold readSecondHalf at h
  split at h
  · rename_i cs
    cases hu : readUnit cs with
    | error e => simp [hu, bind, Except.bind] at h
    | ok p =>
      simp only [hu, bind, Except.bind, pure, Except.pure, Except.ok.injEq, Option.map_eq_some_iff,
        Prod.mk.injEq] at h
      obtain ⟨_, _, _, rfl⟩ := h
      simp only [List.length_drop, List.length_cons]
      omega
  all_goals simp at h

theorem readUnicode_length {cs rest : List Char} {c : Char} (h : readUnicode cs = .ok (c, rest)) :
    rest.length ≤ cs.length := by
  unfold readUnicode at h
  cases hu : readUnit cs with
  | error e => simp [hu, bind, Except.bind] at h
  | ok p =>
    obtain ⟨unit, after⟩ := p
    have hafter : after.length ≤ cs.length := by
      unfold readUnit at hu
      split at hu
      · contradiction
      · simp only [Except.ok.injEq, Prod.mk.injEq] at hu
        rw [← hu.2]
        simp
    simp only [hu, bind, Except.bind] at h
    split at h
    · contradiction
    · split at h
      · cases h
        exact hafter
      · split at h
        · split at h
          · contradiction
          · split at h
            · rename_i hs
              cases h
              exact Nat.le_trans (readSecondHalf_length hs) hafter
            · contradiction
        · contradiction

/-- Reads an escape from behind its backslash. -/
def readEscape (cs : List Char) : Except SyntaxError (Piece Char cs) :=
  match cs with
  | [] => .error .truncatedEscape
  | c :: rest =>
    if c == 'u' then
      match rest with
      | '{' :: digits =>
        match readBraced ['{', 'u', '\\'] 0 false braceLimit digits with
        | .error e => .error e
        | .ok p => .ok ⟨p.content, p.rest, by
            have := p.shorter
            simp only [List.length_cons]
            omega⟩
      | rest =>
        match h : readUnicode rest with
        | .error e => .error e
        | .ok (character, after) => .ok ⟨character, after, by
            have := readUnicode_length h
            simp only [List.length_cons]
            omega⟩
    else
      match simpleEscape? c with
      | some character => .ok ⟨character, rest, by simp⟩
      | none => .error (.characterEscape (String.ofList ['\\', c]))

/-- Reads a string from behind its opening quote. -/
def readString (cs : List Char) : Except SyntaxError (Piece (List Char) cs) :=
  match cs with
  | [] => .error .unterminatedString
  | c :: rest =>
    if c == '"' then .ok ⟨[], rest, by simp⟩
    else if c == '\\' then
      match readEscape rest with
      | .error e => .error e
      | .ok escape =>
        have := escape.shorter
        match readString escape.rest with
        | .error e => .error e
        | .ok p => .ok ⟨escape.content :: p.content, p.rest, by
            have := p.shorter
            simp only [List.length_cons]
            omega⟩
    else if isLineEnd c then .error .unterminatedString
    else
      match readString rest with
      | .error e => .error e
      | .ok p => .ok ⟨c :: p.content, p.rest, by
          have := p.shorter
          simp only [List.length_cons]
          omega⟩
  termination_by cs.length
  decreasing_by all_goals simp only [List.length_cons]; omega

/-! ## Block strings -/

/-- Reads a block string from behind its opening quotes, its lines not yet laid out. -/
def readBlock (cs : List Char) : Except SyntaxError (Piece (List Char) cs) :=
  match cs with
  | '"' :: '"' :: '"' :: rest => .ok ⟨[], rest, by simp only [List.length_cons]; omega⟩
  | '\\' :: '"' :: '"' :: '"' :: rest =>
    match readBlock rest with
    | .error e => .error e
    | .ok p => .ok ⟨'"' :: '"' :: '"' :: p.content, p.rest, by
        have := p.shorter
        simp only [List.length_cons]
        omega⟩
  | c :: rest =>
    match readBlock rest with
    | .error e => .error e
    | .ok p => .ok ⟨c :: p.content, p.rest, Nat.lt_succ_of_lt p.shorter⟩
  | [] => .error .unterminatedString

/-- A blank that indents. -/
def isIndent (c : Char) : Bool := c == ' ' || c == '\t'

/-- Whether a line has nothing but indentation. -/
def isEmptyLine (line : List Char) : Bool := line.all isIndent

/-- The indentation that all lines but the empty ones share. -/
def commonIndent (lines : List (List Char)) : Nat :=
  let indents := (lines.filter (!isEmptyLine ·)).map fun line => (line.takeWhile isIndent).length
  indents.min?.getD 0

/-- Drops the indentation that the lines after the first share, and the empty lines at both ends. -/
def dedent : List (List Char) → List (List Char)
  | [] => []
  | line :: lines =>
    let lines := line :: lines.map (List.drop (commonIndent lines))
    ((lines.dropWhile isEmptyLine).reverse.dropWhile isEmptyLine).reverse

/-- The content of a block string. -/
def blockContent (raw : List Char) : String :=
  String.ofList (List.intercalate ['\n'] (dedent ((Text.normalizeLines raw).splitOn '\n')))

/-! ## Tokens -/

/-- The punctuator of one character. -/
def punctuator? : Char → Option Punctuator
  | '!' => some .bang
  | '$' => some .dollar
  | '&' => some .ampersand
  | '(' => some .parenOpen
  | ')' => some .parenClose
  | ':' => some .colon
  | '=' => some .equals
  | '@' => some .atSign
  | '[' => some .bracketOpen
  | ']' => some .bracketClose
  | '{' => some .braceOpen
  | '}' => some .braceClose
  | '|' => some .pipe
  | _ => none

/-- Reads the token that opens with a character. -/
def readSymbol (c : Char) (cs : List Char) : Except SyntaxError (Piece Symbol (c :: cs)) :=
  match punctuator? c with
  | some p => .ok ⟨.punctuator p, cs, by simp⟩
  | none =>
    if isNameStart c then
      .ok ⟨.name (String.ofList (c :: cs.takeWhile isNamePart)), cs.dropWhile isNamePart,
        length_dropWhile_lt isNamePart c cs⟩
    else if isAsciiDigit c || c == '-' then readNumber (c :: cs)
    else if c == '"' then
      match cs with
      | '"' :: '"' :: rest =>
        match readBlock rest with
        | .error e => .error e
        | .ok p => .ok ⟨.blockString (blockContent p.content), p.rest, by
            have := p.shorter
            simp only [List.length_cons]
            omega⟩
      | cs =>
        match readString cs with
        | .error e => .error e
        | .ok p => .ok ⟨.string (String.ofList p.content), p.rest, by
            have := p.shorter
            simp only [List.length_cons]
            omega⟩
    else if c == '.' then
      match cs with
      | '.' :: '.' :: rest =>
        .ok ⟨.punctuator .spread, rest, by simp only [List.length_cons]; omega⟩
      | _ => .error (.character c)
    else if c == '\'' then .error .apostrophe
    else .error (.character c)

/-- A token of a text, or what is wrong behind the last one. -/
inductive Token where
  | symbol (s : Symbol)
  | invalid (e : SyntaxError)
  deriving DecidableEq, Repr

/-- The tokens of a text. -/
def lex (text : List Char) : List Token :=
  match text with
  | [] => []
  | c :: cs =>
    if isIgnored c then lex cs
    else if c == '#' then lex (cs.dropWhile (!isLineEnd ·))
    else
      match readSymbol c cs with
      | .error e => [.invalid e]
      | .ok p =>
        have := p.shorter
        .symbol p.content :: lex p.rest
  termination_by text.length
  decreasing_by
    · simp
    · have := length_dropWhile_le (!isLineEnd ·) cs
      simp only [List.length_cons]
      omega
    · exact this

end GraphBind.Query
