/-!
# Texts

The strings of a document may hold surrogates that stand outside of any pair, because escapes can
write one half of a pair alone. Such a half is no character, so a text is a list of code points that
are characters or surrogates. `string?` is the string of a text that holds characters only, and
`string?_ofString` says that no string is lost on the way.

Properties of characters are tables of closed ranges of code points in ascending order (`inRanges`).
White space is U+0009-000D, U+001C-0020, U+0085, U+00A0, U+1680, U+2000-200A, U+2028, U+2029,
U+202F, U+205F and U+3000: `strip` removes it at both ends, `collapse` turns every run of it into
one space. Text files may end their lines with a carriage return, a line feed or both; reading a
text file turns each of these into one line feed (`normalizeLines`). What is printed keeps a
carriage return that stands alone (`joinLineEnds`). Code points are written with a fixed or a least
number of hexadecimal digits.
-/

namespace GraphBind

/-- A character, or the surrogate that stands this far behind the first one. -/
inductive CodePoint where
  | char (c : Char)
  | surrogate (n : Fin 0x800)
  deriving DecidableEq, Repr, Inhabited

/-- A text that may hold surrogates. -/
abbrev Text := List CodePoint

namespace CodePoint

/-- The first surrogate. -/
def firstSurrogate : Nat := 0xD800

/-- The number of a code point. -/
def toNat : CodePoint → Nat
  | char c => c.toNat
  | surrogate n => firstSurrogate + n.val

/-- The code point with a number; numbers that have none count as zero. -/
def ofNat (n : Nat) : CodePoint :=
  if h : firstSurrogate ≤ n ∧ n - firstSurrogate < 0x800 then surrogate ⟨n - firstSurrogate, h.2⟩
  else char (Char.ofNat n)

/-- The character that a code point is. -/
def char? : CodePoint → Option Char
  | char c => some c
  | surrogate _ => none

/-- Whether a code point is a character of a class. -/
def satisfies (p : Char → Bool) : CodePoint → Bool
  | char c => p c
  | surrogate _ => false

/-- Whether a code point is a surrogate. -/
def isSurrogate : CodePoint → Bool
  | char _ => false
  | surrogate _ => true

instance : Coe Char CodePoint := ⟨char⟩

end CodePoint

namespace Text

/-- The text of characters. -/
def ofChars (cs : List Char) : Text := cs.map .char

/-- The text of a string. -/
def ofString (s : String) : Text := ofChars s.toList

instance : Coe String Text := ⟨ofString⟩

/-- The characters of a text; surrogates are left out. -/
def chars (t : Text) : List Char := t.filterMap CodePoint.char?

/-- Whether a text holds surrogates. -/
def holdsSurrogates (t : Text) : Bool := t.any CodePoint.isSurrogate

/-- The string of a text without surrogates. -/
def string? (t : Text) : Option String :=
  if t.holdsSurrogates then none else some (String.ofList t.chars)

/-- Texts one after the other. -/
def concat (ts : List Text) : Text := ts.flatten

/-- Texts one after the other, with another between them. -/
def joined (between : Text) (ts : List Text) : Text := between.intercalate ts

theorem chars_ofChars (cs : List Char) : (ofChars cs).chars = cs := by
  induction cs with
  | nil => rfl
  | cons c cs ih => exact congrArg (List.cons c) ih

theorem ofChars_append (cs cs' : List Char) : ofChars (cs ++ cs') = ofChars cs ++ ofChars cs' :=
  List.map_append

/-- The text of a literal, whose characters can be seen. -/
theorem ofString_ofList (cs : List Char) : ofString (String.ofList cs) = ofChars cs := by
  rw [ofString, String.toList_ofList]

theorem ofString_append (s s' : String) : ofString (s ++ s') = ofString s ++ ofString s' := by
  rw [ofString, String.toList_append, ofChars_append]
  rfl

theorem holdsSurrogates_ofChars (cs : List Char) : (ofChars cs).holdsSurrogates = false := by
  induction cs with
  | nil => rfl
  | cons c cs ih => exact ih

theorem string?_ofString (s : String) : (ofString s).string? = some s := by
  simp [string?, ofString, holdsSurrogates_ofChars, chars_ofChars]

theorem ofChars_chars {t : Text} (h : t.holdsSurrogates = false) : ofChars t.chars = t := by
  induction t with
  | nil => rfl
  | cons c t ih =>
    cases c with
    | char c => exact congrArg (List.cons (CodePoint.char c)) (ih h)
    | surrogate n => cases h

/-- A text has the string that it is the text of, and no other. -/
theorem string?_eq_some_iff {t : Text} {s : String} : t.string? = some s ↔ t = ofString s := by
  constructor
  · intro h
    unfold string? at h
    split at h
    · cases h
    · next hs =>
      cases h
      rw [ofString, String.toList_ofList, ofChars_chars (Bool.eq_false_iff.mpr hs)]
  · rintro rfl
    exact string?_ofString s

theorem ofString_injective {s s' : String} (h : ofString s = ofString s') : s = s' := by
  have hs := string?_ofString s
  rw [h, string?_ofString s'] at hs
  exact (Option.some.inj hs).symm

/-! ## Sets of code points -/

/-- Whether a code point lies in one of the closed ranges. -/
def inRanges (ranges : List (Nat × Nat)) (n : Nat) : Bool :=
  ranges.any fun r => r.1 ≤ n && n ≤ r.2

/-! ## White space -/

/-- White space, line ends and information separators included. -/
def isBlank (c : Char) : Bool :=
  let n := c.toNat
  (0x09 ≤ n && n ≤ 0x0D) || (0x1C ≤ n && n ≤ 0x20) || n == 0x85 || n == 0xA0 || n == 0x1680 ||
    (0x2000 ≤ n && n ≤ 0x200A) || n == 0x2028 || n == 0x2029 || n == 0x202F || n == 0x205F ||
    n == 0x3000

/-- A list without the items of a class at either end. -/
def trim {α : Type} (p : α → Bool) (xs : List α) : List α :=
  ((xs.dropWhile p).reverse.dropWhile p).reverse

/-- A text without white space at either end. -/
def strip (t : Text) : Text := trim (·.satisfies isBlank) t

/-- Replaces every run of white space by one space; `inRun` says that one has just been written. -/
def collapseFrom (inRun : Bool) : Text → Text
  | [] => []
  | c :: cs =>
    if c.satisfies isBlank then
      if inRun then collapseFrom true cs else .char ' ' :: collapseFrom true cs
    else c :: collapseFrom false cs

/-- Every run of white space as one space. -/
def collapse (t : Text) : Text := collapseFrom false t

/-! ## Line ends and null characters -/

/-- Every line end as one line feed. -/
def normalizeLines : List Char → List Char
  | [] => []
  | '\r' :: '\n' :: cs => '\n' :: normalizeLines cs
  | c :: cs => (if c == '\r' then '\n' else c) :: normalizeLines cs

/-- Every carriage return before a line feed left out. -/
def joinLineEnds : List Char → List Char
  | [] => []
  | '\r' :: '\n' :: cs => '\n' :: joinLineEnds cs
  | c :: cs => c :: joinLineEnds cs

/-- Whether a text holds a null character. -/
def holdsNull (cs : List Char) : Bool := cs.contains '\x00'

/-! ## Hexadecimal digits -/

/-- The lower-case hexadecimal digit of a number below 16. -/
def hexDigit (n : Nat) : Char :=
  if n < 10 then Char.ofNat (48 + n) else Char.ofNat (87 + n)

/-- The last `width` lower-case hexadecimal digits of a number. -/
def hexDigits : Nat → Nat → List Char
  | 0, _ => []
  | width + 1, n => hexDigits width (n / 16) ++ [hexDigit (n % 16)]

/-- The number of hexadecimal digits of a number below `16 ^ fuel`. -/
def hexWidth : Nat → Nat → Nat
  | 0, _ => 0
  | fuel + 1, n => if n == 0 then 0 else 1 + hexWidth fuel (n / 16)

/-- A code point in upper-case hexadecimal, with at least four digits. -/
def codePointDigits (c : Char) : List Char :=
  (hexDigits (max 4 (hexWidth 8 c.toNat)) c.toNat).map Char.toUpper

/-- The value of a hexadecimal digit of either case. -/
def hexValue? (c : Char) : Option Nat :=
  if '0' ≤ c && c ≤ '9' then some (c.toNat - 48)
  else if 'a' ≤ c && c ≤ 'f' then some (c.toNat - 87)
  else if 'A' ≤ c && c ≤ 'F' then some (c.toNat - 55)
  else none

/-- The number that exactly `width` leading hexadecimal digits write, after the number so far. -/
def readHex? : Nat → Nat → List Char → Option Nat
  | 0, n, _ => some n
  | _ + 1, _, [] => none
  | width + 1, n, c :: cs => (hexValue? c).bind fun d => readHex? width (16 * n + d) cs

end Text

end GraphBind
