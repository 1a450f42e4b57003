import GraphBind.Proofs.Text.Identifier
import GraphBind.Proofs.Text.Literal
import GraphBind.Proofs.Text.LongLiteral

/-!
# Where a text leaves its reader

A module is read from left to right, a code point at a time: `step` tells code from literals and
comments, and keeps the brackets that are still to be closed, and `read` goes over a text. A text
`Returns` if code in front of it goes on behind it with the same brackets open, and is a phrase
(`IsPhrase`) if so far no more than its last code point may have a part in how the next one is read.
Identifiers and quoted texts are phrases, and phrases one after the other are one if no quote is
where they meet (`IsPhrase.append`).

Where a quote stands right behind a part of an identifier the reader gives up, as the two may be one
literal of another sort. It gives up as well where a backslash stands in code, a bracket is closed
that is not open, or a line ends inside of a short literal.
-/

namespace GraphBind.Text

open LongLiteral (quotes isPlain Harmless)

/-! ## Steps -/

/-- How the next code point is read. -/
inductive Mode where
  | code
  /-- Code, right behind a part of an identifier. -/
  | word
  | comment
  /-- Behind a quote, which may be the first one of three. -/
  | quote (q : CodePoint)
  /-- Behind two quotes: an empty literal, unless a third one follows. -/
  | quotes (q : CodePoint)
  | short (q : CodePoint)
  /-- Behind a backslash in a short literal. -/
  | shortEscape (q : CodePoint)
  /-- In a long literal, behind so many quotes. -/
  | long (q : CodePoint) (run : Nat)
  /-- Behind a backslash in a long literal. -/
  | longEscape (q : CodePoint)
  /-- The reader has given up. -/
  | astray
  deriving DecidableEq, Repr

/-- Where a reader is between two code points of a module. -/
structure Cursor where
  mode : Mode
  /-- The brackets that close what is open, the innermost first. -/
  awaited : List CodePoint
  deriving DecidableEq, Repr

namespace Cursor

/-- Whether a code point begins a literal. -/
def isQuote (p : CodePoint) : Bool := p == .char '\'' || p == .char '"'

/-- Whether a code point ends a line. -/
def isLineEnd (p : CodePoint) : Bool := p == .char '\n' || p == .char '\r'

/-- The brackets, each with the one that closes it. -/
def brackets : List (CodePoint × CodePoint) :=
  [(.char '(', .char ')'), (.char '[', .char ']'), (.char '\x7b', .char '\x7d')]

/-- The code points that are brackets or change how others are read. -/
def marks : List Char := ['\'', '"', '#', '\\', '(', ')', '[', ']', '\x7b', '\x7d']

/-- Whether a code point is read like any other. -/
def isOrdinary (p : CodePoint) : Bool := !(marks.map CodePoint.char).contains p

/-- Reads a code point in code. -/
def readCode (awaited : List CodePoint) (p : CodePoint) : Cursor :=
  if isOrdinary p then ⟨if p.satisfies isIdentifierPart then .word else .code, awaited⟩
  else if isQuote p then ⟨.quote p, awaited⟩
  else if p == .char '#' then ⟨.comment, awaited⟩
  else
    match Entries.get? p brackets with
    | some closer => ⟨.code, closer :: awaited⟩
    | none => if awaited.head? == some p then ⟨.code, awaited.tail⟩ else ⟨.astray, awaited⟩

/-- Reads a code point in a short literal. -/
def readShort (q : CodePoint) (awaited : List CodePoint) (p : CodePoint) : Cursor :=
  if p == q then ⟨.code, awaited⟩
  else if isLineEnd p then ⟨.astray, awaited⟩
  else if p == .char '\\' then ⟨.shortEscape q, awaited⟩
  else ⟨.short q, awaited⟩

/-- Reads a code point. -/
def step : Cursor → CodePoint → Cursor
  | ⟨.code, awaited⟩, p => readCode awaited p
  | ⟨.word, awaited⟩, p => if isQuote p then ⟨.astray, awaited⟩ else readCode awaited p
  | ⟨.comment, awaited⟩, p => if isLineEnd p then ⟨.code, awaited⟩ else ⟨.comment, awaited⟩
  | ⟨.quote q, awaited⟩, p => if p == q then ⟨.quotes q, awaited⟩ else readShort q awaited p
  | ⟨.quotes q, awaited⟩, p => if p == q then ⟨.long q 0, awaited⟩ else readCode awaited p
  | ⟨.short q, awaited⟩, p => readShort q awaited p
  | ⟨.shortEscape q, awaited⟩, _ => ⟨.short q, awaited⟩
  | ⟨.long q run, awaited⟩, p =>
    if p == q then (if run < 2 then ⟨.long q (run + 1), awaited⟩ else ⟨.code, awaited⟩)
    else if p == .char '\\' then ⟨.longEscape q, awaited⟩
    else ⟨.long q 0, awaited⟩
  | ⟨.longEscape q, awaited⟩, _ => ⟨.long q 0, awaited⟩
  | ⟨.astray, awaited⟩, _ => ⟨.astray, awaited⟩

/-- Where a text leads to. -/
def read (cursor : Cursor) (t : Text) : Cursor := t.foldl step cursor

/-- In code outside of all brackets, where a module begins and each of its statements does. -/
def top : Cursor := ⟨.code, []⟩

variable {t t' : Text} {p : CodePoint} {awaited : List CodePoint}

theorem read_append (cursor : Cursor) (t t' : Text) :
    read cursor (t ++ t') = read (read cursor t) t' := List.foldl_append

/-- A literal is read by its characters, which can be seen. -/
theorem read_ofList {cursor cursor' : Cursor} {cs : List Char}
    (h : read cursor (ofChars cs) = cursor') :
    read cursor (ofString (String.ofList cs)) = cursor' := by
  rw [ofString_ofList, h]

/-! ## Phrases -/

/-- In code, unless a quote follows. -/
inductive IsCode (awaited : List CodePoint) : Cursor → Prop where
  | code : IsCode awaited ⟨.code, awaited⟩
  | word : IsCode awaited ⟨.word, awaited⟩
  | quotes {q : CodePoint} (hq : isQuote q = true) : IsCode awaited ⟨.quotes q, awaited⟩

/-- Outside of literals and comments a reader goes on by brackets alone, quotes apart. -/
theorem IsCode.step {cursor : Cursor} (h : IsCode awaited cursor) (hp : isQuote p = false) :
    step cursor p = readCode awaited p := by
  cases h with
  | code => rfl
  | word => rw [Cursor.step, hp, if_neg Bool.false_ne_true]
  | quotes hq =>
    refine if_neg fun heq => ?_
    rw [beq_iff_eq.mp heq, hq] at hp
    cases hp

/-- That code in front of a text goes on behind it. -/
def Returns (t : Text) : Prop := ∀ awaited, read ⟨.code, awaited⟩ t = ⟨.code, awaited⟩

/-- That code in front of a text goes on behind it, unless a quote follows. -/
def IsPhrase (t : Text) : Prop := ∀ awaited, IsCode awaited (read ⟨.code, awaited⟩ t)

/-- Whether a text begins with something other than a quote. -/
def opensApart : Text → Bool
  | [] => false
  | p :: _ => !isQuote p

theorem Returns.isPhrase (h : Returns t) : IsPhrase t := by
  intro awaited
  rw [h awaited]
  exact .code

theorem Returns.append (h : Returns t) (h' : Returns t') : Returns (t ++ t') := by
  intro awaited
  rw [read_append, h, h']

theorem Returns.phrase (h : Returns t) (h' : IsPhrase t') : IsPhrase (t ++ t') := by
  intro awaited
  rw [read_append, h]
  exact h' awaited

theorem IsPhrase.read (h : IsPhrase t) (hopen : opensApart t' = true) (awaited : List CodePoint) :
    read ⟨.code, awaited⟩ (t ++ t') = read ⟨.code, awaited⟩ t' := by
  cases t' with
  | nil => cases hopen
  | cons p t' =>
    have hp : isQuote p = false := (Bool.not_eq_true' _).mp hopen
    rw [read_append]
    exact congrArg (Cursor.read · t') ((h awaited).step hp)

theorem IsPhrase.append (h : IsPhrase t) (hopen : opensApart t' = true) (h' : IsPhrase t') :
    IsPhrase (t ++ t') := by
  intro awaited
  rw [h.read hopen]
  exact h' awaited

theorem IsPhrase.returns (h : IsPhrase t) (hopen : opensApart t' = true) (h' : Returns t') :
    Returns (t ++ t') := by
  intro awaited
  rw [h.read hopen, h']

theorem returns_concat {ts : List Text} (h : ∀ t ∈ ts, Returns t) : Returns (concat ts) := by
  induction ts with
  | nil => exact fun _ => rfl
  | cons t ts ih =>
    obtain ⟨ht, hts⟩ := List.forall_mem_cons.mp h
    exact ht.append (ih hts)

/-- A phrase between brackets. -/
theorem IsPhrase.enclose {front behind : Text} (h : IsPhrase t) (closer : CodePoint)
    (hfront : ∀ awaited, Cursor.read ⟨.code, awaited⟩ front = ⟨.code, closer :: awaited⟩)
    (hopen : opensApart behind = true)
    (hbehind : ∀ awaited, Cursor.read ⟨.code, closer :: awaited⟩ behind = ⟨.code, awaited⟩) :
    Returns (front ++ t ++ behind) := by
  intro awaited
  rw [List.append_assoc, read_append, hfront, h.read hopen, hbehind]

/-! ## Ordinary texts -/

theorem readCode_of_isOrdinary (h : isOrdinary p = true) (awaited : List CodePoint) :
    readCode awaited p = ⟨if p.satisfies isIdentifierPart then .word else .code, awaited⟩ :=
  if_pos h

theorem isQuote_of_isOrdinary (h : isOrdinary p = true) : isQuote p = false := by
  rw [← Bool.not_eq_true, isQuote, Bool.or_eq_true, beq_iff_eq, beq_iff_eq]
  rintro (rfl | rfl) <;> cases h

/-- A text without quotes, brackets, comments and line ends is a phrase. -/
theorem isPhrase_of_isOrdinary (h : ∀ p ∈ t, isOrdinary p = true) : IsPhrase t := by
  induction t using List.reverseRecOn with
  | nil => exact fun _ => .code
  | append_singleton t p ih =>
    rw [List.forall_mem_append, List.forall_mem_singleton] at h
    obtain ⟨ht, hp⟩ := h
    refine (ih ht).append ?_ fun awaited => ?_
    · rw [opensApart, isQuote_of_isOrdinary hp]
      rfl
    · change IsCode awaited (readCode awaited p)
      rw [readCode_of_isOrdinary hp]
      split
      · exact .word
      · exact .code

theorem isOrdinary_of_satisfies {P : Char → Bool} (hmarks : marks.any P = false)
    (h : p.satisfies P = true) : isOrdinary p = true := by
  obtain ⟨c, rfl, hc⟩ := CodePoint.exists_of_satisfies h
  rw [isOrdinary, Bool.not_eq_true', List.contains_eq_mem, decide_eq_false_iff_not, List.mem_map]
  rintro ⟨d, hd, heq⟩
  cases heq
  exact List.any_eq_false.mp hmarks c hd hc

theorem isOrdinary_of_isBindable (h : isBindable t = true) : ∀ p ∈ t, isOrdinary p = true := by
  have hstarts : marks.any isIdentifierStart = false := by decide
  have hinner : marks.any isIdentifierPart = false := by decide
  have hidentifier := (isBindable_iff.mp h).1
  cases t with
  | nil => cases hidentifier
  | cons c cs =>
    obtain ⟨hstart, hparts⟩ := Bool.and_eq_true_iff.mp hidentifier
    refine List.forall_mem_cons.mpr ⟨isOrdinary_of_satisfies hstarts hstart, fun p hp => ?_⟩
    exact isOrdinary_of_satisfies hinner (List.all_eq_true.mp hparts p hp)

/-! ## Quoted texts -/

variable {quote : Char} {cs : List Char}

/-- Printable characters other than the quote and the backslash leave a short literal open. -/
theorem read_short_of_plain (h : ∀ c ∈ cs, c ≠ quote ∧ c ≠ '\\' ∧ isPrintable c = true) :
    read ⟨.short (.char quote), awaited⟩ (ofChars cs) = ⟨.short (.char quote), awaited⟩ := by
  induction cs with
  | nil => rfl
  | cons c cs ih =>
    obtain ⟨⟨hquote, hslash, hprintable⟩, hcs⟩ := List.forall_mem_cons.mp h
    have hend : isLineEnd (.char c) = false := by
      rw [← Bool.not_eq_true, isLineEnd, Bool.or_eq_true, beq_iff_eq, beq_iff_eq]
      rintro (heq | heq) <;> cases heq <;> cases hprintable
    have hstep : step ⟨.short (.char quote), awaited⟩ (.char c) =
        ⟨.short (.char quote), awaited⟩ := by
      simp [step, readShort, hquote, hslash, hend]
    change read (step _ _) (ofChars cs) = _
    rw [hstep, ih hcs]

/-- What stands for a code point in a quoted text does not end it. -/
theorem read_of_standsAs {point : CodePoint} (hquote : quote = '\'' ∨ quote = '"')
    (h : Literal.StandsAs quote point cs) :
    read ⟨.short (.char quote), awaited⟩ (ofChars cs) = ⟨.short (.char quote), awaited⟩ := by
  have hslash : (CodePoint.char '\\' == CodePoint.char quote) = false := by
    rcases hquote with rfl | rfl <;> rfl
  have hescape : ∀ c, step (step ⟨.short (.char quote), awaited⟩ (.char '\\')) (.char c) =
      ⟨.short (.char quote), awaited⟩ := by
    intro c
    have hfirst : step ⟨.short (.char quote), awaited⟩ (.char '\\') =
        ⟨.shortEscape (.char quote), awaited⟩ := by
      rw [step, readShort, hslash]
      rfl
    rw [hfirst]
    rfl
  cases h with
  | letter => exact hescape _
  | @number mark width =>
    have hdigits : ∀ m < 16, hexDigit m ≠ '\'' ∧ hexDigit m ≠ '"' ∧ hexDigit m ≠ '\\' ∧
        isPrintable (hexDigit m) = true := by decide
    change read (step (step _ _) _) (ofChars (hexDigits width point.toNat)) = _
    rw [hescape]
    refine read_short_of_plain fun c hc => ?_
    obtain ⟨m, hm, rfl⟩ := exists_hexDigit_of_mem hc
    obtain ⟨hsingle, hdouble, hrest⟩ := hdigits m hm
    rcases hquote with rfl | rfl
    · exact ⟨hsingle, hrest⟩
    · exact ⟨hdouble, hrest⟩
  | @plain c hpoint hne hbackslash hprintable =>
    refine read_short_of_plain fun d hd => ?_
    obtain rfl := List.mem_singleton.mp hd
    exact ⟨hne, hbackslash, hprintable⟩

/-- A text whose code points are escaped for a quote does not end the literal. -/
theorem read_short_flatMap (hquote : quote = '\'' ∨ quote = '"') (t : Text)
    (awaited : List CodePoint) :
    read ⟨.short (.char quote), awaited⟩ (ofChars (t.flatMap (escapePoint quote))) =
      ⟨.short (.char quote), awaited⟩ := by
  induction t with
  | nil => rfl
  | cons point t ih =>
    rw [List.flatMap_cons, ofChars_append, read_append,
      read_of_standsAs hquote (Literal.standsAs_escapePoint hquote point), ih]

/-- A quoted text is a phrase: the literal of an empty one might go on as a long one. -/
theorem isPhrase_quotedChars (t : Text) : IsPhrase (ofChars (quotedChars t)) := by
  intro awaited
  have hquote := Literal.quoteFor_eq t
  have hfirst : readCode awaited (.char (quoteFor t)) = ⟨.quote (.char (quoteFor t)), awaited⟩ := by
    rcases hquote with heq | heq <;> rw [heq] <;> rfl
  have hsplit : ofChars (quotedChars t) = .char (quoteFor t) ::
      (ofChars (t.flatMap (escapePoint (quoteFor t))) ++ [.char (quoteFor t)]) := by
    rw [quotedChars, List.cons_append]
    exact congrArg _ (ofChars_append ..)
  rw [hsplit]
  change IsCode awaited (read (readCode awaited _) _)
  rw [hfirst]
  cases t with
  | nil =>
    have hlast : read ⟨.quote (.char (quoteFor [])), awaited⟩ [.char (quoteFor [])] =
        ⟨.quotes (.char (quoteFor [])), awaited⟩ := rfl
    exact hlast ▸ .quotes rfl
  | cons point t =>
    -- What stands for the first code point does not begin with the quote.
    have hslash := Literal.ne_backslash hquote
    obtain ⟨first, others, heq, hne⟩ :=
      (Literal.standsAs_escapePoint hquote point).exists_cons hslash
    have hbody := read_short_flatMap hquote (point :: t) awaited
    rw [List.flatMap_cons, heq, List.cons_append] at hbody ⊢
    have hopening : step ⟨.quote (.char (quoteFor (point :: t))), awaited⟩ (.char first) =
        step ⟨.short (.char (quoteFor (point :: t))), awaited⟩ (.char first) :=
      if_neg (by simpa using hne)
    have hread : read ⟨.quote (.char (quoteFor (point :: t))), awaited⟩
        (ofChars (first :: (others ++ t.flatMap (escapePoint (quoteFor (point :: t)))))) =
          ⟨.short (.char (quoteFor (point :: t))), awaited⟩ := by
      rw [← hbody]
      exact congrArg (read · (ofChars (others ++ _))) hopening
    have hlast : read ⟨.short (.char (quoteFor (point :: t))), awaited⟩
        [.char (quoteFor (point :: t))] = ⟨.code, awaited⟩ := if_pos (beq_self_eq_true _)
    rw [read_append, hread, hlast]
    exact .code

theorem isPhrase_quoted (t : Text) : IsPhrase (ofString (quoted t)) := by
  rw [quoted, ofString_ofList]
  exact isPhrase_quotedChars t

/-! ## Long literals -/

/-- That a text goes on with a long literal up to the quotes that end it, with something behind
them: a backslash takes what follows it along. -/
inductive Ends : Text → Text → Prop where
  | close (rest : Text) : Ends (ofChars quotes ++ rest) rest
  | escaped {t rest : Text} (p : CodePoint) (h : Ends t rest) : Ends (.char '\\' :: p :: t) rest
  | point {p : CodePoint} {t rest : Text} (hquotes : ¬ ofChars quotes <+: p :: t)
    (hp : p ≠ .char '\\') (h : Ends t rest) : Ends (p :: t) rest

variable {rest : Text} {c : Char}

/-- A literal is left at its end. The induction goes over the quotes that have been passed just
before, which are no three together with those that follow. -/
theorem Ends.read_run (h : Ends t rest) {run : Nat} (hrun : run < 3)
    (hopen : run ≠ 0 → ¬ ofChars quotes <+: List.replicate run (.char '"') ++ t) :
    read ⟨.long (.char '"') run, awaited⟩ t = read ⟨.code, awaited⟩ rest := by
  induction h generalizing run with
  | close rest =>
    have hzero : run = 0 := by
      by_contra hne
      obtain rfl | rfl : run = 1 ∨ run = 2 := by omega
      · exact hopen hne (List.prefix_append _ (.char '"' :: rest))
      · exact hopen hne (List.prefix_append _ (.char '"' :: .char '"' :: rest))
    subst hzero
    rfl
  | escaped p h ih => exact ih (by decide) fun hne => absurd rfl hne
  | @point p t rest hquotes hp h ih =>
    by_cases hquote : p = .char '"'
    · subst hquote
      have hreplicate : List.replicate run (CodePoint.char '"') ++ .char '"' :: t =
          List.replicate (run + 1) (.char '"') ++ t := by
        rw [List.replicate_succ', List.append_assoc, List.singleton_append]
      have hthree : ¬ ofChars quotes <+: List.replicate (run + 1) (.char '"') ++ t := by
        rw [← hreplicate]
        cases run with
        | zero => exact hquotes
        | succ run => exact hopen run.succ_ne_zero
      have hless : run < 2 := by
        by_contra hge
        obtain rfl : run = 2 := by omega
        exact hthree (List.prefix_append _ t)
      have hstep : step ⟨.long (.char '"') run, awaited⟩ (.char '"') =
          ⟨.long (.char '"') (run + 1), awaited⟩ := if_pos hless
      change read (step _ _) t = _
      rw [hstep]
      exact ih (by omega) fun _ => hthree
    · have hstep : step ⟨.long (.char '"') run, awaited⟩ p = ⟨.long (.char '"') 0, awaited⟩ := by
        simp [step, hquote, hp]
      change read (step _ _) t = _
      rw [hstep]
      exact ih (by decide) fun hne => absurd rfl hne

/-- A long literal leads back to code. -/
theorem Ends.read (h : Ends t rest) (awaited : List CodePoint) :
    Cursor.read ⟨.code, awaited⟩ (ofChars quotes ++ t) = Cursor.read ⟨.code, awaited⟩ rest :=
  h.read_run (Nat.zero_lt_succ 2) fun hne => absurd rfl hne

theorem not_startsWith_quotes (hc : c ≠ '"') (t : Text) : ¬ ofChars quotes <+: .char c :: t :=
  fun h => hc (CodePoint.char.inj (List.cons_prefix_cons.mp h).1).symm

theorem not_startsWith_quotes_append (hc : c ≠ '"') (h : ¬ quotes <+: cs) (t : Text) :
    ¬ ofChars quotes <+: ofChars cs ++ .char c :: t := by
  match cs with
  | [] => exact not_startsWith_quotes hc t
  | [_] => simp [quotes, ofChars, hc.symm]
  | [_, _] => simp [quotes, ofChars, hc.symm]
  | _ :: _ :: _ :: _ => simpa [quotes, ofChars] using h

theorem Ends.plain (hcs : cs.all isPlain = true) (h : Ends t rest) :
    Ends (ofChars cs ++ t) rest := by
  induction cs with
  | nil => exact h
  | cons c cs ih =>
    obtain ⟨hquote, hslash, hcs⟩ := LongLiteral.all_isPlain_cons_iff.mp hcs
    exact .point (not_startsWith_quotes hquote _) (fun heq => hslash (CodePoint.char.inj heq))
      (ih hcs)

/-- A harmless text does not end the literal that it stands in, if a character that opens no escape
follows. -/
theorem Ends.harmless (hcs : Harmless cs) (hc : LongLiteral.isMark c = false)
    (h : Ends (.char c :: t) rest) : Ends (ofChars cs ++ .char c :: t) rest := by
  have hquote : ∀ {d}, LongLiteral.isMark d = false → d ≠ '"' := by
    rintro _ hd rfl
    cases hd
  have hslash : ∀ {d}, LongLiteral.isMark d = false → d ≠ '\\' := by
    rintro _ hd rfl
    cases hd
  -- A backslash may take along what opens no escape.
  have htaken : ∀ {d more}, LongLiteral.isMark d = false → Ends (.char d :: more) rest →
      Ends (.char '\\' :: .char d :: more) rest := by
    intro d more hd h
    cases h with
    | close => exact absurd rfl (hquote hd)
    | escaped => exact absurd rfl (hslash hd)
    | point _ _ h => exact .escaped _ h
  induction cs with
  | nil => exact h
  | cons d cs ih =>
    obtain ⟨hquotes, hescape, htail⟩ := LongLiteral.harmless_cons_iff.mp hcs
    by_cases hd : d = '\\'
    · subst hd
      cases cs with
      | nil => exact htaken hc h
      | cons e cs => exact htaken (hescape rfl e rfl) (ih htail)
    · exact .point (not_startsWith_quotes_append (hquote hc) hquotes t)
        (fun heq => hd (CodePoint.char.inj heq)) (ih htail)

end Cursor

end GraphBind.Text
