import GraphBind.Query.Lexing

/-!
# Readers of tokens

A reader takes something off the front of the tokens of a text. `Reads` takes at least one token,
`Skips` may take none; both say so in their types, which is why repetition ends.

The part of a text that is no token is an error as soon as it would come next.
-/

namespace GraphBind.Query

/-- The tokens behind something that has been read off `ts`. -/
abbrev Rest (ts : List Token) := { rest : List Token // rest.length < ts.length }

/-- The tokens behind something that may have been read off `ts`. -/
abbrev Tail (ts : List Token) := { rest : List Token // rest.length ≤ ts.length }

/-- The tokens behind one thing and another after it. -/
def behind {ts : List Token} (r : Rest ts) (r' : Rest r.1) : Rest ts :=
  ⟨r'.1, Nat.lt_trans r'.2 r.2⟩

/-- Reads something. -/
abbrev Reads := (ts : List Token) → Except SyntaxError (Rest ts)

/-- Reads something if it is there. -/
abbrev Skips := (ts : List Token) → Except SyntaxError (Tail ts)

/-- The next token, or none at the end. -/
def peek : List Token → Option Symbol
  | .symbol s :: _ => some s
  | _ => none

/-- The next token but one, or none at the end. -/
def peekSecond : List Token → Except SyntaxError (Option Symbol)
  | _ :: .invalid e :: _ => .error e
  | _ :: rest => .ok (peek rest)
  | [] => .ok none

/-- Checks that what comes next is a token or the end. -/
def settled : List Token → Except SyntaxError Unit
  | .invalid e :: _ => .error e
  | _ => .ok ()

/-- Passes one token. -/
def advance (t : Token) (rest : List Token) : Except SyntaxError (Rest (t :: rest)) :=
  (settled rest).map fun _ => ⟨rest, by simp⟩

/-- Nothing. -/
def nothing : Skips := fun ts => .ok ⟨ts, Nat.le_refl _⟩

namespace Reads

/-- What reads something may read it. -/
def toSkips (p : Reads) : Skips := fun ts => (p ts).map fun r => ⟨r.1, Nat.le_of_lt r.2⟩

/-- One after the other. -/
def next (p : Reads) (q : Skips) : Reads := fun ts =>
  match p ts with
  | .error e => .error e
  | .ok r =>
    match q r.1 with
    | .error e => .error e
    | .ok r' => .ok ⟨r'.1, Nat.lt_of_le_of_lt r'.2 r.2⟩

instance : Coe Reads Skips := ⟨toSkips⟩

end Reads

namespace Skips

/-- One after the other. -/
def next (p q : Skips) : Skips := fun ts =>
  match p ts with
  | .error e => .error e
  | .ok r =>
    match q r.1 with
    | .error e => .error e
    | .ok r' => .ok ⟨r'.1, Nat.le_trans r'.2 r.2⟩

/-- One before the other. -/
def before (p : Skips) (q : Reads) : Reads := fun ts =>
  match p ts with
  | .error e => .error e
  | .ok r =>
    match q r.1 with
    | .error e => .error e
    | .ok r' => .ok ⟨r'.1, Nat.lt_of_lt_of_le r'.2 r.2⟩

end Skips

/-! ## Single tokens -/

/-- Whether a punctuator comes next. -/
def atPunctuator (p : Punctuator) (ts : List Token) : Bool := peek ts == some (.punctuator p)

/-- Whether a word comes next. -/
def atKeyword (word : String) (ts : List Token) : Bool := peek ts == some (.name word)

/-- Whether a string comes next. -/
def atString (ts : List Token) : Bool := (peek ts).any Symbol.isString

/-- Reads a token that passes a test; `what` names it. -/
def token (test : Symbol → Bool) (what : String) : Reads := fun ts =>
  match ts with
  | .symbol s :: rest =>
    if test s then advance (.symbol s) rest else .error (.expected what (some s))
  | ts => .error (.expected what (peek ts))

/-- Reads a punctuator. -/
def punctuator (p : Punctuator) : Reads := token (· == .punctuator p) (Symbol.punctuator p).describe

/-- Reads a word. -/
def keyword (word : String) : Reads := token (· == .name word) s!"'{word}'"

/-- Whether a token is a name. -/
def Symbol.isName : Symbol → Bool
  | name _ => true
  | _ => false

/-- Reads any name. -/
def name : Reads := token Symbol.isName "Name"

/-- Refuses what comes next. -/
def unexpected : Reads := fun ts => .error (.unexpected (peek ts))

/-! ## Choice and repetition -/

/-- Reads something if a test on what comes next says so. -/
def whenAt (test : List Token → Bool) (p : Reads) : Skips := fun ts =>
  if test ts then p.toSkips ts else nothing ts

/-- Reads a string if there is one. -/
def description : Skips := whenAt atString (token Symbol.isString "String")

/-- Reads items up to a closing punctuator. -/
def itemsUntil (close : Punctuator) (item : Reads) (ts : List Token) :
    Except SyntaxError (Rest ts) :=
  if atPunctuator close ts then punctuator close ts
  else
    match item ts with
    | .error e => .error e
    | .ok r =>
      have := r.2
      match itemsUntil close item r.1 with
      | .error e => .error e
      | .ok r' => .ok (behind r r')
  termination_by ts.length

/-- Reads at least one item between two punctuators. -/
def between (opening close : Punctuator) (item : Reads) : Reads :=
  (punctuator opening).next (item.next (Reads.toSkips (itemsUntil close item)))

/-- Reads at least one item between two punctuators, if the first one is there. -/
def maybeBetween (opening close : Punctuator) (item : Reads) : Skips :=
  whenAt (atPunctuator opening) (between opening close item)

/-- Reads further items, each behind a punctuator. -/
def furtherItems (delimiter : Punctuator) (item : Reads) (ts : List Token) :
    Except SyntaxError (Tail ts) :=
  if atPunctuator delimiter ts then
    match ((punctuator delimiter).next item) ts with
    | .error e => .error e
    | .ok r =>
      have := r.2
      match furtherItems delimiter item r.1 with
      | .error e => .error e
      | .ok r' => .ok ⟨r'.1, Nat.le_trans r'.2 (Nat.le_of_lt r.2)⟩
  else nothing ts
  termination_by ts.length

/-- Reads items with a punctuator between them, and perhaps before the first. -/
def delimited (delimiter : Punctuator) (item : Reads) : Reads :=
  (whenAt (atPunctuator delimiter) (punctuator delimiter)).before
    (item.next (furtherItems delimiter item))

/-- Reads something that has to take at least one token. -/
def extending (p : Skips) : Skips := fun ts =>
  match p ts with
  | .error e => .error e
  | .ok r => if r.1.length < ts.length then .ok r else .error (.unexpected (peek r.1))

end GraphBind.Query
