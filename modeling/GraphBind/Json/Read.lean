import GraphBind.Entries
import GraphBind.Json.Token

/-!
# Reading JSON documents

`ofLexemes` runs over the tokens of a text with a stack of the arrays and objects that are open.
What it awaits at a token decides the error if another one stands there, so whether a text is a
document depends on its tokens alone, and the place of an error is the place of one token.

A key that an object repeats keeps its first place and takes the last value.
-/

namespace GraphBind.Json

/-- What is wrong at a place of a text. -/
inductive Problem where
  | value
  | name
  | colon
  | comma
  | extra
  | unterminated
  | control
  | escape
  | unicode
  | byteOrderMark
  deriving DecidableEq, Repr

/-- The words for a problem. -/
def Problem.description : Problem → String
  | value => "Expecting value"
  | name => "Expecting property name enclosed in double quotes"
  | colon => "Expecting ':' delimiter"
  | comma => "Expecting ',' delimiter"
  | extra => "Extra data"
  | unterminated => "Unterminated string starting at"
  | control => "Invalid control character at"
  | escape => "Invalid \\escape"
  | unicode => "Invalid \\uXXXX escape"
  | byteOrderMark => "Unexpected UTF-8 BOM (decode using utf-8-sig)"

/-- Why tokens form no document; a problem stands where `rest` begins. -/
inductive Refusal where
  | problem (problem : Problem) (rest : Text)
  | tooManyDigits (count : Nat)
  deriving DecidableEq, Repr

/-- A container that is open around the place of reading: the items so far, last one first, or the
members so far and the key whose value is read. -/
inductive Frame where
  | items (done : List Json)
  | member (done : List (Text × Json)) (key : Text)

/-- What is awaited. -/
inductive Mode where
  /-- A value. -/
  | value
  /-- The first item of an array, or its end. -/
  | firstItem
  /-- The first key of an object, or its end. -/
  | firstKey
  /-- A key, behind the members so far. -/
  | key (done : List (Text × Json))
  /-- The colon after a key. -/
  | colon (done : List (Text × Json)) (key : Text)
  /-- What follows a complete value. -/
  | next (value : Json)

/-- The refusal of a token where a value is awaited. -/
def refuseValue (lexeme : Lexeme) : Refusal :=
  match lexeme.token with
  | .bad .unterminated => .problem .unterminated lexeme.start
  | .bad (.control rest) => .problem .control rest
  | .bad (.escape rest) => .problem .escape rest
  | .bad (.unicode rest) => .problem .unicode rest
  | .bad (.tooManyDigits n) => .tooManyDigits n
  | _ => .problem .value lexeme.start

/-- The refusal of a token where a key is awaited. -/
def refuseKey (lexeme : Lexeme) : Refusal :=
  match lexeme.token with
  | .bad .unknown | .bad (.tooManyDigits _) => .problem .name lexeme.start
  | .bad _ => refuseValue lexeme
  | _ => .problem .name lexeme.start

/-- The refusal of the end of the text. -/
def Mode.refuseEnd : Mode → Refusal
  | value | firstItem => .problem .value []
  | firstKey | key _ => .problem .name []
  | colon _ _ => .problem .colon []
  | next _ => .problem .comma []

/-- What a token leads to where a value is awaited. -/
def startValue (stack : List Frame) (lexeme : Lexeme) : Except Refusal (List Frame × Mode) :=
  match lexeme.token with
  | .null => .ok (stack, .next .null)
  | .scalar s => .ok (stack, .next (.scalar s))
  | .openArray => .ok (stack, .firstItem)
  | .openObject => .ok (stack, .firstKey)
  | _ => .error (refuseValue lexeme)

/-- What a token leads to where a key is awaited. -/
def startKey (stack : List Frame) (done : List (Text × Json)) (lexeme : Lexeme) :
    Except Refusal (List Frame × Mode) :=
  match lexeme.token with
  | .scalar (.str key) => .ok (stack, .colon done key)
  | _ => .error (refuseKey lexeme)

/-- What a token leads to behind a complete value. -/
def continueValue (stack : List Frame) (value : Json) (lexeme : Lexeme) :
    Except Refusal (List Frame × Mode) :=
  match stack, lexeme.token with
  | .items done :: outer, .comma => .ok (.items (value :: done) :: outer, .value)
  | .items done :: outer, .closeArray => .ok (outer, .next (.array (value :: done).reverse))
  | .member done key :: outer, .comma => .ok (outer, .key (Entries.put key value done))
  | .member done key :: outer, .closeObject =>
    .ok (outer, .next (.object (Entries.put key value done)))
  | [], _ => .error (.problem .extra lexeme.start)
  | _ :: _, _ => .error (.problem .comma lexeme.start)

/-- One token. -/
def step (stack : List Frame) (mode : Mode) (lexeme : Lexeme) :
    Except Refusal (List Frame × Mode) :=
  match mode with
  | .value => startValue stack lexeme
  | .firstItem =>
    match lexeme.token with
    | .closeArray => .ok (stack, .next (.array []))
    | _ => startValue (.items [] :: stack) lexeme
  | .firstKey =>
    match lexeme.token with
    | .closeObject => .ok (stack, .next (.object []))
    | _ => startKey stack [] lexeme
  | .key done => startKey stack done lexeme
  | .colon done key =>
    match lexeme.token with
    | .colon => .ok (.member done key :: stack, .value)
    | _ => .error (.problem .colon lexeme.start)
  | .next value => continueValue stack value lexeme

/-- Reads the rest of a document. -/
def run (stack : List Frame) (mode : Mode) : List Lexeme → Except Refusal Json
  | [] =>
    match stack, mode with
    | [], .next value => .ok value
    | _, mode => .error mode.refuseEnd
  | lexeme :: rest => do
    let (stack, mode) ← step stack mode lexeme
    run stack mode rest

/-- The document that tokens form. -/
def ofLexemes (lexemes : List Lexeme) : Except Refusal Json := run [] .value lexemes

/-- A position in a text: the number of characters before it, its line and its column. -/
structure Position where
  offset : Nat
  line : Nat
  column : Nat
  deriving DecidableEq, Repr

/-- The position in a text at which `rest` begins. -/
def Position.ofRest (text rest : Text) : Position :=
  let before := text.take (text.length - rest.length)
  { offset := before.length
    line := before.count (.char '\n') + 1
    column := (before.reverse.takeWhile (· != .char '\n')).length + 1 }

/-- Why a text is no document. -/
inductive ReadError where
  | problem (problem : Problem) (position : Position)
  | tooManyDigits (count : Nat)
  deriving DecidableEq, Repr

/-- The text of an error. -/
def ReadError.message : ReadError → String
  | problem p position =>
    s!"{p.description}: line {position.line} column {position.column} (char {position.offset})"
  | tooManyDigits count =>
    s!"Exceeds the limit ({Decimal.digitLimit} digits) for integer string conversion: " ++
      s!"value has {count} digits; use sys.set_int_max_str_digits() to increase the limit"

/-- A refusal, placed in the text. -/
def Refusal.placeIn (text : Text) : Refusal → ReadError
  | problem p rest => .problem p (.ofRest text rest)
  | tooManyDigits count => .tooManyDigits count

/-- The document that a text writes. -/
def ofText (text : Text) : Except ReadError Json :=
  if text.head? == some (.char '\uFEFF') then .error (.problem .byteOrderMark (.ofRest text text))
  else (ofLexemes (lex text)).mapError (·.placeIn text)

end GraphBind.Json
