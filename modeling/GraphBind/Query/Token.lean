import GraphBind.Text.Basic

/-!
# Tokens of query texts

The tokens of GraphQL texts, and what can be wrong with such a text. The end of a text is not a
token; where one token is meant, `none` stands for the end.
-/

namespace GraphBind.Query

/-- A punctuator. -/
inductive Punctuator where
  | bang
  | dollar
  | ampersand
  | parenOpen
  | parenClose
  | spread
  | colon
  | equals
  | atSign
  | bracketOpen
  | bracketClose
  | braceOpen
  | braceClose
  | pipe
  deriving DecidableEq, Repr

/-- The text of a punctuator. -/
def Punctuator.text : Punctuator → String
  | bang => "!"
  | dollar => "$"
  | ampersand => "&"
  | parenOpen => "("
  | parenClose => ")"
  | spread => "..."
  | colon => ":"
  | equals => "="
  | atSign => "@"
  | bracketOpen => "["
  | bracketClose => "]"
  | braceOpen => "\x7b"
  | braceClose => "\x7d"
  | pipe => "|"

/-- A token with what it says, if it says more than its kind. -/
inductive Symbol where
  | punctuator (p : Punctuator)
  | name (s : String)
  | int (s : String)
  | float (s : String)
  | string (s : String)
  | blockString (s : String)
  deriving DecidableEq, Repr

namespace Symbol

/-- A token in messages. -/
def describe : Symbol → String
  | punctuator p => s!"'{p.text}'"
  | name s => s!"Name '{s}'"
  | int s => s!"Int '{s}'"
  | float s => s!"Float '{s}'"
  | string s => s!"String '{s}'"
  | blockString s => s!"BlockString '{s}'"

/-- What a token says. -/
def content? : Symbol → Option String
  | punctuator _ => none
  | name s => some s
  | int s => some s
  | float s => some s
  | string s => some s
  | blockString s => some s

/-- Whether a token is a string of either form. -/
def isString : Symbol → Bool
  | string _ => true
  | blockString _ => true
  | _ => false

end Symbol

/-- What is wrong with a query text. -/
inductive SyntaxError where
  /-- No token starts with this character. -/
  | character (c : Char)
  /-- A string is quoted with an apostrophe. -/
  | apostrophe
  /-- A number goes on after a leading zero. -/
  | digitAfterZero (found : Option Char)
  /-- A number lacks a digit, or runs into a name or a point. -/
  | digitExpected (found : Option Char)
  /-- A string is not closed on its line, or a block string not at all. -/
  | unterminatedString
  /-- A backslash is followed by a character that forms no escape with it. -/
  | characterEscape (text : String)
  /-- A Unicode escape stands for no character. -/
  | unicodeEscape (text : String)
  /-- The text ends inside an escape. -/
  | truncatedEscape
  /-- Another token was expected. -/
  | expected (what : String) (found : Option Symbol)
  /-- No token like this can stand here. -/
  | unexpected (found : Option Symbol)
  /-- A description stands before something that has none. -/
  | misplacedDescription
  /-- A variable stands in a constant value. -/
  | variableInConstant (name : String)
  /-- A value of an enumeration has a reserved name. -/
  | reservedValue (found : Symbol)
  deriving DecidableEq, Repr

/-- The end of a text in messages. -/
def endOfText : String := "<EOF>"

/-- A character in messages. -/
def describeChar : Option Char → String
  | none => endOfText
  | some c =>
    if c == '"' then "'\"'"
    else if ' ' ≤ c && c ≤ '~' then String.ofList ['\'', c, '\'']
    else "U+" ++ String.ofList (Text.codePointDigits c)

/-- A token, or the end of the text, in messages. -/
def describeSymbol : Option Symbol → String
  | none => endOfText
  | some s => s.describe

/-- What is wrong, in words. -/
def SyntaxError.description : SyntaxError → String
  | character c => s!"Unexpected character: {describeChar (some c)}."
  | apostrophe =>
    "Unexpected single quote character ('), did you mean to use a double quote (\")?"
  | digitAfterZero found => s!"Invalid number, unexpected digit after 0: {describeChar found}."
  | digitExpected found => s!"Invalid number, expected digit but got: {describeChar found}."
  | unterminatedString => "Unterminated string."
  | characterEscape text => s!"Invalid character escape sequence: '{text}'."
  | unicodeEscape text => s!"Invalid Unicode escape sequence: '{text}'."
  | truncatedEscape => "string index out of range"
  | expected what found => s!"Expected {what}, found {describeSymbol found}."
  | unexpected found => s!"Unexpected {describeSymbol found}."
  | misplacedDescription =>
    "Unexpected description, descriptions are supported only on type definitions."
  | variableInConstant name => s!"Unexpected variable '${name}' in constant value."
  | reservedValue found =>
    s!"{found.describe} is reserved and cannot be used for an enum value."

/-- The text of an error. -/
def SyntaxError.message (e : SyntaxError) : String := s!"Syntax Error: {e.description}"

end GraphBind.Query
