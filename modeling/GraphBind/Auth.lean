import GraphBind.Entries
import GraphBind.Text.Basic
import GraphBind.Text.Encoding
import GraphBind.Text.Quoted

/-!
# Headers and authentication

The headers of a request, in the order in which they are set. Letter case does not count in their
names: headers of one name make up one field, whose value holds theirs between commas.

Some headers identify a caller. They may be given as texts `Name:Value`: the name ends at the first
colon, and blanks around name and value do not count.
-/

/-! ## Headers -/

namespace GraphBind

/-- The headers of a request, in order. -/
abbrev Headers := List (String × String)

namespace Headers

/-- The name of a header with its ASCII letters in lower case. -/
def fieldName (name : String) : String := String.ofList (name.toList.map Char.toLower)

/-- Whether there is a header of a field. -/
def has (field : String) (hs : Headers) : Bool := hs.any fun h => fieldName h.1 == field

/-- Sets the only header of its field: in the place of the first one, or at the end. -/
def set (name value : String) : Headers → Headers
  | [] => [(name, value)]
  | h :: hs =>
    if fieldName h.1 == fieldName name then
      (name, value) :: hs.filter fun h => fieldName h.1 != fieldName name
    else h :: set name value hs

/-- The fields that headers make up, in the order in which they first come. -/
def fields (hs : Headers) : List (String × String) :=
  hs.foldl (fun fields (name, value) =>
    let field := fieldName name
    let whole := ((Entries.get? field fields).map fun values => values ++ ", " ++ value).getD value
    Entries.put field whole fields) []

/-- Whether one header comes before another. -/
def le (a b : String × String) : Bool := decide (a.1 < b.1 ∨ a.1 = b.1 ∧ a.2 ≤ b.2)

/-- What is wrong with the first header that cannot be sent, because its name or its value is not
ASCII. -/
def fault? (hs : Headers) : Option Text.Unencodable :=
  hs.findSome? fun (name, value) =>
    (Text.Unencodable.find? .ascii name).or (Text.Unencodable.find? .ascii value)

end Headers

/-! ## Authentication -/

/-- How a caller is identified. -/
inductive Auth where
  | none
  | bearer (token : String)
  | apiKey (header key : String)
  | headers (hs : Headers)
  deriving DecidableEq, Repr, Inhabited

/-- A text that is no header. -/
structure InvalidHeader where
  text : String
  deriving DecidableEq, Repr

/-- The text of the error. -/
def InvalidHeader.message (e : InvalidHeader) : String :=
  "Invalid header " ++ Text.quoted e.text ++ ", expected Name:Value"

namespace Auth

/-- The header in which a key is sent unless another is named. -/
def keyHeader : String := "x-api-key"

/-- The headers that identify the caller. -/
def toHeaders : Auth → Headers
  | none => []
  | bearer token => [("Authorization", "Bearer " ++ token)]
  | apiKey header key => [(header, key)]
  | headers hs => hs

/-- The header that a text `Name:Value` writes. -/
def readHeader? (text : List Char) : Option (String × String) :=
  match text.dropWhile (· != ':') with
  | [] => Option.none
  | _ :: value =>
    let name := Text.trim Text.isBlank (text.takeWhile (· != ':'))
    if name.isEmpty then Option.none
    else some (String.ofList name, String.ofList (Text.trim Text.isBlank value))

/-- The headers that texts write; the first one that writes none is the error. -/
def readHeaders : List String → Except InvalidHeader Headers
  | [] => .ok []
  | text :: texts =>
    match readHeader? text.toList with
    | Option.none => .error ⟨text⟩
    | some header => (readHeaders texts).map (header :: ·)

/-- Identification by headers given as texts. A name that comes twice keeps its place and takes the
last value. -/
def ofPairs (texts : List String) : Except InvalidHeader Auth :=
  (readHeaders texts).map fun hs => headers (Entries.ofList hs)

end Auth

end GraphBind
