import GraphBind.Decimal
import GraphBind.Text.Quoted

/-!
# JSON documents

A decoded document. Integers are exact and of any size, other numbers are floating-point; the
constants `NaN` and `Infinity` are numbers too. The members of an object stand in source order.

`toText` is the text of a document in messages: a string stands for itself, everything else is shown
by `display`, which quotes strings and spells the constants `None`, `True` and `False`.
-/

namespace GraphBind

open Decimal (Binary64)

/-- A string, number or boolean. -/
inductive Scalar where
  | bool (b : Bool)
  | int (n : Int)
  | float (x : Binary64)
  | str (s : Text)
  deriving DecidableEq, Repr, Inhabited

/-- A JSON document. -/
inductive Json where
  | null
  | scalar (s : Scalar)
  | array (items : List Json)
  | object (members : List (Text × Json))
  deriving Repr, Inhabited

namespace Scalar

/-- The word for the kind of a scalar. -/
def typeName : Scalar → String
  | bool _ => "bool"
  | int _ => "int"
  | float _ => "float"
  | str _ => "str"

/-- A scalar inside a shown document. -/
def display : Scalar → String
  | bool b => if b then "True" else "False"
  | int n => toString n
  | float x => x.toText
  | str s => Text.quoted s

/-- A scalar on its own: a string stands for itself. -/
def toText : Scalar → Text
  | str s => s
  | s => s.display

end Scalar

namespace Json

/-- The word for the kind of a document. -/
def typeName : Json → String
  | null => "NoneType"
  | scalar s => s.typeName
  | array _ => "list"
  | object _ => "dict"

mutual

/-- A document as it is shown inside another. -/
def display : Json → String
  | null => "None"
  | scalar s => s.display
  | array items => "[" ++ ", ".intercalate (displayItems items) ++ "]"
  | object members => "\x7b" ++ ", ".intercalate (displayMembers members) ++ "\x7d"

/-- The items of an array, each shown. -/
def displayItems : List Json → List String
  | [] => []
  | item :: items => display item :: displayItems items

/-- The members of an object, each shown with its key. -/
def displayMembers : List (Text × Json) → List String
  | [] => []
  | (key, value) :: members =>
    (Text.quoted key ++ ": " ++ display value) :: displayMembers members

end

/-- The text of a document: a string stands for itself. -/
def toText : Json → Text
  | scalar s => s.toText
  | d => d.display

/-- The value of a member of an object. -/
def member? (key : Text) : Json → Option Json
  | object members => (members.find? (·.1 == key)).map (·.2)
  | _ => none

end Json

end GraphBind
