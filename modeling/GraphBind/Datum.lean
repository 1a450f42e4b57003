import GraphBind.Value.Basic

/-!
# Data of the host

What a caller may hand in as a document: besides documents proper there are tuples, dictionaries
with keys of any kind, and things that no document can express. `toValue` maps a datum to a value;
the keys of a dictionary become their texts.
-/

namespace GraphBind

/-- Things that no document can express. -/
inductive Foreign where
  | set
  | bytes
  | object
  | complex
  deriving DecidableEq, Repr

/-- The word for the kind of a thing. -/
def Foreign.typeName : Foreign → String
  | set => "set"
  | bytes => "bytes"
  | object => "object"
  | complex => "complex"

/-- The shown form of a thing. -/
def Foreign.display : Foreign → String
  | set => "set()"
  | bytes => "b'x'"
  | object => "<object>"
  | complex => "1j"

/-- A datum. -/
inductive Datum where
  | null
  | scalar (s : Scalar)
  | list (items : List Datum)
  | tuple (items : List Datum)
  | dictionary (entries : List (Datum × Datum))
  | foreign (thing : Foreign)
  deriving Repr, Inhabited

namespace Datum

/-- The word for the kind of a datum. -/
def typeName : Datum → String
  | null => "NoneType"
  | scalar s => s.typeName
  | list _ => "list"
  | tuple _ => "tuple"
  | dictionary _ => "dict"
  | foreign thing => thing.typeName

mutual

/-- A datum as it is shown inside another. -/
def display : Datum → String
  | null => "None"
  | scalar s => s.display
  | list items => "[" ++ ", ".intercalate (displayItems items) ++ "]"
  | tuple [item] => "(" ++ display item ++ ",)"
  | tuple items => "(" ++ ", ".intercalate (displayItems items) ++ ")"
  | dictionary entries => "\x7b" ++ ", ".intercalate (displayEntries entries) ++ "\x7d"
  | foreign thing => thing.display

/-- Data, each shown. -/
def displayItems : List Datum → List String
  | [] => []
  | d :: ds => display d :: displayItems ds

/-- The entries of a dictionary, each shown. -/
def displayEntries : List (Datum × Datum) → List String
  | [] => []
  | (key, d) :: ds => (display key ++ ": " ++ display d) :: displayEntries ds

end

/-- The text of a datum: a string stands for itself. -/
def toText : Datum → Text
  | scalar s => s.toText
  | d => d.display

mutual

/-- Whether two data are one key. -/
def agrees : Datum → Datum → Bool
  | null, null => true
  | scalar s, scalar t => s.agrees false t
  | tuple ds, tuple es => agreeItems ds es
  | foreign t, foreign u => t == u && t != .object
  | _, _ => false

/-- Whether the items of two tuples agree. -/
def agreeItems : List Datum → List Datum → Bool
  | [], [] => true
  | d :: ds, e :: es => agrees d e && agreeItems ds es
  | _, _ => false

end

mutual

/-- The word for the part of a datum, or the whole of it, for which it is no key. -/
def notAKey? : Datum → Option String
  | list _ => some "list"
  | dictionary _ => some "dict"
  | foreign .set => some "set"
  | tuple items => noneOfKeys? items
  | _ => none

/-- The word for the first of some data that is no key. -/
def noneOfKeys? : List Datum → Option String
  | [] => none
  | d :: ds => (notAKey? d).or (noneOfKeys? ds)

end

/-- A datum of this kind is no key. -/
structure Unhashable where
  typeName : String
  deriving DecidableEq, Repr

/-- The text of the error. -/
def Unhashable.message (e : Unhashable) : String := s!"unhashable type: '{e.typeName}'"

/-- Writes an entry over the value of a key that agrees, or at the end. -/
def put (key d : Datum) : List (Datum × Datum) → List (Datum × Datum)
  | [] => [(key, d)]
  | (k, e) :: es => if k.agrees key then (k, d) :: es else (k, e) :: put key d es

/-- Writes an entry of a dictionary. -/
def insert (key d : Datum) (entries : List (Datum × Datum)) :
    Except Unhashable (List (Datum × Datum)) :=
  match key.notAKey? with
  | some typeName => .error ⟨typeName⟩
  | none => .ok (put key d entries)

/-- No value stands for a datum of this kind. -/
structure Unmappable where
  typeName : String
  deriving DecidableEq, Repr

/-- The text of the error. -/
def Unmappable.message (e : Unmappable) : String := s!"Cannot map {e.typeName} to a GraphQL value"

mutual

/-- The value of a datum. -/
def toValue : Datum → Except Unmappable Value
  | null => .ok .null
  | scalar s => .ok (.scalar s)
  | list items => (toItems items).map .list
  | tuple items => (toItems items).map .list
  | dictionary entries => (toEntries entries).map .object
  | foreign thing => .error ⟨thing.typeName⟩

/-- The values of data. -/
def toItems : List Datum → Except Unmappable (List Value)
  | [] => .ok []
  | d :: ds => do
    let v ← toValue d
    let vs ← toItems ds
    return v :: vs

/-- The entries of a dictionary. -/
def toEntries : List (Datum × Datum) → Except Unmappable (List (Text × Value))
  | [] => .ok []
  | (key, d) :: ds => do
    let v ← toValue d
    let vs ← toEntries ds
    return (key.toText, v) :: vs

end

end Datum

end GraphBind
