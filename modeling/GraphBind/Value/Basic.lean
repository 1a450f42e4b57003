import GraphBind.Entries
import GraphBind.Json.Basic

/-!
# Values

The structured form of response data. `ofJson` takes a document over as it is; `toJson` gives it
back and merges the keys that an object repeats, the last value in the first place. An object that
comes from a document repeats none.

A list is entered by an index, which may count from the end, and an object by a key. Every way in
which a value does not support what is asked of it has its own error.

Values agree if they have the same structure and agreeing scalars. Numbers agree by their amount,
exactly and across their kinds; truth values are the numbers 1 and 0. The not-a-number of documents
is one constant that agrees with itself, while one that was computed agrees with none: `constant`
says which is meant.
-/

/-! ## Values and documents -/

namespace GraphBind

/-- A piece of response data. The entries of an object stand in source order. -/
inductive Value where
  | null
  | scalar (s : Scalar)
  | list (items : List Value)
  | object (entries : List (Text × Value))
  deriving Repr, Inhabited

namespace Value

mutual

/-- The value of a document. -/
def ofJson : Json → Value
  | .null => null
  | .scalar s => scalar s
  | .array items => list (ofItems items)
  | .object members => object (ofMembers members)

/-- The values of the items of an array. -/
def ofItems : List Json → List Value
  | [] => []
  | d :: ds => ofJson d :: ofItems ds

/-- The entries of an object. -/
def ofMembers : List (Text × Json) → List (Text × Value)
  | [] => []
  | (key, d) :: ds => (key, ofJson d) :: ofMembers ds

end

mutual

/-- The document of a value; keys that an object repeats are merged. -/
def toJson : Value → Json
  | null => .null
  | scalar s => .scalar s
  | list items => .array (toItems items)
  | object entries => .object (Entries.ofList (toMembers entries))

/-- The documents of the items of a list. -/
def toItems : List Value → List Json
  | [] => []
  | v :: vs => toJson v :: toItems vs

/-- The documents of the entries of an object, repeated keys included. -/
def toMembers : List (Text × Value) → List (Text × Json)
  | [] => []
  | (key, v) :: vs => (key, toJson v) :: toMembers vs

end

theorem ofItems_eq_map (ds : List Json) : ofItems ds = ds.map ofJson := by
  induction ds with
  | nil => rfl
  | cons d ds ih => simp [ofItems, ih]

theorem ofMembers_eq_map (ds : List (Text × Json)) :
    ofMembers ds = ds.map fun m => (m.1, ofJson m.2) := by
  induction ds with
  | nil => rfl
  | cons d ds ih => simp [ofMembers, ih]

theorem toItems_eq_map (vs : List Value) : toItems vs = vs.map toJson := by
  induction vs with
  | nil => rfl
  | cons v vs ih => simp [toItems, ih]

theorem toMembers_eq_map (vs : List (Text × Value)) :
    toMembers vs = vs.map fun e => (e.1, toJson e.2) := by
  induction vs with
  | nil => rfl
  | cons v vs ih => simp [toMembers, ih]

/-- The text of a value: that of its document. -/
def toText (v : Value) : Text := v.toJson.toText

/-- The value of the first entry of an object with a key. -/
def entry? (key : Text) : Value → Option Value
  | object entries => Entries.get? key entries
  | _ => none

end Value

/-! ## Access -/

/-- Why a value does not give what is asked of it. -/
inductive AccessError where
  | missingKey (key : Text)
  | indexOutOfRange
  | indexTooLarge
  | notAnIndex (typeName : String)
  | notSubscriptable (kind : String)
  | unsized (kind : String)
  | notIterable (kind : String)
  | notAContainer (kind : String)
  | noAttribute (kind name : String)
  | notCallable
  deriving DecidableEq, Repr

/-- The text of an error. -/
def AccessError.message : AccessError → Text
  | missingKey key => key
  | indexOutOfRange => "tuple index out of range"
  | indexTooLarge => "cannot fit 'int' into an index-sized integer"
  | notAnIndex typeName => s!"tuple indices must be integers or slices, not {typeName}"
  | notSubscriptable kind => s!"'{kind}' object is not subscriptable"
  | unsized kind => s!"object of type '{kind}' has no len()"
  | notIterable kind => s!"'{kind}' object is not iterable"
  | notAContainer kind => s!"argument of type '{kind}' is not iterable"
  | noAttribute kind name => s!"'{kind}' object has no attribute '{name}'"
  | notCallable => "'tuple' object is not callable"

namespace Value

/-- The word for the kind of a value. -/
def kindName : Value → String
  | null => "NullValue"
  | scalar _ => "ScalarValue"
  | list _ => "ListValue"
  | object _ => "ObjectValue"

/-- Indexes lie below this bound, and not below its negative. -/
def indexBound : Int := 9223372036854775808

/-- The item at an index, which counts from the end if it is negative. -/
def nth (items : List Value) (index : Int) : Except AccessError Value :=
  if index < -indexBound || indexBound ≤ index then .error .indexTooLarge
  else
    let place := if index < 0 then index + items.length else index
    if place < 0 then .error .indexOutOfRange
    else match items[place.toNat]? with
      | some v => .ok v
      | none => .error .indexOutOfRange

/-- The part of a value at an index or key. Truth values are the indexes 1 and 0. -/
def item (v : Value) (key : Json) : Except AccessError Value :=
  match v, key with
  | list items, .scalar (.int n) => nth items n
  | list items, .scalar (.bool b) => nth items (if b then 1 else 0)
  | list _, key => .error (.notAnIndex key.typeName)
  | object entries, .scalar (.str k) =>
    match Entries.get? k entries with
    | some w => .ok w
    | none => .error (.missingKey k)
  | object _, key => .error (.missingKey key.toText)
  | v, _ => .error (.notSubscriptable v.kindName)

/-- The part of a value that a path of indexes and keys leads to. -/
def follow (v : Value) : List Json → Except AccessError Value
  | [] => .ok v
  | key :: path => (v.item key).bind fun w => w.follow path

/-- The entry of an object with a key, or the default. -/
def get (v : Value) (key : Json) (default : Option Value) : Except AccessError (Option Value) :=
  match v, key with
  | object entries, .scalar (.str k) => .ok ((Entries.get? k entries).or default)
  | object _, _ => .ok default
  | v, _ => .error (.noAttribute v.kindName "get")

/-- How many items or entries there are. -/
def length : Value → Except AccessError Nat
  | list items => .ok items.length
  | object entries => .ok entries.length
  | v => .error (.unsized v.kindName)

/-- Whether the value counts as true: only an empty list or object does not. -/
def isTruthy : Value → Bool
  | list items => !items.isEmpty
  | object entries => !entries.isEmpty
  | _ => true

/-- The keys of an object. -/
def keys : Value → Except AccessError (List Text)
  | object entries => .ok (entries.map (·.1))
  | v => .error (.noAttribute v.kindName "keys")

/-- The entries of an object. -/
def entries : Value → Except AccessError (List (Text × Value))
  | object entries => .ok entries
  | list _ => .error .notCallable
  | v => .error (.noAttribute v.kindName "items")

/-- What an iteration over a value gives: the keys of an object or the items of a list. -/
def elements : Value → Except AccessError (List Text ⊕ List Value)
  | list items => .ok (.inr items)
  | object entries => .ok (.inl (entries.map (·.1)))
  | v => .error (.notIterable v.kindName)

/-- Whether an object has a key. A list holds values, never a bare document. -/
def hasKey (v : Value) (key : Json) : Except AccessError Bool :=
  match v, key with
  | object entries, .scalar (.str k) => .ok (entries.any (·.1 == k))
  | object _, _ => .ok false
  | list _, _ => .ok false
  | v, _ => .error (.notAContainer v.kindName)

end Value

/-! ## Agreement -/

open Decimal (Binary64)

namespace Scalar

/-- The integer that a scalar amounts to. -/
def toInt? : Scalar → Option Int
  | bool b => some (if b then 1 else 0)
  | int n => some n
  | float x => x.toInt?
  | str _ => none

/-- Agreement of scalars. -/
def agrees (constant : Bool) : Scalar → Scalar → Bool
  | str s, str t => s == t
  | str _, _ => false
  | _, str _ => false
  | float .nan, float .nan => constant
  | float x, float y => x.agrees y
  | s, t => s.toInt?.isSome && s.toInt? == t.toInt?

end Scalar

namespace Value

mutual

/-- Agreement of values; the entries of objects agree in order. -/
def agrees (constant : Bool) : Value → Value → Bool
  | null, null => true
  | scalar s, scalar t => s.agrees constant t
  | list vs, list ws => agreeItems constant vs ws
  | object es, object fs => agreeEntries constant es fs
  | _, _ => false

/-- Agreement of items, one by one. -/
def agreeItems (constant : Bool) : List Value → List Value → Bool
  | [], [] => true
  | v :: vs, w :: ws => agrees constant v w && agreeItems constant vs ws
  | _, _ => false

/-- Agreement of entries, one by one. -/
def agreeEntries (constant : Bool) : List (Text × Value) → List (Text × Value) → Bool
  | [], [] => true
  | (k, v) :: vs, (l, w) :: ws => k == l && agrees constant v w && agreeEntries constant vs ws
  | _, _ => false

end

/-- Whether a list holds an item that agrees with a value. The keys of an object are no values. -/
def holds (constant : Bool) (v w : Value) : Except AccessError Bool :=
  match v with
  | list items => .ok (items.any (agrees constant · w))
  | object _ => .ok false
  | v => .error (.notAContainer v.kindName)

end Value

end GraphBind
