import GraphBind.Registry.Basic
import GraphBind.Text.Casing
import GraphBind.Text.Identifier

/-!
# Names and annotations in generated modules

The attribute that stands for a field is its name in snake case: underscores mark where words begin,
letters are lower-case, and leading underscores, which would make it private, are dropped. Two
fields of one type whose names come out alike are told apart by a number.

The annotation of a field names the type of its values in the generated module. What may be null is
optional; a list and what it holds are so on their own.
-/

/-! ## Attributes -/

namespace GraphBind.Models

open Text (isAsciiDigit)

/-- An upper-case ASCII letter. -/
def isUpper (c : CodePoint) : Bool := c.satisfies fun c => 'A' ≤ c && c ≤ 'Z'

/-- A lower-case ASCII letter. -/
def isLower (c : CodePoint) : Bool := c.satisfies fun c => 'a' ≤ c && c ≤ 'z'

/-- Whether a text goes on with a lower-case letter. -/
def startsLower : Text → Bool
  | c :: _ => isLower c
  | [] => false

/-- Puts an underscore before every capital that lower-case letters follow; `inWord` says that such
letters are being passed. A word takes the character before it with it, unless that is a line end.
-/
def markWords (inWord : Bool) : Text → Text
  | [] => []
  | [c] => [c]
  | c :: u :: cs =>
    if inWord && isLower c then c :: markWords true (u :: cs)
    else if c != .char '\n' && isUpper u && startsLower cs then
      c :: .char '_' :: u :: markWords true cs
    else c :: markWords false (u :: cs)

/-- Puts an underscore between a lower-case letter or digit and a capital. -/
def markCapitals : Text → Text
  | [] => []
  | [c] => [c]
  | c :: u :: cs =>
    if (isLower c || c.satisfies isAsciiDigit) && isUpper u then
      c :: .char '_' :: markCapitals (u :: cs)
    else c :: markCapitals (u :: cs)

/-- A name in snake case. -/
def snakeCase (t : Text) : Text := Text.lower (markCapitals (markWords false t))

/-- A name that is no keyword: keywords end in an underscore. -/
def safeIdentifier (name : Text) : Text := if Text.isKeyword name then name ++ "_" else name

/-- The attribute of a field on its own. -/
def attributeName (name : Text) : Text :=
  match (snakeCase name).dropWhile (· == .char '_') with
  | [] => safeIdentifier "field_"
  | cs => safeIdentifier cs

/-- The attribute that every model has. -/
def reservedAttribute : Text := "model_config"

/-- A name with a number behind it. -/
def numbered (base : Text) (n : Nat) : Text := base ++ s!"_{n}"

/-- The first of a name and its numbered forms that is not taken. One of as many forms as there are
taken names, and one more, is free. -/
def firstFree (taken : List Text) (base : Text) : Text :=
  if taken.contains base then
    ((List.range' 2 (taken.length + 1)).map (numbered base)).find? (!taken.contains ·) |>.getD base
  else base

/-- The attributes of fields, behind the ones that are taken. -/
def assign (taken : List Text) : List Text → List (Text × Text)
  | [] => []
  | name :: names =>
    let attr := firstFree taken (attributeName name)
    (name, attr) :: assign (attr :: taken) names

/-- The attributes of the fields of a type, by field name. -/
def attributeNames (fields : List Text) : List (Text × Text) :=
  Entries.ofList (assign [reservedAttribute] fields)

/-- The alias under which a generated module imports a module. -/
def moduleAlias (module : String) : String :=
  "_" ++ String.ofList (module.toList.map fun c => if c == '.' then '_' else c)

/-! ## Annotations -/

/-- The name by which a generated module refers to a native type. -/
def nativeName (t : NativeType) : String :=
  if t.isBuiltin then t.name else moduleAlias t.module ++ "." ++ t.name

/-- The name by which a generated module refers to a type. -/
def baseName (t : CompiledType) : Text :=
  match t.native with
  | some native => nativeName native
  | none => t.name

/-- The annotation of something that may be null. -/
def optionalOf (inner : Text) : Text := "_t.Optional[" ++ inner ++ "]"

/-- The annotation of a list. -/
def listOf (inner : Text) : Text := "_t.List[" ++ inner ++ "]"

/-- The annotation of a type with modifiers, outermost first, before it is known whether the whole
may be null; with it, whether it may. -/
def annotateInner (base : Text) : List Modifier → Text × Bool
  | [] => (base, true)
  | .nonNull :: ms => ((annotateInner base ms).1, false)
  | .list :: ms =>
    match annotateInner base ms with
    | (inner, true) => (listOf (optionalOf inner), true)
    | (inner, false) => (listOf inner, true)

/-- The annotation of a type whose innermost type has a base name. -/
def annotate (base : Text) (modifiers : List Modifier) : Text :=
  match annotateInner base modifiers with
  | (inner, true) => optionalOf inner
  | (inner, false) => inner

/-- The annotation of a type of a registry. -/
def annotation (r : Registry) (t : FieldType) : Except LookupError Text :=
  (r.resolve t).map fun c => annotate (baseName c) t.modifiers

/-- Puts a text into a sorted list without repetitions. -/
def insertSorted (s : String) : List String → List String
  | [] => [s]
  | t :: ts => if s < t then s :: t :: ts else if s = t then t :: ts else t :: insertSorted s ts

/-- The modules of the native types that are not known everywhere, sorted. -/
def importedModules (r : Registry) : List String :=
  ((r.types.filterMap (·.2.native)).filter (!·.isBuiltin)).foldr (insertSorted ·.module) []

/-- The modules that a generated module imports, each with its alias. -/
def imports (r : Registry) : List (String × String) :=
  (importedModules r).map fun m => (m, moduleAlias m)

end GraphBind.Models
