import GraphBind.Models.Generator
import GraphBind.Proofs.Checks

/-!
# Statements of generated modules

A generated module is a sequence of statements, with blank lines between them: its docstring, its
imports, the definitions of its types, a line for every model that completes it, and the mapping of
the bound queries. `Consists` says of a text which names its statements bind and which models they
complete, and `consists_of_toText` says so of the text of a generated module: what it binds depends
on the imports and on the names of the types only (`Surface.bindings`).
-/

namespace GraphBind

theorem Text.ofString_join (ss : List String) :
    Text.ofString (String.join ss) = Text.concat (ss.map Text.ofString) := by
  induction ss with
  | nil => rfl
  | cons s ss ih =>
    rw [String.join_cons, Text.ofString_append, ih]
    rfl

namespace Models

/-- A name that a module binds at its top level, and the module that it stands for if it is the
alias of one. -/
structure Binding where
  name : Text
  module? : Option String
  deriving DecidableEq, Repr

/-- A statement at the top level of a module. -/
inductive Statement where
  | docstring (text : Text)
  | future (feature : Text)
  | importAs (module short : String)
  | assign (name value : Text)
  | declare (name type value : Text)
  | defineClass (name bases body : Text)
  | complete (name : Text)

namespace Statement

/-- The text of a statement. -/
def toText : Statement → Text
  | docstring text => tripleQuote ++ text ++ tripleQuote ++ "\n"
  | future feature => "from __future__ import " ++ feature ++ "\n"
  | importAs module short => "import " ++ module ++ " as " ++ short ++ "\n"
  | assign name value => name ++ " = " ++ value ++ "\n"
  | declare name type value => name ++ ": " ++ type ++ " = " ++ value
  | defineClass name bases body => "class " ++ name ++ "(" ++ bases ++ "):\n" ++ body
  | complete name => name ++ ".model_rebuild()\n"

/-- What a statement binds. -/
def binding? : Statement → Option Binding
  | importAs module short => some ⟨short, some module⟩
  | assign name _ => some ⟨name, none⟩
  | declare name _ _ => some ⟨name, none⟩
  | defineClass name _ _ => some ⟨name, none⟩
  | _ => none

/-- The name of the model that a statement completes. -/
def completed? : Statement → Option Text
  | complete name => some name
  | _ => none

end Statement

/-- That a text is a sequence of statements with blank lines between them. -/
inductive Layout : List Statement → Text → Prop where
  | nil : Layout [] []
  | blank {ss : List Statement} {text : Text} (h : Layout ss text) :
    Layout ss (.char '\n' :: text)
  | statement (s : Statement) {ss : List Statement} {text : Text} (h : Layout ss text) :
    Layout (s :: ss) (s.toText ++ text)

theorem Layout.append {ss ss' : List Statement} {text text' : Text} (h : Layout ss text)
    (h' : Layout ss' text') : Layout (ss ++ ss') (text ++ text') := by
  induction h with
  | nil => exact h'
  | blank _ ih => exact .blank ih
  | statement s _ ih =>
    rw [List.append_assoc]
    exact .statement s ih

/-- That a text is a sequence of statements that bind names and complete models, in this order. -/
def Consists (text : Text) (bindings : List Binding) (completed : List Text) : Prop :=
  ∃ ss, Layout ss text ∧ ss.filterMap Statement.binding? = bindings ∧
    ss.filterMap Statement.completed? = completed

namespace Consists

variable {text text' : Text} {bindings bindings' : List Binding} {completed completed' : List Text}

theorem nil : Consists [] [] [] := ⟨[], .nil, rfl, rfl⟩

theorem blank (h : Consists text bindings completed) :
    Consists (.char '\n' :: text) bindings completed := by
  obtain ⟨ss, hlayout, hbindings, hcompleted⟩ := h
  exact ⟨ss, .blank hlayout, hbindings, hcompleted⟩

theorem append (h : Consists text bindings completed) (h' : Consists text' bindings' completed') :
    Consists (text ++ text') (bindings ++ bindings') (completed ++ completed') := by
  obtain ⟨ss, hlayout, rfl, rfl⟩ := h
  obtain ⟨ss', hlayout', rfl, rfl⟩ := h'
  exact ⟨ss ++ ss', hlayout.append hlayout', List.filterMap_append, List.filterMap_append⟩

theorem statement (s : Statement) :
    Consists s.toText s.binding?.toList s.completed?.toList := by
  refine ⟨[s], ?_, ?_, ?_⟩
  · rw [← List.append_nil s.toText]
    exact .statement s .nil
  · cases h : s.binding? <;> simp [h]
  · cases h : s.completed? <;> simp [h]

/-- A text for every element of a list that binds one name. -/
theorem binds {α : Type} {binding : α → Binding} {as : List α} {texts : List Text}
    (h : List.Forall₂ (fun a text => Consists text [binding a] []) as texts) :
    Consists (Text.concat texts) (as.map binding) [] := by
  induction h with
  | nil => exact nil
  | cons ha _ ih => exact ha.append ih

theorem binds_map {α : Type} {binding : α → Binding} {line : α → Text} (as : List α)
    (h : ∀ a, Consists (line a) [binding a] []) :
    Consists (Text.concat (as.map line)) (as.map binding) [] :=
  binds (List.forall₂_map_right_iff.mpr (List.forall₂_same.mpr fun a _ => h a))

end Consists

/-! ## Sections -/

/-- What the definition of a type binds. -/
def definition (t : CompiledType) : Binding := ⟨t.name, none⟩

/-- The modules that every generated module imports, each with its alias. -/
def standardImports : List (String × String) :=
  [("enum", "_enum"), ("typing", "_t"), ("pydantic", "_pydantic")]

/-- What an import binds. -/
def importBinding (i : String × String) : Binding := ⟨i.2, some i.1⟩

/-- The name of the mapping of the bound queries. -/
def mappingName : Text := "QUERIES"

/-- The types that a module defines, in order. -/
def Surface.defined (s : Surface) : List CompiledType :=
  s.scalars ++ s.enumerations ++ s.unions ++ s.models

/-- What a module binds. -/
def Surface.bindings (s : Surface) : List Binding :=
  (standardImports ++ s.imports).map importBinding ++ s.defined.map definition ++
    [⟨mappingName, none⟩]

theorem consists_docstringSection (source : String) : Consists (docstringSection source) [] [] := by
  have h : docstringSection source = (Statement.docstring ("GraphQL types compiled from " ++
      sourceName source ++ ".\n\nGenerated by gql-provider. Do not edit.\n")).toText := by
    simp [docstringSection, Statement.toText]
  rw [h]
  exact .statement _

theorem consists_import (i : String × String) :
    Consists (Statement.importAs i.1 i.2).toText [importBinding i] [] := .statement _

/-- The lines of imports are the texts of import statements. -/
theorem ofString_importLines (imports : List (String × String)) :
    Text.ofString (String.join (imports.map fun (module, short) =>
        s!"import {module} as {short}\n")) =
      Text.concat (imports.map fun (module, short) =>
        (Statement.importAs module short).toText) := by
  have hline : ∀ module short : String, Text.ofString s!"import {module} as {short}\n" =
      (Statement.importAs module short).toText := by
    intro module short
    simp [Statement.toText, Text.ofString_append]
    rfl
  rw [Text.ofString_join, List.map_map]
  exact congrArg Text.concat (List.map_congr_left fun i _ => hline i.1 i.2)

/-- The imports bind their aliases. -/
theorem consists_importSection (imports : List (String × String)) :
    Consists (importSection imports) ((standardImports ++ imports).map importBinding) [] := by
  have hhead : Text.ofString
        "\nfrom __future__ import annotations\n\nimport enum as _enum\nimport typing as _t\n\n" ++
      Text.ofString "import pydantic as _pydantic\n" =
        .char '\n' :: ((Statement.future "annotations").toText ++
          .char '\n' :: ((Statement.importAs "enum" "_enum").toText ++
            ((Statement.importAs "typing" "_t").toText ++
              .char '\n' :: (Statement.importAs "pydantic" "_pydantic").toText))) := by
    unfold Statement.toText
    repeat rw [Text.ofString_ofList]
    rfl
  unfold importSection
  rw [ofString_importLines, hhead, List.map_append]
  have hstandard : Consists _ (standardImports.map importBinding) [] :=
    .blank (.append (.statement (.future "annotations")) (.blank (.append
      (consists_import ("enum", "_enum")) (.append (consists_import ("typing", "_t"))
        (.blank (consists_import ("pydantic", "_pydantic")))))))
  exact hstandard.append (.binds_map imports consists_import)

/-- A scalar binds its name. -/
theorem consists_scalarLine (t : CompiledType) : Consists (scalarLine t) [definition t] [] := by
  have hsplit : Text.ofString " = _t.Any" = Text.ofString " = " ++ Text.ofString "_t.Any" := by
    rw [Text.ofString_ofList, Text.ofString_ofList, Text.ofString_ofList]
    rfl
  have h : scalarLine t = (Statement.assign t.name
      ("_t.Any" ++ describe t.description fun d => "  # " ++ comment d)).toText := by
    simp [scalarLine, Statement.toText, hsplit]
  rw [h]
  exact .statement _

theorem consists_scalarSection (scalars : List CompiledType) :
    Consists (scalarSection scalars) (scalars.map definition) [] := by
  unfold scalarSection
  split
  · next h =>
    rw [List.isEmpty_iff.mp h]
    exact .nil
  · exact .blank (.binds_map scalars consists_scalarLine)

theorem ofString_class :
    Text.ofString "\n\nclass " = .char '\n' :: .char '\n' :: Text.ofString "class " := by
  rw [Text.ofString_ofList, Text.ofString_ofList]
  rfl

/-- An enumeration binds its name, and its members bind none in the module. -/
theorem consists_enumSection (t : CompiledType) : Consists (enumSection t) [definition t] [] := by
  have hsplit : Text.ofString "(str, _enum.Enum):\n" =
      Text.ofString "(" ++ Text.ofString "str, _enum.Enum" ++ Text.ofString "):\n" := by
    rw [Text.ofString_ofList, Text.ofString_ofList, Text.ofString_ofList, Text.ofString_ofList]
    rfl
  have h : enumSection t = .char '\n' :: .char '\n' ::
      (Statement.defineClass t.name "str, _enum.Enum" (classDocstring t ++
        Text.concat (if t.values.isEmpty then ["    pass\n"] else t.values.map enumValueLine))
          ).toText := by
    simp [enumSection, Statement.toText, ofString_class, hsplit]
  rw [h]
  exact .blank (.blank (.statement _))

/-- A union binds its name, and refers to its members by quoted names only. -/
theorem consists_unionLine (t : CompiledType) : Consists (unionLine t) [definition t] [] := by
  unfold unionLine
  split
  · have hsplit : Text.ofString " = _t.Any\n" =
        Text.ofString " = " ++ Text.ofString "_t.Any" ++ Text.ofString "\n" := by
      rw [Text.ofString_ofList, Text.ofString_ofList, Text.ofString_ofList, Text.ofString_ofList]
      rfl
    have h : t.name ++ Text.ofString " = _t.Any\n" =
        (Statement.assign t.name "_t.Any").toText := by
      simp [Statement.toText, hsplit]
    rw [h]
    exact .statement _
  · have hopen : Text.ofString " = _t.Union[" =
        Text.ofString " = " ++ Text.ofString "_t.Union[" := by
      rw [Text.ofString_ofList, Text.ofString_ofList, Text.ofString_ofList]
      rfl
    have hclose : Text.ofString "]\n" = Text.ofString "]" ++ Text.ofString "\n" := by
      rw [Text.ofString_ofList, Text.ofString_ofList, Text.ofString_ofList]
      rfl
    have h : t.name ++ Text.ofString " = _t.Union[" ++
        Text.ofString (", ".intercalate (t.members.map Text.quoted)) ++ Text.ofString "]\n" =
          (Statement.assign t.name ("_t.Union[" ++
            Text.ofString (", ".intercalate (t.members.map Text.quoted)) ++ "]")).toText := by
      simp [Statement.toText, hopen, hclose]
    rw [h]
    exact .statement _

theorem consists_unionSection (unions : List CompiledType) :
    Consists (unionSection unions) (unions.map definition) [] := by
  unfold unionSection
  split
  · next h =>
    rw [List.isEmpty_iff.mp h]
    exact .nil
  · exact .blank (.binds_map unions consists_unionLine)

/-- A model that can be printed binds its name. -/
theorem consists_of_modelSection {r : Registry} {t : CompiledType} {text : Text}
    (h : modelSection r t = .ok text) : Consists text [definition t] [] := by
  obtain ⟨fields, -, h⟩ := bind_eq_ok_iff.mp h
  cases h
  have hsplit : Text.ofString "(_pydantic.BaseModel):\n" =
      Text.ofString "(" ++ Text.ofString "_pydantic.BaseModel" ++ Text.ofString "):\n" := by
    rw [Text.ofString_ofList, Text.ofString_ofList, Text.ofString_ofList, Text.ofString_ofList]
    rfl
  have h : Text.ofString "\n\nclass " ++ t.name ++ Text.ofString "(_pydantic.BaseModel):\n" ++
      classDocstring t ++
      Text.ofString "    model_config = _pydantic.ConfigDict(populate_by_name=True)\n" ++
      Text.concat fields =
        .char '\n' :: .char '\n' :: (Statement.defineClass t.name "_pydantic.BaseModel"
          (classDocstring t ++ "    model_config = _pydantic.ConfigDict(populate_by_name=True)\n" ++
            Text.concat fields)).toText := by
    simp [Statement.toText, ofString_class, hsplit]
  rw [h]
  exact .blank (.blank (.statement _))

/-- The last lines complete the models, in order, and bind nothing. -/
theorem consists_completionSection (models : List CompiledType) :
    Consists (completionSection models) [] (models.map (·.name)) := by
  have hlines : Consists (Text.concat (models.map fun t => t.name ++ ".model_rebuild()\n")) []
      (models.map (·.name)) := by
    induction models with
    | nil => exact .nil
    | cons t models ih => exact .append (.statement (.complete t.name)) ih
  unfold completionSection
  split
  · next h =>
    rw [List.isEmpty_iff.mp h]
    exact .nil
  · exact .blank (.blank hlines)

/-- The mapping of the bound queries is one statement, behind two blank lines. -/
theorem querySection_eq_declare (queries : List (Text × Text)) :
    querySection queries = .char '\n' :: .char '\n' ::
      (Statement.declare mappingName "dict[str, str]"
        ("\x7b\n" ++ Text.concat (queries.map queryLine) ++ "\x7d")).toText := by
  have hsplit : Text.ofString "\n\nQUERIES: dict[str, str] = \x7b\n" = .char '\n' :: .char '\n' ::
      (mappingName ++ Text.ofString ": " ++ Text.ofString "dict[str, str]" ++ Text.ofString " = " ++
        Text.ofString "\x7b\n") := by
    unfold mappingName
    repeat rw [Text.ofString_ofList]
    rfl
  simp [querySection, Statement.toText, hsplit]

theorem consists_querySection (queries : List (Text × Text)) :
    Consists (querySection queries) [⟨mappingName, none⟩] [] := by
  rw [querySection_eq_declare]
  exact .blank (.blank (.statement _))

/-! ## Modules -/

/-- The text of a module consists of statements that bind its names and complete its models. -/
theorem consists_of_toText {s : Surface} {r : Registry} {text : Text}
    (h : s.toText r = .ok text) : Consists text s.bindings (s.models.map (·.name)) := by
  obtain ⟨models, hmodels, h⟩ := bind_eq_ok_iff.mp h
  cases h
  have hmodels : Consists (Text.concat models) (s.models.map definition) [] := by
    refine .binds ((mapM_eq_ok_iff.mp hmodels).imp fun t text ht => ?_)
    exact consists_of_modelSection ht
  have hfront := ((consists_docstringSection s.source).append
    (consists_importSection s.imports)).append (consists_scalarSection s.scalars)
  have htypes := ((hfront.append (.binds_map s.enumerations consists_enumSection)).append
    (consists_unionSection s.unions)).append hmodels
  have hall := (htypes.append (consists_completionSection s.models)).append
    (consists_querySection s.queries)
  simpa [Surface.bindings, Surface.defined] using hall

/-- A module has a text if the annotations of its fields do. -/
theorem exists_toText {s : Surface} {r : Registry}
    (h : ∀ t ∈ s.models, ∀ f ∈ t.fields, ∃ text, annotation r f.type = .ok text) :
    ∃ text, s.toText r = .ok text := by
  refine exists_bind_pure_iff.mpr (exists_mapM_eq_ok_iff.mpr fun t ht => ?_)
  refine exists_bind_pure_iff.mpr (exists_mapM_eq_ok_iff.mpr fun f hf => ?_)
  exact exists_bind_pure_iff.mpr (h t ht f hf)

end Models

end GraphBind
