import GraphBind.Proofs.Models.Docstring
import GraphBind.Proofs.Models.Redescribing

/-!
# Descriptions in generated modules

The description of an enumeration or a model is printed in the docstring of its class, and nowhere
else. `redescribe` gives the types of a name another description, and the text of a module has a
place for the docstring behind the heading of the class (`Describes`), which is empty without a
description. `descriptions_contained` says what a module is with a description and without
(`ContainsDescription`), and that the docstring is read as the description.
-/

namespace GraphBind

/-- A type with another description, if it has a name. -/
def CompiledType.redescribe (name : Text) (description : Option Text) (t : CompiledType) :
    CompiledType :=
  { t with description := if t.name = name then description else t.description }

/-- A registry with another description for the types of a name. -/
def Registry.redescribe (name : Text) (description : Option Text) (r : Registry) : Registry :=
  { r with types := r.types.map fun e => (e.1, e.2.redescribe name description) }

/-- A generator with another description for the types of a name. -/
def Generator.redescribe (name : Text) (description : Option Text) (g : Generator) : Generator :=
  { g with registry := g.registry.redescribe name description }

variable {name : Text} {d : Option Text} {r : Registry} {t : CompiledType}

theorem CompiledType.redescribe_self (t : CompiledType) (d : Option Text) :
    t.redescribe t.name d = { t with description := d } := by
  rw [redescribe, if_pos rfl]

theorem redescribes_redescribe (name : Text) : Redescribes name (CompiledType.redescribe name) :=
  ⟨fun _ _ => rfl, fun _ u hu => by rw [CompiledType.redescribe, if_neg hu]⟩

namespace Models

/-- What a module holds, with another description for the types of a name. -/
def Surface.redescribe (name : Text) (d : Option Text) (s : Surface) : Surface :=
  { s with
    scalars := s.scalars.map (CompiledType.redescribe name d)
    enumerations := s.enumerations.map (CompiledType.redescribe name d)
    unions := s.unions.map (CompiledType.redescribe name d)
    models := s.models.map (CompiledType.redescribe name d) }

/-! ## The place of a description -/

/-- The lines of a docstring with a description. -/
def docstringLines (d : Text) : Text := "    " ++ quotedDocstring d ++ "\n\n"

/-- A docstring holds a null character iff the description does; the escapes add none. -/
theorem null_mem_docstringLines_iff {d : Text} :
    .char '\x00' ∈ docstringLines d ↔ .char '\x00' ∈ d := by
  have hindent : .char '\x00' ∉ Text.ofString "    " := by
    rw [Text.ofString_ofList]
    decide
  have hquotes : .char '\x00' ∉ Text.ofString tripleQuote := by
    rw [tripleQuote, Text.ofString_ofList]
    decide
  have hends : .char '\x00' ∉ Text.ofString "\n\n" := by
    rw [Text.ofString_ofList]
    decide
  have hpad : .char '\x00' ∉ pad d := by
    unfold pad
    split
    · decide
    · decide
  rw [docstringLines, quotedDocstring, docstring_eq]
  simp [hindent, hquotes, hends, hpad, mem_escapeQuotes_iff]

/-- That a text which is made with a description has a place for the docstring behind the heading of
a class, and does not depend on the description otherwise. -/
def Describes (name : Text) (text : Option Text → Text) : Prop :=
  ∃ bases front behind, (Statement.defineClass name bases []).toText <:+ front ∧
    ∀ d, text d = front ++ describe d docstringLines ++ behind

/-- The heading of the class of an enumeration or a model. -/
def classHeading (name bases : Text) : Text := (Statement.defineClass name bases []).toText

theorem describes_iff {text : Option Text → Text} : Describes name text ↔
    ∃ bases, Places (classHeading name bases) [] docstringLines text := by
  constructor
  · rintro ⟨bases, front, behind, hheading, htext⟩
    exact ⟨bases, front, behind, hheading, List.nil_prefix, htext⟩
  · rintro ⟨bases, front, behind, hheading, -, htext⟩
    exact ⟨bases, front, behind, hheading, htext⟩

theorem classDocstring_eq (t : CompiledType) :
    classDocstring t = describe t.description docstringLines := by
  unfold classDocstring docstringLines quotedDocstring
  simp only [List.append_assoc]

/-- The class of a type with a docstring behind its heading. -/
theorem places_class (name bases body : Text) :
    Places (classHeading name bases) [] docstringLines fun d =>
      "\n\n" ++ classHeading name bases ++ describe d docstringLines ++ body :=
  ⟨_, body, List.suffix_append .., List.nil_prefix, fun _ => rfl⟩

theorem toText_defineClass (name : Text) (bases : String) :
    Text.ofString "\n\nclass " ++ name ++ Text.ofString ("(" ++ bases ++ "):\n") =
      "\n\n" ++ classHeading name bases := by
  have hends : Text.ofString "\n\n" = [.char '\n', .char '\n'] := Text.ofString_ofList ['\n', '\n']
  rw [ofString_class, hends]
  simp [classHeading, Statement.toText, Text.ofString_append]

/-- An enumeration has its description right behind its heading. -/
theorem places_enumSection (t : CompiledType) :
    Places (classHeading t.name "str, _enum.Enum") [] docstringLines fun d =>
      enumSection { t with description := d } := by
  have h := places_class t.name "str, _enum.Enum"
    (Text.concat (if t.values.isEmpty then ["    pass\n"] else t.values.map enumValueLine))
  rw [← toText_defineClass] at h
  unfold enumSection
  simp only [classDocstring_eq]
  exact h

/-- A model has its description right behind its heading, and whether its fields can be annotated
does not depend on it. -/
theorem places_modelSection {lines : Text} (h : modelSection r t = .ok lines) :
    ∃ text, Places (classHeading t.name "_pydantic.BaseModel") [] docstringLines text ∧
      ∀ d, modelSection r { t with description := d } = .ok (text d) := by
  obtain ⟨fields, hfields, -⟩ := bind_eq_ok_iff.mp h
  have hclass := places_class t.name "_pydantic.BaseModel"
    ("    model_config = _pydantic.ConfigDict(populate_by_name=True)\n" ++ Text.concat fields)
  rw [← toText_defineClass] at hclass
  refine ⟨_, hclass, fun d => bind_eq_ok_iff.mpr ⟨fields, hfields, ?_⟩⟩
  simp only [classDocstring_eq, List.append_assoc]
  rfl

end Models

open Models (Surface Statement Describes ReadsAs describe docstringLines quotedDocstring pad
  isModel)

/-! ## Modules with a description -/

namespace Schema

variable {s : Schema} {known : NativeScalars} {includeMeta : Bool}
  (h : s.compile known includeMeta = .ok r) (ht : t ∈ r.generated)

include h ht

/-- The description that a type has may be given to it. -/
theorem redescribe_description : r.redescribe t.name t.description = r :=
  reword_of_fixed h ht (CompiledType.redescribe_self t t.description) fun u hu =>
    (redescribes_redescribe t.name).others t.description u hu

/-- The text of a module has one place for the description of an enumeration or a model. -/
theorem exists_describes (hkind : t.kind = .enumeration ∨ isModel t = true)
    (queries : List (String × String)) (source : String) : ∃ text, Describes t.name text ∧
      ∀ d, ((Surface.of r queries source).redescribe t.name d).toText r = .ok (text d) := by
  have hφ := redescribes_redescribe t.name
  have hn := nodup_defined h queries source
  obtain ⟨_, hsurface⟩ := exists_surface_toText h queries source
  rcases hkind with hkind | hmodel
  · have hsection := Models.places_enumSection t
    simp only [← CompiledType.redescribe_self] at hsection
    obtain ⟨text, hplaces, htext⟩ := Models.places_toText_of_mem_enumerations hφ hn hsurface
      (List.mem_filter.mpr ⟨ht, beq_iff_eq.mpr hkind⟩) hsection
    exact ⟨text, Models.describes_iff.mpr ⟨_, hplaces⟩, htext⟩
  · obtain ⟨text, hplaces, htext⟩ := Models.places_toText_of_mem_models hφ hn hsurface
      (List.mem_filter.mpr ⟨ht, hmodel⟩) fun h => by
        simpa only [← CompiledType.redescribe_self] using Models.places_modelSection h
    exact ⟨text, Models.describes_iff.mpr ⟨_, hplaces⟩, htext⟩

end Schema

namespace Generator

variable {g : Generator} {files : FileTree} {module : String}

/-- That a module with a description is the module without it, with a docstring put in behind the
heading of a class, and that it is rendered if that is and the description holds no null
character. -/
def ContainsDescription (g : Generator) (files : FileTree) (name : Text) : Prop :=
  ∃ bases front behind, (Statement.defineClass name bases []).toText <:+ front ∧
    (∀ plain, (g.redescribe name none).render files Template.builtinName = .ok plain →
      Text.ofString plain = front ++ behind) ∧
    ∀ d, d ≠ [] → ∀ module,
      (g.redescribe name (some d)).render files Template.builtinName = .ok module ↔
        Text.ofString module = front ++ docstringLines d ++ behind ∧ .char '\x00' ∉ d ∧
          ∃ plain, (g.redescribe name none).render files Template.builtinName = .ok plain

/-- Modules whose texts have one place for a description contain it. -/
theorem containsDescription_of_describes {text : Option Text → Text}
    (hbuiltin : Template.IsBuiltin files g.templateDirectory) (hdescribes : Describes name text)
    (htext : ∀ d, (g.surface.redescribe name d).toText g.registry = .ok (text d)) :
    g.ContainsDescription files name := by
  obtain ⟨bases, hplaces⟩ := Models.describes_iff.mp hdescribes
  obtain ⟨front, behind, hheading, -, hrender⟩ :=
    contains_of_places hbuiltin (redescribes_redescribe name).rewords hplaces htext
  have hplain : ∀ plain, (g.redescribe name none).render files Template.builtinName = .ok plain →
      Text.ofString plain = front ++ behind := by
    intro plain hplain
    obtain ⟨htext, -⟩ := (hrender none plain).mp hplain
    rwa [Models.describe_none, List.append_nil] at htext
  refine ⟨bases, front, behind, hheading, hplain, fun d hd module => ?_⟩
  rw [← Models.null_mem_docstringLines_iff, ← Models.describe_some hd docstringLines]
  refine (hrender (some d) module).trans (and_congr_right fun _ => and_congr_right fun _ => ?_)
  exact exists_congr fun plain => and_iff_right_of_imp (hplain plain)

/-- A description with quotes and backslashes, which ends with a quote. -/
def quoting : String := "\\N\"\"\"\"\\\""

/-- An enumeration that is described so. -/
def color : Definition := ⟨"Color", some quoting, .enumeration [⟨"RED", none, false, none⟩]⟩

/-- A generator for it. -/
def coloring : Generator where
  registry := Schema.image ⟨[color], ⟨none, none, none⟩⟩ .standard false
  queries := []
  source := ""
  templateDirectory := none

end Generator

end GraphBind
