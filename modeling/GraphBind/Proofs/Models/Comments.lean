import GraphBind.Proofs.Models.Annotations
import GraphBind.Proofs.Models.Descriptions
import GraphBind.Proofs.Models.Filling
import GraphBind.Proofs.Models.QueryMapping
import GraphBind.Proofs.Text.Trimming

/-!
# Comments in generated modules

The description of a scalar is printed in a comment behind its definition, that of a field of a
model in a comment above it, and nowhere else. A comment is what the description collapses to, cut
if it is too long, and trimmed (`trimmed_comment`): it is single-spaced, has no white space at
either end, and is its own comment (`comment_comment`). So it holds no end of a line, and
`comments_contained` says what a module is with a description and without: the one line that the
description is put in is a comment, or goes on with one.
-/

namespace GraphBind

open Text (Collapses SingleSpaced Trimmed IsTrimmed isBlank)

variable {r : Registry} {t : CompiledType} {i : Nat} {d : Text}

/-- A type with another description for one of its fields, if it has a name. -/
def CompiledType.redescribeField (name : Text) (i : Nat) (description : Option Text)
    (t : CompiledType) : CompiledType :=
  if t.name = name then { t with fields := t.fields.modify i ({ · with description }) } else t

namespace Models

/-! ## Comments -/

theorem ellipsis_notBlank : ∀ c ∈ Text.ofString "...", c.satisfies isBlank = false := by
  rw [Text.ofString_ofList]
  decide

theorem length_shorten_le (t : Text) : (shorten t).length ≤ commentLimit := by
  unfold shorten
  split
  · rw [Text.ofString_ofList, List.length_append, List.length_take]
    change min 117 t.length + 3 ≤ 120
    omega
  · omega

theorem singleSpaced_shorten (h : SingleSpaced d) : SingleSpaced (shorten d) := by
  unfold shorten
  split
  · exact (h.of_isInfix (List.take_prefix ..).isInfix).append ellipsis_notBlank
  · exact h

/-- What a comment is, of what the description collapses to. -/
theorem trimmed_comment (d : Text) :
    Trimmed (·.satisfies isBlank) (shorten (Text.collapse d)) (comment d) :=
  Text.trimmed_trim ..

theorem isTrimmed_comment (d : Text) : IsTrimmed (·.satisfies isBlank) (comment d) :=
  (trimmed_comment d).clean

theorem comment_isInfix (d : Text) : comment d <:+: shorten (Text.collapse d) := by
  obtain ⟨before, after, heq, -, -⟩ := (trimmed_comment d).around
  exact ⟨before, after, heq.symm⟩

theorem singleSpaced_comment (d : Text) : SingleSpaced (comment d) :=
  (singleSpaced_shorten (Text.singleSpaced_collapse d)).of_isInfix (comment_isInfix d)

theorem length_comment_le (d : Text) : (comment d).length ≤ commentLimit :=
  (comment_isInfix d).length_le.trans (length_shorten_le _)

/-- A text that a comment may be is its own comment. -/
theorem comment_of_singleSpaced (h : SingleSpaced d) (hends : IsTrimmed (·.satisfies isBlank) d)
    (hlength : d.length ≤ commentLimit) : comment d = d := by
  have hshort : shorten d = d := if_neg (Nat.not_lt.mpr hlength)
  rw [comment, Text.collapse_of_singleSpaced h, hshort]
  exact Text.trim_of_isTrimmed hends

theorem comment_comment (d : Text) : comment (comment d) = comment d :=
  comment_of_singleSpaced (singleSpaced_comment d) (isTrimmed_comment d) (length_comment_le d)

theorem isBlank_of_mem_lineEnds {c : Char} (h : c ∈ Text.lineEnds) :
    isBlank c = true ∧ c ≠ ' ' := by
  have hends : Text.lineEnds.all fun c => isBlank c && c != ' ' := by decide
  simpa using List.all_eq_true.mp hends c h

/-- No line ends inside of a comment. -/
theorem lineEnd_notMem_comment (d : Text) : ∀ c ∈ Text.lineEnds, .char c ∉ comment d := by
  intro c hc hmem
  obtain ⟨hblank, hspace⟩ := isBlank_of_mem_lineEnds hc
  exact hspace (CodePoint.char.inj ((singleSpaced_comment d).spaces _ hmem hblank))

/-! ## The place of a comment -/

/-- The comment behind the definition of a scalar. -/
def scalarComment (d : Text) : Text := "  # " ++ comment d

/-- The line of the comment above a field. -/
def fieldComment (d : Text) : Text := "    # " ++ comment d ++ "\n"

/-- The attribute of a field in the model of a type. -/
def attributeIn (t : CompiledType) (name : Text) : Text := (Entries.get? name t.attributes).getD []

/-- The class of a model up to its fields. -/
def modelFront (t : CompiledType) : Text :=
  "\n\nclass " ++ t.name ++ "(_pydantic.BaseModel):\n" ++ classDocstring t ++ configuration

/-- The line of a field of a model. -/
def fieldLine (attr annotated : Text) (f : CompiledField) : Text :=
  "    " ++ attr ++ ": " ++ annotated ++ " = _pydantic.Field(" ++
    Text.ofString (if f.type.isOptional then "None, alias=" else "alias=") ++
    Text.quoted f.name ++ ")\n"

/-- What ends each line ends all lines together. -/
theorem suffix_concat {ending first : Text} {lines : List Text} (hfirst : ending <:+ first)
    (hlines : ∀ line ∈ lines, ending <:+ line) : ending <:+ first ++ Text.concat lines := by
  rcases List.eq_nil_or_concat lines with rfl | ⟨front, last, rfl⟩
  · simpa [Text.concat] using hfirst
  · have hlast : ending <:+ last := hlines last (by simp)
    have hconcat : first ++ Text.concat (front ++ [last]) = first ++ Text.concat front ++ last := by
      simp [Text.concat]
    rw [List.concat_eq_append, hconcat]
    exact hlast.trans (List.suffix_append ..)

/-- The line of a scalar is behind the end of a line, and the comment goes on with it. -/
theorem places_scalarSection {ts : List CompiledType} (hn : (ts.map (·.name)).Nodup)
    (ht : t ∈ ts) : Places ("\n" ++ t.name ++ " = _t.Any") "\n" scalarComment fun d =>
      scalarSection (ts.map (CompiledType.redescribe t.name d)) := by
  obtain ⟨before, after, -, hmap⟩ := (redescribes_redescribe t.name).exists_map hn ht
  -- The line above is the one of another scalar, or the blank one that the section begins with.
  have hfront : Text.ofString "\n" <:+ "\n" ++ Text.concat (before.map scalarLine) := by
    refine suffix_concat (List.suffix_refl _) fun line hline => ?_
    obtain ⟨u, -, rfl⟩ := List.mem_map.mp hline
    exact List.suffix_append ..
  refine ⟨"\n" ++ Text.concat (before.map scalarLine) ++ (t.name ++ " = _t.Any"),
    "\n" ++ Text.concat (after.map scalarLine), ?_, List.prefix_append .., fun d => ?_⟩
  · rw [List.append_assoc]
    exact List.suffix_append_self_iff.mpr hfront
  · have hline : scalarLine { t with description := d } =
        t.name ++ " = _t.Any" ++ describe d scalarComment ++ "\n" := rfl
    dsimp only
    rw [hmap, CompiledType.redescribe_self, scalarSection, if_neg (by simp), List.map_append,
      List.map_cons, hline]
    simp [Text.concat]

/-- The comment of a field is on a line of its own above the line of the field. -/
theorem fieldLines_describe {f : CompiledField} {annotated : Text}
    (h : annotation r f.type = .ok annotated) (attr : Text) (d : Option Text) :
    fieldLines r attr { f with description := d } =
      .ok (describe d fieldComment ++ fieldLine attr annotated f) := by
  rw [fieldLines_eq (f := { f with description := d }) h attr]
  simp only [fieldLine, List.append_assoc]
  rfl

theorem fieldLines_suffix {f : CompiledField} {attr lines : Text}
    (h : fieldLines r attr f = .ok lines) : Text.ofString "\n" <:+ lines := by
  obtain ⟨annotated, hannotated, -⟩ := bind_eq_ok_iff.mp h
  have hlines := fieldLines_describe hannotated attr f.description
  have hending : Text.ofString ")\n" = Text.ofString ")" ++ Text.ofString "\n" := by
    rw [Text.ofString_ofList, Text.ofString_ofList, Text.ofString_ofList]
    rfl
  obtain rfl := Except.ok.inj (h.symm.trans hlines)
  rw [fieldLine, hending, ← List.append_assoc, ← List.append_assoc]
  exact List.suffix_append ..

end Models

/-! ## One field -/

/-- A change to one item is not seen by what does not see it there. -/
theorem map_modify {α β : Type} {f : α → β} {φ : α → α} (h : ∀ a, f (φ a) = f a) (as : List α)
    (i : Nat) : (as.modify i φ).map f = as.map f := by
  refine List.ext_getElem? fun j => ?_
  rw [List.getElem?_map, List.getElem?_modify, List.getElem?_map]
  cases as[j]? with
  | none => rfl
  | some a =>
    by_cases hij : i = j
    · simp [hij, h]
    · simp [hij]

/-- Of the items of a list one is changed. -/
theorem exists_modify {α : Type} {as : List α} {a : α} (h : as[i]? = some a) :
    ∃ before after, as = before ++ a :: after ∧
      ∀ φ : α → α, as.modify i φ = before ++ φ a :: after := by
  obtain ⟨hi, rfl⟩ := List.getElem?_eq_some_iff.mp h
  refine ⟨as.take i, as.drop (i + 1), by simp, fun φ => ?_⟩
  exact List.modify_eq_take_cons_drop hi

namespace CompiledType

theorem redescribeField_self (t : CompiledType) (i : Nat) (d : Option Text) :
    t.redescribeField t.name i d =
      { t with fields := t.fields.modify i ({ · with description := d }) } := if_pos rfl

/-- The description that a field has may be given to it. -/
theorem redescribeField_description {f : CompiledField} (hf : t.fields[i]? = some f) :
    t.redescribeField t.name i f.description = t := by
  obtain ⟨before, after, hsplit, hmodify⟩ := exists_modify hf
  rw [redescribeField_self, hmodify, ← hsplit]

end CompiledType

/-- A new description of one field redescribes its type. -/
theorem redescribes_redescribeField (name : Text) (i : Nat) :
    Redescribes name (CompiledType.redescribeField name i) := by
  refine ⟨fun d t => ?_, fun _ u hu => if_neg hu⟩
  unfold CompiledType.redescribeField
  split
  · have hplain := map_modify (f := CompiledField.plain) (φ := ({ · with description := d }))
      (fun _ => rfl) t.fields i
    rw [CompiledType.plain, hplain, CompiledType.plain]
  · rfl

namespace Models

theorem attributeIn_redescribeField (t : CompiledType) (i : Nat) (d : Option Text) :
    attributeIn (t.redescribeField t.name i d) = attributeIn t := by
  funext name
  have hnames := map_modify (f := CompiledField.name) (φ := ({ · with description := d }))
    (fun _ => rfl) t.fields i
  rw [attributeIn, CompiledType.attributes, CompiledType.redescribeField_self, hnames]
  rfl

theorem modelFront_redescribeField (t : CompiledType) (i : Nat) (d : Option Text) :
    modelFront (t.redescribeField t.name i d) = modelFront t := by
  rw [CompiledType.redescribeField_self]
  rfl

theorem modelSection_eq_ok_iff {text : Text} : modelSection r t = .ok text ↔
    ∃ fields, t.fields.mapM (fun f => fieldLines r (attributeIn t f.name) f) = .ok fields ∧
      modelFront t ++ Text.concat fields = text := by
  refine bind_eq_ok_iff.trans (exists_congr fun fields => and_congr_right fun _ => ?_)
  constructor
  · exact fun h => Except.ok.inj h
  · rintro rfl
    rfl

/-- The lines of a field are behind the end of a line, and the comment is on a line above them. -/
theorem places_modelSection_field {f : CompiledField} {lines annotated : Text}
    (hf : t.fields[i]? = some f) (hannotated : annotation r f.type = .ok annotated)
    (h : modelSection r t = .ok lines) :
    ∃ text, Places "\n" (fieldLine (attributeIn t f.name) annotated f) fieldComment text ∧
      ∀ d, modelSection r (t.redescribeField t.name i d) = .ok (text d) := by
  obtain ⟨before, after, hsplit, hmodify⟩ := exists_modify hf
  obtain ⟨_, hfields, -⟩ := modelSection_eq_ok_iff.mp h
  rw [hsplit, mapM_insert_eq_ok_iff] at hfields
  obtain ⟨front, _, behind, hfront, -, hbehind, -⟩ := hfields
  -- The line above ends a field, or the configuration if this field is the first one.
  have hopening : Text.ofString "\n" <:+ configuration ++ Text.concat front := by
    refine suffix_concat ?_ fun lines hlines => ?_
    · rw [configuration, Text.ofString_ofList, Text.ofString_ofList]
      decide
    · obtain ⟨_, -, hline⟩ := exists_of_mem_mapM hfront hlines
      exact fieldLines_suffix hline
  have hfront' : Text.ofString "\n" <:+ modelFront t ++ Text.concat front := by
    rw [modelFront, List.append_assoc]
    exact List.suffix_append_of_suffix hopening
  refine ⟨fun d => modelFront t ++ Text.concat (front ++
    (describe d fieldComment ++ fieldLine (attributeIn t f.name) annotated f) :: behind),
    ⟨_, fieldLine (attributeIn t f.name) annotated f ++ Text.concat behind, hfront',
      List.prefix_append .., fun d => by simp [Text.concat]⟩,
    fun d => modelSection_eq_ok_iff.mpr ⟨_, ?_, by rw [modelFront_redescribeField]⟩⟩
  rw [attributeIn_redescribeField, CompiledType.redescribeField_self]
  dsimp only
  rw [hmodify, mapM_insert_eq_ok_iff]
  exact ⟨front, _, behind, hfront, fieldLines_describe hannotated _ d, hbehind, rfl⟩

end Models

open Models (Places comment commentLimit scalarComment fieldComment fieldLine attributeIn annotation
  isModel)

/-! ## Modules with a comment -/

namespace Generator

section Places

variable {s : Schema} {known : NativeScalars} {includeMeta : Bool} {g : Generator}
  {files : FileTree} (h : s.compile known includeMeta = .ok g.registry)
  (hbuiltin : Template.IsBuiltin files g.templateDirectory) (ht : t ∈ g.registry.generated)

include h hbuiltin ht

/-- The comment of a scalar stands behind its definition, at the end of the line. -/
theorem contains_scalarComment (hkind : t.kind = .scalar) :
    g.Contains files ("\n" ++ t.name ++ " = _t.Any") "\n" scalarComment
      (CompiledType.redescribe t.name) := by
  have hφ := redescribes_redescribe t.name
  have hn := Schema.nodup_defined h g.queries g.source
  obtain ⟨_, hsurface⟩ := Schema.exists_surface_toText h g.queries g.source
  have hmem : t ∈ g.surface.scalars := List.mem_filter.mpr ⟨ht, beq_iff_eq.mpr hkind⟩
  have hscalars : (g.surface.scalars.map (·.name)).Nodup := by
    refine hn.sublist (List.Sublist.map _ ?_)
    simp only [Models.Surface.defined, List.append_assoc]
    exact List.sublist_append_left ..
  obtain ⟨text, hplaces, htext⟩ := Models.places_toText_of_mem_scalars hφ hn hsurface hmem
    (Models.places_scalarSection hscalars hmem)
  exact contains_of_places hbuiltin hφ.rewords hplaces htext

/-- The comment of a field stands on a line of its own in front of the field. -/
theorem contains_fieldComment (hmodel : isModel t = true) {f : CompiledField}
    (hf : t.fields[i]? = some f) : ∃ annotated, annotation g.registry f.type = .ok annotated ∧
      g.Contains files "\n" (fieldLine (attributeIn t f.name) annotated f) fieldComment
        (CompiledType.redescribeField t.name i) := by
  have hφ := redescribes_redescribeField t.name i
  have hn := Schema.nodup_defined h g.queries g.source
  obtain ⟨_, hsurface⟩ := Schema.exists_surface_toText h g.queries g.source
  have hcompiled : t ∈ g.registry.compiled := List.mem_of_mem_filter ht
  obtain ⟨-, annotated, hannotated, -⟩ :=
    Schema.exists_annotation h hcompiled (List.mem_of_getElem? hf)
  obtain ⟨text, hplaces, htext⟩ := Models.places_toText_of_mem_models hφ hn hsurface
    (List.mem_filter.mpr ⟨ht, hmodel⟩) (Models.places_modelSection_field hf hannotated)
  exact ⟨annotated, hannotated, contains_of_places hbuiltin hφ.rewords hplaces htext⟩

end Places

/-- A description with the ends of lines in it. -/
def broken : String := " A day\r\nimport os\x0c"

/-- A scalar that is described so. -/
def day : Definition := ⟨"Day", some broken, .scalar⟩

/-- A type with a field that is described so. -/
def calendar : Definition :=
  ⟨"Calendar", none, .object [⟨"today", .named "Day", some broken, [], false, none⟩] []⟩

/-- A generator for them. -/
def dating : Generator where
  registry := Schema.image ⟨[calendar, day], ⟨none, none, none⟩⟩ .standard false
  queries := []
  source := ""
  templateDirectory := none

end Generator

end GraphBind
