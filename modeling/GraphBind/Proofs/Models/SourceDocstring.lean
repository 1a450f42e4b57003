import GraphBind.Proofs.Json.LineEnds
import GraphBind.Proofs.Models.BoundNames
import GraphBind.Proofs.Text.LongLiteral

/-!
# The source in the docstring of a module

A generated module names its source in its docstring, and prints it there as it is. What follows the
docstring is the same for every source (`render_source`), and a module `ContainsSource` if its
docstring is one literal that has the source in its value, with this behind it.
`render_containsSource_iff` says for which sources that holds: for those without three double quotes
in a row and without an escape. `source_outside` is a source that ends the docstring, so that a line
of it becomes a statement of the module.
-/

namespace GraphBind

namespace Text

variable {cs more : List Char} {c : Char}

/-! ## Line ends -/

/-- A text without carriage returns is left as it is in front of any other. -/
theorem normalizeLines_append_of_notMem (h : '\r' ∉ cs) :
    normalizeLines (cs ++ more) = cs ++ normalizeLines more := by
  induction cs with
  | nil => rfl
  | cons c cs ih =>
    rw [List.mem_cons, not_or] at h
    obtain ⟨hc, hcs⟩ := h
    have hne : ¬ (c == '\r') = true := fun heq => hc (beq_iff_eq.mp heq).symm
    rw [List.cons_append, normalizeLines, ih hcs, if_neg hne]
    · rfl
    · rintro cs rfl
      exact absurd rfl hc

theorem normalizeLines_of_notMem (h : '\r' ∉ cs) : normalizeLines cs = cs := by
  have happend : normalizeLines (cs ++ []) = cs ++ [] := normalizeLines_append_of_notMem h
  rwa [List.append_nil] at happend

/-- Unifying line ends goes through two texts one by one, if the second begins with no line feed. -/
theorem normalizeLines_append_cons (hc : c ≠ '\n') :
    normalizeLines (cs ++ c :: more) = normalizeLines cs ++ normalizeLines (c :: more) := by
  fun_induction normalizeLines cs with
  | case1 => rfl
  | case2 cs ih => exact congrArg ('\n' :: ·) ih
  | case3 d cs hd ih =>
    rw [List.cons_append, normalizeLines, ih, List.cons_append]
    intro rest hr hrest
    cases cs with
    | nil => exact hc (List.cons.inj hrest).1
    | cons e cs => exact hd cs hr (congrArg (· :: cs) (List.cons.inj hrest).1)

theorem eq_nil_of_normalizeLines (h : normalizeLines cs = []) : cs = [] := by
  fun_cases normalizeLines cs with
  | case1 => rfl
  | case2 cs => cases h
  | case3 d cs hd =>
    rw [normalizeLines] at h
    · cases h
    · exact hd

theorem prefix_of_ofChars (h : ofChars cs <+: ofChars more) : cs <+: more := by
  have hchars : (ofChars cs).chars <+: (ofChars more).chars := h.filterMap CodePoint.char?
  rwa [chars_ofChars, chars_ofChars] at hchars

theorem find?_utf8_ofString (s : String) : Unencodable.find? .utf8 (ofString s) = none := by
  rw [find?_eq_none_iff]
  intro p hp
  obtain ⟨c, -, rfl⟩ := List.mem_map.mp hp
  rfl

end Text

open Text.LongLiteral (quotes isMark isPlain weight Harmless IsLiteral)

/-! ## The docstring -/

namespace Models

/-- What stands in front of the source in the docstring of a module. -/
def openingWords : String := "GraphQL types compiled from "

/-- What stands behind the source. -/
def closingWords : String := ".\n\nGenerated by gql-provider. Do not edit.\n"

/-- The docstring of a module. -/
def docstringLiteral (source : String) : List Char :=
  quotes ++ (openingWords.toList ++ (sourceName source).toList ++ (closingWords.toList ++ quotes))

/-- That a text is read as itself and has nothing to do with how another next to it is read. -/
structure Quiet (cs : List Char) : Prop where
  plain : cs.all isPlain = true
  weight : weight (Text.ofChars cs) = 0
  noReturn : '\r' ∉ cs
  noNull : '\x00' ∉ cs

theorem quiet_openingWords : Quiet openingWords.toList := by
  unfold openingWords
  rw [String.toList_ofList]
  exact ⟨by decide, by decide, by decide, by decide⟩

theorem quiet_closingWords : Quiet closingWords.toList := by
  unfold closingWords
  rw [String.toList_ofList]
  exact ⟨by decide, by decide, by decide, by decide⟩

theorem quiet_sourceName_empty : Quiet (sourceName "").toList := by
  have hname : sourceName "" = "an introspected schema" := rfl
  rw [hname, String.toList_ofList]
  exact ⟨by decide, by decide, by decide, by decide⟩

theorem exists_closingWords : ∃ after, closingWords.toList = '.' :: after := by
  unfold closingWords
  rw [String.toList_ofList]
  exact ⟨_, rfl⟩

variable {source : String} {cs : List Char}

theorem sourceName_of_ne (h : source ≠ "") : sourceName source = source := by
  rw [sourceName, if_neg (by simpa using h)]

theorem docstringSection_eq (source : String) :
    docstringSection source = Text.ofChars (docstringLiteral source ++ ['\n']) := by
  have hofString : ∀ s : String, Text.ofChars s.toList = Text.ofString s := fun _ => rfl
  have hquotes : Text.ofString tripleQuote = Text.ofChars quotes := Text.ofString_ofList quotes
  have hend : Text.ofString "\n" = Text.ofChars ['\n'] := Text.ofString_ofList ['\n']
  unfold docstringSection docstringLiteral
  simp only [Text.ofChars_append, ← hquotes, ← hend, hofString, List.append_assoc]
  rfl

theorem notMem_docstringLiteral {c : Char} (hquotes : c ∉ quotes)
    (hopening : c ∉ openingWords.toList) (hname : c ∉ (sourceName source).toList)
    (hclosing : c ∉ closingWords.toList) :
    c ∉ docstringLiteral source := by
  simp [docstringLiteral, hname, hquotes, hopening, hclosing]

theorem null_notMem_docstringLiteral (h : '\x00' ∉ source.toList) :
    '\x00' ∉ docstringLiteral source := by
  refine notMem_docstringLiteral (by decide) quiet_openingWords.noNull ?_ quiet_closingWords.noNull
  by_cases hempty : source = ""
  · subst hempty
    exact quiet_sourceName_empty.noNull
  · rwa [sourceName_of_ne hempty]

theorem return_notMem_docstringLiteral_empty : '\r' ∉ docstringLiteral "" :=
  notMem_docstringLiteral (by decide) quiet_openingWords.noReturn quiet_sourceName_empty.noReturn
    quiet_closingWords.noReturn

/-- The literal of a source with unified line ends is that of the source with unified line ends. -/
theorem normalizeLines_docstringLiteral (source : String) :
    Text.normalizeLines (docstringLiteral source) =
      quotes ++ (openingWords.toList ++ Text.normalizeLines (sourceName source).toList ++
        (closingWords.toList ++ quotes)) := by
  have hquotes : '\r' ∉ quotes := by decide
  have hfront : '\r' ∉ quotes ++ openingWords.toList := by
    simp [hquotes, quiet_openingWords.noReturn]
  have hbehind : '\r' ∉ closingWords.toList ++ quotes := by
    simp [hquotes, quiet_closingWords.noReturn]
  obtain ⟨after, hafter⟩ := exists_closingWords
  have hname : Text.normalizeLines ((sourceName source).toList ++ (closingWords.toList ++ quotes)) =
      Text.normalizeLines (sourceName source).toList ++ (closingWords.toList ++ quotes) := by
    rw [hafter, List.cons_append] at hbehind ⊢
    rw [Text.normalizeLines_append_cons (by decide), Text.normalizeLines_of_notMem hbehind]
  unfold docstringLiteral
  rw [List.append_assoc, ← List.append_assoc, Text.normalizeLines_append_of_notMem hfront, hname]
  simp only [List.append_assoc]

/-! ## Harmless sources -/

/-- What stands for the source is harmless if the source is. -/
theorem harmless_sourceName_iff : Harmless (Text.normalizeLines (sourceName source).toList) ↔
    Harmless (Text.normalizeLines source.toList) := by
  by_cases hempty : source = ""
  · subst hempty
    rw [Text.normalizeLines_of_notMem quiet_sourceName_empty.noReturn]
    exact iff_of_true (.of_plain quiet_sourceName_empty.plain) .nil
  · rw [sourceName_of_ne hempty]

theorem completesEscape_of_not_isMark {c : Char} (cs : List Char) (h : isMark c = false) :
    completesEscape c cs = true := by
  unfold completesEscape
  split
  · cases h
  · cases h
  · cases h
  · cases h
  · rfl

theorem isOpening_cons {c : Char} (hc : c ≠ '\\') (hquotes : ¬ quotes <+: c :: cs) :
    isOpening none (c :: cs) = isOpening none cs := by
  rw [isOpening]
  · rfl
  · rintro rest rfl rfl
    exact hquotes (List.prefix_append quotes rest)
  · exact fun _ _ hbackslash _ => hc hbackslash

/-- A module may begin with a harmless text in its docstring. -/
theorem isOpening_of_harmless : ∀ {cs : List Char}, Harmless cs →
    isOpening none (cs ++ ['.']) = true
  | [], _ => rfl
  | [c], h => by
    obtain ⟨hquotes, -, -⟩ := Text.LongLiteral.harmless_cons_iff.mp h
    by_cases hc : c = '\\'
    · subst hc
      rfl
    · exact isOpening_cons hc (Text.LongLiteral.not_prefix_append_cons (by decide) hquotes)
  | c :: d :: cs, h => by
    obtain ⟨hquotes, hmark, htail⟩ := Text.LongLiteral.harmless_cons_iff.mp h
    by_cases hc : c = '\\'
    · subst hc
      have hescape := completesEscape_of_not_isMark (cs ++ ['.']) (hmark rfl d rfl)
      have hcs := isOpening_of_harmless (Text.LongLiteral.harmless_cons_iff.mp htail).2.2
      exact Bool.and_eq_true_iff.mpr ⟨hescape, hcs⟩
    · have hprefix : ¬ quotes <+: c :: (d :: cs ++ ['.']) :=
        Text.LongLiteral.not_prefix_append_cons (by decide) hquotes
      exact (isOpening_cons hc hprefix).trans (isOpening_of_harmless htail)

theorem isOpening_sourceName (h : Harmless (Text.normalizeLines source.toList)) :
    isOpening none (Text.normalizeLines (sourceName source ++ ".").toList) = true := by
  have hpoint : (sourceName source ++ ".").toList = (sourceName source).toList ++ ['.'] :=
    String.toList_append ..
  rw [hpoint, Text.normalizeLines_append_cons (by decide)]
  exact isOpening_of_harmless (harmless_sourceName_iff.mpr h)

/-! ## Rendering with another source -/

/-- The blank line that follows the docstring of a module, and the first import. -/
def firstImport : String := "\n\nfrom __future__ import annotations\n"

variable {s : Surface} {r : Registry} {text : Text}

/-- What follows the docstring of a module does not depend on the source. -/
theorem exists_behind (h : s.toText r = .ok text) :
    ∃ behind : Text, Text.ofString firstImport <+: .char '\n' :: behind ∧
      ∀ source, { s with source }.toText r = .ok (docstringSection source ++ behind) := by
  obtain ⟨models, hmodels, -⟩ := bind_eq_ok_iff.mp h
  have hfirst : Text.ofString firstImport <+: .char '\n' :: Text.ofString
      "\nfrom __future__ import annotations\n\nimport enum as _enum\nimport typing as _t\n\n" := by
    unfold firstImport
    rw [Text.ofString_ofList, Text.ofString_ofList]
    exact ⟨_, rfl⟩
  refine ⟨importSection s.imports ++ (scalarSection s.scalars ++
    (Text.concat (s.enumerations.map enumSection) ++ (unionSection s.unions ++
      (Text.concat models ++ (completionSection s.models ++ querySection s.queries))))), ?_, ?_⟩
  · unfold importSection
    simp only [List.append_assoc]
    rw [← List.cons_append]
    exact hfirst.trans (List.prefix_append ..)
  · intro source
    refine bind_eq_ok_iff.mpr ⟨models, hmodels, ?_⟩
    simp only [List.append_assoc]
    rfl

/-- Of what makes a module accepted only one part depends on the source. -/
theorem isValid_source_iff (source : String) : { s with source }.isValid r = true ↔
    isOpening none (Text.normalizeLines (sourceName source ++ ".").toList) = true ∧
      { s with source := "" }.isValid r = true := by
  have hempty : isOpening none (Text.normalizeLines (sourceName "" ++ ".").toList) = true :=
    isOpening_sourceName .nil
  unfold Surface.isValid
  simp only [hempty, Bool.true_and, Bool.and_eq_true, and_assoc]

end Models

namespace Generator

variable {g : Generator} {files : FileTree} {name module : String} {text : Text}

/-- A module is accepted iff it is a string without null characters and the verdict is that it is
valid. -/
theorem accept_eq_ok_iff {ε : Type} {verdict : Except ε Bool} :
    accept name text verdict = .ok module ↔
      text = Text.ofString module ∧ '\x00' ∉ module.toList ∧ verdict = .ok true := by
  have hholds : Text.holdsNull module.toList = false ↔ '\x00' ∉ module.toList := by
    simp [Text.holdsNull]
  constructor
  · intro h
    obtain rfl := accept_eq_ok h
    refine ⟨rfl, hholds.mp (Bool.eq_false_iff.mpr fun hnull => ?_), verdict_of_accept h⟩
    unfold accept at h
    rw [Text.find?_utf8_ofString, Text.chars_ofString] at h
    dsimp only at h
    rw [if_pos hnull] at h
    cases h
  · rintro ⟨rfl, hnull, rfl⟩
    unfold accept
    rw [Text.find?_utf8_ofString, Text.chars_ofString]
    dsimp only
    rw [hholds.mpr hnull, if_neg Bool.false_ne_true, String.ofList_toList]

/-- A module is rendered of what a generator has to print if there is a text of it that holds no
null character and that is accepted. -/
theorem render_eq_ok_iff (hbuiltin : Template.IsBuiltin files g.templateDirectory) :
    g.render files Template.builtinName = .ok module ↔
      g.surface.toText g.registry = .ok (Text.ofString module) ∧ '\x00' ∉ module.toList ∧
        g.surface.isValid g.registry = true := by
  rw [render_of_isBuiltin hbuiltin, bind_eq_ok_iff]
  simp only [accept_eq_ok_iff, mapError_eq_ok_iff, Except.ok.injEq]
  constructor
  · rintro ⟨text, htext, rfl, hnull, hvalid⟩
    exact ⟨htext, hnull, hvalid⟩
  · rintro ⟨htext, hnull, hvalid⟩
    exact ⟨_, htext, rfl, hnull, hvalid⟩

/-- What is rendered with one source is rendered with another as well, with another docstring, if
that begins a module well. -/
theorem render_source (hbuiltin : Template.IsBuiltin files g.templateDirectory)
    (h : g.render files Template.builtinName = .ok module) (source : String)
    (hnull : '\x00' ∉ source.toList)
    (hopening : Models.isOpening none
      (Text.normalizeLines (Models.sourceName source ++ ".").toList) = true) :
    ∃ behind : List Char, Models.firstImport.toList <+: behind ∧
      module.toList = Models.docstringLiteral g.source ++ behind ∧
      { g with source }.render files Template.builtinName =
        .ok (String.ofList (Models.docstringLiteral source ++ behind)) := by
  obtain ⟨htext, hnotNull, hvalid⟩ := (render_eq_ok_iff hbuiltin).mp h
  obtain ⟨behind, hfirst, hbehind⟩ := Models.exists_behind htext
  have hsplit : Text.ofString module = Models.docstringSection g.source ++ behind :=
    Except.ok.inj (htext.symm.trans (hbehind g.source))
  rw [Models.docstringSection_eq] at hsplit
  obtain ⟨front, behind, hmodule, hfront, rfl⟩ := List.map_eq_append_iff.mp hsplit
  have hfront : front = Models.docstringLiteral g.source ++ ['\n'] := by
    have hchars := congrArg Text.chars hfront
    rwa [← Text.ofChars, Text.chars_ofChars, Text.chars_ofChars] at hchars
  rw [hmodule] at hnotNull
  have hmoduleText : Models.docstringSection source ++ Text.ofChars behind =
      Text.ofString (String.ofList (Models.docstringLiteral source ++ '\n' :: behind)) := by
    rw [Models.docstringSection_eq, Text.ofString, String.toList_ofList, ← Text.ofChars_append,
      List.append_assoc]
    rfl
  refine ⟨'\n' :: behind, ?_, ?_,
    (render_eq_ok_iff (g := { g with source }) hbuiltin).mpr ⟨?_, ?_, ?_⟩⟩
  · exact Text.prefix_of_ofChars hfirst
  · rw [hmodule, hfront, List.append_assoc]
    rfl
  · rw [← hmoduleText]
    exact hbehind source
  · rw [String.toList_ofList]
    have hliteral := Models.null_notMem_docstringLiteral hnull
    have hbehindNull : '\x00' ∉ behind := fun hmem => hnotNull (List.mem_append_right _ hmem)
    simp [hliteral, hbehindNull]
  · have hrest := ((Models.isValid_source_iff (s := g.surface) g.source).mp hvalid).2
    exact (Models.isValid_source_iff (s := g.surface) source).mpr ⟨hopening, hrest⟩

end Generator

/-! ## Containing the source -/

namespace Models

/-- That a module contains a source in its docstring: it begins with one literal, which ends in
front of the blank line above the first import and has the source, with its line ends read as line
feeds, in its value, and what follows the literal is what follows that of another module. -/
inductive ContainsSource (named : List Char → Option Char) (source module plain : String) :
    Prop where
  | intro {literal plainLiteral behind : List Char} {value plainValue : Text}
    (hmodule : module.toList = literal ++ behind)
    (hliteral : IsLiteral named (Text.normalizeLines literal) value)
    (hfirst : firstImport.toList <+: behind)
    (hvalue : Text.ofChars (Text.normalizeLines source.toList) <:+: value)
    (hplain : plain.toList = plainLiteral ++ behind)
    (hplainLiteral : IsLiteral named (Text.normalizeLines plainLiteral) plainValue) :
    ContainsSource named source module plain

variable {named : List Char → Option Char} {source : String} {behind : List Char}

/-- A harmless source stands in its literal with the value that it has. -/
theorem isLiteral_docstringLiteral (named : List Char → Option Char)
    (h : Harmless (Text.normalizeLines source.toList)) :
    IsLiteral named (Text.normalizeLines (docstringLiteral source))
      (Text.ofChars (openingWords.toList ++ Text.normalizeLines (sourceName source).toList ++
        closingWords.toList)) := by
  have hclosing := quiet_closingWords.plain
  obtain ⟨after, hafter⟩ := exists_closingWords
  rw [normalizeLines_docstringLiteral, hafter]
  rw [hafter] at hclosing
  exact Text.LongLiteral.isLiteral_of_harmless quiet_openingWords.plain
    (harmless_sourceName_iff.mpr h) (by decide) hclosing

/-- A docstring whose value has the source in it has a harmless one. -/
theorem harmless_of_isLiteral_docstringLiteral {value : Text}
    (h : IsLiteral named (Text.normalizeLines (docstringLiteral source)) value)
    (hvalue : Text.ofChars (Text.normalizeLines source.toList) <:+: value) :
    Harmless (Text.normalizeLines source.toList) := by
  by_cases hempty : source = ""
  · subst hempty
    exact .nil
  · rw [normalizeLines_docstringLiteral, sourceName_of_ne hempty] at h
    exact Text.LongLiteral.harmless_of_isLiteral quiet_openingWords.weight
      quiet_closingWords.weight h hvalue

/-- A text begins with one literal at most. -/
theorem eq_of_isLiteral {literal literal' rest rest' : List Char} {value value' : Text}
    (hreturn : '\r' ∉ literal) (h : IsLiteral named literal value)
    (h' : IsLiteral named (Text.normalizeLines literal') value')
    (happend : literal ++ rest = literal' ++ rest') : literal = literal' := by
  rcases List.append_eq_append_iff.mp happend with ⟨more, rfl, -⟩ | ⟨more, rfl, -⟩
  · rw [Text.normalizeLines_append_of_notMem hreturn] at h'
    rw [Text.eq_nil_of_normalizeLines (h.eq_nil_of_append h'), List.append_nil]
  · rw [Text.normalizeLines_of_notMem fun hmem => hreturn (List.mem_append_left _ hmem)] at h'
    rw [h'.eq_nil_of_append h, List.append_nil]

/-- A module whose docstring is printed around a source contains the source if that is harmless,
and only then. -/
theorem containsSource_iff {module plain : String} (hfirst : firstImport.toList <+: behind)
    (hmodule : module.toList = docstringLiteral source ++ behind)
    (hplain : plain.toList = docstringLiteral "" ++ behind) :
    ContainsSource named source module plain ↔ Harmless (Text.normalizeLines source.toList) := by
  have hempty : Harmless (Text.normalizeLines "".toList) := .nil
  constructor
  · rintro ⟨hmodule', hliteral, -, hvalue, hplain', hplainLiteral⟩
    have hreturn := return_notMem_docstringLiteral_empty
    have hdocstring := isLiteral_docstringLiteral named hempty
    rw [Text.normalizeLines_of_notMem hreturn] at hdocstring
    obtain rfl := eq_of_isLiteral hreturn hdocstring hplainLiteral (hplain.symm.trans hplain')
    obtain rfl := List.append_cancel_left (hplain.symm.trans hplain')
    obtain rfl := List.append_cancel_right (hmodule.symm.trans hmodule')
    exact harmless_of_isLiteral_docstringLiteral hliteral hvalue
  · intro h
    refine .intro hmodule (isLiteral_docstringLiteral named h) hfirst ?_ hplain
      (isLiteral_docstringLiteral named hempty)
    by_cases hne : source = ""
    · subst hne
      exact List.nil_infix
    · rw [sourceName_of_ne hne]
      exact List.IsInfix.map _ ⟨openingWords.toList, closingWords.toList, rfl⟩

end Models

open Models (ContainsSource)

namespace Generator

variable {g : Generator} {files : FileTree}

/-- **The source in the docstring.** A module that is rendered from the built-in template contains
its source in its docstring, with everything behind that as if there were no source, if the source
has neither three double quotes in a row nor an escape in it, and only then. With such a source a
module is rendered whenever one is without a source. -/
theorem render_containsSource_iff (named : List Char → Option Char)
    (hbuiltin : Template.IsBuiltin files g.templateDirectory) :
    (∀ module, g.render files Template.builtinName = .ok module →
      ∃ plain, { g with source := "" }.render files Template.builtinName = .ok plain ∧
        (ContainsSource named g.source module plain ↔
          Harmless (Text.normalizeLines g.source.toList))) ∧
    ('\x00' ∉ g.source.toList → Harmless (Text.normalizeLines g.source.toList) → ∀ plain,
      { g with source := "" }.render files Template.builtinName = .ok plain →
        ∃ module, g.render files Template.builtinName = .ok module ∧
          ContainsSource named g.source module plain) := by
  constructor
  · intro module h
    obtain ⟨behind, hfirst, hmodule, hplain⟩ :=
      render_source hbuiltin h "" (by decide) (Models.isOpening_sourceName .nil)
    exact ⟨_, hplain, Models.containsSource_iff hfirst hmodule String.toList_ofList⟩
  · intro hnull hharmless plain h
    obtain ⟨behind, hfirst, hplain, hmodule⟩ := render_source (g := { g with source := "" })
      hbuiltin h g.source hnull (Models.isOpening_sourceName hharmless)
    exact ⟨_, hmodule, (Models.containsSource_iff hfirst String.toList_ofList hplain).mpr hharmless⟩

/-- A generator for a schema without types. -/
def bare (source : String) : Generator where
  registry := Schema.image ⟨[], ⟨none, none, none⟩⟩ .standard false
  queries := []
  source
  templateDirectory := none

theorem render_bare : ∃ plain, (bare "").render ⟨[]⟩ Template.builtinName = .ok plain := by
  refine exists_render_of_isOk (Template.isBuiltin_none _) ?_
  decide +kernel

theorem render_containsSource_iff_url :
    ∃ module plain, (bare "http://h/graphql").render ⟨[]⟩ Template.builtinName = .ok module ∧
      ContainsSource (fun _ => none) "http://h/graphql" module plain := by
  obtain ⟨plain, hplain⟩ := render_bare
  have hharmless : Harmless (Text.normalizeLines "http://h/graphql".toList) := by
    rw [String.toList_ofList]
    exact .of_plain (by decide)
  have hbuiltin : Template.IsBuiltin ⟨[]⟩ (bare "http://h/graphql").templateDirectory :=
    Template.isBuiltin_none _
  have hnull : '\x00' ∉ "http://h/graphql".toList := by
    rw [String.toList_ofList]
    decide
  obtain ⟨module, hmodule, hcontains⟩ :=
    (render_containsSource_iff (fun _ => none) hbuiltin).2 hnull hharmless plain hplain
  exact ⟨module, plain, hmodule, hcontains⟩

/-- A source that ends the docstring, and begins another. -/
def closingSource : String := "\"\"\"\nimport os\n\"\"\""

/-- A module is rendered with a source that ends the docstring, with what follows in the source
outside of it. -/
theorem source_outside : '\x00' ∉ closingSource.toList ∧
    ∃ module plain, (bare closingSource).render ⟨[]⟩ Template.builtinName = .ok module ∧
      (bare "").render ⟨[]⟩ Template.builtinName = .ok plain ∧
      (∀ named, ¬ ContainsSource named closingSource module plain) ∧
      ∃ literal behind value, module.toList = literal ++ "\nimport os\n".toList ++ behind ∧
        IsLiteral (fun _ => none) literal value := by
  have hchars : closingSource.toList = quotes ++ "\nimport os\n".toList ++ quotes := by
    unfold closingSource
    rw [String.toList_ofList, String.toList_ofList]
    rfl
  have hnull : '\x00' ∉ closingSource.toList := by
    rw [hchars, String.toList_ofList]
    decide
  have hname : Models.sourceName closingSource = closingSource :=
    Models.sourceName_of_ne (by decide)
  have hopening : Models.isOpening none
      (Text.normalizeLines (Models.sourceName closingSource ++ ".").toList) = true := by
    rw [hname, String.toList_append, hchars, String.toList_ofList, String.toList_ofList]
    decide
  have hquotes : quotes <+: Text.normalizeLines closingSource.toList := by
    rw [hchars, String.toList_ofList]
    decide
  have hsplit : Models.docstringLiteral closingSource =
      quotes ++ Models.openingWords.toList ++ quotes ++ "\nimport os\n".toList ++
        (quotes ++ (Models.closingWords.toList ++ quotes)) := by
    rw [Models.docstringLiteral, hname, hchars]
    simp only [List.append_assoc]
  have hliteral : IsLiteral (fun _ => none) (quotes ++ Models.openingWords.toList ++ quotes)
      (Text.ofChars Models.openingWords.toList) := by
    refine ⟨Models.openingWords.toList ++ quotes, List.append_assoc .., ?_⟩
    exact Text.LongLiteral.inside_of_plain Models.quiet_openingWords.plain
  obtain ⟨plain, hplain⟩ := render_bare
  have hbuiltin : Template.IsBuiltin ⟨[]⟩ (bare "").templateDirectory := Template.isBuiltin_none _
  obtain ⟨behind, hfirst, hempty, hmodule⟩ :=
    render_source hbuiltin hplain closingSource hnull hopening
  refine ⟨hnull, _, plain, hmodule, hplain, fun named hcontains => ?_, ?_⟩
  · have hharmless := (Models.containsSource_iff hfirst String.toList_ofList hempty).mp hcontains
    exact hharmless.quotes hquotes.isInfix
  · rw [String.toList_ofList, hsplit, List.append_assoc]
    exact ⟨_, _, _, rfl, hliteral⟩

end Generator

end GraphBind
