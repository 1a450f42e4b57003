import GraphBind.Models.Generator
import GraphBind.Proofs.Checks
import GraphBind.Proofs.Text.Identifier
import GraphBind.Proofs.Text.Literal
import Mathlib.Data.List.Forall2

/-!
# Bound queries in generated modules

A module that the built-in layout makes ends with the mapping of the bound queries: one line for
each of them, with two literals whose values are its name and its text (`EntryLine`). `EndsWith`
says so of the text of a module, and `endsWith_of_render` that every module that is rendered from
the built-in template ends with the queries of its generator.
-/

namespace GraphBind

namespace Text

@[simp] theorem chars_ofString (s : String) : (ofString s).chars = s.toList :=
  chars_ofChars s.toList

@[simp] theorem chars_append (t t' : Text) : (t ++ t').chars = t.chars ++ t'.chars :=
  List.filterMap_append

theorem chars_concat (ts : List Text) : (concat ts).chars = (ts.map chars).flatten := by
  induction ts with
  | nil => rfl
  | cons t ts ih =>
    change (t ++ concat ts).chars = _
    rw [chars_append, ih]
    rfl

theorem holdsSurrogates_of_find? {t : Text} (h : Unencodable.find? .utf8 t = none) :
    t.holdsSurrogates = false := by
  rw [holdsSurrogates, List.any_eq_false]
  intro c hc
  simpa [Charset.has] using find?_eq_none_iff.mp h c hc

end Text

/-! ## The template -/

/-- That the template that modules are written from is the built-in one: no file of a directory of
one's own takes its place. -/
def Template.IsBuiltin (t : FileTree) (directory : Option String) : Prop :=
  ∃ path, directory? t directory = .ok path ∧ find t path builtinName = .ok .builtin

/-- Without a directory of one's own it always is. -/
theorem Template.isBuiltin_none (t : FileTree) : IsBuiltin t none := by
  have hparts : parts? builtinName = some [builtinName] := by decide +kernel
  refine ⟨none, rfl, ?_⟩
  rw [find, hparts]
  rfl

namespace Generator

variable {g : Generator} {t : FileTree} {name s : String} {text : Text} {tools : Toolchain}

/-- The string of an accepted text is the text. -/
theorem accept_eq_ok {ε : Type} {verdict : Except ε Bool} (h : accept name text verdict = .ok s) :
    Text.ofString s = text := by
  unfold accept at h
  split at h
  · cases h
  · next hfind =>
    split at h
    · cases h
    · split at h
      · cases h
        rw [Text.ofString, String.toList_ofList, Text.ofChars_chars]
        exact Text.holdsSurrogates_of_find? hfind
      · cases h
      · cases h

/-- Rendering from the built-in template prints the layout and has it checked. -/
theorem render_of_isBuiltin (h : Template.IsBuiltin t g.templateDirectory) :
    g.render t Template.builtinName tools =
      (g.surface.toText g.registry).mapError .lookup >>= fun text =>
        accept Template.builtinName text (tools.accepts g .builtin text) := by
  obtain ⟨path, hdirectory, hfind⟩ := h
  unfold render
  rw [hdirectory]
  change ((Template.find t path Template.builtinName).mapError RenderError.widen >>= _) = _
  rw [hfind]
  rfl

/-- There is a text if printing the layout and checking it can be seen not to fail. -/
theorem exists_render_of_isOk (h : Template.IsBuiltin t g.templateDirectory)
    (hok : (g.surface.toText g.registry).toOption.any (fun text =>
      (accept Template.builtinName text (Toolchain.literal.accepts g .builtin text)).isOk) =
        true) :
    ∃ text, g.render t Template.builtinName = .ok text := by
  rw [Option.any_eq_true] at hok
  obtain ⟨text, htext, hok⟩ := hok
  rw [render_of_isBuiltin h, toOption_eq_some_iff.mp htext]
  change ∃ s, accept Template.builtinName text _ = .ok s
  cases hresult : accept Template.builtinName text (Toolchain.literal.accepts g .builtin text) with
  | ok s => exact ⟨s, rfl⟩
  | error e =>
    rw [hresult] at hok
    cases hok

/-- A module that is rendered from the built-in template is the layout. -/
theorem toText_of_render (htemplate : Template.IsBuiltin t g.templateDirectory)
    (h : g.render t Template.builtinName tools = .ok s) :
    g.surface.toText g.registry = .ok (Text.ofString s) := by
  rw [render_of_isBuiltin htemplate] at h
  obtain ⟨text, htext, h⟩ := bind_eq_ok_iff.mp h
  rw [mapError_eq_ok_iff.mp htext, accept_eq_ok h]

/-- A module that is rendered from the built-in template ends with the mapping of the queries. -/
theorem render_eq_ok (htemplate : Template.IsBuiltin t g.templateDirectory)
    (h : g.render t Template.builtinName tools = .ok s) :
    ∃ before, Text.ofString s = before ++
      Models.querySection (Models.sortQueries (g.queries.map Models.queryTexts)) := by
  have htext := toText_of_render htemplate h
  unfold Models.Surface.toText at htext
  obtain ⟨models, -, htext⟩ := bind_eq_ok_iff.mp htext
  exact ⟨_, (Except.ok.inj htext).symm⟩

end Generator

/-! ## The mapping -/

namespace Models

/-- That a line is the entry of a query: it has a literal for the name and one for the text. -/
inductive EntryLine : String × String → List Char → Prop where
  | intro {name text : String} {key value : List Char}
      (hkey : Text.Literal.value? key = some (Text.ofString name))
      (hvalue : Text.Literal.value? value = some (Text.ofString text)) :
    EntryLine (name, text) ("    ".toList ++ key ++ ": ".toList ++ value ++ ",\n".toList)

/-- That a module ends with the mapping of queries. -/
def EndsWith (queries : List (String × String)) (module : String) : Prop :=
  ∃ before lines, List.Forall₂ EntryLine queries lines ∧ module.toList = before ++
    "\n\nQUERIES: dict[str, str] = \x7b\n".toList ++ lines.flatten ++ "\x7d".toList

theorem chars_queryLine (query : Text × Text) : (queryLine query).chars =
    "    ".toList ++ Text.quotedChars query.1 ++ ": ".toList ++ Text.quotedChars query.2 ++
      ",\n".toList := by
  simp [queryLine, Text.quoted]

theorem entryLine_queryLine (query : String × String) :
    EntryLine query (queryLine (queryTexts query)).chars := by
  rw [chars_queryLine]
  exact .intro (Text.Literal.value?_quotedChars _) (Text.Literal.value?_quotedChars _)

/-- A text ends with the queries of the section that it ends with. -/
theorem endsWith_of_querySection {queries : List (String × String)} {module : String}
    {before : Text}
    (h : Text.ofString module = before ++ querySection (queries.map queryTexts)) :
    EndsWith queries module := by
  refine ⟨before.chars, queries.map fun query => (queryLine (queryTexts query)).chars, ?_, ?_⟩
  · rw [List.forall₂_map_right_iff]
    exact List.forall₂_same.mpr fun query _ => entryLine_queryLine query
  · rw [← Text.chars_ofString, h, querySection]
    simp [Text.chars_concat, Function.comp_def]

theorem perm_sortQueries (queries : List (Text × Text)) :
    (sortQueries queries).Perm queries := List.mergeSort_perm ..

/-- Sorting the texts of queries is sorting the queries. -/
theorem exists_sortQueries (queries : List (String × String)) :
    ∃ sorted : List (String × String), sorted.Perm queries ∧
      sortQueries (queries.map queryTexts) = sorted.map queryTexts := by
  refine ⟨_, List.mergeSort_perm queries fun a b =>
    !isBefore (queryTexts b).1 (queryTexts a).1, ?_⟩
  symm
  exact List.map_mergeSort fun _ _ _ _ => rfl

/-- A module that is rendered from the built-in template ends with the queries of its generator, in
the order in which they are sorted. -/
theorem endsWith_of_render {g : Generator} {t : FileTree} {module : String} {tools : Toolchain}
    (htemplate : Template.IsBuiltin t g.templateDirectory)
    (h : g.render t Template.builtinName tools = .ok module) :
    ∃ published : List (String × String), published.Perm g.queries ∧
      sortQueries (g.queries.map queryTexts) = published.map queryTexts ∧
        EndsWith published module := by
  obtain ⟨before, hmodule⟩ := g.render_eq_ok htemplate h
  obtain ⟨sorted, hperm, hsorted⟩ := exists_sortQueries g.queries
  rw [hsorted] at hmodule
  exact ⟨sorted, hperm, hsorted, endsWith_of_querySection hmodule⟩

end Models

end GraphBind
