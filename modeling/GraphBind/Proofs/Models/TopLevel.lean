import GraphBind.Proofs.Models.Comments
import GraphBind.Proofs.Models.SourceDocstring
import GraphBind.Proofs.Text.Cursor

/-!
# The top level of generated modules

The mapping of the bound queries is a statement at the top level of a module if nothing in front of
it leaves a literal, a comment or a bracket open. `exists_front_returns` says that nothing does
where the source is harmless and the names that the module binds can be bound: every other text is
quoted, escaped or in a comment, so that each section, and in it each line, brings its reader back
to code with the brackets that were open before. `statesMapping_of_toText` puts the mapping behind
that.
-/

namespace GraphBind

open Text.Cursor (read read_ofList top IsPhrase Returns Ends opensApart isOrdinary)

namespace Text.LongLiteral

variable {cs part : List Char}

/-! ## Line ends of harmless texts -/

/-- A part without carriage returns stays a part when line ends are unified. -/
theorem infix_normalizeLines (hreturn : '\r' ∉ part) (hend : part.head? ≠ some '\n')
    (h : part <:+: cs) : part <:+: normalizeLines cs := by
  obtain ⟨before, after, rfl⟩ := h
  cases part with
  | nil => exact List.nil_infix
  | cons c part =>
    have hc : c ≠ '\n' := fun heq => hend (congrArg some heq)
    rw [List.append_assoc, List.cons_append, normalizeLines_append_cons hc, ← List.cons_append,
      normalizeLines_append_of_notMem hreturn]
    exact ⟨normalizeLines before, normalizeLines after, List.append_assoc ..⟩

/-- A text is harmless if it is so with its line ends read. -/
theorem harmless_of_normalizeLines (h : Harmless (normalizeLines cs)) : Harmless cs where
  quotes hquotes := h.quotes (infix_normalizeLines (by decide) (by decide) hquotes)
  escapes c hc := by
    by_cases hreturn : c = '\r'
    · subst hreturn
      rfl
    · refine h.escapes c (infix_normalizeLines ?_ (by simp) hc)
      simp [Ne.symm hreturn]

end Text.LongLiteral

namespace Models

open Text.LongLiteral (quotes Harmless)

variable {t : Text} {c : CompiledType} {r : Registry}

/-! ## Parts of lines -/

theorem returns_newline : Returns (Text.ofString "\n") := fun _ => read_ofList rfl

theorem returns_indent : Returns (Text.ofString "    ") := fun _ => read_ofList rfl

theorem returns_colon : Returns (Text.ofString ": ") := fun _ => read_ofList rfl

/-- A phrase and the end of its line. -/
theorem returns_line (h : IsPhrase t) : Returns (t ++ "\n") :=
  h.returns (by decide) returns_newline

/-! ## Docstrings -/

theorem ofString_tripleQuote : Text.ofString tripleQuote = Text.ofChars quotes :=
  Text.ofString_ofList quotes

/-- An escaped text does not end the literal that it stands in, if no quote behind it goes on with
its last one. -/
theorem ends_escapeQuotes {tail rest : Text}
    (htail : t.getLast? = some (.char '"') → tail.head? ≠ some (.char '"')) (h : Ends tail rest) :
    Ends (escapeQuotes t ++ tail) rest := by
  induction t using escape_induction with
  | nil => exact h
  | quotes t ih =>
    rw [List.getLast?_append] at htail
    have hmore := ih fun hlast => htail (by rw [hlast]; rfl)
    rw [escapeQuotes_quotes]
    exact ((hmore.escaped _).escaped _).escaped _
  | backslash t ih =>
    rw [List.getLast?_cons] at htail
    exact (ih fun hlast => htail (by rw [hlast]; rfl)).escaped _
  | cons p t hquotes hp ih =>
    have hmore := ih fun hlast => htail (by rw [List.getLast?_cons, hlast]; rfl)
    rw [escapeQuotes_cons hquotes hp]
    refine .point (fun hthree => hquotes ?_) hp hmore
    -- Three quotes that begin here have to begin here in the text as well.
    obtain ⟨rfl, htwo⟩ := List.cons_prefix_cons.mp hthree
    exact List.cons_prefix_cons.mpr ⟨rfl, prefix_of_escapeQuotes (n := 2) htail htwo⟩

/-- A reader is back where it was behind a docstring, whatever the description is. -/
theorem returns_quotedDocstring (t : Text) : Returns (quotedDocstring t) := by
  have hclosed : Ends (pad t ++ Text.ofChars quotes) [] := by
    unfold pad
    split
    · exact .point (Text.Cursor.not_startsWith_quotes (by decide) _) (by decide) (.close [])
    · exact .close []
  have hpad : t.getLast? = some (.char '"') →
      (pad t ++ Text.ofChars quotes).head? ≠ some (.char '"') := by
    intro hlast
    rw [pad, if_pos hlast]
    simp
  have hends := ends_escapeQuotes hpad hclosed
  intro awaited
  rw [quotedDocstring, docstring_eq, ofString_tripleQuote, List.append_assoc, List.append_assoc]
  exact hends.read awaited

/-- The docstring of a class, if there is one. -/
theorem returns_classDocstring (c : CompiledType) : Returns (classDocstring c) := by
  unfold classDocstring
  rcases describe_eq c.description fun d =>
    "    " ++ tripleQuote ++ docstring d ++ tripleQuote ++ "\n\n" with h | ⟨d, h⟩
  · rw [h]
    exact fun _ => rfl
  · have hbehind : Returns (Text.ofString "\n\n") := fun _ => read_ofList rfl
    rw [h]
    exact (returns_indent.append (returns_quotedDocstring d)).append hbehind

/-- The docstring of a module with a harmless source. -/
theorem returns_docstringSection {source : String}
    (h : Harmless (Text.normalizeLines source.toList)) : Returns (docstringSection source) := by
  have hname : Harmless (sourceName source).toList := by
    refine Text.LongLiteral.harmless_of_normalizeLines ?_
    exact harmless_sourceName_iff.mpr h
  obtain ⟨after, hafter⟩ := exists_closingWords
  have hclosing := quiet_closingWords.plain
  have hend : Returns [.char '\n'] := fun _ => rfl
  have hclosed : Ends (Text.ofChars (closingWords.toList ++ quotes)) [] := by
    rw [Text.ofChars_append]
    exact .plain hclosing (.close [])
  rw [hafter] at hclosed
  have hends : Ends (Text.ofChars (openingWords.toList ++ (sourceName source).toList ++
      (closingWords.toList ++ quotes))) [] := by
    rw [hafter, List.append_assoc, Text.ofChars_append, Text.ofChars_append]
    exact .plain quiet_openingWords.plain (.harmless hname (by decide) hclosed)
  rw [docstringSection_eq, docstringLiteral, Text.ofChars_append, Text.ofChars_append]
  exact Returns.append (fun awaited => hends.read awaited) hend

/-! ## Comments -/

/-- A reader is back where it was at the end of a comment, which is one line. -/
theorem returns_comment {front : Text} (d : Text)
    (hfront : ∀ awaited, read ⟨.code, awaited⟩ front = ⟨.comment, awaited⟩) :
    Returns (front ++ comment d ++ "\n") := by
  have hstays : ∀ awaited {t : Text}, (∀ p ∈ t, Text.Cursor.isLineEnd p = false) →
      read ⟨.comment, awaited⟩ t = ⟨.comment, awaited⟩ := by
    intro awaited t ht
    induction t with
    | nil => rfl
    | cons p t ih =>
      obtain ⟨hp, ht⟩ := List.forall_mem_cons.mp ht
      have hstep : Text.Cursor.step ⟨.comment, awaited⟩ p = ⟨.comment, awaited⟩ := by
        simp [Text.Cursor.step, hp]
      change read (Text.Cursor.step _ p) t = _
      rw [hstep, ih ht]
  have hends : ∀ p ∈ comment d, Text.Cursor.isLineEnd p = false := by
    intro p hp
    rw [← Bool.not_eq_true, Text.Cursor.isLineEnd, Bool.or_eq_true, beq_iff_eq, beq_iff_eq]
    rintro (rfl | rfl)
    · exact lineEnd_notMem_comment d _ (by decide) hp
    · exact lineEnd_notMem_comment d _ (by decide) hp
  intro awaited
  rw [Text.Cursor.read_append, Text.Cursor.read_append, hfront, hstays awaited hends,
    Text.ofString_ofList]
  rfl

/-! ## Names -/

theorem isPhrase_of_isBindable (h : Text.isBindable t = true) : IsPhrase t :=
  Text.Cursor.isPhrase_of_isOrdinary (Text.Cursor.isOrdinary_of_isBindable h)

/-- A name with points in it is ordinary. -/
theorem isOrdinary_of_isDottedName {name : String} (h : isDottedName name = true) :
    ∀ p ∈ Text.ofString name, isOrdinary p = true := by
  intro p hp
  obtain ⟨c, hc, rfl⟩ := List.mem_map.mp hp
  have hsplit : ['.'].intercalate (name.toList.splitOn '.') = name.toList :=
    List.intercalate_splitOn '.'
  rw [← hsplit] at hc
  rcases Text.mem_intercalate hc with hc | ⟨part, hpart, hc⟩
  · rw [List.mem_singleton.mp hc]
    decide
  · have hbindable := List.all_eq_true.mp h part hpart
    exact Text.Cursor.isOrdinary_of_isBindable hbindable _ (Text.mem_ofChars.mpr hc)

/-- The alias of a module holds no quote, no bracket, no mark of a comment and no line end. -/
theorem isOrdinary_moduleAlias {module : String} (h : isDottedName module = true) :
    ∀ p ∈ Text.ofString (moduleAlias module), isOrdinary p = true := by
  have hmodule := isOrdinary_of_isDottedName h
  intro p hp
  rw [moduleAlias, Text.ofString_append, Text.ofString_ofList, Text.ofString_ofList,
    List.mem_append] at hp
  rcases hp with hp | hp
  · rw [List.mem_singleton.mp hp]
    decide
  · obtain ⟨d, hd, rfl⟩ := List.mem_map.mp hp
    obtain ⟨c, hc, rfl⟩ := List.mem_map.mp hd
    split
    · decide
    · exact hmodule _ (Text.mem_ofChars.mpr hc)

/-! ## Sections -/

/-- The imports, of modules with dotted names. -/
theorem returns_importSection {imports : List (String × String)}
    (h : ∀ i ∈ imports, isDottedName i.1 = true ∧ i.2 = moduleAlias i.1) :
    Returns (importSection imports) := by
  have hstandard : Returns (Text.ofString
      "\nfrom __future__ import annotations\n\nimport enum as _enum\nimport typing as _t\n\n") :=
    fun _ => read_ofList rfl
  have hmodels : Returns (Text.ofString "import pydantic as _pydantic\n") :=
    fun _ => read_ofList rfl
  unfold importSection
  rw [ofString_importLines]
  refine (hstandard.append hmodels).append (Text.Cursor.returns_concat fun line hline => ?_)
  obtain ⟨⟨module, short⟩, hi, rfl⟩ := List.mem_map.mp hline
  obtain ⟨hmodule, hshort⟩ := h _ hi
  dsimp only at hmodule hshort ⊢
  subst hshort
  refine returns_line (Text.Cursor.isPhrase_of_isOrdinary ?_)
  simp only [List.forall_mem_append]
  exact ⟨⟨⟨by decide, isOrdinary_of_isDottedName hmodule⟩, by decide⟩,
    isOrdinary_moduleAlias hmodule⟩

/-- The line of a scalar with its comment. -/
theorem returns_scalarLine (hname : Text.isBindable c.name = true) : Returns (scalarLine c) := by
  have hfront : IsPhrase (c.name ++ Text.ofString " = _t.Any") :=
    (isPhrase_of_isBindable hname).append (by decide)
      (Text.Cursor.isPhrase_of_isOrdinary (by decide))
  unfold scalarLine
  rcases describe_eq c.description fun d => "  # " ++ comment d with h | ⟨d, h⟩
  · rw [h, List.append_nil]
    exact returns_line hfront
  · have hcomment : Returns ("  # " ++ comment d ++ "\n") :=
      returns_comment d fun _ => read_ofList rfl
    rw [h, List.append_assoc (c.name ++ Text.ofString " = _t.Any")]
    exact hfront.returns (by rw [Text.ofString_ofList]; rfl) hcomment

theorem returns_scalarSection {scalars : List CompiledType}
    (h : ∀ c ∈ scalars, Text.isBindable c.name = true) : Returns (scalarSection scalars) := by
  unfold scalarSection
  split
  · exact fun _ => rfl
  · refine returns_newline.append (Text.Cursor.returns_concat fun line hline => ?_)
    obtain ⟨c, hc, rfl⟩ := List.mem_map.mp hline
    exact returns_scalarLine (h c hc)

/-- What a class begins with. -/
theorem returns_classFront {bases : Text} (hname : Text.isBindable c.name = true)
    (hopen : opensApart bases = true) (hbases : Returns bases) :
    Returns ("\n\nclass " ++ c.name ++ bases ++ classDocstring c) := by
  have hclass : Returns (Text.ofString "\n\nclass ") := fun _ => read_ofList rfl
  exact ((hclass.phrase (isPhrase_of_isBindable hname)).returns hopen hbases).append
    (returns_classDocstring c)

theorem returns_enumValueLine {value : Text} (h : Text.isBindable (safeIdentifier value) = true) :
    Returns (enumValueLine value) := by
  have hequals : Returns (Text.ofString " = ") := fun _ => read_ofList rfl
  have hname := (returns_indent.phrase (isPhrase_of_isBindable h)).returns (by decide) hequals
  exact returns_line (hname.phrase (Text.Cursor.isPhrase_quoted value))

/-- An enumeration, whose members may be renamed keywords. -/
theorem returns_enumSection
    (h : ∀ n ∈ c.name :: c.values.map safeIdentifier, Text.isBindable n = true) :
    Returns (enumSection c) := by
  obtain ⟨hname, hvalues⟩ := List.forall_mem_cons.mp h
  have hbases : Returns (Text.ofString "(str, _enum.Enum):\n") := fun _ => read_ofList rfl
  unfold enumSection
  refine (returns_classFront hname (by decide) hbases).append (Text.Cursor.returns_concat ?_)
  split
  · rw [List.forall_mem_singleton]
    exact fun _ => read_ofList rfl
  · intro line hline
    obtain ⟨value, hvalue, rfl⟩ := List.mem_map.mp hline
    exact returns_enumValueLine (hvalues _ (List.mem_map_of_mem hvalue))

/-- The quoted names of members are a phrase: they stand in one bracket without closing it. -/
theorem isPhrase_members (ms : List Text) :
    IsPhrase (Text.ofString (", ".intercalate (ms.map Text.quoted))) := by
  have hcomma : Returns (Text.ofString ", ") := fun _ => read_ofList rfl
  induction ms with
  | nil => exact fun _ => .code
  | cons m ms ih =>
    cases ms with
    | nil =>
      rw [List.map_singleton, String.intercalate_singleton]
      exact Text.Cursor.isPhrase_quoted m
    | cons n ms =>
      rw [List.map_cons, List.map_cons, String.intercalate_cons_cons, Text.ofString_append,
        Text.ofString_append]
      exact ((Text.Cursor.isPhrase_quoted m).returns (by decide) hcomma).phrase ih

/-- The line of a union leaves nothing open, whatever the names of its members are. -/
theorem returns_unionLine (hname : Text.isBindable c.name = true) : Returns (unionLine c) := by
  have hphrase := isPhrase_of_isBindable hname
  unfold unionLine
  split
  · have hany : Returns (Text.ofString " = _t.Any\n") := fun _ => read_ofList rfl
    exact hphrase.returns (by decide) hany
  · refine (isPhrase_members c.members).enclose (.char ']') (fun awaited => ?_) (by decide)
      fun _ => read_ofList rfl
    rw [hphrase.read (by decide)]
    exact read_ofList rfl

theorem returns_unionSection {unions : List CompiledType}
    (h : ∀ c ∈ unions, Text.isBindable c.name = true) : Returns (unionSection unions) := by
  unfold unionSection
  split
  · exact fun _ => rfl
  · refine returns_newline.append (Text.Cursor.returns_concat fun line hline => ?_)
    obtain ⟨c, hc, rfl⟩ := List.mem_map.mp hline
    exact returns_unionLine (h c hc)

/-! ## Models -/

/-- Wrapping a phrase into brackets gives a phrase. -/
theorem isPhrase_of_wraps {base annotated : Text} (hbase : IsPhrase base)
    (h : Wraps base annotated) : IsPhrase annotated := by
  have hclose : ∀ awaited, read ⟨.code, .char ']' :: awaited⟩ (Text.ofString "]") =
      ⟨.code, awaited⟩ := fun _ => read_ofList rfl
  have hoptional : ∀ awaited, read ⟨.code, awaited⟩ (Text.ofString "_t.Optional[") =
      ⟨.code, .char ']' :: awaited⟩ := fun _ => read_ofList rfl
  have hlist : ∀ awaited, read ⟨.code, awaited⟩ (Text.ofString "_t.List[") =
      ⟨.code, .char ']' :: awaited⟩ := fun _ => read_ofList rfl
  induction h with
  | base => exact hbase
  | optional _ ih => exact (ih.enclose (.char ']') hoptional (by decide) hclose).isPhrase
  | list _ ih => exact (ih.enclose (.char ']') hlist (by decide) hclose).isPhrase

/-- The line of a field leaves nothing open, whatever its name is, which stands in quotes. -/
theorem returns_fieldLine {attr annotated : Text} (hattr : IsPhrase attr)
    (hannotated : IsPhrase annotated) (f : CompiledField) :
    Returns (fieldLine attr annotated f) := by
  have hfront := ((returns_indent.phrase hattr).returns (by decide) returns_colon).phrase hannotated
  have hending :
      Returns (Text.ofString (if f.type.isOptional then "None, alias=" else "alias=")) := by
    split
    · exact fun _ => read_ofList rfl
    · exact fun _ => read_ofList rfl
  unfold fieldLine
  refine (Text.Cursor.isPhrase_quoted f.name).enclose (.char ')') (fun awaited => ?_)
    (by decide) fun _ => read_ofList rfl
  have hcall : read ⟨.code, awaited⟩ (Text.ofString " = _pydantic.Field(") =
      ⟨.code, .char ')' :: awaited⟩ := read_ofList rfl
  rw [Text.Cursor.read_append, hfront.read (by decide), hcall, hending]

/-- The lines of a field with its comment. -/
theorem returns_fieldLines {attr annotated lines : Text} {f : CompiledField}
    (hattr : IsPhrase attr) (hannotated : IsPhrase annotated)
    (hprinted : annotation r f.type = .ok annotated)
    (h : fieldLines r attr f = .ok lines) : Returns lines := by
  have hline := returns_fieldLine hattr hannotated f
  obtain rfl := Except.ok.inj (h.symm.trans (fieldLines_describe hprinted attr f.description))
  rcases describe_eq f.description fieldComment with hd | ⟨d, hd⟩
  · rw [hd]
    exact hline
  · rw [hd]
    exact (returns_comment d fun _ => read_ofList rfl).append hline

/-- A model leaves nothing open if its name and attributes are bindable and its annotations are
phrases. -/
theorem returns_modelSection {text : Text}
    (hnames : ∀ n ∈ c.name :: (attributeNames (c.fields.map (·.name))).map (·.2),
      Text.isBindable n = true)
    (hannotations : ∀ f ∈ c.fields, ∃ annotated, annotation r f.type = .ok annotated ∧
      IsPhrase annotated)
    (h : modelSection r c = .ok text) : Returns text := by
  obtain ⟨hname, hattrs⟩ := List.forall_mem_cons.mp hnames
  obtain ⟨fields, hfields, rfl⟩ := modelSection_eq_ok_iff.mp h
  have hbases : Returns (Text.ofString "(_pydantic.BaseModel):\n") := fun _ => read_ofList rfl
  have hconfiguration : Returns configuration := fun _ => read_ofList rfl
  refine ((returns_classFront hname (by decide) hbases).append hconfiguration).append
    (Text.Cursor.returns_concat fun lines hlines => ?_)
  obtain ⟨f, hf, hline⟩ := exists_of_mem_mapM hfields hlines
  obtain ⟨annotated, hannotated, hphrase⟩ := hannotations f hf
  obtain ⟨attr, hattr⟩ := exists_attribute (List.mem_map_of_mem (f := (·.name)) hf)
  have hattrIn : attributeIn c f.name = attr := congrArg (·.getD []) hattr
  have hbindable : Text.isBindable attr = true :=
    hattrs attr (List.mem_map_of_mem (f := (·.2)) (Entries.mem_of_get? hattr))
  rw [hattrIn] at hline
  exact returns_fieldLines (isPhrase_of_isBindable hbindable) hphrase hannotated hline

/-- The lines that complete the models. -/
theorem returns_completionSection {models : List CompiledType}
    (h : ∀ c ∈ models, Text.isBindable c.name = true) : Returns (completionSection models) := by
  have hblank : Returns (Text.ofString "\n\n") := fun _ => read_ofList rfl
  have hrebuild : Returns (Text.ofString ".model_rebuild()\n") := fun _ => read_ofList rfl
  unfold completionSection
  split
  · exact fun _ => rfl
  · refine hblank.append (Text.Cursor.returns_concat fun line hline => ?_)
    obtain ⟨c, hc, rfl⟩ := List.mem_map.mp hline
    exact (isPhrase_of_isBindable (h c hc)).returns (by decide) hrebuild

/-! ## The mapping -/

theorem returns_queryLine (query : Text × Text) : Returns (queryLine query) := by
  have hcomma : Returns (Text.ofString ",\n") := fun _ => read_ofList rfl
  have hname := (returns_indent.phrase (Text.Cursor.isPhrase_quoted query.1)).returns (by decide)
    returns_colon
  exact (hname.phrase (Text.Cursor.isPhrase_quoted query.2)).returns (by decide) hcomma

/-- The mapping closes its brace, whatever the names and texts of the queries are. -/
theorem returns_querySection (queries : List (Text × Text)) : Returns (querySection queries) := by
  have hlines : Returns (Text.concat (queries.map queryLine)) := by
    refine Text.Cursor.returns_concat fun line hline => ?_
    obtain ⟨query, -, rfl⟩ := List.mem_map.mp hline
    exact returns_queryLine query
  exact hlines.isPhrase.enclose (.char '\x7d') (fun _ => read_ofList rfl) (by decide)
    fun _ => read_ofList rfl

/-- That a module states a mapping: what is in front of it leaves a reader at the top level of the
module, and it is one statement, with which the module ends, and which is read as its entries. -/
def StatesMapping (entries : List (Text × Text)) (module : Text) : Prop :=
  ∃ front shown value, module = front ++ shown ∧ read top front = top ∧ read top shown = top ∧
    shown = .char '\n' :: .char '\n' ::
      (Statement.declare mappingName "dict[str, str]" value).toText ∧
    ReadsAsMapping entries shown

variable {s : Surface} {text : Text}

theorem name_mem_boundNames (h : c ∈ s.defined) : c.name ∈ s.boundNames := by
  simp only [Surface.defined, List.mem_append] at h
  simp only [Surface.boundNames, List.mem_append, List.mem_map, List.mem_flatMap]
  rcases h with ((h | h) | h) | h
  · exact .inl (.inl (.inl ⟨c, h, rfl⟩))
  · exact .inl (.inl (.inr ⟨c, h, List.mem_cons_self⟩))
  · exact .inl (.inr ⟨c, h, rfl⟩)
  · exact .inr ⟨c, h, List.mem_cons_self⟩

/-- What is in front of the mapping brings a reader back to where it began. -/
theorem exists_front_returns (h : s.toText r = .ok text)
    (hsource : Harmless (Text.normalizeLines s.source.toList))
    (himports : ∀ i ∈ s.imports, isDottedName i.1 = true ∧ i.2 = moduleAlias i.1)
    (hnames : ∀ n ∈ s.boundNames, Text.isBindable n = true)
    (hannotations : ∀ c ∈ s.models, ∀ f ∈ c.fields, ∃ annotated,
      annotation r f.type = .ok annotated ∧ IsPhrase annotated) :
    ∃ front, text = front ++ querySection s.queries ∧ Returns front := by
  obtain ⟨models, hmodels, h⟩ := bind_eq_ok_iff.mp h
  simp only [Surface.boundNames, List.forall_mem_append, List.forall_mem_map,
    List.forall_mem_flatMap] at hnames
  obtain ⟨⟨⟨hscalars, henums⟩, hunions⟩, hclasses⟩ := hnames
  have henumerations : Returns (Text.concat (s.enumerations.map enumSection)) := by
    refine Text.Cursor.returns_concat fun section_ hsection => ?_
    obtain ⟨c, hc, rfl⟩ := List.mem_map.mp hsection
    exact returns_enumSection (henums c hc)
  have hsections : Returns (Text.concat models) := by
    refine Text.Cursor.returns_concat fun section_ hsection => ?_
    obtain ⟨c, hc, hcsection⟩ := exists_of_mem_mapM hmodels hsection
    exact returns_modelSection (hclasses c hc) (hannotations c hc) hcsection
  have hcompletions : Returns (completionSection s.models) :=
    returns_completionSection fun c hc => (List.forall_mem_cons.mp (hclasses c hc)).1
  refine ⟨_, (Except.ok.inj h).symm, ?_⟩
  exact ((((((returns_docstringSection hsource).append (returns_importSection himports)).append
    (returns_scalarSection hscalars)).append henumerations).append
      (returns_unionSection hunions)).append hsections).append hcompletions

end Models

open Models (Surface Denotes isDottedName moduleAlias StatesMapping sortQueries queryTexts)

/-! ## Modules -/

/-- That native scalars have names with points in them at most. -/
def NativeScalars.Dotted (known : NativeScalars) : Prop :=
  ∀ e ∈ known, isDottedName e.2.module = true ∧ isDottedName e.2.name = true

theorem NativeScalars.dotted_standard : standard.Dotted := by
  unfold Dotted
  decide +kernel

/-- That a registry and a source fit into a module: the source may stand in a docstring as it is,
and all names can be bound. -/
structure Registry.Fits (r : Registry) (source : String) : Prop where
  harmless : Text.LongLiteral.Harmless (Text.normalizeLines source.toList)
  bindable : ∀ n ∈ (Surface.of r [] source).boundNames, Text.isBindable n = true

namespace Schema

variable {s : Schema} {known : NativeScalars} {includeMeta : Bool} {r : Registry}
  {queries : List (String × String)} {source : String}

theorem exists_known_of_native (h : s.compile known includeMeta = .ok r) {t : CompiledType}
    (ht : t ∈ r.compiled) {native : NativeType} (hnative : t.native = some native) :
    ∃ e ∈ known, e.2 = native := by
  obtain ⟨-, rfl⟩ := compile_eq_ok_iff.mp h
  rcases mem_compiled_image_iff.mp ht with ⟨e, he, rfl⟩ | ⟨d, -, rfl⟩
  · exact ⟨e, he, Option.some.inj hnative⟩
  · cases hnative

section Compiled

variable (h : s.compile known includeMeta = .ok r) (hknown : known.Dotted)

include h hknown

theorem isDottedName_of_mem_imports {i : String × String} (hi : i ∈ Models.imports r) :
    isDottedName i.1 = true ∧ i.2 = moduleAlias i.1 := by
  obtain ⟨m, hm, rfl⟩ := List.mem_map.mp hi
  obtain ⟨t, ht, native, hnative, -, rfl⟩ := Models.mem_importedModules_iff.mp hm
  obtain ⟨e, he, rfl⟩ := exists_known_of_native h ht hnative
  exact ⟨(hknown e he).1, rfl⟩

/-- By whatever name a module refers to a type of a registry that fits, the name is a phrase. -/
theorem isPhrase_of_denotes (hfits : r.Fits source) {name base : Text}
    (hbase : Denotes known r name base) : IsPhrase base := by
  cases hbase with
  | builtin hmem =>
    exact Text.Cursor.isPhrase_of_isOrdinary (Models.isOrdinary_of_isDottedName (hknown _ hmem).2)
  | imported hmem hbuiltin himport =>
    obtain ⟨hmodule, hname⟩ := hknown _ hmem
    obtain ⟨m, -, heq⟩ := List.mem_map.mp himport
    cases heq
    refine Text.Cursor.isPhrase_of_isOrdinary ?_
    simp only [Text.ofString_append, List.forall_mem_append]
    exact ⟨⟨Models.isOrdinary_moduleAlias hmodule, by decide⟩,
      Models.isOrdinary_of_isDottedName hname⟩
  | @generated t ht hname =>
    have hdefined : t ∈ (Surface.of r [] source).defined :=
      (Models.defines_surface h [] source).perm.mem_iff.mpr ht
    exact Models.isPhrase_of_isBindable (hfits.bindable _ (Models.name_mem_boundNames hdefined))

/-- **The mapping is stated.** A module of a compiled registry states the mapping of its queries if
the registry and the source fit into it. -/
theorem statesMapping_of_toText {text : Text} (hfits : r.Fits source)
    (htext : (Surface.of r queries source).toText r = .ok text) :
    StatesMapping (sortQueries (queries.map queryTexts)) text := by
  have hannotations : ∀ c ∈ (Surface.of r queries source).models, ∀ f ∈ c.fields,
      ∃ annotated, Models.annotation r f.type = .ok annotated ∧ IsPhrase annotated := by
    intro c hc f hf
    have hcompiled : c ∈ r.compiled :=
      List.mem_of_mem_filter (List.mem_of_mem_filter (p := Models.isModel) hc)
    obtain ⟨base, annotated, hannotated, hwraps, hdenotes⟩ := exists_annotation h hcompiled hf
    have hphrase := isPhrase_of_denotes h hknown hfits hdenotes
    exact ⟨annotated, hannotated, Models.isPhrase_of_wraps hphrase hwraps⟩
  obtain ⟨front, hfront, hreturns⟩ := Models.exists_front_returns htext hfits.harmless
    (fun i hi => isDottedName_of_mem_imports h hknown hi) hfits.bindable hannotations
  exact ⟨front, _, _, hfront, hreturns [], Models.returns_querySection _ [],
    Models.querySection_eq_declare _, Models.readsAsMapping_querySection _⟩

end Compiled

end Schema

/-! ## A module that does not state its mapping -/

namespace Models

/-- What a stated mapping begins with. -/
def statedOpening : Text := "\n\nQUERIES: "

/-- Whether a text has a part that begins like a stated mapping, at the top level of a module. -/
def opensMapping (cursor : Text.Cursor) : Text → Bool
  | [] => false
  | p :: t => (cursor == top && statedOpening.isPrefixOf (p :: t)) || opensMapping (cursor.step p) t

/-- A mapping that begins where a reader is at the top is found there. -/
theorem opensMapping_append {cursor : Text.Cursor} {front shown : Text}
    (hfront : read cursor front = top) (hshown : statedOpening <+: shown) :
    opensMapping cursor (front ++ shown) = true := by
  induction front generalizing cursor with
  | nil =>
    obtain rfl : cursor = top := hfront
    obtain ⟨more, rfl⟩ := hshown
    have hopening : statedOpening ++ more = .char '\n' :: (statedOpening.tail ++ more) := rfl
    have hprefix : statedOpening.isPrefixOf (statedOpening ++ more) = true :=
      List.isPrefixOf_iff_prefix.mpr (List.prefix_append ..)
    rw [hopening] at hprefix
    rw [List.nil_append, hopening, opensMapping, hprefix]
    rfl
  | cons p front ih =>
    rw [List.cons_append, opensMapping, ih hfront, Bool.or_true]

theorem StatesMapping.opensMapping {entries : List (Text × Text)} {module : Text}
    (h : StatesMapping entries module) : opensMapping top module = true := by
  obtain ⟨front, shown, value, rfl, hfront, -, rfl, -⟩ := h
  have hopening : statedOpening =
      .char '\n' :: .char '\n' :: (mappingName ++ Text.ofString ": ") := by decide
  refine opensMapping_append hfront ?_
  rw [hopening, Statement.toText]
  simp

end Models

namespace Generator

/-- A source that ends the docstring and begins a literal with quotes of the other kind. -/
def openingSource : String := "http://h/\"\"\"'''"

/-- A query with a comment that ends such a literal and goes on with a mapping of its own. -/
def closingQuery : String := "\x7b a \x7d # '''; QUERIES = \x7b # :"

/-- A generator for them. -/
def unstating : Generator := { bare openingSource with queries := [("q", closingQuery)] }

/-- A module whose query is in a literal that its source opens: if a parser accepts it, it is
rendered, but it states no mapping. -/
theorem unstated : ∃ module,
    (∀ tools : Toolchain, tools.accepts unstating .builtin (Text.ofString module) = .ok true →
      unstating.render ⟨[]⟩ Template.builtinName tools = .ok module) ∧
    ∀ entries, ¬ StatesMapping entries (Text.ofString module) := by
  have hcheck : (unstating.surface.toText unstating.registry).toOption.any (fun text =>
      (accept Template.builtinName text (.ok true : Except Empty Bool)).toOption.any fun module =>
        !Models.opensMapping top text) = true := by
    decide +kernel
  rw [Option.any_eq_true] at hcheck
  obtain ⟨text, htext, hcheck⟩ := hcheck
  rw [Option.any_eq_true] at hcheck
  obtain ⟨module, hmodule, hcheck⟩ := hcheck
  have haccept := toOption_eq_some_iff.mp hmodule
  obtain rfl := accept_eq_ok haccept
  refine ⟨module, fun tools htools => ?_, fun entries hstates => ?_⟩
  · rw [render_of_isBuiltin (Template.isBuiltin_none _), toOption_eq_some_iff.mp htext]
    exact accept_eq_ok_iff.mpr ⟨rfl, (accept_eq_ok_iff.mp haccept).2.1, htools⟩
  · rw [hstates.opensMapping] at hcheck
    cases hcheck

end Generator

end GraphBind
