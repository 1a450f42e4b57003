import GraphBind.Command.Run
import GraphBind.Proofs.Models.BoundNames
import GraphBind.Proofs.Schema.Notation
import GraphBind.Proofs.Session.Provenance

/-!
# Summaries of types

What a run of `types` says about the types of a service. Each generated type has one of the six
kinds of named types, so that the types by kind are the generated ones, each once (`perm_byKind`),
and the six counts sum up to the total. A listing has an entry for each generated type (`entry`),
made from what the schema says about it.

What is printed is printed line by line, and a line that holds surrogates cannot be encoded:
`Prints` says how far a run comes with given lines, and what they look like in its output. Only a
listing can have a line that cannot be encoded (`types_sumsUp`). Of a line control sequences are
left out; lines that hold none are printed as they are (`printedLines_of_isPrintedWhole`).
-/

namespace GraphBind

/-- The fields of a type as they are listed, each with the reference to its type. -/
def Definition.typedFields (d : Definition) : List (Text × TypeRef) :=
  match d.body with
  | .object fields _ => fields.map fun f => (f.name, f.type)
  | .interface fields _ => fields.map fun f => (f.name, f.type)
  | .inputObject fields => fields.map fun f => (f.name, f.type)
  | _ => []

/-! ## Printing -/

namespace Text

variable {t rest : Text}

theorem holdsSurrogates_append (t t' : Text) :
    (t ++ t').holdsSurrogates = (t.holdsSurrogates || t'.holdsSurrogates) := List.any_append

theorem isSurrogate_of_satisfies {p : Char → Bool} {c : CodePoint} (h : c.satisfies p = true) :
    c.isSurrogate = false := by
  cases c with
  | char c => rfl
  | surrogate n => cases h

/-- A control sequence holds no surrogates. -/
theorem holdsSurrogates_afterControl? (h : afterControl? t = some rest) :
    rest.holdsSurrogates = t.holdsSurrogates := by
  unfold afterControl? at h
  split at h
  · next cs =>
    -- What is skipped is told by its characters: the parameters, and the letter behind them.
    have hparameters : holdsSurrogates (cs.takeWhile (·.satisfies isControlParameter)) = false :=
      List.any_eq_false.mpr fun c hc =>
        ne_true_of_eq_false (isSurrogate_of_satisfies (List.mem_takeWhile_imp hc))
    split at h
    · next c tail hdrop =>
      split at h
      · next hletter =>
        obtain rfl := Option.some.inj h
        have hsplit : cs = cs.takeWhile (·.satisfies isControlParameter) ++ c :: tail := by
          rw [← hdrop, List.takeWhile_append_dropWhile]
        have hrest : holdsSurrogates cs = holdsSurrogates tail := by
          rw [hsplit, holdsSurrogates_append, hparameters]
          exact congrArg (· || holdsSurrogates tail) (isSurrogate_of_satisfies hletter)
        exact hrest.symm
      · cases h
    · cases h
  · cases h

theorem holdsSurrogates_printed (t : Text) : (printed t).holdsSurrogates = t.holdsSurrogates := by
  induction t using printed.induct with
  | case1 => rw [printed]
  | case2 c cs rest hcontrol ih =>
    rw [printed, hcontrol]
    exact ih.trans (holdsSurrogates_afterControl? hcontrol)
  | case3 c cs hcontrol ih =>
    rw [printed, hcontrol]
    exact congrArg (c.isSurrogate || ·) ih

/-- A text can be printed if it holds no surrogates. -/
theorem find?_printed_eq_none_iff :
    Unencodable.find? .utf8 (printed t) = none ↔ t.holdsSurrogates = false := by
  rw [find?_eq_none_iff, ← holdsSurrogates_printed, holdsSurrogates, List.any_eq_false]
  simp [Charset.has]

/-- Whether a text holds a control sequence. -/
def holdsControl (t : Text) : Bool := t.tails.any fun rest => (afterControl? rest).isSome

/-- A text without control sequences is printed as it is. -/
theorem printed_of_not_holdsControl (h : t.holdsControl = false) : printed t = t := by
  induction t using printed.induct with
  | case1 => rw [printed]
  | case2 c cs rest hcontrol ih =>
    rw [holdsControl, List.tails_cons, List.any_cons, hcontrol] at h
    cases h
  | case3 c cs hcontrol ih =>
    rw [holdsControl, List.tails_cons, List.any_cons, hcontrol] at h
    rw [printed, hcontrol]
    exact congrArg (c :: ·) (ih h)

/-- Whether a line is printed as it is: each of its code points can be encoded, and none is left out
as part of a control sequence or of the end of the line. -/
def isPrintedWhole (line : Text) : Bool :=
  !line.holdsSurrogates && !line.holdsControl && !line.contains (.char '\r')

theorem isPrintedWhole_iff : t.isPrintedWhole = true ↔
    t.holdsSurrogates = false ∧ t.holdsControl = false ∧ .char '\r' ∉ t := by
  simp [isPrintedWhole, and_assoc]

theorem joinLineEnds_of_notMem {cs : List Char} (h : '\r' ∉ cs) : joinLineEnds cs = cs := by
  fun_induction joinLineEnds cs with
  | case1 => rfl
  | case2 cs ih => exact absurd List.mem_cons_self h
  | case3 c cs hc ih => exact congrArg (c :: ·) (ih fun hmem => h (List.mem_cons_of_mem c hmem))

end Text

/-! ## Kinds -/

namespace Registry

variable {r : Registry} {ks : List Kind}

/-- The kinds part the generated types: a type stands once among those of its own kind, and nowhere
else. -/
theorem count_flatMap_byKind (hks : ks.Nodup) (t : CompiledType) :
    (ks.flatMap r.byKind).count t = if t.kind ∈ ks then r.generated.count t else 0 := by
  induction ks with
  | nil => rfl
  | cons k ks ih =>
    obtain ⟨hk, hks⟩ := List.nodup_cons.mp hks
    rw [List.flatMap_cons, List.count_append, ih hks]
    by_cases hkind : t.kind = k
    · subst hkind
      have hcount : (r.byKind t.kind).count t = r.generated.count t := List.count_filter (by simp)
      simp [hcount, hk]
    · have hcount : (r.byKind k).count t = 0 := by
        refine List.count_eq_zero.mpr fun hmem => hkind ?_
        simpa using (List.mem_filter.mp hmem).2
      simp [hcount, hkind]

/-- Types by kind are the generated types, each once. -/
theorem perm_byKind (hks : ks.Nodup) (h : ∀ t ∈ r.generated, t.kind ∈ ks) :
    (ks.flatMap r.byKind).Perm r.generated := by
  refine List.perm_iff_count.mpr fun t => ?_
  rw [count_flatMap_byKind hks]
  split
  · rfl
  · next hkind => exact (List.count_eq_zero.mpr (mt (h t) hkind)).symm

theorem disjoint_byKind {k k' : Kind} (h : k ≠ k') : (r.byKind k).Disjoint (r.byKind k') := by
  intro t ht ht'
  have hkind : t.kind = k := by simpa using (List.mem_filter.mp ht).2
  have hkind' : t.kind = k' := by simpa using (List.mem_filter.mp ht').2
  exact h (hkind.symm.trans hkind')

theorem sum_length_byKind (hks : ks.Nodup) (h : ∀ t ∈ r.generated, t.kind ∈ ks) :
    (ks.map fun k => (r.byKind k).length).sum = r.generated.length := by
  rw [← (perm_byKind hks h).length_eq, List.length_flatMap]

end Registry

namespace Command

theorem nodup_summaryKinds : summaryKinds.Nodup := by decide

theorem kind_mem_summaryKinds (d : Definition) : d.kind ∈ summaryKinds := by
  obtain ⟨_, _, body⟩ := d
  cases body <;> simp [Definition.kind, Body.kind, summaryKinds]

/-! ## Listings -/

/-- The lines for a type in a listing: its kind and its name, and each of its fields with the
notation of its type. -/
def entry (d : Definition) : List Text :=
  (d.kind.name ++ " " ++ d.name) ::
    d.typedFields.map fun f => "    " ++ f.1 ++ ": " ++ f.2.toText

theorem typedFields_image (d : Definition) :
    d.image.typedFields = d.typedFields.map fun f => (f.1, .ofRef f.2) := by
  obtain ⟨_, _, body⟩ := d
  cases body <;> simp [CompiledType.typedFields, Definition.typedFields, Definition.image,
    Field.image, Argument.inputImage]

theorem typeLines_image (d : Definition) : typeLines d.image = entry d := by
  unfold typeLines entry
  rw [CompiledType.shape_eq_map, typedFields_image]
  simp only [List.map_map, Function.comp_def, FieldType.toText_ofRef]
  rfl

/-! ## Runs -/

/-- That a run prints lines in turn, up to the first one that cannot be encoded, which ends it with
an error. Its output is these lines as they are printed. -/
structure Run.Prints (run : Run) (lines : List Text) : Prop where
  printed : run.lines = lines.takeWhile (!·.holdsSurrogates)
  output : run.output = printedLines (lines.takeWhile (!·.holdsSurrogates))
  ended : run.error = none ↔ ∀ line ∈ lines, line.holdsSurrogates = false
  fault : ∀ e, run.error = some e → ∃ fault, e = .escaped (.unencodable fault)

namespace Run

variable {t : Target} {schemaFile : Option String} {files : FileTree} {service : Service}
  {c : Connection} {s : Schema} {r : Registry}

theorem flatMap_printedPoint {line : Text} (h : line.holdsSurrogates = false) :
    line.flatMap printedPoint = line.chars := by
  induction line with
  | nil => rfl
  | cons p line ih =>
    obtain ⟨hp, hline⟩ := Bool.or_eq_false_iff.mp h
    cases p with
    | char c => exact congrArg (c :: ·) (ih hline)
    | surrogate n => cases hp

/-- Lines that hold neither surrogates nor control sequences nor carriage returns are printed as
they are, each with a line feed behind it. -/
theorem printedLines_of_isPrintedWhole {lines : List Text}
    (h : ∀ line ∈ lines, line.isPrintedWhole = true) :
    printedLines lines = String.ofList (lines.flatMap fun line => line.chars ++ ['\n']) := by
  have hline : ∀ line ∈ lines, (Text.printed line).flatMap printedPoint ++ ['\n'] =
      line.chars ++ ['\n'] := by
    intro line hmem
    obtain ⟨hsurrogates, hcontrol, -⟩ := Text.isPrintedWhole_iff.mp (h line hmem)
    rw [Text.printed_of_not_holdsControl hcontrol, flatMap_printedPoint hsurrogates]
  have hreturn : '\r' ∉ lines.flatMap fun line => line.chars ++ ['\n'] := by
    intro hmem
    obtain ⟨line, hline, hmem⟩ := List.mem_flatMap.mp hmem
    obtain ⟨-, -, hnone⟩ := Text.isPrintedWhole_iff.mp (h line hline)
    rcases List.mem_append.mp hmem with hmem | hmem
    · obtain ⟨p, hp, hchar⟩ := List.mem_filterMap.mp hmem
      cases p with
      | char c =>
        cases hchar
        exact hnone hp
      | surrogate n => cases hchar
    · exact absurd hmem (by decide)
  unfold printedLines
  dsimp only
  rw [List.flatMap_congr hline, Text.joinLineEnds_of_notMem hreturn]

/-- Lines are printed up to the first one that holds a surrogate. -/
theorem fst_printable (lines : List Text) :
    (printable lines).1 = lines.takeWhile (!·.holdsSurrogates) := by
  induction lines with
  | nil => rfl
  | cons line lines ih =>
    rw [printable]
    cases hfault : Text.Unencodable.find? .utf8 (Text.printed line) with
    | none => simp [Text.find?_printed_eq_none_iff.mp hfault, ih]
    | some fault =>
      have hline : line.holdsSurrogates = true := by
        by_contra hline
        rw [Text.find?_printed_eq_none_iff.mpr (by simpa using hline)] at hfault
        cases hfault
      simp [hline]

/-- Printing ends without an error iff no line holds a surrogate. -/
theorem snd_printable_eq_none_iff (lines : List Text) :
    (printable lines).2 = none ↔ ∀ line ∈ lines, line.holdsSurrogates = false := by
  induction lines with
  | nil => simp [printable]
  | cons line lines ih =>
    rw [printable, List.forall_mem_cons, ← Text.find?_printed_eq_none_iff]
    cases Text.Unencodable.find? .utf8 (Text.printed line) with
    | none => simpa using ih
    | some fault => simp

/-- A run of `types` that gets a registry prints its first line and the summary. -/
theorem prints_types (hc : t.connection = .ok c)
    (hs : ((Provider.schema c files (schemaFile.map Path.ofText)).runOn service).1 = .ok s)
    (hr : s.compile .standard false = .ok r) :
    (types t schemaFile files service).Prints
      (Text.ofString (compilingLine t.url) :: summaryLines r t.verbose) := by
  have hrun := Provider.runOn_create_of_schema (Prod.ext hs rfl) hr
  unfold types
  rw [hc]
  dsimp only
  rw [hrun]
  refine ⟨fst_printable _, congrArg printedLines (fst_printable _), ?_, fun e he => ?_⟩
  · rw [← snd_printable_eq_none_iff]
    exact Option.map_eq_none_iff
  · obtain ⟨fault, -, rfl⟩ := Option.map_eq_some_iff.mp he
    exact ⟨fault, rfl⟩

/-- Lines that can be printed are. -/
theorem Prints.all {run : Run} {lines : List Text} (h : run.Prints lines)
    (hlines : ∀ line ∈ lines, line.holdsSurrogates = false) :
    run.lines = lines ∧ run.output = printedLines lines ∧ run.error = none := by
  have hall : lines.takeWhile (!·.holdsSurrogates) = lines :=
    List.takeWhile_eq_self_iff.mpr (by simpa using hlines)
  exact ⟨h.printed.trans hall, h.output.trans (congrArg printedLines hall), h.ended.mpr hlines⟩

theorem Prints.whole {run : Run} {lines : List Text} (h : run.Prints lines)
    (hlines : ∀ line ∈ lines, line.isPrintedWhole = true) :
    run.output = String.ofList (lines.flatMap fun line => line.chars ++ ['\n']) := by
  obtain ⟨-, houtput, -⟩ :=
    h.all fun line hline => (Text.isPrintedWhole_iff.mp (hlines line hline)).1
  rw [houtput, printedLines_of_isPrintedWhole hlines]

/-- The lines around a listing can be printed. -/
theorem forall_mem_summary {listing : List Text}
    (hlisting : ∀ line ∈ listing, line.holdsSurrogates = false) (url total : String)
    (count : Kind → String) :
    ∀ line ∈ Text.ofString url :: summaryKinds.map (fun k => Text.ofString (count k)) ++ listing ++
      [Text.ofString total], line.holdsSurrogates = false := by
  have hstring : ∀ s : String, (Text.ofString s).holdsSurrogates = false := fun s =>
    Text.holdsSurrogates_ofChars s.toList
  simp only [List.forall_mem_append, List.forall_mem_cons, List.forall_mem_map]
  exact ⟨⟨⟨hstring url, fun k _ => hstring (count k)⟩, hlisting⟩, hstring total, nofun⟩

/-- **The summary adds up.** Whatever schema a run of types comes to, fetched or loaded, each
generated type has one of the six kinds of named types. By these kinds the generated types are
parted in lists that keep their order, so that the counts sum up to the total. The run prints the
counts, a listing with an entry for each generated type if it is asked for one, and last the total;
a listing is broken off at the first line that cannot be encoded, because a name in it holds a
surrogate without its other half, and the run then ends with an error. The output is these lines
without their control sequences, and where they hold none just these lines. -/
theorem types_sumsUp (hc : t.connection = .ok c)
    (hs : ((Provider.schema c files (schemaFile.map Path.ofText)).runOn service).1 = .ok s)
    (hr : s.compile .standard false = .ok r) :
    ((∀ u ∈ r.generated, u.kind ∈ summaryKinds) ∧ (∀ k, (r.byKind k).Sublist r.generated) ∧
      summaryKinds.Pairwise (fun k k' => (r.byKind k).Disjoint (r.byKind k')) ∧
      (summaryKinds.flatMap r.byKind).Perm r.generated ∧ (r.generated.map (·.name)).Nodup ∧
      (summaryKinds.map fun k => (r.byKind k).length).sum = r.generated.length) ∧
    r.generated = (s.reserved .standard false).map Definition.image ∧
    ∃ listing lines,
      listing = (if t.verbose then (s.reserved .standard false).flatMap entry else []) ∧
      lines = Text.ofString s!"Compiling schema of {t.url}..." ::
          (summaryKinds.map fun k => Text.ofString s!"  {k.title}s: {(r.byKind k).length}") ++
        listing ++ [Text.ofString s!"Done! {r.generated.length} types compiled."] ∧
      (types t schemaFile files service).Prints lines ∧
      ((∀ line ∈ listing, line.holdsSurrogates = false) →
        (types t schemaFile files service).lines = lines ∧
          (types t schemaFile files service).output = printedLines lines ∧
          (types t schemaFile files service).error = none) ∧
      ((∀ line ∈ lines, line.isPrintedWhole = true) →
        (types t schemaFile files service).output =
          String.ofList (lines.flatMap fun line => line.chars ++ ['\n'])) := by
  have hprints := prints_types hc hs hr
  obtain ⟨-, rfl⟩ := Schema.compile_eq_ok_iff.mp hr
  have hgenerated : (s.image .standard false).generated =
      (s.reserved .standard false).map Definition.image := Schema.generated_image
  have hkinds : ∀ u ∈ (s.image .standard false).generated, u.kind ∈ summaryKinds := by
    rw [hgenerated]
    exact List.forall_mem_map.mpr fun d _ => kind_mem_summaryKinds d
  have hnames : ((s.image .standard false).generated.map (·.name)).Nodup := by
    rw [hgenerated, List.map_map]
    exact Schema.nodup_reserved s .standard false
  have hlisting : (s.image .standard false).generated.flatMap typeLines =
      (s.reserved .standard false).flatMap entry := by
    rw [hgenerated, List.flatMap_map]
    exact List.flatMap_congr fun d _ => typeLines_image d
  have hcounts : (kindCounts (s.image .standard false)).map (countLine ·) =
      summaryKinds.map fun k =>
        Text.ofString s!"  {k.title}s: {((s.image .standard false).byKind k).length}" :=
    List.map_map
  rw [summaryLines, hlisting, hcounts] at hprints
  refine ⟨⟨hkinds, fun k => List.filter_sublist,
    nodup_summaryKinds.imp fun h => Registry.disjoint_byKind h,
    Registry.perm_byKind nodup_summaryKinds hkinds, hnames,
    Registry.sum_length_byKind nodup_summaryKinds hkinds⟩, hgenerated, _, _, rfl, rfl, hprints,
    fun hlines => hprints.all (forall_mem_summary hlines _ _ _), hprints.whole⟩

/-! ## Runs on two schemas -/

/-- A tree with a document. -/
def documentTree (document : String) : FileTree where
  entries := [(["s.json"], .file (Text.Utf8.encode document.toList))]

/-- A target that is asked for a listing, and its connection. -/
def listingTarget : Target := ⟨"http://h", true, none, [], standardTimeout⟩

@[inherit_doc listingTarget]
def listingConnection : Connection := ⟨"http://h", .none, some standardTimeout⟩

/-- The schema of a document is loaded from its tree. -/
theorem schema_documentTree {document : String}
    (h : ((Json.ofText (.ofChars (Text.normalizeLines document.toList))).toOption.bind fun d =>
      (Schema.ofResponse d).toOption) = some s) :
    ((Provider.schema listingConnection (documentTree document)
      (Option.map Path.ofText (some "s.json"))).runOn (.ofOutcomes [])).1 = .ok s := by
  obtain ⟨d, hd, hs⟩ := Option.bind_eq_some_iff.mp h
  have hpath : Path.ofText "s.json" = ⟨["s.json"]⟩ := by decide +kernel
  have hload : Schema.load (documentTree document) ⟨["s.json"]⟩ = .ok s := by
    rw [Schema.load_of_read rfl, toOption_eq_some_iff.mp hd]
    dsimp only
    rw [toOption_eq_some_iff.mp hs]
    rfl
  change ((Dialogue.ofExcept (Schema.load _ (Path.ofText "s.json"))).runOn _).1 = _
  rw [Dialogue.runOn_ofExcept, hpath]
  exact hload

/-- A document with an object and a scalar, and the schema that it lists. -/
def pairDocument : String :=
  "\x7b\"__schema\":\x7b\"types\":[\x7b\"kind\":\"OBJECT\",\"name\":\"Person\",\"fields\":[" ++
    "\x7b\"name\":\"born\",\"type\":\x7b\"kind\":\"NON_NULL\"," ++
    "\"ofType\":\x7b\"kind\":\"SCALAR\",\"name\":\"Date\"\x7d\x7d\x7d]\x7d," ++
    "\x7b\"kind\":\"SCALAR\",\"name\":\"Date\"\x7d]\x7d\x7d"

@[inherit_doc pairDocument]
def pair : Schema where
  types :=
    [⟨"Person", none, .object [⟨"born", .nonNull (.named "Date"), none, [], false, none⟩] []⟩,
      ⟨"Date", none, .scalar⟩]
  roots := ⟨none, none, none⟩

/-- The lines for that schema, and the output that they make. -/
theorem types_sumsUp_pair :
    (types listingTarget (some "s.json") (documentTree pairDocument) (.ofOutcomes [])).lines =
      ["Compiling schema of http://h...", "  Objects: 1", "  Interfaces: 0", "  Unions: 0",
        "  Enums: 0", "  Input Objects: 0", "  Scalars: 1", "OBJECT Person", "    born: Date!",
        "SCALAR Date", "Done! 2 types compiled."].map Text.ofString ∧
    (types listingTarget (some "s.json") (documentTree pairDocument) (.ofOutcomes [])).output =
      "Compiling schema of http://h...\n  Objects: 1\n  Interfaces: 0\n  Unions: 0\n" ++
        "  Enums: 0\n  Input Objects: 0\n  Scalars: 1\nOBJECT Person\n    born: Date!\n" ++
        "SCALAR Date\nDone! 2 types compiled.\n" := by
  have hschema : ((Provider.schema listingConnection (documentTree pairDocument)
      (Option.map Path.ofText (some "s.json"))).runOn (.ofOutcomes [])).1 = .ok pair := by
    refine schema_documentTree ?_
    decide +kernel
  have hcompile : pair.compile .standard false = .ok (pair.image .standard false) := rfl
  obtain ⟨-, -, listing, lines, hlisting, hlines, -, hall, hwhole⟩ :=
    types_sumsUp (t := listingTarget) rfl hschema hcompile
  constructor
  · rw [(hall ?_).1, hlines, hlisting]
    · decide +kernel
    · rw [hlisting]
      decide +kernel
  · rw [hwhole ?_, hlines, hlisting]
    · decide +kernel
    · rw [hlines, hlisting]
      decide +kernel

/-- A document with an object whose name is half of a pair of surrogates, and the schema that it
lists. -/
def halfDocument : String :=
  "\x7b\"__schema\":\x7b\"types\":[\x7b\"kind\":\"OBJECT\",\"name\":\"\\udfff\"\x7d]\x7d\x7d"

@[inherit_doc halfDocument]
def half : Schema where
  types := [⟨[.ofNat 0xDFFF], none, .object [] []⟩]
  roots := ⟨none, none, none⟩

/-- A document with an object whose name begins with a control sequence, and the schema that it
lists. -/
def coloredDocument : String :=
  "\x7b\"__schema\":\x7b\"types\":[\x7b\"kind\":\"OBJECT\",\"name\":\"\\u001b[31mX\"\x7d]\x7d\x7d"

@[inherit_doc coloredDocument]
def colored : Schema where
  types := [⟨"\x1b[31mX", none, .object [] []⟩]
  roots := ⟨none, none, none⟩

/-- The first document is loaded and compiled, but neither the entry for its type nor the total is
printed. Of the second one the entry for its type is printed without the control sequence, under
another name than that of the type. -/
theorem not_types_sumsUp :
    ((Provider.schema listingConnection (documentTree halfDocument)
      (Option.map Path.ofText (some "s.json"))).runOn (.ofOutcomes [])).1 = .ok half ∧
    half.compile .standard false = .ok (half.image .standard false) ∧
    ((half.image .standard false).generated.map (·.name)) = [[.ofNat 0xDFFF]] ∧
    (types listingTarget (some "s.json") (documentTree halfDocument) (.ofOutcomes [])).lines =
      ["Compiling schema of http://h...", "  Objects: 1", "  Interfaces: 0", "  Unions: 0",
        "  Enums: 0", "  Input Objects: 0", "  Scalars: 0"].map Text.ofString ∧
    ¬(half.reserved .standard false).flatMap entry ++ [Text.ofString "Done! 1 types compiled."] <:+
      (types listingTarget (some "s.json") (documentTree halfDocument) (.ofOutcomes [])).lines ∧
    (types listingTarget (some "s.json") (documentTree halfDocument) (.ofOutcomes [])).error ≠
      none ∧
    ((Provider.schema listingConnection (documentTree coloredDocument)
      (Option.map Path.ofText (some "s.json"))).runOn (.ofOutcomes [])).1 = .ok colored ∧
    ((colored.image .standard false).generated.map (·.name)) = [Text.ofString "\x1b[31mX"] ∧
    (types listingTarget (some "s.json") (documentTree coloredDocument) (.ofOutcomes [])).output =
      "Compiling schema of http://h...\n  Objects: 1\n  Interfaces: 0\n  Unions: 0\n" ++
        "  Enums: 0\n  Input Objects: 0\n  Scalars: 0\nOBJECT X\nDone! 1 types compiled.\n" := by
  have hschema : ((Provider.schema listingConnection (documentTree halfDocument)
      (Option.map Path.ofText (some "s.json"))).runOn (.ofOutcomes [])).1 = .ok half := by
    refine schema_documentTree ?_
    rw [halfDocument, String.toList_ofList]
    decide +kernel
  have hcompile : half.compile .standard false = .ok (half.image .standard false) := rfl
  have hprints := prints_types (t := listingTarget) rfl hschema hcompile
  have hcolored : ((Provider.schema listingConnection (documentTree coloredDocument)
      (Option.map Path.ofText (some "s.json"))).runOn (.ofOutcomes [])).1 = .ok colored := by
    refine schema_documentTree ?_
    rw [coloredDocument, String.toList_ofList]
    decide +kernel
  have hcompiled : colored.compile .standard false = .ok (colored.image .standard false) := rfl
  have hshown := prints_types (t := listingTarget) rfl hcolored hcompiled
  refine ⟨hschema, hcompile, by decide, ?_, ?_, fun herror => ?_, hcolored, by decide, ?_⟩
  · rw [hprints.printed]
    decide +kernel
  · rw [hprints.printed]
    decide +kernel
  · exact absurd (hprints.ended.mp herror) (by decide +kernel)
  · rw [hshown.output]
    decide +kernel

end Run

end Command

end GraphBind
