import GraphBind.Proofs.Command.Generating
import GraphBind.Proofs.Models.TopLevel
import GraphBind.Proofs.Session.BindingInTurn
import GraphBind.Proofs.Text.Trimming

/-!
# What generating publishes

A run of `generate` with the built-in template publishes the queries that its options name, and
sends each of them first: an option gives a name and the text of a file (`OptionGives`), of several
options for one name the last one counts (`LastOfEach`), and a run that succeeds has posted these
texts, each accepted by an answer of its own, and lists them at the end of the module (`Publishes`).
`generate_publishes` says so of every parser of modules, and that nothing at all is sent where an
option is malformed, a file cannot be read or the caller cannot be identified.

What is listed is a statement of the module if nothing in front of it is open, which is so if the
registry and the URL fit (`Registry.Fits`). The URL is printed as it is, and one with three quotes
in it may open a literal that goes on into the text of a query: `unstated` is a module that lists
its query inside of such a literal and binds nothing to it.
-/

namespace GraphBind

/-! ## Options -/

namespace Command

/-- That an option `NAME=PATH`, split at the first equals sign, gives a query its name and its text:
that of the file, with the line ends read as line feeds. -/
inductive OptionGives (files : FileTree) (entry : String) : String × String → Prop where
  | intro {name path : List Char} {bytes : List UInt8} {text : List Char}
      (hentry : entry.toList = name ++ '=' :: path) (hfirst : '=' ∉ name) (hname : name ≠ [])
      (hpath : path ≠ []) (hfile : files.read (Path.ofText (String.ofList path)) = .ok bytes)
      (htext : Text.Utf8.decode bytes = .ok text) :
      OptionGives files entry (String.ofList name, String.ofList (Text.normalizeLines text))

namespace Run

variable {files : FileTree} {entry name path text : String} {entries : List String}
  {queries : List (String × String)}

/-- An entry is cut at its first equals sign, and neither side may be empty. -/
theorem readEntry?_eq_some_iff : readEntry? entry = some (name, path) ↔
    ∃ before after, entry.toList = before ++ '=' :: after ∧ '=' ∉ before ∧ before ≠ [] ∧
      after ≠ [] ∧ String.ofList before = name ∧ String.ofList after = path := by
  unfold readEntry?
  dsimp only
  constructor
  · intro h
    split at h
    · next mark c after hafter =>
      obtain rfl := Text.eq_of_dropWhile hafter
      split at h
      · cases h
      · next hname =>
        cases h
        obtain ⟨hsplit, hfirst⟩ := Text.splitAt_iff.mpr ⟨rfl, hafter⟩
        exact ⟨_, _, hsplit, hfirst, by simpa using hname, by simp, rfl, rfl⟩
    · cases h
  · rintro ⟨before, after, hsplit, hfirst, hname, hpath, rfl, rfl⟩
    obtain ⟨c, after, rfl⟩ := List.exists_cons_of_ne_nil hpath
    obtain ⟨hbefore, hafter⟩ := Text.splitAt_iff.mp ⟨hsplit, hfirst⟩
    rw [hbefore, hafter]
    simp [hname]

/-- A query is the text of its file, with each line end as a line feed. -/
theorem readQuery_eq_ok_iff : readQuery files path = .ok text ↔
    ∃ bytes cs, files.read (Path.ofText path) = .ok bytes ∧ Text.Utf8.decode bytes = .ok cs ∧
      String.ofList (Text.normalizeLines cs) = text := by
  unfold readQuery Schema.textOfFile
  cases files.read (Path.ofText path) with
  | error e =>
    cases e with
    | failed e => simp
    | escaped x => simp
  | ok bytes =>
    cases hcs : Text.Utf8.decode bytes with
    | error fault => simp [hcs]
    | ok cs => simp [hcs]

/-- What an option gives is what reading its entry and its file gives. -/
theorem optionGives_iff : OptionGives files entry (name, text) ↔
    ∃ path, readEntry? entry = some (name, path) ∧ readQuery files path = .ok text := by
  constructor
  · intro h
    cases h with
    | intro hentry hfirst hname hpath hfile htext =>
      exact ⟨_, readEntry?_eq_some_iff.mpr ⟨_, _, hentry, hfirst, hname, hpath, rfl, rfl⟩,
        readQuery_eq_ok_iff.mpr ⟨_, _, hfile, htext, rfl⟩⟩
  · rintro ⟨path, hentry, hread⟩
    obtain ⟨before, after, hsplit, hfirst, hname, hpath, rfl, rfl⟩ :=
      readEntry?_eq_some_iff.mp hentry
    obtain ⟨bytes, cs, hfile, htext, rfl⟩ := readQuery_eq_ok_iff.mp hread
    exact .intro hsplit hfirst hname hpath hfile htext

/-- The entries are read if each of them gives a query, and then as these. -/
theorem readEntries_eq_ok_iff : readEntries files entries = .ok queries ↔
    List.Forall₂ (OptionGives files) entries queries := by
  induction entries generalizing queries with
  | nil => simp [readEntries, eq_comm]
  | cons entry entries ih =>
    rw [List.forall₂_cons_left_iff, readEntries]
    constructor
    · intro h
      split at h
      · cases h
      · next name path hentry =>
        split at h
        · cases h
        · cases h
        · next text hread =>
          obtain ⟨rest, hrest, rfl⟩ := map_eq_ok_iff.mp h
          exact ⟨_, rest, optionGives_iff.mpr ⟨path, hentry, hread⟩, ih.mp hrest, rfl⟩
    · rintro ⟨⟨name, text⟩, rest, hgives, hrest, rfl⟩
      obtain ⟨path, hentry, hread⟩ := optionGives_iff.mp hgives
      rw [hentry]
      dsimp only
      rw [hread]
      dsimp only
      rw [ih.mpr hrest]
      rfl

theorem exists_of_readEntries (h : readEntries files entries = .ok queries)
    (hentry : entry ∈ entries) : ∃ query, OptionGives files entry query := by
  have hgives := readEntries_eq_ok_iff.mp h
  clear h
  induction hgives with
  | nil => cases hentry
  | cons hfirst _ ih =>
    rcases List.mem_cons.mp hentry with rfl | hentry
    · exact ⟨_, hfirst⟩
    · exact ih hentry

/-! ## The last option of a name -/

/-- That of named texts in order those are kept whose names do not come again, in the order in which
the names first come. -/
structure LastOfEach (queries last : List (String × String)) : Prop where
  names : Entries.keys last = (Entries.keys queries).eraseDups
  texts : ∀ name text, (name, text) ∈ last ↔ ∃ before after,
    queries = before ++ (name, text) :: after ∧ name ∉ Entries.keys after

/-- Of the options with one name the last one counts, in the place of the first. -/
theorem lastOfEach_ofList (queries : List (String × String)) :
    LastOfEach queries (Entries.ofList queries) := by
  refine ⟨Entries.keys_ofList, fun name text => ?_⟩
  have hmem : (name, text) ∈ Entries.ofList queries ↔
      Entries.get? name queries.reverse = some text := by
    rw [← Entries.get?_ofList]
    exact ⟨Entries.get?_of_mem Entries.nodup_keys_ofList, Entries.mem_of_get?⟩
  rw [hmem, Entries.get?_eq_some_iff]
  constructor
  · rintro ⟨after, before, hsplit, hafter⟩
    refine ⟨before.reverse, after.reverse, ?_, ?_⟩
    · rw [← List.reverse_reverse queries, hsplit]
      simp
    · simpa [Entries.keys] using hafter
  · rintro ⟨before, after, rfl, hafter⟩
    refine ⟨after.reverse, before.reverse, by simp, ?_⟩
    simpa [Entries.keys] using hafter

/-! ## Requests -/

/-- What is sent over a connection where queries are published: an introspection, unless a file
holds the schema, and then one POST for each query, in order, with its text, to which the service
answers by accepting it. -/
structure Sent (outcomes : List Outcome) (c : Connection) (schemaFile : Option Path)
    (queries : List (String × String)) (gets posts : List Request) : Prop where
  fetched : schemaFile = none → ∃ r, gets = [r] ∧ r.method = .get ∧ r.content = .introspection
  loaded : schemaFile ≠ none → gets = []
  posted : posts.map (·.content) = queries.map fun query => .query query.2
  methods : ∀ r ∈ posts, r.method = .post
  connections : ∀ r ∈ gets ++ posts, r.connection = c
  accepted : ∀ place < posts.length, ∃ o, outcomes[gets.length + place]? = some o ∧ o.Accepts

variable {outcomes : List Outcome} {c : Connection} {file : Option Path} {p : Provider}
  {bound : List (String × BoundQuery)} {σ σ' : Service} {tools : Toolchain}

/-- A provider is created with one introspection request, or none if a file is given. -/
theorem introspections_of_create
    (h : (Provider.create c .standard files file).runOn σ = (.ok p, σ')) :
    (file = none → ∃ r, c.introspections file = [r] ∧ r.method = .get ∧
      r.content = .introspection) ∧
    (file ≠ none → c.introspections file = []) := by
  constructor
  · rintro rfl
    obtain ⟨r, hr⟩ := (Provider.create_eq_ok (congrArg Prod.fst h)).2.2 rfl
    have hcontent := (Request.make_eq_ok hr).2.1
    exact ⟨r, Connection.requests_of_ok hr, by rw [Request.method, hcontent], hcontent⟩
  · intro hfile
    cases file with
    | none => exact absurd rfl hfile
    | some path => rfl

/-- An outcome that accepts was given with the run, since no other outcome accepts. -/
theorem exists_outcome_of_accepts {place : Nat}
    (h : ((Service.ofOutcomes outcomes).outcomeAt place).Accepts) :
    ∃ o, outcomes[place]? = some o ∧ o.Accepts := by
  rw [Service.outcomeAt, Service.ofOutcomes, List.getD_eq_getElem?_getD] at h
  cases ho : outcomes[place]? with
  | some o =>
    rw [ho] at h
    exact ⟨o, rfl, h⟩
  | none =>
    rw [ho] at h
    obtain ⟨status, body, members, houtcome, -⟩ := h
    cases houtcome

/-- What a provider and the binding of queries with it have sent. -/
theorem sent_of_prepared
    (hcreate : (Provider.create c .standard files file).runOn (.ofOutcomes outcomes) = (.ok p, σ))
    (hbind : (c.bindAll queries).runOn σ = (.ok bound, σ')) :
    ∃ gets posts, σ'.log = gets ++ posts ∧ Sent outcomes c file queries gets posts := by
  have hσ := Provider.runOn_create c .standard files file (.ofOutcomes outcomes)
  rw [hcreate] at hσ
  dsimp only at hσ
  obtain ⟨hfetched, hloaded⟩ := introspections_of_create hcreate
  obtain ⟨-, ⟨posts, hσ', hposted, hposts⟩, -⟩ := Connection.bindsAs_of_bindAll hbind
  obtain ⟨-, htexts, haccepted⟩ := Connection.bindAll_eq_ok (congrArg Prod.fst hbind)
  have hlength : posts.length = bound.length := by
    have hcontents := congrArg List.length hposted
    have hbound := congrArg List.length htexts
    simp only [List.length_map] at hcontents hbound
    rw [hcontents, hbound]
  refine ⟨c.introspections file, posts, ?_, hfetched, hloaded, ?_, ?_, ?_, ?_⟩
  · rw [hσ', hσ]
    rfl
  · rw [hposted, List.map_map]
    rfl
  · exact fun r hr => (hposts r hr).1
  · intro r hr
    rcases List.mem_append.mp hr with hr | hr
    · cases file with
      | none => exact (Connection.connection_of_mem_requests hr).1
      | some path => cases hr
    · exact (hposts r hr).2
  · intro place hplace
    rw [hlength] at hplace
    have hat := (haccepted place _ _ (List.getElem?_eq_getElem hplace)).2.outcome
    rw [hσ, Service.outcomeAt_receive] at hat
    exact exists_outcome_of_accepts hat

/-- The generator of a provider with bound queries has the queries that they are bound as. -/
theorem queries_generator (directory : Option String)
    (hbind : (c.bindAll queries).runOn σ = (.ok bound, σ')) :
    (p.generator bound directory).queries = queries := by
  obtain ⟨hbound, -, -⟩ := Connection.bindsAs_of_bindAll hbind
  change bound.map (fun e => (e.1, e.2.text)) = queries
  clear hbind
  induction hbound with
  | nil => rfl
  | cons hfirst _ ih => rw [List.map_cons, ih, hfirst.key, hfirst.text]

/-! ## Publishing -/

/-- What a run publishes: the output is a module that ends with the queries, and the service has
accepted each of them, and has got nothing but them and the introspection. The module states the
queries if the registry and the URL of the service fit into it. -/
structure Publishes {ε : Type} (files : FileTree) (outcomes : List Outcome) (c : Connection)
    (schemaFile : Option Path) (output : Path) (queries : List (String × String)) (run : Run ε) :
    Prop where
  module : ∃ p σ published text,
    (Provider.create c .standard files schemaFile).runOn (.ofOutcomes outcomes) = (.ok p, σ) ∧
    published.Perm queries ∧ Models.EndsWith published text ∧
    run.files.read output = .ok (Text.Utf8.encode text.toList) ∧
    (p.registry.Fits c.url →
      Models.StatesMapping (published.map Models.queryTexts) (Text.ofString text))
  requests : ∃ gets posts, run.service.log = gets ++ posts ∧
    Sent outcomes c schemaFile queries gets posts

/-- A module that is rendered for a provider states the queries if they fit. -/
theorem statesMapping_of_render {known : NativeScalars} {tree : FileTree}
    {directory : Option String} {text : String} (hknown : known.Dotted)
    (hcreate : (Provider.create c known files file).runOn σ = (.ok p, σ'))
    (hfits : p.registry.Fits c.url) (htemplate : Template.IsBuiltin tree directory)
    (hrender : (p.generator bound directory).render tree Template.builtinName tools = .ok text) :
    Models.StatesMapping
      (Models.sortQueries ((p.generator bound directory).queries.map Models.queryTexts))
      (Text.ofString text) := by
  obtain ⟨rfl, ⟨s, hcompile⟩, -⟩ := Provider.create_eq_ok (congrArg Prod.fst hcreate)
  exact Schema.statesMapping_of_toText hcompile hknown hfits
    (Generator.toText_of_render htemplate hrender)

/-- Where the caller cannot be identified or an option gives no query, nothing is done. -/
theorem service_generate_of_refused {target : Target} {output : String}
    {templateDirectory schemaFile : Option String} {service : Service}
    (h : (∃ e, target.connection = .error e) ∨
      ∃ entry ∈ entries, ∀ query, ¬OptionGives files entry query) :
    (generate target output entries templateDirectory schemaFile files service tools).service =
      service := by
  unfold generate
  split
  · rfl
  · next c hconnection =>
    split
    · rfl
    · next queries hqueries =>
      rcases h with ⟨e, he⟩ | ⟨entry, hentry, hnone⟩
      · rw [he] at hconnection
        cases hconnection
      · obtain ⟨query, hquery⟩ := exists_of_readEntries hqueries hentry
        exact absurd hquery (hnone query)

/-- **Only accepted queries are published.** Where a run of `generate` succeeds with the built-in
template, whatever its parser accepts, its options give names and texts, and with the last text of
each name it publishes just these queries: each was sent once, in the order in which the names first
come, and accepted, and the module lists them, in a statement of its own if the registry and the URL
fit. Where the words are refused, the caller cannot be identified or an option gives no query,
nothing has been sent at all. -/
theorem generate_publishes (files : FileTree) (outcomes : List Outcome) (words : List String)
    (tools : Toolchain) :
    (∀ target output queryFiles templateDirectory schemaFile,
      Invocation.ofWords files ("generate" :: words) =
        .ok (.generate target output queryFiles templateDirectory schemaFile) →
      ((ofWords files (.ofOutcomes outcomes) ("generate" :: words) tools).error = none →
        Template.IsBuiltin (files.makeDirectories (Path.ofText output).parent).1
          templateDirectory →
        ∃ c queries last, target.connection = .ok c ∧
          List.Forall₂ (OptionGives files) queryFiles queries ∧ LastOfEach queries last ∧
          Publishes files outcomes c (schemaFile.map Path.ofText) (Path.ofText output) last
            (ofWords files (.ofOutcomes outcomes) ("generate" :: words) tools)) ∧
      ((∃ e, target.connection = .error e) ∨
          (∃ entry ∈ queryFiles, ∀ query, ¬OptionGives files entry query) →
        (ofWords files (.ofOutcomes outcomes) ("generate" :: words) tools).service.log = [])) ∧
    ∀ e, Invocation.ofWords files ("generate" :: words) = .error e →
      (ofWords files (.ofOutcomes outcomes) ("generate" :: words) tools).service.log = [] := by
  unfold ofWords
  refine ⟨fun target output queryFiles templateDirectory schemaFile hwords => ?_, ?_⟩
  · rw [hwords]
    dsimp only [ofInvocation]
    refine ⟨fun hnone htemplate => ?_, fun hrefused => ?_⟩
    · cases generate_ends target output queryFiles templateDirectory schemaFile files
        (.ofOutcomes outcomes) tools with
      | early herror _ =>
        rw [herror] at hnone
        cases hnone
      | @late c queries p bound σ r hconnection hqueries hcompiled haccepted hwrite herror =>
        obtain ⟨text, rfl⟩ := herror.mp hnone
        obtain ⟨hrender, hwritten⟩ := Generator.write_eq_ok hwrite
        obtain ⟨published, hperm, hsorted, hends⟩ := Models.endsWith_of_render htemplate hrender
        have hstates (hfits : p.registry.Fits c.url) :=
          statesMapping_of_render NativeScalars.dotted_standard hcompiled hfits htemplate hrender
        rw [hsorted] at hstates
        rw [queries_generator templateDirectory haccepted] at hperm
        exact ⟨c, queries, _, hconnection, readEntries_eq_ok_iff.mp hqueries,
          lastOfEach_ofList queries,
          ⟨p, σ, published, text, hcompiled, hperm, hends, hwritten.read, hstates⟩,
          sent_of_prepared hcompiled haccepted⟩
    · rw [service_generate_of_refused hrefused]
      rfl
  · intro e hwords
    rw [hwords]
    cases e with
    | failed e => rfl
    | escaped x => rfl

/-! ## A run -/

/-- A tree with a schema that lists no types and with a query. -/
def plainTree : FileTree where
  entries := (["q"], .file [0x7B, 0x20, 0x61, 0x20, 0x7D]) :: Session.plainSchema.entries

/-- Words that ask for a module with that query, whose name another option has given before. -/
def plainWords : List String :=
  ["http://h", "-o", "o", "-f", "a=s.json", "-f", "a=q", "--schema-file", "s.json"]

@[inherit_doc plainWords]
def plainTarget : Target := ⟨"http://h", false, none, [], standardTimeout⟩

/-- What is made of that schema: the scalars that every schema knows. -/
def plainProvider : Provider where
  registry :=
    { types := NativeScalars.standard.map fun (name, t) => (name, .ofNative name t)
      roots := ⟨none, none, none⟩ }
  connection := { Connection.plainConnection with timeout := some standardTimeout }

/-- The query as it is bound, and the generator of the module with it. -/
def plainBound : List (String × BoundQuery) :=
  [("a", ⟨"\x7b a \x7d", plainProvider.connection, some "a"⟩)]

@[inherit_doc plainBound]
def plainGenerator : Generator := plainProvider.generator plainBound none

theorem create_plainProvider :
    (Provider.create plainProvider.connection .standard plainTree
      (some (Path.ofText "s.json"))).runOn (.ofOutcomes Session.plainOutcomes) =
        (.ok plainProvider, .ofOutcomes Session.plainOutcomes) := by
  have hload : Schema.load plainTree (Path.ofText "s.json") = .ok ⟨[], ⟨none, none, none⟩⟩ :=
    toOption_eq_some_iff.mp (by decide +kernel)
  exact Provider.runOn_create_of_load hload rfl

theorem bindAll_plainProvider : ∃ σ,
    (plainProvider.connection.bindAll [("a", "\x7b a \x7d")]).runOn
      (.ofOutcomes Session.plainOutcomes) = (.ok plainBound, σ) := by
  have hfirst := Connection.bind_plainConnection (some standardTimeout) "a"
  rw [Connection.runOn_bindAll_cons]
  rcases hrun : (plainProvider.connection.bind "\x7b a \x7d" (some "a")).runOn
      (.ofOutcomes Session.plainOutcomes) with ⟨e | q, σ⟩
  · cases hfirst.symm.trans (congrArg Prod.fst hrun)
  · cases hfirst.symm.trans (congrArg Prod.fst hrun)
    exact ⟨σ, rfl⟩

theorem surface_plainGenerator : plainGenerator.surface =
    ⟨"http://h", [], [], [], [], [], [("a", "\x7b a \x7d")]⟩ := by
  have hsort : Models.sortQueries [Models.queryTexts ("a", "\x7b a \x7d")] =
      [Models.queryTexts ("a", "\x7b a \x7d")] := List.mergeSort_singleton ..
  have himports : Models.imports plainProvider.registry = [] := by decide +kernel
  have hgenerated : plainProvider.registry.generated = [] := by decide +kernel
  change Models.Surface.of plainProvider.registry [("a", "\x7b a \x7d")] "http://h" = _
  unfold Models.Surface.of Registry.byKind
  rw [List.map_singleton, hsort, himports, hgenerated]
  rfl

theorem render_plainGenerator :
    ∃ text, plainGenerator.render plainTree Template.builtinName = .ok text := by
  refine Generator.exists_render_of_isOk (Template.isBuiltin_none _) ?_
  dsimp only [Toolchain.literal]
  rw [surface_plainGenerator]
  decide +kernel

theorem write_plainGenerator :
    ∃ files text, plainGenerator.write plainTree (Path.ofText "o") = (files, .ok text) := by
  obtain ⟨text, htext⟩ := render_plainGenerator
  have hpath : Path.ofText "o" = ⟨["o"]⟩ := by decide +kernel
  have hdirectory : Template.directory? plainTree plainGenerator.templateDirectory = .ok none :=
    rfl
  have hmade : plainTree.makeDirectories (Path.parent ⟨["o"]⟩) = (plainTree, .ok ()) := rfl
  have hwrite : plainTree.write ⟨["o"]⟩ (Text.Utf8.encode text.toList) =
      (plainTree.put ["o"] (.file (Text.Utf8.encode text.toList)), .ok ()) := rfl
  refine ⟨plainTree.put ["o"] (.file (Text.Utf8.encode text.toList)), text, ?_⟩
  unfold Generator.write
  rw [hpath, hdirectory]
  dsimp only
  rw [hmade]
  dsimp only
  rw [htext]
  dsimp only
  rw [hwrite]

theorem generate_plainTarget :
    (generate plainTarget "o" ["a=s.json", "a=q"] none (some "s.json") plainTree
      (.ofOutcomes Session.plainOutcomes) .literal).error = none := by
  have hconnection : plainTarget.connection = .ok plainProvider.connection := rfl
  have hread : readEntries plainTree ["a=s.json", "a=q"] =
      .ok [("a", "\x7b\"__schema\": \x7b\x7d\x7d"), ("a", "\x7b a \x7d")] :=
    toOption_eq_some_iff.mp (by decide +kernel)
  have hlast : Entries.ofList
      [("a", "\x7b\"__schema\": \x7b\x7d\x7d"), ("a", "\x7b a \x7d")] =
        [("a", "\x7b a \x7d")] := rfl
  obtain ⟨σ, hbind⟩ := bindAll_plainProvider
  obtain ⟨files, text, hwrite⟩ := write_plainGenerator
  unfold generate
  rw [hconnection]
  dsimp only
  rw [hread]
  dsimp only
  rw [hlast, Option.map_some, prepare_eq_ok_iff.mpr ⟨_, create_plainProvider, hbind⟩]
  dsimp only
  unfold plainGenerator at hwrite
  rw [hwrite]

theorem fits_plainProvider : plainProvider.registry.Fits "http://h" where
  harmless := by
    rw [String.toList_ofList]
    exact .of_plain (by decide)
  bindable := by decide +kernel

/-- A module with the query is published and states it, and nothing is sent where an option has no
path or where there is no URL. -/
theorem generate_publishes_plainWords :
    (∃ c queries last, plainTarget.connection = .ok c ∧
      List.Forall₂ (OptionGives plainTree) ["a=s.json", "a=q"] queries ∧
      LastOfEach queries last ∧
      Publishes plainTree Session.plainOutcomes c (some (Path.ofText "s.json")) (Path.ofText "o")
        last (ofWords plainTree (.ofOutcomes Session.plainOutcomes) ("generate" :: plainWords)) ∧
      ∃ (published : List (String × String)) (text : String), published.Perm last ∧
        (ofWords plainTree (.ofOutcomes Session.plainOutcomes)
          ("generate" :: plainWords)).files.read (Path.ofText "o") =
            .ok (Text.Utf8.encode text.toList) ∧
        Models.StatesMapping (published.map Models.queryTexts) (Text.ofString text)) ∧
    (ofWords plainTree (.ofOutcomes Session.plainOutcomes)
      ["generate", "http://h", "-o", "o", "-f", "a"]).service.log = [] ∧
    (ofWords plainTree (.ofOutcomes Session.plainOutcomes) ["generate"]).service.log = [] := by
  have hwords : Invocation.ofWords plainTree ("generate" :: plainWords) =
      .ok (.generate plainTarget "o" ["a=s.json", "a=q"] none (some "s.json")) :=
    toOption_eq_some_iff.mp (by decide +kernel)
  have hnone : (ofWords plainTree (.ofOutcomes Session.plainOutcomes)
      ("generate" :: plainWords)).error = none := by
    unfold ofWords
    rw [hwords]
    exact generate_plainTarget
  have hnoPath : Invocation.ofWords plainTree ["generate", "http://h", "-o", "o", "-f", "a"] =
      .ok (.generate plainTarget "o" ["a"] none none) :=
    toOption_eq_some_iff.mp (by decide +kernel)
  have hgives : ∀ query, ¬OptionGives plainTree "a" query := by
    rintro _ ⟨hentry, -, -, -, -, -⟩
    have hmark : '=' ∈ "a".toList := by
      rw [hentry]
      simp
    exact absurd hmark (by decide)
  have hnoUrl : Invocation.ofWords plainTree ["generate"] = .error (.failed .missingUrl) := rfl
  refine ⟨?_, ?_, ?_⟩
  · obtain ⟨c, queries, last, hconnection, hqueries, hlast, hpublishes⟩ :=
      ((generate_publishes plainTree Session.plainOutcomes plainWords .literal).1
        _ _ _ _ _ hwords).1 hnone (Template.isBuiltin_none _)
    obtain ⟨p, σ, published, text, hcreate, hperm, -, hread, hstates⟩ := hpublishes.module
    have hc : plainTarget.connection = .ok plainProvider.connection := rfl
    obtain rfl := Except.ok.inj (hconnection.symm.trans hc)
    cases hcreate.symm.trans create_plainProvider
    exact ⟨_, queries, last, hconnection, hqueries, hlast, hpublishes, published, text, hperm,
      hread, hstates fits_plainProvider⟩
  · exact ((generate_publishes plainTree Session.plainOutcomes _ .literal).1
      _ _ _ _ _ hnoPath).2 (.inr ⟨"a", List.mem_cons_self, hgives⟩)
  · exact (generate_publishes plainTree Session.plainOutcomes [] .literal).2 _ hnoUrl

end Run

end Command

end GraphBind
