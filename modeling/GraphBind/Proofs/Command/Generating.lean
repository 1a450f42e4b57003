import GraphBind.Command.Run
import GraphBind.Proofs.Checks
import GraphBind.Proofs.Exchange.Sending
import GraphBind.Proofs.FileTree

/-!
# What generating does to the file tree

A run of `generate` goes through stages: the words are read, the caller is identified, the files of
queries are read, the schema is compiled, the queries are bound, and only then is a module written.
`Prepared` says that everything before the writing has come about. `generate_keeps` says what a run
leaves behind, with whatever toolchain: if it fails, every file as it was, with new directories
above the output at most and those only once everything is prepared; if it succeeds, the rendered
module in the output file.
-/

namespace GraphBind

namespace Generator

variable {g : Generator} {t t' : FileTree} {output : Path} {tools : Toolchain}

/-- A module that is not written leaves directories above its place at most. -/
theorem write_eq_error {e : Failure (WriteError tools.Error)}
    (h : g.write t output tools = (t', .error e)) :
    FileTree.MadeWay output.parent t t' := by
  have hway := FileTree.madeWay_makeDirectories t output.parent
  unfold write at h
  split at h
  · cases h
    exact .refl _ t
  · split at h
    · next t₁ e₁ hmade =>
      cases h
      rw [hmade] at hway
      exact hway
    · next t₁ hmade =>
      rw [hmade] at hway
      split at h
      · cases h
        exact hway
      · split at h
        · next t₂ e₂ hwrite =>
          cases h
          rw [FileTree.write_eq_error hwrite]
          exact hway
        · cases h

/-- A module that is written is the rendered one. -/
theorem write_eq_ok {text : String} (h : g.write t output tools = (t', .ok text)) :
    g.render (t.makeDirectories output.parent).1 Template.builtinName tools = .ok text ∧
      FileTree.Written output (Text.Utf8.encode text.toList) t t' := by
  have hway := FileTree.madeWay_makeDirectories t output.parent
  unfold write at h
  split at h
  · cases h
  · split at h
    · cases h
    · next t₁ hmade =>
      rw [hmade] at hway ⊢
      split at h
      · cases h
      · next text' hrender =>
        split at h
        · cases h
        · next t₂ hwrite =>
          cases h
          exact ⟨hrender, FileTree.written_of_write hway hwrite⟩

end Generator

namespace Command

variable {files : FileTree} {service : Service} {words : List String} {tools : Toolchain}

/-! ## Words -/

theorem Invocation.ofWords_generate (files : FileTree) (words : List String) :
    Invocation.ofWords files ("generate" :: words) =
      Invocation.ofCommandWords files .generate words := by
  rfl

/-- The words of `generate` ask for help or for a generation. -/
theorem Invocation.ofCommandWords_generate {i : Invocation}
    (h : Invocation.ofCommandWords files .generate words = .ok i) :
    i = .help true ∨ ∃ target output queryFiles templateDirectory schemaFile,
      i = .generate target output queryFiles templateDirectory schemaFile := by
  unfold ofCommandWords at h
  obtain ⟨r, hr, h⟩ := bind_eq_ok_iff.mp h
  split at h
  · cases h
    exact .inl rfl
  · right
    obtain ⟨-, -, h⟩ := bind_eq_ok_iff.mp h
    split at h
    · cases h
    · next url extra _ =>
      obtain ⟨i', hi, h⟩ := bind_eq_ok_iff.mp h
      split at h
      · cases h
        have hsettings := mapError_eq_ok_iff.mp hi
        unfold ofSettings at hsettings
        dsimp only at hsettings
        split at hsettings
        · cases hsettings
        · cases hsettings
          exact ⟨_, _, _, _, _, rfl⟩
      · cases h

/-! ## Stages -/

/-- That the words of a run of `generate` ask for a module at a path and that all there is to write
is there: the caller is identified, the files of queries are read, the schema is compiled, every
query is accepted, and the module is to be made of these. -/
inductive Prepared (files : FileTree) (service : Service) (words : List String) :
    Path → Generator → Prop where
  | intro {target : Target} {output : String} {queryFiles : List String}
      {templateDirectory schemaFile : Option String} {c : Connection}
      {queries : List (String × String)} {p : Provider} {bound : List (String × BoundQuery)}
      {σ σ' : Service}
      (hwords : Invocation.ofWords files ("generate" :: words) =
        .ok (.generate target output queryFiles templateDirectory schemaFile))
      (hconnection : target.connection = .ok c)
      (hqueries : Run.readEntries files queryFiles = .ok queries)
      (hcompiled : (Provider.create c .standard files (schemaFile.map Path.ofText)).runOn service =
        (.ok p, σ))
      (haccepted : (c.bindAll (Entries.ofList queries)).runOn σ = (.ok bound, σ')) :
      Prepared files service words (Path.ofText output) (p.generator bound templateDirectory)

namespace Run

/-- What comes before the rendering succeeds iff creating and binding do, one after the other. -/
theorem prepare_eq_ok_iff {c : Connection} {file : Option Path} {queries : List (String × String)}
    {p : Provider} {bound : List (String × BoundQuery)} {σ' : Service} :
    (prepare c files file queries).runOn service = (.ok (p, bound), σ') ↔
      ∃ σ, (Provider.create c .standard files file).runOn service = (.ok p, σ) ∧
        (c.bindAll queries).runOn σ = (.ok bound, σ') := by
  unfold prepare
  constructor
  · intro h
    rw [Dialogue.runOn_bind] at h
    rcases hcreate : (Provider.create c .standard files file).runOn service with ⟨e | p', σ⟩
    · rw [hcreate] at h
      cases h
    · rw [hcreate] at h
      dsimp only at h
      rw [Dialogue.runOn_bind] at h
      rcases hbind : (c.bindAll queries).runOn σ with ⟨e | bound', σ''⟩
      · rw [hbind] at h
        cases h
      · rw [hbind] at h
        cases h
        exact ⟨σ, rfl, hbind⟩
  · rintro ⟨σ, hcreate, hbind⟩
    rw [Dialogue.runOn_bind, hcreate]
    dsimp only
    rw [Dialogue.runOn_bind, hbind]
    rfl

section Generate

/-- How a run of `generate` ends: before anything is written, or by the writing. -/
inductive GenerateEnds (target : Target) (output : String) (queryFiles : List String)
    (templateDirectory schemaFile : Option String) (files : FileTree) (service : Service)
    (tools : Toolchain) : Run tools.Error → Prop where
  | early {run : Run tools.Error} {e : RunError tools.Error} (herror : run.error = some e)
      (hfiles : run.files = files) :
    GenerateEnds target output queryFiles templateDirectory schemaFile files service tools run
  | late {run : Run tools.Error} {c : Connection} {queries : List (String × String)} {p : Provider}
      {bound : List (String × BoundQuery)} {σ : Service}
      {r : Except (Failure (WriteError tools.Error)) String}
      (hconnection : target.connection = .ok c)
      (hqueries : readEntries files queryFiles = .ok queries)
      (hcompiled : (Provider.create c .standard files (schemaFile.map Path.ofText)).runOn service =
        (.ok p, σ))
      (haccepted : (c.bindAll (Entries.ofList queries)).runOn σ = (.ok bound, run.service))
      (hwrite : (p.generator bound templateDirectory).write files (Path.ofText output) tools =
        (run.files, r))
      (herror : run.error = none ↔ ∃ text, r = .ok text) :
    GenerateEnds target output queryFiles templateDirectory schemaFile files service tools run

/-- A generation ends early, with the files as they were, or with the writing of the module. -/
theorem generate_ends (target : Target) (output : String) (queryFiles : List String)
    (templateDirectory schemaFile : Option String) (files : FileTree) (service : Service)
    (tools : Toolchain) :
    GenerateEnds target output queryFiles templateDirectory schemaFile files service tools
      (generate target output queryFiles templateDirectory schemaFile files service tools) := by
  unfold generate
  split
  · exact .early rfl rfl
  · next c hconnection =>
    split
    · exact .early rfl rfl
    · next queries hqueries =>
      dsimp only
      split
      · exact .early rfl rfl
      · next p bound σ' hprepared =>
        obtain ⟨σ, hcreate, hbind⟩ := prepare_eq_ok_iff.mp hprepared
        split
        · next t e hwrite =>
          exact .late hconnection hqueries hcreate hbind hwrite (by simp)
        · next t x hwrite =>
          exact .late hconnection hqueries hcreate hbind hwrite (by simp)
        · next t text hwrite =>
          exact .late hconnection hqueries hcreate hbind hwrite (by simp)

end Generate

/-- What a run of `generate` leaves behind of the tree. -/
structure GenerateKeeps (files : FileTree) (service : Service) (words : List String)
    (tools : Toolchain) (run : Run tools.Error) : Prop where
  /-- A run that fails leaves every file as it was, and no new one. -/
  kept : run.error ≠ none → ∀ place content,
    run.files.node? place = some (.file content) ↔ files.node? place = some (.file content)
  /-- If it changes the tree at all, then by directories above the output that were missing, and
  only once the schema is compiled and every query is accepted. -/
  unwritten : run.error ≠ none → run.files = files ∨ ∃ output g,
    Prepared files service words output g ∧ FileTree.MadeWay output.parent files run.files
  /-- A run that succeeds leaves the rendered module in the output file, and everything else as it
  was but for such directories; unless it was asked for help and leaves all as it was. -/
  written : run.error = none →
    (Invocation.ofWords files ("generate" :: words) = .ok (.help true) ∧ run.files = files) ∨
    ∃ output g text, Prepared files service words output g ∧
      g.render (files.makeDirectories output.parent).1 Template.builtinName tools = .ok text ∧
      FileTree.Written output (Text.Utf8.encode text.toList) files run.files

namespace GenerateKeeps

variable {run : Run tools.Error}

/-- A run that fails before anything is written. -/
theorem of_early {e : RunError tools.Error} (herror : run.error = some e)
    (hfiles : run.files = files) : GenerateKeeps files service words tools run := by
  refine ⟨fun _ place content => by rw [hfiles], fun _ => .inl hfiles, fun h => ?_⟩
  rw [herror] at h
  cases h

/-- Each way to end keeps what a run of `generate` has to keep. -/
theorem of_ends {target : Target} {output : String} {queryFiles : List String}
    {templateDirectory schemaFile : Option String}
    (hwords : Invocation.ofWords files ("generate" :: words) =
      .ok (.generate target output queryFiles templateDirectory schemaFile))
    (h : GenerateEnds target output queryFiles templateDirectory schemaFile files service tools
      run) :
    GenerateKeeps files service words tools run := by
  cases h with
  | early herror hfiles => exact .of_early herror hfiles
  | @late _ _ _ _ _ r hconnection hqueries hcompiled haccepted hwrite herror =>
    have hprepared := Prepared.intro hwords hconnection hqueries hcompiled haccepted
    cases r with
    | error e =>
      have hway := Generator.write_eq_error hwrite
      refine ⟨fun _ place content => hway.file_iff, fun _ => .inr ⟨_, _, hprepared, hway⟩, ?_⟩
      intro hnone
      obtain ⟨text, htext⟩ := herror.mp hnone
      cases htext
    | ok text =>
      have hnone := herror.mpr ⟨text, rfl⟩
      obtain ⟨hrender, hwritten⟩ := Generator.write_eq_ok hwrite
      exact ⟨fun h => absurd hnone h, fun h => absurd hnone h,
        fun _ => .inr ⟨_, _, text, hprepared, hrender, hwritten⟩⟩

end GenerateKeeps

/-- **A failing run destroys nothing.** Whatever the words, the tree and the service are, whatever
an engine makes of the templates and whatever a parser accepts, a run of `generate` keeps every file
unless it succeeds, and then it writes one: the rendered module. -/
theorem generate_keeps (files : FileTree) (service : Service) (words : List String)
    (tools : Toolchain) :
    GenerateKeeps files service words tools
      (ofWords files service ("generate" :: words) tools) := by
  unfold ofWords
  cases hwords : Invocation.ofWords files ("generate" :: words) with
  | error e =>
    cases e with
    | failed e => exact .of_early rfl rfl
    | escaped x => exact .of_early rfl rfl
  | ok i =>
    rw [Invocation.ofWords_generate] at hwords
    rcases Invocation.ofCommandWords_generate hwords with rfl | ⟨target, output, queryFiles,
      templateDirectory, schemaFile, rfl⟩
    · exact ⟨fun h => absurd rfl h, fun h => absurd rfl h, fun _ => .inl ⟨hwords, rfl⟩⟩
    · exact .of_ends hwords (generate_ends ..)

end Run

end Command

end GraphBind
