import GraphBind.Command.Invocation
import GraphBind.Session.Provider
import GraphBind.Text.Identifier

/-!
# Runs

What an invocation does: the lines it prints, the tree it leaves, the requests it makes, and the
error that ended it, if one did. Only `generate` changes the tree, and it does so after the schema
is compiled and all queries are bound; it alone works with a toolchain.

Where a text is printed its control sequences are left out. A control sequence is an escape
character and an opening bracket, then digits, semicolons and question marks, then a letter.
-/

/-! ## Printed texts -/

namespace GraphBind.Text

/-- A character between the bracket of a control sequence and its letter. -/
def isControlParameter (c : Char) : Bool := isAsciiDigit c || c == ';' || c == '?'

/-- What follows the control sequence that a text begins with. -/
def afterControl? : Text → Option Text
  | .char '\x1b' :: .char '[' :: cs =>
    match cs.dropWhile (·.satisfies isControlParameter) with
    | c :: rest => if c.satisfies isAsciiLetter then some rest else none
    | [] => none
  | _ => none

theorem length_afterControl? {cs rest : Text} (h : afterControl? cs = some rest) :
    rest.length < cs.length := by
  unfold afterControl? at h
  split at h
  · rename_i cs
    have shorter :=
      (List.dropWhile_suffix (CodePoint.satisfies isControlParameter) (l := cs)).length_le
    split at h
    · rename_i c tail found
      split at h
      · obtain rfl := Option.some.inj h
        simp only [found, List.length_cons] at shorter ⊢
        omega
      · exact absurd h (by simp)
    · exact absurd h (by simp)
  · exact absurd h (by simp)

/-- A text as it is printed: without its control sequences. -/
def printed : Text → Text
  | [] => []
  | c :: cs =>
    match _found : afterControl? (c :: cs) with
    | some rest => printed rest
    | none => c :: printed cs
termination_by cs => cs.length
decreasing_by
  · exact length_afterControl? _found
  · simp

end GraphBind.Text

/-! ## Runs -/

namespace GraphBind.Command

/-- What ended a run. A toolchain may have errors of its own. -/
inductive RunError (ε : Type := Empty) where
  | usage (error : UsageError)
  | compilation (error : CompilationError)
  | escaped (error : Escape)
  | unreadable (error : FileError)
  | unwritten (error : WriteError ε)
  deriving Repr

/-- An error that is none of a toolchain, among those with any toolchain. -/
def RunError.widen {ε : Type} : RunError → RunError ε
  | usage error => usage error
  | compilation error => compilation error
  | escaped error => escaped error
  | unreadable error => unreadable error
  | unwritten error => unwritten error.widen

/-- A run that has ended. -/
structure Run (ε : Type := Empty) where
  lines : List Text
  error : Option (RunError ε)
  files : FileTree
  service : Service
  deriving Repr

/-- A run without a toolchain, among those with any. -/
def Run.widen {ε : Type} (r : Run) : Run ε := { r with error := r.error.map .widen }

/-! ## What is shared -/

/-- How the caller is identified. An empty token is none. -/
def identify (bearer : Option String) (headers : List String) : Except UsageError Auth :=
  match bearer.filter (· != ""), headers with
  | some _, _ :: _ => .error .twoIdentities
  | some token, [] => .ok (.bearer token)
  | none, [] => .ok .none
  | none, headers => (Auth.ofPairs headers).mapError .badHeader

/-- The connection to a target. -/
def Target.connection (t : Target) : Except RunError Connection :=
  match identify t.bearer t.headers with
  | .ok auth => .ok { url := t.url, auth, timeout := some t.timeout }
  | .error e => .error (.usage e)

/-- The error of a run that a failure of an operation is. -/
def RunError.ofFailure : Failure CompilationError → RunError
  | .failed e => .compilation e
  | .escaped x => .escaped x

/-- The text of a file that holds a query. -/
def readQuery (files : FileTree) (path : String) : Except RunError String :=
  match files.read (Path.ofText path) with
  | .error (.failed e) => .error (.unreadable e)
  | .error (.escaped x) => .error (.escaped x)
  | .ok bytes =>
    match Schema.textOfFile bytes with
    | .ok text => .ok (String.ofList text)
    | .error x => .error (.escaped x)

/-- The line that says that work on a service begins. -/
def compilingLine (url : String) : String := s!"Compiling schema of {url}..."

/-! ## Summaries of types -/

/-- The kinds that a summary counts. -/
def summaryKinds : List Kind := [.object, .interface, .union, .enumeration, .inputObject, .scalar]

/-- How many types of each kind a registry holds. -/
def kindCounts (r : Registry) : List (Kind × Nat) :=
  summaryKinds.map fun k => (k, (r.byKind k).length)

/-- The line for the number of types of a kind. -/
def countLine : Kind × Nat → Text
  | (k, n) => s!"  {k.title}s: {n}"

/-- The lines for a type: one for the type and one for each of its fields. -/
def typeLines (t : CompiledType) : List Text :=
  (t.kind.name ++ " " ++ t.name) :: t.shape.map fun (name, type) => "    " ++ name ++ ": " ++ type

/-- The last line of a summary. -/
def totalLine (r : Registry) : String := s!"Done! {r.generated.length} types compiled."

/-- The lines of a summary. -/
def summaryLines (r : Registry) (verbose : Bool) : List Text :=
  (kindCounts r).map (countLine ·) ++ (if verbose then r.generated.flatMap typeLines else []) ++
    [Text.ofString (totalLine r)]

/-! ## Commands -/

namespace Run

/-- A run that ends before it does anything. -/
def refuse {ε : Type} (files : FileTree) (service : Service) (error : RunError ε) : Run ε :=
  ⟨[], some error, files, service⟩

/-- The lines up to the first one that cannot be printed, and what is wrong with that one. -/
def printable : List Text → List Text × Option Text.Unencodable
  | [] => ([], none)
  | line :: lines =>
    match Text.Unencodable.find? .utf8 (Text.printed line) with
    | some fault => ([], some fault)
    | none =>
      let (rest, fault) := printable lines
      (line :: rest, fault)

/-- Compiles the types of a service and sums them up. -/
def types (t : Target) (schemaFile : Option String) (files : FileTree) (service : Service) : Run :=
  match t.connection with
  | .error e => refuse files service e
  | .ok c =>
    let begun := compilingLine t.url
    match (Provider.create c .standard files (schemaFile.map Path.ofText)).runOn service with
    | (.error e, service) => ⟨[begun], some (.ofFailure e), files, service⟩
    | (.ok p, service) =>
      let (lines, fault) := printable (begun :: summaryLines p.registry t.verbose)
      ⟨lines, fault.map fun x => .escaped (.unencodable x), files, service⟩

/-- The query to check: the one given, or the text of the file given. Exactly one has to be, and
an empty one is not. -/
def queryToCheck (query queryFile : Option String) (files : FileTree) : Except RunError String :=
  match query.filter (· != ""), queryFile.filter (· != "") with
  | some text, none => .ok text
  | none, some path => readQuery files path
  | _, _ => .error (.usage .notOneQuery)

/-- The line for a query that the service accepts. -/
def acceptedLine (q : BoundQuery) (url : String) : String :=
  let name := CompilationError.shownName (q.name.filter (· != ""))
  s!"OK: query {name} accepted by {url}"

/-- Binds one query. -/
def check (t : Target) (query queryFile : Option String) (files : FileTree) (service : Service) :
    Run :=
  match queryToCheck query queryFile files with
  | .error e => refuse files service e
  | .ok text =>
    match t.connection with
    | .error e => refuse files service e
    | .ok c =>
      match (c.bind text none).runOn service with
      | (.error e, service) => ⟨[], some (.ofFailure e), files, service⟩
      | (.ok q, service) => ⟨[acceptedLine q t.url], none, files, service⟩

/-- The name and the path that an entry `NAME=PATH` writes. -/
def readEntry? (entry : String) : Option (String × String) :=
  let name := entry.toList.takeWhile (· != '=')
  match entry.toList.dropWhile (· != '=') with
  | _ :: c :: path =>
    if name.isEmpty then none else some (String.ofList name, String.ofList (c :: path))
  | _ => none

/-- The named queries of the files that entries lead to. -/
def readEntries (files : FileTree) : List String → Except RunError (List (String × String))
  | [] => .ok []
  | entry :: entries =>
    match readEntry? entry with
    | none => .error (.usage (.badQueryEntry entry))
    | some (name, path) =>
      match readQuery files path with
      | .error (.unreadable e) => .error (.usage (.unreadableQuery path e.fault))
      | .error e => .error e
      | .ok text => (readEntries files entries).map ((name, text) :: ·)

/-- Makes a provider and binds queries with it. -/
def prepare (c : Connection) (files : FileTree) (schemaFile : Option Path)
    (queries : List (String × String)) :
    Dialogue CompilationError (Provider × List (String × BoundQuery)) := do
  let p ← Provider.create c .standard files schemaFile
  let bound ← c.bindAll queries
  return (p, bound)

/-- The lines for what is going to be generated. -/
def sizeLines (p : Provider) (bound : List (String × BoundQuery)) : List Text :=
  [s!"  Types: {p.registry.generated.length}", s!"  Queries: {bound.length}"]

/-- The line for a module that has been written. -/
def writtenLine (output : Path) : Text := s!"Done! Generated models in {output.toText}"

/-- Writes the module of a service's types with bound queries. -/
def generate (t : Target) (output : String) (queryFiles : List String)
    (templateDirectory schemaFile : Option String) (files : FileTree) (service : Service)
    (tools : Toolchain) : Run tools.Error :=
  match t.connection with
  | .error e => refuse files service e.widen
  | .ok c =>
    match readEntries files queryFiles with
    | .error e => refuse files service e.widen
    | .ok queries =>
      let begun := compilingLine t.url
      let preparation := prepare c files (schemaFile.map Path.ofText) (Entries.ofList queries)
      match preparation.runOn service with
      | (.error e, service) => ⟨[begun], some (.widen (.ofFailure e)), files, service⟩
      | (.ok (p, bound), service) =>
        let lines : List Text := begun :: if t.verbose then sizeLines p bound else []
        let path := Path.ofText output
        match (p.generator bound templateDirectory).write files path tools with
        | (files, .error (.failed e)) => ⟨lines, some (.unwritten e), files, service⟩
        | (files, .error (.escaped x)) => ⟨lines, some (.escaped x), files, service⟩
        | (files, .ok _) => ⟨lines ++ [writtenLine path], none, files, service⟩

/-- The line for the version. -/
def versionLine : String := "main, version 0.1.0"

/-- The line for the use of the commands. -/
def helpLine : String := "Usage: main [OPTIONS] COMMAND [ARGS]..."

/-- What an invocation does. -/
def ofInvocation (files : FileTree) (service : Service) (tools : Toolchain) :
    Invocation → Run tools.Error
  | .version => ⟨[versionLine], none, files, service⟩
  | .help true => ⟨[helpLine], none, files, service⟩
  | .help false => refuse files service (.usage .missingCommand)
  | .types t schemaFile => (types t schemaFile files service).widen
  | .check t query queryFile => (check t query queryFile files service).widen
  | .generate t output queryFiles templateDirectory schemaFile =>
    generate t output queryFiles templateDirectory schemaFile files service tools

/-- What a command line does. -/
def ofWords (files : FileTree) (service : Service) (words : List String)
    (tools : Toolchain := .literal) : Run tools.Error :=
  match Invocation.ofWords files words with
  | .error (.failed e) => refuse files service (.usage e)
  | .error (.escaped x) => refuse files service (.escaped x)
  | .ok invocation => ofInvocation files service tools invocation

/-! ## How a run ends -/

/-- The number that a run ends with: two for a usage error, one for any other. -/
def exitCode {ε : Type} (r : Run ε) : Nat :=
  match r.error with
  | none => 0
  | some (.usage _) => 2
  | some _ => 1

/-- A code point as it is printed; surrogates, which cannot be, stand as escapes. -/
def printedPoint : CodePoint → List Char
  | .char c => [c]
  | c => Text.escapedPoint c.toNat

/-- Lines as they are printed. -/
def printedLines (lines : List Text) : String :=
  let text := lines.flatMap fun line => (Text.printed line).flatMap printedPoint ++ ['\n']
  String.ofList (Text.joinLineEnds text)

/-- What a run prints. -/
def output {ε : Type} (r : Run ε) : String := printedLines r.lines

/-- The message of an error that a run reports; the others leave it as they are. -/
def report? {ε : Type} : RunError ε → Option Text
  | .usage e => some e.message
  | .compilation e => some e.message
  | _ => none

/-- What a run prints about its error. -/
def complaint {ε : Type} (r : Run ε) : String :=
  match r.error.bind report? with
  | some message => printedLines ["Error: " ++ message]
  | none => ""

end Run

end GraphBind.Command
