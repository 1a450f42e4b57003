import GraphBind.FileTree
import GraphBind.Models.Validity

/-!
# Generating modules

A generator prints the built-in layout, or what an engine makes of a file in a directory of one's
own that takes its place under the same name. `render` gives out only texts that a parser accepts;
`write` looks at the directory of templates, makes the directories above its target before it
renders, and opens the target after.

The engine and the parser are not part of a generator: they are a `Toolchain`, of which nothing is
assumed. `Toolchain.literal` is the one that is run.
-/

namespace GraphBind

open Models (Surface)

/-- Why no module is generated. A toolchain may have errors of its own. -/
inductive RenderError (ε : Type := Empty) where
  | noTemplate (name : String)
  | undecodable (fault : Text.Utf8.Malformed)
  | lookup (error : LookupError)
  /-- The text cannot be encoded. -/
  | unencodable (fault : Text.Unencodable)
  | nullCharacter
  | invalid (template : String)
  /-- The directory of templates cannot be looked at. -/
  | noDirectory (error : FileError)
  /-- The toolchain fails. -/
  | toolchain (error : ε)
  deriving DecidableEq, Repr

/-- The text of an error. -/
def RenderError.message : RenderError → Text
  | noTemplate name => name
  | undecodable fault => fault.message
  | lookup error => error.message
  | unencodable fault => fault.message
  | nullCharacter => "source code string cannot contain null bytes"
  | invalid _ => "Generated invalid Python"
  | noDirectory error => error.message

/-- An error that is none of a toolchain, among those with any toolchain. -/
def RenderError.widen {ε : Type} : RenderError → RenderError ε
  | noTemplate name => noTemplate name
  | undecodable fault => undecodable fault
  | lookup error => lookup error
  | unencodable fault => unencodable fault
  | nullCharacter => nullCharacter
  | invalid template => invalid template
  | noDirectory error => noDirectory error

/-- Why a module is not written. -/
inductive WriteError (ε : Type := Empty) where
  | file (error : FileError)
  | render (error : RenderError ε)
  deriving DecidableEq, Repr

/-- An error that is none of a toolchain, among those with any toolchain. -/
def WriteError.widen {ε : Type} : WriteError → WriteError ε
  | file error => file error
  | render error => render error.widen

/-! ## Templates -/

/-- A text to fill, by its name. -/
inductive Template where
  | builtin
  | custom (text : String)
  deriving DecidableEq, Repr

namespace Template

/-- The name of the built-in template. -/
def builtinName : String := "models.py.j2"

/-- The parts of the name of a template, which must not lead upwards. -/
def parts? (name : String) : Option (List String) :=
  let parts := Path.rawParts name
  if parts.contains ".." then none else some (parts.filter Path.leadsOn)

/-- The template that a file holds. -/
def ofBytes (bytes : List UInt8) : Except RenderError Template :=
  match Text.Utf8.decode bytes with
  | .ok text => .ok (custom (String.ofList (Text.normalizeLines text)))
  | .error fault => .error (.undecodable fault)

/-- The directory of one's own, if it is there. -/
def directory? (t : FileTree) (directory : Option String) : Except FileError (Option Path) :=
  match directory.filter (· != "") with
  | none => .ok none
  | some text =>
    let path := Path.ofText text
    (t.isDirectory path).map fun found => if found then some path else none

/-- The file of a directory that parts lead to. -/
def file? (t : FileTree) (directory : Option Path) (parts : List String) : Option (List UInt8) :=
  directory.bind fun path => (t.read ⟨path.parts ++ parts⟩).toOption

/-- The template with a name. -/
def find (t : FileTree) (directory : Option Path) (name : String) : Except RenderError Template :=
  match parts? name with
  | none => .error (.noTemplate name)
  | some parts =>
    match file? t directory parts with
    | some bytes => ofBytes bytes
    | none => if parts == [builtinName] then .ok builtin else .error (.noTemplate name)

end Template

/-! ## Generators and their toolchains -/

/-- What is generated, and from which templates. -/
structure Generator where
  registry : Registry
  queries : List (String × String)
  source : String
  templateDirectory : Option String
  deriving Repr

/-- What there is to print. -/
def Generator.surface (g : Generator) : Surface := .of g.registry g.queries g.source

/-- An engine that fills templates and a parser of modules. -/
structure Toolchain where
  /-- The errors of their own. -/
  Error : Type
  /-- What the engine makes of a template of one's own for a generator. The template may refer to
  others by their names. -/
  fill : (String → Except RenderError Template) → Generator → String → Except Error Text
  /-- Whether the parser accepts what has been made of a template for a generator. A parser goes by
  the text alone; one that is only outlined may go by what has been printed in it. -/
  accepts : Generator → Template → Text → Except Error Bool

/-- A text without one line end at its end. -/
def Template.dropLastLineEnd (cs : List Char) : List Char :=
  if cs.getLast? == some '\n' then cs.dropLast else cs

/-- The toolchain that is run: templates of one's own are taken literally, and the parser is the
outline in `Models.Surface.isValid` and `Models.isPlainModule`. -/
@[reducible]
def Toolchain.literal : Toolchain where
  Error := Empty
  fill _ _ text := .ok (.ofChars (Template.dropLastLineEnd text.toList))
  accepts g template text :=
    match template with
    | .builtin => .ok (g.surface.isValid g.registry)
    | .custom _ => .ok (Models.isPlainModule (String.ofList text.chars))

/-! ## Rendering -/

namespace Generator

/-- The text of a template that has been filled. -/
def fill (g : Generator) (templates : String → Except RenderError Template) (tools : Toolchain) :
    Template → Except (RenderError tools.Error) Text
  | .builtin => (g.surface.toText g.registry).mapError .lookup
  | .custom text => (tools.fill templates g text).mapError .toolchain

/-- The string of a generated text, which has to be one that can be encoded, that holds no null
character and that is accepted. -/
def accept {ε : Type} (name : String) (text : Text) (verdict : Except ε Bool) :
    Except (RenderError ε) String :=
  match Text.Unencodable.find? .utf8 text with
  | some fault => .error (.unencodable fault)
  | none =>
    if Text.holdsNull text.chars then .error .nullCharacter
    else
      match verdict with
      | .ok true => .ok (String.ofList text.chars)
      | .ok false => .error (.invalid name)
      | .error e => .error (.toolchain e)

/-- The text of the generated module. -/
def render (g : Generator) (t : FileTree) (name : String) (tools : Toolchain := .literal) :
    Except (RenderError tools.Error) String := do
  let directory ← (Template.directory? t g.templateDirectory).mapError .noDirectory
  let template ← (Template.find t directory name).mapError .widen
  let text ← g.fill (Template.find t directory) tools template
  accept name text (tools.accepts g template text)

/-- Writes the generated module to a path. The tree is given back in any case. -/
def write (g : Generator) (t : FileTree) (output : Path) (tools : Toolchain := .literal) :
    FileTree × Except (Failure (WriteError tools.Error)) String :=
  match Template.directory? t g.templateDirectory with
  | .error e => (t, .error (.failed (.render (.noDirectory e))))
  | .ok _ =>
    match t.makeDirectories output.parent with
    | (t, .error e) => (t, .error (e.map .file))
    | (t, .ok ()) =>
      match g.render t Template.builtinName tools with
      | .error e => (t, .error (.failed (.render e)))
      | .ok text =>
        match t.write output (Text.Utf8.encode text.toList) with
        | (t, .error e) => (t, .error (e.map .file))
        | (t, .ok ()) => (t, .ok text)

end Generator

end GraphBind
