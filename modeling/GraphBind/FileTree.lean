import GraphBind.Entries
import GraphBind.Escape
import GraphBind.Text.Basic

/-!
# File trees

A path is the list of its parts. `Path.ofText` reads the normal form of a path, in which parts that
stay in place are dropped; `rawParts` keeps them, for the checks that take a path as it was written.

A file tree holds files and directories below one working directory. A place is the list of names
that leads to an entry from there, without `..`; `locate` finds the place that a path leads to. A
path that holds a null character leads nowhere, and every operation on it ends with an error that is
none of the file system.

`makeDirectories` and `write` are the only operations that change a tree; both give back the tree
also when they fail, since directories may have been made by then.
-/

/-! ## Paths -/

namespace GraphBind

/-- A relative path in normal form; `..` is a part like any other. -/
structure Path where
  parts : List String
  deriving DecidableEq, Repr, Inhabited

namespace Path

/-- The parts of a path as written, empty ones and single points included. -/
def rawParts (text : String) : List String := (text.toList.splitOn '/').map String.ofList

/-- Whether a part leads on; empty parts and single points stay in place. -/
def leadsOn (part : String) : Bool := !(part == "" || part == ".")

/-- The normal form of a path. -/
def ofText (text : String) : Path := ⟨(rawParts text).filter leadsOn⟩

/-- The text of a path; that of the empty path is a point. -/
def toText (p : Path) : String := if p.parts.isEmpty then "." else "/".intercalate p.parts

/-- Whether a part holds a null character. -/
def holdsNull (p : Path) : Bool := p.parts.any fun part => Text.holdsNull part.toList

/-- The path of the directory that holds the entry. -/
def parent (p : Path) : Path := ⟨p.parts.dropLast⟩

/-- The path of an entry of a directory. -/
def child (p : Path) (part : String) : Path := ⟨p.parts ++ [part]⟩

end Path

/-! ## Trees -/

/-- What stands at a place. -/
inductive Node where
  | file (content : List UInt8)
  | directory
  deriving DecidableEq, Repr, Inhabited

/-- Why the file system refuses an operation. -/
inductive FileFault where
  | missing
  | taken
  | notADirectory
  | isADirectory
  | nameTooLong
  deriving DecidableEq, Repr

namespace FileFault

/-- The number of a fault. -/
def number : FileFault → Nat
  | missing => 2
  | taken => 17
  | notADirectory => 20
  | isADirectory => 21
  | nameTooLong => 36

/-- The words for a fault. -/
def description : FileFault → String
  | missing => "No such file or directory"
  | taken => "File exists"
  | notADirectory => "Not a directory"
  | isADirectory => "Is a directory"
  | nameTooLong => "File name too long"

end FileFault

/-- A fault and the path it arose at. -/
structure FileError where
  fault : FileFault
  path : Path
  deriving DecidableEq, Repr

/-- The text of an error. -/
def FileError.message (e : FileError) : String :=
  s!"[Errno {e.fault.number}] {e.fault.description}: " ++ Text.quoted e.path.toText

/-- The names that lead to a place. -/
abbrev Place := List String

/-- Files and directories below a working directory, which itself is not listed. -/
structure FileTree where
  entries : List (Place × Node)
  deriving DecidableEq, Repr, Inhabited

namespace FileTree

/-- The tree without entries. -/
def empty : FileTree := ⟨[]⟩

/-- What stands at a place. -/
def node? (t : FileTree) (place : Place) : Option Node :=
  if place.isEmpty then some .directory else Entries.get? place t.entries

/-- Puts a node at a place. -/
def put (t : FileTree) (place : Place) (node : Node) : FileTree :=
  ⟨Entries.put place node t.entries⟩

/-- The most bytes of a name. -/
def nameLimit : Nat := 255

/-- The most bytes of a path. -/
def pathLimit : Nat := 4095

/-- Follows parts from a place. Whatever a part is followed from has to be a directory. -/
def locateFrom (t : FileTree) (place : Place) : List String → Except FileFault Place
  | [] => .ok place
  | part :: parts =>
    match t.node? place with
    | none => .error .missing
    | some (.file _) => .error .notADirectory
    | some .directory =>
      if part == ".." then t.locateFrom place.dropLast parts
      else if Path.leadsOn part then
        if nameLimit < part.utf8ByteSize then .error .nameTooLong
        else t.locateFrom (place ++ [part]) parts
      else t.locateFrom place parts

/-- The place that a path leads to, whether something stands there or not. -/
def locate (t : FileTree) (p : Path) : Except FileFault Place :=
  if pathLimit < p.toText.utf8ByteSize then .error .nameTooLong else t.locateFrom [] p.parts

/-- What stands where a path, taken as it was written, leads to. -/
def status? (t : FileTree) (text : String) : Except Escape (Option Node) :=
  if Text.holdsNull text.toList then .error .nullInPath
  else if text.isEmpty || pathLimit < text.utf8ByteSize then .ok none
  else match t.locateFrom [] (Path.rawParts text) with
    | .ok place => .ok (t.node? place)
    | .error _ => .ok none

/-- Whether a path leads to a directory. A name that is too long leaves that open. -/
def isDirectory (t : FileTree) (p : Path) : Except FileError Bool :=
  if p.holdsNull then .ok false
  else match t.locate p with
    | .ok place => .ok (t.node? place == some .directory)
    | .error .nameTooLong => .error ⟨.nameTooLong, p⟩
    | .error _ => .ok false

/-- The content of the file that a path leads to. -/
def read (t : FileTree) (p : Path) : Except (Failure FileError) (List UInt8) :=
  if p.holdsNull then .error (.escaped .nullInPath)
  else match t.locate p with
    | .error fault => .error (.failed ⟨fault, p⟩)
    | .ok place =>
      match t.node? place with
      | some (.file content) => .ok content
      | some .directory => .error (.failed ⟨.isADirectory, p⟩)
      | none => .error (.failed ⟨.missing, p⟩)

/-- Makes one directory, unless it is there; `missing` means that its parent is. -/
def makeDirectory (t : FileTree) (p : Path) : Except FileFault FileTree :=
  match t.locate p with
  | .error fault => .error fault
  | .ok place =>
    match t.node? place with
    | some .directory => .ok t
    | some (.file _) => .error .taken
    | none => if t.node? place.dropLast == some .directory then .ok (t.put place .directory)
      else .error .missing

/-- Makes a directory, given by its parts in reverse, and those of its parents that are missing. -/
def makeAll (t : FileTree) : List String → FileTree × Except FileError Unit
  | [] => (t, .ok ())
  | part :: above =>
    let p : Path := ⟨(part :: above).reverse⟩
    match t.makeDirectory p with
    | .ok t => (t, .ok ())
    | .error .missing =>
      match t.makeAll above with
      | (t, .error e) => (t, .error e)
      | (t, .ok ()) =>
        match t.makeDirectory p with
        | .ok t => (t, .ok ())
        | .error fault => (t, .error ⟨fault, p⟩)
    | .error fault => (t, .error ⟨fault, p⟩)

/-- Makes a directory and those of its parents that are missing. -/
def makeDirectories (t : FileTree) (p : Path) : FileTree × Except (Failure FileError) Unit :=
  if p.holdsNull then (t, .error (.escaped .nullInPath))
  else match t.makeAll p.parts.reverse with
    | (t, .ok ()) => (t, .ok ())
    | (t, .error e) => (t, .error (.failed e))

/-- Writes a file, over the one that is there. -/
def write (t : FileTree) (p : Path) (content : List UInt8) :
    FileTree × Except (Failure FileError) Unit :=
  if p.holdsNull then (t, .error (.escaped .nullInPath))
  else match t.locate p with
    | .error fault => (t, .error (.failed ⟨fault, p⟩))
    | .ok place =>
      match t.node? place with
      | some .directory => (t, .error (.failed ⟨.isADirectory, p⟩))
      | some (.file _) => (t.put place (.file content), .ok ())
      | none =>
        if t.node? place.dropLast == some .directory then (t.put place (.file content), .ok ())
        else (t, .error (.failed ⟨.missing, p⟩))

/-- Puts a node where a path leads to, and makes the directories above it. -/
def place (t : FileTree) (p : Path) (node : Node) : FileTree :=
  let t := (t.makeDirectories p.parent).1
  match node with
  | .file content => (t.write p content).1
  | .directory => (t.makeDirectories p).1

/-- The tree with these entries. -/
def ofEntries (entries : List (Path × Node)) : FileTree :=
  entries.foldl (fun t e => t.place e.1 e.2) empty

/-- The files of a tree that stand where an earlier state has nothing. -/
def created (before after : FileTree) : List (Path × List UInt8) :=
  after.entries.filterMap fun (place, node) =>
    match before.node? place, node with
    | none, .file content => some (⟨place⟩, content)
    | _, _ => none

/-- The files of a tree that an earlier state lacks or holds with another content. -/
def changes (before after : FileTree) : List (Path × List UInt8) :=
  after.entries.filterMap fun (place, node) =>
    match node with
    | .file content => if before.node? place == some node then none else some (⟨place⟩, content)
    | .directory => none

end FileTree

end GraphBind
