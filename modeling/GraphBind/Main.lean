import GraphBind.Command.Run

/-!
# The program

The outer layer of the commands. The tree of a run holds what stands on the disk where its words may
lead to. Requests are answered by the lines of standard input in turn: a line is a status, a blank
and a body, and a line that begins with no number says why a request is not answered.
-/

namespace GraphBind

/-- The outcome that a line writes. -/
def Outcome.ofLine (line : String) : Outcome :=
  let status := line.toList.takeWhile (· != ' ')
  let body := (line.toList.dropWhile (· != ' ')).drop 1
  match (String.ofList status).toNat? with
  | some status => .response status (Text.Utf8.encode body)
  | none => .unanswered line

/-- The texts after the equals signs of a word. -/
def valuesAfterEquals : List Char → List String
  | [] => []
  | c :: cs => (if c == '=' then [String.ofList cs] else []) ++ valuesAfterEquals cs

/-- The texts in a word that may be paths. -/
def pathsIn (word : String) : List String :=
  word :: String.ofList (word.toList.drop 2) :: valuesAfterEquals word.toList

/-- The paths that a run may look at. -/
def pathsOf (words : List String) : List Path :=
  let paths := (words.flatMap pathsIn).map Path.ofText
  paths ++ paths.map (·.child Template.builtinName)

/-- Whether an error of reading says that a directory is read. -/
def saysDirectory : IO.Error → Bool
  | .inappropriateType .. => true
  | _ => false

/-- What stands on the disk at a path. -/
def nodeOnDisk (p : Path) : IO (Option Node) := do
  try
    let content ← IO.FS.readBinFile p.toText
    return some (.file content.toList)
  catch e => return if saysDirectory e then some .directory else none

/-- Adds what stands on the disk along a path. -/
def addFromDisk (files : FileTree) (p : Path) : IO FileTree := do
  let mut files := files
  for n in List.range p.parts.length do
    let above : Path := ⟨p.parts.take (n + 1)⟩
    if let some node ← nodeOnDisk above then files := files.place above node
  return files

/-- The lines of a stream. -/
def readLines (input : IO.FS.Stream) : IO (List String) := do
  let mut lines := []
  repeat
    let line ← input.getLine
    if line.isEmpty then break
    lines := (if line.endsWith "\n" then (line.dropEnd 1).toString else line) :: lines
  return lines.reverse

/-- Writes a file to the disk, and makes the directories above it. -/
def writeToDisk (p : Path) (content : List UInt8) : IO Unit := do
  IO.FS.createDirAll p.parent.toText
  IO.FS.writeBinFile p.toText ⟨content.toArray⟩

end GraphBind

open GraphBind in
/-- Runs a command line. -/
def main (words : List String) : IO UInt32 := do
  let files ← (pathsOf words).foldlM addFromDisk FileTree.empty
  let lines ← readLines (← IO.getStdin)
  let run := Command.Run.ofWords files (.ofOutcomes (lines.map Outcome.ofLine)) words
  for (path, content) in files.changes run.files do
    writeToDisk path content
  IO.print run.output
  IO.eprint run.complaint
  return run.exitCode.toUInt32
