import GraphBind.Auth
import GraphBind.FileTree
import GraphBind.Text.Similarity

/-!
# Words

The words of a command line give settings and arguments. A word that begins with a dash gives
settings, unless it is the dash alone or stands after `--`; all other words are arguments. A short
spelling of a setting is a dash and one letter, a long one begins with two dashes. The value of a
setting stands in the same word, after the equals sign of a long spelling or right after the letter
of a short one, or it is the next word, whatever that looks like.

What is wrong with the words is a `UsageError`. An error about a value says which setting the value
is for (`hint?`); all other errors are a sentence of their own.
-/

/-! ## Settings -/

namespace GraphBind.Command

/-- A setting. -/
inductive Setting where
  | schemaFile
  | query
  | queryFile
  | output
  | templateDirectory
  | verbose
  | bearer
  | header
  | timeout
  | help
  | version
  deriving DecidableEq, Repr

/-- What the value of a setting has to be. -/
inductive ValueKind where
  | any
  | number
  /-- A path, whatever is there. -/
  | path
  | file
  | directory
  deriving DecidableEq, Repr

/-- A command. -/
inductive Subcommand where
  | types
  | check
  | generate
  deriving DecidableEq, Repr

namespace Setting

/-- How a setting is written. -/
def spellings : Setting → List String
  | schemaFile => ["--schema-file"]
  | query => ["--query", "-q"]
  | queryFile => ["--query-file", "-f"]
  | output => ["--output", "-o"]
  | templateDirectory => ["--template-dir"]
  | verbose => ["--verbose", "-v"]
  | bearer => ["--bearer"]
  | header => ["--header"]
  | timeout => ["--timeout"]
  | help => ["--help"]
  | version => ["--version"]

/-- Whether a value follows a setting. -/
def takesValue : Setting → Bool
  | verbose => false
  | help => false
  | version => false
  | _ => true

/-- All spellings of a setting, as messages show them. -/
def shown (s : Setting) : String := " / ".intercalate (s.spellings.map fun name => s!"'{name}'")

/-- A spelling with two dashes. -/
def isLong (name : String) : Bool := name.toList.take 2 == ['-', '-']

/-- The long spellings of settings. -/
def longNames (settings : List Setting) : List String :=
  (settings.flatMap spellings).filter isLong

/-- The setting with a spelling. -/
def find? (settings : List Setting) (name : String) : Option Setting :=
  settings.find? (·.spellings.contains name)

end Setting

namespace Subcommand

/-- The name of a command. -/
def name : Subcommand → String
  | types => "types"
  | check => "check"
  | generate => "generate"

/-- All commands. -/
def all : List Subcommand := [types, check, generate]

/-- The command with a name. -/
def ofName? (s : String) : Option Subcommand := all.find? (·.name == s)

/-- The settings of a command. -/
def settings (c : Subcommand) : List Setting :=
  let own := match c with
    | types => [.schemaFile]
    | check => [.query, .queryFile]
    | generate => [.output, .queryFile, .templateDirectory, .schemaFile]
  own ++ [.verbose, .bearer, .header, .timeout, .help]

/-- What the value of a setting of a command has to be. -/
def valueKind : Subcommand → Setting → ValueKind
  | _, .schemaFile => .file
  | _, .output => .path
  | _, .templateDirectory => .directory
  | _, .timeout => .number
  | check, .queryFile => .file
  | _, _ => .any

end Subcommand

/-- The settings that come before a command. -/
def frontSettings : List Setting := [.version, .help]

/-! ## Usage errors -/

/-- Why a value is not one that its setting takes. -/
inductive ValueFault where
  | notANumber
  | noFile
  | noDirectory
  | isDirectory
  | isFile
  deriving DecidableEq, Repr

/-- The words for a fault of a value. -/
def ValueFault.message (value : String) : ValueFault → String
  | notANumber => Text.quoted value ++ " is not a valid float."
  | noFile => "File " ++ Text.quoted value ++ " does not exist."
  | noDirectory => "Directory " ++ Text.quoted value ++ " does not exist."
  | isDirectory => "File " ++ Text.quoted value ++ " is a directory."
  | isFile => "Directory " ++ Text.quoted value ++ " is a file."

/-- What is wrong with a command line. -/
inductive UsageError where
  | noSuchSetting (name : String) (similar : List String)
  | needsValue (name : String)
  | takesNoValue (name : String)
  | badValue (setting : Setting) (value : String) (fault : ValueFault)
  | missingUrl
  | missingSetting (setting : Setting)
  | extraArguments (words : List String)
  | noSuchCommand (name : String)
  | missingCommand
  /-- A token and headers are both given. -/
  | twoIdentities
  | badHeader (error : InvalidHeader)
  /-- Both or none of a query and a file that holds it are given. -/
  | notOneQuery
  | badQueryEntry (entry : String)
  | unreadableQuery (path : String) (fault : FileFault)
  deriving DecidableEq, Repr

namespace UsageError

/-- The setting whose value is wrong, as the message shows it. -/
def hint? : UsageError → Option String
  | badValue setting _ _ => some setting.shown
  | badHeader _ => some "--header"
  | badQueryEntry _ => some "--query-file"
  | unreadableQuery _ _ => some "--query-file"
  | _ => none

/-- The offer of similar settings. -/
def offer : List String → String
  | [] => ""
  | [name] => s!" Did you mean {name}?"
  | names => " (Possible options: " ++ ", ".intercalate names ++ ")"

/-- What is wrong. -/
def reason : UsageError → String
  | noSuchSetting name similar => s!"No such option: {name}" ++ offer similar
  | needsValue name => "Option " ++ Text.quoted name ++ " requires an argument."
  | takesNoValue name => "Option " ++ Text.quoted name ++ " does not take a value."
  | badValue _ value fault => fault.message value
  | missingUrl => "Missing argument 'URL'."
  | missingSetting setting => s!"Missing option {setting.shown}."
  | extraArguments [word] => s!"Got unexpected extra argument ({word})"
  | extraArguments words => "Got unexpected extra arguments (" ++ " ".intercalate words ++ ")"
  | noSuchCommand name => "No such command " ++ Text.quoted name ++ "."
  | missingCommand => "Missing command."
  | twoIdentities => "Use either --bearer or --header, not both."
  | badHeader error => error.message
  | notOneQuery => "Pass exactly one of --query or --query-file."
  | badQueryEntry entry => "Expected NAME=PATH, got " ++ Text.quoted entry
  | unreadableQuery path fault =>
    "Cannot read query file " ++ Text.quoted path ++ ": " ++ fault.description

/-- The text of an error. -/
def message (e : UsageError) : String :=
  match e.hint? with
  | some hint => s!"Invalid value for {hint}: {e.reason}"
  | none => e.reason

end UsageError

/-! ## Reading words -/

/-- A setting with its value; that of a setting without value is empty. -/
abbrev Given := Setting × String

/-- What one word gives: settings, and maybe one more whose value is the next word. -/
structure WordReading where
  given : List Given
  /-- The setting that awaits its value, and how it was written. -/
  awaiting : Option (Setting × String)
  deriving DecidableEq, Repr

/-- What the words of a command line give. -/
structure WordsReading where
  given : List Given
  arguments : List String
  deriving DecidableEq, Repr

/-- Whether a word gives settings. -/
def givesSettings (word : String) : Bool :=
  match word.toList with
  | '-' :: _ :: _ => true
  | _ => false

/-- Reads the letters of short spellings that share one dash. -/
def readLetters (settings : List Setting) : List Char → Except UsageError WordReading
  | [] => .ok ⟨[], none⟩
  | c :: cs =>
    let name := String.ofList ['-', c]
    match Setting.find? settings name with
    | none => .error (.noSuchSetting name [])
    | some s =>
      if s.takesValue then
        if cs.isEmpty then .ok ⟨[], some (s, name)⟩ else .ok ⟨[(s, String.ofList cs)], none⟩
      else (readLetters settings cs).map fun r => { r with given := (s, "") :: r.given }

/-- The value after the equals sign of a word. -/
def attachedValue? (word : String) : Option String :=
  match word.toList.dropWhile (· != '=') with
  | [] => none
  | _ :: value => some (String.ofList value)

/-- Reads a word that gives settings. -/
def readWord (settings : List Setting) (word : String) : Except UsageError WordReading :=
  let name := String.ofList (word.toList.takeWhile (· != '='))
  if Setting.isLong word then
    match Setting.find? settings name with
    | none => .error (.noSuchSetting name (Text.similarTexts name (Setting.longNames settings)))
    | some s =>
      match attachedValue? word, s.takesValue with
      | some value, true => .ok ⟨[(s, value)], none⟩
      | some _, false => .error (.takesNoValue name)
      | none, true => .ok ⟨[], some (s, name)⟩
      | none, false => .ok ⟨[(s, "")], none⟩
  else readLetters settings (word.toList.drop 1)

/-- Settings that are given before the ones of a reading. -/
def WordsReading.before (given : List Given) (r : WordsReading) : WordsReading :=
  { r with given := given ++ r.given }

/-- Reads words. Unless settings and arguments may alternate, all that follows the first argument is
one. -/
def readWords (settings : List Setting) (alternating : Bool) :
    List String → Except UsageError WordsReading
  | [] => .ok ⟨[], []⟩
  | word :: words =>
    if word == "--" then .ok ⟨[], words⟩
    else if givesSettings word then
      match readWord settings word with
      | .error e => .error e
      | .ok ⟨given, none⟩ => (readWords settings alternating words).map (.before given)
      | .ok ⟨given, some (s, name)⟩ =>
        match words with
        | [] => .error (.needsValue name)
        | value :: words =>
          (readWords settings alternating words).map (.before (given ++ [(s, value)]))
    else if alternating then
      (readWords settings alternating words).map fun r =>
        { r with arguments := word :: r.arguments }
    else .ok ⟨[], word :: words⟩

end GraphBind.Command
