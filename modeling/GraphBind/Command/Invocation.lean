import GraphBind.Command.Words
import GraphBind.Decimal
import GraphBind.Exchange.Request

/-!
# Invocations

What a command line asks for. The settings are checked in the order in which they were first given,
each by its last value; then comes what is missing, and last what is too much.
-/

namespace GraphBind.Command

open Decimal (Binary64)

/-- What all commands are told about the service. -/
structure Target where
  url : String
  verbose : Bool
  bearer : Option String
  headers : List String
  timeout : Binary64
  deriving DecidableEq, Repr

/-- What a command line asks for. -/
inductive Invocation where
  | version
  /-- Help, asked for or given to a command line without words. -/
  | help (asked : Bool)
  | types (target : Target) (schemaFile : Option String)
  | check (target : Target) (query queryFile : Option String)
  | generate (target : Target) (output : String) (queryFiles : List String)
      (templateDirectory schemaFile : Option String)
  deriving DecidableEq, Repr

/-! ## Values -/

/-- The values of a setting. -/
def valuesOf (s : Setting) (given : List Given) : List String :=
  given.filterMap fun (s', value) => if s' == s then some value else none

/-- The value of a setting: the last one given. -/
def valueOf? (s : Setting) (given : List Given) : Option String := (valuesOf s given).getLast?

/-- The settings that are given, in the order in which they first are. -/
def settingsOf (given : List Given) : List Setting := (given.map (·.1)).eraseDups

/-- What is wrong with a value. -/
def faultOf? (files : FileTree) (kind : ValueKind) (value : String) :
    Except Escape (Option ValueFault) :=
  match kind with
  | .any => .ok none
  | .number => .ok (if (Binary64.read? value.toList).isSome then none else some .notANumber)
  | .path => (files.status? value).map fun _ => none
  | .file => (files.status? value).map fun
    | none => some .noFile
    | some .directory => some .isDirectory
    | some (.file _) => none
  | .directory => (files.status? value).map fun
    | none => some .noDirectory
    | some (.file _) => some .isFile
    | some .directory => none

/-- Checks the values of settings. -/
def checkValues (files : FileTree) (c : Subcommand) (given : List Given) :
    List Setting → Except (Failure UsageError) Unit
  | [] => .ok ()
  | s :: settings =>
    match valueOf? s given with
    | none => checkValues files c given settings
    | some value =>
      match faultOf? files (c.valueKind s) value with
      | .error x => .error (.escaped x)
      | .ok (some fault) => .error (.failed (.badValue s value fault))
      | .ok none => checkValues files c given settings

/-- The timeout in seconds unless another is given. -/
def standardTimeout : Binary64 := .ofRatio false 30 1

/-- What settings tell about the service. -/
def targetOf (url : String) (given : List Given) : Target where
  url := url
  verbose := !(valuesOf .verbose given).isEmpty
  bearer := valueOf? .bearer given
  headers := valuesOf .header given
  timeout := ((valueOf? .timeout given).bind fun s => Binary64.read? s.toList).getD standardTimeout

/-! ## Commands -/

namespace Invocation

/-- What a command is asked for by its checked settings. -/
def ofSettings (c : Subcommand) (target : Target) (given : List Given) :
    Except UsageError Invocation :=
  match c with
  | .types => .ok (types target (valueOf? .schemaFile given))
  | .check => .ok (check target (valueOf? .query given) (valueOf? .queryFile given))
  | .generate =>
    match valueOf? .output given with
    | none => .error (.missingSetting .output)
    | some output => .ok (generate target output (valuesOf .queryFile given)
        (valueOf? .templateDirectory given) (valueOf? .schemaFile given))

/-- What the words after a command ask for. -/
def ofCommandWords (files : FileTree) (c : Subcommand) (words : List String) :
    Except (Failure UsageError) Invocation := do
  let r ← (readWords c.settings true words).mapError .failed
  if !(valuesOf .help r.given).isEmpty then return help true
  checkValues files c r.given (settingsOf r.given)
  match r.arguments with
  | [] => throw (.failed .missingUrl)
  | url :: extra =>
    let invocation ← (ofSettings c (targetOf url r.given) r.given).mapError .failed
    if extra.isEmpty then return invocation else throw (.failed (.extraArguments extra))

/-- What the words before a command ask for, if anything, and the words from the command on. -/
def ofFrontWords (words : List String) :
    Except UsageError (Option Invocation × List String) :=
  if words.isEmpty then .ok (some (help false), [])
  else (readWords frontSettings false words).map fun r =>
    match r.given with
    | (.version, _) :: _ => (some version, [])
    | (_, _) :: _ => (some (help true), [])
    | [] => (none, r.arguments)

/-- What a command line asks for. A name that no command has may be a setting, so the words are read
once more from there on. -/
def ofWords (files : FileTree) (words : List String) : Except (Failure UsageError) Invocation := do
  match ← (ofFrontWords words).mapError .failed with
  | (some invocation, _) => return invocation
  | (none, []) => throw (.failed .missingCommand)
  | (none, name :: rest) =>
    match Subcommand.ofName? name with
    | some c => ofCommandWords files c rest
    | none =>
      match ← (ofFrontWords (name :: rest)).mapError .failed with
      | (some invocation, _) => return invocation
      | (none, _) => throw (.failed (.noSuchCommand name))

end Invocation

end GraphBind.Command
