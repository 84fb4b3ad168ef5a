import QueryBatch.Engine
import QueryBatch.Json.Reader
import QueryBatch.Settings.Decode

/-!
# The command line

The program prints the statements of a batch that stands in a file. The settings may stand in
another file, which is named by an option in front of the command or behind it; the one behind it
counts.

* `CommandLine.parse`: what some arguments ask for.
* `CommandLine.run`: what the program prints, and with which code it ends.
-/

namespace QueryBatch.CommandLine

/-- What some arguments ask for. -/
inductive Request
  | version
  | translate (file : String) (settings : Option String)
deriving DecidableEq

/-- An argument that is an option; a hyphen alone is not. -/
def isOption (arg : String) : Bool :=
  match arg.toList with
  | ['-'] => false
  | '-' :: _ => true
  | _ => false

def attached? (arg : String) : Option String :=
  let mark := "--config="
  if mark.toList.isPrefixOf arg.toList then some (String.ofList (arg.toList.drop mark.length))
  else none

/-- The arguments behind the command: one file, and at most one time the settings. Behind two
hyphens no argument is an option. -/
def parseTranslate (plain : Bool) (file settings : Option String) : List String → Option Request
  | [] => file.map fun f => .translate f settings
  | arg :: r =>
    if !plain && arg = "--" then parseTranslate true file settings r
    else if !plain && isOption arg then
      if settings.isSome then none
      else
        match attached? arg with
        | some value => if value.isEmpty then none else parseTranslate plain file (some value) r
        | none =>
          match r with
          | [] => none
          | value :: r' =>
            if arg ≠ "--config" || value.isEmpty || isOption value then none
            else parseTranslate plain file (some value) r'
    else if file.isSome || arg.isEmpty then none
    else parseTranslate plain (some arg) settings r

/-- Settings named in front of the command count if none are named behind it. -/
def withDefault (settings : Option String) : Request → Request
  | .version => .version
  | .translate file own => .translate file (own.or settings)

/-- The short option for the version, alone or in front of others. -/
def isVersion (arg : String) : Bool := arg = "--version" || ['-', 'V'].isPrefixOf arg.toList

/-- **What some arguments ask for**; none if they cannot be understood. `settings` are the
settings named so far. -/
def parseFrom (settings : Option String) : List String → Option Request
  | [] => none
  | arg :: r =>
    if isVersion arg then some .version
    else if arg = "translate" then (parseTranslate false none none r).map (withDefault settings)
    else if settings.isSome then none
    else
      match attached? arg with
      | some value => if value.isEmpty then none else parseFrom (some value) r
      | none =>
        match r with
        | [] => none
        | value :: r' =>
          if arg ≠ "--config" || value.isEmpty || isOption value then none
          else parseFrom (some value) r'

/-- What the arguments of the program ask for. -/
def parse (args : List String) : Option Request := parseFrom none args

/-- Why a file has no text. -/
inductive FileError
  | missing
  | isDirectory
  /-- A step of the path is no directory. -/
  | notDirectory
  /-- A step of the path, or the path itself, is longer than any file's. -/
  | nameTooLong
  /-- The file may not be read. -/
  | denied
  | notText
deriving DecidableEq

/-- What a message calls a file error. -/
def FileError.shown : FileError → String
  | .missing => "Os \x7b code: 2, kind: NotFound, message: \"No such file or directory\" \x7d"
  | .isDirectory => "Os \x7b code: 21, kind: IsADirectory, message: \"Is a directory\" \x7d"
  | .notDirectory => "Os \x7b code: 20, kind: NotADirectory, message: \"Not a directory\" \x7d"
  | .nameTooLong => "Os \x7b code: 36, kind: InvalidFilename, message: \"File name too long\" \x7d"
  | .denied => "Os \x7b code: 13, kind: PermissionDenied, message: \"Permission denied\" \x7d"
  | .notText => "Error \x7b kind: InvalidData, message: \"stream did not contain valid UTF-8\" \x7d"

def FileError.message : FileError → String
  | .missing => "No such file or directory (os error 2)"
  | .isDirectory => "Is a directory (os error 21)"
  | .notDirectory => "Not a directory (os error 20)"
  | .nameTooLong => "File name too long (os error 36)"
  | .denied => "Permission denied (os error 13)"
  | .notText => "stream did not contain valid UTF-8"

/-- **Files** by their paths. -/
abbrev Files := String → Except FileError String

/-- What a message calls a fault in a text. -/
def shownFault (f : Json.Fault) : String :=
  s!"Error({Text.quoted f.cause.message}, line: {f.line}, column: {f.column})"

/-- Why the program fails. -/
inductive Failure
  | settingsFile (error : FileError)
  | settings (error : SettingsError)
  | batchFile (error : FileError)
  | batch (fault : Json.Fault)

def Failure.message : Failure → String
  | .settingsFile e => s!"Io({e.shown})"
  | .settings (.unreadable reason) => s!"Io({reason})"
  | .settings (.malformed fault) => s!"Parse({shownFault fault})"
  | .settings (.invalidLogLevel level) => s!"InvalidLogLevel({Text.quoted level})"
  | .batchFile e => e.shown
  | .batch fault => shownFault fault

/-- The settings of a file, or the defaults. The log level must be known. -/
def loadSettings (files : Files) (path : Option String) : Except Failure Settings := do
  let settings ← match path with
    | none => pure Settings.default
    | some p => do
      let text ← (files p).mapError .settingsFile
      (Settings.load text).mapError .settings
  let _ ← settings.level.mapError .settings
  pure settings

/-- The batch of a file; a value that is no array is a batch of one. -/
def loadBatch (files : Files) (path : String) : Except Failure (List Json) := do
  let text ← (files path).mapError .batchFile
  match ← (Json.read text).mapError .batch with
  | .array batch => pure batch
  | single => pure [single]

/-- The statements of a batch, or what its author is told. -/
def translate (files : Files) (file : String) (settings : Option String) : Except Failure Json := do
  let settings ← loadSettings files settings
  let batch ← loadBatch files file
  match (Engine.translate settings batch).result with
  | .ok compiled => pure (Engine.encodeCompiled compiled)
  | .error e => pure e.response

/-- **What the program does**: the code that it ends with, what it prints, and what it says if it
fails. -/
structure Result where
  code : Nat
  output : String
  failure : Option String
deriving DecidableEq

def versionLine : String := "reactivesql 0.1.0\n"

/-- **Runs the program** on its arguments. -/
def run (files : Files) (args : List String) : Result :=
  match parse args with
  | none => ⟨2, "", none⟩
  | some .version => ⟨0, versionLine, none⟩
  | some (.translate file settings) =>
    match translate files file settings with
    | .ok j => ⟨0, j.indented ++ "\n", none⟩
    | .error f => ⟨1, "", some s!"Error: {f.message}"⟩

end QueryBatch.CommandLine
