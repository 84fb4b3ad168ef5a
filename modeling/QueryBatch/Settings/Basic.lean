import QueryBatch.Json.Scan
import QueryBatch.Query.Resolve
import QueryBatch.Settings.Address
import QueryBatch.Settings.LogLevel

/-!
# Settings

How batches are served. Every setting has a default.

* `Settings`: the settings, with those of the embedding service inside.
* `Settings.default`: the defaults.
* `ExecutionLimits`: what the settings say about running statements.
-/

namespace QueryBatch

structure EmbeddingSettings where
  apiKey : Option String
  model : String
  endpoint : String
  /-- Milliseconds after which a request is given up. -/
  timeout : Nat
deriving DecidableEq, Inhabited

/-- The defaults of the embedding service. -/
def EmbeddingSettings.default : EmbeddingSettings where
  apiKey := none
  model := "text-embedding-ada-002"
  endpoint := "https://api.openai.com/v1/embeddings"
  timeout := 30000

/-- **Settings.** -/
structure Settings where
  /-- The page size of a search that names none. -/
  defaultSize : Nat
  /-- Milliseconds after which a statement is given up; with none it never is. -/
  queryTimeout : Option Nat
  /-- How many statements may run at once; with none any number may. -/
  maxConcurrent : Option Nat
  logLevel : String
  metricsAddress : Option Address
  embedding : EmbeddingSettings
deriving DecidableEq, Inhabited

/-- **The defaults.** -/
def Settings.default : Settings where
  defaultSize := defaultPageSize
  queryTimeout := some 30000
  maxConcurrent := none
  logLevel := "info"
  metricsAddress := none
  embedding := .default

/-- What limits the statements of a batch. -/
structure ExecutionLimits where
  /-- How many statements may run at once; with none any number may. -/
  maxConcurrent : Option Nat
  /-- Milliseconds after which a statement is given up; with none it never is. -/
  timeout : Option Nat
deriving DecidableEq, Inhabited

/-- The limits that hold if no settings are given. -/
def ExecutionLimits.default : ExecutionLimits := ⟨none, some 30000⟩

def Settings.limits (s : Settings) : ExecutionLimits := ⟨s.maxConcurrent, s.queryTimeout⟩

/-- Why settings cannot be used. -/
inductive SettingsError
  /-- The file cannot be read; the text says why. -/
  | unreadable (reason : String)
  /-- The text of the file has a fault. -/
  | malformed (fault : Json.Fault)
  | invalidLogLevel (level : String)
deriving DecidableEq

def SettingsError.message : SettingsError → String
  | .unreadable reason => s!"Failed to read config file: {reason}"
  | .malformed fault => s!"Failed to parse config file: {fault.message}"
  | .invalidLogLevel level => s!"Invalid log level: {level}"

/-- The log level that settings name. -/
def Settings.level (s : Settings) : Except SettingsError LogLevel :=
  match LogLevel.parse s.logLevel with
  | some l => .ok l
  | none => .error (.invalidLogLevel s.logLevel)

end QueryBatch
