import QueryBatch.Json.Record
import QueryBatch.Settings.Basic

/-!
# Reading and writing settings

* `Settings.decode`: settings from a JSON value.
* `Settings.load`: settings from the text of a file, with the place of the first fault.
* `Settings.encode`: the JSON value of settings.
-/

namespace QueryBatch

open Json (Decoder)

/-- An address as a text. -/
def Address.decode : Decoder Address
  | .string s =>
    match Address.parse s with
    | some a => .ok a
    | none => .error .invalidAddress
  | j => .error (.wrongType j "socket address")

namespace EmbeddingSettings

/-- The parts of the settings of the embedding service. -/
def parts : List (Json.Part EmbeddingSettings) := [
  .leaf "api_key" (.optional .string) fun v s => { s with apiKey := v },
  .leaf "model" .string fun v s => { s with model := v },
  .leaf "endpoint" .string fun v s => { s with endpoint := v },
  .leaf "timeout_ms" (.count "u64") fun v s => { s with timeout := v }]

/-- The settings of the embedding service from a JSON value. -/
def decode : Decoder EmbeddingSettings :=
  Json.Record.decode "EmbeddingConfig" parts .default

/-- The settings of the embedding service from a text. -/
def scan : Json.Scan EmbeddingSettings :=
  Json.Record.scan "EmbeddingConfig" parts .default

/-- The JSON value of the settings of the embedding service. -/
def encode (s : EmbeddingSettings) : Json :=
  .object [("api_key", .ofString? s.apiKey), ("endpoint", .string s.endpoint),
    ("model", .string s.model), ("timeout_ms", .ofNat s.timeout)]

end EmbeddingSettings

namespace Settings

/-- The settings of the embedding service as a part. -/
def embeddingPart : Json.Part Settings where
  name := "embedding"
  decode j := (EmbeddingSettings.decode j).map fun v s => { s with embedding := v }
  scan := do
    let v ← EmbeddingSettings.scan
    pure fun s => { s with embedding := v }

/-- The parts of the settings. -/
def parts : List (Json.Part Settings) := [
  .leaf "default_size" (.count "u64") fun v s => { s with defaultSize := v },
  .leaf "query_timeout_ms" (.optional (.count "u64")) fun v s => { s with queryTimeout := v },
  .leaf "max_concurrent_queries" (.optional (.count "usize")) fun v s =>
    { s with maxConcurrent := v },
  .leaf "log_level" .string fun v s => { s with logLevel := v },
  .leaf "metrics_addr" (.optional Address.decode) fun v s => { s with metricsAddress := v },
  embeddingPart]

/-- **Settings from a JSON value.** -/
def decode : Decoder Settings := Json.Record.decode "EngineConfig" parts .default

/-- **Settings from the text of a file.** -/
def load (text : String) : Except SettingsError Settings :=
  match Json.readWith (Json.Record.scan "EngineConfig" parts .default) text with
  | .ok s => .ok s
  | .error fault => .error (.malformed fault)

/-- The text of some bytes, which must be well-formed. -/
def textOfBytes (bytes : ByteArray) : Except SettingsError String :=
  match String.fromUTF8? bytes with
  | some s => .ok s
  | none => .error (.unreadable "stream did not contain valid UTF-8")

def encodeCount : Option Nat → Json
  | none => .null
  | some n => .ofNat n

/-- **The JSON value of settings.** -/
def encode (s : Settings) : Json :=
  .object [
    ("default_size", .ofNat s.defaultSize),
    ("embedding", s.embedding.encode),
    ("log_level", .string s.logLevel),
    ("max_concurrent_queries", encodeCount s.maxConcurrent),
    ("metrics_addr", .ofString? (s.metricsAddress.map Address.text)),
    ("query_timeout_ms", encodeCount s.queryTimeout)]

end Settings

end QueryBatch
