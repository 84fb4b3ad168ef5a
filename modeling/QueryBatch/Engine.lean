import QueryBatch.Descriptor.Batch
import QueryBatch.Embedding.Stage
import QueryBatch.Execution.Schedule
import QueryBatch.Response.Envelope
import QueryBatch.Sql.Compile

/-!
# Serving batches

A batch is accepted or rejected as a whole, and so are its queries: the first that cannot be
compiled rejects the batch, and nothing of it is run. Whatever fails after that is reported in the
entry of its query alone.

* `Engine.translate`: the compiled queries of a batch, of which nothing is run.
* `Engine.query`: the answer to a batch, with all that was done for it.
-/

namespace QueryBatch

/-- Why a batch has no answer. -/
inductive EngineError
  | validation (rejection : Rejection)
  | compile (error : QueryError)
deriving DecidableEq

namespace EngineError

def message : EngineError → String
  | .validation r => r.message
  | .compile e => e.message

/-- The status of a batch that has no answer. -/
def status : Nat := 400

/-- The body of an error with a status, around the field that tells the problem. -/
def body (problem : String × Json) : Json :=
  .object [("error",
    .ofFields [("code", .ofNat status), problem, ("status", .string "Bad Request")])]

/-- What the author of the batch is told. -/
def response : EngineError → Json
  | .validation (.rejected messages) => body ("error", .ofStrings messages)
  | .validation r => body ("error", .ofStrings [r.message])
  | .compile e => body ("message", .string e.message)

end EngineError

/-- A result, and what was recorded on the way to it. -/
structure Recorded (α : Type) where
  result : α
  events : List Metrics.Event

/-- **Answers**: the answer to a batch or the error, and what was done for it. -/
structure Answer where
  result : Except EngineError Json
  events : List Metrics.Event
  /-- The fetches of vectors. -/
  fetches : EmbeddingStage
  /-- The calls of statements. -/
  settled : List Settled

namespace Engine

/-- The descriptors of a batch that take part. -/
def executed (descriptors : List Descriptor) : List Descriptor :=
  descriptors.filter Descriptor.isExecuted

/-- The compiled queries of some descriptors, of which none is run. -/
def translateAll (settings : Settings) (descriptors : List Descriptor) :
    Except QueryError (List (String × Compiled)) :=
  (executed descriptors).mapM fun d => d.compile none settings.defaultSize false

/-- **The compiled queries of a batch** by their names; nothing is run. -/
def translate (settings : Settings) (batch : List Json) :
    Recorded (Except EngineError (Keyed Compiled)) :=
  match Batch.accept batch with
  | .error r => ⟨.error (.validation r), [.rejection]⟩
  | .ok descriptors =>
    match translateAll settings descriptors with
    | .error e => ⟨.error (.compile e), []⟩
    | .ok compiled => ⟨.ok (Keyed.ofList compiled), []⟩

/-- The JSON value of compiled queries by their names. -/
def encodeCompiled (compiled : Keyed Compiled) : Json :=
  .object (compiled.map fun c => (c.1, c.2.encode))

/-- The compiled queries of the descriptors whose vectors did not fail to be fetched. -/
def compileAll (settings : Settings) (stage : EmbeddingStage) (descriptors : List Descriptor) :
    Except QueryError (List (String × Compiled)) :=
  (descriptors.filter fun d => !stage.hasFailed d.name).mapM fun d =>
    d.compile (stage.vector? d.name) settings.defaultSize true

/-- The status of an entry whose vector could not be fetched. -/
def embeddingFailureStatus : Nat := 502

/-- The entries for vectors that could not be fetched; they all took as long as the fetching of
all vectors. -/
def pushFailures (stage : EmbeddingStage) (e : Envelope) : Envelope :=
  let took := (Duration.ofMillis stage.took).inMillis
  stage.failures.foldl (fun e f => e.pushError f.1 f.2.message embeddingFailureStatus took) e

/-- The milliseconds of a batch, at least one. -/
def took (stage : EmbeddingStage) (settled : List Settled) : Nat :=
  max 1 (Schedule.finish stage.took settled)

/-- The answer of a batch whose queries have settled. -/
def envelope (stage : EmbeddingStage) (settled : List Settled) : Json :=
  ((settled.map Settled.response).foldl Envelope.pushResponse (pushFailures stage [])).finish
    (Duration.ofMillis (took stage settled)).inMillis

/-- What is recorded of a batch that has an answer. -/
def batchEvents (stage : EmbeddingStage) (settled : List Settled) : List Metrics.Event :=
  stage.events ++ settled.flatMap Settled.events ++
    [.batch (Duration.ofMillis (took stage settled)).inMillis settled.length]

/-- The answer to accepted descriptors that take part; none if a call never ends. -/
def answer (settings : Settings) (embedder : Option Embedder) (store : Store)
    (cancelAt : Option Nat) (descriptors : List Descriptor) : Option Answer := do
  let stage ← EmbeddingStage.run embedder settings.queryTimeout cancelAt descriptors
  match compileAll settings stage descriptors with
  | .error e => pure ⟨.error (.compile e), stage.events, stage, []⟩
  | .ok compiled =>
    let settled ← Schedule.run settings.limits cancelAt store stage.took compiled
    pure ⟨.ok (envelope stage settled), batchEvents stage settled, stage, settled⟩

/-- **Queries**: the answer to a batch; none if a call never ends. The calls that are still
running after `cancelAt` milliseconds are cancelled. -/
def query (settings : Settings) (embedder : Option Embedder) (store : Store) (cancelAt : Option Nat)
    (batch : List Json) : Option Answer :=
  match Batch.accept batch with
  | .error r => some ⟨.error (.validation r), [.rejection], ⟨[], false⟩, []⟩
  | .ok descriptors => answer settings embedder store cancelAt (executed descriptors)

end Engine

end QueryBatch
