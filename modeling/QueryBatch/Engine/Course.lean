import QueryBatch.Embedding.Fetching
import QueryBatch.Engine
import QueryBatch.Execution.Tasks

/-!
# The course of a batch

A batch is served in stages: the vectors are fetched, the statements are run, and the answer is put
together. A clock is read between the stages, and what is recorded is recorded on the way: of a
fetch when it ends, of a call when it ends, of the failures when all calls have ended, and of the
batch when it is answered. In which order the fetches and the calls take their turns, what ends
them, and how long everything takes, is left open.

* `Readings`: the clock of a batch.
* `FetchTurn.event?`, `Tasks.recorded`: what is recorded at a turn.
* `Engine.Fetches`, `Tasks.Recording`: turns of the fetches and of the tasks, with what is recorded.
* `Engine.Course`: **the ways in which a batch may go**.
-/

namespace QueryBatch

/-- **Readings** of the clock of a batch, in whole milliseconds: when it has begun, when the vectors
are there, when the statements are handed over, when they have all settled, and when the answer is
put together. The clock never goes back. -/
structure Readings where
  begun : Nat
  fetched : Nat
  dispatched : Nat
  settled : Nat
  ended : Nat
  begun_le_fetched : begun ≤ fetched
  fetched_le_dispatched : fetched ≤ dispatched
  dispatched_le_settled : dispatched ≤ settled
  settled_le_ended : settled ≤ ended

namespace Readings

/-- The milliseconds of the fetching of all vectors. -/
def fetching (r : Readings) : Nat := r.fetched - r.begun

/-- The milliseconds in which the statements are run. -/
def executing (r : Readings) : Nat := r.settled - r.dispatched

/-- The milliseconds of the batch, at least one. -/
def total (r : Readings) : Nat := max 1 (r.ended - r.begun)

end Readings

/-- The store never breaks down. -/
def Environment.IsCalm (env : Environment) : Prop :=
  ∀ place statement message, ¬ env.answers place statement (.panic message)

/-- What is recorded at a turn of some fetches. -/
def FetchTurn.event? (timeout : Option Nat) : FetchTurn → Option Metrics.Event
  | .finish _ ending took =>
    some (.embedding (Duration.ofMillis took).inMillis (ending.result timeout).isOk)
  | _ => none

namespace Tasks

/-- What is recorded at a turn: of a call, when it ends. -/
def recorded (limits : ExecutionLimits) (s : Tasks) : Turn → List Metrics.Event
  | .finish place ending moment =>
    match s.labels[place]?, s.tasks[place]? with
    | some (name, shape), some ⟨some statement, .running start _⟩ =>
      Settled.executedEvents ⟨name, shape,
        some (statement, ⟨start, moment, ending.outcome limits.timeout⟩)⟩
    | _, _ => []
  | _ => []

/-- **Some turns**, one after the other, with what is recorded at them. -/
inductive Recording (limits : ExecutionLimits) (env : Environment) (s : Tasks) :
    List Turn → List Metrics.Event → Tasks → Prop
  | nil : Recording limits env s [] [] s
  | snoc {turns : List Turn} {turn : Turn} {events : List Metrics.Event} {s' s'' : Tasks}
    (h : Recording limits env s turns events s') (hs : Step limits env s' turn s'') :
    Recording limits env s (turns ++ [turn]) (events ++ s'.recorded limits turn) s''

end Tasks

namespace Engine

/-- **The ways to fetch vectors** within some milliseconds, with what is recorded. Without a service
no fetch is made. -/
inductive Fetches (timeout : Option Nat) (env : FetchEnvironment) (fetching : Nat)
    (ds : List Descriptor) : Bool → EmbeddingStage → List Metrics.Event → Prop
  | unavailable : Fetches timeout env fetching ds false
      ⟨(EmbeddingStage.wanted ds).map fun w => .unavailable w.1 w.2, false⟩ []
  | fetched {turns : List FetchTurn} {s : Fetching} {stage : EmbeddingStage}
    (hr : Fetching.Run timeout env (.ofWanted (EmbeddingStage.wanted ds)) turns s)
    (hs : s.stage? = some stage) (ht : ∀ f ∈ stage.fetches, f.took ≤ fetching) :
    Fetches timeout env fetching ds true stage (turns.filterMap (FetchTurn.event? timeout))

/-- The answer of a batch, with the milliseconds of its stages. -/
def envelopeIn (stage : EmbeddingStage) (fetching total : Nat) (settled : List Settled) : Json :=
  let failed : Envelope := stage.failures.foldl (fun e f =>
    e.pushError f.1 f.2.message embeddingFailureStatus (Duration.ofMillis fetching).inMillis) []
  ((settled.map Settled.response).foldl Envelope.pushResponse failed).finish
    (Duration.ofMillis total).inMillis

theorem envelope_eq_envelopeIn (stage : EmbeddingStage) (settled : List Settled) :
    envelope stage settled = envelopeIn stage stage.took (took stage settled) settled := rfl

/-- **The ways in which a batch may go**, with the readings of its clock. What is recorded has no
order. -/
inductive Course (settings : Settings) (hasService : Bool) (fetchEnv : FetchEnvironment)
    (env : Environment) (batch : List Json) (readings : Readings) : Answer → Prop
  | rejected {r : Rejection} (h : Batch.accept batch = .error r) :
    Course settings hasService fetchEnv env batch readings
      ⟨.error (.validation r), [.rejection], ⟨[], false⟩, []⟩
  | uncompiled {ds : List Descriptor} {stage : EmbeddingStage} {e : QueryError}
    {fetchEvents events : List Metrics.Event} (h : Batch.accept batch = .ok ds)
    (hf : Fetches settings.queryTimeout fetchEnv readings.fetching (executed ds) hasService stage
      fetchEvents)
    (hc : compileAll settings stage (executed ds) = .error e) (he : events.Perm fetchEvents) :
    Course settings hasService fetchEnv env batch readings ⟨.error (.compile e), events, stage, []⟩
  | served {ds : List Descriptor} {stage : EmbeddingStage} {compiled : List (String × Compiled)}
    {turns : List Turn} {s : Tasks} {settled : List Settled}
    {fetchEvents taskEvents events : List Metrics.Event} (h : Batch.accept batch = .ok ds)
    (hf : Fetches settings.queryTimeout fetchEnv readings.fetching (executed ds) hasService stage
      fetchEvents)
    (hc : compileAll settings stage (executed ds) = .ok compiled)
    (hr : Tasks.Recording settings.limits env
      (.ofBatch settings.limits readings.dispatched compiled) turns taskEvents s)
    (hs : s.settled? = some settled) (ht : s.clock ≤ readings.settled)
    (he : events.Perm (fetchEvents ++ taskEvents ++ settled.flatMap Settled.failureEvents ++
      [.batch (Duration.ofMillis readings.total).inMillis settled.length])) :
    Course settings hasService fetchEnv env batch readings
      ⟨.ok (envelopeIn stage readings.fetching readings.total settled), events, stage, settled⟩

end Engine

end QueryBatch
