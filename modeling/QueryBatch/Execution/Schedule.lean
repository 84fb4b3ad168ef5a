import QueryBatch.Execution.Basic
import QueryBatch.Execution.Race
import QueryBatch.Metrics
import QueryBatch.Settings.Basic
import QueryBatch.Text.Quoted

/-!
# Running the statements of a batch

All statements of a batch are run at once, as far as there are permits; the permits are handed out
in the order of the batch. The time and the deadline of a statement count from the moment at which
it has its permit. A statement that fails, panics, runs out of time or is cancelled concerns no
other one. Time is counted in milliseconds.

* `Store`: what a statement is answered with, and when.
* `Call.settle`: one call, from its start to its end.
* `Schedule.run`: the calls of a batch.
* `Settled.response`: what a call gives for its query.
-/

namespace QueryBatch

/-- How the store answers a statement. -/
inductive Outcome
  | rows (rows : List Row)
  | error (reason : ExecutionError)
  /-- The call breaks down with a message. -/
  | panic (message : String)

/-- An answer of the store and the milliseconds after which it comes; it may never come. -/
structure Reply where
  delay : Option Nat
  outcome : Outcome

/-- **Stores** answer statements. -/
abbrev Store := Statement → Reply

/-- A store whose errors are known by their text only. -/
def Store.plain (store : Store) : Store := fun s =>
  let reply := store s
  match reply.outcome with
  | .error e => { reply with outcome := .error (.failed e.message) }
  | _ => reply

/-- **Calls**: a statement that ran from one moment to another, and how it ended. -/
structure Call where
  start : Nat
  finish : Nat
  outcome : Outcome

/-- What a deadline makes of a call. -/
def timedOut (timeout : Option Nat) : Outcome := .error (.timeout (.ofMillis (timeout.getD 0)))

/-- **One call.** It ends with the answer, at the deadline or at the cancellation, whichever comes
first; a call for which none of them comes never ends. -/
def Call.settle (timeout cancelAt : Option Nat) (start : Nat) (reply : Reply) : Option Call :=
  (Race.first [
    (Race.after start reply.delay, reply.outcome),
    (Race.after start timeout, timedOut timeout),
    (Race.noEarlier start cancelAt, .error .cancelled)]).map fun (finish, outcome) =>
      ⟨start, finish, outcome⟩

/-- The milliseconds of a call, at least one. -/
def Call.took (c : Call) : Nat :=
  match c.outcome with
  | .panic _ => 1
  | _ => max 1 (c.finish - c.start)

/-- **Permits**: unlimited, or a number of them that nobody has had yet and, in ascending order,
the moments at which the others are given back. -/
inductive Permits
  | unlimited
  | limited (unused : Nat) (returns : List Nat)
deriving DecidableEq

namespace Permits

/-- The permits at the start of a batch. There is at least one. -/
def ofLimit : Option Nat → Permits
  | none => .unlimited
  | some n => .limited (max n 1) []

/-- The moment at which the next statement has a permit. -/
def next (begin : Nat) : Permits → Nat
  | .unlimited => begin
  | .limited 0 returns => returns.headD begin
  | .limited (_ + 1) _ => begin

/-- Puts a moment in its place in an ascending list. -/
def insertMoment (t : Nat) : List Nat → List Nat
  | [] => [t]
  | u :: r => if t ≤ u then t :: u :: r else u :: insertMoment t r

/-- The permits after the next statement has taken one, up to the moment at which it gives it
back. -/
def occupy (finish : Nat) : Permits → Permits
  | .unlimited => .unlimited
  | .limited 0 returns => .limited 0 (insertMoment finish returns.tail)
  | .limited (n + 1) returns => .limited n (insertMoment finish returns)

end Permits

/-- **Settled queries**: a compiled query and its call, if it has a statement. -/
structure Settled where
  name : String
  shape : Shape
  call : Option (Statement × Call)

namespace Settled

/-- The milliseconds of a query, at least one. -/
def took (s : Settled) : Nat := (s.call.map fun c => c.2.took).getD 1

/-- The message of a call that broke down. -/
def panicMessage (message : String) : String :=
  s!"task N panicked with message {Text.quoted message}"

/-- The rows of a query or its error; a query without a statement has no rows. -/
def result (s : Settled) : Except ExecutionError (List Row) :=
  match s.call with
  | none => .ok []
  | some (_, call) =>
    match call.outcome with
    | .rows rows => .ok rows
    | .error e => .error e
    | .panic message => .error (.failed (panicMessage message))

/-- **The response** of a query. -/
def response (s : Settled) : Response where
  name := s.name
  result := s.result
  took := (Duration.ofMillis s.took).inMillis
  shape := s.shape

/-- The statement is counted as executed. A call that broke down is not. -/
def executedEvents (s : Settled) : List Metrics.Event :=
  match s.call with
  | none => []
  | some (_, call) =>
    match call.outcome with
    | .panic _ => []
    | _ => [.query s.shape.label (Duration.ofMillis s.took).inMillis]

/-- The statement is counted as failed. -/
def failureEvents (s : Settled) : List Metrics.Event :=
  match s.result with
  | .ok _ => []
  | .error _ => [.queryFailure s.shape.label]

/-- What is recorded of a query. -/
def events (s : Settled) : List Metrics.Event := s.executedEvents ++ s.failureEvents

end Settled

namespace Schedule

/-- The calls of the queries that are left, with the permits that are left. -/
def runWith (limits : ExecutionLimits) (cancelAt : Option Nat) (store : Store) (begin : Nat)
    (permits : Permits) : List (String × Compiled) → Option (List Settled)
  | [] => some []
  | (name, compiled) :: r =>
    match compiled.statement with
    | none => do
      let rest ← runWith limits cancelAt store begin permits r
      pure (⟨name, compiled.shape, none⟩ :: rest)
    | some statement => do
      let call ← Call.settle limits.timeout cancelAt (permits.next begin) (store statement)
      let rest ← runWith limits cancelAt store begin (permits.occupy call.finish) r
      pure (⟨name, compiled.shape, some (statement, call)⟩ :: rest)

/-- **The calls of a batch** that begins at a given moment; none if one of them never ends. -/
def run (limits : ExecutionLimits) (cancelAt : Option Nat) (store : Store) (begin : Nat)
    (compiled : List (String × Compiled)) : Option (List Settled) :=
  runWith limits cancelAt store begin (.ofLimit limits.maxConcurrent) compiled

/-- The calls of some queries, in order. -/
def calls (settled : List Settled) : List (Statement × Call) := settled.filterMap Settled.call

/-- The moment at which the last call ends. -/
def finish (begin : Nat) (settled : List Settled) : Nat :=
  (calls settled).foldl (fun t c => max t c.2.finish) begin

/-- The milliseconds of the calls of a batch, at least one. -/
def took (begin : Nat) (settled : List Settled) : Nat := max 1 (finish begin settled - begin)

/-- The greatest number of calls that run at once. It is reached at the start of a call; `before`
are the ends of the calls that started earlier. -/
def peakAfter (before : List Nat) : List (Statement × Call) → Nat
  | [] => 0
  | c :: r =>
    max (1 + before.countP fun t => c.2.start < t) (peakAfter (c.2.finish :: before) r)

/-- The greatest number of calls that run at once. -/
def peak (settled : List Settled) : Nat := peakAfter [] (calls settled)

end Schedule

end QueryBatch
