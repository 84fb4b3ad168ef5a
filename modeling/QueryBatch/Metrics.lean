import QueryBatch.Keyed
import QueryBatch.Number.Binary64

/-!
# Metrics

What is counted and measured while batches are served. An event is recorded when it happens; the
metrics are the totals of the counters and the recorded values of the histograms, under the name
of the metric and its label.

* `Metrics.Event`: what is recorded.
* `Metrics.ofEvents`: the metrics after some events.
-/

namespace QueryBatch.Metrics

/-- **Events.** -/
inductive Event
  /-- A statement ended after some milliseconds. -/
  | query (label : String) (millis : Binary64)
  /-- A statement failed, timed out or was cancelled. -/
  | queryFailure (label : String)
  /-- A batch with some statements ended after some milliseconds. -/
  | batch (millis : Binary64) (queries : Nat)
  /-- A vector was fetched, or could not be. -/
  | embedding (millis : Binary64) (success : Bool)
  /-- A batch was rejected. -/
  | rejection
deriving DecidableEq, Inhabited

/-- What an event does to one metric. -/
inductive Change
  | count
  | observe (value : Binary64)

/-- The name of a metric with a label. -/
def labelled (name label value : String) : String :=
  name ++ "\x7b" ++ label ++ "=" ++ value ++ "\x7d"

def outcome (success : Bool) : String := if success then "ok" else "error"

/-- The metrics that an event changes. -/
def Event.changes : Event → List (String × Change)
  | .query label millis => [
      (labelled "reactivesql.query.executed" "kind" label, .count),
      (labelled "reactivesql.query.duration_ms" "kind" label, .observe millis)]
  | .queryFailure label => [(labelled "reactivesql.query.failed" "kind" label, .count)]
  | .batch millis queries => [
      ("reactivesql.batch.executed", .count),
      ("reactivesql.batch.duration_ms", .observe millis),
      ("reactivesql.batch.queries", .observe (.ofNat queries))]
  | .embedding millis success => [
      (labelled "reactivesql.embedding.requests" "outcome" (outcome success), .count),
      ("reactivesql.embedding.duration_ms", .observe millis)]
  | .rejection => [("reactivesql.validation.rejected", .count)]

/-- The state of one metric: how often it was counted, or which values were observed, in ascending
order. -/
inductive Metric
  | counter (total : Nat)
  | histogram (values : List Binary64)
deriving DecidableEq, Inhabited

/-- Puts a value in its place in an ascending list. -/
def insertValue (x : Binary64) : List Binary64 → List Binary64
  | [] => [x]
  | y :: r => if x.le y then x :: y :: r else y :: insertValue x r

/-- One metric after a change. -/
def Change.apply (change : Change) (metric : Option Metric) : Metric :=
  match change, metric with
  | .count, some (.counter n) => .counter (n + 1)
  | .count, _ => .counter 1
  | .observe x, some (.histogram l) => .histogram (insertValue x l)
  | .observe x, _ => .histogram [x]

/-- All metrics after a change to one of them. -/
def apply (metrics : Keyed Metric) (change : String × Change) : Keyed Metric :=
  metrics.insert change.1 (change.2.apply (metrics.get? change.1))

/-- **The metrics after some events.** A metric that was never changed is absent. -/
def ofEvents (events : List Event) : Keyed Metric :=
  (events.flatMap Event.changes).foldl apply []

end QueryBatch.Metrics
