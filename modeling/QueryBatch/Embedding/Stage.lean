import QueryBatch.Embedding.Basic
import QueryBatch.Execution.Race
import QueryBatch.Metrics

/-!
# Fetching the vectors of a batch

Before anything is compiled, a vector is fetched for every descriptor that wants one, all at once.
A fetch has a deadline and can be cancelled. One that fails keeps its descriptor out of the batch
and concerns no other one.

* `Fetch`: one fetch and how it ended.
* `EmbeddingStage.run`: the fetches of a batch.
* `EmbeddingStage.vector?`, `EmbeddingStage.hasFailed`: what they give for a descriptor.
-/

namespace QueryBatch

/-- **Fetches**: a text under the name of its descriptor, and the result after some milliseconds. -/
structure Fetch where
  name : String
  text : String
  took : Nat
  result : Except EmbeddingError (List Binary64)

/-- **The fetches of a batch.** If there is no service to ask, they all fail without being made. -/
structure EmbeddingStage where
  fetches : List Fetch
  isAsked : Bool

/-- One fetch that starts at once; none if it never ends. -/
def Fetch.settle (embedder : Embedder) (timeout cancelAt : Option Nat) (name text : String) :
    Option Fetch :=
  let reply := embedder text
  (Race.first [
    (reply.delay, reply.result),
    (timeout, .error (.timeout (.ofMillis (timeout.getD 0)))),
    (cancelAt, .error .cancelled)]).map fun (took, result) => ⟨name, text, took, result⟩

/-- A fetch that cannot be made. -/
def Fetch.unavailable (name text : String) : Fetch := ⟨name, text, 0, .error .unavailable⟩

namespace EmbeddingStage

/-- The names and texts for which vectors are wanted. -/
def wanted (descriptors : List Descriptor) : List (String × String) :=
  descriptors.filterMap fun d => d.textToEmbed?.map fun text => (d.name, text)

/-- **The fetches of a batch**; none if one of them never ends. -/
def run (embedder : Option Embedder) (timeout cancelAt : Option Nat)
    (descriptors : List Descriptor) : Option EmbeddingStage :=
  match embedder with
  | none => some ⟨(wanted descriptors).map fun w => .unavailable w.1 w.2, false⟩
  | some e => do
    let fetches ← (wanted descriptors).mapM fun w => Fetch.settle e timeout cancelAt w.1 w.2
    pure ⟨fetches, true⟩

/-- The failure of a fetch, under its name. -/
def failureOf (f : Fetch) : Option (String × EmbeddingError) :=
  match f.result with
  | .ok _ => none
  | .error e => some (f.name, e)

/-- The failures in the order of the batch. -/
def failures (s : EmbeddingStage) : List (String × EmbeddingError) := s.fetches.filterMap failureOf

/-- The fetch for a descriptor failed. -/
def hasFailed (s : EmbeddingStage) (name : String) : Bool := s.failures.any fun f => f.1 == name

/-- The vector of a fetch with a name. -/
def vectorOf (name : String) (f : Fetch) : Option (List Binary64) :=
  match f.result with
  | .ok v => if f.name = name then some v else none
  | .error _ => none

/-- The vector that was fetched for a descriptor; of several the last. -/
def vector? (s : EmbeddingStage) (name : String) : Option (List Binary64) :=
  s.fetches.reverse.findSome? (vectorOf name)

/-- The milliseconds until the last fetch ended. -/
def took (s : EmbeddingStage) : Nat := s.fetches.foldl (fun t f => max t f.took) 0

/-- What is recorded of a fetch. -/
def eventOf (f : Fetch) : Metrics.Event :=
  .embedding (Duration.ofMillis f.took).inMillis f.result.isOk

/-- What is recorded of the fetches that were made. -/
def events (s : EmbeddingStage) : List Metrics.Event :=
  if s.isAsked then s.fetches.map eventOf else []

/-- The texts for which the service was asked. -/
def askedTexts (s : EmbeddingStage) : List String :=
  if s.isAsked then s.fetches.map Fetch.text else []

end EmbeddingStage

end QueryBatch
