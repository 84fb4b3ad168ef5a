import QueryBatch.Embedding.Stage

/-!
# Fetches side by side

The fetches of a batch go on side by side and take turns in any order. At its first turn a fetch
asks the service for the vector of its text. Then something ends it: the service answers, the
deadline comes, or the batch is cancelled. When all of them have ended, what they have come to is
put together in the order of the batch.

* `Fetching`: fetches that go on. `Fetching.ofWanted`: at their start.
* `Fetching.Step`: one turn. `Fetching.Run`: some turns, one after the other.
* `Fetching.stage?`: what the fetches have come to, once they have all ended.
-/

namespace QueryBatch

/-- What ends a fetch. -/
inductive FetchEnding
  /-- The service has given a vector or has failed. -/
  | answered (result : Except EmbeddingError (List Binary64))
  /-- The deadline has come. -/
  | expired
  /-- The batch is cancelled. -/
  | cancelled

/-- The result of a fetch that ends so. -/
def FetchEnding.result (timeout : Option Nat) :
    FetchEnding → Except EmbeddingError (List Binary64)
  | .answered result => result
  | .expired => .error (.timeout (.ofMillis (timeout.getD 0)))
  | .cancelled => .error .cancelled

/-- **Environments** of some fetches. Nothing has to come: a service may never answer. -/
structure FetchEnvironment where
  /-- What the service may answer to the text of the fetch at a place. -/
  answers : Nat → String → Except EmbeddingError (List Binary64) → Prop
  /-- The batch may be cancelled. -/
  cancels : Prop

/-- What fetches meet that ask a service and are cancelled at a moment, or never. -/
def FetchEnvironment.ofEmbedder (embedder : Embedder) (cancelAt : Option Nat) :
    FetchEnvironment where
  answers _ text result :=
    (embedder text).delay.isSome = true ∧ result = (embedder text).result
  cancels := cancelAt.isSome = true

/-- **The endings** that may come for a fetch; `begun` says that the service has begun with its
text. -/
inductive FetchEnvironment.MayEnd (env : FetchEnvironment) (timeout : Option Nat)
    (isCancelled : Bool) (place : Nat) (text : String) (begun : Bool) : FetchEnding → Prop
  | answered {result : Except EmbeddingError (List Binary64)} (hb : begun = true)
    (h : env.answers place text result) :
    MayEnd env timeout isCancelled place text begun (.answered result)
  | expired (h : timeout.isSome = true) :
    MayEnd env timeout isCancelled place text begun .expired
  | cancelled (h : isCancelled = true) :
    MayEnd env timeout isCancelled place text begun .cancelled

/-- **Phases** of a fetch. -/
inductive FetchPhase
  /-- It has not had a turn. -/
  | waiting
  /-- It has asked the service; `begun` says that the service has begun with its text. -/
  | running (begun : Bool)
  /-- It has ended after some milliseconds. -/
  | settled (took : Nat) (result : Except EmbeddingError (List Binary64))

/-- A fetch that goes on. -/
structure FetchTask where
  name : String
  text : String
  phase : FetchPhase

/-- What a fetch has come to, if it has ended. -/
def FetchTask.fetch? (t : FetchTask) : Option Fetch :=
  match t.phase with
  | .settled took result => some ⟨t.name, t.text, took, result⟩
  | _ => none

/-- **Fetches that go on.** -/
structure Fetching where
  tasks : List FetchTask
  isCancelled : Bool

/-- What happens at a turn, with the place of the fetch whose turn it is. -/
inductive FetchTurn
  /-- The batch is cancelled. -/
  | cancel
  /-- A fetch asks the service for the vector of a text. -/
  | ask (place : Nat) (text : String) (begun : Bool)
  /-- A fetch has ended. -/
  | finish (place : Nat) (ending : FetchEnding) (took : Nat)

namespace FetchTurn

/-- The place of the fetch whose turn it is. -/
def place? : FetchTurn → Option Nat
  | .cancel => none
  | .ask place _ _ => some place
  | .finish place _ _ => some place

/-- It is the turn of the fetch at a place. -/
def isOf (place : Nat) (t : FetchTurn) : Bool := t.place? == some place

/-- The text that the service is asked for at a turn. -/
def asked? : FetchTurn → Option String
  | .ask _ text _ => some text
  | _ => none

/-- The text that the service begins with at a turn. -/
def begun? : FetchTurn → Option String
  | .ask _ text true => some text
  | _ => none

/-- What ends a fetch at a turn. -/
def ending? : FetchTurn → Option FetchEnding
  | .finish _ ending _ => some ending
  | _ => none

end FetchTurn

namespace Fetching

/-- **The start of some fetches**, given by their names and texts. -/
def ofWanted (wanted : List (String × String)) : Fetching where
  tasks := wanted.map fun w => ⟨w.1, w.2, .waiting⟩
  isCancelled := false

def IsOver (s : Fetching) : Prop := ∀ t ∈ s.tasks, t.fetch?.isSome = true

/-- **One turn.** A fetch that is cancelled or out of time at once may end before the service has
begun with its text; this is the one way in which it asks in vain. -/
inductive Step (timeout : Option Nat) (env : FetchEnvironment) :
    Fetching → FetchTurn → Fetching → Prop
  | cancel {s : Fetching} (he : env.cancels) (hs : s.isCancelled = false) :
    Step timeout env s .cancel { s with isCancelled := true }
  | ask {s : Fetching} {place : Nat} {name text : String} {begun : Bool}
    (ht : s.tasks[place]? = some ⟨name, text, .waiting⟩)
    (hb : begun = true ∨ timeout.isSome = true ∨ s.isCancelled = true) :
    Step timeout env s (.ask place text begun)
      { s with tasks := s.tasks.set place ⟨name, text, .running begun⟩ }
  | finish {s : Fetching} {place took : Nat} {name text : String} {begun : Bool}
    {ending : FetchEnding} (ht : s.tasks[place]? = some ⟨name, text, .running begun⟩)
    (he : env.MayEnd timeout s.isCancelled place text begun ending) :
    Step timeout env s (.finish place ending took)
      { s with
        tasks := s.tasks.set place ⟨name, text, .settled took (ending.result timeout)⟩ }

/-- **Some turns**, one after the other. -/
inductive Run (timeout : Option Nat) (env : FetchEnvironment) (s : Fetching) :
    List FetchTurn → Fetching → Prop
  | nil : Run timeout env s [] s
  | snoc {turns : List FetchTurn} {turn : FetchTurn} {s' s'' : Fetching}
    (h : Run timeout env s turns s') (hs : Step timeout env s' turn s'') :
    Run timeout env s (turns ++ [turn]) s''

/-- **What the fetches have come to**, in the order of the batch, once they have all ended. -/
def stage? (s : Fetching) : Option EmbeddingStage :=
  (s.tasks.mapM FetchTask.fetch?).map fun fetches => ⟨fetches, true⟩

/-- The texts that the service is asked for by the fetch at a place. -/
def asked (place : Nat) (turns : List FetchTurn) : List String :=
  (turns.filter (FetchTurn.isOf place)).filterMap FetchTurn.asked?

/-- The texts that the service has begun with for the fetch at a place. -/
def begun (place : Nat) (turns : List FetchTurn) : List String :=
  (turns.filter (FetchTurn.isOf place)).filterMap FetchTurn.begun?

/-- All that ends the fetch at a place. -/
def endings (place : Nat) (turns : List FetchTurn) : List FetchEnding :=
  (turns.filter (FetchTurn.isOf place)).filterMap FetchTurn.ending?

end Fetching

end QueryBatch
