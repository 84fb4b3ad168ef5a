import QueryBatch.Execution.Schedule

/-!
# Tasks

Each query of a batch is a task of its own. The tasks take turns in any order: a task that has a
statement waits for a permit, its call starts, something ends the call, and the permit is given
back whatever that was. A task without a statement is over at its first turn. What the queries are
called is kept apart from the tasks and put together with their calls by place.

* `Tasks`: a batch that is being run. `Tasks.ofBatch`: at its start.
* `Tasks.Step`: one turn. `Tasks.Run`: some turns, one after the other.
* `Tasks.settled?`: the settled queries, once all tasks are over.
-/

namespace QueryBatch

/-- What ends a call. -/
inductive Ending
  /-- The store has answered, or has broken down. -/
  | answered (outcome : Outcome)
  /-- The deadline has come. -/
  | expired
  /-- The batch is cancelled. -/
  | cancelled

/-- The outcome of a call that ends so. -/
def Ending.outcome (timeout : Option Nat) : Ending → Outcome
  | .answered outcome => outcome
  | .expired => timedOut timeout
  | .cancelled => .error .cancelled

/-- **Environments** of a batch. Nothing has to come: a store may never answer. -/
structure Environment where
  /-- What the store may answer to the statement of the query at a place. -/
  answers : Nat → Statement → Outcome → Prop
  /-- The batch may be cancelled. -/
  cancels : Prop

/-- What a batch meets that is run on a store and cancelled at a moment, or never. -/
def Environment.ofStore (store : Store) (cancelAt : Option Nat) : Environment where
  answers _ statement outcome :=
    (store statement).delay.isSome = true ∧ outcome = (store statement).outcome
  cancels := cancelAt.isSome = true

/-- **The endings** that may come for a call; `asked` says that the store has the statement. -/
inductive Environment.MayEnd (env : Environment) (limits : ExecutionLimits) (isCancelled : Bool)
    (place : Nat) (statement : Statement) (asked : Bool) : Ending → Prop
  | answered {outcome : Outcome} (ha : asked = true) (h : env.answers place statement outcome) :
    MayEnd env limits isCancelled place statement asked (.answered outcome)
  | expired (h : limits.timeout.isSome = true) :
    MayEnd env limits isCancelled place statement asked .expired
  | cancelled (h : isCancelled = true) :
    MayEnd env limits isCancelled place statement asked .cancelled

/-- **Phases** of a task. -/
inductive Phase
  /-- It has no permit. -/
  | waiting
  /-- It has a permit, and its call has started; `asked` says that the store has the statement. -/
  | running (start : Nat) (asked : Bool)
  /-- It is over. -/
  | settled (call : Option (Statement × Call))

/-- The task has a permit, if permits are limited. -/
def Phase.isRunning : Phase → Bool
  | .running _ _ => true
  | _ => false

structure Task where
  statement : Option Statement
  phase : Phase

/-- The call of a task that is over, if it had a statement. -/
def Task.call? (t : Task) : Option (Option (Statement × Call)) :=
  match t.phase with
  | .settled call => some call
  | _ => none

theorem Task.call?_eq_some_iff {t : Task} {call : Option (Statement × Call)} :
    t.call? = some call ↔ t.phase = .settled call := by
  unfold call?
  cases t.phase <;> simp

/-- **Batches that are being run.** -/
structure Tasks where
  /-- The names and shapes of the queries. -/
  labels : List (String × Shape)
  tasks : List Task
  /-- The permits that are free, if they are limited. -/
  free : Option Nat
  isCancelled : Bool
  clock : Nat

/-- What happens at a turn, with the place of the task whose turn it is. -/
inductive Turn
  /-- The batch is cancelled. -/
  | cancel
  /-- A task without a statement is over. -/
  | skip (place : Nat)
  /-- A task has a permit; if it is `asked`, the store has its statement. -/
  | start (place : Nat) (statement : Statement) (asked : Bool) (moment : Nat)
  /-- A call has ended. -/
  | finish (place : Nat) (ending : Ending) (moment : Nat)

/-- The place of the task whose turn it is. -/
def Turn.place? : Turn → Option Nat
  | .cancel => none
  | .skip place => some place
  | .start place _ _ _ => some place
  | .finish place _ _ => some place

/-- It is the turn of the task at a place. -/
def Turn.isOf (place : Nat) (t : Turn) : Bool := t.place? == some place

/-- The statement that the store gets at a turn. -/
def Turn.asked? : Turn → Option Statement
  | .start _ statement true _ => some statement
  | _ => none

namespace Tasks

/-- **The start of a batch.** There is at least one permit. -/
def ofBatch (limits : ExecutionLimits) (begin : Nat) (compiled : List (String × Compiled)) :
    Tasks where
  labels := compiled.map fun c => (c.1, c.2.shape)
  tasks := compiled.map fun c => ⟨c.2.statement, .waiting⟩
  free := limits.maxConcurrent.map fun n => max n 1
  isCancelled := false
  clock := begin

/-- The number of tasks that have a permit. -/
def running (s : Tasks) : Nat := s.tasks.countP fun t => t.phase.isRunning

def IsOver (s : Tasks) : Prop := ∀ t ∈ s.tasks, t.call?.isSome = true

/-- **One turn.** A call that is cancelled or out of time at once may end before the store has its
statement; this is the one way in which a call starts without asking. -/
inductive Step (limits : ExecutionLimits) (env : Environment) : Tasks → Turn → Tasks → Prop
  | cancel {s : Tasks} (he : env.cancels) (hs : s.isCancelled = false) :
    Step limits env s .cancel { s with isCancelled := true }
  | skip {s : Tasks} {place : Nat} (ht : s.tasks[place]? = some ⟨none, .waiting⟩) :
    Step limits env s (.skip place) { s with tasks := s.tasks.set place ⟨none, .settled none⟩ }
  | start {s : Tasks} {place moment : Nat} {statement : Statement} {asked : Bool}
    (ht : s.tasks[place]? = some ⟨some statement, .waiting⟩) (hp : s.free ≠ some 0)
    (ha : asked = true ∨ limits.timeout.isSome = true ∨ s.isCancelled = true)
    (hm : s.clock ≤ moment) :
    Step limits env s (.start place statement asked moment)
      { s with
        tasks := s.tasks.set place ⟨some statement, .running moment asked⟩
        free := s.free.map (· - 1)
        clock := moment }
  | finish {s : Tasks} {place start moment : Nat} {statement : Statement} {asked : Bool}
    {ending : Ending} (ht : s.tasks[place]? = some ⟨some statement, .running start asked⟩)
    (he : env.MayEnd limits s.isCancelled place statement asked ending) (hm : s.clock ≤ moment) :
    Step limits env s (.finish place ending moment)
      { s with
        tasks := s.tasks.set place ⟨some statement,
          .settled (some (statement, ⟨start, moment, ending.outcome limits.timeout⟩))⟩
        free := s.free.map (· + 1)
        clock := moment }

/-- **Some turns**, one after the other. -/
inductive Run (limits : ExecutionLimits) (env : Environment) (s : Tasks) : List Turn → Tasks → Prop
  | nil : Run limits env s [] s
  | snoc {turns : List Turn} {turn : Turn} {s' s'' : Tasks} (h : Run limits env s turns s')
    (hs : Step limits env s' turn s'') : Run limits env s (turns ++ [turn]) s''

/-- **The settled queries**, in the order of the batch, once all tasks are over. -/
def settled? (s : Tasks) : Option (List Settled) :=
  (s.tasks.mapM Task.call?).map fun calls =>
    List.zipWith (fun label call => ⟨label.1, label.2, call⟩) s.labels calls

/-- The responses to a batch, once all tasks are over. -/
def responses? (s : Tasks) : Option (List Response) :=
  s.settled?.map fun settled => settled.map Settled.response

/-- The statements that the store gets from the task at a place. -/
def asked (place : Nat) (turns : List Turn) : List Statement :=
  (turns.filter (Turn.isOf place)).filterMap Turn.asked?

end Tasks

end QueryBatch
