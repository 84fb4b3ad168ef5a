import QueryBatch.Execution.Tasks

/-!
# Tasks on time

The turns of a batch come in any order, but not at any moment. A call ends as soon as it is due:
with the answer of the store, at its deadline or at the cancellation, whichever comes first, and if
several come at once with any of them. A task that waits for a permit takes one as soon as one is
free. Time passes only while nothing else can happen.

* `Due`: when a call is due to end, and how. `Call.IsPrompt`: a call that ended when it was.
* `Tasks.Until`: time may go on until a moment. `Tasks.OnTime`: a turn comes on time.
* `Tasks.TimedRun`: some turns, each of them on time.
-/

namespace QueryBatch

/-- **When a call is due to end**, and how. -/
inductive Due (timeout cancelAt : Option Nat) (reply : Reply) (start : Nat) : Ending → Nat → Prop
  | answered {delay : Nat} (h : reply.delay = some delay) :
    Due timeout cancelAt reply start (.answered reply.outcome) (start + delay)
  | expired {allowed : Nat} (h : timeout = some allowed) :
    Due timeout cancelAt reply start .expired (start + allowed)
  /-- A cancellation that came before the call ends it at its start. -/
  | cancelled {moment : Nat} (h : cancelAt = some moment) :
    Due timeout cancelAt reply start .cancelled (max start moment)

/-- **Prompt calls**: those that ended at the first moment at which they were due. -/
structure Call.IsPrompt (timeout cancelAt : Option Nat) (reply : Reply) (c : Call) : Prop where
  due : ∃ ending, Due timeout cancelAt reply c.start ending c.finish ∧
    c.outcome = ending.outcome timeout
  first : ∀ ending moment, Due timeout cancelAt reply c.start ending moment → c.finish ≤ moment

/-- **What a batch meets** whose stores answer place by place, and that is cancelled at a moment, or
never. -/
def Environment.ofReplies (replies : Nat → Store) (cancelAt : Option Nat) : Environment where
  answers place statement outcome :=
    (replies place statement).delay.isSome = true ∧ outcome = (replies place statement).outcome
  cancels := cancelAt.isSome = true

namespace Tasks

/-- A task waits for a permit. -/
def IsQueued (s : Tasks) : Prop := ∃ t ∈ s.tasks, t.phase = .waiting ∧ t.statement.isSome = true

/-- **Time may go on until a moment**: no call is due before it, and if time passes at all, then no
task waits for a permit that is free. -/
structure Until (limits : ExecutionLimits) (replies : Nat → Store) (cancelAt : Option Nat)
    (s : Tasks) (moment : Nat) : Prop where
  due : ∀ (place : Nat) statement start asked,
    s.tasks[place]? = some ⟨some statement, .running start asked⟩ →
    ∀ ending m, Due limits.timeout cancelAt (replies place statement) start ending m → moment ≤ m
  busy : s.clock < moment → s.IsQueued → s.free = some 0

/-- **A turn comes on time.** A call starts without asking the store only if it is due at once in
another way. -/
inductive OnTime (limits : ExecutionLimits) (replies : Nat → Store) (cancelAt : Option Nat)
    (s : Tasks) : Turn → Prop
  | cancel {moment : Nat} (hc : cancelAt = some moment)
    (hu : s.Until limits replies cancelAt moment) : OnTime limits replies cancelAt s .cancel
  | skip {place : Nat} : OnTime limits replies cancelAt s (.skip place)
  | start {place : Nat} {statement : Statement} {asked : Bool}
    (ha : asked = true ∨ ∃ ending, (∀ outcome, ending ≠ .answered outcome) ∧
      Due limits.timeout cancelAt (replies place statement) s.clock ending s.clock) :
    OnTime limits replies cancelAt s (.start place statement asked s.clock)
  | finish {place start moment : Nat} {statement : Statement} {asked : Bool} {ending : Ending}
    (ht : s.tasks[place]? = some ⟨some statement, .running start asked⟩)
    (hd : Due limits.timeout cancelAt (replies place statement) start ending moment)
    (hu : s.Until limits replies cancelAt moment) :
    OnTime limits replies cancelAt s (.finish place ending moment)

/-- **Some turns**, one after the other, each of them on time. -/
inductive TimedRun (limits : ExecutionLimits) (replies : Nat → Store) (cancelAt : Option Nat)
    (s : Tasks) : List Turn → Tasks → Prop
  | nil : TimedRun limits replies cancelAt s [] s
  | snoc {turns : List Turn} {turn : Turn} {s' s'' : Tasks}
    (h : TimedRun limits replies cancelAt s turns s')
    (hs : Step limits (.ofReplies replies cancelAt) s' turn s'')
    (ht : s'.OnTime limits replies cancelAt turn) :
    TimedRun limits replies cancelAt s (turns ++ [turn]) s''

end Tasks

end QueryBatch
